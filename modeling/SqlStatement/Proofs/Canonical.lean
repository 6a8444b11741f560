import SqlStatement.Proofs.Reach
import SqlStatement.Proofs.Spelling
import SqlStatement.Tree.Equality
import Mathlib.Tactic

/-!
# Canonical forms

Trees that are equal need not be the same tree.  Equality does not see how a
name is to be quoted, which table stands behind an alias, and the sign of a
zero.  The canonical form of a tree is the tree without these, and two trees
that equal themselves are equal exactly if they have the same one.  A tree that
does not equal itself, because of a float that is no number in it, equals
nothing.
-/

namespace SqlStatement

namespace Table

def canonical (table : Table) : Table :=
  match table.aliasName? with
  | none => ⟨table.name.bare, none⟩
  | some aliasName => ⟨aliasName.bare, some aliasName.bare⟩

theorem reference_canonical (table : Table) :
    table.canonical.reference = table.reference.bare := by
  obtain ⟨name, _ | aliasName⟩ := table <;> rfl

theorem beq_iff_canonical (first second : Table) :
    (first == second) = true ↔ first.canonical = second.canonical := by
  rw [beq_iff_hashKey]
  obtain ⟨name, _ | aliasName⟩ := first <;>
    obtain ⟨name', _ | aliasName'⟩ := second <;>
    simp [canonical, hashKey, reference, Identifier.hashKey,
      Identifier.bare_eq_bare_iff]

end Table

theorem Identifier.beq_iff_bare (first second : Identifier) :
    (first == second) = true ↔ first.bare = second.bare := by
  rw [beq_iff_hashKey, bare_eq_bare_iff]
  rfl

namespace Column

def canonical (column : Column) : Column :=
  ⟨column.table.canonical, column.name.bare⟩

theorem beq_iff_canonical (first second : Column) :
    (first == second) = true ↔ first.canonical = second.canonical := by
  change (first.name == second.name && first.table == second.table) = true ↔ _
  rw [Bool.and_eq_true, Identifier.beq_iff_bare, Table.beq_iff_canonical,
    canonical, canonical, Column.mk.injEq, and_comm]

end Column

/-! ## Literals -/

namespace Binary64

def zero : Binary64 :=
  ⟨0⟩

def canonical (value : Binary64) : Binary64 :=
  if value.isZero then zero else value

theorem isFinite_canonical (value : Binary64) :
    value.canonical.isFinite = value.isFinite := by
  unfold canonical
  split
  next hzero =>
    have hexponent : value.exponentField = 0 := by
      simp only [isZero, Bool.and_eq_true, beq_iff_eq] at hzero
      exact hzero.1
    simp only [isFinite, hexponent]
    rfl
  next => rfl

theorem canonical_eq_self {value : Binary64} (h : value.isFinite = false) :
    value.canonical = value := by
  apply if_neg
  intro hzero
  simp only [isZero, isFinite, Bool.and_eq_true, beq_iff_eq] at hzero h
  simp [hzero.1] at h

theorem canonical_eq_iff (first second : Binary64) :
    first.canonical = second.canonical ↔
      first.bits = second.bits ∨
        (first.isZero = true ∧ second.isZero = true) := by
  have hzero : zero.isZero = true := by decide
  obtain ⟨bits⟩ := first
  obtain ⟨bits'⟩ := second
  unfold canonical
  split
  next hfirst =>
    split
    next hsecond => simp [hfirst, hsecond]
    next hsecond => grind
  next hfirst => grind

theorem equalByKey (value : Binary64) : EqualByKey canonical value := by
  intro other
  change Binary64.beq value other = true ↔ Binary64.beq value value = true ∧
    Binary64.beq other other = true ∧ _
  rw [canonical_eq_iff]
  simp [Binary64.beq]
  tauto

end Binary64

namespace Literal

def canonical : Literal → Literal
  | float value => float value.canonical
  | value => value

theorem equalByKey (value : Literal) : EqualByKey canonical value := by
  intro other
  change Literal.beq value other = true ↔ Literal.beq value value = true ∧
    Literal.beq other other = true ∧ _
  cases value with
  | float value =>
      cases other with
      | float other =>
          simpa [Literal.beq, canonical] using value.equalByKey other
      | _ => simp [Literal.beq, canonical]
  | _ => cases other <;> simp [Literal.beq, canonical]

end Literal

/-! ## Trees -/

mutual

def Expr.canonical : Expr → Expr
  | .column column => .column column.canonical
  | .raw text => .raw text
  | .asterisk table => .asterisk (table.map Table.canonical)
  | .subSelect select => .subSelect select.canonical
  | .literal value => .literal value.canonical
  | .bind name => .bind (name.map Identifier.bare)
  | .function name args => .function name (Expr.listCanonical args)

def Expr.listCanonical : List Expr → List Expr
  | [] => []
  | expr :: exprs => expr.canonical :: Expr.listCanonical exprs

def Condition.canonical : Condition → Condition
  | .comparison left comparator right =>
      .comparison left.canonical comparator right.canonical
  | .like left right => .like left.canonical right.canonical
  | .inList left args negated =>
      .inList left.canonical (Expr.listCanonical args) negated
  | .isNull operand negated => .isNull operand.canonical negated
  | .nested inner => .nested inner.canonical
  | .raw text => .raw text
  | .and left right => .and left.canonical right.canonical
  | .or left right => .or left.canonical right.canonical
  | .not inner => .not inner.canonical

def Condition.optionCanonical : Option Condition → Option Condition
  | none => none
  | some condition => some condition.canonical

def OrderField.canonical : OrderField → OrderField
  | ⟨expr, direction, nulls⟩ => ⟨expr.canonical, direction, nulls⟩

def OrderField.listCanonical : List OrderField → List OrderField
  | [] => []
  | field :: fields => field.canonical :: OrderField.listCanonical fields

def Join.canonical : Join → Join
  | ⟨kind, table, on⟩ => ⟨kind, table.canonical, on.canonical⟩

def Join.listCanonical : List Join → List Join
  | [] => []
  | join :: joins => join.canonical :: Join.listCanonical joins

def Select.canonical : Select → Select
  | ⟨distinct, items, tables, joins, filter, order, limit, offset⟩ =>
      ⟨distinct, Expr.listCanonical items, tables.map Table.canonical,
        Join.listCanonical joins, Condition.optionCanonical filter,
        OrderField.listCanonical order, limit, offset⟩

end

theorem Expr.listCanonical_eq_map (exprs : List Expr) :
    Expr.listCanonical exprs = exprs.map Expr.canonical :=
  eq_map_of_cons Expr.listCanonical rfl (fun _ _ => rfl) exprs

theorem OrderField.listCanonical_eq_map (fields : List OrderField) :
    OrderField.listCanonical fields = fields.map OrderField.canonical :=
  eq_map_of_cons OrderField.listCanonical rfl (fun _ _ => rfl) fields

theorem Join.listCanonical_eq_map (joins : List Join) :
    Join.listCanonical joins = joins.map Join.canonical :=
  eq_map_of_cons Join.listCanonical rfl (fun _ _ => rfl) joins

theorem Condition.optionCanonical_eq_map (filter : Option Condition) :
    Condition.optionCanonical filter = filter.map Condition.canonical :=
  eq_map_of_some Condition.optionCanonical rfl (fun _ => rfl) filter

/-! ## Equality by canonical forms -/

theorem Table.equalByKey : ∀ table : Table, EqualByKey canonical table :=
  equalByKey_of_key beq_iff_canonical

theorem Column.equalByKey : ∀ column : Column, EqualByKey canonical column :=
  equalByKey_of_key beq_iff_canonical

theorem Identifier.equalByKey : ∀ name : Identifier, EqualByKey bare name :=
  equalByKey_of_key beq_iff_bare

/-- The canonical form of what a node holds decides what it equals. -/
def Node.EqualByForm : Node → Prop
  | select s => EqualByKey Select.canonical s
  | items es => EqualByKey (List.map Expr.canonical) es
  | tables ts => EqualByKey (List.map Table.canonical) ts
  | join j => EqualByKey Join.canonical j
  | filter c => EqualByKey Condition.canonical c
  | order fs => EqualByKey (List.map OrderField.canonical) fs
  | orderField f => EqualByKey OrderField.canonical f
  | table t => EqualByKey Table.canonical t
  | expr e => EqualByKey Expr.canonical e
  | condition c => EqualByKey Condition.canonical c

theorem Expr.equalByKey_of_children {expr : Expr}
    (h : ∀ child ∈ Node.childrenOfExpr expr, child.EqualByForm) :
    EqualByKey canonical expr := by
  intro other
  change Expr.beq expr other = true ↔
    Expr.beq expr expr = true ∧ Expr.beq other other = true ∧ _
  cases expr <;> cases other
  case column.column column column' =>
    simp only [Expr.beq, canonical, Expr.column.injEq]
    exact column.equalByKey column'
  case raw.raw text text' => simp [Expr.beq, canonical]
  case asterisk.asterisk table table' =>
    simp only [Expr.beq, canonical, asterisk.injEq]
    exact EqualByKey.option (fun t _ => t.equalByKey) table'
  case subSelect.subSelect select select' =>
    simp only [Expr.beq, canonical, subSelect.injEq]
    exact h (.select select) List.mem_cons_self select'
  case literal.literal value value' =>
    simp only [Expr.beq, canonical, literal.injEq]
    exact value.equalByKey value'
  case bind.bind name name' =>
    simp only [Expr.beq, canonical, bind.injEq]
    exact EqualByKey.option (fun n _ => n.equalByKey) name'
  case function.function name args name' args' =>
    have hargs : EqualByKey (List.map canonical) args :=
      EqualByKey.list fun arg hmem => h (.expr arg) (List.mem_map_of_mem hmem)
    simp only [Expr.beq, canonical, Bool.and_eq_true, beqList_eq_beq,
      listCanonical_eq_map, function.injEq]
    exact equalByKey_and (equalByKey_id name name') (hargs args')
  -- Expressions of two kinds.
  all_goals
    simp only [Expr.beq, canonical, Bool.false_eq_true, reduceCtorEq, and_false]

theorem Condition.equalByKey_of_children {condition : Condition}
    (h : ∀ child ∈ Node.childrenOfCondition condition, child.EqualByForm) :
    EqualByKey canonical condition := by
  have hexpr : ∀ e, .expr e ∈ Node.childrenOfCondition condition →
      EqualByKey Expr.canonical e := fun e hmem => h (.expr e) hmem
  have hinner : ∀ c, .condition c ∈ Node.childrenOfCondition condition →
      EqualByKey canonical c := fun c hmem => h (.condition c) hmem
  intro other
  change Condition.beq condition other = true ↔
    Condition.beq condition condition = true ∧
      Condition.beq other other = true ∧ _
  cases condition <;> cases other
  case comparison.comparison left comparator right left' comparator' right' =>
    have hleft := hexpr left (by simp [Node.childrenOfCondition])
    have hright := hexpr right (by simp [Node.childrenOfCondition])
    have hcomparator := equalByKey_id comparator comparator'
    simp only [Condition.beq, canonical, Bool.and_assoc, Bool.and_eq_true,
      comparison.injEq]
    exact equalByKey_and (hleft left')
      (equalByKey_and hcomparator (hright right'))
  case like.like left right left' right' =>
    have hleft := hexpr left (by simp [Node.childrenOfCondition])
    have hright := hexpr right (by simp [Node.childrenOfCondition])
    simp only [Condition.beq, canonical, Bool.and_eq_true, like.injEq]
    exact equalByKey_and (hleft left') (hright right')
  case inList.inList left args negated left' args' negated' =>
    have hleft := hexpr left List.mem_cons_self
    have hargs : EqualByKey (List.map Expr.canonical) args :=
      EqualByKey.list fun arg hmem => hexpr arg
        (List.mem_cons_of_mem _ (List.mem_map_of_mem hmem))
    have hnegated := equalByKey_id negated negated'
    simp only [Condition.beq, canonical, Expr.beqList_eq_beq,
      Expr.listCanonical_eq_map, Bool.and_assoc, Bool.and_eq_true, inList.injEq]
    exact equalByKey_and (hleft left') (equalByKey_and (hargs args') hnegated)
  case isNull.isNull operand negated operand' negated' =>
    have hoperand := hexpr operand List.mem_cons_self
    simp only [Condition.beq, canonical, Bool.and_eq_true, isNull.injEq]
    exact equalByKey_and (hoperand operand') (equalByKey_id negated negated')
  case nested.nested inner inner' =>
    simp only [Condition.beq, canonical, nested.injEq]
    exact hinner inner List.mem_cons_self inner'
  case raw.raw text text' => simp [Condition.beq, canonical]
  case and.and left right left' right' =>
    have hleft := hinner left (by simp [Node.childrenOfCondition])
    have hright := hinner right (by simp [Node.childrenOfCondition])
    simp only [Condition.beq, canonical, Bool.and_eq_true, and.injEq]
    exact equalByKey_and (hleft left') (hright right')
  case or.or left right left' right' =>
    have hleft := hinner left (by simp [Node.childrenOfCondition])
    have hright := hinner right (by simp [Node.childrenOfCondition])
    simp only [Condition.beq, canonical, Bool.and_eq_true, or.injEq]
    exact equalByKey_and (hleft left') (hright right')
  case not.not inner inner' =>
    simp only [Condition.beq, canonical, not.injEq]
    exact hinner inner List.mem_cons_self inner'
  -- Conditions of two kinds.
  all_goals
    simp only [Condition.beq, canonical, Bool.false_eq_true, reduceCtorEq,
      and_false]

theorem OrderField.equalByKey_of_expr {field : OrderField}
    (h : EqualByKey Expr.canonical field.expr) :
    EqualByKey canonical field := by
  intro other
  obtain ⟨expr, direction, nulls⟩ := field
  obtain ⟨expr', direction', nulls'⟩ := other
  change OrderField.beq _ _ = true ↔
    OrderField.beq _ _ = true ∧ OrderField.beq _ _ = true ∧ _
  simp only [OrderField.beq, canonical, Bool.and_assoc, Bool.and_eq_true,
    mk.injEq]
  exact equalByKey_and (h expr') (equalByKey_and
    (equalByKey_id direction direction') (equalByKey_id nulls nulls'))

theorem Join.equalByKey_of_on {join : Join}
    (h : EqualByKey Condition.canonical join.on) :
    EqualByKey canonical join := by
  intro other
  obtain ⟨kind, table, on⟩ := join
  obtain ⟨kind', table', on'⟩ := other
  change Join.beq _ _ = true ↔ Join.beq _ _ = true ∧ Join.beq _ _ = true ∧ _
  simp only [Join.beq, canonical, Bool.and_assoc, Bool.and_eq_true, mk.injEq]
  exact equalByKey_and (equalByKey_id kind kind')
    (equalByKey_and (table.equalByKey table') (h on'))

theorem Select.equalByKey_of_children {select : Select}
    (h : ∀ child ∈ (Node.select select).children, child.EqualByForm) :
    EqualByKey canonical select := by
  have hitems : EqualByKey (List.map Expr.canonical) select.items :=
    h (.items select.items) (by simp [Node.children])
  have htables : EqualByKey (List.map Table.canonical) select.tables :=
    h (.tables select.tables) (by simp [Node.children])
  have hjoins : EqualByKey (List.map Join.canonical) select.joins :=
    EqualByKey.list fun join hmem => h (.join join) (join_mem_children hmem)
  have hfilter : EqualByKey (Option.map Condition.canonical) select.filter :=
    EqualByKey.option fun condition hmem =>
      h (.filter condition) (filter_mem_children hmem)
  have horder : EqualByKey (List.map OrderField.canonical) select.order := by
    by_cases hempty : select.order = []
    · rw [hempty]
      exact EqualByKey.list fun _ hmem => absurd hmem List.not_mem_nil
    · exact h (.order select.order) (by simp [Node.children, hempty])
  intro other
  obtain ⟨distinct, items, tables, joins, filter, order, limit, offset⟩ :=
    select
  obtain ⟨distinct', items', tables', joins', filter', order', limit',
    offset'⟩ := other
  simp only [beq_eq, canonical, Expr.listCanonical_eq_map,
    Join.listCanonical_eq_map, Condition.optionCanonical_eq_map,
    OrderField.listCanonical_eq_map, Bool.and_assoc, Bool.and_eq_true, mk.injEq]
  have hpaging := equalByKey_and (equalByKey_id limit limit')
    (equalByKey_id offset offset')
  exact equalByKey_and (equalByKey_id distinct distinct') <|
    equalByKey_and (hitems items') <| equalByKey_and (htables tables') <|
    equalByKey_and (hjoins joins') <| equalByKey_and (hfilter filter') <|
    equalByKey_and (horder order') hpaging

theorem Node.equalByForm (node : Node) : node.EqualByForm := by
  induction node using Node.inductionOn with
  | step node ih =>
      cases node with
      | select select => exact Select.equalByKey_of_children ih
      | items exprs =>
          exact EqualByKey.list fun expr hmem =>
            ih (.expr expr) (List.mem_map_of_mem hmem)
      | tables tables => exact EqualByKey.list fun table _ => table.equalByKey
      | join join => exact Join.equalByKey_of_on (ih (.condition join.on)
          (by simp [children]))
      | filter condition =>
          exact ih (.condition condition) List.mem_cons_self
      | order fields =>
          exact EqualByKey.list fun field hmem =>
            ih (.orderField field) (List.mem_map_of_mem hmem)
      | orderField field =>
          exact OrderField.equalByKey_of_expr
            (ih (.expr field.expr) List.mem_cons_self)
      | table table => exact table.equalByKey
      | expr expr => exact Expr.equalByKey_of_children ih
      | condition condition => exact Condition.equalByKey_of_children ih

theorem Expr.equalByKey (expr : Expr) : EqualByKey canonical expr :=
  Node.equalByForm (.expr expr)

theorem Condition.equalByKey (condition : Condition) :
    EqualByKey canonical condition :=
  Node.equalByForm (.condition condition)

theorem Select.equalByKey (select : Select) : EqualByKey canonical select :=
  Node.equalByForm (.select select)

instance : PartialEquivBEq Expr :=
  partialEquivBEq_of_equalByKey Expr.canonical Expr.equalByKey

instance : PartialEquivBEq Condition :=
  partialEquivBEq_of_equalByKey Condition.canonical Condition.equalByKey

instance : PartialEquivBEq Select :=
  partialEquivBEq_of_equalByKey Select.canonical Select.equalByKey

end SqlStatement
