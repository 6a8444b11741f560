import SqlStatement.Proofs.Spelling
import Mathlib.Tactic

/-!
# Normal forms

The normal form of a statement is what can be read back from its text.  It does
not tell how names were declared to be quoted, which table stood behind a
reference, whether a condition was put into parentheses on purpose, how a chain
of AND or of OR was grouped, and which of two pagings was meant that a dialect
writes alike.  It tells everything else.
-/

namespace SqlStatement

namespace Table

def normal (table : Table) : Table :=
  ⟨table.name.bare, table.aliasName?.map Identifier.bare⟩

/-- The table as it is known from a reference to it. -/
def referred (table : Table) : Table :=
  ⟨table.reference.bare, none⟩

end Table

def Column.normal (column : Column) : Column :=
  ⟨column.table.referred, column.name.bare⟩

/-- What is written where a dialect has no words for an offset or a limit
alone. -/
def Dialect.Known.normalPaging :
    Known → Option UInt64 → Option UInt64 → Option UInt64 × Option UInt64
  | .mysql, none, some offset => (some 18446744073709551615, some offset)
  | .sqlServer, some limit, none => (some limit, some 0)
  | _, limit, offset => (limit, offset)

/-! ## Chains -/

namespace Condition

/-- The two in one chain of AND that is grouped to the right. -/
def conjoin : Condition → Condition → Condition
  | and first rest, other => and first (conjoin rest other)
  | first, other => and first other

/-- The two in one chain of OR that is grouped to the right. -/
def disjoin : Condition → Condition → Condition
  | or first rest, other => or first (disjoin rest other)
  | first, other => or first other

theorem conjoin_assoc (first second third : Condition) :
    conjoin (conjoin first second) third =
      conjoin first (conjoin second third) := by
  induction first using Condition.inductionOn with
  | and left right _ ih => exact congrArg (and left) ih
  | _ => rfl

theorem disjoin_assoc (first second third : Condition) :
    disjoin (disjoin first second) third =
      disjoin first (disjoin second third) := by
  induction first using Condition.inductionOn with
  | or left right _ ih => exact congrArg (or left) ih
  | _ => rfl

end Condition

/-! ## The normal form -/

mutual

def Expr.normal (known : Dialect.Known) : Expr → Expr
  | .column column => .column column.normal
  | .raw text => .raw text
  | .asterisk table => .asterisk (table.map Table.referred)
  | .subSelect select => .subSelect (select.normal known)
  | .literal value => .literal value
  | .bind name => .bind (name.map Identifier.bare)
  | .function name args => .function name (Expr.listNormal known args)

def Expr.listNormal (known : Dialect.Known) : List Expr → List Expr
  | [] => []
  | expr :: exprs => expr.normal known :: Expr.listNormal known exprs

def Condition.normal (known : Dialect.Known) : Condition → Condition
  | .comparison left comparator right =>
      .comparison (left.normal known) comparator (right.normal known)
  | .like left right => .like (left.normal known) (right.normal known)
  | .inList left args negated =>
      .inList (left.normal known) (Expr.listNormal known args) negated
  | .isNull operand negated => .isNull (operand.normal known) negated
  | .nested inner => inner.normal known
  | .raw text => .raw text
  | .and left right => (left.normal known).conjoin (right.normal known)
  | .or left right => (left.normal known).disjoin (right.normal known)
  | .not inner => .not (inner.normal known)

def Condition.optionNormal (known : Dialect.Known) :
    Option Condition → Option Condition
  | none => none
  | some condition => some (condition.normal known)

def OrderField.normal (known : Dialect.Known) : OrderField → OrderField
  | ⟨expr, direction, nulls⟩ => ⟨expr.normal known, direction, nulls⟩

def OrderField.listNormal (known : Dialect.Known) :
    List OrderField → List OrderField
  | [] => []
  | field :: fields => field.normal known :: OrderField.listNormal known fields

def Join.normal (known : Dialect.Known) : Join → Join
  | ⟨kind, table, on⟩ => ⟨kind, table.normal, on.normal known⟩

def Join.listNormal (known : Dialect.Known) : List Join → List Join
  | [] => []
  | join :: joins => join.normal known :: Join.listNormal known joins

def Select.normal (known : Dialect.Known) : Select → Select
  | ⟨distinct, items, tables, joins, filter, order, limit, offset⟩ =>
      ⟨distinct, Expr.listNormal known items, tables.map Table.normal,
        Join.listNormal known joins, Condition.optionNormal known filter,
        OrderField.listNormal known order,
        (known.normalPaging limit offset).1,
        (known.normalPaging limit offset).2⟩

end

section Normal

variable (known : Dialect.Known)

theorem Expr.listNormal_eq_map (exprs : List Expr) :
    Expr.listNormal known exprs = exprs.map (Expr.normal known) :=
  eq_map_of_cons (Expr.listNormal known) rfl (fun _ _ => rfl) exprs

theorem OrderField.listNormal_eq_map (fields : List OrderField) :
    OrderField.listNormal known fields =
      fields.map (OrderField.normal known) :=
  eq_map_of_cons (OrderField.listNormal known) rfl (fun _ _ => rfl) fields

theorem Join.listNormal_eq_map (joins : List Join) :
    Join.listNormal known joins = joins.map (Join.normal known) :=
  eq_map_of_cons (Join.listNormal known) rfl (fun _ _ => rfl) joins

theorem Condition.optionNormal_eq_map (filter : Option Condition) :
    Condition.optionNormal known filter =
      filter.map (Condition.normal known) :=
  eq_map_of_some (Condition.optionNormal known) rfl (fun _ => rfl) filter

theorem Select.normal_eq (select : Select) :
    select.normal known =
      ⟨select.distinct, select.items.map (Expr.normal known),
        select.tables.map Table.normal, select.joins.map (Join.normal known),
        select.filter.map (Condition.normal known),
        select.order.map (OrderField.normal known),
        (known.normalPaging select.limit select.offset).1,
        (known.normalPaging select.limit select.offset).2⟩ := by
  obtain ⟨distinct, items, tables, joins, filter, order, limit, offset⟩ :=
    select
  rw [Select.normal, Expr.listNormal_eq_map, Join.listNormal_eq_map,
    Condition.optionNormal_eq_map, OrderField.listNormal_eq_map]

end Normal

/-! ## Chains and their operands -/

namespace Conjunction

def join : Conjunction → Condition → Condition → Condition
  | and => Condition.conjoin
  | or => Condition.disjoin

theorem join_assoc (kind : Conjunction) (first second third : Condition) :
    kind.join (kind.join first second) third =
      kind.join first (kind.join second third) := by
  cases kind with
  | and => exact Condition.conjoin_assoc first second third
  | or => exact Condition.disjoin_assoc first second third

end Conjunction

namespace Condition

/-- The parts of a chain of one kind; what is no such chain is its own and only
part. -/
def operands (kind : Conjunction) : Condition → List Condition
  | and left right =>
      if kind = .and then left.operands kind ++ right.operands kind
      else [and left right]
  | or left right =>
      if kind = .or then left.operands kind ++ right.operands kind
      else [or left right]
  | condition => [condition]

/-- A first operand and the others, each after what joins it to those before. -/
def assemble : Condition → List (Conjunction × Condition) → Condition
  | first, [] => first
  | first, (kind, next) :: links => kind.join first (assemble next links)

theorem assemble_append (kind : Conjunction) (first next : Condition)
    (links more : List (Conjunction × Condition))
    (hlinks : ∀ link ∈ links, link.1 = kind) :
    assemble first (links ++ (kind, next) :: more) =
      kind.join (assemble first links) (assemble next more) := by
  induction links generalizing first with
  | nil => rfl
  | cons link links ih =>
      obtain ⟨linkKind, operand⟩ := link
      rw [List.forall_mem_cons] at hlinks
      obtain ⟨rfl, hrest⟩ := hlinks
      rw [List.cons_append, assemble, assemble, ih operand hrest,
        linkKind.join_assoc]

theorem operands_ne_nil (kind : Conjunction) (condition : Condition) :
    condition.operands kind ≠ [] := by
  induction condition using Condition.inductionOn with
  | and left right ihleft ihright | or left right ihleft ihright =>
      unfold operands
      split <;> simp [ihleft]
  | _ => simp [operands]

/-- The normal form of the condition is put together from those of its
operands. -/
def Assembles (known : Dialect.Known) (kind : Conjunction)
    (condition : Condition) : Prop :=
  ∀ first rest, condition.operands kind = first :: rest →
    condition.normal known =
      assemble (first.normal known)
        (rest.map fun operand => (kind, operand.normal known))

section Assembles

variable {known : Dialect.Known} {kind : Conjunction} {condition : Condition}

theorem assembles_of_single (h : condition.operands kind = [condition]) :
    condition.Assembles known kind := by
  intro first rest hcons
  rw [h, List.cons.injEq] at hcons
  obtain ⟨rfl, rfl⟩ := hcons
  rfl

theorem assembles_of_append {left right : Condition}
    (hoperands : condition.operands kind =
      left.operands kind ++ right.operands kind)
    (hnormal : condition.normal known =
      kind.join (left.normal known) (right.normal known))
    (hleft : left.Assembles known kind)
    (hright : right.Assembles known kind) :
    condition.Assembles known kind := by
  intro first rest hcons
  obtain ⟨leftFirst, leftRest, hleftOperands⟩ :=
    List.exists_cons_of_ne_nil (left.operands_ne_nil kind)
  obtain ⟨rightFirst, rightRest, hrightOperands⟩ :=
    List.exists_cons_of_ne_nil (right.operands_ne_nil kind)
  rw [hoperands, hleftOperands, hrightOperands, List.cons_append,
    List.cons.injEq] at hcons
  obtain ⟨rfl, rfl⟩ := hcons
  rw [hnormal, hleft _ _ hleftOperands, hright _ _ hrightOperands,
    List.map_append, List.map_cons]
  exact (assemble_append kind _ _ _ _ (by simp)).symm

theorem assembles (known : Dialect.Known) (kind : Conjunction)
    (condition : Condition) : condition.Assembles known kind := by
  induction condition using Condition.inductionOn with
  | and left right ihleft ihright =>
      cases kind with
      | and => exact assembles_of_append rfl rfl ihleft ihright
      | or => exact assembles_of_single rfl
  | or left right ihleft ihright =>
      cases kind with
      | and => exact assembles_of_single rfl
      | or => exact assembles_of_append rfl rfl ihleft ihright
  | _ => exact assembles_of_single rfl

end Assembles

end Condition

end SqlStatement
