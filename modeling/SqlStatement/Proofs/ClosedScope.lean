import SqlStatement.Proofs.ImportCheck
import SqlStatement.Proofs.Rendering
import Mathlib.Tactic

/-!
# Statements in parentheses are closed scopes

The outline of a draft has an empty statement in the place of each statement
in parentheses.  The checks of a draft see no more than its outline: the shape
check finds nothing wrong in a statement that was obtained, whatever it is,
and the import check does not look into it.  So drafts of one outline come to
one outcome.
-/

namespace SqlStatement

/-! ## Outlines -/

/-- What stands in the place of a statement in an outline. -/
def Select.blank : Select :=
  ⟨false, [], [], [], none, [], none, none⟩

mutual

def Expr.outline : Expr → Expr
  | .subSelect _ => .subSelect .blank
  | .function name args => .function name (Expr.listOutline args)
  | .column c => .column c
  | .raw text => .raw text
  | .asterisk table => .asterisk table
  | .literal value => .literal value
  | .bind name => .bind name

def Expr.listOutline : List Expr → List Expr
  | [] => []
  | expr :: exprs => expr.outline :: Expr.listOutline exprs

end

theorem Expr.listOutline_eq_map (exprs : List Expr) :
    Expr.listOutline exprs = exprs.map Expr.outline :=
  eq_map_of_cons Expr.listOutline rfl (fun _ _ => rfl) exprs

def Condition.outline : Condition → Condition
  | .comparison left comparator right =>
      .comparison left.outline comparator right.outline
  | .like left right => .like left.outline right.outline
  | .inList left args negated =>
      .inList left.outline (args.map Expr.outline) negated
  | .isNull operand negated => .isNull operand.outline negated
  | .nested inner => .nested inner.outline
  | .raw text => .raw text
  | .and left right => .and left.outline right.outline
  | .or left right => .or left.outline right.outline
  | .not inner => .not inner.outline

def Join.outline (join : Join) : Join :=
  { join with on := join.on.outline }

def OrderField.outline (field : OrderField) : OrderField :=
  { field with expr := field.expr.outline }

/-- The statement with an empty one in the place of each of its
sub-selects. -/
def Select.outline (select : Select) : Select :=
  { select with
    items := select.items.map Expr.outline
    joins := select.joins.map Join.outline
    filter := select.filter.map Condition.outline
    order := select.order.map OrderField.outline }

/-! ## Imports -/

theorem Expr.scope_outline (expr : Expr) :
    expr.outline.scope = expr.scope.map Expr.outline := by
  induction expr using Expr.inductionOn with
  | function name args ih =>
      have hargs : (args.map Expr.outline).flatMap Expr.scope =
          (args.flatMap Expr.scope).map Expr.outline := by
        rw [List.flatMap_map, List.map_flatMap]
        exact List.flatMap_congr ih
      simp only [outline, listOutline_eq_map, scope, listScope_eq_flatMap,
        List.map_cons, hargs]
  | _ => simp [outline, scope]

theorem Expr.flatMap_scope_outline (exprs : List Expr) :
    (exprs.map Expr.outline).flatMap Expr.scope =
      (exprs.flatMap Expr.scope).map Expr.outline := by
  rw [List.flatMap_map, List.map_flatMap]
  exact List.flatMap_congr fun expr _ => expr.scope_outline

theorem Condition.scope_outline (condition : Condition) :
    condition.outline.scope = condition.scope.map Expr.outline := by
  induction condition using Condition.inductionOn with
  | comparison left comparator right | like left right =>
      simp [outline, scope, Expr.scope_outline]
  | inList left args negated =>
      simp only [outline, scope, List.map_append, Expr.scope_outline,
        Expr.flatMap_scope_outline]
  | isNull operand negated => exact operand.scope_outline
  | nested inner ih | not inner ih => exact ih
  | raw text => rfl
  | and left right ihleft ihright | or left right ihleft ihright =>
      simp [outline, scope, ihleft, ihright]

theorem Expr.sourceTable?_outline (expr : Expr) :
    expr.outline.sourceTable? = expr.sourceTable? := by
  cases expr <;> rfl

theorem Expr.columnTable?_outline (expr : Expr) :
    expr.outline.columnTable? = expr.columnTable? := by
  cases expr <;> rfl

namespace Select

theorem required_outline (select : Select) :
    select.outline.required = select.required := by
  have hsource : Expr.sourceTable? ∘ Expr.outline = Expr.sourceTable? :=
    funext Expr.sourceTable?_outline
  have hcolumn : Expr.columnTable? ∘ Expr.outline = Expr.columnTable? :=
    funext Expr.columnTable?_outline
  have hfilter : select.outline.filter.toList.flatMap Condition.scope =
      (select.filter.toList.flatMap Condition.scope).map Expr.outline := by
    cases hnone : select.filter <;>
      simp [outline, hnone, Condition.scope_outline]
  have horder : select.outline.order.flatMap (Expr.scope ∘ OrderField.expr) =
      (select.order.flatMap (Expr.scope ∘ OrderField.expr)).map
        Expr.outline := by
    simp only [outline, List.flatMap_map, List.map_flatMap]
    exact List.flatMap_congr fun field _ => field.expr.scope_outline
  unfold required
  rw [hfilter, horder]
  simp only [outline, Expr.flatMap_scope_outline, List.filterMap_map, hsource,
    hcolumn]

theorem fromNames_outline (select : Select) :
    select.outline.fromNames = select.fromNames :=
  rfl

theorem joinNames_outline (select : Select) :
    select.outline.joinNames = select.joinNames := by
  unfold joinNames outline
  rw [List.map_map]
  rfl

/-- What the collector knows after a statement can be read off its outline. -/
theorem walk_outline (select : Select) :
    Imports.empty.walk (.select select.outline) =
      Imports.empty.walk (.select select) := by
  rw [Imports.walk_select _ rfl, Imports.walk_select _ rfl,
    required_outline, fromNames_outline, joinNames_outline]

end Select

/-! ## Shapes -/

namespace Node

def outline : Node → Node
  | .select s => .select s.outline
  | .items es => .items (es.map Expr.outline)
  | .tables ts => .tables ts
  | .join j => .join j.outline
  | .filter c => .filter c.outline
  | .order fs => .order (fs.map OrderField.outline)
  | .orderField f => .orderField f.outline
  | .table t => .table t
  | .expr e => .expr e.outline
  | .condition c => .condition c.outline

theorem children_outline (node : Node)
    (h : ∀ select, node ≠ .expr (.subSelect select)) :
    node.outline.children = node.children.map outline := by
  cases node with
  | select s =>
      obtain ⟨distinct, items, tables, joins, filter, order, limit, offset⟩ :=
        s
      cases filter <;> cases order <;>
        simp [outline, Select.outline, children, Function.comp_def]
  | expr e =>
      cases e with
      | subSelect select => exact absurd rfl (h select)
      | function name args =>
          simp [outline, Expr.outline, Expr.listOutline_eq_map, children,
            childrenOfExpr, Function.comp_def]
      | _ => rfl
  | condition c =>
      cases c <;> simp [outline, Condition.outline, children,
        childrenOfCondition, Function.comp_def]
  | _ => simp [outline, Join.outline, OrderField.outline, children,
      Function.comp_def]

theorem checkShape_outline (node : Node) :
    node.outline.checkShape = node.checkShape := by
  cases node with
  | expr e => cases e <;> rfl
  | condition c =>
      cases c with
      | inList left args negated =>
          simp [outline, Condition.outline, checkShape, Condition.checkShape]
      | _ => rfl
  | _ => rfl

theorem checkShapes_eq (node : Node) :
    node.checkShapes = (node.checkShape >>= fun _ =>
      node.children.forM checkShapes >>= fun _ => Except.ok ()) :=
  walk_eq _ node

theorem forM_checkShapes_outline {nodes : List Node}
    (h : ∀ node ∈ nodes, node.outline.checkShapes = node.checkShapes) :
    (nodes.map outline).forM checkShapes = nodes.forM checkShapes := by
  induction nodes with
  | nil => rfl
  | cons node nodes ih =>
      rw [List.forall_mem_cons] at h
      change (node.outline.checkShapes >>= fun _ =>
          (nodes.map outline).forM checkShapes) = _
      rw [h.1, ih h.2]
      rfl

theorem checkShapes_blank :
    (Node.select Select.blank).checkShapes = .ok () := by
  have hempty : ∀ node : Node, node.checkShape = .ok () →
      node.children = [] → node.checkShapes = .ok () := by
    intro node hshape hchildren
    rw [checkShapes_eq, hshape, hchildren]
    rfl
  rw [checkShapes_eq_ok_iff]
  constructor
  · rfl
  · intro child hmem
    have hchild : child = .items [] ∨ child = .tables [] := by
      simpa [children, Select.blank] using hmem
    rcases hchild with rfl | rfl <;> exact hempty _ rfl rfl

end Node

theorem Select.Obtainable.checkShapes_eq_ok {select : Select}
    (h : select.Obtainable) : (Node.select select).checkShapes = .ok () := by
  obtain ⟨_, _, hshapes, _⟩ := select.check_eq_ok_iff.mp h.check_eq_ok
  exact hshapes

theorem Node.checkShapes_subSelect {select : Select}
    (h : (Node.select select).checkShapes = .ok ()) :
    (Node.expr (.subSelect select)).checkShapes = .ok () := by
  rw [checkShapes_eq_ok_iff]
  constructor
  · rfl
  · intro child hmem
    obtain rfl := List.mem_singleton.mp hmem
    exact h

theorem Node.checkShapes_outline (node : Node)
    (hnode : ∀ select, node ≠ .select select) (h : node.Built) :
    node.outline.checkShapes = node.checkShapes := by
  induction node using Node.inductionOn with
  | step node ih =>
      by_cases hsub : ∃ select, node = .expr (.subSelect select)
      · obtain ⟨select, rfl⟩ := hsub
        have hselect : select.Obtainable := by
          apply h
          simp [subSelects, Expr.subSelects, Expr.scope, Expr.subSelect?]
        have hblank : (outline (.expr (.subSelect select))).checkShapes =
            .ok () :=
          checkShapes_subSelect checkShapes_blank
        rw [hblank, checkShapes_subSelect hselect.checkShapes_eq_ok]
      · have hother : ∀ select, node ≠ .expr (.subSelect select) :=
          fun select heq => hsub ⟨select, heq⟩
        have hchild : ∀ child ∈ node.children,
            child.outline.checkShapes = child.checkShapes := by
          intro child hmem
          apply ih child hmem
          · rintro select rfl
            -- Only statements in parentheses have a statement below them.
            cases node with
            | select s => exact hnode s rfl
            | expr e =>
                cases e with
                | subSelect s => exact hother s rfl
                | _ => simp [children, childrenOfExpr] at hmem
            | condition c =>
                cases c <;> simp [children, childrenOfCondition] at hmem
            | _ => simp [children] at hmem
          · exact h.of_mem_children hmem
        rw [checkShapes_eq, checkShapes_eq node, checkShape_outline,
          children_outline node hother, forM_checkShapes_outline hchild]

theorem Select.checkShapes_outline (select : Select)
    (h : ∀ sub ∈ select.subSelects, sub.Obtainable) :
    (Node.select select.outline).checkShapes =
      (Node.select select).checkShapes := by
  have hchild : ∀ child ∈ (Node.select select).children,
      child.outline.checkShapes = child.checkShapes := by
    intro child hmem
    apply child.checkShapes_outline
    · rintro inner rfl
      simp only [Node.children, List.cons_append, List.mem_cons,
        List.mem_append, List.mem_map, Option.mem_toList,
        Option.map_eq_some_iff] at hmem
      split at hmem <;> simp at hmem
    · intro sub hsub
      exact h sub (Select.subSelects_subset_of_mem_children hmem hsub)
  change (Node.select select).outline.checkShapes = _
  rw [Node.checkShapes_eq, Node.checkShapes_eq (.select select),
    Node.checkShape_outline, Node.children_outline _ (by simp),
    Node.forM_checkShapes_outline hchild]

/-! ## Drafts -/

theorem Select.check_outline (select : Select)
    (h : ∀ sub ∈ select.subSelects, sub.Obtainable) :
    select.outline.check = select.check := by
  have himports : select.outline.checkImports = select.checkImports := by
    rw [checkImports, select.walk_outline, checkImports]
  unfold check
  simp only [select.checkShapes_outline h, himports]
  simp [outline]

/-- Two drafts that differ only in the statements that stand in parentheses in
them are both built, or both refused with the same error, as long as these
statements were obtained.  The collector comes out of both with the same
names, and the shape check finds nothing in the statements themselves. -/
theorem build_ignores_inner_statements (first second : Draft)
    (hfirst : ∀ sub ∈ first.select.subSelects, sub.Obtainable)
    (hsecond : ∀ sub ∈ second.select.subSelects, sub.Obtainable)
    (hsame : first.select.outline = second.select.outline) :
    ((first.build = .ok first.select ∧ second.build = .ok second.select) ∨
      ∃ error, first.build = .error error ∧ second.build = .error error) ∧
    Imports.empty.walk (.select first.select) =
      Imports.empty.walk (.select second.select) ∧
    ∀ sub ∈ first.select.subSelects ++ second.select.subSelects,
      (Node.select sub).checkShapes = .ok () := by
  have hcheck : first.select.check = second.select.check := by
    rw [← first.select.check_outline hfirst,
      ← second.select.check_outline hsecond, hsame]
  refine ⟨?_, ?_, ?_⟩
  · rw [first.build_eq_map_check, second.build_eq_map_check, hcheck]
    cases second.select.check with
    | error e => exact .inr ⟨e, rfl, rfl⟩
    | ok => exact .inl ⟨rfl, rfl⟩
  · rw [← first.select.walk_outline, ← second.select.walk_outline, hsame]
  · intro sub hmem
    rcases List.mem_append.mp hmem with hmem | hmem
    · exact (hfirst sub hmem).checkShapes_eq_ok
    · exact (hsecond sub hmem).checkShapes_eq_ok

/-- Who is in a list of ids, ordered by a column of a table that only the
statement behind that list may import. -/
def Draft.listed (ids : Select) : Draft :=
  (start [.asterisk (some users)] [users]).addAll
    [.filter (.inList (.column userId) [.subSelect ids] false),
      .order [⟨.column ⟨orders, buyer⟩, none, none⟩]]

theorem listed_refused_whatever_inside :
    Draft.buyerIds.select.Obtainable ∧ Draft.buyers.select.Obtainable ∧
      (Draft.listed Draft.buyers.select).build =
        .error (.missingImport ⟨.orderByColumn, Draft.orders.reference,
          [Draft.users.reference], []⟩) := by
  have hsub : ∀ ids : Select, ids.Obtainable →
      ∀ sub ∈ (Draft.listed ids).select.subSelects, sub.Obtainable := by
    intro ids hids
    exact List.forall_mem_singleton.mpr hids
  have hids : (Draft.listed Draft.buyerIds.select).build =
      .error (.missingImport ⟨.orderByColumn, Draft.orders.reference,
        [Draft.users.reference], []⟩) := by
    cbv
  have houtcome := (build_ignores_inner_statements
    (Draft.listed Draft.buyerIds.select) (Draft.listed Draft.buyers.select)
    (hsub _ Draft.buyerIds_obtainable) (hsub _ Draft.buyers_obtainable)
    rfl).1
  refine ⟨Draft.buyerIds_obtainable, Draft.buyers_obtainable, ?_⟩
  rcases houtcome with ⟨hbuilt, _⟩ | ⟨error, hfirst, hsecond⟩
  · rw [hids] at hbuilt
    cases hbuilt
  · rw [hids] at hfirst
    rw [hsecond, hfirst]

end SqlStatement
