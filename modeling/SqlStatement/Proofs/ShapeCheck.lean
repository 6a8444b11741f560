import SqlStatement.Draft
import SqlStatement.Proofs.Reach
import Mathlib.Tactic

/-!
# What the checks of a draft accept

The shape check of a node succeeds when every node that a walk reaches from it
has the shape that its kind asks for.  A draft becomes the statement that it
holds, unchanged, when this and its other three checks succeed.
-/

namespace SqlStatement

theorem require_eq_ok_iff (condition : Bool) (cause : InvalidArgument) :
    require condition cause = .ok () ↔ condition = true := by
  cases condition <;> simp [require]

/-! ## Shapes -/

def Expr.WellShaped : Expr → Prop
  | .raw text => Text.isBlank text = false
  | .function name _ => Text.isBlank name = false
  | .literal (.float value) => value.isFinite = true
  | _ => True

def Condition.WellShaped : Condition → Prop
  | .raw text => Text.isBlank text = false
  | .inList _ args _ => args ≠ []
  | _ => True

theorem Expr.checkShape_eq_ok_iff (expr : Expr) :
    expr.checkShape = .ok () ↔ expr.WellShaped := by
  cases expr with
  | literal value =>
      cases value <;> simp [checkShape, WellShaped, require_eq_ok_iff]
  | _ => simp [checkShape, WellShaped, require_eq_ok_iff]

theorem Condition.checkShape_eq_ok_iff (condition : Condition) :
    condition.checkShape = .ok () ↔ condition.WellShaped := by
  cases condition <;> simp [checkShape, WellShaped, require_eq_ok_iff]

namespace Node

theorem forM_eq_ok_iff (nodes : List Node) (check : Node → Except Error Unit) :
    nodes.forM check = .ok () ↔ ∀ node ∈ nodes, check node = .ok () := by
  induction nodes with
  | nil => simp [List.forM, pure, Except.pure]
  | cons node nodes ih =>
      rw [List.forall_mem_cons, ← ih]
      cases hnode : check node with
      | error e => simp [List.forM, hnode, bind, Except.bind]
      | ok => simp [List.forM, hnode, bind, Except.bind]

theorem checkShapes_eq_ok_iff (node : Node) :
    node.checkShapes = .ok () ↔
      node.checkShape = .ok () ∧
        ∀ child ∈ node.children, child.checkShapes = .ok () := by
  rw [← forM_eq_ok_iff, checkShapes, walk_eq]
  change (node.checkShape >>= fun _ =>
    node.children.forM checkShapes >>= fun _ => Except.ok ()) = _ ↔ _
  cases node.checkShape with
  | error e => simp [bind, Except.bind]
  | ok =>
      cases node.children.forM checkShapes <;> simp [bind, Except.bind]

end Node

theorem Node.Reaches.checkShapes_eq_ok {node target : Node}
    (hreaches : node.Reaches target) (h : node.checkShapes = .ok ()) :
    target.checkShapes = .ok () := by
  induction hreaches with
  | self node => exact h
  | child hmem _ ih => exact ih (((checkShapes_eq_ok_iff _).mp h).2 _ hmem)

theorem Node.Reaches.checkShape_eq_ok {node target : Node}
    (hreaches : node.Reaches target) (h : node.checkShapes = .ok ()) :
    target.checkShape = .ok () :=
  ((checkShapes_eq_ok_iff target).mp (hreaches.checkShapes_eq_ok h)).1

/-! ## Drafts -/

/-- What a statement has to pass before a draft becomes it. -/
def Select.check (select : Select) : Except Error Unit := do
  require (!select.items.isEmpty) .emptySelectList
  require (!select.tables.isEmpty) .emptyFrom
  (Node.select select).checkShapes
  select.checkImports

theorem Select.check_eq_ok_iff (select : Select) :
    select.check = .ok () ↔
      select.items ≠ [] ∧ select.tables ≠ [] ∧
        (Node.select select).checkShapes = .ok () ∧
        select.checkImports = .ok () := by
  have hitems := require_eq_ok_iff (!select.items.isEmpty) .emptySelectList
  have htables := require_eq_ok_iff (!select.tables.isEmpty) .emptyFrom
  simp only [Bool.not_eq_true', List.isEmpty_eq_false_iff] at hitems htables
  rw [← hitems, ← htables, check]
  cases require (!select.items.isEmpty) .emptySelectList with
  | error e => simp [bind, Except.bind]
  | ok =>
      cases require (!select.tables.isEmpty) .emptyFrom with
      | error e => simp [bind, Except.bind]
      | ok =>
          cases (Node.select select).checkShapes with
          | error e => simp [bind, Except.bind]
          | ok => simp [bind, Except.bind]

theorem Draft.build_eq_map_check (draft : Draft) :
    draft.build = draft.select.check.map fun _ => draft.select := by
  have hitems : draft.select.items = draft.items := rfl
  have htables : draft.select.tables = draft.tables := rfl
  simp only [build, Select.check, hitems, htables]
  cases require (!draft.items.isEmpty) .emptySelectList with
  | error e => rfl
  | ok =>
      cases require (!draft.tables.isEmpty) .emptyFrom with
      | error e => rfl
      | ok =>
          cases (Node.select draft.select).checkShapes with
          | error e => rfl
          | ok => cases draft.select.checkImports <;> rfl

theorem Draft.build_eq_ok_iff (draft : Draft) (select : Select) :
    draft.build = .ok select ↔
      draft.select.check = .ok () ∧ draft.select = select := by
  rw [build_eq_map_check]
  cases draft.select.check <;> simp [Except.map]

end SqlStatement
