import SqlStatement.Draft
import SqlStatement.Proofs.Preorder
import Mathlib.Tactic

/-!
# The refusal that is reported

A draft can be refused for many reasons at once.  An empty select list is
reported before an empty FROM, both before a node that is out of shape, and a
missing table last.  Of the nodes that are out of shape the first one in
writing order is reported, whatever clause or statement in parentheses it
stands in.  A draft without any of these becomes the statement that it holds.
-/

namespace SqlStatement

namespace Node

/-- What is wrong with a node itself, whatever is below it. -/
def fault? : Node → Option InvalidArgument
  | expr (.raw text) | condition (.raw text) =>
      if Text.isBlank text then some .blankRawText else none
  | expr (.function name _) =>
      if Text.isBlank name then some .blankFunctionName else none
  | expr (.literal (.float value)) =>
      if value.isFinite then none else some (.nonFiniteFloat value)
  | condition (.inList _ [] _) => some .emptyInList
  | _ => none

end Node

def reportFault : Option InvalidArgument → Except Error Unit
  | none => .ok ()
  | some cause => .error (.invalidArgument cause)

theorem require_eq_reportFault (condition : Bool) (cause : InvalidArgument) :
    require condition cause =
      reportFault (if condition then none else some cause) := by
  cases condition <;> rfl

theorem require_not_eq_reportFault (condition : Bool)
    (cause : InvalidArgument) :
    require (!condition) cause =
      reportFault (if condition then some cause else none) := by
  cases condition <;> rfl

namespace Node

theorem checkShape_eq_reportFault (node : Node) :
    node.checkShape = reportFault node.fault? := by
  cases node with
  | expr e =>
      cases e with
      | raw text => exact require_not_eq_reportFault _ _
      | function name args => exact require_not_eq_reportFault _ _
      | literal value =>
          cases value with
          | float value => exact require_eq_reportFault _ _
          | _ => rfl
      | _ => rfl
  | condition c =>
      cases c with
      | raw text => exact require_not_eq_reportFault _ _
      | inList left args negated => cases args <;> rfl
      | _ => rfl
  | _ => rfl

/-- The checks of several nodes end with the first one that fails. -/
theorem forM_checkShape (nodes : List Node) :
    nodes.forM checkShape = reportFault (nodes.findSome? fault?) := by
  induction nodes with
  | nil => rfl
  | cons node nodes ih =>
      change (node.checkShape >>= fun _ => nodes.forM checkShape) = _
      rw [checkShape_eq_reportFault, ih, List.findSome?_cons]
      cases node.fault? <;> rfl

/-- A visitor that does nothing on leaving a node acts on the nodes alone. -/
theorem forM_events (act : Node → Except Error Unit) (events : List Event) :
    (events.forM fun
        | .enter node => act node
        | .leave _ => .ok ()) =
      (events.filterMap fun
        | .enter entered => some entered
        | .leave _ => none).forM act := by
  induction events with
  | nil => rfl
  | cons event events ih =>
      cases event with
      | enter node => exact congrArg (fun rest => act node >>= fun _ => rest) ih
      | leave node => exact ih

theorem checkShapes_eq_reportFault (node : Node) :
    node.checkShapes = reportFault (node.preorder.findSome? fault?) := by
  rw [checkShapes, walk_eq_forM_events, ← forM_checkShape,
    ← nodes_eq_preorder]
  exact forM_events checkShape node.events

end Node

/-- The result of a draft is decided in this order: the select list, the FROM,
the first fault from left to right, and the import check.  What is built has
the parts of the draft, all of them. -/
theorem build_eq_first_refusal (draft : Draft) :
    draft.build =
      match draft.items, draft.tables,
        draft.select.preorder.findSome? Node.fault?,
        draft.select.checkImports with
      | [], _, _, _ => .error (.invalidArgument .emptySelectList)
      | _ :: _, [], _, _ => .error (.invalidArgument .emptyFrom)
      | _ :: _, _ :: _, some cause, _ => .error (.invalidArgument cause)
      | _ :: _, _ :: _, none, .error missing => .error missing
      | _ :: _, _ :: _, none, .ok () =>
          .ok ⟨draft.distinct, draft.items, draft.tables, draft.joins,
            draft.filter, draft.order, draft.limit, draft.offset⟩ := by
  have hshapes : (Node.select draft.select).checkShapes =
      reportFault (draft.select.preorder.findSome? Node.fault?) :=
    Node.checkShapes_eq_reportFault (.select draft.select)
  have hselect : draft.select =
      ⟨draft.distinct, draft.items, draft.tables, draft.joins, draft.filter,
        draft.order, draft.limit, draft.offset⟩ := rfl
  simp only [Draft.build, hshapes, ← hselect]
  cases draft.items with
  | nil => rfl
  | cons item items =>
      cases draft.tables with
      | nil => rfl
      | cons table tables =>
          cases draft.select.preorder.findSome? Node.fault? with
          | some cause => rfl
          | none => cases draft.select.checkImports <;> rfl

end SqlStatement
