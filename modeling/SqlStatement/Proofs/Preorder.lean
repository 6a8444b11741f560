import SqlStatement.Walk
import Mathlib.Tactic

/-!
# The order of the nodes

The nodes of a tree in the order in which a walk enters them are those of the
syntax from left to right, each before those below it: a statement, its select
list, its FROM, its joins with their tables and ON conditions, its WHERE and
its ORDER BY.  The statements in parentheses are gone through where they stand.

One list is read off the walk and the other one follows the syntax, so that a
kind of node that the walk left out would tell them apart.
-/

namespace SqlStatement

mutual

def Expr.preorder : Expr → List Node
  | .column column => [.expr (.column column)]
  | .raw text => [.expr (.raw text)]
  | .asterisk table => [.expr (.asterisk table)]
  | .subSelect select => .expr (.subSelect select) :: select.preorder
  | .literal value => [.expr (.literal value)]
  | .bind name => [.expr (.bind name)]
  | .function name args =>
      .expr (.function name args) :: Expr.listPreorder args

def Expr.listPreorder : List Expr → List Node
  | [] => []
  | expr :: exprs => expr.preorder ++ Expr.listPreorder exprs

def Condition.preorder : Condition → List Node
  | .comparison left comparator right =>
      .condition (.comparison left comparator right) ::
        (left.preorder ++ right.preorder)
  | .like left right =>
      .condition (.like left right) :: (left.preorder ++ right.preorder)
  | .inList left args negated =>
      .condition (.inList left args negated) ::
        (left.preorder ++ Expr.listPreorder args)
  | .isNull operand negated =>
      .condition (.isNull operand negated) :: operand.preorder
  | .nested inner => .condition (.nested inner) :: inner.preorder
  | .raw text => [.condition (.raw text)]
  | .and left right =>
      .condition (.and left right) :: (left.preorder ++ right.preorder)
  | .or left right =>
      .condition (.or left right) :: (left.preorder ++ right.preorder)
  | .not inner => .condition (.not inner) :: inner.preorder

def Condition.wherePreorder : Option Condition → List Node
  | none => []
  | some condition => .filter condition :: condition.preorder

def OrderField.preorder : OrderField → List Node
  | ⟨expr, direction, nulls⟩ =>
      .orderField ⟨expr, direction, nulls⟩ :: expr.preorder

def OrderField.listPreorder : List OrderField → List Node
  | [] => []
  | field :: fields => field.preorder ++ OrderField.listPreorder fields

def OrderField.orderByPreorder : List OrderField → List Node
  | [] => []
  | field :: fields =>
      .order (field :: fields) ::
        (field.preorder ++ OrderField.listPreorder fields)

def Join.preorder : Join → List Node
  | ⟨kind, table, on⟩ => .join ⟨kind, table, on⟩ :: .table table :: on.preorder

def Join.listPreorder : List Join → List Node
  | [] => []
  | join :: joins => join.preorder ++ Join.listPreorder joins

/-- The statement and all that stands in it, from the first item of the select
list to the last field of the ORDER BY. -/
def Select.preorder : Select → List Node
  | ⟨distinct, items, tables, joins, filter, order, limit, offset⟩ =>
      .select ⟨distinct, items, tables, joins, filter, order, limit, offset⟩ ::
        (.items items :: Expr.listPreorder items ++
          .tables tables :: tables.map Node.table ++
          Join.listPreorder joins ++
          Condition.wherePreorder filter ++
          OrderField.orderByPreorder order)

end

theorem Expr.listPreorder_eq_flatMap (exprs : List Expr) :
    listPreorder exprs = exprs.flatMap preorder :=
  eq_flatMap_of_cons listPreorder rfl (fun _ _ => rfl) exprs

theorem OrderField.listPreorder_eq_flatMap (fields : List OrderField) :
    listPreorder fields = fields.flatMap preorder :=
  eq_flatMap_of_cons listPreorder rfl (fun _ _ => rfl) fields

theorem Join.listPreorder_eq_flatMap (joins : List Join) :
    listPreorder joins = joins.flatMap preorder :=
  eq_flatMap_of_cons listPreorder rfl (fun _ _ => rfl) joins

namespace Node

/-- The node and all nodes below it, as they stand in the syntax. -/
def preorder : Node → List Node
  | select s => s.preorder
  | items es => items es :: Expr.listPreorder es
  | tables ts => tables ts :: ts.map table
  | join j => j.preorder
  | filter c => filter c :: c.preorder
  | order fs => order fs :: OrderField.listPreorder fs
  | orderField f => f.preorder
  | table t => [table t]
  | expr e => e.preorder
  | condition c => c.preorder

/-! ## A node before its children -/

theorem flatMap_preorder_exprs (exprs : List Expr) :
    (exprs.map expr).flatMap preorder = Expr.listPreorder exprs := by
  rw [List.flatMap_map, Expr.listPreorder_eq_flatMap]
  rfl

theorem flatMap_preorder_tables (ts : List Table) :
    (ts.map table).flatMap preorder = ts.map table := by
  rw [List.flatMap_map, List.map_eq_flatMap]
  rfl

theorem flatMap_preorder_fields (fields : List OrderField) :
    (fields.map orderField).flatMap preorder =
      OrderField.listPreorder fields := by
  rw [List.flatMap_map, OrderField.listPreorder_eq_flatMap]
  rfl

theorem flatMap_preorder_joins (joins : List Join) :
    (joins.map join).flatMap preorder = Join.listPreorder joins := by
  rw [List.flatMap_map, Join.listPreorder_eq_flatMap]
  rfl

theorem flatMap_preorder_filter (condition : Option Condition) :
    (condition.map filter).toList.flatMap preorder =
      Condition.wherePreorder condition := by
  cases condition with
  | none => simp [Condition.wherePreorder]
  | some condition => simp [Condition.wherePreorder, preorder]

theorem flatMap_preorder_order (fields : List OrderField) :
    (if fields.isEmpty then [] else [order fields]).flatMap preorder =
      OrderField.orderByPreorder fields := by
  cases fields with
  | nil => simp [OrderField.orderByPreorder]
  | cons field fields =>
      simp [OrderField.orderByPreorder, preorder, OrderField.listPreorder]

theorem preorder_eq (node : Node) :
    node.preorder = node :: node.children.flatMap preorder := by
  cases node with
  | select s =>
      obtain ⟨distinct, es, ts, joins, condition, fields, limit, offset⟩ := s
      simp only [preorder, Select.preorder, children, List.cons_append,
        List.flatMap_cons, List.flatMap_append, List.append_assoc,
        flatMap_preorder_joins, flatMap_preorder_filter,
        flatMap_preorder_order]
  | items es => rw [preorder, children, flatMap_preorder_exprs]
  | tables ts => rw [preorder, children, flatMap_preorder_tables]
  | join j =>
      obtain ⟨kind, t, on⟩ := j
      simp [preorder, Join.preorder, children]
  | filter c => simp [preorder, children]
  | order fields => rw [preorder, children, flatMap_preorder_fields]
  | orderField field =>
      obtain ⟨e, direction, nulls⟩ := field
      simp [preorder, OrderField.preorder, children]
  | table t => rfl
  | expr e =>
      cases e with
      | function name args =>
          rw [preorder, Expr.preorder, children, childrenOfExpr,
            flatMap_preorder_exprs]
      | _ => simp [preorder, Expr.preorder, children, childrenOfExpr]
  | condition c =>
      cases c with
      | inList left args negated =>
          rw [preorder, Condition.preorder, children, childrenOfCondition,
            List.flatMap_cons, flatMap_preorder_exprs, preorder]
      | _ => simp [preorder, Condition.preorder, children, childrenOfCondition]

/-! ## The nodes that a walk enters -/

/-- All nodes of a tree in the order in which a walk enters them. -/
def nodes (node : Node) : List Node :=
  node.events.filterMap fun
    | .enter entered => some entered
    | .leave _ => none

theorem nodes_eq (node : Node) :
    node.nodes = node :: node.children.flatMap nodes := by
  unfold nodes
  rw [events_eq]
  simp [List.filterMap_append, List.filterMap_flatMap]

/-- A walk enters the nodes from left to right, parents before their
children. -/
theorem nodes_eq_preorder (node : Node) : node.nodes = node.preorder := by
  induction node using Node.inductionOn with
  | step node ih =>
      rw [nodes_eq, preorder_eq]
      exact congrArg (node :: ·) (List.flatMap_congr ih)

end Node

end SqlStatement
