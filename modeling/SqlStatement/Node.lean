import SqlStatement.Tree

/-!
# The nodes of a statement

Statements, their clauses and all that stands in them are nodes, and every node
lists its children in the order in which they are written.  A clause that a
statement does not have is no child.

A child weighs less than its parent, so that properties of nodes can be shown,
and functions on them defined, by going from the children to the parent.
-/

namespace SqlStatement

inductive Node where
  | select (select : Select)
  | items (items : List Expr)
  | tables (tables : List Table)
  | join (join : Join)
  | filter (condition : Condition)
  | order (fields : List OrderField)
  | orderField (field : OrderField)
  | table (table : Table)
  | expr (expr : Expr)
  | condition (condition : Condition)

namespace Node

def kind : Node → String
  | select _ => "Select"
  | items _ => "SelectList"
  | tables _ => "From"
  | join _ => "Join"
  | filter _ => "Where"
  | order _ => "OrderBy"
  | orderField _ => "OrderByField"
  | table _ => "Table"
  | expr e => e.kind
  | condition c => c.kind

def childrenOfExpr : Expr → List Node
  | .subSelect s => [select s]
  | .function _ args => args.map expr
  | .column _ => []
  | .raw _ => []
  | .asterisk _ => []
  | .literal _ => []
  | .bind _ => []

def childrenOfCondition : Condition → List Node
  | .comparison left _ right => [expr left, expr right]
  | .like left right => [expr left, expr right]
  | .inList left args _ => expr left :: args.map expr
  | .isNull operand _ => [expr operand]
  | .nested inner => [condition inner]
  | .raw _ => []
  | .and left right => [condition left, condition right]
  | .or left right => [condition left, condition right]
  | .not inner => [condition inner]

/-- The nodes directly below a node, in the order in which they are written. -/
def children : Node → List Node
  | select s =>
      items s.items :: tables s.tables :: s.joins.map join ++
        (s.filter.map filter).toList ++
        if s.order.isEmpty then [] else [order s.order]
  | items es => es.map expr
  | tables ts => ts.map table
  | join j => [table j.table, condition j.on]
  | filter c => [condition c]
  | order fs => fs.map orderField
  | orderField f => [expr f.expr]
  | table _ => []
  | expr e => childrenOfExpr e
  | condition c => childrenOfCondition c

/-- A measure of the tree below a node. -/
noncomputable def weight : Node → Nat
  | select s => sizeOf s
  | items es => sizeOf es
  | tables ts => sizeOf ts
  | join j => sizeOf j
  | filter c => sizeOf c + 1
  | order fs => sizeOf fs
  | orderField f => sizeOf f
  | table _ => 0
  | expr e => sizeOf e
  | condition c => sizeOf c

theorem weight_lt_of_mem_childrenOfExpr {child : Node} {e : Expr}
    (h : child ∈ childrenOfExpr e) :
    child.weight < sizeOf e := by
  cases e with
  | subSelect s =>
      obtain rfl := List.mem_singleton.mp h
      simp only [weight, Expr.subSelect.sizeOf_spec]
      omega
  | function name args =>
      obtain ⟨arg, hmem, rfl⟩ := List.mem_map.mp h
      have hlt := List.sizeOf_lt_of_mem hmem
      simp only [weight, Expr.function.sizeOf_spec]
      omega
  | column _ | raw _ | asterisk _ | literal _ | bind _ =>
      simp [childrenOfExpr] at h

theorem weight_lt_of_mem_childrenOfCondition {child : Node} {c : Condition}
    (h : child ∈ childrenOfCondition c) :
    child.weight < sizeOf c := by
  cases c with
  | comparison left op right | like left right | and left right
  | or left right =>
      simp only [childrenOfCondition, List.mem_cons, List.not_mem_nil,
        or_false] at h
      rcases h with rfl | rfl
      all_goals
        simp only [weight, Condition.comparison.sizeOf_spec,
          Condition.like.sizeOf_spec, Condition.and.sizeOf_spec,
          Condition.or.sizeOf_spec]
        omega
  | inList left args negated =>
      simp only [childrenOfCondition, List.mem_cons, List.mem_map] at h
      rcases h with rfl | ⟨arg, hmem, rfl⟩
      · simp only [weight, Condition.inList.sizeOf_spec]
        omega
      · have hlt := List.sizeOf_lt_of_mem hmem
        simp only [weight, Condition.inList.sizeOf_spec]
        omega
  | isNull operand negated | nested inner | not inner =>
      obtain rfl := List.mem_singleton.mp h
      simp only [weight, Condition.isNull.sizeOf_spec,
        Condition.nested.sizeOf_spec, Condition.not.sizeOf_spec]
      omega
  | raw _ => simp [childrenOfCondition] at h

theorem weight_lt_of_mem_children {child node : Node}
    (h : child ∈ node.children) : child.weight < node.weight := by
  cases node with
  | select s =>
      obtain ⟨distinct, es, ts, js, c, fs, limit, offset⟩ := s
      simp only [children, List.cons_append, List.mem_cons, List.mem_append,
        List.mem_map, Option.mem_toList, Option.map_eq_some_iff] at h
      rcases h with rfl | rfl | (⟨j, hmem, rfl⟩ | ⟨c, rfl, rfl⟩) | hfs
      · simp only [weight, Select.mk.sizeOf_spec]
        omega
      · simp only [weight, Select.mk.sizeOf_spec]
        omega
      · have hlt := List.sizeOf_lt_of_mem hmem
        simp only [weight, Select.mk.sizeOf_spec]
        omega
      · simp only [weight, Select.mk.sizeOf_spec, Option.some.sizeOf_spec]
        omega
      · split at hfs
        · simp at hfs
        · obtain rfl := List.mem_singleton.mp hfs
          simp only [weight, Select.mk.sizeOf_spec]
          omega
  | items es =>
      obtain ⟨e, hmem, rfl⟩ := List.mem_map.mp h
      exact List.sizeOf_lt_of_mem hmem
  | tables ts =>
      obtain ⟨t, hmem, rfl⟩ := List.mem_map.mp h
      have hlt := List.sizeOf_lt_of_mem hmem
      simp only [weight]
      omega
  | join j =>
      obtain ⟨kind, t, c⟩ := j
      simp only [children, List.mem_cons, List.not_mem_nil, or_false] at h
      rcases h with rfl | rfl
      all_goals
        simp only [weight, Join.mk.sizeOf_spec]
        omega
  | filter c =>
      obtain rfl := List.mem_singleton.mp h
      simp [weight]
  | order fs =>
      obtain ⟨f, hmem, rfl⟩ := List.mem_map.mp h
      exact List.sizeOf_lt_of_mem hmem
  | orderField f =>
      obtain rfl := List.mem_singleton.mp h
      obtain ⟨e, direction, nulls⟩ := f
      simp only [weight, OrderField.mk.sizeOf_spec]
      omega
  | table _ => simp [children] at h
  | expr e => exact weight_lt_of_mem_childrenOfExpr h
  | condition c => exact weight_lt_of_mem_childrenOfCondition h

/-- What holds of a node whenever it holds of its children holds of every node.
-/
theorem inductionOn {motive : Node → Prop} (node : Node)
    (step : ∀ node : Node,
      (∀ child ∈ node.children, motive child) → motive node) :
    motive node :=
  step node fun child h =>
    have := weight_lt_of_mem_children h
    inductionOn child step
termination_by node.weight

end Node

end SqlStatement
