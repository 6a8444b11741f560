import SqlStatement.Node
import SqlStatement.Proofs.Scope
import SqlStatement.Proofs.TreeInduction
import Mathlib.Tactic

/-!
# What a walk reaches

From a node a walk goes to its children and from there on.  On the way it
comes to every expression and every condition in the scope of the node, so
that what is checked at each node is checked everywhere in the syntax.
-/

namespace SqlStatement

inductive Node.Reaches : Node → Node → Prop where
  | self (node : Node) : Reaches node node
  | child {node child target : Node} (hmem : child ∈ node.children)
      (h : Reaches child target) : Reaches node target

theorem Node.Reaches.trans {node middle target : Node}
    (hmiddle : node.Reaches middle) (htarget : middle.Reaches target) :
    node.Reaches target := by
  induction hmiddle with
  | self => exact htarget
  | child hmem _ ih => exact .child hmem (ih htarget)

theorem Expr.reaches_of_mem_scope (expr : Expr) :
    ∀ inner ∈ expr.scope, (Node.expr expr).Reaches (.expr inner) := by
  induction expr using Expr.inductionOn with
  | function name args ih =>
      intro inner hmem
      rw [Expr.scope, Expr.listScope_eq_flatMap, List.mem_cons,
        List.mem_flatMap] at hmem
      rcases hmem with rfl | ⟨arg, harg, hinner⟩
      · exact .self _
      · exact .child (List.mem_map_of_mem harg) (ih arg harg inner hinner)
  | _ =>
      intro inner hmem
      obtain rfl := List.mem_singleton.mp hmem
      exact .self _

namespace Condition

theorem left_mem_children {condition : Condition} {left right : Node}
    (h : (Node.condition condition).children = [left, right]) :
    left ∈ (Node.condition condition).children := by
  simp [h]

theorem right_mem_children {condition : Condition} {left right : Node}
    (h : (Node.condition condition).children = [left, right]) :
    right ∈ (Node.condition condition).children := by
  simp [h]

theorem reaches_of_mem_scope (condition : Condition) :
    ∀ inner ∈ condition.scope,
      (Node.condition condition).Reaches (.expr inner) := by
  induction condition using Condition.inductionOn with
  | comparison left comparator right | like left right =>
      intro inner hmem
      rcases List.mem_append.mp hmem with hleft | hright
      · exact .child (left_mem_children rfl)
          (left.reaches_of_mem_scope inner hleft)
      · exact .child (right_mem_children rfl)
          (right.reaches_of_mem_scope inner hright)
  | inList left args negated =>
      intro inner hmem
      rcases List.mem_append.mp hmem with hleft | hargs
      · exact .child List.mem_cons_self (left.reaches_of_mem_scope inner hleft)
      · obtain ⟨arg, harg, hinner⟩ := List.mem_flatMap.mp hargs
        exact .child (List.mem_cons_of_mem _ (List.mem_map_of_mem harg))
          (arg.reaches_of_mem_scope inner hinner)
  | isNull operand negated =>
      intro inner hmem
      exact .child List.mem_cons_self (operand.reaches_of_mem_scope inner hmem)
  | nested inner ih | not inner ih =>
      intro target hmem
      exact .child List.mem_cons_self (ih target hmem)
  | raw text =>
      intro inner hmem
      simp [scope] at hmem
  | and left right ihleft ihright | or left right ihleft ihright =>
      intro inner hmem
      rcases List.mem_append.mp hmem with hleft | hright
      · exact .child (left_mem_children rfl) (ihleft inner hleft)
      · exact .child (right_mem_children rfl) (ihright inner hright)

theorem reaches_of_mem_parts (condition : Condition) :
    ∀ part ∈ condition.parts,
      (Node.condition condition).Reaches (.condition part) := by
  induction condition using Condition.inductionOn with
  | nested inner ih | not inner ih =>
      intro part hmem
      rcases List.mem_cons.mp hmem with rfl | hinner
      · exact .self _
      · exact .child List.mem_cons_self (ih part hinner)
  | and left right ihleft ihright | or left right ihleft ihright =>
      intro part hmem
      rcases List.mem_cons.mp hmem with rfl | hbelow
      · exact .self _
      · rcases List.mem_append.mp hbelow with hleft | hright
        · exact .child (left_mem_children rfl) (ihleft part hleft)
        · exact .child (right_mem_children rfl) (ihright part hright)
  | _ =>
      intro part hmem
      obtain rfl := List.mem_singleton.mp hmem
      exact .self _

end Condition

namespace Select

theorem join_mem_children {select : Select} {join : Join}
    (h : join ∈ select.joins) :
    Node.join join ∈ (Node.select select).children := by
  simp [Node.children, h]

theorem filter_mem_children {select : Select} {condition : Condition}
    (h : select.filter = some condition) :
    Node.filter condition ∈ (Node.select select).children := by
  simp [Node.children, h]

theorem order_mem_children {select : Select} {field : OrderField}
    (h : field ∈ select.order) :
    Node.order select.order ∈ (Node.select select).children := by
  have hne : select.order ≠ [] := List.ne_nil_of_mem h
  simp [Node.children, hne]

theorem reaches_of_mem_scope (select : Select) :
    ∀ inner ∈ select.scope, (Node.select select).Reaches (.expr inner) := by
  intro inner hmem
  simp only [scope, List.mem_append, List.mem_flatMap, Option.mem_toList,
    Function.comp_apply] at hmem
  rcases hmem with ((⟨item, hitem, hinner⟩ | ⟨join, hjoin, hinner⟩) |
    ⟨condition, hfilter, hinner⟩) | ⟨field, hfield, hinner⟩
  · exact .child List.mem_cons_self (.child (List.mem_map_of_mem hitem)
      (item.reaches_of_mem_scope inner hinner))
  · exact .child (join_mem_children hjoin) (.child (by simp [Node.children])
      (join.on.reaches_of_mem_scope inner hinner))
  · exact .child (filter_mem_children hfilter) (.child List.mem_cons_self
      (condition.reaches_of_mem_scope inner hinner))
  · exact .child (order_mem_children hfield)
      (.child (List.mem_map_of_mem hfield) (.child List.mem_cons_self
        (field.expr.reaches_of_mem_scope inner hinner)))

theorem reaches_of_mem_conditions (select : Select) :
    ∀ part ∈ select.conditions,
      (Node.select select).Reaches (.condition part) := by
  intro part hmem
  simp only [conditions, List.mem_append, List.mem_flatMap, Option.mem_toList,
    Function.comp_apply] at hmem
  rcases hmem with ⟨join, hjoin, hpart⟩ | ⟨condition, hfilter, hpart⟩
  · exact .child (join_mem_children hjoin) (.child (by simp [Node.children])
      (join.on.reaches_of_mem_parts part hpart))
  · exact .child (filter_mem_children hfilter) (.child List.mem_cons_self
      (condition.reaches_of_mem_parts part hpart))

end Select

end SqlStatement
