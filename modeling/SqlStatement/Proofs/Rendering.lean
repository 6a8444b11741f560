import SqlStatement.Dialect.Known
import SqlStatement.Proofs.Rebuild
import SqlStatement.Proofs.Writing
import Mathlib.Tactic

/-!
# Rendering

Whatever is rendered comes out as the layout words it, in every style.  It
takes no more than that the statements in it were obtained from drafts; the
conditions and expressions around them may be put together by hand.
-/

namespace SqlStatement

/-! ## Nodes around statements that were built -/

/-- The statements that a walk through a node comes to first. -/
def Node.subSelects : Node → List Select
  | .select s => [s]
  | .items es => es.flatMap Expr.subSelects
  | .tables _ => []
  | .join j => j.on.subSelects
  | .filter c => c.subSelects
  | .order fs => fs.flatMap (Expr.subSelects ∘ OrderField.expr)
  | .orderField f => f.expr.subSelects
  | .table _ => []
  | .expr e => e.subSelects
  | .condition c => c.subSelects

/-- Statements can only be obtained, anything else may be put together by
hand around them. -/
def Node.Built (node : Node) : Prop :=
  ∀ sub ∈ node.subSelects, sub.Obtainable

theorem Select.subSelects_subset_of_mem_children {select : Select}
    {child : Node} (h : child ∈ (Node.select select).children) :
    child.subSelects ⊆ select.subSelects := by
  intro sub hsub
  rw [Select.subSelects_eq]
  simp only [List.mem_append]
  simp only [Node.children, List.cons_append, List.mem_cons, List.mem_append,
    List.mem_map, Option.mem_toList, Option.map_eq_some_iff] at h
  rcases h with rfl | rfl | (⟨join, hjoin, rfl⟩ | ⟨condition, hfilter, rfl⟩) |
    horder
  · exact .inl (.inl (.inl hsub))
  · cases hsub
  · exact .inl (.inl (.inr (List.mem_flatMap.mpr ⟨join, hjoin, hsub⟩)))
  · have hmem : condition ∈ select.filter.toList :=
      Option.mem_toList.mpr hfilter
    exact .inl (.inr (List.mem_flatMap.mpr ⟨condition, hmem, hsub⟩))
  · split at horder
    · cases horder
    · obtain rfl := List.mem_singleton.mp horder
      exact .inr hsub

theorem Expr.subSelects_subset_of_mem_children {expr : Expr}
    {child : Node} (h : child ∈ (Node.expr expr).children) :
    child.subSelects ⊆ expr.subSelects := by
  intro sub hsub
  cases expr with
  | function name args =>
      obtain ⟨arg, harg, rfl⟩ := List.mem_map.mp h
      have hscope : arg.scope ⊆ (Expr.function name args).scope := by
        rw [Expr.scope, Expr.listScope_eq_flatMap]
        intro inner hinner
        exact List.mem_cons_of_mem _ (List.mem_flatMap.mpr ⟨arg, harg, hinner⟩)
      exact List.filterMap_subset _ hscope hsub
  | subSelect select =>
      obtain rfl := List.mem_singleton.mp h
      exact hsub
  | column _ | raw _ | asterisk _ | literal _ | bind _ =>
      simp [Node.children, Node.childrenOfExpr] at h

theorem Condition.subSelects_subset_of_mem_children {condition : Condition}
    {child : Node} (h : child ∈ (Node.condition condition).children) :
    child.subSelects ⊆ condition.subSelects := by
  intro sub hsub
  cases condition with
  | comparison left comparator right | like left right
  | and left right | or left right =>
      simp only [Node.children, Node.childrenOfCondition, List.mem_cons,
        List.not_mem_nil, or_false] at h
      rcases h with rfl | rfl
      · exact List.filterMap_subset _ (List.subset_append_left _ _) hsub
      · exact List.filterMap_subset _ (List.subset_append_right _ _) hsub
  | inList left args negated =>
      rcases List.mem_cons.mp h with rfl | hargs
      · exact List.filterMap_subset _ (List.subset_append_left _ _) hsub
      · obtain ⟨arg, harg, rfl⟩ := List.mem_map.mp hargs
        have hscope : arg.scope ⊆ args.flatMap Expr.scope :=
          fun inner hinner => List.mem_flatMap.mpr ⟨arg, harg, hinner⟩
        exact List.filterMap_subset _
          (List.subset_append_of_subset_right _ hscope) hsub
  | isNull operand negated =>
      obtain rfl := List.mem_singleton.mp h
      exact hsub
  | nested inner | not inner =>
      obtain rfl := List.mem_singleton.mp h
      exact hsub
  | raw text => simp [Node.children, Node.childrenOfCondition] at h

theorem Node.Built.of_mem_children {node child : Node} (h : node.Built)
    (hmem : child ∈ node.children) : child.Built := by
  intro sub hsub
  cases node with
  | select select =>
      have hselect : select.Obtainable := h select List.mem_cons_self
      exact hselect.of_mem_subSelects
        (Select.subSelects_subset_of_mem_children hmem hsub)
  | items items =>
      obtain ⟨item, hitem, rfl⟩ := List.mem_map.mp hmem
      exact h sub (List.mem_flatMap.mpr ⟨item, hitem, hsub⟩)
  | tables tables =>
      obtain ⟨table, _, rfl⟩ := List.mem_map.mp hmem
      cases hsub
  | join join =>
      simp only [children, List.mem_cons, List.not_mem_nil, or_false] at hmem
      rcases hmem with rfl | rfl
      · cases hsub
      · exact h sub hsub
  | filter condition =>
      obtain rfl := List.mem_singleton.mp hmem
      exact h sub hsub
  | order fields =>
      obtain ⟨field, hfield, rfl⟩ := List.mem_map.mp hmem
      exact h sub (List.mem_flatMap.mpr ⟨field, hfield, hsub⟩)
  | orderField field =>
      obtain rfl := List.mem_singleton.mp hmem
      exact h sub hsub
  | table table => cases hmem
  | expr expr => exact h sub (Expr.subSelects_subset_of_mem_children hmem hsub)
  | condition condition =>
      exact h sub (Condition.subSelects_subset_of_mem_children hmem hsub)

/-! ## All writers -/

theorem Node.written (style : Style) (node : Node) (h : node.Built) :
    node.Written style := by
  induction node using Node.inductionOn with
  | step node ih =>
      have hchild : ∀ child ∈ node.children, child.Written style :=
        fun child hmem => ih child hmem (h.of_mem_children hmem)
      cases node with
      | select select =>
          have hselect : select.Obtainable := h select List.mem_cons_self
          exact Writer.select_written hselect.valid hchild
      | items items => exact Writer.items_written hchild
      | tables tables => exact Writer.tables_written tables
      | join join => exact Writer.join_written hchild
      | filter condition => exact Writer.filter_written hchild
      | order fields => exact Writer.order_written hchild
      | orderField field => exact Writer.orderField_written hchild
      | table table => trivial
      | expr expr => exact Writer.expr_written hchild
      | condition condition => exact Writer.condition_written hchild

theorem Style.renderSelect_eq (style : Style) (select : Select)
    (h : select.Obtainable) :
    style.renderSelect select = .ok (style.select select) := by
  have hbuilt : (Node.select select).Built := by
    intro sub hsub
    obtain rfl := List.mem_singleton.mp hsub
    exact h
  exact Writer.Writes.text_eq (Node.written style (.select select) hbuilt)

theorem Style.renderCondition_eq (style : Style) (condition : Condition)
    (h : ∀ sub ∈ condition.subSelects, sub.Obtainable) :
    style.renderCondition condition = .ok (style.condition condition) :=
  Writer.Writes.text_eq (Node.written style (.condition condition) h)

theorem Style.renderExpr_eq (style : Style) (expr : Expr)
    (h : ∀ sub ∈ expr.subSelects, sub.Obtainable) :
    style.renderExpr expr = .ok (style.expr expr) :=
  Writer.Writes.text_eq (Node.written style (.expr expr) h)

/-- No rendering fails as long as the statements in it were obtained, and the
text of each construct is put together from the texts of its parts. -/
theorem render_total_and_compositional (style : Style) :
    style.Compositional ∧
      (∀ select : Select, select.Obtainable →
        style.renderSelect select = .ok (style.select select)) ∧
      (∀ condition : Condition,
        (∀ sub ∈ condition.subSelects, sub.Obtainable) →
          style.renderCondition condition = .ok (style.condition condition)) ∧
      ∀ expr : Expr, (∀ sub ∈ expr.subSelects, sub.Obtainable) →
        style.renderExpr expr = .ok (style.expr expr) :=
  ⟨style.compositional, style.renderSelect_eq, style.renderCondition_eq,
    style.renderExpr_eq⟩

theorem buyers_rendered :
    Draft.buyers.select.Obtainable ∧
      (⟨Dialect.postgres, .asDeclared⟩ : Style).renderSelect
          Draft.buyers.select =
        .ok ("SELECT \"users\".* FROM \"users\" WHERE \"users\".id IN " ++
          "(SELECT o.buyer FROM orders AS o) LIMIT 10") := by
  have hrender := (render_total_and_compositional
    ⟨Dialect.postgres, .asDeclared⟩).2.1 Draft.buyers.select
    Draft.buyers_obtainable
  refine ⟨Draft.buyers_obtainable, hrender.trans (congrArg Except.ok ?_)⟩
  cbv

end SqlStatement
