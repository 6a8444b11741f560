import SqlStatement.Proofs.ImportCheck
import SqlStatement.Proofs.Rebuild
import Mathlib.Tactic

/-!
# References that are resolved

In a statement that was obtained every column of the select list, the WHERE
and the ORDER BY belongs to a table of FROM or JOIN, and so does every
asterisk of one table in the select list.  No more is checked: an ON condition
may refer to anything, and so may an asterisk outside of the select list.
-/

namespace SqlStatement

theorem Select.Valid.imports_of_mem_required {select : Select}
    (h : select.Valid) {requirement : Clause × Identifier}
    (hmem : requirement ∈ select.required) : select.Imports requirement.2 := by
  have himports := h.imports
  rw [select.checkImports_eq, Imports.finish_eq_ok_iff] at himports
  exact (Imports.isImported_eq_true_iff _ _).mp (himports requirement hmem)

theorem mem_inClause_filterMap (clause : Clause) {exprs : List Expr}
    {table? : Expr → Option Table} {expr : Expr} {table : Table}
    (hmem : expr ∈ exprs) (htable : table? expr = some table) :
    (clause, table.reference) ∈ inClause clause (exprs.filterMap table?) :=
  List.mem_map_of_mem (List.mem_filterMap.mpr ⟨expr, hmem, htable⟩)

/-- The tables of the columns in the select list, the WHERE and the ORDER BY,
and those of the asterisks in the select list, are imported by name. -/
theorem obtainable_imports_checked_references (select : Select)
    (h : select.Obtainable) :
    (∀ expr ∈ select.items.flatMap Expr.scope, ∀ table,
      expr.sourceTable? = some table → select.Imports table.reference) ∧
    (∀ expr ∈ select.filter.toList.flatMap Condition.scope, ∀ table,
      expr.columnTable? = some table → select.Imports table.reference) ∧
    ∀ expr ∈ select.order.flatMap (Expr.scope ∘ OrderField.expr), ∀ table,
      expr.columnTable? = some table → select.Imports table.reference := by
  have hrequired : ∀ (clause : Clause) (table : Table),
      (clause, table.reference) ∈ select.required →
        select.Imports table.reference :=
    fun clause table hmem => h.valid.imports_of_mem_required hmem
  refine ⟨?_, ?_, ?_⟩
  · intro expr hexpr table htable
    have hmem := mem_inClause_filterMap .selectColumn hexpr htable
    apply hrequired .selectColumn
    exact List.mem_append_left _ (List.mem_append_left _ hmem)
  · intro expr hexpr table htable
    have hmem := mem_inClause_filterMap .wherePredicate hexpr htable
    apply hrequired .wherePredicate
    exact List.mem_append_left _ (List.mem_append_right _ hmem)
  · intro expr hexpr table htable
    have hmem := mem_inClause_filterMap .orderByColumn hexpr htable
    apply hrequired .orderByColumn
    exact List.mem_append_right _ hmem

theorem buyers_imports_checked_references :
    Draft.buyers.select.Obtainable ∧
      .column Draft.userId ∈
        Draft.buyers.select.filter.toList.flatMap Condition.scope ∧
      Draft.buyers.select.Imports Draft.users.reference := by
  have hmem : .column Draft.userId ∈
      Draft.buyers.select.filter.toList.flatMap Condition.scope :=
    List.mem_cons_self
  have himports := (obtainable_imports_checked_references Draft.buyers.select
    Draft.buyers_obtainable).2.1 (.column Draft.userId) hmem Draft.users rfl
  exact ⟨Draft.buyers_obtainable, hmem, himports⟩

namespace Draft

def stock : Table :=
  ⟨⟨"stock", false, by decide⟩, none⟩

def stockId : Column :=
  ⟨stock, userId.name⟩

/-- Refers to the stock, which it does not import, in its ON condition, its
WHERE and its ORDER BY. -/
def strays : Draft :=
  (start [.asterisk (some users)] [users]).addAll
    [.join .inner orders
        (.comparison (.column stockId) .eq (.asterisk (some stock))),
      .filter (.isNull (.asterisk (some stock)) false),
      .order [⟨.asterisk (some stock), none, none⟩]]

theorem strays_obtainable : strays.select.Obtainable := by
  have hcheck : strays.select.check = .ok () := by cbv
  exact Select.obtainable_of_check (List.forall_mem_nil _) hcheck

end Draft

/-- A statement that refers to a table it does not import can be obtained: by
a column or an asterisk in an ON condition, and by an asterisk in the WHERE or
in the ORDER BY. -/
theorem strays_obtainable_without_imports :
    Draft.strays.select.Obtainable ∧
      ¬ Draft.strays.select.Imports Draft.stock.reference ∧
      (∃ join ∈ Draft.strays.select.joins,
        .column Draft.stockId ∈ join.on.scope ∧
          .asterisk (some Draft.stock) ∈ join.on.scope) ∧
      (∃ condition ∈ Draft.strays.select.filter,
        .asterisk (some Draft.stock) ∈ condition.scope) ∧
      (∃ field ∈ Draft.strays.select.order,
        .asterisk (some Draft.stock) ∈ field.expr.scope) ∧
      ¬ ∀ expr ∈ Draft.strays.select.scope, ∀ table,
        expr.sourceTable? = some table →
          Draft.strays.select.Imports table.reference := by
  have hmissing : ¬ Draft.strays.select.Imports Draft.stock.reference := by
    unfold Select.Imports
    decide
  refine ⟨Draft.strays_obtainable, hmissing, ?_, ?_, ?_, ?_⟩
  · exact ⟨_, List.mem_singleton_self _, by simp [Condition.scope, Expr.scope],
      by simp [Condition.scope, Expr.scope]⟩
  · exact ⟨_, rfl, List.mem_singleton_self _⟩
  · exact ⟨_, List.mem_singleton_self _, List.mem_singleton_self _⟩
  · intro himports
    have hscope : .column Draft.stockId ∈ Draft.strays.select.scope :=
      List.mem_cons_of_mem _ List.mem_cons_self
    exact hmissing (himports (.column Draft.stockId) hscope Draft.stock rfl)

end SqlStatement
