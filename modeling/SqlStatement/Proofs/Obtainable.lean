import SqlStatement.Proofs.ShapeCheck
import SqlStatement.Proofs.Steps
import Mathlib

/-!
# Statements that can be obtained

A statement comes into being only when a draft is built, and the statements in
parentheses that a draft is given were obtained in the same way before.  So
each of them is valid, and by induction on how it was obtained so is every
statement in it, although the import check of the outer one never looks into
the inner ones.
-/

namespace SqlStatement

namespace Draft

def Step.subSelects : Step → List Select
  | .join _ _ on => on.subSelects
  | .filter condition => condition.subSelects
  | .and condition => condition.subSelects
  | .or condition => condition.subSelects
  | .order fields => fields.flatMap (Expr.subSelects ∘ OrderField.expr)
  | .limit _ => []
  | .offset _ => []
  | .distinct => []

/-- The sub-selects in all that a draft is given, also in what a later step
replaces. -/
def inputSubSelects (items : List Expr) (steps : List Step) : List Select :=
  items.flatMap Expr.subSelects ++ steps.flatMap Step.subSelects

end Draft

inductive Select.Obtainable : Select → Prop where
  | build {early : ℕ} {items : List Expr} {tables : List Table}
      {steps : List Draft.Step} {select : Select}
      (hinputs : ∀ sub ∈ Draft.inputSubSelects items steps, Obtainable sub)
      (hbuild : ((Draft.startAfter early items tables).addAll steps).build =
        .ok select) :
      Obtainable select

/-- What holds of one level of a statement: it selects something from
something, nothing in its scope is ill-shaped, and it imports what it
requires. -/
structure Select.Valid (select : Select) : Prop where
  items_ne_nil : select.items ≠ []
  tables_ne_nil : select.tables ≠ []
  scope_wellShaped : ∀ expr ∈ select.scope, expr.WellShaped
  conditions_wellShaped : ∀ condition ∈ select.conditions,
    condition.WellShaped
  imports : select.checkImports = .ok ()

theorem Select.valid_of_check {select : Select} (h : select.check = .ok ()) :
    select.Valid := by
  obtain ⟨hitems, htables, hshapes, himports⟩ := select.check_eq_ok_iff.mp h
  refine ⟨hitems, htables, ?_, ?_, himports⟩
  · intro expr hmem
    apply expr.checkShape_eq_ok_iff.mp
    exact (select.reaches_of_mem_scope expr hmem).checkShape_eq_ok hshapes
  · intro condition hmem
    apply condition.checkShape_eq_ok_iff.mp
    exact (select.reaches_of_mem_conditions condition hmem).checkShape_eq_ok
      hshapes

/-! ## Where the sub-selects of a draft come from -/

theorem Select.subSelects_eq (select : Select) :
    select.subSelects =
      select.items.flatMap Expr.subSelects ++
        select.joins.flatMap (Condition.subSelects ∘ Join.on) ++
        select.filter.toList.flatMap Condition.subSelects ++
        select.order.flatMap (Expr.subSelects ∘ OrderField.expr) := by
  simp only [subSelects, scope, List.filterMap_append, List.filterMap_flatMap]
  rfl

theorem Draft.mem_subSelects_combine
    {conjunction : Condition → Condition → Condition}
    (hconjunction : ∀ left right : Condition,
      (conjunction left right).subSelects = left.subSelects ++ right.subSelects)
    (old : Option Condition) (new : Condition) (sub : Select)
    (h : sub ∈ (combine conjunction old new).subSelects) :
    sub ∈ old.toList.flatMap Condition.subSelects ∨ sub ∈ new.subSelects := by
  cases old with
  | none => exact .inr h
  | some old =>
      rw [combine, hconjunction, List.mem_append] at h
      simpa using h

theorem Condition.subSelects_and (left right : Condition) :
    (Condition.and left right).subSelects =
      left.subSelects ++ right.subSelects := by
  simp [subSelects, scope]

theorem Condition.subSelects_or (left right : Condition) :
    (Condition.or left right).subSelects =
      left.subSelects ++ right.subSelects := by
  simp [subSelects, scope]

theorem Draft.mem_subSelects_add {draft : Draft} {step : Step} {sub : Select}
    (h : sub ∈ (draft.add step).select.subSelects) :
    sub ∈ draft.select.subSelects ∨ sub ∈ step.subSelects := by
  cases step with
  | join kind table on =>
      rw [add_join] at h
      simp only [select, Select.subSelects_eq, List.flatMap_append,
        List.flatMap_singleton, Function.comp_apply, List.mem_append] at h ⊢
      tauto
  | filter condition =>
      simp only [add, select, Select.subSelects_eq, Option.toList_some,
        List.flatMap_singleton, List.mem_append] at h ⊢
      tauto
  | and condition =>
      simp only [add, select, Select.subSelects_eq, Option.toList_some,
        List.flatMap_singleton, List.mem_append] at h ⊢
      have hcombine := mem_subSelects_combine Condition.subSelects_and
        draft.filter condition sub
      tauto
  | or condition =>
      simp only [add, select, Select.subSelects_eq, Option.toList_some,
        List.flatMap_singleton, List.mem_append] at h ⊢
      have hcombine := mem_subSelects_combine Condition.subSelects_or
        draft.filter condition sub
      tauto
  | order fields =>
      simp only [add, select, Select.subSelects_eq, List.flatMap_append,
        List.mem_append] at h ⊢
      tauto
  | limit count => exact .inl h
  | offset count => exact .inl h
  | distinct => exact .inl h

theorem Draft.mem_subSelects_addAll {draft : Draft} {steps : List Step}
    {sub : Select} (h : sub ∈ (draft.addAll steps).select.subSelects) :
    sub ∈ draft.select.subSelects ∨ sub ∈ steps.flatMap Step.subSelects := by
  induction steps generalizing draft with
  | nil => exact .inl h
  | cons step steps ih =>
      rw [List.flatMap_cons, List.mem_append]
      rcases @ih (draft.add step) h with hadded | hlater
      · rcases mem_subSelects_add hadded with hbefore | hstep
        · exact .inl hbefore
        · exact .inr (.inl hstep)
      · exact .inr (.inr hlater)

theorem Draft.mem_inputSubSelects_addAll {early : ℕ} {items : List Expr}
    {tables : List Table} {steps : List Step} {sub : Select}
    (h : sub ∈ ((startAfter early items tables).addAll
      steps).select.subSelects) :
    sub ∈ inputSubSelects items steps := by
  rw [inputSubSelects, List.mem_append]
  rcases mem_subSelects_addAll h with hstart | hsteps
  · left
    rw [startAfter_eq, Select.subSelects_eq] at hstart
    simpa [select] using hstart
  · exact .inr hsteps

theorem Draft.mem_inputSubSelects_of_build {early : ℕ} {items : List Expr}
    {tables : List Table} {steps : List Step} {select sub : Select}
    (hbuild : ((startAfter early items tables).addAll steps).build =
      .ok select)
    (h : sub ∈ select.subSelects) : sub ∈ inputSubSelects items steps := by
  obtain ⟨_, rfl⟩ := (build_eq_ok_iff _ select).mp hbuild
  exact mem_inputSubSelects_addAll h

/-! ## Validity at every level -/

namespace Select.Obtainable

theorem check_eq_ok {select : Select} (h : select.Obtainable) :
    select.check = .ok () := by
  cases h with
  | build _ hbuild =>
      obtain ⟨hcheck, rfl⟩ := (Draft.build_eq_ok_iff _ select).mp hbuild
      exact hcheck

theorem valid {select : Select} (h : select.Obtainable) : select.Valid :=
  Select.valid_of_check h.check_eq_ok

theorem of_mem_subSelects {select sub : Select} (h : select.Obtainable)
    (hsub : sub ∈ select.subSelects) : sub.Obtainable := by
  cases h with
  | build hinputs hbuild =>
      exact hinputs sub (Draft.mem_inputSubSelects_of_build hbuild hsub)

theorem of_within {select inner : Select} (hwithin : inner.Within select)
    (h : select.Obtainable) : inner.Obtainable := by
  induction hwithin with
  | self => exact h
  | deeper hsub _ ih => exact ih (h.of_mem_subSelects hsub)

end Select.Obtainable

end SqlStatement
