import SqlStatement.Draft
import Mathlib.Tactic

/-!
# What steps make of a draft

Each step of a draft is about one part of it and leaves the others as they are.
What becomes of a part depends on its own steps alone, in the order in which
they were given: joins and ORDER BY fields add up, the last limit and the last
offset count, and so does a DISTINCT wherever it stands.  The WHERE goes from
one condition to the next.
-/

namespace SqlStatement

namespace Draft

namespace Step

def join? : Step → Option Join
  | .join kind table on => some ⟨kind, table, on⟩
  | _ => none

def orderFields : Step → List OrderField
  | .order fields => fields
  | _ => []

def limit? : Step → Option UInt64
  | .limit count => some count
  | _ => none

def offset? : Step → Option UInt64
  | .offset count => some count
  | _ => none

def isDistinct : Step → Bool
  | .distinct => true
  | _ => false

/-- The WHERE after a step, by the one before it. -/
def newFilter (old : Option Condition) : Step → Option Condition
  | .filter condition => some condition
  | .and condition => some (combine .and old condition)
  | .or condition => some (combine .or old condition)
  | _ => old

end Step

theorem start_eq (items : List Expr) (tables : List Table) :
    start items tables =
      ⟨false, items, tables, [], none, [], none, none⟩ :=
  rfl

/-- How often a builder was made distinct before the FROM does not count. -/
theorem startAfter_eq (early : ℕ) (items : List Expr) (tables : List Table) :
    startAfter early items tables =
      ⟨decide (0 < early), items, tables, [], none, [], none, none⟩ := by
  induction early with
  | zero => exact start_eq items tables
  | succ early ih =>
      have hsucc : startAfter (early + 1) items tables =
          { startAfter early items tables with distinct := true } := rfl
      rw [hsucc, ih]
      simp

theorem add_eq (draft : Draft) (step : Step) :
    draft.add step =
      { distinct := draft.distinct || step.isDistinct
        items := draft.items
        tables := draft.tables
        joins := draft.joins ++ step.join?.toList
        filter := step.newFilter draft.filter
        order := draft.order ++ step.orderFields
        limit := step.limit?.or draft.limit
        offset := step.offset?.or draft.offset } := by
  cases step with
  | join kind table on =>
      rw [add_join]
      simp [Step.isDistinct, Step.join?, Step.newFilter, Step.orderFields,
        Step.limit?, Step.offset?]
  | _ =>
      simp [add, Builder.withDistinct, Step.isDistinct, Step.join?,
        Step.newFilter, Step.orderFields, Step.limit?, Step.offset?]

theorem addAll_cons (draft : Draft) (step : Step) (steps : List Step) :
    draft.addAll (step :: steps) = (draft.add step).addAll steps :=
  rfl

theorem addAll_append (draft : Draft) (before after : List Step) :
    draft.addAll (before ++ after) = (draft.addAll before).addAll after :=
  List.foldl_append

theorem addAll_eq (draft : Draft) (steps : List Step) :
    draft.addAll steps =
      { distinct := draft.distinct || steps.any Step.isDistinct
        items := draft.items
        tables := draft.tables
        joins := draft.joins ++ steps.filterMap Step.join?
        filter := steps.foldl Step.newFilter draft.filter
        order := draft.order ++ steps.flatMap Step.orderFields
        limit := (steps.filterMap Step.limit?).getLast?.or draft.limit
        offset :=
          (steps.filterMap Step.offset?).getLast?.or draft.offset } := by
  induction steps generalizing draft with
  | nil => simp [addAll]
  | cons step steps ih =>
      have hlast : ∀ (part? : Step → Option UInt64) (old : Option UInt64),
          (steps.filterMap part?).getLast?.or ((part? step).or old) =
            ((step :: steps).filterMap part?).getLast?.or old := by
        intro part? old
        cases hpart : part? step with
        | none => rw [List.filterMap_cons_none hpart, Option.none_or]
        | some count =>
            rw [List.filterMap_cons_some hpart, List.getLast?_cons]
            cases (steps.filterMap part?).getLast? <;> rfl
      have hjoins : step.join?.toList ++ steps.filterMap Step.join? =
          (step :: steps).filterMap Step.join? := by
        cases hjoin : step.join? with
        | none =>
            rw [List.filterMap_cons_none hjoin]
            rfl
        | some join =>
            rw [List.filterMap_cons_some hjoin]
            rfl
      rw [addAll_cons, ih, add_eq, hlast, hlast, List.append_assoc, hjoins,
        Bool.or_assoc, List.append_assoc, List.any_cons, List.flatMap_cons,
        List.foldl_cons]

end Draft

end SqlStatement
