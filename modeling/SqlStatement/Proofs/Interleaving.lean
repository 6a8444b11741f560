import SqlStatement.Proofs.Rebuild
import Mathlib.Tactic

/-!
# Steps of different clauses

Since a step is about one part of a draft, the result of a draft does not depend
on how the steps of different clauses are mixed, nor on whether DISTINCT comes
before the FROM or after it.  Two drafts that were given the same calls for each
clause are the same draft.

The WHERE starts anew with the last condition that was given as a whole WHERE,
and takes in the later ones from left to right.
-/

namespace SqlStatement

namespace Draft

/-- A condition that is added to a WHERE, and how it is joined to the one that
is there. -/
structure Addition where
  conjunction : Condition → Condition → Condition
  condition : Condition

namespace Step

def isAboutFilter : Step → Bool
  | .filter _ | .and _ | .or _ => true
  | _ => false

def addition? : Step → Option Addition
  | .and condition => some ⟨.and, condition⟩
  | .or condition => some ⟨.or, condition⟩
  | _ => none

end Step

/-- What is asked of a builder beside its select list and its FROM: DISTINCT, so
many times before the FROM, and the steps after it. -/
structure Calls where
  early : ℕ
  steps : List Step

namespace Calls

def draft (calls : Calls) (items : List Expr) (tables : List Table) : Draft :=
  (startAfter calls.early items tables).addAll calls.steps

def isDistinct (calls : Calls) : Bool :=
  decide (0 < calls.early) || calls.steps.any Step.isDistinct

end Calls

/-- The same calls for each clause, whatever stands between them.  How ORDER BY
fields are spread over steps does not count, nor does a limit or an offset that
another one follows. -/
structure SameCalls (first second : Calls) : Prop where
  joins : first.steps.filterMap Step.join? = second.steps.filterMap Step.join?
  filter : first.steps.filter Step.isAboutFilter =
    second.steps.filter Step.isAboutFilter
  order : first.steps.flatMap Step.orderFields =
    second.steps.flatMap Step.orderFields
  limit : (first.steps.filterMap Step.limit?).getLast? =
    (second.steps.filterMap Step.limit?).getLast?
  offset : (first.steps.filterMap Step.offset?).getLast? =
    (second.steps.filterMap Step.offset?).getLast?
  distinct : first.isDistinct = second.isDistinct

/-- No step gives a whole WHERE. -/
def KeepsFilter (steps : List Step) : Prop :=
  ∀ condition, .filter condition ∉ steps

/-- A condition with others added to it from left to right. -/
def conjoin (first : Condition) (additions : List Addition) : Condition :=
  additions.foldl (fun old new => new.conjunction old new.condition) first

/-- Without a WHERE to begin with, the first condition stands for itself. -/
def conjoinAll : List Addition → Option Condition
  | [] => none
  | first :: additions => some (conjoin first.condition additions)

/-! ## The WHERE after some steps -/

/-- A step that is not about the WHERE can be left out, as far as the WHERE is
concerned. -/
theorem foldl_newFilter_filter (old : Option Condition) (steps : List Step) :
    (steps.filter Step.isAboutFilter).foldl Step.newFilter old =
      steps.foldl Step.newFilter old := by
  rw [List.foldl_filter]
  congr
  funext old step
  cases step <;> rfl

theorem foldl_newFilter_of_some (old : Condition) {steps : List Step}
    (hkeeps : KeepsFilter steps) :
    steps.foldl Step.newFilter (some old) =
      some (conjoin old (steps.filterMap Step.addition?)) := by
  induction steps generalizing old with
  | nil => rfl
  | cons step steps ih =>
      have hrest : KeepsFilter steps := fun condition hmem =>
        hkeeps condition (List.mem_cons_of_mem _ hmem)
      cases step with
      | filter condition => exact absurd List.mem_cons_self (hkeeps condition)
      | and condition | or condition => exact ih _ hrest
      | _ => exact ih old hrest

theorem foldl_newFilter_of_none {steps : List Step}
    (hkeeps : KeepsFilter steps) :
    steps.foldl Step.newFilter none =
      conjoinAll (steps.filterMap Step.addition?) := by
  induction steps with
  | nil => rfl
  | cons step steps ih =>
      have hrest : KeepsFilter steps := fun condition hmem =>
        hkeeps condition (List.mem_cons_of_mem _ hmem)
      cases step with
      | filter condition => exact absurd List.mem_cons_self (hkeeps condition)
      | and condition | or condition =>
          -- From here on there is a WHERE to add to.
          exact foldl_newFilter_of_some condition hrest
      | _ => exact ih hrest

theorem foldl_newFilter_since (old : Option Condition) (condition : Condition)
    (before : List Step) {after : List Step} (hkeeps : KeepsFilter after) :
    (before ++ .filter condition :: after).foldl Step.newFilter old =
      some (conjoin condition (after.filterMap Step.addition?)) := by
  rw [List.foldl_append, List.foldl_cons]
  exact foldl_newFilter_of_some condition hkeeps

/-! ## The law -/

theorem Calls.draft_eq (calls : Calls) (items : List Expr)
    (tables : List Table) :
    calls.draft items tables =
      { distinct := calls.isDistinct
        items := items
        tables := tables
        joins := calls.steps.filterMap Step.join?
        filter := calls.steps.foldl Step.newFilter none
        order := calls.steps.flatMap Step.orderFields
        limit := (calls.steps.filterMap Step.limit?).getLast?
        offset := (calls.steps.filterMap Step.offset?).getLast? } := by
  rw [Calls.draft, startAfter_eq, addAll_eq]
  simp [Calls.isDistinct]

theorem SameCalls.draft_eq {first second : Calls}
    (h : SameCalls first second) (items : List Expr) (tables : List Table) :
    first.draft items tables = second.draft items tables := by
  have hfilter : first.steps.foldl Step.newFilter none =
      second.steps.foldl Step.newFilter none := by
    rw [← foldl_newFilter_filter, h.filter, foldl_newFilter_filter]
  rw [first.draft_eq, second.draft_eq, h.distinct, h.joins, hfilter, h.order,
    h.limit, h.offset]

/-- The joins and the WHERE of a statement are those of the steps that led to
it: the joins in the order of the steps, and the WHERE from the last condition
that was given as a whole one, or else from the first one that was added. -/
structure Gathers (steps : List Step) (select : Select) : Prop where
  joins : select.joins = steps.filterMap Step.join?
  filter_since : ∀ before condition after,
    steps = before ++ .filter condition :: after → KeepsFilter after →
      select.filter =
        some (conjoin condition (after.filterMap Step.addition?))
  filter_all : KeepsFilter steps →
    select.filter = conjoinAll (steps.filterMap Step.addition?)

theorem gathers_draft (calls : Calls) (items : List Expr)
    (tables : List Table) :
    Gathers calls.steps (calls.draft items tables).select := by
  rw [calls.draft_eq]
  constructor
  case joins => rfl
  case filter_since =>
    intro before condition after hsteps hkeeps
    change calls.steps.foldl Step.newFilter none = _
    rw [hsteps]
    exact foldl_newFilter_since none condition before hkeeps
  case filter_all => exact foldl_newFilter_of_none

end Draft

/-- Drafts of the same select list and FROM that were given the same calls for
each clause are built alike, or refused with the same error, however the calls
were mixed, and whether DISTINCT was asked for before the FROM or after it.  The
statement gathers its joins and its WHERE from the steps, and a condition that
is added is joined to all of the WHERE that is there. -/
theorem interleaving_leaves_build (items : List Expr) (tables : List Table) :
    (∀ first second : Draft.Calls, Draft.SameCalls first second →
      (first.draft items tables).build =
        (second.draft items tables).build) ∧
    (∀ (calls : Draft.Calls) (select : Select),
      (calls.draft items tables).build = .ok select →
        Draft.Gathers calls.steps select) ∧
    ∀ (early : ℕ) (before after : List Draft.Step) (old : Condition),
      ((Draft.startAfter early items tables).addAll before).filter = some old →
      Draft.KeepsFilter after →
        ((Draft.startAfter early items tables).addAll
          (before ++ after)).filter =
            some (Draft.conjoin old
              (after.filterMap Draft.Step.addition?)) := by
  refine ⟨?_, ?_, ?_⟩
  · intro first second hsame
    rw [hsame.draft_eq items tables]
  · intro calls select hbuild
    obtain ⟨_, rfl⟩ := (Draft.build_eq_ok_iff _ select).mp hbuild
    exact Draft.gathers_draft calls items tables
  · intro early before after old hold hkeeps
    rw [Draft.addAll_append, Draft.addAll_eq, hold]
    exact Draft.foldl_newFilter_of_some old hkeeps

namespace Draft

def buyerKnown : Condition :=
  .isNull (.column ⟨orders, buyer⟩) true

def idKnown : Condition :=
  .isNull (.column userId) true

/-- The WHERE replaces the condition before it. -/
def firstSteps : List Step :=
  [.join .inner orders isBuyer, .and buyerKnown, .filter idKnown]

def laterSteps : List Step :=
  [.or buyerKnown, .and isBuyer,
    .order [⟨.column userId, none, none⟩,
      ⟨.column ⟨orders, buyer⟩, none, none⟩],
    .limit 5]

/-- DISTINCT comes before the FROM. -/
def plainCalls : Calls :=
  ⟨1, firstSteps ++ laterSteps⟩

/-- The same calls in another order, with some that do not count. -/
def mixedCalls : Calls where
  early := 0
  steps :=
    [.limit 7, .and buyerKnown, .order [⟨.column userId, none, none⟩],
      .distinct, .filter idKnown, .join .inner orders isBuyer, .distinct,
      .or buyerKnown, .limit 5, .order [⟨.column ⟨orders, buyer⟩, none, none⟩],
      .and isBuyer]

end Draft

theorem mixed_steps_build_alike :
    Draft.SameCalls Draft.mixedCalls Draft.plainCalls ∧
      Draft.KeepsFilter Draft.laterSteps ∧
      ((Draft.startAfter 1 [.column Draft.userId] [Draft.users]).addAll
        (Draft.firstSteps ++ Draft.laterSteps)).filter =
          some (.and (.or Draft.idKnown Draft.buyerKnown) Draft.isBuyer) ∧
      ∃ select,
        (Draft.mixedCalls.draft [.column Draft.userId]
          [Draft.users]).build = .ok select ∧
        select.joins = [⟨.inner, Draft.orders, Draft.isBuyer⟩] ∧
        select.filter =
          some (.and (.or Draft.idKnown Draft.buyerKnown) Draft.isBuyer) := by
  have hcalls : Draft.SameCalls Draft.mixedCalls Draft.plainCalls :=
    ⟨rfl, rfl, rfl, rfl, rfl, rfl⟩
  have hkeeps : Draft.KeepsFilter Draft.laterSteps := by
    intro condition
    simp [Draft.laterSteps]
  have hbuild : (Draft.plainCalls.draft [.column Draft.userId]
      [Draft.users]).build = .ok (Draft.plainCalls.draft
        [.column Draft.userId] [Draft.users]).select := by
    cbv
  obtain ⟨hsame, hgathers, hadded⟩ :=
    interleaving_leaves_build [.column Draft.userId] [Draft.users]
  have hgathered := hgathers _ _ hbuild
  exact ⟨hcalls, hkeeps, hadded 1 _ _ Draft.idKnown rfl hkeeps, _,
    (hsame _ _ hcalls).trans hbuild, hgathered.joins,
    hgathered.filter_since [_, _] Draft.idKnown Draft.laterSteps rfl hkeeps⟩

end SqlStatement
