import SqlStatement.Proofs.ClosedScope
import SqlStatement.Proofs.Traversal
import Mathlib.Tactic

/-!
# Collecting from any events

The collector of the import check is a visitor that anyone may drive.  It takes
every event, also one that leaves what was never entered, and from each state
that it can be brought into a walk through a statement does one of two things.
Inside of another statement it leaves no trace.  Outside of all of them it adds
the names and the requirements of the statement to those that are there.

So the collector composes: after walks through several statements, it checks
the requirements of all of them against the imports of all of them.
-/

namespace SqlStatement

namespace Imports

/-- The state after these events, balanced or not. -/
def ofEvents (events : List Event) : Except Error Imports :=
  events.foldlM step empty

/-- The state after walks through these statements. -/
def ofSelects (selects : List Select) : Except Error Imports :=
  selects.foldlM (fun imports select => imports.walk (.select select)) empty

/-! ## No event fails -/

theorem enter_eq_ok (imports : Imports) (node : Node) :
    ∃ next, imports.enter node = .ok next := by
  cases node with
  | select s => exact ⟨_, rfl⟩
  | _ =>
      by_cases hdepth : imports.depth = 1
      · exact ⟨_, if_pos hdepth⟩
      · exact ⟨_, if_neg hdepth⟩

theorem leave_eq_ok (imports : Imports) (node : Node) :
    ∃ next, imports.leave node = .ok next := by
  cases node with
  | select s => exact ⟨_, rfl⟩
  | _ =>
      dsimp only [leave]
      split
      · exact ⟨_, rfl⟩
      · exact ⟨_, rfl⟩

theorem step_eq_ok (imports : Imports) (event : Event) :
    ∃ next, imports.step event = .ok next := by
  cases event with
  | enter node => exact imports.enter_eq_ok node
  | leave node => exact imports.leave_eq_ok node

theorem accepted_collect (events : List Event) (imports : Imports) :
    ∃ reached, events.foldlM step imports = .ok reached ∧
      Event.Accepted collect events imports reached := by
  induction events generalizing imports with
  | nil => exact ⟨imports, rfl, .nil imports⟩
  | cons event events ih =>
      obtain ⟨next, hnext⟩ := imports.step_eq_ok event
      obtain ⟨reached, hreached, haccepted⟩ := ih next
      have hevent := run_collect event imports
      rw [hnext] at hevent
      refine ⟨reached, ?_, .cons hevent haccepted⟩
      rw [List.foldlM_cons, hnext]
      exact hreached

theorem run_walk {node : Node} {imports reached : Imports}
    (h : imports.walk node = .ok reached) :
    ((node.walk collect).run.run imports).run = (.ok (), reached) := by
  obtain ⟨after, hafter, haccepted⟩ := accepted_collect node.events imports
  rw [walk_eq_foldlM_events, hafter] at h
  obtain rfl := Except.ok.inj h
  rw [Node.walk_eq_forM_events]
  exact (Event.forM_eq_ok_iff _ _ _ _).mpr haccepted

/-! ## Several statements -/

theorem foldlM_walk_selects (selects : List Select) {imports : Imports}
    (hdepth : imports.depth = 0) (hregion : imports.region = none) :
    selects.foldlM (fun imports select => imports.walk (.select select))
        imports =
      .ok ⟨0, none, imports.fromNames ++ selects.flatMap Select.fromNames,
        imports.joinNames ++ selects.flatMap Select.joinNames,
        imports.required ++ selects.flatMap Select.required⟩ := by
  induction selects generalizing imports with
  | nil =>
      obtain ⟨depth, region, fromNames, joinNames, required⟩ := imports
      obtain rfl : depth = 0 := hdepth
      obtain rfl : region = none := hregion
      simp only [List.flatMap_nil, List.append_nil]
      rfl
  | cons select selects ih =>
      rw [List.foldlM_cons, walk_select select hdepth]
      refine (ih ?_ rfl).trans ?_
      · exact hdepth
      · simp [within, importFrom, importJoin, requireAll, List.append_assoc]

/-- What is collected of several statements. -/
def together (selects : List Select) : Imports :=
  ⟨0, none, selects.flatMap Select.fromNames, selects.flatMap Select.joinNames,
    selects.flatMap Select.required⟩

theorem ofSelects_eq (selects : List Select) :
    ofSelects selects = .ok (together selects) :=
  foldlM_walk_selects selects rfl rfl

theorem run_walks {selects : List Select} {imports reached : Imports}
    (h : selects.foldlM (fun imports select => imports.walk (.select select))
      imports = .ok reached) :
    ((selects.forM fun select =>
        (Node.select select).walk collect).run.run imports).run =
      (.ok (), reached) := by
  induction selects generalizing imports with
  | nil =>
      obtain rfl := Except.ok.inj h
      rfl
  | cons select selects ih =>
      obtain ⟨next, hnext, _⟩ :=
        accepted_collect (Node.select select).events imports
      rw [← walk_eq_foldlM_events] at hnext
      rw [List.foldlM_cons, hnext] at h
      change (((Node.select select).walk collect >>= fun _ =>
        selects.forM fun select =>
          (Node.select select).walk collect).run.run imports).run = _
      simp only [ExceptT.run_bind, StateT.run_bind, Id.run_bind,
        run_walk hnext]
      exact ih h

end Imports

/-- One of several statements imports a name. -/
def Select.ImportedBy (selects : List Select) (name : Identifier) : Prop :=
  ∃ importing ∈ selects, importing.Imports name

namespace Imports

theorem isImported_together_iff (selects : List Select) (name : Identifier) :
    (together selects).isImported name = true ↔
      Select.ImportedBy selects name := by
  rw [isImported_eq_true_iff]
  unfold together Select.ImportedBy Select.Imports
  constructor
  · rintro ⟨imported, hmem, hname⟩
    rcases List.mem_append.mp hmem with hfrom | hjoin
    · obtain ⟨importing, hselect, hfrom⟩ := List.mem_flatMap.mp hfrom
      exact ⟨importing, hselect, imported,
        List.mem_append_left _ hfrom, hname⟩
    · obtain ⟨importing, hselect, hjoin⟩ := List.mem_flatMap.mp hjoin
      exact ⟨importing, hselect, imported,
        List.mem_append_right _ hjoin, hname⟩
  · rintro ⟨importing, hselect, imported, hmem, hname⟩
    refine ⟨imported, List.mem_append.mpr ?_, hname⟩
    rcases List.mem_append.mp hmem with hfrom | hjoin
    · exact .inl (List.mem_flatMap.mpr ⟨importing, hselect, hfrom⟩)
    · exact .inr (List.mem_flatMap.mpr ⟨importing, hselect, hjoin⟩)

theorem finish_together_eq_ok_iff (selects : List Select) :
    (together selects).finish = .ok () ↔
      ∀ requirement ∈ selects.flatMap Select.required,
        Select.ImportedBy selects requirement.2 := by
  rw [finish_eq_ok_iff]
  exact forall₂_congr fun requirement _ =>
    isImported_together_iff selects requirement.2

theorem finish_together_eq_error (selects : List Select)
    (h : ∃ requirement ∈ selects.flatMap Select.required,
      ¬ Select.ImportedBy selects requirement.2) :
    ∃ before clause missing after,
      selects.flatMap Select.required = before ++ (clause, missing) :: after ∧
        (∀ requirement ∈ before,
          Select.ImportedBy selects requirement.2) ∧
        ¬ Select.ImportedBy selects missing ∧
        (together selects).finish = .error (.missingImport
          ⟨clause, missing, selects.flatMap Select.fromNames,
            selects.flatMap Select.joinNames⟩) := by
  simp only [← isImported_together_iff, Bool.not_eq_true] at h ⊢
  exact finish_eq_error (together selects) h

/-- No event fails, whatever came before it.  From the state after any events,
a walk through a statement changes nothing inside of another one, and outside
of all it adds the statement's own names and requirements.  After walks through
several statements the requirements of all are checked against the imports of
all, and the first one that is not imported is reported. -/
theorem collector_composes_over_statements :
    (∀ events : List Event, ∃ reached,
      ofEvents events = .ok reached ∧
      Event.Accepted collect events empty reached ∧
      ∀ select : Select, ∃ later,
        reached.walk (.select select) = .ok later ∧
        (((Node.select select).walk collect).run.run reached).run =
          (.ok (), later) ∧
        (1 ≤ reached.depth → later = reached) ∧
        (reached.depth = 0 →
          later = ⟨0, none, reached.fromNames ++ select.fromNames,
            reached.joinNames ++ select.joinNames,
            reached.required ++ select.required⟩)) ∧
    ∀ selects : List Select, ∃ reached,
      ofSelects selects = .ok reached ∧
      ((selects.forM fun select =>
          (Node.select select).walk collect).run.run empty).run =
        (.ok (), reached) ∧
      (reached.finish = .ok () ↔
        ∀ requirement ∈ selects.flatMap Select.required,
          Select.ImportedBy selects requirement.2) ∧
      ((∃ requirement ∈ selects.flatMap Select.required,
          ¬ Select.ImportedBy selects requirement.2) →
        ∃ before clause missing after,
          selects.flatMap Select.required =
              before ++ (clause, missing) :: after ∧
            (∀ requirement ∈ before,
              Select.ImportedBy selects requirement.2) ∧
            ¬ Select.ImportedBy selects missing ∧
            reached.finish = .error (.missingImport
              ⟨clause, missing, selects.flatMap Select.fromNames,
                selects.flatMap Select.joinNames⟩)) := by
  constructor
  · intro events
    obtain ⟨reached, hreached, haccepted⟩ := accepted_collect events empty
    refine ⟨reached, hreached, haccepted, fun select => ?_⟩
    obtain ⟨later, hlater, _⟩ :=
      accepted_collect (Node.select select).events reached
    rw [← walk_eq_foldlM_events] at hlater
    refine ⟨later, hlater, run_walk hlater, ?_, ?_⟩
    · intro hdepth
      rw [walk_select_eq_self select reached hdepth] at hlater
      exact (Except.ok.inj hlater).symm
    · intro hdepth
      rw [walk_select select hdepth] at hlater
      obtain rfl := Except.ok.inj hlater
      simp [within, importFrom, importJoin, requireAll, hdepth]
  · intro selects
    have hselects := ofSelects_eq selects
    exact ⟨together selects, hselects, run_walks hselects,
      finish_together_eq_ok_iff selects, finish_together_eq_error selects⟩

/-- A statement that is left without having been entered, and a select list
that is entered and never left. -/
def unbalanced (select : Select) : List Event :=
  [.leave (.select select), .enter (.select select),
    .enter (.items select.items)]

/-- The select list is still open when the last statement has been left, and
the next walk closes it.  Of two statements, one refers to a table that neither
of them imports. -/
theorem buyers_collected_after_unbalanced :
    let select := Draft.buyers.select
    let selects := [select, (Draft.listed select).select]
    (∃ inside, ofEvents (unbalanced select) = .ok inside ∧
      1 ≤ inside.depth ∧ inside.walk (.select select) = .ok inside) ∧
      (∃ outside,
        ofEvents (unbalanced select ++ [.leave (.select select)]) =
          .ok outside ∧
        outside.depth = 0 ∧ outside.region = some (.requiring .selectColumn) ∧
        outside.walk (.select select) =
          .ok ⟨0, none, [] ++ select.fromNames, [] ++ select.joinNames,
            [] ++ select.required⟩) ∧
      (∃ requirement ∈ selects.flatMap Select.required,
        ¬ Select.ImportedBy selects requirement.2) ∧
      ∃ reached clause missing, ofSelects selects = .ok reached ∧
        ¬ Select.ImportedBy selects missing ∧
        reached.finish = .error (.missingImport
          ⟨clause, missing, [Draft.users.reference, Draft.users.reference],
            []⟩) := by
  intro select selects
  obtain ⟨hevents, hselects⟩ := collector_composes_over_statements
  have hmissing : ∃ requirement ∈ selects.flatMap Select.required,
      ¬ Select.ImportedBy selects requirement.2 := by
    refine ⟨(.orderByColumn, Draft.orders.reference), ?_, ?_⟩
    · have hordered : (.orderByColumn, Draft.orders.reference) ∈
          (Draft.listed select).select.required :=
        List.mem_append_right _ (List.mem_singleton_self _)
      exact List.mem_flatMap.mpr ⟨_, by simp [selects], hordered⟩
    · unfold Select.ImportedBy Select.Imports
      decide
  refine ⟨?_, ?_, hmissing, ?_⟩
  · obtain ⟨inside, hinside, _, hwalks⟩ := hevents (unbalanced select)
    have hdepth : 1 ≤ inside.depth := by
      obtain rfl := Except.ok.inj hinside
      exact Nat.le_refl 1
    obtain ⟨later, hlater, _, hsame, _⟩ := hwalks select
    exact ⟨inside, hinside, hdepth, hsame hdepth ▸ hlater⟩
  · obtain ⟨outside, houtside, _, hwalks⟩ :=
      hevents (unbalanced select ++ [.leave (.select select)])
    obtain rfl := Except.ok.inj houtside
    obtain ⟨later, hlater, _, _, hadded⟩ := hwalks select
    exact ⟨_, houtside, rfl, rfl, hadded rfl ▸ hlater⟩
  · obtain ⟨reached, hreached, _, _, herror⟩ := hselects selects
    obtain ⟨_, clause, missing, _, _, _, hnot, herror⟩ := herror hmissing
    exact ⟨reached, clause, missing, hreached, hnot, herror⟩

end Imports

end SqlStatement
