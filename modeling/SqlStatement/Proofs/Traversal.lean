import SqlStatement.Proofs.Preorder
import Mathlib.Tactic

/-!
# The course of a walk

A visitor keeps a state and may fail at any event.  Whatever it does, a walk
shows it the events of the node one after the other, ends with the first one at
which the visitor fails, and leaves the state as it is then.

The events are nested: what is entered is left again, and in between is left
whatever was entered in between.  The nodes that are entered are those of the
syntax, each one where it stands and no other.
-/

namespace SqlStatement

namespace Event

section Visitor

variable {σ ε : Type}

/-- A visitor takes the events one after the other without failing, and comes
from one state to another one on the way. -/
inductive Accepted (visit : Event → ExceptT ε (StateM σ) Unit) :
    List Event → σ → σ → Prop where
  | nil (state : σ) : Accepted visit [] state state
  | cons {event : Event} {events : List Event} {state next final : σ}
      (hevent : ((visit event).run.run state).run = (.ok (), next))
      (hrest : Accepted visit events next final) :
      Accepted visit (event :: events) state final

/-- A visitor takes the events up to one of them, and fails at this one. -/
def Refused (visit : Event → ExceptT ε (StateM σ) Unit) (events : List Event)
    (state : σ) (error : ε) (final : σ) : Prop :=
  ∃ before event after reached, events = before ++ event :: after ∧
    Accepted visit before state reached ∧
    ((visit event).run.run reached).run = (.error error, final)

variable {visit : Event → ExceptT ε (StateM σ) Unit} {event : Event}
  {events : List Event} {state next final : σ} {error : ε}

theorem run_forM_cons_of_ok
    (hevent : ((visit event).run.run state).run = (.ok (), next)) :
    (((event :: events).forM visit).run.run state).run =
      ((events.forM visit).run.run next).run := by
  change ((visit event >>= fun _ => events.forM visit).run.run state).run = _
  simp only [ExceptT.run_bind, StateT.run_bind, Id.run_bind, hevent]

theorem run_forM_cons_of_error
    (hevent : ((visit event).run.run state).run = (.error error, final)) :
    (((event :: events).forM visit).run.run state).run =
      (.error error, final) := by
  change ((visit event >>= fun _ => events.forM visit).run.run state).run = _
  simp only [ExceptT.run_bind, StateT.run_bind, Id.run_bind, hevent]
  rfl

theorem accepted_cons_iff
    (hevent : ((visit event).run.run state).run = (.ok (), next)) :
    Accepted visit (event :: events) state final ↔
      Accepted visit events next final := by
  constructor
  · intro h
    cases h with
    | cons hfirst hrest =>
        rw [hevent, Prod.mk.injEq] at hfirst
        rw [hfirst.2]
        exact hrest
  · exact .cons hevent

theorem not_accepted_cons
    (hevent : ((visit event).run.run state).run = (.error error, next)) :
    ¬ Accepted visit (event :: events) state final := by
  intro h
  cases h with
  | cons hfirst _ => simp [hevent] at hfirst

theorem refused_cons_iff
    (hevent : ((visit event).run.run state).run = (.ok (), next)) :
    Refused visit (event :: events) state error final ↔
      Refused visit events next error final := by
  constructor
  · rintro ⟨before, failing, after, reached, hevents, hbefore, hfailing⟩
    cases before with
    | nil =>
        obtain ⟨rfl, rfl⟩ := List.cons.inj hevents
        cases hbefore
        rw [hevent] at hfailing
        cases hfailing
    | cons first before =>
        obtain ⟨rfl, rfl⟩ := List.cons.inj hevents
        exact ⟨before, failing, after, reached, rfl,
          (accepted_cons_iff hevent).mp hbefore, hfailing⟩
  · rintro ⟨before, failing, after, reached, rfl, hbefore, hfailing⟩
    exact ⟨event :: before, failing, after, reached, rfl,
      .cons hevent hbefore, hfailing⟩

theorem refused_cons_iff_of_error {reached : σ} {cause : ε}
    (hevent : ((visit event).run.run state).run = (.error cause, reached)) :
    Refused visit (event :: events) state error final ↔
      cause = error ∧ reached = final := by
  constructor
  · rintro ⟨before, failing, after, state', hevents, hbefore, hfailing⟩
    cases before with
    | nil =>
        obtain ⟨rfl, rfl⟩ := List.cons.inj hevents
        cases hbefore
        simpa [hevent] using hfailing
    | cons first before =>
        obtain ⟨rfl, rfl⟩ := List.cons.inj hevents
        exact absurd hbefore (not_accepted_cons hevent)
  · rintro ⟨rfl, rfl⟩
    exact ⟨[], event, events, state, rfl, .nil state, hevent⟩

/-- Several actions succeed if the visitor takes all events. -/
theorem forM_eq_ok_iff (visit : Event → ExceptT ε (StateM σ) Unit)
    (events : List Event) (state final : σ) :
    ((events.forM visit).run.run state).run = (.ok (), final) ↔
      Accepted visit events state final := by
  induction events generalizing state with
  | nil =>
      constructor
      · intro h
        obtain rfl : state = final := congrArg Prod.snd h
        exact .nil state
      · intro h
        cases h
        rfl
  | cons event events ih =>
      rcases hevent : ((visit event).run.run state).run with
        ⟨error | ⟨⟩, next⟩
      · rw [run_forM_cons_of_error hevent]
        simp [not_accepted_cons hevent]
      · rw [run_forM_cons_of_ok hevent, ih, accepted_cons_iff hevent]

/-- They fail as the visitor does at the first event that it does not take. -/
theorem forM_eq_error_iff (visit : Event → ExceptT ε (StateM σ) Unit)
    (events : List Event) (state final : σ) (error : ε) :
    ((events.forM visit).run.run state).run = (.error error, final) ↔
      Refused visit events state error final := by
  induction events generalizing state with
  | nil =>
      constructor
      · intro h
        cases congrArg Prod.fst h
      · rintro ⟨before, event, after, reached, hevents, _, _⟩
        simp at hevents
  | cons event events ih =>
      rcases hevent : ((visit event).run.run state).run with
        ⟨cause | ⟨⟩, next⟩
      · rw [run_forM_cons_of_error hevent, refused_cons_iff_of_error hevent]
        simp
      · rw [run_forM_cons_of_ok hevent, ih, refused_cons_iff hevent]

end Visitor

/-! ## Nesting -/

/-- Each node is left after all that was entered in it has been left. -/
inductive Nested : List Event → Prop where
  | nil : Nested []
  | node (node : Node) {inner rest : List Event} (hinner : Nested inner)
      (hrest : Nested rest) :
      Nested (.enter node :: inner ++ .leave node :: rest)

theorem Nested.append {before after : List Event} (hbefore : Nested before)
    (hafter : Nested after) : Nested (before ++ after) := by
  induction hbefore with
  | nil => exact hafter
  | node node hinner _ _ ih =>
      have hnested := Nested.node node hinner ih
      simpa using hnested

theorem Nested.flatMap {nodes : List α} {events : α → List Event}
    (h : ∀ node ∈ nodes, Nested (events node)) :
    Nested (nodes.flatMap events) := by
  induction nodes with
  | nil => exact .nil
  | cons node nodes ih =>
      rw [List.forall_mem_cons] at h
      rw [List.flatMap_cons]
      exact h.1.append (ih h.2)

/-- Between entering a node and leaving it there is room for only one course of
events. -/
theorem Nested.eq_of_leave {inner other rest more : List Event}
    {node left : Node} (hinner : Nested inner) (hother : Nested other)
    (h : inner ++ .leave node :: rest = other ++ .leave left :: more) :
    inner = other := by
  induction hinner generalizing other rest more node left with
  | nil =>
      cases hother with
      | nil => rfl
      | node => simp at h
  | node entered _ _ ihinner ihrest =>
      cases hother with
      | nil => simp at h
      | node =>
          simp only [List.cons_append, List.append_assoc, List.cons.injEq,
            Event.enter.injEq] at h
          obtain ⟨rfl, h⟩ := h
          obtain rfl := ihinner ‹_› h
          rw [List.append_cancel_left_eq, List.cons.injEq] at h
          obtain rfl := ihrest ‹_› h.2
          rfl

theorem Nested.exists_leave {events : List Event} (h : Nested events) :
    ∀ {before after : List Event} {node : Node},
      events = before ++ .enter node :: after →
        ∃ inner, Nested inner ∧ inner ++ [.leave node] <+: after := by
  induction h with
  | nil =>
      intro before after node hevents
      simp at hevents
  | @node entered inner rest hinner _ ihinner ihrest =>
      intro before after node hevents
      cases before with
      | nil =>
          obtain ⟨hnode, rfl⟩ := List.cons.inj hevents
          obtain rfl := Event.enter.inj hnode
          exact ⟨inner, hinner, rest, by simp⟩
      | cons first before =>
          have hbelow := (List.cons.inj hevents).2
          rcases List.append_eq_append_iff.mp hbelow with
            ⟨gap, rfl, hgap⟩ | ⟨gap, rfl, hgap⟩
          -- The node is entered after the one that comes first is left.
          · cases gap with
            | nil => simp at hgap
            | cons _ gap => exact ihrest (List.cons.inj hgap).2
          -- The node is entered inside of the one that comes first.
          · cases gap with
            | nil => simp at hgap
            | cons _ gap =>
                obtain ⟨rfl, rfl⟩ := List.cons.inj hgap
                obtain ⟨found, hfound, hprefix⟩ := ihinner rfl
                exact ⟨found, hfound,
                  hprefix.trans (List.prefix_append gap _)⟩

/-- Wherever a node is entered, there is one place after it where the same node
is left and all that was entered in between has been left. -/
def EachLeftOnce (events : List Event) : Prop :=
  ∀ before node after, events = before ++ .enter node :: after →
    ∃! inner, Nested inner ∧ inner ++ [.leave node] <+: after

theorem Nested.eachLeftOnce {events : List Event} (h : Nested events) :
    EachLeftOnce events := by
  intro before node after hevents
  obtain ⟨inner, hinner, hprefix⟩ := h.exists_leave hevents
  refine ⟨inner, ⟨hinner, hprefix⟩, ?_⟩
  rintro other ⟨hother, hotherPrefix⟩
  obtain ⟨rest, rfl⟩ := hprefix
  obtain ⟨more, hmore⟩ := hotherPrefix
  simp only [List.append_assoc, List.singleton_append] at hmore
  exact hother.eq_of_leave hinner hmore

end Event

namespace Node

theorem nested_events (node : Node) : Event.Nested node.events := by
  induction node using Node.inductionOn with
  | step node ih =>
      rw [events_eq]
      exact .node node (.flatMap ih) .nil

/-- Of every node, a walk shows a visitor the events in their order up to the
first one at which it fails.  The events of a node are those of its children
between its own two, they are nested, and they enter what stands in the syntax,
from left to right and each part once. -/
theorem walk_shows_nested_events (node : Node) :
    (∀ {σ ε : Type} (visit : Event → ExceptT ε (StateM σ) Unit)
        (state final : σ),
      ((node.walk visit).run.run state).run = (.ok (), final) ↔
        Event.Accepted visit node.events state final) ∧
    (∀ {σ ε : Type} (visit : Event → ExceptT ε (StateM σ) Unit)
        (state final : σ) (error : ε),
      ((node.walk visit).run.run state).run = (.error error, final) ↔
        Event.Refused visit node.events state error final) ∧
    node.events =
      .enter node :: node.children.flatMap events ++ [.leave node] ∧
    Event.Nested node.events ∧ Event.EachLeftOnce node.events ∧
    node.nodes = node.preorder := by
  have hnested := node.nested_events
  refine ⟨?_, ?_, node.events_eq, hnested, hnested.eachLeftOnce,
    node.nodes_eq_preorder⟩
  · intro σ ε visit state final
    rw [walk_eq_forM_events]
    exact Event.forM_eq_ok_iff visit node.events state final
  · intro σ ε visit state final error
    rw [walk_eq_forM_events]
    exact Event.forM_eq_error_iff visit node.events state final error

end Node

end SqlStatement
