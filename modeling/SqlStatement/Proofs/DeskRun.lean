import SqlStatement.Writer.Desk
import Mathlib.Tactic

/-!
# A writer at work

A writer that is put on top of a desk and walked through its own node leaves
the frames below as they were, apart from the text that the topmost of them
receives and from the leaving of the node that this one sees as well.  So what
a writer makes of a node can be stated without the desk, and what it makes of a
node follows from what other writers make of the children.
-/

namespace SqlStatement

namespace Desk

variable {style : Style} {node : Node}

/-- A desk after a walk through a node. -/
def through (style : Style) (desk : Desk) (node : Node) : Except Error Desk :=
  Prod.snd <$> (node.walk (visit style)).run desk

theorem exec_bind (first : StateT Desk (Except Error) Unit)
    (second : Unit → StateT Desk (Except Error) Unit) (desk : Desk) :
    Prod.snd <$> (first >>= second).run desk =
      ((Prod.snd <$> first.run desk) >>= fun desk =>
        Prod.snd <$> (second ()).run desk) := by
  rw [StateT.run_bind, map_bind, bind_map_left]

theorem exec_forM (nodes : List Node) (desk : Desk) :
    Prod.snd <$> (nodes.forM (Node.walk (visit style))).run desk =
      nodes.foldlM (through style) desk := by
  induction nodes generalizing desk with
  | nil => rfl
  | cons node nodes ih =>
      rw [List.foldlM_cons, List.forM, exec_bind]
      exact congrArg _ (funext ih)

theorem exec_visit_enter (desk : Desk) :
    Prod.snd <$> (visit style (.enter node)).run desk =
      desk.enter style node := by
  cases hdesk : desk.enter style node with
  | error e => simp [visit, hdesk]
  | ok after => simp [visit, hdesk]

theorem exec_visit_leave (desk : Desk) :
    Prod.snd <$> (visit style (.leave node)).run desk =
      desk.leave style node := by
  cases hdesk : desk.leave style node with
  | error e => simp [visit, hdesk]
  | ok after => simp [visit, hdesk]

theorem through_eq (desk : Desk) :
    through style desk node =
      (desk.enter style node >>= fun desk =>
        node.children.foldlM (through style) desk >>= fun desk =>
          desk.leave style node) := by
  unfold through
  rw [Node.walk_eq, exec_bind, exec_visit_enter]
  apply congrArg
  funext entered
  rw [exec_bind, exec_forM]
  apply congrArg
  funext full
  exact exec_visit_leave full

/-! ## Entering and leaving -/

theorem enterTop_of_retain {frame after : Frame} {below : List Frame}
    (h : frame.enter style node = .ok (after, .retain)) :
    enterTop style node frame below = .ok (after :: below) := by
  rw [enterTop]
  split <;> simp_all

theorem enterTop_of_delegate {frame after : Frame} {next : Writer}
    {below : List Frame}
    (h : frame.enter style node = .ok (after, .delegate next)) :
    enterTop style node frame below =
      enterTop style node ⟨0, next⟩ (after :: below) := by
  rw [enterTop]
  split <;> simp_all

theorem enter_of_retain {frame after : Frame} {below : List Frame}
    {output : Option String}
    (h : frame.enter style node = .ok (after, .retain)) :
    Desk.enter style node ⟨frame :: below, output⟩ =
      .ok ⟨after :: below, output⟩ := by
  simp only [Desk.enter, enterTop_of_retain h]
  rfl

theorem enter_of_delegate {frame after : Frame} {next : Writer}
    {below : List Frame} {output : Option String}
    (h : frame.enter style node = .ok (after, .delegate next)) :
    Desk.enter style node ⟨frame :: below, output⟩ =
      Desk.enter style node ⟨⟨0, next⟩ :: after :: below, output⟩ := by
  simp only [Desk.enter, enterTop_of_delegate h]

theorem through_of_retain {frame after : Frame} {below : List Frame}
    {output : Option String}
    (h : frame.enter style node = .ok (after, .retain)) :
    through style ⟨frame :: below, output⟩ node =
      (node.children.foldlM (through style) ⟨after :: below, output⟩ >>=
        fun desk => desk.leave style node) := by
  rw [through_eq, enter_of_retain h]
  rfl

theorem through_of_delegate {frame after : Frame} {next : Writer}
    {below : List Frame} {output : Option String}
    (h : frame.enter style node = .ok (after, .delegate next)) :
    through style ⟨frame :: below, output⟩ node =
      through style ⟨⟨0, next⟩ :: after :: below, output⟩ node := by
  rw [through_eq, through_eq, enter_of_delegate h]

/-- A text goes to the frame below, which is left after that, or off the
desk. -/
def handOver (style : Style) (node : Node) (text : String)
    (output : Option String) : List Frame → Except Error Desk
  | [] => .ok ⟨[], some text⟩
  | parent :: rest =>
      leaveTop style node output (parent.receive (some text)) rest

theorem leaveTop_of_finish {writer finished : Writer} {text : String}
    {output : Option String} {below : List Frame}
    (hfinish : writer.finish style node = .ok finished)
    (htext : finished.text? = some text) :
    leaveTop style node output ⟨1, writer⟩ below =
      handOver style node text output below := by
  have hleave : Frame.leave style ⟨1, writer⟩ node =
      .ok (⟨0, finished⟩, .leave) := by
    simp only [Frame.leave, hfinish]
    rfl
  cases below with
  | nil =>
      rw [leaveTop, hleave, handOver, ← htext]
  | cons parent rest =>
      rw [leaveTop, hleave, handOver, ← htext]

theorem leaveTop_inner (depth : ℕ) (writer : Writer)
    (output : Option String) (below : List Frame) :
    leaveTop style node output ⟨depth + 2, writer⟩ below =
      .ok ⟨⟨depth + 1, writer⟩ :: below, output⟩ := by
  cases below with
  | nil => rfl
  | cons parent rest => rfl

end Desk

/-! ## What a writer makes of a node -/

/-- Whatever lies below it, the writer makes the text of the node and hands it
over. -/
def Writer.Writes (style : Style) (writer : Writer) (node : Node)
    (text : String) : Prop :=
  ∀ (below : List Frame) (output : Option String),
    Desk.through style ⟨⟨0, writer⟩ :: below, output⟩ node =
      Desk.handOver style node text output below

/-- A writer inside its own node turns into another one on a walk through
further nodes. -/
def Writer.Takes (style : Style) (writer : Writer) (nodes : List Node)
    (after : Writer) : Prop :=
  ∀ (depth : ℕ) (below : List Frame) (output : Option String),
    nodes.foldlM (Desk.through style) ⟨⟨depth + 1, writer⟩ :: below, output⟩ =
      .ok ⟨⟨depth + 1, after⟩ :: below, output⟩

namespace Writer

variable {style : Style} {writer begun full finished met after next : Writer}
  {node : Node} {nodes : List Node} {text part : String}

theorem Writes.of_retain
    (hbegin : writer.begin style node = .ok (begun, .retain))
    (hchildren : begun.Takes style node.children full)
    (hfinish : full.finish style node = .ok finished)
    (htext : finished.text? = some text) :
    writer.Writes style node text := by
  intro below output
  have henter : Frame.enter style ⟨0, writer⟩ node =
      .ok (⟨1, begun⟩, .retain) := by
    simp only [Frame.enter, hbegin]
    rfl
  rw [Desk.through_of_retain henter, hchildren 0 below output]
  exact Desk.leaveTop_of_finish hfinish htext

theorem Writes.of_delegate
    (hbegin : writer.begin style node = .ok (begun, .delegate next))
    (hnext : next.Writes style node part)
    (hfinish : (begun.receive part).finish style node = .ok finished)
    (htext : finished.text? = some text) :
    writer.Writes style node text := by
  intro below output
  have henter : Frame.enter style ⟨0, writer⟩ node =
      .ok (⟨1, begun⟩, .delegate next) := by
    simp only [Frame.enter, hbegin]
    rfl
  -- The new writer lies on top of this one, which sees the leave after it.
  rw [Desk.through_of_delegate henter, hnext]
  exact Desk.leaveTop_of_finish hfinish htext

theorem Takes.nil : writer.Takes style [] writer := by
  intro depth below output
  rfl

theorem Takes.append {before : List Node}
    (hbefore : writer.Takes style before met)
    (hnodes : met.Takes style nodes after) :
    writer.Takes style (before ++ nodes) after := by
  intro depth below output
  rw [List.foldlM_append, hbefore depth below output]
  exact hnodes depth below output

theorem Takes.cons (hnode : writer.Takes style [node] met)
    (hnodes : met.Takes style nodes after) :
    writer.Takes style (node :: nodes) after :=
  hnode.append hnodes

theorem Takes.of_through
    (h : ∀ (depth : ℕ) (below : List Frame) (output : Option String),
      Desk.through style ⟨⟨depth + 1, writer⟩ :: below, output⟩ node =
        .ok ⟨⟨depth + 1, after⟩ :: below, output⟩) :
    writer.Takes style [node] after := by
  intro depth below output
  rw [List.foldlM_cons, h depth below output]
  rfl

theorem Takes.of_delegate
    (hmeet : writer.meet style node = .ok (met, .delegate next))
    (hnext : next.Writes style node part)
    (hreceive : met.receive part = after) :
    writer.Takes style [node] after := by
  subst hreceive
  apply Takes.of_through
  intro depth below output
  have henter : Frame.enter style ⟨depth + 1, writer⟩ node =
      .ok (⟨depth + 2, met⟩, .delegate next) := by
    simp only [Frame.enter, hmeet]
    rfl
  rw [Desk.through_of_delegate henter, hnext]
  exact Desk.leaveTop_inner depth (met.receive part) output below

theorem Takes.of_retain
    (hmeet : writer.meet style node = .ok (met, .retain))
    (hchildren : met.Takes style node.children after) :
    writer.Takes style [node] after := by
  apply Takes.of_through
  intro depth below output
  have henter : Frame.enter style ⟨depth + 1, writer⟩ node =
      .ok (⟨depth + 2, met⟩, .retain) := by
    simp only [Frame.enter, hmeet]
    rfl
  rw [Desk.through_of_retain henter, hchildren (depth + 1) below output]
  exact Desk.leaveTop_inner depth after output below

/-- A writer that gathers one text for each node has all of them in the end. -/
theorem Takes.gather {α : Type} {node : α → Node} {text : α → String}
    {items : List α} (gathered : List String → Writer)
    (hitem : ∀ item ∈ items, ∀ parts : List String,
      (gathered parts).Takes style [node item]
        (gathered (parts ++ [text item]))) :
    (gathered []).Takes style (items.map node)
      (gathered (items.map text)) := by
  suffices h : ∀ parts : List String,
      (gathered parts).Takes style (items.map node)
        (gathered (parts ++ items.map text)) by
    exact h []
  intro parts
  induction items generalizing parts with
  | nil =>
      rw [List.map_nil, List.map_nil, List.append_nil]
      exact .nil
  | cons item items ih =>
      rw [List.map_cons, List.map_cons, List.append_cons]
      exact .cons (hitem item List.mem_cons_self parts)
        (ih (fun i hi => hitem i (List.mem_cons_of_mem item hi)) _)

theorem Writes.text_eq (h : writer.Writes style node text) :
    Desk.text style writer node = .ok text := by
  have hthrough := h [] none
  rw [Desk.through, Desk.handOver] at hthrough
  unfold Desk.text
  cases hrun : (node.walk (Desk.visit style)).run ⟨[⟨0, writer⟩], none⟩ with
  | error e =>
      rw [hrun] at hthrough
      cases hthrough
  | ok after =>
      rw [hrun] at hthrough
      have hdesk : after.2 = ⟨[], some text⟩ := Except.ok.inj hthrough
      change after.2.result = .ok text
      rw [hdesk]
      rfl

end Writer

end SqlStatement
