import SqlStatement.Walk
import SqlStatement.Writer

/-!
# Writing on a walk

The writers at work lie on a stack, each with the number of nodes that it has
entered and not left.  Only the one on top sees an event.  A node that it hands
over is entered by the new writer on top of it, and so on until a writer keeps
the node.

A writer that leaves its own node is done.  The one below takes its text and is
shown that the same node is left, since it has entered the node before.
-/

namespace SqlStatement

structure Frame where
  depth : Nat
  writer : Writer

structure Desk where
  frames : List Frame
  output : Option String

namespace Writer

theorem rank_lt_of_beginExpr {style : Style} {writer after next : Writer}
    {e : Expr} (h : writer.beginExpr style e = (after, .delegate next)) :
    next.rank < 1 := by
  unfold beginExpr at h
  split at h
  all_goals cases h
  exact Nat.zero_lt_one

theorem rank_lt_of_beginCondition {writer after next : Writer} {c : Condition}
    (h : writer.beginCondition c = (after, .delegate next)) :
    next.rank < 1 := by
  unfold beginCondition at h
  split at h
  all_goals cases h
  all_goals exact Nat.zero_lt_one

theorem rank_lt_of_begin {style : Style} {writer after next : Writer}
    {node : Node} (h : writer.begin style node = .ok (after, .delegate next)) :
    next.rank < writer.rank := by
  cases htask : writer.task with
  | expr isSubSelect =>
      have hrank : writer.rank = 1 := by rw [rank, htask]
      cases node with
      | expr e =>
          simp only [begin, htask, Except.ok.injEq] at h
          rw [hrank]
          exact rank_lt_of_beginExpr h
      | _ => simp [begin, htask] at h
  | condition =>
      have hrank : writer.rank = 1 := by rw [rank, htask]
      cases node with
      | condition c =>
          simp only [begin, htask, Except.ok.injEq] at h
          rw [hrank]
          exact rank_lt_of_beginCondition h
      | _ => simp [begin, htask] at h
  | _ =>
      unfold begin at h
      split at h
      all_goals simp_all

theorem rank_lt_two (writer : Writer) :
    writer.rank < 2 := by
  unfold rank
  split
  all_goals decide

end Writer

namespace Frame

def enter (style : Style) (frame : Frame) (node : Node) :
    Except Error (Frame × Delegation) := do
  let (writer, delegation) ←
    match frame.depth with
    | 0 => frame.writer.begin style node
    | _ + 1 => frame.writer.meet style node
  return (⟨frame.depth + 1, writer⟩, delegation)

def leave (style : Style) (frame : Frame) (node : Node) :
    Except Error (Frame × Delegation) :=
  match frame.depth with
  | 0 => .error (.internal ("unbalanced leave of node kind " ++ node.kind))
  | 1 => do
      let writer ← frame.writer.finish style node
      return (⟨0, writer⟩, .leave)
  | depth + 2 => .ok (⟨depth + 1, frame.writer⟩, .retain)

def receive (frame : Frame) (part : Option String) : Frame :=
  match part with
  | some part => { frame with writer := frame.writer.receive part }
  | none => frame

/-- How often a node can still be handed on from this frame. -/
def rank (frame : Frame) : Nat :=
  match frame.depth with
  | 0 => frame.writer.rank
  | _ + 1 => 2

theorem rank_lt_of_enter {style : Style} {frame after : Frame} {node : Node}
    {next : Writer} (h : frame.enter style node = .ok (after, .delegate next)) :
    Frame.rank ⟨0, next⟩ < frame.rank := by
  obtain ⟨depth, writer⟩ := frame
  cases depth with
  | zero =>
      cases hbegin : writer.begin style node with
      | error e => simp [enter, hbegin, bind, Except.bind] at h
      | ok begun =>
          obtain ⟨begun, delegation⟩ := begun
          simp only [enter, hbegin, bind, Except.bind, pure, Except.pure,
            Except.ok.injEq, Prod.mk.injEq] at h
          rw [h.2] at hbegin
          exact Writer.rank_lt_of_begin hbegin
  | succ depth => exact next.rank_lt_two

end Frame

namespace Desk

def enterTop (style : Style) (node : Node) (frame : Frame)
    (below : List Frame) : Except Error (List Frame) :=
  match h : frame.enter style node with
  | .error e => .error e
  | .ok (frame, .retain) => .ok (frame :: below)
  | .ok (after, .delegate next) =>
      have := Frame.rank_lt_of_enter h
      enterTop style node ⟨0, next⟩ (after :: below)
  | .ok (_, .leave) =>
      .error (.internal ("visitor left while entering " ++ node.kind))
termination_by frame.rank

def enter (style : Style) (node : Node) (desk : Desk) : Except Error Desk :=
  match desk.frames with
  | [] => .error (.internal ("no active visitor to enter " ++ node.kind))
  | frame :: below => do
      let frames ← enterTop style node frame below
      return { desk with frames := frames }

def leaveTop (style : Style) (node : Node) (output : Option String)
    (frame : Frame) (below : List Frame) : Except Error Desk :=
  match frame.leave style node with
  | .error e => .error e
  | .ok (frame, .retain) => .ok ⟨frame :: below, output⟩
  | .ok (_, .delegate _) =>
      .error (.internal ("cannot delegate while leaving " ++ node.kind))
  | .ok (frame, .leave) =>
      match below with
      | [] => .ok ⟨[], frame.writer.text?⟩
      | parent :: rest =>
          leaveTop style node output (parent.receive frame.writer.text?) rest

def leave (style : Style) (node : Node) (desk : Desk) : Except Error Desk :=
  match desk.frames with
  | [] => .error (.internal ("no active visitor to leave " ++ node.kind))
  | frame :: below => leaveTop style node desk.output frame below

def visit (style : Style) (event : Event) :
    StateT Desk (Except Error) Unit := do
  let desk ← get
  match event with
  | .enter node => set (← desk.enter style node)
  | .leave node => set (← desk.leave style node)

def result (desk : Desk) : Except Error String :=
  match desk.frames, desk.output with
  | [], some text => .ok text
  | [], none => .error (.internal "traversal produced no output")
  | frames, _ =>
      .error (.internal ("traversal ended with " ++ toString frames.length ++
        " visitor(s) still active"))

/-- The text that a single writer makes of a node. -/
def text (style : Style) (writer : Writer) (node : Node) :
    Except Error String := do
  let (_, desk) ← (node.walk (visit style)).run ⟨[⟨0, writer⟩], none⟩
  desk.result

end Desk

namespace Style

def renderSelect (style : Style) (select : Select) : Except Error String :=
  Desk.text style (.start (.select .empty)) (.select select)

def renderCondition (style : Style) (condition : Condition) :
    Except Error String :=
  Desk.text style (.start .condition) (.condition condition)

def renderExpr (style : Style) (expr : Expr) : Except Error String :=
  Desk.text style (.start (.expr false)) (.expr expr)

end Style

end SqlStatement
