import SqlStatement.Node

/-!
# Walking through a statement

A walk enters a node, walks through its children in order and leaves the node
again.  What is done on the way is up to a visitor, an action of any monad.
When the monad knows failure, the walk ends with the first action that fails.

The events of a node are what a walk shows to a visitor that never fails.
-/

namespace SqlStatement

/-- What a visitor sees. -/
inductive Event where
  | enter (node : Node)
  | leave (node : Node)

/-- The event in words. -/
def Event.text : Event → String
  | enter node => "enter " ++ node.kind
  | leave node => "leave " ++ node.kind

namespace Node

def walk {m : Type → Type u} [Monad m] (visit : Event → m Unit)
    (node : Node) : m Unit := do
  visit (.enter node)
  node.children.attach.forM fun child =>
    have := weight_lt_of_mem_children child.property
    walk visit child.val
  visit (.leave node)
termination_by node.weight

theorem walk_eq {m : Type → Type u} [Monad m] [LawfulMonad m]
    (visit : Event → m Unit) (node : Node) :
    node.walk visit = (visit (.enter node) >>= fun _ =>
      node.children.forM (walk visit) >>= fun _ => visit (.leave node)) := by
  have hattach : ∀ nodes : List Node,
      (nodes.attach.forM fun child => walk visit child.val) =
        nodes.forM (walk visit) := by
    intro nodes
    simp only [List.forM_eq_forM]
    rw [← List.forM_map (f := walk visit) (g := Subtype.val),
      List.attach_map_subtype_val]
  rw [walk, hattach]

/-- All events below a node in their order, between its own two. -/
def events (node : Node) : List Event :=
  .enter node :: (node.children.attach.flatMap fun child =>
    have := weight_lt_of_mem_children child.property
    events child.val) ++ [.leave node]
termination_by node.weight

theorem events_eq (node : Node) :
    node.events =
      .enter node :: node.children.flatMap events ++ [.leave node] := by
  rw [events, List.flatMap_subtype]
  · rw [List.unattach_attach]
  · intro child h
    rfl

theorem walk_eq_forM_events {m : Type → Type u} [Monad m] [LawfulMonad m]
    (visit : Event → m Unit) (node : Node) :
    node.walk visit = node.events.forM visit := by
  induction node using Node.inductionOn with
  | step node ih =>
      have hchildren : ∀ nodes : List Node,
          (∀ child ∈ nodes, child.walk visit = child.events.forM visit) →
          forM nodes (walk visit) = forM (nodes.flatMap events) visit := by
        intro nodes hnodes
        induction nodes with
        | nil => rfl
        | cons child nodes ihn =>
            have hchild := hnodes child List.mem_cons_self
            have hrest := ihn fun c hc =>
              hnodes c (List.mem_cons_of_mem child hc)
            rw [List.forM_cons, List.flatMap_cons, List.forM_append, hrest,
              hchild, List.forM_eq_forM]
      rw [walk_eq, events_eq]
      simp only [List.forM_eq_forM, List.cons_append, List.forM_cons,
        List.forM_append, List.forM_nil, bind_pure_unit]
      rw [hchildren node.children ih]

end Node

end SqlStatement
