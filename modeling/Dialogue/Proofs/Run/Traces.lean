import Dialogue.World
import Dialogue.Proofs.Run.History

/-!
# Notes about calls

A call to a collaborator leaves a note on the visit that it was made in.  Notes
have no place of their own: they go to the last visit, and are lost where there
is none.  `History.traces` reads those about calls back, with the visits that
they are on.
-/

namespace Dialogue

/-- Whether a note tells of a call to a collaborator.  A blank queue is refused without asking
anyone. -/
def Note.tellsOfCall : Note → Bool
  | .dispatched .. | .dispatchError .. | .queueAssigned _ => true
  | .assignmentError queue _ => !(Text.trim queue).isEmpty
  | .unknownNodeType _ | .invalidSelection _ | .subflow .. | .failure .. => false

/-- The note that a call leaves.  A message is a part of what its node sends. -/
def Delivery.note (part : Nat) : Delivery → Note
  | .sent _ _ (.ok id) => .dispatched part id
  | .sent _ _ (.error e) => .dispatchError part e.complaint
  | .assigned _ queue (.ok ()) => .queueAssigned queue
  | .assigned _ queue (.error e) => .assignmentError queue e.complaint

/-- A note about a call: the number of the visit that it is on, counted from one, and the node. -/
structure Trace where
  visit : Nat
  node : NodeId
  note : Note
  deriving DecidableEq, Repr

namespace History

/-- The notes about calls in a history, in order. -/
def traces (history : History) : List Trace :=
  (history.zipIdx 1).flatMap fun (visit, n) =>
    (visit.notes.filter Note.tellsOfCall).map (⟨n, visit.node, ·⟩)

variable (history earlier : History)

theorem length_nodes : history.nodes.length = history.length := List.length_map _

@[simp] theorem length_note (remark : Note) : (history.note remark).length = history.length := by
  rw [← length_nodes, nodes_note, length_nodes]

theorem traces_concat (last : Visit) :
    traces (earlier ++ [last]) = earlier.traces ++
      (last.notes.filter Note.tellsOfCall).map (⟨earlier.length + 1, last.node, ·⟩) := by
  simp [traces, List.zipIdx_append, Nat.add_comm]

/-- A visit begins without notes. -/
@[simp] theorem traces_enter (node : NodeId) (time : Instant) :
    (history.enter node time).traces = history.traces := by
  rw [enter, traces_concat]
  simp

/-- A note that tells of no call is no trace of one. -/
theorem traces_note_of_not {remark : Note} (h : remark.tellsOfCall = false) :
    (history.note remark).traces = history.traces := by
  rcases history.eq_nil_or_append with rfl | ⟨earlier, last, rfl⟩
  · rfl
  · rw [note_append, traces_concat, traces_concat]
    simp [List.filter_append, h]

variable {history}

/-- A note about a call is a trace on the visit that goes on. -/
theorem traces_note_of {node : NodeId} (hhere : history.nodes.getLast? = some node)
    {remark : Note} (h : remark.tellsOfCall = true) :
    (history.note remark).traces = history.traces ++ [⟨history.length, node, remark⟩] := by
  rcases history.eq_nil_or_append with rfl | ⟨earlier, last, rfl⟩
  · simp [nodes] at hhere
  · have hnode : last.node = node := by simpa [nodes] using hhere
    rw [note_append, traces_concat, traces_concat]
    simp [List.filter_append, h, hnode]

/-- Of several notes those about calls are traces. -/
theorem traces_noted {node : NodeId} (hhere : history.nodes.getLast? = some node)
    (remarks : List Note) :
    (history.noted remarks).traces = history.traces ++
      (remarks.filter Note.tellsOfCall).map (⟨history.length, node, ·⟩) := by
  induction remarks generalizing history with
  | nil => simp [noted]
  | cons remark rest ih =>
      have hrest := @ih (history.note remark) (by rwa [nodes_note])
      rw [noted, List.foldl_cons]
      rw [noted, length_note] at hrest
      rw [hrest]
      cases h : remark.tellsOfCall with
      | true => rw [traces_note_of hhere h, List.filter_cons_of_pos h]; simp
      | false => rw [traces_note_of_not history h, List.filter_cons_of_neg (by simp [h])]

end History

namespace Level

/-- The last visit of a level is to the node where it stands. -/
def Here (level : Level) : Prop := level.history.nodes.getLast? = some level.node

/-- A level in which no trace of a call is new, and which stands where it stood or has come to
another node. -/
structure Unmarked (before after : Level) : Prop where
  id : after.id = before.id
  traces : after.history.traces = before.history.traces
  here : before.Here → after.Here

variable {level after : Level}

theorem Here.of_nodes (h : level.Here) (hnodes : after.history.nodes = level.history.nodes)
    (hnode : after.node = level.node) : after.Here := by
  rw [Here, hnodes, hnode]
  exact h

theorem Unmarked.of_history (hid : after.id = level.id) (hnode : after.node = level.node)
    (hhistory : after.history = level.history) : level.Unmarked after where
  id := hid
  traces := by rw [hhistory]
  here := fun h => h.of_nodes (by rw [hhistory]) hnode

theorem Unmarked.of_note (hid : after.id = level.id) (hnode : after.node = level.node)
    {remark : Note} (hhistory : after.history = level.history.note remark)
    (htells : remark.tellsOfCall = false) : level.Unmarked after where
  id := hid
  traces := by rw [hhistory, History.traces_note_of_not _ htells]
  here := fun h => h.of_nodes (by rw [hhistory, History.nodes_note]) hnode

theorem Unmarked.trans {third : Level} (h : level.Unmarked after) (h' : after.Unmarked third) :
    level.Unmarked third where
  id := h'.id.trans h.id
  traces := h'.traces.trans h.traces
  here := fun hhere => h'.here (h.here hhere)

/-- A level that enters a node stands there. -/
theorem here_enter (level : Level) (node : NodeId) (time : Instant) :
    (level.enter node time).Here := by
  change (level.history.enter node time).nodes.getLast? = some node
  rw [History.nodes_enter, List.getLast?_concat]

theorem Unmarked.fail (level : Level) (kind : FailureKind) (message : String) (time : Instant) :
    level.Unmarked (level.fail kind message time) := .of_note rfl rfl rfl rfl

theorem Unmarked.absorb (level child : Level) : level.Unmarked (level.absorb child) :=
  .of_note rfl rfl rfl rfl

/-- Nor does the end of all levels at once leave a trace. -/
theorem unmarked_unwind (kind : FailureKind) (message : String) (time : Instant) (level : Level)
    (below : List Level) : level.Unmarked (Run.unwind kind message time level below) := by
  cases below with
  | nil => exact .fail _ _ _ _
  | cons child below => exact (Unmarked.absorb _ _).trans (.fail _ _ _ _)

end Level

end Dialogue
