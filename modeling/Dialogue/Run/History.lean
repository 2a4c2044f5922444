import Dialogue.Run.Suspension

/-!
# The history of a run

A run remembers every visit to a node in order, and with each visit what
happened during it besides.
-/

namespace Dialogue

/-- Where a run stands. -/
inductive Status where
  | running
  | paused
  | completed
  | failed
  deriving DecidableEq, Repr

namespace Status

/-- Whether nothing can happen any more. -/
def isTerminal : Status → Bool
  | .completed | .failed => true
  | .running | .paused => false

/-- The stored name of a status. -/
def name : Status → String
  | .running => "RUNNING"
  | .paused => "PAUSED_FOR_INPUT"
  | .completed => "COMPLETED"
  | .failed => "FAILED"

/-- The title of a status for people. -/
def title : Status → String
  | .running => "Running"
  | .paused => "PausedForInput"
  | .completed => "Completed"
  | .failed => "Failed"

/-- A status as it is stored. -/
def stored (status : Status) : Json := .string status.name

/-- A status from its stored form. -/
def decoder : Decoder Status :=
  Decoder.choice ([Status.running, .paused, .completed, .failed].map fun s => ([s.name], s))

end Status

/-- What happened during a visit to a node. -/
inductive Note where
  /-- A part was sent. -/
  | dispatched (part : Nat) (message : String)
  /-- A part could not be sent. -/
  | dispatchError (part : Nat) (message : String)
  /-- The contact was handed to a queue. -/
  | queueAssigned (queue : String)
  /-- The contact could not be handed to a queue. -/
  | assignmentError (queue message : String)
  /-- The node's type is not known; the run passed through. -/
  | unknownNodeType (kind : String)
  /-- A reply matched no option. -/
  | invalidSelection (reply : String)
  /-- A nested run ended: its flow, its identifier, how it ended and the nodes it visited. -/
  | subflow (flow : FlowId) (run : Identifier) (status : Status) (nodes : List NodeId)
  /-- The run failed here. -/
  | failure (kind : FailureKind) (message : String)
  deriving DecidableEq, Repr

namespace Note

/-- A note as it is stored. -/
def stored : Note → Json
  | .dispatched part message =>
    .ofFields [("note", .string "dispatched"), ("part", .nat part), ("message_id", .string message)]
  | .dispatchError part message =>
    .ofFields
      [("note", .string "dispatch_error"), ("part", .nat part), ("message", .string message)]
  | .queueAssigned queue =>
    .ofFields [("note", .string "queue_assigned"), ("queue_id", .string queue)]
  | .assignmentError queue message =>
    .ofFields [("note", .string "assignment_error"), ("queue_id", .string queue),
      ("message", .string message)]
  | .unknownNodeType kind =>
    .ofFields [("note", .string "unknown_node_type"), ("node_type", .string kind)]
  | .invalidSelection reply =>
    .ofFields [("note", .string "invalid_selection"), ("reply", .string reply)]
  | .subflow flow run status nodes =>
    .ofFields [("note", .string "subflow"), ("flow_id", .string flow),
      ("execution_id", run.stored), ("status", status.stored), ("nodes", .strings nodes)]
  | .failure kind message =>
    .ofFields [("note", .string "failure"), ("kind", kind.stored), ("message", .string message)]

/-- A note from its stored form. -/
def decoder : Decoder Note :=
  let variant {τ : Type} (name title : String) (record : Record τ) (make : τ → Note) :
      String × Decoder Note :=
    (name, (record.decoder ("struct variant HistoryNote::" ++ title)).map make)
  Decoder.tagged "note" "internally tagged enum HistoryNote" [
    variant "dispatched" "Dispatched"
      (.field "part" [] none .size <| .field "message_id" [] none .string .done)
      fun (part, message, _) => .dispatched part message,
    variant "dispatch_error" "DispatchError"
      (.field "part" [] none .size <| .field "message" [] none .string .done)
      fun (part, message, _) => .dispatchError part message,
    variant "queue_assigned" "QueueAssigned" (.field "queue_id" [] none .string .done)
      fun (queue, _) => .queueAssigned queue,
    variant "assignment_error" "AssignmentError"
      (.field "queue_id" [] none .string <| .field "message" [] none .string .done)
      fun (queue, message, _) => .assignmentError queue message,
    variant "unknown_node_type" "UnknownNodeType" (.field "node_type" [] none .string .done)
      fun (kind, _) => .unknownNodeType kind,
    variant "invalid_selection" "InvalidSelection" (.field "reply" [] none .string .done)
      fun (reply, _) => .invalidSelection reply,
    variant "subflow" "Subflow"
      (.field "flow_id" [] none .string <| .field "execution_id" [] none Identifier.decoder <|
        .field "status" [] none Status.decoder <| .field "nodes" [] none (.list .string) .done)
      fun (flow, run, status, nodes, _) => .subflow flow run status nodes,
    variant "failure" "Failure"
      (.field "kind" [] none FailureKind.decoder <| .field "message" [] none .string .done)
      fun (kind, message, _) => .failure kind message]

end Note

/-- One visit to one node. -/
structure Visit where
  node : NodeId
  enteredAt : Instant
  notes : List Note
  deriving DecidableEq, Repr

namespace Visit

/-- A visit as it is stored. -/
def stored (visit : Visit) : Json :=
  .ofFields <| [("node_id", .string visit.node), ("entered_at", visit.enteredAt.stored)] ++
    if visit.notes.isEmpty then [] else [("notes", .array (visit.notes.map Note.stored))]

/-- The fields of a stored visit. -/
def record : Record (NodeId × Instant × List Note × Unit) :=
  .field "node_id" [] none .string <| .field "entered_at" [] none Instant.decoder <|
    .field "notes" [] (some []) (.list Note.decoder) .done

/-- A visit from its stored form. -/
def decoder : Decoder Visit :=
  (record.decoder "struct HistoryEntry").map fun (node, enteredAt, notes, _) =>
    ⟨node, enteredAt, notes⟩

end Visit

/-- Visits in the order in which they began. -/
abbrev History := List Visit

namespace History

/-- Begins a visit. -/
def enter (history : History) (node : NodeId) (time : Instant) : History :=
  history ++ [⟨node, time, []⟩]

/-- Adds a note to the last visit; without any visit there is nothing to add it to. -/
def note (history : History) (remark : Note) : History :=
  match history with
  | [] => []
  | [visit] => [{ visit with notes := visit.notes ++ [remark] }]
  | visit :: rest => visit :: note rest remark

/-- The visited nodes in order. -/
def nodes (history : History) : List NodeId := history.map Visit.node

end History

end Dialogue
