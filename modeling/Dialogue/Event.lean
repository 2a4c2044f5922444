import Dialogue.Run.Basic

/-!
# Events

What observers of a run are told about its life.
-/

namespace Dialogue

/-- What has happened in a run. -/
inductive Occurrence where
  | nodeEntered
  | nodeCompleted
  | runPaused (reason : Reason)
  | runCompleted
  | runFailed (kind : FailureKind) (message : String)
  deriving DecidableEq, Repr

/-- Something that has happened in a run at a node. -/
structure Event where
  run : Identifier
  flow : FlowId
  contactId : String
  node : NodeId
  time : Instant
  what : Occurrence
  deriving DecidableEq, Repr

namespace Occurrence

/-- The stored name of an occurrence. -/
def name : Occurrence → String
  | .nodeEntered => "node-entered"
  | .nodeCompleted => "node-completed"
  | .runPaused _ => "run-paused"
  | .runCompleted => "run-completed"
  | .runFailed .. => "run-failed"

/-- Whether a run takes no further step after it. -/
def isSettled : Occurrence → Bool
  | .nodeEntered | .nodeCompleted => false
  | .runPaused _ | .runCompleted | .runFailed .. => true

/-- The fields that an occurrence has of its own. -/
def storedFields : Occurrence → List (String × Json)
  | .runPaused reason => [("reason", reason.stored)]
  | .runFailed kind message => [("kind", kind.stored), ("message", .string message)]
  | .nodeEntered | .nodeCompleted | .runCompleted => []

end Occurrence

namespace Event

/-- Something that happens in a level of a run now. -/
def inLevel (level : Level) (node : NodeId) (time : Instant) (what : Occurrence) : Event :=
  ⟨level.id, level.flow, level.contactId, node, time, what⟩

/-- An event as it is stored. -/
def stored (event : Event) : Json :=
  .ofFields <| [("type", .string event.what.name), ("execution_id", event.run.stored),
    ("flow_id", .string event.flow), ("contact_id", .string event.contactId),
    ("node_id", .string event.node), ("timestamp", event.time.stored)] ++ event.what.storedFields

/-- The fields of a stored event, those of its occurrence before the time. -/
def record {τ : Type} (own : Record (Instant × Unit) → Record τ) :
    Record (Identifier × FlowId × String × NodeId × τ) :=
  .field "execution_id" [] none Identifier.decoder <| .field "flow_id" [] none .string <|
    .field "contact_id" [] none .string <| .field "node_id" [] none .string <|
    own (.field "timestamp" [] none Instant.decoder .done)

/-- An event of one kind from its stored form. -/
def variant {τ : Type} (name title : String) (own : Record (Instant × Unit) → Record τ)
    (finish : τ → Occurrence × Instant) : String × Decoder Event :=
  (name, ((record own).decoder ("struct variant ExecutionEvent::" ++ title)).map
    fun (run, flow, contactId, node, last) =>
      let (what, time) := finish last
      { run, flow, contactId, node, time, what })

/-- An event from its stored form. -/
def decoder : Decoder Event :=
  Decoder.tagged "type" "internally tagged enum ExecutionEvent" [
    variant "node-entered" "NodeEntered" id fun (time, _) => (.nodeEntered, time),
    variant "node-completed" "NodeCompleted" id fun (time, _) => (.nodeCompleted, time),
    variant "run-paused" "RunPaused" (.field "reason" [] none Reason.decoder)
      fun (reason, time, _) => (.runPaused reason, time),
    variant "run-completed" "RunCompleted" id fun (time, _) => (.runCompleted, time),
    variant "run-failed" "RunFailed"
      (fun rest => .field "kind" [] none FailureKind.decoder <|
        .field "message" [] none .string rest)
      fun (kind, message, time, _) => (.runFailed kind message, time)]

end Event

end Dialogue
