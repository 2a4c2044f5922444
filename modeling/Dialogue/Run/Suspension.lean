import Dialogue.Failure
import Dialogue.Identifier

/-!
# Suspensions

What a paused run waits for, and what can wake it.  Every suspension has a token
of its own, so that a late or repeated event can be told from the one the run is
waiting for.
-/

namespace Dialogue

/-- Why a run is paused. -/
inductive Reason where
  /-- A contact has to choose or reply at a node. -/
  | reply (node : NodeId)
  /-- Time has to pass. -/
  | timer (resumeAt : Instant)
  deriving DecidableEq, Repr

/-- What an event brings to a paused run. -/
inductive Payload where
  /-- Free text from the contact. -/
  | reply (text : String)
  /-- An explicit choice of the next node. -/
  | select (node : NodeId)
  /-- The time that a run waited for has passed. -/
  | elapsed
  deriving DecidableEq, Repr

/-- A pause, kept with the run. -/
structure Suspension where
  token : Identifier
  reason : Reason
  since : Instant
  expiresAt : Option Instant
  deriving DecidableEq, Repr

/-- An event for a paused run, with the token it was issued for, if the sender knows it. -/
structure Wakeup where
  token : Option Identifier
  payload : Payload
  deriving DecidableEq, Repr

namespace Reason

/-- A reason as it is stored. -/
def stored : Reason → Json
  | .reply node => .ofFields [("type", .string "awaiting_selection"), ("node_id", .string node)]
  | .timer resumeAt => .ofFields [("type", .string "timer"), ("resume_at", resumeAt.stored)]

/-- A reason from its stored form. -/
def decoder : Decoder Reason :=
  Decoder.tagged "type" "internally tagged enum SuspendReason" [
    ("awaiting_selection",
      ((Record.field "node_id" [] none .string .done).decoder
        "struct variant SuspendReason::AwaitingSelection").map fun (node, _) => .reply node),
    ("timer",
      ((Record.field "resume_at" [] none Instant.decoder .done).decoder
        "struct variant SuspendReason::Timer").map fun (resumeAt, _) => .timer resumeAt)]

end Reason

namespace Payload

/-- Whether a payload says that time has passed. -/
def isTimer : Payload → Bool
  | .elapsed => true
  | _ => false

/-- A payload as it is stored. -/
def stored : Payload → Json
  | .reply text => .ofFields [("type", .string "reply"), ("text", .string text)]
  | .select node => .ofFields [("type", .string "select"), ("node_id", .string node)]
  | .elapsed => .ofFields [("type", .string "timer_elapsed")]

/-- A payload from its stored form. -/
def decoder : Decoder Payload :=
  Decoder.tagged "type" "internally tagged enum ResumePayload" [
    ("reply",
      ((Record.field "text" [] none .string .done).decoder
        "struct variant ResumePayload::Reply").map fun (text, _) => .reply text),
    ("select",
      ((Record.field "node_id" [] none .string .done).decoder
        "struct variant ResumePayload::Select").map fun (node, _) => .select node),
    ("timer_elapsed", Decoder.alone .elapsed)]

end Payload

namespace Suspension

/-- A wait for a contact at a node. -/
def forReply (token : Identifier) (node : NodeId) (now : Instant) (expiresAt : Option Instant) :
    Suspension :=
  ⟨token, .reply node, now, expiresAt⟩

/-- A wait for time to pass. -/
def untilTime (token : Identifier) (resumeAt now : Instant) : Suspension :=
  ⟨token, .timer resumeAt, now, none⟩

/-- Whether a suspension waits for time to pass. -/
def isTimer (suspension : Suspension) : Bool :=
  match suspension.reason with
  | .timer _ => true
  | .reply _ => false

/-- When a timer suspension is due. -/
def resumeAt? (suspension : Suspension) : Option Instant :=
  match suspension.reason with
  | .timer resumeAt => some resumeAt
  | .reply _ => none

/-- Whether a payload of this shape can end the suspension. -/
def accepts (suspension : Suspension) (payload : Payload) : Bool :=
  suspension.isTimer == payload.isTimer

/-- Whether the suspension has expired at an instant. -/
def isOverdue (suspension : Suspension) (now : Instant) : Bool :=
  suspension.expiresAt.any (·.le now)

/-- A suspension as it is stored. -/
def stored (suspension : Suspension) : Json :=
  .ofFields <| [("token", suspension.token.stored), ("reason", suspension.reason.stored),
    ("since", suspension.since.stored)] ++
    optionalField "expires_at" (suspension.expiresAt.map Instant.stored)

/-- The fields of a stored suspension. -/
def record : Record (Identifier × Reason × Instant × Option Instant × Unit) :=
  .field "token" [] none Identifier.decoder <| .field "reason" [] none Reason.decoder <|
    .field "since" [] none Instant.decoder <|
    .field "expires_at" [] (some none) (.nullable Instant.decoder) .done

/-- A suspension from its stored form. -/
def decoder : Decoder Suspension :=
  (record.decoder "struct Suspension").map fun (token, reason, since, expiresAt, _) =>
    ⟨token, reason, since, expiresAt⟩

end Suspension

namespace Wakeup

/-- A reply in free text. -/
def reply (text : String) : Wakeup := ⟨none, .reply text⟩

/-- A choice of the next node. -/
def select (node : NodeId) : Wakeup := ⟨none, .select node⟩

/-- The end of a timer that was set for a suspension. -/
def timer (token : Identifier) : Wakeup := ⟨some token, .elapsed⟩

/-- An event as it is stored. -/
def stored (event : Wakeup) : Json :=
  .ofFields <| [("payload", event.payload.stored)] ++
    optionalField "token" (event.token.map Identifier.stored)

/-- The fields of a stored event. -/
def record : Record (Option Identifier × Payload × Unit) :=
  .field "token" [] (some none) (.nullable Identifier.decoder) <|
    .field "payload" [] none Payload.decoder .done

/-- An event from its stored form. -/
def decoder : Decoder Wakeup :=
  (record.decoder "struct ResumeEvent").map fun (token, payload, _) => ⟨token, payload⟩

end Wakeup

end Dialogue
