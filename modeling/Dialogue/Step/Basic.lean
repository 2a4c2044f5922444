import Dialogue.Interaction
import Dialogue.Graph
import Dialogue.Event

/-!
# Steps

What a node does when a run comes to it, in terms of the requests it makes and
the outcome it has.  This module says what a step can ask for and what it can
see; the modules beside it give the steps of each type of node.
-/

namespace Dialogue

/-- What a step of a run may ask its surroundings for. -/
inductive Call where
  /-- Tell the observers. -/
  | emit (event : Event)
  /-- A new identifier for a run. -/
  | newRun
  /-- A new token for a suspension. -/
  | newToken
  /-- The loaded flow of a name. -/
  | flow (id : FlowId)
  /-- Send a message to a contact. -/
  | send (contactId : String) (message : Message)
  /-- Hand a contact to a queue. -/
  | assign (contactId queue : String)

/-- What a call is answered with. -/
def Call.Answer : Call → Type
  | .emit _ => Unit
  | .newRun => Identifier
  | .newToken => Identifier
  | .flow _ => Except FlowError Graph
  | .send .. => Except DispatchError String
  | .assign .. => Except AssignmentError Unit

/-- A computation within a run. -/
abbrev Acting (α : Type) := Interaction Call Call.Answer α

namespace Acting

/-- Makes one call. -/
def call (c : Call) : Acting c.Answer := Interaction.request c

/-- Tells the observers. -/
def emit (event : Event) : Acting Unit := call (.emit event)

/-- Gets a new identifier for a run. -/
def newRun : Acting Identifier := call .newRun

/-- Gets a new token for a suspension. -/
def newToken : Acting Identifier := call .newToken

/-- Gets a loaded flow. -/
def flow (id : FlowId) : Acting (Except FlowError Graph) := call (.flow id)

/-- Sends a message; the answer is the identifier that the channel gave it. -/
def send (contactId : String) (message : Message) : Acting (Except DispatchError String) :=
  call (.send contactId message)

/-- Hands a contact to a queue. -/
def assign (contactId queue : String) : Acting (Except AssignmentError Unit) :=
  call (.assign contactId queue)

end Acting

/-- What a step leads to. -/
inductive Outcome where
  /-- The run goes to a node. -/
  | go (node : NodeId)
  /-- The run pauses. -/
  | suspend (suspension : Suspension)
  /-- The flow is at its end. -/
  | complete
  /-- The run cannot go on. -/
  | fail (kind : FailureKind) (message : String)
  deriving DecidableEq, Repr

/-- The outcome of an error that a node raises. -/
def Outcome.raised (e : NodeError) : Outcome := .fail e.failureKind e.message

/-- How nested runs are begun and resumed.  Both leave the nested run in the run they are given. -/
structure Subflows where
  /-- Begins a nested run in a flow; absent where nesting has reached its limit. -/
  start : Option (FlowId → Run → Acting (Except FlowError Run))
  /-- Hands a payload to the nested run. -/
  resume : Payload → Run → Acting (Except FlowError Run)

/-- What a step can see besides the run. -/
structure Surroundings where
  now : Instant
  /-- Where the run goes on by structure. -/
  successor : Option NodeId
  /-- How deeply flows may be nested. -/
  maxDepth : Nat
  /-- How many milliseconds to wait for a reply where a node does not say. -/
  inputTimeout : Option Nat
  subflows : Subflows

namespace Surroundings

/-- Goes on to the successor, or ends where there is none. -/
def advance (around : Surroundings) : Outcome :=
  match around.successor with
  | some next => .go next
  | none => .complete

/-- Pauses for a number of milliseconds. -/
def sleep (around : Surroundings) (millis : Nat) : Acting Outcome := do
  let token ← Acting.newToken
  return .suspend (.untilTime token (around.now.afterMillis millis) around.now)

/-- Renders a template with what a run can see. -/
def render (around : Surroundings) (level : Level) (template : String) : String :=
  View.render ⟨level.contactId, level.contact, level.vars, around.now⟩ template

/-- Sends one message and notes how it went.  The outcome is that of a failure the policy does not
bear. -/
def deliver (_ : Surroundings) (run : Run) (part : Nat) (message : Message) (onError : OnError) :
    Acting (Option Outcome × Run) := do
  match ← Acting.send run.contactId message with
  | .ok id => return (none, run.onLevel (·.note (.dispatched part id)))
  | .error e =>
    let run := run.onLevel (·.note (.dispatchError part e.complaint))
    match onError with
    | .proceed => return (none, run)
    | .abort => return (some (.fail .dispatch e.message), run)

end Surroundings

end Dialogue
