import Dialogue.Step.Content
import Dialogue.Step.Menu
import Dialogue.Step.Subflow

/-!
# The step of a node

What each behaviour does when a run comes to its node, and when a paused run is
resumed there.
-/

namespace Dialogue

/-- Hands the contact to the queue whose name a template renders to.  A blank name is refused
without asking anyone. -/
def assignStep (queue : String) (onError : OnError) (around : Surroundings) (run : Run) :
    Acting (Outcome × Run) := do
  let queue := around.render run.toLevel queue
  let result ←
    if (Text.trim queue).isEmpty then
      pure (.error ⟨run.contactId, "", "queue id rendered empty"⟩)
    else Acting.assign run.contactId queue
  match result with
  | .ok () => return (around.advance, run.onLevel (·.note (.queueAssigned queue)))
  | .error e =>
    let run := run.onLevel (·.note (.assignmentError queue e.complaint))
    match onError with
    | .proceed => return (around.advance, run)
    | .abort => return (.fail .assignment e.message, run)

/-- Pauses, unless the pause is over or has no length. -/
def delayStep (millis : Nat) (around : Surroundings) (run : Run) (payload : Option Payload) :
    Acting (Outcome × Run) := do
  if payload.isSome || millis == 0 then return (around.advance, run)
  else return (← around.sleep millis, run)

/-- Goes to the target of the first rule that matches. -/
def conditionStep (rules : List Condition.Rule) (otherwise : Option NodeId)
    (around : Surroundings) (run : Run) : Outcome :=
  match Condition.choose? rules otherwise
      ⟨run.contactId, run.contact, run.vars, around.now⟩ with
  | some next => .go next
  | none => .fail .noMatchingBranch Condition.noMatchMessage

namespace Script

/-- Acts a script out. -/
def step (script : Script) (around : Surroundings) (run : Run) (payload : Option Payload) :
    Acting (Outcome × Run) := do
  let run := run.onLevel fun l => { l with vars := script.vars.union l.vars }
  match script.act with
  | .advance => return (around.advance, run)
  | .go node => return (.go node, run)
  | .complete => return (.complete, run)
  | .sleep millis =>
    if payload.isSome then return (around.advance, run)
    else return (← around.sleep millis, run)
  | .fail kind message => return (.fail kind message, run)
  | .raiseDispatch message => return (.raised (.dispatch ⟨run.contactId, message⟩), run)
  | .raiseAssignment queue message =>
    return (.raised (.assignment ⟨run.contactId, queue, message⟩), run)
  | .raiseConfiguration message => return (.raised (.configuration message), run)
  | .raiseExecution message => return (.raised (.execution message), run)

end Script

namespace Behaviour

/-- The step of a node: the outcome and the run after it. -/
def step (behaviour : Behaviour) (around : Surroundings) (run : Run) (payload : Option Payload) :
    Acting (Outcome × Run) :=
  match behaviour with
  | .start => return (around.advance, run)
  | .content sequence => sequence.step around run
  | .menu question => question.step around run payload
  | .delay millis => delayStep millis around run payload
  | .condition rules otherwise => return (conditionStep rules otherwise around run, run)
  | .assignQueue queue onError => assignStep queue onError around run
  | .subflow flow => Subflow.step flow around run payload
  | .scripted script => script.step around run payload
  | .unknown kind =>
    return (around.advance, run.onLevel (·.note (.unknownNodeType kind)))

end Behaviour

end Dialogue
