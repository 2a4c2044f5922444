import Dialogue.Step.Basic
import Dialogue.Timers

/-!
# Requests of the engine

What operations on runs ask for: all that steps ask for, and besides it the
store, permits, timers and the catalog of loaded flows.
-/

namespace Dialogue

/-- What an operation may ask its surroundings for. -/
inductive Request where
  /-- What a step of a run asks for. -/
  | call (call : Call)
  /-- The stored run of an identifier. -/
  | load (run : Identifier)
  /-- Store a run. -/
  | save (run : Run)
  /-- All stored runs, or those of one status. -/
  | list (status : Option Status)
  /-- Take the permit of a key if it is free. -/
  | tryLock (key : RunKey)
  /-- Take the permit of a key when it is free. -/
  | lock (key : RunKey)
  /-- Give the permit of a key back. -/
  | unlock (key : RunKey)
  /-- Set an alarm. -/
  | schedule (firing : Firing) (time : Instant)
  /-- Remove the alarms of a run. -/
  | cancelTimers (run : Identifier)
  /-- Forget a loaded flow; whether it was loaded. -/
  | forget (flow : FlowId)

/-- What a request is answered with. -/
def Request.Answer : Request → Type
  | .call c => c.Answer
  | .load _ => Except FlowError (Option Run)
  | .save _ => Except FlowError Unit
  | .list _ => Except FlowError (List Run)
  | .tryLock _ => Bool
  | .lock _ => Unit
  | .unlock _ => Unit
  | .schedule .. => Unit
  | .cancelTimers _ => Unit
  | .forget _ => Bool

/-- A computation of the engine. -/
abbrev Operating (α : Type) := Interaction Request Request.Answer α

namespace Operating

variable {α : Type}

/-- Makes one request. -/
def request (q : Request) : Operating q.Answer := Interaction.request q

/-- What happens within a run, as part of an operation. -/
def within (acting : Acting α) : Operating α :=
  acting.relay fun call => request (.call call)

/-- Gets the stored run of an identifier. -/
def load (run : Identifier) : Operating (Except FlowError (Option Run)) := request (.load run)

/-- Stores a run. -/
def save (run : Run) : Operating (Except FlowError Unit) := request (.save run)

/-- Gets all stored runs, or those of one status. -/
def list (status : Option Status) : Operating (Except FlowError (List Run)) :=
  request (.list status)

/-- Removes the alarms of a run. -/
def cancelTimers (run : Identifier) : Operating Unit := request (.cancelTimers run)

/-- Sets an alarm. -/
def schedule (firing : Firing) (time : Instant) : Operating Unit :=
  request (.schedule firing time)

/-- Works with the permit of a key, waiting for it first. -/
def holding (key : RunKey) (work : Operating α) : Operating α := do
  let () ← request (.lock key)
  let result ← work
  let () ← request (.unlock key)
  return result

/-- Works with the permit of a key if it is free. -/
def holdingIfFree (key : RunKey) (busy : α) (work : Operating α) : Operating α := do
  let free : Bool ← request (.tryLock key)
  if free then
    let result ← work
    let () ← request (.unlock key)
    return result
  else return busy

end Operating

end Dialogue
