import Dialogue.Engine.Request
import Dialogue.Drive

/-!
# Operations of the engine

Starting, resuming, cancelling and expiring runs.  Every operation that changes
a stored run holds the permit of the run's key from before it reads the run
until after it has stored it.
-/

namespace Dialogue.Engine

/-- Sets the alarms that a suspension calls for. -/
def scheduleFor (run : Identifier) (suspension : Suspension) : Operating Unit := do
  match suspension.resumeAt? with
  | some time => Operating.schedule ⟨run, suspension.token, .resume⟩ time
  | none => pure ()
  match suspension.expiresAt with
  | some time => Operating.schedule ⟨run, suspension.token, .expire⟩ time
  | none => pure ()

/-- Stores a run and sets its alarms to what it waits for. -/
def persist (run : Run) : Operating (Except FlowError Unit) := do
  match ← Operating.save run with
  | .error e => return .error e
  | .ok () =>
    match run.suspension.filter fun _ => run.isPaused with
    | some suspension => scheduleFor run.id suspension
    | none => Operating.cancelTimers run.id
    return .ok ()

/-- Gets a loaded flow, loading it if need be. -/
def loadFlow (flow : FlowId) : Operating (Except FlowError Graph) :=
  Operating.within (Acting.flow flow)

/-- Forgets a loaded flow, so that the next run sees the current definition. -/
def invalidateFlow (flow : FlowId) : Operating Bool := Operating.request (.forget flow)

/-- Where a requested run begins. -/
def startNode (graph : Graph) (request : RunRequest) : Except FlowError NodeId :=
  match request.start with
  | none => .ok graph.start
  | some node =>
    if graph.contains node then .ok node else .error (.definition (.unknownStart node))

/-- Drives a run and stores what becomes of it. -/
def driveAndStore (bounds : Bounds) (graph : Graph) (run : Run) (payload : Option Payload) :
    Operating (Except FlowError Run) := do
  let run ← Operating.within (run.drive bounds graph payload)
  match ← persist run with
  | .error e => return .error e
  | .ok () => return .ok run

/-- Starts a run and drives it until it completes, fails or pauses. -/
def start (bounds : Bounds) (request : RunRequest) : Operating (Except FlowError Run) := do
  match ← loadFlow request.flow with
  | .error e => return .error e
  | .ok graph =>
    match startNode graph request with
    | .error e => return .error e
    | .ok node =>
      let id ← Operating.within Acting.newRun
      let run := Run.fresh id request node bounds.now
      Operating.holding run.key (driveAndStore bounds graph run none)

/-- Fails a run with all that is nested in it, and stores it. -/
def terminate (bounds : Bounds) (run : Run) (kind : FailureKind) (message : String) :
    Operating (Except FlowError Run) := do
  let ended := run.terminate kind message bounds.now
  Operating.cancelTimers run.id
  Operating.within (ended.tell bounds run.node (.runFailed kind message))
  match ← Operating.save ended with
  | .error e => return .error e
  | .ok () => return .ok ended

/-- The words for a run that waited too long. -/
def expiredMessage : String := "input wait expired"

/-- The suspension that an event ends, if it can. -/
def checkResumable (run : Run) (event : Wakeup) : Except ResumeError Suspension :=
  let stale (reason : String) : Except ResumeError Suspension := .error (.stale run.id reason)
  if !run.isPaused then stale ("run is " ++ run.status.title)
  else
    match run.suspension with
    | none => stale "run has no pending suspension"
    | some suspension =>
      if event.token.any (· != suspension.token) then stale "suspension token does not match"
      else if suspension.accepts event.payload then .ok suspension
      else if suspension.isTimer then stale "run is waiting on a timer, not on input"
      else stale "run is waiting on input, not on a timer"

/-- Gets a stored run that is to be resumed. -/
def loadForResume (id : Identifier) : Operating (Except ResumeError Run) := do
  match ← Operating.load id with
  | .error e => return .error (.flow e)
  | .ok none => return .error (.notFound id)
  | .ok (some run) => return .ok run

/-- Resumes a run whose permit is held.  Whoever held it before may have moved the run on. -/
def resumeHeld (bounds : Bounds) (id : Identifier) (event : Wakeup) :
    Operating (Except ResumeError Run) := do
  match ← loadForResume id with
  | .error e => return .error e
  | .ok run =>
    match checkResumable run event with
    | .error e => return .error e
    | .ok suspension =>
      if suspension.isOverdue bounds.now then
        match ← terminate bounds run .timeout expiredMessage with
        | .error e => return .error (.flow e)
        | .ok _ => return .error (.stale id expiredMessage)
      else
        match ← loadFlow run.flow with
        | .error e => return .error (.flow e)
        | .ok graph =>
          Operating.cancelTimers id
          return (← driveAndStore bounds graph run (some event.payload)).mapError .flow

/-- Resumes a paused run with an event; refused if an operation on its key is in progress. -/
def resume (bounds : Bounds) (id : Identifier) (event : Wakeup) :
    Operating (Except ResumeError Run) := do
  match ← loadForResume id with
  | .error e => return .error e
  | .ok run =>
    Operating.holdingIfFree run.key (.error (.busy id)) (resumeHeld bounds id event)

/-- Resumes a paused run with an event, after the operations on its key that are in progress. -/
def resumeInTurn (bounds : Bounds) (id : Identifier) (event : Wakeup) :
    Operating (Except ResumeError Run) := do
  match ← loadForResume id with
  | .error e => return .error e
  | .ok run => Operating.holding run.key (resumeHeld bounds id event)

/-- Gets a stored run that has to exist. -/
def loadExisting (id : Identifier) : Operating (Except FlowError Run) := do
  match ← Operating.load id with
  | .error e => return .error e
  | .ok none => return .error (.runNotFound id)
  | .ok (some run) => return .ok run

/-- Fails a run whose permit is held, unless it has ended. -/
def cancelHeld (bounds : Bounds) (id : Identifier) : Operating (Except FlowError Run) := do
  match ← loadExisting id with
  | .error e => return .error e
  | .ok run =>
    if run.isTerminal then return .ok run
    else terminate bounds run .cancelled "run cancelled"

/-- Fails a run, unless it has ended. -/
def cancel (bounds : Bounds) (id : Identifier) : Operating (Except FlowError Run) := do
  match ← loadExisting id with
  | .error e => return .error e
  | .ok run => Operating.holding run.key (cancelHeld bounds id)

/-- Whether a run's wait is over at an instant; with a token, whether the run is still in that very
suspension. -/
def isDue (run : Run) (token : Option Identifier) (time : Instant) : Bool :=
  match run.status, run.suspension with
  | .paused, some suspension =>
    match token with
    | some token => suspension.token == token
    | none => suspension.isOverdue time
  | _, _ => false

/-- Times out a run whose permit is held, if it is due. -/
def expireHeld (bounds : Bounds) (id : Identifier) (token : Option Identifier) (time : Instant) :
    Operating (Except FlowError (Option Run)) := do
  match ← loadExisting id with
  | .error e => return .error e
  | .ok run =>
    if isDue run token time then
      return (← terminate bounds run .timeout expiredMessage).map some
    else return .ok none

/-- Times out a run if it is due; none if it is not. -/
def expireAt (bounds : Bounds) (id : Identifier) (token : Option Identifier) (time : Instant) :
    Operating (Except FlowError (Option Run)) := do
  match ← loadExisting id with
  | .error e => return .error e
  | .ok run => Operating.holding run.key (expireHeld bounds id token time)

/-- Times out a run whose wait for a reply is over. -/
def expire (bounds : Bounds) (id : Identifier) : Operating (Except FlowError (Option Run)) :=
  expireAt bounds id none bounds.now

/-- Times out those of several runs that are due at an instant. -/
def expireEach (bounds : Bounds) (time : Instant) :
    List Run → Operating (Except FlowError (List Identifier))
  | [] => return .ok []
  | run :: rest => do
    if run.suspension.any (·.isOverdue time) then
      match ← expireAt bounds run.id none time with
      | .error e => return .error e
      | .ok expired =>
        return (← expireEach bounds time rest).map fun ids =>
          if expired.isSome then run.id :: ids else ids
    else expireEach bounds time rest

/-- Times out every paused run whose wait for a reply is over at an instant. -/
def expireDue (bounds : Bounds) (time : Instant) :
    Operating (Except FlowError (List Identifier)) := do
  match ← Operating.list (some .paused) with
  | .error e => return .error e
  | .ok runs => expireEach bounds time runs

/-- Sets the alarms of several runs: how many of them wait for anything. -/
def recoverEach : List Run → Operating Nat
  | [] => return 0
  | run :: rest => do
    match run.suspension with
    | some suspension =>
      scheduleFor run.id suspension
      return (← recoverEach rest) + 1
    | none => recoverEach rest

/-- Sets the alarms of every paused run anew, as after a restart. -/
def recover : Operating (Except FlowError Nat) := do
  match ← Operating.list (some .paused) with
  | .error e => return .error e
  | .ok runs => return .ok (← recoverEach runs)

/-- Acts on an alarm that went off.  What it finds no longer in place is left alone. -/
def handleFiring (bounds : Bounds) (firing : Firing) : Operating Unit := do
  match firing.action with
  | .resume =>
    let _ ← resumeInTurn bounds firing.run (.timer firing.token)
    return ()
  | .expire =>
    let _ ← expireAt bounds firing.run (some firing.token) bounds.now
    return ()

end Dialogue.Engine
