import Dialogue.World

/-!
# Sessions

Several operations in one world.  An operation that has to wait is set aside
until what it waits for is there; then it goes on after those that were woken
before it.  A session also listens to the timers: every alarm that goes off
while it listens begins an operation of its own.
-/

namespace Dialogue

/-- What an operation in progress ends with. -/
inductive Ending where
  | ran (result : Except FlowError Run)
  | resumed (result : Except ResumeError Run)
  | handled

/-- An operation in progress. -/
structure Job where
  ticket : Ticket
  rest : Operating Ending

/-- Whether anyone listens to the timers. -/
inductive Listening where
  /-- Nobody does so far; alarms that went off are kept. -/
  | notYet (kept : List Firing)
  | yes
  /-- Nobody does any more; alarms that go off are lost. -/
  | noLonger

/-- Operations in a world. -/
structure Session where
  world : World
  /-- The operations that wait, in the order in which they began to. -/
  waiting : List Job := []
  /-- The operations begun in the background, in order. -/
  begun : List Ticket := []
  /-- How operations ended. -/
  endings : List (Ticket × Ending) := []
  nextTicket : Ticket := 0
  listening : Listening := .notYet []

namespace Job

/-- Whether a job can go on. -/
def isReady (world : World) (job : Job) : Bool :=
  match job.rest with
  | .done _ => true
  | .ask request _ => (world.answer job.ticket request).1.isSome

/-- Tells the jobs that can go on from those that cannot. -/
def wake (world : World) (jobs : List Job) : List Job × List Job :=
  (jobs.filter (isReady world), jobs.filter fun job => !isReady world job)

/-- Every job can go on or cannot. -/
theorem length_wake (world : World) (jobs : List Job) :
    (wake world jobs).1.length + (wake world jobs).2.length = jobs.length := by
  induction jobs with
  | nil => rfl
  | cons job rest ih =>
    simp only [wake] at ih
    cases h : isReady world job <;> simp [wake, h] <;> omega

end Job

namespace Session

/-- Runs a job until it ends or has to wait: the job if it has to. -/
def runJob (session : Session) (job : Job) : Option Job × Session :=
  match session.world.proceed job.ticket job.rest with
  | (.done ending, world) =>
    (none, { session with world, endings := session.endings ++ [(job.ticket, ending)] })
  | (rest, world) => (some { job with rest }, { session with world })

/-- Runs jobs in order, and after them those of the waiting ones that they wake.  No job has to
run twice, since no operation waits for a permit once it has waited for anything else. -/
def runAll (ready waiting parked : List Job) (session : Session) : Session :=
  match ready with
  | [] => { session with waiting := waiting ++ parked }
  | job :: rest =>
    let ran := session.runJob job
    let woken := Job.wake ran.2.world waiting
    runAll (rest ++ woken.1) woken.2 (parked ++ ran.1.toList) ran.2
termination_by ready.length + waiting.length
decreasing_by
  have := Job.length_wake (session.runJob job).2.world waiting
  simp only [List.length_append, List.length_cons]
  omega

/-- Lets waiting jobs go on that can. -/
def settle (session : Session) : Session :=
  let woken := Job.wake session.world session.waiting
  runAll woken.1 woken.2 [] session

/-- Begins an operation and lets it go on until it has to wait. -/
def begin (session : Session) (operation : Operating Ending) : Session :=
  let job : Job := ⟨session.nextTicket, operation⟩
  runAll [job] session.waiting [] { session with nextTicket := session.nextTicket + 1 }

/-- Begins an operation whose ending will be asked for. -/
def beginInBackground (session : Session) (operation : Operating Ending) : Session :=
  let ticket := session.nextTicket
  let session := session.begin operation
  { session with begun := session.begun ++ [ticket] }

/-- Performs an operation at once; none if it has to wait, which it then gives up. -/
def perform {α : Type} (session : Session) (operation : Operating α) : Option α × Session :=
  let ticket := session.nextTicket
  let (rest, world) := session.world.proceed ticket operation
  let session := { session with world, nextTicket := ticket + 1 }
  match rest with
  | .done value => (some value, session.settle)
  | .ask .. => (none, session)

/-- The endings of the operations begun in the background, in order. -/
def collect (session : Session) : List Ending × Session :=
  (session.begun.filterMap fun ticket => session.endings.lookup ticket,
    { session with begun := [] })

/-- Acts on an alarm that went off, if anyone listens. -/
def hear (session : Session) (firing : Firing) : Session :=
  match session.listening with
  | .notYet kept => { session with listening := .notYet (kept ++ [firing]) }
  | .yes =>
    session.begin do
      Engine.handleFiring session.world.bounds firing
      return .handled
  | .noLonger => session

/-- Begins to listen, first to what was kept; whether that was possible. -/
def listen (session : Session) : Bool × Session :=
  match session.listening with
  | .notYet kept => (true, kept.foldl hear { session with listening := .yes })
  | .yes | .noLonger => (false, session)

/-- Listens no more. -/
def stopListening (session : Session) : Session :=
  match session.listening with
  | .yes => { session with listening := .noLonger }
  | .notYet _ | .noLonger => session

/-- Lets the time pass up to a limit, with at most so many alarms. -/
def passTime (limit : Nat) : Nat → Session → Session
  | 0, session => session
  | most + 1, session =>
    match session.world.timers.next? limit with
    | none =>
      let timers := { session.world.timers with clock := max session.world.timers.clock limit }
      { session with world := { session.world with timers } }
    | some (firing, timers) =>
      passTime limit most
        (({ session with world := { session.world with timers } } : Session).hear firing)

/-- Lets milliseconds pass.  Of the alarms of one run no two go off in the same millisecond but the
one for its timer and the one for its expiry, which bounds their number. -/
def advance (session : Session) (millis : Nat) : Session :=
  let timers := session.world.timers
  let most := 2 * (timers.alarms.length + session.world.store.size + 1) * (millis + 2)
  passTime (timers.clock + millis * 1000000) most session

end Session

end Dialogue
