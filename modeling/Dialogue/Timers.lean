import Dialogue.Identifier
import Dialogue.Instant.Basic

/-!
# Timers

Alarms that are set for paused runs.  All alarms of a run belong to one
suspension: setting one for another suspension, or cancelling, removes them.
Firings are hints; whoever receives one compares its token with the stored run.
Time is counted in nanoseconds since the timers were made.
-/

namespace Dialogue

/-- What is to be done when an alarm goes off. -/
inductive TimerAction where
  /-- The wait is over. -/
  | resume
  /-- The reply did not come in time. -/
  | expire
  deriving DecidableEq, Repr

/-- The title of an action for people. -/
def TimerAction.title : TimerAction → String
  | .resume => "Resume"
  | .expire => "Expire"

/-- An alarm that has gone off, with the token of the suspension it was set for. -/
structure Firing where
  run : Identifier
  token : Identifier
  action : TimerAction
  deriving DecidableEq, Repr

/-- An alarm with the moment it goes off. -/
structure Alarm where
  firing : Firing
  deadline : Nat
  deriving DecidableEq, Repr

/-- The pending alarms. -/
structure Timers where
  /-- The time that has passed. -/
  clock : Nat := 0
  /-- The runs that have timers, with the suspension they are for. -/
  pending : List (Identifier × Identifier) := []
  /-- The alarms that have not gone off, by their deadlines; equal ones in the order they were
  set. -/
  alarms : List Alarm := []
  deriving Repr

namespace Timers

/-- The suspension that a run's timers are for. -/
def token? (timers : Timers) (run : Identifier) : Option Identifier := timers.pending.lookup run

/-- The number of runs that have timers. -/
def size (timers : Timers) : Nat := timers.pending.length

/-- Removes the timers of a run. -/
def cancel (timers : Timers) (run : Identifier) : Timers :=
  { timers with
    pending := timers.pending.filter (·.1 != run)
    alarms := timers.alarms.filter (·.firing.run != run) }

/-- Puts an alarm behind those that are due no later. -/
def place (alarm : Alarm) : List Alarm → List Alarm
  | [] => [alarm]
  | first :: rest =>
    if alarm.deadline < first.deadline then alarm :: first :: rest else first :: place alarm rest

/-- Sets an alarm that goes off after a wait. -/
def scheduleIn (timers : Timers) (firing : Firing) (wait : Nat) : Timers :=
  let timers :=
    if timers.token? firing.run = some firing.token then timers
    else
      let timers := timers.cancel firing.run
      { timers with pending := timers.pending ++ [(firing.run, firing.token)] }
  { timers with alarms := place ⟨firing, timers.clock + wait⟩ timers.alarms }

/-- The nanoseconds from one instant to another; none if it has passed. -/
def wait (now time : Instant) : Nat := (time.total - now.total).toNat

/-- Sets an alarm for an instant, where the clock shows `now`. -/
def schedule (timers : Timers) (firing : Firing) (time now : Instant) : Timers :=
  timers.scheduleIn firing (wait now time)

/-- Lets the next alarm go off, if its deadline is not later than `limit`. -/
def next? (timers : Timers) (limit : Nat) : Option (Firing × Timers) :=
  match timers.alarms with
  | [] => none
  | alarm :: rest =>
    if alarm.deadline ≤ limit then
      some (alarm.firing,
        { timers with clock := max timers.clock alarm.deadline, alarms := rest })
    else none

/-- Lets the time pass up to `limit`, with all alarms that go off by then. -/
def advanceTo (timers : Timers) (limit : Nat) : List Firing × Timers :=
  ((timers.alarms.takeWhile (·.deadline ≤ limit)).map Alarm.firing,
    { timers with
      clock := max timers.clock limit
      alarms := timers.alarms.dropWhile (·.deadline ≤ limit) })

end Timers

end Dialogue
