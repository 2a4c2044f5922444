import Mathlib.Data.List.Sort
import Dialogue.Timers

/-!
# Tasks that wait

How alarms come about.  For every alarm that is set a task sleeps until the
deadline and then gives notice, unless its handle has been cancelled meanwhile.
All tasks of a suspension share one handle.  The table of pending timers keeps it,
also when its tasks are over, until the timers of the run are cancelled or one is
set for another suspension.

Which firings there is notice of, and which runs have timers, is the same as in
`Timers`, where there are no handles to be shared.
-/

namespace Dialogue

/-- A sleeping task: the call that has set it, what it gives notice of, when, and its handle. -/
structure Sleeper where
  call : Nat
  firing : Firing
  deadline : Nat
  handle : Nat
  deriving DecidableEq, Repr

/-- A notice that was given for a call, at the deadline of its task. -/
structure Notice where
  call : Nat
  firing : Firing
  time : Nat
  deriving DecidableEq, Repr

/-- The tasks that sleep, with their handles, and all notices so far. -/
structure TaskTable where
  /-- The time that has passed. -/
  clock : Nat := 0
  /-- The runs that have timers, with the suspension they are for and the handle of its tasks. -/
  pending : List (Identifier × Identifier × Nat) := []
  /-- The number of handles made so far. -/
  made : Nat := 0
  /-- The handles that have been cancelled. -/
  cancelled : List Nat := []
  /-- The tasks that sleep, by their deadlines; equal ones in the order they were set. -/
  tasks : List Sleeper := []
  /-- The notices, in the order they were given. -/
  notices : List Notice := []

namespace TaskTable

/-- Cancels the handle of a run, if it has one. -/
def cancel (table : TaskTable) (run : Identifier) : TaskTable :=
  match table.pending.lookup run with
  | some (_, handle) =>
    { table with
      pending := table.pending.filter (·.1 != run)
      cancelled := handle :: table.cancelled }
  | none => table

/-- Makes a handle for a suspension of a run that has none. -/
def newHandle (table : TaskTable) (run token : Identifier) : Nat × TaskTable :=
  (table.made,
    { table with
      pending := table.pending ++ [(run, token, table.made)]
      made := table.made + 1 })

/-- The handle for a suspension of a run.  That of another suspension is cancelled. -/
def handleFor (table : TaskTable) (run token : Identifier) : Nat × TaskTable :=
  match table.pending.lookup run with
  | some (current, handle) =>
    if current = token then (handle, table) else (table.cancel run).newHandle run token
  | none => table.newHandle run token

/-- Puts a task behind those that are due no later. -/
def place (task : Sleeper) (tasks : List Sleeper) : List Sleeper :=
  tasks.orderedInsert (fun early late => early.deadline < late.deadline) task

/-- Begins a task that sleeps until an instant, or not at all if it has passed, where the clock
began at `start`. -/
def schedule (table : TaskTable) (start : Instant) (call : Nat) (firing : Firing)
    (time : Instant) : TaskTable :=
  let wait := Timers.wait (.ofTotal (start.total + table.clock)) time
  let (handle, table) := table.handleFor firing.run firing.token
  { table with tasks := place ⟨call, firing, table.clock + wait, handle⟩ table.tasks }

/-- Lets time pass.  The tasks that are due by then end, and those whose handle is not cancelled
give notice. -/
def advance (table : TaskTable) (nanos : Nat) : TaskTable :=
  let limit := table.clock + nanos
  let due := (table.tasks.takeWhile (·.deadline ≤ limit)).filter (·.handle ∉ table.cancelled)
  { table with
    clock := limit
    tasks := table.tasks.dropWhile (·.deadline ≤ limit)
    notices := table.notices ++ due.map fun task => ⟨task.call, task.firing, task.deadline⟩ }

/-- The number of runs that have timers. -/
def size (table : TaskTable) : Nat := table.pending.length

end TaskTable

end Dialogue

