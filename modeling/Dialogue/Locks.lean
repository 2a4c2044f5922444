import Mathlib.Logic.Function.Basic
import Dialogue.Run.Basic

/-!
# Locks of keys

How permits come about.  Every key that is asked for has a lock, which is made
when the key is first asked for.  Calls refer to the lock that they found, while
they hold it and while they wait for it, and a key is forgotten when its permit is
given back and nothing but the table refers to its lock any more.

Who gets a permit, who waits and which keys are tracked is the same as in
`Permits`, where there are no locks to be shared.
-/

namespace Dialogue

/-- A lock that goes from one call to the next, first come first served. -/
structure Lock where
  taken : Bool := false
  /-- The calls that queue for it. -/
  queue : List Nat := []

/-- What a call refers to: the key that it has asked for, and the lock that it found there. -/
structure Handle where
  call : Nat
  key : RunKey
  lock : Nat
  deriving DecidableEq, Repr

/-- The locks of keys, and the calls that refer to them. -/
structure LockTable where
  /-- The locks by their numbers. -/
  locks : Nat → Lock := fun _ => {}
  /-- The number of locks made so far. -/
  made : Nat := 0
  /-- The lock of each tracked key. -/
  slots : List (RunKey × Nat) := []
  /-- The permits that have not been given back. -/
  permits : List Handle := []
  /-- The calls that wait for their lock. -/
  waiting : List Handle := []

namespace LockTable

/-- The lock of a key, which is made if there is none. -/
def lockOf (table : LockTable) (key : RunKey) : Nat × LockTable :=
  match table.slots.lookup key with
  | some lock => (lock, table)
  | none =>
    (table.made,
      { table with
        locks := Function.update table.locks table.made {}
        made := table.made + 1
        slots := table.slots ++ [(key, table.made)] })

/-- Takes a lock, which has to be free. -/
def take (table : LockTable) (handle : Handle) : LockTable :=
  { table with
    locks := Function.update table.locks handle.lock { table.locks handle.lock with taken := true }
    permits := table.permits ++ [handle] }

/-- Queues for a lock. -/
def queueUp (table : LockTable) (handle : Handle) : LockTable :=
  let lock := table.locks handle.lock
  { table with
    locks := Function.update table.locks handle.lock
      { lock with queue := lock.queue ++ [handle.call] }
    waiting := table.waiting ++ [handle] }

/-- Takes the permit of a key at once, if its lock is free; whether it was. -/
def tryAcquire (table : LockTable) (call : Nat) (key : RunKey) : Bool × LockTable :=
  let (lock, table) := table.lockOf key
  if (table.locks lock).taken then (false, table) else (true, table.take ⟨call, key, lock⟩)

/-- Takes the permit of a key, or waits for it. -/
def acquire (table : LockTable) (call : Nat) (key : RunKey) : LockTable :=
  let (lock, table) := table.lockOf key
  if (table.locks lock).taken then table.queueUp ⟨call, key, lock⟩
  else table.take ⟨call, key, lock⟩

/-- Gives a lock back.  The first call that queues for it has it from then on. -/
def unlock (table : LockTable) (handle : Handle) : LockTable :=
  let lock := table.locks handle.lock
  let permits := table.permits.filter (·.call != handle.call)
  match lock.queue with
  | [] =>
    { table with
      locks := Function.update table.locks handle.lock { lock with taken := false }
      permits }
  | next :: queue =>
    { table with
      locks := Function.update table.locks handle.lock { lock with queue }
      permits := permits ++ table.waiting.filter (·.call == next)
      waiting := table.waiting.filter (·.call != next) }

/-- How many refer to a lock, the table itself included. -/
def references (table : LockTable) (lock : Nat) : Nat :=
  table.slots.countP (·.2 == lock) + table.permits.countP (·.lock == lock) +
    table.waiting.countP (·.lock == lock)

/-- Forgets a key if nothing but the table refers to its lock. -/
def forgetUnused (table : LockTable) (key : RunKey) : LockTable :=
  match table.slots.lookup key with
  | some lock =>
    if table.references lock = 1 then
      { table with slots := table.slots.filter (·.1 != key) }
    else table
  | none => table

/-- Gives the permit of a call back, if it has one: its lock first, and then the key. -/
def drop (table : LockTable) (call : Nat) : LockTable :=
  match table.permits.find? (·.call == call) with
  | some handle => (table.unlock handle).forgetUnused handle.key
  | none => table

/-- The number of tracked keys. -/
def active (table : LockTable) : Nat := table.slots.length

end LockTable

end Dialogue
