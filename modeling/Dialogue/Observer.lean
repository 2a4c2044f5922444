import Dialogue.Event
import Dialogue.Settings

/-!
# Observers

Events are kept for observers that are behind, up to a capacity; an observer
that is further behind loses the oldest ones and is told how many.
-/

namespace Dialogue

/-- The least power of two that is not less than `n`. -/
def powerAbove (n : Nat) : Nat := if n ≤ 1 then 1 else twoTo ((n - 1).log2 + 1)

namespace Settings

/-- The greatest capacity for events. -/
def largestBuffer : Nat := twoTo 63 - 1

/-- The greatest capacity for fired timers. -/
def largestQueue : Nat := twoTo 61 - 1

/-- Whether an engine can be made with these capacities. -/
def isUsable (settings : Settings) : Bool :=
  1 ≤ settings.eventCapacity && settings.eventCapacity ≤ largestBuffer &&
    settings.timerCapacity ≤ largestQueue

/-- How many events are kept. -/
def keptEvents (settings : Settings) : Nat := powerAbove settings.eventCapacity

end Settings

/-- What an observer gets of the events since it last looked: how many it lost, and the others. -/
def observe (kept : Nat) (events : List Event) : Nat × List Event :=
  let lost := events.length - kept
  (lost, events.drop lost)

end Dialogue
