import Dialogue.Flow

/-!
# Settings

The bounds that an engine keeps its runs within.
-/

namespace Dialogue

/-- What an engine is configured with. -/
structure Settings where
  /-- How deeply flows may be nested. -/
  maxDepth : Nat := 10
  /-- How many steps a run may take without pausing. -/
  maxSteps : Nat := 1000
  /-- How many events are kept for an observer that is behind. -/
  eventCapacity : Nat := 1000
  /-- How many milliseconds to wait for a reply where a node does not say. -/
  inputTimeout : Option Nat := none
  /-- How many fired timers may wait to be handled. -/
  timerCapacity : Nat := 256
  deriving Repr, DecidableEq

namespace Settings

/-- Settings as they are stored. -/
def stored (settings : Settings) : Json :=
  .ofFields [("max_subflow_depth", .nat settings.maxDepth), ("max_steps", .nat settings.maxSteps),
    ("event_buffer_size", .nat settings.eventCapacity),
    ("input_timeout_ms", (settings.inputTimeout.map Json.nat).getD .null),
    ("timer_channel_capacity", .nat settings.timerCapacity)]

/-- The fields of stored settings, each of which may be left out. -/
def record : Record (Nat × Nat × Nat × Option Nat × Nat × Unit) :=
  let standard : Settings := {}
  .field "max_subflow_depth" [] (some standard.maxDepth) .word32 <|
  .field "max_steps" [] (some standard.maxSteps) .size <|
  .field "event_buffer_size" [] (some standard.eventCapacity) .size <|
  .field "input_timeout_ms" [] (some standard.inputTimeout) (.nullable .word64) <|
  .field "timer_channel_capacity" [] (some standard.timerCapacity) .size .done

/-- Settings from their stored form. -/
def decoder : Decoder Settings :=
  (record.decoder "struct RuntimeConfig").map
    fun (maxDepth, maxSteps, eventCapacity, inputTimeout, timerCapacity, _) =>
      { maxDepth, maxSteps, eventCapacity, inputTimeout, timerCapacity }

end Settings

end Dialogue
