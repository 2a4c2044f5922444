import Dialogue.Behaviour.Basic
import Dialogue.Error

/-!
# Node configurations

How the free-form configuration of a node is read for each type of node.
Malformed configurations are refused when a flow is loaded.
-/

namespace Dialogue

namespace Part

/-- The fields of a written part. -/
def record : Record (ContentKind × String × Option String × Option Nat × Unit) :=
  .field "kind" [] (some .text) ContentKind.decoder <| .field "value" [] none .string <|
    .field "caption" [] (some none) (.nullable .string) <|
    .field "delay_ms" [] (some none) (.nullable .word64) .done

/-- A part from its written form. -/
def decoder : Decoder Part :=
  (record.decoder "struct ContentPart").map fun (kind, value, caption, delay, _) =>
    ⟨kind, value, caption, delay⟩

/-- A plain text. -/
def text (value : String) : Part := { kind := .text, value }

end Part

namespace Choice

/-- The fields of a written choice. -/
def record : Record (String × Option String × NodeId × Unit) :=
  .field "key" [] none .string <| .field "label" [] (some none) (.nullable .string) <|
    .field "next" [] none .string .done

/-- A choice from its written form. -/
def decoder : Decoder Choice :=
  (record.decoder "struct MenuOption").map fun (key, label, next, _) => ⟨key, label, next⟩

end Choice

namespace Flow.Node

/-- Reads a node's configuration with a decoder. -/
def readConfig {α : Type} (node : Node) (decode : Decoder α) : Except DefinitionError α :=
  (decode.ofTree node.configJson).mapError fun e => .invalidConfig node.id e.message

end Flow.Node

/-- A policy that may be left out. -/
def OnError.field {τ : Type} (rest : Record τ) : Record (OnError × τ) :=
  .field "on_error" [] (some .proceed) OnError.decoder rest

namespace Behaviour

/-- Reads the configuration of a sequence of messages, which must not be empty. -/
def buildContent (node : Flow.Node) : Except DefinitionError Behaviour := do
  let record : Record (Option String × List Part × Option Nat × OnError × Unit) :=
    .field "text" [] (some none) (.nullable .string) <|
    .field "parts" [] (some []) (.list Part.decoder) <|
    .field "trailing_delay_ms" [] (some none) (.nullable .word64) <| OnError.field .done
  let (text, parts, trailing, onError, _) ← node.readConfig (record.decoder "struct ContentConfig")
  let parts := (text.map Part.text).toList ++ parts
  if parts.isEmpty then
    .error (.invalidConfig node.id "content node needs 'text' or at least one part")
  else .ok (.content ⟨parts, trailing.filter (0 < ·), onError⟩)

/-- Reads the configuration of a menu. -/
def buildMenu (node : Flow.Node) : Except DefinitionError Behaviour := do
  let record : Record (Option String × List Choice × Option String × Option NodeId × Option Nat ×
      OnError × Unit) :=
    .field "prompt" [] (some none) (.nullable .string) <|
    .field "options" [] (some []) (.list Choice.decoder) <|
    .field "variable" [] (some none) (.nullable .string) <|
    .field "fallback" [] (some none) (.nullable .string) <|
    .field "timeout_ms" [] (some none) (.nullable .word64) <| OnError.field .done
  let (prompt, choices, saveAs, fallback, timeout, onError, _) ←
    node.readConfig (record.decoder "struct MenuConfig")
  .ok (.menu { prompt, choices, saveAs, fallback, timeout, onError })

/-- Reads the configuration of a delay: a second where it does not say. -/
def buildDelay (node : Flow.Node) : Except DefinitionError Behaviour := do
  let record : Record (Nat × Unit) := .field "delay_ms" [] (some 1000) .word64 .done
  let (millis, _) ← node.readConfig (record.decoder "struct DelayConfig")
  .ok (.delay millis)

/-- Reads the configuration of a condition. -/
def buildCondition (node : Flow.Node) : Except DefinitionError Behaviour := do
  let record : Record (List Condition.Rule × Option NodeId × Unit) :=
    .field "rules" [] (some []) (.list Condition.Rule.decoder) <|
    .field "else" [] (some none) (.nullable .string) .done
  let (rules, otherwise, _) ← node.readConfig (record.decoder "struct ConditionConfig")
  .ok (.condition rules otherwise)

/-- Reads the configuration of a hand-over to a queue. -/
def buildAssignQueue (node : Flow.Node) : Except DefinitionError Behaviour := do
  let record : Record (String × OnError × Unit) :=
    .field "queue_id" [] none .string <| OnError.field .done
  let (queue, onError, _) ← node.readConfig (record.decoder "struct QueueConfig")
  .ok (.assignQueue queue onError)

/-- Reads the configuration of a nested flow. -/
def buildSubflow (node : Flow.Node) : Except DefinitionError Behaviour := do
  let record : Record (FlowId × Unit) := .field "flow_id" [] none .string .done
  let (flow, _) ← node.readConfig (record.decoder "struct SubflowConfig")
  .ok (.subflow flow)

/-- Reads the configuration of a scripted node; what it does not say takes a simple default. -/
def buildScripted (node : Flow.Node) : Except DefinitionError Behaviour :=
  let text (name : String) : String := ((node.config.get? name).bind Value.string?).getD ""
  let millis : Nat :=
    match node.config.get? "ms" with
    | some (.number x) => ((Decimal.truncate? x).getD 0).toNat
    | _ => 0
  let vars : Values :=
    match node.config.get? "set" with
    | some (.object fields) => fields
    | _ => []
  let targets := (((node.config.get? "targets").bind Value.array?).getD []).filterMap Value.string?
  let kind := (FailureKind.names.lookup (text "kind")).getD .internal
  let message := text "message"
  let act : Act :=
    match text "do" with
    | "continue" => .go (text "to")
    | "complete" => .complete
    | "sleep" => .sleep millis
    | "fail" => .fail kind message
    | "dispatch" => .raiseDispatch message
    | "assignment" => .raiseAssignment (text "queue") message
    | "configuration" => .raiseConfiguration message
    | "execution" => .raiseExecution message
    | _ => .advance
  .ok (.scripted { vars, targets, act })

end Behaviour

end Dialogue
