import Dialogue.Behaviour.Config

/-!
# Node types

The types of nodes that flows may use.  Names of types do not depend on case.  A
node of a type that is not registered is no error: runs pass through it.
-/

namespace Dialogue

/-- What people are told about a type of node. -/
structure Metadata where
  description : String := ""
  category : String := "general"
  /-- Whether a node of the type can pause a run. -/
  suspends : Bool := false
  deriving DecidableEq, Repr

/-- A type of node: how its configuration becomes a behaviour. -/
structure NodeType where
  name : String
  metadata : Metadata := {}
  build : Flow.Node → Except DefinitionError Behaviour

/-- The registered types of nodes, by their names in lower case. -/
structure Registry where
  types : Fields NodeType

namespace Registry

/-- No types at all. -/
def empty : Registry := ⟨[]⟩

/-- Adds a type, replacing one of the same name. -/
def register (registry : Registry) (nodeType : NodeType) : Registry :=
  ⟨registry.types.insert (Text.asciiLower nodeType.name) nodeType⟩

/-- The type of a name, whatever its case. -/
def find? (registry : Registry) (name : String) : Option NodeType :=
  registry.types.get? (Text.asciiLower name)

/-- Whether a type is registered, whatever the case of its name. -/
def contains (registry : Registry) (name : String) : Bool := (registry.find? name).isSome

/-- The names of the registered types in ascending order. -/
def names (registry : Registry) : List String := registry.types.names

/-- The behaviour of a node. -/
def build (registry : Registry) (node : Flow.Node) : Except DefinitionError Behaviour :=
  match registry.types.get? node.typeKey with
  | some nodeType => nodeType.build node
  | none => .ok (.unknown node.kind)

end Registry

namespace NodeType

/-- The entry of a flow. -/
def start : NodeType where
  name := "start"
  metadata := ⟨"Flow entry point", "control", false⟩
  build := fun _ => .ok .start

/-- A sequence of messages. -/
def content : NodeType where
  name := "content"
  metadata := ⟨"Send templated messages to the contact", "messaging", true⟩
  build := Behaviour.buildContent

/-- A question to the contact. -/
def menu : NodeType where
  name := "menu"
  metadata := ⟨"Prompt the contact and wait for a choice or reply", "messaging", true⟩
  build := Behaviour.buildMenu

/-- A pause. -/
def delay : NodeType where
  name := "delay"
  metadata := ⟨"Pause the run for delay_ms milliseconds (default 1000)", "time", true⟩
  build := Behaviour.buildDelay

/-- A branch on rules. -/
def condition : NodeType where
  name := "condition"
  metadata := ⟨"Branch on ordered rules over variables and contact attributes", "control", false⟩
  build := Behaviour.buildCondition

/-- A hand-over to people. -/
def assignQueue : NodeType where
  name := "assign_queue"
  metadata := ⟨"Assign the contact to a human support queue", "handoff", false⟩
  build := Behaviour.buildAssignQueue

/-- A nested flow. -/
def subflow : NodeType where
  name := "subflow"
  metadata := ⟨"Run another flow inline, sharing the variables", "control", true⟩
  build := Behaviour.buildSubflow

/-- A node that acts out a script. -/
def scripted : NodeType where
  name := "Probe"
  build := Behaviour.buildScripted

/-- The types that every flow may use. -/
def standard : List NodeType :=
  [start, content, menu, delay, condition, assignQueue, subflow]

end NodeType

/-- The registry of the standard types. -/
def Registry.standard : Registry := NodeType.standard.foldl .register .empty

end Dialogue
