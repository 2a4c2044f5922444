import Dialogue.Value
import Dialogue.Condition
import Dialogue.Text.Letters

/-!
# Flow definitions

A flow as its author writes it: nodes of named types with free-form
configurations, joined by edges.  Nothing here is checked beyond its shape;
that is the work of the graph that a flow is loaded into.
-/

namespace Dialogue

/-- The name of a flow. -/
abbrev FlowId := String

namespace Flow

/-- A node as written: its type decides what its configuration means. -/
structure Node where
  id : NodeId
  kind : String
  label : Option String := none
  config : Values := []
  deriving Repr, BEq

/-- A structural link between two nodes. -/
structure Edge where
  id : String
  source : NodeId
  target : NodeId
  label : Option String := none
  deriving Repr, BEq, DecidableEq

end Flow

/-- A flow definition. -/
structure Flow where
  id : FlowId
  name : Option String := none
  nodes : List Flow.Node := []
  edges : List Flow.Edge := []
  deriving Repr, BEq

/-- A field that is left out where it has no value. -/
def optionalField (name : String) (value : Option Json) : List (String × Json) :=
  match value with
  | none => []
  | some json => [(name, json)]

namespace Flow

/-- The name under which a node's type is looked up: trimmed, in lower case. -/
def Node.typeKey (node : Node) : String := Text.asciiLower (Text.trim node.kind)

/-- A node's configuration as a document. -/
def Node.configJson (node : Node) : Json := (Value.object node.config).toJson

/-- A node as it is stored. -/
def Node.stored (node : Node) : Json :=
  .ofFields <| [("id", .string node.id), ("type", .string node.kind),
    ("config", Values.stored node.config)] ++ optionalField "label" (node.label.map .string)

/-- The fields of a stored node. -/
def Node.record : Record (NodeId × String × Option String × Values × Unit) :=
  .field "id" [] none .string <| .field "type" [] none .string <|
    .field "label" [] (some none) (.nullable .string) <|
    .field "config" [] (some []) Values.decoder .done

/-- A node from its stored form. -/
def Node.decoder : Decoder Node :=
  (Node.record.decoder "struct FlowNode").map fun (id, kind, label, config, _) =>
    ⟨id, kind, label, config⟩

/-- An edge as it is stored. -/
def Edge.stored (edge : Edge) : Json :=
  .ofFields <| [("id", .string edge.id), ("source", .string edge.source),
    ("target", .string edge.target)] ++ optionalField "label" (edge.label.map .string)

/-- The fields of a stored edge. -/
def Edge.record : Record (String × NodeId × NodeId × Option String × Unit) :=
  .field "id" [] none .string <| .field "source" ["sourceNodeId"] none .string <|
    .field "target" ["targetNodeId"] none .string <|
    .field "label" [] (some none) (.nullable .string) .done

/-- An edge from its stored form. -/
def Edge.decoder : Decoder Edge :=
  (Edge.record.decoder "struct FlowEdge").map fun (id, source, target, label, _) =>
    ⟨id, source, target, label⟩

/-- A flow as it is stored. -/
def stored (flow : Flow) : Json :=
  .ofFields <| [("id", .string flow.id), ("nodes", .array (flow.nodes.map Node.stored)),
    ("edges", .array (flow.edges.map Edge.stored))] ++
    optionalField "name" (flow.name.map .string)

/-- The fields of a stored flow. -/
def record : Record (FlowId × Option String × List Node × List Edge × Unit) :=
  .field "id" [] none .string <| .field "name" [] (some none) (.nullable .string) <|
    .field "nodes" [] none (.list Node.decoder) <|
    .field "edges" [] (some []) (.list Edge.decoder) .done

/-- A flow from its stored form. -/
def decoder : Decoder Flow :=
  (record.decoder "struct FlowDefinition").map fun (id, name, nodes, edges, _) =>
    ⟨id, name, nodes, edges⟩

/-- Adds a node at the end. -/
def addNode (flow : Flow) (node : Node) : Flow := { flow with nodes := flow.nodes ++ [node] }

/-- Adds an edge at the end, with an identifier made of both ends. -/
def connect (flow : Flow) (source target : NodeId) : Flow :=
  { flow with edges := flow.edges ++ [⟨source ++ "->" ++ target, source, target, none⟩] }

/-- The first node with an identifier. -/
def node? (flow : Flow) (id : NodeId) : Option Node := flow.nodes.find? (·.id == id)

end Flow

end Dialogue
