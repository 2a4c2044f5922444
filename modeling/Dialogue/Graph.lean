import Dialogue.Registry

/-!
# Flow graphs

A loaded flow: every node with its behaviour and its structural successor.
Loading checks a definition completely, so that a run in the graph never looks
for a node that does not exist.  Nodes keep the order of the definition.
-/

namespace Dialogue

namespace Graph

/-- A node of a loaded flow. -/
structure Node where
  id : NodeId
  behaviour : Behaviour
  /-- Where runs go on by structure; branching nodes have none. -/
  successor : Option NodeId
  /-- All nodes that an edge or the configuration leads to. -/
  links : List NodeId
  deriving Repr

end Graph

/-- A loaded flow. -/
structure Graph where
  id : FlowId
  name : Option String
  start : NodeId
  nodes : List Graph.Node
  deriving Repr

namespace Graph

/-- The node with an identifier. -/
def find? (graph : Graph) (id : NodeId) : Option Node := graph.nodes.find? (·.id == id)

/-- Whether a node exists. -/
def contains (graph : Graph) (id : NodeId) : Bool := (graph.find? id).isSome

/-- The behaviour of a node. -/
def behaviour? (graph : Graph) (id : NodeId) : Option Behaviour :=
  (graph.find? id).map Node.behaviour

/-- The structural successor of a node. -/
def successor? (graph : Graph) (id : NodeId) : Option NodeId :=
  (graph.find? id).bind Node.successor

/-- The number of nodes. -/
def size (graph : Graph) : Nat := graph.nodes.length

/-- The first identifier that occurred before. -/
def firstRepeated? (before : List NodeId) : List NodeId → Option NodeId
  | [] => none
  | id :: rest => if before.contains id then some id else firstRepeated? (id :: before) rest

/-- The only node of type `start`. -/
def findStart (flow : Flow) : Except DefinitionError NodeId :=
  match flow.nodes.filter (·.typeKey == "start") with
  | [only] => .ok only.id
  | [] => .error (.missingStart flow.id)
  | many => .error (.severalStarts flow.id many.length)

/-- Checks that both ends of every edge exist. -/
def checkEdges (ids : List NodeId) : List Flow.Edge → Except DefinitionError Unit
  | [] => .ok ()
  | edge :: rest =>
    if !ids.contains edge.source then .error (.danglingEdge edge.id edge.source)
    else if !ids.contains edge.target then .error (.danglingEdge edge.id edge.target)
    else checkEdges ids rest

/-- Whether the edges that leave a node are left to its configuration to choose from. -/
def branches (node : Flow.Node) : Bool := node.typeKey == "condition"

/-- Loads one node of a flow: at most one edge may leave it unless it branches, its configuration
must be accepted, and all its targets must exist. -/
def loadNode (registry : Registry) (flow : Flow) (node : Flow.Node) :
    Except DefinitionError Node := do
  let next := (flow.edges.filter (·.source == node.id)).map Flow.Edge.target
  if !branches node && 1 < next.length then .error (.severalSuccessors node.id next.length)
  else
    let behaviour ← registry.build node
    let ids := flow.nodes.map Flow.Node.id
    match behaviour.targets.find? (!ids.contains ·) with
    | some target => .error (.unknownTarget node.id target)
    | none =>
      .ok ⟨node.id, behaviour, if branches node then none else next.head?,
        next ++ behaviour.targets⟩

/-- Loads a flow.  The checks come in order: identifiers, the start node, edges, and then node by
node. -/
def load (registry : Registry) (flow : Flow) : Except DefinitionError Graph := do
  let ids := flow.nodes.map Flow.Node.id
  match firstRepeated? [] ids with
  | some id => .error (.duplicateNode id)
  | none =>
    let start ← findStart flow
    checkEdges ids flow.edges
    let nodes ← flow.nodes.mapM (loadNode registry flow)
    .ok ⟨flow.id, flow.name, start, nodes⟩

/-- The nodes that links lead to. -/
def linked (graph : Graph) (id : NodeId) : List NodeId :=
  ((graph.find? id).map Node.links).getD []

/-- Extends the found nodes by what the frontier leads to, at most so many times; every time at
least one node is found or nothing is left to look at. -/
def explore (graph : Graph) : Nat → List NodeId → List NodeId → List NodeId
  | 0, _, found => found
  | _, [], found => found
  | rounds + 1, frontier, found =>
    let fresh := ((frontier.flatMap graph.linked).eraseDups).filter (!found.contains ·)
    graph.explore rounds fresh (found ++ fresh)

/-- The nodes that some path from the start leads to. -/
def reachable (graph : Graph) : List NodeId :=
  graph.explore graph.size [graph.start] [graph.start]

/-- The nodes that no path from the start leads to, in ascending order. -/
def unreachable (graph : Graph) : List NodeId :=
  let found := graph.reachable
  ((graph.nodes.map Node.id).filter (!found.contains ·)).mergeSort (fun a b => decide (a ≤ b))

/-- The text of a graph for people. -/
def describe (graph : Graph) : String :=
  "FlowGraph \x7b id: " ++ Text.displayQuoted graph.id ++ ", start: " ++
    Text.displayQuoted graph.start ++ ", nodes: " ++ toString graph.size ++ " \x7d"

end Graph

end Dialogue
