import Dialogue.Failure
import Dialogue.Identifier

/-!
# Errors

What can go wrong outside and inside a run.  Each cause is a constructor; its
words are given by `message`, and `failureKind` is the kind of failure that a
run records when the error ends it.
-/

namespace Dialogue

/-- Why a flow definition cannot be loaded, or a run cannot begin in it. -/
inductive DefinitionError where
  | missingStart (flow : FlowId)
  | severalStarts (flow : FlowId) (count : Nat)
  | duplicateNode (node : NodeId)
  | danglingEdge (edge : String) (node : NodeId)
  | severalSuccessors (node : NodeId) (count : Nat)
  | unknownTarget (node target : NodeId)
  | unknownStart (node : NodeId)
  | invalidConfig (node : NodeId) (complaint : String)
  deriving DecidableEq, Repr

/-- Words between apostrophes. -/
def apostrophes (words : String) : String := "'" ++ words ++ "'"

/-- The words of a definition error. -/
def DefinitionError.message : DefinitionError → String
  | .missingStart flow => "flow " ++ apostrophes flow ++ " has no START node"
  | .severalStarts flow count =>
    "flow " ++ apostrophes flow ++ " has " ++ toString count ++
      " START nodes, expected exactly one"
  | .duplicateNode node => "duplicate node id " ++ apostrophes node
  | .danglingEdge edge node =>
    "edge " ++ apostrophes edge ++ " references unknown node " ++ apostrophes node
  | .severalSuccessors node count =>
    "node " ++ apostrophes node ++ " has " ++ toString count ++
      " outgoing edges; only CONDITION nodes may branch"
  | .unknownTarget node target =>
    "node " ++ apostrophes node ++ " targets unknown node " ++ apostrophes target
  | .unknownStart node => "start node " ++ apostrophes node ++ " does not exist"
  | .invalidConfig node complaint =>
    "invalid config for node " ++ apostrophes node ++ ": " ++ complaint

/-- A message could not be sent to a contact. -/
structure DispatchError where
  contactId : String
  complaint : String
  deriving DecidableEq, Repr

/-- The words of a dispatch error. -/
def DispatchError.message (e : DispatchError) : String :=
  "dispatch to contact " ++ apostrophes e.contactId ++ " failed: " ++ e.complaint

/-- A contact could not be handed to a queue. -/
structure AssignmentError where
  contactId : String
  queue : String
  complaint : String
  deriving DecidableEq, Repr

/-- The words of an assignment error. -/
def AssignmentError.message (e : AssignmentError) : String :=
  "assignment of contact " ++ apostrophes e.contactId ++ " to queue " ++ apostrophes e.queue ++
    " failed: " ++ e.complaint

/-- What a node may raise while it is stepped. -/
inductive NodeError where
  | dispatch (error : DispatchError)
  | assignment (error : AssignmentError)
  | configuration (complaint : String)
  | execution (complaint : String)
  deriving DecidableEq, Repr

/-- The words of a node error. -/
def NodeError.message : NodeError → String
  | .dispatch e => e.message
  | .assignment e => e.message
  | .configuration complaint => "Configuration error: " ++ complaint
  | .execution complaint => "Execution failed: " ++ complaint

/-- The failure a node error ends a run with. -/
def NodeError.failureKind : NodeError → FailureKind
  | .dispatch _ => .dispatch
  | .assignment _ => .assignment
  | .configuration _ => .configuration
  | .execution _ => .internal

/-- What an operation on flows and runs may raise. -/
inductive FlowError where
  | definition (error : DefinitionError)
  | flowNotFound (flow : FlowId)
  | runNotFound (run : Identifier)
  | node (error : NodeError)
  | execution (complaint : String)
  deriving DecidableEq, Repr

/-- The words of a flow error. -/
def FlowError.message : FlowError → String
  | .definition e => "Configuration error: " ++ e.message
  | .flowNotFound flow => "Flow not found: " ++ flow
  | .runNotFound run => "Run not found: " ++ run.text
  | .node e => "Node error: " ++ e.message
  | .execution complaint => "Execution error: " ++ complaint

/-- The failure a flow error ends a run with. -/
def FlowError.failureKind : FlowError → FailureKind
  | .definition _ | .flowNotFound _ => .configuration
  | .node e => e.failureKind
  | .runNotFound _ | .execution _ => .internal

/-- What resuming a run may raise. -/
inductive ResumeError where
  | notFound (run : Identifier)
  | busy (run : Identifier)
  | stale (run : Identifier) (reason : String)
  | flow (error : FlowError)
  deriving DecidableEq, Repr

/-- The words of a resume error. -/
def ResumeError.message : ResumeError → String
  | .notFound run => "Run not found: " ++ run.text
  | .busy run => "Run " ++ run.text ++ " is already being resumed"
  | .stale run reason => "Stale resume for run " ++ run.text ++ ": " ++ reason
  | .flow e => e.message

end Dialogue
