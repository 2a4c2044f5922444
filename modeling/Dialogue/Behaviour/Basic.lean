import Dialogue.Message
import Dialogue.Failure

/-!
# Behaviours of nodes

What a node of a loaded flow does, by its type.  A behaviour is plain data; how
it acts is said by its steps.
-/

namespace Dialogue

/-- One message of a sequence, with the pause to make after it. -/
structure Part where
  kind : ContentKind
  /-- The template of the text, or of the address of a medium. -/
  value : String
  caption : Option String := none
  /-- Milliseconds to wait before the next part. -/
  delay : Option Nat := none
  deriving DecidableEq, Repr

/-- A sequence of messages, possibly with pauses. -/
structure Sequence where
  parts : List Part
  /-- Milliseconds to wait after the last part; none for zero. -/
  trailing : Option Nat
  onError : OnError
  deriving DecidableEq, Repr

/-- One answer that a menu knows. -/
structure Choice where
  key : String
  label : Option String := none
  next : NodeId
  deriving DecidableEq, Repr

/-- A question to the contact.  Without choices any reply will do. -/
structure Menu where
  prompt : Option String
  choices : List Choice
  /-- The variable that keeps the answer. -/
  saveAs : Option String
  /-- Where to go when no choice matches. -/
  fallback : Option NodeId
  /-- Milliseconds to wait for an answer. -/
  timeout : Option Nat
  onError : OnError
  deriving DecidableEq, Repr

/-- What a scripted node does besides setting variables. -/
inductive Act where
  | advance
  | go (node : NodeId)
  | complete
  | sleep (millis : Nat)
  | fail (kind : FailureKind) (message : String)
  | raiseDispatch (message : String)
  | raiseAssignment (queue message : String)
  | raiseConfiguration (message : String)
  | raiseExecution (message : String)
  deriving DecidableEq, Repr

/-- A node that acts out what its configuration says, for rehearsing flows. -/
structure Script where
  vars : Values
  targets : List NodeId
  act : Act
  deriving Repr

/-- What a node does. -/
inductive Behaviour where
  /-- The entry of a flow. -/
  | start
  | content (sequence : Sequence)
  | menu (question : Menu)
  /-- Waits for a number of milliseconds. -/
  | delay (millis : Nat)
  | condition (rules : List Condition.Rule) (otherwise : Option NodeId)
  | assignQueue (queue : String) (onError : OnError)
  /-- Runs another flow for the same contact. -/
  | subflow (flow : FlowId)
  | scripted (script : Script)
  /-- A node of a type that nobody knows; runs pass through. -/
  | unknown (kind : String)
  deriving Repr

namespace Behaviour

/-- The name of a behaviour's type. -/
def kind : Behaviour → String
  | .start => "start"
  | .content _ => "content"
  | .menu _ => "menu"
  | .delay _ => "delay"
  | .condition .. => "condition"
  | .assignQueue .. => "assign_queue"
  | .subflow _ => "subflow"
  | .scripted _ => "Probe"
  | .unknown kind => kind

/-- The nodes that a behaviour can go to by its own configuration. -/
def targets : Behaviour → List NodeId
  | .menu question => question.choices.map Choice.next ++ question.fallback.toList
  | .condition rules otherwise => rules.map Condition.Rule.next ++ otherwise.toList
  | .scripted script => script.targets
  | .start | .content _ | .delay _ | .assignQueue .. | .subflow _ | .unknown _ => []

end Behaviour

end Dialogue
