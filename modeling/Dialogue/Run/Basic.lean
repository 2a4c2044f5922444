import Dialogue.Run.History

/-!
# Runs

A run is one contact's way through one flow.  While a nested flow is in
progress the run has a nested run, which may have one in turn: a run is a chain
of levels, outermost first.  The variables live in the innermost level; they are
moved down when a nested run begins and handed back when it ends.
-/

namespace Dialogue

/-- One level of a run: the state of its way through one flow. -/
structure Level where
  id : Identifier
  flow : FlowId
  contactId : String
  parent : Option Identifier
  vars : Values
  contact : Values
  node : NodeId
  history : History
  status : Status
  depth : Nat
  /-- How far the current node has got with its work. -/
  cursor : Nat
  suspension : Option Suspension
  failure : Option Failure
  createdAt : Instant
  updatedAt : Instant
  deriving Repr, BEq

/-- A run: its own level and the levels nested below it, outermost first. -/
structure Run extends Level where
  nested : List Level
  deriving Repr, BEq

/-- What a run is asked to begin with. -/
structure RunRequest where
  flow : FlowId
  contactId : String
  start : Option NodeId := none
  vars : Values := []
  contact : Values := []
  deriving Repr

/-- At most one operation at a time may work on the runs of a contact in a flow. -/
structure RunKey where
  flow : FlowId
  contactId : String
  deriving DecidableEq, Repr

namespace Level

/-- A level that has not entered any node yet. -/
def fresh (id : Identifier) (request : RunRequest) (start : NodeId) (now : Instant) : Level where
  id := id
  flow := request.flow
  contactId := request.contactId
  parent := none
  vars := request.vars
  contact := request.contact
  node := start
  history := []
  status := .running
  depth := 0
  cursor := 0
  suspension := none
  failure := none
  createdAt := now
  updatedAt := now

/-- What a level is serialized by. -/
def key (level : Level) : RunKey := ⟨level.flow, level.contactId⟩

/-- Whether nothing can happen any more. -/
def isTerminal (level : Level) : Bool := level.status.isTerminal

/-- Whether the level waits for an event. -/
def isPaused (level : Level) : Bool := level.status == .paused

/-- Enters a node.  Only here does the history grow. -/
def enter (level : Level) (node : NodeId) (time : Instant) : Level :=
  { level with node, cursor := 0, history := level.history.enter node time, updatedAt := time }

/-- Adds a note to the current visit. -/
def note (level : Level) (remark : Note) : Level :=
  { level with history := level.history.note remark }

/-- Pauses. -/
def suspend (level : Level) (suspension : Suspension) : Level :=
  { level with status := .paused, suspension := some suspension, updatedAt := suspension.since }

/-- Ends normally. -/
def complete (level : Level) (time : Instant) : Level :=
  { level with status := .completed, suspension := none, updatedAt := time }

/-- Fails at the current node. -/
def fail (level : Level) (kind : FailureKind) (message : String) (time : Instant) : Level :=
  { level.note (.failure kind message) with
    failure := some ⟨kind, message, level.node, time⟩
    status := .failed
    suspension := none
    updatedAt := time }

/-- The level of a nested run, which takes the variables over; and this level without them. -/
def spawn (level : Level) (id : Identifier) (flow : FlowId) (start : NodeId) (now : Instant) :
    Level × Level :=
  let child : Level :=
    { fresh id ⟨flow, level.contactId, none, level.vars, level.contact⟩ start now with
      parent := some level.id
      depth := level.depth + 1 }
  ({ level with vars := [] }, child)

/-- Takes the variables of an ended nested run back and notes how it ended.  A variable that both
have keeps the nested run's value. -/
def absorb (level child : Level) : Level :=
  { level with vars := child.vars.union level.vars }.note
    (.subflow child.flow child.id child.status child.history.nodes)

end Level

namespace Run

/-- A run with no nested run. -/
def ofLevel (level : Level) : Run := { level with nested := [] }

/-- The levels of a run, outermost first. -/
def levels (run : Run) : List Level := run.toLevel :: run.nested

/-- Works on the outermost level. -/
def onLevel (run : Run) (f : Level → Level) : Run := { run with toLevel := f run.toLevel }

/-- The nested run. -/
def child? (run : Run) : Option Run :=
  match run.nested with
  | [] => none
  | child :: below => some { child with nested := below }

/-- The run with another nested run. -/
def withChild (run child : Run) : Run := { run with nested := child.levels }

/-- The run so many levels down. -/
def below? (run : Run) : Nat → Option Run
  | 0 => some run
  | depth + 1 => (run.below? depth).bind child?

/-- Works on the run so many levels down, if there is one. -/
def modifyBelow (f : Run → Run) : Nat → Run → Run
  | 0, run => f run
  | depth + 1, run =>
    match run.child? with
    | none => run
    | some child => run.withChild (modifyBelow f depth child)

/-- A run that begins. -/
def fresh (id : Identifier) (request : RunRequest) (start : NodeId) (now : Instant) : Run :=
  ofLevel (Level.fresh id request start now)

/-- Begins a nested run, in the place of any that there was. -/
def spawn (run : Run) (id : Identifier) (flow : FlowId) (start : NodeId) (now : Instant) : Run :=
  let (own, child) := run.toLevel.spawn id flow start now
  { own with nested := [child] }

/-- The innermost level. -/
def innermost (run : Run) : Level := run.nested.getLast?.getD run.toLevel

/-- Takes an ended nested run back, with its variables.  What is nested below it goes with it. -/
def reclaim (run : Run) : Run :=
  match run.nested with
  | [] => run
  | child :: _ => { run.onLevel (·.absorb child) with nested := [] }

/-- Fails the levels of a chain innermost first, each handing its variables up: what the outermost
of them becomes. -/
def unwind (kind : FailureKind) (message : String) (time : Instant) (level : Level) :
    List Level → Level
  | [] => level.fail kind message time
  | child :: below =>
    (level.absorb (unwind kind message time child below)).fail kind message time

/-- Fails a run with all that is nested in it. -/
def terminate (run : Run) (kind : FailureKind) (message : String) (time : Instant) : Run :=
  ofLevel (unwind kind message time run.toLevel run.nested)

end Run

end Dialogue
