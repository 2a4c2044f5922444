import Dialogue.Step.Behaviour
import Dialogue.Settings

/-!
# Driving runs

A run is driven step by step until it completes, fails or pauses.  Each level of
nesting counts its own steps.  A fresh nested run may go as deep as the settings
allow; a payload for a paused run is handed down the chain of its nested runs to
the innermost one.
-/

namespace Dialogue

/-- What a drive is bound by. -/
structure Bounds where
  settings : Settings
  now : Instant

namespace Run

/-- Tells the observers about something at a node of a run. -/
def tell (run : Run) (bounds : Bounds) (node : NodeId) (what : Occurrence) : Acting Unit :=
  Acting.emit (.inLevel run.toLevel node bounds.now what)

/-- Enters a node and tells about it. -/
def moveTo (run : Run) (bounds : Bounds) (node : NodeId) : Acting Run := do
  run.tell bounds node .nodeEntered
  return run.onLevel (·.enter node bounds.now)

/-- Fails at the current node and tells about it. -/
def failWith (run : Run) (bounds : Bounds) (kind : FailureKind) (message : String) :
    Acting Run := do
  run.tell bounds run.node (.runFailed kind message)
  return run.onLevel (·.fail kind message bounds.now)

end Run

namespace Drive

/-- What steps of a level can see at a node. -/
def surroundings (bounds : Bounds) (subflows : Subflows) (node : Graph.Node) : Surroundings where
  now := bounds.now
  successor := node.successor
  maxDepth := bounds.settings.maxDepth
  inputTimeout := bounds.settings.inputTimeout
  subflows := subflows

/-- Steps one level of a run at most so many times. -/
def walk (bounds : Bounds) (subflows : Subflows) (graph : Graph) :
    Nat → Run → Option Payload → Acting Run
  | 0, run, _ =>
    run.failWith bounds .stepLimit
      ("exceeded " ++ toString bounds.settings.maxSteps ++ " steps without pausing")
  | left + 1, run, payload =>
    match graph.find? run.node with
    | none =>
      run.failWith bounds .configuration
        ("node " ++ apostrophes run.node ++ " does not exist in flow " ++ apostrophes graph.id)
    | some node => do
      let here := run.node
      let (outcome, run) ←
        node.behaviour.step (surroundings bounds subflows node) run payload
      match outcome with
      | .go next =>
        run.tell bounds here .nodeCompleted
        if graph.contains next then
          let run ← run.moveTo bounds next
          walk bounds subflows graph left run none
        else
          run.failWith bounds .configuration
            ("node " ++ apostrophes here ++ " continued to unknown node " ++ apostrophes next)
      | .complete =>
        run.tell bounds here .nodeCompleted
        let run := run.onLevel (·.complete bounds.now)
        run.tell bounds here .runCompleted
        return run
      | .suspend suspension =>
        let run := run.onLevel (·.suspend suspension)
        run.tell bounds here (.runPaused suspension.reason)
        return run
      | .fail kind message => run.failWith bounds kind message

/-- Drives one level of a run.  Without a payload its current node is entered first; with one, the
current node is stepped again. -/
def level (bounds : Bounds) (subflows : Subflows) (graph : Graph) (run : Run)
    (payload : Option Payload) : Acting Run := do
  let run := run.onLevel fun l => { l with status := .running, suspension := none }
  let run ← if payload.isNone then run.moveTo bounds run.node else pure run
  walk bounds subflows graph bounds.settings.maxSteps run payload

/-- The error of resuming a nested run that is not there. -/
def nothingNested (run : Identifier) : FlowError :=
  .execution ("run " ++ run.text ++ " has no nested run to resume")

/-- How nested runs are begun where so many more levels are allowed.  A nested run that has just
begun is resumed by nobody. -/
def fresh (bounds : Bounds) : Nat → Option (FlowId → Run → Acting (Except FlowError Run))
  | 0 => none
  | room + 1 => some fun flow parent => do
    match ← Acting.flow flow with
    | .error e => return .error e
    | .ok graph =>
      let id ← Acting.newRun
      let (own, child) := parent.toLevel.spawn id flow graph.start bounds.now
      let subflows : Subflows :=
        ⟨fresh bounds room, fun _ run => return .error (nothingNested run.id)⟩
      let child ← level bounds subflows graph (.ofLevel child) none
      return .ok { own with nested := child.levels }

/-- The number of levels that may be nested below one. -/
def room (bounds : Bounds) (level : Level) : Nat := bounds.settings.maxDepth - level.depth

/-- Hands a payload down a chain of nested levels, outermost first: the chain after that. -/
def resumeChain (bounds : Bounds) (parent : Identifier) (payload : Payload) :
    List Level → Acting (Except FlowError (List Level))
  | [] => return .error (nothingNested parent)
  | child :: below => do
    match ← Acting.flow child.flow with
    | .error e => return .error e
    | .ok graph =>
      let resume (payload : Payload) (run : Run) : Acting (Except FlowError Run) := do
        match ← resumeChain bounds run.id payload below with
        | .error e => return .error e
        | .ok chain => return .ok { run with nested := chain }
      let run ← level bounds ⟨fresh bounds (room bounds child), resume⟩ graph
        { child with nested := below } (some payload)
      return .ok run.levels

end Drive

/-- Drives a run in a loaded flow until it completes, fails or pauses. -/
def Run.drive (run : Run) (bounds : Bounds) (graph : Graph) (payload : Option Payload) :
    Acting Run :=
  let resume (payload : Payload) (run' : Run) : Acting (Except FlowError Run) := do
    match ← Drive.resumeChain bounds run'.id payload run.nested with
    | .error e => return .error e
    | .ok chain => return .ok { run' with nested := chain }
  Drive.level bounds ⟨Drive.fresh bounds (Drive.room bounds run.toLevel), resume⟩ graph run payload

end Dialogue
