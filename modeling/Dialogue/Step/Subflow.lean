import Dialogue.Step.Basic

/-!
# Running another flow

The nested run takes the variables over and hands them back when it ends.  While
it is paused, so is the run it belongs to, with the same suspension.
-/

namespace Dialogue.Subflow

/-- What the state of the nested run means for the run it belongs to. -/
def settle (flow : FlowId) (around : Surroundings) (run : Run) : Outcome × Run :=
  match run.child? with
  | none => (.fail .internal "subflow finished without a nested run", run)
  | some child =>
    match child.status with
    | .paused =>
      match child.suspension with
      | some suspension => (.suspend suspension, run)
      | none => (.fail .internal "nested run paused without a suspension", run)
    | .completed => (around.advance, run.reclaim)
    | .failed =>
      let kind := (child.failure.map (·.kind)).getD .internal
      let message := (child.failure.map (·.message)).getD ""
      (.fail kind ("subflow " ++ apostrophes flow ++ " failed: " ++ message), run.reclaim)
    | .running => (.fail .internal "nested run stopped while running", run)

/-- The outcome of nesting more deeply than is allowed. -/
def tooDeep (flow : FlowId) (around : Surroundings) (run : Run) : Outcome :=
  .fail .recursionLimit ("subflow " ++ apostrophes flow ++ " would run at depth " ++
    toString (run.depth + 1) ++ " (limit " ++ toString around.maxDepth ++ ")")

/-- Begins the nested run, or hands a payload to it. -/
def step (flow : FlowId) (around : Surroundings) (run : Run) :
    Option Payload → Acting (Outcome × Run)
  | some payload => do
    match ← around.subflows.resume payload run with
    | .error e => return (.fail e.failureKind e.message, run.reclaim)
    | .ok run => return settle flow around run
  | none =>
    match around.subflows.start with
    | none => return (tooDeep flow around run, run)
    | some start => do
      match ← start flow run with
      | .error e => return (.fail e.failureKind e.message, run)
      | .ok run => return settle flow around run

end Dialogue.Subflow
