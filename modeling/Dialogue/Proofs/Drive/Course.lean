import Dialogue.Drive
import Dialogue.Proofs.Step.Visit
import Dialogue.Proofs.World.Telling

/-!
# The course of a drive

How a drive goes, as one relation between the world and the run before it and
after it: which node is stepped, which nested run is begun or resumed on the
way, and how each level ends.  The drives themselves are recursive in three
ways, over the steps of a level, over the levels that may be begun and over the
levels that are resumed; a course has one induction for all three.

`course_drive` says that every drive has a course, and `Course.unique` that it
has no other.
-/

namespace Dialogue

/-! ## The moves of a drive -/

namespace World

/-- Tells the observers about something at a node of a run. -/
def told (world : World) (bounds : Bounds) (run : Run) (node : NodeId)
    (what : Occurrence) : World :=
  world.emit (.inLevel run.toLevel node bounds.now what)

end World

namespace Run

/-- The run while it is driven. -/
def awake (run : Run) : Run :=
  run.onLevel fun l => { l with status := .running, suspension := none }

/-- The run at a node that it enters. -/
def entering (run : Run) (bounds : Bounds) (node : NodeId) : Run :=
  run.onLevel (·.enter node bounds.now)

/-- The run with an outcome that fails it. -/
def failing (run : Run) (bounds : Bounds) (kind : FailureKind) (message : String) : Run :=
  run.onLevel (·.fail kind message bounds.now)

/-- The run that gives its variables to a nested run. -/
def givingAway (run : Run) : Run := run.onLevel fun l => { l with vars := [] }

/-- The nested run that a run begins. -/
def begun (run : Run) (bounds : Bounds) (id : Identifier) (graph : Graph) (flow : FlowId) :
    Run :=
  ofLevel (run.toLevel.spawn id flow graph.start bounds.now).2

end Run

namespace Drive

/-- What a step sees that runs no other flow. -/
def alone (bounds : Bounds) (node : Graph.Node) : Surroundings :=
  surroundings bounds ⟨none, fun _ run => return .error (nothingNested run.id)⟩ node

/-- What is done in a drive of one level. -/
inductive Phase where
  /-- The level is driven. -/
  | level (graph : Graph) (payload : Option Payload)
  /-- The level is stepped at its current node, and may be so many times. -/
  | walk (graph : Graph) (left : Nat) (payload : Option Payload)
  /-- The level goes on after a step. -/
  | leave (graph : Graph) (left : Nat) (outcome : Outcome)

/-- The course of a drive within bounds: from a world and a run to the world and
the run after it. -/
inductive Course (bounds : Bounds) : Phase → World → Run → World → Run → Prop
  /-- A level that begins enters its node. -/
  | enter {graph world run world' run'}
      (rest : Course bounds (.walk graph bounds.settings.maxSteps none)
        (world.told bounds run run.node .nodeEntered)
        (run.awake.entering bounds run.node) world' run') :
      Course bounds (.level graph none) world run world' run'
  /-- A level that is resumed is stepped where it is. -/
  | wake {graph payload world run world' run'}
      (rest : Course bounds (.walk graph bounds.settings.maxSteps (some payload))
        world run.awake world' run') :
      Course bounds (.level graph (some payload)) world run world' run'
  /-- A level that may not be stepped any more fails. -/
  | exhausted {graph payload world run} :
      Course bounds (.walk graph 0 payload) world run
        (world.told bounds run run.node (.runFailed .stepLimit
          ("exceeded " ++ toString bounds.settings.maxSteps ++ " steps without pausing")))
        (run.failing bounds .stepLimit
          ("exceeded " ++ toString bounds.settings.maxSteps ++ " steps without pausing"))
  /-- A level whose node is not there fails. -/
  | missing {graph left payload world run} (hnode : graph.find? run.node = none) :
      Course bounds (.walk graph (left + 1) payload) world run
        (world.told bounds run run.node (.runFailed .configuration
          ("node " ++ apostrophes run.node ++ " does not exist in flow " ++
            apostrophes graph.id)))
        (run.failing bounds .configuration
          ("node " ++ apostrophes run.node ++ " does not exist in flow " ++
            apostrophes graph.id))
  /-- A step that runs no other flow. -/
  | plain {graph left payload world run node outcome stepped world₁ world' run'}
      (hnode : graph.find? run.node = some node)
      (hplain : node.behaviour.isSubflow = false)
      (hstep : world.act (node.behaviour.step (alone bounds node) run payload) =
        ((outcome, stepped), world₁))
      (rest : Course bounds (.leave graph left outcome) world₁ stepped world' run') :
      Course bounds (.walk graph (left + 1) payload) world run world' run'
  /-- A nested run that would be too deep is not begun. -/
  | tooDeep {graph left world run node flow world' run'}
      (hnode : graph.find? run.node = some node)
      (hflow : node.behaviour = .subflow flow)
      (hdepth : bounds.settings.maxDepth ≤ run.depth)
      (rest : Course bounds
        (.leave graph left (Subflow.tooDeep flow (alone bounds node) run))
        world run world' run') :
      Course bounds (.walk graph (left + 1) none) world run world' run'
  /-- A nested run whose flow cannot be loaded is not begun. -/
  | unloadable {graph left world run node flow e world' run'}
      (hnode : graph.find? run.node = some node)
      (hflow : node.behaviour = .subflow flow)
      (hdepth : run.depth < bounds.settings.maxDepth)
      (hlook : world.flow flow = .error e)
      (rest : Course bounds (.leave graph left (.fail e.failureKind e.message))
        world run world' run') :
      Course bounds (.walk graph (left + 1) none) world run world' run'
  /-- A nested run begins and is driven. -/
  | nest {graph left world run node flow inner world₁ child world' run'}
      (hnode : graph.find? run.node = some node)
      (hflow : node.behaviour = .subflow flow)
      (hdepth : run.depth < bounds.settings.maxDepth)
      (hlook : world.flow flow = .ok inner)
      (drive : Course bounds (.level inner none) (world.look flow).2.newRun.2
        (run.begun bounds (world.look flow).2.newRun.1 inner flow) world₁ child)
      (rest : Course bounds
        (.leave graph left
          (Subflow.settle flow (alone bounds node) (run.givingAway.withChild child)).1)
        world₁ (Subflow.settle flow (alone bounds node) (run.givingAway.withChild child)).2
        world' run') :
      Course bounds (.walk graph (left + 1) none) world run world' run'
  /-- There is no nested run to resume. -/
  | orphan {graph left payload world run node flow world' run'}
      (hnode : graph.find? run.node = some node)
      (hflow : node.behaviour = .subflow flow)
      (hnested : run.nested = [])
      (rest : Course bounds
        (.leave graph left
          (.fail (nothingNested run.id).failureKind (nothingNested run.id).message))
        world run world' run') :
      Course bounds (.walk graph (left + 1) (some payload)) world run world' run'
  /-- The flow of the nested run to resume cannot be loaded. -/
  | lost {graph left payload world run node flow child below e world' run'}
      (hnode : graph.find? run.node = some node)
      (hflow : node.behaviour = .subflow flow)
      (hnested : run.nested = child :: below)
      (hlook : world.flow child.flow = .error e)
      (rest : Course bounds (.leave graph left (.fail e.failureKind e.message))
        world run.reclaim world' run') :
      Course bounds (.walk graph (left + 1) (some payload)) world run world' run'
  /-- The nested run is resumed. -/
  | pass {graph left payload world run node flow child below inner world₁ ended world' run'}
      (hnode : graph.find? run.node = some node)
      (hflow : node.behaviour = .subflow flow)
      (hnested : run.nested = child :: below)
      (hlook : world.flow child.flow = .ok inner)
      (drive : Course bounds (.level inner (some payload)) (world.look child.flow).2
        { child with nested := below } world₁ ended)
      (rest : Course bounds
        (.leave graph left
          (Subflow.settle flow (alone bounds node) (run.withChild ended)).1)
        world₁ (Subflow.settle flow (alone bounds node) (run.withChild ended)).2
        world' run') :
      Course bounds (.walk graph (left + 1) (some payload)) world run world' run'
  /-- The level goes on to a node. -/
  | go {graph left next world run world' run'} (hnext : graph.contains next = true)
      (rest : Course bounds (.walk graph left none)
        ((world.told bounds run run.node .nodeCompleted).told bounds run next .nodeEntered)
        (run.entering bounds next) world' run') :
      Course bounds (.leave graph left (.go next)) world run world' run'
  /-- The node to go on to is not there. -/
  | astray {graph left next world run} (hnext : graph.contains next = false) :
      Course bounds (.leave graph left (.go next)) world run
        ((world.told bounds run run.node .nodeCompleted).told bounds run run.node
          (.runFailed .configuration ("node " ++ apostrophes run.node ++
            " continued to unknown node " ++ apostrophes next)))
        (run.failing bounds .configuration ("node " ++ apostrophes run.node ++
            " continued to unknown node " ++ apostrophes next))
  | complete {graph left world run} :
      Course bounds (.leave graph left .complete) world run
        ((world.told bounds run run.node .nodeCompleted).told bounds run run.node
          .runCompleted)
        (run.onLevel (·.complete bounds.now))
  | suspend {graph left suspension world run} :
      Course bounds (.leave graph left (.suspend suspension)) world run
        (world.told bounds run run.node (.runPaused suspension.reason))
        (run.onLevel (·.suspend suspension))
  | fail {graph left kind message world run} :
      Course bounds (.leave graph left (.fail kind message)) world run
        (world.told bounds run run.node (.runFailed kind message))
        (run.failing bounds kind message)

/-! ## Every drive has a course -/

variable {bounds : Bounds}

/-- What a drive does after a step at a node. -/
def goOn (bounds : Bounds) (subflows : Subflows) (graph : Graph) (left : Nat)
    (here : NodeId) (run : Run) : Outcome → Acting Run
  | .go next => do
    run.tell bounds here .nodeCompleted
    if graph.contains next then
      let run ← run.moveTo bounds next
      walk bounds subflows graph left run none
    else
      run.failWith bounds .configuration
        ("node " ++ apostrophes here ++ " continued to unknown node " ++ apostrophes next)
  | .complete => do
    run.tell bounds here .nodeCompleted
    let run := run.onLevel (·.complete bounds.now)
    run.tell bounds here .runCompleted
    return run
  | .suspend suspension => do
    let run := run.onLevel (·.suspend suspension)
    run.tell bounds here (.runPaused suspension.reason)
    return run
  | .fail kind message => run.failWith bounds kind message

theorem walk_succ {subflows : Subflows} {graph : Graph} {left : Nat} {run : Run}
    {payload : Option Payload} {node : Graph.Node} (hnode : graph.find? run.node = some node) :
    walk bounds subflows graph (left + 1) run payload =
      (node.behaviour.step (surroundings bounds subflows node) run payload >>= fun stepped =>
        goOn bounds subflows graph left run.node stepped.2 stepped.1) := by
  rw [walk]
  simp only [hnode]
  rfl

theorem act_moveTo (world : World) (run : Run) (node : NodeId) :
    world.act (run.moveTo bounds node) =
      (run.entering bounds node, world.told bounds run node .nodeEntered) := by
  rw [Run.moveTo, World.act_bind]
  rfl

theorem act_failWith (world : World) (run : Run) (kind : FailureKind) (message : String) :
    world.act (run.failWith bounds kind message) =
      (run.failing bounds kind message,
        world.told bounds run run.node (.runFailed kind message)) := by
  rw [Run.failWith, World.act_bind]
  rfl

/-- A step that runs no other flow does not see how others are run. -/
theorem step_alone {behaviour : Behaviour} (h : behaviour.isSubflow = false)
    (subflows : Subflows) (node : Graph.Node) (run : Run) (payload : Option Payload) :
    behaviour.step (surroundings bounds subflows node) run payload =
      behaviour.step (alone bounds node) run payload := by
  have hsend (sequence : Sequence) (parts : List Part) (index : Nat) (run : Run) :
      sequence.sendFrom (surroundings bounds subflows node) parts index run =
        sequence.sendFrom (alone bounds node) parts index run := by
    induction parts generalizing index run with
    | nil => rfl
    | cons part rest ih =>
        simp only [Sequence.sendFrom]
        congr 1
        funext delivered
        rcases delivered with ⟨failed, after⟩
        cases failed with
        | some outcome => rfl
        | none =>
            dsimp only
            split
            · rfl
            · exact ih _ _
  cases behaviour with
  | subflow flow => simp [Behaviour.isSubflow] at h
  | content sequence =>
      simp only [Behaviour.step, Sequence.step, hsend]
      rfl
  | _ => rfl

/-- Nested runs of a level at a depth are begun as a course says. -/
structure Starts (bounds : Bounds) (depth : Nat) (subflows : Subflows) : Prop where
  tooDeep : bounds.settings.maxDepth ≤ depth → subflows.start = none
  start : depth < bounds.settings.maxDepth → ∃ start, subflows.start = some start ∧
    ∀ (world : World) (flow : FlowId) (run : Run), run.depth = depth →
      (∀ e, world.flow flow = .error e → world.act (start flow run) = (.error e, world)) ∧
      ∀ inner, world.flow flow = .ok inner → ∃ world₁ child,
        Course bounds (.level inner none) (world.look flow).2.newRun.2
          (run.begun bounds (world.look flow).2.newRun.1 inner flow) world₁ child ∧
        world.act (start flow run) = (.ok (run.givingAway.withChild child), world₁)

/-- The nested runs of a level are resumed as a course says. -/
structure Resumes (bounds : Bounds) (nested : List Level) (subflows : Subflows) : Prop where
  orphan : nested = [] → ∀ (world : World) (payload : Payload) (run : Run),
    world.act (subflows.resume payload run) = (.error (nothingNested run.id), world)
  resume : ∀ child below, nested = child :: below →
    ∀ (world : World) (payload : Payload) (run : Run),
      (∀ e, world.flow child.flow = .error e →
        world.act (subflows.resume payload run) = (.error e, world)) ∧
      ∀ inner, world.flow child.flow = .ok inner → ∃ world₁ ended,
        Course bounds (.level inner (some payload)) (world.look child.flow).2
          { child with nested := below } world₁ ended ∧
        world.act (subflows.resume payload run) = (.ok (run.withChild ended), world₁)

/-- A level goes on after a step as a course says, if it walks as one says. -/
theorem course_goOn {subflows : Subflows} {graph : Graph} {left depth : Nat}
    (walks : ∀ (world : World) (run : Run), run.depth = depth →
      Course bounds (.walk graph left none) world run
        (world.act (walk bounds subflows graph left run none)).2
        (world.act (walk bounds subflows graph left run none)).1)
    (world : World) {run : Run} (hdepth : run.depth = depth) (outcome : Outcome) :
    Course bounds (.leave graph left outcome) world run
      (world.act (goOn bounds subflows graph left run.node run outcome)).2
      (world.act (goOn bounds subflows graph left run.node run outcome)).1 := by
  cases outcome with
  | go next =>
      unfold goOn Run.tell
      rw [World.act_bind, World.act_emit]
      by_cases hnext : graph.contains next = true
      · rw [if_pos hnext, World.act_bind, act_moveTo]
        exact .go hnext (walks _ _ hdepth)
      · rw [if_neg hnext, act_failWith]
        exact .astray (by simpa using hnext)
  | complete =>
      unfold goOn Run.tell
      rw [World.act_bind, World.act_emit, World.act_bind, World.act_emit]
      exact .complete
  | suspend suspension =>
      unfold goOn Run.tell
      rw [World.act_bind, World.act_emit]
      exact .suspend
  | fail kind message =>
      unfold goOn
      rw [act_failWith]
      exact .fail

section Subflow

variable {around : Surroundings} {flow : FlowId} {world after : World} {run run' : Run}
  {payload : Payload} {e : FlowError}

theorem act_subflow_tooDeep (hstart : around.subflows.start = none) :
    world.act (Subflow.step flow around run none) =
      ((Subflow.tooDeep flow around run, run), world) := by
  simp only [Subflow.step, hstart]
  rfl

theorem act_subflow_start_error {start : FlowId → Run → Acting (Except FlowError Run)}
    (hstart : around.subflows.start = some start)
    (hact : world.act (start flow run) = (.error e, after)) :
    world.act (Subflow.step flow around run none) =
      ((.fail e.failureKind e.message, run), after) := by
  simp only [Subflow.step, hstart, World.act_bind, hact]
  rfl

theorem act_subflow_start_ok {start : FlowId → Run → Acting (Except FlowError Run)}
    (hstart : around.subflows.start = some start)
    (hact : world.act (start flow run) = (.ok run', after)) :
    world.act (Subflow.step flow around run none) =
      (Subflow.settle flow around run', after) := by
  simp only [Subflow.step, hstart, World.act_bind, hact]
  rfl

theorem act_subflow_resume_error
    (hact : world.act (around.subflows.resume payload run) = (.error e, after)) :
    world.act (Subflow.step flow around run (some payload)) =
      ((.fail e.failureKind e.message, run.reclaim), after) := by
  simp only [Subflow.step, World.act_bind, hact]
  rfl

theorem act_subflow_resume_ok
    (hact : world.act (around.subflows.resume payload run) = (.ok run', after)) :
    world.act (Subflow.step flow around run (some payload)) =
      (Subflow.settle flow around run', after) := by
  simp only [Subflow.step, World.act_bind, hact]
  rfl

end Subflow

/-- What a nested run comes to leaves the run as it is or takes the nested run back. -/
theorem settle_run (flow : FlowId) (around : Surroundings) (run : Run) :
    (Subflow.settle flow around run).2 = run ∨
      (Subflow.settle flow around run).2 = run.reclaim := by
  unfold Subflow.settle
  cases run.child? with
  | none => exact .inl rfl
  | some child =>
      dsimp only
      cases child.status with
      | running => exact .inl rfl
      | paused => cases child.suspension <;> exact .inl rfl
      | completed => exact .inr rfl
      | failed => exact .inr rfl

/-- Taking a nested run back happens within the visit to the subflow node. -/
theorem absorb_visit (level child : Level) : level.SameVisit (level.absorb child) :=
  (Level.SameVisit.union level child.vars).trans (.note _ _)

theorem reclaim_visit (run : Run) : run.toLevel.SameVisit run.reclaim.toLevel := by
  unfold Run.reclaim
  split
  · exact .refl _
  · exact absorb_visit _ _

theorem settle_visit (flow : FlowId) (around : Surroundings) (run : Run) :
    run.toLevel.SameVisit (Subflow.settle flow around run).2.toLevel := by
  rcases settle_run flow around run with h | h
  · rw [h]
    exact .refl _
  · rw [h]
    exact reclaim_visit run

/-- What is left to show of a walk once its first step is known. -/
theorem course_walk_succ {subflows : Subflows} {graph : Graph} {left : Nat}
    {payload : Option Payload} {world world₁ : World} {run stepped : Run}
    {node : Graph.Node} {outcome : Outcome}
    (hnode : graph.find? run.node = some node)
    (hstep : world.act (node.behaviour.step (surroundings bounds subflows node) run payload) =
      ((outcome, stepped), world₁))
    (rule : ∀ {world' run'}, Course bounds (.leave graph left outcome) world₁ stepped world' run' →
      Course bounds (.walk graph (left + 1) payload) world run world' run')
    (hhere : stepped.node = run.node)
    (goesOn : Course bounds (.leave graph left outcome) world₁ stepped
      (world₁.act (goOn bounds subflows graph left stepped.node stepped outcome)).2
      (world₁.act (goOn bounds subflows graph left stepped.node stepped outcome)).1) :
    Course bounds (.walk graph (left + 1) payload) world run
      (world.act (walk bounds subflows graph (left + 1) run payload)).2
      (world.act (walk bounds subflows graph (left + 1) run payload)).1 := by
  rw [walk_succ hnode, World.act_bind, hstep]
  rw [hhere] at goesOn
  exact rule goesOn

/-- A level walks as a course says, if its nested runs begin and resume so. -/
theorem course_walk {subflows : Subflows} {graph : Graph} {depth : Nat}
    (starts : Starts bounds depth subflows) (left : Nat) (payload : Option Payload)
    (world : World) (run : Run) (hdepth : run.depth = depth)
    (resumes : payload.isSome = true → Resumes bounds run.nested subflows) :
    Course bounds (.walk graph left payload) world run
      (world.act (walk bounds subflows graph left run payload)).2
      (world.act (walk bounds subflows graph left run payload)).1 := by
  induction left generalizing payload world run with
  | zero =>
      rw [walk, act_failWith]
      exact .exhausted
  | succ left ih =>
      have goesOn := course_goOn fun world run h => ih none world run h (by simp)
      cases hnode : graph.find? run.node with
      | none =>
          rw [walk]
          simp only [hnode]
          rw [act_failWith]
          exact .missing hnode
      | some node =>
          cases hplain : node.behaviour.isSubflow with
          | false =>
              have hstep : node.behaviour.step (surroundings bounds subflows node) run payload =
                  node.behaviour.step (alone bounds node) run payload :=
                step_alone hplain subflows node run payload
              have hkeeps :=
                Behaviour.step_keepsVisit hplain (alone bounds node) world run payload
              exact course_walk_succ hnode (by rw [hstep]; rfl) (.plain hnode hplain rfl)
                hkeeps.visit.node (goesOn _ (hkeeps.visit.depth.trans hdepth) _)
          | true =>
              obtain ⟨flow, hflow⟩ : ∃ flow, node.behaviour = .subflow flow := by
                cases hb : node.behaviour with
                | subflow flow => exact ⟨flow, rfl⟩
                | _ => simp [Behaviour.isSubflow, hb] at hplain
              cases payload with
              | none =>
                  by_cases hroom : run.depth < bounds.settings.maxDepth
                  · obtain ⟨start, hstart, hspec⟩ := starts.start (hdepth ▸ hroom)
                    obtain ⟨herror, hok⟩ := hspec world flow run hdepth
                    cases hlook : world.flow flow with
                    | error e =>
                        exact course_walk_succ hnode
                          (by rw [hflow]; exact act_subflow_start_error hstart (herror e hlook))
                          (.unloadable hnode hflow hroom hlook) rfl (goesOn world hdepth _)
                    | ok inner =>
                        obtain ⟨world₁, child, hchild, hact⟩ := hok inner hlook
                        have hvisit := settle_visit flow (alone bounds node)
                          (run.givingAway.withChild child)
                        exact course_walk_succ hnode
                          (by rw [hflow]; exact act_subflow_start_ok hstart hact)
                          (.nest hnode hflow hroom hlook hchild) hvisit.node
                          (goesOn world₁ (hvisit.depth.trans hdepth) _)
                  · have hdeep : bounds.settings.maxDepth ≤ run.depth := Nat.le_of_not_lt hroom
                    have hstart := starts.tooDeep (hdepth ▸ hdeep)
                    exact course_walk_succ hnode
                      (by rw [hflow]; exact act_subflow_tooDeep hstart)
                      (.tooDeep hnode hflow hdeep) rfl (goesOn world hdepth _)
              | some payload =>
                  have hresumes := resumes rfl
                  cases hnested : run.nested with
                  | nil =>
                      have hreclaim : run.reclaim = run := by simp [Run.reclaim, hnested]
                      have hact := hresumes.orphan hnested world payload run
                      have hstep : world.act (node.behaviour.step
                          (surroundings bounds subflows node) run (some payload)) =
                            ((.fail (nothingNested run.id).failureKind
                              (nothingNested run.id).message, run), world) := by
                        have h : world.act (Subflow.step flow
                            (surroundings bounds subflows node) run (some payload)) = _ :=
                          act_subflow_resume_error hact
                        rw [hreclaim] at h
                        rw [hflow]
                        exact h
                      exact course_walk_succ hnode hstep (.orphan hnode hflow hnested) rfl
                        (goesOn world hdepth _)
                  | cons child below =>
                      obtain ⟨herror, hok⟩ :=
                        hresumes.resume child below hnested world payload run
                      cases hlook : world.flow child.flow with
                      | error e =>
                          exact course_walk_succ hnode
                            (by rw [hflow]; exact act_subflow_resume_error (herror e hlook))
                            (.lost hnode hflow hnested hlook) (reclaim_visit run).node
                            (goesOn world ((reclaim_visit run).depth.trans hdepth) _)
                      | ok inner =>
                          obtain ⟨world₁, ended, hended, hact⟩ := hok inner hlook
                          have hvisit := settle_visit flow (alone bounds node)
                            (run.withChild ended)
                          have hstep : world.act (Subflow.step flow
                              (surroundings bounds subflows node) run (some payload)) =
                                (Subflow.settle flow (alone bounds node)
                                  (run.withChild ended), world₁) := by
                            have h : world.act (Subflow.step flow
                                (surroundings bounds subflows node) run (some payload)) = _ :=
                              act_subflow_resume_ok hact
                            exact h
                          exact course_walk_succ hnode (by rw [hflow]; exact hstep)
                            (.pass hnode hflow hnested hlook hended) hvisit.node
                            (goesOn world₁ (hvisit.depth.trans hdepth) _)

/-- A level is driven as a course says, if its nested runs begin and resume so. -/
theorem course_level {subflows : Subflows} {graph : Graph} (payload : Option Payload)
    (world : World) (run : Run) (starts : Starts bounds run.depth subflows)
    (resumes : payload.isSome = true → Resumes bounds run.nested subflows) :
    Course bounds (.level graph payload) world run
      (world.act (level bounds subflows graph run payload)).2
      (world.act (level bounds subflows graph run payload)).1 := by
  cases payload with
  | none =>
      change Course bounds _ _ _
        (world.act (run.awake.moveTo bounds run.node >>= fun run =>
          walk bounds subflows graph bounds.settings.maxSteps run none)).2 (world.act _).1
      rw [World.act_bind, act_moveTo]
      exact .enter (course_walk starts _ none _ _ rfl (by simp))
  | some payload =>
      exact .wake (course_walk starts _ (some payload) _ run.awake rfl resumes)

/-- The way in which nested runs are begun, by the number of levels that are
still allowed, is that of a course. -/
theorem starts_fresh (room depth : Nat) (hroom : room = bounds.settings.maxDepth - depth)
    (resume : Payload → Run → Acting (Except FlowError Run)) :
    Starts bounds depth ⟨fresh bounds room, resume⟩ := by
  induction room generalizing depth resume with
  | zero => exact ⟨fun _ => rfl, fun h => absurd h (by omega)⟩
  | succ room ih =>
      refine ⟨fun h => absurd h (by omega), fun hdepth => ⟨_, rfl, ?_⟩⟩
      intro world flow run hrun
      dsimp only
      rw [World.act_bind, World.act_flow]
      have hlook : (world.look flow).1 = world.flow flow := rfl
      constructor
      · intro e he
        rw [World.look_of_error he]
        rfl
      · intro inner hinner
        rw [hlook, hinner]
        dsimp only
        rw [World.act_bind, World.act_newRun, World.act_bind]
        refine ⟨_, _, ?_, rfl⟩
        refine course_level none _ (run.begun bounds _ inner flow) ?_ (by simp)
        apply ih
        change room = bounds.settings.maxDepth - (run.depth + 1)
        omega

/-- The way in which nested levels are resumed is that of a course. -/
theorem resumes_chain (nested : List Level) {subflows : Subflows}
    (hresume : ∀ payload run, subflows.resume payload run = (do
      match ← resumeChain bounds run.id payload nested with
      | .error e => return .error e
      | .ok chain => return .ok { run with nested := chain })) :
    Resumes bounds nested subflows := by
  induction nested generalizing subflows with
  | nil =>
      refine ⟨fun _ world payload run => ?_, fun child below h => by simp at h⟩
      rw [hresume]
      rfl
  | cons child below ih =>
      refine ⟨fun h => by simp at h, fun _ _ h world payload run => ?_⟩
      obtain ⟨rfl, rfl⟩ := List.cons.inj h
      rw [hresume, resumeChain, World.act_bind, World.act_bind, World.act_flow]
      have hlook : (world.look child.flow).1 = world.flow child.flow := rfl
      constructor
      · intro e he
        rw [World.look_of_error he]
        rfl
      · intro inner hinner
        rw [hlook, hinner]
        dsimp only
        rw [World.act_bind]
        refine ⟨_, _, ?_, rfl⟩
        exact course_level (some payload) _ { child with nested := below }
          (starts_fresh _ _ rfl _) fun _ => ih fun _ _ => rfl

/-- Every drive has a course. -/
theorem course_drive (bounds : Bounds) (world : World) (run : Run) (graph : Graph)
    (payload : Option Payload) :
    Course bounds (.level graph payload) world run
      (world.act (run.drive bounds graph payload)).2
      (world.act (run.drive bounds graph payload)).1 :=
  course_level payload world run (starts_fresh _ _ rfl _) fun _ =>
    resumes_chain run.nested fun _ _ => rfl

/-- A relation that every answer to a call keeps holds between the worlds around a drive. -/
theorem Course.keeps {Rel : World → World → Prop} (refl : ∀ world, Rel world world)
    (trans : ∀ {first second third}, Rel first second → Rel second third → Rel first third)
    (reply : ∀ call world, Rel world (World.reply call world).2)
    {phase : Phase} {world world' : World} {run run' : Run}
    (h : Course bounds phase world run world' run') : Rel world world' := by
  have emit (world : World) (event : Event) : Rel world (world.emit event) :=
    reply (.emit event) world
  have look (world : World) (flow : FlowId) : Rel world (world.look flow).2 :=
    reply (.flow flow) world
  induction h with
  | enter rest ih => exact trans (emit _ _) ih
  | wake rest ih => exact ih
  | exhausted => exact emit _ _
  | missing hnode => exact emit _ _
  | @plain _ _ payload world run node _ _ _ _ _ hnode hplain hstep rest ih =>
      have hact : Rel world
          (world.act (node.behaviour.step (alone bounds node) run payload)).2 :=
        Interaction.run_induction refl trans reply _ world
      rw [hstep] at hact
      exact trans hact ih
  | tooDeep hnode hflow hdepth rest ih => exact ih
  | unloadable hnode hflow hdepth hlook rest ih => exact ih
  | nest hnode hflow hdepth hlook drive rest ihDrive ih =>
      exact trans (trans (look _ _) (reply .newRun _)) (trans ihDrive ih)
  | orphan hnode hflow hnested rest ih => exact ih
  | lost hnode hflow hnested hlook rest ih => exact ih
  | pass hnode hflow hnested hlook drive rest ihDrive ih =>
      exact trans (look _ _) (trans ihDrive ih)
  | go hnext rest ih => exact trans (emit _ _) (trans (emit _ _) ih)
  | astray hnext => exact trans (emit _ _) (emit _ _)
  | complete => exact trans (emit _ _) (emit _ _)
  | suspend => exact emit _ _
  | fail => exact emit _ _

/-- A world after a drive is a later one. -/
theorem Course.later {phase : Phase} {world world' : World} {run run' : Run}
    (h : Course bounds phase world run world' run') : world.Later world' :=
  h.keeps World.Later.refl World.Later.trans World.later_reply

/-- A drive takes nothing back that the observers were told. -/
theorem Course.ahead {phase : Phase} {world world' : World} {run run' : Run}
    (h : Course bounds phase world run world' run') : world.Ahead world' :=
  h.keeps World.Ahead.refl World.Ahead.trans World.ahead_reply

/-- No drive leaves its run running. -/
theorem Course.stops (h : Course bounds phase world run world' run') :
    run'.status = .completed ∨ run'.status = .failed ∨ run'.status = .paused := by
  induction h with
  | exhausted => exact .inr (.inl rfl)
  | missing hnode => exact .inr (.inl rfl)
  | astray hnext => exact .inr (.inl rfl)
  | complete => exact .inl rfl
  | suspend => exact .inr (.inr rfl)
  | fail => exact .inr (.inl rfl)
  | nest hnode hflow hdepth hlook drive rest ihDrive ih => exact ih
  | pass hnode hflow hnested hlook drive rest ihDrive ih => exact ih
  | _ => assumption

/-- A drive has one course only. -/
theorem Course.unique {phase : Phase} {world world₁ world₂ : World} {run run₁ run₂ : Run}
    (h₁ : Course bounds phase world run world₁ run₁)
    (h₂ : Course bounds phase world run world₂ run₂) : world₁ = world₂ ∧ run₁ = run₂ := by
  induction h₁ generalizing world₂ run₂ with
  | enter rest ih => cases h₂ with | enter rest' => exact ih rest'
  | wake rest ih => cases h₂ with | wake rest' => exact ih rest'
  | exhausted => cases h₂ with | exhausted => exact ⟨rfl, rfl⟩
  | missing hnode => cases h₂ <;> simp_all
  | plain hnode hplain hstep rest ih =>
      cases h₂ with
      | plain hnode' _ hstep' rest' =>
          obtain rfl := Option.some.inj (hnode.symm.trans hnode')
          simp only [hstep, Prod.mk.injEq] at hstep'
          obtain ⟨⟨rfl, rfl⟩, rfl⟩ := hstep'
          exact ih rest'
      | _ => simp_all [Behaviour.isSubflow]
  | tooDeep hnode hflow hdepth rest ih =>
      cases h₂ with
      | tooDeep hnode' hflow' _ rest' =>
          obtain rfl := Option.some.inj (hnode.symm.trans hnode')
          obtain rfl := Behaviour.subflow.inj (hflow.symm.trans hflow')
          exact ih rest'
      | unloadable _ _ hdepth' => omega
      | nest _ _ hdepth' => omega
      | _ => simp_all [Behaviour.isSubflow]
  | unloadable hnode hflow hdepth hlook rest ih =>
      cases h₂ with
      | unloadable hnode' hflow' _ hlook' rest' =>
          obtain rfl := Option.some.inj (hnode.symm.trans hnode')
          obtain rfl := Behaviour.subflow.inj (hflow.symm.trans hflow')
          obtain rfl := Except.error.inj (hlook.symm.trans hlook')
          exact ih rest'
      | tooDeep _ _ hdepth' => omega
      | _ => simp_all [Behaviour.isSubflow]
  | nest hnode hflow hdepth hlook drive rest ihDrive ih =>
      cases h₂ with
      | nest hnode' hflow' _ hlook' drive' rest' =>
          obtain rfl := Option.some.inj (hnode.symm.trans hnode')
          obtain rfl := Behaviour.subflow.inj (hflow.symm.trans hflow')
          obtain rfl := Except.ok.inj (hlook.symm.trans hlook')
          obtain ⟨rfl, rfl⟩ := ihDrive drive'
          exact ih rest'
      | tooDeep _ _ hdepth' => omega
      | _ => simp_all [Behaviour.isSubflow]
  | orphan hnode hflow hnested rest ih =>
      cases h₂ with
      | orphan _ _ _ rest' => exact ih rest'
      | _ => simp_all [Behaviour.isSubflow]
  | lost hnode hflow hnested hlook rest ih =>
      cases h₂ with
      | lost _ _ hnested' hlook' rest' =>
          obtain ⟨rfl, rfl⟩ := List.cons.inj (hnested.symm.trans hnested')
          obtain rfl := Except.error.inj (hlook.symm.trans hlook')
          exact ih rest'
      | _ => simp_all [Behaviour.isSubflow]
  | pass hnode hflow hnested hlook drive rest ihDrive ih =>
      cases h₂ with
      | pass hnode' hflow' hnested' hlook' drive' rest' =>
          obtain rfl := Option.some.inj (hnode.symm.trans hnode')
          obtain rfl := Behaviour.subflow.inj (hflow.symm.trans hflow')
          obtain ⟨rfl, rfl⟩ := List.cons.inj (hnested.symm.trans hnested')
          obtain rfl := Except.ok.inj (hlook.symm.trans hlook')
          obtain ⟨rfl, rfl⟩ := ihDrive drive'
          exact ih rest'
      | _ => simp_all [Behaviour.isSubflow]
  | go hnext rest ih =>
      cases h₂ with
      | go _ rest' => exact ih rest'
      | astray hnext' => simp_all
  | astray hnext => cases h₂ <;> simp_all
  | complete => cases h₂ with | complete => exact ⟨rfl, rfl⟩
  | suspend => cases h₂ with | suspend => exact ⟨rfl, rfl⟩
  | fail => cases h₂ with | fail => exact ⟨rfl, rfl⟩

end Drive

end Dialogue
