import Dialogue.Proofs.Drive.Course
import Dialogue.Proofs.Engine.Order

/-!
# How many steps a drive takes

Every level of a run counts its own steps, and each of them may run a whole
nested drive.  `Handles` is the course of a drive together with the steps that
nodes take on it, over all levels; it forgets them to a `Course`, and every
course has them.  What a drive costs is then bounded by recursion on the levels
that may still be nested: a payload only goes down the chain that is there, and
a run that begins is one level deeper than the run that began it.
-/

namespace Dialogue

/-- The levels of a run are numbered from the outermost one, and none is too deep. -/
def Run.Stacked (maxDepth : Nat) (run : Run) : Prop :=
  ∀ i level, run.levels[i]? = some level → level.depth = run.depth + i ∧ level.depth ≤ maxDepth

/-- What is nested in stacked levels is stacked one level deeper. -/
theorem Run.Stacked.child {maxDepth : Nat} {run : Run} {child : Level} {below : List Level}
    (h : run.Stacked maxDepth) (hnested : run.nested = child :: below) :
    child.depth = run.depth + 1 ∧ child.depth ≤ maxDepth ∧
      ({ child with nested := below } : Run).Stacked maxDepth := by
  have hlevels : run.levels = run.toLevel :: child :: below := by
    rw [Run.levels, hnested]
  obtain ⟨hchild, hwithin⟩ := h 1 child (by rw [hlevels]; rfl)
  refine ⟨hchild, hwithin, ?_⟩
  intro i level hlevel
  obtain ⟨hdepth, hlimit⟩ := h (i + 1) level (by rw [hlevels]; exact hlevel)
  refine ⟨?_, hlimit⟩
  change level.depth = child.depth + i
  omega

namespace Drive

/-! ## The steps of a drive -/

/-- One step of a node: the run that was stepped, where, with what and to what outcome. -/
structure Handled where
  run : Identifier
  node : NodeId
  payload : Option Payload
  outcome : Outcome

/-- No node is stepped any more in a phase. -/
def Phase.IsOver : Phase → Run → Prop
  | .level .., _ => False
  | .walk graph left _, run => left = 0 ∨ graph.find? run.node = none
  | .leave graph _ (.go next), _ => graph.contains next = false
  | .leave .., _ => True

/-- The course of a drive with the steps of nodes on it.  A step that runs another flow comes
before the steps of that flow. -/
inductive Handles (bounds : Bounds) :
    Phase → World → Run → List Handled → World → Run → Prop
  | halt {phase world run world' run'} (isOver : phase.IsOver run)
      (course : Course bounds phase world run world' run') :
      Handles bounds phase world run [] world' run'
  | enter {graph world run steps world' run'}
      (rest : Handles bounds (.walk graph bounds.settings.maxSteps none)
        (world.told bounds run run.node .nodeEntered)
        (run.awake.entering bounds run.node) steps world' run') :
      Handles bounds (.level graph none) world run steps world' run'
  | wake {graph payload world run steps world' run'}
      (rest : Handles bounds (.walk graph bounds.settings.maxSteps (some payload))
        world run.awake steps world' run') :
      Handles bounds (.level graph (some payload)) world run steps world' run'
  | plain {graph left payload world run node outcome stepped world₁ steps world' run'}
      (hnode : graph.find? run.node = some node)
      (hplain : node.behaviour.isSubflow = false)
      (hstep : world.act (node.behaviour.step (alone bounds node) run payload) =
        ((outcome, stepped), world₁))
      (rest : Handles bounds (.leave graph left outcome) world₁ stepped steps world' run') :
      Handles bounds (.walk graph (left + 1) payload) world run
        (⟨run.id, run.node, payload, outcome⟩ :: steps) world' run'
  | tooDeep {graph left world run node flow steps world' run'}
      (hnode : graph.find? run.node = some node)
      (hflow : node.behaviour = .subflow flow)
      (hdepth : bounds.settings.maxDepth ≤ run.depth)
      (rest : Handles bounds
        (.leave graph left (Subflow.tooDeep flow (alone bounds node) run))
        world run steps world' run') :
      Handles bounds (.walk graph (left + 1) none) world run
        (⟨run.id, run.node, none, Subflow.tooDeep flow (alone bounds node) run⟩ :: steps)
        world' run'
  | unloadable {graph left world run node flow e steps world' run'}
      (hnode : graph.find? run.node = some node)
      (hflow : node.behaviour = .subflow flow)
      (hdepth : run.depth < bounds.settings.maxDepth)
      (hlook : world.flow flow = .error e)
      (rest : Handles bounds (.leave graph left (.fail e.failureKind e.message))
        world run steps world' run') :
      Handles bounds (.walk graph (left + 1) none) world run
        (⟨run.id, run.node, none, .fail e.failureKind e.message⟩ :: steps) world' run'
  | nest {graph left world run node flow inner world₁ child within steps world' run'}
      (hnode : graph.find? run.node = some node)
      (hflow : node.behaviour = .subflow flow)
      (hdepth : run.depth < bounds.settings.maxDepth)
      (hlook : world.flow flow = .ok inner)
      (drive : Handles bounds (.level inner none) (world.look flow).2.newRun.2
        (run.begun bounds (world.look flow).2.newRun.1 inner flow) within world₁ child)
      (rest : Handles bounds
        (.leave graph left
          (Subflow.settle flow (alone bounds node) (run.givingAway.withChild child)).1)
        world₁ (Subflow.settle flow (alone bounds node) (run.givingAway.withChild child)).2
        steps world' run') :
      Handles bounds (.walk graph (left + 1) none) world run
        (⟨run.id, run.node, none,
          (Subflow.settle flow (alone bounds node) (run.givingAway.withChild child)).1⟩ ::
            (within ++ steps)) world' run'
  | orphan {graph left payload world run node flow steps world' run'}
      (hnode : graph.find? run.node = some node)
      (hflow : node.behaviour = .subflow flow)
      (hnested : run.nested = [])
      (rest : Handles bounds
        (.leave graph left
          (.fail (nothingNested run.id).failureKind (nothingNested run.id).message))
        world run steps world' run') :
      Handles bounds (.walk graph (left + 1) (some payload)) world run
        (⟨run.id, run.node, some payload,
          .fail (nothingNested run.id).failureKind (nothingNested run.id).message⟩ :: steps)
        world' run'
  | lost {graph left payload world run node flow child below e steps world' run'}
      (hnode : graph.find? run.node = some node)
      (hflow : node.behaviour = .subflow flow)
      (hnested : run.nested = child :: below)
      (hlook : world.flow child.flow = .error e)
      (rest : Handles bounds (.leave graph left (.fail e.failureKind e.message))
        world run.reclaim steps world' run') :
      Handles bounds (.walk graph (left + 1) (some payload)) world run
        (⟨run.id, run.node, some payload, .fail e.failureKind e.message⟩ :: steps) world' run'
  | pass {graph left payload world run node flow child below inner world₁ ended within steps
      world' run'}
      (hnode : graph.find? run.node = some node)
      (hflow : node.behaviour = .subflow flow)
      (hnested : run.nested = child :: below)
      (hlook : world.flow child.flow = .ok inner)
      (drive : Handles bounds (.level inner (some payload)) (world.look child.flow).2
        { child with nested := below } within world₁ ended)
      (rest : Handles bounds
        (.leave graph left
          (Subflow.settle flow (alone bounds node) (run.withChild ended)).1)
        world₁ (Subflow.settle flow (alone bounds node) (run.withChild ended)).2
        steps world' run') :
      Handles bounds (.walk graph (left + 1) (some payload)) world run
        (⟨run.id, run.node, some payload,
          (Subflow.settle flow (alone bounds node) (run.withChild ended)).1⟩ ::
            (within ++ steps)) world' run'
  | go {graph left next world run steps world' run'} (hnext : graph.contains next = true)
      (rest : Handles bounds (.walk graph left none)
        ((world.told bounds run run.node .nodeCompleted).told bounds run next .nodeEntered)
        (run.entering bounds next) steps world' run') :
      Handles bounds (.leave graph left (.go next)) world run steps world' run'

variable {bounds : Bounds} {phase : Phase} {world world' : World} {run run' : Run}
  {steps : List Handled}

/-- Without its steps, this is the course of the drive. -/
theorem Handles.course (h : Handles bounds phase world run steps world' run') :
    Course bounds phase world run world' run' := by
  induction h with
  | halt isOver course => exact course
  | enter rest ih => exact .enter ih
  | wake rest ih => exact .wake ih
  | plain hnode hplain hstep rest ih => exact .plain hnode hplain hstep ih
  | tooDeep hnode hflow hdepth rest ih => exact .tooDeep hnode hflow hdepth ih
  | unloadable hnode hflow hdepth hlook rest ih =>
      exact .unloadable hnode hflow hdepth hlook ih
  | nest hnode hflow hdepth hlook drive rest ihDrive ih =>
      exact .nest hnode hflow hdepth hlook ihDrive ih
  | orphan hnode hflow hnested rest ih => exact .orphan hnode hflow hnested ih
  | lost hnode hflow hnested hlook rest ih => exact .lost hnode hflow hnested hlook ih
  | pass hnode hflow hnested hlook drive rest ihDrive ih =>
      exact .pass hnode hflow hnested hlook ihDrive ih
  | go hnext rest ih => exact .go hnext ih

/-- Every course has its steps. -/
theorem Course.handles (h : Course bounds phase world run world' run') :
    ∃ steps, Handles bounds phase world run steps world' run' := by
  induction h with
  | enter rest ih =>
      obtain ⟨steps, hrest⟩ := ih
      exact ⟨steps, .enter hrest⟩
  | wake rest ih =>
      obtain ⟨steps, hrest⟩ := ih
      exact ⟨steps, .wake hrest⟩
  | exhausted => exact ⟨[], .halt (.inl rfl) .exhausted⟩
  | missing hnode => exact ⟨[], .halt (.inr hnode) (.missing hnode)⟩
  | plain hnode hplain hstep rest ih =>
      obtain ⟨steps, hrest⟩ := ih
      exact ⟨_, .plain hnode hplain hstep hrest⟩
  | tooDeep hnode hflow hdepth rest ih =>
      obtain ⟨steps, hrest⟩ := ih
      exact ⟨_, .tooDeep hnode hflow hdepth hrest⟩
  | unloadable hnode hflow hdepth hlook rest ih =>
      obtain ⟨steps, hrest⟩ := ih
      exact ⟨_, .unloadable hnode hflow hdepth hlook hrest⟩
  | nest hnode hflow hdepth hlook drive rest ihDrive ih =>
      obtain ⟨within, hdrive⟩ := ihDrive
      obtain ⟨steps, hrest⟩ := ih
      exact ⟨_, .nest hnode hflow hdepth hlook hdrive hrest⟩
  | orphan hnode hflow hnested rest ih =>
      obtain ⟨steps, hrest⟩ := ih
      exact ⟨_, .orphan hnode hflow hnested hrest⟩
  | lost hnode hflow hnested hlook rest ih =>
      obtain ⟨steps, hrest⟩ := ih
      exact ⟨_, .lost hnode hflow hnested hlook hrest⟩
  | pass hnode hflow hnested hlook drive rest ihDrive ih =>
      obtain ⟨within, hdrive⟩ := ihDrive
      obtain ⟨steps, hrest⟩ := ih
      exact ⟨_, .pass hnode hflow hnested hlook hdrive hrest⟩
  | go hnext rest ih =>
      obtain ⟨steps, hrest⟩ := ih
      exact ⟨steps, .go hnext hrest⟩
  | astray hnext => exact ⟨[], .halt hnext (.astray hnext)⟩
  | complete => exact ⟨[], .halt trivial .complete⟩
  | suspend => exact ⟨[], .halt trivial .suspend⟩
  | fail => exact ⟨[], .halt trivial .fail⟩

/-! ## Their number -/

/-- The steps of a level that may take so many of its own, with room for so many levels below. -/
def mostSteps (perLevel : Nat) : Nat → Nat
  | 0 => perLevel
  | room + 1 => perLevel * (1 + mostSteps perLevel room)

/-- The steps that one step of such a level comes to, with those of the flow that it runs. -/
def stepsAtOnce (perLevel : Nat) : Nat → Nat
  | 0 => 1
  | room + 1 => 1 + mostSteps perLevel room

theorem mostSteps_eq (perLevel room : Nat) :
    mostSteps perLevel room = perLevel * stepsAtOnce perLevel room := by
  cases room with
  | zero => exact (Nat.mul_one perLevel).symm
  | succ room => rfl

theorem stepsAtOnce_pos (perLevel room : Nat) : 1 ≤ stepsAtOnce perLevel room := by
  cases room with
  | zero => exact Nat.le_refl 1
  | succ room => exact Nat.le_add_right 1 _

/-- The steps that are left in a phase with room for so many levels below. -/
def Phase.mostSteps (perLevel room : Nat) : Phase → Nat
  | .level .. => Drive.mostSteps perLevel room
  | .walk _ left _ | .leave _ left _ => left * stepsAtOnce perLevel room

/-- A phase with a payload goes down a chain of levels, which has to be stacked. -/
def Phase.Stacked (maxDepth : Nat) (run : Run) : Phase → Prop
  | .level _ (some _) | .walk _ _ (some _) => run.Stacked maxDepth
  | .level _ none | .walk _ _ none | .leave .. => True

/-- One step more, where it runs no other flow. -/
theorem length_step {perLevel room left : Nat} {step : Handled}
    (h : steps.length ≤ left * stepsAtOnce perLevel room) :
    (step :: steps).length ≤ (left + 1) * stepsAtOnce perLevel room := by
  have hone := stepsAtOnce_pos perLevel room
  rw [List.length_cons, Nat.succ_mul]
  omega

/-- One step more, which runs another flow one level deeper. -/
theorem length_nested {perLevel maxDepth depth inner left : Nat} {step : Handled}
    {within : List Handled} (hinner : inner = depth + 1) (hdepth : inner ≤ maxDepth)
    (hwithin : within.length ≤ mostSteps perLevel (maxDepth - inner))
    (h : steps.length ≤ left * stepsAtOnce perLevel (maxDepth - depth)) :
    (step :: (within ++ steps)).length ≤ (left + 1) * stepsAtOnce perLevel (maxDepth - depth) := by
  have hroom : maxDepth - depth = (maxDepth - inner) + 1 := by omega
  have honce : stepsAtOnce perLevel (maxDepth - depth) =
      1 + mostSteps perLevel (maxDepth - inner) := by
    rw [hroom]
    rfl
  rw [List.length_cons, List.length_append, Nat.succ_mul]
  omega

/-- A drive takes no more steps than its phase leaves. -/
theorem Handles.length_le (h : Handles bounds phase world run steps world' run')
    (hstacked : phase.Stacked bounds.settings.maxDepth run) :
    steps.length ≤ phase.mostSteps bounds.settings.maxSteps
      (bounds.settings.maxDepth - run.depth) := by
  induction h with
  | halt isOver course => exact Nat.zero_le _
  | enter rest ih =>
      change _ ≤ mostSteps _ _
      rw [mostSteps_eq]
      exact ih trivial
  | @wake graph payload world run steps world' run' rest ih =>
      change _ ≤ mostSteps _ _
      rw [mostSteps_eq]
      refine ih fun i level hlevel => ?_
      cases i with
      | zero =>
          obtain rfl := Option.some.inj hlevel
          exact hstacked 0 run.toLevel rfl
      | succ i => exact hstacked (i + 1) level hlevel
  | @plain graph left payload world run node outcome stepped world₁ steps world' run' hnode hplain
      hstep rest ih =>
      have hkeeps := Behaviour.step_keepsVisit hplain (alone bounds node) world run payload
      rw [hstep] at hkeeps
      have hdepth : stepped.depth = run.depth := hkeeps.visit.depth
      rw [hdepth] at ih
      exact length_step (ih trivial)
  | tooDeep hnode hflow hdepth rest ih => exact length_step (ih trivial)
  | unloadable hnode hflow hdepth hlook rest ih => exact length_step (ih trivial)
  | @nest graph left world run node flow inner world₁ child within steps world' run' hnode hflow
      hdepth hlook drive rest ihDrive ih =>
      have hsame : (Subflow.settle flow (alone bounds node)
          (run.givingAway.withChild child)).2.depth = run.depth := (settle_visit _ _ _).depth
      rw [hsame] at ih
      exact length_nested rfl hdepth (ihDrive trivial) (ih trivial)
  | orphan hnode hflow hnested rest ih => exact length_step (ih trivial)
  | @lost graph left payload world run node flow child below e steps world' run' hnode hflow
      hnested hlook rest ih =>
      rw [(reclaim_visit run).depth] at ih
      exact length_step (ih trivial)
  | @pass graph left payload world run node flow child below inner world₁ ended within steps
      world' run' hnode hflow hnested hlook drive rest ihDrive ih =>
      obtain ⟨hchild, hwithin, hbelow⟩ := Run.Stacked.child hstacked hnested
      have hsame : (Subflow.settle flow (alone bounds node) (run.withChild ended)).2.depth =
          run.depth := (settle_visit _ _ _).depth
      rw [hsame] at ih
      exact length_nested hchild hwithin (ihDrive hbelow) (ih trivial)
  | go hnext rest ih => exact ih trivial

end Drive

end Dialogue
