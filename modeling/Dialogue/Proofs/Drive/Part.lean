import Dialogue.Proofs.Drive.Shape

/-!
# Parts of a drive

A drive is made of stretches: the walk of a level, what it does after a step, the
whole drive of a nested run.  `Part` says that one stretch lies within another,
and inside which runs: those that wait for a nested run in which the stretch is.
What holds of every part is shown by one induction, however deeply it is nested.
-/

namespace Dialogue

/-- A level stands at one node only. -/
theorem Level.Stands.unique {flows : Flows} {level : Level} {behaviour behaviour' : Behaviour}
    (h : level.Stands flows behaviour) (h' : level.Stands flows behaviour') :
    behaviour = behaviour' := by
  obtain ⟨graph, node, hgraph, hnode, rfl⟩ := h
  obtain ⟨graph', node', hgraph', hnode', rfl⟩ := h'
  obtain rfl := Except.ok.inj (hgraph.symm.trans hgraph')
  obtain rfl := Option.some.inj (hnode.symm.trans hnode')
  rfl

/-- A level holds a run in the flow that its node runs. -/
theorem Level.Holds.flow {flows : Flows} {maxDepth : Nat} {outer inner : Level} {graph : Graph}
    {node : Graph.Node} {flow : FlowId} (h : outer.Holds flows maxDepth inner)
    (hawake : outer.Awake flows graph) (hnode : graph.find? outer.node = some node)
    (hflow : node.behaviour = .subflow flow) : inner.flow = flow :=
  Behaviour.subflow.inj (h.stands.unique ⟨graph, node, hawake.flow, hnode, hflow⟩)

namespace Drive

/-- A stretch of a drive: a phase, with the world and the run before it and after it. -/
structure Leg where
  phase : Phase
  world : World
  run : Run
  world' : World
  run' : Run

/-- A drive does go so. -/
def Leg.Goes (bounds : Bounds) (leg : Leg) : Prop :=
  Course bounds leg.phase leg.world leg.run leg.world' leg.run'

/-- What a stretch goes on with on the same level, once it has taken a step. -/
inductive Leg.Then (bounds : Bounds) : Leg → Leg → Prop
  | enter {graph world run world' run'} :
      Then bounds ⟨.level graph none, world, run, world', run'⟩
        ⟨.walk graph bounds.settings.maxSteps none, world.told bounds run run.node .nodeEntered,
          run.awake.entering bounds run.node, world', run'⟩
  | wake {graph payload world run world' run'} :
      Then bounds ⟨.level graph (some payload), world, run, world', run'⟩
        ⟨.walk graph bounds.settings.maxSteps (some payload), world, run.awake, world', run'⟩
  | plain {graph left payload world run node outcome stepped world₁ world' run'}
      (hnode : graph.find? run.node = some node)
      (hplain : node.behaviour.isSubflow = false)
      (hstep : world.act (node.behaviour.step (alone bounds node) run payload) =
        ((outcome, stepped), world₁)) :
      Then bounds ⟨.walk graph (left + 1) payload, world, run, world', run'⟩
        ⟨.leave graph left outcome, world₁, stepped, world', run'⟩
  | tooDeep {graph left world run node flow world' run'}
      (hnode : graph.find? run.node = some node)
      (hflow : node.behaviour = .subflow flow)
      (hdepth : bounds.settings.maxDepth ≤ run.depth) :
      Then bounds ⟨.walk graph (left + 1) none, world, run, world', run'⟩
        ⟨.leave graph left (Subflow.tooDeep flow (alone bounds node) run), world, run, world',
          run'⟩
  | unloadable {graph left world run node flow e world' run'}
      (hnode : graph.find? run.node = some node)
      (hflow : node.behaviour = .subflow flow)
      (hdepth : run.depth < bounds.settings.maxDepth)
      (hlook : world.flow flow = .error e) :
      Then bounds ⟨.walk graph (left + 1) none, world, run, world', run'⟩
        ⟨.leave graph left (.fail e.failureKind e.message), world, run, world', run'⟩
  | nest {graph left world run node flow inner world₁ child world' run'}
      (hnode : graph.find? run.node = some node)
      (hflow : node.behaviour = .subflow flow)
      (hdepth : run.depth < bounds.settings.maxDepth)
      (hlook : world.flow flow = .ok inner)
      (drive : Course bounds (.level inner none) (world.look flow).2.newRun.2
        (run.begun bounds (world.look flow).2.newRun.1 inner flow) world₁ child) :
      Then bounds ⟨.walk graph (left + 1) none, world, run, world', run'⟩
        ⟨.leave graph left
            (Subflow.settle flow (alone bounds node) (run.givingAway.withChild child)).1, world₁,
          (Subflow.settle flow (alone bounds node) (run.givingAway.withChild child)).2, world',
          run'⟩
  | orphan {graph left payload world run node flow world' run'}
      (hnode : graph.find? run.node = some node)
      (hflow : node.behaviour = .subflow flow)
      (hnested : run.nested = []) :
      Then bounds ⟨.walk graph (left + 1) (some payload), world, run, world', run'⟩
        ⟨.leave graph left
            (.fail (nothingNested run.id).failureKind (nothingNested run.id).message), world, run,
          world', run'⟩
  | lost {graph left payload world run node flow child below e world' run'}
      (hnode : graph.find? run.node = some node)
      (hflow : node.behaviour = .subflow flow)
      (hnested : run.nested = child :: below)
      (hlook : world.flow child.flow = .error e) :
      Then bounds ⟨.walk graph (left + 1) (some payload), world, run, world', run'⟩
        ⟨.leave graph left (.fail e.failureKind e.message), world, run.reclaim, world', run'⟩
  | pass {graph left payload world run node flow child below inner world₁ ended world' run'}
      (hnode : graph.find? run.node = some node)
      (hflow : node.behaviour = .subflow flow)
      (hnested : run.nested = child :: below)
      (hlook : world.flow child.flow = .ok inner)
      (drive : Course bounds (.level inner (some payload)) (world.look child.flow).2
        { child with nested := below } world₁ ended) :
      Then bounds ⟨.walk graph (left + 1) (some payload), world, run, world', run'⟩
        ⟨.leave graph left (Subflow.settle flow (alone bounds node) (run.withChild ended)).1,
          world₁, (Subflow.settle flow (alone bounds node) (run.withChild ended)).2, world', run'⟩
  | go {graph left next world run world' run'} (hnext : graph.contains next = true) :
      Then bounds ⟨.leave graph left (.go next), world, run, world', run'⟩
        ⟨.walk graph left none,
          (world.told bounds run run.node .nodeCompleted).told bounds run next .nodeEntered,
          run.entering bounds next, world', run'⟩

/-- The whole drive of a nested run, within the step of the run that waits for it. -/
inductive Leg.Hosts (bounds : Bounds) : Leg → Run → Leg → Prop
  /-- The nested run begins. -/
  | nest {graph left world run node flow inner world₁ child world' run'}
      (hnode : graph.find? run.node = some node)
      (hflow : node.behaviour = .subflow flow)
      (hdepth : run.depth < bounds.settings.maxDepth)
      (hlook : world.flow flow = .ok inner)
      (rest : Course bounds
        (.leave graph left
          (Subflow.settle flow (alone bounds node) (run.givingAway.withChild child)).1)
        world₁ (Subflow.settle flow (alone bounds node) (run.givingAway.withChild child)).2
        world' run') :
      Hosts bounds ⟨.walk graph (left + 1) none, world, run, world', run'⟩ run.givingAway
        ⟨.level inner none, (world.look flow).2.newRun.2,
          run.begun bounds (world.look flow).2.newRun.1 inner flow, world₁, child⟩
  /-- The nested run is resumed. -/
  | pass {graph left payload world run node flow child below inner world₁ ended world' run'}
      (hnode : graph.find? run.node = some node)
      (hflow : node.behaviour = .subflow flow)
      (hnested : run.nested = child :: below)
      (hlook : world.flow child.flow = .ok inner)
      (rest : Course bounds
        (.leave graph left (Subflow.settle flow (alone bounds node) (run.withChild ended)).1)
        world₁ (Subflow.settle flow (alone bounds node) (run.withChild ended)).2
        world' run') :
      Hosts bounds ⟨.walk graph (left + 1) (some payload), world, run, world', run'⟩ run
        ⟨.level inner (some payload), (world.look child.flow).2, { child with nested := below },
          world₁, ended⟩

/-- A stretch of a drive within another one, inside the runs that wait for it, outermost first. -/
inductive Part (bounds : Bounds) : Leg → List Run → Leg → Prop
  | whole {leg} (goes : leg.Goes bounds) : Part bounds leg [] leg
  | after {first second outer leg} (next : first.Then bounds second)
      (rest : Part bounds second outer leg) : Part bounds first outer leg
  | within {host waiting inner outer leg} (hosts : host.Hosts bounds waiting inner)
      (rest : Part bounds inner outer leg) : Part bounds host (waiting :: outer) leg

variable {bounds : Bounds} {flows : Flows} {whole part first second host lower : Leg}
  {outer : List Run} {waiting : Run}

/-- A stretch ends as what it goes on with ends. -/
theorem Leg.Then.same (h : first.Then bounds second) :
    second.world' = first.world' ∧ second.run' = first.run' := by
  cases h <;> exact ⟨rfl, rfl⟩

/-- A stretch goes on in a later world. -/
theorem Leg.Then.later (h : first.Then bounds second) : first.world.Later second.world := by
  cases h with
  | enter => exact World.later_emit _ _
  | @plain graph left payload world run node outcome stepped world₁ world' run' hnode hplain
      hstep =>
      have hlater := world.later_act (node.behaviour.step (alone bounds node) run payload)
      rw [hstep] at hlater
      exact hlater
  | nest hnode hflow hdepth hlook drive =>
      exact ((World.later_look _ _).trans (World.later_newRun _)).trans drive.later
  | pass hnode hflow hnested hlook drive => exact (World.later_look _ _).trans drive.later
  | go hnext => exact (World.later_emit _ _).trans (World.later_emit _ _)
  | _ => exact .refl _

/-- A nested run is driven in a later world. -/
theorem Leg.Hosts.later (h : host.Hosts bounds waiting lower) : host.world.Later lower.world := by
  cases h with
  | nest hnode hflow hdepth hlook rest =>
      exact (World.later_look _ _).trans (World.later_newRun _)
  | pass hnode hflow hnested hlook rest => exact World.later_look _ _

theorem Leg.Then.goes (h : first.Then bounds second) (hsecond : second.Goes bounds) :
    first.Goes bounds := by
  cases h with
  | enter => exact .enter hsecond
  | wake => exact .wake hsecond
  | plain hnode hplain hstep => exact .plain hnode hplain hstep hsecond
  | tooDeep hnode hflow hdepth => exact .tooDeep hnode hflow hdepth hsecond
  | unloadable hnode hflow hdepth hlook => exact .unloadable hnode hflow hdepth hlook hsecond
  | nest hnode hflow hdepth hlook drive => exact .nest hnode hflow hdepth hlook drive hsecond
  | orphan hnode hflow hnested => exact .orphan hnode hflow hnested hsecond
  | lost hnode hflow hnested hlook => exact .lost hnode hflow hnested hlook hsecond
  | pass hnode hflow hnested hlook drive => exact .pass hnode hflow hnested hlook drive hsecond
  | go hnext => exact .go hnext hsecond

theorem Leg.Hosts.goes (h : host.Hosts bounds waiting lower) (hlower : lower.Goes bounds) :
    host.Goes bounds := by
  cases h with
  | nest hnode hflow hdepth hlook rest => exact .nest hnode hflow hdepth hlook hlower rest
  | pass hnode hflow hnested hlook rest => exact .pass hnode hflow hnested hlook hlower rest

/-- A stretch within another one is a stretch of a drive. -/
theorem Part.inner (h : Part bounds whole outer part) : part.Goes bounds := by
  induction h with
  | whole goes => exact goes
  | after next rest ih => exact ih
  | within hosts rest ih => exact ih

/-- Whatever lies within it, the whole is a stretch of a drive. -/
theorem Part.goes (h : Part bounds whole outer part) : whole.Goes bounds := by
  induction h with
  | whole goes => exact goes
  | after next rest ih => exact next.goes ih
  | within hosts rest ih => exact hosts.goes ih

/-! ## Parts of a drive that fits -/

/-- A stretch that begins with a run that fits, in a world with the flows that it fits. -/
structure Leg.Fits (bounds : Bounds) (flows : Flows) (leg : Leg) : Prop where
  flow : leg.world.flow = flows
  fit : Fit flows bounds.settings leg.phase leg.run

/-- The drive of a run that is nested in another one, which waits for it at a node that runs its
flow: the nested run settles, and the waiting one goes on with a run that fits. -/
structure Leg.Beneath (bounds : Bounds) (flows : Flows) (graph : Graph) (left : Nat)
    (node : Graph.Node) (flow : FlowId) (waiting : Run) (lower : Leg) : Prop where
  fits : lower.Fits bounds flows
  awake : waiting.Awake flows graph
  steps : left < bounds.settings.maxSteps
  holds : waiting.Holds flows bounds.settings.maxDepth lower.run'.toLevel
  settled : lower.run'.Settled flows bounds.settings
  subflow : lower.run'.flow = flow
  after : lower.world'.flow = flows
  leave : Fit flows bounds.settings
    (.leave graph left (Subflow.settle flow (alone bounds node) (waiting.withChild lower.run')).1)
    (Subflow.settle flow (alone bounds node) (waiting.withChild lower.run')).2

section

variable {graph inner : Graph} {left : Nat} {payload : Payload} {run child ended : Run}
  {level : Level} {below : List Level} {node : Graph.Node} {flow : FlowId}
  {world world₁ : World}

/-- A nested run that fits goes its course beneath the run that holds it. -/
theorem Leg.Goes.beneath (hgoes : lower.Goes bounds) (hfits : lower.Fits bounds flows)
    (hawake : waiting.Awake flows graph) (hleft : left < bounds.settings.maxSteps)
    (hholds : waiting.Holds flows bounds.settings.maxDepth lower.run.toLevel)
    (hnode : graph.find? waiting.node = some node) (hflow : node.behaviour = .subflow flow) :
    lower.Beneath bounds flows graph left node flow waiting := by
  obtain ⟨hflows, hfit⟩ := hfits
  have hcourse : Course bounds lower.phase lower.world lower.run lower.world' lower.run' := hgoes
  have hsettled := hcourse.settles hflows hfit
  have hholds' := hholds.inner hcourse.sameRun
  exact ⟨⟨hflows, hfit⟩, hawake, hleft, hholds', hsettled, hholds'.flow hawake hnode hflow,
    hcourse.later.flow.trans hflows, fit_settle hawake hleft hholds' hsettled⟩

/-- The drive of a nested run that begins. -/
theorem Course.nested_beneath (hflows : world.flow = flows)
    (hfit : Fit flows bounds.settings (.walk graph (left + 1) none) run)
    (hnode : graph.find? run.node = some node) (hflow : node.behaviour = .subflow flow)
    (hdepth : run.depth < bounds.settings.maxDepth) (hlook : world.flow flow = .ok inner)
    (drive : Course bounds (.level inner none) (world.look flow).2.newRun.2
      (run.begun bounds (world.look flow).2.newRun.1 inner flow) world₁ child) :
    Leg.Beneath bounds flows graph left node flow run.givingAway
      ⟨.level inner none, (world.look flow).2.newRun.2,
        run.begun bounds (world.look flow).2.newRun.1 inner flow, world₁, child⟩ := by
  obtain ⟨hawake, hleft, hholds, hfit'⟩ :=
    fit_begun hfit hnode hflow hdepth (hflows ▸ hlook) (world.look flow).2.newRun.1
  have hlater := (world.later_look flow).trans (World.later_newRun _)
  exact Leg.Goes.beneath drive ⟨hlater.flow.trans hflows, hfit'⟩ hawake hleft hholds hnode hflow

/-- The drive of a nested run that is resumed. -/
theorem Course.passed_beneath (hflows : world.flow = flows)
    (hfit : Fit flows bounds.settings (.walk graph (left + 1) (some payload)) run)
    (hnode : graph.find? run.node = some node) (hflow : node.behaviour = .subflow flow)
    (hnested : run.nested = level :: below) (hlook : world.flow level.flow = .ok inner)
    (drive : Course bounds (.level inner (some payload)) (world.look level.flow).2
      { level with nested := below } world₁ ended) :
    Leg.Beneath bounds flows graph left node flow run
      ⟨.level inner (some payload), (world.look level.flow).2, { level with nested := below },
        world₁, ended⟩ := by
  obtain ⟨hawake, hleft, level', below', inner', hchild, hinner, hholds, hfit'⟩ :=
    fit_held hfit hnode hflow
  obtain ⟨rfl, rfl⟩ := List.cons.inj (hnested.symm.trans hchild)
  rw [← hflows, hlook] at hinner
  obtain rfl := Except.ok.inj hinner
  have hlater := world.later_look level.flow
  exact Leg.Goes.beneath drive ⟨hlater.flow.trans hflows, hfit'⟩ hawake hleft hholds hnode hflow

/-- Where a run fits there is a nested run to resume, and its flow loads. -/
theorem not_orphan (hfit : Fit flows bounds.settings (.walk graph (left + 1) (some payload)) run)
    (hnode : graph.find? run.node = some node) (hflow : node.behaviour = .subflow flow) :
    run.nested ≠ [] := by
  obtain ⟨-, -, child, below, inner, hchild, -⟩ := fit_held hfit hnode hflow
  simp [hchild]

theorem not_lost {e : FlowError} (hflows : world.flow = flows)
    (hfit : Fit flows bounds.settings (.walk graph (left + 1) (some payload)) run)
    (hnode : graph.find? run.node = some node) (hflow : node.behaviour = .subflow flow)
    (hnested : run.nested = level :: below) : world.flow level.flow ≠ .error e := by
  obtain ⟨-, -, level', below', inner, hchild, hinner, -⟩ := fit_held hfit hnode hflow
  obtain ⟨rfl, rfl⟩ := List.cons.inj (hnested.symm.trans hchild)
  rw [hflows, hinner]
  simp

end

theorem Leg.Then.fits (h : first.Then bounds second) (hfits : first.Fits bounds flows) :
    second.Fits bounds flows := by
  obtain ⟨hflows, hfit⟩ := hfits
  cases h with
  | enter => exact ⟨hflows, fit_enter hfit⟩
  | wake => exact ⟨hflows, fit_wake hfit⟩
  | @plain graph left payload world run node outcome stepped world₁ world' run' hnode hplain
      hstep =>
      have hlater := world.later_act (node.behaviour.step (alone bounds node) run payload)
      rw [hstep] at hlater
      exact ⟨hlater.flow.trans hflows, fit_plain hfit hnode hplain hstep⟩
  | tooDeep hnode hflow hdepth => exact ⟨hflows, hfit⟩
  | unloadable hnode hflow hdepth hlook => exact ⟨hflows, hfit⟩
  | nest hnode hflow hdepth hlook drive =>
      have hbeneath := drive.nested_beneath hflows hfit hnode hflow hdepth hlook
      exact ⟨hbeneath.after, hbeneath.leave⟩
  | orphan hnode hflow hnested => exact absurd hnested (not_orphan hfit hnode hflow)
  | lost hnode hflow hnested hlook =>
      exact absurd hlook (not_lost hflows hfit hnode hflow hnested)
  | pass hnode hflow hnested hlook drive =>
      have hbeneath := drive.passed_beneath hflows hfit hnode hflow hnested hlook
      exact ⟨hbeneath.after, hbeneath.leave⟩
  | go hnext => exact ⟨hflows, fit_go hfit⟩

/-- A nested run is driven beneath the run that waits for it, which then goes on. -/
theorem Leg.Hosts.beneath (h : host.Hosts bounds waiting lower) (hlower : lower.Goes bounds)
    (hfits : host.Fits bounds flows) :
    ∃ graph left node flow, lower.Beneath bounds flows graph left node flow waiting ∧
      Course bounds
        (.leave graph left
          (Subflow.settle flow (alone bounds node) (waiting.withChild lower.run')).1)
        lower.world' (Subflow.settle flow (alone bounds node) (waiting.withChild lower.run')).2
        host.world' host.run' := by
  obtain ⟨hflows, hfit⟩ := hfits
  cases h with
  | nest hnode hflow hdepth hlook rest =>
      have hbeneath := Course.nested_beneath hflows hfit hnode hflow hdepth hlook hlower
      exact ⟨_, _, _, _, hbeneath, rest⟩
  | pass hnode hflow hnested hlook rest =>
      have hbeneath := Course.passed_beneath hflows hfit hnode hflow hnested hlook hlower
      exact ⟨_, _, _, _, hbeneath, rest⟩

theorem Leg.Hosts.fits (h : host.Hosts bounds waiting lower) (hlower : lower.Goes bounds)
    (hfits : host.Fits bounds flows) : lower.Fits bounds flows := by
  obtain ⟨graph, left, node, flow, hbeneath, -⟩ := h.beneath hlower hfits
  exact hbeneath.fits

/-- What holds of a drive of a run that fits, and is handed on by every step and to every nested
run, holds of all parts of the drive. -/
theorem Part.keeps {P : Leg → Prop} (h : Part bounds whole outer part)
    (after : ∀ {first second : Leg}, first.Then bounds second → first.Fits bounds flows →
      P first → P second)
    (within : ∀ {host lower : Leg} {waiting : Run}, host.Hosts bounds waiting lower →
      lower.Goes bounds → host.Fits bounds flows → P host → P lower)
    (hfits : whole.Fits bounds flows) (hwhole : P whole) : P part := by
  induction h with
  | whole goes => exact hwhole
  | after next rest ih => exact ih (next.fits hfits) (after next hfits hwhole)
  | within hosts rest ih =>
      exact ih (hosts.fits rest.goes hfits) (within hosts rest.goes hfits hwhole)

/-- Every part of a drive of a run that fits begins with a run that fits. -/
theorem Part.fits (h : Part bounds whole outer part) (hfits : whole.Fits bounds flows) :
    part.Fits bounds flows :=
  h.keeps (fun next hfits _ => next.fits hfits)
    (fun hosts hlower hfits _ => hosts.fits hlower hfits) hfits hfits

end Drive

end Dialogue
