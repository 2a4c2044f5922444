import Dialogue.Proofs.Drive.Course

/-!
# The shape of driven runs

A drive ends with a run that has ended and has nothing nested in it, or with a
chain of levels that all wait for one suspension.  In such a chain every level
but the innermost stands at the node that runs the flow of the next one, which
holds its variables.  `Course.settles` shows this by one induction over the
course of a drive; `Fit` says what a run has to be like before each phase.
-/

namespace Dialogue

/-- What every flow is for the runs of a world. -/
abbrev Flows := FlowId → Except FlowError Graph

namespace Level

/-- What no drive changes of a level. -/
structure SameRun (before after : Level) : Prop where
  id : after.id = before.id
  flow : after.flow = before.flow
  contactId : after.contactId = before.contactId
  parent : after.parent = before.parent
  contact : after.contact = before.contact
  depth : after.depth = before.depth

namespace SameRun

theorem refl (level : Level) : level.SameRun level := ⟨rfl, rfl, rfl, rfl, rfl, rfl⟩

theorem key {before after : Level} (h : before.SameRun after) : after.key = before.key := by
  rw [Level.key, Level.key, h.flow, h.contactId]

theorem trans {first second third : Level}
    (h : first.SameRun second) (h' : second.SameRun third) : first.SameRun third where
  id := h'.id.trans h.id
  flow := h'.flow.trans h.flow
  contactId := h'.contactId.trans h.contactId
  parent := h'.parent.trans h.parent
  contact := h'.contact.trans h.contact
  depth := h'.depth.trans h.depth

end SameRun

theorem SameVisit.sameRun {before after : Level} (h : before.SameVisit after) :
    before.SameRun after :=
  ⟨h.id, h.flow, h.contactId, h.parent, h.contact, h.depth⟩

/-- A level stands at a node with a behaviour, in its flow as it is loaded. -/
def Stands (flows : Flows) (level : Level) (behaviour : Behaviour) : Prop :=
  ∃ graph node, flows level.flow = .ok graph ∧ graph.find? level.node = some node ∧
    node.behaviour = behaviour

/-- A level waits for the end of a suspension at the node it entered last. -/
structure Waits (suspension : Suspension) (level : Level) : Prop where
  paused : level.status = .paused
  pending : level.suspension = some suspension
  unfailed : level.failure = none
  entered : level.history.nodes.getLast? = some level.node

/-- An outer level has begun an inner one and given its variables to it. -/
structure Holds (flows : Flows) (maxDepth : Nat) (outer inner : Level) : Prop where
  stands : outer.Stands flows (.subflow inner.flow)
  vars : outer.vars = []
  parent : inner.parent = some outer.id
  contactId : inner.contactId = outer.contactId
  contact : inner.contact = outer.contact
  depth : inner.depth = outer.depth + 1
  within : inner.depth ≤ maxDepth

theorem Holds.inner {flows : Flows} {maxDepth : Nat} {outer before after : Level}
    (h : outer.Holds flows maxDepth before) (hsame : before.SameRun after) :
    outer.Holds flows maxDepth after where
  stands := hsame.flow ▸ h.stands
  vars := h.vars
  parent := hsame.parent.trans h.parent
  contactId := hsame.contactId.trans h.contactId
  contact := hsame.contact.trans h.contact
  depth := hsame.depth.trans h.depth
  within := hsame.depth ▸ h.within

/-- What is nested in a level while all of it waits for one suspension. -/
inductive Hangs (flows : Flows) (maxDepth : Nat) (suspension : Suspension) :
    Level → List Level → Prop
  /-- The innermost level stands at a node that pauses so. -/
  | stop {level behaviour} (stands : level.Stands flows behaviour)
      (pauses : behaviour.Pauses level.node suspension) :
      Hangs flows maxDepth suspension level []
  /-- Any other level holds the next one. -/
  | link {outer inner below} (holds : outer.Holds flows maxDepth inner)
      (waits : inner.Waits suspension) (rest : Hangs flows maxDepth suspension inner below) :
      Hangs flows maxDepth suspension outer (inner :: below)

/-- Whatever hangs, the flow of the level is loaded and has its node. -/
theorem Hangs.stands {flows : Flows} {maxDepth : Nat} {suspension : Suspension} {level : Level}
    {below : List Level} (h : level.Hangs flows maxDepth suspension below) :
    ∃ behaviour, level.Stands flows behaviour := by
  cases h with
  | stop stands pauses => exact ⟨_, stands⟩
  | link holds waits rest => exact ⟨_, holds.stands⟩

/-- Pausing, waking and keeping time make no difference to what hangs on a level. -/
theorem Hangs.outer {flows : Flows} {maxDepth : Nat} {suspension : Suspension}
    {before after : Level} {below : List Level}
    (h : before.Hangs flows maxDepth suspension below) (hsame : before.SameRun after)
    (hnode : after.node = before.node) (hvars : after.vars = before.vars) :
    after.Hangs flows maxDepth suspension below := by
  have hstands {behaviour : Behaviour} (h : before.Stands flows behaviour) :
      after.Stands flows behaviour := by
    unfold Stands at h ⊢
    rw [hsame.flow, hnode]
    exact h
  cases h with
  | stop stands pauses =>
      refine .stop (hstands stands) ?_
      rw [hnode]
      exact pauses
  | link holds waits rest =>
      refine .link ?_ waits rest
      exact
        { stands := hstands holds.stands
          vars := hvars.trans holds.vars
          parent := holds.parent.trans (congrArg some hsame.id.symm)
          contactId := holds.contactId.trans hsame.contactId.symm
          contact := holds.contact.trans hsame.contact.symm
          depth := by rw [holds.depth, hsame.depth]
          within := holds.within }

/-- A level in the middle of a drive. -/
structure Awake (flows : Flows) (graph : Graph) (level : Level) : Prop where
  flow : flows level.flow = .ok graph
  running : level.status = .running
  pending : level.suspension = none
  unfailed : level.failure = none
  entered : level.history.nodes.getLast? = some level.node

theorem Awake.visit {flows : Flows} {graph : Graph} {before after : Level}
    (h : before.Awake flows graph) (hvisit : before.SameVisit after) :
    after.Awake flows graph where
  flow := hvisit.flow ▸ h.flow
  running := hvisit.status.trans h.running
  pending := hvisit.suspension.trans h.pending
  unfailed := hvisit.failure.trans h.unfailed
  entered := by
    rw [hvisit.nodes, hvisit.node]
    exact h.entered

end Level

namespace Run

/-- A run as a drive leaves it. -/
inductive Settled (flows : Flows) (settings : Settings) (run : Run) : Prop
  | waiting {suspension} (steps : 0 < settings.maxSteps) (waits : run.Waits suspension)
      (hangs : run.Hangs flows settings.maxDepth suspension run.nested)
  | completed (status : run.status = .completed) (pending : run.suspension = none)
      (unfailed : run.failure = none) (nested : run.nested = [])
  | failed {failure} (status : run.status = .failed) (pending : run.suspension = none)
      (failed : run.failure = some failure) (nested : run.nested = [])

end Run

namespace Drive

variable {bounds : Bounds} {flows : Flows}

/-! ## What no drive changes -/

/-- A drive works on one run in one flow. -/
theorem Course.sameRun {phase : Phase} {world world' : World} {run run' : Run}
    (h : Course bounds phase world run world' run') : run.toLevel.SameRun run'.toLevel := by
  -- Entering a node, waking and giving variables away leave a level the same.
  have same {first second third : Level} (h : second.SameRun third)
      (hid : first.id = second.id) (hflow : first.flow = second.flow)
      (hcontactId : first.contactId = second.contactId) (hparent : first.parent = second.parent)
      (hcontact : first.contact = second.contact) (hdepth : first.depth = second.depth) :
      first.SameRun third :=
    .trans ⟨hid.symm, hflow.symm, hcontactId.symm, hparent.symm, hcontact.symm, hdepth.symm⟩ h
  induction h with
  | enter rest ih => exact same ih rfl rfl rfl rfl rfl rfl
  | wake rest ih => exact same ih rfl rfl rfl rfl rfl rfl
  | @plain graph left payload world run node outcome stepped world₁ world' run' hnode hplain
      hstep rest ih =>
      have hkeeps := Behaviour.step_keepsVisit hplain (alone bounds node) world run payload
      rw [hstep] at hkeeps
      have hvisit : run.toLevel.SameVisit stepped.toLevel := hkeeps.visit
      exact hvisit.sameRun.trans ih
  | tooDeep hnode hflow hdepth rest ih => exact ih
  | unloadable hnode hflow hdepth hlook rest ih => exact ih
  | nest hnode hflow hdepth hlook drive rest ihDrive ih =>
      exact same ((settle_visit _ _ _).sameRun.trans ih) rfl rfl rfl rfl rfl rfl
  | orphan hnode hflow hnested rest ih => exact ih
  | lost hnode hflow hnested hlook rest ih => exact (reclaim_visit _).sameRun.trans ih
  | pass hnode hflow hnested hlook drive rest ihDrive ih =>
      exact .trans (settle_visit _ _ (Run.withChild _ _)).sameRun ih
  | go hnext rest ih => exact same ih rfl rfl rfl rfl rfl rfl
  | _ => exact ⟨rfl, rfl, rfl, rfl, rfl, rfl⟩

/-! ## What a drive needs -/

/-- What a run has to be like before a phase of a drive. -/
def Fit (flows : Flows) (settings : Settings) : Phase → Run → Prop
  | .level graph none, run =>
    flows run.flow = .ok graph ∧ run.nested = [] ∧ run.failure = none
  | .level graph (some _), run =>
    flows run.flow = .ok graph ∧ 0 < settings.maxSteps ∧
      ∃ suspension, run.Waits suspension ∧
        run.Hangs flows settings.maxDepth suspension run.nested
  | .walk graph left none, run =>
    run.Awake flows graph ∧ left ≤ settings.maxSteps ∧ run.nested = []
  | .walk graph left (some _), run =>
    run.Awake flows graph ∧ left ≤ settings.maxSteps ∧ 0 < left ∧
      ∃ suspension, run.Hangs flows settings.maxDepth suspension run.nested
  | .leave graph left (.suspend suspension), run =>
    run.Awake flows graph ∧ left < settings.maxSteps ∧
      run.Hangs flows settings.maxDepth suspension run.nested
  | .leave graph left _, run =>
    run.Awake flows graph ∧ left < settings.maxSteps ∧ run.nested = []

/-- A run that pauses nowhere fits any outcome but a pause. -/
theorem fit_leave {settings : Settings} {graph : Graph} {left : Nat} {outcome : Outcome}
    {run : Run} (hawake : run.Awake flows graph) (hleft : left < settings.maxSteps)
    (hnested : run.nested = [])
    (hpause : ∀ suspension, outcome = .suspend suspension →
      run.Hangs flows settings.maxDepth suspension run.nested) :
    Fit flows settings (.leave graph left outcome) run := by
  cases outcome with
  | suspend suspension => exact ⟨hawake, hleft, hpause suspension rfl⟩
  | go next => exact ⟨hawake, hleft, hnested⟩
  | complete => exact ⟨hawake, hleft, hnested⟩
  | fail kind message => exact ⟨hawake, hleft, hnested⟩

/-- A run fits the first step of a level in any case but one: something hangs on it. -/
theorem fit_walk {settings : Settings} {graph : Graph} {left : Nat}
    {payload : Option Payload} {run : Run}
    (hfit : Fit flows settings (.walk graph (left + 1) payload) run) :
    run.Awake flows graph ∧ left < settings.maxSteps ∧
      (run.nested = [] ∨
        ∃ suspension, run.Hangs flows settings.maxDepth suspension run.nested) := by
  cases payload with
  | none =>
      obtain ⟨hawake, hleft, hnested⟩ := hfit
      exact ⟨hawake, hleft, .inl hnested⟩
  | some payload =>
      obtain ⟨hawake, hleft, -, hhangs⟩ := hfit
      exact ⟨hawake, hleft, .inr hhangs⟩

/-- A level that does not stand at a subflow node has nothing nested in it. -/
theorem nested_of_plain {settings : Settings} {suspension : Suspension} {graph : Graph}
    {run : Run} (hawake : run.Awake flows graph)
    (hhangs : run.Hangs flows settings.maxDepth suspension run.nested)
    (hplain : ∀ node, graph.find? run.node = some node → node.behaviour.isSubflow = false) :
    run.nested = [] := by
  generalize hnested : run.nested = nested at hhangs
  cases hhangs with
  | stop stands pauses => rfl
  | link holds waits rest =>
      obtain ⟨graph', node, hflow, hnode, hbehaviour⟩ := holds.stands
      obtain rfl := Except.ok.inj (hawake.flow.symm.trans hflow)
      have := hplain node hnode
      rw [hbehaviour] at this
      simp [Behaviour.isSubflow] at this

theorem settled_failing {run : Run} {settings : Settings} (hnested : run.nested = [])
    (kind : FailureKind) (message : String) :
    (run.failing bounds kind message).Settled flows settings := .failed rfl rfl rfl hnested

@[simp] theorem child?_withChild (run child : Run) :
    (run.withChild child).child? = some child := rfl

/-- A level pauses with its nested run. -/
theorem settle_paused {run child : Run} {suspension : Suspension} (flow : FlowId)
    (around : Surroundings) (hstatus : child.status = .paused)
    (hpending : child.suspension = some suspension) :
    Subflow.settle flow around (run.withChild child) =
      (.suspend suspension, run.withChild child) := by
  simp [Subflow.settle, hstatus, hpending]

/-- A level takes back a nested run that has ended. -/
theorem settle_ended {run child : Run} (flow : FlowId) (around : Surroundings)
    (hended : child.isTerminal = true) :
    (Subflow.settle flow around (run.withChild child)).2 = (run.withChild child).reclaim := by
  cases hstatus : child.status with
  | running => simp [Level.isTerminal, hstatus, Status.isTerminal] at hended
  | paused => simp [Level.isTerminal, hstatus, Status.isTerminal] at hended
  | completed => simp [Subflow.settle, hstatus]
  | failed => simp [Subflow.settle, hstatus]

/-- What a run is like once the nested run that it holds has settled. -/
theorem fit_settle {settings : Settings} {graph : Graph} {left : Nat} {run child : Run}
    {flow : FlowId} {around : Surroundings} (hawake : run.Awake flows graph)
    (hleft : left < settings.maxSteps)
    (hholds : run.Holds flows settings.maxDepth child.toLevel)
    (hsettled : child.Settled flows settings) :
    Fit flows settings
      (.leave graph left (Subflow.settle flow around (run.withChild child)).1)
      (Subflow.settle flow around (run.withChild child)).2 := by
  have hvisit := absorb_visit run.toLevel child.toLevel
  cases hsettled with
  | @waiting suspension steps waits hangs =>
      rw [settle_paused flow around waits.paused waits.pending]
      exact ⟨hawake, hleft, .link hholds waits hangs⟩
  | completed status pending unfailed nested =>
      have h : Subflow.settle flow around (run.withChild child) =
          (around.advance, (run.withChild child).reclaim) := by
        simp [Subflow.settle, status]
      rw [h]
      refine fit_leave (hawake.visit hvisit) hleft rfl ?_
      intro suspension hsuspension
      exact absurd hsuspension (around.advance_ne_suspend suspension)
  | failed status pending failed nested =>
      have h : (Subflow.settle flow around (run.withChild child)).2 =
            (run.withChild child).reclaim ∧
          ∀ suspension, (Subflow.settle flow around (run.withChild child)).1 ≠
            .suspend suspension := by
        simp [Subflow.settle, status]
      rw [h.1]
      refine fit_leave (hawake.visit hvisit) hleft rfl ?_
      intro suspension hsuspension
      exact absurd hsuspension (h.2 suspension)

/-- What waits at a subflow node has the nested run there that it waits for. -/
theorem nested_of_subflow {settings : Settings} {suspension : Suspension} {graph : Graph}
    {node : Graph.Node} {flow : FlowId} {run : Run} (hawake : run.Awake flows graph)
    (hhangs : run.Hangs flows settings.maxDepth suspension run.nested)
    (hnode : graph.find? run.node = some node) (hflow : node.behaviour = .subflow flow) :
    ∃ child below, run.nested = child :: below ∧ run.Holds flows settings.maxDepth child ∧
      child.Waits suspension ∧ child.Hangs flows settings.maxDepth suspension below := by
  generalize hnested : run.nested = nested at hhangs
  cases hhangs with
  | stop stands pauses =>
      obtain ⟨graph', node', hflow', hnode', rfl⟩ := stands
      obtain rfl := Except.ok.inj (hawake.flow.symm.trans hflow')
      obtain rfl := Option.some.inj (hnode.symm.trans hnode')
      simp [hflow, Behaviour.Pauses] at pauses
  | link holds waits rest => exact ⟨_, _, rfl, holds, waits, rest⟩

/-! ## One rule after the other -/

section

variable {graph : Graph} {left : Nat} {payload : Option Payload} {run : Run}

theorem fit_enter (hfit : Fit flows bounds.settings (.level graph none) run) :
    Fit flows bounds.settings (.walk graph bounds.settings.maxSteps none)
      (run.awake.entering bounds run.node) := by
  obtain ⟨hflow, hnested, hfailure⟩ := hfit
  refine ⟨⟨hflow, rfl, rfl, hfailure, ?_⟩, Nat.le_refl _, hnested⟩
  simp [Run.entering, Run.awake, Run.onLevel, Level.enter]

theorem fit_wake {payload : Payload}
    (hfit : Fit flows bounds.settings (.level graph (some payload)) run) :
    Fit flows bounds.settings (.walk graph bounds.settings.maxSteps (some payload))
      run.awake := by
  obtain ⟨hflow, hsteps, suspension, hwaits, hhangs⟩ := hfit
  exact ⟨⟨hflow, rfl, rfl, hwaits.unfailed, hwaits.entered⟩, Nat.le_refl _, hsteps,
    suspension, hhangs.outer ⟨rfl, rfl, rfl, rfl, rfl, rfl⟩ rfl rfl⟩

/-- At a node that runs no other flow nothing is nested in a run that fits. -/
theorem nested_of_fit (hfit : Fit flows bounds.settings (.walk graph (left + 1) payload) run)
    (hplain : ∀ node, graph.find? run.node = some node → node.behaviour.isSubflow = false) :
    run.nested = [] := by
  obtain ⟨hawake, -, hnested | ⟨suspension, hhangs⟩⟩ := fit_walk hfit
  · exact hnested
  · exact nested_of_plain hawake hhangs hplain

theorem nested_of_node {node : Graph.Node}
    (hfit : Fit flows bounds.settings (.walk graph (left + 1) payload) run)
    (hnode : graph.find? run.node = some node) (hplain : node.behaviour.isSubflow = false) :
    run.nested = [] := by
  refine nested_of_fit hfit fun other hother => ?_
  obtain rfl := Option.some.inj (hnode.symm.trans hother)
  exact hplain

theorem fit_plain {node : Graph.Node} {outcome : Outcome} {stepped : Run}
    {world world₁ : World}
    (hfit : Fit flows bounds.settings (.walk graph (left + 1) payload) run)
    (hnode : graph.find? run.node = some node) (hplain : node.behaviour.isSubflow = false)
    (hstep : world.act (node.behaviour.step (alone bounds node) run payload) =
      ((outcome, stepped), world₁)) :
    Fit flows bounds.settings (.leave graph left outcome) stepped := by
  obtain ⟨hawake, hleft, -⟩ := fit_walk hfit
  have hnested := nested_of_node hfit hnode hplain
  have hkeeps := Behaviour.step_keepsVisit hplain (alone bounds node) world run payload
  rw [hstep] at hkeeps
  have hvisit : run.toLevel.SameVisit stepped.toLevel := hkeeps.visit
  have hempty : stepped.nested = [] := hkeeps.nested.trans hnested
  refine fit_leave (hawake.visit hvisit) hleft hempty ?_
  intro suspension hsuspension
  rw [hempty]
  refine .stop ⟨graph, node, hvisit.flow ▸ hawake.flow, hvisit.node ▸ hnode, rfl⟩ ?_
  rw [hvisit.node]
  exact (hkeeps.pause suspension hsuspension).2

/-- A run that has begun another one holds it, and the other one fits. -/
theorem fit_begun {node : Graph.Node} {flow : FlowId} {inner : Graph}
    (hfit : Fit flows bounds.settings (.walk graph (left + 1) none) run)
    (hnode : graph.find? run.node = some node) (hflow : node.behaviour = .subflow flow)
    (hdepth : run.depth < bounds.settings.maxDepth) (hlook : flows flow = .ok inner)
    (id : Identifier) :
    run.givingAway.Awake flows graph ∧ left < bounds.settings.maxSteps ∧
      run.givingAway.Holds flows bounds.settings.maxDepth
        (run.begun bounds id inner flow).toLevel ∧
      Fit flows bounds.settings (.level inner none) (run.begun bounds id inner flow) := by
  obtain ⟨hawake, hleft, hnested⟩ := hfit
  refine ⟨?_, hleft, ?_, hlook, rfl, rfl⟩
  · exact ⟨hawake.flow, hawake.running, hawake.pending, hawake.unfailed, hawake.entered⟩
  · exact ⟨⟨graph, node, hawake.flow, hnode, hflow⟩, rfl, rfl, rfl, rfl, rfl, hdepth⟩

/-- A run that is resumed where it runs another flow holds the run that it waits for, which fits
if its flow is loaded. -/
theorem fit_held {node : Graph.Node} {flow : FlowId} {payload : Payload}
    (hfit : Fit flows bounds.settings (.walk graph (left + 1) (some payload)) run)
    (hnode : graph.find? run.node = some node) (hflow : node.behaviour = .subflow flow) :
    run.Awake flows graph ∧ left < bounds.settings.maxSteps ∧
      ∃ child below inner, run.nested = child :: below ∧ flows child.flow = .ok inner ∧
        run.Holds flows bounds.settings.maxDepth child ∧
        Fit flows bounds.settings (.level inner (some payload))
          { child with nested := below } := by
  obtain ⟨hawake, hleft, -, suspension, hhangs⟩ := hfit
  obtain ⟨child, below, hchild, hholds, hwaits, hbelow⟩ :=
    nested_of_subflow hawake hhangs hnode hflow
  obtain ⟨behaviour, inner, node', hloaded, -⟩ := hbelow.stands
  exact ⟨hawake, hleft, child, below, inner, hchild, hloaded, hholds, hloaded,
    Nat.zero_lt_of_lt hleft, suspension, hwaits, hbelow⟩

theorem fit_go {next : NodeId}
    (hfit : Fit flows bounds.settings (.leave graph left (.go next)) run) :
    Fit flows bounds.settings (.walk graph left none) (run.entering bounds next) := by
  obtain ⟨hawake, hleft, hnested⟩ := hfit
  refine ⟨⟨hawake.flow, hawake.running, hawake.pending, hawake.unfailed, ?_⟩,
    Nat.le_of_lt hleft, hnested⟩
  simp [Run.entering, Run.onLevel, Level.enter]

end

/-- A drive of a run that fits ends with a settled one. -/
theorem Course.settles {phase : Phase} {world world' : World} {run run' : Run}
    (h : Course bounds phase world run world' run') (hflows : world.flow = flows)
    (hfit : Fit flows bounds.settings phase run) : run'.Settled flows bounds.settings := by
  induction h with
  | enter rest ih => exact ih hflows (fit_enter hfit)
  | wake rest ih => exact ih hflows (fit_wake hfit)
  | @exhausted graph payload world run =>
      cases payload with
      | none => exact settled_failing hfit.2.2 _ _
      | some payload => exact absurd hfit.2.2.1 (Nat.lt_irrefl 0)
  | missing hnode => exact settled_failing (nested_of_fit hfit (by simp [hnode])) _ _
  | @plain graph left payload world run node outcome stepped world₁ world' run' hnode hplain
      hstep rest ih =>
      have hfit' := fit_plain hfit hnode hplain hstep
      have hlater := world.later_act (node.behaviour.step (alone bounds node) run payload)
      rw [hstep] at hlater
      exact ih (hlater.flow.trans hflows) hfit'
  | tooDeep hnode hflow hdepth rest ih => exact ih hflows hfit
  | unloadable hnode hflow hdepth hlook rest ih => exact ih hflows hfit
  | @nest graph left world run node flow inner world₁ child world' run' hnode hflow hdepth hlook
      drive rest ihDrive ih =>
      obtain ⟨hawake, hleft, hholds, hfit'⟩ :=
        fit_begun hfit hnode hflow hdepth (hflows ▸ hlook) (world.look flow).2.newRun.1
      have hlater := (world.later_look flow).trans (World.later_newRun _)
      have hsettled := ihDrive (hlater.flow.trans hflows) hfit'
      exact ih ((hlater.trans drive.later).flow.trans hflows)
        (fit_settle hawake hleft (hholds.inner drive.sameRun) hsettled)
  | orphan hnode hflow hnested rest ih =>
      obtain ⟨-, -, child, below, inner, hchild, -⟩ := fit_held hfit hnode hflow
      simp [hnested] at hchild
  | lost hnode hflow hnested hlook rest ih =>
      obtain ⟨-, -, child, below, inner, hchild, hinner, -⟩ := fit_held hfit hnode hflow
      obtain ⟨rfl, rfl⟩ := List.cons.inj (hnested.symm.trans hchild)
      rw [← hflows, hlook] at hinner
      simp at hinner
  | @pass graph left payload world run node flow child below inner world₁ ended world' run' hnode
      hflow hnested hlook drive rest ihDrive ih =>
      obtain ⟨hawake, hleft, child', below', inner', hchild, hinner, hholds, hfit'⟩ :=
        fit_held hfit hnode hflow
      obtain ⟨rfl, rfl⟩ := List.cons.inj (hnested.symm.trans hchild)
      rw [← hflows, hlook] at hinner
      obtain rfl := Except.ok.inj hinner
      have hlater := world.later_look child.flow
      have hsettled := ihDrive (hlater.flow.trans hflows) hfit'
      exact ih ((hlater.trans drive.later).flow.trans hflows)
        (fit_settle hawake hleft (hholds.inner drive.sameRun) hsettled)
  | go hnext rest ih => exact ih hflows (fit_go hfit)
  | astray hnext => exact settled_failing hfit.2.2 _ _
  | complete =>
      obtain ⟨hawake, hleft, hnested⟩ := hfit
      exact .completed rfl rfl hawake.unfailed hnested
  | suspend =>
      obtain ⟨hawake, hleft, hhangs⟩ := hfit
      exact .waiting (Nat.zero_lt_of_lt hleft) ⟨rfl, rfl, hawake.unfailed, hawake.entered⟩
        (hhangs.outer ⟨rfl, rfl, rfl, rfl, rfl, rfl⟩ rfl rfl)
  | fail => exact settled_failing hfit.2.2 _ _

end Drive

end Dialogue
