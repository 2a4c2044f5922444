import Dialogue.Proofs.Drive.Part
import Dialogue.Proofs.Drive.Writes
import Dialogue.Proofs.Step.Failure

/-!
# Internal failures

A drive is on its guard against what should not happen: a menu that is told that
time has passed, a nested run that is not there, has stopped in the middle of its
work or waits for nothing.  `Guarded` is what keeps all of this away: a payload is
one that the innermost level waits for, and no step has failed internally.
-/

namespace Dialogue

/-- A level that has not failed internally. -/
def Level.FailsExternally (level : Level) : Prop :=
  ∀ failure, level.failure = some failure → failure.kind.IsExternal

/-- An event that is no internal failure. -/
def Event.IsExternal (event : Event) : Prop :=
  ∀ kind message, event.what = .runFailed kind message → kind.IsExternal

/-- A payload that a run can deal with where it waits: a menu is not told that time has passed. -/
def Run.Takes (flows : Flows) (payload : Payload) (run : Run) : Prop :=
  ∀ menu, run.innermost.Stands flows (.menu menu) → payload.isTimer = false

namespace World

/-- The observers were told of no internal failure between two worlds. -/
def Discreet (before after : World) : Prop :=
  ∃ told, after.events = told ++ before.events ∧ ∀ event ∈ told, event.IsExternal

variable {world world' : World} {bounds : Bounds} {run : Run} {node : NodeId}

theorem Discreet.of_events (h : world'.events = world.events) : world.Discreet world' :=
  ⟨[], h, by simp⟩

theorem Discreet.trans {first second third : World} (h : first.Discreet second)
    (h' : second.Discreet third) : first.Discreet third := by
  obtain ⟨told, htold, hall⟩ := h
  obtain ⟨told', htold', hall'⟩ := h'
  refine ⟨told' ++ told, by rw [htold', htold, List.append_assoc], fun event hevent => ?_⟩
  rcases List.mem_append.mp hevent with hevent | hevent
  · exact hall' event hevent
  · exact hall event hevent

theorem discreet_told {what : Occurrence} (h : ∀ kind message, what ≠ .runFailed kind message) :
    world.Discreet (world.told bounds run node what) := by
  refine ⟨[_], rfl, fun event hevent kind message hwhat => ?_⟩
  obtain rfl := List.mem_singleton.mp hevent
  exact absurd hwhat (h kind message)

theorem discreet_failed {kind : FailureKind} (h : kind.IsExternal) (message : String) :
    world.Discreet (world.told bounds run node (.runFailed kind message)) := by
  refine ⟨[_], rfl, fun event hevent kind' message' hwhat => ?_⟩
  obtain rfl := List.mem_singleton.mp hevent
  obtain ⟨rfl, rfl⟩ := Occurrence.runFailed.inj hwhat
  exact h

theorem Discreet.mem (h : world.Discreet world') (hall : ∀ event ∈ world.events, event.IsExternal) :
    ∀ event ∈ world'.events, event.IsExternal := by
  obtain ⟨told, htold, htold'⟩ := h
  intro event hevent
  rw [htold] at hevent
  rcases List.mem_append.mp hevent with hevent | hevent
  · exact htold' event hevent
  · exact hall event hevent

/-- What cannot be loaded fails a run because of its configuration. -/
theorem flow_error_isExternal {id : FlowId} {e : FlowError} (h : world.flow id = .error e) :
    e.failureKind.IsExternal := by
  change (world.catalog.get world.registry id).1 = .error e at h
  rw [Catalog.get_fst] at h
  unfold Catalog.load at h
  split at h
  · cases h
  · split at h
    · obtain rfl := Except.error.inj h
      exact nofun
    · next flow _ =>
      cases hload : Graph.load world.registry flow with
      | ok graph =>
          rw [hload] at h
          cases h
      | error cause =>
          rw [hload] at h
          obtain rfl := Except.error.inj h
          exact nofun

end World

namespace Drive

variable {bounds : Bounds} {flows : Flows}

/-- What a drive is guarded by in a phase. -/
def Guarded (flows : Flows) : Phase → Run → Prop
  | .level _ (some payload), run | .walk _ _ (some payload), run => run.Takes flows payload
  | .leave _ _ outcome, _ => outcome.FailsAs FailureKind.IsExternal
  | .level _ none, _ | .walk _ _ none, _ => True

section

variable {graph : Graph} {left : Nat} {payload : Payload} {run : Run} {node : Graph.Node}

theorem guarded_wake (h : Guarded flows (.level graph (some payload)) run) :
    Guarded flows (.walk graph left (some payload)) run.awake := by
  intro menu hstands
  apply h menu
  by_cases hnested : run.nested = []
  · have hawake : run.awake.nested = [] := hnested
    rw [Run.innermost_of_nil hnested]
    rw [Run.innermost_of_nil hawake] at hstands
    exact hstands
  · rw [Run.awake, Run.innermost_of_ne_nil hnested] at hstands
    exact hstands

theorem guarded_passed {child : Level} {below : List Level} {inner : Graph}
    (h : Guarded flows (.walk graph left (some payload)) run)
    (hnested : run.nested = child :: below) :
    Guarded flows (.level inner (some payload)) { child with nested := below } := by
  intro menu hstands
  apply h menu
  rw [Run.innermost_of_cons hnested]
  exact hstands

/-- A node that is stepped can deal with the payload that it is given. -/
theorem takes_of_guarded {payload : Option Payload}
    (hfit : Fit flows bounds.settings (.walk graph (left + 1) payload) run)
    (h : Guarded flows (.walk graph (left + 1) payload) run)
    (hnode : graph.find? run.node = some node) : node.behaviour.Takes payload := by
  rintro menu hmenu rfl
  have hnested : run.nested = [] := nested_of_node hfit hnode (by rw [hmenu]; rfl)
  have hstands : run.innermost.Stands flows (.menu menu) := by
    rw [Run.innermost_of_nil hnested]
    exact ⟨graph, node, (fit_walk hfit).1.flow, hnode, hmenu⟩
  exact absurd (h menu hstands) (by simp [Payload.isTimer])

theorem guarded_plain {payload : Option Payload} {outcome : Outcome}
    {stepped : Run} {world world₁ : World} (hstandard : graph.Standard)
    (hfit : Fit flows bounds.settings (.walk graph (left + 1) payload) run)
    (h : Guarded flows (.walk graph (left + 1) payload) run)
    (hnode : graph.find? run.node = some node) (hplain : node.behaviour.isSubflow = false)
    (hstep : world.act (node.behaviour.step (alone bounds node) run payload) =
      ((outcome, stepped), world₁)) :
    Guarded flows (.leave graph left outcome) stepped := by
  have hfails : (world.act
      (node.behaviour.step (alone bounds node) run payload)).1.1.FailsAs node.behaviour.MayFail :=
    Behaviour.act_step_failsAs hplain (hstandard.node hnode) (takes_of_guarded hfit h hnode) world
      run
  rw [hstep] at hfails
  exact hfails.mono fun _ => Behaviour.MayFail.isExternal

/-- A nested run that has stopped as it should does not fail the run that it belongs to
internally. -/
theorem guarded_settle {settings : Settings} {flow : FlowId} {around : Surroundings}
    {child : Run} (hsettled : child.Settled flows settings) (hchild : child.FailsExternally) :
    Guarded flows (.leave graph left (Subflow.settle flow around (run.withChild child)).1)
      (Subflow.settle flow around (run.withChild child)).2 := by
  change (Subflow.settle flow around (run.withChild child)).1.FailsAs FailureKind.IsExternal
  cases hsettled with
  | waiting steps waits hangs =>
      simp only [Subflow.settle, child?_withChild, waits.paused, waits.pending]
      exact .suspend
  | completed status pending unfailed nested =>
      simp only [Subflow.settle, child?_withChild, status]
      exact around.advance_failsAs
  | @failed failure status pending failed nested =>
      simp only [Subflow.settle, child?_withChild, status, failed]
      exact .fail (hchild failure failed)

end

/-- A level that fails for an external reason. -/
theorem external_failing {kind : FailureKind} (h : kind.IsExternal) (world : World) (run : Run)
    (message : String) :
    world.Discreet (world.told bounds run run.node (.runFailed kind message)) ∧
      (run.failing bounds kind message).FailsExternally := by
  refine ⟨World.discreet_failed h message, fun failure hfailure => ?_⟩
  obtain rfl := Option.some.inj hfailure
  exact h

/-- A guarded drive ends without an internal failure, and tells of none. -/
theorem Course.external {phase : Phase} {world world' : World} {run run' : Run}
    (h : Course bounds phase world run world' run') (hflows : world.flow = flows)
    (hstandard : ∀ id graph, flows id = .ok graph → graph.Standard)
    (hfit : Fit flows bounds.settings phase run) (hguarded : Guarded flows phase run) :
    world.Discreet world' ∧ run'.FailsExternally := by
  induction h with
  | enter rest ih =>
      obtain ⟨hdiscreet, hrun⟩ := ih hflows (fit_enter hfit) trivial
      exact ⟨(World.discreet_told (by simp)).trans hdiscreet, hrun⟩
  | wake rest ih => exact ih hflows (fit_wake hfit) (guarded_wake hguarded)
  | exhausted => exact external_failing (by decide) _ _ _
  | missing hnode => exact external_failing (by decide) _ _ _
  | @plain graph left payload world run node outcome stepped world₁ world' run' hnode hplain
      hstep rest ih =>
      have hstepped := Behaviour.stepped hplain hstep
      have hgraph := hstandard _ _ (fit_walk hfit).1.flow
      obtain ⟨hdiscreet, hrun⟩ := ih (hstepped.later.flow.trans hflows)
        (fit_plain hfit hnode hplain hstep) (guarded_plain hgraph hfit hguarded hnode hplain hstep)
      exact ⟨(World.Discreet.of_events hstepped.quiet.silent.events).trans hdiscreet, hrun⟩
  | tooDeep hnode hflow hdepth rest ih => exact ih hflows hfit (.fail (by decide))
  | unloadable hnode hflow hdepth hlook rest ih =>
      exact ih hflows hfit (.fail (World.flow_error_isExternal hlook))
  | @nest graph left world run node flow inner world₁ child world' run' hnode hflow hdepth hlook
      drive rest ihDrive ih =>
      have hbeneath := drive.nested_beneath hflows hfit hnode hflow hdepth hlook
      obtain ⟨hdiscreet, hchild⟩ := ihDrive hbeneath.fits.flow hbeneath.fits.fit trivial
      obtain ⟨hdiscreet', hrun⟩ :=
        ih hbeneath.after hbeneath.leave (guarded_settle hbeneath.settled hchild)
      have hbegun : world.Discreet (world.look flow).2.newRun.2 := .of_events rfl
      exact ⟨hbegun.trans (hdiscreet.trans hdiscreet'), hrun⟩
  | orphan hnode hflow hnested rest ih => exact absurd hnested (not_orphan hfit hnode hflow)
  | lost hnode hflow hnested hlook rest ih =>
      exact absurd hlook (not_lost hflows hfit hnode hflow hnested)
  | @pass graph left payload world run node flow child below inner world₁ ended world' run' hnode
      hflow hnested hlook drive rest ihDrive ih =>
      have hbeneath := drive.passed_beneath hflows hfit hnode hflow hnested hlook
      obtain ⟨hdiscreet, hended⟩ :=
        ihDrive hbeneath.fits.flow hbeneath.fits.fit (guarded_passed hguarded hnested)
      obtain ⟨hdiscreet', hrun⟩ :=
        ih hbeneath.after hbeneath.leave (guarded_settle hbeneath.settled hended)
      have hlooked : world.Discreet (world.look child.flow).2 := .of_events rfl
      exact ⟨hlooked.trans (hdiscreet.trans hdiscreet'), hrun⟩
  | go hnext rest ih =>
      obtain ⟨hdiscreet, hrun⟩ := ih hflows (fit_go hfit) trivial
      have hentered := (World.discreet_told (by simp)).trans hdiscreet
      exact ⟨(World.discreet_told (by simp)).trans hentered, hrun⟩
  | astray hnext =>
      exact (external_failing (by decide) _ _ _).imp_left
        fun h => (World.discreet_told (by simp)).trans h
  | complete =>
      refine ⟨(World.discreet_told (by simp)).trans (World.discreet_told (by simp)), ?_⟩
      intro failure hfailure
      exact absurd (hfit.1.unfailed.symm.trans hfailure) nofun
  | suspend =>
      refine ⟨World.discreet_told (by simp), ?_⟩
      intro failure hfailure
      exact absurd (hfit.1.unfailed.symm.trans hfailure) nofun
  | fail =>
      cases hguarded with
      | fail allowed => exact external_failing allowed _ _ _

/-- What a guarded stretch goes on with is guarded. -/
theorem Leg.Then.guarded {first second : Leg} (h : first.Then bounds second)
    (hstandard : ∀ id graph, flows id = .ok graph → graph.Standard)
    (hfits : first.Fits bounds flows) (hguarded : Guarded flows first.phase first.run) :
    Guarded flows second.phase second.run := by
  obtain ⟨hflows, hfit⟩ := hfits
  cases h with
  | enter => trivial
  | wake => exact guarded_wake hguarded
  | plain hnode hplain hstep =>
      have hgraph := hstandard _ _ (fit_walk hfit).1.flow
      exact guarded_plain hgraph hfit hguarded hnode hplain hstep
  | tooDeep hnode hflow hdepth => exact .fail (by decide)
  | unloadable hnode hflow hdepth hlook => exact .fail (World.flow_error_isExternal hlook)
  | nest hnode hflow hdepth hlook drive =>
      have hbeneath := drive.nested_beneath hflows hfit hnode hflow hdepth hlook
      obtain ⟨-, hchild⟩ := drive.external hbeneath.fits.flow hstandard hbeneath.fits.fit trivial
      exact guarded_settle hbeneath.settled hchild
  | orphan hnode hflow hnested => exact absurd hnested (not_orphan hfit hnode hflow)
  | lost hnode hflow hnested hlook =>
      exact absurd hlook (not_lost hflows hfit hnode hflow hnested)
  | pass hnode hflow hnested hlook drive =>
      have hbeneath := drive.passed_beneath hflows hfit hnode hflow hnested hlook
      obtain ⟨-, hended⟩ := drive.external hbeneath.fits.flow hstandard hbeneath.fits.fit
        (guarded_passed hguarded hnested)
      exact guarded_settle hbeneath.settled hended
  | go hnext => trivial

/-- The drive of a nested run is guarded where that of the run is that waits for it. -/
theorem Leg.Hosts.guarded {host lower : Leg} {waiting : Run}
    (h : host.Hosts bounds waiting lower) (hguarded : Guarded flows host.phase host.run) :
    Guarded flows lower.phase lower.run := by
  cases h with
  | nest hnode hflow hdepth hlook rest => trivial
  | pass hnode hflow hnested hlook rest => exact guarded_passed hguarded hnested

/-- Nothing happens in a stretch of a drive that the drive is on its guard against. -/
structure Leg.Undisturbed (leg : Leg) : Prop where
  /-- No menu is told that time has passed. -/
  answered : ∀ graph left payload node menu, leg.phase = .walk graph (left + 1) payload →
    graph.find? leg.run.node = some node → node.behaviour = .menu menu → payload ≠ some .elapsed
  /-- Where another flow is resumed there is a run in it. -/
  nested : ∀ graph left payload node flow, leg.phase = .walk graph (left + 1) (some payload) →
    graph.find? leg.run.node = some node → node.behaviour = .subflow flow → leg.run.nested ≠ []
  /-- Only nodes of standard types are stepped, which raise no errors. -/
  standard : ∀ graph left payload node, leg.phase = .walk graph (left + 1) payload →
    graph.find? leg.run.node = some node → node.behaviour.isScripted = false
  /-- No step fails internally. -/
  external : ∀ graph left outcome, leg.phase = .leave graph left outcome →
    outcome.FailsAs FailureKind.IsExternal
  /-- No level is left running. -/
  stopped : leg.run'.status ≠ .running
  /-- A level that is left paused waits for something. -/
  pending : leg.run'.status = .paused → leg.run'.suspension.isSome = true
  /-- No level has failed internally. -/
  failure : leg.run'.FailsExternally

/-- A guarded drive is not disturbed in any part of it, however deeply it is nested. -/
theorem Part.undisturbed {whole part : Leg} {outer : List Run} (h : Part bounds whole outer part)
    (hstandard : ∀ id graph, flows id = .ok graph → graph.Standard)
    (hfits : whole.Fits bounds flows) (hguarded : Guarded flows whole.phase whole.run) :
    part.Undisturbed := by
  obtain ⟨hflows', hfit'⟩ := h.fits hfits
  have hguarded' : Guarded flows part.phase part.run :=
    h.keeps (fun next => next.guarded hstandard) (fun hosts _ _ => hosts.guarded) hfits hguarded
  have hsettled := h.inner.settles hflows' hfit'
  refine
    { answered := ?_, nested := ?_, standard := ?_, external := ?_, stopped := ?_, pending := ?_
      failure := (h.inner.external hflows' hstandard hfit' hguarded').2 }
  · intro graph left payload node menu hphase hnode hmenu
    rw [hphase] at hfit' hguarded'
    exact takes_of_guarded hfit' hguarded' hnode menu hmenu
  · intro graph left payload node flow hphase hnode hflow
    rw [hphase] at hfit'
    exact not_orphan hfit' hnode hflow
  · intro graph left payload node hphase hnode
    rw [hphase] at hfit'
    exact (hstandard _ _ (fit_walk hfit').1.flow).node hnode
  · intro graph left outcome hphase
    rw [hphase] at hguarded'
    exact hguarded'
  · cases hsettled with
    | waiting steps waits hangs => simp [waits.paused]
    | completed status => simp [status]
    | failed status => simp [status]
  · cases hsettled with
    | waiting steps waits hangs => simp [waits.pending]
    | completed status => simp [status]
    | failed status => simp [status]

end Drive

end Dialogue
