import Dialogue.Proofs.Drive.Shape
import Dialogue.Proofs.Graph.Paths
import Dialogue.Proofs.Step.Effect

/-!
# The way of a drive through a flow

A drive takes every level that runs a flow along the edges of its graph, and the
nested runs from the start of theirs.  Whoever reads the history of a level, the
note about a nested run or the events that were told sees a tour of the graph,
and never a failure for the want of a node.

All this is about one flow that stays the same; what becomes of the levels that
run other flows does not matter.
-/

namespace Dialogue

/-! ## What the observers are told -/

/-- What the observers are told, latest first, where the runs of a flow keep to its graph: they
enter a node where they begin or from one that leads there, and they miss no node.  One run may
begin at a node of its own. -/
inductive Guided (flow : FlowId) (graph : Graph) (root : Identifier) (first : NodeId) :
    List Event → Prop
  | nil : Guided flow graph root first []
  | other {event earlier} (rest : Guided flow graph root first earlier)
      (stays : event.what ≠ .nodeEntered)
      (sane : event.flow = flow → ∀ kind message, event.what = .runFailed kind message →
        ¬Astray message) :
      Guided flow graph root first (event :: earlier)
  | begin {event earlier} (rest : Guided flow graph root first earlier)
      (entered : event.what = .nodeEntered)
      (place : event.flow = flow →
        event.node = graph.start ∨ event.run = root ∧ event.node = first) :
      Guided flow graph root first (event :: earlier)
  | go {event left earlier} (rest : Guided flow graph root first earlier)
      (entered : event.what = .nodeEntered) (completed : left.what = .nodeCompleted)
      (same : left.run = event.run ∧ left.flow = event.flow)
      (leads : event.flow = flow → graph.Leads left.node event.node) :
      Guided flow graph root first (event :: left :: earlier)

theorem Guided.append {flow : FlowId} {graph : Graph} {root : Identifier} {first : NodeId}
    {later earlier : List Event} (h : Guided flow graph root first later)
    (h' : Guided flow graph root first earlier) :
    Guided flow graph root first (later ++ earlier) := by
  induction h with
  | nil => exact h'
  | other rest stays sane ih => exact .other ih stays sane
  | begin rest entered place ih => exact .begin ih entered place
  | go rest entered completed same leads ih => exact .go ih entered completed same leads

/-- Between two worlds the observers are told only of runs that keep to the graph. -/
def World.Guides (flow : FlowId) (graph : Graph) (root : Identifier) (first : NodeId)
    (before after : World) : Prop :=
  ∃ told, after.events = told ++ before.events ∧ Guided flow graph root first told

namespace World.Guides

variable {flow : FlowId} {graph : Graph} {root : Identifier} {first : NodeId}

theorem of_events {before after : World} (h : after.events = before.events) :
    World.Guides flow graph root first before after := ⟨[], h, .nil⟩

theorem trans {one two three : World} (h : World.Guides flow graph root first one two)
    (h' : World.Guides flow graph root first two three) :
    World.Guides flow graph root first one three := by
  obtain ⟨told, htold, hguided⟩ := h
  obtain ⟨told', htold', hguided'⟩ := h'
  exact ⟨told' ++ told, by rw [htold', htold, List.append_assoc], hguided'.append hguided⟩

/-- Anything may be told but that a node was entered or is missed. -/
theorem tell (world : World) (bounds : Bounds) (run : Run) (node : NodeId) {what : Occurrence}
    (stays : what ≠ .nodeEntered)
    (sane : run.flow = flow → ∀ kind message, what = .runFailed kind message →
      ¬Astray message) :
    World.Guides flow graph root first world (world.told bounds run node what) :=
  ⟨[_], rfl, .other .nil stays sane⟩

end World.Guides

/-! ## Levels -/

namespace Level

/-- A level that keeps to the graph of its flow if this is a certain one, and whose nested runs
have done so. -/
structure OnTrack (flow : FlowId) (graph : Graph) (start : NodeId) (level : Level) : Prop where
  tour : level.flow = flow → graph.Tour start level.history.nodes
  here : level.flow = flow → level.history.nodes.getLast? = some level.node
  sane : level.flow = flow → ∀ failure, level.failure = some failure →
    ¬Astray failure.message
  ended : ∀ id status nodes, .subflow flow id status nodes ∈ level.history.remarks →
    graph.Tour graph.start nodes

namespace OnTrack

variable {flow : FlowId} {graph : Graph} {start : NodeId} {level : Level}

/-- A visit with notes that are about no nested run makes no difference. -/
theorem visit {after : Level} (h : level.OnTrack flow graph start)
    (hvisit : level.SameVisit after) (hnotes : level.history.Noted after.history) :
    after.OnTrack flow graph start where
  tour hflow := by
    rw [hvisit.nodes]
    exact h.tour (hvisit.flow.symm.trans hflow)
  here hflow := by
    rw [hvisit.nodes, hvisit.node]
    exact h.here (hvisit.flow.symm.trans hflow)
  sane hflow := by
    rw [hvisit.failure]
    exact h.sane (hvisit.flow.symm.trans hflow)
  ended id status nodes hnote := h.ended id status nodes (hnotes.mem_remarks rfl hnote)

theorem enter (h : level.OnTrack flow graph start) (hsound : graph.Sound) (time : Instant)
    {next : NodeId} (hleads : level.flow = flow → graph.Leads level.node next) :
    (level.enter next time).OnTrack flow graph start where
  tour hflow := by
    change graph.Tour start (level.history.enter next time).nodes
    rw [History.nodes_enter]
    exact (h.tour hflow).go hsound (h.here hflow) (hleads hflow)
  here hflow := by
    change (level.history.enter next time).nodes.getLast? = some next
    rw [History.nodes_enter, List.getLast?_concat]
  sane := h.sane
  ended := by
    change ∀ id status nodes, _ ∈ (level.history.enter next time).remarks → _
    rw [History.remarks_enter]
    exact h.ended

/-- A level that begins where it should is on track. -/
theorem begin (hhistory : level.history = []) (hfailure : level.failure = none) (time : Instant)
    (hplace : level.flow = flow → graph.contains level.node = true ∧ level.node = start) :
    (level.enter level.node time).OnTrack flow graph start where
  tour hflow := by
    change graph.Tour start (level.history.enter level.node time).nodes
    rw [hhistory, ← (hplace hflow).2]
    exact Graph.tour_start (hplace hflow).1
  here hflow := by
    change (level.history.enter level.node time).nodes.getLast? = some level.node
    rw [hhistory]
    rfl
  sane hflow failure hfailed := by
    change level.failure = some failure at hfailed
    rw [hfailure] at hfailed
    cases hfailed
  ended := by
    change ∀ id status nodes, _ ∈ (level.history.enter level.node time).remarks → _
    rw [History.remarks_enter, hhistory]
    simp [History.remarks]

theorem fail (h : level.OnTrack flow graph start) (kind : FailureKind) {message : String}
    (time : Instant) (hsane : level.flow = flow → ¬Astray message) :
    (level.fail kind message time).OnTrack flow graph start := by
  have hnoted := h.visit (.note level (.failure kind message)) (.note (.refl _) _ rfl)
  refine ⟨hnoted.tour, hnoted.here, fun hflow failure hfailed => ?_, hnoted.ended⟩
  obtain rfl := Option.some.inj hfailed
  exact hsane hflow

/-- A nested run on track is taken back. -/
theorem absorb {child : Level} (h : level.OnTrack flow graph start)
    (hchild : child.OnTrack flow graph graph.start) :
    (level.absorb child).OnTrack flow graph start := by
  have hvisit : level.SameVisit (level.absorb child) :=
    (Level.SameVisit.union level child.vars).trans (.note _ _)
  refine ⟨fun hflow => ?_, fun hflow => ?_, h.sane, fun id status nodes hnote => ?_⟩
  · rw [hvisit.nodes]
    exact h.tour hflow
  · rw [hvisit.nodes]
    exact h.here hflow
  · rcases History.mem_remarks_note hnote with hnew | hold
    · obtain ⟨hflow, -, -, rfl⟩ := Note.subflow.inj hnew
      exact hchild.tour hflow.symm
    · exact h.ended id status nodes hold

end OnTrack

end Level

namespace Run

/-- A run on track, with all that is nested in it. -/
def OnTrack (flow : FlowId) (graph : Graph) (start : NodeId) (run : Run) : Prop :=
  run.toLevel.OnTrack flow graph start ∧
    ∀ level ∈ run.nested, level.OnTrack flow graph graph.start

variable {flow : FlowId} {graph : Graph} {start : NodeId} {run : Run}

theorem OnTrack.reclaim (h : run.OnTrack flow graph start) :
    run.reclaim.OnTrack flow graph start := by
  unfold Run.reclaim
  split
  · exact h
  · next child below hnested =>
    exact ⟨h.1.absorb (h.2 child (hnested ▸ .head _)), by simp⟩

theorem OnTrack.withChild {child : Run} (h : run.toLevel.OnTrack flow graph start)
    (hchild : child.OnTrack flow graph graph.start) :
    (run.withChild child).OnTrack flow graph start :=
  ⟨h, List.forall_mem_cons.mpr hchild⟩

theorem OnTrack.settle (h : run.OnTrack flow graph start) (runs : FlowId)
    (around : Surroundings) : (Subflow.settle runs around run).2.OnTrack flow graph start := by
  rcases Drive.settle_run runs around run with hsame | hback
  · rw [hsame]
    exact h
  · rw [hback]
    exact h.reclaim

/-- Termination keeps all levels on track. -/
theorem unwind_onTrack {level : Level} {below : List Level} (kind : FailureKind)
    {message : String} (time : Instant) (hmessage : ¬Astray message)
    (h : level.OnTrack flow graph start)
    (hbelow : ∀ inner ∈ below, inner.OnTrack flow graph graph.start) :
    (unwind kind message time level below).OnTrack flow graph start := by
  induction below generalizing level start with
  | nil => exact h.fail kind time fun _ => hmessage
  | cons child below ih =>
      obtain ⟨hchild, hrest⟩ := List.forall_mem_cons.mp hbelow
      exact (h.absorb (ih hchild hrest)).fail kind time fun _ => hmessage

theorem OnTrack.terminate (h : run.OnTrack flow graph start) (kind : FailureKind)
    {message : String} (time : Instant) (hmessage : ¬Astray message) :
    (run.terminate kind message time).OnTrack flow graph start :=
  ⟨unwind_onTrack kind time hmessage h.1 h.2, by simp [Run.terminate, Run.ofLevel]⟩

end Run

namespace Drive

/-- What a nested run comes to leads only where the node does. -/
theorem settle_within (flow : FlowId) (around : Surroundings) (run : Run)
    (targets : List NodeId) :
    (Subflow.settle flow around run).1.Within around.successor targets := by
  unfold Subflow.settle
  cases run.child? with
  | none => exact not_astray (by decide)
  | some child =>
      dsimp only
      cases child.status with
      | running => exact not_astray (by decide)
      | paused =>
          cases child.suspension with
          | none => exact not_astray (by decide)
          | some suspension => trivial
      | completed => exact around.advance_within targets
      | failed =>
          unfold Outcome.Within
          dsimp only
          rw [String.append_assoc, String.append_assoc]
          exact not_astray_append (by decide) (by decide) _

theorem tooDeep_within (flow : FlowId) (around : Surroundings) (run : Run)
    (targets : List NodeId) :
    (Subflow.tooDeep flow around run).Within around.successor targets := by
  unfold Subflow.tooDeep Outcome.Within
  dsimp only
  simp only [String.append_assoc]
  exact not_astray_append (by decide) (by decide) _

variable {bounds : Bounds} {flow : FlowId} {graph : Graph} {root : Identifier} {first : NodeId}

/-- What is needed of a run before each phase of a drive, for it to stay on track. -/
def Phase.OnTrack (flow : FlowId) (graph : Graph) (start : NodeId) (run : Run) : Phase → Prop
  | .level inner none =>
    (run.flow = flow → inner = graph ∧ graph.contains run.node = true ∧ run.node = start) ∧
      run.history = [] ∧ run.failure = none ∧ run.nested = []
  | .level inner (some _) | .walk inner _ _ =>
    (run.flow = flow → inner = graph) ∧ run.OnTrack flow graph start
  | .leave inner _ outcome =>
    (run.flow = flow → inner = graph ∧ ∃ node, graph.find? run.node = some node ∧
      outcome.Within node.successor node.behaviour.targets) ∧ run.OnTrack flow graph start

/-- A step on track leaves a level that goes on on track. -/
theorem onTrack_leave {inner : Graph} {left : Nat} {outcome : Outcome} {run after : Run}
    {start : NodeId} {node : Graph.Node} (hnode : inner.find? run.node = some node)
    (hwithin : outcome.Within node.successor node.behaviour.targets)
    (hinner : run.flow = flow → inner = graph) (hsame : after.flow = run.flow)
    (hhere : after.node = run.node) (hafter : after.OnTrack flow graph start) :
    (Phase.leave inner left outcome).OnTrack flow graph start after := by
  refine ⟨fun hflow => ?_, hafter⟩
  obtain rfl := hinner (hsame.symm.trans hflow)
  exact ⟨rfl, node, hhere ▸ hnode, hwithin⟩

/-- A nested run that was driven on track leaves the run on track, however it has come out. -/
theorem onTrack_settle {inner : Graph} {left : Nat} {run child : Run} {start : NodeId}
    {node : Graph.Node} (runs : FlowId) (hnode : inner.find? run.node = some node)
    (hinner : run.flow = flow → inner = graph) (hrun : run.toLevel.OnTrack flow graph start)
    (hchild : child.OnTrack flow graph graph.start) :
    (Phase.leave inner left
        (Subflow.settle runs (alone bounds node) (run.withChild child)).1).OnTrack flow graph start
      (Subflow.settle runs (alone bounds node) (run.withChild child)).2 := by
  have hvisit := settle_visit runs (alone bounds node) (run.withChild child)
  have hsettled := (Run.OnTrack.withChild hrun hchild).settle runs (alone bounds node)
  exact onTrack_leave hnode (settle_within _ _ _ _) hinner hvisit.flow hvisit.node hsettled

/-- A run that fails in words of its own stays on track. -/
theorem onTrack_failing {run : Run} {start : NodeId} (h : run.OnTrack flow graph start)
    (world : World) (kind : FailureKind) {message : String}
    (hsane : run.flow = flow → ¬Astray message) :
    (run.failing bounds kind message).OnTrack flow graph start ∧
      world.Guides flow graph root first
        (world.told bounds run run.node (.runFailed kind message)) := by
  refine ⟨⟨h.1.fail kind _ hsane, h.2⟩, .tell _ _ _ _ (by simp) fun hflow _ _ hwhat => ?_⟩
  obtain ⟨-, rfl⟩ := Occurrence.runFailed.inj hwhat
  exact hsane hflow

/-- A drive keeps a run on track, and tells the observers of nothing else. -/
theorem Course.onTrack {phase : Phase} {world world' : World} {run run' : Run} {start : NodeId}
    (h : Course bounds phase world run world' run') (hgraph : world.flow flow = .ok graph)
    (hsound : graph.Sound) (hphase : phase.OnTrack flow graph start run)
    (hstart : start = graph.start ∨ run.id = root ∧ start = first) :
    run'.OnTrack flow graph start ∧ world.Guides flow graph root first world' := by
  have tell (world : World) (run : Run) (node : NodeId) (what : Occurrence)
      (stays : what ≠ .nodeEntered) (ends : ∀ kind message, what ≠ .runFailed kind message) :
      world.Guides flow graph root first (world.told bounds run node what) :=
    .tell world bounds run node stays fun _ kind message hwhat => absurd hwhat (ends kind message)
  induction h generalizing start with
  | @enter inner world run world' run' rest ih =>
      obtain ⟨hinner, hhistory, hfailure, hnested⟩ := hphase
      have hhistory' : run.awake.history = [] := hhistory
      have hown : (run.awake.toLevel.enter run.node bounds.now).OnTrack flow graph start :=
        .begin hhistory' hfailure _ fun hflow => (hinner hflow).2
      have hbegun : (run.awake.entering bounds run.node).OnTrack flow graph start := by
        refine ⟨hown, fun level hlevel => ?_⟩
        change level ∈ run.nested at hlevel
        simp [hnested] at hlevel
      obtain ⟨hafter, hguides⟩ := ih hgraph ⟨fun hflow => (hinner hflow).1, hbegun⟩ hstart
      refine ⟨hafter, .trans ⟨[_], rfl, .begin .nil rfl fun hflow => ?_⟩ hguides⟩
      obtain ⟨-, -, hplace⟩ := hinner hflow
      rcases hstart with hstart | ⟨hroot, hfirst⟩
      · exact .inl (hplace.trans hstart)
      · exact .inr ⟨hroot, hplace.trans hfirst⟩
  | @wake inner payload world run world' run' rest ih =>
      obtain ⟨hinner, hown, hnested⟩ := hphase
      exact ih hgraph ⟨hinner, ⟨hown.tour, hown.here, hown.sane, hown.ended⟩, hnested⟩ hstart
  | @exhausted inner payload world run =>
      refine onTrack_failing hphase.2 world _ fun _ => ?_
      rw [String.append_assoc]
      exact not_astray_append (by decide) (by decide) _
  | @missing inner left payload world run hnode =>
      refine onTrack_failing hphase.2 world _ fun hflow => ?_
      -- The last node of a tour is in the graph.
      obtain rfl := hphase.1 hflow
      have hlast := List.mem_of_getLast? (hphase.2.1.here hflow)
      have hinside := (hphase.2.1.tour hflow).inside _ hlast
      simp [Graph.contains, hnode] at hinside
  | @plain inner left payload world run node outcome stepped world₁ world' run' hnode hplain
      hstep rest ih =>
      obtain ⟨hinner, hrun⟩ := hphase
      have hstepped := Behaviour.stepped hplain hstep
      have hafter : stepped.OnTrack flow graph start := by
        refine ⟨hrun.1.visit hstepped.visit hstepped.quiet.notes, ?_⟩
        rw [hstepped.nested]
        exact hrun.2
      have hleave : (Phase.leave inner left outcome).OnTrack flow graph start stepped := by
        refine ⟨fun hflow => ?_, hafter⟩
        obtain rfl := hinner (hstepped.visit.flow.symm.trans hflow)
        rcases hstepped.may with hscripted | ⟨hwithin, -⟩
        · rw [hsound.standard.node hnode] at hscripted
          cases hscripted
        · have hhere : stepped.node = run.node := hstepped.visit.node
          exact ⟨rfl, node, hhere ▸ hnode, hwithin⟩
      have hid : stepped.id = run.id := hstepped.visit.id
      obtain ⟨hdone, hguides⟩ :=
        ih (hstepped.later.flow ▸ hgraph) hleave (by rw [hid]; exact hstart)
      exact ⟨hdone, (World.Guides.of_events hstepped.quiet.silent.events).trans hguides⟩
  | @tooDeep inner left world run node runs world' run' hnode hflow hdepth rest ih =>
      exact ih hgraph (onTrack_leave hnode (tooDeep_within _ _ _ _) hphase.1 rfl rfl hphase.2)
        hstart
  | @unloadable inner left world run node runs e world' run' hnode hflow hdepth hlook rest ih =>
      exact ih hgraph (onTrack_leave hnode e.message_not_astray hphase.1 rfl rfl hphase.2) hstart
  | @nest inner left world run node runs other world₁ child world' run' hnode hflow hdepth hlook
      drive rest ihDrive ih =>
      obtain ⟨hinner, hown, -⟩ := hphase
      have hbegins : (Phase.level other none).OnTrack flow graph graph.start
          (run.begun bounds (world.look runs).2.newRun.1 other runs) := by
        refine ⟨fun hflow => ?_, rfl, rfl, rfl⟩
        obtain rfl : runs = flow := hflow
        obtain rfl := Except.ok.inj (hlook.symm.trans hgraph)
        exact ⟨rfl, hsound.start, rfl⟩
      have hgraph' : (world.look runs).2.newRun.2.flow flow = .ok graph :=
        (world.look_flow runs flow).trans hgraph
      obtain ⟨hchild, hguides⟩ := ihDrive hgraph' hbegins (.inl rfl)
      have hgiving : run.givingAway.toLevel.OnTrack flow graph start :=
        ⟨hown.tour, hown.here, hown.sane, hown.ended⟩
      have hvisit := settle_visit runs (alone bounds node) (run.givingAway.withChild child)
      have hid : (Subflow.settle runs (alone bounds node) (run.givingAway.withChild child)).2.id =
          run.id := hvisit.id
      obtain ⟨hafter, hguides'⟩ := ih (drive.later.flow ▸ hgraph')
        (onTrack_settle runs hnode hinner hgiving hchild) (by rw [hid]; exact hstart)
      have hbefore : world.Guides flow graph root first (world.look runs).2.newRun.2 :=
        .of_events rfl
      exact ⟨hafter, hbefore.trans (hguides.trans hguides')⟩
  | @orphan inner left payload world run node runs world' run' hnode hflow hnested rest ih =>
      exact ih hgraph (onTrack_leave hnode (FlowError.message_not_astray _) hphase.1 rfl rfl
        hphase.2) hstart
  | @lost inner left payload world run node runs child below e world' run' hnode hflow hnested
      hlook rest ih =>
      have hvisit := reclaim_visit run
      have hid : run.reclaim.id = run.id := hvisit.id
      exact ih hgraph (onTrack_leave hnode e.message_not_astray hphase.1 hvisit.flow hvisit.node
        hphase.2.reclaim)
        (by rw [hid]; exact hstart)
  | @pass inner left payload world run node runs child below other world₁ ended world' run' hnode
      hflow hnested hlook drive rest ihDrive ih =>
      obtain ⟨hinner, hown, hbelow⟩ := hphase
      rw [hnested] at hbelow
      obtain ⟨hchild, hrest⟩ := List.forall_mem_cons.mp hbelow
      have hresumes : (Phase.level other (some payload)).OnTrack flow graph graph.start
          ({ child with nested := below } : Run) := by
        refine ⟨fun hflow => ?_, hchild, hrest⟩
        have hother : child.flow = flow := hflow
        rw [hother, hgraph] at hlook
        exact (Except.ok.inj hlook).symm
      have hgraph' : (world.look child.flow).2.flow flow = .ok graph :=
        (world.look_flow child.flow flow).trans hgraph
      obtain ⟨hended, hguides⟩ := ihDrive hgraph' hresumes (.inl rfl)
      have hvisit := settle_visit runs (alone bounds node) (run.withChild ended)
      have hid : (Subflow.settle runs (alone bounds node) (run.withChild ended)).2.id =
          run.id := hvisit.id
      obtain ⟨hafter, hguides'⟩ := ih (drive.later.flow ▸ hgraph')
        (onTrack_settle runs hnode hinner hown hended) (by rw [hid]; exact hstart)
      have hbefore : world.Guides flow graph root first (world.look child.flow).2 :=
        .of_events rfl
      exact ⟨hafter, hbefore.trans (hguides.trans hguides')⟩
  | @go inner left next world run world' run' hnext rest ih =>
      obtain ⟨hinner, hrun⟩ := hphase
      have hleads (hflow : run.flow = flow) : graph.Leads run.node next := by
        obtain ⟨rfl, node, hnode, hwithin⟩ := hinner hflow
        exact hsound.leads hnode hwithin
      have hentered : (run.entering bounds next).OnTrack flow graph start :=
        ⟨hrun.1.enter hsound _ hleads, hrun.2⟩
      obtain ⟨hafter, hguides⟩ := ih hgraph ⟨fun hflow => (hinner hflow).1, hentered⟩ hstart
      refine ⟨hafter, .trans ⟨[_, _], rfl, ?_⟩ hguides⟩
      exact .go .nil rfl rfl ⟨rfl, rfl⟩ hleads
  | @astray inner left next world run hnext =>
      obtain ⟨hinner, hrun⟩ := hphase
      -- Where a node leads to is in the graph.
      have hother : run.flow ≠ flow := by
        intro hflow
        obtain ⟨rfl, node, hnode, hwithin⟩ := hinner hflow
        have hinside := hsound.contains_of_leads (hsound.leads hnode hwithin)
        simp [hnext] at hinside
      have hleft := tell world run run.node .nodeCompleted (by simp) (by simp)
      obtain ⟨hfailed, hguides⟩ := onTrack_failing hrun
        (world.told bounds run run.node .nodeCompleted) .configuration fun hflow =>
          absurd hflow hother
      exact ⟨hfailed, hleft.trans hguides⟩
  | @complete inner left world run =>
      obtain ⟨-, hown, hnested⟩ := hphase
      exact ⟨⟨⟨hown.tour, hown.here, hown.sane, hown.ended⟩, hnested⟩,
        .trans (tell _ _ _ _ (by simp) (by simp)) (tell _ _ _ _ (by simp) (by simp))⟩
  | @suspend inner left suspension world run =>
      obtain ⟨-, hown, hnested⟩ := hphase
      exact ⟨⟨⟨hown.tour, hown.here, hown.sane, hown.ended⟩, hnested⟩,
        tell _ _ _ _ (by simp) (by simp)⟩
  | @fail inner left kind message world run =>
      refine onTrack_failing hphase.2 world kind fun hflow => ?_
      obtain ⟨-, node, -, hwithin⟩ := hphase.1 hflow
      exact hwithin

end Drive

end Dialogue
