import Dialogue.Proofs.Drive.Part
import Dialogue.Proofs.Drive.Steps
import Dialogue.Proofs.Drive.Writes

/-!
# Where a payload goes

A payload is for the node where the innermost level of a run waits.  On its way
there it passes the nodes that run the flows of the levels below, one on each
level, and then it is gone: a node that is stepped later in the drive, or again,
is stepped without it.
-/

namespace Dialogue.Drive

variable {bounds : Bounds} {flows : Flows} {phase : Phase} {world world' : World}
  {run run' : Run} {steps : List Handled}

/-- How a payload goes down the levels of a run.  Each level is stepped with it where it stands, and
enters no node before it goes on from there.  All other steps are without it. -/
inductive Handed (bounds : Bounds) (payload : Payload) :
    World → Run → List Handled → World → Run → Prop
  /-- The node where the innermost level stands takes the payload. -/
  | take {graph left world run node outcome stepped world₁ others world' run'}
      (flow : world.flow run.flow = .ok graph) (innermost : run.nested = [])
      (stands : graph.find? run.node = some node) (plain : node.behaviour.isSubflow = false)
      (step : world.act (node.behaviour.step (alone bounds node) run.awake (some payload)) =
        ((outcome, stepped), world₁))
      (visits : stepped.history.nodes = run.history.nodes)
      (rest : Handles bounds (.leave graph left outcome) world₁ stepped others world' run')
      (stays : (∀ next, outcome ≠ .go next) → run'.history.nodes = run.history.nodes)
      (blank : ∀ step ∈ others, step.payload = none) :
      Handed bounds payload world run (⟨run.id, run.node, some payload, outcome⟩ :: others)
        world' run'
  /-- The node of any other level hands the payload to the nested run, and goes by what has become
  of that run. -/
  | pass {graph left world run node child below world₁ ended outcome stepped within others world'
      run'}
      (flow : world.flow run.flow = .ok graph) (nested : run.nested = child :: below)
      (stands : graph.find? run.node = some node)
      (subflow : node.behaviour = .subflow child.flow)
      (handed : Handed bounds payload (world.look child.flow).2 { child with nested := below }
        within world₁ ended)
      (settle : Subflow.settle child.flow (alone bounds node) (run.awake.withChild ended) =
        (outcome, stepped))
      (visits : stepped.history.nodes = run.history.nodes)
      (rest : Handles bounds (.leave graph left outcome) world₁ stepped others world' run')
      (stays : (∀ next, outcome ≠ .go next) → run'.history.nodes = run.history.nodes)
      (blank : ∀ step ∈ others, step.payload = none) :
      Handed bounds payload world run
        (⟨run.id, run.node, some payload, outcome⟩ :: (within ++ others)) world' run'

/-- Where a phase begins without a payload, no node gets one. -/
theorem Handles.blank (h : Handles bounds phase world run steps world' run')
    (hphase : phase.payload = none) : ∀ step ∈ steps, step.payload = none := by
  induction h with
  | halt isOver course => simp
  | enter rest ih => exact ih rfl
  | wake rest ih => cases hphase
  | plain hnode hplain hstep rest ih => exact List.forall_mem_cons.mpr ⟨hphase, ih rfl⟩
  | tooDeep hnode hflow hdepth rest ih => exact List.forall_mem_cons.mpr ⟨rfl, ih rfl⟩
  | unloadable hnode hflow hdepth hlook rest ih => exact List.forall_mem_cons.mpr ⟨rfl, ih rfl⟩
  | nest hnode hflow hdepth hlook drive rest ihDrive ih =>
      refine List.forall_mem_cons.mpr ⟨rfl, fun step hstep => ?_⟩
      rcases List.mem_append.mp hstep with hstep | hstep
      · exact ihDrive rfl step hstep
      · exact ih rfl step hstep
  | orphan hnode hflow hnested rest ih => cases hphase
  | lost hnode hflow hnested hlook rest ih => cases hphase
  | pass hnode hflow hnested hlook drive rest ihDrive ih => cases hphase
  | go hnext rest ih => exact ih rfl

/-- A level that does not go on from a node enters none. -/
theorem Course.nodes_of_leave {graph : Graph} {left : Nat} {outcome : Outcome}
    (h : Course bounds (.leave graph left outcome) world run world' run')
    (hstays : ∀ next, outcome ≠ .go next) : run'.history.nodes = run.history.nodes := by
  cases h with
  | go hnext rest => exact absurd rfl (hstays _)
  | astray hnext => exact absurd rfl (hstays _)
  | complete => rfl
  | suspend => rfl
  | fail => exact History.nodes_note _ _

/-- A level hands its payload on, if the levels below do. -/
theorem Handles.handed_walk {graph : Graph} {left : Nat} {payload : Payload}
    (h : Handles bounds (.walk graph left (some payload)) world run.awake steps world' run')
    (hflows : world.flow = flows)
    (hfit : Fit flows bounds.settings (.walk graph left (some payload)) run.awake)
    (hbelow : ∀ {child below inner within world₁ ended}, run.nested = child :: below →
      Handles bounds (.level inner (some payload)) (world.look child.flow).2
        { child with nested := below } within world₁ ended →
      Fit flows bounds.settings (.level inner (some payload)) { child with nested := below } →
      Handed bounds payload (world.look child.flow).2 { child with nested := below } within world₁
        ended) :
    Handed bounds payload world run steps world' run' := by
  have hgraph : world.flow run.flow = .ok graph := hflows ▸ hfit.1.flow
  cases h with
  | halt isOver course =>
      obtain ⟨hawake, -, hpos, suspension, hhangs⟩ := hfit
      obtain ⟨behaviour, graph', node, hgraph', hnode, -⟩ := hhangs.stands
      obtain rfl := Except.ok.inj (hawake.flow.symm.trans hgraph')
      rcases isOver with rfl | hnone
      · exact absurd hpos (Nat.lt_irrefl 0)
      · exact absurd (hnone.symm.trans hnode) nofun
  | @plain _ left _ _ _ node outcome stepped world₁ others _ _ hnode hplain hstep rest =>
      have hnested := nested_of_node hfit hnode hplain
      have hkeeps := Behaviour.step_keepsVisit hplain (alone bounds node) world run.awake
        (some payload)
      rw [hstep] at hkeeps
      have hvisits : stepped.history.nodes = run.history.nodes := hkeeps.visit.nodes
      refine .take hgraph hnested hnode hplain hstep hvisits rest (fun hstays => ?_)
        (rest.blank rfl)
      exact (rest.course.nodes_of_leave hstays).trans hvisits
  | orphan hnode hflow hnested rest => exact absurd hnested (not_orphan hfit hnode hflow)
  | lost hnode hflow hnested hlook rest =>
      exact absurd hlook (not_lost hflows hfit hnode hflow hnested)
  | @pass _ left _ _ _ node flow child below inner world₁ ended within others _ _ hnode hflow
      hnested hlook drive rest =>
      have hbeneath := drive.course.passed_beneath hflows hfit hnode hflow hnested hlook
      obtain rfl : child.flow = flow := drive.course.sameRun.flow.symm.trans hbeneath.subflow
      have hvisits : (Subflow.settle child.flow (alone bounds node)
          (run.awake.withChild ended)).2.history.nodes = run.history.nodes :=
        (settle_visit _ _ (run.awake.withChild ended)).nodes
      refine .pass hgraph hnested hnode hflow (hbelow hnested drive hbeneath.fits.fit) rfl hvisits
        rest
        (fun hstays => ?_) (rest.blank rfl)
      exact (rest.course.nodes_of_leave hstays).trans hvisits

/-- A payload for a run that waits is handed down its levels. -/
theorem Handles.handed {graph : Graph} {payload : Payload}
    (h : Handles bounds (.level graph (some payload)) world run steps world' run')
    (hflows : world.flow = flows)
    (hfit : Fit flows bounds.settings (.level graph (some payload)) run) :
    Handed bounds payload world run steps world' run' := by
  generalize hlevels : run.nested = levels
  -- Each level is resumed by the one above it, so the levels below say how far there is to go.
  induction levels generalizing world run steps world' run' graph with
  | nil =>
      cases h with
      | halt isOver course => exact False.elim isOver
      | wake rest =>
          refine rest.handed_walk hflows (fit_wake hfit) fun hnested => ?_
          exact absurd (hlevels.symm.trans hnested) nofun
  | cons child below ih =>
      cases h with
      | halt isOver course => exact False.elim isOver
      | wake rest =>
          refine rest.handed_walk hflows (fit_wake hfit)
            fun {child' below' inner within world₁ ended} hnested drive hfit' => ?_
          obtain ⟨rfl, rfl⟩ := List.cons.inj (hlevels.symm.trans hnested)
          exact ih drive ((world.later_look child.flow).flow.trans hflows) hfit' rfl

/-- The first steps are those of the levels of the run, each where it stands, with the payload; all
others are without it. -/
theorem Handed.received {payload : Payload}
    (h : Handed bounds payload world run steps world' run') :
    ∃ received others, steps = received ++ others ∧
      received.map (fun step => (step.run, step.node, step.payload)) =
        run.levels.map (fun level => (level.id, level.node, some payload)) ∧
      ∀ step ∈ others, step.payload = none := by
  induction h with
  | @take graph left world run node outcome stepped world₁ others world' run' flow innermost stands
      plain step visits rest stays blank =>
      refine ⟨[_], others, rfl, ?_, blank⟩
      rw [Run.levels, innermost]
      rfl
  | @pass graph left world run node child below world₁ ended outcome stepped within others world'
      run' flow nested stands subflow handed settle visits rest stays blank ih =>
      obtain ⟨received, later, rfl, hreceived, hlater⟩ := ih
      refine ⟨_ :: received, later ++ others, by rw [List.cons_append, List.append_assoc], ?_, ?_⟩
      · have hlevels : run.levels = run.toLevel :: child :: below := by rw [Run.levels, nested]
        rw [List.map_cons, hreceived, hlevels]
        rfl
      · intro step hstep
        rcases List.mem_append.mp hstep with hstep | hstep
        · exact hlater step hstep
        · exact blank step hstep

end Dialogue.Drive
