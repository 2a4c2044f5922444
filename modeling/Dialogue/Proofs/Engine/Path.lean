import Dialogue.Proofs.Drive.Path
import Dialogue.Proofs.Engine.Flows
import Dialogue.Proofs.Engine.Numbering

/-!
# Stored runs keep to their graphs

From its start on, through whatever is ordered while a flow stays the same, every
level of a run that is in this flow has toured its graph: the outermost one from
where the request said, any other one from the start of the flow.
-/

namespace Dialogue.World

variable {flow : FlowId} {graph : Graph} {id : Identifier} {start : NodeId}
  {world world' : World} {order : Order}

/-- A stored run of a flow is on track. -/
def Tracks (flow : FlowId) (graph : Graph) (id : Identifier) (runs : FlowId) (start : NodeId)
    (world : World) : Prop :=
  ∃ run, world.store.find? id = some run ∧ run.flow = runs ∧ run.OnTrack flow graph start

variable {runs : FlowId}

/-- The words of a termination are not those of a graph that has lost a node. -/
theorem words_not_astray {kind : FailureKind} {message : String}
    (h : kind = .cancelled ∧ message = "run cancelled" ∨
      kind = .timeout ∧ message = Engine.expiredMessage) : ¬Astray message := by
  rcases h with ⟨-, rfl⟩ | ⟨-, rfl⟩
  · exact not_astray (by decide)
  · exact not_astray (by decide)

/-- A run that is resumed on track stays there. -/
theorem onTrack_resumed {first second : World} {run run' : Run} {event : Wakeup}
    {inner : Graph} (hgraph : world.flow flow = .ok graph) (hsound : graph.Sound)
    (hrun : run.OnTrack flow graph start) (hinner : world.flow run.flow = .ok inner)
    (hstill : world.Still first)
    (hdrive : Drive.Course world.bounds (.level inner (some event.payload)) first run second
      run') :
    run'.OnTrack flow graph start ∧ first.Guides flow graph run.id start second := by
  refine hdrive.onTrack (hstill.flow ▸ hgraph) hsound ⟨fun hflow => ?_, hrun⟩ (.inr ⟨rfl, rfl⟩)
  rw [hflow, hgraph] at hinner
  exact (Except.ok.inj hinner).symm

theorem Tracks.endings (h : world.Tracks flow graph id runs start)
    (hendings : world.Endings world') : world'.Tracks flow graph id runs start := by
  induction hendings with
  | refl => exact h
  | @tail one two _ hending ih =>
      obtain ⟨run, hrun, hruns, htrack⟩ := ih
      obtain ⟨stored, unended, words⟩ := hending
      rw [Tracks, store_terminate]
      split
      · next hid =>
        rw [hid, hrun] at stored
        obtain rfl := Option.some.inj stored
        exact ⟨_, rfl, (Run.unwind_ended _ _ _ _ _).1.flow.trans hruns,
          htrack.terminate _ _ (words_not_astray words)⟩
      · exact ⟨run, hrun, hruns, htrack⟩

/-- Every deed keeps a stored run on track. -/
theorem Tracks.deed (h : world.Tracks flow graph id runs start) (hnumbered : world.Numbered)
    (hgraph : world.flow flow = .ok graph) (hsound : graph.Sound)
    (hdeed : world.Deed order world') : world'.Tracks flow graph id runs start := by
  cases hdeed with
  | idle still =>
      rw [Tracks, still.store]
      exact h
  | @begin request other node first second begun loaded place still drive =>
      obtain ⟨run, hrun, hruns, htrack⟩ := h
      have hnew : begun.id = first.newRun.1 := drive.sameRun.id
      have hother : begun.id ≠ id := hnew ▸ hnumbered.newRun_ne still (by simp [hrun])
      refine ⟨run, ?_, hruns, htrack⟩
      rw [store_begun still drive, if_neg hother]
      exact hrun
  | @resume _ resumed event suspension other first second run' wakes stored accepted loaded still
      drive =>
      obtain ⟨run, hrun, hruns, htrack⟩ := h
      rw [Tracks, store_resumed still drive]
      split
      · next hid =>
        rw [← hid, stored] at hrun
        obtain rfl := Option.some.inj hrun
        exact ⟨run', rfl, drive.sameRun.flow.trans hruns,
          (onTrack_resumed hgraph hsound htrack loaded still drive).1⟩
      · exact ⟨run, hrun, hruns, htrack⟩
  | endings endings => exact h.endings endings

theorem Tracks.carryOut (h : world.Tracks flow graph id runs start) (hworld : world.Ready)
    (hnumbered : world.Numbered) (hgraph : world.flow flow = .ok graph) (hsound : graph.Sound)
    (order : Order) : (world.carryOut order).Tracks flow graph id runs start := by
  cases hflows : order.keepsFlows with
  | true => exact h.deed hnumbered hgraph hsound (carryOut_deed hworld hflows)
  | false =>
      rw [Tracks, (carryOut_flows hworld hflows).1]
      exact h

/-- A stored run stays on track as long as the flow is the same before every order. -/
theorem Tracks.after (h : world.Tracks flow graph id runs start) (hworld : world.Ready)
    (hnumbered : world.Numbered) (hsound : graph.Sound) {orders : List (Instant × Order)}
    (hkept : ∀ earlier, earlier <+: orders → (world.after earlier).flow flow = .ok graph) :
    (world.after orders).Tracks flow graph id runs start := by
  induction orders generalizing world with
  | nil => exact h
  | cons order rest ih =>
      have hgraph : (world.atTime order.1).flow flow = .ok graph := hkept [] List.nil_prefix
      have htracks : (world.atTime order.1).Tracks flow graph id runs start := h
      have hready := hworld.atTime order.1
      have hnumbered' : (world.atTime order.1).Numbered := hnumbered
      refine ih (htracks.carryOut hready hnumbered hgraph hsound order.2)
        (hready.carryOut order.2) (hnumbered'.carryOut hready order.2) fun earlier hearlier => ?_
      exact hkept (order :: earlier) (List.cons_prefix_cons.mpr ⟨rfl, hearlier⟩)

theorem guides_endings {root : Identifier} {first : NodeId} (hendings : world.Endings world') :
    world.Guides flow graph root first world' := by
  induction hendings with
  | refl => exact .of_events rfl
  | tail _ hending ih =>
      obtain ⟨stored, unended, words⟩ := hending
      refine ih.trans ⟨[_], rfl, .other .nil (by simp [Event.inLevel]) ?_⟩
      intro _ kind message hwhat
      obtain ⟨-, rfl⟩ := Occurrence.runFailed.inj hwhat
      exact words_not_astray words

/-- An order that may wake a run on track tells only of runs that keep to the graph. -/
theorem Tracks.guides (h : world.Tracks flow graph id runs start)
    (hgraph : world.flow flow = .ok graph) (hsound : graph.Sound) {event : Wakeup}
    (hwakes : order.wakeup? = some (id, event)) (hdeed : world.Deed order world') :
    world.Guides flow graph id start world' := by
  cases hdeed with
  | idle still => exact .of_events still.toSilent.events
  | begin loaded place still drive => simp [Order.wakeup?] at hwakes
  | @resume _ resumed event' suspension other first second run' wakes stored accepted loaded
      still drive =>
      obtain ⟨run, hrun, -, htrack⟩ := h
      obtain ⟨rfl, rfl⟩ := Prod.mk.inj (Option.some.inj (wakes.symm.trans hwakes))
      obtain rfl := Option.some.inj (stored.symm.trans hrun)
      have hdriven := (onTrack_resumed hgraph hsound htrack loaded still drive).2
      have hstill : world.Guides flow graph resumed.id start first :=
        .of_events still.toSilent.events
      exact hstill.trans (hdriven.trans (.of_events (silent_persist second run').events))
  | endings endings => exact guides_endings endings

/-- A run that begins is on track from where its request says. -/
theorem tracks_started (hworld : world.Ready) {request : RunRequest} {begun : Run}
    (hbegun : (world.proceed 0 (Engine.start world.bounds request)).1 = .done (.ok begun))
    (hgraph : world.flow flow = .ok graph) (hsound : graph.Sound) :
    (world.carryOut (.start request)).Tracks flow graph begun.id request.flow
        (request.start.getD graph.start) ∧
      world.Guides flow graph begun.id (request.start.getD graph.start)
        (world.carryOut (.start request)) := by
  rw [carryOut]
  rw [Engine.smooth_start _ _ _ _ hworld.toUndisturbed] at hbegun ⊢
  rw [Interaction.done.injEq] at hbegun
  obtain ⟨e, world', hfails, -⟩ |
    ⟨inner, node, first, second, run, hinner, hplace, hstill, drive, hrun⟩ :=
    obey_start_cases hworld request
  · rw [hfails] at hbegun
    cases hbegun
  · rw [hrun] at hbegun ⊢
    obtain rfl := Except.ok.inj hbegun
    have hbegins : (Drive.Phase.level inner none).OnTrack flow graph
        (request.start.getD graph.start)
        (Run.fresh first.newRun.1 request node world.bounds.now) := by
      refine ⟨fun hflow => ?_, rfl, rfl, rfl⟩
      obtain rfl : request.flow = flow := hflow
      obtain rfl := Except.ok.inj (hinner.symm.trans hgraph)
      change inner = inner ∧ inner.contains node = true ∧ node = request.start.getD inner.start
      unfold Engine.startNode at hplace
      cases hplaced : request.start with
      | none =>
          rw [hplaced] at hplace
          obtain rfl := Except.ok.inj hplace
          exact ⟨rfl, hsound.start, rfl⟩
      | some place =>
          rw [hplaced] at hplace
          dsimp only at hplace
          split at hplace
          · next hplace' =>
            obtain rfl := Except.ok.inj hplace
            exact ⟨rfl, hplace', rfl⟩
          · cases hplace
    have hgraph' : first.newRun.2.flow flow = .ok graph :=
      (congrFun hstill.flow flow).trans hgraph
    have hid : run.id = first.newRun.1 := drive.sameRun.id
    obtain ⟨htrack, hguides⟩ := drive.onTrack hgraph' hsound hbegins (.inr ⟨hid.symm, rfl⟩)
    have hbefore : world.Guides flow graph run.id (request.start.getD graph.start)
        first.newRun.2 := .of_events hstill.events
    refine ⟨⟨run, ?_, drive.sameRun.flow, htrack⟩,
      hbefore.trans (hguides.trans (.of_events (silent_persist second run).events))⟩
    dsimp only
    rw [store_persist, if_pos rfl]

/-- Whatever was ordered before a run begins, and whatever is ordered after it as long as a flow
stays the same, all levels of the run that are in this flow tour its graph: the outermost one from
the node that the request names, or else from the start like all nested ones.  Neither their
failures nor what the observers are told, from the beginning of the run on and whenever it is woken,
says anything else. -/
theorem runs_keep_to_their_graphs (settings : Settings) (begins : Instant)
    (definitions : List Flow) (send : Ledger → String → Message → Except DispatchError String)
    (assign : Ledger → String → String → Except AssignmentError Unit) (supply : Supply)
    (before orders : List (Instant × Order)) (time : Instant) (request : RunRequest) (begun : Run)
    (flow : FlowId) (graph : Graph) :
    let origin := (opened settings begins definitions send assign supply).after before
    let world := origin.atTime time
    let first := request.start.getD graph.start
    let last := origin.after ((time, .start request) :: orders)
    (world.proceed 0 (Engine.start world.bounds request)).1 = .done (.ok begun) →
    (∀ earlier, earlier <+: (time, .start request) :: orders →
      (origin.after earlier).flow flow = .ok graph) →
    last.Tracks flow graph begun.id request.flow first ∧
      world.Guides flow graph begun.id first (world.carryOut (.start request)) ∧
      ∀ now order event, order.wakeup? = some (begun.id, event) →
        (last.atTime now).Guides flow graph begun.id first
          ((last.atTime now).carryOut order) := by
  intro origin world first last hbegun hkept
  have hopened := ready_opened settings begins definitions send assign supply
  have horigin : origin.Ready := ready_after hopened before
  have hworld : world.Ready := horigin.atTime time
  have hloads : origin.Loads := (loads_opened settings begins definitions send assign supply).after
    hopened before
  have hgraph : origin.flow flow = .ok graph := hkept [] List.nil_prefix
  have hsound : graph.Sound := hloads.sound hgraph
  have hnumbered : world.Numbered :=
    (numbered_opened settings begins definitions send assign supply).after hopened before
  obtain ⟨hstarted, hguides⟩ := tracks_started hworld hbegun hgraph hsound
  have hlast : last.Tracks flow graph begun.id request.flow first := by
    refine hstarted.after (hworld.carryOut _) (hnumbered.carryOut hworld _) hsound
      fun earlier hearlier => ?_
    exact hkept ((time, .start request) :: earlier) (List.cons_prefix_cons.mpr ⟨rfl, hearlier⟩)
  refine ⟨hlast, hguides, fun now order event hwakes => ?_⟩
  have hready : (last.atTime now).Ready := (ready_after horigin _).atTime now
  have hkeeps : order.keepsFlows = true := by
    cases order with
    | invalidate _ => simp [Order.wakeup?] at hwakes
    | define _ => simp [Order.wakeup?] at hwakes
    | _ => rfl
  have htracks : (last.atTime now).Tracks flow graph begun.id request.flow first := hlast
  have hsame : (last.atTime now).flow flow = .ok graph := hkept _ (List.prefix_refl _)
  exact htracks.guides hsame hsound hwakes (carryOut_deed hready hkeeps)

/-- A run of the sample that has taken a reply in its nested flow is on track. -/
theorem runs_keep_to_their_graphs_sample :
    let request : RunRequest := { flow := "outer", contactId := "ann" }
    let orders : List (Instant × Order) :=
      [(⟨0, 0⟩, .start request), (⟨1, 0⟩, .resume ⟨sample.supply.firstRun⟩ (.reply "yes"))]
    ∃ graph begun run, sample.flow "outer" = .ok graph ∧
      (sample.proceed 0 (Engine.start sample.bounds request)).1 = .done (.ok begun) ∧
      (sample.after orders).store.find? begun.id = some run ∧
      graph.Tour graph.start run.history.nodes := by
  intro request orders
  have hloads : (sample.flow "outer").toOption.isSome = true := by decide +kernel
  have hbegins : (Operating.run?
      (sample.proceed 0 (Engine.start sample.bounds request)).1).isSome = true := by
    decide +kernel
  obtain ⟨graph, hgraph⟩ : ∃ graph, sample.flow "outer" = .ok graph := by
    cases hloaded : sample.flow "outer" with
    | error e => simp [hloaded, Except.toOption] at hloads
    | ok graph => exact ⟨graph, rfl⟩
  obtain ⟨begun, hbegun⟩ := Option.isSome_iff_exists.mp hbegins
  have hdone := Operating.eq_of_run? hbegun
  have hkept (earlier : List (Instant × Order)) (hearlier : earlier <+: orders) :
      (sample.after earlier).flow "outer" = .ok graph := by
    have hready : sample.Ready := ready_opened {} ⟨0, 0⟩ _ _ _ {}
    have hsame : (sample.after earlier).flow = sample.flow := by
      refine flow_after hready rfl fun order horder => ?_
      have hmem := hearlier.subset horder
      simp only [orders, List.mem_cons, List.not_mem_nil, or_false] at hmem
      rcases hmem with rfl | rfl <;> rfl
    rw [hsame]
    exact hgraph
  obtain ⟨⟨run, hrun, hflow, htrack⟩, -⟩ := runs_keep_to_their_graphs {} ⟨0, 0⟩ _ _ _ {} []
    [(⟨1, 0⟩, .resume ⟨sample.supply.firstRun⟩ (.reply "yes"))] ⟨0, 0⟩ request begun "outer" graph
    hdone hkept
  exact ⟨graph, begun, run, hgraph, hdone, hrun, htrack.1.tour hflow⟩

end Dialogue.World
