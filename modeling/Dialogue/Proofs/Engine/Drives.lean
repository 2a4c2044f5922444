import Dialogue.Proofs.Drive.Part
import Dialogue.Proofs.Engine.Order

/-!
# The drives of orders

An order that begins a run, or wakes one, comes to one drive, whose outcome is
persisted.  `Drives` says which drive that is, and between which worlds.  Every
other order that leaves the flows alone terminates runs, or does nothing to them.
-/

namespace Dialogue.World

variable {world : World} {order : Order}

/-- The drive that an order comes to. -/
inductive Drives (world : World) : Order → Drive.Leg → Prop
  /-- A run begins. -/
  | begin {request graph node first second run}
      (look : world.look request.flow = (.ok graph, first))
      (place : Engine.startNode graph request = .ok node)
      (course : Drive.Course world.bounds (.level graph none) first.newRun.2
        (Run.fresh first.newRun.1 request node world.bounds.now) second run)
      (done : world.carryOut (.start request) = second.persist run) :
      Drives world (.start request) ⟨.level graph none, first.newRun.2,
        Run.fresh first.newRun.1 request node world.bounds.now, second, run⟩
  /-- A paused run is resumed before its time is over. -/
  | resume {order run event suspension graph first second run'}
      (wakes : order.wakeup? = some (run.id, event))
      (stored : world.store.find? run.id = some run)
      (accepted : Engine.checkResumable run event = .ok suspension)
      (timely : suspension.isOverdue world.bounds.now = false)
      (look : world.look run.flow = (.ok graph, first))
      (course : Drive.Course world.bounds (.level graph (some event.payload))
        (first.unalarmed run.id) run second run')
      (done : world.carryOut order = second.persist run') :
      Drives world order ⟨.level graph (some event.payload), first.unalarmed run.id, run, second,
        run'⟩

/-- A drive of an order goes its course. -/
theorem Drives.goes {leg : Drive.Leg} (h : world.Drives order leg) : leg.Goes world.bounds := by
  cases h with
  | begin look place course done => exact course
  | resume wakes stored accepted timely look course done => exact course

/-- Nothing happens to runs between an order and its drive. -/
theorem still_of_look {flow : FlowId} {loaded : Except FlowError Graph} {first : World}
    (look : world.look flow = (loaded, first)) : world.Still first := by
  have hstill := world.still_look flow
  rw [look] at hstill
  exact hstill

theorem flow_of_look {flow : FlowId} {loaded : Except FlowError Graph} {first : World}
    (look : world.look flow = (loaded, first)) : world.flow flow = loaded :=
  congrArg Prod.fst look

/-- A drive begins in a world with the same flows and the same stored runs, before anybody is told
anything. -/
theorem Drives.outset {leg : Drive.Leg} (h : world.Drives order leg) :
    leg.world.flow = world.flow ∧ leg.world.store = world.store ∧
      leg.world.events = world.events := by
  cases h with
  | begin look place course done =>
      have hstill := still_of_look look
      exact ⟨hstill.flow, hstill.store, hstill.events⟩
  | resume wakes stored accepted timely look course done =>
      have hstill := still_of_look look
      exact ⟨hstill.flow, hstill.store, hstill.events⟩

/-- What a drive leaves is persisted, and this is all that its order does. -/
theorem Drives.done {leg : Drive.Leg} (h : world.Drives order leg) :
    world.carryOut order = leg.world'.persist leg.run' := by
  cases h with
  | begin look place course done => exact done
  | resume wakes stored accepted timely look course done => exact done

/-! ## Every order -/

/-- What an order does that may wake a run. -/
theorem carryOut_wakeup (hworld : world.Ready) {id : Identifier} {event : Wakeup}
    (hwakes : order.wakeup? = some (id, event)) :
    world.carryOut order = (world.obey (Engine.resume world.bounds id event)).2 := by
  have hworld' := hworld.toUndisturbed
  cases order with
  | resume run other =>
      obtain ⟨rfl, rfl⟩ := Prod.mk.inj (Option.some.inj hwakes)
      rw [carryOut, Engine.smooth_resume _ _ _ _ _ hworld']
  | fire firing =>
      obtain ⟨run, token, action⟩ := firing
      cases action with
      | resume =>
          obtain ⟨rfl, rfl⟩ := Prod.mk.inj (Option.some.inj hwakes)
          rw [carryOut, Engine.smooth_handleFiring _ _ _ _ hworld',
            Engine.obey_handleFiring hworld.store]
      | expire => simp [Order.wakeup?] at hwakes
  | _ => simp [Order.wakeup?] at hwakes

/-- A start in a flow that loads, at a node that is there, comes to a drive. -/
theorem drives_start (hworld : world.Ready) {request : RunRequest} {graph : Graph}
    {node : NodeId} (hflow : world.flow request.flow = .ok graph)
    (hplace : Engine.startNode graph request = .ok node) :
    ∃ leg, world.Drives (.start request) leg := by
  have hlook : world.look request.flow = (.ok graph, (world.look request.flow).2) :=
    Prod.ext hflow rfl
  have hstill := still_of_look hlook
  obtain ⟨second, run, course, hdriven⟩ := (world.look request.flow).2.newRun.2.course_driven graph
    (Run.fresh (world.look request.flow).2.newRun.1 request node world.bounds.now) none
  rw [(hstill.toLater.trans (later_newRun _)).bounds] at course
  refine ⟨_, .begin hlook hplace course ?_⟩
  rw [carryOut, Engine.smooth_start _ _ _ _ hworld.toUndisturbed, Engine.obey_start hworld.store,
    hlook]
  simp only [hplace]
  rw [hdriven]

/-- Whether a start comes to a drive can be computed. -/
theorem drives_of_loads (hworld : world.Ready) {request : RunRequest}
    (h : (world.flow request.flow).toOption.any
      (fun graph => (Engine.startNode graph request).toOption.isSome) = true) :
    ∃ leg, world.Drives (.start request) leg := by
  cases hflow : world.flow request.flow with
  | error e => simp [hflow, Except.toOption] at h
  | ok graph =>
      cases hnode : Engine.startNode graph request with
      | error e => simp [hflow, hnode, Except.toOption] at h
      | ok node => exact drives_start hworld hflow hnode

/-- An event in time for a paused run, of a flow that loads, comes to a drive of it. -/
theorem drives_resume (hworld : world.Ready) {run : Run} {event : Wakeup}
    {suspension : Suspension} {graph : Graph} (hwakes : order.wakeup? = some (run.id, event))
    (hstored : world.store.find? run.id = some run)
    (haccepted : Engine.checkResumable run event = .ok suspension)
    (htimely : suspension.isOverdue world.bounds.now = false)
    (hflow : world.flow run.flow = .ok graph) :
    ∃ leg, world.Drives order leg ∧ leg.run = run := by
  have hlook : world.look run.flow = (.ok graph, (world.look run.flow).2) := Prod.ext hflow rfl
  have hstill := (still_of_look hlook).trans (still_unalarmed run.id)
  obtain ⟨second, run', course, hdriven⟩ :=
    ((world.look run.flow).2.unalarmed run.id).course_driven graph run (some event.payload)
  rw [hstill.bounds] at course
  refine ⟨_, .resume hwakes hstored haccepted htimely hlook course ?_, rfl⟩
  rw [carryOut_wakeup hworld hwakes, Engine.obey_resume hworld.store, hstored]
  dsimp only
  rw [Engine.resumed_driven haccepted htimely hlook, hdriven]

/-- An order that leaves the flows alone comes to a drive, or to nothing, or to terminations. -/
theorem carryOut_drives (hworld : world.Ready) (hflows : order.keepsFlows = true) :
    (∃ leg, world.Drives order leg) ∨ world.Still (world.carryOut order) ∨
      world.Endings (world.carryOut order) := by
  have hdeed := carryOut_deed hworld hflows
  generalize hdone : world.carryOut order = after at hdeed ⊢
  cases hdeed with
  | idle still => exact .inr (.inl still)
  | begin flow place still drive => exact .inl (drives_start hworld flow place)
  | @resume _ run event suspension graph first second run' wakes stored accepted flow still
      drive =>
      by_cases htimely : suspension.isOverdue world.bounds.now = true
      · apply Or.inr ∘ Or.inr
        rw [← hdone, carryOut_wakeup hworld wakes, Engine.obey_resume hworld.store, stored]
        simp only [Engine.resumed, accepted, htimely, if_true]
        refine .single (.terminate stored ?_ (.inr ⟨rfl, rfl⟩))
        simp [Level.isTerminal, (paused_of_checkResumable accepted).1, Status.isTerminal]
      · obtain ⟨leg, hdrives, -⟩ :=
          drives_resume hworld wakes stored accepted (by simpa using htimely) flow
        exact .inl ⟨leg, hdrives⟩
  | endings endings => exact .inr (.inr endings)

end Dialogue.World
