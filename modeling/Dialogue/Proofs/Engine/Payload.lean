import Dialogue.Proofs.Drive.Payload
import Dialogue.Proofs.Engine.Steady

/-!
# What becomes of an event

An event for a paused run, if it is accepted in time, is handed down to the node
where the innermost run waits, and reaches no other.
-/

namespace Dialogue.World

variable {world : World} {order : Order} {leg : Drive.Leg} {run : Run} {event : Wakeup}

/-- An order that wakes a run drives it, with the payload of its event. -/
theorem Drives.of_wakeup (h : world.Drives order leg)
    (hwakes : order.wakeup? = some (run.id, event))
    (hstored : world.store.find? run.id = some run) :
    leg.run = run ∧ ∃ graph, leg.phase = .level graph (some event.payload) := by
  cases h with
  | begin look place course done => cases hwakes
  | @resume _ run' event' suspension graph first second driven wakes stored accepted timely look
      course done =>
      obtain ⟨hid, rfl⟩ := Prod.mk.inj (Option.some.inj (wakes.symm.trans hwakes))
      rw [hid, hstored] at stored
      exact ⟨(Option.some.inj stored).symm, graph, rfl⟩

/-- Whatever was ordered in a world that was opened with nothing but flows, and as long as no
definition changes once its flow has been loaded, an event that is accepted in time for a paused run
makes it be driven.  In that drive the payload is handed down to the node where the innermost level
waits: as many steps as the run has levels are taken with it, one where each level stands, and every
other step is taken without it. -/
theorem payload_reaches_one_handler (settings : Settings) (start : Instant)
    (definitions : List Flow) (send : Ledger → String → Message → Except DispatchError String)
    (assign : Ledger → String → String → Except AssignmentError Unit) (supply : Supply)
    (orders : List (Instant × Order))
    (hsteady : (opened settings start definitions send assign supply).Steady orders)
    (now : Instant) (order : Order) (run : Run) (event : Wakeup) (suspension : Suspension)
    (hwakes : order.wakeup? = some (run.id, event))
    (hstored : ((opened settings start definitions send assign supply).after orders).store.find?
      run.id = some run)
    (haccepted : Engine.checkResumable run event = .ok suspension)
    (htimely : suspension.isOverdue now = false) :
    let world := ((opened settings start definitions send assign supply).after orders).atTime now
    (∃ leg, world.Drives order leg) ∧ ∀ leg, world.Drives order leg → leg.run = run ∧
      (∃ steps, Drive.Handles world.bounds leg.phase leg.world leg.run steps leg.world' leg.run') ∧
      ∀ steps,
        Drive.Handles world.bounds leg.phase leg.world leg.run steps leg.world' leg.run' →
        Drive.Handed world.bounds event.payload leg.world run steps leg.world' leg.run' ∧
        ∃ received others, steps = received ++ others ∧
          received.map (fun step => (step.run, step.node, step.payload)) =
            run.levels.map (fun level => (level.id, level.node, some event.payload)) ∧
          ∀ step ∈ others, step.payload = none := by
  intro world
  have hready : world.Ready := (ready_after (ready_opened ..) orders).atTime now
  have hshaped : world.Shaped world.flow settings :=
    (hsteady.kept settings start definitions send assign supply).shaped.atTime now
  constructor
  · obtain ⟨graph, hgraph⟩ :=
      hshaped.flow_of_paused hstored (paused_of_checkResumable haccepted).1
    obtain ⟨leg, hdrives, -⟩ := drives_resume hready hwakes hstored haccepted htimely hgraph
    exact ⟨leg, hdrives⟩
  · intro leg hdrives
    obtain ⟨rfl, graph, hphase⟩ := hdrives.of_wakeup hwakes hstored
    refine ⟨rfl, hdrives.goes.handles, fun steps hsteps => ?_⟩
    obtain ⟨hflows, hfit⟩ := hdrives.fits hshaped
    rw [hphase] at hsteps hfit
    have hhanded := hsteps.handed hflows hfit
    exact ⟨hhanded, hhanded.received⟩

/-- A reply goes down two levels: two nodes are stepped with it, and no more. -/
theorem payload_reaches_one_handler_sample :
    let world := (sample.after sampleOrders).atTime ⟨1, 0⟩
    ∃ leg steps received others,
      world.Drives (.resume ⟨sample.supply.firstRun⟩ (.reply "yes")) leg ∧
      leg.run.nested.length = 1 ∧
      Drive.Handed world.bounds (.reply "yes") leg.world leg.run steps leg.world' leg.run' ∧
      steps = received ++ others ∧ received.length = 2 ∧
      ∀ step ∈ others, step.payload = none := by
  intro world
  obtain ⟨run, suspension, hid, hrun, hnested, haccepted, htimely⟩ := sample_waits
  obtain ⟨⟨leg, hdrives⟩, hall⟩ := payload_reaches_one_handler {} ⟨0, 0⟩ _ _ _ {} sampleOrders
    steady_sample ⟨1, 0⟩ (.resume run.id (.reply "yes")) run (.reply "yes") suspension rfl hrun
    haccepted htimely
  obtain ⟨hleg, ⟨steps, hsteps⟩, hgoes⟩ := hall leg hdrives
  obtain ⟨hhanded, received, others, rfl, hreceived, hothers⟩ := hgoes steps hsteps
  have hlength := congrArg List.length hreceived
  rw [List.length_map, List.length_map, Run.levels, List.length_cons, hnested] at hlength
  rw [← hleg] at hhanded
  exact ⟨leg, received ++ others, received, others, hid ▸ hdrives, hleg ▸ hnested, hhanded, rfl,
    hlength, hothers⟩

end Dialogue.World
