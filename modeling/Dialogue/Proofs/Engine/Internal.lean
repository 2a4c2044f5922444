import Dialogue.Proofs.Drive.Internal
import Dialogue.Proofs.Engine.Numbering
import Dialogue.Proofs.Engine.Steady

/-!
# Runs never fail internally

Whatever is ordered, no run fails for a reason that only a mistake in the engine
could be.  The event that resumes a run fits its suspension, which is that of the
innermost run; so the payload fits the node where that one waits.
-/

namespace Dialogue

/-- A pause at a menu is a wait for a reply. -/
theorem Behaviour.Pauses.menu {menu : Menu} {here : NodeId} {suspension : Suspension}
    (h : (Behaviour.menu menu).Pauses here suspension) : suspension.isTimer = false := by
  unfold Suspension.isTimer
  cases hreason : suspension.reason with
  | reply node => rfl
  | timer time => simp [Pauses, hreason] at h

theorem Run.failsExternally_terminate {kind : FailureKind} (h : kind.IsExternal) (run : Run)
    (message : String) (time : Instant) : (run.terminate kind message time).FailsExternally := by
  intro failure hfailure
  change (unwind kind message time run.toLevel run.nested).failure = some failure at hfailure
  cases hnested : run.nested with
  | nil =>
      rw [hnested] at hfailure
      obtain rfl := Option.some.inj hfailure
      exact h
  | cons child below =>
      rw [hnested] at hfailure
      obtain rfl := Option.some.inj hfailure
      exact h

namespace World

variable {settings : Settings} {world world' : World} {order : Order} {leg : Drive.Leg}

/-- The drive of an order brings a payload that its run waits for. -/
theorem Drives.guarded (h : world.Drives order leg) (hshaped : world.Shaped world.flow settings) :
    Drive.Guarded world.flow leg.phase leg.run := by
  cases h with
  | begin look place course done => trivial
  | @resume _ run event suspension graph first second run' wakes stored accepted timely look course
      done =>
      intro menu hstands
      obtain ⟨hpaused, hpending, -, haccepts⟩ := checkResumable_eq_ok.mp accepted
      obtain ⟨-, -, hsettled⟩ := hshaped.runs run (Store.mem_of_find? stored)
      cases hsettled with
      | waiting steps waits hangs =>
          obtain rfl := Option.some.inj (hpending.symm.trans waits.pending)
          obtain ⟨behaviour, hinnermost, hpauses⟩ := hangs.innermost
          obtain rfl := hstands.unique hinnermost
          rw [Suspension.accepts, hpauses.menu, beq_iff_eq] at haccepts
          exact haccepts.symm
      | completed status => simp [status] at hpaused
      | failed status => simp [status] at hpaused

/-- Nobody was told of an internal failure, and no stored run has one. -/
structure External (world : World) : Prop where
  events : ∀ event ∈ world.events, event.IsExternal
  runs : ∀ run ∈ world.store.runs, run.FailsExternally

theorem External.later (h : world.External) (hdiscreet : world.Discreet world')
    (hstore : world'.store = world.store) : world'.External where
  events := hdiscreet.mem h.events
  runs := by
    rw [hstore]
    exact h.runs

theorem External.keep (h : world.External) {run : Run} (hrun : run.FailsExternally) :
    (world.keep run).External where
  events := h.events
  runs := by
    intro other hother
    rcases Store.mem_put hother with rfl | hother
    · exact hrun
    · exact h.runs other hother

theorem External.persist (h : world.External) {run : Run} (hrun : run.FailsExternally) :
    (world.persist run).External :=
  (h.keep hrun).later (.of_events (silent_persist world run).events) (later_persist run).store

theorem External.endings (h : world.External) (hendings : world.Endings world') :
    world'.External := by
  induction hendings with
  | refl => exact h
  | @tail first second _ ending ih =>
      obtain @⟨run, kind, message, stored, unended, words⟩ := ending
      have hkind : kind.IsExternal := by
        rcases words with ⟨rfl, -⟩ | ⟨rfl, -⟩
        · decide
        · decide
      have halarms : (first.unalarmed run.id).External := ih.later (.of_events rfl) rfl
      have htold : ((first.unalarmed run.id).told first.bounds
          (run.terminate kind message first.bounds.now) run.node
          (.runFailed kind message)).External :=
        halarms.later (discreet_failed hkind message) rfl
      exact htold.keep (run.failsExternally_terminate hkind message _)

/-- What every order keeps that leaves the flows alone. -/
theorem External.carryOut (h : world.External) (hworld : world.Ready) (hloads : world.Loads)
    (hshaped : world.Shaped world.flow settings) (hflows : order.keepsFlows = true) :
    (world.carryOut order).External := by
  have hstandard (id : FlowId) (graph : Graph) (hgraph : world.flow id = .ok graph) :
      graph.Standard := (hloads.sound hgraph).standard
  rcases carryOut_drives hworld hflows with ⟨leg, hdrives⟩ | hstill | hendings
  · obtain ⟨-, hstore, hevents⟩ := hdrives.outset
    obtain ⟨hflows, hfit⟩ := hdrives.fits hshaped
    obtain ⟨hdiscreet, hrun⟩ :=
      hdrives.goes.external hflows hstandard hfit (hdrives.guarded hshaped)
    have hdriven : leg.world'.External := (h.later (.of_events hevents) hstore).later hdiscreet
      hdrives.goes.later.store
    rw [hdrives.done]
    exact hdriven.persist hrun
  · exact h.later (.of_events hstill.events) hstill.store
  · exact h.endings hendings

/-- Whatever was ordered in a world that was opened with nothing but flows, and as long as no
definition changes once its flow has been loaded, no run has failed internally on any level; and
however the next order drives a run, nothing happens in any part of the drive that the engine is on
its guard against. -/
theorem no_run_fails_internally (settings : Settings) (start : Instant) (definitions : List Flow)
    (send : Ledger → String → Message → Except DispatchError String)
    (assign : Ledger → String → String → Except AssignmentError Unit) (supply : Supply)
    (orders : List (Instant × Order))
    (hsteady : (opened settings start definitions send assign supply).Steady orders) :
    let world := (opened settings start definitions send assign supply).after orders
    (∀ event ∈ world.events, ∀ message, event.what ≠ .runFailed .internal message) ∧
    (∀ run ∈ world.store.runs, ∀ level ∈ run.levels, ∀ failure, level.failure = some failure →
      failure.kind ≠ .internal) ∧
    ∀ now order leg, (world.atTime now).Drives order leg →
      ∀ outer part, Drive.Part (world.atTime now).bounds leg outer part → part.Undisturbed := by
  intro world
  have hkept := hsteady.kept settings start definitions send assign supply
  have hexternal : world.External := by
    refine Steady.induction settings start definitions send assign supply (fun _ => True) External
      ?_ ?_ ?_ hsteady fun _ _ => trivial
    · exact fun hstore hsilent h => h.later (.of_events hsilent.events) hstore
    · exact fun hworld hloads hshaped _ hflows h => h.carryOut hworld hloads hshaped hflows
    · exact ⟨by simp [opened], by simp [opened]⟩
  refine ⟨?_, ?_, ?_⟩
  · exact fun event hevent message hwhat => hexternal.events event hevent _ message hwhat rfl
  · intro run hrun level hlevel failure hfailure
    obtain ⟨-, -, hsettled⟩ := hkept.shaped.runs run hrun
    rcases List.mem_cons.mp hlevel with rfl | hlevel
    · exact hexternal.runs run hrun failure hfailure
    · cases hsettled with
      | waiting steps waits hangs =>
          rw [(hangs.waits level hlevel).unfailed] at hfailure
          cases hfailure
      | completed status pending unfailed nested => simp [nested] at hlevel
      | failed status pending failed nested => simp [nested] at hlevel
  · intro now order leg hdrives outer part hpart
    have hshaped := hkept.shaped.atTime now
    exact hpart.undisturbed
      (fun _ _ => standard_after settings start definitions send assign supply orders)
      (hdrives.fits hshaped) (hdrives.guarded hshaped)

/-- A run waits for a reply in a nested flow, an alarm has made no difference to it, and the reply
is taken although the flow has been forgotten. -/
theorem no_run_fails_internally_sample :
    let world := (sample.after sampleOrders).atTime ⟨1, 0⟩
    sample.Steady sampleOrders ∧
    (∀ event ∈ world.events, ∀ message, event.what ≠ .runFailed .internal message) ∧
      ∃ leg, world.Drives (.resume ⟨sample.supply.firstRun⟩ (.reply "yes")) leg ∧
        leg.run.nested.length = 1 ∧ leg.Undisturbed := by
  intro world
  have hready : sample.Ready := ready_opened ..
  obtain ⟨run, suspension, hid, hrun, hnested, haccepted, htimely⟩ := sample_waits
  have hshaped : world.Shaped world.flow {} :=
    (steady_sample.kept {} ⟨0, 0⟩ _ _ _ {}).shaped.atTime ⟨1, 0⟩
  obtain ⟨graph, hgraph⟩ :=
    hshaped.flow_of_paused hrun (paused_of_checkResumable haccepted).1
  obtain ⟨leg, hdrives, hleg⟩ :
      ∃ leg, world.Drives (.resume run.id (.reply "yes")) leg ∧ leg.run = run :=
    drives_resume ((ready_after hready _).atTime ⟨1, 0⟩) rfl hrun haccepted htimely hgraph
  obtain ⟨hevents, -, hundisturbed⟩ :=
    no_run_fails_internally {} ⟨0, 0⟩ _ _ _ {} sampleOrders steady_sample
  refine ⟨steady_sample, hevents, leg, hid ▸ hdrives, by rw [hleg, hnested], ?_⟩
  exact hundisturbed ⟨1, 0⟩ _ leg hdrives [] leg (.whole hdrives.goes)

end World

end Dialogue
