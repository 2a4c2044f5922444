import Dialogue.Proofs.Drive.Shape
import Dialogue.Proofs.Engine.Order

/-!
# The shape of stored runs

As long as nobody changes the flows, every run in the store is as a drive leaves
it, whatever was ordered before: it has ended, or it is a chain of levels that
wait for one suspension.  `WellShaped` says what that means level by level.
-/

namespace Dialogue

/-! ## Levels that wait, one by one -/

/-- The shape of a stored run of flows that may be nested so deeply. -/
structure Run.WellShaped (flows : Flows) (maxDepth : Nat) (run : Run) : Prop where
  /-- A stored run is nested in no other. -/
  root : run.parent = none ∧ run.depth = 0
  /-- Nothing is going on in it. -/
  stopped : run.status ≠ .running
  paused : run.status = .paused ↔ run.suspension.isSome
  failed : run.status = .failed ↔ run.failure.isSome
  ended : run.isTerminal = true → run.nested = []
  /-- All levels of a paused run wait for one suspension. -/
  waiting : run.status = .paused → ∃ suspension, ∀ level ∈ run.levels,
    level.status = .paused ∧ level.suspension = some suspension
  /-- They are numbered from the outermost one. -/
  depth : run.status = .paused → ∀ i level, run.levels[i]? = some level →
    level.depth = i ∧ i ≤ maxDepth
  /-- Every level but the innermost has begun the next one for its contact, and has given its
  variables away. -/
  linked : run.status = .paused → ∀ i outer inner, run.levels[i]? = some outer →
    run.levels[i + 1]? = some inner → inner.parent = some outer.id ∧
      inner.contactId = outer.contactId ∧ inner.contact = outer.contact ∧ outer.vars = []
  /-- Every level is at the node that it entered last. -/
  entered : run.status = .paused → ∀ level ∈ run.levels,
    level.history.nodes.getLast? = some level.node
  /-- A reply is awaited at the node of the innermost level, which is a menu. -/
  awaited : ∀ suspension node, run.suspension = some suspension →
    suspension.reason = .reply node → run.innermost.node = node ∧
      ∃ menu, run.innermost.Stands flows (.menu menu)
  /-- A timer has no expiry. -/
  timed : ∀ suspension time, run.suspension = some suspension →
    suspension.reason = .timer time → suspension.expiresAt = none

namespace Level.Hangs

variable {flows : Flows} {maxDepth : Nat} {suspension : Suspension} {level : Level}
  {below : List Level}

theorem waits (h : level.Hangs flows maxDepth suspension below) :
    ∀ inner ∈ below, inner.Waits suspension := by
  induction h with
  | stop stands pauses => simp
  | link holds waits rest ih =>
      intro inner hinner
      rcases List.mem_cons.mp hinner with rfl | hinner
      · exact waits
      · exact ih inner hinner

theorem depth (h : level.Hangs flows maxDepth suspension below)
    (hwithin : level.depth ≤ maxDepth) (i : Nat) {inner : Level}
    (hinner : (level :: below)[i]? = some inner) :
    inner.depth = level.depth + i ∧ inner.depth ≤ maxDepth := by
  induction h generalizing i with
  | stop stands pauses =>
      cases i with
      | zero =>
          obtain rfl := Option.some.inj hinner
          exact ⟨rfl, hwithin⟩
      | succ i => simp at hinner
  | link holds waits rest ih =>
      cases i with
      | zero =>
          obtain rfl := Option.some.inj hinner
          exact ⟨rfl, hwithin⟩
      | succ i =>
          obtain ⟨hdepth, hlimit⟩ := ih holds.within i hinner
          rw [holds.depth] at hdepth
          exact ⟨by omega, hlimit⟩

theorem holds (h : level.Hangs flows maxDepth suspension below) (i : Nat)
    {outer inner : Level} (houter : (level :: below)[i]? = some outer)
    (hinner : (level :: below)[i + 1]? = some inner) :
    outer.Holds flows maxDepth inner := by
  induction h generalizing i with
  | stop stands pauses => simp at hinner
  | link holds waits rest ih =>
      cases i with
      | zero =>
          obtain rfl := Option.some.inj houter
          obtain rfl := Option.some.inj hinner
          exact holds
      | succ i => exact ih i houter hinner

/-- The innermost level is the one that pauses. -/
theorem innermost (h : level.Hangs flows maxDepth suspension below) :
    ∃ behaviour, (below.getLast?.getD level).Stands flows behaviour ∧
      behaviour.Pauses (below.getLast?.getD level).node suspension := by
  induction h with
  | stop stands pauses => exact ⟨_, stands, pauses⟩
  | @link outer inner below holds waits rest ih =>
      rw [List.getLast?_cons]
      exact ih

end Level.Hangs

theorem Behaviour.Pauses.reply {behaviour : Behaviour} {here node : NodeId}
    {suspension : Suspension} (h : behaviour.Pauses here suspension)
    (hreason : suspension.reason = .reply node) :
    here = node ∧ ∃ menu, behaviour = .menu menu := by
  cases behaviour with
  | menu menu =>
      simp only [Pauses, hreason] at h
      exact ⟨h.symm, menu, rfl⟩
  | _ => simp [Pauses, hreason] at h

theorem Behaviour.Pauses.timer {behaviour : Behaviour} {here : NodeId} {time : Instant}
    {suspension : Suspension} (h : behaviour.Pauses here suspension)
    (hreason : suspension.reason = .timer time) : suspension.expiresAt = none := by
  cases behaviour with
  | delay millis => simp only [Pauses, hreason] at h; exact h.2
  | content sequence => simp only [Pauses, hreason] at h; exact h.2
  | scripted script => simpa only [Pauses, hreason] using h
  | _ => simp [Pauses, hreason] at h

theorem Run.WellShaped.of_ended {flows : Flows} {maxDepth : Nat} {run : Run}
    (hroot : run.parent = none ∧ run.depth = 0) (hstopped : run.status ≠ .running)
    (hended : run.status ≠ .paused) (hpending : run.suspension = none)
    (hfailed : run.status = .failed ↔ run.failure.isSome) (hnested : run.nested = []) :
    run.WellShaped flows maxDepth where
  root := hroot
  stopped := hstopped
  paused := by simp [hended, hpending]
  failed := hfailed
  ended := fun _ => hnested
  waiting := fun h => absurd h hended
  depth := fun h => absurd h hended
  linked := fun h => absurd h hended
  entered := fun h => absurd h hended
  awaited := by simp [hpending]
  timed := by simp [hpending]

/-- What a drive leaves of a run that is nested in no other is well shaped. -/
theorem Run.Settled.wellShaped {flows : Flows} {settings : Settings} {run : Run}
    (h : run.Settled flows settings) (hparent : run.parent = none) (hdepth : run.depth = 0) :
    run.WellShaped flows settings.maxDepth := by
  cases h with
  | @waiting suspension steps waits hangs =>
      have hall : ∀ level ∈ run.levels, level.Waits suspension := by
        intro level hlevel
        rcases List.mem_cons.mp hlevel with rfl | hlevel
        · exact waits
        · exact hangs.waits level hlevel
      obtain ⟨behaviour, hstands, hpauses⟩ := hangs.innermost
      exact
        { root := ⟨hparent, hdepth⟩
          stopped := by simp [waits.paused]
          paused := by simp [waits.paused, waits.pending]
          failed := by simp [waits.paused, waits.unfailed]
          ended := by simp [Level.isTerminal, waits.paused, Status.isTerminal]
          waiting := fun _ => ⟨suspension, fun level hlevel =>
            ⟨(hall level hlevel).paused, (hall level hlevel).pending⟩⟩
          depth := by
            intro _ i level hlevel
            obtain ⟨hi, hlimit⟩ := hangs.depth (by omega) i hlevel
            omega
          linked := by
            intro _ i outer inner houter hinner
            have hholds := hangs.holds i houter hinner
            exact ⟨hholds.parent, hholds.contactId, hholds.contact, hholds.vars⟩
          entered := fun _ level hlevel => (hall level hlevel).entered
          awaited := by
            intro other node hother hreason
            obtain rfl := Option.some.inj (waits.pending.symm.trans hother)
            obtain ⟨hnode, menu, rfl⟩ := hpauses.reply hreason
            exact ⟨hnode, menu, hstands⟩
          timed := by
            intro other time hother hreason
            obtain rfl := Option.some.inj (waits.pending.symm.trans hother)
            exact hpauses.timer hreason }
  | completed status pending unfailed nested =>
      exact .of_ended ⟨hparent, hdepth⟩ (by simp [status]) (by simp [status]) pending
        (by simp [status, unfailed]) nested
  | failed status pending failed nested =>
      exact .of_ended ⟨hparent, hdepth⟩ (by simp [status]) (by simp [status]) pending
        (by simp [status, failed]) nested

/-! ## Stored runs -/

/-- Termination fails a level and changes nothing that no drive changes. -/
theorem Run.unwind_ended (kind : FailureKind) (message : String) (time : Instant)
    (level : Level) (below : List Level) :
    level.SameRun (unwind kind message time level below) ∧
      (unwind kind message time level below).status = .failed ∧
      (unwind kind message time level below).suspension = none ∧
      ∃ failure, (unwind kind message time level below).failure = some failure := by
  cases below with
  | nil => exact ⟨⟨rfl, rfl, rfl, rfl, rfl, rfl⟩, rfl, rfl, _, rfl⟩
  | cons child below => exact ⟨⟨rfl, rfl, rfl, rfl, rfl, rfl⟩, rfl, rfl, _, rfl⟩

namespace World

/-- All stored runs are as drives leave them. -/
structure Shaped (flows : Flows) (settings : Settings) (world : World) : Prop where
  flow : world.flow = flows
  limits : world.bounds.settings = settings
  runs : ∀ run ∈ world.store.runs, run.parent = none ∧ run.depth = 0 ∧
    run.Settled flows settings

variable {flows : Flows} {settings : Settings} {world world' : World}

theorem Shaped.later (h : world.Shaped flows settings) (hlater : world.Later world') :
    world'.Shaped flows settings where
  flow := hlater.flow.trans h.flow
  limits := by rw [hlater.bounds, h.limits]
  runs := by
    rw [hlater.store]
    exact h.runs

theorem Shaped.keep (h : world.Shaped flows settings) {run : Run}
    (hparent : run.parent = none) (hdepth : run.depth = 0)
    (hsettled : run.Settled flows settings) : (world.keep run).Shaped flows settings where
  flow := h.flow
  limits := h.limits
  runs := by
    intro other hother
    rcases Store.mem_put hother with rfl | hother
    · exact ⟨hparent, hdepth, hsettled⟩
    · exact h.runs other hother

/-- A stored run that an event is accepted for fits the drive that resumes it. -/
theorem Shaped.fit (h : world.Shaped flows settings) {run : Run} {event : Wakeup}
    {suspension : Suspension} {graph : Graph} (stored : world.store.find? run.id = some run)
    (accepted : Engine.checkResumable run event = .ok suspension)
    (flow : world.flow run.flow = .ok graph) :
    Drive.Fit flows world.bounds.settings (.level graph (some event.payload)) run := by
  obtain ⟨-, -, hsettled⟩ := h.runs run (Store.mem_of_find? stored)
  have hpaused := (paused_of_checkResumable accepted).1
  rw [← h.limits] at hsettled
  cases hsettled with
  | waiting steps waits hangs => exact ⟨h.flow ▸ flow, steps, _, waits, hangs⟩
  | completed status => simp [status] at hpaused
  | failed status => simp [status] at hpaused

/-- Every move keeps the stored runs in shape. -/
theorem Shaped.move (h : world.Shaped flows settings) (hmove : Move world world') :
    world'.Shaped flows settings := by
  cases hmove with
  | rest later => exact h.later later
  | begin flow later drive =>
      have hlater := later.trans drive.later
      have hsame := drive.sameRun
      have hsettled := drive.settles (later.flow.trans h.flow)
        ⟨h.flow ▸ flow, rfl, rfl⟩
      rw [h.limits] at hsettled
      exact ((h.later hlater).keep hsame.parent hsame.depth hsettled).later (later_persist _)
  | @resume _ _ run event suspension graph run' stored accepted flow later drive =>
      have hlater := later.trans drive.later
      obtain ⟨hparent, hdepth, -⟩ := h.runs run (Store.mem_of_find? stored)
      have hsame := drive.sameRun
      have hsettled := drive.settles (later.flow.trans h.flow) (h.fit stored accepted flow)
      rw [h.limits] at hsettled
      exact ((h.later hlater).keep (hsame.parent.trans hparent) (hsame.depth.trans hdepth)
        hsettled).later (later_persist _)
  | @terminate run kind message stored unended =>
      obtain ⟨hparent, hdepth, -⟩ := h.runs run (Store.mem_of_find? stored)
      obtain ⟨hsame, hstatus, hpending, failure, hfailed⟩ :=
        Run.unwind_ended kind message world.bounds.now run.toLevel run.nested
      obtain ⟨earlier, hlater, heq⟩ := world.terminate_eq run kind message
      rw [heq]
      exact (h.later hlater).keep (hsame.parent.trans hparent) (hsame.depth.trans hdepth)
        (.failed hstatus hpending hfailed rfl)

theorem Shaped.moves (h : world.Shaped flows settings) (hmoves : world.Moves world') :
    world'.Shaped flows settings := by
  induction hmoves with
  | refl => exact h
  | tail _ hmove ih => exact ih.move hmove

theorem Shaped.atTime (h : world.Shaped flows settings) (now : Instant) :
    (world.atTime now).Shaped flows settings := ⟨h.flow, h.limits, h.runs⟩

/-- Orders that leave the flows alone keep the stored runs in shape. -/
theorem Shaped.after (h : world.Shaped flows settings) (hworld : world.Ready)
    (orders : List (Instant × Order))
    (hflows : ∀ order ∈ orders, order.2.keepsFlows = true) :
    (world.after orders).Shaped flows settings := by
  induction orders generalizing world with
  | nil => exact h
  | cons order rest ih =>
      have hhere := hflows order (.head _)
      have hready := hworld.atTime order.1
      have hmoves := carryOut_moves hready hhere
      rw [after_cons]
      exact ih ((h.atTime order.1).moves hmoves) (hready.carryOut order.2)
        fun other hother => hflows other (.tail _ hother)

/-- Whatever was ordered in a world that was opened with nothing but flows, and as long as these
are left alone, every stored run is well shaped. -/
theorem stored_run_wellShaped (settings : Settings) (start : Instant) (definitions : List Flow)
    (send : Ledger → String → Message → Except DispatchError String)
    (assign : Ledger → String → String → Except AssignmentError Unit) (supply : Supply)
    (orders : List (Instant × Order))
    (hflows : ∀ order ∈ orders, order.2.keepsFlows = true) (run : Run)
    (hrun : run ∈
      ((opened settings start definitions send assign supply).after orders).store.runs) :
    run.WellShaped (opened settings start definitions send assign supply).flow
      settings.maxDepth := by
  have hshaped : (opened settings start definitions send assign supply).Shaped
      (opened settings start definitions send assign supply).flow settings :=
    ⟨rfl, rfl, by simp [opened]⟩
  obtain ⟨hparent, hdepth, hsettled⟩ :=
    (hshaped.after (ready_opened ..) orders hflows).runs run hrun
  exact hsettled.wellShaped hparent hdepth

/-- A run that waits for a reply in a nested flow is one of them. -/
theorem stored_run_wellShaped_sample :
    ∃ run ∈ (sample.after [(⟨0, 0⟩, .start { flow := "outer", contactId := "ann" })]).store.runs,
      run.nested.length = 1 ∧ run.WellShaped sample.flow 10 := by
  have hmem : 1 ∈ (sample.after
      [(⟨0, 0⟩, .start { flow := "outer", contactId := "ann" })]).store.runs.map
        fun run => run.nested.length := by decide +kernel
  obtain ⟨run, hrun, hnested⟩ := List.mem_map.mp hmem
  refine ⟨run, hrun, hnested, ?_⟩
  exact stored_run_wellShaped {} ⟨0, 0⟩ _ _ _ {} _ (by simp [Order.keepsFlows]) run hrun

end World

end Dialogue
