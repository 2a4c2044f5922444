import Dialogue.Proofs.Engine.Yields
import Dialogue.Proofs.Engine.Opening

/-!
# Calls that fail

A call that fails has changed nothing, with one exception: an event that comes
after its wait has expired times the run out and is refused.  For calls that need
not wait this is said of the world before and after them; and for all calls,
whatever others do in between, of what they ask for.
-/

namespace Dialogue

namespace Engine

/-- An event is let in: its run is stored, nobody holds the permit, and the run is paused in a
suspension that the event is for. -/
structure Admits (world : World) (id : Identifier) (event : Wakeup) (run : Run)
    (suspension : Suspension) : Prop where
  stored : world.store.find? id = some run
  free : world.permits.holder? run.key = none
  paused : run.status = .paused
  pending : run.suspension = some suspension
  token : ∀ token, event.token = some token → token = suspension.token
  fits : suspension.isTimer = event.payload.isTimer

theorem admits_iff {world : World} {id : Identifier} {event : Wakeup} {run : Run}
    {suspension : Suspension} :
    Admits world id event run suspension ↔ world.store.find? id = some run ∧
      world.permits.holder? run.key = none ∧ checkResumable run event = .ok suspension := by
  have htoken : (∀ token, event.token = some token → token = suspension.token) ↔
      event.token.any (· != suspension.token) = false := by
    cases event.token <;> simp
  constructor
  · rintro ⟨hstored, hfree, hpaused, hpending, hsame, hfits⟩
    refine ⟨hstored, hfree, World.checkResumable_eq_ok.mpr ⟨hpaused, hpending, ?_, ?_⟩⟩
    · exact htoken.mp hsame
    · simpa [Suspension.accepts] using hfits
  · rintro ⟨hstored, hfree, hchecked⟩
    obtain ⟨hpaused, hpending, hsame, hfits⟩ := World.checkResumable_eq_ok.mp hchecked
    exact ⟨hstored, hfree, hpaused, hpending, htoken.mpr hsame,
      by simpa [Suspension.accepts] using hfits⟩

end Engine

namespace World

open Engine

variable {world : World}

/-- A suspension has expired. -/
def Lapsed (world : World) (suspension : Suspension) : Prop :=
  ∃ time, suspension.expiresAt = some time ∧ time.le world.bounds.now = true

theorem lapsed_iff {suspension : Suspension} :
    world.Lapsed suspension ↔ suspension.isOverdue world.bounds.now = true := by
  simp [Lapsed, Suspension.isOverdue, Option.any_eq_true]

/-- What calls make of a world that serves when they fail or are refused. -/
structure FailsCleanly (world : World) : Prop where
  /-- A start that fails may have loaded its flow, and nothing else is different. -/
  start : ∀ {who request e after},
    world.proceed who (Engine.start world.bounds request) = (.done (.error e), after) →
      ∃ catalog, after = { world with catalog }
  /-- An event resumes its run if it is let in, in time, and the flow can be loaded. -/
  resumes : ∀ who id event,
    (∃ run after,
      world.proceed who (Engine.resume world.bounds id event) = (.done (.ok run), after)) ↔
    ∃ run suspension graph, Admits world id event run suspension ∧ ¬world.Lapsed suspension ∧
      world.flow run.flow = .ok graph
  /-- An event that is let in too late times its run out, and is refused. -/
  lapses : ∀ who {id event run suspension}, Admits world id event run suspension →
    world.Lapsed suspension → ∃ ended : Run,
      ended.id = id ∧ ended.status = .failed ∧
      ended.failure = some ⟨.timeout, expiredMessage, run.node, world.bounds.now⟩ ∧
      world.proceed who (Engine.resume world.bounds id event) =
        (.done (.error (.stale id expiredMessage)),
          { world with
            store := world.store.put ended
            timers := world.timers.cancel id
            events := .inLevel ended.toLevel run.node world.bounds.now
              (.runFailed .timeout expiredMessage) :: world.events })
  /-- All other events are refused, and leave the world as it is. -/
  refuses : ∀ who id event,
    (¬∃ run suspension, Admits world id event run suspension ∧
      (world.Lapsed suspension ∨ ∃ graph, world.flow run.flow = .ok graph)) →
    ∃ e, world.proceed who (Engine.resume world.bounds id event) = (.done (.error e), world)
  /-- Only a run that is not stored cannot be cancelled. -/
  cancel : ∀ {who id e after},
    world.proceed who (Engine.cancel world.bounds id) = (.done (.error e), after) →
      e = .runNotFound id ∧ world.store.find? id = none ∧ after = world
  /-- Only a run that is not stored cannot be timed out. -/
  expireAt : ∀ {who id token time e after},
    world.proceed who (Engine.expireAt world.bounds id token time) = (.done (.error e), after) →
      e = .runNotFound id ∧ world.store.find? id = none ∧ after = world

theorem Serving.proceed_resume (h : world.Serving) (who : Ticket) (id : Identifier)
    (event : Wakeup) :
    world.proceed who (Engine.resume world.bounds id event) =
      match world.store.find? id with
      | none => (.done (.error (.notFound id)), world)
      | some run =>
        if (world.permits.holder? run.key).isSome then (.done (.error (.busy id)), world)
        else (.done (resumed world run event).1, (resumed world run event).2) := by
  have hload := lockless_loadForResume id who world h.holds
  rw [obey_loadForResume h.store] at hload
  refine (Interaction.runUntilBlocked_bind hload _).trans ?_
  cases hrun : world.store.find? id with
  | none => rfl
  | some run =>
      have hheld := Operating.proceed_holdingIfFree_serving
        (lockless_resumeHeld world.bounds id event) who h run.key (.error (.busy id))
      rw [obey_resumeHeld h.store, hrun] at hheld
      exact hheld

/-- A call that looks for its run before it waits for the permit fails only if there is none. -/
theorem Serving.proceed_gated {α : Type} (h : world.Serving) {who : Ticket} {id : Identifier}
    {work : Operating (Except FlowError α)} (hwork : work.Lockless)
    (hends : ∀ run, world.store.find? id = some run → ∃ value, (world.obey work).1 = .ok value)
    {e : FlowError} {after : World}
    (hfails : world.proceed who (do
      match ← loadExisting id with
      | .error e => return .error e
      | .ok run => Operating.holding run.key work) = (.done (.error e), after)) :
    e = .runNotFound id ∧ world.store.find? id = none ∧ after = world := by
  have hload := lockless_loadExisting id who world h.holds
  rw [obey_loadExisting h.store] at hload
  have hrest := (Interaction.runUntilBlocked_bind hload _).symm.trans hfails
  cases hrun : world.store.find? id with
  | none =>
      rw [hrun] at hrest
      obtain ⟨hresult, hworld⟩ := Prod.mk.inj hrest
      exact ⟨(Except.error.inj (Interaction.done.inj hresult)).symm, rfl, hworld.symm⟩
  | some run =>
      rw [hrun] at hrest
      obtain ⟨value, hvalue⟩ := hends run hrun
      have hheld : world.proceed who (Operating.holding run.key work) = (.done (.error e), after) :=
        hrest
      obtain ⟨next, blocked, hblocked⟩ | ⟨done, hdone⟩ :=
        Operating.proceed_holding_cases hwork who h run.key
      · rw [hblocked] at hheld
        simp at hheld
      · rw [hdone, hvalue] at hheld
        simp at hheld

/-- A start that fails has done no more than look for its flow. -/
theorem Serving.start_error (h : world.Serving) {who : Ticket} {request : RunRequest}
    {e : FlowError} {after : World}
    (hfails : world.proceed who (Engine.start world.bounds request) = (.done (.error e), after)) :
    after = (world.look request.flow).2 := by
  have hload := lockless_loadFlow request.flow who world h.holds
  rw [obey_loadFlow] at hload
  have hrest := (Interaction.runUntilBlocked_bind hload _).symm.trans hfails
  have hlooked : (world.look request.flow).2.Serving := ⟨h.holds, h.store, h.held⟩
  have hbounds : (world.look request.flow).2.bounds = world.bounds := rfl
  revert hrest hlooked hbounds
  rcases world.look request.flow with ⟨loaded, looked⟩
  intro hrest hlooked hbounds
  cases loaded with
  | error e => exact (Prod.mk.inj hrest).2.symm
  | ok graph =>
      dsimp only at hrest
      cases hplace : startNode graph request with
      | error e =>
          rw [hplace] at hrest
          exact (Prod.mk.inj hrest).2.symm
      | ok node =>
          -- the permit is asked for, and what is done with it never fails
          rw [hplace] at hrest
          have hnew := Operating.Lockless.within Acting.newRun who looked hlooked.holds
          rw [obey_within] at hnew
          have hheld := (Interaction.runUntilBlocked_bind hnew _).symm.trans hrest
          have hnext : looked.newRun.2.Serving := ⟨hlooked.holds, hlooked.store, hlooked.held⟩
          obtain ⟨run, hrun⟩ : ∃ run, run =
              Run.fresh looked.newRun.1 request node world.bounds.now := ⟨_, rfl⟩
          have hdrive := obey_driveAndStore hnext.store graph run none
          rw [show looked.newRun.2.bounds = world.bounds from hbounds] at hdrive
          have hfailed : looked.newRun.2.proceed who
              (Operating.holding run.key (driveAndStore world.bounds graph run none)) =
                (.done (.error e), after) := by
            rw [hrun]
            exact hheld
          obtain ⟨next, blocked, hblocked⟩ | ⟨done, hdone⟩ := Operating.proceed_holding_cases
            (lockless_driveAndStore world.bounds graph run none) who hnext run.key
          · simp [hfailed] at hblocked
          · simp [hfailed, hdrive] at hdone

/-- An event that is let in is refused if it is late, and resumes its run if the flow is there. -/
theorem Serving.resume_admitted (h : world.Serving) (who : Ticket) {id : Identifier}
    {event : Wakeup} {run : Run} {suspension : Suspension}
    (hadmits : Admits world id event run suspension) :
    world.proceed who (Engine.resume world.bounds id event) =
        (.done (resumed world run event).1, (resumed world run event).2) ∧
      checkResumable run event = .ok suspension := by
  obtain ⟨hstored, hfree, hchecked⟩ := admits_iff.mp hadmits
  rw [h.proceed_resume, hstored]
  simp [hfree, hchecked]

/-- An event that is not let in leaves the world as it is. -/
theorem Serving.resume_shut_out (h : world.Serving) (who : Ticket) {id : Identifier}
    {event : Wakeup} (hshut : ¬∃ run suspension, Admits world id event run suspension) :
    ∃ e, world.proceed who (Engine.resume world.bounds id event) = (.done (.error e), world) := by
  rw [h.proceed_resume]
  cases hrun : world.store.find? id with
  | none => exact ⟨_, rfl⟩
  | some run =>
      dsimp only
      split
      · exact ⟨_, rfl⟩
      · next hfree =>
        cases hchecked : checkResumable run event with
        | error e => exact ⟨e, by simp [resumed, hchecked]⟩
        | ok suspension =>
            refine absurd ⟨run, suspension, admits_iff.mpr ⟨hrun, ?_, hchecked⟩⟩ hshut
            exact Option.not_isSome_iff_eq_none.mp hfree

theorem Serving.failsCleanly (h : world.Serving) : world.FailsCleanly where
  start := fun hfails => ⟨_, h.start_error hfails⟩
  resumes := by
    intro who id event
    constructor
    · rintro ⟨run', after, hdone⟩
      by_cases hadmits : ∃ run suspension, Admits world id event run suspension
      · obtain ⟨run, suspension, hadmits⟩ := hadmits
        obtain ⟨hproceed, hchecked⟩ := h.resume_admitted who hadmits
        rw [hproceed] at hdone
        obtain ⟨hok, hafter⟩ := Prod.mk.inj hdone
        obtain ⟨suspension', graph, looked, hchecked', hintime, hlook, -⟩ :=
          resumed_ok (Prod.ext (Interaction.done.inj hok) hafter)
        obtain rfl := Except.ok.inj (hchecked.symm.trans hchecked')
        refine ⟨run, suspension, graph, hadmits, ?_, congrArg Prod.fst hlook⟩
        rw [lapsed_iff, hintime]
        simp
      · obtain ⟨e, herror⟩ := h.resume_shut_out who hadmits
        simp [hdone] at herror
    · rintro ⟨run, suspension, graph, hadmits, hintime, hflow⟩
      obtain ⟨hproceed, hchecked⟩ := h.resume_admitted who hadmits
      rw [lapsed_iff, Bool.not_eq_true] at hintime
      rw [hproceed, resumed_driven hchecked hintime (Prod.ext hflow rfl)]
      exact ⟨_, _, rfl⟩
  lapses := by
    intro who id event run suspension hadmits hlapsed
    obtain ⟨hproceed, hchecked⟩ := h.resume_admitted who hadmits
    obtain rfl := Store.id_of_find? hadmits.stored
    obtain ⟨hsame, hfailed, -, -⟩ :=
      Run.unwind_ended .timeout expiredMessage world.bounds.now run.toLevel run.nested
    refine ⟨run.terminate .timeout expiredMessage world.bounds.now, hsame.id, hfailed, ?_, ?_⟩
    · unfold Run.terminate Run.unwind
      cases run.nested <;> rfl
    · rw [hproceed]
      simp only [resumed, hchecked, if_pos (lapsed_iff.mp hlapsed)]
      rfl
  refuses := by
    intro who id event hrefused
    by_cases hadmits : ∃ run suspension, Admits world id event run suspension
    · obtain ⟨run, suspension, hadmits⟩ := hadmits
      obtain ⟨hproceed, hchecked⟩ := h.resume_admitted who hadmits
      have hintime : suspension.isOverdue world.bounds.now = false := by
        by_contra hlate
        exact hrefused ⟨run, suspension, hadmits, .inl (lapsed_iff.mpr (by simpa using hlate))⟩
      cases hflow : world.flow run.flow with
      | ok graph => exact absurd ⟨run, suspension, hadmits, .inr ⟨graph, hflow⟩⟩ hrefused
      | error e =>
          refine ⟨.flow e, ?_⟩
          rw [hproceed]
          simp [resumed, hchecked, hintime, look_of_error hflow]
    · exact h.resume_shut_out who hadmits
  cancel := by
    intro who id e after hfails
    refine h.proceed_gated (lockless_cancelHeld _ _) (fun run hrun => ?_) hfails
    rw [cancelHeld, obey_bind, obey_loadExisting h.store, hrun]
    dsimp only
    split
    · exact ⟨run, rfl⟩
    · exact ⟨_, congrArg Prod.fst (obey_terminate h.store run _ _)⟩
  expireAt := by
    intro who id token time e after hfails
    refine h.proceed_gated (lockless_expireHeld _ _ _ _) (fun run hrun => ?_) hfails
    rw [expireHeld, obey_bind, obey_loadExisting h.store, hrun]
    dsimp only
    split
    · rw [obey_bind, obey_terminate h.store]
      exact ⟨_, rfl⟩
    · exact ⟨none, rfl⟩

/-! ## Every reachable world -/

/-- The worlds that can be reached from an empty one, also in the midst of operations: any request
of anyone may be answered, calls may be given up, and flows, time and alarms may change. -/
inductive Reached : World → Prop
  | opened (registry settings start flows send assign supply) :
      Reached (openedWith registry settings start flows send assign supply)
  | answer {world : World} (who : Ticket) (request : Request) (reached : Reached world) :
      Reached (world.answer who request).2
  | abandon {world : World} (who : Ticket) (key : RunKey) (reached : Reached world) :
      Reached { world with permits := world.permits.abandon who key }
  | define {world : World} (flow : Flow) (reached : Reached world) :
      Reached { world with catalog := world.catalog.define flow }
  | atTime {world : World} (now : Instant) (reached : Reached world) : Reached (world.atTime now)
  | alarms {world : World} (timers : Timers) (reached : Reached world) :
      Reached { world with timers }

theorem Reached.serving (h : world.Reached) : world.Serving := by
  induction h with
  | opened => exact ⟨fun _ => rfl, rfl, fun slot hslot => absurd hslot List.not_mem_nil⟩
  | answer who request _ ih => exact ih.answer who request
  | abandon who key _ ih => exact ⟨ih.holds, ih.store, ih.held.abandon who key⟩
  | define flow _ ih => exact ⟨ih.holds, ih.store, ih.held⟩
  | atTime now _ ih => exact ⟨ih.holds, ih.store, ih.held⟩
  | alarms timers _ ih => exact ⟨ih.holds, ih.store, ih.held⟩

theorem Reached.proceed {α : Type} (h : world.Reached) (who : Ticket) (operation : Operating α) :
    (world.proceed who operation).2.Reached := by
  induction operation generalizing world with
  | done value => exact h
  | ask q next ih =>
      have hanswer := h.answer who q
      simp only [World.proceed, Interaction.runUntilBlocked]
      split
      · next heq =>
        rw [heq] at hanswer
        exact ih _ hanswer
      · next heq =>
        rw [heq] at hanswer
        exact hanswer

theorem Reached.after (h : world.Reached) (orders : List (Instant × Order)) :
    (world.after orders).Reached := by
  induction orders generalizing world with
  | nil => exact h
  | cons order rest ih =>
      obtain ⟨now, order⟩ := order
      refine ih ?_
      cases order with
      | define flow => exact (h.atTime now).define flow
      | _ => exact (h.atTime now).proceed 0 _

/-- A call that fails has changed nothing in any world that can be reached, unless it is an event
that comes too late for its run; and no failing call has delivered anything, whatever others do
while it is in progress. -/
theorem failed_calls_change_nothing (world : World) (hworld : world.Reached) :
    world.FailsCleanly ∧ ∀ who bounds, FailsAmongOthers who bounds :=
  ⟨hworld.serving.failsCleanly, failsAmongOthers⟩

/-- An event is refused while somebody else holds the permit of its run. -/
theorem failed_calls_change_nothing_sample :
    let world := ((sample.after [(⟨0, 0⟩, .start { flow := "inner", contactId := "ann" })]).answer
      7 (.lock ⟨"inner", "ann"⟩)).2
    world.Reached ∧ ∃ e, world.proceed 0
      (Engine.resume world.bounds ⟨sample.supply.firstRun⟩ (.reply "yes")) =
        (.done (.error e), world) := by
  intro world
  have hreached : world.Reached := by
    have hopened : sample.Reached := .opened .standard {} ⟨0, 0⟩ _ _ _ {}
    exact (hopened.after _).answer 7 _
  refine ⟨hreached, (failed_calls_change_nothing world hreached).1.refuses 0 _ _ ?_⟩
  rintro ⟨run, suspension, hadmits, -⟩
  have hkey : (world.store.find? ⟨sample.supply.firstRun⟩).map (·.key) =
      some ⟨"inner", "ann"⟩ := by decide +kernel
  have hheld : world.permits.holder? ⟨"inner", "ann"⟩ = some 7 := by decide +kernel
  rw [hadmits.stored, Option.map_some, Option.some_inj] at hkey
  have hfree := hadmits.free
  rw [hkey, hheld] at hfree
  simp at hfree

end World

end Dialogue
