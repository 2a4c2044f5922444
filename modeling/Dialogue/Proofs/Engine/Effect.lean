import Dialogue.Proofs.Store
import Dialogue.Proofs.Engine.Undisturbed
import Dialogue.Proofs.Drive.Course

/-!
# What the operations come to

For each operation of the engine, the result and the world it comes to, as an
equation about `obey`; and that it runs to its end in an undisturbed world.  The
store is taken to be in order.
-/

namespace Dialogue

namespace World

variable (world : World)

/-- Puts a run into the store. -/
def keep (run : Run) : World := { world with store := world.store.put run }

/-- Removes the alarms of a run. -/
def unalarmed (run : Identifier) : World := { world with timers := world.timers.cancel run }

/-- Sets one alarm. -/
def alarmed (firing : Firing) (time : Instant) : World :=
  { world with timers := world.timers.schedule firing time world.bounds.now }

/-- Sets the alarms that a suspension calls for. -/
def awaiting (run : Identifier) (suspension : Suspension) : World :=
  let world :=
    match suspension.resumeAt? with
    | some time => world.alarmed ⟨run, suspension.token, .resume⟩ time
    | none => world
  match suspension.expiresAt with
  | some time => world.alarmed ⟨run, suspension.token, .expire⟩ time
  | none => world

/-- Puts a run into the store and sets its alarms to what it waits for. -/
def persist (run : Run) : World :=
  match run.suspension.filter fun _ => run.isPaused with
  | some suspension => (world.keep run).awaiting run.id suspension
  | none => (world.keep run).unalarmed run.id

/-- Drives a run and puts what becomes of it into the store. -/
def driven (graph : Graph) (run : Run) (payload : Option Payload) : Run × World :=
  let (run, world) := world.act (run.drive world.bounds graph payload)
  (run, world.persist run)

/-- Fails a run with all that is nested in it. -/
def terminate (run : Run) (kind : FailureKind) (message : String) : Run × World :=
  let ended := run.terminate kind message world.bounds.now
  (ended, ((world.unalarmed run.id).told world.bounds ended run.node
    (.runFailed kind message)).keep ended)

/-- Sets the alarms of several runs. -/
def recovered : World → List Run → World
  | world, [] => world
  | world, run :: rest =>
    match run.suspension with
    | some suspension => recovered (world.awaiting run.id suspension) rest
    | none => recovered world rest

variable {world}

theorem later_unalarmed (run : Identifier) : world.Later (world.unalarmed run) :=
  ⟨rfl, rfl, rfl, rfl, rfl, rfl, rfl, rfl, Nat.le_refl _⟩

theorem later_alarmed (firing : Firing) (time : Instant) :
    world.Later (world.alarmed firing time) :=
  ⟨rfl, rfl, rfl, rfl, rfl, rfl, rfl, rfl, Nat.le_refl _⟩

theorem later_awaiting (run : Identifier) (suspension : Suspension) :
    world.Later (world.awaiting run suspension) := by
  unfold awaiting
  cases suspension.resumeAt? with
  | none =>
      cases suspension.expiresAt with
      | none => exact .refl _
      | some time => exact later_alarmed _ _
  | some time =>
      cases suspension.expiresAt with
      | none => exact later_alarmed _ _
      | some time' => exact (later_alarmed _ _).trans (later_alarmed _ _)

/-- What is persisted is kept; the alarms make no difference to runs. -/
theorem later_persist (run : Run) : (world.keep run).Later (world.persist run) := by
  unfold persist
  split
  · exact later_awaiting _ _
  · exact later_unalarmed _

/-- A terminated run is kept, and nothing else happens to the stored runs. -/
theorem terminate_eq (world : World) (run : Run) (kind : FailureKind) (message : String) :
    ∃ earlier, world.Later earlier ∧ world.terminate run kind message =
      (run.terminate kind message world.bounds.now,
        earlier.keep (run.terminate kind message world.bounds.now)) :=
  ⟨_, (later_unalarmed run.id).trans (later_emit _ _), rfl⟩

/-- A drive has a course, and what becomes of it is persisted. -/
theorem course_driven (world : World) (graph : Graph) (run : Run) (payload : Option Payload) :
    ∃ after run', Drive.Course world.bounds (.level graph payload) world run after run' ∧
      world.driven graph run payload = (run', after.persist run') :=
  ⟨_, _, Drive.course_drive world.bounds world run graph payload, rfl⟩

end World

namespace Engine

open World

variable {world : World}

/-! ## Loading -/

theorem attend_load (hstore : world.store.outage = {}) (id : Identifier) :
    world.obey (Operating.load id) = (.ok (world.store.find? id), world) := by
  change (world.store.load id, world) = _
  simp [Store.load, hstore]

theorem obey_loadForResume (hstore : world.store.outage = {}) (id : Identifier) :
    world.obey (loadForResume id) =
      (match world.store.find? id with
        | none => .error (.notFound id)
        | some run => .ok run, world) := by
  unfold loadForResume
  rw [obey_bind, attend_load hstore]
  cases world.store.find? id <;> rfl

theorem obey_loadExisting (hstore : world.store.outage = {}) (id : Identifier) :
    world.obey (loadExisting id) =
      (match world.store.find? id with
        | none => .error (.runNotFound id)
        | some run => .ok run, world) := by
  unfold loadExisting
  rw [obey_bind, attend_load hstore]
  cases world.store.find? id <;> rfl

theorem attend_list (hstore : world.store.outage = {}) (status : Option Status) :
    world.obey (Operating.list status) = (.ok (world.store.all status), world) := by
  change (world.store.list status, world) = _
  simp [Store.list, hstore]

@[simp] theorem obey_loadFlow (flow : FlowId) :
    world.obey (loadFlow flow) = world.look flow := obey_within world (Acting.flow flow)

/-! ## Storing -/

theorem obey_save (hstore : world.store.outage = {}) (run : Run) :
    world.obey (Operating.save run) = (.ok (), world.keep run) := by
  change ((world.store.save run).1, { world with store := (world.store.save run).2 }) = _
  simp [Store.save, hstore, keep]

theorem obey_scheduleFor (run : Identifier) (suspension : Suspension) :
    world.obey (scheduleFor run suspension) = ((), world.awaiting run suspension) := by
  unfold scheduleFor awaiting
  cases suspension.resumeAt? <;> cases suspension.expiresAt <;> rfl

theorem obey_persist (hstore : world.store.outage = {}) (run : Run) :
    world.obey (Engine.persist run) = (.ok (), world.persist run) := by
  unfold Engine.persist World.persist
  rw [obey_bind, obey_save hstore]
  dsimp only
  cases run.suspension.filter fun _ => run.isPaused with
  | none => rfl
  | some suspension =>
      dsimp only
      rw [obey_bind, obey_scheduleFor]
      rfl

theorem obey_driveAndStore (hstore : world.store.outage = {}) (graph : Graph) (run : Run)
    (payload : Option Payload) :
    world.obey (driveAndStore world.bounds graph run payload) =
      (.ok (world.driven graph run payload).1, (world.driven graph run payload).2) := by
  unfold driveAndStore
  rw [obey_bind, obey_within, obey_bind, obey_persist]
  · rfl
  · rw [(world.later_act (run.drive world.bounds graph payload)).store]
    exact hstore

theorem obey_terminate (hstore : world.store.outage = {}) (run : Run) (kind : FailureKind)
    (message : String) :
    world.obey (Engine.terminate world.bounds run kind message) =
      (.ok (world.terminate run kind message).1, (world.terminate run kind message).2) := by
  unfold Engine.terminate
  dsimp only
  rw [obey_bind]
  change (world.unalarmed run.id).obey _ = _
  rw [obey_bind, obey_within]
  change ((world.unalarmed run.id).told world.bounds _ run.node _).obey _ = _
  rw [obey_bind, obey_save]
  · rfl
  · exact hstore

/-! ## Whole operations -/

/-- Starting: the flow is loaded, the run gets an identifier and is driven. -/
theorem obey_start (hstore : world.store.outage = {}) (request : RunRequest) :
    world.obey (start world.bounds request) =
      match world.look request.flow with
      | (.error e, after) => (.error e, after)
      | (.ok graph, after) =>
        match startNode graph request with
        | .error e => (.error e, after)
        | .ok node =>
          let run := Run.fresh after.newRun.1 request node world.bounds.now
          (.ok (after.newRun.2.driven graph run none).1,
            (after.newRun.2.driven graph run none).2) := by
  have hlater := world.later_look request.flow
  unfold start
  rw [obey_bind, obey_loadFlow]
  revert hlater
  rcases world.look request.flow with ⟨loaded, after⟩
  intro hlater
  cases loaded with
  | error e => rfl
  | ok graph =>
      dsimp only
      cases startNode graph request with
      | error e => rfl
      | ok node =>
          dsimp only
          rw [obey_bind, obey_within, obey_holding, ← hlater.bounds]
          exact obey_driveAndStore (hlater.store ▸ hstore) graph _ none

/-- What becomes of a stored run that an event is for. -/
def resumed (world : World) (run : Run) (event : Wakeup) :
    Except ResumeError Run × World :=
  match checkResumable run event with
  | .error e => (.error e, world)
  | .ok suspension =>
    if suspension.isOverdue world.bounds.now then
      (.error (.stale run.id expiredMessage), (world.terminate run .timeout expiredMessage).2)
    else
      match world.look run.flow with
      | (.error e, after) => (.error (.flow e), after)
      | (.ok graph, after) =>
        let driven := (after.unalarmed run.id).driven graph run (some event.payload)
        (.ok driven.1, driven.2)

/-- What has to be so for a resumed run to be driven, and what comes of it. -/
theorem resumed_ok {run run' : Run} {event : Wakeup} {world' : World}
    (h : resumed world run event = (.ok run', world')) :
    ∃ suspension graph after, checkResumable run event = .ok suspension ∧
      suspension.isOverdue world.bounds.now = false ∧
      world.look run.flow = (.ok graph, after) ∧
      (after.unalarmed run.id).driven graph run (some event.payload) = (run', world') := by
  unfold resumed at h
  cases hchecked : checkResumable run event with
  | error e => simp [hchecked] at h
  | ok suspension =>
      cases hoverdue : suspension.isOverdue world.bounds.now with
      | true => simp [hchecked, hoverdue] at h
      | false =>
          rcases hlook : world.look run.flow with ⟨loaded, after⟩
          cases loaded with
          | error e => simp [hchecked, hoverdue, hlook] at h
          | ok graph =>
              refine ⟨suspension, graph, after, rfl, hoverdue, rfl, ?_⟩
              simp only [hchecked, hoverdue, hlook, Bool.false_eq_true, if_false,
                Prod.mk.injEq, Except.ok.injEq] at h
              exact Prod.ext h.1 h.2

/-- A run that can be resumed is driven. -/
theorem resumed_driven {run : Run} {event : Wakeup} {suspension : Suspension} {graph : Graph}
    {after : World}
    (hchecked : checkResumable run event = .ok suspension)
    (hoverdue : suspension.isOverdue world.bounds.now = false)
    (hlook : world.look run.flow = (.ok graph, after)) :
    resumed world run event =
      (.ok ((after.unalarmed run.id).driven graph run (some event.payload)).1,
        ((after.unalarmed run.id).driven graph run (some event.payload)).2) := by
  simp [resumed, hchecked, hoverdue, hlook]

theorem obey_resumeHeld (hstore : world.store.outage = {}) (id : Identifier)
    (event : Wakeup) :
    world.obey (resumeHeld world.bounds id event) =
      match world.store.find? id with
      | none => (.error (.notFound id), world)
      | some run => resumed world run event := by
  unfold resumeHeld
  rw [obey_bind, obey_loadForResume hstore]
  cases hrun : world.store.find? id with
  | none => rfl
  | some run =>
      obtain rfl := Store.id_of_find? hrun
      dsimp only [resumed]
      cases checkResumable run event with
      | error e => rfl
      | ok suspension =>
          dsimp only
          by_cases hoverdue : suspension.isOverdue world.bounds.now = true
          · rw [if_pos hoverdue, if_pos hoverdue, obey_bind, obey_terminate hstore]
            rfl
          · rw [if_neg hoverdue, if_neg hoverdue]
            have hlater := world.later_look run.flow
            rw [obey_bind, obey_loadFlow]
            revert hlater
            rcases world.look run.flow with ⟨loaded, after⟩
            intro hlater
            cases loaded with
            | error e => rfl
            | ok graph =>
                dsimp only
                rw [obey_bind]
                change (after.unalarmed run.id).obey _ = _
                rw [← hlater.bounds, obey_bind]
                have hdrive := obey_driveAndStore
                  (show (after.unalarmed run.id).store.outage = {} from hlater.store ▸ hstore)
                  graph run (some event.payload)
                rw [show after.bounds = (after.unalarmed run.id).bounds from rfl, hdrive]
                rfl

theorem obey_resume (hstore : world.store.outage = {}) (id : Identifier) (event : Wakeup) :
    world.obey (resume world.bounds id event) =
      match world.store.find? id with
      | none => (.error (.notFound id), world)
      | some run => resumed world run event := by
  unfold resume
  rw [obey_bind, obey_loadForResume hstore]
  cases hrun : world.store.find? id with
  | none => rfl
  | some run =>
      dsimp only
      rw [obey_holdingIfFree, obey_resumeHeld hstore, hrun]

/-- Resuming in turn comes to the same where nobody else is at work. -/
theorem obey_resumeInTurn (hstore : world.store.outage = {}) (id : Identifier)
    (event : Wakeup) :
    world.obey (resumeInTurn world.bounds id event) =
      world.obey (resume world.bounds id event) := by
  rw [obey_resume hstore]
  unfold resumeInTurn
  rw [obey_bind, obey_loadForResume hstore]
  cases hrun : world.store.find? id with
  | none => rfl
  | some run =>
      dsimp only
      rw [obey_holding, obey_resumeHeld hstore, hrun]

theorem obey_cancel (hstore : world.store.outage = {}) (id : Identifier) :
    world.obey (cancel world.bounds id) =
      match world.store.find? id with
      | none => (.error (.runNotFound id), world)
      | some run =>
        if run.isTerminal then (.ok run, world)
        else
          (.ok (world.terminate run .cancelled "run cancelled").1,
            (world.terminate run .cancelled "run cancelled").2) := by
  unfold cancel
  rw [obey_bind, obey_loadExisting hstore]
  cases hrun : world.store.find? id with
  | none => rfl
  | some run =>
      dsimp only
      rw [obey_holding, cancelHeld, obey_bind, obey_loadExisting hstore, hrun]
      dsimp only
      split
      · rfl
      · exact obey_terminate hstore run _ _

theorem obey_expireAt (hstore : world.store.outage = {}) (id : Identifier)
    (token : Option Identifier) (time : Instant) :
    world.obey (expireAt world.bounds id token time) =
      match world.store.find? id with
      | none => (.error (.runNotFound id), world)
      | some run =>
        if isDue run token time then
          (.ok (some (world.terminate run .timeout expiredMessage).1),
            (world.terminate run .timeout expiredMessage).2)
        else (.ok none, world) := by
  unfold expireAt
  rw [obey_bind, obey_loadExisting hstore]
  cases hrun : world.store.find? id with
  | none => rfl
  | some run =>
      dsimp only
      rw [obey_holding, expireHeld, obey_bind, obey_loadExisting hstore, hrun]
      dsimp only
      split
      · rw [obey_bind, obey_terminate hstore]
        rfl
      · rfl

/-- Recovering sets alarms and does nothing else. -/
theorem obey_recover (hstore : world.store.outage = {}) :
    (world.obey recover).2 = world.recovered (world.store.all (some .paused)) := by
  have hruns (world : World) (runs : List Run) :
      (world.obey (recoverEach runs)).2 = world.recovered runs := by
    induction runs generalizing world with
    | nil => rfl
    | cons run rest ih =>
        unfold recoverEach recovered
        cases run.suspension with
        | none => exact ih world
        | some suspension =>
            dsimp only
            rw [obey_bind, obey_scheduleFor, obey_bind]
            exact ih _
  unfold recover
  rw [obey_bind, attend_list hstore]
  dsimp only
  rw [obey_bind]
  exact hruns world _

/-- An alarm that went off resumes or expires its run. -/
theorem obey_handleFiring (hstore : world.store.outage = {}) (firing : Firing) :
    (world.obey (handleFiring world.bounds firing)).2 =
      match firing.action with
      | .resume => (world.obey (resume world.bounds firing.run (.timer firing.token))).2
      | .expire =>
        (world.obey (expireAt world.bounds firing.run (some firing.token) world.bounds.now)).2 := by
  unfold handleFiring
  cases firing.action with
  | resume =>
      dsimp only
      rw [obey_bind, obey_resumeInTurn hstore]
      rfl
  | expire =>
      dsimp only
      rw [obey_bind]
      rfl

end Engine

end Dialogue
