import Dialogue.Proofs.Engine.Transcript

/-!
# Errands

The calls on a run that is stored: resuming, cancelling and timing it out, and
acting on an alarm.  Each reads the run for its key, takes the permit, at once or
waiting for it, does its work, and gives the permit back.
-/

namespace Dialogue

/-- What may be asked of a stored run. -/
inductive Errand where
  | resume (event : Wakeup)
  | cancel
  /-- Time the run out if it is due at an instant. -/
  | expire (time : Instant)
  /-- Act on an alarm of the run. -/
  | fire (token : Identifier) (action : TimerAction)

/-- What a call is answered with. -/
inductive Report where
  | resumed (result : Except ResumeError Run)
  | cancelled (result : Except FlowError Run)
  | expired (result : Except FlowError (Option Run))
  | handled

namespace Report

/-- Whether a call has succeeded. -/
def succeeds : Report → Bool
  | .resumed (.ok _) | .cancelled (.ok _) | .expired (.ok _) | .handled => true
  | _ => false

/-- Whether an event was refused because the wait for it had expired. -/
def late : Report → Bool
  | .resumed (.error (.stale _ reason)) => reason == Engine.expiredMessage
  | _ => false

/-- Whether an event has resumed its run. -/
def resumes : Report → Bool
  | .resumed (.ok _) => true
  | _ => false

end Report

namespace Operating

variable {α β : Type}

/-- Gives the permit of a key back after some work. -/
def closing (key : RunKey) (work : Operating α) : Operating α := do
  let result ← work
  let () ← request (.unlock key)
  return result

theorem closing_map (key : RunKey) (work : Operating α) (f : α → β) :
    (do let result ← closing key work; return f result) =
      closing key (do let result ← work; return f result) := by
  unfold closing
  rw [Interaction.bind_assoc, Interaction.bind_assoc]
  rfl

theorem holding_map (key : RunKey) (work : Operating α) (f : α → β) :
    (do let result ← holding key work; return f result) =
      holding key (do let result ← work; return f result) :=
  congrArg (fun rest => (.ask (.lock key) fun _ => rest : Operating β)) (closing_map key work f)

theorem holdingIfFree_map (key : RunKey) (busy : α) (work : Operating α) (f : α → β) :
    (do let result ← holdingIfFree key busy work; return f result) =
      holdingIfFree key (f busy) (do let result ← work; return f result) := by
  have hnext : (fun free : Bool => if free then
        (do let result ← closing key work; return f result) else (pure (f busy) : Operating β)) =
      fun free : Bool => if free then
        closing key (do let result ← work; return f result) else pure (f busy) := by
    rw [closing_map]
  refine Eq.trans ?_ (congrArg (Interaction.ask (Request.tryLock key)) hnext)
  refine congrArg (Interaction.ask (Request.tryLock key)) (funext fun free => ?_)
  cases free <;> rfl

end Operating

namespace Errand

open Engine Operating

variable (bounds : Bounds) (id : Identifier)

/-- The whole call. -/
def operation : Errand → Operating Report
  | .resume event => return .resumed (← Engine.resume bounds id event)
  | .cancel => return .cancelled (← Engine.cancel bounds id)
  | .expire time => return .expired (← expireAt bounds id none time)
  | .fire token action => do
    handleFiring bounds ⟨id, token, action⟩
    return .handled

/-- What it does with the permit. -/
def work : Errand → Operating Report
  | .resume event => return .resumed (← resumeHeld bounds id event)
  | .cancel => return .cancelled (← cancelHeld bounds id)
  | .expire time => return .expired (← expireHeld bounds id none time)
  | .fire token .resume => do
    let _ ← resumeHeld bounds id (.timer token)
    return .handled
  | .fire token .expire => do
    let _ ← expireHeld bounds id (some token) bounds.now
    return .handled

/-- Whether it waits for the permit. -/
def waits : Errand → Bool
  | .resume _ => false
  | _ => true

/-- Where it takes the permit. -/
def gate (key : RunKey) (errand : Errand) : Operating Report :=
  if errand.waits then holding key (errand.work bounds id)
  else holdingIfFree key (.resumed (.error (.busy id))) (errand.work bounds id)

theorem gate_of_waits {errand : Errand} (h : errand.waits = true) (key : RunKey) :
    errand.gate bounds id key = .ask (.lock key) fun _ => closing key (errand.work bounds id) := by
  rw [gate, if_pos h]
  rfl

theorem gate_of_not_waits {errand : Errand} (h : errand.waits = false) (key : RunKey) :
    errand.gate bounds id key = .ask (.tryLock key) fun free : Bool =>
      if free then closing key (errand.work bounds id)
      else .done (.resumed (.error (.busy id))) := by
  rw [gate, if_neg (by simp [h])]
  rfl

/-- A call reads the run for its key and then takes the permit. -/
theorem operation_eq (errand : Errand) :
    ∃ next, errand.operation bounds id = .ask (.load id) next ∧
      ∀ run, next (.ok (some run)) = errand.gate bounds id run.key := by
  cases errand with
  | resume event =>
      exact ⟨_, rfl, fun run => holdingIfFree_map run.key _ (resumeHeld bounds id event) _⟩
  | cancel => exact ⟨_, rfl, fun run => holding_map run.key (cancelHeld bounds id) _⟩
  | expire time =>
      exact ⟨_, rfl, fun run => holding_map run.key (expireHeld bounds id none time) _⟩
  | fire token action =>
      cases action with
      | resume =>
          refine ⟨_, rfl, fun run => ?_⟩
          refine Eq.trans ?_ (holding_map run.key (resumeHeld bounds id (.timer token))
            fun _ => Report.handled)
          exact Interaction.bind_assoc (holding run.key (resumeHeld bounds id (.timer token)))
            (fun _ => pure ()) fun _ => pure Report.handled
      | expire =>
          refine ⟨_, rfl, fun run => ?_⟩
          refine Eq.trans ?_ (holding_map run.key (expireHeld bounds id (some token) bounds.now)
            fun _ => Report.handled)
          exact Interaction.bind_assoc
            (holding run.key (expireHeld bounds id (some token) bounds.now))
            (fun _ => pure ()) fun _ => pure Report.handled

theorem smooth_operation (errand : Errand) : (errand.operation bounds id).Smooth := by
  cases errand with
  | resume event => exact (smooth_resume _ _ _).bind fun _ => .pure _
  | cancel => exact (smooth_cancel _ _).bind fun _ => .pure _
  | expire time => exact (smooth_expireAt _ _ _ _).bind fun _ => .pure _
  | fire token action => exact (smooth_handleFiring _ _).bind fun _ => .pure _

variable {world : World} {run : Run} {id : Identifier}

/-- Where nobody else is at work, a call comes to what it does with the permit. -/
theorem obey_operation (bounds : Bounds) (hstore : world.store.outage = {}) (errand : Errand)
    (hrun : world.store.find? id = some run) :
    world.obey (errand.operation bounds id) = world.obey (errand.work bounds id) := by
  obtain ⟨next, heq, hnext⟩ := errand.operation_eq bounds id
  have hload : world.obey (.ask (.load id) next) = world.obey (next (.ok (some run))) := by
    change world.obey (next (world.store.load id)) = _
    simp [Store.load, hstore, hrun]
  rw [heq, hload, hnext, gate]
  split
  · exact World.obey_holding world run.key _
  · exact World.obey_holdingIfFree world run.key _ _

/-- What the work of a call stores, if anything, and how that shows in its report. -/
theorem stint_work (hstore : world.store.outage = {}) (errand : Errand)
    (hrun : world.store.find? run.id = some run) :
    ∃ saved, Stint world run (world.transcript (errand.work world.bounds run.id)) saved
        (world.obey (errand.work world.bounds run.id)).2 ∧
      ((world.obey (errand.work world.bounds run.id)).1.resumes = true →
        saved.isSome = true ∧ run.suspension.isSome = true) ∧
      (saved.isSome = true → (world.obey (errand.work world.bounds run.id)).1.succeeds = true ∨
        (world.obey (errand.work world.bounds run.id)).1.late = true) := by
  have hquiet {α β : Type} (m : Operating α) (f : α → β) :
      world.transcript (m >>= fun value => pure (f value)) = world.transcript m := by
    rw [World.transcript_bind, World.transcript_pure, List.append_nil]
  cases errand with
  | resume event =>
      obtain ⟨saved, hstint, hresumed, hsaved⟩ := stint_resumeHeld hstore event hrun
      simp only [work, hquiet, World.obey_bind, World.obey_pure]
      refine ⟨saved, hstint, fun hresumes => hresumed ?_, fun hsome => ?_⟩
      · cases hresult : (world.obey (resumeHeld world.bounds run.id event)).1 with
        | ok run' => exact ⟨run', rfl⟩
        | error e => simp [hresult, Report.resumes] at hresumes
      · obtain ⟨run', hresult⟩ | hresult := hsaved hsome
        · exact .inl (by simp [hresult, Report.succeeds])
        · exact .inr (by simp [hresult, Report.late])
  | cancel =>
      obtain ⟨saved, hstint, run', hresult⟩ := stint_cancelHeld hstore hrun
      simp only [work, hquiet, World.obey_bind, World.obey_pure]
      exact ⟨saved, hstint, by simp [Report.resumes], by simp [hresult, Report.succeeds]⟩
  | expire time =>
      obtain ⟨saved, hstint, expired, hresult⟩ := stint_expireHeld hstore none time hrun
      simp only [work, hquiet, World.obey_bind, World.obey_pure]
      exact ⟨saved, hstint, by simp [Report.resumes], by simp [hresult, Report.succeeds]⟩
  | fire token action =>
      cases action with
      | resume =>
          obtain ⟨saved, hstint, -⟩ := stint_resumeHeld hstore (.timer token) hrun
          simp only [work, hquiet, World.obey_bind, World.obey_pure]
          exact ⟨saved, hstint, by simp [Report.resumes], by simp [Report.succeeds]⟩
      | expire =>
          obtain ⟨saved, hstint, -⟩ :=
            stint_expireHeld hstore (some token) world.bounds.now hrun
          simp only [work, hquiet, World.obey_bind, World.obey_pure]
          exact ⟨saved, hstint, by simp [Report.resumes], by simp [Report.succeeds]⟩

/-- An event with a token that the run does not wait for is stale, and asks for nothing more than
the run. -/
theorem work_stale (hstore : world.store.outage = {}) {event : Wakeup} {token : Identifier}
    (hrun : world.store.find? run.id = some run) (htoken : event.token = some token)
    (hoff : ∀ suspension, run.suspension = some suspension → suspension.token ≠ token) :
    (∃ reason, (world.obey ((Errand.resume event).work world.bounds run.id)).1 =
        .resumed (.error (.stale run.id reason))) ∧
      world.transcript ((Errand.resume event).work world.bounds run.id) =
        [⟨.load run.id, .ok (some run)⟩] := by
  obtain ⟨reason, hstale⟩ := World.checkResumable_stale htoken hoff
  have hobey := obey_resumeHeld hstore run.id event
  rw [hrun] at hobey
  constructor
  · refine ⟨reason, ?_⟩
    simp only [work, World.obey_bind, hobey, resumed, hstale]
    rfl
  · rw [work, World.transcript_bind, transcript_resumeHeld_refused hstore hrun hstale]
    rfl

end Errand

end Dialogue
