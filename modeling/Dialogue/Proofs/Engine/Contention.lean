import Mathlib.Data.List.Nodup
import Dialogue.Proofs.Engine.Traffic

/-!
# Calls that contend for a run

The calls on a stored run, one after the other, as a measure for what may come of
them when they are in progress at the same time.  Each finds the run stored, works
on it as it would with nobody else around, and leaves a world of the same kind.
-/

namespace Dialogue

namespace World

variable {world : World} {who : Ticket} {key : RunKey} {queue : List Ticket}

/-- The world at a time, with nobody holding a permit. -/
def alone (world : World) (now : Instant) : World := (world.withPermits ⟨[]⟩).atTime now

theorem atTime_self {now : Instant} (h : world.bounds.now = now) : world.atTime now = world := by
  subst h
  rfl

/-- A request for anything but a permit is answered as if there were no permits. -/
theorem answer_alone (hholds : ∀ message, world.collaborators.holds message = false) {q : Request}
    (hq : q.forPermit = false) (who : Ticket) (now : Instant) :
    ∃ world', (world.atTime now).answer who q = (some (attend q (world.alone now)).1, world') ∧
      world'.permits = world.permits ∧ world'.alone now = (attend q (world.alone now)).2 := by
  have halone := attend_withPermits (world.atTime now) ⟨[]⟩ q
  have honward := onward_attend q (world.atTime now)
  have hserved : ∀ message, (world.atTime now).collaborators.holds message = false := hholds
  refine ⟨(attend q (world.atTime now)).2, ?_, honward.permits, ?_⟩
  · rw [answer_eq_attend who hserved hq]
    exact congrArg (fun x => (some x.1, (attend q (world.atTime now)).2)) halone.symm
  · refine Eq.trans (atTime_self ?_) (congrArg Prod.snd halone).symm
    exact congrArg Bounds.now honward.bounds

/-- A key that nobody holds is given to who asks for it. -/
theorem answer_tryLock_free (hpermits : world.permits = .queued key []) :
    world.answer who (.tryLock key) = (some true, world.withPermits (.queued key [who])) := by
  simp only [answer, hpermits, Permits.tryAcquire_queued_nil]
  rfl

/-- Who asks for a key that is held is refused. -/
theorem answer_tryLock_held {holder : Ticket}
    (hpermits : world.permits = .queued key (holder :: queue)) :
    world.answer who (.tryLock key) = (some false, world) := by
  simp only [answer, hpermits, Permits.tryAcquire_queued_cons]
  rfl

/-- A queue with someone in it, who does not queue twice. -/
def queueUp (queue : List Ticket) (who : Ticket) : List Ticket :=
  if who ∈ queue then queue else queue ++ [who]

theorem nodup_queueUp (h : queue.Nodup) (who : Ticket) : (queueUp queue who).Nodup := by
  unfold queueUp
  split
  · exact h
  · next habsent => simpa using List.Nodup.concat habsent h

theorem mem_queueUp {other : Ticket} (h : other ≠ who) :
    other ∈ queueUp queue who ↔ other ∈ queue := by
  unfold queueUp
  split <;> simp [h]

theorem head?_queueUp {front : Ticket} (h : queue.head? = some front) :
    (queueUp queue who).head? = some front := by
  unfold queueUp
  split <;> simp [h]

/-- Who waits for a key is answered at the head of the queue. -/
theorem answer_lock (hpermits : world.permits = .queued key queue) :
    world.answer who (.lock key) =
      (if (queueUp queue who).head? = some who then some () else none,
        world.withPermits (.queued key (queueUp queue who))) := by
  have hqueued : (Permits.queued key queue).holder? key = some who ∨
      ((Permits.queued key queue).waiting key).contains who = true ↔ who ∈ queue := by
    rw [Permits.holder?_queued, Permits.waiting_queued]
    cases queue <;> simp [eq_comm]
  simp only [answer, hpermits, Bool.or_eq_true, decide_eq_true_eq, hqueued, queueUp]
  split
  · rw [Permits.holder?_queued]
    rfl
  · rw [Permits.acquire_queued, Permits.holder?_queued]
    rfl

/-- A key that is given back goes to the next who waits. -/
theorem answer_unlock (hpermits : world.permits = .queued key queue) :
    world.answer who (.unlock key) = (some (), world.withPermits (.queued key queue.tail)) := by
  simp only [answer, hpermits, Permits.release_queued]
  rfl

/-- The world after calls on a run, one after the other. -/
def inTurn (world : World) (attempts : Ticket → Attempt) (id : Identifier)
    (order : List Ticket) : World :=
  order.foldl (fun world who => ((world.atTime (attempts who).now).proceed who
    ((attempts who).operation world.bounds.settings id)).2) world

end World

/-- Calls on a stored run, known by their tickets, and the world before any of them has begun. -/
structure Contention where
  start : World
  attempts : Ticket → Attempt
  first : Run
  ready : start.Ready
  tracked : start.Tracked
  stored : start.store.find? first.id = some first

namespace Contention

open Engine

variable (calls : Contention)

/-- The world after some of the calls, one after the other. -/
def after (order : List Ticket) : World :=
  calls.start.inTurn calls.attempts calls.first.id order

/-- The world that a call finds which comes after others. -/
def scene (order : List Ticket) (who : Ticket) : World :=
  (calls.after order).atTime (calls.attempts who).now

/-- What a call goes by. -/
def bounds (who : Ticket) : Bounds := ⟨calls.start.bounds.settings, (calls.attempts who).now⟩

/-- What a call does with the permit. -/
def work (who : Ticket) : Operating Report :=
  (calls.attempts who).work calls.start.bounds.settings calls.first.id

/-- What a call makes of a run. -/
def Makes (who : Ticket) (run run' : Run) : Prop :=
  (calls.attempts who).Makes calls.start.bounds.settings run run'

/-- A world in which the calls find their run. -/
structure Sound (world : World) : Prop where
  ready : world.Ready
  tracked : world.Tracked
  settings : world.bounds.settings = calls.start.bounds.settings
  stored : ∃ run, world.store.find? calls.first.id = some run ∧ run.key = calls.first.key

/-- What the work of a call comes to in a world in which it finds the run. -/
structure Turn (world : World) (who : Ticket) (run : Run) (saved : Option Run) : Prop where
  id : run.id = calls.first.id
  key : run.key = calls.first.key
  found : world.store.find? calls.first.id = some run
  stint : Stint world run (world.transcript (calls.work who)) saved
    (world.obey (calls.work who)).2
  resumes : (world.obey (calls.work who)).1.resumes = true →
    saved.isSome = true ∧ run.suspension.isSome = true
  saves : saved.isSome = true → (world.obey (calls.work who)).1.succeeds = true ∨
    (world.obey (calls.work who)).1.late = true

variable {calls} {world : World}

theorem Sound.bounds (h : calls.Sound world) (who : Ticket) :
    (world.atTime (calls.attempts who).now).bounds = calls.bounds who :=
  congrArg (Bounds.mk · _) h.settings

theorem Sound.turn (h : calls.Sound world) (who : Ticket) :
    ∃ run saved, calls.Turn (world.atTime (calls.attempts who).now) who run saved := by
  obtain ⟨run, hrun, hkey⟩ := h.stored
  have hid := Store.id_of_find? hrun
  have hfound : (world.atTime (calls.attempts who).now).store.find? run.id = some run := by
    rw [hid]
    exact hrun
  obtain ⟨saved, hstint, hresumes, hsaves⟩ :=
    (calls.attempts who).errand.stint_work (h.ready.atTime _).store hfound
  rw [h.bounds who, hid] at hstint hresumes hsaves
  exact ⟨run, saved, hid, hkey, hrun, hstint, hresumes, hsaves⟩

/-- What a call stores is what it makes of the run. -/
theorem Turn.makes {who : Ticket} {run run' : Run} (h : calls.Turn world who run (some run'))
    (hready : world.Ready) : calls.Makes who run run' := by
  have hfound := h.found
  have hmem := h.stint.mem_save
  rw [work, ← h.id] at hmem
  rw [← h.id] at hfound
  exact ⟨h.stint.saved_run.1, world, hready, hfound, hmem⟩

/-- A call that is left alone does its work. -/
theorem Sound.proceed (h : calls.Sound world) (who : Ticket) :
    (world.atTime (calls.attempts who).now).proceed who
        ((calls.attempts who).operation world.bounds.settings calls.first.id) =
      (.done ((world.atTime (calls.attempts who).now).obey (calls.work who)).1,
        ((world.atTime (calls.attempts who).now).obey (calls.work who)).2) := by
  obtain ⟨run, saved, hturn⟩ := h.turn who
  have hready := h.ready.atTime (calls.attempts who).now
  have hsmooth := (calls.attempts who).errand.smooth_operation (calls.bounds who) calls.first.id
    who _ hready.toUndisturbed
  rw [(calls.attempts who).errand.obey_operation _ hready.store hturn.found] at hsmooth
  rw [h.settings]
  exact hsmooth

/-- A call leaves a world in which others find the run. -/
theorem Sound.obey (h : calls.Sound world) (who : Ticket) :
    calls.Sound ((world.atTime (calls.attempts who).now).obey (calls.work who)).2 := by
  obtain ⟨run, saved, hturn⟩ := h.turn who
  have hready := h.ready.atTime (calls.attempts who).now
  have honward := World.onward_obey (world.atTime (calls.attempts who).now) (calls.work who)
  have hrenews := hturn.stint.renews honward
  have htracked : (world.atTime (calls.attempts who).now).Tracked := h.tracked
  refine ⟨hready.onward honward, htracked.renews hrenews, ?_, ?_⟩
  · rw [honward.bounds]
    exact h.settings
  · have hfound := hturn.found
    rw [← hturn.id] at hfound ⊢
    obtain ⟨run', hrun', hsame⟩ := hturn.stint.stored hfound
    exact ⟨run', hrun', hsame.key.trans hturn.key⟩

/-- The world after one more call. -/
theorem Sound.after_snoc {order : List Ticket} (h : calls.Sound (calls.after order))
    (who : Ticket) :
    calls.after (order ++ [who]) = ((calls.scene order who).obey (calls.work who)).2 := by
  rw [after, World.inTurn, List.foldl_append]
  exact congrArg Prod.snd (h.proceed who)

/-- A world in which nobody holds a permit. -/
theorem Sound.alone (h : calls.Sound world) (now : Instant) :
    world.alone now = world.atTime now := by
  have hpermits : world.permits = ⟨[]⟩ := congrArg Permits.mk h.ready.free
  rw [World.alone, World.withPermits, ← hpermits]

variable (calls)

theorem sound_start : calls.Sound calls.start :=
  ⟨calls.ready, calls.tracked, rfl, calls.first, calls.stored, rfl⟩

theorem sound_after (order : List Ticket) : calls.Sound (calls.after order) := by
  induction order using List.reverseRecOn with
  | nil => exact calls.sound_start
  | append_singleton order who ih =>
      rw [ih.after_snoc]
      exact ih.obey who

theorem turn (order : List Ticket) (who : Ticket) :
    ∃ run saved, calls.Turn (calls.scene order who) who run saved :=
  (calls.sound_after order).turn who

/-- One more call takes no token back, and no run back to a suspension. -/
theorem renews_snoc (order : List Ticket) (who : Ticket) :
    (calls.after order).Renews (calls.after (order ++ [who])) := by
  obtain ⟨run, saved, hturn⟩ := calls.turn order who
  have hscene : (calls.after order).Renews (calls.scene order who) :=
    .of_store rfl rfl (Nat.le_refl _)
  rw [(calls.sound_after order).after_snoc]
  exact hscene.trans (hturn.stint.renews (World.onward_obey _ _))

end Contention

end Dialogue
