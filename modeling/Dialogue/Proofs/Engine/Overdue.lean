import Dialogue.Proofs.Engine.Drives
import Dialogue.Proofs.Engine.Standing
import Dialogue.Proofs.Run.Termination

/-!
# Runs that have waited too long

A run that waits for a reply may be timed out by a sweep over all stored runs, by
an order of its own, or by an event that comes too late for it.  All three decide
alike whether its time is over, up to the very instant at which it expires.

A sweep goes through the runs that were listed before it, and decides again for
each of them where it has got to.  What it comes to is shown by one induction over
the listed runs: they are stored under different identifiers, so that timing one
of them out leaves the others as they are listed.
-/

namespace Dialogue

namespace Instant

theorem le_trans {a b c : Instant} (h : a.le b = true) (h' : b.le c = true) : a.le c = true := by
  simp only [le, Bool.or_eq_true, Bool.and_eq_true, decide_eq_true_eq, beq_iff_eq] at *
  omega

end Instant

namespace Run

/-- A paused run whose wait is over at an instant. -/
def Overdue (run : Run) (time : Instant) : Prop :=
  run.status = .paused ∧ ∃ suspension expiresAt, run.suspension = some suspension ∧
    suspension.expiresAt = some expiresAt ∧ expiresAt.le time = true

/-- Whoever is overdue stays so. -/
theorem Overdue.mono {run : Run} {time later : Instant} (h : run.Overdue time)
    (hlater : time.le later = true) : run.Overdue later := by
  obtain ⟨hpaused, suspension, expiresAt, hpending, hexpires, hover⟩ := h
  exact ⟨hpaused, suspension, expiresAt, hpending, hexpires, Instant.le_trans hover hlater⟩

theorem overdue_of_pending {run : Run} {suspension : Suspension} {time : Instant}
    (hpaused : run.status = .paused) (hpending : run.suspension = some suspension) :
    run.Overdue time ↔ suspension.isOverdue time = true := by
  simp [Overdue, hpaused, hpending, Suspension.isOverdue, Option.any_eq_true]

/-- A single expiry acts on the runs that are overdue. -/
theorem isDue_iff {run : Run} {time : Instant} :
    Engine.isDue run none time = true ↔ run.Overdue time := by
  unfold Engine.isDue
  cases hstatus : run.status <;> cases hpending : run.suspension <;>
    simp [Overdue, hstatus, hpending, Suspension.isOverdue, Option.any_eq_true]

/-- A sweep passes by the listed runs that are not overdue. -/
theorem any_isOverdue_iff {run : Run} {time : Instant} (hpaused : run.status = .paused) :
    run.suspension.any (·.isOverdue time) = true ↔ run.Overdue time := by
  simp [Overdue, hpaused, Suspension.isOverdue, Option.any_eq_true]

/-- What a run is like after it was timed out at an instant, with all that was nested in it. -/
structure TimedOut (now : Instant) (run ended : Run) : Prop where
  same : run.toLevel.SameRun ended.toLevel
  status : ended.status = .failed
  failure : ended.failure = some ⟨.timeout, Engine.expiredMessage, run.node, now⟩
  pending : ended.suspension = none
  /-- Nothing is nested in it any more. -/
  nested : ended.nested = []
  /-- It notes that its nested run has failed, if there is one, and then its own failure. -/
  history : ended.history =
    ((match run.nested with
      | [] => run.history
      | child :: _ =>
        run.history.note (.subflow child.flow child.id .failed child.history.nodes)).note
      (.failure .timeout Engine.expiredMessage))
  /-- All levels have handed their variables up. -/
  vars : ended.vars = gathered run.toLevel run.nested

/-- Whoever is terminated for having waited too long has timed out. -/
theorem timedOut_terminate (run : Run) (now : Instant) :
    run.TimedOut now (run.terminate .timeout Engine.expiredMessage now) where
  same := (unwind_ended .timeout Engine.expiredMessage now run.toLevel run.nested).1
  status := (unwind_ended .timeout Engine.expiredMessage now run.toLevel run.nested).2.1
  failure := by
    obtain ⟨own, hfail, -, hnode, -⟩ :=
      unwind_eq_fail .timeout Engine.expiredMessage now run.toLevel run.nested
    change (unwind _ _ _ _ _).failure = _
    rw [hfail, ← hnode]
    rfl
  pending := (unwind_ended .timeout Engine.expiredMessage now run.toLevel run.nested).2.2.1
  nested := rfl
  history := by
    change (unwind _ _ _ run.toLevel run.nested).history = _
    cases run.nested with
    | nil => rfl
    | cons child below =>
        obtain ⟨hsame, hstatus, -⟩ :=
          unwind_ended .timeout Engine.expiredMessage now child below
        simp only [unwind, Level.fail, Level.absorb, Level.note, hsame.flow, hsame.id, hstatus,
          unwind_nodes]
  vars := unwind_gathered _ _ _ _ _

end Run

namespace World

open Engine

variable {world swept : World}

/-! ## One run -/

/-- One run is timed out, and all others stand as before. -/
structure TimesOut (world : World) (run ended : Run) (after : World) : Prop where
  timedOut : run.TimedOut world.bounds.now ended
  own : after.standing run.id = ⟨some ended, none, 0⟩
  others : ∀ id, id ≠ run.id → after.standing id = world.standing id

theorem timesOut_terminate (world : World) (run : Run) :
    world.TimesOut run (run.terminate .timeout expiredMessage world.bounds.now)
      (world.terminate run .timeout expiredMessage).2 where
  timedOut := run.timedOut_terminate world.bounds.now
  own := by rw [standing_terminate, if_pos rfl]
  others := fun id hid => by rw [standing_terminate, if_neg hid.symm]

/-- What becomes of a stored paused run that is to expire, or that an event is for, depends only on
whether its time is over. -/
structure Decides (world : World) (run : Run) (due : Prop) : Prop where
  /-- Its expiry acts if its time is over. -/
  expires : due → ∀ who, ∃ ended after,
    world.proceed who (expire world.bounds run.id) = (.done (.ok (some ended)), after) ∧
      world.TimesOut run ended after
  /-- Otherwise its expiry does nothing. -/
  passes : ¬due → ∀ who,
    world.proceed who (expire world.bounds run.id) = (.done (.ok none), world)
  /-- An event that could resume it is refused, and the run times out, if its time is over. -/
  refuses : due → ∀ who event suspension, checkResumable run event = .ok suspension →
    ∃ ended after,
      world.proceed who (resume world.bounds run.id event) =
        (.done (.error (.stale run.id expiredMessage)), after) ∧
      world.TimesOut run ended after ∧ ¬∃ leg, world.Drives (.resume run.id event) leg
  /-- Otherwise it is driven, and its answer is what the drive comes to. -/
  drives : ¬due → ∀ event suspension graph, checkResumable run event = .ok suspension →
    world.flow run.flow = .ok graph →
    ∃ leg, world.Drives (.resume run.id event) leg ∧ leg.run = run ∧ ∀ who,
      world.proceed who (resume world.bounds run.id event) =
        (.done (.ok leg.run'), leg.world'.persist leg.run')

/-- An order that resumes a run answers with what its drive comes to. -/
theorem Drives.answer {id : Identifier} {event : Wakeup} {leg : Drive.Leg} (hworld : world.Ready)
    (h : world.Drives (.resume id event) leg) (who : Ticket) :
    world.proceed who (Engine.resume world.bounds id event) =
      (.done (.ok leg.run'), leg.world'.persist leg.run') := by
  cases h with
  | @resume _ run _ suspension graph first second run' wakes stored accepted timely look course
      done =>
      obtain ⟨rfl, rfl⟩ := Prod.mk.inj (Option.some.inj wakes)
      obtain ⟨second', other, course', hdriven⟩ :=
        (first.unalarmed run.id).course_driven graph run (some event.payload)
      have hbounds : (first.unalarmed run.id).bounds = world.bounds :=
        ((still_of_look look).trans (still_unalarmed run.id)).bounds
      rw [hbounds] at course'
      obtain ⟨rfl, rfl⟩ := course.unique course'
      rw [smooth_resume _ _ _ who _ hworld.toUndisturbed, obey_resume hworld.store, stored]
      dsimp only
      rw [resumed_driven accepted timely look, hdriven]

theorem decides_overdue (hworld : world.Ready) {run : Run}
    (hstored : world.store.find? run.id = some run) (hpaused : run.status = .paused) :
    world.Decides run (run.Overdue world.bounds.now) where
  expires := by
    intro hdue who
    refine ⟨_, _, ?_, world.timesOut_terminate run⟩
    rw [expire, smooth_expireAt _ _ _ _ who _ hworld.toUndisturbed, obey_expireAt hworld.store,
      hstored]
    simp only [Run.isDue_iff.mpr hdue, if_true]
    rfl
  passes := by
    intro htimely who
    rw [expire, smooth_expireAt _ _ _ _ who _ hworld.toUndisturbed, obey_expireAt hworld.store,
      hstored]
    simp only [mt Run.isDue_iff.mp htimely]
    rfl
  refuses := by
    intro hdue who event suspension haccepted
    obtain ⟨-, hpending⟩ := paused_of_checkResumable haccepted
    have hover := (Run.overdue_of_pending hpaused hpending).mp hdue
    refine ⟨_, _, ?_, world.timesOut_terminate run, ?_⟩
    · rw [smooth_resume _ _ _ who _ hworld.toUndisturbed, obey_resume hworld.store, hstored]
      simp only [resumed, haccepted, hover, if_true]
    · rintro ⟨leg, hdrives⟩
      cases hdrives with
      | resume wakes stored accepted timely look course done =>
          obtain ⟨hid, rfl⟩ := Prod.mk.inj (Option.some.inj wakes)
          rw [← hid, hstored] at stored
          obtain rfl := Option.some.inj stored
          rw [haccepted] at accepted
          obtain rfl := Except.ok.inj accepted
          simp [hover] at timely
  drives := by
    intro htimely event suspension graph haccepted hflow
    obtain ⟨-, hpending⟩ := paused_of_checkResumable haccepted
    have hearly : suspension.isOverdue world.bounds.now = false := by
      simpa using mt (Run.overdue_of_pending hpaused hpending).mpr htimely
    obtain ⟨leg, hdrives, hrun⟩ := drives_resume hworld
      (show (Order.resume run.id event).wakeup? = some (run.id, event) from rfl) hstored
      haccepted hearly hflow
    exact ⟨leg, hdrives, hrun, hdrives.answer hworld⟩

/-! ## Sweeps -/

/-- A sweep leaves listed runs alone that are not overdue. -/
theorem obey_expireEach_idle {time : Instant} {runs : List Run}
    (hidle : ∀ run ∈ runs, run.status = .paused ∧ ¬run.Overdue time) :
    world.obey (expireEach world.bounds time runs) = (.ok [], world) := by
  induction runs with
  | nil => rfl
  | cons run rest ih =>
      obtain ⟨hpaused, htimely⟩ := hidle run (.head _)
      rw [expireEach, if_neg (mt (Run.any_isOverdue_iff hpaused).mp htimely)]
      exact ih fun other hother => hidle other (.tail _ hother)

/-- What becomes of a world in which those of several listed runs are timed out that are overdue. -/
structure SweepsOver (world : World) (time : Instant) (runs : List Run) (after : World) :
    Prop where
  ascending : after.store.Ascending
  due : ∀ run ∈ runs, run.Overdue time → ∃ ended, run.TimedOut world.bounds.now ended ∧
    after.standing run.id = ⟨some ended, none, 0⟩
  others : ∀ id, (∀ run ∈ runs, run.id = id → ¬run.Overdue time) →
    after.standing id = world.standing id

/-- A sweep times out those of the listed runs that are overdue, and answers with them. -/
theorem obey_expireEach (hstore : world.store.outage = {}) (hascending : world.store.Ascending)
    (time : Instant) {runs : List Run}
    (hlisted : ∀ run ∈ runs, run.status = .paused ∧ world.store.find? run.id = some run)
    (hapart : runs.Pairwise (·.id ≠ ·.id)) :
    ∃ after, world.obey (expireEach world.bounds time runs) =
        (.ok ((runs.filter (isDue · none time)).map fun run => run.id), after) ∧
      world.SweepsOver time runs after := by
  induction runs generalizing world with
  | nil => exact ⟨world, rfl, hascending, (fun _ hrun => nomatch hrun), fun _ _ => rfl⟩
  | cons run rest ih =>
      obtain ⟨hpaused, hfound⟩ := hlisted run (.head _)
      obtain ⟨hother, hrest⟩ := List.pairwise_cons.mp hapart
      by_cases hdue : run.Overdue time
      · have hone := world.timesOut_terminate run
        have hbounds : (world.terminate run .timeout expiredMessage).2.bounds = world.bounds := rfl
        -- The others are still stored as they are listed once this one is timed out.
        obtain ⟨after, hobey, hswept⟩ :=
          @ih (world.terminate run .timeout expiredMessage).2 hstore
            (hascending.put _) (fun other hmem => by
              rw [store_terminate, if_neg (hother other hmem)]
              exact hlisted other (.tail _ hmem)) hrest
        rw [hbounds] at hobey
        refine ⟨after, ?_, hswept.ascending, ?_, ?_⟩
        · rw [expireEach, if_pos ((Run.any_isOverdue_iff hpaused).mpr hdue), obey_bind,
            obey_expireAt hstore, hfound]
          simp only [Run.isDue_iff.mpr hdue, if_true]
          rw [obey_bind, hobey,
            List.filter_cons_of_pos (p := (isDue · none time)) (Run.isDue_iff.mpr hdue)]
          rfl
        · intro other hmem hover
          rcases List.mem_cons.mp hmem with rfl | hmem
          · refine ⟨_, hone.timedOut, ?_⟩
            rw [hswept.others _ fun third hthird hid => (hother third hthird hid.symm).elim]
            exact hone.own
          · exact hswept.due other hmem hover
        · intro id hid
          rw [hswept.others id fun other hmem => hid other (.tail _ hmem)]
          exact hone.others id fun heq => hid run (.head _) heq.symm hdue
      · obtain ⟨after, hobey, hswept⟩ :=
          ih hstore hascending (fun other hmem => hlisted other (.tail _ hmem)) hrest
        refine ⟨after, ?_, hswept.ascending, ?_, ?_⟩
        · rw [expireEach, if_neg (mt (Run.any_isOverdue_iff hpaused).mp hdue), hobey,
            List.filter_cons_of_neg (p := (isDue · none time)) (mt Run.isDue_iff.mp hdue)]
        · intro other hmem hover
          rcases List.mem_cons.mp hmem with rfl | hmem
          · exact absurd hover hdue
          · exact hswept.due other hmem hover
        · exact fun id hid => hswept.others id fun other hmem => hid other (.tail _ hmem)

/-- What a sweep over all stored runs comes to: the runs that it answers with and the world after
it. -/
structure Sweeps (world : World) (time : Instant) (ids : List Identifier) (after : World) :
    Prop where
  answer : ∀ who, world.proceed who (expireDue world.bounds time) = (.done (.ok ids), after)
  once : ids.Nodup
  mem : ∀ id, id ∈ ids ↔ ∃ run, world.store.find? id = some run ∧ run.Overdue time
  due : ∀ id run, id ∈ ids → world.store.find? id = some run →
    ∃ ended, run.TimedOut world.bounds.now ended ∧ after.standing id = ⟨some ended, none, 0⟩
  others : ∀ id, id ∉ ids → after.standing id = world.standing id

/-- A world that is ready for orders, with its runs in order. -/
structure Ordered (world : World) : Prop extends world.Ready where
  ascending : world.store.Ascending

theorem Ordered.atTime (h : world.Ordered) (now : Instant) : (world.atTime now).Ordered :=
  ⟨h.toReady.atTime now, h.ascending⟩

theorem Ordered.listed (h : world.Ordered) {run : Run} :
    run ∈ world.store.all (some .paused) ↔
      run.status = .paused ∧ world.store.find? run.id = some run := by
  rw [Store.mem_all]
  constructor
  · rintro ⟨hmem, hpaused⟩
    exact ⟨by simpa using hpaused, h.ascending.find? hmem⟩
  · rintro ⟨hpaused, hfound⟩
    exact ⟨Store.mem_of_find? hfound, by simp [hpaused]⟩

theorem Ordered.apart (h : world.Ordered) :
    (world.store.all (some .paused)).Pairwise (·.id ≠ ·.id) := by
  have hnodup := h.ascending.nodup.sublist
    ((List.filter_sublist (p := fun run : Run => (some Status.paused).all (run.status == ·))).map
      fun run => run.id)
  have hperm := (List.mergeSort_perm
    (world.store.runs.filter fun run => (some Status.paused).all (run.status == ·))
    fun a b => a.createdAt.le b.createdAt).map fun run => run.id
  exact List.pairwise_map.mp (hperm.nodup_iff.mpr hnodup)

/-- Every sweep comes to something. -/
theorem Ordered.sweeps (h : world.Ordered) (time : Instant) :
    ∃ ids after, world.Sweeps time ids after ∧ after.Ordered := by
  obtain ⟨after, hobey, hswept⟩ := obey_expireEach h.store h.ascending time
    (fun run hrun => h.listed.mp hrun) h.apart
  have hanswer (who : Ticket) : world.proceed who (expireDue world.bounds time) =
      (.done (.ok (((world.store.all (some .paused)).filter (isDue · none time)).map
        fun run => run.id)), after) := by
    rw [smooth_expireDue _ _ who _ h.toUndisturbed, expireDue, obey_bind, attend_list h.store]
    dsimp only
    rw [hobey]
  have hready : after.Ready := by
    have hcarried := h.toReady.carryOut (.expireDue time)
    rwa [carryOut, hanswer 0] at hcarried
  have hmem (id : Identifier) : id ∈ ((world.store.all (some .paused)).filter
      (isDue · none time)).map (fun run => run.id) ↔
        ∃ run, world.store.find? id = some run ∧ run.Overdue time := by
    simp only [List.mem_map, List.mem_filter, h.listed, Run.isDue_iff]
    constructor
    · rintro ⟨run, ⟨⟨-, hfound⟩, hdue⟩, rfl⟩
      exact ⟨run, hfound, hdue⟩
    · rintro ⟨run, hfound, hdue⟩
      obtain rfl := Store.id_of_find? hfound
      exact ⟨run, ⟨⟨hdue.1, hfound⟩, hdue⟩, rfl⟩
  refine ⟨_, after, ⟨hanswer, ?_, hmem, ?_, ?_⟩, ⟨hready, hswept.ascending⟩⟩
  · exact List.pairwise_map.mpr (h.apart.filter _)
  · intro id run hid hfound
    obtain rfl := Store.id_of_find? hfound
    obtain ⟨run', hfound', hdue⟩ := (hmem _).mp hid
    obtain rfl := Option.some.inj (hfound.symm.trans hfound')
    exact hswept.due run (h.listed.mpr ⟨hdue.1, hfound⟩) hdue
  · intro id hid
    refine hswept.others id fun run hrun heq hdue => hid ((hmem id).mpr ⟨run, ?_, hdue⟩)
    rw [← heq]
    exact (h.listed.mp hrun).2

/-- A sweep does nothing at all where nobody is overdue. -/
theorem Ordered.sweeps_nobody (h : world.Ordered) {time : Instant}
    (hnobody : ∀ id run, world.store.find? id = some run → ¬run.Overdue time) :
    world.Sweeps time [] world where
  answer := by
    intro who
    have hidle : world.obey (expireEach world.bounds time (world.store.all (some .paused))) =
        (.ok [], world) := by
      refine obey_expireEach_idle fun run hrun => ?_
      obtain ⟨hpaused, hfound⟩ := h.listed.mp hrun
      exact ⟨hpaused, hnobody _ run hfound⟩
    rw [smooth_expireDue _ _ who _ h.toUndisturbed, expireDue, obey_bind, attend_list h.store]
    dsimp only
    rw [hidle]
  once := List.nodup_nil
  mem := by
    intro id
    simp only [List.not_mem_nil, false_iff]
    rintro ⟨run, hfound, hdue⟩
    exact hnobody id run hfound hdue
  due := fun _ _ hid => nomatch hid
  others := fun _ _ => rfl

/-- A run that is stored after a sweep and overdue at some instant was stored before it as it is,
and not overdue then. -/
theorem Sweeps.overdue_after {time time' : Instant} {ids : List Identifier} {after : World}
    (h : world.Sweeps time ids after) {id : Identifier} :
    (∃ run, after.store.find? id = some run ∧ run.Overdue time') ↔
      id ∉ ids ∧ ∃ run, world.store.find? id = some run ∧ run.Overdue time' := by
  by_cases hid : id ∈ ids
  · obtain ⟨run, hfound, -⟩ := (h.mem id).mp hid
    obtain ⟨ended, htimed, hstands⟩ := h.due id run hid hfound
    have hfound' : after.store.find? id = some ended := congrArg Standing.run hstands
    simp [hfound', hid, Run.Overdue, htimed.status]
  · have hsame : after.store.find? id = world.store.find? id :=
      congrArg Standing.run (h.others id hid)
    simp [hsame, hid]

/-- Two sweeps one after the other time out the runs that the later one alone does. -/
theorem Sweeps.perm {first second now time earlier : Instant} {ids ids₁ ids₂ : List Identifier}
    {after between final : World} (hlate : earlier.le time = true)
    (halone : (world.atTime now).Sweeps time ids after)
    (hfirst : (world.atTime first).Sweeps earlier ids₁ between)
    (hsecond : (between.atTime second).Sweeps time ids₂ final) : (ids₁ ++ ids₂).Perm ids := by
  have hin (id : Identifier) : id ∈ ids₂ ↔ id ∉ ids₁ ∧ id ∈ ids :=
    (hsecond.mem id).trans (hfirst.overdue_after.trans
      (and_congr_right fun _ => (halone.mem id).symm))
  have hsub (id : Identifier) (hid : id ∈ ids₁) : id ∈ ids := by
    obtain ⟨run, hfound, hdue⟩ := (hfirst.mem id).mp hid
    exact (halone.mem id).mpr ⟨run, hfound, hdue.mono hlate⟩
  refine (List.perm_ext_iff_of_nodup ?_ halone.once).mpr fun id => ?_
  · refine List.nodup_append'.mpr ⟨hfirst.once, hsecond.once, fun id hid hid' => ?_⟩
    exact ((hin id).mp hid').1 hid
  · rw [List.mem_append, hin]
    constructor
    · rintro (hid | ⟨-, hid⟩)
      · exact hsub id hid
      · exact hid
    · intro hid
      by_cases hearly : id ∈ ids₁
      · exact .inl hearly
      · exact .inr ⟨hearly, hid⟩

/-! ## Any orders -/

theorem ordered_after (registry : Registry) (settings : Settings) (start : Instant)
    (definitions : List Flow) (send : Ledger → String → Message → Except DispatchError String)
    (assign : Ledger → String → String → Except AssignmentError Unit) (supply : Supply)
    (orders : List (Instant × Order)) :
    ((openedWith registry settings start definitions send assign supply).after orders).Ordered where
  toReady := ready_after (ready_openedWith registry settings start definitions send assign supply)
    orders
  ascending := by
    refine (Watched.after ⟨fun id => ?_, ?_, ?_⟩
      (ready_openedWith registry settings start definitions send assign supply)
      (numbered_openedWith registry settings start definitions send assign supply)
      orders).ascending
    · rfl
    · exact List.nodup_nil
    · exact List.Pairwise.nil

/-- After any orders, a sweep, an expiry and an event agree on which paused runs have waited too
long at an instant.  A sweep times out exactly these; a second one that looks no further finds
nobody, and one that looks further times out, together with the first, whom it would have timed out
alone. -/
theorem expiry_paths_agree (registry : Registry) (settings : Settings) (start : Instant)
    (definitions : List Flow) (send : Ledger → String → Message → Except DispatchError String)
    (assign : Ledger → String → String → Except AssignmentError Unit) (supply : Supply)
    (orders : List (Instant × Order)) (now time : Instant) :
    let world :=
      (openedWith registry settings start definitions send assign supply).after orders
    ∃ ids after, (world.atTime now).Sweeps time ids after ∧
      (∀ run, world.store.find? run.id = some run → run.status = .paused →
        (world.atTime time).Decides run (run.id ∈ ids)) ∧
      (∀ later earlier, earlier.le time = true →
        (after.atTime later).Sweeps earlier [] (after.atTime later)) ∧
      ∀ first second earlier, earlier.le time = true → ∃ ids₁ ids₂ between final,
        (world.atTime first).Sweeps earlier ids₁ between ∧
        (between.atTime second).Sweeps time ids₂ final ∧ (ids₁ ++ ids₂).Perm ids := by
  intro world
  have hordered : world.Ordered :=
    ordered_after registry settings start definitions send assign supply orders
  obtain ⟨ids, after, hsweeps, hafter⟩ := (hordered.atTime now).sweeps time
  refine ⟨ids, after, hsweeps, ?_, ?_, ?_⟩
  · intro run hstored hpaused
    have hin : run.id ∈ ids ↔ run.Overdue time := by
      refine (hsweeps.mem run.id).trans ⟨?_, fun hdue => ⟨run, hstored, hdue⟩⟩
      rintro ⟨run', hstored', hdue⟩
      obtain rfl := Option.some.inj (hstored.symm.trans hstored')
      exact hdue
    have hdecides := decides_overdue (hordered.toReady.atTime time) hstored hpaused
    exact propext hin ▸ hdecides
  · intro later earlier hlate
    refine (hafter.atTime later).sweeps_nobody fun id run hfound hdue => ?_
    obtain ⟨hid, other, hfound', hdue'⟩ :=
      hsweeps.overdue_after.mp ⟨run, hfound, hdue.mono hlate⟩
    exact hid ((hsweeps.mem id).mpr ⟨other, hfound', hdue'⟩)
  · intro first second earlier hlate
    obtain ⟨ids₁, between, hfirst, hbetween⟩ := (hordered.atTime first).sweeps earlier
    obtain ⟨ids₂, final, hsecond, -⟩ := (hbetween.atTime second).sweeps time
    exact ⟨ids₁, ids₂, between, final, hfirst, hsecond, hsweeps.perm hlate hfirst hsecond⟩

/-- A run whose nested run has five seconds for an answer is timed out at the end of the fifth one,
and not a nanosecond earlier. -/
theorem expiry_paths_agree_sample :
    let id : Identifier := ⟨sample.supply.firstRun⟩
    let world := (openedWith .standard { inputTimeout := some 5000 } ⟨0, 0⟩
      [.calling "outer" "inner", .asking "inner"] (fun _ _ _ => .ok "sent")
      (fun _ _ _ => .ok ()) {}).after [(⟨0, 0⟩, .start { flow := "outer", contactId := "ann" })]
    (∃ ids after, (world.atTime ⟨9, 0⟩).Sweeps ⟨5, 0⟩ ids after ∧ id ∈ ids) ∧
      ∃ ids after, (world.atTime ⟨9, 0⟩).Sweeps ⟨4, 999999999⟩ ids after ∧ id ∉ ids := by
  intro id world
  have hsweeps (time : Instant) : ∃ ids after, (world.atTime ⟨9, 0⟩).Sweeps time ids after := by
    obtain ⟨ids, after, hsweeps, -⟩ := expiry_paths_agree .standard { inputTimeout := some 5000 }
      ⟨0, 0⟩ [.calling "outer" "inner", .asking "inner"] (fun _ _ _ => .ok "sent")
      (fun _ _ _ => .ok ()) {} [(⟨0, 0⟩, .start { flow := "outer", contactId := "ann" })]
      ⟨9, 0⟩ time
    exact ⟨ids, after, hsweeps⟩
  have hover : (world.store.find? id).any (isDue · none ⟨5, 0⟩) = true := by decide +kernel
  have hearly : (world.store.find? id).any (isDue · none ⟨4, 999999999⟩) = false := by
    decide +kernel
  obtain ⟨run, hstored, hdue⟩ := (Option.any_eq_true _ _).mp hover
  obtain ⟨ids, after, hfirst⟩ := hsweeps ⟨5, 0⟩
  obtain ⟨ids', after', hsecond⟩ := hsweeps ⟨4, 999999999⟩
  refine ⟨⟨ids, after, hfirst, ?_⟩, ids', after', hsecond, fun hid => ?_⟩
  · exact (hfirst.mem id).mpr ⟨run, hstored, Run.isDue_iff.mp hdue⟩
  · obtain ⟨run', hstored', hdue'⟩ := (hsecond.mem id).mp hid
    obtain rfl := Option.some.inj (hstored.symm.trans hstored')
    rw [hstored, Option.any_some, Run.isDue_iff.mpr hdue'] at hearly
    cases hearly

end World

end Dialogue
