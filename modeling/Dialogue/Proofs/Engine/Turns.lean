import Dialogue.Proofs.Engine.Exclusion

/-!
# Turns

One lemma for each thing that a turn of a call may be: the call begins, is refused,
waits, is given the permit, has a request of its work answered, or gives the permit
back.  `step` puts them together, and `course` is any number of turns.
-/

namespace Dialogue

namespace Contention

open Engine Operating

variable {calls : Contention} {traffic traffic' : Traffic} {order queue queue' : List Ticket}
  {busy : Option Ticket} {who : Ticket}

/-- A call that is not among those that have given the permit back leaves these where they are. -/
theorem Places.finished_kept (h : calls.Places traffic order queue busy) (horder : who ∉ order)
    (hspares : ∀ other, other ≠ who → Spares other traffic traffic') (before : List Ticket)
    (other : Ticket) (after : List Ticket) (hsplit : order = before ++ other :: after) :
    ∃ run saved, calls.Finished traffic' before other run saved := by
  obtain ⟨run, saved, hfinished⟩ := h.finished before other after hsplit
  have hother : other ≠ who := by
    rintro rfl
    exact horder (by simp [hsplit])
  exact ⟨run, saved, hfinished.spared (hspares other hother)⟩

theorem Places.stay (h : calls.Places traffic order queue busy) (horder : who ∉ order)
    (hbusy : busy ≠ some who)
    (hspares : ∀ other, other ≠ who → Spares other traffic traffic')
    (hreads : ∀ other, other ≠ who → ∀ id run, Log.Reads id traffic.log other run →
      Log.Reads id traffic'.log other run)
    (halone : ∀ now, traffic'.world.alone now = traffic.world.alone now)
    (hpermits : traffic'.world.permits = .queued calls.first.key queue')
    (hwaiting : queue'.Nodup) (hqueue : ∀ other, other ≠ who → (other ∈ queue' ↔ other ∈ queue))
    (hfront : ∀ front, queue.head? = some front → queue'.head? = some front)
    (hout : calls.Outside queue' who (traffic'.left who) (Log.share who traffic'.log)) :
    calls.Places traffic' order queue' busy where
  permits := hpermits
  once := h.once
  waiting := hwaiting
  apart := fun other hother => by
    rw [hqueue other (ne_of_mem_of_not_mem hother horder)]
    exact h.apart other hother
  finished := h.finished_kept horder hspares
  outside := fun other hother hidle => by
    by_cases heq : other = who
    · exact heq ▸ hout
    · exact (h.outside other hother hidle).spared (hspares other heq) (hqueue other heq)
  atWork := by
    have hwork := h.atWork
    cases hwork with
    | nobody idle => exact .nobody fun now => (halone now).trans (idle now)
    | @one worker run saved past rest front inside =>
        have hworker : worker ≠ who := fun heq => hbusy (congrArg some heq)
        exact .one (hfront worker front)
          (inside.spared (hspares worker hworker) (hreads worker hworker) halone)

/-- A call stays without the permit when it was answered something. -/
theorem Places.stay_answered (h : calls.Places traffic order queue busy) (horder : who ∉ order)
    (hbusy : busy ≠ some who) {exchange : Exchange} {rest : Operating Report} {world : World}
    (hsave : exchange.1.isSave = false)
    (halone : ∀ now, world.alone now = traffic.world.alone now)
    (hpermits : world.permits = traffic.world.permits)
    (hout : calls.Outside queue who rest (Log.share who traffic.log ++ [exchange])) :
    calls.Places (traffic.answered who exchange rest world) order queue busy := by
  refine h.stay horder hbusy (fun other hother => spares_answered hother _ _ _)
    (fun other hother id run hread => ?_) halone (hpermits.trans h.permits) h.waiting
    (fun _ _ => .rfl) (fun _ hfront => hfront) ?_
  · exact hread.snoc hsave fun hwho => absurd hwho.symm hother
  · rw [Traffic.answered_left_self, Traffic.share_answered]
    exact hout

/-- Where nobody is at work, a call at the head of the queue is given the permit. -/
theorem Places.enter (h : calls.Places traffic order queue none) (horder : who ∉ order)
    {early : Run} (hshare : Log.share who traffic.log =
      [⟨.load calls.first.id, .ok (some early)⟩])
    (world : World) (halone : ∀ now, world.alone now = traffic.world.alone now)
    (hpermits : world.permits = .queued calls.first.key queue') (hwaiting : queue'.Nodup)
    (hqueue : ∀ other, other ≠ who → (other ∈ queue' ↔ other ∈ queue))
    (hfront : queue'.head? = some who) :
    calls.Places
      (traffic.answered who (calls.grant who) (closing calls.first.key (calls.work who)) world)
      order queue' (some who) := by
  have hspares (other : Ticket) (hother : other ≠ who) := @spares_answered traffic other who hother
    (calls.grant who) (closing calls.first.key (calls.work who)) world
  refine ⟨hpermits, h.once, hwaiting, fun other hother => ?_, h.finished_kept horder hspares,
    fun other hother hidle => ?_, ?_⟩
  · rw [hqueue other (ne_of_mem_of_not_mem hother horder)]
    exact h.apart other hother
  · have heq : other ≠ who := fun heq => hidle (congrArg some heq.symm)
    exact (h.outside other hother (by simp)).spared (hspares other heq) (hqueue other heq)
  · obtain ⟨run, saved, hturn⟩ := calls.turn order who
    have hscene : world.alone (calls.attempts who).now = calls.scene order who := by
      rw [halone, h.atWork.idle, (calls.sound_after order).alone]
      rfl
    have hgranted := traffic.share_answered who (calls.grant who)
      (closing calls.first.key (calls.work who)) world
    rw [hshare] at hgranted
    have hinside : calls.Inside _ order who run saved [] (calls.work who) :=
      ⟨hturn, Traffic.answered_left_self, ⟨early, hgranted⟩, by rw [← hscene]; rfl,
        by rw [← hscene]; rfl, by simp, by simp⟩
    exact .one hfront hinside

/-- What is left of the work of a call comes to the same after one of its requests. -/
theorem Inside.ask {run : Run} {saved : Option Run} {past : List Exchange} {q : Request}
    {next : q.Answer → Operating Report}
    (h : calls.Inside traffic order who run saved past (.ask q next)) {answer : q.Answer}
    {world : World} (hattend : World.attend q (traffic.world.alone (calls.attempts who).now) =
      (answer, world.alone (calls.attempts who).now)) :
    calls.Inside
      (traffic.answered who ⟨q, answer⟩ (closing calls.first.key (next answer)) world)
      order who run saved (past ++ [⟨q, answer⟩]) (next answer) := by
  have htranscript : (calls.scene order who).transcript (calls.work who) = past ++ ⟨q, answer⟩ ::
      (world.alone (calls.attempts who).now).transcript (next answer) := by
    rw [h.transcript, World.transcript_ask, hattend]
  obtain ⟨early, hshare⟩ := h.share
  refine ⟨h.turn, Traffic.answered_left_self, ⟨early, ?_⟩, ?_, ?_, ?_, ?_⟩
  · rw [Traffic.share_answered, hshare]
    rfl
  · rw [htranscript]
    simp [Traffic.answered]
  · rw [h.obey, World.obey_ask, hattend]
    rfl
  · -- the run is read when it is loaded, and stays read until something is stored
    intro mid hpast hmid
    cases past with
    | nil =>
        obtain ⟨hload, rfl⟩ := List.cons.inj hpast
        cases hload
        rw [h.turn.id]
        exact ⟨traffic.log, [], rfl, h.permitted, fun _ hentry => absurd hentry List.not_mem_nil⟩
    | cons first rest =>
        -- nothing else is loaded, since the run is loaded first and once only
        rw [List.cons_append] at hpast
        obtain ⟨rfl, rfl⟩ := List.cons.inj hpast
        have hsave : q.isSave = false := hmid ⟨q, answer⟩ (by simp)
        have hload : q.isLoad = false := by
          by_contra hload
          exact absurd (h.turn.stint.load_first htranscript (by simpa using hload)).1 (by simp)
        exact (h.reads rest rfl fun x hx => hmid x (by simp [hx])).snoc hsave fun _ => hload
  · rintro ⟨x, hx, hsave⟩ token hawaits
    rcases List.mem_append.mp hx with hx | hx
    · exact (h.took ⟨x, hx, hsave⟩ token hawaits).append _
    · obtain rfl := List.mem_singleton.mp hx
      cases q with
      | save run' =>
          obtain ⟨-, rfl, mid, rfl, hmid⟩ := h.turn.stint.save_once htranscript
          exact (h.reads mid rfl hmid).took hawaits run'
      | _ => simp [Request.isSave] at hsave

/-- A call at work has one of its requests answered. -/
theorem step_work (hbooks : calls.Books traffic order)
    (hplaces : calls.Places traffic order queue (some who)) (hfront : queue.head? = some who)
    {run : Run} {saved : Option Run} {past : List Exchange} {q : Request}
    {next : q.Answer → Operating Report}
    (hinside : calls.Inside traffic order who run saved past (.ask q next)) :
    calls.Books (traffic.advance calls.attempts who) order ∧
      calls.Places (traffic.advance calls.attempts who) order queue (some who) := by
  have hsplit := hinside.transcript
  rw [World.transcript_ask] at hsplit
  have hpermit : q.forPermit = false := hinside.turn.stint.not_permit hsplit
  obtain ⟨world, hanswer, hpermits, halone⟩ :=
    World.answer_alone hbooks.serving.holds hpermit who (calls.attempts who).now
  have hnext := hinside.ask (Prod.ext rfl halone.symm)
  rw [Traffic.advance_answered hinside.left hanswer]
  constructor
  · cases hsave : q.isSave with
    | false => exact hbooks.quiet hanswer hsave _
    | true =>
        cases q with
        | save run' =>
            -- the tokens of the world before were known there, and that of the new suspension is
            -- given out in the work of the call
            obtain ⟨rfl, -, mid, hpast, hmid⟩ := hinside.turn.stint.save_once hsplit
            have hissued := hinside.turn.stint.saved_run.2
            have hready := (calls.sound_after order).ready.atTime (calls.attempts who).now
            refine hbooks.save hanswer _ (hinside.reads mid hpast hmid)
              (hinside.turn.makes hready) ?_ ?_
            · rintro token ⟨suspension, hpending, rfl⟩
              exact (calls.sound_after order).tracked calls.first.id suspension.token
                ⟨run, suspension, hinside.turn.found, hpending, rfl⟩
            · rintro token ⟨suspension, hpending, rfl⟩
              exact (hissued suspension hpending).not_known
        | _ => simp [Request.isSave] at hsave
  · refine ⟨hpermits.trans hplaces.permits, hplaces.once, hplaces.waiting, hplaces.apart, ?_, ?_,
      .one hfront hnext⟩
    · refine hplaces.finished_kept (fun horder => hplaces.apart who horder ?_)
        fun other hother => spares_answered hother _ _ _
      exact List.mem_of_mem_head? hfront
    · intro other horder hidle
      have hother : other ≠ who := fun heq => hidle (congrArg some heq.symm)
      exact (hplaces.outside other horder hidle).spared (spares_answered hother _ _ _) .rfl

/-- A call that has done its work has come to what it would have come to alone. -/
theorem Inside.leave {run : Run} {saved : Option Run} {past : List Exchange} {report : Report}
    (h : calls.Inside traffic order who run saved past (.done report)) (world : World) :
    calls.Finished
      (traffic.answered who ⟨.unlock calls.first.key, ()⟩ (.done report) world)
      order who run saved := by
  have hended : (calls.scene order who).obey (calls.work who) =
      (report, traffic.world.alone (calls.attempts who).now) := h.obey
  have hpast : (calls.scene order who).transcript (calls.work who) = past :=
    h.transcript.trans (List.append_nil past)
  obtain ⟨early, hshare⟩ := h.share
  refine ⟨h.turn, ?_, ⟨early, ?_⟩, fun hsaved token hawaits => ?_⟩
  · rw [Traffic.answered_left_self, hended]
  · rw [Traffic.share_answered, hshare, hpast]
    rfl
  · obtain ⟨run', rfl⟩ := Option.isSome_iff_exists.mp hsaved
    have hmem := h.turn.stint.mem_save
    rw [hpast] at hmem
    exact (h.took ⟨_, hmem, rfl⟩ token hawaits).append _

/-- A call that has done its work gives the permit back. -/
theorem step_leave (hbooks : calls.Books traffic order)
    (hplaces : calls.Places traffic order queue (some who)) (hfront : queue.head? = some who)
    {run : Run} {saved : Option Run} {past : List Exchange} {report : Report}
    (hinside : calls.Inside traffic order who run saved past (.done report)) :
    calls.Books (traffic.advance calls.attempts who) (order ++ [who]) ∧
      calls.Places (traffic.advance calls.attempts who) (order ++ [who]) queue.tail none := by
  obtain ⟨others, rfl⟩ : ∃ others, queue = who :: others := by
    cases queue with
    | nil => simp at hfront
    | cons front others =>
        obtain rfl := Option.some.inj hfront
        exact ⟨others, rfl⟩
  obtain ⟨habsent, hothers⟩ := List.nodup_cons.mp hplaces.waiting
  have horder : who ∉ order := fun hmem => hplaces.apart who hmem (.head _)
  have hpermits : (traffic.world.atTime (calls.attempts who).now).permits =
      .queued calls.first.key (who :: others) := hplaces.permits
  have hanswer := @World.answer_unlock _ who _ _ hpermits
  have hleft : traffic.left who = .ask (.unlock calls.first.key) fun _ => .done report :=
    hinside.left
  rw [Traffic.advance_answered hleft hanswer]
  refine ⟨(hbooks.quiet hanswer rfl _).renews (calls.renews_snoc order who), rfl, ?_, hothers,
    ?_, ?_, ?_, ?_⟩
  · simpa using List.Nodup.concat horder hplaces.once
  · intro other hmem
    rcases List.mem_append.mp hmem with hmem | hmem
    · exact fun hother => hplaces.apart other hmem (.tail _ hother)
    · exact List.mem_singleton.mp hmem ▸ habsent
  · intro before other after hsplit
    rcases split_snoc hsplit with ⟨rfl, rfl, -⟩ | ⟨rest, -, hsplit⟩
    · exact ⟨run, saved, hinside.leave _⟩
    · exact hplaces.finished_kept horder (fun other hother => spares_answered hother _ _ _)
        before other rest hsplit
  · intro other hmem hidle
    rw [List.mem_append, List.mem_singleton, not_or] at hmem
    have hqueue : other ∈ others ↔ other ∈ who :: others := by simp [hmem.2]
    exact (hplaces.outside other hmem.1 (by simpa using Ne.symm hmem.2)).spared
      (spares_answered hmem.2 _ _ _) hqueue
  · -- the work has ended in the world that one more call leaves
    refine .nobody fun now => ?_
    have hended : (calls.scene order who).obey (calls.work who) =
        (report, traffic.world.alone (calls.attempts who).now) := hinside.obey
    rw [(calls.sound_after order).after_snoc, hended]
    rfl

/-- A call begins with reading the run for its key. -/
theorem step_begin (hbooks : calls.Books traffic order)
    (hplaces : calls.Places traffic order queue busy) (horder : who ∉ order)
    (hbusy : busy ≠ some who) (habsent : who ∉ queue)
    (hleft : traffic.left who =
      (calls.attempts who).operation calls.start.bounds.settings calls.first.id)
    (hshare : Log.share who traffic.log = []) :
    calls.Books (traffic.advance calls.attempts who) order ∧
      calls.Places (traffic.advance calls.attempts who) order queue busy := by
  obtain ⟨next, heq, hnext⟩ :=
    (calls.attempts who).errand.operation_eq (calls.bounds who) calls.first.id
  obtain ⟨early, hearly⟩ : ∃ early, early = Log.current calls.first traffic.log := ⟨_, rfl⟩
  have hkey : early.key = calls.first.key := hearly ▸ hbooks.key
  have hanswer : (traffic.world.atTime (calls.attempts who).now).answer who
      (.load calls.first.id) =
        (some (.ok (some early)), traffic.world.atTime (calls.attempts who).now) := by
    have hload : traffic.world.store.load calls.first.id = .ok (some early) := by
      rw [hearly, ← hbooks.stored]
      simp [Store.load, hbooks.serving.store]
    exact congrArg (fun loaded => (some loaded, _)) hload
  rw [Traffic.advance_answered (hleft.trans heq) hanswer, hnext, hkey]
  refine ⟨hbooks.quiet hanswer rfl _, hplaces.stay_answered horder hbusy rfl (fun _ => rfl) rfl ?_⟩
  rw [hshare]
  exact .asking early fun hmem => absurd hmem habsent

/-- A call that waits for the permit queues up, and is at work if it is the first. -/
theorem step_wait (hbooks : calls.Books traffic order)
    (hplaces : calls.Places traffic order queue busy) (horder : who ∉ order)
    (hbusy : busy ≠ some who) (hwaits : (calls.attempts who).errand.waits = true) {early : Run}
    (hleft : traffic.left who =
      (calls.attempts who).errand.gate (calls.bounds who) calls.first.id calls.first.key)
    (hshare : Log.share who traffic.log = [⟨.load calls.first.id, .ok (some early)⟩]) :
    ∃ busy', calls.Books (traffic.advance calls.attempts who) order ∧
      calls.Places (traffic.advance calls.attempts who) order (World.queueUp queue who) busy' := by
  have hpermits : (traffic.world.atTime (calls.attempts who).now).permits =
      .queued calls.first.key queue := hplaces.permits
  have hanswer := @World.answer_lock _ who _ _ hpermits
  have hwaiting := World.nodup_queueUp hplaces.waiting who
  have hqueue (other : Ticket) (hother : other ≠ who) := @World.mem_queueUp who queue other hother
  have hasks := hleft
  rw [Errand.gate_of_waits _ _ hwaits] at hasks
  by_cases hfront : (World.queueUp queue who).head? = some who
  · rw [if_pos hfront] at hanswer
    have hgrant : calls.grant who = ⟨.lock calls.first.key, ()⟩ := if_pos hwaits
    have hidle : busy = none := by
      cases busy with
      | none => rfl
      | some worker =>
          rw [World.head?_queueUp hplaces.atWork.front.1] at hfront
          exact absurd hfront hbusy
    subst hidle
    have hentered := hplaces.enter horder hshare
      ((traffic.world.atTime (calls.attempts who).now).withPermits
        (.queued calls.first.key (World.queueUp queue who)))
      (fun _ => rfl) rfl hwaiting hqueue hfront
    rw [Traffic.advance_answered hasks hanswer]
    rw [hgrant] at hentered
    exact ⟨some who, hbooks.quiet hanswer rfl _, hentered⟩
  · rw [if_neg hfront] at hanswer
    have hserving := hbooks.serving_answer who (.lock calls.first.key)
    rw [hanswer] at hserving
    rw [Traffic.advance_blocked hasks hanswer]
    refine ⟨busy, ⟨hserving, hbooks.settings, hbooks.stored, hbooks.key, hbooks.coherent,
      hbooks.known⟩, hplaces.stay horder hbusy (fun _ _ => spares_blocked _)
      (fun _ _ _ _ hread => hread) (fun _ => rfl) rfl hwaiting hqueue
      (fun _ => World.head?_queueUp) ?_⟩
    change calls.Outside _ who (traffic.left who) (Log.share who traffic.log)
    rw [hleft, hshare]
    exact .asking early fun _ => hwaits

/-- An event is refused if the permit is held, or else at work. -/
theorem step_try (hbooks : calls.Books traffic order)
    (hplaces : calls.Places traffic order queue busy) (horder : who ∉ order)
    (hbusy : busy ≠ some who) (habsent : who ∉ queue)
    (hwaits : (calls.attempts who).errand.waits = false) {early : Run}
    (hleft : traffic.left who =
      (calls.attempts who).errand.gate (calls.bounds who) calls.first.id calls.first.key)
    (hshare : Log.share who traffic.log = [⟨.load calls.first.id, .ok (some early)⟩]) :
    ∃ queue' busy', calls.Books (traffic.advance calls.attempts who) order ∧
      calls.Places (traffic.advance calls.attempts who) order queue' busy' := by
  rw [Errand.gate_of_not_waits _ _ hwaits] at hleft
  cases queue with
  | nil =>
      have hanswer := @World.answer_tryLock_free (traffic.world.atTime (calls.attempts who).now)
        who _ hplaces.permits
      have hgrant : calls.grant who = ⟨.tryLock calls.first.key, true⟩ := if_neg (by simp [hwaits])
      obtain rfl := hplaces.busy_eq_none
      have hentered := hplaces.enter horder hshare
        ((traffic.world.atTime (calls.attempts who).now).withPermits
          (.queued calls.first.key [who]))
        (fun _ => rfl) rfl (List.nodup_singleton who) (fun other hother => by simp [hother]) rfl
      rw [Traffic.advance_answered hleft hanswer]
      rw [hgrant] at hentered
      exact ⟨[who], some who, hbooks.quiet hanswer rfl _, hentered⟩
  | cons holder others =>
      have hanswer := @World.answer_tryLock_held (traffic.world.atTime (calls.attempts who).now)
        who _ _ _ hplaces.permits
      rw [Traffic.advance_answered hleft hanswer]
      refine ⟨holder :: others, busy, hbooks.quiet hanswer rfl _,
        hplaces.stay_answered horder hbusy rfl (fun _ => rfl) rfl ?_⟩
      rw [hshare]
      exact .refused early habsent

/-- Whoever has the turn, the calls stay in order. -/
theorem step (hbooks : calls.Books traffic order)
    (hplaces : calls.Places traffic order queue busy) (who : Ticket) :
    ∃ order' queue' busy', calls.Books (traffic.advance calls.attempts who) order' ∧
      calls.Places (traffic.advance calls.attempts who) order' queue' busy' := by
  rcases hplaces.cases who with ⟨before, after, run, saved, -, hfinished⟩ |
    ⟨rfl, hfront, run, saved, past, rest, hinside⟩ | ⟨horder, hbusy, hout⟩
  · rw [Traffic.advance_done hfinished.left]
    exact ⟨_, _, _, hbooks, hplaces⟩
  · cases rest with
    | done report => exact ⟨_, _, _, step_leave hbooks hplaces hfront hinside⟩
    | ask q next => exact ⟨_, _, _, step_work hbooks hplaces hfront hinside⟩
  · generalize hleft : traffic.left who = left at hout
    generalize hshare : Log.share who traffic.log = share at hout
    cases hout with
    | fresh absent =>
        exact ⟨_, _, _, step_begin hbooks hplaces horder hbusy absent hleft hshare⟩
    | asking early waits =>
        cases hwaits : (calls.attempts who).errand.waits with
        | true =>
            obtain ⟨busy', hstep⟩ := step_wait hbooks hplaces horder hbusy hwaits hleft hshare
            exact ⟨_, _, _, hstep⟩
        | false =>
            have habsent : who ∉ queue := fun hmem => by simp [waits hmem] at hwaits
            obtain ⟨queue', busy', hstep⟩ :=
              step_try hbooks hplaces horder hbusy habsent hwaits hleft hshare
            exact ⟨_, _, _, hstep⟩
    | refused early absent =>
        rw [Traffic.advance_done hleft]
        exact ⟨_, _, _, hbooks, hplaces⟩

/-- The calls on a run after they had their turns. -/
def course (calls : Contention) (turns : List Ticket) : Traffic :=
  Traffic.course calls.attempts calls.start calls.first.id turns

theorem books_opening (calls : Contention) :
    calls.Books (calls.course []) [] where
  serving := ⟨calls.ready.holds, calls.ready.store, fun slot hslot => by
    rw [show (calls.course []).world.permits.slots = [] from calls.ready.free] at hslot
    exact absurd hslot List.not_mem_nil⟩
  settings := rfl
  stored := calls.stored
  key := rfl
  coherent := Log.coherent_nil
  known := by
    rintro who token ⟨before, after, run, run', hsplit, -⟩
    exact absurd hsplit (by simp [course, Traffic.course, Traffic.opening])

theorem places_opening (calls : Contention) :
    calls.Places (calls.course []) [] [] none where
  permits := congrArg Permits.mk calls.ready.free
  once := .nil
  waiting := .nil
  apart := by simp
  finished := by simp
  outside := fun who _ _ => .fresh List.not_mem_nil
  atWork := .nobody fun _ => rfl

/-- At every moment the calls are in order. -/
theorem course_in_order (calls : Contention) (turns : List Ticket) :
    ∃ order queue busy, calls.Books (calls.course turns) order ∧
      calls.Places (calls.course turns) order queue busy := by
  -- the last turn comes after all others, so the induction is on the list from its end
  induction turns using List.reverseRecOn with
  | nil => exact ⟨[], [], none, calls.books_opening, calls.places_opening⟩
  | append_singleton turns who ih =>
      obtain ⟨order, queue, busy, hbooks, hplaces⟩ := ih
      rw [course, Traffic.course, List.foldl_append]
      exact step hbooks hplaces who

end Contention

end Dialogue
