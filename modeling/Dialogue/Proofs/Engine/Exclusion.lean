import Dialogue.Proofs.Engine.Contention

/-!
# One call at a time

What is true of calls that contend for a run, whoever has the turn.  Some have given
the permit back: one after the other, each has done its work as if it had been alone.
At most one is at work, and what is left of its work comes to what the whole of it
would come to in the world that it has found.  The others have not been given the
permit.  So what a call stores comes from what was stored last.
-/

namespace Dialogue

namespace World

theorem store_answer (who : Ticket) {q : Request} (hq : q.isSave = false) (world : World) :
    (world.answer who q).2.store = world.store := by
  cases q with
  | call c =>
      cases c with
      | send contactId message =>
          simp only [answer, answerCall]
          split <;> rfl
      | _ => rfl
  | save run => simp [Request.isSave] at hq
  | tryLock key =>
      simp only [answer]
      split <;> rfl
  | _ => rfl

theorem bounds_answer (who : Ticket) (q : Request) (world : World) :
    (world.answer who q).2.bounds = world.bounds := by
  cases q with
  | call c =>
      cases c with
      | send contactId message =>
          simp only [answer, answerCall]
          split <;> rfl
      | _ => rfl
  | tryLock key =>
      simp only [answer]
      split <;> rfl
  | _ => rfl

end World

namespace Contention

open Engine Operating

variable (calls : Contention)

/-! ## What is stored -/

/-- The log tells what is stored, and a token that a run was taken off with has been given out. -/
structure Books (traffic : Traffic) (order : List Ticket) : Prop where
  serving : traffic.world.Serving
  settings : traffic.world.bounds.settings = calls.start.bounds.settings
  stored : traffic.world.store.find? calls.first.id =
    some (Log.current calls.first traffic.log)
  key : (Log.current calls.first traffic.log).key = calls.first.key
  coherent : Log.Coherent calls.Makes calls.first.id calls.first traffic.log
  known : ∀ who token, Log.Took calls.first.id traffic.log who token →
    (calls.after order).Known token

namespace Books

variable {calls} {traffic : Traffic} {order : List Ticket} {who : Ticket} {world : World}

theorem load_answer (h : calls.Books traffic order)
    {answer : Except FlowError (Option Run)}
    (hanswer : (traffic.world.atTime (calls.attempts who).now).answer who
      (.load calls.first.id) = (some answer, world)) :
    answer = .ok (some (Log.current calls.first traffic.log)) := by
  have hload : traffic.world.store.load calls.first.id = answer :=
    Option.some.inj (Prod.mk.inj hanswer).1
  rw [← hload, Store.load, h.serving.store, h.stored]
  rfl

theorem serving_answer (h : calls.Books traffic order) (who : Ticket) (q : Request) :
    (((traffic.world.atTime (calls.attempts who).now).answer who q).2).Serving :=
  (h.serving.atTime _).answer who q

/-- Nothing is stored. -/
theorem quiet (h : calls.Books traffic order) {q : Request} {answer : q.Answer}
    (hanswer : (traffic.world.atTime (calls.attempts who).now).answer who q =
      (some answer, world)) (hsave : q.isSave = false) (rest : Operating Report) :
    calls.Books (traffic.answered who ⟨q, answer⟩ rest world) order := by
  have hnone := @Entry.saved?_eq_none ⟨who, q, answer⟩ hsave
  have hcurrent : Log.current calls.first (traffic.log ++ [⟨who, q, answer⟩]) =
      Log.current calls.first traffic.log := by
    rw [Log.current_snoc, hnone]
    rfl
  have hserving := h.serving_answer who q
  have hstore := World.store_answer who hsave (traffic.world.atTime (calls.attempts who).now)
  have hbounds := World.bounds_answer who q (traffic.world.atTime (calls.attempts who).now)
  rw [hanswer] at hserving hstore hbounds
  refine ⟨hserving, ?_, ?_, ?_, h.coherent.snoc ⟨?_, ?_⟩, ?_⟩
  · exact (congrArg Bounds.settings hbounds).trans h.settings
  · change world.store.find? _ = some (Log.current _ (traffic.log ++ [_]))
    rw [hcurrent, hstore]
    exact h.stored
  · change (Log.current _ (traffic.log ++ [_])).key = _
    rw [hcurrent]
    exact h.key
  · intro loaded hexchange
    cases hexchange
    exact h.load_answer hanswer
  · intro run' hsaved
    simp [hnone] at hsaved
  · intro other token htook
    rcases htook.of_snoc with htook | ⟨run, run', hentry, -⟩
    · exact h.known other token htook
    · rw [hentry] at hnone
      simp [Entry.saved?] at hnone

/-- A call stores what comes from a run that it has read. -/
theorem save (h : calls.Books traffic order) {run run' : Run} {answer : Except FlowError Unit}
    (hanswer : (traffic.world.atTime (calls.attempts who).now).answer who (.save run') =
      (some answer, world)) (rest : Operating Report)
    (hread : Log.Reads calls.first.id traffic.log who run)
    (hmakes : calls.Makes who run run')
    (hknown : ∀ token, run.Awaits token → (calls.after order).Known token)
    (hnew : ∀ token, run'.Awaits token → ¬(calls.after order).Known token) :
    calls.Books (traffic.answered who ⟨.save run', answer⟩ rest world) order := by
  obtain rfl := h.coherent.reads_current hread
  have hsave : traffic.world.store.save run' = (.ok (), traffic.world.store.put run') := by
    simp [Store.save, h.serving.store]
  have hserving := h.serving_answer who (.save run')
  have hbounds :=
    World.bounds_answer who (.save run') (traffic.world.atTime (calls.attempts who).now)
  rw [hanswer] at hserving hbounds
  obtain ⟨hok, hworld⟩ := Prod.mk.inj hanswer
  have hstore : world.store = traffic.world.store.put run' := by
    rw [← hworld]
    exact congrArg Prod.snd hsave
  obtain rfl : .ok () = answer := (congrArg Prod.fst hsave).symm.trans (Option.some.inj hok)
  have hcurrent :
      Log.current calls.first (traffic.log ++ [⟨who, .save run', .ok ()⟩]) = run' := by
    rw [Log.current_snoc]
    rfl
  refine ⟨hserving, ?_, ?_, ?_, h.coherent.snoc ⟨?_, ?_⟩, ?_⟩
  · exact (congrArg Bounds.settings hbounds).trans h.settings
  · change world.store.find? _ = some (Log.current _ (traffic.log ++ [_]))
    rw [hcurrent, hstore, Store.find?_put, if_pos]
    exact hmakes.1.id.trans (Store.id_of_find? h.stored)
  · change (Log.current _ (traffic.log ++ [_])).key = _
    rw [hcurrent]
    exact hmakes.1.key.trans h.key
  · intro loaded hexchange
    cases hexchange
  · intro other hother
    obtain rfl := Option.some.inj hother
    refine ⟨rfl, _, hread, hmakes, fun token hawaits => ⟨fun hbefore => ?_, fun taker htook => ?_⟩⟩
    · exact hnew token hawaits (hknown token hbefore)
    · exact hnew token hawaits (h.known taker token htook)
  · intro taker token htook
    rcases htook.of_snoc with htook | ⟨run, other, hentry, hreads, hawaits⟩
    · exact h.known taker token htook
    · obtain rfl := congrArg Entry.who hentry
      rw [h.coherent.reads_current hreads] at hawaits
      exact hknown token hawaits

/-- A call has given the permit back. -/
theorem renews (h : calls.Books traffic order) {order' : List Ticket}
    (hrenews : (calls.after order).Renews (calls.after order')) : calls.Books traffic order' :=
  ⟨h.serving, h.settings, h.stored, h.key, h.coherent,
    fun who token htook => (h.known who token htook).renews hrenews⟩

end Books

/-! ## Who is where -/

/-- What a call is answered when it is given the permit. -/
def grant (who : Ticket) : Exchange :=
  if (calls.attempts who).errand.waits then ⟨.lock calls.first.key, ()⟩
  else ⟨.tryLock calls.first.key, true⟩

/-- A call that has not been given the permit, with what is left of it and what it was answered. -/
inductive Outside (queue : List Ticket) (who : Ticket) : Operating Report → List Exchange → Prop
  /-- It has not begun. -/
  | fresh (absent : who ∉ queue) :
      Outside queue who
        ((calls.attempts who).operation calls.start.bounds.settings calls.first.id) []
  /-- It asks for the permit, or waits for it. -/
  | asking (early : Run) (waits : who ∈ queue → (calls.attempts who).errand.waits = true) :
      Outside queue who
        ((calls.attempts who).errand.gate (calls.bounds who) calls.first.id calls.first.key)
        [⟨.load calls.first.id, .ok (some early)⟩]
  /-- It is an event that was refused. -/
  | refused (early : Run) (absent : who ∉ queue) :
      Outside queue who (.done (.resumed (.error (.busy calls.first.id))))
        [⟨.load calls.first.id, .ok (some early)⟩, ⟨.tryLock calls.first.key, false⟩]

/-- A call at work with the permit, which has come after others.  What is left of its work comes to
what the whole work comes to in the world that it has found. -/
structure Inside (traffic : Traffic) (order : List Ticket) (who : Ticket) (run : Run)
    (saved : Option Run) (past : List Exchange) (rest : Operating Report) : Prop where
  turn : calls.Turn (calls.scene order who) who run saved
  left : traffic.left who = closing calls.first.key rest
  share : ∃ early, Log.share who traffic.log =
    ⟨.load calls.first.id, .ok (some early)⟩ :: calls.grant who :: past
  transcript : (calls.scene order who).transcript (calls.work who) =
    past ++ (traffic.world.alone (calls.attempts who).now).transcript rest
  obey : (calls.scene order who).obey (calls.work who) =
    (traffic.world.alone (calls.attempts who).now).obey rest
  reads : ∀ mid, past = ⟨.load run.id, .ok (some run)⟩ :: mid →
    (∀ x ∈ mid, x.1.isSave = false) → Log.Reads calls.first.id traffic.log who run
  took : (∃ x ∈ past, x.1.isSave = true) →
    ∀ token, run.Awaits token → Log.Took calls.first.id traffic.log who token

/-- A call that has given the permit back, and has come after others. -/
structure Finished (traffic : Traffic) (order : List Ticket) (who : Ticket) (run : Run)
    (saved : Option Run) : Prop where
  turn : calls.Turn (calls.scene order who) who run saved
  left : traffic.left who = .done ((calls.scene order who).obey (calls.work who)).1
  share : ∃ early, Log.share who traffic.log =
    ⟨.load calls.first.id, .ok (some early)⟩ :: calls.grant who ::
      ((calls.scene order who).transcript (calls.work who) ++ [⟨.unlock calls.first.key, ()⟩])
  took : saved.isSome = true →
    ∀ token, run.Awaits token → Log.Took calls.first.id traffic.log who token

/-- Whether a call is at work, and what the world is like then: if none is, it is as the calls that
have given the permit back have left it, and a call at work is the first of the queue. -/
inductive AtWork (traffic : Traffic) (order queue : List Ticket) : Option Ticket → Prop
  | nobody (idle : ∀ now, traffic.world.alone now = (calls.after order).alone now) :
      AtWork traffic order queue none
  | one {who run saved past rest} (front : queue.head? = some who)
      (inside : calls.Inside traffic order who run saved past rest) :
      AtWork traffic order queue (some who)

/-- Where the calls are: these have given the permit back in this order, these have asked for it and
have not given it back, and this one is at work. -/
structure Places (traffic : Traffic) (order queue : List Ticket) (busy : Option Ticket) : Prop where
  permits : traffic.world.permits = .queued calls.first.key queue
  once : order.Nodup
  waiting : queue.Nodup
  apart : ∀ who ∈ order, who ∉ queue
  finished : ∀ before who after, order = before ++ who :: after →
    ∃ run saved, calls.Finished traffic before who run saved
  outside : ∀ who, who ∉ order → busy ≠ some who →
    calls.Outside queue who (traffic.left who) (Log.share who traffic.log)
  atWork : calls.AtWork traffic order queue busy

section

variable {calls} {traffic traffic' : Traffic} {order queue queue' : List Ticket}
  {who other : Ticket} {run : Run} {saved : Option Run}

theorem AtWork.idle (h : calls.AtWork traffic order queue none) (now : Instant) :
    traffic.world.alone now = (calls.after order).alone now := by
  cases h with
  | nobody idle => exact idle now

theorem AtWork.front (h : calls.AtWork traffic order queue (some who)) :
    queue.head? = some who ∧ ∃ run saved past rest,
      calls.Inside traffic order who run saved past rest := by
  cases h with
  | one front inside => exact ⟨front, _, _, _, _, inside⟩

/-- Nobody is at work where nobody has asked for the permit. -/
theorem Places.busy_eq_none {busy : Option Ticket} (h : calls.Places traffic order [] busy) :
    busy = none := by
  cases busy with
  | none => rfl
  | some worker => simpa using h.atWork.front.1

/-- A call at work has been given the permit. -/
theorem Inside.permitted {past : List Exchange} {rest : Operating Report}
    (h : calls.Inside traffic order who run saved past rest) :
    Log.Permitted who traffic.log := by
  obtain ⟨early, hshare⟩ := h.share
  have hgrant : (⟨who, calls.grant who⟩ : Entry) ∈ traffic.log := by
    rw [← Log.mem_share, hshare]
    exact .tail _ (.head _)
  unfold grant at hgrant
  split at hgrant
  · exact ⟨_, .inl hgrant⟩
  · exact ⟨_, .inr hgrant⟩

/-- A call has given the permit back, is at work, or has not been given the permit. -/
theorem Places.cases {busy : Option Ticket} (h : calls.Places traffic order queue busy)
    (who : Ticket) :
    (∃ before after run saved, order = before ++ who :: after ∧
        calls.Finished traffic before who run saved) ∨
      (busy = some who ∧ queue.head? = some who ∧ ∃ run saved past rest,
        calls.Inside traffic order who run saved past rest) ∨
      who ∉ order ∧ busy ≠ some who ∧
        calls.Outside queue who (traffic.left who) (Log.share who traffic.log) := by
  by_cases hbusy : busy = some who
  · subst hbusy
    exact .inr (.inl ⟨rfl, h.atWork.front⟩)
  by_cases horder : who ∈ order
  · obtain ⟨before, after, hsplit⟩ := List.append_of_mem horder
    obtain ⟨run, saved, hfinished⟩ := h.finished before who after hsplit
    exact .inl ⟨before, after, run, saved, hsplit, hfinished⟩
  · exact .inr (.inr ⟨horder, hbusy, h.outside who horder hbusy⟩)

/-! ## Calls that have no turn -/

/-- Nothing has happened to a call. -/
structure Spares (who : Ticket) (traffic traffic' : Traffic) : Prop where
  left : traffic'.left who = traffic.left who
  share : Log.share who traffic'.log = Log.share who traffic.log
  took : ∀ id token, Log.Took id traffic.log who token → Log.Took id traffic'.log who token

theorem spares_answered (h : who ≠ other) (exchange : Exchange) (rest : Operating Report)
    (world : World) : Spares who traffic (traffic.answered other exchange rest world) where
  left := Traffic.answered_left_other h
  share := by
    refine (Log.share_snoc who traffic.log ⟨other, exchange⟩).trans ?_
    rw [if_neg (Ne.symm h), List.append_nil]
  took := fun _ _ htook => htook.append _

theorem spares_blocked (world : World) : Spares who traffic { traffic with world } :=
  ⟨rfl, rfl, fun _ _ htook => htook⟩

theorem Outside.spared (h : calls.Outside queue who (traffic.left who) (Log.share who traffic.log))
    (hspares : Spares who traffic traffic') (hqueue : who ∈ queue' ↔ who ∈ queue) :
    calls.Outside queue' who (traffic'.left who) (Log.share who traffic'.log) := by
  rw [hspares.left, hspares.share]
  generalize traffic.left who = left at h
  generalize Log.share who traffic.log = share at h
  cases h with
  | fresh absent => exact .fresh (mt hqueue.mp absent)
  | asking early waits => exact .asking early fun hmem => waits (hqueue.mp hmem)
  | refused early absent => exact .refused early (mt hqueue.mp absent)

theorem Finished.spared (h : calls.Finished traffic order who run saved)
    (hspares : Spares who traffic traffic') : calls.Finished traffic' order who run saved where
  turn := h.turn
  left := hspares.left.trans h.left
  share := by
    rw [hspares.share]
    exact h.share
  took := fun hsaved token hawaits => hspares.took _ token (h.took hsaved token hawaits)

theorem Inside.spared {past : List Exchange} {rest : Operating Report}
    (h : calls.Inside traffic order who run saved past rest) (hspares : Spares who traffic traffic')
    (hreads : ∀ id run, Log.Reads id traffic.log who run → Log.Reads id traffic'.log who run)
    (halone : ∀ now, traffic'.world.alone now = traffic.world.alone now) :
    calls.Inside traffic' order who run saved past rest where
  turn := h.turn
  left := hspares.left.trans h.left
  share := by
    rw [hspares.share]
    exact h.share
  transcript := by
    rw [halone]
    exact h.transcript
  obey := by
    rw [halone]
    exact h.obey
  reads := fun mid hpast hmid => hreads _ _ (h.reads mid hpast hmid)
  took := fun hsaved token hawaits => hspares.took _ token (h.took hsaved token hawaits)

end

end Contention

end Dialogue
