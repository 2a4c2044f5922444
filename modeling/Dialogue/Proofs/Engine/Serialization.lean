import Dialogue.Proofs.Engine.Opening
import Dialogue.Proofs.Engine.Turns

/-!
# Serialization

Calls on one run may be in progress at the same time, in any number and with turns in
any order.  Each stores only what it makes of the run as it was stored last, at most
one takes the run off a suspension, and whenever nobody holds the permit the world is
as if the calls had been made one after the other.
-/

namespace Dialogue

/-- Whether a call may have changed the run: it has succeeded, or its event came too late. -/
def Report.takesEffect (report : Report) : Bool := report.succeeds || report.late

namespace Traffic

/-- Whether a call is over and may have changed the run. -/
def tookEffect (traffic : Traffic) (who : Ticket) : Bool :=
  match traffic.left who with
  | .done report => report.takesEffect
  | .ask .. => false

theorem tookEffect_iff {traffic : Traffic} {who : Ticket} :
    traffic.tookEffect who = true ↔
      ∃ report, traffic.left who = .done report ∧ report.takesEffect = true := by
  unfold tookEffect
  cases traffic.left who <;> simp

/-- A call is not over, and what it asks for next is answered. -/
def CanAdvance (attempts : Ticket → Attempt) (traffic : Traffic) (who : Ticket) : Prop :=
  ∃ request next, traffic.left who = .ask request next ∧
    ((traffic.world.atTime (attempts who).now).answer who request).1.isSome = true

/-- Calls have come to what they would have come to one after the other: those that may have changed
the run, in this order, and no others. -/
structure Serial (start : World) (attempts : Ticket → Attempt) (id : Identifier)
    (traffic : Traffic) (order : List Ticket) : Prop where
  once : order.Nodup
  calls : ∀ who, who ∈ order ↔
    ∃ report, traffic.left who = .done report ∧ report.takesEffect = true
  world : ∀ now, traffic.world.atTime now = (start.inTurn attempts id order).atTime now
  reports : ∀ before who after, order = before ++ who :: after →
    traffic.left who = (((start.inTurn attempts id before).atTime (attempts who).now).proceed who
      ((attempts who).operation start.bounds.settings id)).1

/-- What is true of calls on a run at any moment. -/
structure Serialized (start : World) (attempts : Ticket → Attempt) (first : Run)
    (traffic : Traffic) : Prop where
  /-- The run is stored as it was stored last. -/
  stored : traffic.world.store.find? first.id = some (Log.current first traffic.log)
  /-- Who stores the run has reloaded it with the permit, as it was stored last and with nothing
  stored since, and stores what the call makes of it. -/
  computed : ∀ before who run' answer after,
    traffic.log = before ++ ⟨who, .save run', answer⟩ :: after →
      answer = .ok () ∧ Log.Reads first.id before who (Log.current first before) ∧
        (attempts who).Makes start.bounds.settings (Log.current first before) run'
  /-- Where nobody holds a permit, the calls have come to what they would have come to one after the
  other. -/
  serial : traffic.world.permits.slots = [] →
    ∃ order, Serial start attempts first.id traffic order
  /-- Nobody holds a permit when all calls that have begun are over. -/
  settled : (∀ entry ∈ traffic.log, ∃ report, traffic.left entry.who = .done report) →
    traffic.world.permits.slots = []
  /-- A call can go on, or it waits for the permit and its holder can go on. -/
  advances : ∀ who, (∃ report, traffic.left who = .done report) ∨ traffic.CanAdvance attempts who ∨
    ∃ holder next, traffic.left who = .ask (.lock first.key) next ∧
      traffic.world.permits.holder? first.key = some holder ∧ traffic.CanAdvance attempts holder
  /-- At most one call takes the run off a suspension. -/
  once : ∀ token who other, Log.Took first.id traffic.log who token →
    Log.Took first.id traffic.log other token → who = other
  /-- A call whose event has resumed the run has taken it off a suspension. -/
  resumed : ∀ who run, traffic.left who = .done (.resumed (.ok run)) →
    ∃ token, Log.Took first.id traffic.log who token
  /-- An event that meets a held permit is refused. -/
  busy : ∀ who key next, traffic.left who = .ask (.tryLock key) next →
    (traffic.world.permits.holder? key).isSome = true →
      (traffic.advance attempts who).left who = .done (.resumed (.error (.busy first.id)))
  /-- An event with the token of a suspension that the run was taken off before it has been reloaded
  is stale, and its call has changed nothing. -/
  stale : ∀ who event token report before answer after, (attempts who).errand = .resume event →
    event.token = some token → traffic.left who = .done report →
      traffic.log = before ++ ⟨who, .load first.id, answer⟩ :: after →
        Log.Permitted who before → (∃ other, Log.Took first.id before other token) →
          (∃ reason, report = .resumed (.error (.stale first.id reason))) ∧
            ∀ x ∈ Log.share who traffic.log, x.1.isInquiry = true
  /-- A call that has not succeeded has changed nothing, unless its event came too late. -/
  quiet : ∀ who report, traffic.left who = .done report → report.takesEffect = false →
    ∀ x ∈ Log.share who traffic.log, x.1.isInquiry = true

end Traffic

namespace Contention

open Engine Operating

variable {calls : Contention} {traffic : Traffic} {order queue : List Ticket}
  {busy : Option Ticket} {who : Ticket}

/-! ## Calls that are over -/

/-- A call that has not been given the permit is over if it was refused, and asks for something
otherwise. -/
theorem Outside.over_or_asks {left : Operating Report} {share : List Exchange}
    (h : calls.Outside queue who left share) :
    (left = .done (.resumed (.error (.busy calls.first.id))) ∧ ∃ early : Run,
        share = [⟨.load calls.first.id, .ok (some early)⟩, ⟨.tryLock calls.first.key, false⟩]) ∨
      ∃ request next, left = .ask request next := by
  cases h with
  | fresh absent =>
      obtain ⟨next, heq, -⟩ :=
        (calls.attempts who).errand.operation_eq (calls.bounds who) calls.first.id
      exact .inr ⟨_, next, heq⟩
  | asking early waits =>
      cases hwaits : (calls.attempts who).errand.waits with
      | true => exact .inr ⟨_, _, Errand.gate_of_waits _ _ hwaits _⟩
      | false => exact .inr ⟨_, _, Errand.gate_of_not_waits _ _ hwaits _⟩
  | refused early absent => exact .inl ⟨rfl, early, rfl⟩

/-- A call at work asks for something, and for no permit but to give it back. -/
theorem Inside.asks {run : Run} {saved : Option Run} {past : List Exchange}
    {rest : Operating Report} (h : calls.Inside traffic order who run saved past rest) :
    (∃ report, rest = .done report ∧
        traffic.left who = .ask (.unlock calls.first.key) fun _ => .done report) ∨
      ∃ q next, traffic.left who = .ask q next ∧ q.forPermit = false := by
  cases rest with
  | done report => exact .inl ⟨report, rfl, h.left⟩
  | ask q next =>
      have hsplit := h.transcript
      rw [World.transcript_ask] at hsplit
      exact .inr ⟨q, _, h.left, h.turn.stint.not_permit hsplit⟩

/-- A call that is over has given the permit back, or it was refused. -/
theorem Places.over (h : calls.Places traffic order queue busy) {report : Report}
    (hleft : traffic.left who = .done report) :
    (∃ before after run saved, order = before ++ who :: after ∧
        calls.Finished traffic before who run saved) ∨
      who ∉ order ∧ report = .resumed (.error (.busy calls.first.id)) ∧ ∃ early : Run,
        Log.share who traffic.log =
          [⟨.load calls.first.id, .ok (some early)⟩, ⟨.tryLock calls.first.key, false⟩] := by
  rcases h.cases who with hfinished | ⟨-, -, run, saved, past, rest, hinside⟩ | ⟨horder, -, hout⟩
  · exact .inl hfinished
  · rcases hinside.asks with ⟨_, -, hasks⟩ | ⟨_, _, hasks, -⟩ <;> simp [hasks] at hleft
  · rcases hout.over_or_asks with ⟨hbusy, hshare⟩ | ⟨q, next, hasks⟩
    · exact .inr ⟨horder, Interaction.done.inj (hleft.symm.trans hbusy), hshare⟩
    · simp [hasks] at hleft

theorem isInquiry_grant (who : Ticket) : (calls.grant who).1.isInquiry = true := by
  unfold grant
  split <;> rfl

/-- Where nothing was asked for in the work of a call but inquiries, this is true of the call. -/
theorem Finished.quiet {run : Run} {saved : Option Run}
    (h : calls.Finished traffic order who run saved)
    (hwork : ∀ x ∈ (calls.scene order who).transcript (calls.work who), x.1.isInquiry = true) :
    ∀ x ∈ Log.share who traffic.log, x.1.isInquiry = true := by
  obtain ⟨early, hshare⟩ := h.share
  intro x hx
  rw [hshare] at hx
  rcases List.mem_cons.mp hx with rfl | hx
  · rfl
  rcases List.mem_cons.mp hx with rfl | hx
  · exact isInquiry_grant who
  rcases List.mem_append.mp hx with hx | hx
  · exact hwork x hx
  · rw [List.mem_singleton.mp hx]
    rfl

theorem Finished.saved_none {run : Run} {saved : Option Run}
    (h : calls.Finished traffic order who run saved) {report : Report}
    (hleft : traffic.left who = .done report) (heffect : report.takesEffect = false) :
    saved = none := by
  by_contra hsaved
  have hreport := Interaction.done.inj (h.left.symm.trans hleft)
  have heither := h.turn.saves (Option.isSome_iff_ne_none.mpr hsaved)
  rw [hreport] at heither
  simp [Report.takesEffect] at heffect
  rcases heither with heither | heither <;> simp [heither] at heffect

theorem Places.quiet (h : calls.Places traffic order queue busy) {report : Report}
    (hleft : traffic.left who = .done report) (heffect : report.takesEffect = false) :
    ∀ x ∈ Log.share who traffic.log, x.1.isInquiry = true := by
  rcases h.over hleft with ⟨before, after, run, saved, -, hfinished⟩ | ⟨-, -, early, hshare⟩
  · have hstint := hfinished.turn.stint
    rw [hfinished.saved_none hleft heffect] at hstint
    exact hfinished.quiet hstint.quiet.1
  · rw [hshare]
    simp [Request.isInquiry]

theorem Places.resumed (h : calls.Places traffic order queue busy) {run : Run}
    (hleft : traffic.left who = .done (.resumed (.ok run))) :
    ∃ token, Log.Took calls.first.id traffic.log who token := by
  rcases h.over hleft with ⟨before, after, read, saved, -, hfinished⟩ | ⟨-, hreport, -⟩
  · have hreport := Interaction.done.inj (hfinished.left.symm.trans hleft)
    obtain ⟨hsaved, hpaused⟩ := hfinished.turn.resumes (by rw [hreport]; rfl)
    obtain ⟨suspension, hsuspension⟩ := Option.isSome_iff_exists.mp hpaused
    exact ⟨suspension.token, hfinished.took hsaved _ ⟨suspension, hsuspension, rfl⟩⟩
  · simp at hreport

theorem Places.refuses (h : calls.Places traffic order queue busy) {key : RunKey}
    {next : Bool → Operating Report} (hleft : traffic.left who = .ask (.tryLock key) next)
    (hheld : (traffic.world.permits.holder? key).isSome = true) :
    (traffic.advance calls.attempts who).left who =
      .done (.resumed (.error (.busy calls.first.id))) := by
  rcases h.cases who with ⟨before, after, run, saved, -, hfinished⟩ |
    ⟨-, -, run, saved, past, rest, hinside⟩ | ⟨-, -, hout⟩
  · simp [hfinished.left] at hleft
  · rcases hinside.asks with ⟨report, -, hasks⟩ | ⟨q, other, hasks, hpermit⟩
    · cases hasks.symm.trans hleft
    · rw [hasks] at hleft
      obtain ⟨rfl, -⟩ := Interaction.ask.inj hleft
      simp [Request.forPermit] at hpermit
  · rw [hleft] at hout
    generalize hrest : (.ask (.tryLock key) next : Operating Report) = rest at hout
    generalize Log.share who traffic.log = share at hout
    cases hout with
    | fresh absent =>
        obtain ⟨first, heq, -⟩ :=
          (calls.attempts who).errand.operation_eq (calls.bounds who) calls.first.id
        cases hrest.trans heq
    | asking early waits =>
        cases hwaits : (calls.attempts who).errand.waits with
        | true =>
            rw [Errand.gate_of_waits _ _ hwaits] at hrest
            cases hrest
        | false =>
            rw [Errand.gate_of_not_waits _ _ hwaits] at hrest
            obtain ⟨hkey, hnext⟩ := Interaction.ask.inj hrest
            obtain rfl := Request.tryLock.inj hkey
            obtain rfl := eq_of_heq hnext
            rw [h.permits, Permits.holder?_queued] at hheld
            cases queue with
            | nil => simp at hheld
            | cons holder others =>
                have hanswer := @World.answer_tryLock_held
                  (traffic.world.atTime (calls.attempts who).now) who _ _ _ h.permits
                rw [Traffic.advance_answered hleft hanswer, Traffic.answered_left_self]
                rfl
    | refused early absent => simp at hrest

/-! ## Calls that come late -/

/-- What stands behind two others, when something in front of it is not the first of them. -/
theorem mem_of_split {α : Type} {first second rest : List α} {a b x y : α}
    (h : a :: b :: rest = first ++ x :: second) (hy : y ∈ first) (hne : y ≠ a) : x ∈ rest := by
  cases first with
  | nil => simp at hy
  | cons c others =>
      rw [List.cons_append] at h
      obtain ⟨rfl, hrest⟩ := List.cons.inj h
      have hmem : y ∈ others := (List.mem_cons.mp hy).resolve_left hne
      cases others with
      | nil => simp at hmem
      | cons d others =>
          rw [List.cons_append] at hrest
          rw [(List.cons.inj hrest).2]
          simp

/-- A call that has the permit works on the run that it loads then. -/
theorem Finished.reloaded {run : Run} {saved : Option Run}
    (h : calls.Finished traffic order who run saved) {before after : List Entry}
    {answer : Except FlowError (Option Run)}
    (hlog : traffic.log = before ++ ⟨who, .load calls.first.id, answer⟩ :: after)
    (hpermitted : Log.Permitted who before) : answer = .ok (some run) := by
  obtain ⟨early, hshare⟩ := h.share
  obtain ⟨permission, hmem, hkind⟩ : ∃ x ∈ Log.share who before, x.1.forPermit = true := by
    obtain ⟨key, hmem | hmem⟩ := hpermitted
    · exact ⟨_, Log.mem_share.mpr hmem, rfl⟩
    · exact ⟨_, Log.mem_share.mpr hmem, rfl⟩
  have hsplit : Log.share who traffic.log = Log.share who before ++
      ⟨.load calls.first.id, answer⟩ :: Log.share who after := by
    rw [hlog]
    simp [Log.share, List.filter_append]
  rw [hshare] at hsplit
  have hne : permission ≠ ⟨.load calls.first.id, .ok (some early)⟩ := by
    rintro rfl
    simp [Request.forPermit] at hkind
  have hworked := mem_of_split hsplit hmem hne
  rcases List.mem_append.mp hworked with hworked | hworked
  · obtain ⟨past, more, hpast⟩ := List.append_of_mem hworked
    obtain ⟨-, hload⟩ := h.turn.stint.load_first hpast rfl
    rw [h.turn.id] at hload
    cases hload
    rfl
  · cases List.mem_singleton.mp hworked

/-- An event with the token of a suspension that the run is no longer in is stale. -/
theorem Finished.stale {run : Run} {saved : Option Run}
    (h : calls.Finished traffic order who run saved) {event : Wakeup} {token : Identifier}
    (hevent : (calls.attempts who).errand = .resume event) (htoken : event.token = some token)
    (hleft : ¬run.Awaits token) :
    (∃ reason, traffic.left who =
        .done (.resumed (.error (.stale calls.first.id reason)))) ∧
      ∀ x ∈ Log.share who traffic.log, x.1.isInquiry = true := by
  have hready := (calls.sound_after order).ready.atTime (calls.attempts who).now
  have hbounds := (calls.sound_after order).bounds who
  have hfound := h.turn.found
  rw [← h.turn.id] at hfound
  obtain ⟨⟨reason, hreport⟩, htranscript⟩ := Errand.work_stale hready.store hfound htoken
    fun suspension hpending heq => hleft ⟨suspension, hpending, heq⟩
  rw [h.turn.id, hbounds, ← hevent] at hreport htranscript
  refine ⟨⟨reason, h.left.trans (congrArg Interaction.done hreport)⟩, h.quiet fun x hx => ?_⟩
  rw [show x = _ from List.mem_singleton.mp (htranscript ▸ hx)]
  rfl

/-- An event with the token of a suspension that the run was taken off before its call has reloaded
the run is stale. -/
theorem Places.stale (hbooks : calls.Books traffic order)
    (h : calls.Places traffic order queue busy) {event : Wakeup} {token : Identifier}
    (hevent : (calls.attempts who).errand = .resume event) (htoken : event.token = some token)
    {report : Report} (hleft : traffic.left who = .done report) {before after : List Entry}
    {answer : Except FlowError (Option Run)}
    (hlog : traffic.log = before ++ ⟨who, .load calls.first.id, answer⟩ :: after)
    (hpermitted : Log.Permitted who before) {other : Ticket}
    (htook : Log.Took calls.first.id before other token) :
    (∃ reason, report = .resumed (.error (.stale calls.first.id reason))) ∧
      ∀ x ∈ Log.share who traffic.log, x.1.isInquiry = true := by
  rcases h.over hleft with ⟨earlier, later, run, saved, -, hfinished⟩ | ⟨-, -, early, hshare⟩
  · -- what it has reloaded was stored last then, and so is not in that suspension any more
    have hanswer := (hbooks.coherent before _ after hlog).reads answer rfl
    rw [hfinished.reloaded hlog hpermitted] at hanswer
    obtain rfl := Option.some.inj (Except.ok.inj hanswer)
    have hspent := (hlog ▸ hbooks.coherent).before.spent htook
    obtain ⟨⟨reason, hreport⟩, hquiet⟩ := hfinished.stale hevent htoken hspent
    exact ⟨⟨reason, Interaction.done.inj (hleft.symm.trans hreport)⟩, hquiet⟩
  · -- a call that was refused has not been given the permit
    have hmember {x : Exchange} (hmem : (⟨who, x⟩ : Entry) ∈ before) :
        x ∈ Log.share who traffic.log := Log.mem_share.mpr (by simp [hlog, hmem])
    obtain ⟨key, hmem | hmem⟩ := hpermitted
    · have hlocked := hmember hmem
      rw [hshare, List.mem_cons, List.mem_singleton] at hlocked
      rcases hlocked with hlocked | hlocked <;> cases hlocked
    · have hlocked := hmember hmem
      rw [hshare, List.mem_cons, List.mem_singleton] at hlocked
      rcases hlocked with hlocked | hlocked <;> cases hlocked

/-! ## Calls that are not over -/

/-- Who has the permit, or gets it next, can go on. -/
theorem front_advances (hbooks : calls.Books traffic order)
    (h : calls.Places traffic order queue busy) (hfront : queue.head? = some who) :
    traffic.CanAdvance calls.attempts who := by
  have hpermits : (traffic.world.atTime (calls.attempts who).now).permits =
      .queued calls.first.key queue := h.permits
  have hmem : who ∈ queue := List.mem_of_mem_head? hfront
  rcases h.cases who with ⟨before, after, run, saved, hsplit, -⟩ |
    ⟨-, -, run, saved, past, rest, hinside⟩ | ⟨-, -, hout⟩
  · exact absurd hmem (h.apart who (by simp [hsplit]))
  · rcases hinside.asks with ⟨report, -, hasks⟩ | ⟨q, next, hasks, hpermit⟩
    · exact ⟨_, _, hasks, by rw [World.answer_unlock hpermits]; rfl⟩
    · obtain ⟨world, hanswer, -⟩ :=
        World.answer_alone hbooks.serving.holds hpermit who (calls.attempts who).now
      exact ⟨q, next, hasks, by rw [hanswer]; rfl⟩
  · generalize hleft : traffic.left who = left at hout
    generalize Log.share who traffic.log = share at hout
    cases hout with
    | fresh absent => exact absurd hmem absent
    | asking early waits =>
        refine ⟨_, _, hleft.trans (Errand.gate_of_waits _ _ (waits hmem) _), ?_⟩
        rw [World.answer_lock hpermits, World.head?_queueUp hfront, if_pos rfl]
        rfl
    | refused early absent => exact absurd hmem absent

theorem advances (hbooks : calls.Books traffic order)
    (h : calls.Places traffic order queue busy) (who : Ticket) :
    (∃ report, traffic.left who = .done report) ∨ traffic.CanAdvance calls.attempts who ∨
      ∃ holder next, traffic.left who = .ask (.lock calls.first.key) next ∧
        traffic.world.permits.holder? calls.first.key = some holder ∧
        traffic.CanAdvance calls.attempts holder := by
  have hpermits : (traffic.world.atTime (calls.attempts who).now).permits =
      .queued calls.first.key queue := h.permits
  rcases h.cases who with ⟨before, after, run, saved, -, hfinished⟩ |
    ⟨-, hfront, -⟩ | ⟨-, -, hout⟩
  · exact .inl ⟨_, hfinished.left⟩
  · exact .inr (.inl (front_advances hbooks h hfront))
  · generalize hleft : traffic.left who = left at hout
    generalize Log.share who traffic.log = share at hout
    cases hout with
    | fresh absent =>
        obtain ⟨next, heq, -⟩ :=
          (calls.attempts who).errand.operation_eq (calls.bounds who) calls.first.id
        exact .inr (.inl ⟨_, next, hleft.trans heq, rfl⟩)
    | asking early waits =>
        cases hwaits : (calls.attempts who).errand.waits with
        | true =>
            have hasks := Errand.gate_of_waits (calls.bounds who) calls.first.id hwaits
              calls.first.key
            cases hqueue : queue with
            | nil =>
                have hqueued : (World.queueUp [] who).head? = some who := by simp [World.queueUp]
                refine .inr (.inl ⟨_, _, hleft.trans hasks, ?_⟩)
                rw [World.answer_lock hpermits, hqueue, if_pos hqueued]
                rfl
            | cons holder others =>
                have hfront : queue.head? = some holder := by simp [hqueue]
                refine .inr (.inr ⟨holder, _, hasks, ?_, front_advances hbooks h hfront⟩)
                rw [h.permits, Permits.holder?_queued, hfront]
        | false =>
            refine .inr (.inl ⟨_, _, hleft.trans (Errand.gate_of_not_waits _ _ hwaits _), ?_⟩)
            cases hqueue : queue with
            | nil =>
                rw [World.answer_tryLock_free (hpermits.trans (congrArg _ hqueue))]
                rfl
            | cons holder others =>
                rw [World.answer_tryLock_held (hpermits.trans (congrArg _ hqueue))]
                rfl
    | refused early absent => exact .inl ⟨_, rfl⟩

theorem Places.settled (h : calls.Places traffic order queue busy)
    (hover : ∀ entry ∈ traffic.log, ∃ report, traffic.left entry.who = .done report) :
    traffic.world.permits.slots = [] := by
  cases hqueue : queue with
  | nil =>
      rw [h.permits, hqueue]
      rfl
  | cons holder others =>
      have hmem : holder ∈ queue := by simp [hqueue]
      have hbegun {x : Exchange} {rest : List Exchange}
          (hshare : Log.share holder traffic.log = x :: rest) :
          ∃ report, traffic.left holder = .done report :=
        hover ⟨holder, x⟩ (Log.mem_share.mp (by simp [hshare]))
      rcases h.cases holder with ⟨before, after, run, saved, hsplit, -⟩ |
        ⟨-, -, run, saved, past, rest, hinside⟩ | ⟨-, -, hout⟩
      · exact absurd hmem (h.apart holder (by simp [hsplit]))
      · obtain ⟨early, hshare⟩ := hinside.share
        obtain ⟨report, hdone⟩ := hbegun hshare
        rcases hinside.asks with ⟨_, -, hasks⟩ | ⟨q, next, hasks, -⟩ <;> simp [hasks] at hdone
      · generalize hleft : traffic.left holder = left at hout
        generalize hshare : Log.share holder traffic.log = share at hout
        cases hout with
        | fresh absent => exact absurd hmem absent
        | asking early waits =>
            obtain ⟨report, hdone⟩ := hbegun hshare
            rw [hleft, Errand.gate_of_waits _ _ (waits hmem)] at hdone
            simp at hdone
        | refused early absent => exact absurd hmem absent

/-! ## One after the other -/

/-- Calls that leave the world as it is may be left out. -/
theorem after_filter (keep : Ticket → Bool) {order : List Ticket}
    (hidle : ∀ before who after, order = before ++ who :: after → keep who = false →
      calls.after (before ++ [who]) = calls.scene before who) (now : Instant) :
    (calls.after (order.filter keep)).atTime now = (calls.after order).atTime now := by
  induction order using List.reverseRecOn generalizing now with
  | nil => rfl
  | append_singleton order who ih =>
      have hrest := ih fun before other after hsplit =>
        hidle before other (after ++ [who]) (by simp [hsplit])
      cases hkeep : keep who with
      | false =>
          have hwho := hidle order who [] rfl hkeep
          have hfilter : (order ++ [who]).filter keep = order.filter keep := by simp [hkeep]
          rw [hfilter, hwho]
          exact hrest now
      | true =>
          have hfilter : (order ++ [who]).filter keep = order.filter keep ++ [who] := by
            simp [hkeep]
          rw [hfilter, (calls.sound_after _).after_snoc, (calls.sound_after _).after_snoc, scene,
            hrest, scene]

theorem serial (h : calls.Places traffic order queue busy)
    (hfree : traffic.world.permits.slots = []) :
    ∃ order, traffic.Serial calls.start calls.attempts calls.first.id order := by
  have hqueue : queue = [] := by
    rw [h.permits] at hfree
    cases queue with
    | nil => rfl
    | cons holder others => simp [Permits.queued] at hfree
  subst hqueue
  -- a call without effect has left the world as it has found it
  have hidle {before after : List Ticket} {who : Ticket} (hsplit : order = before ++ who :: after)
      (heffect : traffic.tookEffect who = false) :
      calls.after (before ++ [who]) = calls.scene before who := by
    obtain ⟨run, saved, hfinished⟩ := h.finished before who after hsplit
    have hstint := hfinished.turn.stint
    have hnone : saved = none := hfinished.saved_none hfinished.left <| by
      rwa [Traffic.tookEffect, hfinished.left] at heffect
    rw [hnone] at hstint
    rw [(calls.sound_after before).after_snoc]
    exact hstint.quiet.2
  -- so every call with effect has found what it would have found without these
  have hscene {before : List Ticket} (hbefore : ∃ after, order = before ++ after) (now : Instant) :
      (calls.after (before.filter traffic.tookEffect)).atTime now =
        (calls.after before).atTime now := by
    obtain ⟨after, hsplit⟩ := hbefore
    refine after_filter _ (fun early who late hearly heffect => ?_) now
    have hlonger : order = early ++ who :: (late ++ after) := by simp [hsplit, hearly]
    exact hidle hlonger heffect
  refine ⟨order.filter traffic.tookEffect, h.once.filter _, fun who => ?_, fun now => ?_, ?_⟩
  · rw [List.mem_filter, Traffic.tookEffect_iff]
    refine ⟨And.right, fun htaken => ⟨?_, htaken⟩⟩
    obtain ⟨report, hleft, heffect⟩ := htaken
    rcases h.over hleft with ⟨before, after, run, saved, hsplit, -⟩ | ⟨-, rfl, -⟩
    · simp [hsplit]
    · simp [Report.takesEffect, Report.succeeds, Report.late] at heffect
  · have hpermits : traffic.world.permits = ⟨[]⟩ := h.permits
    have halone : traffic.world.alone now = traffic.world.atTime now := by
      rw [World.alone, World.withPermits, ← hpermits]
    obtain rfl := h.busy_eq_none
    rw [← halone, h.atWork.idle, (calls.sound_after order).alone]
    exact (hscene ⟨[], by simp⟩ now).symm
  · intro early who late hsplit
    obtain ⟨first, second, hwhole, rfl, hsecond⟩ := List.filter_eq_append_iff.mp hsplit
    obtain ⟨idle, after, rfl, hnone, -, -⟩ := List.filter_eq_cons_iff.mp hsecond
    have hbefore : order = (first ++ idle) ++ who :: after := by simp [hwhole]
    obtain ⟨run, saved, hfinished⟩ := h.finished _ who after hbefore
    have hfilter : (first ++ idle).filter traffic.tookEffect = first.filter traffic.tookEffect := by
      rw [List.filter_append, List.filter_eq_nil_iff.mpr hnone, List.append_nil]
    have hsame := hscene ⟨who :: after, hbefore⟩ (calls.attempts who).now
    rw [hfilter] at hsame
    have hsound := calls.sound_after (first.filter traffic.tookEffect)
    have hproceed := congrArg Prod.fst (hsound.proceed who)
    rw [hsound.settings, hsame] at hproceed
    change _ = (((calls.after (first.filter traffic.tookEffect)).atTime _).proceed who _).1
    rw [hsame]
    exact hfinished.left.trans hproceed.symm

/-- At every moment the calls are serialized. -/
theorem serialized (calls : Contention) (turns : List Ticket) :
    (calls.course turns).Serialized calls.start calls.attempts calls.first := by
  obtain ⟨order, queue, busy, hbooks, hplaces⟩ := calls.course_in_order turns
  refine ⟨hbooks.stored, ?_, fun hfree => serial hplaces hfree, hplaces.settled,
    advances hbooks hplaces, ?_, fun who run => hplaces.resumed,
    fun who key next => hplaces.refuses, ?_, fun who report => hplaces.quiet⟩
  · intro before who run' answer after hlog
    obtain ⟨hentry, run, hreads, hmakes, -⟩ :=
      (hbooks.coherent before _ after hlog).saves run' rfl
    obtain rfl := (hlog ▸ hbooks.coherent).before.reads_current hreads
    cases hentry
    exact ⟨rfl, hreads, hmakes⟩
  · exact fun token who other => hbooks.coherent.took_once
  · rintro who event token report before answer after hevent htoken hleft hlog hpermitted
      ⟨other, htook⟩
    exact hplaces.stale hbooks hevent htoken hleft hlog hpermitted htook

end Contention

/-- A flow that asks a question and waits no time for the answer. -/
def Flow.hurried (id : FlowId) : Flow where
  id := id
  nodes := [⟨"begin", "START", none, []⟩, ⟨"ask", "MENU", none, [("timeout_ms", .number 0)]⟩]
  edges := [⟨"first", "begin", "ask", none⟩]

namespace World

open Traffic

/-- Calls on a stored run are serialized, whatever has been done in the world before, however many
there are and in whatever order they have their turns. -/
theorem calls_are_serialized (registry : Registry) (settings : Settings) (time : Instant)
    (flows : List Flow) (send : Ledger → String → Message → Except DispatchError String)
    (assign : Ledger → String → String → Except AssignmentError Unit) (supply : Supply)
    (orders : List (Instant × Order)) (attempts : Ticket → Attempt) (run : Run)
    (turns : List Ticket) :
    let start := (openedWith registry settings time flows send assign supply).after orders
    start.store.find? run.id = some run →
      (course attempts start run.id turns).Serialized start attempts run := by
  intro start hrun
  have hopened := ready_openedWith registry settings time flows send assign supply
  have htracked := tracked_openedWith registry settings time flows send assign supply
  exact Contention.serialized
    ⟨start, attempts, run, ready_after hopened orders,
      htracked.renews (renews_after hopened orders), hrun⟩ turns

/-- A world in which a run of the flow `inner` waits for a reply. -/
def asking : World := sample.after [(⟨0, 0⟩, .start { flow := "inner", contactId := "ann" })]

/-- A cancellation, and replies. -/
def repliesAndCancellation (who : Ticket) : Attempt :=
  ⟨⟨1, 0⟩, if who = 2 then .cancel else .resume (.reply "yes")⟩

/-- The first reply has the permit while the second one meets it and the cancellation waits. -/
def mixedCalls : Traffic :=
  course repliesAndCancellation asking ⟨sample.supply.firstRun⟩
    ([0, 1, 2, 0, 2, 1] ++ List.replicate 9 0 ++ List.replicate 3 2)

/-- Calls with their turns mixed, at a moment when nobody holds the permit any more. -/
theorem calls_are_serialized_sample :
    ∃ run : Run, asking.store.find? ⟨sample.supply.firstRun⟩ = some run ∧
      mixedCalls.Serialized asking repliesAndCancellation run ∧
      mixedCalls.world.permits.slots = [] := by
  have hstored : (asking.store.find? ⟨sample.supply.firstRun⟩).isSome = true := by decide +kernel
  obtain ⟨run, hrun⟩ := Option.isSome_iff_exists.mp hstored
  have hid := Store.id_of_find? hrun
  have hserialized := calls_are_serialized .standard {} ⟨0, 0⟩ _ _ _ {} _ repliesAndCancellation
    run ([0, 1, 2, 0, 2, 1] ++ List.replicate 9 0 ++ List.replicate 3 2) (hid.symm ▸ hrun)
  rw [hid] at hserialized
  exact ⟨run, hrun, hserialized, by decide +kernel⟩

/-- A world in which a run waits for a reply that is due at once. -/
def hurried : World :=
  (opened {} ⟨0, 0⟩ [.hurried "inner"] (fun _ _ _ => .ok "sent") (fun _ _ _ => .ok ()) {}).after
    [(⟨0, 0⟩, .start { flow := "inner", contactId := "ann" })]

/-- A call with the reply, and nobody else around. -/
def lateReply : Traffic :=
  course (fun _ => ⟨⟨0, 0⟩, .resume (.reply "yes")⟩) hurried ⟨sample.supply.firstRun⟩
    (List.replicate 7 0)

/-- A reply that comes too late is refused, and yet the run is not as it was before.  So it is not
as any order of the calls that have succeeded would have left it: there is none. -/
theorem late_reply_leaves_its_mark :
    (∀ entry ∈ lateReply.log, ∃ report, lateReply.left entry.who = .done report) ∧
      ¬∃ order : List Ticket,
        (∀ who, who ∈ order ↔
          ∃ report, lateReply.left who = .done report ∧ report.succeeds = true) ∧
        lateReply.world.store.find? ⟨sample.supply.firstRun⟩ =
          (hurried.inTurn (fun _ => ⟨⟨0, 0⟩, .resume (.reply "yes")⟩) ⟨sample.supply.firstRun⟩
            order).store.find? ⟨sample.supply.firstRun⟩ := by
  have hover : (match lateReply.left 0 with
      | .done report => !report.succeeds
      | .ask .. => false) = true := by decide +kernel
  have honly : ∀ entry ∈ lateReply.log, entry.who = 0 := by decide +kernel
  constructor
  · intro entry hentry
    rw [honly entry hentry]
    cases hleft : lateReply.left 0 with
    | done report => exact ⟨report, rfl⟩
    | ask q next => simp [hleft] at hover
  · rintro ⟨order, hmembers, hstored⟩
    have hnobody : order = [] := by
      refine List.eq_nil_iff_forall_not_mem.mpr fun who hmem => ?_
      obtain ⟨report, hleft, hsuccess⟩ := (hmembers who).mp hmem
      by_cases hwho : who = 0
      · rw [← hwho, hleft] at hover
        simp [hsuccess] at hover
      · rw [lateReply, course_left (by simp [hwho])] at hleft
        cases hleft
    rw [hnobody] at hstored
    have hstatus := congrArg (Option.map fun run : Run => run.status) hstored
    revert hstatus
    decide +kernel

end World

end Dialogue
