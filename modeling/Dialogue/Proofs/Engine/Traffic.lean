import Mathlib.Data.List.Induction
import Dialogue.Proofs.Basic
import Dialogue.Proofs.Engine.Errand

/-!
# Traffic on one run

Any number of calls on the same run, in progress at the same time.  At every
moment one of them has one request answered, or waits for an answer; which one is
left open.  All that was asked and answered is kept in a log, oldest first.

From the log one sees what was stored: a call reads the run if it has loaded it
with the permit and nothing was stored since, and it has taken the run off a
suspension if it has stored the run, having read it there.
-/

namespace Dialogue

/-- A call, with the time that it goes by. -/
structure Attempt where
  now : Instant
  errand : Errand

/-- What a call has asked for and was answered. -/
structure Entry where
  who : Ticket
  exchange : Exchange

/-- Calls in progress, known by their tickets: a world, what is left of each call, and the log. -/
structure Traffic where
  world : World
  left : Ticket → Operating Report
  log : List Entry := []

namespace Attempt

/-- The whole of a call. -/
def operation (attempt : Attempt) (settings : Settings) (id : Identifier) : Operating Report :=
  attempt.errand.operation ⟨settings, attempt.now⟩ id

/-- What a call does with the permit. -/
def work (attempt : Attempt) (settings : Settings) (id : Identifier) : Operating Report :=
  attempt.errand.work ⟨settings, attempt.now⟩ id

/-- A call that is left alone where a run is stored makes another one of it. -/
def Makes (attempt : Attempt) (settings : Settings) (run run' : Run) : Prop :=
  run.toLevel.SameRun run'.toLevel ∧ ∃ world : World, world.Ready ∧
    world.store.find? run.id = some run ∧
    ⟨.save run', .ok ()⟩ ∈ world.transcript (attempt.work settings run.id)

end Attempt

namespace Traffic

variable (attempts : Ticket → Attempt)

/-- A request of a call has been answered, and this is left of the call. -/
def answered (traffic : Traffic) (who : Ticket) (exchange : Exchange) (rest : Operating Report)
    (world : World) : Traffic where
  world := world
  left := fun other => if other = who then rest else traffic.left other
  log := traffic.log ++ [⟨who, exchange⟩]

/-- Has the next request of a call answered, if it can be answered. -/
def advance (traffic : Traffic) (who : Ticket) : Traffic :=
  match traffic.left who with
  | .done _ => traffic
  | .ask request next =>
    match (traffic.world.atTime (attempts who).now).answer who request with
    | (some answer, world) => traffic.answered who ⟨request, answer⟩ (next answer) world
    | (none, world) => { traffic with world }

/-- Calls on a run before any of them has begun. -/
def opening (world : World) (id : Identifier) : Traffic where
  world := world
  left := fun who => (attempts who).operation world.bounds.settings id

/-- The calls on a run after they had their turns, one request at a time. -/
def course (world : World) (id : Identifier) (turns : List Ticket) : Traffic :=
  turns.foldl (advance attempts) (opening attempts world id)

section

variable {attempts} {traffic : Traffic} {who other : Ticket} {exchange : Exchange}
  {rest : Operating Report} {world : World}

@[simp] theorem answered_left_self :
    (traffic.answered who exchange rest world).left who = rest := if_pos rfl

theorem answered_left_other (h : other ≠ who) :
    (traffic.answered who exchange rest world).left other = traffic.left other := if_neg h

theorem advance_done {report : Report} (h : traffic.left who = .done report) :
    traffic.advance attempts who = traffic := by
  rw [advance, h]

theorem advance_answered {request : Request} {next : request.Answer → Operating Report}
    {answer : request.Answer} (h : traffic.left who = .ask request next)
    (hanswer : (traffic.world.atTime (attempts who).now).answer who request =
      (some answer, world)) :
    traffic.advance attempts who =
      traffic.answered who ⟨request, answer⟩ (next answer) world := by
  rw [advance, h]
  simp only [hanswer]

theorem advance_blocked {request : Request} {next : request.Answer → Operating Report}
    (h : traffic.left who = .ask request next)
    (hanswer : (traffic.world.atTime (attempts who).now).answer who request = (none, world)) :
    traffic.advance attempts who = { traffic with world } := by
  rw [advance, h]
  simp only [hanswer]

theorem advance_left_other (h : other ≠ who) :
    (traffic.advance attempts who).left other = traffic.left other := by
  unfold advance
  split
  · rfl
  · split
    · exact answered_left_other h
    · rfl

/-- A call that has had no turn has not begun. -/
theorem course_left {id : Identifier} {turns : List Ticket} (h : who ∉ turns) :
    (course attempts world id turns).left who =
      (attempts who).operation world.bounds.settings id := by
  induction turns using List.reverseRecOn with
  | nil => rfl
  | append_singleton turns other ih =>
      rw [List.mem_append, List.mem_singleton, not_or] at h
      rw [course, List.foldl_append]
      exact (advance_left_other h.2).trans (ih h.1)

end

end Traffic

/-! ## Reading a log -/

/-- A run is in a suspension with a token. -/
def Run.Awaits (run : Run) (token : Identifier) : Prop :=
  ∃ suspension, run.suspension = some suspension ∧ suspension.token = token

namespace Entry

/-- The run that was stored, if one was. -/
def saved? (entry : Entry) : Option Run :=
  match entry.exchange with
  | ⟨.save run, _⟩ => some run
  | _ => none

theorem saved?_eq_none {entry : Entry} (h : entry.exchange.1.isSave = false) :
    entry.saved? = none := by
  obtain ⟨who, request, answer⟩ := entry
  cases request <;> first | rfl | simp [Request.isSave] at h

end Entry

namespace Log

/-- The run that was stored last, having been `first` before. -/
def current (first : Run) (log : List Entry) : Run :=
  log.foldl (fun run entry => entry.saved?.getD run) first

/-- Nothing is stored, and this call loads nothing. -/
def Calm (who : Ticket) (log : List Entry) : Prop :=
  ∀ entry ∈ log, entry.exchange.1.isSave = false ∧
    (entry.who = who → entry.exchange.1.isLoad = false)

/-- The part of a log that is due to one call. -/
def share (who : Ticket) (log : List Entry) : List Exchange :=
  (log.filter (·.who = who)).map (·.exchange)

/-- A call has been given a permit. -/
def Permitted (who : Ticket) (log : List Entry) : Prop :=
  ∃ key, (⟨who, .lock key, ()⟩ : Entry) ∈ log ∨ ⟨who, .tryLock key, true⟩ ∈ log

/-- What a call has loaded last, with the permit, and nothing was stored since. -/
def Reads (id : Identifier) (log : List Entry) (who : Ticket) (run : Run) : Prop :=
  ∃ before since, log = before ++ ⟨who, .load id, .ok (some run)⟩ :: since ∧
    Permitted who before ∧ Calm who since

/-- A call has taken the run off a suspension: it has read the run there and then stored it. -/
def Took (id : Identifier) (log : List Entry) (who : Ticket) (token : Identifier) : Prop :=
  ∃ before after run run', log = before ++ ⟨who, .save run', .ok ()⟩ :: after ∧
    Reads id before who run ∧ run.Awaits token

/-- An entry fits what was logged before: a call reads the run as it was stored last, and stores
what it makes of the run that it has read, in no suspension that the run was in before. -/
structure Fits (makes : Ticket → Run → Run → Prop) (id : Identifier) (first : Run)
    (before : List Entry) (entry : Entry) : Prop where
  reads : ∀ answer, entry.exchange = ⟨.load id, answer⟩ →
    answer = .ok (some (current first before))
  saves : ∀ run', entry.saved? = some run' → entry.exchange = ⟨.save run', .ok ()⟩ ∧
    ∃ run, Reads id before entry.who run ∧ makes entry.who run run' ∧
      ∀ token, run'.Awaits token → ¬run.Awaits token ∧ ∀ who, ¬Took id before who token

def Coherent (makes : Ticket → Run → Run → Prop) (id : Identifier) (first : Run)
    (log : List Entry) : Prop :=
  ∀ before entry after, log = before ++ entry :: after → Fits makes id first before entry

variable {makes : Ticket → Run → Run → Prop} {id token : Identifier} {first run : Run}
  {log : List Entry} {entry : Entry} {who other : Ticket}

theorem current_append_of_calm {since : List Entry} (h : Calm who since) :
    current first (log ++ since) = current first log := by
  unfold current
  rw [List.foldl_append]
  induction since with
  | nil => rfl
  | cons entry rest ih =>
      have hnone := Entry.saved?_eq_none (h entry (.head _)).1
      rw [List.foldl_cons, hnone]
      exact ih fun other hother => h other (.tail _ hother)

theorem current_snoc (entry : Entry) :
    current first (log ++ [entry]) = entry.saved?.getD (current first log) := by
  simp [current]

theorem share_snoc (who : Ticket) (log : List Entry) (entry : Entry) :
    share who (log ++ [entry]) =
      share who log ++ if entry.who = who then [entry.exchange] else [] := by
  by_cases h : entry.who = who <;> simp [share, List.filter_append, h]

theorem mem_share {x : Exchange} : x ∈ share who log ↔ (⟨who, x⟩ : Entry) ∈ log := by
  constructor
  · intro h
    obtain ⟨entry, hentry, rfl⟩ := List.mem_map.mp h
    obtain ⟨hmem, hwho⟩ := List.mem_filter.mp hentry
    obtain rfl := of_decide_eq_true hwho
    exact hmem
  · intro h
    exact List.mem_map.mpr ⟨⟨who, x⟩, List.mem_filter.mpr ⟨h, by simp⟩, rfl⟩

theorem Reads.snoc (h : Reads id log who run) (hsave : entry.exchange.1.isSave = false)
    (hload : entry.who = who → entry.exchange.1.isLoad = false) :
    Reads id (log ++ [entry]) who run := by
  obtain ⟨before, since, rfl, hpermitted, hcalm⟩ := h
  refine ⟨before, since ++ [entry], by simp, hpermitted, fun other hother => ?_⟩
  rcases List.mem_append.mp hother with hother | hother
  · exact hcalm other hother
  · obtain rfl := List.mem_singleton.mp hother
    exact ⟨hsave, hload⟩

theorem coherent_nil : Coherent makes id first [] := by
  intro before entry after h
  simp at h

theorem Coherent.snoc (h : Coherent makes id first log) (hfits : Fits makes id first log entry) :
    Coherent makes id first (log ++ [entry]) := by
  intro before other after hsplit
  rcases split_snoc hsplit with ⟨rfl, rfl, -⟩ | ⟨rest, -, hsplit⟩
  · exact hfits
  · exact h before other rest hsplit

theorem Coherent.before {after : List Entry} (h : Coherent makes id first (log ++ after)) :
    Coherent makes id first log := by
  rintro before entry rest rfl
  exact h before entry (rest ++ after) (by simp)

/-- What a call has read last is what was stored last. -/
theorem Coherent.reads_current (h : Coherent makes id first log) (hreads : Reads id log who run) :
    run = current first log := by
  obtain ⟨before, since, rfl, -, hcalm⟩ := hreads
  have hanswer := (h before _ since rfl).reads _ rfl
  have hload : current first (before ++ [⟨who, .load id, .ok (some run)⟩]) =
      current first before := by
    rw [current_snoc]
    rfl
  rw [← List.singleton_append, ← List.append_assoc, current_append_of_calm hcalm, hload]
  exact Option.some.inj (Except.ok.inj hanswer)

theorem Took.of_snoc (h : Took id (log ++ [entry]) who token) :
    Took id log who token ∨ ∃ run run', entry = ⟨who, .save run', .ok ()⟩ ∧
      Reads id log who run ∧ run.Awaits token := by
  obtain ⟨before, after, run, run', hsplit, hreads, hawaits⟩ := h
  rcases split_snoc hsplit with ⟨rfl, rfl, -⟩ | ⟨rest, -, hsplit⟩
  · exact .inr ⟨run, run', rfl, hreads, hawaits⟩
  · exact .inl ⟨before, rest, run, run', hsplit, hreads, hawaits⟩

/-- A call that has read the run and then stores it takes it off its suspension. -/
theorem Reads.took (h : Reads id log who run) (hawaits : run.Awaits token) (run' : Run) :
    Took id (log ++ [⟨who, .save run', .ok ()⟩]) who token :=
  ⟨log, [], run, run', rfl, h, hawaits⟩

theorem Took.append (h : Took id log who token) (more : List Entry) :
    Took id (log ++ more) who token := by
  obtain ⟨before, after, run, run', rfl, hreads, hawaits⟩ := h
  exact ⟨before, after ++ more, run, run', by simp, hreads, hawaits⟩

/-- A run is never again in a suspension that it was taken off. -/
theorem Coherent.spent (h : Coherent makes id first log) (htook : Took id log who token) :
    ¬(current first log).Awaits token := by
  induction log using List.reverseRecOn generalizing who with
  | nil =>
      obtain ⟨before, after, run, run', hsplit, -⟩ := htook
      simp at hsplit
  | append_singleton log entry ih =>
      have hfits := h log entry [] rfl
      rw [current_snoc]
      cases hsaved : entry.saved? with
      | none =>
          rcases htook.of_snoc with htook | ⟨run, run', rfl, -⟩
          · exact ih h.before htook
          · simp [Entry.saved?] at hsaved
      | some run' =>
          -- what is stored now is in a suspension that neither the run before was in nor anyone
          -- has taken it off
          obtain ⟨-, read, hread, -, hnew⟩ := hfits.saves run' hsaved
          intro hawaits
          obtain ⟨hleft, huntaken⟩ := hnew token hawaits
          rcases htook.of_snoc with htook | ⟨run, run'', rfl, hreads, hrun⟩
          · exact huntaken who htook
          · rw [h.before.reads_current hread, ← h.before.reads_current hreads] at hleft
            exact hleft hrun

/-- At most one call takes a run off a suspension. -/
theorem Coherent.took_once (h : Coherent makes id first log) (htook : Took id log who token)
    (htook' : Took id log other token) : who = other := by
  induction log using List.reverseRecOn with
  | nil =>
      obtain ⟨before, after, run, run', hsplit, -⟩ := htook
      simp at hsplit
  | append_singleton log entry ih =>
      -- whoever takes it now has read it in a suspension that nobody has taken it off before
      have hfresh {who : Ticket} {run : Run} (hreads : Reads id log who run)
          (hawaits : run.Awaits token) (other : Ticket) : ¬Took id log other token := by
        rw [h.before.reads_current hreads] at hawaits
        exact fun htook => h.before.spent htook hawaits
      rcases htook.of_snoc with hold | ⟨run, run', hentry, hreads, hawaits⟩
      · rcases htook'.of_snoc with hold' | ⟨run, run', -, hreads, hawaits⟩
        · exact ih h.before hold hold'
        · exact absurd hold (hfresh hreads hawaits who)
      · rcases htook'.of_snoc with hold' | ⟨_, _, hentry', -⟩
        · exact absurd hold' (hfresh hreads hawaits other)
        · exact congrArg Entry.who (hentry.symm.trans hentry')

end Log

/-- What a call has had answered is the last of its part of the log. -/
theorem Traffic.share_answered (traffic : Traffic) (who : Ticket) (exchange : Exchange)
    (rest : Operating Report) (world : World) :
    Log.share who (traffic.answered who exchange rest world).log =
      Log.share who traffic.log ++ [exchange] :=
  (Log.share_snoc who traffic.log ⟨who, exchange⟩).trans (congrArg _ (if_pos rfl))

end Dialogue
