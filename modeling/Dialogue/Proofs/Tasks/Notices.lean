import Mathlib.Data.List.Induction
import Mathlib.Data.Set.Card
import Dialogue.Proofs.Instant
import Dialogue.Proofs.Tasks.Table

/-!
# Who is given notice

Alarms are set and cancelled while time passes.  Whatever the order, there is one
notice for every alarm that was not superseded before time has passed up to its
deadline, and none for any other: an alarm is superseded when the timers of its run
are cancelled, or when one is set for another suspension of the run.  What happens at
the very moment of a deadline, before time passes on, happens before the notice.
-/

namespace Dialogue.TaskTable

/-- What is done with a table of tasks. -/
inductive Move where
  /-- An alarm is set for an instant. -/
  | schedule (firing : Firing) (time : Instant)
  /-- The timers of a run are cancelled. -/
  | cancel (run : Identifier)
  /-- Some nanoseconds pass. -/
  | advance (nanos : Nat)
  deriving DecidableEq

namespace Move

/-- How much time passes. -/
def nanos : Move → Nat
  | advance nanos => nanos
  | _ => 0

/-- Whether a move ends the suspension that an alarm was set for. -/
def Supersedes (firing : Firing) : Move → Prop
  | schedule other _ => other.run = firing.run ∧ other.token ≠ firing.token
  | cancel run => run = firing.run
  | advance _ => False

end Move

/-- How much time passes in the course of moves. -/
def elapsed (moves : List Move) : Nat := (moves.map Move.nanos).sum

/-- One move, which is made by the call of this number, where the clock began at `start`. -/
def move (start : Instant) (table : TaskTable) (call : Nat) : Move → TaskTable
  | .schedule firing time => table.schedule start call firing time
  | .cancel run => table.cancel run
  | .advance nanos => table.advance nanos

/-- The table after moves.  The number of a move is the call that makes it. -/
def after (start : Instant) (moves : List Move) : TaskTable :=
  moves.zipIdx.foldl (fun table numbered => table.move start numbered.2 numbered.1) {}

/-- The moment for which an alarm is set after some moves. -/
def deadline (start : Instant) (earlier : List Move) (time : Instant) : Nat :=
  elapsed earlier + Timers.wait (.ofTotal (start.total + elapsed earlier)) time

/-- In the course of moves time passes up to a deadline. -/
def Reaches (clock deadline : Nat) (moves : List Move) : Prop :=
  ∃ middle nanos rest, moves = middle ++ .advance nanos :: rest ∧
    deadline ≤ clock + elapsed middle + nanos

/-- Time passes up to the deadline of an alarm before the alarm is superseded. -/
def Rings (clock deadline : Nat) (firing : Firing) (moves : List Move) : Prop :=
  ∃ middle nanos rest, moves = middle ++ .advance nanos :: rest ∧
    deadline ≤ clock + elapsed middle + nanos ∧ ∀ move ∈ middle, ¬move.Supersedes firing

/-- An alarm is superseded before time passes up to its deadline. -/
def Silenced (clock deadline : Nat) (firing : Firing) (moves : List Move) : Prop :=
  ∃ middle move rest, moves = middle ++ move :: rest ∧ move.Supersedes firing ∧
    ¬Reaches clock deadline middle

/-- A run had an alarm set since its timers were last cancelled. -/
def Pending (moves : List Move) (run : Identifier) : Prop :=
  ∃ earlier firing time later, moves = earlier ++ .schedule firing time :: later ∧
    firing.run = run ∧ .cancel run ∉ later

variable {start : Instant} {moves earlier later middle : List Move} {clock due call : Nat}
  {firing : Firing} {m : Move}

theorem after_snoc (start : Instant) (moves : List Move) (m : Move) :
    after start (moves ++ [m]) = (after start moves).move start moves.length m := by
  simp [after, List.zipIdx_append]

theorem elapsed_append (moves later : List Move) :
    elapsed (moves ++ later) = elapsed moves + elapsed later := by
  unfold elapsed
  rw [List.map_append, List.sum_append]

/-! ## Superseded or not -/

theorem Reaches.append (h : Reaches clock due moves) (later : List Move) :
    Reaches clock due (moves ++ later) := by
  obtain ⟨middle, nanos, rest, rfl, hdue⟩ := h
  exact ⟨middle, nanos, rest ++ later, by simp, hdue⟩

theorem Rings.append (h : Rings clock due firing moves) (later : List Move) :
    Rings clock due firing (moves ++ later) := by
  obtain ⟨middle, nanos, rest, rfl, hdue, hnone⟩ := h
  exact ⟨middle, nanos, rest ++ later, by simp, hdue, hnone⟩

theorem Rings.reaches (h : Rings clock due firing moves) : Reaches clock due moves := by
  obtain ⟨middle, nanos, rest, hmoves, hdue, -⟩ := h
  exact ⟨middle, nanos, rest, hmoves, hdue⟩

theorem Silenced.append (h : Silenced clock due firing moves) (later : List Move) :
    Silenced clock due firing (moves ++ later) := by
  obtain ⟨middle, move, rest, rfl, hmove, hbefore⟩ := h
  exact ⟨middle, move, rest ++ later, by simp, hmove, hbefore⟩

/-- An alarm that is silenced does not ring. -/
theorem Silenced.not_rings (h : Silenced clock due firing moves) :
    ¬Rings clock due firing moves := by
  obtain ⟨middle, move, rest, rfl, hmove, hbefore⟩ := h
  rintro ⟨middle', nanos, rest', hmoves, hdue, hnone⟩
  rcases List.append_eq_append_iff.mp hmoves with ⟨more, rfl, hmore⟩ | ⟨more, rfl, hmore⟩
  · cases more with
    | nil =>
        obtain ⟨rfl, -⟩ := List.cons.inj hmore
        exact hmove
    | cons first more =>
        obtain ⟨rfl, -⟩ := List.cons.inj hmore
        exact hnone move (by simp) hmove
  · cases more with
    | nil =>
        obtain ⟨rfl, -⟩ := List.cons.inj hmore
        exact hmove
    | cons first more =>
        obtain ⟨rfl, -⟩ := List.cons.inj hmore
        exact hbefore ⟨middle', nanos, more, rfl, hdue⟩

/-- Time passes up to a deadline with the last move or before it. -/
theorem reaches_snoc_iff :
    Reaches clock due (moves ++ [m]) ↔
      Reaches clock due moves ∨
        ∃ nanos, m = .advance nanos ∧ due ≤ clock + elapsed moves + nanos := by
  constructor
  · rintro ⟨middle, nanos, rest, hmoves, hdue⟩
    rcases split_snoc hmoves with ⟨rfl, rfl, -⟩ | ⟨rest, -, rfl⟩
    · exact .inr ⟨nanos, rfl, hdue⟩
    · exact .inl ⟨middle, nanos, rest, rfl, hdue⟩
  · rintro (h | ⟨nanos, rfl, hdue⟩)
    · exact h.append [m]
    · exact ⟨moves, nanos, [], rfl, hdue⟩

/-! ## The course of one alarm -/

/-- How it stands with an alarm of a call after the moves since it was set. -/
inductive Stands (table : TaskTable) (call clock due : Nat) (firing : Firing)
    (later : List Move) : Prop
  /-- Its task sleeps, with the handle of its suspension. -/
  | waits (handle : Nat) (early : ¬Reaches clock due later)
      (valid : ∀ move ∈ later, ¬move.Supersedes firing)
      (sleeps : table.tasks.filter (·.call = call) = [⟨call, firing, due, handle⟩])
      (held : (firing.run, firing.token, handle) ∈ table.pending)
      (silent : table.notices.filter (·.call = call) = [])
  /-- There was notice. -/
  | rang (rings : Rings clock due firing later)
      (gone : ∀ task ∈ table.tasks, task.call ≠ call)
      (notice : table.notices.filter (·.call = call) = [⟨call, firing, due⟩])
  /-- Its handle was cancelled before. -/
  | silenced (silenced : Silenced clock due firing later)
      (dead : ∀ task ∈ table.tasks, task.call = call → task.handle ∈ table.cancelled)
      (silent : table.notices.filter (·.call = call) = [])

section

variable {table : TaskTable} {task : Sleeper}

theorem filter_place (h : task.call ≠ call) (tasks : List Sleeper) :
    (place task tasks).filter (·.call = call) = tasks.filter (·.call = call) := by
  induction tasks with
  | nil => exact List.filter_cons_of_neg (by simpa using h)
  | cons first rest ih =>
      by_cases hbefore : task.deadline < first.deadline
      · have hplace : place task (first :: rest) = task :: first :: rest := if_pos hbefore
        rw [hplace, List.filter_cons_of_neg (by simpa using h)]
      · have hplace : place task (first :: rest) = first :: place task rest := if_neg hbefore
        rw [hplace, List.filter_cons, List.filter_cons, ih]

/-- The notices of a call when time passes are those of its tasks that are due. -/
theorem notices_advance (h : table.Sound) (nanos call : Nat) :
    (table.advance nanos).notices.filter (·.call = call) =
      table.notices.filter (·.call = call) ++
        (((table.tasks.filter (·.call = call)).filter
            (·.deadline ≤ table.clock + nanos)).filter (·.handle ∉ table.cancelled)).map
          fun task => ⟨task.call, task.firing, task.deadline⟩ := by
  rw [h.advance_eq, List.filter_append, List.filter_map, List.filter_filter, List.filter_filter,
    List.filter_filter, List.filter_filter]
  congr 3
  funext task
  simp [Bool.and_comm, Bool.and_left_comm]

/-- A move that takes no time leaves a task asleep, unless it supersedes the alarm and cancels the
handle. -/
theorem Stands.still (h : Stands table call clock due firing later) {next : TaskTable}
    (hm : ∀ nanos, m ≠ .advance nanos)
    (htasks : next.tasks.filter (·.call = call) = table.tasks.filter (·.call = call))
    (hnotices : next.notices = table.notices) (hcancelled : table.cancelled ⊆ next.cancelled)
    (hkept : ∀ handle, (firing.run, firing.token, handle) ∈ table.pending →
      ¬m.Supersedes firing → (firing.run, firing.token, handle) ∈ next.pending)
    (hhit : ∀ handle, (firing.run, firing.token, handle) ∈ table.pending →
      m.Supersedes firing → handle ∈ next.cancelled) :
    Stands next call clock due firing (later ++ [m]) := by
  have hmem (task : Sleeper) (htask : task ∈ next.tasks) (hcall : task.call = call) :
      task ∈ table.tasks.filter (·.call = call) := by
    rw [← htasks]
    exact List.mem_filter.mpr ⟨htask, by simpa using hcall⟩
  cases h with
  | waits handle early valid sleeps held silent =>
      by_cases hsupersedes : m.Supersedes firing
      · refine .silenced ⟨later, m, [], rfl, hsupersedes, early⟩ ?_ (hnotices ▸ silent)
        intro task htask hcall
        have hsame := hmem task htask hcall
        rw [sleeps, List.mem_singleton] at hsame
        rw [hsame]
        exact hhit handle held hsupersedes
      · have hearly : ¬Reaches clock due (later ++ [m]) := by
          rw [reaches_snoc_iff]
          rintro (h | ⟨nanos, hadvance, -⟩)
          · exact early h
          · exact hm nanos hadvance
        have hvalid := List.forall_mem_append.mpr ⟨valid, List.forall_mem_singleton.mpr hsupersedes⟩
        exact .waits handle hearly hvalid (htasks.trans sleeps) (hkept handle held hsupersedes)
          (hnotices ▸ silent)
  | rang rings gone notice =>
      refine .rang (rings.append _) ?_ (hnotices ▸ notice)
      intro task htask hcall
      exact gone task (List.mem_filter.mp (hmem task htask hcall)).1 hcall
  | silenced silenced dead silent =>
      refine .silenced (silenced.append _) ?_ (hnotices ▸ silent)
      intro task htask hcall
      exact hcancelled (dead task (List.mem_filter.mp (hmem task htask hcall)).1 hcall)

theorem Stands.cancel (h : Stands table call clock due firing later) (hsound : table.Sound)
    (run : Identifier) :
    Stands (table.cancel run) call clock due firing (later ++ [.cancel run]) := by
  obtain ⟨-, htasks, hnotices⟩ := table.cancel_fields run
  refine h.still nofun (by rw [htasks]) hnotices (table.cancelled_subset_cancel run) ?_ ?_
  · intro handle held hother
    exact mem_pending_cancel.mpr ⟨held, Ne.symm hother⟩
  · rintro handle held rfl
    rw [cancel_of_mem hsound held]
    exact List.mem_cons_self

theorem Stands.schedule (h : Stands table call clock due firing later) (hsound : table.Sound)
    (start : Instant) {other : Nat} (hother : other ≠ call) (next : Firing) (time : Instant) :
    Stands (table.schedule start other next time) call clock due firing
      (later ++ [.schedule next time]) := by
  have hhanded := hsound.handed next.run next.token
  have htasks : (table.schedule start other next time).tasks.filter (·.call = call) =
      table.tasks.filter (·.call = call) := by
    rw [← hhanded.tasks]
    exact filter_place hother _
  refine h.still nofun htasks hhanded.notices hhanded.cancelled ?_ ?_
  · intro handle held hsupersedes
    apply (hhanded.pending _).mpr
    by_cases hrun : next.run = firing.run
    · have htoken : next.token = firing.token := by
        by_contra hne
        exact hsupersedes ⟨hrun, hne⟩
      left
      rw [hhanded.shared handle (by rw [hrun, htoken]; exact held), hrun, htoken]
    · exact .inr ⟨held, Ne.symm hrun⟩
  · rintro handle held ⟨hrun, htoken⟩
    exact hhanded.replaced firing.token handle (by rw [hrun]; exact held) (Ne.symm htoken)

theorem Stands.advance (h : Stands table call clock due firing later) (hsound : table.Sound)
    (hclock : table.clock = clock + elapsed later) (nanos : Nat) :
    Stands (table.advance nanos) call clock due firing (later ++ [.advance nanos]) := by
  have hnotices := notices_advance hsound nanos call
  have htasks : (table.advance nanos).tasks =
      table.tasks.filter (table.clock + nanos < ·.deadline) := by rw [hsound.advance_eq]
  have hcancelled : (table.advance nanos).cancelled = table.cancelled := rfl
  cases h with
  | waits handle early valid sleeps held silent =>
      have hlive := hsound.live _ held
      by_cases hdue : due ≤ table.clock + nanos
      · refine .rang ⟨later, nanos, [], rfl, hclock ▸ hdue, valid⟩ ?_ ?_
        · intro task htask hcall
          rw [htasks] at htask
          obtain ⟨htask, hlate⟩ := List.mem_filter.mp htask
          have hmem : task ∈ table.tasks.filter (·.call = call) :=
            List.mem_filter.mpr ⟨htask, by simpa using hcall⟩
          rw [sleeps, List.mem_singleton] at hmem
          rw [hmem] at hlate
          have hlater : table.clock + nanos < due := by simpa using hlate
          omega
        · rw [hnotices, sleeps, silent]
          simp [hdue, hlive]
      · have hpasses : ¬(Move.advance nanos).Supersedes firing := id
        have hvalid := List.forall_mem_append.mpr ⟨valid, List.forall_mem_singleton.mpr hpasses⟩
        refine .waits handle ?_ hvalid ?_ held ?_
        · rw [reaches_snoc_iff]
          rintro (h | ⟨nanos', hm, hreach⟩)
          · exact early h
          · cases hm
            exact hdue (hclock ▸ hreach)
        · rw [htasks, List.filter_comm, sleeps]
          simp [Nat.lt_of_not_le hdue]
        · rw [hnotices, sleeps, silent]
          simp [hdue]
  | rang rings gone notice =>
      have hnone : table.tasks.filter (·.call = call) = [] := by
        rw [List.filter_eq_nil_iff]
        intro task htask
        simpa using gone task htask
      refine .rang (rings.append _) ?_ ?_
      · intro task htask
        rw [htasks] at htask
        exact gone task (List.mem_filter.mp htask).1
      · rw [hnotices, hnone, notice]
        rfl
  | silenced silenced dead silent =>
      refine .silenced (silenced.append _) ?_ ?_
      · intro task htask hcall
        rw [htasks] at htask
        exact dead task (List.mem_filter.mp htask).1 hcall
      · rw [hnotices, silent, List.nil_append, List.map_eq_nil_iff, List.filter_eq_nil_iff]
        intro task htask
        obtain ⟨htask, hcall⟩ := List.mem_filter.mp (List.mem_filter.mp htask).1
        simpa using dead task htask (by simpa using hcall)

end

/-! ## All alarms -/

/-- One of the moves is the call of this number, and sets an alarm. -/
def Called (moves : List Move) (call : Nat) : Prop :=
  ∃ earlier firing time later, moves = earlier ++ .schedule firing time :: later ∧
    call = earlier.length

theorem Called.append (h : Called moves call) (later : List Move) :
    Called (moves ++ later) call := by
  obtain ⟨earlier, firing, time, rest, rfl, rfl⟩ := h
  exact ⟨earlier, firing, time, rest ++ later, by simp, rfl⟩

theorem Called.lt_length (h : Called moves call) : call < moves.length := by
  obtain ⟨earlier, firing, time, rest, rfl, rfl⟩ := h
  rw [List.length_append, List.length_cons]
  omega

theorem called_last (moves : List Move) (firing : Firing) (time : Instant) :
    Called (moves ++ [.schedule firing time]) moves.length :=
  ⟨moves, firing, time, [], rfl, rfl⟩

/-- A run is pending if its last timer was set after the last time they were cancelled. -/
theorem pending_snoc_iff {run : Identifier} :
    Pending (moves ++ [m]) run ↔
      m ≠ .cancel run ∧ (Pending moves run ∨
        ∃ firing time, m = .schedule firing time ∧ firing.run = run) := by
  constructor
  · rintro ⟨earlier, firing, time, later, hmoves, hrun, hkept⟩
    rcases split_snoc hmoves with ⟨rfl, rfl, -⟩ | ⟨rest, rfl, rfl⟩
    · exact ⟨nofun, .inr ⟨firing, time, rfl, hrun⟩⟩
    · rw [List.mem_append, List.mem_singleton, not_or] at hkept
      exact ⟨Ne.symm hkept.2, .inl ⟨earlier, firing, time, rest, rfl, hrun, hkept.1⟩⟩
  · rintro ⟨hm, ⟨earlier, firing, time, later, rfl, hrun, hkept⟩ | ⟨firing, time, rfl, hrun⟩⟩
    · refine ⟨earlier, firing, time, later ++ [m], by simp, hrun, ?_⟩
      rw [List.mem_append, List.mem_singleton, not_or]
      exact ⟨hkept, Ne.symm hm⟩
    · exact ⟨moves, firing, time, [], rfl, hrun, List.not_mem_nil⟩

/-- What is known of a table after moves. -/
structure Booked (moves : List Move) (table : TaskTable) : Prop where
  sound : table.Sound
  clock : table.clock = elapsed moves
  tasks : ∀ task ∈ table.tasks, Called moves task.call
  notices : ∀ notice ∈ table.notices, Called moves notice.call
  pending : ∀ run, (∃ entry ∈ table.pending, entry.1 = run) ↔ Pending moves run

section

variable {table : TaskTable}

theorem Booked.schedule (h : Booked moves table) (start : Instant) (firing : Firing)
    (time : Instant) :
    Booked (moves ++ [.schedule firing time]) (table.schedule start moves.length firing time) := by
  have hhanded := h.sound.handed firing.run firing.token
  refine ⟨h.sound.schedule start _ firing time, ?_, ?_, ?_, ?_⟩
  · rw [elapsed_append, ← h.clock]
    exact hhanded.clock
  · intro task htask
    rcases mem_place.mp htask with rfl | htask
    · exact called_last moves firing time
    · have hold : task ∈ table.tasks := hhanded.tasks ▸ htask
      exact (h.tasks task hold).append _
  · intro notice hnotice
    have hold : notice ∈ table.notices := hhanded.notices ▸ hnotice
    exact (h.notices notice hold).append _
  · intro run
    rw [pending_snoc_iff, ← h.pending]
    constructor
    · rintro ⟨entry, hentry, rfl⟩
      refine ⟨nofun, ?_⟩
      rcases (hhanded.pending entry).mp hentry with rfl | ⟨hold, -⟩
      · exact .inr ⟨firing, time, rfl, rfl⟩
      · exact .inl ⟨entry, hold, rfl⟩
    · rintro ⟨-, ⟨entry, hentry, rfl⟩ | ⟨other, time', hmove, rfl⟩⟩
      · by_cases hrun : entry.1 = firing.run
        · exact ⟨_, hhanded.mem, hrun.symm⟩
        · exact ⟨entry, (hhanded.pending entry).mpr (.inr ⟨hentry, hrun⟩), rfl⟩
      · cases hmove
        exact ⟨_, hhanded.mem, rfl⟩

theorem Booked.cancel (h : Booked moves table) (run : Identifier) :
    Booked (moves ++ [.cancel run]) (table.cancel run) := by
  obtain ⟨hclock, htasks, hnotices⟩ := table.cancel_fields run
  refine ⟨h.sound.cancel run, ?_, ?_, ?_, ?_⟩
  · rw [hclock, elapsed_append, h.clock]
    rfl
  · rw [htasks]
    intro task htask
    exact (h.tasks task htask).append _
  · rw [hnotices]
    intro notice hnotice
    exact (h.notices notice hnotice).append _
  · intro other
    rw [pending_snoc_iff, ← h.pending]
    constructor
    · rintro ⟨entry, hentry, rfl⟩
      obtain ⟨hentry, hrun⟩ := mem_pending_cancel.mp hentry
      refine ⟨?_, .inl ⟨entry, hentry, rfl⟩⟩
      intro hmove
      cases hmove
      exact hrun rfl
    · rintro ⟨hmove, ⟨entry, hentry, rfl⟩ | ⟨firing, time, hschedule, -⟩⟩
      · refine ⟨entry, mem_pending_cancel.mpr ⟨hentry, ?_⟩, rfl⟩
        intro hrun
        exact hmove (congrArg Move.cancel hrun.symm)
      · cases hschedule

theorem Booked.advance (h : Booked moves table) (nanos : Nat) :
    Booked (moves ++ [.advance nanos]) (table.advance nanos) := by
  refine ⟨h.sound.advance nanos, ?_, ?_, ?_, ?_⟩
  · rw [h.sound.advance_eq, elapsed_append, ← h.clock]
    rfl
  · rw [h.sound.advance_eq]
    intro task htask
    exact (h.tasks task (List.mem_filter.mp htask).1).append _
  · rw [h.sound.advance_eq]
    intro notice hnotice
    rcases List.mem_append.mp hnotice with hnotice | hnotice
    · exact (h.notices notice hnotice).append _
    · obtain ⟨task, htask, rfl⟩ := List.mem_map.mp hnotice
      have hold := (List.mem_filter.mp (List.mem_filter.mp htask).1).1
      exact (h.tasks task hold).append _
  · intro run
    rw [pending_snoc_iff, ← h.pending]
    constructor
    · intro hpending
      exact ⟨nofun, .inl hpending⟩
    · rintro ⟨-, hpending | ⟨firing, time, hmove, -⟩⟩
      · exact hpending
      · cases hmove

end

theorem booked_after (start : Instant) (moves : List Move) :
    Booked moves (after start moves) := by
  induction moves using List.reverseRecOn with
  | nil =>
      refine ⟨sound_empty, rfl, nofun, nofun, ?_⟩
      intro run
      constructor
      · rintro ⟨entry, hentry, -⟩
        cases hentry
      · rintro ⟨earlier, firing, time, later, hmoves, -⟩
        simp at hmoves
  | append_singleton moves m ih =>
      rw [after_snoc]
      cases m with
      | schedule firing time => exact ih.schedule start firing time
      | cancel run => exact ih.cancel run
      | advance nanos => exact ih.advance nanos

/-- An alarm that has just been set waits. -/
theorem Booked.stands (h : Booked earlier table) (start : Instant) (firing : Firing)
    (time : Instant) :
    Stands (table.schedule start earlier.length firing time) earlier.length (elapsed earlier)
      (deadline start earlier time) firing [] := by
  have hhanded := h.sound.handed firing.run firing.token
  have hfresh : table.tasks.filter (·.call = earlier.length) = [] := by
    rw [List.filter_eq_nil_iff]
    intro task htask
    simpa using Nat.ne_of_lt (h.tasks task htask).lt_length
  have hsilent : table.notices.filter (·.call = earlier.length) = [] := by
    rw [List.filter_eq_nil_iff]
    intro notice hnotice
    simpa using Nat.ne_of_lt (h.notices notice hnotice).lt_length
  have hdeadline : (table.handleFor firing.run firing.token).2.clock +
      Timers.wait (.ofTotal (start.total + table.clock)) time = deadline start earlier time := by
    rw [hhanded.clock, h.clock]
    rfl
  have htasks : (table.schedule start earlier.length firing time).tasks =
      place ⟨earlier.length, firing, deadline start earlier time,
        (table.handleFor firing.run firing.token).1⟩ table.tasks := by
    rw [← hdeadline, ← hhanded.tasks]
    rfl
  refine .waits (table.handleFor firing.run firing.token).1 ?_ nofun ?_ hhanded.mem ?_
  · rintro ⟨middle, nanos, rest, hmoves, -⟩
    simp at hmoves
  · rw [htasks]
    refine List.perm_singleton.mp (((List.perm_orderedInsert _ _ _).filter _).trans ?_)
    rw [List.filter_cons_of_pos (by simp), hfresh]
  · rw [← hsilent, ← hhanded.notices]
    rfl

theorem stands_after (start : Instant) (earlier : List Move) (firing : Firing) (time : Instant)
    (later : List Move) :
    Stands (after start (earlier ++ .schedule firing time :: later)) earlier.length
      (elapsed earlier) (deadline start earlier time) firing later := by
  induction later using List.reverseRecOn with
  | nil =>
      rw [after_snoc]
      exact (booked_after start earlier).stands start firing time
  | append_singleton later m ih =>
      have hbooked := booked_after start (earlier ++ .schedule firing time :: later)
      rw [← List.cons_append, ← List.append_assoc, after_snoc]
      cases m with
      | schedule next time' =>
          have hother : (earlier ++ .schedule firing time :: later).length ≠ earlier.length := by
            rw [List.length_append, List.length_cons]
            omega
          exact ih.schedule hbooked.sound start hother next time'
      | cancel run => exact ih.cancel hbooked.sound run
      | advance nanos =>
          refine ih.advance hbooked.sound ?_ nanos
          rw [hbooked.clock, elapsed_append]
          exact congrArg (elapsed earlier + ·) (Nat.zero_add (elapsed later))

end Dialogue.TaskTable

namespace Dialogue

/-! ## Tasks and timers -/

namespace Timers

/-- One move with timers, and the alarms that go off. -/
def move (start : Instant) (state : Timers × List Firing) :
    TaskTable.Move → Timers × List Firing
  | .schedule firing time =>
    (state.1.schedule firing time (.ofTotal (start.total + state.1.clock)), state.2)
  | .cancel run => (state.1.cancel run, state.2)
  | .advance nanos =>
    let (fired, timers) := state.1.advanceTo (state.1.clock + nanos)
    (timers, state.2 ++ fired)

/-- Timers after moves, with all alarms that went off. -/
def after (start : Instant) (moves : List TaskTable.Move) : Timers × List Firing :=
  moves.foldl (move start) ({}, [])

end Timers

namespace TaskTable

/-- What is seen of a table of tasks is what timers do. -/
theorem timers_after (start : Instant) (moves : List Move) :
    Timers.after start moves =
      ((after start moves).view, (after start moves).notices.map Notice.firing) := by
  induction moves using List.reverseRecOn with
  | nil => rfl
  | append_singleton moves m ih =>
      have hsound := (booked_after start moves).sound
      unfold Timers.after at ih ⊢
      rw [List.foldl_append, List.foldl_cons, List.foldl_nil, ih, after_snoc]
      cases m with
      | schedule firing time =>
          have hhanded := hsound.handed firing.run firing.token
          refine Prod.ext (hsound.view_schedule start _ firing time).symm ?_
          exact congrArg (List.map Notice.firing) hhanded.notices.symm
      | cancel run =>
          refine Prod.ext (hsound.view_cancel run).symm ?_
          exact congrArg (List.map Notice.firing) ((cancel_fields _ run).2.2).symm
      | advance nanos =>
          obtain ⟨hview, hnotices⟩ := hsound.view_advance nanos
          exact Prod.ext hview.symm hnotices.symm

/-- Who is given notice in the course of moves, and when. -/
structure Notifies (start : Instant) (moves : List Move) : Prop where
  /-- There is one notice for an alarm, at its deadline, unless it is superseded before. -/
  rings : ∀ earlier firing time later, moves = earlier ++ .schedule firing time :: later →
    Rings (elapsed earlier) (deadline start earlier time) firing later →
    (after start moves).notices.filter (·.call = earlier.length) =
      [⟨earlier.length, firing, deadline start earlier time⟩]
  /-- Otherwise there is none. -/
  silent : ∀ earlier firing time later, moves = earlier ++ .schedule firing time :: later →
    ¬Rings (elapsed earlier) (deadline start earlier time) firing later →
    (after start moves).notices.filter (·.call = earlier.length) = []
  /-- The deadline is the instant that the alarm was set for, or that of the call if it is later. -/
  deadline : ∀ earlier time, start.total + deadline start earlier time =
    max time.total (start.total + elapsed earlier)
  /-- Every notice is for an alarm that was set. -/
  called : ∀ notice ∈ (after start moves).notices, Called moves notice.call
  /-- Notices are given in the order of deadlines. -/
  ordered : (after start moves).notices.Pairwise fun a b => a.time ≤ b.time
  /-- The runs that have timers are those that had one set since they were last cancelled. -/
  pending : (after start moves).size = {run | Pending moves run}.ncard
  /-- Timers that have no handles go off in the same way, for as many runs. -/
  timers : (Timers.after start moves).2 = (after start moves).notices.map Notice.firing ∧
    (Timers.after start moves).1.size = (after start moves).size

/-- The number of runs in a table is the number of pending runs. -/
theorem Booked.size_eq {table : TaskTable} (h : Booked moves table) :
    table.size = {run | Pending moves run}.ncard := by
  have hset :
      {run | Pending moves run} = ((table.pending.map Prod.fst).toFinset : Set Identifier) := by
    ext run
    rw [Finset.mem_coe, List.mem_toFinset, List.mem_map]
    exact (h.pending run).symm
  rw [hset, Set.ncard_coe_finset, List.toFinset_card_of_nodup h.sound.runs, List.length_map]
  rfl

/-- Whatever alarms are set and cancelled while time passes: there is exactly one notice for each
alarm that is not superseded before its deadline, at its deadline, and none for any other. -/
theorem alarms_ring_unless_superseded (start : Instant) (moves : List Move) :
    Notifies start moves := by
  have hbooked := booked_after start moves
  constructor
  case rings =>
    rintro earlier firing time later rfl hrings
    cases stands_after start earlier firing time later with
    | waits handle early valid sleeps held silent => exact absurd hrings.reaches early
    | rang rings gone notice => exact notice
    | silenced silenced dead silent => exact absurd hrings silenced.not_rings
  case silent =>
    rintro earlier firing time later rfl hrings
    cases stands_after start earlier firing time later with
    | waits handle early valid sleeps held silent => exact silent
    | rang rings gone notice => exact absurd rings hrings
    | silenced silenced dead silent => exact silent
  case deadline =>
    intro earlier time
    unfold TaskTable.deadline Timers.wait
    rw [Instant.total_ofTotal]
    omega
  case called => exact hbooked.notices
  case ordered => exact hbooked.sound.told
  case pending => exact hbooked.size_eq
  case timers =>
    rw [timers_after]
    exact ⟨rfl, List.length_map _⟩

/-- One of two runs is cancelled before the second that their alarms are set for: there is notice
of the alarm of the other one, and of no other alarm. -/
theorem alarms_ring_unless_superseded_sample :
    let first : Firing := ⟨⟨1⟩, ⟨10⟩, .expire⟩
    let second : Firing := ⟨⟨2⟩, ⟨20⟩, .expire⟩
    let moves : List Move := [.schedule first ⟨1, 0⟩, .schedule second ⟨1, 0⟩, .cancel ⟨2⟩,
      .advance 2000000000]
    (after ⟨0, 0⟩ moves).notices.filter (·.call = 0) = [⟨0, first, 1000000000⟩] ∧
      (after ⟨0, 0⟩ moves).notices.filter (·.call = 1) = [] ∧
      (Timers.after ⟨0, 0⟩ moves).2 = [first] := by
  intro first second moves
  have hnotices : (after ⟨0, 0⟩ moves).notices = [⟨0, first, 1000000000⟩] := by decide
  have hnotifies : Notifies ⟨0, 0⟩ moves := alarms_ring_unless_superseded ⟨0, 0⟩ moves
  refine ⟨?_, ?_, ?_⟩
  · refine hnotifies.rings [] first ⟨1, 0⟩ _ rfl
      ⟨[.schedule second ⟨1, 0⟩, .cancel ⟨2⟩], 2000000000, [], rfl, by decide, ?_⟩
    simp [Move.Supersedes, first, second]
  · refine hnotifies.silent [.schedule first ⟨1, 0⟩] second ⟨1, 0⟩ _ rfl ?_
    refine Silenced.not_rings ⟨[], .cancel ⟨2⟩, [.advance 2000000000], rfl, rfl, ?_⟩
    rintro ⟨middle, nanos, rest, hmoves, -⟩
    simp at hmoves
  · rw [hnotifies.timers.1, hnotices]
    rfl

end TaskTable

end Dialogue
