import Dialogue.Tasks
import Dialogue.Proofs.Timers

/-!
# Tables of tasks

Every handle belongs to one suspension of one run, and is cancelled as soon as the
table of pending timers has it no more.  So a task whose handle is not cancelled
finds its own suspension in the table, and what is seen of a table of tasks without
the handles is `Timers`.
-/

namespace Dialogue.TaskTable

/-- A table in order, as every operation leaves it. -/
structure Sound (table : TaskTable) : Prop where
  /-- Tasks end in the order of their deadlines, none of which has passed. -/
  sorted : table.tasks.Pairwise fun a b => a.deadline ≤ b.deadline
  ahead : ∀ task ∈ table.tasks, table.clock ≤ task.deadline
  /-- Every run is in the table once, with a handle of its own that is not cancelled. -/
  runs : (table.pending.map Prod.fst).Nodup
  handles : (table.pending.map fun entry => entry.2.2).Nodup
  made : ∀ entry ∈ table.pending, entry.2.2 < table.made
  live : ∀ entry ∈ table.pending, entry.2.2 ∉ table.cancelled
  spent : ∀ handle ∈ table.cancelled, handle < table.made
  /-- A task that will give notice has its suspension in the table. -/
  held : ∀ task ∈ table.tasks, task.handle ∉ table.cancelled →
    (task.firing.run, task.firing.token, task.handle) ∈ table.pending
  /-- Notices were given in the order of deadlines, up to the present. -/
  told : table.notices.Pairwise fun a b => a.time ≤ b.time
  past : ∀ notice ∈ table.notices, notice.time ≤ table.clock

theorem sound_empty : Sound {} where
  sorted := .nil
  ahead _ h := nomatch h
  runs := .nil
  handles := .nil
  made _ h := nomatch h
  live _ h := nomatch h
  spent _ h := nomatch h
  held _ h := nomatch h
  told := .nil
  past _ h := nomatch h

variable {table : TaskTable} {run token : Identifier} {handle : Nat}

theorem lookup_eq_none_iff :
    table.pending.lookup run = none ↔ ∀ entry ∈ table.pending, entry.1 ≠ run := by
  rw [List.lookup_eq_none_iff]
  constructor
  · intro h entry hentry
    exact (bne_iff_ne.mp (h entry hentry)).symm
  · intro h entry hentry
    exact bne_iff_ne.mpr (h entry hentry).symm

/-! ## Cancelling -/

theorem cancel_of_lookup_none (h : table.pending.lookup run = none) :
    table.cancel run = table := by
  unfold cancel
  rw [h]

theorem cancel_of_mem (h : table.Sound) (hmem : (run, token, handle) ∈ table.pending) :
    table.cancel run =
      { table with
        pending := table.pending.filter (·.1 != run)
        cancelled := handle :: table.cancelled } := by
  unfold cancel
  rw [(mem_iff_lookup h.runs).mp hmem]

/-- What is cancelled stays cancelled. -/
theorem cancelled_subset_cancel (table : TaskTable) (run : Identifier) :
    table.cancelled ⊆ (table.cancel run).cancelled := by
  unfold cancel
  split
  · exact List.subset_cons_self _ _
  · exact List.Subset.refl _

/-- Only the suspension of the run leaves the table. -/
theorem mem_pending_cancel {entry : Identifier × Identifier × Nat} :
    entry ∈ (table.cancel run).pending ↔ entry ∈ table.pending ∧ entry.1 ≠ run := by
  unfold cancel
  split
  · rw [List.mem_filter, bne_iff_ne]
  · next hnone =>
    constructor
    · intro hmem
      exact ⟨hmem, lookup_eq_none_iff.mp hnone entry hmem⟩
    · exact And.left

/-- No two suspensions share a handle. -/
theorem Sound.eq_of_handle (h : table.Sound) {entry other : Identifier × Identifier × Nat}
    (hentry : entry ∈ table.pending) (hother : other ∈ table.pending)
    (hsame : entry.2.2 = other.2.2) : entry = other :=
  List.inj_on_of_nodup_map h.handles hentry hother hsame

/-- A run has one suspension in the table. -/
theorem Sound.eq_of_run (h : table.Sound) {entry other : Identifier × Identifier × Nat}
    (hentry : entry ∈ table.pending) (hother : other ∈ table.pending) (hsame : entry.1 = other.1) :
    entry = other :=
  List.inj_on_of_nodup_map h.runs hentry hother hsame

theorem Sound.cancel (h : table.Sound) (run : Identifier) : (table.cancel run).Sound := by
  cases hlookup : table.pending.lookup run with
  | none =>
      rw [cancel_of_lookup_none hlookup]
      exact h
  | some found =>
      obtain ⟨token, handle⟩ := found
      have hmem := (mem_iff_lookup h.runs).mpr hlookup
      rw [cancel_of_mem h hmem]
      refine ⟨h.sorted, h.ahead, h.runs.sublist (List.filter_sublist.map _),
        h.handles.sublist (List.filter_sublist.map _), ?_, ?_, ?_, ?_, h.told, h.past⟩
      · intro entry hentry
        exact h.made entry (List.mem_filter.mp hentry).1
      · intro entry hentry
        obtain ⟨hentry, hrun⟩ := List.mem_filter.mp hentry
        rw [List.mem_cons, not_or]
        refine ⟨?_, h.live entry hentry⟩
        intro hsame
        obtain rfl := h.eq_of_handle hentry hmem hsame
        simp at hrun
      · intro other hother
        rcases List.mem_cons.mp hother with rfl | hother
        · exact h.made _ hmem
        · exact h.spent other hother
      · intro task htask hlive
        rw [List.mem_cons, not_or] at hlive
        have hheld := h.held task htask hlive.2
        refine List.mem_filter.mpr ⟨hheld, ?_⟩
        rw [bne_iff_ne]
        intro hrun
        have hsame := h.eq_of_run hheld hmem hrun
        exact hlive.1 (congrArg (·.2.2) hsame)

/-! ## Handles -/

/-- A handle has been got for a suspension of a run: nothing else happens to the tasks, and of the
suspensions in the table only another one of the same run is lost. -/
structure Handed (table : TaskTable) (run token : Identifier) (handle : Nat)
    (after : TaskTable) : Prop where
  sound : after.Sound
  mem : (run, token, handle) ∈ after.pending
  clock : after.clock = table.clock
  tasks : after.tasks = table.tasks
  notices : after.notices = table.notices
  cancelled : table.cancelled ⊆ after.cancelled
  pending : ∀ entry, entry ∈ after.pending ↔
    entry = (run, token, handle) ∨ (entry ∈ table.pending ∧ entry.1 ≠ run)
  /-- The handle of another suspension is cancelled. -/
  replaced : ∀ other handle', (run, other, handle') ∈ table.pending → other ≠ token →
    handle' ∈ after.cancelled
  /-- The handle of the same suspension is used again. -/
  shared : ∀ handle', (run, token, handle') ∈ table.pending → handle' = handle

theorem Sound.newHandle (h : table.Sound) (hfree : table.pending.lookup run = none)
    (token : Identifier) :
    (table.newHandle run token).2.Sound := by
  have hnew := lookup_eq_none_iff.mp hfree
  refine ⟨h.sorted, h.ahead, ?_, ?_, ?_, ?_, ?_, ?_, h.told, h.past⟩
  · change ((table.pending ++ [(run, token, table.made)]).map Prod.fst).Nodup
    rw [List.map_append, List.nodup_append]
    refine ⟨h.runs, List.nodup_singleton _, ?_⟩
    intro other hother new hrun
    obtain ⟨entry, hentry, rfl⟩ := List.mem_map.mp hother
    rw [List.mem_singleton.mp hrun]
    exact hnew entry hentry
  · change ((table.pending ++ [(run, token, table.made)]).map fun entry => entry.2.2).Nodup
    rw [List.map_append, List.nodup_append]
    refine ⟨h.handles, List.nodup_singleton _, ?_⟩
    intro other hother new hmade
    obtain ⟨entry, hentry, rfl⟩ := List.mem_map.mp hother
    rw [List.mem_singleton.mp hmade]
    exact Nat.ne_of_lt (h.made entry hentry)
  · intro entry hentry
    rcases List.mem_append.mp hentry with hentry | hentry
    · exact Nat.lt_succ_of_lt (h.made entry hentry)
    · rw [List.mem_singleton.mp hentry]
      exact Nat.lt_succ_self _
  · intro entry hentry hcancelled
    rcases List.mem_append.mp hentry with hentry | hentry
    · exact h.live entry hentry hcancelled
    · rw [List.mem_singleton.mp hentry] at hcancelled
      exact Nat.lt_irrefl _ (h.spent _ hcancelled)
  · intro other hother
    exact Nat.lt_succ_of_lt (h.spent other hother)
  · intro task htask hlive
    exact List.mem_append_left _ (h.held task htask hlive)

theorem lookup_cancel_self (table : TaskTable) (run : Identifier) :
    (table.cancel run).pending.lookup run = none := by
  rw [lookup_eq_none_iff]
  intro entry hentry
  exact (mem_pending_cancel.mp hentry).2

theorem cancel_fields (table : TaskTable) (run : Identifier) :
    (table.cancel run).clock = table.clock ∧ (table.cancel run).tasks = table.tasks ∧
      (table.cancel run).notices = table.notices := by
  unfold cancel
  split <;> exact ⟨rfl, rfl, rfl⟩

/-- A run that has no handle, or one for another suspension, gets a new one. -/
theorem Sound.handed_new (h : table.Sound)
    (hother : ∀ current handle, (run, current, handle) ∈ table.pending → current ≠ token) :
    Handed table run token ((table.cancel run).newHandle run token).1
      ((table.cancel run).newHandle run token).2 := by
  have hfree := lookup_cancel_self table run
  obtain ⟨hclock, htasks, hnotices⟩ := table.cancel_fields run
  refine ⟨(h.cancel run).newHandle hfree token, ?_, hclock, htasks, hnotices,
    table.cancelled_subset_cancel run, ?_, ?_, ?_⟩
  · exact List.mem_append_right _ (List.mem_singleton_self _)
  · intro entry
    change entry ∈ (table.cancel run).pending ++ [_] ↔ _
    rw [List.mem_append, mem_pending_cancel, List.mem_singleton, or_comm]
    rfl
  · intro other handle' hmem _
    change handle' ∈ (table.cancel run).cancelled
    rw [cancel_of_mem h hmem]
    exact List.mem_cons_self
  · intro handle' hmem
    exact absurd rfl (hother token handle' hmem)

/-- A run that has a handle for the same suspension gets that one. -/
theorem Sound.handed_same (h : table.Sound) (hmem : (run, token, handle) ∈ table.pending) :
    Handed table run token handle table := by
  refine ⟨h, hmem, rfl, rfl, rfl, List.Subset.refl _, ?_, ?_, ?_⟩
  · intro entry
    constructor
    · intro hentry
      by_cases hrun : entry.1 = run
      · exact .inl (h.eq_of_run hentry hmem hrun)
      · exact .inr ⟨hentry, hrun⟩
    · rintro (rfl | ⟨hentry, -⟩)
      · exact hmem
      · exact hentry
  · intro other handle' hmem' hne
    cases h.eq_of_run hmem' hmem rfl
    exact absurd rfl hne
  · intro handle' hmem'
    cases h.eq_of_run hmem' hmem rfl
    rfl

theorem Sound.handed (h : table.Sound) (run token : Identifier) :
    Handed table run token (table.handleFor run token).1 (table.handleFor run token).2 := by
  unfold handleFor
  cases hlookup : table.pending.lookup run with
  | none =>
      have hother : ∀ current handle, (run, current, handle) ∈ table.pending → current ≠ token := by
        intro current handle hmem
        exact absurd rfl (lookup_eq_none_iff.mp hlookup _ hmem)
      have hnew := h.handed_new hother
      rw [cancel_of_lookup_none hlookup] at hnew
      exact hnew
  | some found =>
      obtain ⟨current, handle⟩ := found
      have hmem := (mem_iff_lookup h.runs).mpr hlookup
      dsimp only
      by_cases hsame : current = token
      · subst hsame
        rw [if_pos rfl]
        exact h.handed_same hmem
      · rw [if_neg hsame]
        apply h.handed_new
        intro token' handle' hmem'
        cases h.eq_of_run hmem' hmem rfl
        exact hsame

/-! ## Tasks -/

variable {tasks : List Sleeper} {task : Sleeper}

theorem mem_place {other : Sleeper} : other ∈ place task tasks ↔ other = task ∨ other ∈ tasks :=
  List.mem_orderedInsert _

theorem sorted_place (h : tasks.Pairwise fun a b => a.deadline ≤ b.deadline) :
    (place task tasks).Pairwise fun a b => a.deadline ≤ b.deadline := by
  induction tasks with
  | nil => exact List.pairwise_singleton _ _
  | cons first rest ih =>
      obtain ⟨hfirst, hrest⟩ := List.pairwise_cons.mp h
      unfold place List.orderedInsert
      by_cases hbefore : task.deadline < first.deadline
      · rw [if_pos hbefore]
        refine List.pairwise_cons.mpr ⟨?_, h⟩
        intro other hother
        rcases List.mem_cons.mp hother with rfl | hother
        · exact Nat.le_of_lt hbefore
        · exact Nat.le_trans (Nat.le_of_lt hbefore) (hfirst other hother)
      · rw [if_neg hbefore]
        refine List.pairwise_cons.mpr ⟨?_, ih hrest⟩
        intro other hother
        rcases mem_place.mp hother with rfl | hother
        · exact Nat.le_of_not_lt hbefore
        · exact hfirst other hother

/-- Of tasks in order, those that are due by a time come first. -/
theorem takeWhile_eq_filter (h : tasks.Pairwise fun a b => a.deadline ≤ b.deadline)
    (limit : Nat) :
    tasks.takeWhile (·.deadline ≤ limit) = tasks.filter (·.deadline ≤ limit) ∧
      tasks.dropWhile (·.deadline ≤ limit) = tasks.filter (limit < ·.deadline) := by
  induction tasks with
  | nil => exact ⟨rfl, rfl⟩
  | cons first rest ih =>
      obtain ⟨hfirst, hrest⟩ := List.pairwise_cons.mp h
      obtain ⟨htake, hdrop⟩ := ih hrest
      by_cases hdue : first.deadline ≤ limit
      · have hnot : ¬limit < first.deadline := by omega
        rw [List.takeWhile_cons_of_pos (by simpa using hdue),
          List.dropWhile_cons_of_pos (by simpa using hdue),
          List.filter_cons_of_pos (by simpa using hdue),
          List.filter_cons_of_neg (by simpa using hnot), htake, hdrop]
        exact ⟨rfl, rfl⟩
      · have hlate : ∀ other ∈ first :: rest, limit < other.deadline := by
          intro other hother
          rcases List.mem_cons.mp hother with rfl | hother
          · omega
          · have := hfirst other hother
            omega
        rw [List.takeWhile_cons_of_neg (by simpa using hdue),
          List.dropWhile_cons_of_neg (by simpa using hdue)]
        constructor
        · symm
          rw [List.filter_eq_nil_iff]
          intro other hother
          simpa using hlate other hother
        · symm
          rw [List.filter_eq_self]
          intro other hother
          simpa using hlate other hother

theorem Sound.schedule (h : table.Sound) (start : Instant) (call : Nat) (firing : Firing)
    (time : Instant) : (table.schedule start call firing time).Sound := by
  have hhanded := h.handed firing.run firing.token
  have hsound := hhanded.sound
  refine ⟨sorted_place hsound.sorted, ?_, hsound.runs, hsound.handles, hsound.made, hsound.live,
    hsound.spent, ?_, hsound.told, hsound.past⟩
  · intro task htask
    rcases mem_place.mp htask with rfl | htask
    · exact Nat.le_add_right _ _
    · exact hsound.ahead task htask
  · intro task htask hlive
    rcases mem_place.mp htask with rfl | htask
    · exact hhanded.mem
    · exact hsound.held task htask hlive

/-- The tasks that are due end, wherever they stand. -/
theorem Sound.advance_eq (h : table.Sound) (nanos : Nat) :
    table.advance nanos =
      { table with
        clock := table.clock + nanos
        tasks := table.tasks.filter (table.clock + nanos < ·.deadline)
        notices := table.notices ++
          ((table.tasks.filter (·.deadline ≤ table.clock + nanos)).filter
            (·.handle ∉ table.cancelled)).map
              fun task => ⟨task.call, task.firing, task.deadline⟩ } := by
  obtain ⟨htake, hdrop⟩ := takeWhile_eq_filter h.sorted (table.clock + nanos)
  rw [← htake, ← hdrop]
  rfl

theorem Sound.advance (h : table.Sound) (nanos : Nat) : (table.advance nanos).Sound := by
  rw [h.advance_eq]
  refine ⟨h.sorted.sublist List.filter_sublist, ?_, h.runs, h.handles, h.made, h.live, h.spent,
    ?_, ?_, ?_⟩
  · intro task htask
    have hlate := (List.mem_filter.mp htask).2
    exact Nat.le_of_lt (by simpa using hlate)
  · intro task htask hlive
    exact h.held task (List.mem_filter.mp htask).1 hlive
  · rw [List.pairwise_append]
    refine ⟨h.told, ?_, ?_⟩
    · rw [List.pairwise_map]
      exact (h.sorted.sublist List.filter_sublist).sublist List.filter_sublist
    · intro old hold new hnew
      obtain ⟨task, htask, rfl⟩ := List.mem_map.mp hnew
      have hmem := (List.mem_filter.mp (List.mem_filter.mp htask).1).1
      exact Nat.le_trans (h.past old hold) (h.ahead task hmem)
  · intro notice hnotice
    rcases List.mem_append.mp hnotice with hold | hnew
    · exact Nat.le_add_right_of_le (h.past notice hold)
    · obtain ⟨task, htask, rfl⟩ := List.mem_map.mp hnew
      have hdue := (List.mem_filter.mp (List.mem_filter.mp htask).1).2
      simpa using hdue

/-! ## Without the handles -/

/-- The alarms of tasks that will give notice if these handles are cancelled. -/
def alarmsOf (cancelled : List Nat) (tasks : List Sleeper) : List Alarm :=
  (tasks.filter (·.handle ∉ cancelled)).map fun task => ⟨task.firing, task.deadline⟩

/-- What is seen of a table without the handles. -/
def view (table : TaskTable) : Timers where
  clock := table.clock
  pending := table.pending.map fun entry => (entry.1, entry.2.1)
  alarms := alarmsOf table.cancelled table.tasks

theorem token?_view (table : TaskTable) (run : Identifier) :
    table.view.token? run = (table.pending.lookup run).map Prod.fst := by
  change (table.pending.map fun entry => (entry.1, entry.2.1)).lookup run = _
  induction table.pending with
  | nil => rfl
  | cons first rest ih =>
      rw [List.map_cons, List.lookup_cons, List.lookup_cons, ih]
      split <;> rfl

/-- Cancelling the timers of a run silences its tasks and no other ones. -/
theorem Sound.silenced_iff (h : table.Sound) (htask : task ∈ table.tasks) (run : Identifier) :
    task.handle ∉ (table.cancel run).cancelled ↔
      task.handle ∉ table.cancelled ∧ task.firing.run ≠ run := by
  constructor
  · intro hlive
    have hmem : task ∈ (table.cancel run).tasks := by
      rw [(table.cancel_fields run).2.1]
      exact htask
    refine ⟨?_, (mem_pending_cancel.mp ((h.cancel run).held task hmem hlive)).2⟩
    intro hcancelled
    exact hlive (table.cancelled_subset_cancel run hcancelled)
  · rintro ⟨hlive, hrun⟩
    unfold TaskTable.cancel
    split
    · next token handle hlookup =>
      have hmem := (mem_iff_lookup h.runs).mpr hlookup
      rw [List.mem_cons, not_or]
      refine ⟨?_, hlive⟩
      intro hsame
      exact hrun (congrArg Prod.fst (h.eq_of_handle (h.held task htask hlive) hmem hsame))
    · exact hlive

theorem pending_cancel (table : TaskTable) (run : Identifier) :
    (table.cancel run).pending = table.pending.filter (·.1 != run) := by
  cases hlookup : table.pending.lookup run with
  | none =>
      rw [cancel_of_lookup_none hlookup]
      symm
      rw [List.filter_eq_self]
      intro entry hentry
      exact bne_iff_ne.mpr (lookup_eq_none_iff.mp hlookup entry hentry)
  | some found =>
      unfold cancel
      rw [hlookup]

theorem Sound.view_cancel (h : table.Sound) (run : Identifier) :
    (table.cancel run).view = table.view.cancel run := by
  obtain ⟨hclock, htasks, -⟩ := table.cancel_fields run
  have halarms : alarmsOf (table.cancel run).cancelled table.tasks =
      (alarmsOf table.cancelled table.tasks).filter (·.firing.run != run) := by
    unfold alarmsOf
    rw [List.filter_map, List.filter_filter]
    congr 1
    apply List.filter_congr
    intro task htask
    rw [Bool.eq_iff_iff, decide_eq_true_iff, h.silenced_iff htask]
    simp [and_comm]
  unfold view Timers.cancel
  rw [hclock, htasks, halarms, pending_cancel, List.filter_map]
  rfl

theorem alarmsOf_cons_of_mem {cancelled : List Nat} (h : task.handle ∈ cancelled)
    (tasks : List Sleeper) : alarmsOf cancelled (task :: tasks) = alarmsOf cancelled tasks := by
  unfold alarmsOf
  rw [List.filter_cons_of_neg (by simpa using h)]

theorem alarmsOf_cons_of_notMem {cancelled : List Nat} (h : task.handle ∉ cancelled)
    (tasks : List Sleeper) :
    alarmsOf cancelled (task :: tasks) =
      ⟨task.firing, task.deadline⟩ :: alarmsOf cancelled tasks := by
  unfold alarmsOf
  rw [List.filter_cons_of_pos (by simpa using h), List.map_cons]

/-- An alarm before all others goes to the front. -/
theorem place_of_lt {alarm : Alarm} {alarms : List Alarm}
    (h : ∀ other ∈ alarms, alarm.deadline < other.deadline) :
    Timers.place alarm alarms = alarm :: alarms := by
  cases alarms with
  | nil => rfl
  | cons first rest => exact if_pos (h first (.head _))

/-- A task that will give notice is put in order as its alarm is. -/
theorem alarmsOf_place (h : tasks.Pairwise fun a b => a.deadline ≤ b.deadline)
    {cancelled : List Nat} (hlive : task.handle ∉ cancelled) :
    alarmsOf cancelled (place task tasks) =
      Timers.place ⟨task.firing, task.deadline⟩ (alarmsOf cancelled tasks) := by
  induction tasks with
  | nil => exact alarmsOf_cons_of_notMem hlive []
  | cons first rest ih =>
      obtain ⟨hfirst, hrest⟩ := List.pairwise_cons.mp h
      by_cases hbefore : task.deadline < first.deadline
      · have hplace : place task (first :: rest) = task :: first :: rest := if_pos hbefore
        rw [hplace, alarmsOf_cons_of_notMem hlive, place_of_lt]
        intro other hother
        obtain ⟨later, hlater, rfl⟩ := List.mem_map.mp hother
        rcases List.mem_cons.mp (List.mem_filter.mp hlater).1 with rfl | hmem
        · exact hbefore
        · exact Nat.lt_of_lt_of_le hbefore (hfirst later hmem)
      · have hplace : place task (first :: rest) = first :: place task rest := if_neg hbefore
        rw [hplace]
        by_cases hdead : first.handle ∈ cancelled
        · rw [alarmsOf_cons_of_mem hdead, alarmsOf_cons_of_mem hdead, ih hrest]
        · rw [alarmsOf_cons_of_notMem hdead, alarmsOf_cons_of_notMem hdead, ih hrest]
          exact (if_neg hbefore).symm

/-- Getting a handle is what happens to the table before an alarm is set. -/
theorem Sound.view_handleFor (h : table.Sound) (run token : Identifier) :
    (table.handleFor run token).2.view =
      if table.view.token? run = some token then table.view
      else { table.view.cancel run with
        pending := (table.view.cancel run).pending ++ [(run, token)] } := by
  have hnew : ((table.cancel run).newHandle run token).2.view =
      { table.view.cancel run with
        pending := (table.view.cancel run).pending ++ [(run, token)] } := by
    rw [← h.view_cancel]
    unfold TaskTable.newHandle view
    dsimp only
    rw [List.map_append, List.map_singleton]
  rw [token?_view]
  unfold handleFor
  cases hlookup : table.pending.lookup run with
  | none =>
      rw [if_neg (by simp), ← hnew, cancel_of_lookup_none hlookup]
  | some found =>
      obtain ⟨current, handle⟩ := found
      by_cases hsame : current = token
      · rw [if_pos (by simpa using hsame)]
        dsimp only
        rw [if_pos hsame]
      · rw [if_neg (by simpa using hsame), ← hnew]
        dsimp only
        rw [if_neg hsame]

theorem Sound.view_schedule (h : table.Sound) (start : Instant) (call : Nat) (firing : Firing)
    (time : Instant) :
    (table.schedule start call firing time).view =
      table.view.schedule firing time (.ofTotal (start.total + table.clock)) := by
  have hhanded := h.handed firing.run firing.token
  have hlive := hhanded.sound.live _ hhanded.mem
  unfold Timers.schedule Timers.scheduleIn
  rw [← h.view_handleFor]
  exact congrArg
    (fun alarms => ({ (table.handleFor firing.run firing.token).2.view with alarms } : Timers))
    (alarmsOf_place hhanded.sound.sorted hlive)

theorem Sound.view_advance (h : table.Sound) (nanos : Nat) :
    (table.advance nanos).view = (table.view.advanceTo (table.clock + nanos)).2 ∧
      (table.advance nanos).notices.map Notice.firing =
        table.notices.map Notice.firing ++ (table.view.advanceTo (table.clock + nanos)).1 := by
  have hlive : (table.tasks.filter (·.handle ∉ table.cancelled)).Pairwise
      fun a b => a.deadline ≤ b.deadline := h.sorted.sublist List.filter_sublist
  obtain ⟨htake, hdrop⟩ := takeWhile_eq_filter hlive (table.clock + nanos)
  have hrest : alarmsOf table.cancelled (table.tasks.filter (table.clock + nanos < ·.deadline)) =
      (alarmsOf table.cancelled table.tasks).dropWhile (·.deadline ≤ table.clock + nanos) := by
    unfold alarmsOf
    rw [List.dropWhile_map, List.filter_comm]
    exact congrArg _ hdrop.symm
  have hdue : (alarmsOf table.cancelled (table.tasks.filter (·.deadline ≤ table.clock + nanos))) =
      (alarmsOf table.cancelled table.tasks).takeWhile (·.deadline ≤ table.clock + nanos) := by
    unfold alarmsOf
    rw [List.takeWhile_map, List.filter_comm]
    exact congrArg _ htake.symm
  rw [h.advance_eq]
  unfold view Timers.advanceTo
  dsimp only
  rw [← hrest, ← hdue, Nat.max_eq_right (Nat.le_add_right _ _)]
  refine ⟨rfl, ?_⟩
  rw [List.map_append, List.map_map]
  unfold alarmsOf
  rw [List.map_map]
  rfl

end Dialogue.TaskTable
