import Dialogue.Locks
import Dialogue.Proofs.Basic

/-!
# Laws of lock tables

In a sound table a tracked key has a lock of its own, which exactly one permit
refers to and for which all calls queue that wait for the key.  So a free lock is
never found in it, and the references to a lock are counted right: whoever gives a
permit back forgets the key if and only if nobody waits for it.

Each operation on a sound table comes to one of four changes: a call is granted
a key that is not tracked, it joins the queue, a permit is retired with its key,
or it is handed over to the first call of the queue.
-/

namespace Dialogue

/-- Of items that are told apart by something, one is alone with what it has. -/
theorem filter_of_distinct {α β : Type} [DecidableEq β] {f : α → β} {items : List α}
    (hdistinct : (items.map f).Nodup) {item : α} (hitem : item ∈ items) :
    items.filter (fun other => f other == f item) = [item] := by
  induction items with
  | nil => cases hitem
  | cons first rest ih =>
      obtain ⟨hfirst, hrest⟩ := List.nodup_cons.mp (List.map_cons ▸ hdistinct)
      have hapart : ∀ other ∈ rest, f other ≠ f first := fun other hother heq =>
        hfirst (heq ▸ List.mem_map_of_mem hother)
      rcases List.mem_cons.mp hitem with rfl | hitem
      · have hnobody : rest.filter (fun other => f other == f item) = [] := by
          apply List.filter_eq_nil_iff.mpr
          intro other hother
          simpa using hapart other hother
        rw [List.filter_cons_of_pos (by simp), hnobody]
      · have hother := (hapart item hitem).symm
        rw [List.filter_cons_of_neg (by simpa using hother), ih hrest hitem]

/-! ## Calls told apart -/

namespace Handle

variable {handles : List Handle} {handle other : Handle}

/-- Handles of different calls are told apart by them. -/
theorem eq_of_call (hdistinct : (handles.map call).Nodup) (hhandle : handle ∈ handles)
    (hother : other ∈ handles) (hcall : other.call = handle.call) : other = handle :=
  List.inj_on_of_nodup_map hdistinct hother hhandle hcall

theorem filter_call (hdistinct : (handles.map call).Nodup) (hhandle : handle ∈ handles) :
    handles.filter (·.call == handle.call) = [handle] :=
  filter_of_distinct hdistinct hhandle

theorem find?_call (hdistinct : (handles.map call).Nodup) (hhandle : handle ∈ handles) :
    handles.find? (·.call == handle.call) = some handle := by
  rw [← List.head?_filter, filter_call hdistinct hhandle]
  rfl

/-- Without the handle of a call, every other lock is referred to as before. -/
theorem filter_apart (hdistinct : (handles.map call).Nodup) (hhandle : handle ∈ handles)
    {lock : Nat} (hlock : handle.lock ≠ lock) :
    (handles.filter (·.call != handle.call)).filter (·.lock == lock) =
      handles.filter (·.lock == lock) := by
  rw [List.filter_filter]
  apply List.filter_congr
  intro other hother
  by_cases hsame : other.lock = lock
  · have hne : other.call ≠ handle.call := by
      intro hcall
      exact hlock (eq_of_call hdistinct hhandle hother hcall ▸ hsame)
    simp [hsame, hne]
  · simp [hsame]

/-- The first of a queue waits for its lock. -/
theorem mem_of_queue {waiting rest : List Handle} {next : Handle} {lock : Nat}
    (hqueue : waiting.filter (·.lock == lock) = next :: rest) :
    next ∈ waiting ∧ next.lock = lock := by
  have hmem : next ∈ waiting.filter (·.lock == lock) := hqueue ▸ List.mem_cons_self
  simpa using List.mem_filter.mp hmem

end Handle

/-- Handles of different calls with numbers below a bound, each of which refers to the lock that its
key has. -/
structure Refer (slots : List (RunKey × Nat)) (calls : Nat) (handles : List Handle) : Prop where
  numbered : ∀ handle ∈ handles, handle.call < calls
  distinct : (handles.map Handle.call).Nodup
  placed : ∀ handle ∈ handles, (handle.key, handle.lock) ∈ slots

namespace Refer

variable {slots slots' : List (RunKey × Nat)} {calls : Nat} {handles handles' : List Handle}

theorem mono (h : Refer slots calls handles) (hslots : slots ⊆ slots') :
    Refer slots' (calls + 1) handles where
  numbered := fun handle hhandle => Nat.lt_succ_of_lt (h.numbered handle hhandle)
  distinct := h.distinct
  placed := fun handle hhandle => hslots (h.placed handle hhandle)

theorem perm (h : Refer slots calls handles) (hperm : handles'.Perm handles) :
    Refer slots calls handles' where
  numbered := fun handle hhandle => h.numbered handle (hperm.mem_iff.mp hhandle)
  distinct := (hperm.map Handle.call).nodup_iff.mpr h.distinct
  placed := fun handle hhandle => h.placed handle (hperm.mem_iff.mp hhandle)

/-- The next call refers to a lock. -/
theorem cons (h : Refer slots calls handles) {key : RunKey} {lock : Nat}
    (hslot : (key, lock) ∈ slots) : Refer slots (calls + 1) (⟨calls, key, lock⟩ :: handles) where
  numbered := by
    intro handle hhandle
    rcases List.mem_cons.mp hhandle with rfl | hhandle
    · exact Nat.lt_succ_self _
    · exact Nat.lt_succ_of_lt (h.numbered handle hhandle)
  distinct := by
    rw [List.map_cons, List.nodup_cons]
    refine ⟨?_, h.distinct⟩
    intro hmem
    obtain ⟨handle, hhandle, hcall⟩ := List.mem_map.mp hmem
    exact Nat.ne_of_lt (h.numbered handle hhandle) hcall
  placed := by
    intro handle hhandle
    rcases List.mem_cons.mp hhandle with rfl | hhandle
    · exact hslot
    · exact h.placed handle hhandle

/-- Some calls do not refer to their locks any more. -/
theorem sublist (h : Refer slots calls handles) (hsub : handles'.Sublist handles)
    (hplaced : ∀ handle ∈ handles', (handle.key, handle.lock) ∈ slots') :
    Refer slots' calls handles' where
  numbered := fun handle hhandle => h.numbered handle (hsub.mem hhandle)
  distinct := h.distinct.sublist (hsub.map _)
  placed := hplaced

end Refer

namespace LockTable

/-! ## Sound tables -/

/-- A table of calls with numbers below a bound, in which every tracked key has a lock of its own
that exactly one permit refers to. -/
structure Sound (table : LockTable) (calls : Nat) : Prop where
  keys : (table.slots.map Prod.fst).Nodup
  locks : (table.slots.map Prod.snd).Nodup
  made : ∀ slot ∈ table.slots, slot.2 < table.made
  refer : Refer table.slots calls (table.permits ++ table.waiting)
  taken : ∀ slot ∈ table.slots, (table.locks slot.2).taken = true
  held : ∀ slot ∈ table.slots, ∃ holder, table.permits.filter (·.lock == slot.2) = [holder]
  queued : ∀ slot ∈ table.slots, (table.locks slot.2).queue =
    (table.waiting.filter (·.lock == slot.2)).map Handle.call

theorem sound_empty : Sound {} 0 := by
  constructor
  case refer => constructor <;> simp
  all_goals simp

variable {table : LockTable} {calls : Nat} {key : RunKey} {lock : Nat}

namespace Sound

theorem lookup (h : table.Sound calls) (hslot : (key, lock) ∈ table.slots) :
    table.slots.lookup key = some lock :=
  (mem_iff_lookup h.keys).mp hslot

theorem placed (h : table.Sound calls) {handle : Handle}
    (hhandle : handle ∈ table.permits ++ table.waiting) :
    (handle.key, handle.lock) ∈ table.slots :=
  h.refer.placed handle hhandle

theorem distinct_permits (h : table.Sound calls) : (table.permits.map Handle.call).Nodup :=
  h.refer.distinct.sublist ((List.sublist_append_left _ _).map _)

theorem distinct_waiting (h : table.Sound calls) : (table.waiting.map Handle.call).Nodup :=
  h.refer.distinct.sublist ((List.sublist_append_right _ _).map _)

/-- Keys and locks belong together one by one. -/
theorem lock_eq_iff (h : table.Sound calls) {slot other : RunKey × Nat} (hslot : slot ∈ table.slots)
    (hother : other ∈ table.slots) : other.2 = slot.2 ↔ other.1 = slot.1 := by
  constructor
  · intro heq
    rw [List.inj_on_of_nodup_map h.locks hother hslot heq]
  · intro heq
    rw [List.inj_on_of_nodup_map h.keys hother hslot heq]

/-- The permit that refers to a lock is the only one. -/
theorem filter_lock (h : table.Sound calls) {permit : Handle} (hpermit : permit ∈ table.permits) :
    table.permits.filter (·.lock == permit.lock) = [permit] := by
  have hslot := h.placed (List.mem_append_left _ hpermit)
  obtain ⟨holder, hholder⟩ := h.held _ hslot
  have hmem : permit ∈ table.permits.filter (·.lock == permit.lock) :=
    List.mem_filter.mpr ⟨hpermit, by simp⟩
  change table.permits.filter (·.lock == permit.lock) = [holder] at hholder
  rw [hholder] at hmem ⊢
  rw [List.mem_singleton.mp hmem]

theorem eq_of_lock (h : table.Sound calls) {permit other : Handle}
    (hpermit : permit ∈ table.permits) (hother : other ∈ table.permits)
    (hlock : other.lock = permit.lock) : other = permit := by
  have hmem : other ∈ table.permits.filter (·.lock == permit.lock) :=
    List.mem_filter.mpr ⟨hother, by simpa using hlock⟩
  rw [h.filter_lock hpermit] at hmem
  exact List.mem_singleton.mp hmem

/-- Who asked for a key refers to its lock, and nobody else does. -/
theorem filter_key (h : table.Sound calls) (hslot : (key, lock) ∈ table.slots)
    {handles : List Handle} (hknown : handles ⊆ table.permits ++ table.waiting) :
    handles.filter (·.key == key) = handles.filter (·.lock == lock) := by
  apply List.filter_congr
  intro handle hhandle
  have hlock := h.lock_eq_iff hslot (h.placed (hknown hhandle))
  rw [Bool.eq_iff_iff, beq_iff_eq, beq_iff_eq, hlock]

/-- Nobody asked for a key that is not tracked. -/
theorem filter_untracked (h : table.Sound calls) (hfree : table.slots.lookup key = none)
    {handles : List Handle} (hknown : handles ⊆ table.permits ++ table.waiting) :
    handles.filter (·.key == key) = [] := by
  rw [List.filter_eq_nil_iff]
  intro handle hhandle
  have hne : key ≠ handle.key := by
    simpa using List.lookup_eq_none_iff.mp hfree _ (h.placed (hknown hhandle))
  simpa using hne.symm

/-- The table itself refers to a lock once. -/
theorem countP_slots (h : table.Sound calls) (hslot : (key, lock) ∈ table.slots) :
    table.slots.countP (·.2 == lock) = 1 := by
  have hfilter : table.slots.filter (·.2 == lock) = [(key, lock)] :=
    filter_of_distinct h.locks hslot
  rw [List.countP_eq_length_filter, hfilter]
  rfl

/-- Without its permit no permit refers to a lock. -/
theorem filter_without (h : table.Sound calls) {permit : Handle}
    (hpermit : permit ∈ table.permits) :
    (table.permits.filter (·.call != permit.call)).filter (·.lock == permit.lock) = [] := by
  rw [List.filter_filter, List.filter_eq_nil_iff]
  intro handle hhandle
  by_cases hlock : handle.lock = permit.lock
  · simp [h.eq_of_lock hpermit hhandle hlock]
  · simp [hlock]

/-- Without its first call a queue goes on with the second. -/
theorem filter_behind (h : table.Sound calls) {next : Handle} {rest : List Handle}
    (hqueue : table.waiting.filter (·.lock == lock) = next :: rest) :
    (table.waiting.filter (·.call != next.call)).filter (·.lock == lock) = rest := by
  have hdistinct : ((next :: rest).map Handle.call).Nodup :=
    hqueue ▸ h.distinct_waiting.sublist (List.filter_sublist.map _)
  rw [List.map_cons, List.nodup_cons] at hdistinct
  rw [List.filter_comm, hqueue, List.filter_cons_of_neg (by simp), List.filter_eq_self]
  intro handle hhandle
  have hne : handle.call ≠ next.call := fun heq =>
    hdistinct.1 (heq ▸ List.mem_map_of_mem hhandle)
  simpa using hne

end Sound

/-! ## What operations come to -/

/-- A call is granted a key that was not tracked. -/
def grant (table : LockTable) (call : Nat) (key : RunKey) : LockTable where
  locks := Function.update table.locks table.made { taken := true }
  made := table.made + 1
  slots := table.slots ++ [(key, table.made)]
  permits := table.permits ++ [⟨call, key, table.made⟩]
  waiting := table.waiting

/-- A permit is given back, and its key is forgotten. -/
def retire (table : LockTable) (permit : Handle) : LockTable :=
  { table with
    locks := Function.update table.locks permit.lock
      { table.locks permit.lock with taken := false }
    slots := table.slots.filter (·.1 != permit.key)
    permits := table.permits.filter (·.call != permit.call) }

/-- A permit is given back, and a call that has waited gets it. -/
def handOver (table : LockTable) (permit next : Handle) : LockTable :=
  let lock := table.locks permit.lock
  { table with
    locks := Function.update table.locks permit.lock { lock with queue := lock.queue.tail }
    permits := table.permits.filter (·.call != permit.call) ++ [next]
    waiting := table.waiting.filter (·.call != next.call) }

theorem acquire_untracked (hfree : table.slots.lookup key = none) (call : Nat) :
    table.tryAcquire call key = (true, table.grant call key) ∧
      table.acquire call key = table.grant call key := by
  constructor
  · simp [tryAcquire, lockOf, hfree, take, grant]
  · simp [acquire, lockOf, hfree, take, grant]

namespace Sound

/-- The lock of a tracked key is never free. -/
theorem acquire_tracked (h : table.Sound calls) (hslot : (key, lock) ∈ table.slots) (call : Nat) :
    table.tryAcquire call key = (false, table) ∧
      table.acquire call key = table.queueUp ⟨call, key, lock⟩ := by
  have hlookup := h.lookup hslot
  have htaken : (table.locks lock).taken = true := h.taken _ hslot
  constructor
  · simp [tryAcquire, lockOf, hlookup, htaken]
  · simp [acquire, lockOf, hlookup, htaken]

variable {permit next : Handle} {rest : List Handle}

theorem find?_permit (h : table.Sound calls) (hpermit : permit ∈ table.permits) :
    table.permits.find? (·.call == permit.call) = some permit :=
  Handle.find?_call h.distinct_permits hpermit

/-- Where nobody waits, only the table refers to the lock of a permit that was given back. -/
theorem drop_unawaited (h : table.Sound calls) (hpermit : permit ∈ table.permits)
    (hnobody : table.waiting.filter (·.lock == permit.lock) = []) :
    table.drop permit.call = table.retire permit := by
  have hslot := h.placed (List.mem_append_left _ hpermit)
  have hqueue : (table.locks permit.lock).queue = [] := by
    rw [h.queued _ hslot, hnobody]
    rfl
  have hpermits : (table.permits.filter (·.call != permit.call)).countP
      (·.lock == permit.lock) = 0 := by
    rw [List.countP_eq_length_filter, h.filter_without hpermit]
    rfl
  have hwaiting : table.waiting.countP (·.lock == permit.lock) = 0 := by
    rw [List.countP_eq_length_filter, hnobody]
    rfl
  have hslots := h.countP_slots hslot
  rw [drop, h.find?_permit hpermit]
  simp [unlock, hqueue, forgetUnused, h.lookup hslot, references, hpermits, hwaiting, hslots,
    retire]

/-- Where somebody waits, the lock of a permit that was given back is still referred to. -/
theorem drop_awaited (h : table.Sound calls) (hpermit : permit ∈ table.permits)
    (hqueue : table.waiting.filter (·.lock == permit.lock) = next :: rest) :
    table.drop permit.call = table.handOver permit next := by
  have hslot := h.placed (List.mem_append_left _ hpermit)
  obtain ⟨hnext, hlock⟩ := Handle.mem_of_queue hqueue
  have hcalls : (table.locks permit.lock).queue = next.call :: rest.map Handle.call := by
    rw [h.queued _ hslot, hqueue]
    rfl
  have hwoken : table.waiting.filter (·.call == next.call) = [next] :=
    Handle.filter_call h.distinct_waiting hnext
  have hslots := h.countP_slots hslot
  rw [drop, h.find?_permit hpermit]
  simp [unlock, hcalls, hwoken, forgetUnused, h.lookup hslot, references, hslots, hlock, handOver]
  intro hone
  omega

/-! ## Every change keeps a table sound -/

theorem mono (h : table.Sound calls) : table.Sound (calls + 1) :=
  { h with refer := h.refer.mono (List.Subset.refl _) }

/-- No known call refers to the lock that is made next. -/
theorem filter_made (h : table.Sound calls) {handles : List Handle}
    (hknown : handles ⊆ table.permits ++ table.waiting) :
    handles.filter (·.lock == table.made) = [] := by
  apply List.filter_eq_nil_iff.mpr
  intro handle hhandle
  have hlock := h.made _ (h.placed (hknown hhandle))
  simpa using Nat.ne_of_lt hlock

theorem grant (h : table.Sound calls) (hfree : table.slots.lookup key = none) :
    (table.grant calls key).Sound (calls + 1) := by
  have hold : ∀ slot ∈ table.slots, slot.2 ≠ table.made := by
    intro slot hslot
    exact Nat.ne_of_lt (h.made slot hslot)
  have hpermits := h.filter_made (List.subset_append_left table.permits table.waiting)
  have hwaiting := h.filter_made (List.subset_append_right table.permits table.waiting)
  constructor
  case keys =>
    have hnew : key ∉ table.slots.map Prod.fst := by
      intro hmem
      obtain ⟨slot, hslot, rfl⟩ := List.mem_map.mp hmem
      simpa using List.lookup_eq_none_iff.mp hfree slot hslot
    simp only [LockTable.grant, List.map_append]
    exact List.concat_eq_append ▸ h.keys.concat hnew
  case locks =>
    have hnew : table.made ∉ table.slots.map Prod.snd := by
      intro hmem
      obtain ⟨slot, hslot, heq⟩ := List.mem_map.mp hmem
      exact hold slot hslot heq
    simp only [LockTable.grant, List.map_append]
    exact List.concat_eq_append ▸ h.locks.concat hnew
  case made =>
    intro slot hslot
    rcases List.mem_append.mp hslot with hslot | hslot
    · exact Nat.lt_succ_of_lt (h.made slot hslot)
    · rw [List.mem_singleton.mp hslot]
      exact Nat.lt_succ_self _
  case refer =>
    have hslot : (key, table.made) ∈ table.slots ++ [(key, table.made)] := by simp
    have hrefer : Refer (table.slots ++ [(key, table.made)]) calls
        (table.permits ++ table.waiting) :=
      h.refer.sublist (List.Sublist.refl _) fun handle hhandle =>
        List.mem_append_left _ (h.refer.placed handle hhandle)
    refine (hrefer.cons hslot).perm ?_
    simp [LockTable.grant]
  case taken =>
    intro slot hslot
    rcases List.mem_append.mp hslot with hslot | hslot
    · simpa [LockTable.grant, Function.update_of_ne (hold slot hslot)] using h.taken slot hslot
    · rw [List.mem_singleton.mp hslot]
      simp [LockTable.grant]
  case held =>
    intro slot hslot
    rcases List.mem_append.mp hslot with hslot | hslot
    · obtain ⟨holder, hholder⟩ := h.held slot hslot
      exact ⟨holder, by simp [LockTable.grant, hholder, (hold slot hslot).symm]⟩
    · rw [List.mem_singleton.mp hslot]
      exact ⟨⟨calls, key, table.made⟩, by simp [LockTable.grant, hpermits]⟩
  case queued =>
    intro slot hslot
    rcases List.mem_append.mp hslot with hslot | hslot
    · simpa [LockTable.grant, Function.update_of_ne (hold slot hslot)] using h.queued slot hslot
    · rw [List.mem_singleton.mp hslot]
      simp [LockTable.grant, hwaiting]

theorem queueUp (h : table.Sound calls) (hslot : (key, lock) ∈ table.slots) :
    (table.queueUp ⟨calls, key, lock⟩).Sound (calls + 1) := by
  constructor
  case keys => exact h.keys
  case locks => exact h.locks
  case made => exact h.made
  case refer =>
    refine (h.refer.cons hslot).perm ?_
    simp only [LockTable.queueUp, ← List.append_assoc]
    exact List.perm_append_singleton _ _
  case taken =>
    intro slot hmem
    by_cases hsame : slot.2 = lock
    · simpa [LockTable.queueUp, hsame] using h.taken _ hslot
    · simpa [LockTable.queueUp, hsame] using h.taken slot hmem
  case held => exact h.held
  case queued =>
    intro slot hmem
    by_cases hsame : slot.2 = lock
    · have hqueue := h.queued _ hslot
      simp [LockTable.queueUp, hsame, hqueue]
    · have hqueue := h.queued slot hmem
      simp [LockTable.queueUp, hsame, hqueue, Ne.symm hsame]

theorem retire (h : table.Sound calls) (hpermit : permit ∈ table.permits)
    (hnobody : table.waiting.filter (·.lock == permit.lock) = []) :
    (table.retire permit).Sound calls := by
  have hslot := h.placed (List.mem_append_left _ hpermit)
  have hapart : ∀ slot ∈ (table.retire permit).slots,
      slot ∈ table.slots ∧ permit.lock ≠ slot.2 := by
    intro slot hmem
    obtain ⟨hmem, hkey⟩ := List.mem_filter.mp hmem
    have hne : slot.1 ≠ permit.key := by simpa using hkey
    exact ⟨hmem, fun hlock => hne ((h.lock_eq_iff hslot hmem).mp hlock.symm)⟩
  constructor
  case keys => exact h.keys.sublist (List.filter_sublist.map _)
  case locks => exact h.locks.sublist (List.filter_sublist.map _)
  case made => exact fun slot hmem => h.made slot (hapart slot hmem).1
  case refer =>
    refine h.refer.sublist (List.filter_sublist.append_right _) ?_
    intro handle hhandle
    have hknown : handle ∈ table.permits ++ table.waiting :=
      (List.filter_sublist.append_right _).mem hhandle
    have hlock : handle.lock ≠ permit.lock := by
      intro hlock
      have hnone : (((table.permits.filter (·.call != permit.call)) ++ table.waiting).filter
          (·.lock == permit.lock)) = [] := by
        rw [List.filter_append, h.filter_without hpermit, hnobody]
        rfl
      simpa [hlock] using List.filter_eq_nil_iff.mp hnone handle hhandle
    have hkey : handle.key ≠ permit.key := fun hkey =>
      hlock ((h.lock_eq_iff hslot (h.placed hknown)).mpr hkey)
    exact List.mem_filter.mpr ⟨h.placed hknown, by simpa using hkey⟩
  case taken =>
    intro slot hmem
    obtain ⟨hmem, hlock⟩ := hapart slot hmem
    simpa [LockTable.retire, Function.update_of_ne hlock.symm] using h.taken slot hmem
  case held =>
    intro slot hmem
    obtain ⟨hmem, hlock⟩ := hapart slot hmem
    obtain ⟨holder, hholder⟩ := h.held slot hmem
    exact ⟨holder, (Handle.filter_apart h.distinct_permits hpermit hlock).trans hholder⟩
  case queued =>
    intro slot hmem
    obtain ⟨hmem, hlock⟩ := hapart slot hmem
    simpa [LockTable.retire, Function.update_of_ne hlock.symm] using h.queued slot hmem

theorem handOver (h : table.Sound calls) (hpermit : permit ∈ table.permits)
    (hqueue : table.waiting.filter (·.lock == permit.lock) = next :: rest) :
    (table.handOver permit next).Sound calls := by
  have hslot := h.placed (List.mem_append_left _ hpermit)
  obtain ⟨hnext, hlock⟩ := Handle.mem_of_queue hqueue
  constructor
  case keys => exact h.keys
  case locks => exact h.locks
  case made => exact h.made
  case refer =>
    have hleft : (next :: table.waiting.filter (·.call != next.call)).Perm table.waiting := by
      have hapart := List.filter_append_perm (fun handle => handle.call == next.call) table.waiting
      rwa [Handle.filter_call h.distinct_waiting hnext] at hapart
    have hsub : (table.permits.filter (·.call != permit.call) ++ table.waiting).Sublist
        (table.permits ++ table.waiting) :=
      List.filter_sublist.append_right _
    refine (h.refer.sublist hsub fun handle hhandle => h.placed (hsub.mem hhandle)).perm ?_
    simpa [LockTable.handOver] using hleft.append_left _
  case taken =>
    intro slot hmem
    by_cases hsame : slot.2 = permit.lock
    · simpa [LockTable.handOver, hsame] using h.taken _ hslot
    · simpa [LockTable.handOver, Function.update_of_ne hsame] using h.taken slot hmem
  case held =>
    intro slot hmem
    by_cases hsame : slot.2 = permit.lock
    · have hnobody := h.filter_without hpermit
      exact ⟨next, by simp [LockTable.handOver, hsame, hnobody, hlock]⟩
    · obtain ⟨holder, hholder⟩ := h.held slot hmem
      have hothers := Handle.filter_apart h.distinct_permits hpermit (Ne.symm hsame)
      have hne : next.lock ≠ slot.2 := fun heq => hsame (heq.symm.trans hlock)
      refine ⟨holder, ?_⟩
      rw [LockTable.handOver, List.filter_append, hothers, hholder]
      simp [hne]
  case queued =>
    intro slot hmem
    by_cases hsame : slot.2 = permit.lock
    · have hcalls := h.queued _ hslot
      simp [LockTable.handOver, hsame, h.filter_behind hqueue, hcalls, hqueue]
    · have hne : next.lock ≠ slot.2 := fun heq => hsame (heq.symm.trans hlock)
      have hothers := Handle.filter_apart h.distinct_waiting hnext hne
      have hcalls := h.queued slot hmem
      simp [LockTable.handOver, Function.update_of_ne hsame, hothers, hcalls]

end Sound

end LockTable

end Dialogue
