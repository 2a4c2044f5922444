import Mathlib.Data.Finset.Card
import Dialogue.Proofs.Locks.Table
import Dialogue.Proofs.Permits

/-!
# Exclusion by locks

Calls ask for keys and give permits back, in any order.  Whatever they do, a key has
at most one permit, it can be taken at once if and only if it has none, all who hold
it or wait for it refer to the lock in the table, and exactly the keys of those are
tracked.  In what becomes of the calls, a table of locks is a table of permits.
-/

namespace Dialogue

/-- What is asked of a table of keys. -/
inductive Move where
  /-- To take the permit of a key at once. -/
  | tryAcquire (key : RunKey)
  /-- To take the permit of a key, or to wait for it. -/
  | acquire (key : RunKey)
  /-- To give the permit of an earlier call back, if it has one. -/
  | drop (call : Nat)
  deriving DecidableEq, Repr

/-- Moves one after the other; the number of a move is the call that makes it. -/
def Move.runs {σ : Type} (step : σ → Nat → Move → σ) (start : σ) (moves : List Move) : σ :=
  moves.zipIdx.foldl (fun table numbered => step table numbered.2 numbered.1) start

theorem Move.runs_snoc {σ : Type} (step : σ → Nat → Move → σ) (start : σ) (moves : List Move)
    (move : Move) :
    runs step start (moves ++ [move]) = step (runs step start moves) moves.length move := by
  simp [runs, List.zipIdx_append]

/-- One move in a table of permits. -/
def Permits.move (permits : Permits Nat) (call : Nat) : Move → Permits Nat
  | .tryAcquire key => (permits.tryAcquire call key).getD permits
  | .acquire key => permits.acquire call key
  | .drop other =>
    match permits.heldBy? other with
    | some key => permits.release key
    | none => permits

/-- The permits after some moves. -/
def Permits.after (moves : List Move) : Permits Nat := Move.runs Permits.move {} moves

/-! ## Moved slots -/

theorem Permits.putSlot_map {slots : List (RunKey × Nat)} {view : RunKey × Nat → PermitSlot Nat}
    (hview : ∀ slot, (view slot).key = slot.1) {slot : PermitSlot Nat}
    (hdistinct : (slots.map Prod.fst).Nodup) (htracked : slot.key ∈ slots.map Prod.fst) :
    putSlot slot (slots.map view) =
      slots.map fun old => if old.1 = slot.key then slot else view old := by
  induction slots with
  | nil => simp at htracked
  | cons first rest ih =>
      rw [List.map_cons, List.nodup_cons] at hdistinct
      by_cases hfirst : first.1 = slot.key
      · have hrest : ∀ old ∈ rest, old.1 ≠ slot.key := by
          intro old hold heq
          exact hdistinct.1 (hfirst.trans heq.symm ▸ List.mem_map_of_mem hold)
        rw [List.map_cons, putSlot, if_pos ((hview first).trans hfirst), List.map_cons,
          if_pos hfirst]
        congr 1
        exact List.map_congr_left fun old hold => (if_neg (hrest old hold)).symm
      · have hlater : slot.key ∈ rest.map Prod.fst := by
          rw [List.map_cons] at htracked
          exact (List.mem_cons.mp htracked).resolve_left (Ne.symm hfirst)
        rw [List.map_cons, putSlot, if_neg (hview first ▸ hfirst), ih hdistinct.2 hlater,
          List.map_cons, if_neg hfirst]

namespace LockTable

/-- One move in a table of locks. -/
def move (table : LockTable) (call : Nat) : Move → LockTable
  | .tryAcquire key => (table.tryAcquire call key).2
  | .acquire key => table.acquire call key
  | .drop other => table.drop other

/-- The locks after some moves. -/
def after (moves : List Move) : LockTable := Move.runs move {} moves

/-- The permit of a lock and who queues for it. -/
def viewSlot (table : LockTable) (slot : RunKey × Nat) : PermitSlot Nat where
  key := slot.1
  holder := (table.permits.find? (·.lock == slot.2)).map Handle.call
  waiting := (table.locks slot.2).queue

/-- Who holds and who waits for which keys. -/
def view (table : LockTable) : Permits Nat := ⟨table.slots.map table.viewSlot⟩

variable {table : LockTable} {calls call : Nat} {key : RunKey} {lock : Nat} {permit next : Handle}
  {rest : List Handle}

theorem slot?_view_untracked (hfree : table.slots.lookup key = none) :
    table.view.slot? key = none := by
  rw [view, Permits.slot?, List.find?_map, Option.map_eq_none_iff, List.find?_eq_none]
  intro slot hslot
  have hne : key ≠ slot.1 := by simpa using List.lookup_eq_none_iff.mp hfree slot hslot
  simpa [viewSlot] using hne.symm

namespace Sound

/-! ## A table in view -/

theorem slot?_view (h : table.Sound calls) (hslot : (key, lock) ∈ table.slots) :
    table.view.slot? key = some (table.viewSlot (key, lock)) := by
  obtain ⟨before, after, hsplit, hbefore⟩ := List.lookup_eq_some_iff.mp (h.lookup hslot)
  have hfound : table.slots.find? (·.1 == key) = some (key, lock) := by
    refine List.find?_eq_some_iff_append.mpr ⟨by simp, before, after, hsplit, ?_⟩
    intro slot hmem
    have hne : key ≠ slot.1 := by simpa using hbefore slot hmem
    simpa using hne.symm
  rw [view, Permits.slot?, List.find?_map]
  exact congrArg (Option.map table.viewSlot) hfound

theorem viewSlot_permit (h : table.Sound calls) (hpermit : permit ∈ table.permits) :
    table.viewSlot (permit.key, permit.lock) =
      ⟨permit.key, some permit.call,
        (table.waiting.filter (·.lock == permit.lock)).map Handle.call⟩ := by
  have hslot := h.placed (List.mem_append_left _ hpermit)
  have hqueue := h.queued _ hslot
  simp only [viewSlot, hqueue, ← List.head?_filter, h.filter_lock hpermit, List.head?_cons,
    Option.map_some]

/-- Every tracked key has its permit. -/
theorem exists_permit (h : table.Sound calls) {slot : RunKey × Nat} (hslot : slot ∈ table.slots) :
    ∃ permit ∈ table.permits, (permit.key, permit.lock) = slot := by
  obtain ⟨permit, hfilter⟩ := h.held slot hslot
  obtain ⟨hpermit, hlock⟩ := List.mem_filter.mp (hfilter ▸ List.mem_singleton_self permit)
  have hlock : permit.lock = slot.2 := by simpa using hlock
  have hkey := (h.lock_eq_iff hslot (h.placed (List.mem_append_left _ hpermit))).mp hlock
  exact ⟨permit, hpermit, Prod.ext hkey hlock⟩

theorem heldBy?_view (h : table.Sound calls) (call : Nat) :
    table.view.heldBy? call = (table.permits.find? (·.call == call)).map Handle.key := by
  rw [view, Permits.heldBy?, List.find?_map, Option.map_map]
  cases hfound : table.slots.find? ((fun slot => slot.holder == some call) ∘ table.viewSlot) with
  | none =>
      have hnobody : table.permits.find? (·.call == call) = none := by
        rw [List.find?_eq_none] at hfound ⊢
        intro permit hpermit
        have hslot := h.placed (List.mem_append_left _ hpermit)
        simpa [h.viewSlot_permit hpermit] using hfound _ hslot
      rw [hnobody]
      rfl
  | some slot =>
      obtain ⟨permit, hpermit, rfl⟩ := h.exists_permit (List.mem_of_find?_eq_some hfound)
      have hcall : permit.call = call := by
        simpa [h.viewSlot_permit hpermit] using List.find?_some hfound
      rw [← hcall, h.find?_permit hpermit]
      rfl

end Sound

/-- What is seen of a key depends on its permit and its lock only. -/
theorem viewSlot_congr {table' : LockTable} {slot : RunKey × Nat}
    (hpermits : table'.permits.filter (·.lock == slot.2) =
      table.permits.filter (·.lock == slot.2))
    (hlock : table'.locks slot.2 = table.locks slot.2) :
    table'.viewSlot slot = table.viewSlot slot := by
  rw [viewSlot, viewSlot, ← List.head?_filter, hpermits, List.head?_filter, hlock]

namespace Sound

theorem view_grant (h : table.Sound calls) :
    (table.grant calls key).view = table.view.taken calls key := by
  have hnobody := h.filter_made (List.subset_append_left table.permits table.waiting)
  have hold : table.slots.map (table.grant calls key).viewSlot =
      table.slots.map table.viewSlot := by
    apply List.map_congr_left
    intro slot hslot
    have hne : slot.2 ≠ table.made := Nat.ne_of_lt (h.made slot hslot)
    apply viewSlot_congr
    · simp [LockTable.grant, hne.symm]
    · exact Function.update_of_ne hne _ _
  have hnew : (table.grant calls key).viewSlot (key, table.made) = ⟨key, some calls, []⟩ := by
    simp [viewSlot, LockTable.grant, ← List.head?_filter, hnobody]
  calc (table.grant calls key).view
      = ⟨table.slots.map (table.grant calls key).viewSlot ++
          [(table.grant calls key).viewSlot (key, table.made)]⟩ := by
        simp [view, LockTable.grant]
    _ = table.view.taken calls key := by rw [hold, hnew]; rfl

theorem view_untracked (h : table.Sound calls) (hfree : table.slots.lookup key = none) :
    table.view.acquire calls key = (table.grant calls key).view ∧
      table.view.tryAcquire calls key = some (table.grant calls key).view := by
  rw [h.view_grant]
  exact Permits.acquire_untracked (slot?_view_untracked hfree)

/-- The slot of one key is changed, and the others stay as they are. -/
theorem view_put (h : table.Sound calls) (hslot : (key, lock) ∈ table.slots) {table' : LockTable}
    (hothers : ∀ slot ∈ table.slots, slot.2 ≠ lock → table'.viewSlot slot = table.viewSlot slot)
    (hslots : table'.slots = table.slots) :
    table'.view = table.view.put (table'.viewSlot (key, lock)) := by
  have hput : Permits.putSlot (table'.viewSlot (key, lock)) (table.slots.map table.viewSlot) =
      table.slots.map fun old =>
        if old.1 = key then table'.viewSlot (key, lock) else table.viewSlot old :=
    Permits.putSlot_map (fun _ => rfl) h.keys (List.mem_map_of_mem (f := Prod.fst) hslot)
  rw [view, view, Permits.put, hput, hslots]
  congr 1
  apply List.map_congr_left
  intro slot hmem
  by_cases hkey : slot.1 = key
  · have hlock := (h.lock_eq_iff hslot hmem).mpr hkey
    rw [if_pos hkey, show slot = (key, lock) from Prod.ext hkey hlock]
  · have hlock : slot.2 ≠ lock := fun heq => hkey ((h.lock_eq_iff hslot hmem).mp heq)
    rw [if_neg hkey, hothers slot hmem hlock]

theorem view_queueUp (h : table.Sound calls) (hslot : (key, lock) ∈ table.slots) (call : Nat) :
    (table.queueUp ⟨call, key, lock⟩).view = table.view.acquire call key := by
  obtain ⟨permit, hpermit, heq⟩ := h.exists_permit hslot
  obtain ⟨rfl, rfl⟩ := Prod.mk.inj heq
  have hqueued : (table.queueUp ⟨call, permit.key, permit.lock⟩).viewSlot
      (permit.key, permit.lock) = ⟨permit.key, some permit.call,
        (table.waiting.filter (·.lock == permit.lock)).map Handle.call ++ [call]⟩ := by
    have hview := h.viewSlot_permit hpermit
    simp only [viewSlot, PermitSlot.mk.injEq, true_and] at hview
    simp [viewSlot, LockTable.queueUp, hview]
  have hothers : ∀ slot ∈ table.slots, slot.2 ≠ permit.lock →
      (table.queueUp ⟨call, permit.key, permit.lock⟩).viewSlot slot = table.viewSlot slot := by
    intro slot _ hne
    exact viewSlot_congr rfl (Function.update_of_ne hne _ _)
  rw [h.view_put hslot hothers rfl, hqueued, Permits.acquire, h.slot?_view hslot,
    h.viewSlot_permit hpermit]

theorem view_retire (h : table.Sound calls) (hpermit : permit ∈ table.permits)
    (hnobody : table.waiting.filter (·.lock == permit.lock) = []) :
    (table.retire permit).view = table.view.release permit.key := by
  have hslot := h.placed (List.mem_append_left _ hpermit)
  rw [Permits.release, h.slot?_view hslot, h.viewSlot_permit hpermit, hnobody]
  simp only [List.map_nil, Permits.drop, view, List.filter_map]
  congr 1
  apply List.map_congr_left
  intro slot hmem
  obtain ⟨hmem, hkey⟩ := List.mem_filter.mp hmem
  have hne : slot.2 ≠ permit.lock := by
    intro hlock
    have hsame := (h.lock_eq_iff hslot hmem).mp hlock
    simp [hsame] at hkey
  exact viewSlot_congr (Handle.filter_apart h.distinct_permits hpermit hne.symm)
    (Function.update_of_ne hne _ _)

theorem view_handOver (h : table.Sound calls) (hpermit : permit ∈ table.permits)
    (hqueue : table.waiting.filter (·.lock == permit.lock) = next :: rest) :
    (table.handOver permit next).view = table.view.release permit.key := by
  have hslot := h.placed (List.mem_append_left _ hpermit)
  obtain ⟨hnext, hlock⟩ := Handle.mem_of_queue hqueue
  have hkey : next.key = permit.key :=
    (h.lock_eq_iff hslot (h.placed (List.mem_append_right _ hnext))).mp hlock
  have hnow : (table.handOver permit next).viewSlot (permit.key, permit.lock) =
      ⟨permit.key, some next.call, rest.map Handle.call⟩ := by
    have hmem : next ∈ (table.handOver permit next).permits := by
      simp [LockTable.handOver]
    have hview := (h.handOver hpermit hqueue).viewSlot_permit hmem
    rw [hkey, hlock] at hview
    exact hview.trans (congrArg (fun queue => PermitSlot.mk _ _ (queue.map Handle.call))
      (h.filter_behind hqueue))
  have hothers : ∀ slot ∈ table.slots, slot.2 ≠ permit.lock →
      (table.handOver permit next).viewSlot slot = table.viewSlot slot := by
    intro slot _ hne
    have hwithout := Handle.filter_apart h.distinct_permits hpermit hne.symm
    have hapart : next.lock ≠ slot.2 := fun heq => hne (heq.symm.trans hlock)
    apply viewSlot_congr
    · rw [LockTable.handOver, List.filter_append, hwithout]
      simp [hapart]
    · exact Function.update_of_ne hne _ _
  rw [h.view_put hslot hothers rfl, hnow, Permits.release, h.slot?_view hslot,
    h.viewSlot_permit hpermit, hqueue]
  rfl

/-! ## Every move -/

/-- A move keeps a table sound, and does with the calls what it does in a table of permits. -/
theorem move (h : table.Sound calls) (move : Move) :
    (table.move calls move).Sound (calls + 1) ∧
      (table.move calls move).view = table.view.move calls move := by
  cases move with
  | tryAcquire key =>
      cases hlookup : table.slots.lookup key with
      | none =>
          simp only [LockTable.move, Permits.move, (acquire_untracked hlookup calls).1,
            (h.view_untracked hlookup).2, Option.getD_some]
          exact ⟨h.grant hlookup, trivial⟩
      | some lock =>
          have hslot := mem_of_lookup hlookup
          obtain ⟨permit, hpermit, heq⟩ := h.exists_permit hslot
          have hheld : (table.view.holder? key).isSome = true := by
            rw [Permits.holder?, h.slot?_view hslot, ← heq, h.viewSlot_permit hpermit]
            rfl
          simp only [LockTable.move, Permits.move, (h.acquire_tracked hslot calls).1,
            Permits.tryAcquire_held hheld, Option.getD_none]
          exact ⟨h.mono, trivial⟩
  | acquire key =>
      cases hlookup : table.slots.lookup key with
      | none =>
          simp only [LockTable.move, Permits.move, (acquire_untracked hlookup calls).2,
            (h.view_untracked hlookup).1]
          exact ⟨h.grant hlookup, trivial⟩
      | some lock =>
          have hslot := mem_of_lookup hlookup
          simp only [LockTable.move, Permits.move, (h.acquire_tracked hslot calls).2]
          exact ⟨h.queueUp hslot, h.view_queueUp hslot calls⟩
  | drop call =>
      simp only [LockTable.move, Permits.move, h.heldBy?_view]
      cases hfound : table.permits.find? (·.call == call) with
      | none =>
          rw [drop, hfound]
          exact ⟨h.mono, rfl⟩
      | some permit =>
          have hpermit := List.mem_of_find?_eq_some hfound
          obtain rfl : permit.call = call := by simpa using List.find?_some hfound
          cases hqueue : table.waiting.filter (·.lock == permit.lock) with
          | nil =>
              rw [h.drop_unawaited hpermit hqueue]
              exact ⟨(h.retire hpermit hqueue).mono, h.view_retire hpermit hqueue⟩
          | cons next rest =>
              rw [h.drop_awaited hpermit hqueue]
              exact ⟨(h.handOver hpermit hqueue).mono, h.view_handOver hpermit hqueue⟩

end Sound

/-- After any moves, by induction on the last one. -/
theorem sound_after (moves : List Move) :
    (after moves).Sound moves.length ∧ (after moves).view = Permits.after moves := by
  induction moves using List.reverseRecOn with
  | nil => exact ⟨sound_empty, rfl⟩
  | append_singleton moves move ih =>
      obtain ⟨hsound, hview⟩ := ih
      obtain ⟨hsound', hview'⟩ := hsound.move move
      rw [after, Permits.after, Move.runs_snoc, Move.runs_snoc, List.length_append]
      exact ⟨hsound', hview'.trans (hview ▸ rfl)⟩

/-! ## Main statement -/

/-- What the users of a table of locks rely on. -/
structure Exclusive (table : LockTable) : Prop where
  /-- No key has two permits. -/
  alone : (table.permits.map Handle.key).Nodup
  /-- A key cannot be taken at once if and only if it has a permit, whatever other keys have. -/
  refused : ∀ call key,
    (table.tryAcquire call key).1 = false ↔ ∃ permit ∈ table.permits, permit.key = key
  /-- Nothing comes of what was refused, and who is ready to wait does so behind all others. -/
  behind : ∀ call key, (table.tryAcquire call key).1 = false →
    (table.tryAcquire call key).2 = table ∧
      (table.acquire call key).permits = table.permits ∧
      ∃ lock, (table.acquire call key).waiting = table.waiting ++ [⟨call, key, lock⟩]
  /-- Who need not wait has a permit, ready to wait or not. -/
  granted : ∀ call key, (table.tryAcquire call key).1 = true →
    table.acquire call key = (table.tryAcquire call key).2 ∧
      (table.acquire call key).waiting = table.waiting ∧
      ∃ lock, (table.acquire call key).permits = table.permits ++ [⟨call, key, lock⟩]
  /-- The permit that is given back goes to whoever waits longest for the key. -/
  handed : ∀ permit ∈ table.permits,
    (table.drop permit.call).permits = table.permits.filter (·.call != permit.call) ++
        (table.waiting.find? (·.key == permit.key)).toList ∧
      (table.drop permit.call).waiting = table.waiting.eraseP (·.key == permit.key)
  /-- Nobody waits for a key without a permit. -/
  awaited : ∀ handle ∈ table.waiting, ∃ permit ∈ table.permits, permit.key = handle.key
  /-- All who hold a key or wait for it refer to the one lock that the table has for it. -/
  shared : ∀ handle ∈ table.permits ++ table.waiting,
    table.slots.filter (·.1 == handle.key) = [(handle.key, handle.lock)]
  /-- Those keys are tracked that have a permit or are waited for. -/
  counted : table.active = ((table.permits ++ table.waiting).map Handle.key).toFinset.card
  /-- Nothing is left when all permits are given back. -/
  cleared : table.permits = [] → table.waiting = [] ∧ table.active = 0

namespace Sound

variable (h : table.Sound calls)
include h

theorem alone : (table.permits.map Handle.key).Nodup := by
  have hdistinct : table.permits.Nodup := List.Nodup.of_map _ h.distinct_permits
  refine hdistinct.map_on ?_
  intro permit hpermit other hother hkey
  have hslot := h.placed (List.mem_append_left _ hpermit)
  have hslot' := h.placed (List.mem_append_left _ hother)
  have hlock : permit.lock = other.lock := (h.lock_eq_iff hslot' hslot).mpr hkey
  exact h.eq_of_lock hother hpermit hlock

theorem refused (call : Nat) (key : RunKey) :
    (table.tryAcquire call key).1 = false ↔ ∃ permit ∈ table.permits, permit.key = key := by
  constructor
  · intro hrefused
    cases hlookup : table.slots.lookup key with
    | none => simp [(acquire_untracked hlookup call).1] at hrefused
    | some lock =>
        obtain ⟨permit, hpermit, heq⟩ := h.exists_permit (mem_of_lookup hlookup)
        exact ⟨permit, hpermit, congrArg Prod.fst heq⟩
  · rintro ⟨permit, hpermit, rfl⟩
    rw [(h.acquire_tracked (h.placed (List.mem_append_left _ hpermit)) call).1]

theorem behind {call : Nat} {key : RunKey} (hrefused : (table.tryAcquire call key).1 = false) :
    (table.tryAcquire call key).2 = table ∧
      (table.acquire call key).permits = table.permits ∧
      ∃ lock, (table.acquire call key).waiting = table.waiting ++ [⟨call, key, lock⟩] := by
  obtain ⟨permit, hpermit, rfl⟩ := (h.refused call key).mp hrefused
  obtain ⟨htry, hacquire⟩ := h.acquire_tracked (h.placed (List.mem_append_left _ hpermit)) call
  rw [htry, hacquire]
  exact ⟨rfl, rfl, permit.lock, rfl⟩

theorem granted {call : Nat} {key : RunKey} (hgranted : (table.tryAcquire call key).1 = true) :
    table.acquire call key = (table.tryAcquire call key).2 ∧
      (table.acquire call key).waiting = table.waiting ∧
      ∃ lock, (table.acquire call key).permits = table.permits ++ [⟨call, key, lock⟩] := by
  cases hlookup : table.slots.lookup key with
  | none =>
      obtain ⟨htry, hacquire⟩ := acquire_untracked hlookup call
      rw [htry, hacquire]
      exact ⟨rfl, rfl, table.made, rfl⟩
  | some lock => simp [(h.acquire_tracked (mem_of_lookup hlookup) call).1] at hgranted

theorem shared {handle : Handle} (hhandle : handle ∈ table.permits ++ table.waiting) :
    table.slots.filter (·.1 == handle.key) = [(handle.key, handle.lock)] :=
  filter_of_distinct h.keys (h.placed hhandle)

theorem awaited {handle : Handle} (hhandle : handle ∈ table.waiting) :
    ∃ permit ∈ table.permits, permit.key = handle.key := by
  obtain ⟨permit, hpermit, heq⟩ := h.exists_permit (h.placed (List.mem_append_right _ hhandle))
  exact ⟨permit, hpermit, congrArg Prod.fst heq⟩

/-- The call that leaves the queue is the first that waits for its key. -/
theorem eraseP_waiting (hnext : table.waiting.find? (·.key == key) = some next) :
    table.waiting.eraseP (·.key == key) = table.waiting.filter (·.call != next.call) := by
  obtain ⟨hkey, before, later, hsplit, hbefore⟩ := List.find?_eq_some_iff_append.mp hnext
  have hdistinct := h.distinct_waiting
  rw [hsplit, List.map_append, List.map_cons] at hdistinct
  obtain ⟨-, hlater, hapart⟩ := List.nodup_append.mp hdistinct
  have hearlier : before.filter (·.call != next.call) = before := by
    apply List.filter_eq_self.mpr
    intro handle hhandle
    simpa using hapart _ (List.mem_map_of_mem hhandle) _ (.head _)
  have hlater : later.filter (·.call != next.call) = later := by
    apply List.filter_eq_self.mpr
    intro handle hhandle
    have hne : handle.call ≠ next.call := fun heq =>
      (List.nodup_cons.mp hlater).1 (heq ▸ List.mem_map_of_mem hhandle)
    simpa using hne
  rw [hsplit, List.eraseP_append_right _ (by simpa using hbefore), List.eraseP_cons, hkey,
    cond_true, List.filter_append, List.filter_cons_of_neg (by simp), hearlier, hlater]

theorem handed (hpermit : permit ∈ table.permits) :
    (table.drop permit.call).permits = table.permits.filter (·.call != permit.call) ++
        (table.waiting.find? (·.key == permit.key)).toList ∧
      (table.drop permit.call).waiting = table.waiting.eraseP (·.key == permit.key) := by
  have hslot := h.placed (List.mem_append_left _ hpermit)
  have hfirst : table.waiting.find? (·.key == permit.key) =
      (table.waiting.filter (·.lock == permit.lock)).head? := by
    rw [← List.head?_filter, h.filter_key hslot (List.subset_append_right _ _)]
  cases hqueue : table.waiting.filter (·.lock == permit.lock) with
  | nil =>
      rw [hqueue, List.head?_nil] at hfirst
      rw [h.drop_unawaited hpermit hqueue, hfirst, Option.toList_none, List.append_nil,
        List.eraseP_of_forall_not (List.find?_eq_none.mp hfirst)]
      exact ⟨rfl, rfl⟩
  | cons next rest =>
      rw [hqueue, List.head?_cons] at hfirst
      rw [h.drop_awaited hpermit hqueue, hfirst, h.eraseP_waiting hfirst]
      exact ⟨rfl, rfl⟩

theorem counted :
    table.active = ((table.permits ++ table.waiting).map Handle.key).toFinset.card := by
  have htracked : ((table.permits ++ table.waiting).map Handle.key).toFinset =
      (table.slots.map Prod.fst).toFinset := by
    ext key
    rw [List.mem_toFinset, List.mem_toFinset]
    constructor
    · intro hkey
      obtain ⟨handle, hhandle, rfl⟩ := List.mem_map.mp hkey
      exact List.mem_map_of_mem (f := Prod.fst) (h.placed hhandle)
    · intro hkey
      obtain ⟨slot, hslot, rfl⟩ := List.mem_map.mp hkey
      obtain ⟨permit, hpermit, rfl⟩ := h.exists_permit hslot
      exact List.mem_map_of_mem (f := Handle.key) (List.mem_append_left _ hpermit)
  rw [htracked, List.toFinset_card_of_nodup h.keys, List.length_map]
  rfl

theorem cleared (hnobody : table.permits = []) : table.waiting = [] ∧ table.active = 0 := by
  have hwaiting : table.waiting = [] := by
    apply List.eq_nil_iff_forall_not_mem.mpr
    intro handle hhandle
    obtain ⟨permit, hpermit, -⟩ := h.awaited hhandle
    simp [hnobody] at hpermit
  refine ⟨hwaiting, ?_⟩
  rw [h.counted, hnobody, hwaiting]
  rfl

end Sound

/-- A table of permits in which the same calls hold and wait for the same keys. -/
structure Mirrors (table : LockTable) (permits : Permits Nat) : Prop where
  holder : ∀ key, permits.holder? key =
    (table.permits.find? (·.key == key)).map Handle.call
  waiting : ∀ key, permits.waiting key =
    (table.waiting.filter (·.key == key)).map Handle.call
  takes : ∀ call key, (permits.tryAcquire call key).isSome = (table.tryAcquire call key).1
  active : permits.active = table.active

theorem Sound.mirrors_untracked (h : table.Sound calls) (hfree : table.slots.lookup key = none) :
    table.view.holder? key = (table.permits.find? (·.key == key)).map Handle.call ∧
      table.view.waiting key = (table.waiting.filter (·.key == key)).map Handle.call ∧
      (table.view.tryAcquire call key).isSome = (table.tryAcquire call key).1 := by
  have hslot := slot?_view_untracked hfree
  refine ⟨?_, ?_, ?_⟩
  · rw [Permits.holder?, hslot, ← List.head?_filter,
      h.filter_untracked hfree (List.subset_append_left _ _)]
    rfl
  · rw [Permits.waiting, hslot, h.filter_untracked hfree (List.subset_append_right _ _)]
    rfl
  · rw [(acquire_untracked hfree call).1, (Permits.acquire_untracked hslot).2]
    rfl

theorem Sound.mirrors_tracked (h : table.Sound calls) (hslot : (key, lock) ∈ table.slots) :
    table.view.holder? key = (table.permits.find? (·.key == key)).map Handle.call ∧
      table.view.waiting key = (table.waiting.filter (·.key == key)).map Handle.call ∧
      (table.view.tryAcquire call key).isSome = (table.tryAcquire call key).1 := by
  obtain ⟨permit, hpermit, heq⟩ := h.exists_permit hslot
  obtain ⟨rfl, rfl⟩ := Prod.mk.inj heq
  have hholder : table.view.holder? permit.key = some permit.call := by
    rw [Permits.holder?, h.slot?_view hslot, h.viewSlot_permit hpermit]
    rfl
  refine ⟨?_, ?_, ?_⟩
  · rw [hholder, ← List.head?_filter, h.filter_key hslot (List.subset_append_left _ _),
      h.filter_lock hpermit]
    rfl
  · rw [Permits.waiting, h.slot?_view hslot, h.viewSlot_permit hpermit,
      h.filter_key hslot (List.subset_append_right _ _)]
    rfl
  · rw [(h.acquire_tracked hslot call).1, Permits.tryAcquire_held (by rw [hholder]; rfl)]
    rfl

theorem Sound.mirrors (h : table.Sound calls) : table.Mirrors table.view := by
  have hkey : ∀ call key,
      table.view.holder? key = (table.permits.find? (·.key == key)).map Handle.call ∧
        table.view.waiting key = (table.waiting.filter (·.key == key)).map Handle.call ∧
        (table.view.tryAcquire call key).isSome = (table.tryAcquire call key).1 := by
    intro call key
    cases hlookup : table.slots.lookup key with
    | none => exact h.mirrors_untracked hlookup
    | some lock => exact h.mirrors_tracked (mem_of_lookup hlookup)
  constructor
  case holder => exact fun key => (hkey 0 key).1
  case waiting => exact fun key => (hkey 0 key).2.1
  case takes => exact fun call key => (hkey call key).2.2
  case active => exact List.length_map _

/-- Whatever calls ask of a table of locks, and in whatever order: it is exclusive, and what
becomes of the calls is what becomes of them in a table of permits. -/
theorem locks_are_exclusive (moves : List Move) :
    (after moves).Exclusive ∧ (after moves).Mirrors (Permits.after moves) := by
  obtain ⟨hsound, hview⟩ := sound_after moves
  refine ⟨?_, hview ▸ hsound.mirrors⟩
  constructor
  case alone => exact hsound.alone
  case refused => exact hsound.refused
  case behind => exact fun _ _ => hsound.behind
  case granted => exact fun _ _ => hsound.granted
  case handed => exact fun _ => hsound.handed
  case awaited => exact fun _ => hsound.awaited
  case shared => exact fun _ => hsound.shared
  case counted => exact hsound.counted
  case cleared => exact hsound.cleared

/-- Of three calls that want one key the first holds it; the second is not ready to wait and is
refused, and the third waits and gets the permit that the first gives back. -/
theorem locks_are_exclusive_sample :
    let key : RunKey := ⟨"welcome", "ann"⟩
    let table := after [.acquire key, .tryAcquire key, .acquire key]
    table.permits = [⟨0, key, 0⟩] ∧ table.waiting = [⟨2, key, 0⟩] ∧ table.active = 1 ∧
      (table.tryAcquire 3 key).1 = false ∧ (table.drop 0).permits = [⟨2, key, 0⟩] ∧
      (table.drop 0).waiting = [] := by
  intro key table
  have hpermits : table.permits = [⟨0, key, 0⟩] := by decide
  have hwaiting : table.waiting = [⟨2, key, 0⟩] := by decide
  have hheld : ⟨0, key, 0⟩ ∈ table.permits := by simp [hpermits]
  have hexclusive : table.Exclusive := (locks_are_exclusive _).1
  obtain ⟨hhanded, hrest⟩ := hexclusive.handed _ hheld
  refine ⟨hpermits, hwaiting, ?_, (hexclusive.refused 3 key).mpr ⟨_, hheld, rfl⟩, ?_, ?_⟩
  · rw [hexclusive.counted, hpermits, hwaiting]
    decide
  · rw [hhanded, hpermits, hwaiting]
    decide
  · rw [hrest, hwaiting]
    decide

end LockTable

end Dialogue
