import Dialogue.Permits

/-!
# Laws of permits

Who holds a key after it was taken or given back.  In a table in which every
tracked key is held, a key that is taken and given back leaves no trace.
-/

namespace Dialogue.Permits

variable {α : Type} {permits : Permits α} {key : RunKey} {who : α}

/-- Every tracked key is held by someone. -/
def Held (permits : Permits α) : Prop := ∀ slot ∈ permits.slots, slot.holder.isSome = true

theorem mem_putSlot {slot other : PermitSlot α} {slots : List (PermitSlot α)}
    (h : other ∈ putSlot slot slots) : other = slot ∨ other ∈ slots := by
  induction slots with
  | nil => exact .inl (List.mem_singleton.mp h)
  | cons old rest ih =>
      unfold putSlot at h
      split at h
      · exact (List.mem_cons.mp h).imp_right (.tail _)
      · rcases List.mem_cons.mp h with h | h
        · exact .inr (h ▸ .head _)
        · exact (ih h).imp_right (.tail _)

theorem Held.put (h : permits.Held) {slot : PermitSlot α} (hslot : slot.holder.isSome = true) :
    (permits.put slot).Held := by
  intro other hother
  rcases mem_putSlot hother with rfl | hother
  · exact hslot
  · exact h other hother

theorem Held.drop (h : permits.Held) (key : RunKey) : (permits.drop key).Held :=
  fun slot hslot => h slot (List.mem_filter.mp hslot).1

/-- A key that nobody holds is not tracked. -/
theorem Held.slot?_none (h : permits.Held) (hfree : permits.holder? key = none) :
    permits.slot? key = none := by
  cases hslot : permits.slot? key with
  | none => rfl
  | some slot =>
      have hheld := h slot (List.mem_of_find?_eq_some hslot)
      simp only [holder?, hslot, Option.bind_some] at hfree
      simp [hfree] at hheld

theorem Held.tryAcquire (h : permits.Held) {permits' : Permits α}
    (htaken : permits.tryAcquire who key = some permits') : permits'.Held := by
  unfold Permits.tryAcquire at htaken
  split at htaken
  · simp at htaken
  · exact Option.some.inj htaken ▸ h.put rfl
  · exact Option.some.inj htaken ▸ h.put rfl

theorem Held.acquire (h : permits.Held) (who : α) (key : RunKey) :
    (permits.acquire who key).Held := by
  unfold Permits.acquire
  split <;> exact h.put rfl

theorem Held.release (h : permits.Held) (key : RunKey) : (permits.release key).Held := by
  unfold Permits.release
  split
  · exact h.put rfl
  · exact h.drop key
  · exact h

theorem Held.abandon [DecidableEq α] (h : permits.Held) (who : α) (key : RunKey) :
    (permits.abandon who key).Held := by
  unfold Permits.abandon
  split
  · next slot hslot => exact h.put (h slot (List.mem_of_find?_eq_some hslot))
  · exact h

/-- A held key cannot be taken at once. -/
theorem tryAcquire_held (hheld : (permits.holder? key).isSome = true) :
    permits.tryAcquire who key = none := by
  obtain ⟨holder, hholder⟩ := Option.isSome_iff_exists.mp hheld
  obtain ⟨⟨_, _, _⟩, hslot, rfl⟩ := Option.bind_eq_some_iff.mp hholder
  simp [tryAcquire, hslot]

theorem putSlot_untracked {slot : PermitSlot α} {slots : List (PermitSlot α)}
    (h : slots.find? (·.key == slot.key) = none) : putSlot slot slots = slots ++ [slot] := by
  induction slots with
  | nil => rfl
  | cons old rest ih =>
      rw [List.find?_eq_none] at h
      have hold : old.key ≠ slot.key := by simpa using h old (.head _)
      rw [putSlot, if_neg hold, ih]
      · rfl
      · exact List.find?_eq_none.mpr fun other hother => h other (.tail _ hother)

/-- The table after an untracked key was taken. -/
def taken (permits : Permits α) (who : α) (key : RunKey) : Permits α :=
  ⟨permits.slots ++ [⟨key, some who, []⟩]⟩

/-- A key that is not tracked is taken by whoever asks for it, be it to wait if need be or not. -/
theorem acquire_untracked (h : permits.slot? key = none) :
    permits.acquire who key = permits.taken who key ∧
      permits.tryAcquire who key = some (permits.taken who key) := by
  unfold acquire tryAcquire
  simp only [h]
  have hput := @putSlot_untracked α ⟨key, some who, []⟩ permits.slots h
  exact ⟨congrArg Permits.mk hput, congrArg (some ∘ Permits.mk) hput⟩

theorem slot?_taken (h : permits.slot? key = none) :
    (permits.taken who key).slot? key = some ⟨key, some who, []⟩ := by
  have hslot : permits.slots.find? (·.key == key) = none := h
  simp [taken, slot?, List.find?_append, hslot]

/-- A key that was taken and is given back is as if it had never been taken. -/
theorem release_taken (h : permits.slot? key = none) :
    (permits.taken who key).release key = permits := by
  have hslot : permits.slots.find? (·.key == key) = none := h
  have hkept : permits.slots.filter (·.key != key) = permits.slots := by
    rw [List.find?_eq_none] at hslot
    exact List.filter_eq_self.mpr fun slot hmem => by simpa using hslot slot hmem
  rw [release, slot?_taken h]
  simp [drop, taken, hkept]

/-! ## Tables with one key -/

/-- The table in which one key may be tracked: the first of a queue holds it, and the others
wait. -/
def queued (key : RunKey) : List α → Permits α
  | [] => ⟨[]⟩
  | holder :: waiting => ⟨[⟨key, some holder, waiting⟩]⟩

variable {queue : List α}

theorem holder?_queued : (queued key queue).holder? key = queue.head? := by
  cases queue <;> simp [queued, holder?, slot?]

theorem waiting_queued : (queued key queue).waiting key = queue.tail := by
  cases queue <;> simp [queued, waiting, slot?]

theorem tryAcquire_queued_nil : (queued key []).tryAcquire who key = some (queued key [who]) := rfl

theorem tryAcquire_queued_cons {holder : α} :
    (queued key (holder :: queue)).tryAcquire who key = none := by
  simp [queued, tryAcquire, slot?]

/-- Who waits for the key does so behind the others. -/
theorem acquire_queued : (queued key queue).acquire who key = queued key (queue ++ [who]) := by
  cases queue with
  | nil => rfl
  | cons holder waiting => simp [queued, acquire, slot?, put, putSlot]

/-- The key is given back to the next who waits. -/
theorem release_queued : (queued key queue).release key = queued key queue.tail := by
  cases queue with
  | nil => rfl
  | cons holder waiting =>
      cases waiting <;> simp [queued, release, slot?, drop, put, putSlot]

end Dialogue.Permits
