import Dialogue.Store

/-!
# Laws of the store

What is in a store after a run was put into it, for which the runs need not be in
order; and that they stay in order if they are.
-/

namespace Dialogue.Store

theorem mem_place {run other : Run} {runs : List Run} (h : other ∈ place run runs) :
    other = run ∨ other ∈ runs := by
  induction runs with
  | nil => exact .inl (List.mem_singleton.mp h)
  | cons old rest ih =>
      unfold place at h
      split at h
      · exact List.mem_cons.mp h
      · split at h
        · rcases List.mem_cons.mp h with h | h
          · exact .inl h
          · exact .inr (.tail _ h)
        · rcases List.mem_cons.mp h with h | h
          · exact .inr (h ▸ .head _)
          · exact (ih h).imp_right (.tail _)

/-- A stored run is the one that was put last or one that was there before. -/
theorem mem_put {store : Store} {run other : Run} (h : other ∈ (store.put run).runs) :
    other = run ∨ other ∈ store.runs := mem_place h

theorem mem_of_find? {store : Store} {id : Identifier} {run : Run}
    (h : store.find? id = some run) : run ∈ store.runs := List.mem_of_find?_eq_some h

/-- The run that is found for an identifier has it. -/
theorem id_of_find? {store : Store} {id : Identifier} {run : Run}
    (h : store.find? id = some run) : run.id = id := by
  have := List.find?_some h
  simpa using this

/-- Putting a run changes what is found for its own identifier only. -/
theorem find?_put (store : Store) (run : Run) (id : Identifier) :
    (store.put run).find? id = if run.id = id then some run else store.find? id := by
  change (place run store.runs).find? (·.id == id) =
    if run.id = id then some run else store.runs.find? (·.id == id)
  induction store.runs with
  | nil =>
      by_cases hid : run.id = id <;> simp [place, hid]
  | cons old rest ih =>
      unfold place
      split
      · by_cases hid : run.id = id <;> simp [hid]
      · split
        · next hold =>
          by_cases hid : run.id = id
          · simp [hid]
          · have hother : ¬old.id = id := hold ▸ hid
            simp [hid, hother]
        · next hold =>
          by_cases hid : old.id = id
          · have hother : ¬run.id = id := fun h => hold (h.trans hid.symm)
            simp [hid, hother]
          · rw [List.find?_cons_of_neg (by simpa using hid), ih,
              List.find?_cons_of_neg (by simpa using hid)]

/-! ## Stores in order -/

/-- The runs are in ascending order of their identifiers. -/
def Ascending (store : Store) : Prop := store.runs.Pairwise (·.id.bits < ·.id.bits)

theorem Ascending.put {store : Store} (h : store.Ascending) (run : Run) :
    (store.put run).Ascending := by
  change (place run store.runs).Pairwise (·.id.bits < ·.id.bits)
  unfold Ascending at h
  revert h
  induction store.runs with
  | nil => exact fun _ => List.pairwise_singleton _ _
  | cons old rest ih =>
      intro h
      obtain ⟨hfirst, hrest⟩ := List.pairwise_cons.mp h
      unfold place
      split
      · next hlt =>
        refine List.pairwise_cons.mpr ⟨fun other hother => ?_, h⟩
        rcases List.mem_cons.mp hother with rfl | hother
        · exact hlt
        · exact Nat.lt_trans hlt (hfirst other hother)
      · next hle =>
        split
        · next hid =>
          refine List.pairwise_cons.mpr ⟨fun other hother => ?_, hrest⟩
          rw [hid]
          exact hfirst other hother
        · next hid =>
          refine List.pairwise_cons.mpr ⟨fun other hother => ?_, ih hrest⟩
          rcases mem_place hother with rfl | hother
          · have hbits : other.id.bits ≠ old.id.bits := fun h => hid (congrArg Identifier.mk h)
            omega
          · exact hfirst other hother

/-- In a store that is in order every stored run is found. -/
theorem Ascending.find? {store : Store} {run : Run} (h : store.Ascending)
    (hrun : run ∈ store.runs) : store.find? run.id = some run := by
  unfold Ascending at h
  change store.runs.find? (·.id == run.id) = some run
  revert h hrun
  induction store.runs with
  | nil => exact fun _ hrun => absurd hrun List.not_mem_nil
  | cons old rest ih =>
      intro h hrun
      obtain ⟨hfirst, hrest⟩ := List.pairwise_cons.mp h
      rcases List.mem_cons.mp hrun with rfl | hrun
      · simp
      · have hbits := hfirst run hrun
        have hid : old.id ≠ run.id := fun hid => by simp [hid] at hbits
        rw [List.find?_cons_of_neg (by simpa using hid)]
        exact ih hrest hrun

/-- Every run is stored once. -/
theorem Ascending.nodup {store : Store} (h : store.Ascending) :
    (store.runs.map fun run => run.id).Nodup := by
  refine List.pairwise_map.mpr (h.imp fun hlt hid => ?_)
  simp [hid] at hlt

/-- Which runs are listed. -/
theorem mem_all {store : Store} {status : Option Status} {run : Run} :
    run ∈ store.all status ↔ run ∈ store.runs ∧ status.all (run.status == ·) = true := by
  simp [all]

end Dialogue.Store
