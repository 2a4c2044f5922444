import Dialogue.Proofs.Step.Visit

/-!
# Histories that grow

A history is only ever added to: entering a node adds a visit, and a note goes to
the visit that is the last one at the time.
-/

namespace Dialogue

/-- Whether a note is about a nested run. -/
def Note.isSubflow : Note → Bool
  | .subflow .. => true
  | _ => false

namespace History

/-- A note goes to the last visit. -/
theorem note_append (earlier : History) (last : Visit) (remark : Note) :
    (earlier ++ [last] : History).note remark =
      earlier ++ [{ last with notes := last.notes ++ [remark] }] := by
  induction earlier with
  | nil => rfl
  | cons visit rest ih =>
      rw [List.cons_append, List.cons_append, ← ih]
      cases rest <;> rfl

/-- A history with several notes more. -/
def noted (history : History) (remarks : List Note) : History := remarks.foldl note history

/-- Several notes go to the last visit, one behind the other. -/
theorem noted_append (earlier : History) (last : Visit) (remarks : List Note) :
    (earlier ++ [last] : History).noted remarks =
      earlier ++ [{ last with notes := last.notes ++ remarks }] := by
  induction remarks generalizing last with
  | nil => simp [noted]
  | cons remark rest ih =>
      have hrest := ih { last with notes := last.notes ++ [remark] }
      rw [noted, List.foldl_cons, note_append]
      rw [noted] at hrest
      rw [hrest, List.append_assoc]
      rfl

/-- Without any visit notes are lost. -/
theorem noted_nil (remarks : List Note) : noted [] remarks = [] := by
  induction remarks with
  | nil => rfl
  | cons remark rest ih => exact ih

/-- A history without any visit has nothing to add a note to. -/
theorem eq_nil_or_append (history : History) :
    history = [] ∨ ∃ earlier last, history = earlier ++ [last] := by
  rcases List.eq_nil_or_concat history with h | ⟨earlier, last, h⟩
  · exact .inl h
  · exact .inr ⟨earlier, last, by simpa using h⟩

/-! ## Notes -/

/-- All notes of a history. -/
def remarks (history : History) : List Note := history.flatMap Visit.notes

@[simp] theorem remarks_enter (history : History) (node : NodeId) (time : Instant) :
    (history.enter node time).remarks = history.remarks := by
  simp [remarks, enter]

theorem mem_remarks_note {history : History} {remark other : Note}
    (h : other ∈ (history.note remark).remarks) : other = remark ∨ other ∈ history.remarks := by
  rcases history.eq_nil_or_append with rfl | ⟨earlier, last, rfl⟩
  · exact .inr h
  · rw [note_append] at h
    simp only [remarks, List.flatMap_append, List.flatMap_cons, List.flatMap_nil,
      List.append_nil, List.mem_append, List.mem_singleton] at h ⊢
    rcases h with hearlier | hlast | hremark
    · exact .inr (.inl hearlier)
    · exact .inr (.inr hlast)
    · exact .inl hremark

/-- A history with more notes on its last visit, none of them about a nested run. -/
inductive Noted : History → History → Prop
  | refl (history : History) : Noted history history
  | note {before after : History} (rest : Noted before after) (remark : Note)
      (plain : remark.isSubflow = false) : Noted before (after.note remark)

theorem Noted.trans {first second third : History} (h : first.Noted second)
    (h' : second.Noted third) : first.Noted third := by
  induction h' with
  | refl => exact h
  | note rest remark plain ih => exact .note ih remark plain

/-- What is said of nested runs has been said before. -/
theorem Noted.mem_remarks {before after : History} (h : before.Noted after) {remark : Note}
    (hsubflow : remark.isSubflow = true) (hremark : remark ∈ after.remarks) :
    remark ∈ before.remarks := by
  induction h with
  | refl => exact hremark
  | note rest other plain ih =>
      rcases mem_remarks_note hremark with rfl | hremark
      · simp [plain] at hsubflow
      · exact ih hremark

/-! ## Growth -/

/-- A history that goes on from another one: all visits but the last are as they were, and the last
one may have got more notes. -/
def Grows (before after : History) : Prop :=
  ∀ (i : Nat) (visit : Visit), before[i]? = some visit → ∃ visit', after[i]? = some visit' ∧
    visit'.node = visit.node ∧ visit'.enteredAt = visit.enteredAt ∧
    visit.notes <+: visit'.notes ∧ (i + 1 < before.length → visit' = visit)

theorem Grows.refl (history : History) : history.Grows history :=
  fun _ visit h => ⟨visit, h, rfl, rfl, List.prefix_refl _, fun _ => rfl⟩

theorem Grows.length_le {before after : History} (h : before.Grows after) :
    before.length ≤ after.length := by
  cases hlength : before.length with
  | zero => exact Nat.zero_le _
  | succ n =>
      have hlast : before[n]? = some before[n] := List.getElem?_eq_getElem (by omega)
      obtain ⟨visit, hvisit, -⟩ := h n _ hlast
      have := (List.getElem?_eq_some_iff.mp hvisit).1
      omega

theorem Grows.trans {first second third : History} (h : first.Grows second)
    (h' : second.Grows third) : first.Grows third := by
  intro i visit hvisit
  obtain ⟨visit', hvisit', hnode, hentered, hnotes, hsame⟩ := h i visit hvisit
  obtain ⟨visit'', hvisit'', hnode', hentered', hnotes', hsame'⟩ := h' i visit' hvisit'
  refine ⟨visit'', hvisit'', hnode'.trans hnode, hentered'.trans hentered,
    hnotes.trans hnotes', fun hi => ?_⟩
  exact (hsame' (Nat.lt_of_lt_of_le hi h.length_le)).trans (hsame hi)

theorem grows_enter (history : History) (node : NodeId) (time : Instant) :
    history.Grows (history.enter node time) := by
  intro i visit hvisit
  have hi := (List.getElem?_eq_some_iff.mp hvisit).1
  refine ⟨visit, ?_, rfl, rfl, List.prefix_refl _, fun _ => rfl⟩
  rw [enter, List.getElem?_append_left hi]
  exact hvisit

theorem grows_note (history : History) (remark : Note) :
    history.Grows (history.note remark) := by
  rcases history.eq_nil_or_append with rfl | ⟨earlier, last, rfl⟩
  · intro i visit hvisit
    simp at hvisit
  · rw [note_append]
    intro i visit hvisit
    by_cases hi : i < earlier.length
    · rw [List.getElem?_append_left hi] at hvisit ⊢
      exact ⟨visit, hvisit, rfl, rfl, List.prefix_refl _, fun _ => rfl⟩
    · have hlength := (List.getElem?_eq_some_iff.mp hvisit).1
      obtain rfl : i = earlier.length := by simp at hlength; omega
      rw [List.getElem?_concat_length] at hvisit ⊢
      obtain rfl := Option.some.inj hvisit
      exact ⟨_, rfl, rfl, rfl, List.prefix_append _ _, fun h => by simp at h⟩

theorem Noted.grows {before after : History} (h : before.Noted after) : before.Grows after := by
  induction h with
  | refl => exact .refl _
  | note rest remark plain ih => exact ih.trans (grows_note _ remark)

end History

end Dialogue
