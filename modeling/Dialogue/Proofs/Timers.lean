import Mathlib.Data.List.Perm.Basic
import Dialogue.Timers
import Dialogue.Proofs.Basic

/-!
# Laws of timers

For which suspension a run has timers after they were set or cancelled.  A run
is in the table of pending timers at most once.
-/

namespace Dialogue.Timers

variable {timers : Timers} {firing : Firing} {run id token : Identifier} {length : Nat}

/-- Cancelling takes one run out of the table. -/
theorem token?_cancel (timers : Timers) (run id : Identifier) :
    (timers.cancel run).token? id = if run = id then none else timers.token? id := by
  change (timers.pending.filter (·.1 != run)).lookup id =
    if run = id then none else timers.pending.lookup id
  induction timers.pending with
  | nil => simp
  | cons entry rest ih =>
      obtain ⟨other, token⟩ := entry
      by_cases hother : other = run
      · subst hother
        rw [List.filter_cons_of_neg (by simp), ih]
        split
        · rfl
        · next hid =>
          have hoff : (id == other) = false := by simpa using fun h => hid h.symm
          rw [List.lookup_cons, hoff]
      · rw [List.filter_cons_of_pos (by simpa using hother), List.lookup_cons, List.lookup_cons]
        by_cases hid : id = other
        · subst hid
          simp [Ne.symm hother]
        · have hoff : (id == other) = false := by simpa using hid
          simp only [hoff]
          exact ih

/-- Setting an alarm for a suspension enters its run with its token. -/
theorem token?_scheduleIn (timers : Timers) (firing : Firing) (length : Nat) (id : Identifier) :
    (timers.scheduleIn firing length).token? id =
      if firing.run = id then some firing.token else timers.token? id := by
  unfold scheduleIn
  by_cases htoken : timers.token? firing.run = some firing.token
  · rw [if_pos htoken]
    change timers.token? id = _
    split
    · next hid => rw [← hid, htoken]
    · rfl
  · rw [if_neg htoken]
    change ((timers.cancel firing.run).pending ++ [(firing.run, firing.token)]).lookup id = _
    rw [List.lookup_append]
    have hcancel := timers.token?_cancel firing.run id
    unfold token? at hcancel
    rw [hcancel, List.lookup_cons, List.lookup_nil]
    by_cases hid : firing.run = id
    · simp [hid]
    · have hoff : (id == firing.run) = false := by simpa using fun h => hid h.symm
      simp [hid, hoff, token?]

/-- An alarm for the suspension that a run has timers for changes nothing in the table. -/
theorem pending_scheduleIn (h : timers.token? firing.run = some firing.token) :
    (timers.scheduleIn firing length).pending = timers.pending := by
  unfold scheduleIn
  rw [if_pos h]

/-- Every run is in the table at most once. -/
def Distinct (timers : Timers) : Prop := (timers.pending.map Prod.fst).Nodup

theorem Distinct.cancel (h : timers.Distinct) (run : Identifier) :
    (timers.cancel run).Distinct :=
  h.sublist (List.filter_sublist.map Prod.fst)

theorem Distinct.scheduleIn (h : timers.Distinct) (firing : Firing) (length : Nat) :
    (timers.scheduleIn firing length).Distinct := by
  unfold Timers.scheduleIn
  split
  · exact h
  · change ((timers.cancel firing.run).pending ++ [(firing.run, firing.token)]).map Prod.fst
      |>.Nodup
    rw [List.map_append, List.map_singleton]
    refine (h.cancel firing.run).append (List.nodup_singleton _) ?_
    simp [Timers.cancel, List.Disjoint]

/-- What is in the table is what is found in it. -/
theorem Distinct.mem_pending (h : timers.Distinct) :
    (id, token) ∈ timers.pending ↔ timers.token? id = some token :=
  mem_iff_lookup h

/-- Tables in which the same is found have the same entries. -/
theorem Distinct.perm {other : Timers} (h : timers.Distinct) (h' : other.Distinct)
    (hsame : ∀ id, timers.token? id = other.token? id) : timers.pending.Perm other.pending := by
  refine (List.perm_ext_iff_of_nodup (List.Nodup.of_map _ h) (List.Nodup.of_map _ h')).mpr ?_
  rintro ⟨id, token⟩
  rw [h.mem_pending, h'.mem_pending, hsame]

end Dialogue.Timers
