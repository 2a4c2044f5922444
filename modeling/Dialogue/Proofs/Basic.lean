import Mathlib.Data.List.Nodup

/-!
# Tables, histories and results

A table is searched for a key, and what is found is in it; the other way round that
takes every key to be there once.  A history grows at its end, and a move of the
longer one is the new move or a move of the shorter one.
-/

namespace Dialogue

section

variable {α β : Type} [BEq α] [LawfulBEq α] {table : List (α × β)} {key : α} {entry : β}

/-- What is found in a table is in it. -/
theorem mem_of_lookup (h : table.lookup key = some entry) : (key, entry) ∈ table := by
  obtain ⟨before, after, rfl, -⟩ := List.lookup_eq_some_iff.mp h
  exact List.mem_append_right before (.head after)

/-- In a table that has every key once, what is in it is what is found in it. -/
theorem mem_iff_lookup (h : (table.map Prod.fst).Nodup) :
    (key, entry) ∈ table ↔ table.lookup key = some entry := by
  refine ⟨fun hmem => ?_, mem_of_lookup⟩
  obtain ⟨before, after, rfl⟩ := List.mem_iff_append.mp hmem
  refine List.lookup_eq_some_iff.mpr ⟨before, after, rfl, ?_⟩
  intro other hother
  rw [List.map_append, List.map_cons] at h
  have hother' : other.1 ∈ before.map Prod.fst := List.mem_map_of_mem hother
  have hne : other.1 ≠ key := (List.nodup_append.mp h).2.2 _ hother' _ (.head _)
  simpa using hne.symm

end

/-- A move of a history that has grown by one is the last one, or one of the shorter history. -/
theorem split_snoc {α : Type} {list before after : List α} {x last : α}
    (h : list ++ [last] = before ++ x :: after) :
    (before = list ∧ x = last ∧ after = []) ∨
      ∃ rest, after = rest ++ [last] ∧ list = before ++ x :: rest := by
  rcases List.eq_nil_or_concat after with rfl | ⟨rest, other, rfl⟩
  · obtain ⟨rfl, hlast⟩ := List.append_inj' h rfl
    exact .inl ⟨rfl, (List.singleton_inj.mp hlast).symm, rfl⟩
  · rw [List.concat_eq_append, ← List.cons_append, ← List.append_assoc] at h
    obtain ⟨hlist, hlast⟩ := List.append_inj' h rfl
    obtain rfl := List.singleton_inj.mp hlast
    exact .inr ⟨rest, List.concat_eq_append, hlist⟩

/-- A result has a value if it is no error. -/
theorem toOption_eq_some_iff {ε α : Type} {result : Except ε α} {value : α} :
    result.toOption = some value ↔ result = .ok value := by
  cases result with
  | error e => exact ⟨nofun, nofun⟩
  | ok other => exact ⟨fun h => congrArg Except.ok (Option.some.inj h), fun h => by rw [h]; rfl⟩

end Dialogue
