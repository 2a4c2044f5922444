import Dialogue.Fields

/-!
# Laws of fields

What `get?` and `has` say after the operations on fields.  None of these laws
needs the names to be in order: an insertion puts the new value where a search
finds it first, and leaves every other name where it was.  That the names stay in
order, and what this is good for, comes at the end.
-/

namespace Dialogue.Fields

variable {α β : Type}

@[simp] theorem get?_nil (name : String) :
    get? ([] : Fields α) name = none := rfl

theorem get?_cons (key name : String) (value : α) (rest : Fields α) :
    get? ((key, value) :: rest) name =
      if name = key then some value else get? rest name := by
  by_cases h : name = key
  · simp [get?, h]
  · have hbeq : (name == key) = false := by simpa using h
    simp [get?, List.lookup_cons, hbeq, h]

/-- An insertion changes the value of its own name only. -/
theorem get?_insert (name other : String) (value : α) (fields : Fields α) :
    get? (insert name value fields) other =
      if other = name then some value else get? fields other := by
  induction fields with
  | nil => simp [insert, get?_cons]
  | cons field rest ih =>
      obtain ⟨key, old⟩ := field
      simp only [insert]
      split
      · rw [get?_cons]
      · split
        · next hkey =>
          subst hkey
          by_cases h : other = name <;> simp [get?_cons, h]
        · next hkey =>
          rw [get?_cons, get?_cons, ih]
          by_cases h : other = key
          · have hne : key ≠ name := fun e => hkey e.symm
            simp [h, hne]
          · simp [h]

theorem has_insert (name other : String) (value : α) (fields : Fields α) :
    (insert name value fields).has other =
      (decide (other = name) || fields.has other) := by
  unfold has
  rw [get?_insert]
  by_cases h : other = name <;> simp [h]

/-- A name that a dictionary has stays when others are put on top of it. -/
theorem has_foldl_insert (pairs : List (String × α)) (base : Fields α) (name : String) :
    (pairs.foldl (fun fields (key, value) => insert key value fields) base).has name =
      (pairs.any (fun pair => decide (name = pair.1)) || base.has name) := by
  induction pairs generalizing base with
  | nil => simp
  | cons pair rest ih =>
      rw [List.foldl_cons, ih, has_insert, List.any_cons]
      cases decide (name = pair.1) <;> simp

theorem has_eq_any (fields : Fields α) (name : String) :
    fields.has name = fields.any fun pair => decide (name = pair.1) := by
  induction fields with
  | nil => rfl
  | cons field rest ih =>
      obtain ⟨key, value⟩ := field
      rw [List.any_cons, ← ih, has, has, get?_cons]
      by_cases h : name = key <;> simp [h]

/-- A union has the names of both. -/
@[simp] theorem has_union (winner base : Fields α) (name : String) :
    (winner.union base).has name = (winner.has name || base.has name) := by
  rw [union, has_foldl_insert, has_eq_any winner]

/-- Changing every value changes what is found. -/
theorem get?_foldl_map (f : α → β) (pairs : List (String × α)) (base : Fields α)
    (base' : Fields β) (name : String) (hbase : base'.get? name = (base.get? name).map f) :
    ((pairs.map fun (key, value) => (key, f value)).foldl
        (fun fields (key, value) => insert key value fields) base').get? name =
      ((pairs.foldl (fun fields (key, value) => insert key value fields) base).get? name).map
        f := by
  induction pairs generalizing base base' with
  | nil => exact hbase
  | cons pair rest ih =>
      refine ih _ _ ?_
      rw [get?_insert, get?_insert, hbase]
      split <;> rfl

/-- What is found in a dictionary has been put in. -/
theorem mem_of_get?_foldl {pairs : List (String × α)} {base : Fields α} {name : String}
    {value : α}
    (h : (pairs.foldl (fun fields (key, value) => insert key value fields) base).get? name =
      some value) :
    (name, value) ∈ pairs ∨ base.get? name = some value := by
  induction pairs generalizing base with
  | nil => exact .inr h
  | cons pair rest ih =>
      rcases ih h with hrest | hfound
      · exact .inl (.tail _ hrest)
      · rw [get?_insert] at hfound
        split at hfound
        · next hname =>
          obtain rfl := Option.some.inj hfound
          exact .inl (hname ▸ .head _)
        · exact .inr hfound

/-! ## Names in order -/

theorem mem_insert {name : String} {value : α} {fields : Fields α} {field : String × α}
    (h : field ∈ insert name value fields) : field = (name, value) ∨ field ∈ fields := by
  induction fields with
  | nil => exact .inl (List.mem_singleton.mp h)
  | cons first rest ih =>
      obtain ⟨key, old⟩ := first
      unfold insert at h
      split at h
      · exact List.mem_cons.mp h
      · split at h
        · rcases List.mem_cons.mp h with h | h
          · exact .inl h
          · exact .inr (.tail _ h)
        · rcases List.mem_cons.mp h with h | h
          · exact .inr (h ▸ .head _)
          · exact (ih h).imp_right (.tail _)

theorem mem_of_get? {fields : Fields α} {name : String} {value : α}
    (h : fields.get? name = some value) : (name, value) ∈ fields := by
  induction fields with
  | nil => simp at h
  | cons field rest ih =>
      obtain ⟨key, old⟩ := field
      rw [get?_cons] at h
      split at h
      · next hname =>
        obtain rfl := Option.some.inj h
        exact hname ▸ .head _
      · exact .tail _ (ih h)

/-- What is found when some names have been removed was found before. -/
theorem get?_of_filter (keep : String → Bool) {fields : Fields α} {name : String} {value : α}
    (h : get? (fields.filter fun field => keep field.1) name = some value) :
    fields.get? name = some value := by
  induction fields with
  | nil => exact h
  | cons field rest ih =>
      obtain ⟨key, old⟩ := field
      have hkeep : keep name = true := (List.mem_filter.mp (mem_of_get? h)).2
      rw [get?_cons]
      rw [List.filter_cons] at h
      split at h
      · rw [get?_cons] at h
        by_cases hname : name = key
        · rw [if_pos hname] at h ⊢
          exact h
        · rw [if_neg hname] at h ⊢
          exact ih h
      · next hdropped =>
        have hname : name ≠ key := fun heq => hdropped (heq ▸ hkeep)
        rw [if_neg hname]
        exact ih h

theorem Ascending.insert {fields : Fields α} (h : fields.Ascending) (name : String)
    (value : α) : (fields.insert name value).Ascending := by
  induction fields with
  | nil => exact List.pairwise_singleton _ _
  | cons field rest ih =>
      obtain ⟨key, old⟩ := field
      obtain ⟨hfirst, hrest⟩ := List.pairwise_cons.mp h
      unfold Fields.insert
      split
      · next hbefore =>
        refine List.pairwise_cons.mpr ⟨?_, h⟩
        intro other hother
        rcases List.mem_cons.mp hother with rfl | hother
        · exact hbefore
        · exact String.lt_trans hbefore (hfirst other hother)
      · split
        · next hsame =>
          subst hsame
          exact List.pairwise_cons.mpr ⟨hfirst, hrest⟩
        · next hnot hother =>
          have hafter : key < name :=
            Std.lt_of_le_of_ne hnot fun heq => hother heq.symm
          refine List.pairwise_cons.mpr ⟨?_, ih hrest⟩
          intro other hmem
          rcases mem_insert hmem with rfl | hmem
          · exact hafter
          · exact hfirst other hmem

/-- A name that comes after all others is put at the end. -/
theorem insert_last {fields : Fields α} {name : String} (value : α)
    (h : ∀ field ∈ fields, field.1 < name) :
    fields.insert name value = fields ++ [(name, value)] := by
  induction fields with
  | nil => rfl
  | cons field rest ih =>
      obtain ⟨key, old⟩ := field
      have hkey : key < name := h (key, old) (.head _)
      have hne : name ≠ key := fun heq => String.lt_irrefl key (heq ▸ hkey)
      rw [insert, if_neg (String.lt_asymm hkey), if_neg hne,
        ih fun other hother => h other (.tail _ hother)]
      rfl

/-- A dictionary in order is what is made of its entries. -/
theorem union_nil {fields : Fields α} (h : fields.Ascending) : fields.union [] = fields := by
  have hfold (base rest : Fields α) (h : (base ++ rest).Pairwise fun a b => a.1 < b.1) :
      rest.foldl (fun fields (name, value) => insert name value fields) base = base ++ rest := by
    induction rest generalizing base with
    | nil => exact (List.append_nil base).symm
    | cons field rest ih =>
        obtain ⟨name, value⟩ := field
        have hbefore : ∀ other ∈ base, other.1 < name := fun other hother =>
          (List.pairwise_append.mp h).2.2 other hother (name, value) (.head _)
        rw [List.foldl_cons]
        dsimp only
        rw [insert_last value hbefore, ih]
        · rw [List.append_assoc]
          rfl
        · rw [List.append_assoc]
          exact h
  exact hfold [] fields h

/-- A name that comes before all others is not among them. -/
theorem get?_of_before {fields : Fields α} {name : String}
    (h : ∀ field ∈ fields, name < field.1) : fields.get? name = none := by
  cases hfound : fields.get? name with
  | none => rfl
  | some value => exact absurd (h _ (mem_of_get? hfound)) (String.lt_irrefl name)

/-- In a union the value of the winner counts, and where it has none that of the other one. -/
theorem get?_union {winner : Fields α} (h : winner.Ascending) (base : Fields α) (name : String) :
    (winner.union base).get? name = (winner.get? name).or (base.get? name) := by
  induction winner generalizing base with
  | nil => rfl
  | cons field rest ih =>
      obtain ⟨key, value⟩ := field
      obtain ⟨hfirst, hrest⟩ := List.pairwise_cons.mp h
      have hunion : Fields.union ((key, value) :: rest) base =
          Fields.union rest (base.insert key value) := rfl
      rw [hunion, ih hrest, get?_insert, get?_cons]
      by_cases hname : name = key
      · rw [if_pos hname, if_pos hname, hname, get?_of_before hfirst]
        rfl
      · rw [if_neg hname, if_neg hname]

/-- A union with a dictionary in order is in order. -/
theorem Ascending.union {base : Fields α} (h : base.Ascending) (winner : Fields α) :
    (winner.union base).Ascending := by
  induction winner generalizing base with
  | nil => exact h
  | cons field rest ih => exact ih (h.insert field.1 field.2)

end Dialogue.Fields
