import Dialogue.Identifier

/-!
# Identifiers are read as they are written

The written form groups thirty-two hexadecimal digits.  Reading takes the groups
apart again, and the digits stand for the number they were made of.
-/

namespace Dialogue.Identifier

/-! ## Digits -/

theorem hexValue?_digitChar {d : Nat} (h : d < 16) : Document.hexValue? d.digitChar = some d := by
  have hall : ∀ d : Fin 16, Document.hexValue? (Nat.digitChar d) = some d.val := by decide
  exact hall ⟨d, h⟩

theorem ofDigits?_concat (cs : List Char) (c : Char) :
    ofDigits? (cs ++ [c]) =
      (ofDigits? cs).bind fun n => (Document.hexValue? c).map fun d => 16 * n + d := by
  rw [ofDigits?, List.foldl_append]
  change (ofDigits? cs >>= _) = _
  cases ofDigits? cs with
  | none => rfl
  | some n => cases Document.hexValue? c <;> rfl

/-- Digits stand for the number they were made of. -/
theorem ofDigits?_hexDigits (n : Nat) : ofDigits? (Text.hexDigits n) = some n := by
  induction n using Nat.strongRecOn with
  | ind n ih =>
      rw [Text.hexDigits, Nat.toDigits_eq_if (by decide)]
      split
      · next hsmall =>
        change ofDigits? ([] ++ [n.digitChar]) = _
        rw [ofDigits?_concat, hexValue?_digitChar hsmall]
        simp [ofDigits?]
      · next hlarge =>
        have hrest : ofDigits? (Nat.toDigits 16 (n / 16)) = some (n / 16) := ih _ (by omega)
        rw [ofDigits?_concat, hrest, hexValue?_digitChar (Nat.mod_lt n (by decide))]
        exact congrArg some (Nat.div_add_mod n 16)

/-- Zeros in front make no difference. -/
theorem ofDigits?_padZeros (width : Nat) (cs : List Char) :
    ofDigits? (Text.padZeros width cs) = ofDigits? cs := by
  have hzeros (k : Nat) : ofDigits? (List.replicate k '0' ++ cs) = ofDigits? cs := by
    induction k with
    | zero => rfl
    | succ k ih => exact ih
  exact hzeros _

theorem length_padZeros {width : Nat} {cs : List Char} (h : cs.length ≤ width) :
    (Text.padZeros width cs).length = width := by
  rw [Text.padZeros, List.length_append, List.length_replicate]
  omega

theorem isSome_hexValue?_of_mem {width n : Nat} {c : Char}
    (h : c ∈ Text.padZeros width (Text.hexDigits n)) : (Document.hexValue? c).isSome := by
  rcases List.mem_append.mp h with hzero | hdigit
  · rw [List.eq_of_mem_replicate hzero]
    rfl
  · induction n using Nat.strongRecOn with
    | ind n ih =>
        rw [Text.hexDigits, Nat.toDigits_eq_if (by decide)] at hdigit
        split at hdigit
        · next hsmall =>
          rw [List.mem_singleton.mp hdigit, hexValue?_digitChar hsmall]
          rfl
        · next hlarge =>
          rcases List.mem_append.mp hdigit with hrest | hlast
          · exact ih (n / 16) (by omega) (List.mem_append.mpr (.inr hrest)) hrest
          · rw [List.mem_singleton.mp hlast, hexValue?_digitChar (Nat.mod_lt n (by decide))]
            rfl

/-! ## Groups -/

/-- How many digits groups have together. -/
def width : List Nat → Nat
  | [] => 0
  | n :: sizes => n + width sizes

/-- Groups of digits are taken apart as they were put together. -/
theorem ungrouped?_grouped {n : Nat} {sizes : List Nat} {cs : List Char}
    (h : cs.length = width (n :: sizes)) :
    ungrouped? (n :: sizes) (grouped (n :: sizes) cs) = some cs ∧
      (grouped (n :: sizes) cs).length = cs.length + sizes.length := by
  induction sizes generalizing n cs with
  | nil =>
      have hlength : cs.length = n := h
      have htake : cs.take n = cs := List.take_of_length_le (Nat.le_of_eq hlength)
      rw [grouped, htake, ungrouped?, if_pos hlength]
      exact ⟨rfl, rfl⟩
  | cons m sizes ih =>
      have hsum : cs.length = n + width (m :: sizes) := h
      have hfirst : (cs.take n).length = n := by
        rw [List.length_take]
        omega
      have hdropped : (cs.drop n).length = width (m :: sizes) := by
        rw [List.length_drop]
        omega
      obtain ⟨hrest, hlength⟩ := ih hdropped
      have hdrop : (cs.take n ++ '-' :: grouped (m :: sizes) (cs.drop n)).drop n =
          '-' :: grouped (m :: sizes) (cs.drop n) := List.drop_left' hfirst
      have htake : (cs.take n ++ '-' :: grouped (m :: sizes) (cs.drop n)).take n = cs.take n :=
        List.take_left' hfirst
      constructor
      · rw [grouped, ungrouped?, hdrop]
        simp only [hrest, htake, Option.map_some, List.take_append_drop]
        all_goals nofun
      · rw [grouped, List.length_append, List.length_cons, hlength, hfirst, List.length_drop,
          List.length_cons]
        · omega
        all_goals nofun

theorem resourceName_eq : resourceName = ['u', 'r', 'n', ':', 'u', 'u', 'i', 'd', ':'] := by decide

/-- Nothing is taken off a text that begins with a digit. -/
theorem unwrap_of_digit {c : Char} (cs : List Char) (h : (Document.hexValue? c).isSome) :
    unwrap (c :: cs) = (c :: cs, 0, true) := by
  have hbrace : c ≠ '\x7b' := fun heq => absurd (heq ▸ h) (by decide)
  have hname : c ≠ 'u' := fun heq => absurd (heq ▸ h) (by decide)
  unfold unwrap
  split
  · next heq => exact absurd (List.cons.inj heq).1 hbrace
  · rw [resourceName_eq]
    simp [List.isPrefixOf, hname.symm]

/-- Every identifier of 128 bits is read as it is written. -/
theorem read_text {id : Identifier} (h : id.bits < twoTo 128) : read id.text = .ok id := by
  obtain ⟨n⟩ := id
  let digits := Text.padZeros 32 (Text.hexDigits n)
  have hwidth : (Text.hexDigits n).length ≤ 32 :=
    (Nat.length_toDigits_le_iff (by decide) (by decide)).mpr h
  have hlength : digits.length = 32 := length_padZeros hwidth
  obtain ⟨hungrouped, htext⟩ : ungrouped? groups (grouped groups digits) = some digits ∧
      (grouped groups digits).length = digits.length + 4 := ungrouped?_grouped hlength
  have hvalue : ofDigits? digits = some n :=
    (ofDigits?_padZeros 32 _).trans (ofDigits?_hexDigits n)
  have hunwrap : unwrap (grouped groups digits) = (grouped groups digits, 0, true) := by
    cases hdigits : digits with
    | nil =>
        rw [hdigits] at hlength
        cases hlength
    | cons c rest =>
        have hmem : c ∈ digits := hdigits ▸ List.mem_cons_self
        exact unwrap_of_digit _ (isSome_hexValue?_of_mem hmem)
  have hshort : ¬(grouped groups digits).length = 32 := by omega
  have hwritten : text ⟨n⟩ = String.ofList (grouped groups digits) := by
    have hmod : n % twoTo 128 = n := Nat.mod_eq_of_lt h
    rw [text, hmod]
  rw [hwritten, read, String.toList_ofList, hunwrap]
  simp [hshort, hungrouped, hvalue]

end Dialogue.Identifier
