import Dialogue.Template
import Dialogue.Proofs.Fields

/-!
# References to variables

What a template comes to that is literal text with one reference to a variable in
it: the text with the printed form of the variable's value in the place of the
reference, whatever the value is.  The value itself is never read as a template.
-/

namespace Dialogue

theorem Text.hasPart_append {part cs : List Char} (before : List Char)
    (h : hasPart part cs = true) : hasPart part (before ++ cs) = true := by
  induction before with
  | nil => exact h
  | cons c rest ih =>
      rw [List.cons_append, hasPart, ih, Bool.or_true]

namespace Template

/-- A name of ASCII letters, digits and underscores that begins with no digit. -/
def IsName (name : String) : Prop :=
  ∃ first rest, name.toList = first :: rest ∧ isNameStart first = true ∧
    ∀ c ∈ rest, isNameChar c = true

/-- Text in which nothing opens. -/
def Literal (text : List Char) : Prop := '\x7b' ∉ text

/-! ## Cutting into tokens -/

theorem splitText_cons {c : Char} (hc : c ≠ '\x7b') (rest : List Char) :
    splitText (c :: rest) = (c :: (splitText rest).1, (splitText rest).2) := by
  cases rest with
  | nil => rfl
  | cons d more => rw [splitText, if_neg hc]

theorem splitText_literal {text : List Char} (h : Literal text) :
    splitText text = (text, none) := by
  induction text with
  | nil => rfl
  | cons c rest ih =>
      have hc : c ≠ '\x7b' := fun heq => h (heq ▸ .head _)
      rw [splitText_cons hc, ih fun hmem => h (.tail _ hmem)]

/-- Literal text goes up to the first delimiter. -/
theorem splitText_print {text : List Char} (h : Literal text) (inside : List Char) :
    splitText (text ++ '\x7b' :: '\x7b' :: inside) = (text, some (.print, inside)) := by
  induction text with
  | nil => rfl
  | cons c rest ih =>
      have hc : c ≠ '\x7b' := fun heq => h (heq ▸ .head _)
      rw [List.cons_append, splitText_cons hc, ih fun hmem => h (.tail _ hmem)]

theorem isNameChar_of_start {c : Char} (h : isNameStart c = true) : isNameChar c = true := by
  simp only [isNameStart, isNameChar, Char.isAlphanum, Bool.or_eq_true] at h ⊢
  exact h.imp_left .inl

/-- What no name begins with. -/
theorem ne_of_isNameStart {c d : Char} (h : isNameStart c = true) (hd : isNameStart d = false) :
    c ≠ d := by
  rintro rfl
  simp [h] at hd

theorem not_isDigit_of_start {c : Char} (h : isNameStart c = true) : c.isDigit = false := by
  have hkinds : ((decide (c.val ≥ 'A'.val ∧ c.val ≤ 'Z'.val) ||
      decide (c.val ≥ 'a'.val) && decide (c.val ≤ 'z'.val)) || c == '_') = true := h
  simp only [Bool.or_eq_true, Bool.and_eq_true, decide_eq_true_eq, beq_iff_eq] at hkinds
  simp only [Char.isDigit, Bool.and_eq_false_iff, decide_eq_false_iff_not, UInt32.not_le]
  rcases hkinds with (⟨hlow, -⟩ | ⟨hlow, -⟩) | rfl
  · exact .inr (Nat.lt_of_lt_of_le (by decide) hlow)
  · exact .inr (Nat.lt_of_lt_of_le (by decide) hlow)
  · exact .inr (by decide)

/-- A name is one token, whatever follows it that continues no name. -/
theorem takeToken_name {name : String} (h : IsName name) {stop : Char} {after : List Char}
    (hstop : isNameChar stop = false) :
    takeToken (name.toList ++ stop :: after) = some (.name name, stop :: after) := by
  obtain ⟨c, rest, hname, hc, hrest⟩ := h
  have hall : ∀ d ∈ name.toList, isNameChar d = true := by
    rw [hname]
    exact List.forall_mem_cons.mpr ⟨isNameChar_of_start hc, hrest⟩
  have htake : (name.toList ++ stop :: after).takeWhile isNameChar = name.toList := by
    rw [List.takeWhile_append_of_pos hall, List.takeWhile_cons, hstop]
    simp
  have hdrop : (name.toList ++ stop :: after).dropWhile isNameChar = stop :: after := by
    rw [List.dropWhile_append_of_pos hall, List.dropWhile_cons, hstop]
    simp
  have hlong : longMarks.find? (fun mark => mark.toList.isPrefixOf (name.toList ++ stop :: after))
      = none := by
    rw [List.find?_eq_none]
    intro mark hmark
    have hmarks : longMarks.all (fun mark => mark.toList.head?.any (!isNameStart ·)) = true := by
      decide
    have hfirst := List.all_eq_true.mp hmarks mark hmark
    cases hchars : mark.toList with
    | nil => simp [hchars] at hfirst
    | cons d more =>
        have hd : isNameStart d = false := by simpa [hchars] using hfirst
        simp [hname, (ne_of_isNameStart hc hd).symm]
  have hshort : shortMarks.contains c = false := by
    have hmarks : shortMarks.all (!isNameStart ·) = true := by decide
    rw [Bool.eq_false_iff]
    intro hmem
    have hmark := List.all_eq_true.mp hmarks c (List.contains_iff_mem.mp hmem)
    simp [hc] at hmark
  have hquote : ¬(c = '"' ∨ c = '\'') := by
    rintro (rfl | rfl) <;> simp [isNameStart] at hc
  rw [hname, List.cons_append] at htake hdrop hlong ⊢
  simp only [takeToken, hlong, htake, hdrop, if_neg hquote, not_isDigit_of_start hc, hshort, hc,
    if_true, Bool.false_eq_true, if_false, ← hname, String.ofList_toList]

/-- The reference to a variable, as it is written. -/
def reference (name : String) : String := "\x7b\x7bvars." ++ name ++ "\x7d\x7d"

theorem reference_toList (name : String) :
    (reference name).toList = '\x7b' :: '\x7b' :: 'v' :: 'a' :: 'r' :: 's' :: '.' ::
      (name.toList ++ ['\x7d', '\x7d']) := by
  simp [reference]

/-- The tokens of a reference. -/
def referenceTokens (name : String) : List Token :=
  [.printStart, .name "vars", .mark ".", .name name, .printEnd]

/-- One token inside delimiters. -/
theorem tokensFrom_token {fuel : Nat} {cs after : List Char} {token : Token} {tokens : List Token}
    (hgap : cs.dropWhile isGap = cs) (hend : regionEnd? ['\x7d', '\x7d'] cs = none)
    (htoken : takeToken cs = some (token, after))
    (hafter : tokensFrom fuel .printing after = some tokens) :
    tokensFrom (fuel + 1) .printing cs = some (token :: tokens) := by
  simp only [tokensFrom, hgap, hend, htoken]
  change (tokensFrom fuel .printing after >>= _) = _
  rw [hafter]
  rfl

theorem tokensFrom_name {name : String} (h : IsName name) {fuel : Nat} {after : List Char}
    {tokens : List Token} (hafter : tokensFrom fuel .printing ('\x7d' :: after) = some tokens) :
    tokensFrom (fuel + 1) .printing (name.toList ++ '\x7d' :: after) =
      some (.name name :: tokens) := by
  have htoken : takeToken (name.toList ++ '\x7d' :: after) = some (.name name, '\x7d' :: after) :=
    takeToken_name h (by decide)
  obtain ⟨c, rest, hname, hc, -⟩ := h
  have hne (d : Char) (hd : isNameStart d = false) : c ≠ d := ne_of_isNameStart hc hd
  refine tokensFrom_token ?_ ?_ htoken hafter
  · have hform : c.toNat ≠ 0xC := fun hcode =>
      hne (Char.ofNat 0xC) (by decide) (by rw [← hcode, Char.ofNat_toNat])
    have hgap : isGap c = false := by simp [isGap, hne, hform, isNameStart]
    simp [hname, hgap]
  · have hminus := hne '-' (by decide)
    have hplus := hne '+' (by decide)
    have hbrace := (hne '\x7d' (by decide)).symm
    simp [hname, regionEnd?, trimSign, dropWord?, hminus, hplus, hbrace]

/-- Literal text around a reference stays literal text. -/
theorem tokensFrom_reference {before after : List Char} {name : String} (hbefore : Literal before)
    (hname : IsName name) (hafter : Literal after) (fuel : Nat) :
    tokensFrom (fuel + 6) (.outside false) (before ++ (reference name).toList ++ after) =
      some (textTokens before ++ referenceTokens name ++ textTokens after) := by
  have hlast : tokensFrom (fuel + 1) (.outside false) after = some (textTokens after) := by
    simp only [tokensFrom, Bool.false_eq_true, if_false, splitText_literal hafter]
  have hclose : tokensFrom (fuel + 2) .printing ('\x7d' :: '\x7d' :: after) =
      some (.printEnd :: textTokens after) := by
    rw [tokensFrom]
    change (tokensFrom (fuel + 1) (.outside false) after >>= _) = _
    rw [hlast]
    rfl
  have hinside : tokensFrom (fuel + 5) .printing
      ('v' :: 'a' :: 'r' :: 's' :: '.' :: (name.toList ++ '\x7d' :: '\x7d' :: after)) =
        some (.name "vars" :: .mark "." :: .name name :: .printEnd :: textTokens after) :=
    tokensFrom_token rfl rfl rfl (tokensFrom_token rfl rfl rfl (tokensFrom_name hname hclose))
  have hlist : before ++ (reference name).toList ++ after = before ++ '\x7b' :: '\x7b' ::
      'v' :: 'a' :: 'r' :: 's' :: '.' :: (name.toList ++ '\x7d' :: '\x7d' :: after) := by
    simp [reference_toList]
  rw [hlist, tokensFrom]
  simp only [Bool.false_eq_true, if_false, splitText_print hbefore]
  change (tokensFrom (fuel + 5) .printing ('v' :: 'a' :: 'r' :: 's' :: '.' ::
    (name.toList ++ '\x7d' :: '\x7d' :: after)) >>= _) = _
  rw [hinside]
  simp [trimSign, referenceTokens]

/-! ## Reading the tokens -/

/-- The parts of literal text. -/
def textParts (chars : List Char) : List Part := if chars.isEmpty then [] else [.text chars]

/-- The expression of a reference. -/
def referenceExpr (name : String) : Expr := .attribute (.name "vars") name

theorem readExpr_reference (fuel room : Nat) (name : String) (tokens : List Token) :
    readExpr (fuel + 20)
        ⟨.name "vars" :: .mark "." :: .name name :: .printEnd :: tokens, room + 5⟩ =
      some (referenceExpr name, ⟨.printEnd :: tokens, room + 5⟩) := rfl

theorem readParts_text (fuel room : Nat) (chars : List Char) :
    readParts (fuel + 2) [] ⟨textTokens chars, room⟩ = some (textParts chars, ⟨[], room⟩) := by
  unfold textTokens textParts
  split <;> rfl

theorem readParts_print {fuel room : Nat} {tokens rest : List Token} {expr : Expr}
    {parts : List Part} {cursor : Cursor}
    (hexpr : readExpr fuel ⟨tokens, room⟩ = some (expr, ⟨.printEnd :: rest, room⟩))
    (hparts : readParts fuel [] ⟨rest, room⟩ = some (parts, cursor)) :
    readParts (fuel + 1) [] ⟨.printStart :: tokens, room⟩ =
      some (.print expr :: parts, cursor) := by
  rw [readParts]
  change (readExpr fuel ⟨tokens, room⟩ >>= fun read => (Reader.expect .printEnd >>= fun _ =>
    (Part.print read.1 :: ·) <$> readParts fuel []) read.2) = _
  rw [hexpr]
  change (readParts fuel [] ⟨rest, room⟩ >>= fun read =>
    some (Part.print expr :: read.1, read.2)) = _
  rw [hparts]
  rfl

/-- A template with one reference has one part for it. -/
theorem parts?_reference {before after : List Char} {name : String} (hbefore : Literal before)
    (hname : IsName name) (hafter : Literal after) :
    parts? (before ++ (reference name).toList ++ after) =
      some (textParts before ++ .print (referenceExpr name) :: textParts after) := by
  have htokens : tokens (before ++ (reference name).toList ++ after) =
      some (textTokens before ++ referenceTokens name ++ textTokens after) := by
    obtain ⟨fuel, hfuel⟩ : ∃ fuel, 2 * (before ++ (reference name).toList ++ after).length + 2 =
        fuel + 6 := by
      refine ⟨2 * (before ++ (reference name).toList ++ after).length - 4, ?_⟩
      simp [reference_toList]
      omega
    rw [tokens, hfuel, tokensFrom_reference hbefore hname hafter]
  have hread (fuel : Nat) : readParts (fuel + 21) []
      ⟨referenceTokens name ++ textTokens after, Reader.maxNesting⟩ =
        some (.print (referenceExpr name) :: textParts after, ⟨[], Reader.maxNesting⟩) :=
    readParts_print (readExpr_reference fuel 145 name _) (readParts_text (fuel + 18) _ after)
  have hwhole (fuel : Nat) : readParts (fuel + 22) []
      ⟨textTokens before ++ referenceTokens name ++ textTokens after, Reader.maxNesting⟩ =
        some (textParts before ++ .print (referenceExpr name) :: textParts after,
          ⟨[], Reader.maxNesting⟩) := by
    unfold textTokens textParts
    split
    · exact hread (fuel + 1)
    · change (readParts (fuel + 21) []
        ⟨referenceTokens name ++ textTokens after, Reader.maxNesting⟩ >>=
          fun read => some (Part.text before :: read.1, read.2)) = _
      rw [hread]
      rfl
  rw [parts?, htokens]
  change (readParts (40 * List.length _ + 40) [] ⟨_, Reader.maxNesting⟩ >>= _) = _
  rw [hwhole]
  rfl

/-! ## Evaluating the parts -/

theorem order_text (a b : String) : (Datum.order (.text a) (.text b) == .eq) = (a == b) := by
  have horder : Datum.order (.text a) (.text b) = (compare a b).then .eq := by
    simp [Datum.order, Datum.text, Datum.pair?, Datum.kind]
  rw [horder, Bool.eq_iff_iff, beq_iff_eq, beq_iff_eq, Ordering.then_eq_eq]
  simp

/-- A table of named values has what the values have under a name. -/
theorem get_ofFields (fields : Fields Value) (name : String) :
    Datum.get (.table (Datum.ofFields fields)) (.text name) =
      ((fields.get? name).map Datum.ofValue).getD .undefined := by
  have hfind : ((Datum.ofFields fields).find? fun entry =>
      Datum.order entry.1 (.text name) == .eq).map Prod.snd =
        (fields.get? name).map Datum.ofValue := by
    induction fields with
    | nil => rfl
    | cons field rest ih =>
        obtain ⟨key, value⟩ := field
        rw [Datum.ofFields, List.find?_cons, Fields.get?_cons]
        dsimp only
        rw [order_text]
        by_cases hkey : name = key
        · simp [hkey]
        · have hother : (key == name) = false := by simpa using Ne.symm hkey
          simpa [hkey, hother] using ih
  rw [Datum.get]
  exact congrArg (Option.getD · Datum.undefined) hfind

theorem eval_reference (view : View) (name : String) :
    eval view.scope (referenceExpr name) =
      some (((view.vars.get? name).map Datum.ofValue).getD .undefined) := by
  rw [← get_ofFields]
  rfl

theorem renderParts_text (scope : Scope) (chars : List Char) :
    renderParts scope (textParts chars) = some (chars, scope) := by
  unfold textParts
  split
  · next hempty =>
    rw [List.isEmpty_iff.mp hempty]
    rfl
  · change some (chars ++ [], scope) = _
    rw [List.append_nil]

theorem renderParts_reference (view : View) (name : String) (before after : List Char) :
    renderParts view.scope (textParts before ++ .print (referenceExpr name) :: textParts after) =
      some (before ++ (((view.vars.get? name).map Datum.ofValue).getD .undefined).printed.toList ++
        after, view.scope) := by
  have hprint : renderParts view.scope (.print (referenceExpr name) :: textParts after) =
      some ((((view.vars.get? name).map Datum.ofValue).getD .undefined).printed.toList ++ after,
        view.scope) := by
    rw [renderParts, renderPart, eval_reference]
    change (renderParts view.scope (textParts after) >>= _) = _
    rw [renderParts_text]
    rfl
  unfold textParts
  split
  · next hempty =>
    rw [List.isEmpty_iff.mp hempty]
    exact hprint
  · change (renderParts view.scope (.print (referenceExpr name) :: textParts after) >>=
      fun rendered => some (before ++ rendered.1, rendered.2)) = _
    rw [hprint]
    simp

end Template

namespace View

open Template

/-- Literal text with one reference to a variable is rendered to the same text with the printed
form of the variable's value in its place. -/
theorem render_reference {before after name : String} (hbefore : Literal before.toList)
    (hname : IsName name) (hafter : Literal after.toList) (view : View) :
    view.render (before ++ reference name ++ after) =
      before ++ (((view.vars.get? name).map Datum.ofValue).getD .undefined).printed ++ after := by
  have hchars : (before ++ reference name ++ after).toList =
      before.toList ++ (reference name).toList ++ after.toList := by simp
  have hopens : hasDelimiter (before ++ reference name ++ after).toList = true := by
    rw [hasDelimiter, hchars, reference_toList, List.append_assoc, Bool.or_eq_true]
    exact .inl (Text.hasPart_append _ rfl)
  rw [render, if_pos hopens, render?, hchars, parts?_reference hbefore hname hafter]
  change ((((renderParts view.scope _) >>= fun rendered => some rendered.1).map
    String.ofList).getD _) = _
  rw [renderParts_reference]
  simp [String.append_assoc]

end View

end Dialogue
