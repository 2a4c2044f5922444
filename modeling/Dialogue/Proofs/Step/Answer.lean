import Mathlib.Data.List.TakeWhile
import Dialogue.Proofs.Run.History
import Dialogue.Proofs.Engine.Order

/-!
# Answers to a menu

What a menu makes of a reply or a choice.  Either the answer is taken, in one of
the ways that `Menu.Takes` lists, or it matches nothing and there is no fallback,
and then the menu waits again.  All that a menu promises is read off this one
alternative.

Replies are compared after blanks around them are dropped and ASCII letters are
made small.  Neither gets in the way of the other, as no letter is a blank.
-/

namespace Dialogue

/-! ## Replies that say the same -/

namespace Text

variable {cs left right : List Char}

/-- Blanks around a text make no difference to what it is when trimmed. -/
theorem trimmed_pad (hleft : ∀ c ∈ left, isBlank c = true)
    (hright : ∀ c ∈ right, isBlank c = true) : trimmed (left ++ cs ++ right) = trimmed cs := by
  have hstart : trimStart (left ++ (cs ++ right)) = trimStart (cs ++ right) :=
    List.dropWhile_append_of_pos hleft
  have hend (cs : List Char) : trimEnd (cs ++ right) = trimEnd cs := by
    unfold trimEnd
    rw [List.reverse_append, List.dropWhile_append_of_pos]
    exact fun c hc => hright c (List.mem_reverse.mp hc)
  unfold trimmed
  rw [List.append_assoc, hstart, trimStart, List.dropWhile_append]
  split
  · next hempty =>
    have hnone : right.dropWhile isBlank = [] := List.dropWhile_eq_nil_iff.mpr hright
    rw [hnone, trimStart, List.isEmpty_iff.mp hempty]
  · exact hend _

theorem isBlank_toLower (c : Char) : isBlank c.toLower = isBlank c := by
  have hletter (c : Char) (hc : 65 ≤ c.toNat ∧ c.toNat ≤ 122) : isBlank c = false := by
    simp only [isBlank, Bool.or_eq_false_iff, Bool.and_eq_false_iff, decide_eq_false_iff_not,
      beq_eq_false_iff_ne]
    omega
  unfold Char.toLower
  split
  · next hcapital =>
    have hfirst : 65 ≤ c.toNat := UInt32.le_iff_toNat_le.mp hcapital.1
    have hlast : c.toNat ≤ 90 := UInt32.le_iff_toNat_le.mp hcapital.2
    have hsmall : (c.val + ('a'.val - 'A'.val)).toNat = c.toNat + 32 := by
      change (c.val + 32).toNat = _
      rw [UInt32.toNat_add]
      change (c.toNat + 32) % _ = _
      omega
    rw [hletter c ⟨hfirst, by omega⟩]
    refine hletter _ ?_
    change 65 ≤ (c.val + ('a'.val - 'A'.val)).toNat ∧ (c.val + ('a'.val - 'A'.val)).toNat ≤ 122
    omega
  · rfl

theorem trimmed_lower (cs : List Char) :
    trimmed (cs.map Char.toLower) = (trimmed cs).map Char.toLower := by
  have hdrop (cs : List Char) :
      (cs.map Char.toLower).dropWhile isBlank = (cs.dropWhile isBlank).map Char.toLower := by
    rw [List.dropWhile_map]
    exact congrArg _ (congrArg (List.dropWhile · cs) (funext isBlank_toLower))
  unfold trimmed trimEnd trimStart
  rw [hdrop, ← List.map_reverse, hdrop, List.map_reverse]

/-- Two texts that differ only in blanks around them and in the case of ASCII letters. -/
inductive SameReply : String → String → Prop
  | pad {core core' left left' right right' : List Char}
      (letters : core.map Char.toLower = core'.map Char.toLower)
      (blank : ∀ c ∈ left ++ right, isBlank c = true)
      (blank' : ∀ c ∈ left' ++ right', isBlank c = true) :
      SameReply (String.ofList (left ++ core ++ right)) (String.ofList (left' ++ core' ++ right'))

theorem SameReply.asciiLower_trim {a b : String} (h : SameReply a b) :
    asciiLower (trim a) = asciiLower (trim b) := by
  obtain ⟨letters, blank, blank'⟩ := h
  unfold asciiLower trim
  simp only [String.toList_ofList]
  rw [trimmed_pad (fun c hc => blank c (List.mem_append_left _ hc))
      fun c hc => blank c (List.mem_append_right _ hc),
    trimmed_pad (fun c hc => blank' c (List.mem_append_left _ hc))
      fun c hc => blank' c (List.mem_append_right _ hc),
    ← trimmed_lower, ← trimmed_lower, letters]

end Text

/-- A reply names a choice if it is its key or its label, but for blanks around them and the case
of ASCII letters. -/
def Choice.Named (choice : Choice) (text : String) : Prop :=
  Text.asciiLower (Text.trim choice.key) = Text.asciiLower (Text.trim text) ∨
    ∃ label, choice.label = some label ∧
      Text.asciiLower (Text.trim label) = Text.asciiLower (Text.trim text)

theorem Choice.fits_trim {choice : Choice} {text : String} :
    choice.fits (Text.trim text) = true ↔ choice.Named text := by
  simp [fits, sameWords, Named, Option.any_eq_true]

/-- What is noted, or kept, of an answer that matches nothing. -/
def Payload.words : Payload → String
  | .reply text => Text.trim text
  | .select node => node
  | .elapsed => ""

/-- A variable, if one is given, is set to an answer, if there is one, and nothing else of a run is
different. -/
structure Run.Sets (name answer : Option String) (before after : Run) : Prop where
  same : after = { before with vars := after.vars }
  own : ∀ key text, name = some key → answer = some text →
    after.vars.get? key = some (.string text)
  others : ∀ key, ¬(name = some key ∧ answer.isSome = true) →
    after.vars.get? key = before.vars.get? key

namespace Menu

variable (menu : Menu) (around : Surroundings) (world : World) (run : Run)

theorem sets_keep (answer : Option String) :
    Run.Sets menu.saveAs answer run (answer.elim run (menu.keep run)) := by
  unfold keep
  cases answer with
  | none => exact ⟨rfl, (fun _ _ _ h => nomatch h), fun _ _ => rfl⟩
  | some text =>
      cases menu.saveAs with
      | none => exact ⟨rfl, (fun _ _ h => nomatch h), fun _ _ => rfl⟩
      | some name =>
          refine ⟨rfl, ?_, ?_⟩
          · intro key text' hname htext
            obtain rfl := Option.some.inj hname
            obtain rfl := Option.some.inj htext
            exact (Fields.get?_insert _ _ _ _).trans (if_pos rfl)
          · intro key hother
            refine (Fields.get?_insert _ _ _ _).trans (if_neg fun hkey => hother ?_)
            exact ⟨congrArg some hkey.symm, rfl⟩

/-- An answer matches no choice, and it is not one that needs none. -/
def Unmatched : Payload → Prop
  | .reply text => menu.choices ≠ [] ∧ ∀ choice ∈ menu.choices, ¬choice.Named text
  | .select node => (∀ choice ∈ menu.choices, choice.next ≠ node) ∧
      ¬(menu.choices = [] ∧ around.successor = some node)
  | .elapsed => False

/-- How an answer is taken: where the run goes, and what is kept of the answer. -/
inductive Takes : Payload → Outcome → Option String → Prop
  /-- Where there are no choices, every reply is accepted. -/
  | anything {text} (none : menu.choices = []) :
      Takes (.reply text) around.advance (some (Text.trim text))
  /-- A reply goes to the first choice that it names. -/
  | reply {text choice earlier later} (split : menu.choices = earlier ++ choice :: later)
      (named : choice.Named text) (first : ∀ other ∈ earlier, ¬other.Named text) :
      Takes (.reply text) (.go choice.next) (some (Text.trim text))
  /-- Of the first choice that leads to a selected node the key is kept. -/
  | select {choice earlier later} (split : menu.choices = earlier ++ choice :: later)
      (first : ∀ other ∈ earlier, other.next ≠ choice.next) :
      Takes (.select choice.next) (.go choice.next) (some choice.key)
  /-- The fallback can be selected, and so can the successor where there are no choices. -/
  | direct {node} (unchosen : ∀ choice ∈ menu.choices, choice.next ≠ node)
      (place : menu.fallback = some node ∨ menu.choices = [] ∧ around.successor = some node) :
      Takes (.select node) (.go node) none
  /-- Whatever matches nothing goes to the fallback. -/
  | fallback {payload node} (unmatched : menu.Unmatched around payload)
      (place : menu.fallback = some node) (other : payload ≠ .select node) :
      Takes payload (.go node) (some payload.words)

variable {menu around}

/-- An answer that is taken leads on. -/
theorem Takes.leads {payload : Payload} {outcome : Outcome} {kept : Option String}
    (h : menu.Takes around payload outcome kept) :
    outcome = .complete ∨ ∃ node, outcome = .go node := by
  cases h with
  | anything none =>
      unfold Surroundings.advance
      cases around.successor with
      | none => exact .inl rfl
      | some node => exact .inr ⟨node, rfl⟩
  | reply | select | direct | fallback => exact .inr ⟨_, rfl⟩

/-- An answer is not taken if it matches nothing and there is no fallback. -/
theorem Takes.matched {payload : Payload} {outcome : Outcome} {kept : Option String}
    (h : menu.Takes around payload outcome kept) :
    ¬(menu.Unmatched around payload ∧ menu.fallback = none) := by
  rintro ⟨hunmatched, hnone⟩
  cases h with
  | anything none => exact hunmatched.1 none
  | reply split named first => exact hunmatched.2 _ (by simp [split]) named
  | select split first => exact hunmatched.1 _ (by simp [split]) rfl
  | direct unchosen place =>
      rcases place with hplace | hplace
      · simp [hnone] at hplace
      · exact hunmatched.2 hplace
  | fallback unmatched place other => simp [hnone] at place

/-- What a menu comes to whose wait begins again. -/
def Retries (menu : Menu) (around : Surroundings) (world : World) (run : Run) (payload : Payload)
    (result : (Outcome × Run) × World) : Prop :=
  result = ((.suspend (.forReply world.newToken.1 run.node around.now
      ((menu.timeout.or around.inputTimeout).map around.now.afterMillis)),
    run.onLevel (·.note (.invalidSelection payload.words))), world.newToken.2)

variable (menu around)

theorem act_unmatched (payload : Payload) (hunmatched : menu.Unmatched around payload)
    (hother : ∀ node, menu.fallback = some node → payload ≠ .select node) :
    (∃ outcome kept, menu.Takes around payload outcome kept ∧
      world.act (menu.unmatched around run payload.words) =
        ((outcome, kept.elim run (menu.keep run)), world)) ∨
    (menu.Unmatched around payload ∧ menu.fallback = none ∧
      menu.Retries around world run payload
        (world.act (menu.unmatched around run payload.words))) := by
  unfold unmatched
  cases hfallback : menu.fallback with
  | some node =>
      exact .inl ⟨_, _, .fallback hunmatched hfallback (hother node hfallback), rfl⟩
  | none =>
      refine .inr ⟨hunmatched, rfl, ?_⟩
      unfold Retries
      dsimp only
      rw [World.act_bind, menu.act_wait]
      rfl

/-- An answer is taken, or it matches nothing and the menu waits again. -/
theorem act_step_answer {payload : Payload} (hpayload : payload.isTimer = false) :
    (∃ outcome kept, menu.Takes around payload outcome kept ∧
      world.act (menu.step around run (some payload)) =
        ((outcome, kept.elim run (menu.keep run)), world)) ∨
    (menu.Unmatched around payload ∧ menu.fallback = none ∧
      menu.Retries around world run payload
        (world.act (menu.step around run (some payload)))) := by
  cases payload with
  | reply text =>
      unfold step takeReply
      dsimp only
      by_cases hchoices : menu.choices = []
      · rw [if_pos (List.isEmpty_iff.mpr hchoices)]
        exact .inl ⟨_, _, .anything hchoices, rfl⟩
      · rw [if_neg (mt List.isEmpty_iff.mp hchoices)]
        cases hfound : menu.choices.find? (·.fits (Text.trim text)) with
        | some choice =>
            obtain ⟨hfits, earlier, later, hsplit, hfirst⟩ :=
              List.find?_eq_some_iff_append.mp hfound
            refine .inl
              ⟨_, _, .reply hsplit (Choice.fits_trim.mp hfits) fun other hother => ?_, rfl⟩
            exact mt Choice.fits_trim.mpr (by simpa using hfirst other hother)
        | none =>
            refine menu.act_unmatched around world run (.reply text) ⟨hchoices, ?_⟩
              fun node _ => by simp
            intro choice hchoice
            exact mt Choice.fits_trim.mpr (List.find?_eq_none.mp hfound choice hchoice)
  | select node =>
      unfold step takeSelection
      dsimp only
      cases hfound : menu.choices.find? (·.next == node) with
      | some choice =>
          obtain ⟨hnext, earlier, later, hsplit, hfirst⟩ :=
            List.find?_eq_some_iff_append.mp hfound
          obtain rfl : choice.next = node := by simpa using hnext
          refine .inl ⟨_, _, .select hsplit fun other hother => ?_, rfl⟩
          simpa using hfirst other hother
      | none =>
          have hunchosen : ∀ choice ∈ menu.choices, choice.next ≠ node := by
            simpa using hfound
          by_cases hdirect : (menu.fallback == some node ||
              (menu.choices.isEmpty && around.successor == some node)) = true
          · rw [if_pos hdirect]
            exact .inl ⟨_, _, .direct hunchosen (by simpa using hdirect), rfl⟩
          · rw [if_neg hdirect]
            simp only [Bool.or_eq_true, beq_iff_eq, Bool.and_eq_true, List.isEmpty_iff,
              not_or] at hdirect
            refine menu.act_unmatched around world run (.select node)
              ⟨hunchosen, hdirect.2⟩ ?_
            rintro other hfallback ⟨⟩
            exact hdirect.1 hfallback
  | elapsed => simp [Payload.isTimer] at hpayload

/-- A menu that waits again: of the run only a note is new, and the wait is a new one. -/
structure WaitsAgain (payload : Payload) (suspension : Suspension)
    (result : (Outcome × Run) × World) : Prop where
  same : result.1.2 = run.onLevel (·.note (.invalidSelection payload.words))
  /-- The note is the last one of the current visit, and the only new one. -/
  note : ∀ earlier visit, run.history = earlier ++ [visit] → result.1.2.history =
    earlier ++ [{ visit with notes := visit.notes ++ [.invalidSelection payload.words] }]
  unchanged : result.1.2.vars = run.vars ∧ result.1.2.cursor = run.cursor ∧
    result.1.2.node = run.node
  /-- The token was not given out before. -/
  token : world.Issued result.2 suspension.token
  fresh : ∀ n < world.supply.tokens, suspension.token ≠ ⟨world.supply.firstToken + n⟩
  reason : suspension.reason = .reply run.node
  since : suspension.since = around.now
  /-- The menu's own timeout counts from now, or else the general one. -/
  expiresAt : suspension.expiresAt =
    (menu.timeout.or around.inputTimeout).map around.now.afterMillis

variable {menu around world run} in
theorem Retries.waitsAgain {payload : Payload} {result : (Outcome × Run) × World}
    (h : menu.Retries around world run payload result) {suspension : Suspension}
    (hpause : result.1.1 = .suspend suspension) :
    menu.WaitsAgain around world run payload suspension result := by
  unfold Retries at h
  subst h
  cases hpause
  refine ⟨rfl, ?_, ⟨rfl, rfl, rfl⟩, world.issued_newToken, ?_, rfl, rfl, rfl⟩
  · intro earlier visit hhistory
    change run.history.note _ = _
    rw [hhistory, History.note_append]
  · intro n hn htoken
    have hbits : world.supply.firstToken + world.supply.tokens = world.supply.firstToken + n :=
      congrArg Identifier.bits htoken
    omega

/-- What a menu makes of an answer. -/
structure Answers (payload : Payload) (result : (Outcome × Run) × World) : Prop where
  /-- The run goes to where a choice leads, or to the fallback, or, only where there are no choices,
  to the successor. -/
  goes : ∀ node, result.1.1 = .go node →
    (∃ choice ∈ menu.choices, choice.next = node) ∨ menu.fallback = some node ∨
      (menu.choices = [] ∧ around.successor = some node)
  /-- Only a reply can end the flow. -/
  completes : result.1.1 = .complete →
    menu.choices = [] ∧ around.successor = none ∧ ∃ text, payload = .reply text
  /-- A reply goes to the first choice that it names. -/
  first : ∀ text earlier choice later, payload = .reply text →
    menu.choices = earlier ++ choice :: later → choice.Named text →
    (∀ other ∈ earlier, ¬other.Named text) → result.1.1 = .go choice.next
  /-- Replies that say the same are dealt with alike. -/
  alike : ∀ text text', payload = .reply text → Text.SameReply text text' →
    (world.act (menu.step around run (some (.reply text')))).1.1 = result.1.1
  /-- Where there are no choices every reply is accepted. -/
  accepts : ∀ text, payload = .reply text → menu.choices = [] → result.1.1 = around.advance
  /-- The menu pauses again if nothing matches and there is no fallback, and only then. -/
  pauses : (∃ suspension, result.1.1 = .suspend suspension) ↔
    menu.Unmatched around payload ∧ menu.fallback = none
  again : ∀ suspension, result.1.1 = .suspend suspension →
    menu.WaitsAgain around world run payload suspension result
  /-- Otherwise nothing of the run is different but the menu's variable. -/
  taken : (∀ suspension, result.1.1 ≠ .suspend suspension) → result.2 = world ∧
    ∃ kept, menu.Takes around payload result.1.1 kept ∧
      Run.Sets menu.saveAs kept run result.1.2

/-- Where a reply leads depends only on what it says. -/
theorem act_step_same {text text' : String} (h : Text.SameReply text text') :
    (world.act (menu.step around run (some (.reply text')))).1.1 =
      (world.act (menu.step around run (some (.reply text)))).1.1 := by
  have hfits : (fun choice : Choice => choice.fits (Text.trim text')) =
      fun choice => choice.fits (Text.trim text) := by
    funext choice
    simp only [Choice.fits, sameWords, h.asciiLower_trim]
  have hunmatched (reply reply' : String) : (world.act (menu.unmatched around run reply')).1.1 =
      (world.act (menu.unmatched around run reply)).1.1 := by
    unfold unmatched
    cases menu.fallback with
    | some node => rfl
    | none =>
        dsimp only
        rw [World.act_bind, menu.act_wait, World.act_bind, menu.act_wait]
        rfl
  unfold step takeReply
  dsimp only
  rw [hfits]
  cases menu.choices.isEmpty with
  | true => rfl
  | false =>
      rw [if_neg Bool.false_ne_true, if_neg Bool.false_ne_true]
      cases menu.choices.find? fun choice => choice.fits (Text.trim text) with
      | some choice => rfl
      | none => exact hunmatched _ _

variable {menu around}

theorem find?_of_first {text : String} {choice : Choice} {earlier later : List Choice}
    (hsplit : menu.choices = earlier ++ choice :: later) (hnamed : choice.Named text)
    (hfirst : ∀ other ∈ earlier, ¬other.Named text) :
    menu.choices.find? (·.fits (Text.trim text)) = some choice := by
  refine List.find?_eq_some_iff_append.mpr
    ⟨Choice.fits_trim.mpr hnamed, earlier, later, hsplit, fun other hother => ?_⟩
  simpa using mt Choice.fits_trim.mp (hfirst other hother)

/-- There is only one first choice that a reply names, and the reply goes there. -/
theorem Takes.first_reply {text : String} {choice : Choice} {earlier later : List Choice}
    {outcome : Outcome} {kept : Option String}
    (h : menu.Takes around (.reply text) outcome kept)
    (hsplit : menu.choices = earlier ++ choice :: later) (hnamed : choice.Named text)
    (hfirst : ∀ other ∈ earlier, ¬other.Named text) : outcome = .go choice.next := by
  cases h with
  | anything none => simp [none] at hsplit
  | reply split named first =>
      have hsame := (find?_of_first split named first).symm.trans
        (find?_of_first hsplit hnamed hfirst)
      rw [Option.some.inj hsame]
  | fallback unmatched place other => exact absurd hnamed (unmatched.2 _ (by simp [hsplit]))

theorem Takes.goes {payload : Payload} {node : NodeId} {kept : Option String}
    (h : menu.Takes around payload (.go node) kept) :
    (∃ choice ∈ menu.choices, choice.next = node) ∨ menu.fallback = some node ∨
      (menu.choices = [] ∧ around.successor = some node) := by
  generalize houtcome : Outcome.go node = outcome at h
  cases h with
  | anything none =>
      refine .inr (.inr ⟨none, ?_⟩)
      unfold Surroundings.advance at houtcome
      split at houtcome <;> cases houtcome
      assumption
  | reply split named first =>
      cases houtcome
      exact .inl ⟨_, by simp [split], rfl⟩
  | select split first =>
      cases houtcome
      exact .inl ⟨_, by simp [split], rfl⟩
  | direct unchosen place =>
      cases houtcome
      exact .inr place
  | fallback unmatched place other =>
      cases houtcome
      exact .inr (.inl place)

theorem Takes.completes {payload : Payload} {kept : Option String}
    (h : menu.Takes around payload .complete kept) :
    menu.choices = [] ∧ around.successor = none ∧ ∃ text, payload = .reply text := by
  generalize houtcome : Outcome.complete = outcome at h
  cases h with
  | anything none =>
      refine ⟨none, ?_, _, rfl⟩
      unfold Surroundings.advance at houtcome
      split at houtcome <;> cases houtcome
      assumption
  | reply | select | direct | fallback => cases houtcome

theorem Takes.accepts {text : String} {outcome : Outcome} {kept : Option String}
    (h : menu.Takes around (.reply text) outcome kept) (hnone : menu.choices = []) :
    outcome = around.advance := by
  cases h with
  | anything none => rfl
  | reply split named first => simp [hnone] at split
  | fallback unmatched place other => exact absurd hnone unmatched.1

variable {world run}

/-- An answer that is taken has the promised effect. -/
theorem Takes.answers {payload : Payload} {outcome : Outcome} {kept : Option String}
    (h : menu.Takes around payload outcome kept)
    (halike : ∀ text text', payload = .reply text → Text.SameReply text text' →
      (world.act (menu.step around run (some (.reply text')))).1.1 = outcome) :
    menu.Answers around world run payload ((outcome, kept.elim run (menu.keep run)), world) := by
  have hleads : ∀ suspension, outcome ≠ .suspend suspension := by
    rintro suspension rfl
    rcases h.leads with hend | ⟨node, hgo⟩
    · cases hend
    · cases hgo
  exact {
    goes := by
      rintro node rfl
      exact h.goes
    completes := by
      rintro rfl
      exact h.completes
    first := by
      rintro text earlier choice later rfl hsplit hnamed hfirst
      exact h.first_reply hsplit hnamed hfirst
    alike := halike
    accepts := by
      rintro text rfl hnone
      exact h.accepts hnone
    pauses := by
      refine ⟨?_, fun hunmatched => absurd hunmatched h.matched⟩
      rintro ⟨suspension, hpause⟩
      exact absurd hpause (hleads suspension)
    again := fun suspension hpause => absurd hpause (hleads suspension)
    taken := fun _ => ⟨rfl, kept, h, menu.sets_keep run kept⟩ }

/-- An answer that matches nothing where there is no fallback has the promised effect. -/
theorem Retries.answers {payload : Payload} {result : (Outcome × Run) × World}
    (h : menu.Retries around world run payload result)
    (hunmatched : menu.Unmatched around payload) (hfallback : menu.fallback = none)
    (halike : ∀ text text', payload = .reply text → Text.SameReply text text' →
      (world.act (menu.step around run (some (.reply text')))).1.1 = result.1.1) :
    menu.Answers around world run payload result := by
  have hpause : ∃ suspension, result.1.1 = .suspend suspension := ⟨_, by rw [h]⟩
  have hpauses {outcome : Outcome} (houtcome : result.1.1 = outcome) :
      ∃ suspension, outcome = .suspend suspension := houtcome ▸ hpause
  exact {
    goes := by
      intro node hgo
      obtain ⟨suspension, hsame⟩ := hpauses hgo
      cases hsame
    completes := by
      intro hend
      obtain ⟨suspension, hsame⟩ := hpauses hend
      cases hsame
    first := by
      rintro text earlier choice later rfl hsplit hnamed -
      exact absurd hnamed (hunmatched.2 choice (by simp [hsplit]))
    alike := halike
    accepts := by
      rintro text rfl hnone
      exact absurd hnone hunmatched.1
    pauses := ⟨fun _ => ⟨hunmatched, hfallback⟩, fun _ => hpause⟩
    again := fun suspension hsame => h.waitsAgain hsame
    taken := by
      intro hnever
      obtain ⟨suspension, hsame⟩ := hpause
      exact absurd hsame (hnever suspension) }

variable (menu around world run)

/-- Whatever a menu is answered, the answer has exactly the effect that is promised of it. -/
theorem answer_has_promised_effect {payload : Payload} (hpayload : payload.isTimer = false) :
    menu.Answers around world run payload
      (world.act (menu.step around run (some payload))) := by
  have halike (text text' : String) (htext : payload = .reply text)
      (hsame : Text.SameReply text text') :
      (world.act (menu.step around run (some (.reply text')))).1.1 =
        (world.act (menu.step around run (some payload))).1.1 := by
    subst htext
    exact menu.act_step_same around world run hsame
  rcases menu.act_step_answer around world run hpayload with
    ⟨outcome, kept, htakes, hstep⟩ | ⟨hunmatched, hfallback, hretries⟩
  · rw [hstep] at halike ⊢
    exact htakes.answers halike
  · exact hretries.answers hunmatched hfallback halike

/-- Of two choices that a reply names, one by its label and one by its key, it goes to the first. -/
theorem answer_has_promised_effect_sample :
    let menu : Menu := ⟨none,
      [⟨"1", some "Yes", "agree"⟩, ⟨"yes", none, "other"⟩, ⟨"2", none, "leave"⟩],
      some "answer", none, none, .proceed⟩
    let around : Surroundings := ⟨⟨0, 0⟩, none, 1, none, ⟨none, fun _ run => pure (.ok run)⟩⟩
    let run := Run.fresh ⟨1⟩ { flow := "inner", contactId := "ann" } "ask" ⟨0, 0⟩
    (Payload.reply " YES ").isTimer = false ∧
      (World.sample.act (menu.step around run (some (.reply " YES ")))).1.1 = .go "agree" := by
  intro menu around run
  have hpayload : (Payload.reply " YES ").isTimer = false := rfl
  have hanswers := menu.answer_has_promised_effect around World.sample run hpayload
  refine ⟨hpayload, hanswers.first " YES " [] _ _ rfl rfl ?_ fun _ hother => nomatch hother⟩
  exact .inr ⟨"Yes", rfl, by decide +kernel⟩

end Menu

end Dialogue
