import Dialogue.Proofs.Step.Answer
import Dialogue.Proofs.Step.Effect

/-!
# What an answer leaves behind

A node of a standard type changes the variables of a run in one way only: a menu
keeps the answer that it takes.  What is kept can be told from the menu, the
successor of its node and the payload, before the step is taken.
-/

namespace Dialogue

namespace Menu

/-- What a menu keeps of an answer, where its node has a successor or none. -/
def kept? (menu : Menu) (successor : Option NodeId) : Payload → Option String
  | .reply text =>
    if menu.choices.isEmpty || menu.choices.any (·.fits (Text.trim text)) ||
        menu.fallback.isSome then
      some (Text.trim text)
    else none
  | .select node =>
    match menu.choices.find? (·.next == node) with
    | some choice => some choice.key
    | none =>
      if menu.fallback == some node || (menu.choices.isEmpty && successor == some node) then none
      else menu.fallback.map fun _ => node
  | .elapsed => none

/-- A menu takes a reply: it has no choices, or the reply names one, or there is a fallback. -/
def Accepts (menu : Menu) (text : String) : Prop :=
  menu.choices = [] ∨ (∃ choice ∈ menu.choices, choice.Named text) ∨ menu.fallback.isSome = true

variable {menu : Menu} {around : Surroundings}

/-- Of a reply that is taken the text is kept, without the blanks around it. -/
theorem kept?_reply {text : String} (h : menu.Accepts text) (successor : Option NodeId) :
    menu.kept? successor (.reply text) = some (Text.trim text) := by
  apply if_pos
  simp only [Bool.or_eq_true, List.isEmpty_iff, List.any_eq_true, Choice.fits_trim]
  rcases h with hnone | hnamed | hfallback
  · exact .inl (.inl hnone)
  · exact .inl (.inr hnamed)
  · exact .inr hfallback

/-- An answer is kept as the menu says. -/
theorem Takes.kept {payload : Payload} {outcome : Outcome} {kept : Option String}
    (h : menu.Takes around payload outcome kept) : menu.kept? around.successor payload = kept := by
  cases h with
  | anything none => exact kept?_reply (.inl none) _
  | reply split named first => exact kept?_reply (.inr (.inl ⟨_, by simp [split], named⟩)) _
  | @select choice earlier later split first =>
      have hfound : menu.choices.find? (·.next == choice.next) = some choice :=
        List.find?_eq_some_iff_append.mpr
          ⟨by simp, earlier, later, split, by simpa using first⟩
      simp [kept?, hfound]
  | direct unchosen place =>
      have hnone : menu.choices.find? (·.next == _) = none :=
        List.find?_eq_none.mpr (by simpa using unchosen)
      simp only [kept?, hnone]
      exact if_pos (by simpa using place)
  | @fallback payload node unmatched place other =>
      have hplace : menu.fallback.isSome = true := by simp [place]
      cases payload with
      | reply text => exact kept?_reply (.inr (.inr hplace)) _
      | select chosen =>
          have hnone : menu.choices.find? (·.next == chosen) = none :=
            List.find?_eq_none.mpr (by simpa using unmatched.1)
          have hother : ¬node = chosen := fun heq => other (by rw [heq])
          have hdirect := unmatched.2
          simp only [kept?, hnone]
          rw [if_neg (by simpa [place, hother] using hdirect), place]
          rfl
      | elapsed => exact unmatched.elim

/-- An answer that is not taken is not kept. -/
theorem Unmatched.kept? {payload : Payload} (h : menu.Unmatched around payload)
    (hfallback : menu.fallback = none) : menu.kept? around.successor payload = none := by
  cases payload with
  | reply text =>
      apply if_neg
      simpa [hfallback, h.1, Choice.fits_trim] using h.2
  | select node =>
      have hnone : menu.choices.find? (·.next == node) = none :=
        List.find?_eq_none.mpr (by simpa using h.1)
      simp [Menu.kept?, hnone, hfallback]
  | elapsed => rfl

end Menu

namespace Behaviour

/-- The variable that a step writes, with the answer that it writes in it. -/
def written? (behaviour : Behaviour) (successor : Option NodeId) (payload : Option Payload) :
    Option (String × String) :=
  match behaviour with
  | .menu question => do return (← question.saveAs, ← question.kept? successor (← payload))
  | _ => none

/-- Nothing is written without an answer. -/
theorem written?_none (behaviour : Behaviour) (successor : Option NodeId) :
    behaviour.written? successor none = none := by
  cases behaviour with
  | menu question => cases hname : question.saveAs <;> simp [written?, hname]
  | _ => rfl

end Behaviour

/-- Variables with an answer written in one of them, if there is something to write. -/
def Fields.written (vars : Values) : Option (String × String) → Values
  | some (name, answer) => vars.insert name (.string answer)
  | none => vars

theorem Fields.Ascending.written {vars : Values} (h : vars.Ascending)
    (answer : Option (String × String)) : (Fields.written vars answer).Ascending := by
  cases answer with
  | none => exact h
  | some answer => exact h.insert _ _

/-- Another variable than the one that is written stays as it is. -/
theorem Fields.get?_written {vars : Values} {name : String} {answer : Option (String × String)}
    (h : ∀ text, answer ≠ some (name, text)) :
    (Fields.written vars answer).get? name = vars.get? name := by
  cases answer with
  | none => rfl
  | some answer =>
      refine (Fields.get?_insert _ _ _ _).trans (if_neg ?_)
      rintro rfl
      exact h _ rfl

namespace Menu

/-- A menu writes the answer that it keeps. -/
theorem vars_keep (menu : Menu) (run : Run) (kept : Option String) :
    (kept.elim run (menu.keep run)).vars =
      Fields.written run.vars (do return (← menu.saveAs, ← kept)) := by
  unfold keep
  cases kept with
  | none => cases menu.saveAs <;> rfl
  | some answer => cases menu.saveAs <;> rfl

theorem step_written (menu : Menu) (around : Surroundings) (world : World) (run : Run)
    (payload : Option Payload) :
    (world.act (menu.step around run payload)).1.2.vars =
      Fields.written run.vars ((Behaviour.menu menu).written? around.successor payload) := by
  cases payload with
  | none =>
      rw [Behaviour.written?_none]
      rcases (@step_steps around none menu world run).may with
        hscripted | ⟨-, hsame | ⟨_, _, _, -, -, hanswer, -⟩⟩
      · cases hscripted
      · exact hsame
      · simp at hanswer
  | some payload =>
      by_cases hpayload : payload.isTimer = true
      · cases payload with
        | elapsed => cases hname : menu.saveAs <;> simp [Behaviour.written?, kept?, hname] <;> rfl
        | _ => simp [Payload.isTimer] at hpayload
      · rcases menu.act_step_answer around world run (by simpa using hpayload) with
          ⟨outcome, kept, htakes, hstep⟩ | ⟨hunmatched, hfallback, hretries⟩
        · rw [hstep, vars_keep, ← htakes.kept]
          rfl
        · rw [hretries]
          have hkept := hunmatched.kept? hfallback
          cases hname : menu.saveAs <;> simp [Behaviour.written?, hkept, hname] <;> rfl

end Menu

/-- A step of a node of a standard type writes what can be told beforehand, and nothing else. -/
theorem Behaviour.step_written {behaviour : Behaviour} (hplain : behaviour.isSubflow = false)
    (hstandard : behaviour.isScripted = false) (around : Surroundings) (world : World) (run : Run)
    (payload : Option Payload) :
    (world.act (behaviour.step around run payload)).1.2.vars =
      Fields.written run.vars (behaviour.written? around.successor payload) := by
  by_cases hmenu : ∃ menu, behaviour = .menu menu
  · obtain ⟨menu, rfl⟩ := hmenu
    exact menu.step_written around world run payload
  · have hnone : behaviour.written? around.successor payload = none := by
      cases behaviour with
      | menu menu => exact absurd ⟨menu, rfl⟩ hmenu
      | _ => rfl
    rw [hnone]
    rcases (behaviour.step_steps hplain around world run payload).may with
      hscripted | ⟨-, hsame | ⟨menu, _, _, hbehaviour, -⟩⟩
    · rw [hstandard] at hscripted
      cases hscripted
    · exact hsame
    · exact absurd ⟨menu, hbehaviour⟩ hmenu

end Dialogue
