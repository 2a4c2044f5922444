import Dialogue.Proofs.Step.Visit

/-!
# What a step cannot see

A step of a node that runs no other flow does the same whatever is nested in the
run.
-/

namespace Dialogue

/-- The run with other nested levels. -/
def Run.withNested (run : Run) (nested : List Level) : Run := { run with nested }

/-- A result with other nested levels. -/
def underNested {α : Type} (nested : List Level) (result : (α × Run) × World) :
    (α × Run) × World :=
  ((result.1.1, result.1.2.withNested nested), result.2)

variable {around : Surroundings} (nested : List Level) (world : World) (run : Run)

theorem act_deliver_withNested (part : Nat) (message : Message) (onError : OnError) :
    world.act (around.deliver (run.withNested nested) part message onError) =
      underNested nested (world.act (around.deliver run part message onError)) := by
  have hcontact : (run.withNested nested).contactId = run.contactId := rfl
  rw [around.act_deliver, around.act_deliver, hcontact]
  rcases world.send run.contactId message with ⟨result, after⟩
  cases result <;> rfl

theorem Sequence.act_sendFrom_withNested (sequence : Sequence) (parts : List Part)
    (index : Nat) :
    world.act (sequence.sendFrom around parts index (run.withNested nested)) =
      underNested nested (world.act (sequence.sendFrom around parts index run)) := by
  induction parts generalizing index world run with
  | nil =>
      unfold sendFrom
      cases sequence.trailing <;> rfl
  | cons part rest ih =>
      unfold sendFrom
      have hdeliver : world.act (around.deliver (run.withNested nested) index
          (message around (run.withNested nested).toLevel part) sequence.onError) =
            underNested nested (world.act (around.deliver run index
              (message around run.toLevel part) sequence.onError)) :=
        act_deliver_withNested nested world run index _ _
      rw [World.act_bind, World.act_bind, hdeliver]
      rcases world.act (around.deliver run index (message around run.toLevel part)
        sequence.onError) with ⟨⟨failed, delivered⟩, after⟩
      cases failed with
      | some outcome => rfl
      | none =>
          dsimp only [underNested]
          cases part.delay.filter (0 < ·) with
          | some delay => rfl
          | none => exact ih after delivered _

theorem Menu.act_unmatched_withNested (menu : Menu) (answer : String) :
    world.act (menu.unmatched around (run.withNested nested) answer) =
      underNested nested (world.act (menu.unmatched around run answer)) := by
  unfold unmatched keep
  cases menu.fallback with
  | none => rfl
  | some node => cases menu.saveAs <;> rfl

theorem Menu.act_step_withNested (menu : Menu) (payload : Option Payload) :
    world.act (menu.step around (run.withNested nested) payload) =
      underNested nested (world.act (menu.step around run payload)) := by
  have hkeep (answer : String) :
      menu.keep (run.withNested nested) answer = (menu.keep run answer).withNested nested := by
    unfold keep
    cases menu.saveAs <;> rfl
  unfold step
  split
  · unfold takeReply
    dsimp only
    split
    · rw [hkeep]
      rfl
    · split
      · rw [hkeep]
        rfl
      · exact act_unmatched_withNested nested world run menu _
  · unfold takeSelection
    split
    · rw [hkeep]
      rfl
    · split
      · rfl
      · exact act_unmatched_withNested nested world run menu _
  · rfl
  · cases menu.prompt with
    | none => rfl
    | some prompt =>
        have hdeliver : world.act (around.deliver (run.withNested nested) 0
            ⟨.text, menu.promptText around (run.withNested nested).toLevel prompt, none⟩
            menu.onError) = underNested nested (world.act (around.deliver run 0
              ⟨.text, menu.promptText around run.toLevel prompt, none⟩ menu.onError)) :=
          act_deliver_withNested nested world run 0 _ _
        dsimp only
        rw [World.act_bind, World.act_bind, hdeliver]
        rcases world.act (around.deliver run 0
          ⟨.text, menu.promptText around run.toLevel prompt, none⟩ menu.onError) with
          ⟨⟨failed, delivered⟩, after⟩
        cases failed <;> rfl

theorem act_assignStep_withNested (queue : String) (onError : OnError) :
    world.act (assignStep queue onError around (run.withNested nested)) =
      underNested nested (world.act (assignStep queue onError around run)) := by
  have hrender : around.render (run.withNested nested).toLevel queue =
      around.render run.toLevel queue := rfl
  have hcontact : (run.withNested nested).contactId = run.contactId := rfl
  unfold assignStep
  dsimp only
  rw [hrender, hcontact]
  split <;>
  · rw [World.act_bind, World.act_bind]
    generalize world.act _ = asked
    rcases asked with ⟨result, after⟩
    cases result with
    | ok _ => rfl
    | error e => cases onError <;> rfl

theorem Sequence.act_step_withNested (sequence : Sequence) :
    world.act (sequence.step around (run.withNested nested)) =
      underNested nested (world.act (sequence.step around run)) := by
  have hcursor : (run.withNested nested).cursor = run.cursor := rfl
  unfold step
  rw [hcursor]
  split
  · rfl
  · exact sequence.act_sendFrom_withNested nested world run _ _

theorem act_delayStep_withNested (millis : Nat) (payload : Option Payload) :
    world.act (delayStep millis around (run.withNested nested) payload) =
      underNested nested (world.act (delayStep millis around run payload)) := by
  unfold delayStep
  split <;> rfl

theorem Script.act_step_withNested (script : Script) (payload : Option Payload) :
    world.act (script.step around (run.withNested nested) payload) =
      underNested nested (world.act (script.step around run payload)) := by
  unfold step
  dsimp only
  cases script.act with
  | sleep millis =>
      dsimp only
      split <;> rfl
  | _ => rfl

/-- A step that runs no other flow leaves what is nested alone and does not look at it. -/
theorem Behaviour.act_step_withNested {behaviour : Behaviour}
    (h : behaviour.isSubflow = false) (payload : Option Payload) :
    world.act (behaviour.step around (run.withNested nested) payload) =
      underNested nested (world.act (behaviour.step around run payload)) := by
  cases behaviour with
  | subflow flow => simp [isSubflow] at h
  | content sequence => exact sequence.act_step_withNested nested world run
  | menu question => exact question.act_step_withNested nested world run payload
  | delay millis => exact act_delayStep_withNested nested world run millis payload
  | assignQueue queue onError =>
      simp only [step]
      exact act_assignStep_withNested nested world run queue onError
  | scripted script =>
      simp only [step]
      exact script.act_step_withNested nested world run payload
  | _ => rfl

end Dialogue
