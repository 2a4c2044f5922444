import Dialogue.Proofs.Step.Effect

/-!
# What a step may fail with

A node of a standard type fails for reasons outside of the engine: a message could
not be sent, a contact not be handed over, no rule has matched.  The one exception
is a menu that is told that time has passed, which nobody should tell it.
-/

namespace Dialogue

/-- An outcome that is a failure only of some kinds. -/
inductive Outcome.FailsAs (may : FailureKind → Prop) : Outcome → Prop
  | go {node} : FailsAs may (.go node)
  | suspend {suspension} : FailsAs may (.suspend suspension)
  | complete : FailsAs may .complete
  | fail {kind message} (allowed : may kind) : FailsAs may (.fail kind message)

/-- A failure that is not an internal one. -/
def FailureKind.IsExternal (kind : FailureKind) : Prop := kind ≠ .internal

instance (kind : FailureKind) : Decidable kind.IsExternal :=
  inferInstanceAs (Decidable (kind ≠ .internal))

theorem Outcome.FailsAs.mono {may may' : FailureKind → Prop} {outcome : Outcome}
    (h : outcome.FailsAs may) (himp : ∀ kind, may kind → may' kind) : outcome.FailsAs may' := by
  cases h with
  | go => exact .go
  | suspend => exact .suspend
  | complete => exact .complete
  | fail allowed => exact .fail (himp _ allowed)

namespace Behaviour

/-- The failures that a node of a standard type may have by itself. -/
def MayFail : Behaviour → FailureKind → Prop
  | .content _, kind | .menu _, kind => kind = .dispatch
  | .condition .., kind => kind = .noMatchingBranch
  | .assignQueue .., kind => kind = .assignment
  | _, _ => False

theorem MayFail.isExternal {behaviour : Behaviour} {kind : FailureKind}
    (h : behaviour.MayFail kind) : kind.IsExternal := by
  rintro rfl
  cases behaviour <;> simp [MayFail] at h

/-- A payload that a node can deal with: a menu is not told that time has passed. -/
def Takes (behaviour : Behaviour) (payload : Option Payload) : Prop :=
  ∀ menu, behaviour = .menu menu → payload ≠ some .elapsed

end Behaviour

namespace Surroundings

variable {may : FailureKind → Prop} (around : Surroundings)

theorem advance_failsAs : around.advance.FailsAs may := by
  unfold advance
  split
  · exact .go
  · exact .complete

theorem act_sleep_failsAs (world : World) (run : Run) (millis : Nat) :
    (world.act (do return (← around.sleep millis, run))).1.1.FailsAs may := by
  rw [World.act_bind, act_sleep]
  exact .suspend

/-- A delivery that fails the run does so because the message could not be sent. -/
theorem act_deliver_failsAs (world : World) (run : Run) (part : Nat) (message : Message)
    (onError : OnError) (outcome : Outcome)
    (h : (world.act (around.deliver run part message onError)).1.1 = some outcome) :
    outcome.FailsAs (· = .dispatch) := by
  rw [act_deliver] at h
  revert h
  rcases world.send run.contactId message with ⟨result, after⟩
  intro h
  cases result with
  | ok id => cases h
  | error e =>
      cases onError with
      | proceed => cases h
      | abort =>
          obtain rfl := Option.some.inj h
          exact .fail rfl

end Surroundings

variable {around : Surroundings}

theorem Sequence.act_sendFrom_failsAs (sequence : Sequence) (parts : List Part) (index : Nat)
    (world : World) (run : Run) :
    (world.act (sequence.sendFrom around parts index run)).1.1.FailsAs (· = .dispatch) := by
  induction parts generalizing index world run with
  | nil =>
      unfold sendFrom
      cases sequence.trailing with
      | none => exact around.advance_failsAs
      | some delay => exact around.act_sleep_failsAs world _ delay
  | cons part rest ih =>
      unfold sendFrom
      rw [World.act_bind]
      have hfailed := around.act_deliver_failsAs world run index (message around run.toLevel part)
        sequence.onError
      revert hfailed
      rcases world.act (around.deliver run index (message around run.toLevel part)
        sequence.onError) with ⟨⟨failed, after⟩, earlier⟩
      intro hfailed
      cases failed with
      | some outcome => exact hfailed outcome rfl
      | none =>
          dsimp only
          cases part.delay.filter (0 < ·) with
          | none => exact ih _ _ _
          | some delay => exact around.act_sleep_failsAs earlier _ delay

namespace Menu

variable (menu : Menu) {may : FailureKind → Prop} (world : World) (run : Run)

theorem act_wait_failsAs (after : Run) :
    (world.act (do return (← menu.wait around run, after))).1.1.FailsAs may := by
  rw [World.act_bind, act_wait]
  exact .suspend

theorem act_unmatched_failsAs (answer : String) :
    (world.act (menu.unmatched around run answer)).1.1.FailsAs may := by
  unfold unmatched
  split
  · exact .go
  · exact menu.act_wait_failsAs world _ _

theorem act_step_failsAs {payload : Option Payload} (htakes : payload ≠ some .elapsed) :
    (world.act (menu.step around run payload)).1.1.FailsAs (· = .dispatch) := by
  unfold step
  split
  · unfold takeReply
    dsimp only
    split
    · exact around.advance_failsAs
    · split
      · exact .go
      · exact menu.act_unmatched_failsAs world run _
  · unfold takeSelection
    split
    · exact .go
    · split
      · exact .go
      · exact menu.act_unmatched_failsAs world run _
  · exact absurd rfl htakes
  · split
    · exact menu.act_wait_failsAs world run run
    · next prompt _ =>
      rw [World.act_bind]
      have hfailed := around.act_deliver_failsAs world run 0
        ⟨.text, menu.promptText around run.toLevel prompt, none⟩ menu.onError
      revert hfailed
      rcases world.act (around.deliver run 0
        ⟨.text, menu.promptText around run.toLevel prompt, none⟩ menu.onError) with
        ⟨⟨failed, after⟩, earlier⟩
      intro hfailed
      cases failed with
      | some outcome => exact hfailed outcome rfl
      | none => exact menu.act_wait_failsAs earlier after after

end Menu

theorem act_assignStep_failsAs (around : Surroundings) (queue : String) (onError : OnError)
    (world : World) (run : Run) :
    (world.act (assignStep queue onError around run)).1.1.FailsAs (· = .assignment) := by
  unfold assignStep
  dsimp only
  -- With or without asking anyone, the answer is dealt with in the same way.
  split <;>
  · rw [World.act_bind]
    generalize world.act _ = asked
    rcases asked with ⟨result, after⟩
    cases result with
    | ok _ => exact around.advance_failsAs
    | error e =>
        cases onError with
        | proceed => exact around.advance_failsAs
        | abort => exact .fail rfl

/-- A node of a standard type that runs no other flow fails in its own ways only, if it can deal
with the payload that it is given. -/
theorem Behaviour.act_step_failsAs {behaviour : Behaviour} (hplain : behaviour.isSubflow = false)
    (hstandard : behaviour.isScripted = false) {payload : Option Payload}
    (htakes : behaviour.Takes payload) (world : World) (run : Run) :
    (world.act (behaviour.step around run payload)).1.1.FailsAs behaviour.MayFail := by
  cases behaviour with
  | start => exact around.advance_failsAs
  | content sequence =>
      change (world.act (sequence.step around run)).1.1.FailsAs (· = .dispatch)
      unfold Sequence.step
      split
      · exact around.advance_failsAs
      · exact sequence.act_sendFrom_failsAs _ _ world run
  | menu question => exact question.act_step_failsAs world run (htakes question rfl)
  | delay millis =>
      change (world.act (delayStep millis around run payload)).1.1.FailsAs _
      unfold delayStep
      split
      · exact around.advance_failsAs
      · exact around.act_sleep_failsAs world run millis
  | condition rules otherwise =>
      change (conditionStep rules otherwise around run).FailsAs (· = .noMatchingBranch)
      unfold conditionStep
      split
      · exact .go
      · exact .fail rfl
  | assignQueue queue onError =>
      have hstep : (Behaviour.assignQueue queue onError).step around run payload =
          assignStep queue onError around run := rfl
      rw [hstep]
      exact act_assignStep_failsAs around queue onError world run
  | subflow flow => simp [isSubflow] at hplain
  | scripted script => simp [isScripted] at hstandard
  | unknown kind => exact around.advance_failsAs

end Dialogue
