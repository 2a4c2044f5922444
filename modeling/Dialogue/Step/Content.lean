import Dialogue.Step.Basic

/-!
# Sending a sequence of messages

How far a sequence has got is kept in the cursor of the run, so that a resumed
step goes on with the first part that was not sent.  One place beyond the last
part marks that only the pause after it was outstanding.
-/

namespace Dialogue.Sequence

/-- The cursor of a run that waits after the last part. -/
def afterAll (sequence : Sequence) : Nat := sequence.parts.length + 1

/-- A part as it is sent. -/
def message (around : Surroundings) (level : Level) (part : Part) : Message :=
  ⟨part.kind, around.render level part.value, part.caption.map (around.render level)⟩

/-- Sends parts from one on, which is number `index`. -/
def sendFrom (sequence : Sequence) (around : Surroundings) :
    List Part → Nat → Run → Acting (Outcome × Run)
  | [], _, run => do
    match sequence.trailing with
    | none => return (around.advance, run)
    | some delay =>
      return (← around.sleep delay, run.onLevel fun l => { l with cursor := sequence.afterAll })
  | part :: rest, index, run => do
    let content := message around run.toLevel part
    let (failed, run) ← around.deliver run index content sequence.onError
    match failed with
    | some outcome => return (outcome, run)
    | none =>
      match part.delay.filter (0 < ·) with
      | some delay =>
        return (← around.sleep delay, run.onLevel fun l => { l with cursor := index + 1 })
      | none => sequence.sendFrom around rest (index + 1) run

/-- Sends what has not been sent. -/
def step (sequence : Sequence) (around : Surroundings) (run : Run) : Acting (Outcome × Run) :=
  if sequence.afterAll ≤ run.cursor then return (around.advance, run)
  else sequence.sendFrom around (sequence.parts.drop run.cursor) run.cursor run

end Dialogue.Sequence
