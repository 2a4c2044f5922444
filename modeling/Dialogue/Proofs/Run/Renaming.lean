import Dialogue.Step.Subflow

/-!
# Runs under other identifiers

Runs and suspensions have identifiers that mean nothing beyond telling them
apart.  A renaming puts others in their place, and whatever is done with a run
comes to the same with the renamed run.
-/

namespace Dialogue

/-- Other identifiers for runs and other tokens for suspensions. -/
structure Renaming where
  run : Identifier → Identifier
  token : Identifier → Identifier

/-- A suspension with another token. -/
def Suspension.renamed (suspension : Suspension) (ρ : Renaming) : Suspension :=
  { suspension with token := ρ.token suspension.token }

/-- An outcome with another token, if it pauses. -/
def Outcome.renamed (outcome : Outcome) (ρ : Renaming) : Outcome :=
  match outcome with
  | .suspend suspension => .suspend (suspension.renamed ρ)
  | .go node => .go node
  | .complete => .complete
  | .fail kind message => .fail kind message

/-- A note with another identifier, if it is about a nested run. -/
def Note.renamed (note : Note) (ρ : Renaming) : Note :=
  match note with
  | .subflow flow run status nodes => .subflow flow (ρ.run run) status nodes
  | other => other

/-- A visit with other identifiers in its notes. -/
def Visit.renamed (visit : Visit) (ρ : Renaming) : Visit :=
  { visit with notes := visit.notes.map (·.renamed ρ) }

/-- A history with other identifiers in its notes. -/
def History.renamed (history : History) (ρ : Renaming) : History := history.map (·.renamed ρ)

/-- A level with other identifiers. -/
def Level.renamed (level : Level) (ρ : Renaming) : Level :=
  { level with
    id := ρ.run level.id
    parent := level.parent.map ρ.run
    history := level.history.renamed ρ
    suspension := level.suspension.map (·.renamed ρ) }

/-- A run with other identifiers on all its levels. -/
def Run.renamed (run : Run) (ρ : Renaming) : Run :=
  { run.toLevel.renamed ρ with nested := run.nested.map (·.renamed ρ) }

variable (ρ : Renaming)

/-! ## Histories -/

namespace History

theorem renamed_enter (history : History) (node : NodeId) (time : Instant) :
    (history.enter node time).renamed ρ = (history.renamed ρ).enter node time := by
  simp [enter, renamed, Visit.renamed]

theorem renamed_note (history : History) (remark : Note) :
    (history.note remark).renamed ρ = (history.renamed ρ).note (remark.renamed ρ) := by
  induction history with
  | nil => rfl
  | cons visit rest ih =>
      cases rest with
      | nil => simp [note, renamed, Visit.renamed]
      | cons next rest => exact congrArg (List.cons (visit.renamed ρ)) ih

theorem nodes_renamed (history : History) : (history.renamed ρ).nodes = history.nodes := by
  simp [nodes, renamed, Visit.renamed]

end History

/-! ## Levels -/

namespace Level

variable (level : Level)

theorem renamed_enter (node : NodeId) (time : Instant) :
    (level.enter node time).renamed ρ = (level.renamed ρ).enter node time := by
  simp only [enter, renamed, History.renamed_enter]

theorem renamed_note (remark : Note) :
    (level.note remark).renamed ρ = (level.renamed ρ).note (remark.renamed ρ) := by
  simp only [note, renamed, History.renamed_note]

theorem renamed_fail (kind : FailureKind) (message : String) (time : Instant) :
    (level.fail kind message time).renamed ρ = (level.renamed ρ).fail kind message time := by
  have hnote := level.renamed_note ρ (.failure kind message)
  have hhistory := congrArg Level.history hnote
  simp only [renamed, note, Note.renamed] at hhistory
  simp [fail, renamed, note, hhistory]

theorem renamed_absorb (child : Level) :
    (level.absorb child).renamed ρ = (level.renamed ρ).absorb (child.renamed ρ) := by
  simp only [absorb, renamed_note, Note.renamed]
  simp only [renamed, History.nodes_renamed]

end Level

/-! ## Runs -/

namespace Run

variable (run : Run)

/-- Work on the outermost level that does not look at identifiers does the same under others. -/
theorem renamed_onLevel {f g : Level → Level}
    (h : ∀ level, (f level).renamed ρ = g (level.renamed ρ)) :
    (run.onLevel f).renamed ρ = (run.renamed ρ).onLevel g := by
  have hlevel := h run.toLevel
  simp only [onLevel, renamed, hlevel]

theorem child?_renamed : (run.renamed ρ).child? = run.child?.map (·.renamed ρ) := by
  obtain ⟨level, nested⟩ := run
  cases nested <;> rfl

theorem renamed_reclaim : run.reclaim.renamed ρ = (run.renamed ρ).reclaim := by
  obtain ⟨level, nested⟩ := run
  cases nested with
  | nil => rfl
  | cons child below =>
      have habsorb := level.renamed_absorb ρ child
      simp only [reclaim, renamed, onLevel, List.map_cons, List.map_nil, habsorb]

/-- Failing a run with all that is nested in it does not look at identifiers. -/
theorem renamed_terminate (kind : FailureKind) (message : String) (time : Instant) :
    (run.terminate kind message time).renamed ρ = (run.renamed ρ).terminate kind message time := by
  have hunwind (level : Level) (nested : List Level) :
      (unwind kind message time level nested).renamed ρ =
        unwind kind message time (level.renamed ρ) (nested.map (·.renamed ρ)) := by
    induction nested generalizing level with
    | nil => exact level.renamed_fail ρ kind message time
    | cons child below ih =>
        rw [unwind, Level.renamed_fail, Level.renamed_absorb, ih]
        rfl
  have htop := hunwind run.toLevel run.nested
  simp only [terminate, ofLevel, renamed, htop, List.map_nil]

/-- A run that keeps its identifiers keeps those of all its levels. -/
theorem fixed_levels {run : Run} (h : run.renamed ρ = run) {level : Level}
    (hlevel : level ∈ run.levels) : level.renamed ρ = level := by
  have hlevels : run.levels.map (·.renamed ρ) = run.levels := congrArg levels h
  exact List.map_inj_left.mp (hlevels.trans (List.map_id _).symm) level hlevel

/-- A run that keeps its identifiers keeps the token that it waits with. -/
theorem fixed_suspension {run : Run} (h : run.renamed ρ = run) {suspension : Suspension}
    (hpending : run.suspension = some suspension) : suspension.renamed ρ = suspension := by
  have hmap : run.suspension.map (·.renamed ρ) = run.suspension :=
    congrArg (fun run => run.suspension) h
  simpa [hpending] using hmap

end Run

namespace Subflow

/-- What the state of a nested run means does not depend on identifiers. -/
theorem settle_renamed (flow : FlowId) (around : Surroundings) (run : Run) :
    settle flow around (run.renamed ρ) =
      ((settle flow around run).1.renamed ρ, (settle flow around run).2.renamed ρ) := by
  unfold settle
  rw [run.child?_renamed]
  cases run.child? with
  | none => rfl
  | some child =>
      have hstatus : (child.renamed ρ).status = child.status := rfl
      have hsuspension : (child.renamed ρ).suspension = child.suspension.map (·.renamed ρ) := rfl
      simp only [Option.map_some, hstatus, hsuspension]
      cases child.status with
      | running => rfl
      | paused => cases child.suspension <;> rfl
      | completed =>
          simp only [run.renamed_reclaim, Surroundings.advance]
          cases around.successor <;> rfl
      | failed =>
          simp only [run.renamed_reclaim]
          rfl

end Subflow

end Dialogue
