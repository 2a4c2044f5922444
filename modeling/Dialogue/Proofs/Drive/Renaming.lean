import Dialogue.Proofs.Drive.Course
import Dialogue.Proofs.Step.Renaming

/-!
# Drives under other identifiers

A drive goes the same way for a run and the renamed run, all levels of nesting
included.  One error names the level that it is about; so the levels that a
payload is handed down to have to keep their identifiers, and all others may be
renamed.
-/

namespace Dialogue

variable {ρ : Renaming} {bounds : Bounds}

/-- Two computations go the same way to runs that belong together. -/
abbrev Acting.RunRenames (ρ : Renaming) : Acting Run → Acting Run → Prop :=
  Acting.Renames ρ (Run.renamed · ρ)

/-- Two computations go the same way to runs that belong together, or to the same error. -/
abbrev Acting.NestedRenames (ρ : Renaming) :
    Acting (Except FlowError Run) → Acting (Except FlowError Run) → Prop :=
  Acting.Renames ρ (Except.map (Run.renamed · ρ))

namespace Run

variable (run : Run)

theorem renames_moveTo (node : NodeId) :
    Acting.RunRenames ρ (run.moveTo bounds node) ((run.renamed ρ).moveTo bounds node) :=
  .emit (.pure (run.renamed_onLevel ρ fun level => level.renamed_enter ρ node bounds.now))

theorem renames_failWith (kind : FailureKind) (message : String) :
    Acting.RunRenames ρ (run.failWith bounds kind message)
      ((run.renamed ρ).failWith bounds kind message) :=
  .emit (.pure (run.renamed_onLevel ρ fun level => level.renamed_fail ρ kind message bounds.now))

end Run

namespace Drive

/-- Nested runs are begun alike in a run and the renamed run. -/
def BeginsAlike (ρ : Renaming)
    (start : Option (FlowId → Run → Acting (Except FlowError Run))) : Prop :=
  ∀ begin ∈ start, ∀ flow run, Acting.NestedRenames ρ (begin flow run) (begin flow (run.renamed ρ))

variable {subflows subflows' : Subflows} {graph : Graph}

/-- A step goes the same way if nested runs are begun alike, and if the payload is handed down
alike. -/
theorem renames_step (hstart : BeginsAlike ρ subflows.start)
    (hsame : subflows'.start = subflows.start) (node : Graph.Node) (run : Run)
    {payload : Option Payload}
    (hresume : ∀ handed, payload = some handed →
      Acting.NestedRenames ρ (subflows.resume handed run)
        (subflows'.resume handed (run.renamed ρ))) :
    Acting.StepRenames ρ (node.behaviour.step (surroundings bounds subflows node) run payload)
      (node.behaviour.step (surroundings bounds subflows' node) (run.renamed ρ) payload) := by
  by_cases hplain : node.behaviour.isSubflow = true
  · obtain ⟨flow, hflow⟩ : ∃ flow, node.behaviour = .subflow flow := by
      cases hbehaviour : node.behaviour with
      | subflow flow => exact ⟨flow, rfl⟩
      | _ => simp [hbehaviour, Behaviour.isSubflow] at hplain
    have hsettle (nested : Run) :
        Stepped.renamed ρ (Subflow.settle flow (surroundings bounds subflows node) nested) =
          Subflow.settle flow (surroundings bounds subflows' node) (nested.renamed ρ) :=
      (Subflow.settle_renamed ρ flow (surroundings bounds subflows node) nested).symm
    rw [hflow]
    cases payload with
    | some handed =>
        refine (hresume handed rfl).bind fun result => ?_
        cases result with
        | error e => exact .pure (Prod.ext rfl (run.renamed_reclaim ρ))
        | ok nested => exact .pure (hsettle nested)
    | none =>
        change Acting.StepRenames ρ (Subflow.step flow _ run none) (Subflow.step flow _ _ none)
        simp only [Subflow.step, surroundings, hsame]
        cases hbegin : subflows.start with
        | none => exact .pure rfl
        | some begin =>
            refine (hstart begin hbegin flow run).bind fun result => ?_
            cases result with
            | error e => exact .pure rfl
            | ok nested => exact .pure (hsettle nested)
  · have hother : node.behaviour.isSubflow = false := by simpa using hplain
    rw [step_alone hother, step_alone hother]
    refine Behaviour.renames_step (fun flow hflow => ?_) _ run payload
    simp [hflow, Behaviour.isSubflow] at hplain

/-- A level goes on alike after a step if it walks on alike. -/
theorem renames_goOn {left : Nat}
    (hwalk : ∀ run, Acting.RunRenames ρ (walk bounds subflows graph left run none)
      (walk bounds subflows' graph left (run.renamed ρ) none))
    (here : NodeId) (run : Run) (outcome : Outcome) :
    Acting.RunRenames ρ (goOn bounds subflows graph left here run outcome)
      (goOn bounds subflows' graph left here (run.renamed ρ) (outcome.renamed ρ)) := by
  cases outcome with
  | go next =>
      refine .emit ?_
      split
      · exact (run.renames_moveTo next).bind hwalk
      · exact run.renames_failWith _ _
  | complete => exact .emit (.emit (.pure rfl))
  | suspend suspension => exact .emit (.pure rfl)
  | fail kind message => exact run.renames_failWith kind message

/-- A level walks alike, from one node to the next. -/
theorem renames_walk (hstart : BeginsAlike ρ subflows.start)
    (hsame : subflows'.start = subflows.start) (left : Nat) (run : Run)
    {payload : Option Payload}
    (hresume : ∀ handed, payload = some handed →
      Acting.NestedRenames ρ (subflows.resume handed run)
        (subflows'.resume handed (run.renamed ρ))) :
    Acting.RunRenames ρ (walk bounds subflows graph left run payload)
      (walk bounds subflows' graph left (run.renamed ρ) payload) := by
  induction left generalizing run payload with
  | zero => exact run.renames_failWith _ _
  | succ left ih =>
      have hnode : (run.renamed ρ).node = run.node := rfl
      cases hfound : graph.find? run.node with
      | none =>
          simp only [walk, hnode, hfound]
          exact run.renames_failWith _ _
      | some node =>
          rw [walk_succ hfound, walk_succ (hnode ▸ hfound), hnode]
          have hwalk (run : Run) : Acting.RunRenames ρ (walk bounds subflows graph left run none)
              (walk bounds subflows' graph left (run.renamed ρ) none) :=
            ih run fun handed hnone => absurd hnone.symm (Option.some_ne_none handed)
          refine (renames_step hstart hsame node run hresume).bind fun stepped => ?_
          exact renames_goOn hwalk run.node stepped.2 stepped.1

/-- A level is driven alike. -/
theorem renames_level (hstart : BeginsAlike ρ subflows.start)
    (hsame : subflows'.start = subflows.start) (graph : Graph) (run : Run)
    {payload : Option Payload}
    (hresume : ∀ handed, payload = some handed →
      Acting.NestedRenames ρ (subflows.resume handed run.awake)
        (subflows'.resume handed (run.awake.renamed ρ))) :
    Acting.RunRenames ρ (level bounds subflows graph run payload)
      (level bounds subflows' graph (run.renamed ρ) payload) := by
  cases payload with
  | none =>
      refine (run.awake.renames_moveTo run.node).bind fun entered => ?_
      exact renames_walk hstart hsame _ entered nofun
  | some handed => exact renames_walk hstart hsame _ run.awake hresume

/-- Nested runs are begun alike, whatever number of levels is allowed. -/
theorem fresh_beginsAlike (room : Nat) : BeginsAlike ρ (fresh bounds room) := by
  induction room with
  | zero => exact nofun
  | succ room ih =>
      rintro _ ⟨⟩ flow parent
      refine .flow flow fun loaded => ?_
      cases loaded with
      | error e => exact .pure rfl
      | ok graph =>
          refine .newRun fun id => ?_
          refine Acting.Renames.bind (f := (Run.renamed · ρ)) ?_ fun child => .pure rfl
          exact renames_level ih rfl graph _ nofun

/-- A payload is handed down alike to levels that keep their identifiers. -/
theorem renames_resumeChain (parent : Identifier) (payload : Payload) {chain : List Level}
    (hfixed : ∀ level ∈ chain, ρ.run level.id = level.id) :
    Acting.Renames ρ (Except.map (List.map (Level.renamed · ρ)))
      (resumeChain bounds parent payload chain)
      (resumeChain bounds parent payload (chain.map (·.renamed ρ))) := by
  induction chain generalizing parent payload with
  | nil => exact .pure rfl
  | cons child below ih =>
      refine .flow child.flow fun loaded => ?_
      cases loaded with
      | error e => exact .pure rfl
      | ok graph =>
          have hid : (child.renamed ρ).id = child.id := hfixed child (.head _)
          refine Acting.Renames.bind (f := (Run.renamed · ρ)) ?_ fun run => .pure rfl
          refine renames_level ?_ ?_ graph { child with nested := below } fun handed _ => ?_
          · exact fresh_beginsAlike _
          · rfl
          change Acting.NestedRenames ρ (resumeChain bounds child.id handed below >>= _)
            (resumeChain bounds (child.renamed ρ).id handed (below.map (·.renamed ρ)) >>= _)
          rw [hid]
          refine (ih child.id handed fun level hlevel => hfixed level (.tail _ hlevel)).bind
            fun result => ?_
          cases result <;> exact .pure rfl

end Drive

/-- A run that keeps its identifiers is driven alike. -/
theorem Run.renames_drive {run : Run} (h : run.renamed ρ = run) (graph : Graph)
    (payload : Option Payload) :
    Acting.RunRenames ρ (run.drive bounds graph payload) (run.drive bounds graph payload) := by
  have hid (level : Level) (hlevel : level ∈ run.levels) : ρ.run level.id = level.id :=
    congrArg Level.id (run.fixed_levels ρ h hlevel)
  have hnested : run.nested.map (·.renamed ρ) = run.nested := congrArg Run.nested h
  refine Eq.subst (motive := fun other => Acting.RunRenames ρ (run.drive bounds graph payload)
    (Drive.level bounds _ graph other payload)) h ?_
  refine Drive.renames_level (Drive.fresh_beginsAlike _) rfl graph run fun handed _ => ?_
  change Acting.NestedRenames ρ (Drive.resumeChain bounds run.id handed run.nested >>= _)
    (Drive.resumeChain bounds (ρ.run run.id) handed run.nested >>= _)
  rw [hid _ (.head _)]
  have hchain := @Drive.renames_resumeChain ρ bounds run.id handed run.nested
    fun level hlevel => hid level (.tail _ hlevel)
  rw [hnested] at hchain
  refine hchain.bind fun result => ?_
  cases result <;> exact .pure rfl

end Dialogue
