import Dialogue.Step.Behaviour
import Dialogue.Proofs.Run.Renaming

/-!
# Steps under other identifiers

Two computations go the same way under a renaming if they make the same calls,
and go on the same way when one is given new identifiers and the other what
these are renamed to.  A step goes the same way for a run and the renamed run.
What the observers are told is left aside.
-/

namespace Dialogue

variable {ρ : Renaming} {α β γ δ : Type}

/-- Two computations go the same way, to values that belong together. -/
inductive Acting.Renames (ρ : Renaming) (f : α → β) : Acting α → Acting β → Prop
  | done (value : α) : Renames ρ f (.done value) (.done (f value))
  | emit {event event' : Event} {next : Unit → Acting α} {next' : Unit → Acting β}
      (rest : Renames ρ f (next ()) (next' ())) :
      Renames ρ f (.ask (.emit event) next) (.ask (.emit event') next')
  | newRun {next : Identifier → Acting α} {next' : Identifier → Acting β}
      (rest : ∀ id, Renames ρ f (next id) (next' (ρ.run id))) :
      Renames ρ f (.ask .newRun next) (.ask .newRun next')
  | newToken {next : Identifier → Acting α} {next' : Identifier → Acting β}
      (rest : ∀ token, Renames ρ f (next token) (next' (ρ.token token))) :
      Renames ρ f (.ask .newToken next) (.ask .newToken next')
  | flow (id : FlowId) {next : Except FlowError Graph → Acting α}
      {next' : Except FlowError Graph → Acting β}
      (rest : ∀ loaded, Renames ρ f (next loaded) (next' loaded)) :
      Renames ρ f (.ask (.flow id) next) (.ask (.flow id) next')
  | send (contactId : String) (message : Message) {next : Except DispatchError String → Acting α}
      {next' : Except DispatchError String → Acting β}
      (rest : ∀ result, Renames ρ f (next result) (next' result)) :
      Renames ρ f (.ask (.send contactId message) next) (.ask (.send contactId message) next')
  | assign (contactId queue : String) {next : Except AssignmentError Unit → Acting α}
      {next' : Except AssignmentError Unit → Acting β}
      (rest : ∀ result, Renames ρ f (next result) (next' result)) :
      Renames ρ f (.ask (.assign contactId queue) next) (.ask (.assign contactId queue) next')

namespace Acting.Renames

variable {f : α → β} {g : γ → δ} {m : Acting α} {m' : Acting β}

/-- Finished computations go the same way if their values belong together. -/
theorem pure {value : α} {value' : β} (h : f value = value') :
    Renames ρ f (Pure.pure value) (Pure.pure value') := h ▸ .done value

/-- Computations in a row go the same way if the parts do. -/
theorem bind (h : Renames ρ f m m') {next : α → Acting γ} {next' : β → Acting δ}
    (hnext : ∀ value, Renames ρ g (next value) (next' (f value))) :
    Renames ρ g (m >>= next) (m' >>= next') := by
  induction h with
  | done value => exact hnext value
  | emit _ ih => exact .emit ih
  | newRun _ ih => exact .newRun ih
  | newToken _ ih => exact .newToken ih
  | flow id _ ih => exact .flow id ih
  | send contactId message _ ih => exact .send contactId message ih
  | assign contactId queue _ ih => exact .assign contactId queue ih

end Acting.Renames

/-- The result of a step under other identifiers. -/
abbrev Stepped.renamed (ρ : Renaming) : Outcome × Run → Outcome × Run :=
  Prod.map (·.renamed ρ) (·.renamed ρ)

/-- A step for a run and a step for the renamed run go the same way. -/
abbrev Acting.StepRenames (ρ : Renaming) : Acting (Outcome × Run) → Acting (Outcome × Run) → Prop :=
  Acting.Renames ρ (Stepped.renamed ρ)

/-! ## What steps are made of -/

namespace Run

/-- A note without an identifier is made alike. -/
theorem renamed_noted (run : Run) {remark : Note} (h : remark.renamed ρ = remark) :
    (run.onLevel (·.note remark)).renamed ρ = (run.renamed ρ).onLevel (·.note remark) :=
  run.renamed_onLevel ρ fun level => by rw [level.renamed_note, h]

end Run

namespace Surroundings

variable (around : Surroundings)

@[simp] theorem renamed_advance : around.advance.renamed ρ = around.advance := by
  unfold advance
  cases around.successor <;> rfl

theorem renames_sleep (millis : Nat) :
    Acting.Renames ρ (Outcome.renamed · ρ) (around.sleep millis) (around.sleep millis) :=
  .newToken fun _ => .pure rfl

theorem renames_deliver (run : Run) (part : Nat) (message : Message) (onError : OnError) :
    Acting.Renames ρ (Prod.map (Option.map (Outcome.renamed · ρ)) (Run.renamed · ρ))
      (around.deliver run part message onError)
      (around.deliver (run.renamed ρ) part message onError) := by
  refine .send run.contactId message fun result => ?_
  cases result with
  | ok id => exact .pure (Prod.ext rfl (run.renamed_noted rfl))
  | error e => cases onError <;> exact .pure (Prod.ext rfl (run.renamed_noted rfl))

end Surroundings

/-! ## The steps of the types of nodes -/

namespace Sequence

variable (sequence : Sequence) (around : Surroundings)

/-- Sending goes on alike from one part to the next. -/
theorem renames_sendFrom (parts : List Part) (index : Nat) (run : Run) :
    Acting.StepRenames ρ (sequence.sendFrom around parts index run)
      (sequence.sendFrom around parts index (run.renamed ρ)) := by
  induction parts generalizing index run with
  | nil =>
      unfold sendFrom
      cases sequence.trailing with
      | none => exact .pure (Prod.ext around.renamed_advance rfl)
      | some delay => exact (around.renames_sleep delay).bind fun outcome => .pure rfl
  | cons part rest ih =>
      refine (around.renames_deliver run index _ sequence.onError).bind fun delivered => ?_
      obtain ⟨failed, run⟩ := delivered
      cases failed with
      | some outcome => exact .pure rfl
      | none =>
          dsimp only [Prod.map, Option.map]
          split
          · next delay _ => exact (around.renames_sleep delay).bind fun outcome => .pure rfl
          · exact ih (index + 1) run

theorem renames_step (run : Run) :
    Acting.StepRenames ρ (sequence.step around run) (sequence.step around (run.renamed ρ)) := by
  have hcursor : (run.renamed ρ).cursor = run.cursor := rfl
  unfold step
  rw [hcursor]
  split
  · exact .pure (Prod.ext around.renamed_advance rfl)
  · exact sequence.renames_sendFrom around _ _ run

end Sequence

namespace Menu

variable (menu : Menu) (around : Surroundings)

theorem renames_wait (run : Run) :
    Acting.Renames ρ (Outcome.renamed · ρ) (menu.wait around run)
      (menu.wait around (run.renamed ρ)) :=
  .newToken fun _ => .pure rfl

theorem renamed_keep (run : Run) (answer : String) :
    (menu.keep run answer).renamed ρ = menu.keep (run.renamed ρ) answer := by
  unfold keep
  cases menu.saveAs <;> rfl

theorem renames_unmatched (run : Run) (answer : String) :
    Acting.StepRenames ρ (menu.unmatched around run answer)
      (menu.unmatched around (run.renamed ρ) answer) := by
  unfold unmatched
  cases menu.fallback with
  | some node => exact .pure (Prod.ext rfl (menu.renamed_keep run answer))
  | none =>
      have hnoted : (run.onLevel (·.note (.invalidSelection answer))).renamed ρ =
          (run.renamed ρ).onLevel (·.note (.invalidSelection answer)) := run.renamed_noted rfl
      rw [← hnoted]
      exact (menu.renames_wait around _).bind fun outcome => .pure rfl

theorem renames_takeReply (run : Run) (text : String) :
    Acting.StepRenames ρ (menu.takeReply around run text)
      (menu.takeReply around (run.renamed ρ) text) := by
  unfold takeReply
  dsimp only
  split
  · exact .pure (Prod.ext around.renamed_advance (menu.renamed_keep run _))
  · split
    · exact .pure (Prod.ext rfl (menu.renamed_keep run _))
    · exact menu.renames_unmatched around run _

theorem renames_takeSelection (run : Run) (node : NodeId) :
    Acting.StepRenames ρ (menu.takeSelection around run node)
      (menu.takeSelection around (run.renamed ρ) node) := by
  unfold takeSelection
  split
  · exact .pure (Prod.ext rfl (menu.renamed_keep run _))
  · split
    · exact .pure rfl
    · exact menu.renames_unmatched around run _

/-- A prompt is sent and waited for alike, and answers are taken alike. -/
theorem renames_step (run : Run) (payload : Option Payload) :
    Acting.StepRenames ρ (menu.step around run payload)
      (menu.step around (run.renamed ρ) payload) := by
  cases payload with
  | some payload =>
      cases payload with
      | reply text => exact menu.renames_takeReply around run text
      | select node => exact menu.renames_takeSelection around run node
      | elapsed => exact .pure rfl
  | none =>
      unfold step
      cases menu.prompt with
      | none => exact (menu.renames_wait around run).bind fun outcome => .pure rfl
      | some prompt =>
          refine (around.renames_deliver run 0 _ menu.onError).bind fun delivered => ?_
          obtain ⟨failed, run⟩ := delivered
          cases failed with
          | some outcome => exact .pure rfl
          | none => exact (menu.renames_wait around run).bind fun outcome => .pure rfl

end Menu

theorem renames_delayStep (millis : Nat) (around : Surroundings) (run : Run)
    (payload : Option Payload) :
    Acting.StepRenames ρ (delayStep millis around run payload)
      (delayStep millis around (run.renamed ρ) payload) := by
  unfold delayStep
  split
  · exact .pure (Prod.ext around.renamed_advance rfl)
  · exact (around.renames_sleep millis).bind fun outcome => .pure rfl

theorem renamed_conditionStep (rules : List Condition.Rule) (otherwise : Option NodeId)
    (around : Surroundings) (run : Run) :
    (conditionStep rules otherwise around run).renamed ρ =
      conditionStep rules otherwise around (run.renamed ρ) := by
  have hscope : (run.renamed ρ).contactId = run.contactId ∧
      (run.renamed ρ).contact = run.contact ∧ (run.renamed ρ).vars = run.vars := ⟨rfl, rfl, rfl⟩
  unfold conditionStep
  rw [hscope.1, hscope.2.1, hscope.2.2]
  split <;> rfl

/-- What becomes of a run whose contact was to be handed to a queue. -/
def assigned (queue : String) (onError : OnError) (around : Surroundings) (run : Run) :
    Except AssignmentError Unit → Outcome × Run
  | .ok () => (around.advance, run.onLevel (·.note (.queueAssigned queue)))
  | .error e =>
    match onError with
    | .proceed => (around.advance, run.onLevel (·.note (.assignmentError queue e.complaint)))
    | .abort => (.fail .assignment e.message,
        run.onLevel (·.note (.assignmentError queue e.complaint)))

theorem renamed_assigned (queue : String) (onError : OnError) (around : Surroundings) (run : Run)
    (result : Except AssignmentError Unit) :
    Stepped.renamed ρ (assigned queue onError around run result) =
      assigned queue onError around (run.renamed ρ) result := by
  cases result with
  | ok _ => exact Prod.ext around.renamed_advance (run.renamed_noted rfl)
  | error e =>
      cases onError with
      | proceed => exact Prod.ext around.renamed_advance (run.renamed_noted rfl)
      | abort => exact Prod.ext rfl (run.renamed_noted rfl)

theorem assignStep_eq (queue : String) (onError : OnError) (around : Surroundings) (run : Run) :
    assignStep queue onError around run =
      let name := around.render run.toLevel queue
      if (Text.trim name).isEmpty then
        pure (assigned name onError around run
          (.error ⟨run.contactId, "", "queue id rendered empty"⟩))
      else do
        let result ← Acting.assign run.contactId name
        return assigned name onError around run result := by
  unfold assignStep
  dsimp only
  split
  · cases onError <;> rfl
  · refine congrArg (Interaction.ask (Call.assign run.contactId _)) (funext fun result => ?_)
    cases result with
    | ok _ => rfl
    | error e => cases onError <;> rfl

/-- With or without asking anyone, the answer is dealt with alike. -/
theorem renames_assignStep (queue : String) (onError : OnError) (around : Surroundings)
    (run : Run) :
    Acting.StepRenames ρ (assignStep queue onError around run)
      (assignStep queue onError around (run.renamed ρ)) := by
  have hrender : around.render (run.renamed ρ).toLevel queue = around.render run.toLevel queue :=
    rfl
  rw [assignStep_eq, assignStep_eq, hrender]
  dsimp only
  split
  · exact .pure (renamed_assigned _ onError around run _)
  · exact .assign _ _ fun result => .pure (renamed_assigned _ onError around run result)

namespace Script

variable (script : Script) (around : Surroundings)

theorem renames_step (run : Run) (payload : Option Payload) :
    Acting.StepRenames ρ (script.step around run payload)
      (script.step around (run.renamed ρ) payload) := by
  unfold step
  cases script.act with
  | advance => exact .pure (Prod.ext around.renamed_advance rfl)
  | sleep millis =>
      dsimp only
      split
      · exact .pure (Prod.ext around.renamed_advance rfl)
      · exact (around.renames_sleep millis).bind fun outcome => .pure rfl
  | _ => exact .pure rfl

end Script

namespace Behaviour

/-- A step that runs no other flow goes the same way for the renamed run. -/
theorem renames_step {behaviour : Behaviour} (h : ∀ flow, behaviour ≠ .subflow flow)
    (around : Surroundings) (run : Run) (payload : Option Payload) :
    Acting.StepRenames ρ (behaviour.step around run payload)
      (behaviour.step around (run.renamed ρ) payload) := by
  cases behaviour with
  | start => exact .pure (Prod.ext around.renamed_advance rfl)
  | content sequence => exact sequence.renames_step around run
  | menu question => exact question.renames_step around run payload
  | delay millis => exact renames_delayStep millis around run payload
  | condition rules otherwise =>
      exact .pure (Prod.ext (renamed_conditionStep rules otherwise around run) rfl)
  | assignQueue queue onError => exact renames_assignStep queue onError around run
  | subflow flow => exact absurd rfl (h flow)
  | scripted script => exact script.renames_step around run payload
  | unknown kind => exact .pure (Prod.ext around.renamed_advance (run.renamed_noted rfl))

end Behaviour

end Dialogue
