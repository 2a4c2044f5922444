import Dialogue.Proofs.Delay.Twin
import Dialogue.Proofs.Run.History
import Dialogue.Proofs.World.Telling

/-!
# What a step may do to the rest

A step of a node that runs no other flow tells the observers nothing and begins
no run; what it adds to the history are notes about its own work.  A node of a
standard type moreover goes on only where its graph leads, keeps an answer only
in the variable of a menu, and never fails with the words of a graph that has
lost a node.
-/

namespace Dialogue

/-- The words of a drive that does not find a node begin so. -/
def Astray (message : String) : Prop := ∃ rest, message = "node " ++ rest

/-- Words with another beginning are other words. -/
theorem not_astray {message : String} (h : message.toList.take 5 ≠ "node ".toList) :
    ¬Astray message := by
  rintro ⟨rest, rfl⟩
  rw [String.toList_append] at h
  exact h rfl

theorem not_astray_append {beginning : String} (hlength : 5 ≤ beginning.toList.length)
    (hother : beginning.toList.take 5 ≠ "node ".toList) (rest : String) :
    ¬Astray (beginning ++ rest) := by
  apply not_astray
  rw [String.toList_append, List.take_append_of_le_length hlength]
  exact hother

/-- An error of a flow is reported in words of its own. -/
theorem FlowError.message_not_astray (e : FlowError) : ¬Astray e.message := by
  cases e with
  | definition e => exact not_astray_append (by decide) (by decide) _
  | flowNotFound flow => exact not_astray_append (by decide) (by decide) _
  | runNotFound run => exact not_astray_append (by decide) (by decide) _
  | node e => exact not_astray_append (by decide) (by decide) _
  | execution complaint => exact not_astray_append (by decide) (by decide) _

theorem DispatchError.message_not_astray (e : DispatchError) : ¬Astray e.message := by
  unfold message
  rw [String.append_assoc, String.append_assoc]
  exact not_astray_append (by decide) (by decide) _

theorem AssignmentError.message_not_astray (e : AssignmentError) : ¬Astray e.message := by
  unfold message
  rw [String.append_assoc, String.append_assoc, String.append_assoc, String.append_assoc]
  exact not_astray_append (by decide) (by decide) _

/-- Where an outcome may lead, given the successor of the node and its targets. -/
def Outcome.Within (successor : Option NodeId) (targets : List NodeId) : Outcome → Prop
  | .go next => successor = some next ∨ next ∈ targets
  | .fail _ message => ¬Astray message
  | .suspend _ | .complete => True

theorem Surroundings.advance_within (around : Surroundings) (targets : List NodeId) :
    around.advance.Within around.successor targets := by
  unfold advance
  cases around.successor with
  | none => trivial
  | some next => exact .inl rfl

/-- What a node may make of variables: a menu may keep an answer in its own one. -/
def Behaviour.Writes (behaviour : Behaviour) (payload : Option Payload) (before after : Values) :
    Prop :=
  after = before ∨ ∃ menu name answer, behaviour = .menu menu ∧ menu.saveAs = some name ∧
    payload.any (!·.isTimer) = true ∧ after = before.insert name (.string answer)

/-- A world and a level after some work at a node of which the observers were told nothing. -/
structure Quiet (world : World) (before : Level) (world' : World) (after : Level) : Prop where
  silent : world.Silent world'
  createdAt : after.createdAt = before.createdAt
  notes : before.history.Noted after.history

namespace Quiet

variable {world world' : World} {level : Level}

theorem refl (world : World) (level : Level) : Quiet world level world level :=
  ⟨.refl _, rfl, .refl _⟩

theorem trans {first second third : World} {level level' level'' : Level}
    (h : Quiet first level second level') (h' : Quiet second level' third level'') :
    Quiet first level third level'' :=
  ⟨h.silent.trans h'.silent, h'.createdAt.trans h.createdAt, h.notes.trans h'.notes⟩

theorem of_silent (h : world.Silent world') (level : Level) : Quiet world level world' level :=
  ⟨h, rfl, .refl _⟩

theorem note (h : world.Silent world') (level : Level) {remark : Note}
    (hplain : remark.isSubflow = false) : Quiet world level world' (level.note remark) :=
  ⟨h, rfl, .note (.refl _) remark hplain⟩

end Quiet

/-- A quiet step with an outcome and variables that are allowed. -/
structure Steps (may : Outcome → Values → Prop) (world : World) (run : Run)
    (result : (Outcome × Run) × World) : Prop where
  quiet : Quiet world run.toLevel result.2 result.1.2.toLevel
  may : may result.1.1 result.1.2.vars

namespace Steps

variable {may : Outcome → Values → Prop} {world : World} {run : Run}

/-- A step goes on from what an earlier part of it has left. -/
theorem of_earlier {first : Run} {earlier : World} {result : (Outcome × Run) × World}
    (h : Quiet world run.toLevel earlier first.toLevel) (h' : Steps may earlier first result) :
    Steps may world run result :=
  ⟨h.trans h'.quiet, h'.may⟩

end Steps

namespace Behaviour

/-- What a node may do: a scripted one whatever it likes, one of a standard type what its graph and
its configuration say. -/
def May (behaviour : Behaviour) (around : Surroundings) (payload : Option Payload)
    (before : Values) (outcome : Outcome) (after : Values) : Prop :=
  behaviour.isScripted = true ∨
    (outcome.Within around.successor behaviour.targets ∧ behaviour.Writes payload before after)

variable {behaviour : Behaviour} {around : Surroundings} {payload : Option Payload}

theorem may_advance (vars : Values) : behaviour.May around payload vars around.advance vars :=
  .inr ⟨around.advance_within _, .inl rfl⟩

theorem may_suspend (suspension : Suspension) (vars : Values) :
    behaviour.May around payload vars (.suspend suspension) vars := .inr ⟨trivial, .inl rfl⟩

theorem may_fail (kind : FailureKind) {message : String} (h : ¬Astray message) (vars : Values) :
    behaviour.May around payload vars (.fail kind message) vars := .inr ⟨h, .inl rfl⟩

theorem may_go {next : NodeId} (h : next ∈ behaviour.targets) (vars : Values) :
    behaviour.May around payload vars (.go next) vars := .inr ⟨.inr h, .inl rfl⟩

end Behaviour

open Behaviour

theorem World.silent_newToken (world : World) : world.Silent world.newToken.2 := ⟨rfl, rfl, rfl⟩

theorem World.silent_send (world : World) (contactId : String) (message : Message) :
    world.Silent (world.send contactId message).2 := ⟨rfl, rfl, rfl⟩

namespace Surroundings

variable {behaviour : Behaviour} {payload : Option Payload} {around : Surroundings}

theorem sleep_steps (world : World) (run after : Run) (millis : Nat)
    (hquiet : Quiet world run.toLevel world after.toLevel) (hvars : after.vars = run.vars) :
    Steps (behaviour.May around payload run.vars) world run
      (world.act (do return (← around.sleep millis, after))) := by
  rw [World.act_bind, act_sleep, World.act_pure]
  refine ⟨hquiet.trans (.of_silent world.silent_newToken _), ?_⟩
  change behaviour.May around payload run.vars _ after.vars
  rw [hvars]
  exact may_suspend _ _

/-- A delivery is quiet and leaves the variables alone; if it fails the run, it does so in words of
its own. -/
theorem deliver_quiet (behaviour : Behaviour) (payload : Option Payload) (world : World)
    (run : Run) (part : Nat) (message : Message) (onError : OnError) :
    Quiet world run.toLevel (world.act (around.deliver run part message onError)).2
        (world.act (around.deliver run part message onError)).1.2.toLevel ∧
      (world.act (around.deliver run part message onError)).1.2.vars = run.vars ∧
      ∀ outcome, (world.act (around.deliver run part message onError)).1.1 = some outcome →
        behaviour.May around payload run.vars outcome run.vars := by
  have hsilent := world.silent_send run.contactId message
  rw [act_deliver]
  revert hsilent
  rcases world.send run.contactId message with ⟨result, after⟩
  intro hsilent
  cases result with
  | ok id => exact ⟨.note hsilent _ rfl, rfl, by simp⟩
  | error e =>
      refine ⟨.note hsilent _ rfl, rfl, ?_⟩
      intro outcome houtcome
      cases onError with
      | proceed => simp at houtcome
      | abort =>
          obtain rfl := Option.some.inj houtcome
          exact may_fail _ e.message_not_astray _

end Surroundings

namespace Sequence

variable {around : Surroundings} {payload : Option Payload}

theorem sendFrom_steps (sequence : Sequence) (parts : List Part) (index : Nat) (world : World)
    (run : Run) :
    Steps ((Behaviour.content sequence).May around payload run.vars) world run
      (world.act (sequence.sendFrom around parts index run)) := by
  induction parts generalizing index world run with
  | nil =>
      unfold sendFrom
      cases sequence.trailing with
      | none => exact ⟨.refl _ _, may_advance _⟩
      | some delay => exact Surroundings.sleep_steps world run _ delay ⟨.refl _, rfl, .refl _⟩ rfl
  | cons part rest ih =>
      unfold sendFrom
      rw [World.act_bind]
      obtain ⟨hquiet, hvars, hfailed⟩ := around.deliver_quiet (.content sequence) payload
        world run index (message around run.toLevel part) sequence.onError
      revert hquiet hvars hfailed
      rcases world.act (around.deliver run index (message around run.toLevel part)
        sequence.onError) with ⟨⟨failed, after⟩, earlier⟩
      intro hquiet hvars hfailed
      refine .of_earlier hquiet ?_
      dsimp only at hvars
      rw [← hvars] at hfailed ⊢
      cases failed with
      | some outcome => exact ⟨.refl _ _, hfailed outcome rfl⟩
      | none =>
          dsimp only
          cases part.delay.filter (0 < ·) with
          | none => exact ih _ _ _
          | some delay =>
              exact Surroundings.sleep_steps earlier after _ delay ⟨.refl _, rfl, .refl _⟩ rfl

theorem step_steps (sequence : Sequence) (world : World) (run : Run) :
    Steps ((Behaviour.content sequence).May around payload run.vars) world run
      (world.act (sequence.step around run)) := by
  unfold step
  split
  · exact ⟨.refl _ _, may_advance _⟩
  · exact sequence.sendFrom_steps _ _ _ _

end Sequence

namespace Menu

variable {around : Surroundings} {payload : Option Payload} (menu : Menu)

/-- Keeping an answer is what a menu may do with it. -/
theorem keep_quiet (payload : Option Payload) (world : World) (run : Run) (answer : String) :
    Quiet world run.toLevel world (menu.keep run answer).toLevel ∧
      (payload.any (!·.isTimer) = true →
        (Behaviour.menu menu).Writes payload run.vars (menu.keep run answer).vars) := by
  unfold keep
  cases hname : menu.saveAs with
  | none => exact ⟨.refl _ _, fun _ => .inl rfl⟩
  | some name =>
      refine ⟨⟨.refl _, rfl, .refl _⟩, fun hanswer => ?_⟩
      exact .inr ⟨menu, name, answer, rfl, hname, hanswer, rfl⟩

theorem wait_steps (world : World) (run after : Run)
    (hquiet : Quiet world run.toLevel world after.toLevel) (hvars : after.vars = run.vars) :
    Steps ((Behaviour.menu menu).May around payload run.vars) world run
      (world.act (do return (← menu.wait around after, after))) := by
  rw [World.act_bind, act_wait, World.act_pure]
  refine ⟨hquiet.trans (.of_silent world.silent_newToken _), ?_⟩
  change (Behaviour.menu menu).May around payload run.vars _ after.vars
  rw [hvars]
  exact may_suspend _ _

/-- A menu that keeps an answer may go on to its own targets and to its successor. -/
theorem kept_steps (world : World) (run : Run) (answer : String) {outcome : Outcome}
    (hanswer : payload.any (!·.isTimer) = true)
    (hwithin : outcome.Within around.successor (Behaviour.menu menu).targets) :
    Steps ((Behaviour.menu menu).May around payload run.vars) world run
      (world.act (pure (outcome, menu.keep run answer))) := by
  obtain ⟨hquiet, hwrites⟩ := menu.keep_quiet payload world run answer
  exact ⟨hquiet, .inr ⟨hwithin, hwrites hanswer⟩⟩

theorem next_mem_targets {choice : Choice} {test : Choice → Bool}
    (h : menu.choices.find? test = some choice) :
    choice.next ∈ (Behaviour.menu menu).targets :=
  List.mem_append_left _ (List.mem_map_of_mem (List.mem_of_find?_eq_some h))

theorem fallback_mem_targets {node : NodeId} (h : menu.fallback = some node) :
    node ∈ (Behaviour.menu menu).targets := by
  apply List.mem_append_right
  simp [h]

theorem unmatched_steps (world : World) (run : Run) (answer : String)
    (hanswer : payload.any (!·.isTimer) = true) :
    Steps ((Behaviour.menu menu).May around payload run.vars) world run
      (world.act (menu.unmatched around run answer)) := by
  unfold unmatched
  cases hfallback : menu.fallback with
  | some node =>
      exact menu.kept_steps world run answer hanswer (.inr (menu.fallback_mem_targets hfallback))
  | none => exact menu.wait_steps world run _ (.note (.refl _) _ rfl) rfl

theorem takeReply_steps (world : World) (run : Run) (text : String)
    (hanswer : payload.any (!·.isTimer) = true) :
    Steps ((Behaviour.menu menu).May around payload run.vars) world run
      (world.act (menu.takeReply around run text)) := by
  unfold takeReply
  dsimp only
  split
  · exact menu.kept_steps world run _ hanswer (around.advance_within _)
  · cases hchoice : menu.choices.find? (·.fits (Text.trim text)) with
    | some choice =>
        exact menu.kept_steps world run _ hanswer (.inr (menu.next_mem_targets hchoice))
    | none => exact menu.unmatched_steps world run _ hanswer

theorem takeSelection_steps (world : World) (run : Run) (node : NodeId)
    (hanswer : payload.any (!·.isTimer) = true) :
    Steps ((Behaviour.menu menu).May around payload run.vars) world run
      (world.act (menu.takeSelection around run node)) := by
  unfold takeSelection
  cases hchoice : menu.choices.find? (·.next == node) with
  | some choice =>
      have hnext : choice.next = node := by simpa using List.find?_some hchoice
      exact menu.kept_steps world run _ hanswer
        (.inr (hnext ▸ menu.next_mem_targets hchoice))
  | none =>
      dsimp only
      split
      · next hknown =>
        refine ⟨.refl _ _, .inr ⟨?_, .inl rfl⟩⟩
        simp only [Bool.or_eq_true, Bool.and_eq_true, beq_iff_eq] at hknown
        rcases hknown with hfallback | ⟨-, hsuccessor⟩
        · exact .inr (menu.fallback_mem_targets hfallback)
        · exact .inl hsuccessor
      · exact menu.unmatched_steps world run _ hanswer

theorem step_steps (world : World) (run : Run) :
    Steps ((Behaviour.menu menu).May around payload run.vars) world run
      (world.act (menu.step around run payload)) := by
  unfold step
  split
  · exact menu.takeReply_steps world run _ rfl
  · exact menu.takeSelection_steps world run _ rfl
  · exact ⟨.refl _ _, may_fail _ (not_astray (by decide)) _⟩
  · split
    · exact menu.wait_steps world run run (.refl _ _) rfl
    · next prompt _ =>
      rw [World.act_bind]
      obtain ⟨hquiet, hvars, hfailed⟩ := around.deliver_quiet (.menu menu) none world run 0
        ⟨.text, menu.promptText around run.toLevel prompt, none⟩ menu.onError
      revert hquiet hvars hfailed
      rcases world.act (around.deliver run 0
        ⟨.text, menu.promptText around run.toLevel prompt, none⟩ menu.onError) with
        ⟨⟨failed, after⟩, earlier⟩
      intro hquiet hvars hfailed
      refine .of_earlier hquiet ?_
      dsimp only at hvars
      rw [← hvars] at hfailed ⊢
      cases failed with
      | some outcome => exact ⟨.refl _ _, hfailed outcome rfl⟩
      | none => exact menu.wait_steps earlier after after (.refl _ _) rfl

end Menu

theorem assignStep_steps (queue : String) (onError : OnError) (around : Surroundings)
    (payload : Option Payload) (world : World) (run : Run) :
    Steps ((Behaviour.assignQueue queue onError).May around payload run.vars) world run
      (world.act (assignStep queue onError around run)) := by
  unfold assignStep
  dsimp only
  -- With or without asking anyone, the answer is dealt with in the same way.
  split <;>
  · rw [World.act_bind]
    generalize hasked : world.act _ = asked
    have hsilent : world.Silent asked.2 := by
      subst hasked
      exact ⟨rfl, rfl, rfl⟩
    rcases asked with ⟨result, after⟩
    cases result with
    | ok _ => exact ⟨.note hsilent _ rfl, may_advance _⟩
    | error e =>
        cases onError with
        | proceed => exact ⟨.note hsilent _ rfl, may_advance _⟩
        | abort => exact ⟨.note hsilent _ rfl, may_fail _ e.message_not_astray _⟩

theorem conditionStep_may (rules : List Condition.Rule) (otherwise : Option NodeId)
    (around : Surroundings) (payload : Option Payload) (run : Run) :
    (Behaviour.condition rules otherwise).May around payload run.vars
      (conditionStep rules otherwise around run) run.vars := by
  unfold conditionStep
  split
  · next next hnext =>
    apply may_go
    unfold Condition.choose? at hnext
    rcases Option.or_eq_some_iff.mp hnext with hfirst | ⟨-, helse⟩
    · obtain ⟨rule, hrule, rfl⟩ := Option.map_eq_some_iff.mp hfirst
      exact List.mem_append_left _ (List.mem_map_of_mem (List.mem_of_find?_eq_some hrule))
    · apply List.mem_append_right
      simp [helse]
  · exact may_fail _ (not_astray (by decide)) _

theorem Script.step_steps (script : Script) (around : Surroundings) (payload : Option Payload)
    (world : World) (run : Run) :
    Steps ((Behaviour.scripted script).May around payload run.vars) world run
      (world.act (script.step around run payload)) := by
  have hquiet : Quiet world run.toLevel world
      (run.onLevel fun l => { l with vars := script.vars.union l.vars }).toLevel :=
    ⟨.refl _, rfl, .refl _⟩
  unfold step
  dsimp only
  cases script.act with
  | sleep millis =>
      dsimp only
      split
      · exact ⟨hquiet, .inl rfl⟩
      · rw [World.act_bind, Surroundings.act_sleep]
        exact ⟨hquiet.trans (.of_silent world.silent_newToken _), .inl rfl⟩
  | _ => exact ⟨hquiet, .inl rfl⟩

/-- Every step that runs no other flow is quiet, and does what its node may do. -/
theorem Behaviour.step_steps {behaviour : Behaviour} (h : behaviour.isSubflow = false)
    (around : Surroundings) (world : World) (run : Run) (payload : Option Payload) :
    Steps (behaviour.May around payload run.vars) world run
      (world.act (behaviour.step around run payload)) := by
  cases behaviour with
  | start => exact ⟨.refl _ _, may_advance _⟩
  | content sequence => exact sequence.step_steps world run
  | menu question => exact question.step_steps world run
  | delay millis =>
      change Steps _ world run (world.act (delayStep millis around run payload))
      unfold delayStep
      split
      · exact ⟨.refl _ _, may_advance _⟩
      · exact Surroundings.sleep_steps world run run millis (.refl _ _) rfl
  | condition rules otherwise =>
      exact ⟨.refl _ _, conditionStep_may rules otherwise around payload run⟩
  | assignQueue queue onError => exact assignStep_steps queue onError around payload world run
  | subflow flow => simp [isSubflow] at h
  | scripted script => exact script.step_steps around payload world run
  | unknown kind => exact ⟨.note (.refl _) _ rfl, may_advance _⟩

/-- What a step that runs no other flow leaves of a run and a world. -/
structure Behaviour.Stepped (behaviour : Behaviour) (around : Surroundings)
    (payload : Option Payload) (world : World) (run : Run) (outcome : Outcome) (after : Run)
    (world' : World) : Prop where
  visit : run.toLevel.SameVisit after.toLevel
  nested : after.nested = run.nested
  quiet : Quiet world run.toLevel world' after.toLevel
  may : behaviour.May around payload run.vars outcome after.vars
  later : world.Later world'

theorem Behaviour.stepped {behaviour : Behaviour} {around : Surroundings}
    {payload : Option Payload} {world world' : World} {run after : Run} {outcome : Outcome}
    (h : behaviour.isSubflow = false)
    (hstep : world.act (behaviour.step around run payload) = ((outcome, after), world')) :
    behaviour.Stepped around payload world run outcome after world' := by
  have hkeeps := behaviour.step_keepsVisit h around world run payload
  have hsteps := behaviour.step_steps h around world run payload
  have hlater := world.later_act (behaviour.step around run payload)
  rw [hstep] at hkeeps hsteps hlater
  exact ⟨hkeeps.visit, hkeeps.nested, hsteps.quiet, hsteps.may, hlater⟩

end Dialogue
