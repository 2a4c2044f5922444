import Dialogue.Step.Behaviour
import Dialogue.Proofs.World.Acting

/-!
# What a step can do during a visit

A step of a node that does not run another flow works within one visit: it adds
notes to it, moves the cursor and keeps answers, and leaves the rest of the
level and all nested levels alone.  If it pauses, it does so with a token that
was not given out before, and for a reason that belongs to its behaviour.
-/

namespace Dialogue

/-! ## The frame of a visit -/

@[simp] theorem History.nodes_note (history : History) (remark : Note) :
    (history.note remark).nodes = history.nodes := by
  induction history with
  | nil => rfl
  | cons visit rest ih =>
      cases rest with
      | nil => rfl
      | cons next rest =>
          change visit.node :: History.nodes (History.note (next :: rest) remark) = _
          rw [ih]
          rfl

@[simp] theorem History.nodes_enter (history : History) (node : NodeId) (time : Instant) :
    (history.enter node time).nodes = history.nodes ++ [node] := by
  simp [History.nodes, History.enter]

/-- A level after some work within one visit: only notes, cursor and variables
may be new, and no variable is gone. -/
structure Level.SameVisit (before after : Level) : Prop where
  id : after.id = before.id
  flow : after.flow = before.flow
  contactId : after.contactId = before.contactId
  parent : after.parent = before.parent
  contact : after.contact = before.contact
  node : after.node = before.node
  status : after.status = before.status
  depth : after.depth = before.depth
  suspension : after.suspension = before.suspension
  failure : after.failure = before.failure
  nodes : after.history.nodes = before.history.nodes
  vars : ∀ name, before.vars.has name = true → after.vars.has name = true

namespace Level.SameVisit

theorem refl (level : Level) : level.SameVisit level :=
  ⟨rfl, rfl, rfl, rfl, rfl, rfl, rfl, rfl, rfl, rfl, rfl, fun _ h => h⟩

theorem trans {first second third : Level}
    (h : first.SameVisit second) (h' : second.SameVisit third) :
    first.SameVisit third where
  id := h'.id.trans h.id
  flow := h'.flow.trans h.flow
  contactId := h'.contactId.trans h.contactId
  parent := h'.parent.trans h.parent
  contact := h'.contact.trans h.contact
  node := h'.node.trans h.node
  status := h'.status.trans h.status
  depth := h'.depth.trans h.depth
  suspension := h'.suspension.trans h.suspension
  failure := h'.failure.trans h.failure
  nodes := h'.nodes.trans h.nodes
  vars := fun name hname => h'.vars name (h.vars name hname)

theorem note (level : Level) (remark : Note) : level.SameVisit (level.note remark) :=
  ⟨rfl, rfl, rfl, rfl, rfl, rfl, rfl, rfl, rfl, rfl,
    History.nodes_note level.history remark, fun _ h => h⟩

theorem cursor (level : Level) (cursor : Nat) :
    level.SameVisit { level with cursor } :=
  ⟨rfl, rfl, rfl, rfl, rfl, rfl, rfl, rfl, rfl, rfl, rfl, fun _ h => h⟩

theorem insert (level : Level) (name : String) (value : Value) :
    level.SameVisit { level with vars := level.vars.insert name value } where
  id := rfl
  flow := rfl
  contactId := rfl
  parent := rfl
  contact := rfl
  node := rfl
  status := rfl
  depth := rfl
  suspension := rfl
  failure := rfl
  nodes := rfl
  vars := by
    intro other hother
    simp [Fields.has_insert, hother]

theorem union (level : Level) (vars : Values) :
    level.SameVisit { level with vars := vars.union level.vars } where
  id := rfl
  flow := rfl
  contactId := rfl
  parent := rfl
  contact := rfl
  node := rfl
  status := rfl
  depth := rfl
  suspension := rfl
  failure := rfl
  nodes := rfl
  vars := by
    intro other hother
    simp [hother]

end Level.SameVisit

/-! ## Pauses -/

namespace World

/-- A token that was given out between two worlds. -/
def Issued (before after : World) (token : Identifier) : Prop :=
  ∃ n, before.supply.tokens ≤ n ∧ n < after.supply.tokens ∧
    token = ⟨before.supply.firstToken + n⟩

theorem issued_newToken (world : World) :
    world.Issued world.newToken.2 world.newToken.1 :=
  ⟨world.supply.tokens, Nat.le_refl _, Nat.lt_succ_self _, rfl⟩

/-- What was given out in a part of some acting was given out in the whole. -/
theorem Issued.widen {first second third fourth : World} {token : Identifier}
    (h : second.Issued third token) (hfirst : second.supply.firstToken = first.supply.firstToken)
    (hbefore : first.supply.tokens ≤ second.supply.tokens)
    (hafter : third.supply.tokens ≤ fourth.supply.tokens) : first.Issued fourth token := by
  obtain ⟨n, hle, hlt, rfl⟩ := h
  refine ⟨n, Nat.le_trans hbefore hle, Nat.lt_of_lt_of_le hlt hafter, ?_⟩
  rw [hfirst]

end World

namespace Behaviour

/-- Whether a node runs another flow. -/
def isSubflow : Behaviour → Bool
  | .subflow _ => true
  | _ => false

/-- The suspensions that a behaviour pauses with at a node. -/
def Pauses (behaviour : Behaviour) (here : NodeId) (suspension : Suspension) : Prop :=
  match behaviour, suspension.reason with
  | .menu _, .reply node => node = here
  | .delay millis, .timer _ => millis ≠ 0 ∧ suspension.expiresAt = none
  | .content sequence, .timer _ =>
      (sequence.trailing.isSome ∨ ∃ part ∈ sequence.parts, (part.delay.filter (0 < ·)).isSome) ∧
        suspension.expiresAt = none
  | .scripted _, .timer _ => suspension.expiresAt = none
  | _, _ => False

end Behaviour

/-- A step that stays within the visit, and whose pause, if it has one, is of a
certain kind and has a token of its own. -/
structure KeepsVisit (may : Suspension → Prop) (world : World) (run : Run)
    (result : (Outcome × Run) × World) : Prop where
  visit : run.toLevel.SameVisit result.1.2.toLevel
  nested : result.1.2.nested = run.nested
  pause : ∀ suspension, result.1.1 = .suspend suspension →
    world.Issued result.2 suspension.token ∧ may suspension

namespace KeepsVisit

variable {may : Suspension → Prop} {world : World} {run : Run}

/-- A step without a pause only has to stay within the visit. -/
theorem of_no_pause {outcome : Outcome} {after : Run} {world' : World}
    (hvisit : run.toLevel.SameVisit after.toLevel) (hnested : after.nested = run.nested)
    (hpause : ∀ suspension, outcome ≠ .suspend suspension) :
    KeepsVisit may world run ((outcome, after), world') :=
  ⟨hvisit, hnested, fun suspension h => absurd h (hpause suspension)⟩

/-- A step goes on from what an earlier part of it has left. -/
theorem of_earlier {first : Run} {earlier : World} {result : (Outcome × Run) × World}
    (hvisit : run.toLevel.SameVisit first.toLevel) (hnested : first.nested = run.nested)
    (hlater : world.Later earlier) (h : KeepsVisit may earlier first result) :
    KeepsVisit may world run result where
  visit := hvisit.trans h.visit
  nested := h.nested.trans hnested
  pause := by
    intro suspension hsuspension
    obtain ⟨hissued, hmay⟩ := h.pause suspension hsuspension
    exact ⟨hissued.widen hlater.firstToken hlater.tokens (Nat.le_refl _), hmay⟩

end KeepsVisit

namespace Surroundings

variable (around : Surroundings) (world : World) (run : Run)

theorem advance_ne_suspend (suspension : Suspension) :
    around.advance ≠ .suspend suspension := by
  unfold advance
  split <;> simp

theorem act_sleep (millis : Nat) :
    world.act (around.sleep millis) =
      (.suspend (.untilTime world.newToken.1 (around.now.afterMillis millis) around.now),
        world.newToken.2) := by
  unfold sleep
  rw [World.act_bind]
  rfl

/-- What a delivery comes to. -/
theorem act_deliver (part : Nat) (message : Message) (onError : OnError) :
    world.act (around.deliver run part message onError) =
      match world.send run.contactId message with
      | (.ok id, after) => ((none, run.onLevel (·.note (.dispatched part id))), after)
      | (.error e, after) =>
        ((match onError with
          | .proceed => none
          | .abort => some (.fail .dispatch e.message),
          run.onLevel (·.note (.dispatchError part e.complaint))), after) := by
  unfold deliver
  rw [World.act_bind, World.act_send]
  rcases world.send run.contactId message with ⟨result, after⟩
  cases result with
  | ok id => rfl
  | error e => cases onError <;> rfl

/-- A delivery adds a note to the visit; it never pauses. -/
theorem deliver_visit (part : Nat) (message : Message) (onError : OnError) :
    run.toLevel.SameVisit
        (world.act (around.deliver run part message onError)).1.2.toLevel ∧
      (world.act (around.deliver run part message onError)).1.2.nested = run.nested ∧
      ∀ suspension, (world.act (around.deliver run part message onError)).1.1 ≠
        some (.suspend suspension) := by
  rw [act_deliver]
  rcases world.send run.contactId message with ⟨result, after⟩
  cases result with
  | ok id => exact ⟨.note _ _, rfl, by simp⟩
  | error e => cases onError <;> exact ⟨.note _ _, rfl, by simp⟩

/-- A sleep is a pause until a time, without an expiry. -/
theorem sleep_keepsVisit {may : Suspension → Prop} (millis : Nat) (after : Run)
    (hvisit : run.toLevel.SameVisit after.toLevel) (hnested : after.nested = run.nested)
    (hmay : ∀ token time, may (.untilTime token time around.now)) :
    KeepsVisit may world run
      (world.act (do return (← around.sleep millis, after))) := by
  rw [World.act_bind, act_sleep, World.act_pure]
  refine ⟨hvisit, hnested, ?_⟩
  intro suspension hsuspension
  cases hsuspension
  exact ⟨world.issued_newToken, hmay _ _⟩

end Surroundings

/-! ## The behaviours -/

namespace Sequence

variable {around : Surroundings}

theorem sendFrom_keepsVisit (sequence : Sequence) {may : Suspension → Prop}
    (hmay : sequence.trailing.isSome ∨
        (∃ part ∈ sequence.parts, (part.delay.filter (0 < ·)).isSome) →
      ∀ token time, may (.untilTime token time around.now))
    (parts : List Part) (hparts : ∀ part ∈ parts, part ∈ sequence.parts)
    (index : Nat) (world : World) (run : Run) :
    KeepsVisit may world run
      (world.act (sequence.sendFrom around parts index run)) := by
  induction parts generalizing index world run with
  | nil =>
      unfold sendFrom
      cases htrailing : sequence.trailing with
      | none =>
          exact .of_no_pause (.refl _) rfl around.advance_ne_suspend
      | some delay =>
          exact around.sleep_keepsVisit world run delay _ (.cursor _ _) rfl
            (hmay (.inl (by simp [htrailing])))
  | cons part rest ih =>
      unfold sendFrom
      rw [World.act_bind]
      obtain ⟨hvisit, hnested, hpause⟩ := around.deliver_visit world run index
        (message around run.toLevel part) sequence.onError
      have hlater := world.later_act
        (around.deliver run index (message around run.toLevel part) sequence.onError)
      revert hvisit hnested hpause hlater
      rcases world.act (around.deliver run index (message around run.toLevel part)
        sequence.onError) with ⟨⟨failed, after⟩, earlier⟩
      intro hvisit hnested hpause hlater
      refine .of_earlier hvisit hnested hlater ?_
      cases failed with
      | some outcome =>
          exact .of_no_pause (.refl _) rfl fun suspension h => hpause suspension (h ▸ rfl)
      | none =>
          dsimp only
          cases hdelay : part.delay.filter (0 < ·) with
          | none => exact ih (fun other hother => hparts other (.tail _ hother)) _ _ _
          | some delay =>
              refine around.sleep_keepsVisit _ _ _ _ (.cursor _ _) rfl
                (hmay (.inr ⟨part, hparts part (.head _), ?_⟩))
              simp [hdelay]

theorem step_keepsVisit (sequence : Sequence) (world : World) (run : Run) :
    KeepsVisit ((Behaviour.content sequence).Pauses run.node) world run
      (world.act (sequence.step around run)) := by
  unfold step
  split
  · exact .of_no_pause (.refl _) rfl around.advance_ne_suspend
  · refine sequence.sendFrom_keepsVisit (fun h token time => ⟨h, rfl⟩) _ ?_ _ _ _
    exact fun part hpart => List.mem_of_mem_drop hpart

end Sequence

namespace Menu

variable (menu : Menu) {around : Surroundings}

theorem keep_visit (run : Run) (answer : String) :
    run.toLevel.SameVisit (menu.keep run answer).toLevel ∧
      (menu.keep run answer).nested = run.nested := by
  unfold keep
  split
  · exact ⟨.insert _ _ _, rfl⟩
  · exact ⟨.refl _, rfl⟩

theorem act_wait (world : World) (run : Run) :
    world.act (menu.wait around run) =
      (.suspend (.forReply world.newToken.1 run.node around.now
        ((menu.timeout.or around.inputTimeout).map around.now.afterMillis)),
        world.newToken.2) := by
  unfold wait
  rw [World.act_bind]
  rfl

/-- A wait is a pause for a reply at the current node. -/
theorem wait_keepsVisit (world : World) (run after : Run)
    (hvisit : run.toLevel.SameVisit after.toLevel) (hnested : after.nested = run.nested) :
    KeepsVisit ((Behaviour.menu menu).Pauses run.node) world run
      (world.act (do return (← menu.wait around after, after))) := by
  rw [World.act_bind, act_wait, World.act_pure]
  refine ⟨hvisit, hnested, ?_⟩
  intro suspension hsuspension
  cases hsuspension
  exact ⟨world.issued_newToken, hvisit.node⟩

theorem unmatched_keepsVisit (world : World) (run : Run) (answer : String) :
    KeepsVisit ((Behaviour.menu menu).Pauses run.node) world run
      (world.act (menu.unmatched around run answer)) := by
  unfold unmatched
  split
  · exact .of_no_pause (menu.keep_visit run answer).1 (menu.keep_visit run answer).2 (by simp)
  · exact menu.wait_keepsVisit world run _ (.note _ _) rfl

theorem step_keepsVisit (world : World) (run : Run) (payload : Option Payload) :
    KeepsVisit ((Behaviour.menu menu).Pauses run.node) world run
      (world.act (menu.step around run payload)) := by
  have kept (answer : String) {outcome : Outcome}
      (houtcome : ∀ suspension, outcome ≠ .suspend suspension) :
      KeepsVisit ((Behaviour.menu menu).Pauses run.node) world run
        (world.act (pure (outcome, menu.keep run answer))) :=
    .of_no_pause (menu.keep_visit run answer).1 (menu.keep_visit run answer).2 houtcome
  unfold step
  split
  · unfold takeReply
    dsimp only
    split
    · exact kept _ around.advance_ne_suspend
    · split
      · exact kept _ (by simp)
      · exact menu.unmatched_keepsVisit world run _
  · unfold takeSelection
    split
    · exact kept _ (by simp)
    · split
      · exact .of_no_pause (.refl _) rfl (by simp)
      · exact menu.unmatched_keepsVisit world run _
  · exact .of_no_pause (.refl _) rfl (by simp)
  · split
    · exact menu.wait_keepsVisit world run run (.refl _) rfl
    · next prompt _ =>
      rw [World.act_bind]
      obtain ⟨hvisit, hnested, hpause⟩ := around.deliver_visit world run 0
        ⟨.text, menu.promptText around run.toLevel prompt, none⟩ menu.onError
      have hlater := world.later_act (around.deliver run 0
        ⟨.text, menu.promptText around run.toLevel prompt, none⟩ menu.onError)
      revert hvisit hnested hpause hlater
      rcases world.act (around.deliver run 0
        ⟨.text, menu.promptText around run.toLevel prompt, none⟩ menu.onError) with
        ⟨⟨failed, after⟩, earlier⟩
      intro hvisit hnested hpause hlater
      cases failed with
      | some outcome =>
          exact .of_no_pause hvisit hnested fun suspension h => hpause suspension (h ▸ rfl)
      | none =>
          refine .of_earlier hvisit hnested hlater ?_
          rw [← hvisit.node]
          exact menu.wait_keepsVisit earlier after after (.refl _) rfl

end Menu

theorem delayStep_keepsVisit (millis : Nat) (around : Surroundings) (world : World)
    (run : Run) (payload : Option Payload) :
    KeepsVisit ((Behaviour.delay millis).Pauses run.node) world run
      (world.act (delayStep millis around run payload)) := by
  unfold delayStep
  split
  · exact .of_no_pause (.refl _) rfl around.advance_ne_suspend
  · next h =>
    refine around.sleep_keepsVisit world run millis run (.refl _) rfl ?_
    intro token time
    refine ⟨?_, rfl⟩
    rintro rfl
    simp at h

theorem assignStep_keepsVisit (queue : String) (onError : OnError) (around : Surroundings)
    {may : Suspension → Prop} (world : World) (run : Run) :
    KeepsVisit may world run (world.act (assignStep queue onError around run)) := by
  unfold assignStep
  dsimp only
  -- With or without asking anyone, the answer is dealt with in the same way.
  split <;>
  · rw [World.act_bind]
    generalize world.act _ = asked
    rcases asked with ⟨result, after⟩
    cases result with
    | ok _ => exact .of_no_pause (.note _ _) rfl around.advance_ne_suspend
    | error e =>
        cases onError with
        | proceed => exact .of_no_pause (.note _ _) rfl around.advance_ne_suspend
        | abort => exact .of_no_pause (.note _ _) rfl (by simp)

theorem Script.step_keepsVisit (script : Script) (around : Surroundings) (world : World)
    (run : Run) (payload : Option Payload) :
    KeepsVisit ((Behaviour.scripted script).Pauses run.node) world run
      (world.act (script.step around run payload)) := by
  have hvisit := Level.SameVisit.union run.toLevel script.vars
  unfold step
  dsimp only
  cases script.act with
  | sleep millis =>
      dsimp only
      split
      · exact .of_no_pause hvisit rfl around.advance_ne_suspend
      · exact around.sleep_keepsVisit world run millis _ hvisit rfl fun _ _ => rfl
  | advance => exact .of_no_pause hvisit rfl around.advance_ne_suspend
  | go node => exact .of_no_pause hvisit rfl (by simp)
  | complete => exact .of_no_pause hvisit rfl (by simp)
  | fail kind message => exact .of_no_pause hvisit rfl (by simp)
  | raiseDispatch message => exact .of_no_pause hvisit rfl (by simp [Outcome.raised])
  | raiseAssignment queue message => exact .of_no_pause hvisit rfl (by simp [Outcome.raised])
  | raiseConfiguration message => exact .of_no_pause hvisit rfl (by simp [Outcome.raised])
  | raiseExecution message => exact .of_no_pause hvisit rfl (by simp [Outcome.raised])

/-- Every node but one that runs another flow stays within its visit. -/
theorem Behaviour.step_keepsVisit {behaviour : Behaviour} (h : behaviour.isSubflow = false)
    (around : Surroundings) (world : World) (run : Run) (payload : Option Payload) :
    KeepsVisit (behaviour.Pauses run.node) world run
      (world.act (behaviour.step around run payload)) := by
  cases behaviour with
  | start => exact .of_no_pause (.refl _) rfl around.advance_ne_suspend
  | content sequence => exact sequence.step_keepsVisit world run
  | menu question => exact question.step_keepsVisit world run payload
  | delay millis => exact delayStep_keepsVisit millis around world run payload
  | condition rules otherwise =>
      refine .of_no_pause (.refl _) rfl ?_
      unfold conditionStep
      split <;> simp
  | assignQueue queue onError => exact assignStep_keepsVisit queue onError around world run
  | subflow flow => simp [isSubflow] at h
  | scripted script => exact script.step_keepsVisit around world run payload
  | unknown kind => exact .of_no_pause (.note _ _) rfl around.advance_ne_suspend

end Dialogue
