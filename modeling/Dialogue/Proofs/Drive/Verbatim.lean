import Dialogue.Proofs.Drive.Keeping
import Dialogue.Proofs.Drive.Sequence
import Dialogue.Proofs.Template.Reference

/-!
# Variables in what is sent

A message with one reference to a variable is sent with the text of the variable in
the place of the reference, whatever the text looks like.  With what a drive keeps
of variables this says what every sequence sends that a drive comes to.
-/

namespace Dialogue

open Template

/-- Where a variable holds a text, a reference to it is rendered to the text as it is. -/
theorem View.render_text {before after name text : String} (hbefore : Literal before.toList)
    (hname : IsName name) (hafter : Literal after.toList) {view : View}
    (hheld : view.vars.get? name = some (.string text)) :
    view.render (before ++ reference name ++ after) = before ++ text ++ after := by
  rw [view.render_reference hbefore hname hafter, hheld]
  rfl

namespace Sequence

/-- What a step of a sequence sends of the parts that it goes on with, as a level sees them: each of
them, up to the first one that has a wait after it or is the last that is tried. -/
inductive Sent (sequence : Sequence) (around : Surroundings) (level : Level) :
    List Part → List Delivery → Prop
  | nothing : Sent sequence around level [] []
  | last {part rest answer}
      (stops : part.wait?.isSome = true ∨ sequence.onError = .abort ∧ answer.isOk = false) :
      Sent sequence around level (part :: rest)
        [.sent level.contactId (message around level part) answer]
  | next {part rest answer asked} (unhurt : sequence.onError = .abort → answer.isOk = true)
      (unpaused : part.wait? = none) (others : Sent sequence around level rest asked) :
      Sent sequence around level (part :: rest)
        (.sent level.contactId (message around level part) answer :: asked)

theorem sendFrom_sent (sequence : Sequence) (around : Surroundings) {level : Level}
    (parts : List Part) (index : Nat) (world : World) (run : Run)
    (hseen : SeenAs run.toLevel level) :
    ∃ asked, world.Asks asked (world.act (sequence.sendFrom around parts index run)).2 ∧
      sequence.Sent around level parts asked := by
  induction parts generalizing index world run with
  | nil =>
      refine ⟨[], World.asks_nothing ?_, .nothing⟩
      unfold sendFrom
      cases sequence.trailing <;> rfl
  | cons part rest ih =>
      obtain ⟨answer, between, remark, hasks, -, hgoes⟩ :=
        sequence.act_sendFrom_cons around world run part rest index
      rw [hseen.message, hseen.contactId] at hasks
      rcases hgoes with ⟨e, habort, hanswer, hact⟩ | ⟨hunhurt, hact⟩
      · rw [hact]
        exact ⟨_, hasks, .last (.inr ⟨habort, by rw [hanswer]; rfl⟩)⟩
      · rw [hact]
        cases hwait : part.wait? with
        | some millis =>
            rw [act_goOn_wait hwait]
            exact ⟨_, hasks.still rfl, .last (.inl (by rw [hwait]; rfl))⟩
        | none =>
            rw [goOn_next hwait]
            obtain ⟨asked, hothers, hsent⟩ := ih (index + 1) between
              (run.onLevel (·.note remark)) ⟨hseen.contactId, hseen.contact, hseen.vars⟩
            exact ⟨_, hasks.trans hothers, .next hunhurt hwait hsent⟩

/-- A step sends from the cursor on. -/
theorem step_sent (sequence : Sequence) (around : Surroundings) (world : World) (run : Run) :
    ∃ asked, world.Asks asked (world.act (sequence.step around run)).2 ∧
      sequence.Sent around run.toLevel (sequence.parts.drop run.cursor) asked := by
  unfold step
  split
  · next hdone =>
    have hnone : sequence.parts.drop run.cursor = [] :=
      List.drop_eq_nil_of_le (Nat.le_of_succ_le hdone)
    rw [hnone]
    exact ⟨[], World.asks_nothing rfl, .nothing⟩
  · exact sequence.sendFrom_sent around _ _ _ _ ⟨rfl, rfl, rfl⟩

/-- A step of a sequence sends the parts that it comes to, and in what is sent a text stands in the
place of a reference to a variable, exactly as it is. -/
structure Quotes (sequence : Sequence) (around : Surroundings) (name text : String)
    (world : World) (run : Run) : Prop where
  sent : ∃ asked, world.Asks asked (world.act (sequence.step around run)).2 ∧
    sequence.Sent around run.toLevel (sequence.parts.drop run.cursor) asked
  body : ∀ part before after, Literal before.toList → Literal after.toList →
    part.value = before ++ reference name ++ after →
    (message around run.toLevel part).body = before ++ text ++ after
  caption : ∀ part before after, Literal before.toList → Literal after.toList →
    part.caption = some (before ++ reference name ++ after) →
    (message around run.toLevel part).caption = some (before ++ text ++ after)

theorem quotes_of_held {name text : String} {run : Run} (hname : IsName name)
    (hheld : run.vars.get? name = some (.string text)) (sequence : Sequence)
    (around : Surroundings) (world : World) : sequence.Quotes around name text world run where
  sent := sequence.step_sent around world run
  body := by
    intro part before after hbefore hafter hvalue
    rw [message, hvalue]
    exact View.render_text hbefore hname hafter hheld
  caption := by
    intro part before after hbefore hafter hcaption
    rw [message, hcaption]
    exact congrArg some (View.render_text hbefore hname hafter hheld)

end Sequence

namespace Drive

variable {bounds : Bounds} {flows : Flows} {name text : String} {leg : Leg}

/-- Every sequence that is sent in a drive, whichever nested run sends it, has a text in the place
of a reference to a variable. -/
def Leg.Quotes (bounds : Bounds) (name text : String) (leg : Leg) : Prop :=
  ∀ outer graph left payload world run world' run' node sequence,
    Part bounds leg outer ⟨.walk graph (left + 1) payload, world, run, world', run'⟩ →
    graph.find? run.node = some node → node.behaviour = .content sequence →
    sequence.Quotes (alone bounds node) name text world run

/-- Where a text is due of a variable, it is quoted. -/
theorem Leg.Due.quotes (h : leg.Due bounds flows name (.string text)) (hname : IsName name)
    (hstandard : ∀ id graph, flows id = .ok graph → graph.Standard)
    (hsteps : 0 < bounds.settings.maxSteps) : leg.Quotes bounds name text := by
  intro outer graph left payload world run world' run' node sequence hpart hnode hcontent
  have hdue := (hpart.due hstandard hsteps h).due
  have hplain : node.behaviour.isSubflow = false := by
    rw [hcontent]
    rfl
  have hheld := hdue.written hnode (hdue.nested hnode hplain)
  rw [hcontent] at hheld
  exact sequence.quotes_of_held hname hheld (alone bounds node) world

/-- Where no step may be taken, no sequence is sent. -/
theorem Leg.quotes_of_no_steps {graph : Graph} {payload : Option Payload}
    (hphase : leg.phase = .level graph payload) (hsteps : bounds.settings.maxSteps = 0) :
    leg.Quotes bounds name text := by
  intro outer graph' left payload' world run world' run' node sequence hpart
  exfalso
  have hover {outer : List Run} {start part : Leg} (h : Part bounds start outer part)
      {payload : Option Payload} (hstart : start.phase = .walk graph 0 payload) :
      part.phase = .walk graph 0 payload := by
    cases h with
    | whole goes => exact hstart
    | after next rest => cases next <;> cases hstart
    | within hosts rest => cases hosts <;> cases hstart
  obtain ⟨phase, before, start, world'', run''⟩ := leg
  cases hphase
  cases hpart with
  | after next rest =>
      cases next with
      | enter => cases hover rest (by rw [hsteps])
      | wake => cases hover rest (by rw [hsteps])
  | within hosts rest => cases hosts

end Drive

end Dialogue
