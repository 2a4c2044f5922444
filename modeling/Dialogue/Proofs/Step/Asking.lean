import Dialogue.Step.Behaviour
import Dialogue.Proofs.Run.Traces
import Dialogue.Proofs.World.Asking

/-!
# What a step asks for

A step of a node that does not run another flow asks the collaborators for
something, for one part after the other, and notes each answer before it asks
again.  `Consults` says so of a part of a step and of the whole: the notes about
calls are those that the calls leave, in order.
-/

namespace Dialogue

/-- What a node may ask for about a part, for a level that stands at it: a sequence sends its parts,
a menu its prompt, and an assignment is to a queue whose name is not blank. -/
inductive Behaviour.Makes (around : Surroundings) (level : Level) :
    Behaviour → Nat → Delivery → Prop
  | part {sequence : Sequence} {i part result} (h : sequence.parts[i]? = some part) :
      Makes around level (.content sequence) i
        (.sent level.contactId (Sequence.message around level part) result)
  | prompt {menu : Menu} {prompt result} (h : menu.prompt = some prompt) :
      Makes around level (.menu menu) 0
        (.sent level.contactId ⟨.text, menu.promptText around level prompt, none⟩ result)
  | queue {template onError i result}
      (h : (Text.trim (around.render level template)).isEmpty = false) :
      Makes around level (.assignQueue template onError) i
        (.assigned level.contactId (around.render level template) result)

/-- The notes that calls about consecutive parts leave. -/
def Delivery.notes (first : Nat) (asked : List Delivery) : List Note :=
  (asked.zipIdx first).map fun (delivery, part) => delivery.note part

/-- Work at a node that asks for something, about one part after the other from one on, and notes
each answer. -/
structure Consults (may : Nat → Delivery → Prop) (first : Nat) (asked : List Delivery)
    (world : World) (before : Level) (world' : World) (after : Level) : Prop where
  asks : world.Asks asked world'
  noted : ∃ remarks, after.history = before.history.noted remarks ∧
    remarks.filter Note.tellsOfCall = Delivery.notes first asked
  may : ∀ delivery part, (delivery, part) ∈ asked.zipIdx first → may part delivery

namespace Consults

variable {may : Nat → Delivery → Prop} {first : Nat} {world world' : World} {before after : Level}

theorem trans {middle : Level} {between : World} {asked asked' : List Delivery}
    (h : Consults may first asked world before between middle)
    (h' : Consults may (first + asked.length) asked' between middle world' after) :
    Consults may first (asked ++ asked') world before world' after where
  asks := h.asks.trans h'.asks
  noted := by
    obtain ⟨remarks, hmiddle, htells⟩ := h.noted
    obtain ⟨remarks', hafter, htells'⟩ := h'.noted
    refine ⟨remarks ++ remarks', ?_, ?_⟩
    · rw [hafter, hmiddle, History.noted, History.noted, History.noted, List.foldl_append]
    · rw [List.filter_append, htells, htells', Delivery.notes, Delivery.notes, Delivery.notes,
        List.zipIdx_append, List.map_append]
  may := by
    intro delivery part hmem
    rw [List.zipIdx_append] at hmem
    exact (List.mem_append.mp hmem).elim (h.may delivery part) (h'.may delivery part)

/-- Nobody is asked anything, and nothing is noted. -/
theorem nothing (hledger : world'.ledger = world.ledger)
    (hhistory : after.history = before.history) :
    Consults may first [] world before world' after where
  asks := World.asks_nothing hledger
  noted := ⟨[], hhistory, rfl⟩
  may := by simp

/-- Something is noted without asking anyone. -/
theorem remark (hledger : world'.ledger = world.ledger) {remark : Note}
    (hhistory : after.history = before.history.note remark) (htells : remark.tellsOfCall = false) :
    Consults may first [] world before world' after where
  asks := World.asks_nothing hledger
  noted := ⟨[remark], hhistory, by simp [htells, Delivery.notes]⟩
  may := by simp

/-- Something is asked for and the answer is noted. -/
theorem single {delivery : Delivery} (hasks : world.Asks [delivery] world')
    (hhistory : after.history = before.history.note (delivery.note first))
    (htells : (delivery.note first).tellsOfCall = true) (hmay : may first delivery) :
    Consults may first [delivery] world before world' after where
  asks := hasks
  noted := ⟨[delivery.note first], hhistory, by simp [htells, Delivery.notes]⟩
  may := by simpa using hmay

/-- What is done without asking anyone or noting anything makes no difference. -/
theorem still {third : World} {last : Level} {asked : List Delivery}
    (h : Consults may first asked world before world' after)
    (hledger : third.ledger = world'.ledger) (hhistory : last.history = after.history) :
    Consults may first asked world before third last where
  asks := h.asks.still hledger
  noted := by
    rw [hhistory]
    exact h.noted
  may := h.may

/-- The traces of calls are those that the calls leave on the visit that goes on. -/
theorem traces {asked : List Delivery} (h : Consults may first asked world before world' after)
    (hhere : before.Here) :
    after.history.traces = before.history.traces ++
      (Delivery.notes first asked).map (⟨before.history.length, before.node, ·⟩) := by
  obtain ⟨remarks, hafter, htells⟩ := h.noted
  rw [hafter, History.traces_noted hhere, htells]

end Consults

/-- A step that asks for something about one part after the other, from one on. -/
def ConsultsFrom (may : Nat → Delivery → Prop) (first : Nat) (world : World) (run : Run)
    (result : (Outcome × Run) × World) : Prop :=
  ∃ asked, Consults may first asked world run.toLevel result.2 result.1.2.toLevel

namespace ConsultsFrom

variable {may : Nat → Delivery → Prop} {first : Nat} {world : World} {run : Run}
  {result : (Outcome × Run) × World}

/-- A step that asks nobody anything and notes nothing. -/
theorem nothing (hledger : result.2.ledger = world.ledger)
    (hhistory : result.1.2.history = run.history) : ConsultsFrom may first world run result :=
  ⟨[], .nothing hledger hhistory⟩

/-- A step that asks nobody anything and notes so. -/
theorem remark (hledger : result.2.ledger = world.ledger) {remark : Note}
    (hhistory : result.1.2.history = run.history.note remark)
    (htells : remark.tellsOfCall = false) : ConsultsFrom may first world run result :=
  ⟨[], .remark hledger hhistory htells⟩

end ConsultsFrom

/-- A message that is sent is noted, whether or not it can be delivered. -/
theorem Surroundings.deliver_consults (around : Surroundings) (world : World) (run : Run)
    {may : Nat → Delivery → Prop} (part : Nat) (message : Message) (onError : OnError)
    (hmay : ∀ result, may part (.sent run.contactId message result)) :
    ∃ asked remark,
      (world.act (around.deliver run part message onError)).1.2 = run.onLevel (·.note remark) ∧
      Consults may part [asked] world run.toLevel
        (world.act (around.deliver run part message onError)).2
        (world.act (around.deliver run part message onError)).1.2.toLevel := by
  have hasks := world.asks_send run.contactId message
  rw [act_deliver]
  revert hasks
  rcases world.send run.contactId message with ⟨result, after⟩
  intro hasks
  cases result with
  | ok id => exact ⟨_, _, rfl, .single hasks rfl rfl (hmay _)⟩
  | error e => exact ⟨_, _, rfl, .single hasks rfl rfl (hmay _)⟩

namespace Sequence

/-- Parts that are sent one after the other are noted one after the other. -/
theorem sendFrom_consults (sequence : Sequence) (around : Surroundings)
    {may : Nat → Delivery → Prop} (parts : List Part) (index : Nat)
    (hparts : sequence.parts.drop index = parts) (world : World) (run : Run)
    (hmay : ∀ i part result, sequence.parts[i]? = some part →
      may i (.sent run.contactId (message around run.toLevel part) result)) :
    ConsultsFrom may index world run (world.act (sequence.sendFrom around parts index run)) := by
  induction parts generalizing index world run with
  | nil =>
      unfold sendFrom
      cases sequence.trailing with
      | none => exact .nothing rfl rfl
      | some delay => exact .nothing rfl rfl
  | cons part rest ih =>
      have hpart : sequence.parts[index]? = some part := by
        rw [← List.head?_drop, hparts, List.head?_cons]
      have hrest : sequence.parts.drop (index + 1) = rest := by
        rw [← List.tail_drop, hparts, List.tail_cons]
      unfold sendFrom
      rw [World.act_bind]
      obtain ⟨asked, remark, hrun, hsent⟩ := around.deliver_consults world run index
        (message around run.toLevel part) sequence.onError fun result => hmay _ _ result hpart
      revert hrun hsent
      rcases world.act (around.deliver run index (message around run.toLevel part)
        sequence.onError) with ⟨⟨failed, after⟩, earlier⟩
      rintro rfl hsent
      cases failed with
      | some outcome => exact ⟨_, hsent⟩
      | none =>
          dsimp only
          cases part.delay.filter (0 < ·) with
          | some delay => exact ⟨_, hsent.still rfl rfl⟩
          | none =>
              -- A note makes no difference to how the parts after it are rendered.
              obtain ⟨others, hothers⟩ := ih (index + 1) hrest earlier
                (run.onLevel (·.note remark)) hmay
              exact ⟨_, hsent.trans hothers⟩

theorem step_consults (sequence : Sequence) (around : Surroundings) (world : World) (run : Run) :
    ConsultsFrom ((Behaviour.content sequence).Makes around run.toLevel) run.cursor world run
      (world.act (sequence.step around run)) := by
  unfold step
  split
  · exact .nothing rfl rfl
  · exact sequence.sendFrom_consults around _ _ rfl world run fun i part result h => .part h

end Sequence

namespace Menu

variable (menu : Menu) (around : Surroundings) (world : World) (run : Run)

theorem history_keep (answer : String) : (menu.keep run answer).history = run.history := by
  unfold keep
  split <;> rfl

/-- An answer is taken without asking anyone. -/
theorem answered_consults {may : Nat → Delivery → Prop} (first : Nat) (payload : Payload) :
    ConsultsFrom may first world run (world.act (menu.step around run (some payload))) := by
  have kept (outcome : Outcome) (answer : String) :
      ConsultsFrom may first world run ((outcome, menu.keep run answer), world) :=
    .nothing rfl (menu.history_keep run answer)
  have unmatched (answer : String) :
      ConsultsFrom may first world run (world.act (menu.unmatched around run answer)) := by
    unfold unmatched
    cases menu.fallback with
    | some node => exact kept _ answer
    | none =>
        dsimp only
        rw [World.act_bind, menu.act_wait]
        exact .remark rfl rfl rfl
  cases payload with
  | reply text =>
      unfold step takeReply
      dsimp only
      split
      · exact kept _ _
      · split
        · exact kept _ _
        · exact unmatched _
  | select node =>
      unfold step takeSelection
      dsimp only
      split
      · exact kept _ _
      · split
        · exact .nothing rfl rfl
        · exact unmatched _
  | elapsed => exact .nothing rfl rfl

/-- The prompt is sent, if there is one. -/
theorem asked_consults :
    ConsultsFrom ((Behaviour.menu menu).Makes around run.toLevel) 0 world run
      (world.act (menu.step around run none)) := by
  unfold step
  cases hprompt : menu.prompt with
  | none =>
      dsimp only
      rw [World.act_bind, menu.act_wait]
      exact .nothing rfl rfl
  | some prompt =>
      dsimp only
      rw [World.act_bind]
      obtain ⟨asked, remark, hrun, hsent⟩ := around.deliver_consults world run 0
        ⟨.text, menu.promptText around run.toLevel prompt, none⟩ menu.onError
        fun result => Behaviour.Makes.prompt hprompt
      revert hrun hsent
      rcases world.act (around.deliver run 0
        ⟨.text, menu.promptText around run.toLevel prompt, none⟩ menu.onError) with
        ⟨⟨failed, after⟩, earlier⟩
      intro hrun hsent
      cases failed with
      | some outcome => exact ⟨_, hsent⟩
      | none =>
          dsimp only
          rw [World.act_bind, menu.act_wait]
          exact ⟨_, hsent.still rfl rfl⟩

end Menu

/-- An assignment is noted whether or not it succeeds.  One to a blank queue fails without asking
anyone, and the note about it tells of no call. -/
theorem assignStep_consults (template : String) (onError : OnError) (around : Surroundings)
    (first : Nat) (world : World) (run : Run) :
    ConsultsFrom ((Behaviour.assignQueue template onError).Makes around run.toLevel) first world
      run (world.act (assignStep template onError around run)) := by
  unfold assignStep
  dsimp only
  split
  · next hblank =>
    cases onError <;> exact .remark rfl rfl (by simp [Note.tellsOfCall, hblank])
  · next hqueue =>
    have hasks := world.asks_assign run.contactId (around.render run.toLevel template)
    rw [World.act_bind, World.act_assign]
    revert hasks
    rcases world.assign run.contactId (around.render run.toLevel template) with ⟨result, after⟩
    intro hasks
    have hmakes (result : Except AssignmentError Unit) :
        (Behaviour.assignQueue template onError).Makes around run.toLevel first
          (.assigned run.contactId (around.render run.toLevel template) result) :=
      .queue (by simpa using hqueue)
    cases result with
    | ok _ => exact ⟨_, .single hasks rfl rfl (hmakes _)⟩
    | error e =>
        have htells : (Note.assignmentError (around.render run.toLevel template)
            e.complaint).tellsOfCall = true := by simpa [Note.tellsOfCall] using hqueue
        cases onError <;> exact ⟨_, .single hasks rfl htells (hmakes _)⟩

theorem delayStep_consults {may : Nat → Delivery → Prop} (millis : Nat) (around : Surroundings)
    (first : Nat) (world : World) (run : Run) (payload : Option Payload) :
    ConsultsFrom may first world run (world.act (delayStep millis around run payload)) := by
  unfold delayStep
  split
  · exact .nothing rfl rfl
  · exact .nothing rfl rfl

/-- A scripted node has no access to the collaborators. -/
theorem Script.step_consults {may : Nat → Delivery → Prop} (script : Script)
    (around : Surroundings) (first : Nat) (world : World) (run : Run) (payload : Option Payload) :
    ConsultsFrom may first world run (world.act (script.step around run payload)) := by
  unfold step
  dsimp only
  cases script.act with
  | sleep millis =>
      dsimp only
      split
      · exact .nothing rfl rfl
      · exact .nothing rfl rfl
  | _ => exact .nothing rfl rfl

/-- A node asks for what belongs to it, for the part where its level has got to and those after it,
and notes every answer.  A level that has just come to its node begins with the first part. -/
theorem Behaviour.step_consults {behaviour : Behaviour} (h : behaviour.isSubflow = false)
    (around : Surroundings) (world : World) (run : Run) (payload : Option Payload)
    (hcursor : payload = none → run.cursor = 0) :
    ConsultsFrom (behaviour.Makes around run.toLevel) run.cursor world run
      (world.act (behaviour.step around run payload)) := by
  cases behaviour with
  | start => exact .nothing rfl rfl
  | content sequence => exact sequence.step_consults around world run
  | menu menu =>
      cases payload with
      | none =>
          rw [hcursor rfl]
          exact menu.asked_consults around world run
      | some payload => exact menu.answered_consults around world run _ payload
  | delay millis => exact delayStep_consults millis around _ world run payload
  | condition rules otherwise => exact .nothing rfl rfl
  | assignQueue queue onError => exact assignStep_consults queue onError around _ world run
  | subflow flow => simp [isSubflow] at h
  | scripted script => exact script.step_consults around _ world run payload
  | unknown kind => exact .remark rfl rfl rfl

end Dialogue
