import Dialogue.Proofs.Decoding
import Dialogue.Proofs.Drive.Course
import Dialogue.Proofs.World.Asking
import Dialogue.Proofs.Engine.Order

/-!
# Sending a sequence in one visit

A visit to a node may take many steps: whenever the node pauses, the run is stored
and a later drive takes the next step.  `Stays` is a whole visit, with each of its
steps in a world of its own, as nothing is known of what others do in between.
Drives go through a visit so: each takes one step of it (`Course.takes_step`), and
begins where the one before has paused (`Course.resumes`).

A sequence keeps in its cursor how far it has got.  What a step still has to do
when it goes on with a part is the same whether it has just sent the part before
it or was resumed behind it; so one induction over the parts that are left covers
all pauses, and the cursor is never spoken of outside its proof.
-/

namespace Dialogue

/-! ## Visits of several steps -/

/-- When a step of a visit is taken: within which bounds, and in which world. -/
structure Turn where
  bounds : Bounds
  world : World

/-- One thing that is done during a visit. -/
inductive Doing where
  /-- A collaborator is asked. -/
  | asked (delivery : Delivery)
  /-- The run pauses at the node. -/
  | paused (suspension : Suspension)
  /-- The run leaves the node, or ends at it. -/
  | left (outcome : Outcome)

/-- A run that has paused, at the beginning of the drive that resumes it. -/
def Run.resumedFrom (run : Run) (suspension : Suspension) : Run :=
  (run.onLevel (·.suspend suspension)).awake

/-- What comes with the step that a visit takes in a turn: the first one begins it, and each later
one is due to a timer. -/
def Turn.payload? : Nat → Option Payload
  | 0 => none
  | _ + 1 => some .elapsed

/-- A visit to a node that runs no other flow, from a turn until the run leaves the node: what is
done in it. -/
inductive Stays (node : Graph.Node) (turns : Nat → Turn) : Nat → Run → List Doing → Prop
  | leave {i run outcome run' world' asked}
      (step : (turns i).world.act (node.behaviour.step (Drive.alone (turns i).bounds node) run
        (Turn.payload? i)) = ((outcome, run'), world'))
      (asks : (turns i).world.Asks asked world')
      (leaves : ∀ suspension, outcome ≠ .suspend suspension) :
      Stays node turns i run (asked.map .asked ++ [.left outcome])
  | pause {i run suspension run' world' asked did}
      (step : (turns i).world.act (node.behaviour.step (Drive.alone (turns i).bounds node) run
        (Turn.payload? i)) = ((.suspend suspension, run'), world'))
      (asks : (turns i).world.Asks asked world')
      (rest : Stays node turns (i + 1) (run'.resumedFrom suspension) did) :
      Stays node turns i run (asked.map .asked ++ .paused suspension :: did)

/-- There is only one way for a visit to go. -/
theorem Stays.unique {node : Graph.Node} {turns : Nat → Turn} {i : Nat} {run : Run}
    {did did' : List Doing} (h : Stays node turns i run did) (h' : Stays node turns i run did') :
    did = did' := by
  induction h generalizing did' with
  | leave step asks leaves =>
      cases h' with
      | leave step' asks' leaves' =>
          obtain ⟨⟨rfl, rfl⟩, rfl⟩ := by simpa only [Prod.mk.injEq] using step.symm.trans step'
          rw [asks.unique asks']
      | pause step' asks' rest' =>
          have houtcome := congrArg (·.1.1) (step.symm.trans step')
          exact absurd houtcome (leaves _)
  | pause step asks rest ih =>
      cases h' with
      | leave step' asks' leaves' =>
          have houtcome := congrArg (·.1.1) (step'.symm.trans step)
          exact absurd houtcome (leaves' _)
      | pause step' asks' rest' =>
          obtain ⟨⟨hpause, rfl⟩, rfl⟩ := by
            simpa only [Prod.mk.injEq] using step.symm.trans step'
          obtain rfl := Outcome.suspend.inj hpause
          rw [asks.unique asks', ih rest']

namespace Drive

variable {bounds : Bounds} {graph : Graph} {left : Nat} {world stepped after : World}
  {run run' : Run}

/-- A drive that comes to a node takes a step of it, and goes on as the step says. -/
theorem Course.takes_step {node : Graph.Node} {payload : Option Payload}
    (h : Course bounds (.walk graph (left + 1) payload) world run after run')
    (hnode : graph.find? run.node = some node) (hplain : node.behaviour.isSubflow = false) :
    ∃ outcome taken between, world.act (node.behaviour.step (alone bounds node) run payload) =
        ((outcome, taken), between) ∧
      Course bounds (.leave graph left outcome) between taken after run' := by
  cases h with
  | missing hmissing => simp [hmissing] at hnode
  | plain hfound hother hstep rest =>
      obtain rfl := Option.some.inj (hfound.symm.trans hnode)
      exact ⟨_, _, _, hstep, rest⟩
  | tooDeep hfound hflow | unloadable hfound hflow | nest hfound hflow | orphan hfound hflow
  | lost hfound hflow | pass hfound hflow =>
      obtain rfl := Option.some.inj (hfound.symm.trans hnode)
      simp [hflow, Behaviour.isSubflow] at hplain

/-- A run that pauses in one drive is resumed by the next one as a visit goes on. -/
theorem Course.resumes {bounds' : Bounds} {suspension : Suspension} {payload : Payload}
    {world' after' : World} {taken resumed : Run}
    (h : Course bounds (.leave graph left (.suspend suspension)) world taken after run)
    (h' : Course bounds' (.level graph (some payload)) world' run after' resumed) :
    Course bounds' (.walk graph bounds'.settings.maxSteps (some payload)) world'
      (taken.resumedFrom suspension) after' resumed := by
  cases h
  cases h' with
  | wake rest => exact rest

end Drive

/-! ## Sequences -/

/-- How a run leaves a node: it goes on to the successor, or ends the flow where there is none. -/
def Graph.Node.onward (node : Graph.Node) : Outcome :=
  match node.successor with
  | some next => .go next
  | none => .complete

/-- How long to wait after a part, if at all. -/
def Part.wait? (part : Part) : Option Nat := part.delay.filter (0 < ·)

namespace Sequence

section

variable (node : Graph.Node) (turns : Nat → Turn) (level : Level) (i : Nat)

/-- The pause that a run makes in a turn for some milliseconds. -/
def pause (millis : Nat) : Doing :=
  .paused (.untilTime (turns i).world.newToken.1 ((turns i).bounds.now.afterMillis millis)
    (turns i).bounds.now)

/-- A part is sent in a turn, with an answer: it is rendered as the run is at the time. -/
def sending (part : Part) (answer : Except DispatchError String) : Doing :=
  .asked (.sent level.contactId
    (message (Drive.alone (turns i).bounds node) level part) answer)

/-- What is done about parts with the answers to them, from a turn on: each part is sent, and a
pause follows directly after it where it has a wait.  The next turn comes after the pause. -/
def sendings : Nat → List (Part × Except DispatchError String) → List Doing
  | _, [] => []
  | i, (part, answer) :: rest =>
    sending node turns level i part answer ::
      match part.wait? with
      | some millis => pause turns i millis :: sendings (i + 1) rest
      | none => sendings i rest

end

/-- The number of pauses that parts make. -/
def pauses (parts : List Part) : Nat := parts.countP (·.wait?.isSome)

variable (sequence : Sequence) (node : Graph.Node) (turns : Nat → Turn) (level : Level)

/-- What a visit does that goes on in a turn with parts that were not sent yet. -/
inductive Sends (i : Nat) (parts : List Part) : List Doing → Prop
  /-- All parts are sent, there is one more pause if there is a wait after the last part, and the
  run goes on.  Failures are borne, or there are none. -/
  | all {answers} (length : answers.length = parts.length)
      (borne : sequence.onError = .abort → ∀ answer ∈ answers, answer.isOk = true) :
      Sends i parts (sendings node turns level i (parts.zip answers) ++
        ((sequence.trailing.filter (0 < ·)).toList.map
          (pause turns (i + pauses parts))) ++ [.left node.onward])
  /-- Sending ends with the first part that cannot be sent. -/
  | aborted {earlier part later answers e} (abort : sequence.onError = .abort)
      (split : parts = earlier ++ part :: later) (length : answers.length = earlier.length)
      (sent : ∀ answer ∈ answers, answer.isOk = true) :
      Sends i parts (sendings node turns level i (earlier.zip answers) ++
        [sending node turns level (i + pauses earlier) part (.error e),
          .left (.fail .dispatch e.message)])

variable {sequence node turns level}

theorem pauses_cons (i : Nat) (part : Part) (rest : List Part) :
    i + pauses (part :: rest) = i + pauses [part] + pauses rest := by
  simp only [pauses, List.countP_cons, List.countP_nil]
  omega

theorem sendings_cons (i : Nat) (part : Part) (answer : Except DispatchError String)
    (rest : List (Part × Except DispatchError String)) :
    sendings node turns level i ((part, answer) :: rest) =
      sending node turns level i part answer ::
        (part.wait?.toList.map (pause turns i) ++
          sendings node turns level (i + pauses [part]) rest) := by
  rw [sendings]
  cases hwait : part.wait? <;> simp [pauses, hwait]

/-- A part that is sent comes before what is done about the parts after it. -/
theorem Sends.cons {i : Nat} {part : Part} {answer : Except DispatchError String}
    {rest : List Part} {did : List Doing}
    (borne : sequence.onError = .abort → answer.isOk = true)
    (h : sequence.Sends node turns level (i + pauses [part]) rest did) :
    sequence.Sends node turns level i (part :: rest)
      (sending node turns level i part answer ::
        (part.wait?.toList.map (pause turns i) ++ did)) := by
  have hanswers {answers : List (Except DispatchError String)}
      (hrest : sequence.onError = .abort → ∀ other ∈ answers, other.isOk = true)
      (habort : sequence.onError = .abort) :
      ∀ other ∈ answer :: answers, other.isOk = true :=
    List.forall_mem_cons.mpr ⟨borne habort, hrest habort⟩
  cases h with
  | @all answers length others =>
      have hlength : (answer :: answers).length = (part :: rest).length := congrArg (· + 1) length
      have hall : sequence.Sends node turns level i (part :: rest) _ :=
        .all hlength (hanswers others)
      rw [List.zip_cons_cons, sendings_cons, pauses_cons i part rest] at hall
      rw [List.cons_append, List.cons_append, List.append_assoc, List.append_assoc] at hall
      rwa [List.append_assoc]
  | @aborted earlier failed later answers e abort split length sent =>
      have hlength : (answer :: answers).length = (part :: earlier).length :=
        congrArg (· + 1) length
      have haborted := @Sends.aborted sequence node turns level i (part :: rest)
        (part :: earlier) failed later (answer :: answers) e abort (congrArg (part :: ·) split)
        hlength (hanswers (fun _ => sent) abort)
      rw [List.zip_cons_cons, sendings_cons, pauses_cons i part earlier] at haborted
      rwa [List.cons_append, List.append_assoc] at haborted

/-- A level that is rendered like another one. -/
structure SeenAs (seen level : Level) : Prop where
  contactId : seen.contactId = level.contactId
  contact : seen.contact = level.contact
  vars : seen.vars = level.vars

theorem SeenAs.message {seen : Level} (h : SeenAs seen level) (around : Surroundings)
    (part : Part) : message around seen part = message around level part := by
  unfold Sequence.message Surroundings.render
  rw [h.contactId, h.contact, h.vars]

theorem act_sleeping (around : Surroundings) (world : World) (millis : Nat) (run : Run) :
    world.act (do return (← around.sleep millis, run)) =
      ((.suspend (.untilTime world.newToken.1 (around.now.afterMillis millis) around.now), run),
        world.newToken.2) := by
  rw [World.act_bind, around.act_sleep]
  rfl

/-- What a step does after it has sent a part: it waits, or it goes on with the parts after it. -/
def goOn (sequence : Sequence) (around : Surroundings) (part : Part) (rest : List Part)
    (index : Nat) (run : Run) : Acting (Outcome × Run) :=
  match part.wait? with
  | some millis => do
    return (← around.sleep millis, run.onLevel fun l => { l with cursor := index + 1 })
  | none => sequence.sendFrom around rest (index + 1) run

theorem act_goOn_wait {sequence : Sequence} {part : Part} {millis : Nat}
    (h : part.wait? = some millis) (around : Surroundings) (world : World) (rest : List Part)
    (index : Nat) (run : Run) :
    world.act (sequence.goOn around part rest index run) =
      ((.suspend (.untilTime world.newToken.1 (around.now.afterMillis millis) around.now),
        run.onLevel fun l => { l with cursor := index + 1 }), world.newToken.2) := by
  rw [goOn, h]
  exact act_sleeping _ _ _ _

theorem goOn_next {sequence : Sequence} {part : Part} (h : part.wait? = none)
    (around : Surroundings) (rest : List Part) (index : Nat) (run : Run) :
    sequence.goOn around part rest index run =
      sequence.sendFrom around rest (index + 1) run := by
  rw [goOn, h]

/-- What a step does about the first of the parts that it goes on with. -/
theorem act_sendFrom_cons (sequence : Sequence) (around : Surroundings) (world : World) (run : Run)
    (part : Part) (rest : List Part) (index : Nat) :
    ∃ answer after remark,
      world.Asks [.sent run.contactId (message around run.toLevel part) answer] after ∧
      after.supply = world.supply ∧
      ((∃ e, sequence.onError = .abort ∧ answer = .error e ∧
          world.act (sequence.sendFrom around (part :: rest) index run) =
            ((.fail .dispatch e.message, run.onLevel (·.note remark)), after)) ∨
        ((sequence.onError = .abort → answer.isOk = true) ∧
          world.act (sequence.sendFrom around (part :: rest) index run) =
            after.act (sequence.goOn around part rest index (run.onLevel (·.note remark))))) := by
  have hasks := world.asks_send run.contactId (message around run.toLevel part)
  have hsupply : (world.send run.contactId (message around run.toLevel part)).2.supply =
      world.supply := rfl
  rw [sendFrom, World.act_bind, around.act_deliver]
  revert hasks hsupply
  rcases world.send run.contactId (message around run.toLevel part) with ⟨answer, after⟩
  intro hasks hsupply
  cases answer with
  | ok id => exact ⟨_, after, _, hasks, hsupply, .inr ⟨fun _ => rfl, rfl⟩⟩
  | error e =>
      cases sequence.onError with
      | proceed => exact ⟨_, after, _, hasks, hsupply, .inr ⟨by simp, rfl⟩⟩
      | abort => exact ⟨_, after, _, hasks, hsupply, .inl ⟨e, rfl, rfl, rfl⟩⟩

/-- What brings a run to a sequence makes no difference. -/
theorem behaviour_step (hnode : node.behaviour = .content sequence) (around : Surroundings)
    (run : Run) (payload : Option Payload) :
    node.behaviour.step around run payload = sequence.step around run := by
  rw [hnode]
  rfl

/-- A run that has nothing left to send leaves the node. -/
theorem stays_of_done (hnode : node.behaviour = .content sequence) (i : Nat) {run : Run}
    (hdone : sequence.afterAll ≤ run.cursor) :
    Stays node turns i run [.left node.onward] := by
  have hstep : (turns i).world.act (node.behaviour.step (Drive.alone (turns i).bounds node) run
      (Turn.payload? i)) = ((node.onward, run), (turns i).world) := by
    rw [behaviour_step hnode, step, if_pos hdone]
    rfl
  exact .leave hstep (World.asks_nothing rfl)
    (Drive.alone (turns i).bounds node).advance_ne_suspend

/-- What is left of a visit whose step goes on with some parts.  The step may have asked for
something before, in the world that it began in. -/
theorem stays_of_sendFrom (hnode : node.behaviour = .content sequence)
    (htrailing : sequence.trailing.filter (0 < ·) = sequence.trailing) {rest : List Part}
    {index i : Nat} {begun run : Run} {world : World} {asked : List Delivery}
    (hrest : sequence.parts.drop index = rest) (hindex : index ≤ sequence.parts.length)
    (hseen : SeenAs run.toLevel level) (hasks : (turns i).world.Asks asked world)
    (hsupply : world.supply = (turns i).world.supply)
    (hstep : (turns i).world.act (node.behaviour.step (Drive.alone (turns i).bounds node) begun
        (Turn.payload? i)) =
      world.act (sequence.sendFrom (Drive.alone (turns i).bounds node) rest index run)) :
    ∃ did, Stays node turns i begun (asked.map .asked ++ did) ∧
      sequence.Sends node turns level i rest did := by
  have htoken {i : Nat} {world : World} (h : world.supply = (turns i).world.supply) :
      world.newToken.1 = (turns i).world.newToken.1 := by
    unfold World.newToken
    rw [h]
  induction rest generalizing index i begun run world asked with
  | nil =>
      have hall := @Sends.all sequence node turns level i [] [] rfl fun _ _ h => nomatch h
      rw [htrailing] at hall
      refine ⟨_, ?_, hall⟩
      unfold sendFrom at hstep
      cases hwaits : sequence.trailing with
      | none =>
          rw [hwaits] at hstep
          exact .leave hstep hasks (Drive.alone (turns i).bounds node).advance_ne_suspend
      | some millis =>
          rw [hwaits] at hstep
          dsimp only at hstep
          rw [act_sleeping, htoken hsupply] at hstep
          exact .pause hstep (hasks.still rfl) (stays_of_done hnode (i + 1) (Nat.le_refl _))
  | cons part rest ih =>
      have hleft : index < sequence.parts.length := by
        refine Nat.lt_of_not_le fun hall => ?_
        rw [List.drop_eq_nil_of_le hall] at hrest
        cases hrest
      have hrest' : sequence.parts.drop (index + 1) = rest := by
        rw [← List.tail_drop, hrest, List.tail_cons]
      obtain ⟨answer, after, remark, hsent, hsame, hcases⟩ := act_sendFrom_cons sequence
        (Drive.alone (turns i).bounds node) world run part rest index
      rw [hseen.message, hseen.contactId] at hsent
      have hasks' := hasks.trans hsent
      have hsupply' := hsame.trans hsupply
      have hshape (did : List Doing) : asked.map .asked ++
          (sending node turns level i part answer :: did) =
            (asked ++ [Delivery.sent level.contactId
              (message (Drive.alone (turns i).bounds node) level part) answer]).map .asked ++
              did := by
        simp [sending]
      rcases hcases with ⟨e, habort, rfl, hfails⟩ | ⟨hborne, hgoes⟩
      · rw [hfails] at hstep
        refine ⟨[sending node turns level i part (.error e), .left (.fail .dispatch e.message)],
          ?_, ?_⟩
        · rw [hshape]
          exact .leave hstep hasks' (by simp)
        · exact @Sends.aborted sequence node turns level i (part :: rest) [] part rest [] e habort
            rfl rfl fun _ h => nomatch h
      · rw [hgoes] at hstep
        have hseen' : SeenAs (run.onLevel (·.note remark)).toLevel level :=
          ⟨hseen.contactId, hseen.contact, hseen.vars⟩
        cases hwait : part.wait? with
        | none =>
            have hpauses : i = i + pauses [part] := by simp [pauses, hwait]
            rw [goOn_next hwait] at hstep
            obtain ⟨did, hstays, hsends⟩ := ih hrest' hleft hseen' hasks' hsupply' hstep
            rw [hpauses] at hsends
            refine ⟨_, ?_, Sends.cons hborne hsends⟩
            rw [hshape, hwait]
            exact hstays
        | some millis =>
            have hpauses : i + 1 = i + pauses [part] := by simp [pauses, hwait]
            rw [act_goOn_wait hwait, htoken hsupply'] at hstep
            -- The next turn goes on with the part that the cursor says.
            have hnext (run : Run) (hcursor : run.cursor = index + 1) (payload : Option Payload) :
                node.behaviour.step (Drive.alone (turns (i + 1)).bounds node) run payload =
                  sequence.sendFrom (Drive.alone (turns (i + 1)).bounds node) rest (index + 1)
                    run := by
              rw [behaviour_step hnode, step, hcursor, hrest', if_neg]
              unfold afterAll
              omega
            obtain ⟨did, hstays, hsends⟩ := ih (i := i + 1) hrest' hleft
              (show SeenAs (((run.onLevel (·.note remark)).onLevel fun l =>
                { l with cursor := index + 1 }).resumedFrom _).toLevel level from
                ⟨hseen.contactId, hseen.contact, hseen.vars⟩) (World.asks_nothing rfl) rfl
              (congrArg (turns (i + 1)).world.act (hnext _ rfl _))
            rw [hpauses] at hsends
            refine ⟨_, ?_, Sends.cons hborne hsends⟩
            rw [hshape, hwait]
            exact .pause hstep (hasks'.still rfl) hstays

/-- What the configuration of a sequence makes sure of. -/
theorem of_buildContent {written : Flow.Node}
    (hloads : Behaviour.buildContent written = .ok (.content sequence)) :
    sequence.parts ≠ [] ∧ sequence.trailing.filter (0 < ·) = sequence.trailing := by
  obtain ⟨⟨text, parts, trailing, onError, done⟩, -, hbuilt⟩ := bind_eq_ok.mp hloads
  dsimp only at hbuilt
  split at hbuilt
  · cases hbuilt
  · next hparts =>
    cases hbuilt
    refine ⟨mt List.isEmpty_iff.mpr hparts, ?_⟩
    cases trailing with
    | none => rfl
    | some millis => by_cases hwaits : 0 < millis <;> simp [Option.filter, hwaits]

/-- A visit to a node that sends a sequence sends each part once and in order, whatever the
dispatcher answers and whatever others do while it pauses.  It pauses directly after each part that
has a wait, and once more at the end if there is a wait there, and then the run goes on; a failure
that is not borne ends it at once.  Wherever an earlier visit has got to, this one begins with the
first part. -/
theorem visit_sends_each_part_once {written : Flow.Node} {sequence : Sequence}
    (hloads : Behaviour.buildContent written = .ok (.content sequence)) (node : Graph.Node)
    (hnode : node.behaviour = .content sequence) (turns : Nat → Turn) (before : Run) :
    sequence.parts ≠ [] ∧
      ∃ did, Stays node turns 0 (before.entering (turns 0).bounds node.id) did ∧
        (∀ did', Stays node turns 0 (before.entering (turns 0).bounds node.id) did' →
          did' = did) ∧
        sequence.Sends node turns before.toLevel 0 sequence.parts did := by
  obtain ⟨hparts, htrailing⟩ := of_buildContent hloads
  have hseen : SeenAs (before.entering (turns 0).bounds node.id).toLevel before.toLevel :=
    ⟨rfl, rfl, rfl⟩
  have hbegins : node.behaviour.step (Drive.alone (turns 0).bounds node)
      (before.entering (turns 0).bounds node.id) (Turn.payload? 0) =
      sequence.sendFrom (Drive.alone (turns 0).bounds node) sequence.parts 0
        (before.entering (turns 0).bounds node.id) := by
    rw [behaviour_step hnode, step, if_neg (by simp [afterAll, Run.entering, Run.onLevel,
      Level.enter])]
    rfl
  obtain ⟨did, hstays, hsends⟩ := stays_of_sendFrom hnode htrailing rfl
    (Nat.zero_le _) hseen (World.asks_nothing rfl) rfl
    (congrArg (turns 0).world.act hbegins)
  exact ⟨hparts, did, hstays, fun did' hstays' => hstays'.unique hstays, hsends⟩

/-- Of two messages the first is followed by a pause of three milliseconds. -/
theorem visit_sends_each_part_once_sample :
    let written : Flow.Node := ⟨"greet", "CONTENT", none, [("parts", .array [
      .object [("delay_ms", .number 3), ("value", .string "hello")],
      .object [("value", .string "there")]])]⟩
    let sequence : Sequence :=
      ⟨[⟨.text, "hello", none, some 3⟩, ⟨.text, "there", none, none⟩], none, .proceed⟩
    let node : Graph.Node :=
      { id := "greet", behaviour := .content sequence, successor := none, links := [] }
    let turns : Nat → Turn := fun _ => ⟨World.sample.bounds, World.sample⟩
    let run := Run.fresh ⟨1⟩ { flow := "inner", contactId := "ann" } "greet" ⟨0, 0⟩
    Behaviour.buildContent written = .ok (.content sequence) ∧
      ∃ first second, Stays node turns 0 (run.entering World.sample.bounds "greet")
        [sending node turns run.toLevel 0 ⟨.text, "hello", none, some 3⟩ first, pause turns 0 3,
          sending node turns run.toLevel 1 ⟨.text, "there", none, none⟩ second,
          .left .complete] := by
  intro written sequence node turns run
  have hloads : Behaviour.buildContent written = .ok (.content sequence) := by rfl
  refine ⟨hloads, ?_⟩
  obtain ⟨-, did, hstays, -, hsends⟩ := visit_sends_each_part_once hloads node rfl turns run
  cases hsends with
  | @all answers length borne =>
      match answers, length with
      | [first, second], _ => exact ⟨first, second, hstays⟩
  | aborted abort => cases abort

end Sequence

end Dialogue
