import Dialogue.Proofs.Delay.Twin
import Dialogue.Proofs.Drive.Shape

/-!
# In time

A run that waits for time to pass is woken when its time has come, and then may
wait again.  `InTime` says where it gets to in this way, whatever happens
elsewhere meanwhile, and `LeadsTo` where a phase of a drive leads with all the
waits that follow.  A wait of a nested run is a wait of every run that it is
nested in: `leadsTo_settle`.  Delays and sequences of messages lead to where they
would lead without their waits: `leadsTo_delay` and `leadsTo_content`.
-/

namespace Dialogue

/-- A level that waits for time to pass. -/
structure Level.Sleeps (suspension : Suspension) (level : Level) : Prop where
  paused : level.status = .paused
  pending : level.suspension = some suspension
  timer : suspension.isTimer = true
  unlimited : suspension.expiresAt = none

namespace Drive

variable {bounds : Bounds}

/-- Where a run gets to as often as it is woken in time. -/
inductive InTime (bounds : Bounds) (post : World → Run → Prop) : World → Run → Prop
  /-- It need not be woken. -/
  | here {world run} (h : post world run) : InTime bounds post world run
  /-- It is woken and driven on, whatever has happened elsewhere. -/
  | tick {world run graph suspension} (sleeps : run.Sleeps suspension)
      (flow : world.flow run.flow = .ok graph)
      (next : ∀ world₁, world.Idle world₁ → ∀ world₂ run₂,
        Course bounds (.level graph (some .elapsed)) world₁ run world₂ run₂ →
          InTime bounds post world₂ run₂) :
      InTime bounds post world run

/-- Where a phase of a drive leads in time. -/
def LeadsTo (bounds : Bounds) (post : World → Run → Prop) (phase : Phase) (world : World)
    (run : Run) : Prop :=
  ∃ world' run', Course bounds phase world run world' run' ∧ InTime bounds post world' run'

variable {post : World → Run → Prop} {world : World} {run : Run}

/-- A phase leads where the rest of it leads. -/
theorem LeadsTo.before {phase phase' : Phase} {world' : World} {run' : Run}
    (h : LeadsTo bounds post phase' world' run')
    (rule : ∀ {world'' run''}, Course bounds phase' world' run' world'' run'' →
      Course bounds phase world run world'' run'') :
    LeadsTo bounds post phase world run := by
  obtain ⟨world'', run'', rest, htime⟩ := h
  exact ⟨world'', run'', rule rest, htime⟩

/-- A phase that comes to an end at once. -/
theorem LeadsTo.now {phase : Phase} {world' : World} {run' : Run}
    (h : Course bounds phase world run world' run') (hpost : post world' run') :
    LeadsTo bounds post phase world run := ⟨world', run', h, .here hpost⟩

/-- A drive has one course only, so it is enough to say where one leads. -/
theorem InTime.wake {graph : Graph} {suspension : Suspension} (hsleeps : run.Sleeps suspension)
    (hflow : world.flow run.flow = .ok graph)
    (hnext : ∀ world₁, world.Idle world₁ →
      LeadsTo bounds post (.level graph (some .elapsed)) world₁ run) :
    InTime bounds post world run := by
  refine .tick hsleeps hflow fun world₁ hidle world₂ run₂ drive => ?_
  obtain ⟨world₃, run₃, drive', htime⟩ := hnext world₁ hidle
  obtain ⟨rfl, rfl⟩ := drive.unique drive'
  exact htime

/-- A pause until a time leads to where the step leads that is made when the run is woken. -/
theorem leadsTo_sleep {graph : Graph} {left : Nat} {suspension : Suspension}
    (hflow : world.flow run.flow = .ok graph) (htimer : suspension.isTimer = true)
    (hunlimited : suspension.expiresAt = none)
    (hwoken : ∀ world₁, world.Idle world₁ →
      LeadsTo bounds post (.walk graph bounds.settings.maxSteps (some .elapsed)) world₁
        (run.onLevel (·.suspend suspension)).awake) :
    LeadsTo bounds post (.leave graph left (.suspend suspension)) world run := by
  refine ⟨_, _, .suspend, .wake ⟨rfl, rfl, htimer, hunlimited⟩ hflow ?_⟩
  intro world₁ hidle
  exact (hwoken world₁ ((World.Idle.emit ..).trans hidle)).before .wake

/-- A level that has slept and was woken is like one that never slept. -/
theorem level_woken {level₀ : Level} (halike : run.toLevel.Alike level₀)
    (hrunning : level₀.status = .running) (hpending : level₀.suspension = none)
    (suspension : Suspension) :
    (run.onLevel (·.suspend suspension)).awake.toLevel.Alike level₀ :=
  { halike with
    status := hrunning.symm
    suspension := by rw [hpending]; rfl }

theorem alike_woken {run₀ : Run} (halike : run.Alike run₀) (hrunning : run₀.status = .running)
    (hpending : run₀.suspension = none) (suspension : Suspension) :
    (run.onLevel (·.suspend suspension)).awake.Alike run₀ :=
  .intro (level_woken halike.level hrunning hpending suspension) halike.nested

/-! ## Waits of nested runs -/

/-- A run leads to where it leads once its nested run has got somewhere in time.  Every wait of
the nested run is one of the run itself, which hands the waking down to it. -/
theorem leadsTo_settle {graph : Graph} {node : Graph.Node} {flow : FlowId} {left left₀ : Nat}
    {parent : Run} {level₀ : Level} {child : Run} {childPost : World → Run → Prop}
    (hbehaviour : node.behaviour = .subflow flow) (hnode : graph.find? level₀.node = some node)
    (hrunning : level₀.status = .running) (hpending : level₀.suspension = none)
    (hsteps : left₀ < bounds.settings.maxSteps)
    (hrest : ∀ (world : World) (child parent : Run) (left : Nat), childPost world child →
      parent.toLevel.Alike level₀ → world.flow parent.flow = .ok graph → left₀ ≤ left →
        LeadsTo bounds post
          (.leave graph left
            (Subflow.settle flow (alone bounds node) (parent.withChild child)).1) world
          (Subflow.settle flow (alone bounds node) (parent.withChild child)).2)
    (htime : InTime bounds childPost world child) (halike : parent.toLevel.Alike level₀)
    (hflow : world.flow parent.flow = .ok graph) (hleft : left₀ ≤ left) :
    LeadsTo bounds post
      (.leave graph left (Subflow.settle flow (alone bounds node) (parent.withChild child)).1)
      world (Subflow.settle flow (alone bounds node) (parent.withChild child)).2 := by
  induction htime generalizing parent left with
  | here hpost => exact hrest _ _ _ _ hpost halike hflow hleft
  | @tick world child inner suspension sleeps hinner next ih =>
      rw [settle_paused flow (alone bounds node) sleeps.paused sleeps.pending]
      refine leadsTo_sleep hflow sleeps.timer sleeps.unlimited fun world₁ hidle => ?_
      obtain ⟨steps, hmax⟩ : ∃ steps, bounds.settings.maxSteps = steps + 1 :=
        ⟨_, (Nat.succ_pred_eq_of_pos (Nat.zero_lt_of_lt hsteps)).symm⟩
      rw [hmax]
      have hwoken : ((parent.withChild child).onLevel (·.suspend suspension)).awake.toLevel.Alike
          level₀ := level_woken halike hrunning hpending suspension
      have hnode' : graph.find?
          ((parent.withChild child).onLevel (·.suspend suspension)).awake.node = some node := by
        rw [hwoken.node]
        exact hnode
      have hlook : world₁.flow child.flow = .ok inner := by
        rw [hidle.flow]
        exact hinner
      have drive := course_drive bounds (world₁.look child.flow).2 child inner (some .elapsed)
      have hidle' := hidle.trans (.look world₁ child.flow)
      refine (ih _ hidle' _ _ drive hwoken ?_ (by omega)).before
        (.pass hnode' hbehaviour rfl hlook drive)
      rw [drive.later.flow, hidle'.flow]
      exact hflow

/-! ## Waits at a node -/

/-- From whatever is like a step that came to an outcome, the drive goes on to one end. -/
def Carries (bounds : Bounds) (post : World → Run → Prop) (graph : Graph) (left₀ : Nat)
    (outcome₀ : Outcome) (world₀ : World) (run₀ : Run) : Prop :=
  ∀ world run left outcome, world.Twin world₀ → run.Alike run₀ →
    world.flow run.flow = .ok graph → left₀ ≤ left → outcome.nameless = outcome₀.nameless →
      LeadsTo bounds post (.leave graph left outcome) world run

/-- A run in the middle of its visit to a node, beside one that is alike without delays. -/
structure Visits (graph : Graph) (node : Graph.Node) (world : World) (run : Run) (world₀ : World)
    (run₀ : Run) : Prop where
  twin : world.Twin world₀
  alike : run.Alike run₀
  flow : world.flow run.flow = .ok graph
  node : graph.find? run.node = some node
  running : run₀.status = .running
  pending : run₀.suspension = none

namespace Visits

variable {graph : Graph} {node : Graph.Node} {world₀ : World} {run₀ : Run}

/-- Nothing that happens elsewhere and no wait of its own ends a visit. -/
theorem woken (h : Visits graph node world run world₀ run₀) {after : World}
    (hidle : world.Idle after) (suspension : Suspension) :
    Visits graph node after (run.onLevel (·.suspend suspension)).awake world₀ run₀ where
  twin := h.twin.idle hidle (.refl world₀)
  alike := alike_woken h.alike h.running h.pending suspension
  flow := by
    rw [hidle.flow]
    exact h.flow
  node := h.node
  running := h.running
  pending := h.pending

theorem cursor (h : Visits graph node world run world₀ run₀) (cursor : Nat) :
    Visits graph node world (run.onLevel fun l => { l with cursor }) world₀ run₀ :=
  { h with alike := .intro (h.alike.level.cursor cursor) h.alike.nested }

/-- A message is delivered by both of the runs or by neither, within their visits. -/
theorem deliver (bounds : Bounds) (h : Visits graph node world run world₀ run₀) (part : Nat)
    (message : Message) (onError : OnError) :
    (world.act ((alone bounds node).deliver run part message onError)).1.1 =
        (world₀.act ((alone bounds node).deliver run₀ part message onError)).1.1 ∧
      Visits graph node (world.act ((alone bounds node).deliver run part message onError)).2
        (world.act ((alone bounds node).deliver run part message onError)).1.2
        (world₀.act ((alone bounds node).deliver run₀ part message onError)).2
        (world₀.act ((alone bounds node).deliver run₀ part message onError)).1.2 := by
  obtain ⟨hfailed, halike, htwin⟩ :=
    (alone bounds node).deliver_alike h.twin h.alike part message onError
  obtain ⟨hvisit₀, -, -⟩ := (alone bounds node).deliver_visit world₀ run₀ part message onError
  obtain ⟨hvisit, -, -⟩ := (alone bounds node).deliver_visit world run part message onError
  have hlater := world.later_act ((alone bounds node).deliver run part message onError)
  refine ⟨hfailed, htwin, halike, ?_, ?_, hvisit₀.status.trans h.running,
    hvisit₀.suspension.trans h.pending⟩
  · rw [hlater.flow, hvisit.flow]
    exact h.flow
  · rw [hvisit.node]
    exact h.node

end Visits

section

variable {graph : Graph} {node : Graph.Node} {left left₀ : Nat} {world₀ : World} {run₀ : Run}

/-- The step that is made at a node when a run that paused there is woken. -/
def wokenStep (bounds : Bounds) (node : Graph.Node) (suspension : Suspension) (world : World)
    (run : Run) : (Outcome × Run) × World :=
  world.act (node.behaviour.step (alone bounds node) (run.onLevel (·.suspend suspension)).awake
    (some .elapsed))

/-- A pause at a node that runs no other flow leads to where the next step there leads. -/
theorem leadsTo_pause {suspension : Suspension} (hnode : graph.find? run.node = some node)
    (hplain : node.behaviour.isSubflow = false) (hflow : world.flow run.flow = .ok graph)
    (htimer : suspension.isTimer = true) (hunlimited : suspension.expiresAt = none)
    (hsteps : 0 < bounds.settings.maxSteps)
    (hwoken : ∀ world₁, world.Idle world₁ →
      LeadsTo bounds post
        (.leave graph (bounds.settings.maxSteps - 1)
          (wokenStep bounds node suspension world₁ run).1.1)
        (wokenStep bounds node suspension world₁ run).2
        (wokenStep bounds node suspension world₁ run).1.2) :
    LeadsTo bounds post (.leave graph left (.suspend suspension)) world run := by
  refine leadsTo_sleep hflow htimer hunlimited fun world₁ hidle => ?_
  obtain ⟨steps, hmax⟩ : ∃ steps, bounds.settings.maxSteps = steps + 1 :=
    ⟨_, (Nat.succ_pred_eq_of_pos hsteps).symm⟩
  have h := hwoken world₁ hidle
  rw [hmax] at h ⊢
  exact h.before (.plain hnode hplain rfl)

/-- A delay leads to where the run goes on after it. -/
theorem leadsTo_delay {millis : Nat} (hdelay : node.behaviour = .delay millis)
    (hvisits : Visits graph node world run world₀ run₀)
    (hsteps : left₀ < bounds.settings.maxSteps) (hleft : left₀ ≤ left)
    (h : Carries bounds post graph left₀ (alone bounds node).advance world₀ run₀) :
    LeadsTo bounds post (.walk graph (left + 1) none) world run := by
  have hplain : node.behaviour.isSubflow = false := by rw [hdelay]; rfl
  by_cases hzero : millis = 0
  · have hstep : world.act (node.behaviour.step (alone bounds node) run none) =
        (((alone bounds node).advance, run), world) := by
      rw [hdelay, hzero]
      rfl
    exact (h world run left _ hvisits.twin hvisits.alike hvisits.flow hleft rfl).before
      (.plain hvisits.node hplain hstep)
  · have hstep : world.act (node.behaviour.step (alone bounds node) run none) =
        ((.suspend (.untilTime world.newToken.1 (bounds.now.afterMillis millis) bounds.now), run),
          world.newToken.2) := by
      have hsome : (none : Option Payload).isSome = false := rfl
      rw [hdelay, Behaviour.step, delayStep, hsome]
      simp only [Bool.false_or, beq_iff_eq, hzero, if_false]
      rw [World.act_bind, Surroundings.act_sleep]
      rfl
    have hpause : LeadsTo bounds post (.leave graph left (.suspend
        (.untilTime world.newToken.1 (bounds.now.afterMillis millis) bounds.now)))
          world.newToken.2 run := by
      refine leadsTo_pause hvisits.node hplain hvisits.flow rfl rfl (Nat.zero_lt_of_lt hsteps) ?_
      intro world₁ hidle
      unfold wokenStep
      rw [hdelay]
      have hwoken := hvisits.woken ((World.Idle.newToken world).trans hidle)
        (.untilTime world.newToken.1 (bounds.now.afterMillis millis) bounds.now)
      exact h world₁ _ _ _ hwoken.twin hwoken.alike hwoken.flow (by omega) rfl
    exact hpause.before (.plain hvisits.node hplain hstep)

/-- A wait in the middle of a sequence leads to where the sequence leads that goes on with the
part that the cursor says. -/
theorem leadsTo_pace {sequence : Sequence} (hcontent : node.behaviour = .content sequence)
    (hvisits : Visits graph node world run world₀ run₀)
    (hsteps : 0 < bounds.settings.maxSteps) (millis cursor : Nat)
    (hwoken : ∀ (world₁ : World) (run₁ : Run), Visits graph node world₁ run₁ world₀ run₀ →
      run₁.cursor = cursor →
        LeadsTo bounds post
          (.leave graph (bounds.settings.maxSteps - 1)
            (world₁.act (sequence.step (alone bounds node) run₁)).1.1)
          (world₁.act (sequence.step (alone bounds node) run₁)).2
          (world₁.act (sequence.step (alone bounds node) run₁)).1.2) :
    LeadsTo bounds post
      (.leave graph left (.suspend
        (.untilTime world.newToken.1 (bounds.now.afterMillis millis) bounds.now)))
      world.newToken.2 (run.onLevel fun l => { l with cursor }) := by
  have hplain : node.behaviour.isSubflow = false := by rw [hcontent]; rfl
  refine leadsTo_pause hvisits.node hplain hvisits.flow rfl rfl hsteps fun world₁ hidle => ?_
  unfold wokenStep
  rw [hcontent]
  exact hwoken world₁ _
    ((hvisits.cursor cursor).woken ((World.Idle.newToken world).trans hidle) _) rfl

/-- Parts that are sent with waits between them lead to where they lead when they are sent at
once. -/
theorem leadsTo_sendFrom {sequence : Sequence} (hcontent : node.behaviour = .content sequence)
    (hsteps : left₀ < bounds.settings.maxSteps) (parts : List Part) (index : Nat)
    (hparts : sequence.parts.drop index = parts) {world world₀ : World} {run run₀ : Run}
    (hvisits : Visits graph node world run world₀ run₀) (hleft : left₀ ≤ left)
    (h : Carries bounds post graph left₀
      (world₀.act (sequence.undelayed.sendFrom (alone bounds node) (parts.map Part.undelayed)
        index run₀)).1.1
      (world₀.act (sequence.undelayed.sendFrom (alone bounds node) (parts.map Part.undelayed)
        index run₀)).2
      (world₀.act (sequence.undelayed.sendFrom (alone bounds node) (parts.map Part.undelayed)
        index run₀)).1.2) :
    LeadsTo bounds post
      (.leave graph left (world.act (sequence.sendFrom (alone bounds node) parts index run)).1.1)
      (world.act (sequence.sendFrom (alone bounds node) parts index run)).2
      (world.act (sequence.sendFrom (alone bounds node) parts index run)).1.2 := by
  have hpositive := Nat.zero_lt_of_lt hsteps
  induction parts generalizing index left world world₀ run run₀ with
  | nil =>
      have h' : Carries bounds post graph left₀ (alone bounds node).advance world₀ run₀ := h
      unfold Sequence.sendFrom
      cases htrailing : sequence.trailing with
      | none => exact h' world run left _ hvisits.twin hvisits.alike hvisits.flow hleft rfl
      | some millis =>
          dsimp only
          rw [World.act_bind, Surroundings.act_sleep]
          refine leadsTo_pace hcontent hvisits hpositive millis sequence.afterAll ?_
          intro world₁ run₁ hvisits₁ hcursor
          have hover : sequence.step (alone bounds node) run₁ =
              pure ((alone bounds node).advance, run₁) := by
            unfold Sequence.step
            rw [if_pos (Nat.le_of_eq hcursor.symm)]
          rw [hover]
          exact h' world₁ run₁ _ _ hvisits₁.twin hvisits₁.alike hvisits₁.flow (by omega) rfl
  | cons part rest ih =>
      have hindex : index < sequence.parts.length := by
        refine Nat.lt_of_not_le fun hover => ?_
        rw [List.drop_eq_nil_of_le hover] at hparts
        simp at hparts
      have hrest : sequence.parts.drop (index + 1) = rest := by
        rw [← List.drop_drop, hparts]
        rfl
      have hmessage := (alone bounds node).message_alike hvisits.alike.level part
      obtain ⟨hfailed, hdelivered⟩ := hvisits.deliver bounds index
        (Sequence.message (alone bounds node) run₀.toLevel part.undelayed) sequence.onError
      have hpolicy : sequence.undelayed.onError = sequence.onError := rfl
      rw [List.map_cons] at h
      unfold Sequence.sendFrom at h ⊢
      rw [World.act_bind, hpolicy] at h
      rw [World.act_bind, hmessage]
      revert hfailed hdelivered h
      rcases world.act ((alone bounds node).deliver run index
        (Sequence.message (alone bounds node) run₀.toLevel part.undelayed) sequence.onError) with
        ⟨⟨failed, delivered⟩, after⟩
      rcases world₀.act ((alone bounds node).deliver run₀ index
        (Sequence.message (alone bounds node) run₀.toLevel part.undelayed) sequence.onError) with
        ⟨⟨failed₀, delivered₀⟩, after₀⟩
      intro hfailed hdelivered h
      obtain rfl : failed = failed₀ := hfailed
      cases failed with
      | some outcome =>
          exact h after delivered left outcome hdelivered.twin hdelivered.alike hdelivered.flow
            hleft rfl
      | none =>
          dsimp only at h ⊢
          rw [part.filter_undelayed] at h
          cases part.delay.filter (0 < ·) with
          | none => exact ih (index + 1) hrest hdelivered hleft h
          | some millis =>
              dsimp only
              rw [World.act_bind, Surroundings.act_sleep]
              refine leadsTo_pace hcontent hdelivered hpositive millis (index + 1) ?_
              intro world₁ run₁ hvisits₁ hcursor
              have hgoes : sequence.step (alone bounds node) run₁ =
                  sequence.sendFrom (alone bounds node) rest (index + 1) run₁ := by
                unfold Sequence.step Sequence.afterAll
                rw [if_neg (by omega), hcursor, hrest]
              rw [hgoes]
              exact ih (index + 1) hrest hvisits₁ (by omega) h

/-- A sequence leads to where it leads when it is sent at once. -/
theorem leadsTo_content {sequence : Sequence} (hcontent : node.behaviour = .content sequence)
    (hvisits : Visits graph node world run world₀ run₀)
    (hcursor : run.cursor = 0) (hcursor₀ : run₀.cursor = 0)
    (hsteps : left₀ < bounds.settings.maxSteps) (hleft : left₀ ≤ left)
    {outcome₀ : Outcome} {stepped₀ : Run} {after₀ : World}
    (hstep₀ : world₀.act (sequence.undelayed.step (alone bounds node) run₀) =
      ((outcome₀, stepped₀), after₀))
    (h : Carries bounds post graph left₀ outcome₀ after₀ stepped₀) :
    LeadsTo bounds post (.walk graph (left + 1) none) world run := by
  have hplain : node.behaviour.isSubflow = false := by rw [hcontent]; rfl
  have hstep : world.act (node.behaviour.step (alone bounds node) run none) =
      world.act (sequence.sendFrom (alone bounds node) sequence.parts 0 run) := by
    rw [hcontent]
    change world.act (sequence.step (alone bounds node) run) = _
    unfold Sequence.step Sequence.afterAll
    rw [hcursor, if_neg (by omega), List.drop_zero]
  have hall : sequence.undelayed.step (alone bounds node) run₀ =
      sequence.undelayed.sendFrom (alone bounds node) (sequence.parts.map Part.undelayed) 0
        run₀ := by
    unfold Sequence.step Sequence.afterAll
    rw [hcursor₀, if_neg (by omega), List.drop_zero]
    rfl
  rw [hall] at hstep₀
  refine (leadsTo_sendFrom hcontent hsteps sequence.parts 0 List.drop_zero hvisits hleft
    ?_).before (.plain hvisits.node hplain hstep)
  rw [hstep₀]
  exact h

end

end Drive

end Dialogue
