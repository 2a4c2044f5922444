import Dialogue.Proofs.Drive.Part
import Dialogue.Proofs.Engine.Order
import Dialogue.Proofs.Graph.Loading
import Dialogue.Proofs.Run.Traces
import Dialogue.Proofs.Step.Failure

/-!
# The budget of a level

A level may take so many steps of its own before it pauses or ends.  `Walk` is the
loop of one level with the steps that it takes, where the drive of a nested run is
part of the step that it belongs to.  That drive has steps of its own again, by
`Course.levelWalk`, and a budget of its own.

What is entered, what is stepped and how the level ends are read off its steps: the
budget fails it if and only if every step that it allows has gone on to a node, and
then the last node is not stepped.
-/

namespace Dialogue

/-- The words of a level that has used up its budget. -/
def Bounds.exceeded (bounds : Bounds) : String :=
  "exceeded " ++ toString bounds.settings.maxSteps ++ " steps without pausing"

namespace Run

/-- A run that has failed where it stands. -/
def FailedAs (run : Run) (bounds : Bounds) (kind : FailureKind) (message : String) : Prop :=
  run.status = .failed ∧ run.failure = some ⟨kind, message, run.node, bounds.now⟩

/-- A run that has ended or paused as an outcome says. -/
def EndsAs (run : Run) (bounds : Bounds) : Outcome → Prop
  | .complete => run.status = .completed
  | .suspend suspension => run.status = .paused ∧ run.suspension = some suspension
  | .fail kind message => run.FailedAs bounds kind message
  | .go next => run.FailedAs bounds .configuration
      ("node " ++ apostrophes run.node ++ " continued to unknown node " ++ apostrophes next)

theorem failedAs_failing (run : Run) (bounds : Bounds) (kind : FailureKind) (message : String) :
    (run.failing bounds kind message).FailedAs bounds kind message :=
  ⟨rfl, rfl⟩

theorem FailedAs.inj {run : Run} {bounds : Bounds} {kind kind' : FailureKind}
    {message message' : String} (h : run.FailedAs bounds kind message)
    (h' : run.FailedAs bounds kind' message') : kind = kind' ∧ message = message' := by
  have hsame := Option.some.inj (h.2.symm.trans h'.2)
  exact ⟨congrArg Failure.kind hsame, congrArg Failure.message hsame⟩

end Run

/-! ## Whose words these are -/

theorem FlowError.failureKind_ne_stepLimit (e : FlowError) : e.failureKind ≠ .stepLimit := by
  cases e with
  | node e => cases e <;> exact nofun
  | _ => exact nofun

theorem Behaviour.MayFail.ne_stepLimit {behaviour : Behaviour} {kind : FailureKind}
    (h : behaviour.MayFail kind) : kind ≠ .stepLimit := by
  rintro rfl
  cases behaviour <;> simp [MayFail] at h

/-- The failure of a nested run is told in other words, even if the run has used up its budget. -/
theorem Subflow.settle_ne_exceeded (flow : FlowId) (around : Surroundings) (run : Run)
    (bounds : Bounds) : (settle flow around run).1 ≠ .fail .stepLimit bounds.exceeded := by
  unfold settle
  split
  · exact nofun
  · split
    · split
      · exact nofun
      · exact nofun
    · unfold Surroundings.advance
      split
      · exact nofun
      · exact nofun
    · intro hsame
      have hwords := congrArg String.toList (Outcome.fail.inj hsame).2
      simp [Bounds.exceeded, String.toList_append] at hwords
    · exact nofun

namespace Drive

/-! ## The steps of a level -/

/-- A step that a level takes of its own: at which node, and its outcome. -/
structure Taken where
  node : NodeId
  outcome : Outcome

/-- The node that the level goes on to after a step. -/
def Taken.next? (graph : Graph) (step : Taken) : Option NodeId :=
  match step.outcome with
  | .go next => if graph.contains next then some next else none
  | _ => none

/-- A level is stepped where it stands, whatever its budget is and whatever comes of it. -/
def Stepped (bounds : Bounds) (graph : Graph) (payload : Option Payload) (world : World) (run : Run)
    (outcome : Outcome) (world₁ : World) (stepped : Run) : Prop :=
  ∀ left world' run', Leg.Then bounds ⟨.walk graph (left + 1) payload, world, run, world', run'⟩
    ⟨.leave graph left outcome, world₁, stepped, world', run'⟩

/-- The walk of a level that may take so many steps, with the steps that it takes. -/
inductive Walk (bounds : Bounds) (graph : Graph) :
    Nat → Option Payload → World → Run → List Taken → World → Run → Prop
  /-- No step is left. -/
  | spent {payload world run world' run'}
      (rest : Course bounds (.walk graph 0 payload) world run world' run') :
      Walk bounds graph 0 payload world run [] world' run'
  /-- There is no node to step. -/
  | missing {left payload world run world' run'} (hnode : graph.find? run.node = none)
      (rest : ∀ left, Course bounds (.walk graph (left + 1) payload) world run world' run') :
      Walk bounds graph (left + 1) payload world run [] world' run'
  /-- The level does not go on after its step. -/
  | last {left payload world run outcome world₁ stepped world' run'}
      (step : Stepped bounds graph payload world run outcome world₁ stepped)
      (stays : Taken.next? graph ⟨run.node, outcome⟩ = none)
      (rest : ∀ left, Course bounds (.leave graph left outcome) world₁ stepped world' run') :
      Walk bounds graph (left + 1) payload world run [⟨run.node, outcome⟩] world' run'
  /-- The level goes on to a node, which it enters. -/
  | on {left payload world run next world₁ stepped steps world' run'}
      (step : Stepped bounds graph payload world run (.go next) world₁ stepped)
      (hnext : graph.contains next = true)
      (rest : Walk bounds graph left none
        ((world₁.told bounds stepped stepped.node .nodeCompleted).told bounds stepped next
          .nodeEntered)
        (stepped.entering bounds next) steps world' run') :
      Walk bounds graph (left + 1) payload world run (⟨run.node, .go next⟩ :: steps) world' run'

variable {bounds : Bounds} {graph : Graph} {left : Nat} {payload : Option Payload}
  {world world₁ world' : World} {run after run' : Run} {outcome : Outcome} {steps : List Taken}

theorem Taken.next?_go {node next : NodeId} (hnext : graph.contains next = true) :
    Taken.next? graph ⟨node, .go next⟩ = some next :=
  if_pos hnext

/-- Every walk begins with a step, if its node is there. -/
theorem Course.stepped
    (h : Course bounds (.walk graph (left + 1) payload) world run world' run') :
    graph.find? run.node = none ∨ ∃ outcome world₁ stepped,
      Stepped bounds graph payload world run outcome world₁ stepped ∧
        Course bounds (.leave graph left outcome) world₁ stepped world' run' := by
  cases h with
  | missing hnode => exact .inl hnode
  | plain hnode hplain hstep rest =>
      exact .inr ⟨_, _, _, fun _ _ _ => .plain hnode hplain hstep, rest⟩
  | tooDeep hnode hflow hdepth rest =>
      exact .inr ⟨_, _, _, fun _ _ _ => .tooDeep hnode hflow hdepth, rest⟩
  | unloadable hnode hflow hdepth hlook rest =>
      exact .inr ⟨_, _, _, fun _ _ _ => .unloadable hnode hflow hdepth hlook, rest⟩
  | nest hnode hflow hdepth hlook drive rest =>
      exact .inr ⟨_, _, _, fun _ _ _ => .nest hnode hflow hdepth hlook drive, rest⟩
  | orphan hnode hflow hnested rest =>
      exact .inr ⟨_, _, _, fun _ _ _ => .orphan hnode hflow hnested, rest⟩
  | lost hnode hflow hnested hlook rest =>
      exact .inr ⟨_, _, _, fun _ _ _ => .lost hnode hflow hnested hlook, rest⟩
  | pass hnode hflow hnested hlook drive rest =>
      exact .inr ⟨_, _, _, fun _ _ _ => .pass hnode hflow hnested hlook drive, rest⟩

/-- Where a level goes no further, it does not matter how many steps are left. -/
theorem Course.stays {node : NodeId}
    (h : Course bounds (.leave graph left outcome) world run world' run')
    (hstays : Taken.next? graph ⟨node, outcome⟩ = none) (left' : Nat) :
    Course bounds (.leave graph left' outcome) world run world' run' := by
  cases h with
  | go hnext rest => simp [Taken.next?, hnext] at hstays
  | astray hnext => exact .astray hnext
  | complete => exact .complete
  | suspend => exact .suspend
  | fail => exact .fail

/-- Every walk has its steps. -/
theorem Course.walk (h : Course bounds (.walk graph left payload) world run world' run') :
    ∃ steps, Walk bounds graph left payload world run steps world' run' := by
  induction left generalizing payload world run with
  | zero => exact ⟨[], .spent h⟩
  | succ left ih =>
      rcases h.stepped with hnode | ⟨outcome, world₁, stepped, hstep, hleave⟩
      · cases h with
        | missing => exact ⟨[], .missing hnode fun _ => .missing hnode⟩
        | _ => simp_all
      · cases hnext : Taken.next? graph ⟨run.node, outcome⟩ with
        | none => exact ⟨_, .last hstep hnext (hleave.stays hnext)⟩
        | some next =>
            cases hleave with
            | go hthere rest =>
                obtain ⟨steps, hsteps⟩ := ih rest
                exact ⟨_, .on hstep hthere hsteps⟩
            | astray hthere => simp [Taken.next?, hthere] at hnext
            | _ => simp [Taken.next?] at hnext

namespace Walk

/-- Without its steps, this is the walk of a drive. -/
theorem course (h : Walk bounds graph left payload world run steps world' run') :
    Course bounds (.walk graph left payload) world run world' run' := by
  induction h with
  | spent rest => exact rest
  | missing hnode rest => exact rest _
  | last step stays rest => exact (step _ _ _).goes (rest _)
  | on step hnext rest ih => exact (step _ _ _).goes (.go hnext ih)

end Walk

/-! ## What a step leaves alone -/

namespace Stepped

/-- A step stays within one visit. -/
theorem visit (h : Stepped bounds graph payload world run outcome world₁ after) :
    after.node = run.node ∧ after.history.nodes = run.history.nodes := by
  cases h 0 world run with
  | @plain _ _ _ _ _ node _ _ _ _ _ hnode hplain hstep =>
      have hkeeps := Behaviour.step_keepsVisit hplain (alone bounds node) world run payload
      rw [hstep] at hkeeps
      exact ⟨hkeeps.visit.node, hkeeps.visit.nodes⟩
  | tooDeep | unloadable | orphan => exact ⟨rfl, rfl⟩
  | @nest _ _ _ _ node flow _ _ child _ _ hnode hflow hdepth hlook drive =>
      have hvisit := settle_visit flow (alone bounds node) (run.givingAway.withChild child)
      exact ⟨hvisit.node, hvisit.nodes⟩
  | lost => exact ⟨(reclaim_visit run).node, (reclaim_visit run).nodes⟩
  | @pass _ _ _ _ _ node flow _ _ _ _ ended _ _ hnode hflow hnested hlook drive =>
      have hvisit := settle_visit flow (alone bounds node) (run.withChild ended)
      exact ⟨hvisit.node, hvisit.nodes⟩

/-- No step of a standard node fails in the words of a budget. -/
theorem ne_exceeded (h : Stepped bounds graph payload world run outcome world₁ after)
    (hstandard : graph.Standard) : outcome ≠ .fail .stepLimit bounds.exceeded := by
  intro hwords
  cases h 0 world run with
  | @plain _ _ _ _ _ node _ _ _ _ _ hnode hplain hstep =>
      by_cases htakes : node.behaviour.Takes payload
      · have hfails : (world.act (node.behaviour.step (alone bounds node) run payload)).1.1.FailsAs
            node.behaviour.MayFail :=
          Behaviour.act_step_failsAs hplain (hstandard.node hnode) htakes world run
        rw [hstep, hwords] at hfails
        cases hfails with
        | fail allowed => exact allowed.ne_stepLimit rfl
      · -- A menu that is told that time has passed fails, but not so.
        obtain ⟨menu, hmenu, rfl⟩ : ∃ menu, node.behaviour = .menu menu ∧
            payload = some .elapsed := by
          simpa [Behaviour.Takes] using htakes
        rw [hmenu] at hstep
        have hfailed : Outcome.fail .internal "menu cannot be resumed by a timer" = outcome :=
          congrArg (fun result => result.1.1) hstep
        rw [hwords] at hfailed
        cases hfailed
  | tooDeep => cases hwords
  | @unloadable _ _ _ _ _ _ e => exact e.failureKind_ne_stepLimit (Outcome.fail.inj hwords).1
  | nest => exact Subflow.settle_ne_exceeded _ _ _ _ hwords
  | orphan => cases hwords
  | @lost _ _ _ _ _ _ _ _ _ e => exact e.failureKind_ne_stepLimit (Outcome.fail.inj hwords).1
  | pass => exact Subflow.settle_ne_exceeded _ _ _ _ hwords

end Stepped

/-! ## How a walk ends -/

/-- A run that has ended or paused without going on from its node. -/
structure InPlace (run run' : Run) : Prop where
  node : run'.node = run.node
  nodes : run'.history.nodes = run.history.nodes

theorem InPlace.failing (run : Run) (kind : FailureKind) (message : String) :
    InPlace run (run.failing bounds kind message) :=
  ⟨rfl, History.nodes_note _ _⟩

/-- A level that may not be stepped any more fails where it stands. -/
theorem Course.spent (h : Course bounds (.walk graph 0 payload) world run world' run') :
    InPlace run run' ∧ run'.FailedAs bounds .stepLimit bounds.exceeded := by
  cases h with
  | exhausted => exact ⟨.failing _ _ _, run.failedAs_failing _ _ _⟩

/-- A level whose node is not there fails in other words. -/
theorem Course.missed (h : Course bounds (.walk graph (left + 1) payload) world run world' run')
    (hnode : graph.find? run.node = none) :
    InPlace run run' ∧ ∃ message, run'.FailedAs bounds .configuration message := by
  cases h with
  | missing => exact ⟨.failing _ _ _, _, run.failedAs_failing _ _ _⟩
  | _ => simp_all

/-- A level that does not go on ends as the outcome says. -/
theorem Course.halts {node : NodeId}
    (h : Course bounds (.leave graph left outcome) world run world' run')
    (hstays : Taken.next? graph ⟨node, outcome⟩ = none) :
    InPlace run run' ∧ run'.EndsAs bounds outcome := by
  cases h with
  | go hnext rest => simp [Taken.next?, hnext] at hstays
  | astray hnext => exact ⟨.failing _ _ _, run.failedAs_failing _ _ _⟩
  | complete => exact ⟨⟨rfl, rfl⟩, rfl⟩
  | suspend => exact ⟨⟨rfl, rfl⟩, rfl, rfl⟩
  | fail => exact ⟨.failing _ _ _, run.failedAs_failing _ _ _⟩

namespace Walk

variable (h : Walk bounds graph left payload world run steps world' run')
include h

theorem length_le : steps.length ≤ left := by
  induction h with
  | spent rest => exact Nat.le_refl 0
  | missing hnode rest => exact Nat.zero_le _
  | last step stays rest => exact Nat.succ_le_succ (Nat.zero_le _)
  | on step hnext rest ih => exact Nat.succ_le_succ ih

/-- A level enters the nodes that its steps go on to, and no others. -/
theorem nodes :
    run'.history.nodes = run.history.nodes ++ steps.filterMap (Taken.next? graph) := by
  induction h with
  | spent rest => rw [rest.spent.1.nodes]; simp
  | missing hnode rest => rw [((rest 0).missed hnode).1.nodes]; simp
  | last step stays rest =>
      rw [((rest 0).halts stays).1.nodes, step.visit.2, List.filterMap_cons_none stays]
      simp
  | @on left payload world run next world₁ after steps world' run' step hnext rest ih =>
      have hentered : (after.entering bounds next).history.nodes = run.history.nodes ++ [next] := by
        rw [← step.visit.2]
        exact History.nodes_enter _ _ _
      rw [ih, hentered, List.filterMap_cons_some (Taken.next?_go hnext), List.append_assoc]
      rfl

/-- The nodes at which a level stands are stepped one after the other; the last of them may be left
over. -/
theorem stood : (run.node :: steps.filterMap (Taken.next? graph)).getLast? = some run'.node ∧
    steps.map Taken.node <+: run.node :: steps.filterMap (Taken.next? graph) := by
  induction h with
  | spent rest => exact ⟨congrArg some rest.spent.1.node.symm, List.nil_prefix⟩
  | missing hnode rest =>
      exact ⟨congrArg some ((rest 0).missed hnode).1.node.symm, List.nil_prefix⟩
  | last step stays rest =>
      rw [List.filterMap_cons_none stays]
      have hnode := ((rest 0).halts stays).1.node.trans step.visit.1
      exact ⟨congrArg some hnode.symm, List.prefix_refl _⟩
  | on step hnext rest ih =>
      rw [List.filterMap_cons_some (Taken.next?_go hnext)]
      exact ⟨ih.1, List.cons_prefix_cons.mpr ⟨rfl, ih.2⟩⟩

/-- Where every step has gone on, the last node is left over. -/
theorem unstepped (hall : ∀ step ∈ steps, (step.next? graph).isSome = true) :
    run.node :: steps.filterMap (Taken.next? graph) = steps.map Taken.node ++ [run'.node] := by
  induction h with
  | spent rest => exact congrArg (fun node => [node]) rest.spent.1.node.symm
  | missing hnode rest =>
      exact congrArg (fun node => [node]) ((rest 0).missed hnode).1.node.symm
  | last step stays rest => simp [stays] at hall
  | on step hnext rest ih =>
      rw [List.filterMap_cons_some (Taken.next?_go hnext)]
      exact congrArg _ (ih fun other hother => hall other (.tail _ hother))

/-- A level fails in the words of its budget if and only if all the steps that it may take have gone
on. -/
theorem exceeded_iff (hstandard : graph.Standard) :
    run'.FailedAs bounds .stepLimit bounds.exceeded ↔
      steps.length = left ∧ ∀ step ∈ steps, (step.next? graph).isSome = true := by
  induction h with
  | spent rest => exact ⟨fun _ => ⟨rfl, nofun⟩, fun _ => rest.spent.2⟩
  | missing hnode rest =>
      obtain ⟨-, message, hfailed⟩ := (rest 0).missed hnode
      constructor
      · intro hspent
        cases (hspent.inj hfailed).1
      · rintro ⟨hlength, -⟩
        cases hlength
  | @last left payload world run outcome world₁ after world' run' step stays rest =>
      have hends := ((rest 0).halts stays).2
      constructor
      · intro hspent
        cases outcome with
        | complete => cases hspent.1.symm.trans hends
        | suspend suspension => cases hspent.1.symm.trans hends.1
        | go next => cases (hspent.inj hends).1
        | fail kind message =>
            obtain ⟨rfl, rfl⟩ := hspent.inj hends
            exact absurd rfl (step.ne_exceeded hstandard)
      · rintro ⟨-, hall⟩
        simp [stays] at hall
  | on step hnext rest ih =>
      rw [ih, List.length_cons, Nat.succ_inj, List.forall_mem_cons, Taken.next?_go hnext]
      simp

/-- A level ends as its last step says, if that does not go on. -/
theorem ends {last : Taken} (hlast : steps.getLast? = some last)
    (hstays : last.next? graph = none) : run'.EndsAs bounds last.outcome := by
  induction h with
  | spent rest => cases hlast
  | missing hnode rest => cases hlast
  | last step stays rest =>
      obtain rfl := Option.some.inj hlast
      exact ((rest 0).halts stays).2
  | @on left payload world run next world₁ after steps world' run' step hnext rest ih =>
      rw [List.getLast?_cons] at hlast
      cases hsteps : steps.getLast? with
      | none =>
          rw [hsteps] at hlast
          obtain rfl := Option.some.inj hlast
          simp [Taken.next?_go hnext] at hstays
      | some other =>
          rw [hsteps] at hlast
          exact ih (hsteps.trans hlast)

/-- A level that does not use up its budget would do the same with any larger one. -/
theorem more (hspare : ¬(steps.length = left ∧ ∀ step ∈ steps, (step.next? graph).isSome = true))
    (extra : Nat) : Walk bounds graph (left + extra) payload world run steps world' run' := by
  induction h with
  | spent rest => exact absurd ⟨rfl, nofun⟩ hspare
  | missing hnode rest => exact Nat.succ_add _ _ ▸ .missing hnode rest
  | last step stays rest => exact Nat.succ_add _ _ ▸ .last step stays rest
  | on step hnext rest ih =>
      refine Nat.succ_add _ _ ▸ .on step hnext (ih fun hspent => hspare ?_)
      rw [List.length_cons, List.forall_mem_cons, Taken.next?_go hnext, hspent.1]
      exact ⟨rfl, rfl, hspent.2⟩

end Walk

/-! ## Main statement -/

/-- The world and the run in which a level takes its first step. -/
def arrival (bounds : Bounds) (payload : Option Payload) (world : World) (run : Run) :
    World × Run :=
  match payload with
  | none =>
    (world.told bounds run run.node .nodeEntered, run.awake.entering bounds run.node)
  | some _ => (world, run.awake)

/-- The drive of a level with the steps that it takes of its own. -/
def LevelWalk (bounds : Bounds) (graph : Graph) (payload : Option Payload) (world : World)
    (run : Run) (steps : List Taken) (world' : World) (run' : Run) : Prop :=
  Walk bounds graph bounds.settings.maxSteps payload (arrival bounds payload world run).1
    (arrival bounds payload world run).2 steps world' run'

/-- Every drive of a level has its steps. -/
theorem Course.levelWalk (h : Course bounds (.level graph payload) world run world' run') :
    ∃ steps, LevelWalk bounds graph payload world run steps world' run' := by
  cases h with
  | enter rest => exact rest.walk
  | wake rest => exact rest.walk

/-- Without its steps, this is the drive of a level. -/
theorem LevelWalk.course (h : LevelWalk bounds graph payload world run steps world' run') :
    Course bounds (.level graph payload) world run world' run' := by
  cases payload with
  | none => exact .enter (Walk.course h)
  | some payload => exact .wake (Walk.course h)

/-- The nodes that a drive enters before its first step. -/
def entered (payload : Option Payload) (run : Run) : List NodeId :=
  if payload.isNone then [run.node] else []

/-- What the steps of a level have to do with its budget. -/
structure Budget (bounds : Bounds) (graph : Graph) (payload : Option Payload) (world : World)
    (run : Run) (steps : List Taken) (world' : World) (run' : Run) : Prop where
  /-- A level takes no more steps than its budget allows. -/
  within : steps.length ≤ bounds.settings.maxSteps
  /-- It enters its first node if it begins, and those that its steps go on to. -/
  nodes : run'.history.nodes =
    run.history.nodes ++ (entered payload run ++ steps.filterMap (Taken.next? graph))
  /-- So its history grows by one visit for each step that goes on, and one if it begins. -/
  growth : run'.history.length = run.history.length + (if payload.isNone then 1 else 0) +
    steps.countP fun step => (step.next? graph).isSome
  atMost : run'.history.length ≤ run.history.length + (if payload.isNone then 1 else 0) +
    bounds.settings.maxSteps
  /-- The nodes at which it stands are stepped one after the other. -/
  stood : steps.map Taken.node <+: run.node :: steps.filterMap (Taken.next? graph)
  /-- It fails for its budget if and only if every step that it may take has gone on. -/
  exceeded_iff : run'.FailedAs bounds .stepLimit bounds.exceeded ↔
    steps.length = bounds.settings.maxSteps ∧
      ∀ step ∈ steps, (step.next? graph).isSome = true
  /-- If it does, the node at which it stands then is not stepped. -/
  unstepped : run'.FailedAs bounds .stepLimit bounds.exceeded →
    run.node :: steps.filterMap (Taken.next? graph) = steps.map Taken.node ++ [run'.node]
  /-- If its last step does not go on, be it the last one that it may take, it ends as that step
  says. -/
  ends : ∀ last, steps.getLast? = some last → last.next? graph = none →
    run'.EndsAs bounds last.outcome
  /-- If it does not fail for its budget, it would do the same with any larger one. -/
  unlimited : ¬run'.FailedAs bounds .stepLimit bounds.exceeded → ∀ extra,
    Walk bounds graph (bounds.settings.maxSteps + extra) payload
      (arrival bounds payload world run).1 (arrival bounds payload world run).2 steps world' run'

theorem LevelWalk.budget (h : LevelWalk bounds graph payload world run steps world' run')
    (hstandard : graph.Standard) :
    Budget bounds graph payload world run steps world' run' := by
  have hnode : (arrival bounds payload world run).2.node = run.node := by
    cases payload <;> rfl
  have harrival : (arrival bounds payload world run).2.history.nodes =
      run.history.nodes ++ entered payload run := by
    cases payload with
    | none => exact History.nodes_enter _ _ _
    | some payload => exact (List.append_nil _).symm
  have hnodes := Walk.nodes h
  rw [harrival, List.append_assoc] at hnodes
  have hgrowth : run'.history.length = run.history.length + (if payload.isNone then 1 else 0) +
      steps.countP fun step => (step.next? graph).isSome := by
    have hlength := congrArg List.length hnodes
    rw [List.length_append, List.length_append, History.length_nodes, History.length_nodes,
      List.length_filterMap_eq_countP] at hlength
    rw [hlength, entered, Nat.add_assoc]
    split <;> rfl
  have hiff := Walk.exceeded_iff h hstandard
  constructor
  case within => exact Walk.length_le h
  case nodes => exact hnodes
  case growth => exact hgrowth
  case atMost =>
    have hcount := List.countP_le_length (p := fun step => (Taken.next? graph step).isSome)
      (l := steps)
    have hwithin := Walk.length_le h
    omega
  case stood => exact hnode ▸ (Walk.stood h).2
  case exceeded_iff => exact hiff
  case unstepped => exact fun hspent => hnode ▸ Walk.unstepped h (hiff.mp hspent).2
  case ends => exact fun _ => Walk.ends h
  case unlimited => exact fun hspare => Walk.more h fun hspent => hspare (hiff.mpr hspent)

/-- The budget of a level is exact in every drive in a flow of standard nodes, wherever the run
stands: the drive has its steps, and whatever it does is in keeping with them.  If the run is paused
after that, the next drive has the whole budget again. -/
theorem step_budget_is_exact {flow : Flow} (hload : Graph.load .standard flow = .ok graph)
    (bounds : Bounds) (world : World) (run : Run) (payload : Option Payload) :
    (∃ steps, LevelWalk bounds graph payload world run steps
      (world.act (run.drive bounds graph payload)).2
      (world.act (run.drive bounds graph payload)).1) ∧
    ∀ steps world' run', LevelWalk bounds graph payload world run steps world' run' →
      world.act (run.drive bounds graph payload) = (run', world') ∧
      Budget bounds graph payload world run steps world' run' ∧
      (run'.status = .paused → ∀ later world₁ reply others world₂ run₂,
        LevelWalk later graph (some reply) world₁ run' others world₂ run₂ →
          Budget later graph (some reply) world₁ run' others world₂ run₂) := by
  have hstandard := (Graph.load_sound hload).standard
  have hdrive := course_drive bounds world run graph payload
  refine ⟨hdrive.levelWalk, ?_⟩
  intro steps world' run' hsteps
  obtain ⟨hworld, hrun⟩ := hdrive.unique hsteps.course
  refine ⟨Prod.ext hrun hworld, hsteps.budget hstandard, ?_⟩
  intro _ later world₁ reply others world₂ run₂ hothers
  exact hothers.budget hstandard

/-- A run asks with its last step, and goes round after the reply until its budget is used up again:
the question that it comes back to is not asked. -/
theorem step_budget_is_exact_sample :
    let flow : Flow :=
      { id := "round"
        nodes := [⟨"begin", "START", none, []⟩, ⟨"ask", "MENU", none, []⟩,
          ⟨"turn", "CAROUSEL", none, []⟩]
        edges := [⟨"e1", "begin", "ask", none⟩, ⟨"e2", "ask", "turn", none⟩,
          ⟨"e3", "turn", "ask", none⟩] }
    let world : World := .opened { maxSteps := 2 } ⟨0, 0⟩ [flow] (fun _ _ _ => .ok "sent")
      (fun _ _ _ => .ok ()) {}
    let run := Run.fresh ⟨0⟩ { flow := "round", contactId := "ann" } "begin" ⟨0, 0⟩
    ∃ graph steps others paused failed world₁ world₂, Graph.load .standard flow = .ok graph ∧
      LevelWalk world.bounds graph none world run steps world₁ paused ∧ steps.length ≤ 2 ∧
      paused.status = .paused ∧
      LevelWalk world.bounds graph (some (.reply "on")) world₁ paused others world₂ failed ∧
      failed.FailedAs world.bounds .stepLimit "exceeded 2 steps without pausing" ∧
      others.length = 2 ∧ failed.history.length = 4 := by
  intro flow world run
  let first (graph : Graph) := world.act (run.drive world.bounds graph none)
  let second (graph : Graph) :=
    (first graph).2.act ((first graph).1.drive world.bounds graph (some (.reply "on")))
  have hends : (Graph.load .standard flow).map (fun graph => ((first graph).1.status,
      (second graph).1.status, (second graph).1.failure, (second graph).1.node,
        (second graph).1.history.length)) =
      .ok (.paused, .failed, some ⟨.stepLimit, "exceeded 2 steps without pausing", "ask", ⟨0, 0⟩⟩,
        "ask", 4) := by
    decide +kernel
  cases hload : Graph.load .standard flow with
  | error e =>
      rw [hload] at hends
      cases hends
  | ok graph =>
      rw [hload] at hends
      simp only [Except.map, Except.ok.injEq, Prod.mk.injEq] at hends
      obtain ⟨hpaused, hstatus, hfailure, hnode, hlength⟩ := hends
      obtain ⟨⟨steps, hsteps⟩, hall⟩ := step_budget_is_exact hload world.bounds world run none
      obtain ⟨-, hbudget, hagain⟩ := hall steps _ _ hsteps
      obtain ⟨⟨others, hothers⟩, -⟩ := step_budget_is_exact hload world.bounds (first graph).2
        (first graph).1 (some (.reply "on"))
      have hbudget' := hagain hpaused _ _ _ _ _ _ hothers
      have hwords : world.bounds.exceeded = "exceeded 2 steps without pausing" := by decide +kernel
      have hfailed : (second graph).1.FailedAs world.bounds .stepLimit
          "exceeded 2 steps without pausing" := by
        refine ⟨hstatus, ?_⟩
        rw [hfailure, hnode]
        rfl
      exact ⟨graph, steps, others, _, _, _, _, rfl, hsteps, hbudget.within, hpaused, hothers,
        hfailed, (hbudget'.exceeded_iff.mp (hwords ▸ hfailed)).1, hlength⟩

end Drive

end Dialogue
