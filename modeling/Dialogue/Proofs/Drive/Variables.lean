import Dialogue.Proofs.Drive.Shape
import Dialogue.Proofs.Step.Nested

/-!
# What becomes of variables in a drive

The variables of a chain of levels are in its innermost level.  They come back
to the outermost level when the drive ends, if every level on the way up still
stands at a node that runs another flow: `Course.handsBack`.  Where one level
does not, its nested runs are left behind as they are, and nothing that is in
their variables can be told from the run that comes out: `Course.forgets`.
-/

namespace Dialogue

namespace Level

/-- Every level of a chain but the innermost stands at a node that runs another flow. -/
def Intact (flows : Flows) : Level → List Level → Prop
  | _, [] => True
  | level, child :: below =>
    (∃ flow, level.Stands flows (.subflow flow)) ∧ Intact flows child below

/-- A test for standing at a subflow node. -/
theorem stands_subflow_iff (flows : Flows) (level : Level) :
    (∃ flow, level.Stands flows (.subflow flow)) ↔
      ((flows level.flow).toOption.bind (·.find? level.node)).any (·.behaviour.isSubflow) =
        true := by
  constructor
  · rintro ⟨flow, graph, node, hflow, hnode, hbehaviour⟩
    simp [hflow, hnode, hbehaviour, Except.toOption, Behaviour.isSubflow]
  · intro h
    obtain ⟨node, hnode, hsubflow⟩ := (Option.any_eq_true _ _).mp h
    obtain ⟨graph, hgraph, hnode⟩ := Option.bind_eq_some_iff.mp hnode
    cases hflow : flows level.flow with
    | error e => simp [hflow, Except.toOption] at hgraph
    | ok loaded =>
        simp only [hflow, Except.toOption, Option.some.injEq] at hgraph
        subst hgraph
        cases hbehaviour : node.behaviour with
        | subflow flow => exact ⟨flow, loaded, node, hflow, hnode, hbehaviour⟩
        | _ => simp [hbehaviour, Behaviour.isSubflow] at hsubflow

instance decidableIntact (flows : Flows) :
    (level : Level) → (below : List Level) → Decidable (level.Intact flows below)
  | _, [] => .isTrue trivial
  | level, child :: below =>
    have : Decidable (∃ flow, level.Stands flows (.subflow flow)) :=
      decidable_of_iff _ (stands_subflow_iff flows level).symm
    have := decidableIntact flows child below
    inferInstanceAs (Decidable (_ ∧ _))

theorem Intact.outer {flows : Flows} {before after : Level} {below : List Level}
    (h : before.Intact flows below) (hflow : after.flow = before.flow)
    (hnode : after.node = before.node) : after.Intact flows below := by
  cases below with
  | nil => trivial
  | cons child below =>
      obtain ⟨⟨flow, hstands⟩, hbelow⟩ := h
      refine ⟨⟨flow, ?_⟩, hbelow⟩
      unfold Stands at hstands ⊢
      rw [hflow, hnode]
      exact hstands

end Level

namespace Run

/-- A level of the run has a variable. -/
def Has (run : Run) (name : String) : Prop := ∃ level ∈ run.levels, level.vars.has name = true

/-- A run that has ended with nothing nested in it and with every variable of the run before. -/
structure HandsBack (before after : Run) : Prop where
  ended : after.isTerminal = true
  nested : after.nested = []
  vars : ∀ name, before.Has name → after.vars.has name = true

/-- A chain that can be resumed through all its levels. -/
def Intact (flows : Flows) (settings : Settings) (run : Run) : Prop :=
  run.nested = [] ∨ 0 < settings.maxSteps ∧ run.toLevel.Intact flows run.nested

instance (flows : Flows) (settings : Settings) (run : Run) :
    Decidable (run.Intact flows settings) := inferInstanceAs (Decidable (_ ∨ _))

theorem not_intact {flows : Flows} {settings : Settings} {run : Run}
    (h : ¬run.Intact flows settings) :
    run.nested ≠ [] ∧ (settings.maxSteps = 0 ∨ ¬run.toLevel.Intact flows run.nested) := by
  refine ⟨fun hnested => h (.inl hnested), ?_⟩
  by_cases hsteps : 0 < settings.maxSteps
  · exact .inr fun hintact => h (.inr ⟨hsteps, hintact⟩)
  · exact .inl (by omega)

theorem has_of_nil {run : Run} (h : run.nested = []) {name : String} (hname : run.Has name) :
    run.vars.has name = true := by
  obtain ⟨level, hlevel, hhas⟩ := hname
  simp only [levels, h, List.mem_singleton] at hlevel
  exact hlevel ▸ hhas

/-- A variable of a run is its own or one of its nested run. -/
theorem has_of_cons {run : Run} {child : Level} {below : List Level}
    (h : run.nested = child :: below) {name : String} (hname : run.Has name) :
    run.vars.has name = true ∨ ({ child with nested := below } : Run).Has name := by
  obtain ⟨level, hlevel, hhas⟩ := hname
  simp only [levels, h] at hlevel
  rcases List.mem_cons.mp hlevel with rfl | hlevel
  · exact .inl hhas
  · exact .inr ⟨level, hlevel, hhas⟩

/-- Work on the outermost level that leaves its variables alone. -/
theorem has_onLevel {run : Run} {f : Level → Level} (hf : (f run.toLevel).vars = run.vars)
    {name : String} (hname : run.Has name) : (run.onLevel f).Has name := by
  obtain ⟨level, hlevel, hhas⟩ := hname
  rcases List.mem_cons.mp hlevel with rfl | hlevel
  · exact ⟨f run.toLevel, .head _, hf ▸ hhas⟩
  · exact ⟨level, .tail _ hlevel, hhas⟩

/-- What hands back to a later state of a run hands back to an earlier one. -/
theorem HandsBack.before {first second last : Run} (h : second.HandsBack last)
    (hvars : ∀ name, first.Has name → second.Has name) : first.HandsBack last :=
  ⟨h.ended, h.nested, fun name hname => h.vars name (hvars name hname)⟩

end Run

namespace Drive

variable {bounds : Bounds} {flows : Flows}

/-- What a run has to be like before a phase for its variables to come back. -/
def Bound (flows : Flows) (settings : Settings) : Phase → Run → Prop
  | .level _ none, run => run.nested = []
  | .level graph (some _), run =>
    flows run.flow = .ok graph ∧ run.Intact flows settings
  | .walk _ _ none, run => run.nested = []
  | .walk graph left (some _), run =>
    flows run.flow = .ok graph ∧
      (run.nested = [] ∨ 0 < left ∧ 0 < settings.maxSteps ∧ run.toLevel.Intact flows run.nested)
  | .leave _ _ (.suspend _), _ => True
  | .leave _ _ _, run => run.nested = []

/-- How the variables of a run fare in a drive: the run pauses, or it hands them back. -/
def Fares (before after : Run) : Prop :=
  (after.status = .paused ∧ after.suspension.isSome) ∨ before.HandsBack after

theorem Fares.before {first second last : Run} (h : Fares second last)
    (hvars : ∀ name, first.Has name → second.Has name) : Fares first last :=
  h.imp id fun h => h.before hvars

theorem bound_leave {settings : Settings} {graph : Graph} {left : Nat} {outcome : Outcome}
    {run : Run} (hnested : run.nested = []) :
    Bound flows settings (.leave graph left outcome) run := by
  cases outcome with
  | suspend suspension => trivial
  | _ => exact hnested

theorem fares_failing {run : Run} (hnested : run.nested = []) (kind : FailureKind)
    (message : String) : Fares run (run.failing bounds kind message) :=
  .inr ⟨rfl, hnested, fun _ hname => run.has_of_nil hnested hname⟩

/-- Before a step of a level that stands at no subflow node there is nothing nested in it. -/
theorem nested_of_bound {settings : Settings} {graph : Graph} {left : Nat}
    {payload : Option Payload} {run : Run}
    (h : Bound flows settings (.walk graph left payload) run)
    (hplain : ∀ node, graph.find? run.node = some node → node.behaviour.isSubflow = false) :
    run.nested = [] := by
  cases payload with
  | none => exact h
  | some payload =>
      obtain ⟨hflow, hnested | ⟨-, -, hintact⟩⟩ := h
      · exact hnested
      · cases hnested : run.nested with
        | nil => rfl
        | cons child below =>
            rw [hnested] at hintact
            obtain ⟨⟨flow, graph', node, hflow', hnode, hbehaviour⟩, -⟩ := hintact
            obtain rfl := Except.ok.inj (hflow.symm.trans hflow')
            have := hplain node hnode
            simp [hbehaviour, Behaviour.isSubflow] at this

/-- A level takes the variables of its nested run back with its own, once that has ended. -/
theorem has_reclaim {run child : Run} {name : String}
    (h : run.vars.has name = true ∨ child.vars.has name = true) :
    (run.withChild child).reclaim.vars.has name = true := by
  change (child.vars.union run.vars).has name = true
  rw [Fields.has_union]
  rcases h with h | h <;> simp [h]

/-- A level that cannot be loaded is the innermost one of an intact chain. -/
theorem below_unloaded {settings : Settings} {graph : Graph} {left : Nat} {payload : Payload}
    {run : Run} {level : Level} {below : List Level} {e : FlowError}
    (h : Bound flows settings (.walk graph left (some payload)) run)
    (hnested : run.nested = level :: below) (hflow : flows level.flow = .error e) : below = [] := by
  obtain ⟨-, hempty | ⟨-, -, hintact⟩⟩ := h
  · simp [hnested] at hempty
  · rw [hnested] at hintact
    cases below with
    | nil => rfl
    | cons inner below =>
        obtain ⟨-, ⟨other, graph', node, hloaded, -⟩, -⟩ := hintact
        simp [hflow] at hloaded

/-- A level takes back the next one only, whatever is nested in that. -/
theorem reclaim_next {run : Run} {level : Level} {below : List Level}
    (hnested : run.nested = level :: below) :
    run.reclaim = (run.withChild { level with nested := [] }).reclaim := by
  simp [Run.reclaim, hnested, Run.withChild, Run.levels, Run.onLevel]

/-- How a level fares whose nested run has fared so: it pauses with it, or takes all variables
back and goes on. -/
theorem fares_settle {graph : Graph} {left : Nat} {before inner run child run' : Run}
    {flow : FlowId} {around : Surroundings} {world world' : World} (hchild : Fares inner child)
    (rest : Course bounds
      (.leave graph left (Subflow.settle flow around (run.withChild child)).1) world
      (Subflow.settle flow around (run.withChild child)).2 world' run')
    (ih : Bound flows bounds.settings
        (.leave graph left (Subflow.settle flow around (run.withChild child)).1)
        (Subflow.settle flow around (run.withChild child)).2 →
      Fares (Subflow.settle flow around (run.withChild child)).2 run')
    (hvars : ∀ name, before.Has name → run.vars.has name = true ∨ inner.Has name) :
    Fares before run' := by
  rcases hchild with ⟨hstatus, hpending⟩ | ⟨hended, hnested, hback⟩
  · obtain ⟨suspension, hpending⟩ := Option.isSome_iff_exists.mp hpending
    rw [settle_paused flow around hstatus hpending] at rest
    cases rest with
    | suspend => exact .inl ⟨rfl, rfl⟩
  · rw [settle_ended flow around hended] at ih
    refine (ih (bound_leave rfl)).before fun name hname => ?_
    exact ⟨_, .head _, has_reclaim ((hvars name hname).imp id (hback name))⟩

/-- A drive that ends the run of an intact chain gives all variables of the chain back. -/
theorem Course.fares {phase : Phase} {world world' : World} {run run' : Run}
    (h : Course bounds phase world run world' run') (hflows : world.flow = flows)
    (hbound : Bound flows bounds.settings phase run) : Fares run run' := by
  induction h with
  | enter rest ih =>
      refine (ih hflows hbound).before fun name hname => ?_
      exact Run.has_onLevel rfl (Run.has_onLevel rfl hname)
  | wake rest ih =>
      obtain ⟨hflow, hintact⟩ := hbound
      have hawake := ih hflows
        ⟨hflow, hintact.imp id fun h => ⟨h.1, h.1, h.2.outer rfl rfl⟩⟩
      exact hawake.before fun _ hname => Run.has_onLevel rfl hname
  | @exhausted graph payload world run =>
      cases payload with
      | none => exact fares_failing hbound _ _
      | some payload =>
          rcases hbound.2 with hnested | ⟨hzero, -⟩
          · exact fares_failing hnested _ _
          · exact absurd hzero (Nat.lt_irrefl 0)
  | missing hnode =>
      exact fares_failing (nested_of_bound hbound (by simp [hnode])) _ _
  | @plain graph left payload world run node outcome stepped world₁ world' run' hnode hplain
      hstep rest ih =>
      have hnested : run.nested = [] := by
        refine nested_of_bound hbound fun other hother => ?_
        obtain rfl := Option.some.inj (hnode.symm.trans hother)
        exact hplain
      have hkeeps := Behaviour.step_keepsVisit hplain (alone bounds node) world run payload
      have hlater := world.later_act (node.behaviour.step (alone bounds node) run payload)
      rw [hstep] at hkeeps hlater
      have hempty : stepped.nested = [] := hkeeps.nested.trans hnested
      refine (ih (hlater.flow.trans hflows) (bound_leave hempty)).before ?_
      intro name hname
      exact ⟨stepped.toLevel, .head _, hkeeps.visit.vars name (run.has_of_nil hnested hname)⟩
  | tooDeep hnode hflow hdepth rest ih => exact ih hflows hbound
  | unloadable hnode hflow hdepth hlook rest ih => exact ih hflows hbound
  | @nest graph left world run node flow inner world₁ child world' run' hnode hflow hdepth hlook
      drive rest ihDrive ih =>
      have hnested : run.nested = [] := hbound
      have hlater := (world.later_look flow).trans (World.later_newRun _)
      have hchild := ihDrive (hlater.flow.trans hflows) rfl
      refine fares_settle hchild rest (ih ((hlater.trans drive.later).flow.trans hflows)) ?_
      intro name hname
      exact .inr ⟨_, .head _, run.has_of_nil hnested hname⟩
  | @orphan graph left payload world run node flow world' run' hnode hflow hnested rest ih =>
      exact ih hflows hnested
  | @lost graph left payload world run node flow child below e world' run' hnode hflow hnested
      hlook rest ih =>
      obtain rfl := below_unloaded hbound hnested (hflows ▸ hlook)
      rw [reclaim_next hnested] at ih
      refine (ih hflows rfl).before fun name hname => ?_
      refine ⟨_, .head _, has_reclaim ?_⟩
      rcases run.has_of_cons hnested hname with hown | hinner
      · exact .inl hown
      · exact .inr (Run.has_of_nil rfl hinner)
  | @pass graph left payload world run node flow child below inner world₁ ended world' run' hnode
      hflow hnested hlook drive rest ihDrive ih =>
      obtain ⟨-, hempty | ⟨-, hsteps, hintact⟩⟩ := hbound
      · simp [hnested] at hempty
      · rw [hnested] at hintact
        have hlater := world.later_look child.flow
        have hended := ihDrive (hlater.flow.trans hflows)
          ⟨hflows ▸ hlook, .inr ⟨hsteps, hintact.2⟩⟩
        refine fares_settle hended rest (ih ((hlater.trans drive.later).flow.trans hflows)) ?_
        intro name hname
        exact run.has_of_cons hnested hname
  | go hnext rest ih => exact (ih hflows hbound).before fun _ hname => Run.has_onLevel rfl hname
  | astray => exact fares_failing hbound _ _
  | complete => exact .inr ⟨rfl, hbound, fun _ hname => Run.has_of_nil hbound hname⟩
  | suspend => exact .inl ⟨rfl, rfl⟩
  | fail => exact fares_failing hbound _ _

/-! ## Chains that are broken -/

/-- A phase that does not look at what is nested in the run. -/
def Phase.Blind : Phase → Prop
  | .level _ payload | .walk _ _ payload => payload = none
  | .leave .. => True

/-- What a drive makes of the outermost level does not depend on what it does not look at. -/
theorem Course.outer {phase : Phase} {world world' : World} {run run' : Run}
    (h : Course bounds phase world run world' run') (hblind : phase.Blind)
    (nested : List Level) :
    ∃ nested', Course bounds phase world (run.withNested nested) world'
      (run'.withNested nested') := by
  induction h with
  | enter rest ih =>
      obtain ⟨nested', hrest⟩ := ih rfl
      exact ⟨nested', .enter hrest⟩
  | wake => simp [Phase.Blind] at hblind
  | exhausted => exact ⟨nested, .exhausted⟩
  | missing hnode => exact ⟨nested, .missing hnode⟩
  | @plain graph left payload world run node outcome stepped world₁ world' run' hnode hplain
      hstep rest ih =>
      obtain ⟨nested', hrest⟩ := ih trivial
      refine ⟨nested', .plain hnode hplain ?_ hrest⟩
      rw [Behaviour.act_step_withNested nested world run hplain, hstep]
      rfl
  | tooDeep hnode hflow hdepth rest ih =>
      obtain ⟨nested', hrest⟩ := ih trivial
      exact ⟨nested', .tooDeep hnode hflow hdepth hrest⟩
  | unloadable hnode hflow hdepth hlook rest ih =>
      obtain ⟨nested', hrest⟩ := ih trivial
      exact ⟨nested', .unloadable hnode hflow hdepth hlook hrest⟩
  | @nest graph left world run node flow inner world₁ child world' run' hnode hflow hdepth hlook
      drive rest ihDrive ih =>
      exact ⟨run'.nested, .nest hnode hflow hdepth hlook drive rest⟩
  | orphan => simp [Phase.Blind] at hblind
  | lost => simp [Phase.Blind] at hblind
  | pass => simp [Phase.Blind] at hblind
  | go hnext rest ih =>
      obtain ⟨nested', hrest⟩ := ih rfl
      exact ⟨nested', .go hnext hrest⟩
  | astray hnext => exact ⟨nested, .astray hnext⟩
  | complete => exact ⟨nested, .complete⟩
  | suspend => exact ⟨nested, .suspend⟩
  | fail => exact ⟨nested, .fail⟩

end Drive

/-- Nested levels with other variables in the innermost of them. -/
def Level.refill (vars : Values) : List Level → List Level
  | [] => []
  | [innermost] => [{ innermost with vars }]
  | level :: next :: below => level :: refill vars (next :: below)

/-- The run with other variables in the innermost level nested in it. -/
def Run.refilled (run : Run) (vars : Values) : Run :=
  run.withNested (Level.refill vars run.nested)

theorem Run.innermost_refilled (run : Run) (vars : Values) (h : run.nested ≠ []) :
    (run.refilled vars).innermost.vars = vars := by
  have hlast (levels : List Level) (hlevels : levels ≠ []) :
      ((Level.refill vars levels).getLast?.map Level.vars) = some vars := by
    induction levels with
    | nil => exact absurd rfl hlevels
    | cons level rest ih =>
        cases rest with
        | nil => rfl
        | cons next below =>
            have hne : Level.refill vars (next :: below) ≠ [] := by
              cases below <;> simp [Level.refill]
            rw [Level.refill, List.getLast?_cons_of_ne_nil hne]
            exact ih (by simp)
  obtain ⟨innermost, hinnermost, hvars⟩ := Option.map_eq_some_iff.mp (hlast run.nested h)
  change ((Level.refill vars run.nested).getLast?.getD run.toLevel).vars = vars
  rw [hinnermost]
  exact hvars

namespace Drive

/-- A run whose chain cannot be resumed through all its levels. -/
def Broken (flows : Flows) (settings : Settings) : Phase → Run → Prop
  | .level graph (some _), run =>
    flows run.flow = .ok graph ∧ ¬run.Intact flows settings
  | .walk graph left (some _), run =>
    flows run.flow = .ok graph ∧ run.nested ≠ [] ∧
      (left = 0 ∨ ¬run.toLevel.Intact flows run.nested)
  | _, _ => False

/-- Below a level that stands at a subflow node, the rest of a broken chain is broken. -/
theorem intact_child {settings : Settings} {graph : Graph} {left : Nat} {payload : Payload}
    {run : Run} {node : Graph.Node} {flow : FlowId} {child : Level} {below : List Level}
    (hbroken : Broken flows settings (.walk graph (left + 1) (some payload)) run)
    (hnode : graph.find? run.node = some node) (hflow : node.behaviour = .subflow flow)
    (hnested : run.nested = child :: below) : ¬child.Intact flows below := by
  obtain ⟨hloaded, -, hzero | hintact⟩ := hbroken
  · simp at hzero
  · intro hchild
    rw [hnested] at hintact
    exact hintact ⟨⟨flow, graph, node, hloaded, hnode, hflow⟩, hchild⟩

/-- What a nested run means for its level does not depend on what is nested more deeply. -/
theorem settle_withNested (flow : FlowId) (around : Surroundings) (run child : Run)
    (nested below : List Level) :
    ∃ nested', Subflow.settle flow around
        ((run.withNested nested).withChild (child.withNested below)) =
      ((Subflow.settle flow around (run.withChild child)).1,
        (Subflow.settle flow around (run.withChild child)).2.withNested nested') := by
  have hchild : ((run.withNested nested).withChild (child.withNested below)).child? =
      some (child.withNested below) := rfl
  have hchild' : (run.withChild child).child? = some child := rfl
  have hstatus : (child.withNested below).status = child.status := rfl
  have hpending : (child.withNested below).suspension = child.suspension := rfl
  unfold Subflow.settle
  simp only [hchild, hchild', hstatus, hpending]
  cases child.status with
  | running => exact ⟨_, rfl⟩
  | paused => cases child.suspension <;> exact ⟨_, rfl⟩
  | completed => exact ⟨[], rfl⟩
  | failed => exact ⟨[], rfl⟩

/-- Where a chain is broken, the outermost level ends up the same whatever the variables of the
innermost one were. -/
theorem Course.forgets {phase : Phase} {world world' : World} {run run' : Run}
    (h : Course bounds phase world run world' run') (hflows : world.flow = flows)
    (hbroken : Broken flows bounds.settings phase run) (vars : Values) :
    ∃ nested', Course bounds phase world (run.refilled vars) world'
      (run'.withNested nested') := by
  induction h with
  | wake rest ih =>
      obtain ⟨hflow, hintact⟩ := hbroken
      obtain ⟨hnested, hintact⟩ := Run.not_intact hintact
      obtain ⟨nested', hrest⟩ := ih hflows ⟨hflow, hnested,
        hintact.imp id fun h h' => h (h'.outer rfl rfl)⟩
      exact ⟨nested', .wake hrest⟩
  | @exhausted graph payload world run => exact ⟨_, .exhausted⟩
  | @missing graph left payload world run hnode => exact ⟨_, .missing hnode⟩
  | @plain graph left payload world run node outcome stepped world₁ world' run' hnode hplain
      hstep rest ih =>
      obtain ⟨nested', hrest⟩ := rest.outer trivial (Level.refill vars run.nested)
      refine ⟨nested', .plain hnode hplain ?_ hrest⟩
      unfold Run.refilled
      rw [Behaviour.act_step_withNested _ world run hplain, hstep]
      rfl
  | orphan hnode hflow hnested rest ih => exact absurd hnested hbroken.2.1
  | @lost graph left payload world run node flow child below e world' run' hnode hflow hnested
      hlook rest ih =>
      have hchild := intact_child hbroken hnode hflow hnested
      cases below with
      | nil => exact absurd trivial hchild
      | cons next below =>
          have hreclaim : (run.refilled vars).reclaim = run.reclaim := by
            simp [Run.reclaim, Run.refilled, Run.withNested, hnested, Level.refill, Run.onLevel]
          have hnested' : (run.refilled vars).nested =
              child :: Level.refill vars (next :: below) := by
            simp [Run.refilled, Run.withNested, hnested, Level.refill]
          refine ⟨run'.nested, .lost hnode hflow hnested' hlook ?_⟩
          rw [hreclaim]
          exact rest
  | @pass graph left payload world run node flow child below inner world₁ ended world' run' hnode
      hflow hnested hlook drive rest ihDrive ih =>
      have hchild := intact_child hbroken hnode hflow hnested
      cases below with
      | nil => exact absurd trivial hchild
      | cons next below =>
          have hnested' : (run.refilled vars).nested =
              child :: Level.refill vars (next :: below) := by
            simp [Run.refilled, Run.withNested, hnested, Level.refill]
          have hintact : ¬({ child with nested := next :: below } : Run).Intact flows
              bounds.settings := by
            rintro (hempty | ⟨-, hintact⟩)
            · simp at hempty
            · exact hchild hintact
          obtain ⟨below', hdrive⟩ := ihDrive ((world.later_look child.flow).flow.trans hflows)
            ⟨hflows ▸ hlook, hintact⟩
          obtain ⟨nested', hsettle⟩ := settle_withNested flow (alone bounds node) run ended
            (Level.refill vars run.nested) below'
          obtain ⟨nested'', hrest⟩ := rest.outer trivial nested'
          refine ⟨nested'', .pass hnode hflow hnested' hlook hdrive ?_⟩
          unfold Run.refilled
          rw [hsettle]
          exact hrest
  | _ => exact hbroken.elim

end Drive

end Dialogue
