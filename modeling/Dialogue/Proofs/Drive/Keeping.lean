import Dialogue.Proofs.Drive.Variables
import Dialogue.Proofs.Drive.Writes
import Dialogue.Proofs.Step.Keeping

/-!
# What a drive keeps

A variable of the innermost level comes through a drive with its value, however
many nested runs begin and end on the way, as long as every level but the innermost
stands at a node that runs another flow.  The one exception is the answer that the
drive begins with, and what it writes can be told beforehand.

`Due` says what a variable is to hold once the payload of a phase is taken.  One
lemma for each thing that a drive does hands it on, so that it holds of every part
of a drive (`Part.due`) and of the run that comes out (`Course.keeps_due`).
-/

namespace Dialogue

namespace Level

/-- The variable that a payload is written in where a level stands, with the answer. -/
def written? (flows : Flows) (level : Level) (payload : Option Payload) :
    Option (String × String) := do
  let graph ← (flows level.flow).toOption
  let node ← graph.find? level.node
  node.behaviour.written? node.successor payload

/-- The variables that a level is to have once a payload is taken. -/
def varsAfter (flows : Flows) (level : Level) (payload : Option Payload) : Values :=
  Fields.written level.vars (level.written? flows payload)

variable {flows : Flows} {level : Level} {payload : Option Payload} {graph : Graph}
  {node : Graph.Node}

theorem written?_at (hgraph : flows level.flow = .ok graph)
    (hnode : graph.find? level.node = some node) :
    level.written? flows payload = node.behaviour.written? node.successor payload := by
  simp [written?, hgraph, hnode, Except.toOption]

theorem written?_nowhere (hgraph : flows level.flow = .ok graph)
    (hnode : graph.find? level.node = none) : level.written? flows payload = none := by
  simp [written?, hgraph, hnode, Except.toOption]

theorem written?_unloaded {e : FlowError} (hflow : flows level.flow = .error e) :
    level.written? flows payload = none := by
  simp [written?, hflow, Except.toOption]

/-- Nothing is written without an answer. -/
theorem written?_none : level.written? flows none = none := by
  cases hflow : flows level.flow with
  | error e => exact written?_unloaded hflow
  | ok graph =>
      cases hnode : graph.find? level.node with
      | none => exact written?_nowhere hflow hnode
      | some node => exact (written?_at hflow hnode).trans (node.behaviour.written?_none _)

@[simp] theorem varsAfter_none : level.varsAfter flows none = level.vars := by
  rw [varsAfter, written?_none]
  rfl

/-- A reply that is taken is written in the variable of the menu. -/
theorem written?_reply {menu : Menu} {name text : String}
    (hstands : level.Stands flows (.menu menu)) (hname : menu.saveAs = some name)
    (haccepts : menu.Accepts text) :
    level.written? flows (some (.reply text)) = some (name, Text.trim text) := by
  obtain ⟨graph, node, hgraph, hnode, hmenu⟩ := hstands
  rw [written?_at hgraph hnode, hmenu]
  simp [Behaviour.written?, hname, Menu.kept?_reply haccepts]

end Level

/-! ## Dictionaries -/

namespace Run

/-- The variables of every level are a dictionary. -/
def Ordered (run : Run) : Prop := ∀ level ∈ run.levels, level.vars.Ascending

namespace Ordered

variable {run child : Run}

theorem own (h : run.Ordered) : run.vars.Ascending := h _ (.head _)

theorem innermost (h : run.Ordered) : run.innermost.vars.Ascending := by
  apply h
  unfold Run.innermost
  cases hlast : run.nested.getLast? with
  | none => exact .head _
  | some level => exact .tail _ (List.mem_of_getLast? hlast)

theorem onLevel (h : run.Ordered) {f : Level → Level} (hf : (f run.toLevel).vars.Ascending) :
    (run.onLevel f).Ordered := List.forall_mem_cons.mpr ⟨hf, (List.forall_mem_cons.mp h).2⟩

/-- Work that leaves the variables alone leaves them in order. -/
theorem work (h : run.Ordered) {f : Level → Level} (hf : (f run.toLevel).vars = run.vars) :
    (run.onLevel f).Ordered := h.onLevel (hf ▸ h.own)

theorem withChild (h : run.vars.Ascending) (hchild : child.Ordered) :
    (run.withChild child).Ordered := List.forall_mem_cons.mpr ⟨h, hchild⟩

/-- What is nested in a run in order is in order. -/
theorem nested {level : Level} {below : List Level} (h : run.Ordered)
    (hnested : run.nested = level :: below) : ({ level with nested := below } : Run).Ordered := by
  intro inner hinner
  exact h inner (.tail _ (hnested ▸ hinner))

theorem reclaim (h : run.Ordered) : run.reclaim.Ordered := by
  unfold Run.reclaim
  split
  · exact h
  · exact List.forall_mem_singleton.mpr (h.own.union _)

theorem settle (h : run.Ordered) (flow : FlowId) (around : Surroundings) :
    (Subflow.settle flow around run).2.Ordered := by
  rcases Drive.settle_run flow around run with hsame | hback
  · rw [hsame]
    exact h
  · rw [hback]
    exact h.reclaim

theorem begun (h : run.Ordered) (bounds : Bounds) (id : Identifier) (graph : Graph)
    (flow : FlowId) : (run.begun bounds id graph flow).Ordered :=
  List.forall_mem_singleton.mpr h.own

/-- A step writes an answer in order. -/
theorem stepped {world : World} {node : Graph.Node} {bounds : Bounds} {payload : Option Payload}
    (h : run.Ordered) (hplain : node.behaviour.isSubflow = false)
    (hstandard : node.behaviour.isScripted = false) :
    (world.act (node.behaviour.step (Drive.alone bounds node) run payload)).1.2.Ordered := by
  have hwritten := Behaviour.step_written hplain hstandard (Drive.alone bounds node) world run
    payload
  have hnested := (Behaviour.step_keepsVisit hplain (Drive.alone bounds node) world run
    payload).nested
  refine List.forall_mem_cons.mpr ⟨?_, ?_⟩
  · rw [hwritten]
    exact h.own.written _
  · rw [hnested]
    exact (List.forall_mem_cons.mp h).2

end Ordered

/-- Waking the outermost level makes no difference to what is to be written. -/
theorem varsAfter_awake (flows : Flows) (run : Run) (payload : Option Payload) :
    run.awake.innermost.varsAfter flows payload = run.innermost.varsAfter flows payload := by
  by_cases hnested : run.nested = []
  · have hawake : run.awake.nested = [] := hnested
    rw [innermost_of_nil hnested, innermost_of_nil hawake]
    rfl
  · rw [Run.awake, innermost_of_ne_nil hnested]

end Run

namespace Drive

variable {bounds : Bounds} {flows : Flows}

/-- The graph that a phase is on. -/
def Phase.graph : Phase → Graph
  | .level graph _ | .walk graph _ _ | .leave graph _ _ => graph

/-- A drive of dictionaries on graphs of standard nodes leaves dictionaries. -/
theorem Course.ordered {phase : Phase} {world world' : World} {run run' : Run}
    (h : Course bounds phase world run world' run') (hflows : world.flow = flows)
    (hstandard : ∀ id graph, flows id = .ok graph → graph.Standard)
    (hgraph : phase.graph.Standard) (hordered : run.Ordered) : run'.Ordered := by
  induction h with
  | enter rest ih => exact ih hflows hgraph ((hordered.work rfl).work rfl)
  | wake rest ih => exact ih hflows hgraph (hordered.work rfl)
  | @plain graph left payload world run node outcome stepped world₁ world' run' hnode hplain
      hstep rest ih =>
      have hlater := world.later_act (node.behaviour.step (alone bounds node) run payload)
      have hstepped := @Run.Ordered.stepped run world node bounds payload hordered hplain
        (hgraph.node hnode)
      rw [hstep] at hlater hstepped
      exact ih (hlater.flow.trans hflows) hgraph hstepped
  | tooDeep hnode hflow hdepth rest ih => exact ih hflows hgraph hordered
  | unloadable hnode hflow hdepth hlook rest ih => exact ih hflows hgraph hordered
  | @nest graph left world run node flow inner world₁ child world' run' hnode hflow hdepth hlook
      drive rest ihDrive ih =>
      have hlater := (world.later_look flow).trans (World.later_newRun _)
      have hchild := ihDrive (hlater.flow.trans hflows) (hstandard _ _ (hflows ▸ hlook))
        (hordered.begun bounds _ inner flow)
      have hwaiting : (run.givingAway.withChild child).Ordered :=
        .withChild List.Pairwise.nil hchild
      exact ih ((hlater.trans drive.later).flow.trans hflows) hgraph (hwaiting.settle _ _)
  | orphan hnode hflow hnested rest ih => exact ih hflows hgraph hordered
  | lost hnode hflow hnested hlook rest ih => exact ih hflows hgraph hordered.reclaim
  | @pass graph left payload world run node flow child below inner world₁ ended world' run' hnode
      hflow hnested hlook drive rest ihDrive ih =>
      have hlater := world.later_look child.flow
      have hended := ihDrive (hlater.flow.trans hflows) (hstandard _ _ (hflows ▸ hlook))
        (hordered.nested hnested)
      have hwaiting : (run.withChild ended).Ordered := .withChild hordered.own hended
      exact ih ((hlater.trans drive.later).flow.trans hflows) hgraph (hwaiting.settle _ _)
  | go hnext rest ih => exact ih hflows hgraph (hordered.work rfl)
  | _ => exact hordered.work rfl

/-! ## What is due -/

/-- What a variable is to hold once the payload of a phase is taken, in a run whose variables are
not lost. -/
structure Due (flows : Flows) (settings : Settings) (name : String) (value : Value) (phase : Phase)
    (run : Run) : Prop where
  bound : Bound flows settings phase run
  /-- There is a step left to take the payload. -/
  able : ∀ graph payload, phase ≠ .walk graph 0 (some payload)
  standard : phase.graph.Standard
  ordered : run.Ordered
  due : (run.innermost.varsAfter flows phase.payload).get? name = some value

section

variable {settings : Settings} {name : String} {value : Value} {graph inner : Graph} {left : Nat}
  {payload : Payload} {run child : Run} {node : Graph.Node} {flow : FlowId}

/-- Without a payload the variable holds its value. -/
theorem Due.held {phase : Phase} (h : Due flows settings name value phase run)
    (hphase : phase.payload = none) : run.innermost.vars.get? name = some value := by
  have hdue := h.due
  rwa [hphase, Level.varsAfter_none] at hdue

/-- A payload that is not written anywhere leaves the value. -/
theorem Due.unwritten {phase : Phase} (h : Due flows settings name value phase run)
    (hnone : run.innermost.written? flows phase.payload = none) :
    run.innermost.vars.get? name = some value := by
  have hdue := h.due
  rwa [Level.varsAfter, hnone] at hdue

/-- Once the payload is taken, the variable holds its value. -/
theorem due_leave {outcome : Outcome}
    (hbound : Bound flows settings (.leave graph left outcome) run) (hstandard : graph.Standard)
    (hordered : run.Ordered) (hheld : run.innermost.vars.get? name = some value) :
    Due flows settings name value (.leave graph left outcome) run :=
  ⟨hbound, nofun, hstandard, hordered, Level.varsAfter_none.symm ▸ hheld⟩

theorem due_enter (h : Due flows settings name value (.level graph none) run) :
    Due flows settings name value (.walk graph bounds.settings.maxSteps none)
      (run.awake.entering bounds run.node) where
  bound := h.bound
  able := by simp
  standard := h.standard
  ordered := (h.ordered.work rfl).work rfl
  due := by
    have hheld := h.held rfl
    rw [Phase.payload, Level.varsAfter_none, Run.entering, Run.innermost_vars_onLevel rfl,
      Run.awake, Run.innermost_vars_onLevel rfl]
    exact hheld

theorem due_wake (h : Due flows settings name value (.level graph (some payload)) run)
    (hsteps : 0 < settings.maxSteps) :
    Due flows settings name value (.walk graph settings.maxSteps (some payload)) run.awake where
  bound := by
    obtain ⟨hflow, hintact⟩ := h.bound
    exact ⟨hflow, hintact.imp id fun h => ⟨hsteps, hsteps, h.2.outer rfl rfl⟩⟩
  able := by simp [Nat.ne_of_gt hsteps]
  standard := h.standard
  ordered := h.ordered.work rfl
  due := (Run.varsAfter_awake flows run (some payload)).symm ▸ h.due

theorem due_go {next : NodeId}
    (h : Due flows settings name value (.leave graph left (.go next)) run) :
    Due flows settings name value (.walk graph left none) (run.entering bounds next) where
  bound := h.bound
  able := by simp
  standard := h.standard
  ordered := h.ordered.work rfl
  due := by
    have hheld := h.held rfl
    rw [Phase.payload, Level.varsAfter_none, Run.entering, Run.innermost_vars_onLevel rfl]
    exact hheld

/-- A level that is stepped at a node that runs no other flow is the innermost one. -/
theorem Due.nested {payload : Option Payload}
    (h : Due flows settings name value (.walk graph left payload) run)
    (hnode : graph.find? run.node = some node) (hplain : node.behaviour.isSubflow = false) :
    run.nested = [] := by
  refine nested_of_bound h.bound fun other hother => ?_
  obtain rfl := Option.some.inj (hnode.symm.trans hother)
  exact hplain

/-- The node of the innermost level says what is written. -/
theorem Due.written {payload : Option Payload}
    (h : Due flows settings name value (.walk graph left payload) run)
    (hnode : graph.find? run.node = some node) (hnested : run.nested = []) :
    (Fields.written run.vars (node.behaviour.written? node.successor payload)).get? name =
      some value := by
  have hdue := h.due
  rw [Run.innermost_of_nil hnested] at hdue
  cases payload with
  | none =>
      rw [Behaviour.written?_none]
      rwa [Phase.payload, Level.varsAfter_none] at hdue
  | some payload => rwa [Level.varsAfter, Phase.payload, Level.written?_at h.bound.1 hnode] at hdue

theorem due_plain {payload : Option Payload} {outcome : Outcome} {stepped : Run}
    {world world₁ : World}
    (h : Due flows settings name value (.walk graph (left + 1) payload) run)
    (hnode : graph.find? run.node = some node) (hplain : node.behaviour.isSubflow = false)
    (hstep : world.act (node.behaviour.step (alone bounds node) run payload) =
      ((outcome, stepped), world₁)) :
    Due flows settings name value (.leave graph left outcome) stepped := by
  have hscripted := h.standard.node hnode
  have hnested := h.nested hnode hplain
  have hwritten := Behaviour.step_written hplain hscripted (alone bounds node) world run payload
  have hordered := @Run.Ordered.stepped run world node bounds payload h.ordered hplain hscripted
  have hempty := (Behaviour.stepped hplain hstep).nested.trans hnested
  rw [hstep] at hwritten hordered
  refine due_leave (bound_leave hempty) h.standard hordered ?_
  rw [Run.innermost_of_nil hempty, hwritten]
  exact h.written hnode hnested

/-- A level has no value less after it has taken an ended run back. -/
theorem get?_reclaim (hchild : child.vars.Ascending) (hheld : child.vars.get? name = some value) :
    (run.withChild child).reclaim.vars.get? name = some value := by
  change (child.vars.union run.vars).get? name = _
  rw [Fields.get?_union hchild, hheld]
  rfl

/-- A level whose nested run has paused or ended with the value goes on with it. -/
theorem due_settle {before : Run} (around : Surroundings) (hfares : Fares before child)
    (hgraph : graph.Standard) (hvars : run.vars.Ascending) (hchild : child.Ordered)
    (hheld : child.innermost.vars.get? name = some value) :
    Due flows settings name value
      (.leave graph left (Subflow.settle flow around (run.withChild child)).1)
      (Subflow.settle flow around (run.withChild child)).2 := by
  have hordered : (run.withChild child).Ordered := .withChild hvars hchild
  rcases hfares with ⟨hstatus, hpending⟩ | ⟨hended, hnested, -⟩
  · obtain ⟨suspension, hpending⟩ := Option.isSome_iff_exists.mp hpending
    rw [settle_paused flow around hstatus hpending]
    exact due_leave trivial hgraph hordered ((Run.innermost_withChild run child).symm ▸ hheld)
  · rw [settle_ended flow around hended]
    refine due_leave (bound_leave rfl) hgraph hordered.reclaim ?_
    rw [Run.innermost_of_nil hnested] at hheld
    exact get?_reclaim hchild.own hheld

/-- The node that was to begin a nested run cannot: the level goes on with the value. -/
theorem due_refused {outcome : Outcome}
    (h : Due flows settings name value (.walk graph (left + 1) none) run) :
    Due flows settings name value (.leave graph left outcome) run :=
  due_leave (bound_leave h.bound) h.standard h.ordered (h.held rfl)

/-- A nested run begins with the value. -/
theorem due_begun (h : Due flows settings name value (.walk graph (left + 1) none) run)
    (hinner : inner.Standard) (bounds : Bounds) (flow : FlowId) (id : Identifier) :
    Due flows settings name value (.level inner none) (run.begun bounds id inner flow) where
  bound := rfl
  able := nofun
  standard := hinner
  ordered := h.ordered.begun bounds id inner flow
  due := by
    rw [Phase.payload, Level.varsAfter_none, Run.innermost_vars_begun h.bound]
    exact h.held rfl

/-- A level that has lost its nested run goes on with the value. -/
theorem due_orphan {outcome : Outcome}
    (h : Due flows settings name value (.walk graph (left + 1) (some payload)) run)
    (hnode : graph.find? run.node = some node) (hflow : node.behaviour = .subflow flow)
    (hnested : run.nested = []) :
    Due flows settings name value (.leave graph left outcome) run := by
  refine due_leave (bound_leave hnested) h.standard h.ordered ?_
  have hwritten := h.written hnode hnested
  rw [hflow] at hwritten
  rw [Run.innermost_of_nil hnested]
  exact hwritten

variable {level : Level} {below : List Level}

/-- Below a level that stands at a node that runs another flow, the chain is intact. -/
theorem Due.intact_below (h : Due flows settings name value (.walk graph left (some payload)) run)
    (hnested : run.nested = level :: below) :
    0 < settings.maxSteps ∧ level.Intact flows below := by
  obtain ⟨-, hnone | ⟨-, hsteps, hintact⟩⟩ := h.bound
  · simp [hnested] at hnone
  · rw [hnested] at hintact
    exact ⟨hsteps, hintact.2⟩

/-- A nested run is resumed with the value due. -/
theorem due_passed (h : Due flows settings name value (.walk graph (left + 1) (some payload)) run)
    (hnested : run.nested = level :: below) (hinner : flows level.flow = .ok inner)
    (hstandard : inner.Standard) :
    Due flows settings name value (.level inner (some payload))
      { level with nested := below } where
  bound := by
    obtain ⟨hsteps, hintact⟩ := h.intact_below hnested
    exact ⟨hinner, .inr ⟨hsteps, hintact⟩⟩
  able := nofun
  standard := hstandard
  ordered := h.ordered.nested hnested
  due := by
    have hdue := h.due
    rwa [Run.innermost_of_cons hnested] at hdue

/-- A level whose nested run cannot be loaded takes the value back. -/
theorem due_lost {outcome : Outcome} {e : FlowError}
    (h : Due flows settings name value (.walk graph (left + 1) (some payload)) run)
    (hnested : run.nested = level :: below) (hlook : flows level.flow = .error e) :
    Due flows settings name value (.leave graph left outcome) run.reclaim := by
  obtain rfl := below_unloaded h.bound hnested hlook
  have hinnermost : run.innermost = level := Run.innermost_of_cons hnested
  have hheld := h.unwritten (hinnermost ▸ Level.written?_unloaded hlook)
  have hchild : level.vars.Ascending := h.ordered level (.tail _ (hnested ▸ .head _))
  have hback := reclaim_next hnested
  refine due_leave (bound_leave ?_) h.standard h.ordered.reclaim ?_
  · rw [hback]
    rfl
  · rw [hback, Run.innermost_of_nil rfl]
    exact get?_reclaim hchild (hinnermost ▸ hheld)

/-- Work on the outermost level that leaves its variables alone leaves the value. -/
theorem Due.worked {phase : Phase} (h : Due flows settings name value phase run)
    (hphase : phase.payload = none) {f : Level → Level} (hf : (f run.toLevel).vars = run.vars) :
    (run.onLevel f).innermost.vars.get? name = some value := by
  rw [Run.innermost_vars_onLevel hf]
  exact h.held hphase

/-- A level whose node is not there is the innermost one, and fails with the value. -/
theorem Due.missing {payload : Option Payload}
    (h : Due flows settings name value (.walk graph left payload) run)
    (hnode : graph.find? run.node = none) : run.innermost.vars.get? name = some value := by
  have hnested := nested_of_bound h.bound (by simp [hnode])
  apply h.unwritten
  rw [Run.innermost_of_nil hnested]
  cases payload with
  | none => exact Level.written?_none
  | some payload => exact Level.written?_nowhere h.bound.1 hnode

end

/-! ## Whole drives -/

section

variable {name : String} {value : Value}

/-- A nested run that begins with the value hands it back, if it keeps it. -/
theorem Course.due_nest {graph inner : Graph} {left : Nat} {flow : FlowId} {world world' : World}
    {run child : Run}
    (h : Course bounds (.level inner none) (world.look flow).2.newRun.2
      (run.begun bounds (world.look flow).2.newRun.1 inner flow) world' child)
    (hflows : world.flow = flows) (hstandard : ∀ id graph, flows id = .ok graph → graph.Standard)
    (hlook : world.flow flow = .ok inner)
    (hdue : Due flows bounds.settings name value (.walk graph (left + 1) none) run)
    (hkept : (world.look flow).2.newRun.2.flow = flows →
      Due flows bounds.settings name value (.level inner none)
        (run.begun bounds (world.look flow).2.newRun.1 inner flow) →
      child.innermost.vars.get? name = some value) (around : Surroundings) :
    Due flows bounds.settings name value
      (.leave graph left (Subflow.settle flow around (run.givingAway.withChild child)).1)
      (Subflow.settle flow around (run.givingAway.withChild child)).2 := by
  have hinner : inner.Standard := hstandard _ _ (hflows ▸ hlook)
  have hbegun := due_begun hdue hinner bounds flow (world.look flow).2.newRun.1
  have hflows' := ((world.later_look flow).trans (World.later_newRun _)).flow.trans hflows
  have hgiven : run.givingAway.vars.Ascending := .nil
  exact due_settle around (h.fares hflows' hbegun.bound) hdue.standard hgiven
    (h.ordered hflows' hstandard hinner hbegun.ordered) (hkept hflows' hbegun)

/-- A nested run that is resumed with the value due hands it back, if it keeps it. -/
theorem Course.due_pass {graph inner : Graph} {left : Nat} {payload : Payload} {flow : FlowId}
    {world world' : World} {run ended : Run} {level : Level} {below : List Level}
    (h : Course bounds (.level inner (some payload)) (world.look level.flow).2
      { level with nested := below } world' ended)
    (hflows : world.flow = flows) (hstandard : ∀ id graph, flows id = .ok graph → graph.Standard)
    (hnested : run.nested = level :: below) (hlook : world.flow level.flow = .ok inner)
    (hdue : Due flows bounds.settings name value (.walk graph (left + 1) (some payload)) run)
    (hkept : (world.look level.flow).2.flow = flows →
      Due flows bounds.settings name value (.level inner (some payload))
        { level with nested := below } →
      ended.innermost.vars.get? name = some value) (around : Surroundings) :
    Due flows bounds.settings name value
      (.leave graph left (Subflow.settle flow around (run.withChild ended)).1)
      (Subflow.settle flow around (run.withChild ended)).2 := by
  have hinner : inner.Standard := hstandard _ _ (hflows ▸ hlook)
  have hpassed := due_passed hdue hnested (hflows ▸ hlook) hinner
  have hflows' := (world.later_look level.flow).flow.trans hflows
  exact due_settle around (h.fares hflows' hpassed.bound) hdue.standard hdue.ordered.own
    (h.ordered hflows' hstandard hinner hpassed.ordered) (hkept hflows' hpassed)

/-- What is due of a variable is what it holds in the end. -/
theorem Course.keeps_due {phase : Phase} {world world' : World} {run run' : Run}
    (h : Course bounds phase world run world' run') (hflows : world.flow = flows)
    (hstandard : ∀ id graph, flows id = .ok graph → graph.Standard)
    (hsteps : 0 < bounds.settings.maxSteps)
    (hdue : Due flows bounds.settings name value phase run) :
    run'.innermost.vars.get? name = some value := by
  induction h with
  | enter rest ih => exact ih hflows (due_enter hdue)
  | wake rest ih => exact ih hflows (due_wake hdue hsteps)
  | @exhausted graph payload world run =>
      cases payload with
      | none => exact hdue.worked rfl rfl
      | some payload => exact absurd rfl (hdue.able _ _)
  | missing hnode =>
      rw [Run.failing, Run.innermost_vars_onLevel rfl]
      exact hdue.missing hnode
  | @plain graph left payload world run node outcome stepped world₁ world' run' hnode hplain
      hstep rest ih =>
      have hlater := (Behaviour.stepped hplain hstep).later
      exact ih (hlater.flow.trans hflows) (due_plain hdue hnode hplain hstep)
  | tooDeep hnode hflow hdepth rest ih => exact ih hflows (due_refused hdue)
  | unloadable hnode hflow hdepth hlook rest ih => exact ih hflows (due_refused hdue)
  | @nest graph left world run node flow inner world₁ child world' run' hnode hflow hdepth hlook
      drive rest ihDrive ih =>
      have hlater := ((world.later_look flow).trans (World.later_newRun _)).trans drive.later
      exact ih (hlater.flow.trans hflows)
        (drive.due_nest hflows hstandard hlook hdue ihDrive (alone bounds node))
  | orphan hnode hflow hnested rest ih => exact ih hflows (due_orphan hdue hnode hflow hnested)
  | lost hnode hflow hnested hlook rest ih =>
      exact ih hflows (due_lost hdue hnested (hflows ▸ hlook))
  | @pass graph left payload world run node flow child below inner world₁ ended world' run' hnode
      hflow hnested hlook drive rest ihDrive ih =>
      have hlater := (world.later_look child.flow).trans drive.later
      exact ih (hlater.flow.trans hflows)
        (drive.due_pass hflows hstandard hnested hlook hdue ihDrive (alone bounds node))
  | go hnext rest ih => exact ih hflows (due_go hdue)
  | _ => exact hdue.worked rfl rfl

variable {whole part first second host lower : Leg} {outer : List Run} {waiting : Run}

/-- A stretch of a drive in a world with these flows, with the value due. -/
structure Leg.Due (bounds : Bounds) (flows : Flows) (name : String) (value : Value) (leg : Leg) :
    Prop where
  flow : leg.world.flow = flows
  due : Drive.Due flows bounds.settings name value leg.phase leg.run

theorem Leg.Then.due (h : first.Then bounds second)
    (hstandard : ∀ id graph, flows id = .ok graph → graph.Standard)
    (hsteps : 0 < bounds.settings.maxSteps) (hfirst : first.Due bounds flows name value) :
    second.Due bounds flows name value := by
  obtain ⟨hflows, hdue⟩ := hfirst
  refine ⟨h.later.flow.trans hflows, ?_⟩
  cases h with
  | enter => exact due_enter hdue
  | wake => exact due_wake hdue hsteps
  | plain hnode hplain hstep => exact due_plain hdue hnode hplain hstep
  | tooDeep hnode hflow hdepth => exact due_refused hdue
  | unloadable hnode hflow hdepth hlook => exact due_refused hdue
  | nest hnode hflow hdepth hlook drive =>
      exact drive.due_nest hflows hstandard hlook hdue
        (fun hflows hdue => drive.keeps_due hflows hstandard hsteps hdue) _
  | orphan hnode hflow hnested => exact due_orphan hdue hnode hflow hnested
  | lost hnode hflow hnested hlook => exact due_lost hdue hnested (hflows ▸ hlook)
  | pass hnode hflow hnested hlook drive =>
      exact drive.due_pass hflows hstandard hnested hlook hdue
        (fun hflows hdue => drive.keeps_due hflows hstandard hsteps hdue) _
  | go hnext => exact due_go hdue

theorem Leg.Hosts.due (h : host.Hosts bounds waiting lower)
    (hstandard : ∀ id graph, flows id = .ok graph → graph.Standard)
    (hhost : host.Due bounds flows name value) : lower.Due bounds flows name value := by
  obtain ⟨hflows, hdue⟩ := hhost
  refine ⟨h.later.flow.trans hflows, ?_⟩
  cases h with
  | nest hnode hflow hdepth hlook rest =>
      exact due_begun hdue (hstandard _ _ (hflows ▸ hlook)) bounds _ _
  | pass hnode hflow hnested hlook rest =>
      exact due_passed hdue hnested (hflows ▸ hlook) (hstandard _ _ (hflows ▸ hlook))

/-- What is due before a drive is due before every part of it. -/
theorem Part.due (h : Part bounds whole outer part)
    (hstandard : ∀ id graph, flows id = .ok graph → graph.Standard)
    (hsteps : 0 < bounds.settings.maxSteps) (hwhole : whole.Due bounds flows name value) :
    part.Due bounds flows name value := by
  induction h with
  | whole goes => exact hwhole
  | after next rest ih => exact ih (next.due hstandard hsteps hwhole)
  | within hosts rest ih => exact ih (hosts.due hstandard hwhole)

end

end Drive

end Dialogue
