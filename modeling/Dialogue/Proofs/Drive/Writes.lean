import Dialogue.Proofs.Drive.Part
import Dialogue.Proofs.Step.Effect

/-!
# What a drive writes

The variables of a run are those of its innermost level.  A drive hands them down
to every nested run that it begins and takes them back when one ends; on the way
it writes at most once, at the menu where the innermost level has waited for an
answer.
-/

namespace Dialogue

namespace Run

theorem innermost_of_nil {run : Run} (h : run.nested = []) : run.innermost = run.toLevel := by
  simp [innermost, h]

theorem innermost_of_cons {run : Run} {child : Level} {below : List Level}
    (h : run.nested = child :: below) :
    run.innermost = ({ child with nested := below } : Run).innermost := by
  simp [innermost, h, List.getLast?_cons]

@[simp] theorem innermost_withChild (run child : Run) :
    (run.withChild child).innermost = child.innermost := innermost_of_cons rfl

theorem innermost_of_ne_nil {run : Run} (h : run.nested ≠ []) (f : Level → Level) :
    (run.onLevel f).innermost = run.innermost := by
  obtain ⟨child, below, hnested⟩ := List.exists_cons_of_ne_nil h
  rw [innermost_of_cons hnested]
  exact innermost_of_cons hnested

/-- Work on the outermost level that leaves its variables alone leaves those of the run alone. -/
theorem innermost_vars_onLevel {run : Run} {f : Level → Level}
    (h : (f run.toLevel).vars = run.vars) :
    (run.onLevel f).innermost.vars = run.innermost.vars := by
  by_cases hnested : run.nested = []
  · have hnested' : (run.onLevel f).nested = [] := hnested
    rw [innermost_of_nil hnested, innermost_of_nil hnested']
    exact h
  · rw [innermost_of_ne_nil hnested]

/-- A nested run begins with the variables of its run. -/
theorem innermost_vars_begun {run : Run} (h : run.nested = []) (bounds : Bounds)
    (id : Identifier) (graph : Graph) (flow : FlowId) :
    (run.begun bounds id graph flow).innermost.vars = run.innermost.vars := by
  rw [innermost_of_nil h]
  rfl

/-- What may become of the variables of a run that gets a payload: the menu where its innermost
level stands may keep an answer. -/
def Writes (flows : Flows) (payload : Option Payload) (before after : Run) : Prop :=
  after.innermost.vars = before.innermost.vars ∨
    ∃ menu name answer, before.innermost.Stands flows (.menu menu) ∧ menu.saveAs = some name ∧
      payload.any (!·.isTimer) = true ∧
      after.innermost.vars = before.innermost.vars.insert name (.string answer)

namespace Writes

variable {flows : Flows} {payload : Option Payload} {before after : Run}

/-- Without a payload nothing is written. -/
theorem of_none (h : Writes flows none before after) :
    after.innermost.vars = before.innermost.vars := by
  rcases h with h | ⟨menu, name, answer, -, -, hanswer, -⟩
  · exact h
  · simp at hanswer

theorem ascending (h : Writes flows payload before after)
    (hvars : before.innermost.vars.Ascending) : after.innermost.vars.Ascending := by
  rcases h with h | ⟨menu, name, answer, -, -, -, h⟩
  · rw [h]
    exact hvars
  · rw [h]
    exact hvars.insert name _

end Writes

end Run

namespace Drive

variable {bounds : Bounds} {flows : Flows}

/-- The payload with which a phase begins. -/
def Phase.payload : Phase → Option Payload
  | .level _ payload | .walk _ _ payload => payload
  | .leave .. => none

theorem reclaim_createdAt (run : Run) : run.reclaim.createdAt = run.createdAt := by
  unfold Run.reclaim
  split <;> rfl

theorem settle_createdAt (flow : FlowId) (around : Surroundings) (run : Run) :
    (Subflow.settle flow around run).2.createdAt = run.createdAt := by
  rcases settle_run flow around run with h | h
  · rw [h]
  · rw [h, reclaim_createdAt]

/-- No drive changes when its run was created. -/
theorem Course.createdAt {phase : Phase} {world world' : World} {run run' : Run}
    (h : Course bounds phase world run world' run') : run'.createdAt = run.createdAt := by
  induction h with
  | enter rest ih => exact ih
  | wake rest ih => exact ih
  | @plain graph left payload world run node outcome stepped world₁ world' run' hnode hplain
      hstep rest ih =>
      exact ih.trans (Behaviour.stepped hplain hstep).quiet.createdAt
  | tooDeep hnode hflow hdepth rest ih => exact ih
  | unloadable hnode hflow hdepth hlook rest ih => exact ih
  | nest hnode hflow hdepth hlook drive rest ihDrive ih =>
      exact ih.trans (settle_createdAt _ _ _)
  | orphan hnode hflow hnested rest ih => exact ih
  | lost hnode hflow hnested hlook rest ih => exact ih.trans (reclaim_createdAt _)
  | pass hnode hflow hnested hlook drive rest ihDrive ih =>
      exact ih.trans (settle_createdAt _ _ (Run.withChild _ _))
  | go hnext rest ih => exact ih
  | _ => rfl

/-- A run that has given its variables to a nested one has them again when that one settles. -/
theorem settle_innermost {settings : Settings} {flow : FlowId} {around : Surroundings}
    {run child : Run} (hvars : run.vars = []) (hsettled : child.Settled flows settings)
    (hascending : child.innermost.vars.Ascending) :
    (Subflow.settle flow around (run.withChild child)).2.innermost.vars =
      child.innermost.vars := by
  have hback (hnested : child.nested = []) :
      (run.withChild child).reclaim.innermost.vars = child.innermost.vars := by
    rw [Run.innermost_of_nil hnested] at hascending ⊢
    rw [Run.innermost_of_nil rfl]
    change child.vars.union run.vars = child.vars
    rw [hvars, Fields.union_nil hascending]
  cases hsettled with
  | waiting steps waits hangs => simp [Subflow.settle, waits.paused, waits.pending]
  | completed status pending unfailed nested =>
      simp only [Subflow.settle, child?_withChild, status]
      exact hback nested
  | failed status pending failed nested =>
      simp only [Subflow.settle, child?_withChild, status]
      exact hback nested

/-- A step that runs no other flow writes at most the answer that it was given. -/
theorem writes_plain {graph : Graph} {left : Nat} {payload : Option Payload}
    {run stepped : Run} {node : Graph.Node} {outcome : Outcome} {world world₁ : World}
    (hstandard : ∀ id graph, flows id = .ok graph → graph.Standard)
    (hfit : Fit flows bounds.settings (.walk graph (left + 1) payload) run)
    (hnode : graph.find? run.node = some node) (hplain : node.behaviour.isSubflow = false)
    (hstep : world.act (node.behaviour.step (alone bounds node) run payload) =
      ((outcome, stepped), world₁)) : run.Writes flows payload stepped := by
  have hnested := nested_of_node hfit hnode hplain
  have hstepped := Behaviour.stepped hplain hstep
  have hnested' : stepped.nested = [] := hstepped.nested.trans hnested
  have hgraph : flows run.flow = .ok graph := (fit_walk hfit).1.flow
  rw [Run.Writes, Run.innermost_of_nil hnested, Run.innermost_of_nil hnested']
  rcases hstepped.may with hscripted | ⟨-, hsame | ⟨menu, name, answer, hmenu, hname, h⟩⟩
  · rw [(hstandard _ _ hgraph).node hnode] at hscripted
    cases hscripted
  · exact .inl hsame
  · exact .inr ⟨menu, name, answer, ⟨graph, node, hgraph, hnode, hmenu⟩, hname, h⟩

/-- A drive of a run that fits writes at most the answer that it was given, where the innermost
level waited for it. -/
theorem Course.writes {phase : Phase} {world world' : World} {run run' : Run}
    (h : Course bounds phase world run world' run') (hflows : world.flow = flows)
    (hstandard : ∀ id graph, flows id = .ok graph → graph.Standard)
    (hfit : Fit flows bounds.settings phase run) (hvars : run.innermost.vars.Ascending) :
    run.Writes flows phase.payload run' := by
  have same {run : Run} {f : Level → Level} {payload : Option Payload}
      (h : (f run.toLevel).vars = run.vars) : run.Writes flows payload (run.onLevel f) :=
    .inl (Run.innermost_vars_onLevel h)
  induction h with
  | @enter graph world run world' run' rest ih =>
      have hsame : (run.awake.entering bounds run.node).innermost.vars = run.innermost.vars := by
        rw [Run.entering, Run.innermost_vars_onLevel, Run.awake, Run.innermost_vars_onLevel] <;> rfl
      exact .inl ((ih hflows (fit_enter hfit) (hsame ▸ hvars)).of_none.trans hsame)
  | @wake graph payload world run world' run' rest ih =>
      have hsame : run.awake.innermost.vars = run.innermost.vars :=
        Run.innermost_vars_onLevel rfl
      have hrest := ih hflows (fit_wake hfit) (hsame ▸ hvars)
      rcases hrest with h | ⟨menu, name, answer, hstands, hname, hanswer, h⟩
      · exact .inl (h.trans hsame)
      · refine .inr ⟨menu, name, answer, ?_, hname, hanswer, hsame ▸ h⟩
        by_cases hnested : run.nested = []
        · rw [Run.innermost_of_nil hnested]
          have hawake : run.awake.nested = [] := hnested
          rw [Run.innermost_of_nil hawake] at hstands
          exact hstands
        · rw [Run.awake, Run.innermost_of_ne_nil hnested] at hstands
          exact hstands
  | plain hnode hplain hstep rest ih =>
      have hwrites := writes_plain hstandard hfit hnode hplain hstep
      have hrest := ih ((Behaviour.stepped hplain hstep).later.flow.trans hflows)
        (fit_plain hfit hnode hplain hstep) (hwrites.ascending hvars)
      rw [Run.Writes, hrest.of_none]
      exact hwrites
  | tooDeep hnode hflow hdepth rest ih => exact .inl (ih hflows hfit hvars).of_none
  | unloadable hnode hflow hdepth hlook rest ih => exact .inl (ih hflows hfit hvars).of_none
  | @nest graph left world run node flow inner world₁ child world' run' hnode hflow hdepth hlook
      drive rest ihDrive ih =>
      have hbeneath := drive.nested_beneath hflows hfit hnode hflow hdepth hlook
      have hbegun :=
        Run.innermost_vars_begun hfit.2.2 bounds (world.look flow).2.newRun.1 inner flow
      have hchild : child.innermost.vars = run.innermost.vars :=
        (ihDrive hbeneath.fits.flow hbeneath.fits.fit (hbegun ▸ hvars)).of_none.trans hbegun
      have hback : (Subflow.settle flow (alone bounds node)
          (run.givingAway.withChild child)).2.innermost.vars = run.innermost.vars :=
        (settle_innermost rfl hbeneath.settled (hchild ▸ hvars)).trans hchild
      have hrest := ih hbeneath.after hbeneath.leave (hback ▸ hvars)
      exact .inl (hrest.of_none.trans hback)
  | orphan hnode hflow hnested rest ih => exact absurd hnested (not_orphan hfit hnode hflow)
  | lost hnode hflow hnested hlook rest ih =>
      exact absurd hlook (not_lost hflows hfit hnode hflow hnested)
  | @pass graph left payload world run node flow child below inner world₁ ended world' run' hnode
      hflow hnested hlook drive rest ihDrive ih =>
      have hbeneath := drive.passed_beneath hflows hfit hnode hflow hnested hlook
      rw [Run.innermost_of_cons hnested] at hvars
      have hended := ihDrive hbeneath.fits.flow hbeneath.fits.fit hvars
      have hback : (Subflow.settle flow (alone bounds node)
          (run.withChild ended)).2.innermost.vars = ended.innermost.vars :=
        settle_innermost hbeneath.holds.vars hbeneath.settled (hended.ascending hvars)
      have hrest := ih hbeneath.after hbeneath.leave (hback ▸ hended.ascending hvars)
      rw [Run.Writes, hrest.of_none, hback, Run.innermost_of_cons hnested]
      exact hended
  | @go graph left next world run world' run' hnext rest ih =>
      have hsame : (run.entering bounds next).innermost.vars = run.innermost.vars :=
        Run.innermost_vars_onLevel rfl
      exact .inl ((ih hflows (fit_go hfit) (hsame ▸ hvars)).of_none.trans hsame)
  | _ => exact same rfl

end Drive

end Dialogue
