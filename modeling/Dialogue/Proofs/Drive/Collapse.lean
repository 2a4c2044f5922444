import Dialogue.Proofs.Drive.Part
import Dialogue.Proofs.Drive.Writes
import Dialogue.Proofs.Run.History

/-!
# How a failure climbs

When a run fails on its own, every run that waits for it fails too, from the inside
out: each takes the variables back from its nested run, notes how that one has
ended, and fails of the same kind, with its message inside its own.  `Breaks` says
where a failure begins, `Falls` what it does to one waiting run, and `Collapse` what
it does to all of them.
-/

namespace Dialogue

/-! ## Failed runs -/

namespace Run

/-- A run that has failed at the node where it stands. -/
structure FailedWith (kind : FailureKind) (message : String) (now : Instant) (run : Run) :
    Prop where
  status : run.status = .failed
  failure : run.failure = some ⟨kind, message, run.node, now⟩
  nested : run.nested = []

/-- The message of the run that a failed one was nested in. -/
def messageAbove (failed : Run) (message : String) : String :=
  "subflow " ++ apostrophes failed.flow ++ " failed: " ++ message

/-- What becomes of a run that waits for a nested one when that one fails. -/
structure Falls (flows : Flows) (now : Instant) (kind : FailureKind) (message : String)
    (waiting child run : Run) : Prop where
  same : waiting.toLevel.SameRun run.toLevel
  /-- It waits at the node that runs the flow of the nested run, and fails there. -/
  stands : waiting.Stands flows (.subflow child.flow)
  node : run.node = waiting.node
  failed : run.FailedWith kind (child.messageAbove message) now
  /-- The variables of the nested run are handed back. -/
  vars : run.vars = child.vars
  /-- The visit to the node gets two notes. -/
  history : ∃ earlier visit, waiting.history = earlier ++ [visit] ∧ visit.node = waiting.node ∧
    run.history = earlier ++ [{ visit with
      notes := visit.notes ++ [.subflow child.flow child.id .failed child.history.nodes,
        .failure kind (child.messageAbove message)] }]

theorem failedWith_failing {bounds : Bounds} {run : Run} (hnested : run.nested = [])
    (kind : FailureKind) (message : String) :
    (run.failing bounds kind message).FailedWith kind message bounds.now where
  status := rfl
  failure := rfl
  nested := hnested

end Run

namespace Drive

variable {bounds : Bounds} {flows : Flows} {leg whole part first second host lower : Leg}
  {outer : List Run} {waiting broken run : Run} {kind : FailureKind} {message text : String}

/-! ## Where a failure begins -/

/-- A stretch in which a run fails on its own, for a reason and with a message. -/
inductive Leg.Breaks (bounds : Bounds) : Leg → FailureKind → String → Prop
  /-- It has taken as many steps as it may. -/
  | exhausted {graph payload world run world' run'} :
      Breaks bounds ⟨.walk graph 0 payload, world, run, world', run'⟩ .stepLimit
        ("exceeded " ++ toString bounds.settings.maxSteps ++ " steps without pausing")
  /-- Its node is not there. -/
  | missing {graph left payload world run world' run'} (hnode : graph.find? run.node = none) :
      Breaks bounds ⟨.walk graph (left + 1) payload, world, run, world', run'⟩ .configuration
        ("node " ++ apostrophes run.node ++ " does not exist in flow " ++ apostrophes graph.id)
  /-- Its node runs no other flow and fails. -/
  | plain {graph left payload world run node kind message stepped world₁ world' run'}
      (hnode : graph.find? run.node = some node)
      (hplain : node.behaviour.isSubflow = false)
      (hstep : world.act (node.behaviour.step (alone bounds node) run payload) =
        ((.fail kind message, stepped), world₁)) :
      Breaks bounds ⟨.walk graph (left + 1) payload, world, run, world', run'⟩ kind message
  /-- A nested run would be too deep. -/
  | tooDeep {graph left world run node flow world' run'}
      (hnode : graph.find? run.node = some node)
      (hflow : node.behaviour = .subflow flow)
      (hdepth : bounds.settings.maxDepth ≤ run.depth) :
      Breaks bounds ⟨.walk graph (left + 1) none, world, run, world', run'⟩ .recursionLimit
        ("subflow " ++ apostrophes flow ++ " would run at depth " ++ toString (run.depth + 1) ++
          " (limit " ++ toString bounds.settings.maxDepth ++ ")")
  /-- The flow of a nested run cannot be loaded. -/
  | unloadable {graph left world run node flow e world' run'}
      (hnode : graph.find? run.node = some node)
      (hflow : node.behaviour = .subflow flow)
      (hdepth : run.depth < bounds.settings.maxDepth)
      (hlook : world.flow flow = .error e) :
      Breaks bounds ⟨.walk graph (left + 1) none, world, run, world', run'⟩ e.failureKind e.message
  /-- The node to go on to is not there. -/
  | astray {graph left next world run world' run'} (hnext : graph.contains next = false) :
      Breaks bounds ⟨.leave graph left (.go next), world, run, world', run'⟩ .configuration
        ("node " ++ apostrophes run.node ++ " continued to unknown node " ++ apostrophes next)

/-- A run that fails on its own has failed. -/
theorem Leg.Breaks.failedWith (h : leg.Breaks bounds kind message) (hgoes : leg.Goes bounds)
    (hfits : leg.Fits bounds flows) : leg.run'.FailedWith kind message bounds.now := by
  obtain ⟨-, hfit⟩ := hfits
  have hunique {world' : World} {run' : Run}
      (h : Course bounds leg.phase leg.world leg.run world' run') : leg.run' = run' :=
    (Course.unique hgoes h).2
  -- A drive has one course only, which is the one that fails.
  cases h with
  | @exhausted graph payload world run world' run' =>
      rw [hunique .exhausted]
      apply Run.failedWith_failing
      cases payload with
      | none => exact hfit.2.2
      | some payload => exact absurd hfit.2.2.1 (Nat.lt_irrefl 0)
  | missing hnode =>
      rw [hunique (.missing hnode)]
      exact Run.failedWith_failing (nested_of_fit hfit (by simp [hnode])) _ _
  | plain hnode hplain hstep =>
      rw [hunique (.plain hnode hplain hstep .fail)]
      exact Run.failedWith_failing (fit_plain hfit hnode hplain hstep).2.2 _ _
  | tooDeep hnode hflow hdepth =>
      rw [hunique (.tooDeep hnode hflow hdepth .fail)]
      exact Run.failedWith_failing hfit.2.2 _ _
  | unloadable hnode hflow hdepth hlook =>
      rw [hunique (.unloadable hnode hflow hdepth hlook .fail)]
      exact Run.failedWith_failing hfit.2.2 _ _
  | astray hnext =>
      rw [hunique (.astray hnext)]
      exact Run.failedWith_failing hfit.2.2 _ _

/-- Where another flow would have to be run and cannot be, because its run would be too deep or
because it cannot be loaded, the run fails as it is, and nothing else happens. -/
theorem Leg.Goes.refused {graph : Graph} {left : Nat} {node : Graph.Node} {flow : FlowId}
    (hgoes : leg.Goes bounds) (hphase : leg.phase = .walk graph (left + 1) none)
    (hnode : graph.find? leg.run.node = some node) (hflow : node.behaviour = .subflow flow)
    (hrefused : bounds.settings.maxDepth ≤ leg.run.depth ∨ ∃ e, leg.world.flow flow = .error e) :
    ∃ kind message, leg.Breaks bounds kind message ∧
      leg.run' = leg.run.failing bounds kind message ∧
      leg.world' = leg.world.told bounds leg.run leg.run.node (.runFailed kind message) := by
  obtain ⟨phase, world, run, world', run'⟩ := leg
  obtain rfl : phase = .walk graph (left + 1) none := hphase
  by_cases hdepth : bounds.settings.maxDepth ≤ run.depth
  · obtain ⟨hworld, hrun⟩ := Course.unique hgoes (.tooDeep hnode hflow hdepth .fail)
    exact ⟨_, _, .tooDeep hnode hflow hdepth, hrun, hworld⟩
  · obtain ⟨e, hlook⟩ := hrefused.resolve_left hdepth
    have hroom : run.depth < bounds.settings.maxDepth := Nat.lt_of_not_le hdepth
    obtain ⟨hworld, hrun⟩ := Course.unique hgoes (.unloadable hnode hflow hroom hlook .fail)
    exact ⟨_, _, .unloadable hnode hflow hroom hlook, hrun, hworld⟩

/-- Somewhere in a stretch a run fails on its own. -/
def Leg.Cracks (bounds : Bounds) (leg : Leg) : Prop :=
  ∃ outer part kind message, Part bounds leg outer part ∧ part.Breaks bounds kind message

theorem Leg.Breaks.cracks (h : leg.Breaks bounds kind message) (hgoes : leg.Goes bounds) :
    leg.Cracks bounds := ⟨[], leg, kind, message, .whole hgoes, h⟩

theorem Leg.Then.cracks (h : first.Then bounds second) (hfits : first.Fits bounds flows)
    (hsecond : second.Fits bounds flows → second.Cracks bounds) : first.Cracks bounds := by
  obtain ⟨outer, part, kind, message, hpart, hbreaks⟩ := hsecond (h.fits hfits)
  exact ⟨outer, part, kind, message, .after h hpart, hbreaks⟩

theorem Leg.Hosts.cracks (h : host.Hosts bounds waiting lower) (hgoes : lower.Goes bounds)
    (hfits : host.Fits bounds flows) (hlower : lower.Fits bounds flows → lower.Cracks bounds) :
    host.Cracks bounds := by
  obtain ⟨outer, part, kind, message, hpart, hbreaks⟩ := hlower (h.fits hgoes hfits)
  exact ⟨waiting :: outer, part, kind, message, .within h hpart, hbreaks⟩

/-- A run that waited for a nested one fails only if that one has. -/
theorem Leg.Beneath.failed {graph : Graph} {left : Nat} {node : Graph.Node} {flow : FlowId}
    (h : lower.Beneath bounds flows graph left node flow waiting)
    (hfail : (Subflow.settle flow (alone bounds node) (waiting.withChild lower.run')).1 =
      .fail kind message) : lower.run'.status = .failed := by
  cases h.settled with
  | waiting steps waits hangs => simp [Subflow.settle, waits.paused, waits.pending] at hfail
  | completed status pending unfailed nested =>
      simp only [Subflow.settle, child?_withChild, status, Surroundings.advance] at hfail
      split at hfail <;> cases hfail
  | failed status pending failed nested => exact status

/-- A drive that fails has failed somewhere on its own, unless it had come to that before. -/
theorem Course.cracks {phase : Phase} {world world' : World} {run run' : Run}
    (h : Course bounds phase world run world' run')
    (hfits : Leg.Fits bounds flows ⟨phase, world, run, world', run'⟩)
    (hphase : ∀ graph left kind message, phase ≠ .leave graph left (.fail kind message))
    (hfailed : run'.status = .failed) : Leg.Cracks bounds ⟨phase, world, run, world', run'⟩ := by
  induction h with
  | enter rest ih => exact Leg.Then.enter.cracks hfits fun hrest => ih hrest nofun hfailed
  | wake rest ih => exact Leg.Then.wake.cracks hfits fun hrest => ih hrest nofun hfailed
  | exhausted => exact Leg.Breaks.exhausted.cracks .exhausted
  | missing hnode => exact (Leg.Breaks.missing hnode).cracks (.missing hnode)
  | @plain graph left payload world run node outcome stepped world₁ world' run' hnode hplain
      hstep rest ih =>
      cases outcome with
      | fail kind message =>
          exact (Leg.Breaks.plain hnode hplain hstep).cracks (.plain hnode hplain hstep rest)
      | _ =>
          exact (Leg.Then.plain hnode hplain hstep).cracks hfits fun hrest =>
            ih hrest nofun hfailed
  | tooDeep hnode hflow hdepth rest ih =>
      exact (Leg.Breaks.tooDeep hnode hflow hdepth).cracks (.tooDeep hnode hflow hdepth rest)
  | unloadable hnode hflow hdepth hlook rest ih =>
      exact (Leg.Breaks.unloadable hnode hflow hdepth hlook).cracks
        (.unloadable hnode hflow hdepth hlook rest)
  | @nest graph left world run node flow inner world₁ child world' run' hnode hflow hdepth hlook
      drive rest ihDrive ih =>
      have hbeneath := drive.nested_beneath hfits.flow hfits.fit hnode hflow hdepth hlook
      by_cases hchild : child.status = .failed
      · exact (Leg.Hosts.nest hnode hflow hdepth hlook rest).cracks drive hfits fun hlower =>
          ihDrive hlower nofun hchild
      · exact (Leg.Then.nest hnode hflow hdepth hlook drive).cracks hfits fun hrest =>
          ih hrest (fun _ _ _ _ hleave => hchild (hbeneath.failed (Phase.leave.inj hleave).2.2))
            hfailed
  | orphan hnode hflow hnested rest ih => exact absurd hnested (not_orphan hfits.fit hnode hflow)
  | lost hnode hflow hnested hlook rest ih =>
      exact absurd hlook (not_lost hfits.flow hfits.fit hnode hflow hnested)
  | @pass graph left payload world run node flow child below inner world₁ ended world' run' hnode
      hflow hnested hlook drive rest ihDrive ih =>
      have hbeneath := drive.passed_beneath hfits.flow hfits.fit hnode hflow hnested hlook
      by_cases hended : ended.status = .failed
      · exact (Leg.Hosts.pass hnode hflow hnested hlook rest).cracks drive hfits fun hlower =>
          ihDrive hlower nofun hended
      · exact (Leg.Then.pass hnode hflow hnested hlook drive).cracks hfits fun hrest =>
          ih hrest (fun _ _ _ _ hleave => hended (hbeneath.failed (Phase.leave.inj hleave).2.2))
            hfailed
  | go hnext rest ih => exact (Leg.Then.go hnext).cracks hfits fun hrest => ih hrest nofun hfailed
  | astray hnext => exact (Leg.Breaks.astray hnext).cracks (.astray hnext)
  | complete => cases hfailed
  | suspend => cases hfailed
  | fail => exact absurd rfl (hphase _ _ _ _)

/-! ## What a failure does to the runs that wait -/

/-- A run that waits for a nested one falls when that one has failed, and the observers are told. -/
theorem Leg.Hosts.falls (h : host.Hosts bounds waiting lower) (hlower : lower.Goes bounds)
    (hfits : host.Fits bounds flows) (hfailed : lower.run'.FailedWith kind message bounds.now)
    (hvars : lower.run'.vars.Ascending) :
    waiting.Falls flows bounds.now kind message lower.run' host.run' ∧
      host.world' = lower.world'.told bounds waiting waiting.node
        (.runFailed kind (lower.run'.messageAbove message)) := by
  obtain ⟨graph, left, node, flow, hbeneath, hleave⟩ := h.beneath hlower hfits
  obtain rfl := hbeneath.subflow
  have hsettle : Subflow.settle lower.run'.flow (alone bounds node)
      (waiting.withChild lower.run') =
        (.fail kind (lower.run'.messageAbove message), (waiting.withChild lower.run').reclaim) := by
    simp only [Subflow.settle, child?_withChild, hfailed.status, hfailed.failure]
    rfl
  rw [hsettle] at hleave
  obtain ⟨hworld, hrun⟩ := hleave.unique .fail
  rw [hworld, hrun]
  have hholds := hbeneath.holds
  refine ⟨⟨⟨rfl, rfl, rfl, rfl, rfl, rfl⟩, hholds.stands, rfl, ⟨rfl, rfl, rfl⟩, ?_, ?_⟩, rfl⟩
  · change lower.run'.vars.union waiting.vars = lower.run'.vars
    rw [hholds.vars, Fields.union_nil hvars]
  · -- The run has entered its node, so there is a visit for the notes.
    have hentered := hbeneath.awake.entered
    rcases waiting.history.eq_nil_or_append with hnil | ⟨earlier, visit, hhistory⟩
    · simp [hnil, History.nodes] at hentered
    · refine ⟨earlier, visit, hhistory, ?_, ?_⟩
      · simpa [hhistory, History.nodes] using hentered
      · change (waiting.history.note (.subflow lower.run'.flow lower.run'.id lower.run'.status
          lower.run'.history.nodes)).note (.failure kind (lower.run'.messageAbove message)) = _
        rw [hhistory, History.note_append, History.note_append, hfailed.status,
          List.append_assoc]
        rfl

/-- How the failure of a run in a world climbs through the runs that wait for it, outermost first:
what becomes of the outermost one, its message, and the world after it. -/
inductive Collapse (bounds : Bounds) (flows : Flows) (kind : FailureKind) (broken : Run)
    (message : String) (world : World) : List Run → Run → String → World → Prop
  /-- Nothing waits for the run. -/
  | here : Collapse bounds flows kind broken message world [] broken message world
  /-- Another run falls, and the observers are told. -/
  | climb {outer waiting child run text after}
      (below : Collapse bounds flows kind broken message world outer child text after)
      (falls : waiting.Falls flows bounds.now kind text child run) :
      Collapse bounds flows kind broken message world (waiting :: outer) run
        (child.messageAbove text)
        (after.told bounds waiting waiting.node (.runFailed kind (child.messageAbove text)))

namespace Collapse

variable {world after : World}

/-- The outermost run has the variables of the run that has failed on its own. -/
theorem vars (h : Collapse bounds flows kind broken message world outer run text after) :
    run.vars = broken.vars := by
  induction h with
  | here => rfl
  | climb below falls ih => exact falls.vars.trans ih

theorem failedWith (h : Collapse bounds flows kind broken message world outer run text after)
    (hbroken : broken.FailedWith kind message bounds.now) :
    run.FailedWith kind text bounds.now := by
  cases h with
  | here => exact hbroken
  | climb below falls => exact falls.failed

end Collapse

/-- A failure within a drive climbs to its outermost run. -/
theorem Part.collapse (h : Part bounds whole outer part) (hfits : whole.Fits bounds flows)
    (hfailed : part.run'.FailedWith kind message bounds.now)
    (hvars : part.run'.vars.Ascending) :
    ∃ text, Collapse bounds flows kind part.run' message part.world' outer whole.run' text
      whole.world' := by
  induction h with
  | whole goes => exact ⟨message, .here⟩
  | after next rest ih =>
      obtain ⟨text, hcollapse⟩ := ih (next.fits hfits) hfailed hvars
      obtain ⟨hworld, hrun⟩ := next.same
      exact ⟨text, hworld ▸ hrun ▸ hcollapse⟩
  | within hosts rest ih =>
      obtain ⟨text, hcollapse⟩ := ih (hosts.fits rest.goes hfits) hfailed hvars
      obtain ⟨hfalls, hworld⟩ := hosts.falls rest.goes hfits (hcollapse.failedWith hfailed)
        (hcollapse.vars ▸ hvars)
      rw [hworld]
      exact ⟨_, .climb hcollapse hfalls⟩

/-! ## The variables on the way -/

/-- A nested run that settles leaves its variables to the run that waits for it. -/
theorem Leg.Beneath.ascending {graph : Graph} {left : Nat} {node : Graph.Node} {flow : FlowId}
    (h : lower.Beneath bounds flows graph left node flow waiting) (hgoes : lower.Goes bounds)
    (hstandard : ∀ id graph, flows id = .ok graph → graph.Standard)
    (hvars : lower.run.innermost.vars.Ascending) :
    (Subflow.settle flow (alone bounds node)
      (waiting.withChild lower.run')).2.innermost.vars.Ascending := by
  have hended : lower.run'.innermost.vars.Ascending :=
    (Course.writes hgoes h.fits.flow hstandard h.fits.fit hvars).ascending hvars
  rw [settle_innermost h.holds.vars h.settled hended]
  exact hended

/-- The variables of a run stay a dictionary from one step to the next. -/
theorem Leg.Then.ascending (h : first.Then bounds second)
    (hstandard : ∀ id graph, flows id = .ok graph → graph.Standard)
    (hfits : first.Fits bounds flows) (hvars : first.run.innermost.vars.Ascending) :
    second.run.innermost.vars.Ascending := by
  obtain ⟨hflows, hfit⟩ := hfits
  have same {run : Run} {f : Level → Level} (hsame : (f run.toLevel).vars = run.vars)
      (hvars : run.innermost.vars.Ascending) : (run.onLevel f).innermost.vars.Ascending := by
    rw [Run.innermost_vars_onLevel hsame]
    exact hvars
  cases h with
  | enter => exact same rfl (same rfl hvars)
  | wake => exact same rfl hvars
  | plain hnode hplain hstep =>
      exact (writes_plain hstandard hfit hnode hplain hstep).ascending hvars
  | tooDeep hnode hflow hdepth => exact hvars
  | unloadable hnode hflow hdepth hlook => exact hvars
  | nest hnode hflow hdepth hlook drive =>
      have hbeneath := drive.nested_beneath hflows hfit hnode hflow hdepth hlook
      refine hbeneath.ascending drive hstandard ?_
      rw [Run.innermost_vars_begun hfit.2.2]
      exact hvars
  | orphan hnode hflow hnested => exact absurd hnested (not_orphan hfit hnode hflow)
  | lost hnode hflow hnested hlook =>
      exact absurd hlook (not_lost hflows hfit hnode hflow hnested)
  | pass hnode hflow hnested hlook drive =>
      have hbeneath := drive.passed_beneath hflows hfit hnode hflow hnested hlook
      exact hbeneath.ascending drive hstandard (Run.innermost_of_cons hnested ▸ hvars)
  | go hnext => exact same rfl hvars

theorem Leg.Hosts.ascending (h : host.Hosts bounds waiting lower) (hfits : host.Fits bounds flows)
    (hvars : host.run.innermost.vars.Ascending) : lower.run.innermost.vars.Ascending := by
  obtain ⟨-, hfit⟩ := hfits
  cases h with
  | nest hnode hflow hdepth hlook rest =>
      rw [Run.innermost_vars_begun hfit.2.2]
      exact hvars
  | pass hnode hflow hnested hlook rest => exact Run.innermost_of_cons hnested ▸ hvars

/-- The variables with which a part of a drive ends are a dictionary. -/
theorem Part.ascending (h : Part bounds whole outer part)
    (hstandard : ∀ id graph, flows id = .ok graph → graph.Standard)
    (hfits : whole.Fits bounds flows) (hvars : whole.run.innermost.vars.Ascending) :
    part.run'.innermost.vars.Ascending := by
  have hpart : part.run.innermost.vars.Ascending :=
    h.keeps (P := fun leg => leg.run.innermost.vars.Ascending)
      (fun next => next.ascending hstandard) (fun hosts _ => hosts.ascending) hfits hvars
  obtain ⟨hflows, hfit⟩ := h.fits hfits
  exact (Course.writes h.inner hflows hstandard hfit hpart).ascending hpart

end Drive

end Dialogue
