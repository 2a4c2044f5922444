import Dialogue.Proofs.Delay.InTime
import Dialogue.Proofs.Drive.Part

/-!
# Drives with and without delays

A drive through flows without delays is followed by the drive of a run that is
alike through the flows with their delays: woken in time, it gets to the same
end.  The number of steps that are left may be greater on the way with delays,
as every waking begins to count anew; so the drive without delays must not have
been stopped for making too many.
-/

namespace Dialogue

namespace Subflow

variable {flow : FlowId} {around : Surroundings}

theorem settle_alike {run run₀ : Run} (h : run.Alike run₀) :
    (settle flow around run).1.nameless = (settle flow around run₀).1.nameless ∧
      (settle flow around run).2.Alike (settle flow around run₀).2 := by
  have hreclaim := h.reclaim
  obtain ⟨level, nested⟩ := run
  obtain ⟨level₀, nested₀⟩ := run₀
  cases h.nested with
  | nil => exact ⟨rfl, h⟩
  | @cons child child₀ below below₀ hchild hbelow =>
      unfold settle
      simp only [Run.child?]
      rw [hchild.status, hchild.failure]
      cases child₀.status with
      | running => exact ⟨rfl, h⟩
      | completed => exact ⟨rfl, hreclaim⟩
      | failed => exact ⟨rfl, hreclaim⟩
      | paused =>
          have hpending := hchild.suspension
          cases hsuspension : child.suspension with
          | none =>
              cases hsuspension₀ : child₀.suspension with
              | none => exact ⟨rfl, h⟩
              | some suspension₀ => simp [hsuspension, hsuspension₀] at hpending
          | some suspension =>
              cases hsuspension₀ : child₀.suspension with
              | none => simp [hsuspension, hsuspension₀] at hpending
              | some suspension₀ =>
                  simp only [hsuspension, hsuspension₀, Option.map_some, Option.some.injEq]
                    at hpending
                  exact ⟨congrArg Outcome.suspend hpending, h⟩

/-- A nested run that has failed fails the run with a failure of the same kind. -/
theorem settle_failed {flows : Flows} {settings : Settings} {run child : Run} {failure : Failure}
    (hsettled : child.Settled flows settings) (hfailure : child.failure = some failure) :
    ∃ message, (settle flow around (run.withChild child)).1 = .fail failure.kind message := by
  cases hsettled with
  | waiting steps waits hangs => simp [waits.unfailed] at hfailure
  | completed status pending unfailed nested => simp [unfailed] at hfailure
  | failed status pending failed nested =>
      refine ⟨"subflow " ++ apostrophes flow ++ " failed: " ++ failure.message, ?_⟩
      simp [settle, status, hfailure]

end Subflow

namespace Drive

variable {bounds : Bounds} {flows : Flows}

/-- Whether a run was stopped for making too many steps. -/
def Exceeded (run : Run) : Prop := ∃ failure, run.failure = some failure ∧ failure.kind = .stepLimit

/-- A nested run that makes too many steps fails the run with it. -/
theorem Course.exceeded {graph : Graph} {left : Nat} {flow : FlowId} {around : Surroundings}
    {parent child run' : Run} {world world' : World}
    (h : Course bounds
      (.leave graph left (Subflow.settle flow around (parent.withChild child)).1) world
      (Subflow.settle flow around (parent.withChild child)).2 world' run')
    (hsettled : child.Settled flows bounds.settings) (hexceeded : Exceeded child) :
    Exceeded run' := by
  obtain ⟨failure, hfailure, hkind⟩ := hexceeded
  obtain ⟨message, houtcome⟩ := Subflow.settle_failed hsettled hfailure
  rw [houtcome, hkind] at h
  cases h with
  | fail => exact ⟨_, rfl, rfl⟩

/-- A phase of a drive with delays beside one of a drive without: at least as many steps are left
in it, and nothing of the node's work has been done if it was not resumed there. -/
inductive Beside (world : World) (run run₀ : Run) : Phase → Phase → Prop
  | level {graph payload} (flow : world.flow run.flow = .ok graph) :
      Beside world run run₀ (.level graph payload) (.level graph.undelayed payload)
  | walk {graph left left₀ payload} (flow : world.flow run.flow = .ok graph) (room : left₀ ≤ left)
      (cursor : payload = none → run.cursor = 0 ∧ run₀.cursor = 0) :
      Beside world run run₀ (.walk graph left payload) (.walk graph.undelayed left₀ payload)
  | leave {graph left left₀ outcome outcome₀} (flow : world.flow run.flow = .ok graph)
      (room : left₀ ≤ left) (result : outcome.nameless = outcome₀.nameless) :
      Beside world run run₀ (.leave graph left outcome) (.leave graph.undelayed left₀ outcome₀)

/-- Beside a step at a node without delays goes one at the same node with its delays. -/
theorem Beside.at_node {graph₀ : Graph} {node₀ : Graph.Node} {left₀ : Nat}
    {payload : Option Payload} {phase : Phase} {world : World} {run run₀ : Run}
    (h : Beside world run run₀ phase (.walk graph₀ (left₀ + 1) payload))
    (halike : run.Alike run₀) (hnode : graph₀.find? run₀.node = some node₀) :
    ∃ graph left node, phase = .walk graph (left + 1) payload ∧ graph₀ = graph.undelayed ∧
      node₀ = node.undelayed ∧ world.flow run.flow = .ok graph ∧ left₀ ≤ left ∧
      graph.find? run.node = some node ∧
      (payload = none → run.cursor = 0 ∧ run₀.cursor = 0) := by
  cases h with
  | @walk graph left _ _ hgraph hleft hcursor =>
      obtain ⟨node, hnode', rfl⟩ := Graph.find?_of_undelayed hnode
      rw [← halike.level.node] at hnode'
      obtain ⟨steps, rfl⟩ : ∃ n, left = n + 1 := ⟨left - 1, by omega⟩
      exact ⟨graph, steps, node, rfl, rfl, rfl, hgraph, by omega, hnode', hcursor⟩

/-- The end of a drive with delays that is like the end of one without. -/
def Meets (world₀ : World) (run₀ : Run) (world : World) (run : Run) : Prop :=
  world.Twin world₀ ∧ run.Alike run₀

/-- Without delays nothing waits at a node that makes them, so nothing is resumed there. -/
theorem makesDelay_of_resumed {graph : Graph} {node : Graph.Node} {left : Nat}
    {payload : Payload} {run : Run}
    (hfit : Fit flows bounds.settings (.walk graph.undelayed (left + 1) (some payload)) run)
    (hnode : graph.undelayed.find? run.node = some node.undelayed)
    (hplain : node.behaviour.isSubflow = false) (hscript : node.behaviour.isScripted = false) :
    node.behaviour.makesDelay = false := by
  have hnested : run.nested = [] :=
    nested_of_node hfit hnode ((Behaviour.isSubflow_undelayed node.behaviour).trans hplain)
  obtain ⟨hawake, -, -, suspension, hhangs⟩ := hfit
  rw [hnested] at hhangs
  cases hhangs with
  | stop stands pauses =>
      obtain ⟨graph', node', hloaded, hnode', rfl⟩ := stands
      obtain rfl := Except.ok.inj (hawake.flow.symm.trans hloaded)
      obtain rfl := Option.some.inj (hnode.symm.trans hnode')
      obtain ⟨⟨menu, hmenu⟩, -⟩ := Behaviour.Pauses.of_undelayed pauses hscript
      rw [hmenu]
      rfl

/-- A drive with delays that makes a step of its own beside one without. -/
theorem leadsTo_plain {graph : Graph} {node : Graph.Node} {left left₀ : Nat}
    {payload : Option Payload} {world world₀ after₀ : World} {run run₀ stepped₀ : Run}
    {outcome₀ : Outcome} {post : World → Run → Prop}
    (hfit : Fit flows bounds.settings (.walk graph.undelayed (left₀ + 1) payload) run₀)
    (hnode : graph.find? run.node = some node) (hplain : node.behaviour.isSubflow = false)
    (hstep₀ : world₀.act (node.undelayed.behaviour.step (alone bounds node) run₀ payload) =
      ((outcome₀, stepped₀), after₀))
    (hworld : world.Twin world₀) (halike : run.Alike run₀)
    (hflow : world.flow run.flow = .ok graph) (hleft : left₀ ≤ left)
    (hcursor : payload = none → run.cursor = 0 ∧ run₀.cursor = 0)
    (h : Carries bounds post graph left₀ outcome₀ after₀ stepped₀) :
    LeadsTo bounds post (.walk graph (left + 1) payload) world run := by
  have hscript : node.behaviour.isScripted = false :=
    (hworld.standard _ _ hflow).node hnode
  obtain ⟨hawake, hsteps, -⟩ := fit_walk hfit
  have hnode₀ : graph.undelayed.find? run₀.node = some node.undelayed := by
    rw [Graph.find?_undelayed, ← halike.level.node, hnode]
    rfl
  cases hmakes : node.behaviour.makesDelay with
  | false =>
      have hsame := Behaviour.undelayed_of_makesDelay hmakes
      have hmatches := Behaviour.step_alike hplain hscript hmakes (alone bounds node) hworld halike
        payload
      have hlater := world.later_act (node.behaviour.step (alone bounds node) run payload)
      have hvisit :=
        (Behaviour.step_keepsVisit hplain (alone bounds node) world run payload).visit
      change world₀.act (node.behaviour.undelayed.step (alone bounds node) run₀ payload) = _
        at hstep₀
      rw [hsame] at hstep₀
      rw [hstep₀] at hmatches
      refine (h _ _ left _ hmatches.world hmatches.run ?_ hleft hmatches.outcome).before
        (.plain hnode hplain rfl)
      rw [hlater.flow, hvisit.flow]
      exact hflow
  | true =>
      cases payload with
      | some payload =>
          rw [makesDelay_of_resumed hfit hnode₀ hplain hscript] at hmakes
          cases hmakes
      | none =>
          obtain ⟨hzero, hzero₀⟩ := hcursor rfl
          have hvisits : Visits graph node world run world₀ run₀ :=
            ⟨hworld, halike, hflow, hnode, hawake.running, hawake.pending⟩
          cases hbehaviour : node.behaviour with
          | content sequence =>
              change world₀.act (node.behaviour.undelayed.step (alone bounds node) run₀ none) = _
                at hstep₀
              rw [hbehaviour] at hstep₀
              exact leadsTo_content hbehaviour hvisits hzero hzero₀ hsteps hleft hstep₀ h
          | delay millis =>
              change world₀.act (node.behaviour.undelayed.step (alone bounds node) run₀ none) = _
                at hstep₀
              rw [hbehaviour] at hstep₀
              have hgo : (((alone bounds node).advance, run₀), world₀) =
                  ((outcome₀, stepped₀), after₀) := hstep₀
              simp only [Prod.mk.injEq] at hgo
              obtain ⟨⟨rfl, rfl⟩, rfl⟩ := hgo
              exact leadsTo_delay hbehaviour hvisits hsteps hleft h
          | _ => simp [Behaviour.makesDelay, hbehaviour] at hmakes

/-- A run whose nested run gets in time to where that of another drive is goes on as the other
drive does. -/
theorem leadsTo_nested {graph : Graph} {node : Graph.Node} {flow : FlowId} {left left₀ : Nat}
    {parent parent₀ child child₀ : Run} {world after₀ : World} {post : World → Run → Prop}
    (hbehaviour : node.behaviour = .subflow flow) (hnode : graph.find? parent₀.node = some node)
    (hawake : parent₀.Awake flows graph.undelayed) (hsteps : left₀ < bounds.settings.maxSteps)
    (h : Carries bounds post graph left₀
      (Subflow.settle flow (alone bounds node) (parent₀.withChild child₀)).1 after₀
      (Subflow.settle flow (alone bounds node) (parent₀.withChild child₀)).2)
    (htime : InTime bounds (Meets after₀ child₀) world child)
    (halike : parent.toLevel.Alike parent₀.toLevel) (hflow : world.flow parent.flow = .ok graph)
    (hleft : left₀ ≤ left) :
    LeadsTo bounds post
      (.leave graph left (Subflow.settle flow (alone bounds node) (parent.withChild child)).1)
      world (Subflow.settle flow (alone bounds node) (parent.withChild child)).2 := by
  refine leadsTo_settle hbehaviour hnode hawake.running hawake.pending hsteps ?_ htime halike
    hflow hleft
  intro world' child' parent' left' hmeets halike' hflow' hleft'
  obtain ⟨houtcome, hstepped⟩ := Subflow.settle_alike (Run.Alike.withChild halike' hmeets.2)
  refine h world' _ left' _ hmeets.1 hstepped ?_ hleft' houtcome
  rw [(settle_visit _ _ _).flow]
  exact hflow'

/-- What a drive without delays comes to, the drive with delays of a run that is alike comes to
in time. -/
theorem Course.leadsTo {phase₀ : Phase} {world₀ world₀' : World} {run₀ run₀' : Run}
    (h : Course bounds phase₀ world₀ run₀ world₀' run₀') (hflows : world₀.flow = flows)
    (hfit : Fit flows bounds.settings phase₀ run₀) (hlimit : ¬Exceeded run₀') {phase : Phase}
    {world : World} {run : Run} (hbeside : Beside world run run₀ phase phase₀)
    (hworld : world.Twin world₀) (halike : run.Alike run₀) :
    LeadsTo bounds (Meets world₀' run₀') phase world run := by
  induction h generalizing phase world run with
  | @enter graph₀ world₀ run₀ world₀' run₀' rest ih =>
      cases hbeside with
      | @level graph _ hgraph =>
          have hentered : (run.awake.entering bounds run.node).Alike
              (run₀.awake.entering bounds run₀.node) := by
            rw [halike.level.node]
            exact .intro (halike.level.awake.enter _ _) halike.nested
          refine .before ?_ .enter
          exact ih hflows (fit_enter hfit) hlimit
            (.walk hgraph (Nat.le_refl _) fun _ => ⟨rfl, rfl⟩)
            (hworld.emit _ _) hentered
  | @wake graph₀ payload world₀ run₀ world₀' run₀' rest ih =>
      cases hbeside with
      | @level graph _ hgraph =>
          have hawake : run.awake.Alike run₀.awake := .intro halike.level.awake halike.nested
          refine .before ?_ .wake
          exact ih hflows (fit_wake hfit) hlimit (.walk hgraph (Nat.le_refl _) (by simp))
            hworld hawake
  | exhausted => exact absurd ⟨_, rfl, rfl⟩ hlimit
  | @missing graph₀ left₀ payload world₀ run₀ hnode =>
      cases hbeside with
      | @walk graph left _ _ hgraph hleft hcursor =>
          obtain ⟨left, rfl⟩ : ∃ n, left = n + 1 := ⟨left - 1, by omega⟩
          have hnode' : graph.find? run.node = none := by
            rw [Graph.find?_undelayed, Option.map_eq_none_iff, ← halike.level.node] at hnode
            exact hnode
          refine .now (.missing hnode') ⟨hworld.emit _ _, ?_⟩
          rw [halike.level.node]
          exact .intro (halike.level.fail _ _ _) halike.nested
  | @plain graph₀ left₀ payload world₀ run₀ node₀ outcome₀ stepped₀ after₀ world₀' run₀' hnode
      hplain hstep rest ih =>
      obtain ⟨graph, left, node, rfl, rfl, rfl, hgraph, hleft, hnode', hcursor⟩ :=
        hbeside.at_node halike hnode
      have hfit' := fit_plain hfit hnode hplain hstep
      have hlater := world₀.later_act
        (node.undelayed.behaviour.step (alone bounds node.undelayed) run₀ payload)
      rw [hstep] at hlater
      refine leadsTo_plain hfit hnode'
        ((Behaviour.isSubflow_undelayed node.behaviour).symm.trans hplain) hstep hworld halike
        hgraph (by omega) hcursor ?_
      intro world' run' left' outcome hworld' halike' hflow' hleft' houtcome
      exact ih (hlater.flow.trans hflows) hfit' hlimit (.leave hflow' hleft' houtcome)
        hworld' halike'
  | @tooDeep graph₀ left₀ world₀ run₀ node₀ flow world₀' run₀' hnode hflow hdepth rest ih =>
      obtain ⟨graph, left, node, rfl, rfl, rfl, hgraph, hleft, hnode', hcursor⟩ :=
        hbeside.at_node halike hnode
      have hflow' := Behaviour.eq_subflow_of_undelayed hflow
      rw [← halike.level.depth] at hdepth
      refine .before ?_ (.tooDeep hnode' hflow' hdepth)
      refine ih hflows hfit hlimit (.leave hgraph (by omega) ?_) hworld halike
      unfold Subflow.tooDeep
      rw [halike.level.depth]
      rfl
  | @unloadable graph₀ left₀ world₀ run₀ node₀ flow e world₀' run₀' hnode hflow hdepth hlook
      rest ih =>
      obtain ⟨graph, left, node, rfl, rfl, rfl, hgraph, hleft, hnode', hcursor⟩ :=
        hbeside.at_node halike hnode
      have hflow' := Behaviour.eq_subflow_of_undelayed hflow
      rw [← halike.level.depth] at hdepth
      refine .before ?_ (.unloadable hnode' hflow' hdepth (hworld.flow_error hlook))
      exact ih hflows hfit hlimit (.leave hgraph (by omega) rfl) hworld halike
  | @nest graph₀ left₀ world₀ run₀ node₀ flow inner₀ after₀ child₀ world₀' run₀' hnode hflow
      hdepth hlook drive rest ihDrive ih =>
      obtain ⟨graph, left, node, rfl, rfl, rfl, hgraph, hleft, hnode', hcursor⟩ :=
        hbeside.at_node halike hnode
      have hbeneath := drive.nested_beneath hflows hfit hnode hflow hdepth hlook
      have hflow' := Behaviour.eq_subflow_of_undelayed hflow
      obtain ⟨inner, hinner, rfl⟩ := hworld.flow_of_ok hlook
      -- The nested run of the drive with delays gets in time to where this one is.
      have hidle := (World.Idle.look world flow).trans (.newRun _)
      have hidle₀ := (World.Idle.look world₀ flow).trans (.newRun _)
      have hbegun : (run.begun bounds (world.look flow).2.newRun.1 inner flow).Alike
          (run₀.begun bounds (world₀.look flow).2.newRun.1 inner.undelayed flow) :=
        .intro (halike.level.spawn _ _ flow inner.start bounds.now) .nil
      have hinner' : (world.look flow).2.newRun.2.flow flow = .ok inner := by
        rw [hidle.flow]
        exact hinner
      obtain ⟨after, child, drive', htime⟩ := ihDrive hbeneath.fits.flow hbeneath.fits.fit
        (fun hexceeded => hlimit (rest.exceeded hbeneath.settled hexceeded)) (.level hinner')
        (hworld.idle hidle hidle₀) hbegun
      rw [← halike.level.depth] at hdepth
      refine .before ?_ (.nest hnode' hflow' hdepth hinner drive')
      have hgiving : run.givingAway.toLevel.Alike run₀.givingAway.toLevel :=
        halike.level.withVars []
      have hsteps := hbeneath.steps
      refine leadsTo_nested hflow' (hgiving.node ▸ hnode') hbeneath.awake hsteps ?_ htime hgiving
        ?_ (by omega)
      · intro world' run' left' outcome hworld' halike' hflow'' hleft' houtcome
        exact ih hbeneath.after hbeneath.leave hlimit (.leave hflow'' hleft' houtcome) hworld'
          halike'
      · rw [drive'.later.flow, hidle.flow]
        exact hgraph
  | orphan hnode hflow hnested rest ih => exact absurd hnested (not_orphan hfit hnode hflow)
  | lost hnode hflow hnested hlook rest ih =>
      exact absurd hlook (not_lost hflows hfit hnode hflow hnested)
  | @pass graph₀ left₀ payload world₀ run₀ node₀ flow child₀ below₀ inner₀ after₀ ended₀ world₀'
      run₀' hnode hflow hnested hlook drive rest ihDrive ih =>
      obtain ⟨graph, left, node, rfl, rfl, rfl, hgraph, hleft, hnode', hcursor⟩ :=
        hbeside.at_node halike hnode
      have hbeneath := drive.passed_beneath hflows hfit hnode hflow hnested hlook
      have hflow' := Behaviour.eq_subflow_of_undelayed hflow
      obtain ⟨inner, hinner, rfl⟩ := hworld.flow_of_ok hlook
      have hbelow := halike.nested
      rw [hnested] at hbelow
      obtain ⟨child, below, hlevel, hlevels, hnested'⟩ :=
        List.forall₂_cons_right_iff.mp hbelow
      rw [← hlevel.flow] at hinner
      have hidle := World.Idle.look world child.flow
      have hinner' : (world.look child.flow).2.flow child.flow = .ok inner := by
        rw [hidle.flow]
        exact hinner
      have hheld : Run.Alike { child with nested := below } { child₀ with nested := below₀ } :=
        .cons hlevel hlevels
      obtain ⟨after, ended, drive', htime⟩ := ihDrive hbeneath.fits.flow hbeneath.fits.fit
        (fun hexceeded => hlimit (rest.exceeded hbeneath.settled hexceeded)) (.level hinner')
        (hworld.idle hidle (.look world₀ child₀.flow)) hheld
      refine .before ?_ (.pass hnode' hflow' hnested' hinner drive')
      have hsteps := hbeneath.steps
      refine leadsTo_nested hflow' (halike.level.node ▸ hnode') hbeneath.awake hsteps ?_ htime
        halike.level ?_ (by omega)
      · intro world' run' left' outcome hworld' halike' hflow'' hleft' houtcome
        exact ih hbeneath.after hbeneath.leave hlimit (.leave hflow'' hleft' houtcome) hworld'
          halike'
      · rw [drive'.later.flow, hidle.flow]
        exact hgraph
  | @go graph₀ left₀ next world₀ run₀ world₀' run₀' hnext rest ih =>
      cases hbeside with
      | @leave graph left _ outcome _ hgraph hleft houtcome =>
          obtain rfl : outcome = .go next := Outcome.eq_of_nameless houtcome (by simp)
          rw [Graph.contains_undelayed] at hnext
          refine .before ?_ (.go hnext)
          exact ih hflows (fit_go hfit) hlimit (.walk hgraph hleft fun _ => ⟨rfl, rfl⟩)
            ((hworld.emit _ _).emit _ _)
            (.intro (halike.level.enter _ _) halike.nested)
  | @astray graph₀ left₀ next world₀ run₀ hnext =>
      cases hbeside with
      | @leave graph left _ outcome _ hgraph hleft houtcome =>
          obtain rfl : outcome = .go next := Outcome.eq_of_nameless houtcome (by simp)
          rw [Graph.contains_undelayed] at hnext
          refine .now (.astray hnext) ⟨(hworld.emit _ _).emit _ _, ?_⟩
          rw [halike.level.node]
          exact .intro (halike.level.fail _ _ _) halike.nested
  | @complete graph₀ left₀ world₀ run₀ =>
      cases hbeside with
      | @leave graph left _ outcome _ hgraph hleft houtcome =>
          obtain rfl : outcome = .complete := Outcome.eq_of_nameless houtcome (by simp)
          exact .now .complete ⟨(hworld.emit _ _).emit _ _,
            .intro (halike.level.complete _) halike.nested⟩
  | @suspend graph₀ left₀ suspension₀ world₀ run₀ =>
      cases hbeside with
      | @leave graph left _ outcome _ hgraph hleft houtcome =>
          cases outcome with
          | suspend suspension =>
              exact .now .suspend ⟨hworld.emit _ _,
                .intro (halike.level.suspend (Outcome.suspend.inj houtcome)) halike.nested⟩
          | _ => simp [Outcome.nameless] at houtcome
  | @fail graph₀ left₀ kind message world₀ run₀ =>
      cases hbeside with
      | @leave graph left _ outcome _ hgraph hleft houtcome =>
          obtain rfl : outcome = .fail kind message := Outcome.eq_of_nameless houtcome (by simp)
          exact .now .fail ⟨hworld.emit _ _,
            .intro (halike.level.fail _ _ _) halike.nested⟩

end Drive

end Dialogue
