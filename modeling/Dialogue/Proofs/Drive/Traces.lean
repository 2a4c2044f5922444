import Dialogue.Proofs.Drive.Asking
import Dialogue.Proofs.Drive.Story

/-!
# The traces of a drive

Notes go to whatever visit is the last one, so a call leaves its trace where it
should only if its level is still on the visit in which the call is made.  A
drive keeps to this at every level: the traces of each level of a run are those
of the calls that its own nodes have made, in order.

The calls are told apart by the identifiers of levels, so these have to be apart
from each other, and from those of all runs that have begun.
-/

namespace Dialogue

/-- The traces that the calls of the nodes of one level leave. -/
def tracesOf (asked : List Asked) (id : Identifier) : List Trace :=
  (asked.filter (·.level.id == id)).map Asked.trace

section

variable {asked asked' : List Asked} {id : Identifier}

theorem tracesOf_append :
    tracesOf (asked ++ asked') id = tracesOf asked id ++ tracesOf asked' id := by
  rw [tracesOf, List.filter_append, List.map_append]
  rfl

/-- Nodes of other levels leave no traces. -/
theorem tracesOf_of_ne (h : ∀ one ∈ asked, one.level.id ≠ id) : tracesOf asked id = [] := by
  rw [tracesOf, List.filter_eq_nil_iff.mpr (by simpa using h), List.map_nil]

theorem tracesOf_of_eq (h : ∀ one ∈ asked, one.level.id = id) :
    tracesOf asked id = asked.map Asked.trace := by
  rw [tracesOf, List.filter_eq_self.mpr (by simpa using h)]

end

/-! ## Runs -/

namespace Run

/-- The traces on all levels of a run are those of the calls that were made. -/
structure Traced (past : List Asked) (world : World) (run : Run) : Prop where
  named : ∀ level ∈ run.levels, world.Named level.id
  apart : (run.levels.map Level.id).Nodup
  traces : ∀ level ∈ run.levels, level.history.traces = tracesOf past level.id
  callers : ∀ one ∈ past, world.Named one.level.id

/-- An identifier that a drive of a run can have to do with: of one of its levels, or a new one. -/
def Reaches (world : World) (run : Run) (id : Identifier) : Prop :=
  ¬world.Named id ∨ ∃ level ∈ run.levels, level.id = id

variable {past own : List Asked} {world world' : World} {run after : Run}

namespace Traced

theorem own_ne (h : run.Traced past world) {level : Level} (hlevel : level ∈ run.nested) :
    level.id ≠ run.id := by
  have hapart : (run.id :: run.nested.map Level.id).Nodup := h.apart
  intro hid
  exact (List.nodup_cons.mp hapart).1 (hid ▸ List.mem_map_of_mem hlevel)

/-- A level has done something in which its node asked for something. -/
theorem work (h : run.Traced past world) (hahead : world.Ahead world') (hid : after.id = run.id)
    (hnested : after.nested = run.nested) (hown : ∀ one ∈ own, one.level.id = run.id)
    (htraces : after.history.traces = run.history.traces ++ own.map Asked.trace) :
    after.Traced (past ++ own) world' := by
  have hlevels : after.levels = after.toLevel :: run.nested := by rw [levels, hnested]
  have hids : after.levels.map Level.id = run.levels.map Level.id := by
    rw [hlevels, List.map_cons, hid]
    rfl
  refine ⟨?_, hids ▸ h.apart, ?_, ?_⟩
  · intro level hlevel
    have hmem : level.id ∈ run.levels.map Level.id := hids ▸ List.mem_map_of_mem hlevel
    obtain ⟨level', hlevel', hsame⟩ := List.mem_map.mp hmem
    exact hsame ▸ hahead.named (h.named level' hlevel')
  · rw [hlevels]
    refine List.forall_mem_cons.mpr ⟨?_, ?_⟩
    · rw [htraces, hid, tracesOf_append, tracesOf_of_eq hown, h.traces _ run.own_mem]
    · intro level hlevel
      have hothers : tracesOf own level.id = [] :=
        tracesOf_of_ne fun one hone => hown one hone ▸ (h.own_ne hlevel).symm
      rw [tracesOf_append, hothers, List.append_nil]
      exact h.traces level (nested_mem hlevel)
  · intro one hone
    rcases List.mem_append.mp hone with hone | hone
    · exact hahead.named (h.callers one hone)
    · rw [hown one hone]
      exact hahead.named (h.named _ run.own_mem)

/-- A level has done something that leaves no trace. -/
theorem unmarked (h : run.Traced past world) (hahead : world.Ahead world')
    (hnested : after.nested = run.nested) (hunmarked : run.toLevel.Unmarked after.toLevel) :
    after.Traced past world' := by
  have hwork : after.Traced (past ++ []) world' :=
    h.work hahead hunmarked.id hnested (by simp) (by simp [hunmarked.traces])
  rwa [List.append_nil] at hwork

/-- The nested levels go. -/
theorem alone (h : run.Traced past world) (hnested : after.nested = [])
    (hunmarked : run.toLevel.Unmarked after.toLevel) : after.Traced past world := by
  have hlevels : after.levels = [after.toLevel] := by rw [levels, hnested]
  refine ⟨?_, by simp [hlevels], ?_, h.callers⟩
  · rw [hlevels, List.forall_mem_singleton, hunmarked.id]
    exact h.named _ run.own_mem
  · rw [hlevels, List.forall_mem_singleton, hunmarked.id, hunmarked.traces]
    exact h.traces _ run.own_mem

theorem unmarked_reclaim (run : Run) : run.toLevel.Unmarked run.reclaim.toLevel := by
  unfold Run.reclaim
  split
  · exact .of_history rfl rfl rfl
  · exact .absorb _ _

/-- A nested run is traced on its own. -/
theorem inner (h : run.Traced past world) {child : Level} {below : List Level}
    (hnested : run.nested = child :: below) :
    ({ child with nested := below } : Run).Traced past world := by
  have hmem : ∀ level ∈ ({ child with nested := below } : Run).levels, level ∈ run.levels :=
    fun level hlevel => nested_mem (hnested ▸ hlevel)
  have hapart : (run.id :: run.nested.map Level.id).Nodup := h.apart
  rw [hnested] at hapart
  exact ⟨fun level hlevel => h.named level (hmem level hlevel), (List.nodup_cons.mp hapart).2,
    fun level hlevel => h.traces level (hmem level hlevel), h.callers⟩

/-- Nobody has asked for anything yet in a run that has just got its identifier. -/
theorem begun (hcallers : ∀ one ∈ past, world.Named one.level.id) (hid : run.id = world.newRun.1)
    (hhistory : run.history = []) (hnested : run.nested = []) :
    run.Traced past world.newRun.2 := by
  have hlevels : run.levels = [run.toLevel] := by rw [levels, hnested]
  have hnew : ∀ one ∈ past, one.level.id ≠ run.id := by
    intro one hone heq
    exact world.newRun_not_named (hid ▸ heq ▸ hcallers one hone)
  refine ⟨?_, by simp [hlevels], ?_, ?_⟩
  · rw [hlevels, List.forall_mem_singleton]
    exact World.named_newRun_iff.mpr (.inl hid)
  · rw [hlevels, List.forall_mem_singleton, tracesOf_of_ne hnew, hhistory]
    rfl
  · exact fun one hone => World.named_newRun_iff.mpr (.inr (hcallers one hone))

end Traced

end Run

namespace Drive

open Run

variable {bounds : Bounds} {past own asked within : List Asked}
  {leg first second host lower : Leg} {waiting : Run}

/-- Where the levels of a run stand in a phase: on a visit to their nodes, of which nothing is done
yet where a node was just entered.  Only a run that begins has not come to a node. -/
def Phase.Placed (run : Run) : Phase → Prop
  | .level _ none => run.nested = []
  | .walk _ _ none => (∀ level ∈ run.levels, level.Here) ∧ run.cursor = 0
  | .level _ (some _) | .walk _ _ (some _) | .leave .. => ∀ level ∈ run.levels, level.Here

/-- What a stretch of a drive leaves, where some calls were made before it and some in it. -/
structure Leg.Traces (past asked : List Asked) (leg : Leg) : Prop where
  levels : ∀ level ∈ leg.run'.levels, leg.run.Reaches leg.world level.id
  callers : ∀ one ∈ asked, leg.run.Reaches leg.world one.level.id
  fits : ∀ one ∈ asked, one.Fits
  traced : leg.run'.Traced (past ++ asked) leg.world'
  here : ∀ level ∈ leg.run'.levels, level.Here

/-- How a stretch goes on with another one, some calls having been made in between. -/
structure Leg.Hands (past own : List Asked) (first second : Leg) : Prop where
  same : second.world' = first.world' ∧ second.run' = first.run'
  ahead : first.world.Ahead second.world
  levels : ∀ level ∈ second.run.levels, first.run.Reaches first.world level.id
  callers : ∀ one ∈ own, first.run.Reaches first.world one.level.id
  fits : ∀ one ∈ own, one.Fits
  traced : second.run.Traced (past ++ own) second.world
  placed : second.phase.Placed second.run

/-- What a stretch leaves is left by the one that goes on with it. -/
theorem Leg.Hands.traces (h : first.Hands past own second)
    (hrest : second.Traces (past ++ own) asked) : first.Traces past (own ++ asked) := by
  have hreaches (id : Identifier) (hid : second.run.Reaches second.world id) :
      first.run.Reaches first.world id := by
    rcases hid with hnew | ⟨level, hlevel, rfl⟩
    · exact .inl (mt h.ahead.named hnew)
    · exact h.levels level hlevel
  refine ⟨?_, ?_, ?_, ?_, ?_⟩
  · rw [← h.same.2]
    exact fun level hlevel => hreaches _ (hrest.levels level hlevel)
  · intro one hone
    rcases List.mem_append.mp hone with hone | hone
    · exact h.callers one hone
    · exact hreaches _ (hrest.callers one hone)
  · exact fun one hone => (List.mem_append.mp hone).elim (h.fits one) (hrest.fits one)
  · rw [← h.same.1, ← h.same.2, ← List.append_assoc]
    exact hrest.traced
  · rw [← h.same.2]
    exact hrest.here

/-- A nested run that is going to be driven below a run that waits for it: it is traced, and has
nothing to do with the run itself. -/
structure Leg.Lowers (past : List Asked) (host : Leg) (waiting : Run) (lower : Leg) : Prop where
  ahead : host.world.Ahead lower.world
  traced : lower.run.Traced past lower.world
  placed : lower.phase.Placed lower.run
  waits : waiting.Traced past host.world
  here : waiting.toLevel.Here
  id : waiting.id = host.run.id
  reaches : ∀ id, lower.run.Reaches lower.world id →
    host.run.Reaches host.world id ∧ id ≠ waiting.id

theorem Leg.Hosts.lowers (h : host.Hosts bounds waiting lower)
    (htraced : host.run.Traced past host.world) (hplaced : host.phase.Placed host.run) :
    host.Lowers past waiting lower := by
  cases h with
  | @nest graph left world run node flow inner world₁ child world' run' hnode hflow hdepth hlook
      rest =>
      have hsilent : world.Silent (world.look flow).2 := world.silent_look flow
      have hahead : world.Ahead (world.look flow).2.newRun.2 :=
        hsilent.ahead.trans (World.ahead_newRun _)
      have hnew : ¬world.Named (world.look flow).2.newRun.1 := by
        rw [← hsilent.named_iff]
        exact (world.look flow).2.newRun_not_named
      refine ⟨hahead, ?_, rfl, ?_, (hplaced.1 _ run.own_mem).of_nodes rfl rfl, rfl, ?_⟩
      · refine .begun (fun one hone => ?_) rfl rfl rfl
        exact hsilent.named_iff.mpr (htraced.callers one hone)
      · exact htraced.unmarked (.refl _) rfl (.of_history rfl rfl rfl)
      · have hother (id : Identifier) (hid : ¬world.Named id) : id ≠ run.id := by
          rintro rfl
          exact hid (htraced.named _ run.own_mem)
        rintro id (hid | ⟨level, hlevel, rfl⟩)
        · have hid' := mt hahead.named hid
          exact ⟨.inl hid', hother id hid'⟩
        · obtain rfl := List.mem_singleton.mp hlevel
          exact ⟨.inl hnew, hother _ hnew⟩
  | @pass graph left payload world run node flow child below inner world₁ ended world' run' hnode
      hflow hnested hlook rest =>
      have hsilent : world.Silent (world.look child.flow).2 := world.silent_look child.flow
      have hmem : ∀ level ∈ ({ child with nested := below } : Run).levels, level ∈ waiting.nested :=
        fun level hlevel => hnested ▸ hlevel
      refine ⟨hsilent.ahead, ?_, ?_, htraced, hplaced _ waiting.own_mem, rfl, ?_⟩
      · exact (htraced.inner hnested).unmarked hsilent.ahead rfl (.of_history rfl rfl rfl)
      · exact fun level hlevel => hplaced level (nested_mem (hmem level hlevel))
      · rintro id (hid | ⟨level, hlevel, rfl⟩)
        · have hid' : ¬world.Named id := mt hsilent.named_iff.mpr hid
          refine ⟨.inl hid', ?_⟩
          rintro rfl
          exact hid' (htraced.named _ waiting.own_mem)
        · have hlevel' := hmem level hlevel
          exact ⟨.inr ⟨level, nested_mem hlevel', rfl⟩, htraced.own_ne hlevel'⟩

/-- A nested run that was driven is traced together with the run that waits for it. -/
theorem Leg.Lowers.joined (h : host.Lowers past waiting lower)
    (hahead : lower.world.Ahead lower.world') (hlower : lower.Traces past within) :
    (waiting.withChild lower.run').Traced (past ++ within) lower.world' := by
  have hown : ∀ level ∈ lower.run'.levels, level.id ≠ waiting.id :=
    fun level hlevel => (h.reaches _ (hlower.levels level hlevel)).2
  have hothers : tracesOf within waiting.id = [] :=
    tracesOf_of_ne fun one hone => (h.reaches _ (hlower.callers one hone)).2
  refine ⟨?_, ?_, ?_, hlower.traced.callers⟩
  · refine List.forall_mem_cons.mpr ⟨?_, hlower.traced.named⟩
    exact hahead.named (h.ahead.named (h.waits.named _ waiting.own_mem))
  · refine List.nodup_cons.mpr ⟨?_, hlower.traced.apart⟩
    intro hmem
    obtain ⟨level, hlevel, hid⟩ := List.mem_map.mp hmem
    exact hown level hlevel hid
  · refine List.forall_mem_cons.mpr ⟨?_, hlower.traced.traces⟩
    change waiting.history.traces = tracesOf (past ++ within) waiting.id
    rw [tracesOf_append, hothers, List.append_nil]
    exact h.waits.traces _ waiting.own_mem

/-- What is done on a level: what its node has asked for has left its traces. -/
theorem Leg.Hands.work (hsame : second.world' = first.world' ∧ second.run' = first.run')
    (hahead : first.world.Ahead second.world) (htraced : first.run.Traced past first.world)
    (hid : second.run.id = first.run.id) (hnested : second.run.nested = first.run.nested)
    (hown : ∀ one ∈ own, one.level.id = first.run.id) (hfits : ∀ one ∈ own, one.Fits)
    (htraces : second.run.history.traces = first.run.history.traces ++ own.map Asked.trace)
    (hplaced : second.phase.Placed second.run) : first.Hands past own second where
  same := hsame
  ahead := hahead
  levels := by
    rw [Run.levels, hnested]
    refine List.forall_mem_cons.mpr ⟨.inr ⟨_, first.run.own_mem, hid.symm⟩, ?_⟩
    exact fun level hlevel => .inr ⟨level, nested_mem hlevel, rfl⟩
  callers := fun one hone => .inr ⟨_, first.run.own_mem, (hown one hone).symm⟩
  fits := hfits
  traced := htraced.work hahead hid hnested hown htraces
  placed := hplaced

/-- What is done on a level without asking anyone. -/
theorem Leg.Hands.unmarked (hsame : second.world' = first.world' ∧ second.run' = first.run')
    (hahead : first.world.Ahead second.world) (htraced : first.run.Traced past first.world)
    (hnested : second.run.nested = first.run.nested)
    (hunmarked : first.run.toLevel.Unmarked second.run.toLevel)
    (hplaced : second.phase.Placed second.run) : first.Hands past [] second :=
  .work hsame hahead htraced hunmarked.id hnested (by simp) (by simp)
    (by simp [hunmarked.traces]) hplaced

/-- Levels stand where they stood as long as no node is entered. -/
theorem here_of_unmarked {run after : Run} (hhere : ∀ level ∈ run.levels, level.Here)
    (hnested : after.nested = run.nested) (hunmarked : run.toLevel.Unmarked after.toLevel) :
    ∀ level ∈ after.levels, level.Here := by
  rw [Run.levels, hnested]
  exact List.forall_mem_cons.mpr ⟨hunmarked.here (hhere _ run.own_mem),
    fun level hlevel => hhere level (nested_mem hlevel)⟩

theorem Phase.Placed.here {graph : Graph} {left : Nat} {payload : Option Payload} {run : Run}
    (h : (Phase.walk graph left payload).Placed run) : ∀ level ∈ run.levels, level.Here := by
  cases payload with
  | none => exact h.1
  | some payload => exact h

theorem Phase.Placed.cursor {graph : Graph} {left : Nat} {payload : Option Payload} {run : Run}
    (h : (Phase.walk graph left payload).Placed run) (hpayload : payload = none) :
    run.cursor = 0 := by
  subst hpayload
  exact h.2

theorem Phase.Placed.of_over {phase : Phase} {run : Run} (h : phase.Placed run)
    (hover : phase.IsOver run) : ∀ level ∈ run.levels, level.Here := by
  cases phase with
  | level graph payload => exact hover.elim
  | walk graph left payload => exact h.here
  | leave graph left outcome => exact h

/-- A node takes a step of its own: what it asks for leaves its traces on the visit. -/
theorem Leg.Hands.plain {graph : Graph} {left : Nat} {payload : Option Payload}
    {world world₁ : World} {run stepped : Run} {node : Graph.Node} {outcome : Outcome}
    {deliveries : List Delivery} (htraced : run.Traced past world)
    (hplaced : (Phase.walk graph (left + 1) payload).Placed run)
    (hplain : node.behaviour.isSubflow = false)
    (hstep : world.act (node.behaviour.step (alone bounds node) run payload) =
      ((outcome, stepped), world₁))
    (hasks : world.Asks deliveries world₁) (world' : World) (run' : Run) :
    Leg.Hands past (run.toLevel.asking (alone bounds node) node.behaviour deliveries)
      ⟨.walk graph (left + 1) payload, world, run, world', run'⟩
      ⟨.leave graph left outcome, world₁, stepped, world', run'⟩ := by
  have hstepped := Behaviour.stepped hplain hstep
  obtain ⟨deliveries', hconsults⟩ :=
    Behaviour.step_consults hplain (alone bounds node) world run payload hplaced.cursor
  rw [hstep] at hconsults
  obtain rfl := hasks.unique hconsults.asks
  have hhere : run.toLevel.Here := hplaced.here _ run.own_mem
  refine .work ⟨rfl, rfl⟩ hstepped.quiet.silent.ahead htraced hstepped.visit.id hstepped.nested ?_
    ?_ ?_ ?_
  · intro one hone
    obtain ⟨asked, -, rfl⟩ := List.mem_map.mp hone
    rfl
  · intro one hone
    obtain ⟨⟨delivery, part⟩, hmem, rfl⟩ := List.mem_map.mp hone
    exact hconsults.may delivery part hmem
  · rw [hconsults.traces hhere, Level.asking, Delivery.notes, List.map_map, List.map_map]
    rfl
  · change ∀ level ∈ stepped.levels, level.Here
    rw [Run.levels, hstepped.nested]
    refine List.forall_mem_cons.mpr ⟨hhere.of_nodes hstepped.visit.nodes hstepped.visit.node, ?_⟩
    exact fun level hlevel => hplaced.here level (nested_mem hlevel)

/-- A run that has taken a nested run back is traced, with no levels but those that it had. -/
theorem reclaim_traced {world : World} {run : Run} (h : run.Traced past world)
    (hhere : ∀ level ∈ run.levels, level.Here) :
    run.reclaim.Traced past world ∧ ∀ level ∈ run.reclaim.levels, level.Here ∧
      ∃ level' ∈ run.levels, level'.id = level.id := by
  have hunmarked := Traced.unmarked_reclaim run
  have hnested : run.reclaim.nested = [] := nested_reclaim run
  refine ⟨h.alone hnested hunmarked, ?_⟩
  rw [Run.levels, hnested, List.forall_mem_singleton]
  exact ⟨hunmarked.here (hhere _ run.own_mem), _, run.own_mem, hunmarked.id.symm⟩

/-- So does a nested run that is settled. -/
theorem settle_traced {world : World} {run : Run} (h : run.Traced past world)
    (hhere : ∀ level ∈ run.levels, level.Here) (flow : FlowId) (around : Surroundings) :
    (Subflow.settle flow around run).2.Traced past world ∧
      ∀ level ∈ (Subflow.settle flow around run).2.levels, level.Here ∧
        ∃ level' ∈ run.levels, level'.id = level.id := by
  rcases settle_run flow around run with hsettled | hsettled
  · rw [hsettled]
    exact ⟨h, fun level hlevel => ⟨hhere level hlevel, level, hlevel, rfl⟩⟩
  · rw [hsettled]
    exact reclaim_traced h hhere

/-- A nested run was driven: its calls have left their traces on its own levels. -/
theorem Leg.Lowers.hands (h : host.Lowers past waiting lower)
    (hahead : lower.world.Ahead lower.world') (hlower : lower.Traces past within)
    (graph : Graph) (left : Nat) (flow : FlowId) (around : Surroundings) :
    host.Hands past within
      ⟨.leave graph left (Subflow.settle flow around (waiting.withChild lower.run')).1,
        lower.world', (Subflow.settle flow around (waiting.withChild lower.run')).2, host.world',
        host.run'⟩ := by
  have hhere : ∀ level ∈ (waiting.withChild lower.run').levels, level.Here :=
    List.forall_mem_cons.mpr ⟨h.here.of_nodes rfl rfl, hlower.here⟩
  obtain ⟨htraced, hlevels⟩ := settle_traced (h.joined hahead hlower) hhere flow around
  refine ⟨⟨rfl, rfl⟩, h.ahead.trans hahead, ?_, ?_, hlower.fits, htraced, fun level hlevel =>
    (hlevels level hlevel).1⟩
  · intro level hlevel
    obtain ⟨other, hother, hid⟩ := (hlevels level hlevel).2
    rw [← hid]
    rcases List.mem_cons.mp hother with rfl | hother
    · exact .inr ⟨_, host.run.own_mem, h.id.symm⟩
    · exact (h.reaches _ (hlower.levels other hother)).1
  · exact fun one hone => (h.reaches _ (hlower.callers one hone)).1

/-- What is done without a step of a node, or in a step that asks for nothing. -/
theorem Leg.Then.hands (h : first.Then bounds second) (hsecond : second.Goes bounds)
    (halone : ∀ waiting lower, ¬first.Hosts bounds waiting lower)
    (hstill : second.world.ledger = first.world.ledger)
    (htraced : first.run.Traced past first.world) (hplaced : first.phase.Placed first.run) :
    first.Hands past [] second := by
  cases h with
  | @enter graph world run world' run' =>
      have hunmarked : run.toLevel.Unmarked (run.awake.entering bounds run.node).toLevel :=
        ⟨rfl, History.traces_enter _ _ _, fun _ => run.toLevel.here_enter _ _⟩
      refine .unmarked ⟨rfl, rfl⟩ (world.ahead_emit _) htraced rfl hunmarked ⟨?_, rfl⟩
      have hlevels : (run.awake.entering bounds run.node).levels =
          [(run.awake.entering bounds run.node).toLevel] :=
        congrArg (List.cons _) (show run.nested = [] from hplaced)
      rw [hlevels, List.forall_mem_singleton]
      exact run.toLevel.here_enter _ _
  | wake =>
      have hunmarked (run : Run) : run.toLevel.Unmarked run.awake.toLevel :=
        .of_history rfl rfl rfl
      exact .unmarked ⟨rfl, rfl⟩ (.refl _) htraced rfl (hunmarked _)
        (here_of_unmarked hplaced rfl (hunmarked _))
  | @plain graph left payload world run node outcome stepped world₁ world' run' hnode hplain
      hstep =>
      exact .plain htraced hplaced hplain hstep (World.asks_nothing hstill) world' run'
  | tooDeep hnode hflow hdepth | unloadable hnode hflow hdepth hlook | orphan hnode hflow hnested =>
      exact .unmarked ⟨rfl, rfl⟩ (.refl _) htraced rfl (.of_history rfl rfl rfl) hplaced.here
  | nest hnode hflow hdepth hlook drive =>
      exact absurd (.nest hnode hflow hdepth hlook hsecond) (halone _ _)
  | @lost graph left payload world run node flow child below e world' run' hnode hflow hnested
      hlook =>
      obtain ⟨hreclaimed, hlevels⟩ := reclaim_traced htraced hplaced
      refine ⟨⟨rfl, rfl⟩, .refl _, fun level hlevel => .inr (hlevels level hlevel).2, by simp,
        by simp, ?_, fun level hlevel => (hlevels level hlevel).1⟩
      rw [List.append_nil]
      exact hreclaimed
  | pass hnode hflow hnested hlook drive =>
      exact absurd (.pass hnode hflow hnested hlook hsecond) (halone _ _)
  | @go graph left next world run world' run' hnext =>
      have hunmarked : run.toLevel.Unmarked (run.entering bounds next).toLevel :=
        ⟨rfl, History.traces_enter _ _ _, fun _ => run.toLevel.here_enter _ _⟩
      exact .unmarked ⟨rfl, rfl⟩ ((world.ahead_emit _).trans (World.ahead_emit _ _)) htraced rfl
        hunmarked ⟨here_of_unmarked hplaced rfl hunmarked, rfl⟩

/-- What a stretch leaves of a drive that was traced before. -/
theorem Leg.Asks.traces (h : leg.Asks bounds asked) (past : List Asked)
    (htraced : leg.run.Traced past leg.world) (hplaced : leg.phase.Placed leg.run) :
    leg.Traces past asked := by
  induction h generalizing past with
  | @halt leg isOver goes =>
      obtain ⟨-, hnested, hunmarked⟩ := Course.of_over goes isOver
      have hhere := Phase.Placed.of_over hplaced isOver
      refine ⟨?_, by simp, by simp, ?_, here_of_unmarked hhere hnested hunmarked⟩
      · rw [Run.levels, hnested]
        exact List.forall_mem_cons.mpr ⟨.inr ⟨_, leg.run.own_mem, hunmarked.id.symm⟩,
          fun level hlevel => .inr ⟨level, nested_mem hlevel, rfl⟩⟩
      · rw [List.append_nil]
        exact htraced.unmarked (Course.ahead goes) hnested hunmarked
  | @plain graph left payload world run node outcome stepped world₁ world' run' deliveries asked
      hnode hplain hstep asks rest ih =>
      have hhands := Leg.Hands.plain htraced hplaced hplain hstep asks world' run'
      exact hhands.traces (ih _ hhands.traced hhands.placed)
  | @nest graph left payload world run node flow waiting lower world' run' within asked hosts hnode
      hflow drive rest ihDrive ih =>
      have hlowers := hosts.lowers htraced hplaced
      have hlower := ihDrive past hlowers.traced hlowers.placed
      have hhands := hlowers.hands (Course.ahead drive.goes) hlower graph left flow
        (alone bounds node)
      exact hhands.traces (ih _ hhands.traced hhands.placed)
  | quiet next alone still rest ih =>
      have hhands := next.hands rest.goes alone still htraced hplaced
      exact hhands.traces (ih _ hhands.traced hhands.placed)

end Drive

end Dialogue
