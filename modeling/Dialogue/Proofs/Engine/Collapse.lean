import Dialogue.Proofs.Drive.Collapse
import Dialogue.Proofs.Engine.Steady
import Dialogue.Proofs.Engine.Writes

/-!
# Failures of nested runs

Whatever drives a run, a failure on any level of it is a failure of all levels above,
and the run that is stored afterwards has the variables of the one that has failed.
-/

namespace Dialogue.World

variable {settings : Settings} {world world' : World} {order : Order} {leg : Drive.Leg}

/-- The variables of all stored runs are dictionaries, whose identifiers were given out. -/
structure Tidy (world : World) : Prop where
  numbered : world.Numbered
  vars : ∀ id run, world.store.find? id = some run → run.innermost.vars.Ascending

theorem Tidy.silent (h : world.Tidy) (hstore : world'.store = world.store)
    (hsilent : world.Silent world') : world'.Tidy where
  numbered := by
    intro id hid
    exact hsilent.named_iff.mpr (h.numbered id (hstore ▸ hid))
  vars := by
    rw [hstore]
    exact h.vars

theorem Tidy.carryOut (h : world.Tidy) (hworld : world.Ready) (hloads : world.Loads)
    (hshaped : world.Shaped world.flow settings) (hproper : order.Proper)
    (hflows : order.keepsFlows = true) : (world.carryOut order).Tidy := by
  have hfilled : world.Filled world.flow settings :=
    ⟨hshaped, h.numbered, fun _ _ hgraph => (hloads.sound hgraph).standard, h.vars⟩
  have hfilled' := hfilled.deed hproper (carryOut_deed hworld hflows)
  exact ⟨hfilled'.numbered, hfilled'.vars⟩

theorem Tidy.atTime (h : world.Tidy) (now : Instant) : (world.atTime now).Tidy :=
  ⟨h.numbered, h.vars⟩

theorem Steady.tidy (settings : Settings) (start : Instant) (definitions : List Flow)
    (send : Ledger → String → Message → Except DispatchError String)
    (assign : Ledger → String → String → Except AssignmentError Unit) (supply : Supply)
    {orders : List (Instant × Order)}
    (h : (opened settings start definitions send assign supply).Steady orders)
    (hproper : ∀ order ∈ orders, order.2.Proper) :
    ((opened settings start definitions send assign supply).after orders).Tidy := by
  refine Steady.induction settings start definitions send assign supply Order.Proper Tidy ?_ ?_ ?_
    h hproper
  · exact fun hstore hsilent h => h.silent hstore hsilent
  · exact fun hworld hloads hshaped hproper hflows h =>
      h.carryOut hworld hloads hshaped hproper hflows
  · exact ⟨numbered_opened settings start definitions send assign supply,
      by simp [opened, Store.find?]⟩

/-- An order drives a whole level. -/
theorem Drives.phase (h : world.Drives order leg) :
    ∃ graph payload, leg.phase = .level graph payload := by
  cases h with
  | begin look place course done => exact ⟨_, _, rfl⟩
  | resume wakes stored accepted timely look course done => exact ⟨_, _, rfl⟩

/-- A drive begins with a run whose variables are a dictionary. -/
theorem Drives.ascending (h : world.Drives order leg) (hworld : world.Tidy)
    (hproper : order.Proper) : leg.run.innermost.vars.Ascending := by
  cases h with
  | begin look place course done => exact hproper
  | resume wakes stored accepted timely look course done => exact hworld.vars _ _ stored

/-- A drive leaves its run stored as it has become, and all others as they were. -/
theorem Drives.find? (h : world.Drives order leg) (id : Identifier) :
    (world.carryOut order).store.find? id =
      if leg.run.id = id then some leg.run' else world.store.find? id := by
  have hcourse : Drive.Course world.bounds leg.phase leg.world leg.run leg.world' leg.run' :=
    h.goes
  rw [h.done, store_persist, hcourse.sameRun.id, hcourse.later.store, h.outset.2.1]

theorem Drives.stored (h : world.Drives order leg) :
    (world.carryOut order).store.find? leg.run.id = some leg.run' := (h.find? _).trans (if_pos rfl)

/-- Whatever was ordered in a world that was opened with nothing but flows, and as long as no
definition changes once its flow has been loaded, the failure of a run on any level of a drive
climbs to the run that is driven: all runs that wait fall, from the inside out, and the outermost
one has the variables of the run that has failed on its own.  No drive fails without such a run.
Where a flow cannot be run because that would be too deep, or because it cannot be loaded, no run of
it begins, and nothing changes about the run that was to begin it but that it fails. -/
theorem failure_climbs_to_the_root (settings : Settings) (start : Instant)
    (definitions : List Flow) (send : Ledger → String → Message → Except DispatchError String)
    (assign : Ledger → String → String → Except AssignmentError Unit) (supply : Supply)
    (orders : List (Instant × Order))
    (hsteady : (opened settings start definitions send assign supply).Steady orders)
    (hproper : ∀ order ∈ orders, order.2.Proper) (now : Instant) (order : Order)
    (horder : order.Proper) (leg : Drive.Leg)
    (hdrives : (((opened settings start definitions send assign supply).after orders).atTime
      now).Drives order leg) :
    let world := ((opened settings start definitions send assign supply).after orders).atTime now
    (leg.run'.status = .failed → leg.Cracks world.bounds) ∧
    ∀ outer part, Drive.Part world.bounds leg outer part →
      (∀ kind message, part.Breaks world.bounds kind message →
        part.run'.FailedWith kind message now ∧
        ∃ text, Drive.Collapse world.bounds world.flow kind part.run' message part.world' outer
            leg.run' text leg.world' ∧
          leg.run'.FailedWith kind text now ∧ leg.run'.vars = part.run'.vars ∧
          (world.carryOut order).store.find? leg.run.id = some leg.run') ∧
      ∀ graph left node flow, part.phase = .walk graph (left + 1) none →
        graph.find? part.run.node = some node → node.behaviour = .subflow flow →
        (settings.maxDepth ≤ part.run.depth ∨ ∃ e, world.flow flow = .error e) →
        ∃ kind message, part.Breaks world.bounds kind message ∧
          part.run'.vars = part.run.vars ∧ part.run'.nested = part.run.nested ∧
          part.run' = part.run.failing world.bounds kind message ∧
          part.world' = part.world.told world.bounds part.run part.run.node
            (.runFailed kind message) := by
  intro world
  have hstandard (id : FlowId) (graph : Graph) (hgraph : world.flow id = .ok graph) :
      graph.Standard :=
    standard_after settings start definitions send assign supply orders hgraph
  have hshaped : world.Shaped world.flow settings :=
    (hsteady.kept settings start definitions send assign supply).shaped.atTime now
  have htidy : world.Tidy :=
    (hsteady.tidy settings start definitions send assign supply hproper).atTime now
  have hfits := hdrives.fits hshaped
  have hlimit : world.bounds.settings = settings := hshaped.limits
  constructor
  · intro hfailed
    obtain ⟨graph, payload, hphase⟩ := hdrives.phase
    refine Drive.Course.cracks hdrives.goes hfits ?_ hfailed
    intro graph' left kind message hleave
    rw [hphase] at hleave
    cases hleave
  · intro outer part hpart
    constructor
    · intro kind message hbreaks
      have hfailed := hbreaks.failedWith hpart.inner (hpart.fits hfits)
      have hvars := hpart.ascending hstandard hfits (hdrives.ascending htidy horder)
      rw [Run.innermost_of_nil hfailed.nested] at hvars
      obtain ⟨text, hcollapse⟩ := hpart.collapse hfits hfailed hvars
      exact ⟨hfailed, text, hcollapse, hcollapse.failedWith hfailed, hcollapse.vars,
        hdrives.stored⟩
    · intro graph left node flow hphase hnode hflow hrefused
      rw [← hlimit, ← (hpart.fits hfits).flow] at hrefused
      obtain ⟨kind, message, hbreaks, hrun, hworld⟩ :=
        hpart.inner.refused hphase hnode hflow hrefused
      refine ⟨kind, message, hbreaks, ?_, ?_, hrun, hworld⟩
      · rw [hrun]
        rfl
      · rw [hrun]
        rfl

/-- A world with a flow that runs itself, where flows may be nested twice. -/
def looping : World :=
  opened { maxDepth := 2 } ⟨0, 0⟩ [.calling "loop" "loop"] (fun _ _ _ => .ok "sent")
    (fun _ _ _ => .ok ()) {}

/-- The third run of a flow that runs itself would be too deep, and all three fail. -/
theorem failure_climbs_to_the_root_sample :
    let request : RunRequest :=
      { flow := "loop", contactId := "ann", vars := [("plan", .string "gold")] }
    let world := (looping.after [(⟨0, 0⟩, .start request)]).atTime ⟨1, 0⟩
    ∃ leg outer part kind message text, world.Drives (.start request) leg ∧
      Drive.Part world.bounds leg outer part ∧ part.Breaks world.bounds kind message ∧
      Drive.Collapse world.bounds world.flow kind part.run' message part.world' outer leg.run' text
        leg.world' ∧
      leg.run'.vars.names = ["plan"] ∧
      text = "subflow 'loop' failed: subflow 'loop' failed: " ++
        "subflow 'loop' would run at depth 3 (limit 2)" := by
  intro request world
  have hready : world.Ready := (ready_after (ready_opened ..) _).atTime _
  have hplace : (world.flow request.flow).toOption.any
      (fun graph => (Engine.startNode graph request).toOption.isSome) = true := by
    decide +kernel
  have hruns : (world.carryOut (.start request)).store.runs.all (fun run =>
      decide (run.status = .failed ∧ run.vars.names = ["plan"] ∧ run.failure.map (·.message) =
        some ("subflow 'loop' failed: subflow 'loop' failed: " ++
          "subflow 'loop' would run at depth 3 (limit 2)"))) = true := by
    decide +kernel
  obtain ⟨leg, hdrives⟩ := drives_of_loads hready hplace
  obtain ⟨hcracks, hclimbs⟩ := failure_climbs_to_the_root { maxDepth := 2 } ⟨0, 0⟩ _ _ _ {}
    [(⟨0, 0⟩, .start request)] (steady_of_undefined (ready_opened ..) (by simp [Order.defines]))
    (by simp [Order.Proper, Fields.Ascending, request]) ⟨1, 0⟩ (.start request)
    (by simp [Order.Proper, Fields.Ascending, request]) leg hdrives
  have hrun := of_decide_eq_true
    (List.all_eq_true.mp hruns leg.run' (Store.mem_of_find? hdrives.stored))
  obtain ⟨hstatus, hnames, hmessage⟩ := hrun
  obtain ⟨outer, part, kind, message, hpart, hbreaks⟩ := hcracks hstatus
  obtain ⟨-, text, hcollapse, hfailed, -⟩ := (hclimbs outer part hpart).1 kind message hbreaks
  refine ⟨leg, outer, part, kind, message, text, hdrives, hpart, hbreaks, hcollapse, hnames, ?_⟩
  rw [hfailed.failure] at hmessage
  exact Option.some.inj hmessage

end Dialogue.World
