import Mathlib.Data.List.Induction
import Dialogue.Proofs.Engine.Drives
import Dialogue.Proofs.Engine.Flows
import Dialogue.Proofs.Engine.Shape

/-!
# Definitions that stay

Flows may be defined at any time and loaded flows may be forgotten, as long as no
definition changes once its flow has been loaded.  Every flow of a stored run was
loaded at some time, so it is for the run what it was when the run went into it,
and the run keeps the shape that its last drive has left it in.
-/

namespace Dialogue

/-! ## The flows of a run -/

/-- The flows of all levels of a run have a property. -/
def Run.Within (P : FlowId → Prop) (run : Run) : Prop := ∀ level ∈ run.levels, P level.flow

namespace Run

variable {P : FlowId → Prop} {run child : Run}

theorem within_iff : run.Within P ↔ P run.flow ∧ ∀ level ∈ run.nested, P level.flow :=
  List.forall_mem_cons

theorem Within.withChild (h : run.Within P) (hchild : child.Within P) :
    (run.withChild child).Within P :=
  within_iff.mpr ⟨(within_iff.mp h).1, hchild⟩

theorem Within.reclaim (h : run.Within P) : run.reclaim.Within P := by
  unfold Run.reclaim
  split
  · exact h
  · exact within_iff.mpr ⟨(within_iff.mp h).1, by simp⟩

end Run

namespace World

/-- What was loaded stays so. -/
def Remembers (before after : World) : Prop :=
  ∀ id, before.catalog.loaded.has id = true → after.catalog.loaded.has id = true

theorem Remembers.refl (world : World) : world.Remembers world := fun _ h => h

theorem Remembers.trans {first second third : World} (h : first.Remembers second)
    (h' : second.Remembers third) : first.Remembers third := fun id hid => h' id (h id hid)

theorem remembers_look (world : World) (flow : FlowId) :
    world.Remembers (world.look flow).2 := by
  intro id hid
  change (world.catalog.get world.registry flow).2.loaded.has id = true
  unfold Catalog.get
  split
  · exact hid
  · split
    · exact hid
    · dsimp only
      rw [Fields.has_insert, hid, Bool.or_true]

/-- A flow that was found is loaded. -/
theorem loaded_look {world : World} {flow : FlowId} {graph : Graph}
    (h : world.flow flow = .ok graph) : (world.look flow).2.catalog.loaded.has flow = true := by
  change (world.catalog.get world.registry flow).1 = .ok graph at h
  change (world.catalog.get world.registry flow).2.loaded.has flow = true
  rw [Catalog.get_fst] at h
  unfold Catalog.get
  cases hloaded : world.catalog.loaded.get? flow with
  | some kept =>
      simp only [Fields.has, hloaded]
      rfl
  | none =>
      rw [hloaded] at h
      simp only [h, Fields.has_insert, decide_true, Bool.true_or]

theorem remembers_reply (call : Call) (world : World) :
    world.Remembers (reply call world).2 := by
  cases call with
  | flow id => exact world.remembers_look id
  | _ => exact .refl world

end World

namespace Drive

variable {bounds : Bounds} {phase : Phase} {world world' : World} {run run' : Run}

theorem Course.remembers (h : Course bounds phase world run world' run') :
    world.Remembers world' :=
  h.keeps World.Remembers.refl World.Remembers.trans World.remembers_reply

theorem within_settle {P : FlowId → Prop} {flow : FlowId} {around : Surroundings}
    (h : run.Within P) : (Subflow.settle flow around run).2.Within P := by
  rcases settle_run flow around run with hsame | hback
  · rw [hsame]
    exact h
  · rw [hback]
    exact h.reclaim

/-- A drive leaves a run in flows that it was in, or that were loaded on the way. -/
theorem Course.within {P : FlowId → Prop} (h : Course bounds phase world run world' run')
    (hloaded : ∀ id, world'.catalog.loaded.has id = true → P id) (hrun : run.Within P) :
    run'.Within P := by
  -- Work on the outermost level that keeps its flow makes no difference.
  have same {run : Run} {f : Level → Level} (hflow : (f run.toLevel).flow = run.flow)
      (h : run.Within P) : (run.onLevel f).Within P :=
    Run.within_iff.mpr ⟨hflow ▸ (Run.within_iff.mp h).1, (Run.within_iff.mp h).2⟩
  induction h with
  | enter rest ih => exact ih hloaded (same rfl (same rfl hrun))
  | wake rest ih => exact ih hloaded (same rfl hrun)
  | @plain graph left payload world run node outcome stepped world₁ world' run' hnode hplain
      hstep rest ih =>
      have hkeeps := Behaviour.step_keepsVisit hplain (alone bounds node) world run payload
      rw [hstep] at hkeeps
      have hflow : stepped.flow = run.flow := hkeeps.visit.flow
      have hnested : stepped.nested = run.nested := hkeeps.nested
      apply ih hloaded
      rw [Run.within_iff, hflow, hnested]
      exact Run.within_iff.mp hrun
  | tooDeep hnode hflow hdepth rest ih => exact ih hloaded hrun
  | unloadable hnode hflow hdepth hlook rest ih => exact ih hloaded hrun
  | @nest graph left world run node flow inner world₁ child world' run' hnode hflow hdepth hlook
      drive rest ihDrive ih =>
      have hafter (id : FlowId) (hid : world₁.catalog.loaded.has id = true) : P id :=
        hloaded id (rest.remembers id hid)
      have hinner : P flow := hafter flow (drive.remembers flow (World.loaded_look hlook))
      have hbegun : (run.begun bounds (world.look flow).2.newRun.1 inner flow).Within P :=
        Run.within_iff.mpr ⟨hinner, by simp [Run.begun, Run.ofLevel]⟩
      have hgiving : run.givingAway.Within P := same rfl hrun
      exact ih hloaded (within_settle (hgiving.withChild (ihDrive hafter hbegun)))
  | orphan hnode hflow hnested rest ih => exact ih hloaded hrun
  | lost hnode hflow hnested hlook rest ih => exact ih hloaded hrun.reclaim
  | @pass graph left payload world run node flow child below inner world₁ ended world' run' hnode
      hflow hnested hlook drive rest ihDrive ih =>
      have hafter (id : FlowId) (hid : world₁.catalog.loaded.has id = true) : P id :=
        hloaded id (rest.remembers id hid)
      have hchild : ({ child with nested := below } : Run).Within P := by
        have hbelow := (Run.within_iff.mp hrun).2
        rw [hnested] at hbelow
        exact hbelow
      exact ih hloaded (within_settle (hrun.withChild (ihDrive hafter hchild)))
  | go hnext rest ih => exact ih hloaded (same rfl hrun)
  | _ => exact same rfl hrun

end Drive

/-! ## Runs in flows that stay -/

section

variable {flows flows' : Flows}

theorem Level.Stands.of_same {level : Level} {behaviour : Behaviour}
    (h : level.Stands flows behaviour) (hsame : flows' level.flow = flows level.flow) :
    level.Stands flows' behaviour := by
  unfold Level.Stands at h ⊢
  rw [hsame]
  exact h

/-- What hangs on a level depends on the flows of its levels only. -/
theorem Level.Hangs.of_same {maxDepth : Nat} {suspension : Suspension} {level : Level}
    {below : List Level} (h : level.Hangs flows maxDepth suspension below)
    (hsame : ∀ inner ∈ level :: below, flows' inner.flow = flows inner.flow) :
    level.Hangs flows' maxDepth suspension below := by
  induction h with
  | stop stands pauses => exact .stop (stands.of_same (hsame _ (.head _))) pauses
  | link holds waits rest ih =>
      have hstands := holds.stands.of_same (hsame _ (.head _))
      exact .link { holds with stands := hstands } waits
        (ih fun inner hinner => hsame inner (.tail _ hinner))

theorem Run.Settled.of_same {settings : Settings} {run : Run} (h : run.Settled flows settings)
    (hsame : run.Within fun flow => flows' flow = flows flow) : run.Settled flows' settings := by
  cases h with
  | waiting steps waits hangs => exact .waiting steps waits (hangs.of_same hsame)
  | completed status pending unfailed nested => exact .completed status pending unfailed nested
  | failed status pending failed nested => exact .failed status pending failed nested

end

/-- Whether an order puts a flow into the source. -/
def Order.defines : Order → Bool
  | .define _ => true
  | _ => false

namespace World

variable {settings : Settings} {world : World} {id : FlowId} {orders : List (Instant × Order)}
  {order : Instant × Order}

/-- A flow that was loaded at some time in a sequence of orders. -/
def Familiar (world : World) (orders : List (Instant × Order)) (id : FlowId) : Prop :=
  ∃ first, first <+: orders ∧ (world.after first).catalog.loaded.has id = true

/-- No definition changes once its flow has been loaded. -/
def Steady (world : World) (orders : List (Instant × Order)) : Prop :=
  ∀ first second, first <+: second → second <+: orders → ∀ id,
    (world.after first).catalog.loaded.has id = true →
      (world.after second).catalog.definitions.get? id =
        (world.after first).catalog.definitions.get? id

/-- The world after orders, when the next one is due. -/
def due (world : World) (orders : List (Instant × Order)) (order : Instant × Order) : World :=
  (world.after orders).atTime order.1

theorem after_snoc (world : World) (orders : List (Instant × Order)) (order : Instant × Order) :
    world.after (orders ++ [order]) = (world.due orders order).carryOut order.2 :=
  world.after_append orders [order]

theorem ready_due (hworld : world.Ready) (orders : List (Instant × Order))
    (order : Instant × Order) : (world.due orders order).Ready :=
  (ready_after hworld orders).atTime order.1

theorem Familiar.snoc (h : world.Familiar orders id) (order : Instant × Order) :
    world.Familiar (orders ++ [order]) id := by
  obtain ⟨first, hfirst, hloaded⟩ := h
  exact ⟨first, hfirst.trans (List.prefix_append _ _), hloaded⟩

theorem familiar_of_loaded (h : (world.after orders).catalog.loaded.has id = true) :
    world.Familiar orders id := ⟨orders, List.prefix_refl _, h⟩

theorem Steady.before (h : world.Steady (orders ++ [order])) : world.Steady orders :=
  fun first second hfirst hsecond =>
    h first second hfirst (hsecond.trans (List.prefix_append _ _))

/-- The definition of a flow that was loaded at some time is the same after the next order. -/
theorem Steady.definition (h : world.Steady (orders ++ [order]))
    (hfamiliar : world.Familiar orders id) :
    (world.after (orders ++ [order])).catalog.definitions.get? id =
      (world.after orders).catalog.definitions.get? id := by
  obtain ⟨first, hfirst, hloaded⟩ := hfamiliar
  have happend := List.prefix_append orders [order]
  rw [h first _ (hfirst.trans happend) (List.prefix_refl _) id hloaded,
    h first _ hfirst happend id hloaded]

/-- Orders that define no flow are steady, also if they make the engine forget flows. -/
theorem steady_of_undefined (hworld : world.Ready)
    (h : ∀ order ∈ orders, order.2.defines = false) : world.Steady orders := by
  have hkept (first : List (Instant × Order)) (hfirst : first <+: orders) :
      (world.after first).catalog.definitions = world.catalog.definitions := by
    refine after_induction (fun order => order.defines = false)
      (fun after => after.catalog.definitions = world.catalog.definitions) (fun _ h => h) ?_
      hworld rfl fun order horder => h order (hfirst.subset horder)
    intro before order hready horder hbefore
    rcases carryOut_cases hready.toUndisturbed order with ⟨α, operation, heq⟩ | ⟨defined, rfl⟩
    · rw [heq, (before.onward_obey operation).definitions, hbefore]
    · cases horder
  intro first second hfirst hsecond id _
  rw [hkept second hsecond, hkept first (hfirst.trans hsecond)]

/-! ## What a flow is loaded from -/

/-- Every flow is what would be loaded from its definition now. -/
def Faithful (world : World) : Prop :=
  ∀ id, world.flow id = world.catalog.load .standard id

theorem load_congr {catalog catalog' : Catalog} {registry : Registry}
    (h : catalog'.definitions.get? id = catalog.definitions.get? id) :
    catalog'.load registry id = catalog.load registry id := by
  unfold Catalog.load
  rw [h]

theorem flow_of_loaded {graph : Graph} (h : world.catalog.loaded.get? id = some graph) :
    world.flow id = .ok graph := by
  change (world.catalog.get world.registry id).1 = .ok graph
  rw [Catalog.get_fst, h]

theorem flow_of_unloaded (h : world.catalog.loaded.get? id = none) :
    world.flow id = world.catalog.load world.registry id := by
  change (world.catalog.get world.registry id).1 = world.catalog.load world.registry id
  rw [Catalog.get_fst, h]

/-- An order that leaves the flows alone leaves every flow what it is. -/
theorem Faithful.carryOut {order : Order} (h : world.Faithful) (hworld : world.Ready)
    (hflows : order.keepsFlows = true) : (world.carryOut order).Faithful := by
  have hdefinitions : (world.carryOut order).catalog.definitions = world.catalog.definitions := by
    rcases carryOut_cases hworld.toUndisturbed order with ⟨α, operation, heq⟩ | ⟨defined, rfl⟩
    · rw [heq]
      exact (world.onward_obey operation).definitions
    · cases hflows
  intro id
  rw [(carryOut_deed hworld hflows).flow, h id]
  exact (load_congr (by rw [hdefinitions])).symm

/-- Whatever is loaded after flows were forgotten or defined was loaded before. -/
theorem loaded_before {order : Order} {graph : Graph} (hworld : world.Ready)
    (hflows : order.keepsFlows = false)
    (h : (world.carryOut order).catalog.loaded.get? id = some graph) :
    world.catalog.loaded.get? id = some graph := by
  cases order with
  | invalidate forgotten =>
      rw [carryOut, Engine.smooth_invalidateFlow forgotten 0 _ hworld.toUndisturbed] at h
      exact Fields.get?_of_filter (· != forgotten) h
  | define defined => exact h
  | _ => simp [Order.keepsFlows] at hflows

/-! ## Runs after steady orders -/

theorem catalog_persist (world : World) (run : Run) :
    (world.persist run).catalog = world.catalog := by
  unfold persist
  split
  · unfold awaiting
    dsimp only
    split <;> split <;> rfl
  · rfl

/-- A drive leaves its run in flows that it was in, or that are loaded when it is over. -/
theorem Drives.within {P : FlowId → Prop} {order : Order} {leg : Drive.Leg}
    (h : world.Drives order leg)
    (hloaded : ∀ id, (world.carryOut order).catalog.loaded.has id = true → P id)
    (hruns : ∀ run ∈ world.store.runs, run.Within P) :
    ∀ run ∈ (world.carryOut order).store.runs, run.Within P := by
  have hgoes : Drive.Course world.bounds leg.phase leg.world leg.run leg.world' leg.run' := h.goes
  -- What is loaded when the drive stops is loaded when its run has been persisted.
  have hafter (id : FlowId) (hid : leg.world'.catalog.loaded.has id = true) : P id := by
    apply hloaded
    rw [h.done, catalog_persist]
    exact hid
  have hrun : leg.run.Within P := by
    cases h with
    | @begin request graph node first second run look place course done =>
        have hfirst : (world.look request.flow).2.catalog.loaded.has request.flow = true :=
          loaded_look (flow_of_look look)
        rw [look] at hfirst
        refine Run.within_iff.mpr ⟨?_, by simp [Run.fresh, Run.ofLevel]⟩
        exact hafter _ (hgoes.remembers _ hfirst)
    | resume wakes stored accepted timely look course done =>
        exact hruns _ (Store.mem_of_find? stored)
  intro other hother
  rw [h.done, (later_persist leg.run').store] at hother
  rcases Store.mem_put hother with rfl | hother
  · exact hgoes.within hafter hrun
  · rw [hgoes.later.store, h.outset.2.1] at hother
    exact hruns other hother

theorem Endings.within {P : FlowId → Prop} {world' : World} (h : world.Endings world')
    (hruns : ∀ run ∈ world.store.runs, run.Within P) :
    ∀ run ∈ world'.store.runs, run.Within P := by
  induction h with
  | refl => exact hruns
  | @tail first second _ ending ih =>
      obtain @⟨ended, kind, message, stored, unended, words⟩ := ending
      obtain ⟨earlier, hlater, heq⟩ := first.terminate_eq ended kind message
      rw [heq]
      intro run hrun
      rcases Store.mem_put hrun with rfl | hrun
      · have hflow := (Run.unwind_ended kind message first.bounds.now ended.toLevel
          ended.nested).1.flow
        refine Run.within_iff.mpr ⟨?_, by simp [Run.terminate, Run.ofLevel]⟩
        exact hflow ▸ (Run.within_iff.mp (ih ended (Store.mem_of_find? stored))).1
      · exact ih run (hlater.store ▸ hrun)

/-- Whatever is ordered, the stored runs are in flows that they were in before, or that are loaded
when it is done. -/
theorem within_carryOut {P : FlowId → Prop} {order : Order} (hworld : world.Ready)
    (hloaded : ∀ id, (world.carryOut order).catalog.loaded.has id = true → P id)
    (hruns : ∀ run ∈ world.store.runs, run.Within P) :
    ∀ run ∈ (world.carryOut order).store.runs, run.Within P := by
  cases hflows : order.keepsFlows with
  | false =>
      rw [(carryOut_flows hworld hflows).1]
      exact hruns
  | true =>
      rcases carryOut_drives hworld hflows with ⟨leg, hdrives⟩ | hstill | hendings
      · exact hdrives.within hloaded hruns
      · rw [hstill.store]
        exact hruns
      · exact hendings.within hruns

theorem bounds_carryOut {order : Order} (hworld : world.Ready) :
    (world.carryOut order).bounds = world.bounds := by
  rcases carryOut_cases hworld.toUndisturbed order with ⟨α, operation, heq⟩ | ⟨defined, rfl⟩
  · rw [heq]
    exact (world.onward_obey operation).bounds
  · rfl

/-- What is known of a world after orders that change no definition of a flow that was loaded. -/
structure Kept (settings : Settings) (world : World) (orders : List (Instant × Order)) :
    Prop where
  faithful : (world.after orders).Faithful
  shaped : (world.after orders).Shaped (world.after orders).flow settings
  familiar : ∀ run ∈ (world.after orders).store.runs, run.Within (world.Familiar orders)

/-- A flow that was loaded at some time is the same after the next order. -/
theorem Kept.flow (h : Kept settings world orders) (hsteady : world.Steady (orders ++ [order]))
    (hfaithful : (world.after (orders ++ [order])).Faithful)
    (hfamiliar : world.Familiar orders id) :
    (world.after (orders ++ [order])).flow id = (world.after orders).flow id := by
  rw [hfaithful, h.faithful, load_congr (hsteady.definition hfamiliar)]

/-- What is forgotten or defined makes no difference to what would be loaded from a definition. -/
theorem Kept.faithful_snoc (h : Kept settings world orders) (hworld : world.Ready)
    (hloads : world.Loads) (hsteady : world.Steady (orders ++ [order])) :
    (world.after (orders ++ [order])).Faithful := by
  have hready := ready_due hworld orders order
  cases hflows : order.2.keepsFlows with
  | true =>
      have hfaithful : (world.due orders order).Faithful := h.faithful
      rw [after_snoc]
      exact hfaithful.carryOut hready hflows
  | false =>
      intro id
      have hregistry : (world.after (orders ++ [order])).registry = .standard :=
        (hloads.after hworld _).registry
      cases hloaded : (world.after (orders ++ [order])).catalog.loaded.get? id with
      | none => rw [flow_of_unloaded hloaded, hregistry]
      | some graph =>
          have hbefore : (world.due orders order).catalog.loaded.get? id = some graph := by
            rw [after_snoc] at hloaded
            exact loaded_before hready hflows hloaded
          have hflow : (world.after orders).flow id = .ok graph := flow_of_loaded hbefore
          have hhas : (world.due orders order).catalog.loaded.has id = true := by
            simp [Fields.has, hbefore]
          rw [flow_of_loaded hloaded, load_congr (hsteady.definition (familiar_of_loaded hhas)),
            ← h.faithful, hflow]

theorem Kept.familiar_snoc (h : Kept settings world orders) (hworld : world.Ready) :
    ∀ run ∈ (world.after (orders ++ [order])).store.runs,
      run.Within (world.Familiar (orders ++ [order])) := by
  rw [after_snoc]
  apply within_carryOut (P := world.Familiar (orders ++ [order])) (ready_due hworld orders order)
  · intro id hid
    rw [← after_snoc] at hid
    exact familiar_of_loaded hid
  · exact fun run hrun level hlevel => (h.familiar run hrun level hlevel).snoc order

/-- Every stored run keeps its shape, whether flows are changed or runs are. -/
theorem Kept.shaped_snoc (h : Kept settings world orders) (hworld : world.Ready)
    (hsteady : world.Steady (orders ++ [order]))
    (hfaithful : (world.after (orders ++ [order])).Faithful) :
    (world.after (orders ++ [order])).Shaped (world.after (orders ++ [order])).flow settings := by
  have hready := ready_due hworld orders order
  have hdue : (world.due orders order).Shaped (world.after orders).flow settings :=
    h.shaped.atTime order.1
  cases hflows : order.2.keepsFlows with
  | true =>
      have hflow : (world.after (orders ++ [order])).flow = (world.after orders).flow := by
        rw [after_snoc]
        exact (carryOut_deed hready hflows).flow
      rw [hflow, after_snoc]
      exact hdue.moves (carryOut_moves hready hflows)
  | false =>
      have hstore : (world.after (orders ++ [order])).store = (world.after orders).store := by
        rw [after_snoc]
        exact (carryOut_flows hready hflows).1
      refine ⟨rfl, ?_, fun run hrun => ?_⟩
      · rw [after_snoc, bounds_carryOut hready]
        exact hdue.limits
      · rw [hstore] at hrun
        obtain ⟨hparent, hdepth, hsettled⟩ := h.shaped.runs run hrun
        refine ⟨hparent, hdepth, hsettled.of_same fun level hlevel => ?_⟩
        exact h.flow hsteady hfaithful (h.familiar run hrun level hlevel)

section

variable (settings : Settings) (now : Instant) (definitions : List Flow)
  (send : Ledger → String → Message → Except DispatchError String)
  (assign : Ledger → String → String → Except AssignmentError Unit) (supply : Supply)

/-- Whatever was ordered in a world that was opened with nothing but flows, and as long as no
definition changes once its flow has been loaded, the stored runs are in shape. -/
theorem Steady.kept (h : (opened settings now definitions send assign supply).Steady orders) :
    Kept settings (opened settings now definitions send assign supply) orders := by
  have hready := ready_opened settings now definitions send assign supply
  have hloads := loads_opened settings now definitions send assign supply
  induction orders using List.reverseRecOn with
  | nil =>
      refine ⟨fun id => flow_of_unloaded rfl, ⟨rfl, rfl, ?_⟩, ?_⟩
      · simp [opened]
      · simp [opened]
  | append_singleton orders order ih =>
      have hkept := ih h.before
      have hfaithful := hkept.faithful_snoc hready hloads h
      exact ⟨hfaithful, hkept.shaped_snoc hready h hfaithful, hkept.familiar_snoc hready⟩

/-- Whatever was ordered, all flows are of standard nodes. -/
theorem standard_after (orders : List (Instant × Order)) {id : FlowId} {graph : Graph}
    (h : ((opened settings now definitions send assign supply).after orders).flow id = .ok graph) :
    graph.Standard :=
  (((loads_opened settings now definitions send assign supply).after
    (ready_opened settings now definitions send assign supply) orders).sound h).standard

/-- What is so of a world that was opened with nothing but flows, and is kept by every allowed order
to a world whose runs are in shape, is so after all orders that change no definition of a flow that
was loaded.  Where only flows are changed it has to depend on the runs and the events alone. -/
theorem Steady.induction (may : Order → Prop) (Good : World → Prop)
    (flows : ∀ {world world' : World}, world'.store = world.store → world.Silent world' →
      Good world → Good world')
    (step : ∀ {world : World} {order : Order}, world.Ready → world.Loads →
      world.Shaped world.flow settings → may order → order.keepsFlows = true → Good world →
      Good (world.carryOut order))
    (hopened : Good (opened settings now definitions send assign supply))
    (h : (opened settings now definitions send assign supply).Steady orders)
    (hmay : ∀ order ∈ orders, may order.2) :
    Good ((opened settings now definitions send assign supply).after orders) := by
  have hready := ready_opened settings now definitions send assign supply
  have hloads := loads_opened settings now definitions send assign supply
  induction orders using List.reverseRecOn with
  | nil => exact hopened
  | append_singleton orders order ih =>
      have hgood := ih h.before fun other hother => hmay other (List.mem_append_left _ hother)
      have hshaped := (h.before.kept settings now definitions send assign supply).shaped
      have hdue := ready_due hready orders order
      have hgood' : Good ((opened settings now definitions send assign supply).due orders order) :=
        @flows (World.after _ orders) _ rfl ⟨rfl, rfl, rfl⟩ hgood
      rw [after_snoc]
      cases hflows : order.2.keepsFlows with
      | false =>
          obtain ⟨hstore, hsilent⟩ := carryOut_flows hdue hflows
          exact flows hstore hsilent hgood'
      | true =>
          have hloads' := hloads.after hready orders
          have hallowed := hmay order (List.mem_append_right _ (.head _))
          exact step hdue ⟨hloads'.registry, hloads'.loaded⟩ (hshaped.atTime order.1) hallowed
            hflows hgood'

end

/-- The flow of a paused run loads. -/
theorem Shaped.flow_of_paused (h : world.Shaped world.flow settings) {run : Run}
    (hrun : world.store.find? run.id = some run) (hpaused : run.status = .paused) :
    ∃ graph, world.flow run.flow = .ok graph := by
  obtain ⟨-, -, hsettled⟩ := h.runs run (Store.mem_of_find? hrun)
  cases hsettled with
  | waiting steps waits hangs =>
      obtain ⟨behaviour, graph, node, hgraph, -⟩ := hangs.stands
      exact ⟨graph, hgraph⟩
  | completed status => simp [status] at hpaused
  | failed status => simp [status] at hpaused

/-- The drive of an order begins with a run that fits. -/
theorem Drives.fits {order : Order} {leg : Drive.Leg} (h : world.Drives order leg)
    (hshaped : world.Shaped world.flow settings) : leg.Fits world.bounds world.flow := by
  refine ⟨h.outset.1, ?_⟩
  cases h with
  | begin look place course done => exact ⟨flow_of_look look, rfl, rfl⟩
  | resume wakes stored accepted timely look course done =>
      exact hshaped.fit stored accepted (flow_of_look look)

/-! ## A run that waits -/

/-- A run of the flow `outer` comes to wait for a reply in the flow `inner`, an alarm goes off for
which it does not wait, and the flow `inner` is forgotten. -/
def sampleOrders : List (Instant × Order) :=
  [(⟨0, 0⟩, .start { flow := "outer", contactId := "ann", vars := [("plan", .string "gold")] }),
    (⟨0, 0⟩, .fire ⟨⟨sample.supply.firstRun⟩, ⟨sample.supply.firstToken⟩, .resume⟩),
    (⟨0, 0⟩, .invalidate "inner")]

theorem steady_sample : sample.Steady sampleOrders :=
  steady_of_undefined (ready_opened ..) (by simp [sampleOrders, Order.defines])

theorem sample_waits :
    ∃ run suspension, run.id = ⟨sample.supply.firstRun⟩ ∧
      (sample.after sampleOrders).store.find? run.id = some run ∧ run.nested.length = 1 ∧
      Engine.checkResumable run (.reply "yes") = .ok suspension ∧
      suspension.isOverdue ⟨1, 0⟩ = false := by
  have hstored : ((sample.after sampleOrders).store.find? ⟨sample.supply.firstRun⟩).any
      (fun run => decide (run.nested.length = 1) && run.isPaused && run.suspension.any
        fun suspension => suspension.accepts (.reply "yes") && !suspension.isOverdue ⟨1, 0⟩) =
        true := by
    decide +kernel
  obtain ⟨run, hrun, htest⟩ := (Option.any_eq_true _ _).mp hstored
  simp only [Bool.and_eq_true, decide_eq_true_eq, Option.any_eq_true, Level.isPaused, beq_iff_eq,
    Bool.not_eq_true'] at htest
  obtain ⟨⟨hnested, hpaused⟩, suspension, hpending, haccepts, htimely⟩ := htest
  have hid : run.id = ⟨sample.supply.firstRun⟩ := Store.id_of_find? hrun
  exact ⟨run, suspension, hid, hid ▸ hrun, hnested,
    checkResumable_eq_ok.mpr ⟨hpaused, hpending, rfl, haccepts⟩, htimely⟩

end World

end Dialogue
