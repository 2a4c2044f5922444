import Dialogue.Proofs.Drive.Writes
import Dialogue.Proofs.Engine.Flows
import Dialogue.Proofs.Engine.Numbering

/-!
# Who writes variables

Only an accepted answer writes: a reply or a selection changes at most the
variable of the menu at which the innermost run has waited.  Starts, timers,
cancellations and expiries hand the variables on as they are, through however
many nested runs.
-/

namespace Dialogue

/-- The variables of a request are a dictionary. -/
def Order.Proper : Order → Prop
  | .start request => request.vars.Ascending
  | _ => True

namespace Run

/-- What an order makes of a stored run: its variables stay as they are, unless it brings an answer
to a menu, which may keep it. -/
structure Carried (flows : Flows) (order : Order) (before after : Run) : Prop where
  same : before.toLevel.SameRun after.toLevel
  createdAt : after.createdAt = before.createdAt
  kept : ∀ name, before.innermost.vars.has name = true → after.innermost.vars.has name = true
  vars : after.innermost.vars = before.innermost.vars ∨
    ∃ event menu name answer, order = .resume before.id event ∧ event.payload.isTimer = false ∧
      before.status = .paused ∧ before.innermost.Stands flows (.menu menu) ∧
      menu.saveAs = some name ∧
      after.innermost.vars = before.innermost.vars.insert name (.string answer) ∧
      ∀ other, other ≠ name →
        after.innermost.vars.get? other = before.innermost.vars.get? other

/-- A run that a request has begun at an instant. -/
structure Begun (request : RunRequest) (now : Instant) (run : Run) : Prop where
  flow : run.flow = request.flow
  contactId : run.contactId = request.contactId
  contact : run.contact = request.contact
  root : run.parent = none ∧ run.depth = 0
  createdAt : run.createdAt = now
  vars : run.innermost.vars = request.vars

variable {flows : Flows} {order : Order} {run run' : Run}

theorem Carried.of_vars (hsame : run.toLevel.SameRun run'.toLevel)
    (hcreated : run'.createdAt = run.createdAt)
    (hvars : run'.innermost.vars = run.innermost.vars) : run.Carried flows order run' where
  same := hsame
  createdAt := hcreated
  kept := by
    rw [hvars]
    exact fun _ h => h
  vars := .inl hvars

theorem Carried.refl (run : Run) : run.Carried flows order run := .of_vars (.refl _) rfl rfl

/-- Nothing more is written. -/
theorem Carried.unwritten {run'' : Run} (h : run.Carried flows order run')
    (hsame : run'.toLevel.SameRun run''.toLevel) (hcreated : run''.createdAt = run'.createdAt)
    (hvars : run''.innermost.vars = run'.innermost.vars) : run.Carried flows order run'' where
  same := h.same.trans hsame
  createdAt := hcreated.trans h.createdAt
  kept := by
    rw [hvars]
    exact h.kept
  vars := by
    rw [hvars]
    exact h.vars

theorem Carried.ascending (h : run.Carried flows order run')
    (hvars : run.innermost.vars.Ascending) : run'.innermost.vars.Ascending := by
  rcases h.vars with hsame | ⟨event, menu, name, answer, -, -, -, -, -, hset, -⟩
  · rw [hsame]
    exact hvars
  · rw [hset]
    exact hvars.insert name _

/-- A run that was woken by an order has written what it was told to. -/
theorem Carried.of_writes {event : Wakeup} (hsame : run.toLevel.SameRun run'.toLevel)
    (hcreated : run'.createdAt = run.createdAt) (hwakes : order.wakeup? = some (run.id, event))
    (hpaused : run.status = .paused) (hwrites : run.Writes flows (some event.payload) run') :
    run.Carried flows order run' := by
  rcases hwrites with hvars | ⟨menu, name, answer, hstands, hname, hanswer, hvars⟩
  · exact .of_vars hsame hcreated hvars
  · have hpayload : event.payload.isTimer = false := by simpa using hanswer
    -- An alarm brings no answer, so the order is a resumption.
    have horder : order = .resume run.id event := by
      cases order with
      | resume id other =>
          obtain ⟨rfl, rfl⟩ := Prod.mk.inj (Option.some.inj hwakes)
          rfl
      | fire firing =>
          obtain ⟨id, token, action⟩ := firing
          cases action with
          | resume =>
              obtain ⟨rfl, rfl⟩ := Prod.mk.inj (Option.some.inj hwakes)
              simp [Wakeup.timer, Payload.isTimer] at hpayload
          | expire => simp [Order.wakeup?] at hwakes
      | _ => simp [Order.wakeup?] at hwakes
    refine ⟨hsame, hcreated, ?_, .inr ⟨event, menu, name, answer, horder, hpayload, hpaused,
      hstands, hname, hvars, ?_⟩⟩
    · intro other hother
      rw [hvars, Fields.has_insert, hother, Bool.or_true]
    · intro other hother
      rw [hvars, Fields.get?_insert, if_neg hother]

/-- Termination hands the variables of the innermost level up. -/
theorem unwind_vars {maxDepth : Nat} {suspension : Suspension} {level : Level}
    {below : List Level} (hhangs : level.Hangs flows maxDepth suspension below)
    (hvars : (below.getLast?.getD level).vars.Ascending) (kind : FailureKind) (message : String)
    (time : Instant) :
    (unwind kind message time level below).vars = (below.getLast?.getD level).vars := by
  induction hhangs with
  | stop stands pauses => rfl
  | @link outer inner below holds waits rest ih =>
      have hlast : ((inner :: below).getLast?.getD outer) = below.getLast?.getD inner := by
        rw [List.getLast?_cons]
        rfl
      rw [hlast] at hvars ⊢
      change (unwind kind message time inner below).vars.union outer.vars = _
      rw [holds.vars, ih hvars, Fields.union_nil hvars]

theorem unwind_createdAt (kind : FailureKind) (message : String) (time : Instant)
    (level : Level) (below : List Level) :
    (unwind kind message time level below).createdAt = level.createdAt := by
  cases below <;> rfl

end Run

namespace World

/-- A world whose stored runs are in shape, with dictionaries for variables. -/
structure Filled (flows : Flows) (settings : Settings) (world : World) : Prop where
  shaped : world.Shaped flows settings
  numbered : world.Numbered
  standard : ∀ id graph, flows id = .ok graph → graph.Standard
  vars : ∀ id run, world.store.find? id = some run → run.innermost.vars.Ascending

variable {flows : Flows} {settings : Settings} {world world' : World} {order : Order}
  {run run' : Run}

/-- Every stored run of a world is carried over to another one. -/
def Carries (flows : Flows) (order : Order) (before after : World) : Prop :=
  ∀ run, before.store.find? run.id = some run → ∃ run', after.store.find? run.id = some run' ∧
    run.Carried flows order run'

/-- A run takes its own place, and all others stay. -/
theorem Carries.replace (hrun : world.store.find? run.id = some run)
    (hcarried : run.Carried flows order run')
    (hstore : ∀ id, world'.store.find? id =
      if run.id = id then some run' else world.store.find? id) :
    Carries flows order world world' := by
  intro other hother
  rw [hstore]
  by_cases hid : run.id = other.id
  · rw [if_pos hid]
    rw [hid, hother] at hrun
    obtain rfl := Option.some.inj hrun
    exact ⟨run', rfl, hcarried⟩
  · rw [if_neg hid]
    exact ⟨other, hother, .refl _⟩

/-- A terminated run keeps its variables. -/
theorem Filled.terminate_vars (h : world.Filled flows settings)
    (stored : world.store.find? run.id = some run) (unended : run.isTerminal = false)
    (kind : FailureKind) (message : String) :
    (run.terminate kind message world.bounds.now).innermost.vars = run.innermost.vars := by
  obtain ⟨-, -, hsettled⟩ := h.shaped.runs run (Store.mem_of_find? stored)
  cases hsettled with
  | waiting steps waits hangs => exact Run.unwind_vars hangs (h.vars _ _ stored) _ _ _
  | completed status => simp [Level.isTerminal, status, Status.isTerminal] at unended
  | failed status => simp [Level.isTerminal, status, Status.isTerminal] at unended

theorem Filled.ending (h : world.Filled flows settings) (hending : Ending world world') :
    world'.Filled flows settings := by
  have hdeed : world.Deed .recover world' := .endings (.single hending)
  have hnumbered := h.numbered.deed hdeed
  obtain ⟨stored, unended, words⟩ := hending
  refine ⟨h.shaped.move (.terminate stored unended), hnumbered, h.standard, ?_⟩
  intro id other hother
  rw [store_terminate] at hother
  split at hother
  · obtain rfl := Option.some.inj hother
    rw [h.terminate_vars stored unended]
    exact h.vars _ _ stored
  · exact h.vars _ _ hother

theorem Filled.endings (h : world.Filled flows settings) (hendings : world.Endings world') :
    world'.Filled flows settings ∧ Carries flows order world world' := by
  induction hendings with
  | refl => exact ⟨h, fun run hrun => ⟨run, hrun, .refl _⟩⟩
  | tail _ hending ih =>
      obtain ⟨hfilled, hcarries⟩ := ih
      refine ⟨hfilled.ending hending, fun run hrun => ?_⟩
      obtain ⟨run', hrun', hcarried⟩ := hcarries run hrun
      obtain ⟨stored, unended, words⟩ := hending
      rw [store_terminate]
      split
      · next hid =>
        rw [hid, hrun'] at stored
        obtain rfl := Option.some.inj stored
        rw [← hid] at hrun'
        exact ⟨_, rfl, hcarried.unwritten (Run.unwind_ended _ _ _ _ _).1
          (Run.unwind_createdAt _ _ _ _ _) (hfilled.terminate_vars hrun' unended _ _)⟩
      · exact ⟨run', hrun', hcarried⟩

/-- Every deed carries the stored runs over. -/
theorem Deed.carries (hdeed : world.Deed order world') (h : world.Filled flows settings) :
    Carries flows order world world' := by
  cases hdeed with
  | idle still =>
      intro run hrun
      exact ⟨run, still.store ▸ hrun, .refl _⟩
  | @begin request graph node first second run flow place still drive =>
      intro other hother
      have hnew : run.id = first.newRun.1 := drive.sameRun.id
      have hne : run.id ≠ other.id := hnew ▸ h.numbered.newRun_ne still (by simp [hother])
      refine ⟨other, ?_, .refl _⟩
      rw [store_begun still drive, if_neg hne]
      exact hother
  | @resume _ run event suspension graph first second run' wakes stored accepted flow still
      drive =>
      have hwrites := drive.writes (still.flow.trans h.shaped.flow) h.standard
        (h.shaped.fit stored accepted flow) (h.vars _ _ stored)
      exact .replace stored (.of_writes drive.sameRun drive.createdAt wakes
        (paused_of_checkResumable accepted).1 hwrites) (store_resumed still drive)
  | endings endings => exact (h.endings endings).2

/-- A run that was not stored before was begun by the order. -/
theorem Deed.begun (hdeed : world.Deed order world') (h : world.Filled flows settings)
    (hproper : order.Proper) (hnew : world.store.find? run.id = none)
    (hrun : world'.store.find? run.id = some run) :
    ∃ request, order = .start request ∧ run.Begun request world.bounds.now := by
  cases hdeed with
  | idle still =>
      rw [still.store, hnew] at hrun
      cases hrun
  | @begin request graph node first second begun flow place still drive =>
      rw [store_begun still drive, hnew] at hrun
      split at hrun
      · obtain rfl := Option.some.inj hrun
        have hsame := drive.sameRun
        have hwrites := drive.writes (still.flow.trans h.shaped.flow) h.standard
          ⟨h.shaped.flow ▸ flow, rfl, rfl⟩ hproper
        exact ⟨request, rfl,
          { flow := hsame.flow, contactId := hsame.contactId, contact := hsame.contact
            root := ⟨hsame.parent, hsame.depth⟩, createdAt := drive.createdAt
            vars := hwrites.of_none }⟩
      · cases hrun
  | @resume _ resumed event suspension graph first second run' wakes stored accepted flow still
      drive =>
      rw [store_resumed still drive, hnew] at hrun
      split at hrun
      · next hid =>
        rw [hid, hnew] at stored
        cases stored
      · cases hrun
  | endings endings =>
      rw [endings.find? hnew] at hrun
      cases hrun

theorem Filled.deed (h : world.Filled flows settings) (hproper : order.Proper)
    (hdeed : world.Deed order world') : world'.Filled flows settings := by
  refine ⟨h.shaped.moves hdeed.moves, h.numbered.deed hdeed, h.standard, ?_⟩
  intro id run' hrun'
  obtain rfl := Store.id_of_find? hrun'
  cases hrun : world.store.find? run'.id with
  | none =>
      obtain ⟨request, rfl, hbegun⟩ := hdeed.begun h hproper hrun hrun'
      rw [hbegun.vars]
      exact hproper
  | some run =>
      have hid := Store.id_of_find? hrun
      rw [← hid] at hrun hrun'
      obtain ⟨kept, hkept, hcarried⟩ := hdeed.carries h run hrun
      obtain rfl := Option.some.inj (hrun'.symm.trans hkept)
      exact hcarried.ascending (h.vars _ _ hrun)

theorem Filled.atTime (h : world.Filled flows settings) (now : Instant) :
    (world.atTime now).Filled flows settings :=
  ⟨h.shaped.atTime now, h.numbered, h.standard, h.vars⟩

/-- Whatever was ordered in a world that was opened with nothing but flows, and as long as these
are left alone, the next order carries every stored run over: the outermost level stays the same
run, and of its variables it changes at most that of the menu which it brings an answer to.  A run
that was not there before has the variables of its request. -/
theorem only_answers_are_written (settings : Settings) (start : Instant)
    (definitions : List Flow) (send : Ledger → String → Message → Except DispatchError String)
    (assign : Ledger → String → String → Except AssignmentError Unit) (supply : Supply)
    (orders : List (Instant × Order))
    (hflows : ∀ order ∈ orders, order.2.keepsFlows = true ∧ order.2.Proper) (now : Instant)
    (order : Order) (horder : order.keepsFlows = true ∧ order.Proper) :
    let world := ((opened settings start definitions send assign supply).after orders).atTime now
    (∀ run, world.store.find? run.id = some run →
      ∃ run', (world.carryOut order).store.find? run.id = some run' ∧
        run.Carried world.flow order run') ∧
    ∀ run', (world.carryOut order).store.find? run'.id = some run' →
      world.store.find? run'.id = none →
      ∃ request, order = .start request ∧ run'.Begun request now := by
  intro world
  have hready := ready_opened settings start definitions send assign supply
  have hloads := loads_opened settings start definitions send assign supply
  have hopened : (opened settings start definitions send assign supply).Filled
      (opened settings start definitions send assign supply).flow settings :=
    ⟨⟨rfl, rfl, by simp [opened]⟩, numbered_opened _ _ _ _ _ _,
      fun _ _ h => (hloads.sound h).standard, by simp [opened, Store.find?]⟩
  have hafter := after_induction (fun order => order.keepsFlows = true ∧ order.Proper)
    (Filled (opened settings start definitions send assign supply).flow settings)
    (fun now h => h.atTime now)
    (fun hready horder h => h.deed horder.2 (carryOut_deed hready horder.1)) hready hopened hflows
  have hfilled : world.Filled (opened settings start definitions send assign supply).flow
      settings := hafter.atTime now
  have hdeed := carryOut_deed ((ready_after hready orders).atTime now) horder.1
  rw [← hfilled.shaped.flow] at hfilled
  exact ⟨hdeed.carries hfilled, fun run' hrun' hnew => hdeed.begun hfilled horder.2 hnew hrun'⟩

/-- A reply to the menu of a nested run is kept, next to what the run was begun with. -/
theorem only_answers_are_written_sample :
    let world := (sample.after [(⟨0, 0⟩, .start
      { flow := "outer", contactId := "ann", vars := [("plan", .string "gold")] })]).atTime ⟨1, 0⟩
    let order : Order := .resume ⟨sample.supply.firstRun⟩ (.reply "yes")
    ∃ run run', world.store.find? ⟨sample.supply.firstRun⟩ = some run ∧
      run.nested.length = 1 ∧
      (world.carryOut order).store.find? ⟨sample.supply.firstRun⟩ = some run' ∧
      run'.nested = [] ∧ run.Carried world.flow order run' ∧
      run'.vars.names = ["answer", "plan"] := by
  intro world order
  have hbefore : (world.store.find? ⟨sample.supply.firstRun⟩).any
      (fun run => decide (run.nested.length = 1)) = true := by decide +kernel
  have hafter : ((world.carryOut order).store.find? ⟨sample.supply.firstRun⟩).any
      (fun run => run.nested.isEmpty && run.vars.names == ["answer", "plan"]) = true := by
    decide +kernel
  obtain ⟨run, hrun, hnested⟩ := (Option.any_eq_true _ _).mp hbefore
  obtain ⟨run', hrun', hvars⟩ := (Option.any_eq_true _ _).mp hafter
  simp only [decide_eq_true_eq, Bool.and_eq_true, List.isEmpty_iff, beq_iff_eq] at hnested hvars
  have hid := Store.id_of_find? hrun
  have hproper : ∀ order ∈ [((⟨0, 0⟩ : Instant), Order.start
      { flow := "outer", contactId := "ann", vars := [("plan", .string "gold")] })],
      order.2.keepsFlows = true ∧ order.2.Proper := by
    simp [Order.keepsFlows, Order.Proper, Fields.Ascending]
  obtain ⟨kept, hkept, hcarried⟩ := (only_answers_are_written {} ⟨0, 0⟩ _ _ _ {} _ hproper
    ⟨1, 0⟩ order ⟨rfl, trivial⟩).1 run (hid ▸ hrun)
  have hsame : run' = kept := Option.some.inj (hrun'.symm.trans (hid ▸ hkept))
  exact ⟨run, run', hrun, hnested, hrun', hvars.1, hsame ▸ hcarried, hvars.2⟩

end World

end Dialogue
