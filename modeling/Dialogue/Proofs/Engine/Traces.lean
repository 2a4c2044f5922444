import Dialogue.Proofs.Drive.Traces
import Dialogue.Proofs.Engine.Drives
import Dialogue.Proofs.Engine.Opening

/-!
# Every call leaves its trace

Orders to the engine step nodes only in the drives that they come to, so what the
collaborators are asked for while orders are carried out is what the nodes ask
for in these drives.  Whatever they answer, the traces on every level of every
stored run are those of the calls that its own nodes have made, one for one and in
order; and no trace goes while its level is there.
-/

namespace Dialogue.World

/-- What the nodes of all runs ask for while orders are carried out, each at a time. -/
inductive Asking : World → List (Instant × Order) → List Asked → Prop
  | done {world : World} : Asking world [] []
  /-- An order comes to a drive. -/
  | drive {world : World} {now order rest leg asked asked'}
      (drives : (world.atTime now).Drives order leg)
      (asks : leg.Asks (world.atTime now).bounds asked)
      (later : Asking ((world.atTime now).carryOut order) rest asked') :
      Asking world ((now, order) :: rest) (asked ++ asked')
  /-- No node is stepped where an order comes to no drive. -/
  | idle {world : World} {now order rest asked}
      (undriven : ∀ leg, ¬(world.atTime now).Drives order leg)
      (later : Asking ((world.atTime now).carryOut order) rest asked) :
      Asking world ((now, order) :: rest) asked

/-- There are calls to tell of for any orders. -/
theorem exists_asking (world : World) (orders : List (Instant × Order)) :
    ∃ asked, world.Asking orders asked := by
  induction orders generalizing world with
  | nil => exact ⟨[], .done⟩
  | cons order rest ih =>
      obtain ⟨asked, hlater⟩ := ih ((world.atTime order.1).carryOut order.2)
      by_cases hdrives : ∃ leg, (world.atTime order.1).Drives order.2 leg
      · obtain ⟨leg, hdrives⟩ := hdrives
        obtain ⟨within, hasks⟩ := Drive.Course.asks hdrives.goes
        exact ⟨_, .drive hdrives hasks hlater⟩
      · exact ⟨_, .idle (not_exists.mp hdrives) hlater⟩

variable {world world' : World} {order : Order} {leg : Drive.Leg} {past asked : List Asked}

/-! ## The ledger -/

theorem ledger_awaiting (run : Identifier) (suspension : Suspension) :
    (world.awaiting run suspension).ledger = world.ledger := by
  unfold awaiting
  cases suspension.resumeAt? <;> cases suspension.expiresAt <;> rfl

theorem ledger_persist (run : Run) : (world.persist run).ledger = world.ledger := by
  unfold persist
  split
  · exact ledger_awaiting _ _
  · rfl

theorem ledger_recovered (runs : List Run) : (world.recovered runs).ledger = world.ledger := by
  induction runs generalizing world with
  | nil => rfl
  | cons run rest ih =>
      unfold recovered
      cases run.suspension with
      | none => exact ih
      | some suspension => exact ih.trans (ledger_awaiting _ _)

theorem Endings.ledger (h : world.Endings world') : world'.ledger = world.ledger := by
  induction h with
  | refl => rfl
  | tail _ ending ih =>
      obtain ⟨stored, unended, words⟩ := ending
      exact ih

/-- An event for a run that does not come to a drive asks nobody for anything. -/
theorem ledger_resume (hworld : world.Ready) {id : Identifier} {event : Wakeup}
    (hwakes : order.wakeup? = some (id, event)) (hundriven : ∀ leg, ¬world.Drives order leg) :
    (world.obey (Engine.resume world.bounds id event)).2.ledger = world.ledger := by
  rw [Engine.obey_resume hworld.store]
  cases hrun : world.store.find? id with
  | none => rfl
  | some run =>
      obtain rfl := Store.id_of_find? hrun
      dsimp only [Engine.resumed]
      cases haccepted : Engine.checkResumable run event with
      | error e => rfl
      | ok suspension =>
          dsimp only
          by_cases hover : suspension.isOverdue world.bounds.now = true
          · rw [if_pos hover]
            rfl
          · rw [if_neg hover]
            cases hflow : world.flow run.flow with
            | error e => rw [look_of_error hflow]
            | ok graph =>
                obtain ⟨leg, hdrives, -⟩ :=
                  drives_resume hworld hwakes hrun haccepted (by simpa using hover) hflow
                exact absurd hdrives (hundriven leg)

/-- An order that comes to no drive asks nobody for anything. -/
theorem ledger_carryOut (hworld : world.Ready) (hundriven : ∀ leg, ¬world.Drives order leg) :
    (world.carryOut order).ledger = world.ledger := by
  have hworld' := hworld.toUndisturbed
  cases order with
  | start request =>
      rw [carryOut, Engine.smooth_start _ _ _ _ hworld', Engine.obey_start hworld.store]
      cases hflow : world.flow request.flow with
      | error e => rw [look_of_error hflow]
      | ok graph =>
          have hlook : world.look request.flow = (.ok graph, (world.look request.flow).2) :=
            Prod.ext hflow rfl
          rw [hlook]
          dsimp only
          cases hplace : Engine.startNode graph request with
          | error e => rfl
          | ok node =>
              obtain ⟨leg, hdrives⟩ := drives_start hworld hflow hplace
              exact absurd hdrives (hundriven leg)
  | resume id event =>
      rw [carryOut_wakeup hworld rfl]
      exact ledger_resume hworld rfl hundriven
  | cancel id =>
      rw [carryOut, Engine.smooth_cancel _ _ _ _ hworld', Engine.obey_cancel hworld.store]
      cases world.store.find? id with
      | none => rfl
      | some run =>
          dsimp only
          split <;> rfl
  | expire id =>
      rw [carryOut, Engine.expire, Engine.smooth_expireAt _ _ _ _ _ _ hworld']
      exact (endings_expireAt hworld.store id none _).ledger
  | expireDue time =>
      rw [carryOut, Engine.smooth_expireDue _ _ _ _ hworld', Engine.expireDue, obey_bind,
        Engine.attend_list hworld.store]
      exact (endings_expireEach hworld time _).ledger
  | fire firing =>
      obtain ⟨run, token, action⟩ := firing
      cases action with
      | resume =>
          rw [carryOut_wakeup hworld rfl]
          exact ledger_resume hworld rfl hundriven
      | expire =>
          rw [carryOut, Engine.smooth_handleFiring _ _ _ _ hworld',
            Engine.obey_handleFiring hworld.store]
          exact (endings_expireAt hworld.store _ _ _).ledger
  | recover =>
      rw [carryOut, Engine.smooth_recover _ _ hworld', Engine.obey_recover hworld.store]
      exact ledger_recovered _
  | invalidate flow =>
      rw [carryOut, Engine.smooth_invalidateFlow flow 0 _ hworld']
      rfl
  | define flow => rfl

/-! ## Traced worlds -/

/-- The calls that were made are all that the collaborators were asked, and the traces of every
stored run are theirs. -/
structure Traced (world : World) (asked : List Asked) : Prop where
  ledger : world.ledger.entries.reverse = asked.map Asked.delivery
  callers : ∀ one ∈ asked, world.Named one.level.id
  fits : ∀ one ∈ asked, one.Fits
  runs : ∀ run, world.store.find? run.id = some run →
    run.Traced asked world ∧ ∀ level ∈ run.levels, level.Here

/-- One run takes its place in the store, after calls that are not of other stored runs. -/
theorem Traced.replace {run' : Run} (h : world.Traced past) (hahead : world.Ahead world')
    (hledger : world.Asks (asked.map Asked.delivery) world') (hfits : ∀ one ∈ asked, one.Fits)
    (hrun' : run'.Traced (past ++ asked) world') (hhere : ∀ level ∈ run'.levels, level.Here)
    (hstore : ∀ id, world'.store.find? id =
      if run'.id = id then some run' else world.store.find? id)
    (hothers : ∀ other, world.store.find? other.id = some other → other.id ≠ run'.id →
      ∀ level ∈ other.levels, ∀ one ∈ asked, one.level.id ≠ level.id) :
    world'.Traced (past ++ asked) where
  ledger := by rw [hledger, h.ledger, List.map_append]
  callers := hrun'.callers
  fits := fun one hone => (List.mem_append.mp hone).elim (h.fits one) (hfits one)
  runs := by
    intro other hother
    rw [hstore] at hother
    split at hother
    · obtain rfl := Option.some.inj hother
      exact ⟨hrun', hhere⟩
    · next hne =>
      obtain ⟨htraced, hhere'⟩ := h.runs other hother
      refine ⟨⟨?_, htraced.apart, ?_, hrun'.callers⟩, hhere'⟩
      · exact fun level hlevel => hahead.named (htraced.named level hlevel)
      · intro level hlevel
        have hnone := tracesOf_of_ne (hothers other hother (Ne.symm hne) level hlevel)
        rw [tracesOf_append, hnone, List.append_nil]
        exact htraced.traces level hlevel

/-- Nothing is stored and nobody is asked anything. -/
theorem Traced.silent (h : world.Traced past) (hstore : world'.store = world.store)
    (hsilent : world.Silent world') (hledger : world'.ledger = world.ledger) :
    world'.Traced past where
  ledger := by
    rw [hledger]
    exact h.ledger
  callers := fun one hone => hsilent.ahead.named (h.callers one hone)
  fits := h.fits
  runs := by
    intro run hrun
    rw [hstore] at hrun
    obtain ⟨htraced, hhere⟩ := h.runs run hrun
    exact ⟨htraced.unmarked hsilent.ahead rfl (.of_history rfl rfl rfl), hhere⟩

/-- Terminations leave the traces of the runs themselves. -/
theorem Traced.ending (h : world.Traced past) (hending : Ending world world') :
    world'.Traced past := by
  cases hending with
  | @terminate run kind message stored unended words =>
      obtain ⟨htraced, hhere⟩ := h.runs run stored
      have hunmarked := Level.unmarked_unwind kind message world.bounds.now run.toLevel run.nested
      have hahead := ahead_terminate world run kind message
      have hended : (run.terminate kind message world.bounds.now).Traced (past ++ [])
          (world.terminate run kind message).2 := by
        rw [List.append_nil]
        exact (htraced.alone rfl hunmarked).unmarked hahead rfl (.of_history rfl rfl rfl)
      have hhere' : ∀ level ∈ (run.terminate kind message world.bounds.now).levels, level.Here :=
        List.forall_mem_singleton.mpr (hunmarked.here (hhere _ run.own_mem))
      have hstore := store_terminate world run kind message
      have hid : (run.terminate kind message world.bounds.now).id = run.id := hunmarked.id
      have htraced' : (world.terminate run kind message).2.Traced (past ++ []) :=
        h.replace hahead (asks_nothing rfl) (by simp) hended hhere' (hid ▸ hstore) (by simp)
      rwa [List.append_nil] at htraced'

theorem Traced.endings (h : world.Traced past) (hendings : world.Endings world') :
    world'.Traced past := by
  induction hendings with
  | refl => exact h
  | tail _ hending ih => exact ih.ending hending

/-- How a drive sets out: its run is traced, and has to do with no stored run but itself. -/
structure SetsOut (world : World) (past : List Asked) (leg : Drive.Leg) : Prop where
  ahead : world.Ahead leg.world
  ledger : leg.world.ledger = world.ledger
  traced : leg.run.Traced past leg.world
  placed : leg.phase.Placed leg.run
  reaches : ∀ id, leg.run.Reaches leg.world id → ¬world.Named id ∨
    ∃ run, world.store.find? run.id = some run ∧ run.id = leg.run.id ∧
      ∃ level ∈ run.levels, level.id = id

theorem Drives.setsOut (h : world.Drives order leg) (htraced : world.Traced past) :
    world.SetsOut past leg := by
  cases h with
  | @begin request graph node first second run look place course done =>
      have hstill := still_of_look look
      have hahead : world.Ahead first.newRun.2 :=
        hstill.toSilent.ahead.trans (ahead_newRun first)
      have hcallers : ∀ one ∈ past, first.Named one.level.id := fun one hone =>
        hstill.toSilent.ahead.named (htraced.callers one hone)
      refine ⟨hahead, ?_, .begun hcallers rfl rfl rfl, rfl, ?_⟩
      · obtain rfl := congrArg Prod.snd look
        rfl
      · rintro id (hnew | ⟨level, hlevel, rfl⟩)
        · exact .inl (mt hahead.named hnew)
        · obtain rfl := List.mem_singleton.mp hlevel
          exact .inl (mt hstill.toSilent.ahead.named first.newRun_not_named)
  | @resume _ run event suspension graph first second run' wakes stored accepted timely look course
      done =>
      have hstill := (still_of_look look).trans (still_unalarmed run.id)
      obtain ⟨hrun, hhere⟩ := htraced.runs run stored
      refine ⟨hstill.toSilent.ahead, ?_, ?_, hhere, ?_⟩
      · obtain rfl := congrArg Prod.snd look
        rfl
      · exact hrun.unmarked hstill.toSilent.ahead rfl (.of_history rfl rfl rfl)
      · rintro id (hnew | hlevel)
        · exact .inl (mt hstill.toSilent.ahead.named hnew)
        · exact .inr ⟨run, stored, rfl, hlevel⟩

/-- The calls of a drive leave their traces on the levels that made them, and nowhere else. -/
theorem Traced.drives (h : world.Traced past) (hchronicled : world.Chronicled)
    (hdrives : world.Drives order leg) (hasks : leg.Asks world.bounds asked) :
    (world.carryOut order).Traced (past ++ asked) := by
  have houtset := hdrives.setsOut h
  have hleg := hasks.traces past houtset.traced houtset.placed
  have hcourse : Drive.Course world.bounds leg.phase leg.world leg.run leg.world' leg.run' :=
    hdrives.goes
  have hsilent := silent_persist leg.world' leg.run'
  have hahead : world.Ahead (leg.world'.persist leg.run') :=
    houtset.ahead.trans (hcourse.ahead.trans hsilent.ahead)
  have hid : leg.run'.id = leg.run.id := hcourse.sameRun.id
  rw [hdrives.done]
  refine h.replace hahead ?_ hleg.fits ?_ hleg.here ?_ ?_
  · exact (asks_nothing houtset.ledger).trans (hasks.ledger.still (ledger_persist _))
  · exact hleg.traced.unmarked hsilent.ahead rfl (.of_history rfl rfl rfl)
  · intro id
    rw [store_persist, hcourse.later.store, hdrives.outset.2.1]
  · intro other hother hne level hlevel one hone heq
    have hlevel' := (h.runs other hother).1.named level hlevel
    rcases houtset.reaches _ (hleg.callers one hone) with hnew | ⟨run, hrun, hsame, mine⟩
    · exact hnew (heq ▸ hlevel')
    · obtain ⟨level', hmine, hid'⟩ := mine
      refine hchronicled.apart run other hrun hother ?_ level.id
        ⟨level', hmine, .inl (hid'.trans heq)⟩ ⟨level, hlevel, .inl rfl⟩
      rw [hsame, ← hid]
      exact hne.symm

/-- An order that comes to no drive leaves the traces as they are. -/
theorem Traced.undriven (h : world.Traced past) (hworld : world.Ready)
    (hundriven : ∀ leg, ¬world.Drives order leg) : (world.carryOut order).Traced past := by
  have hledger := ledger_carryOut hworld hundriven
  cases hflows : order.keepsFlows with
  | false =>
      obtain ⟨hstore, hsilent⟩ := carryOut_flows hworld hflows
      exact h.silent hstore hsilent hledger
  | true =>
      rcases carryOut_drives hworld hflows with ⟨leg, hdrives⟩ | hstill | hendings
      · exact absurd hdrives (hundriven leg)
      · exact h.silent hstill.store hstill.toSilent hledger
      · exact h.endings hendings

theorem Traced.atTime (h : world.Traced past) (now : Instant) : (world.atTime now).Traced past :=
  h.silent rfl ⟨rfl, rfl, rfl⟩ rfl

/-- Whatever is ordered, the calls that are made leave their traces. -/
theorem Asking.traced {orders : List (Instant × Order)} (h : world.Asking orders asked)
    (hworld : world.Ready) (hchronicled : world.Chronicled) (htraced : world.Traced past) :
    (world.after orders).Traced (past ++ asked) := by
  induction h generalizing past with
  | done =>
      rw [List.append_nil]
      exact htraced
  | @drive world now order rest leg asked asked' drives asks later ih =>
      have hready := hworld.atTime now
      have hchronicled' := hchronicled.atTime now
      rw [← List.append_assoc]
      exact ih (hready.carryOut order) (hchronicled'.carryOut hready order).1
        ((htraced.atTime now).drives hchronicled' drives asks)
  | @idle world now order rest asked undriven later ih =>
      have hready := hworld.atTime now
      exact ih (hready.carryOut order) ((hchronicled.atTime now).carryOut hready order).1
        ((htraced.atTime now).undriven hready undriven)

theorem traced_openedWith (registry : Registry) (settings : Settings) (start : Instant)
    (definitions : List Flow) (send : Ledger → String → Message → Except DispatchError String)
    (assign : Ledger → String → String → Except AssignmentError Unit) (supply : Supply) :
    (openedWith registry settings start definitions send assign supply).Traced [] where
  ledger := rfl
  callers := by simp
  fits := by simp
  runs := by simp [find?_openedWith]

/-- An assignment that a node may ask for is to a queue whose name is not blank. -/
theorem not_blank_of_fits {one : Asked} (h : one.Fits) {contactId queue : String}
    {result : Except AssignmentError Unit}
    (hdelivery : one.delivery = .assigned contactId queue result) :
    (Text.trim queue).isEmpty = false := by
  obtain ⟨around, behaviour, level, part, delivery⟩ := one
  obtain rfl : delivery = _ := hdelivery
  cases (show Behaviour.Makes around level behaviour part _ from h) with
  | queue hqueue => exact hqueue

/-- The calls to the collaborators and the traces of all stored runs are the same. -/
structure Traces (world : World) (asked : List Asked) : Prop where
  /-- The collaborators were asked for what the nodes have asked for, and for nothing else. -/
  ledger : world.ledger.entries.reverse = asked.map Asked.delivery
  /-- What is asked for belongs to the node that asks, and to the part that it asks about. -/
  fits : ∀ one ∈ asked, one.Fits
  queues : ∀ contactId queue result, .assigned contactId queue result ∈ world.ledger.entries →
    (Text.trim queue).isEmpty = false
  /-- The notes about calls on a level are those that the calls of its own nodes leave, each on the
  visit in which it was made. -/
  traces : ∀ run, world.store.find? run.id = some run → ∀ level ∈ run.levels,
    level.history.traces = tracesOf asked level.id

theorem Traced.complete (h : world.Traced asked) : world.Traces asked where
  ledger := h.ledger
  fits := h.fits
  queues := by
    intro contactId queue result hmem
    rw [← List.mem_reverse, h.ledger] at hmem
    obtain ⟨one, hone, hdelivery⟩ := List.mem_map.mp hmem
    exact not_blank_of_fits (h.fits one hone) hdelivery
  traces := fun run hrun level hlevel => (h.runs run hrun).1.traces level hlevel

/-- Whatever was ordered in a world that was opened with nothing but flows, and whatever the
collaborators answer, every level of every stored run, outermost or nested, has one note for each
call of its own nodes, in the order of the calls: the identifier of a message or the complaint about
it with its part, the queue or the complaint about it.  Each stands on the visit in which the call
was made, no other note tells of a call, and nobody is ever handed to a queue with a blank name.
Whatever is ordered next, these notes stay as long as their level is there. -/
theorem every_call_leaves_its_trace (registry : Registry) (settings : Settings) (start : Instant)
    (definitions : List Flow) (send : Ledger → String → Message → Except DispatchError String)
    (assign : Ledger → String → String → Except AssignmentError Unit) (supply : Supply)
    (orders : List (Instant × Order)) :
    let opened := openedWith registry settings start definitions send assign supply
    let world := opened.after orders
    (∃ asked, opened.Asking orders asked) ∧
      (∀ asked, opened.Asking orders asked → world.Traces asked) ∧
      ∀ later run run', world.store.find? run.id = some run →
        (world.after later).store.find? run'.id = some run' →
        ∀ level ∈ run.levels, ∀ level' ∈ run'.levels, level'.id = level.id →
          level.history.traces <+: level'.history.traces := by
  intro opened world
  have hready : opened.Ready :=
    ready_openedWith registry settings start definitions send assign supply
  have hchronicled : opened.Chronicled :=
    chronicled_openedWith registry settings start definitions send assign supply
  have htraced {asked : List Asked} (h : opened.Asking orders asked) : world.Traced asked :=
    h.traced hready hchronicled
      (traced_openedWith registry settings start definitions send assign supply)
  refine ⟨opened.exists_asking orders, fun asked h => (htraced h).complete, ?_⟩
  intro later run run' hrun hrun' level hlevel level' hlevel' hid
  obtain ⟨asked, hasked⟩ := opened.exists_asking orders
  obtain ⟨asked', hlater⟩ := world.exists_asking later
  have hchronicled' : world.Chronicled :=
    after_induction (fun _ => True) Chronicled (fun now h => h.atTime now)
      (fun hready _ h => (h.carryOut hready _).1) hready hchronicled fun _ _ => trivial
  have hbefore := htraced hasked
  have hafter := hlater.traced (ready_after hready orders) hchronicled' hbefore
  rw [(hbefore.runs run hrun).1.traces level hlevel,
    (hafter.runs run' hrun').1.traces level' hlevel', hid, tracesOf_append]
  exact List.prefix_append _ _

/-- A run that sends a part, waits, and sends another one has two notes on the visit. -/
theorem every_call_leaves_its_trace_sample :
    let opened := openedWith .standard {} ⟨0, 0⟩ [.unhurried "hello"] (fun _ _ _ => .ok "sent")
      (fun _ _ _ => .ok ()) {}
    let orders : List (Instant × Order) :=
      [(⟨0, 0⟩, .start { flow := "hello", contactId := "ann" }),
        (⟨1, 0⟩, .fire ⟨⟨opened.supply.firstRun⟩, ⟨opened.supply.firstToken⟩, .resume⟩)]
    ∃ asked run, opened.Asking orders asked ∧
      (opened.after orders).store.find? run.id = some run ∧
      run.history.traces =
        [⟨2, "greet", .dispatched 0 "sent"⟩, ⟨2, "greet", .dispatched 1 "sent"⟩] ∧
      tracesOf asked run.id = run.history.traces := by
  intro opened orders
  obtain ⟨⟨asked, hasked⟩, htraces, -⟩ := every_call_leaves_its_trace .standard {} ⟨0, 0⟩
    [.unhurried "hello"] (fun _ _ _ => .ok "sent") (fun _ _ _ => .ok ()) {} orders
  have hstored : ((opened.after orders).store.find? ⟨opened.supply.firstRun⟩).map
      (fun run => run.history.traces) =
        some [⟨2, "greet", .dispatched 0 "sent"⟩, ⟨2, "greet", .dispatched 1 "sent"⟩] := by
    decide +kernel
  obtain ⟨run, hrun, hnotes⟩ := Option.map_eq_some_iff.mp hstored
  have hid := Store.id_of_find? hrun
  have hfound : (opened.after orders).store.find? run.id = some run := hid ▸ hrun
  exact ⟨asked, run, hasked, hfound, hnotes,
    ((htraces asked hasked).traces run hfound _ run.own_mem).symm⟩

end Dialogue.World
