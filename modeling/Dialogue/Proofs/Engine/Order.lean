import Mathlib.Logic.Relation
import Dialogue.Proofs.Engine.Effect
import Dialogue.Proofs.Engine.Smooth

/-!
# Orders to the engine

Everything that can be asked of the engine, and what a sequence of orders makes
of a world.  Whatever is ordered, only four things happen to the stored runs: a
run begins, a paused run is resumed, runs that have not ended are terminated, or
nothing that matters to them.  `carryOut_deed` says so once, with the order that
it is due to; `carryOut_moves` forgets the orders.  What holds of all stored runs
is then shown for these deeds or moves.
-/

namespace Dialogue

/-- What can be asked of the engine and of its source of flows. -/
inductive Order where
  /-- Start a run. -/
  | start (request : RunRequest)
  /-- Resume a run with an event. -/
  | resume (run : Identifier) (event : Wakeup)
  | cancel (run : Identifier)
  /-- Time out a run whose wait is over. -/
  | expire (run : Identifier)
  /-- Time out every run whose wait is over at an instant. -/
  | expireDue (time : Instant)
  /-- Act on an alarm, whether or not it was ever set. -/
  | fire (firing : Firing)
  /-- Set all alarms anew. -/
  | recover
  /-- Forget a loaded flow. -/
  | invalidate (flow : FlowId)
  /-- Put a flow into the source, in the place of one of the same name. -/
  | define (flow : Flow)

/-- Whether an order leaves the definitions of flows and the loaded flows alone. -/
def Order.keepsFlows : Order → Bool
  | .invalidate _ | .define _ => false
  | _ => true

/-- The run that an order may wake, with the event that it brings. -/
def Order.wakeup? : Order → Option (Identifier × Wakeup)
  | .resume run event => some (run, event)
  | .fire ⟨run, token, .resume⟩ => some (run, .timer token)
  | _ => none

/-- The run that a finished operation answers with. -/
def Operating.run? {ε : Type} : Operating (Except ε Run) → Option Run
  | .done (.ok run) => some run
  | _ => none

theorem Operating.eq_of_run? {ε : Type} {operation : Operating (Except ε Run)} {run : Run}
    (h : operation.run? = some run) : operation = .done (.ok run) := by
  unfold run? at h
  split at h
  · rw [Option.some.inj h]
  · simp at h

/-- A flow that asks a question and keeps the answer. -/
def Flow.asking (id : FlowId) : Flow where
  id := id
  nodes := [⟨"begin", "START", none, []⟩,
    ⟨"ask", "MENU", none, [("variable", .string "answer")]⟩]
  edges := [⟨"first", "begin", "ask", none⟩]

/-- A flow that runs another one. -/
def Flow.calling (id inner : FlowId) : Flow where
  id := id
  nodes := [⟨"begin", "START", none, []⟩,
    ⟨"call", "SUBFLOW", none, [("flow_id", .string inner)]⟩]
  edges := [⟨"first", "begin", "call", none⟩]

/-- A flow that is over at once. -/
def Flow.passing (id : FlowId) : Flow where
  id := id
  nodes := [⟨"begin", "START", none, []⟩]

/-- A flow that sends two messages with a wait between them, waits again, and asks a question. -/
def Flow.unhurried (id : FlowId) : Flow where
  id := id
  nodes := [⟨"begin", "START", none, []⟩,
    ⟨"greet", "CONTENT", none, [("parts", .array [
      .object [("delay_ms", .number 3), ("value", .string "hello")],
      .object [("value", .string "there")]])]⟩,
    ⟨"rest", "DELAY", none, []⟩,
    ⟨"ask", "MENU", none, [("variable", .string "answer")]⟩]
  edges := [⟨"first", "begin", "greet", none⟩, ⟨"second", "greet", "rest", none⟩,
    ⟨"third", "rest", "ask", none⟩]

namespace World

/-- A world with nothing in it but definitions of flows of the standard types, and collaborators
that make nobody wait. -/
def opened (settings : Settings) (now : Instant) (flows : List Flow)
    (send : Ledger → String → Message → Except DispatchError String)
    (assign : Ledger → String → String → Except AssignmentError Unit)
    (supply : Supply) : World where
  registry := .standard
  bounds := ⟨settings, now⟩
  collaborators := { send, assign }
  catalog := .ofFlows flows
  supply := supply

/-- A world with a flow `outer` that runs a flow `inner`, which asks a question. -/
def sample : World :=
  opened {} ⟨0, 0⟩ [.calling "outer" "inner", .asking "inner"] (fun _ _ _ => .ok "sent")
    (fun _ _ _ => .ok ()) {}

/-- The world at another time. -/
def atTime (world : World) (now : Instant) : World :=
  { world with bounds := { world.bounds with now } }

/-- The world after an order. -/
def carryOut (world : World) : Order → World
  | .start request => (world.proceed 0 (Engine.start world.bounds request)).2
  | .resume run event => (world.proceed 0 (Engine.resume world.bounds run event)).2
  | .cancel run => (world.proceed 0 (Engine.cancel world.bounds run)).2
  | .expire run => (world.proceed 0 (Engine.expire world.bounds run)).2
  | .expireDue time => (world.proceed 0 (Engine.expireDue world.bounds time)).2
  | .fire firing => (world.proceed 0 (Engine.handleFiring world.bounds firing)).2
  | .recover => (world.proceed 0 Engine.recover).2
  | .invalidate flow => (world.proceed 0 (Engine.invalidateFlow flow)).2
  | .define flow => { world with catalog := world.catalog.define flow }

/-- The world after orders, each at a time. -/
def after (world : World) (orders : List (Instant × Order)) : World :=
  orders.foldl (fun world order => (world.atTime order.1).carryOut order.2) world

@[simp] theorem after_nil (world : World) : world.after [] = world := rfl

@[simp] theorem after_cons (world : World) (order : Instant × Order)
    (orders : List (Instant × Order)) :
    world.after (order :: orders) = ((world.atTime order.1).carryOut order.2).after orders := rfl

theorem after_append (world : World) (first second : List (Instant × Order)) :
    world.after (first ++ second) = (world.after first).after second :=
  List.foldl_append

/-- Nobody has to wait, and the store is in order. -/
structure Ready (world : World) : Prop extends world.Undisturbed where
  store : world.store.outage = {}

theorem ready_opened (settings : Settings) (now : Instant) (flows : List Flow)
    (send : Ledger → String → Message → Except DispatchError String)
    (assign : Ledger → String → String → Except AssignmentError Unit) (supply : Supply) :
    (opened settings now flows send assign supply).Ready :=
  ⟨⟨fun _ => rfl, rfl⟩, rfl⟩

variable {world world' : World}

theorem Ready.onward (h : world.Ready) (honward : world.Onward world') : world'.Ready where
  toUndisturbed := h.toUndisturbed.onward honward
  store := by
    rw [honward.outage]
    exact h.store

theorem Ready.atTime (h : world.Ready) (now : Instant) : (world.atTime now).Ready :=
  ⟨⟨h.holds, h.free⟩, h.store⟩

/-- An order is an operation that runs to its end, or it defines a flow. -/
theorem carryOut_cases (hworld : world.Undisturbed) (order : Order) :
    (∃ (α : Type) (operation : Operating α), world.carryOut order = (world.obey operation).2) ∨
      ∃ flow, order = .define flow := by
  have hsmooth {α : Type} {operation : Operating α} (hop : operation.Smooth) :
      ∃ (α : Type) (done : Operating α),
        (world.proceed 0 operation).2 = (world.obey done).2 :=
    ⟨α, operation, by rw [hop 0 world hworld]⟩
  cases order with
  | start request => exact .inl (hsmooth (Engine.smooth_start _ _))
  | resume run event => exact .inl (hsmooth (Engine.smooth_resume _ _ _))
  | cancel run => exact .inl (hsmooth (Engine.smooth_cancel _ _))
  | expire run => exact .inl (hsmooth (Engine.smooth_expireAt _ _ _ _))
  | expireDue time => exact .inl (hsmooth (Engine.smooth_expireDue _ _))
  | fire firing => exact .inl (hsmooth (Engine.smooth_handleFiring _ _))
  | recover => exact .inl (hsmooth Engine.smooth_recover)
  | invalidate flow => exact .inl (hsmooth (Engine.smooth_invalidateFlow _))
  | define flow => exact .inr ⟨flow, rfl⟩

/-- An order leaves everybody ready for the next one. -/
theorem Ready.carryOut (h : world.Ready) (order : Order) : (world.carryOut order).Ready := by
  rcases carryOut_cases h.toUndisturbed order with ⟨α, operation, heq⟩ | ⟨flow, rfl⟩
  · rw [heq]
    exact h.onward (world.onward_obey operation)
  · exact ⟨⟨h.holds, h.free⟩, h.store⟩

/-- What every allowed order keeps, and time does not change, holds after all orders. -/
theorem after_induction (may : Order → Prop) (Good : World → Prop)
    (time : ∀ {world : World} (now : Instant), Good world → Good (world.atTime now))
    (step : ∀ {world : World} {order : Order}, world.Ready → may order → Good world →
      Good (world.carryOut order))
    (hworld : world.Ready) (h : Good world) {orders : List (Instant × Order)}
    (hmay : ∀ order ∈ orders, may order.2) : Good (world.after orders) := by
  induction orders generalizing world with
  | nil => exact h
  | cons order rest ih =>
      have hready := hworld.atTime order.1
      exact ih (hready.carryOut order.2) (step hready (hmay order (.head _)) (time order.1 h))
        fun other hother => hmay other (.tail _ hother)

theorem ready_after (hworld : world.Ready) (orders : List (Instant × Order)) :
    (world.after orders).Ready :=
  after_induction (fun _ => True) Ready (fun now h => h.atTime now)
    (fun hready _ _ => hready.carryOut _) hworld hworld fun _ _ => trivial

/-! ## Moves -/

/-- One thing that happens to the stored runs of a world. -/
inductive Move : World → World → Prop
  /-- Nothing happens to them. -/
  | rest {world world' : World} (later : world.Later world') : Move world world'
  /-- A run begins. -/
  | begin {world world₁ world₂ : World} {request graph id node run}
      (flow : world.flow request.flow = .ok graph) (later : world.Later world₁)
      (drive : Drive.Course world.bounds (.level graph none) world₁
        (Run.fresh id request node world.bounds.now) world₂ run) :
      Move world (world₂.persist run)
  /-- A run is resumed. -/
  | resume {world world₁ world₂ : World} {run event suspension graph run'}
      (stored : world.store.find? run.id = some run)
      (accepted : Engine.checkResumable run event = .ok suspension)
      (flow : world.flow run.flow = .ok graph) (later : world.Later world₁)
      (drive : Drive.Course world.bounds (.level graph (some event.payload)) world₁ run
        world₂ run') :
      Move world (world₂.persist run')
  /-- A run is terminated. -/
  | terminate {world : World} {run kind message}
      (stored : world.store.find? run.id = some run) (unended : run.isTerminal = false) :
      Move world (world.terminate run kind message).2

/-- Any number of moves. -/
abbrev Moves : World → World → Prop := Relation.ReflTransGen Move

theorem Moves.none : world.Moves world := .refl

theorem Move.moves (h : world.Move world') : world.Moves world' := .single h

/-- An event ends a suspension if the run is paused in it, the event is not for another one, and
it brings what the suspension waits for. -/
theorem checkResumable_eq_ok {run : Run} {event : Wakeup} {suspension : Suspension} :
    Engine.checkResumable run event = .ok suspension ↔
      run.status = .paused ∧ run.suspension = some suspension ∧
        event.token.any (· != suspension.token) = false ∧
        suspension.accepts event.payload = true := by
  unfold Engine.checkResumable Level.isPaused
  dsimp only
  by_cases hpaused : run.status = .paused
  · cases hpending : run.suspension with
    | none => simp [hpaused]
    | some pending =>
        cases htoken : event.token.any (· != pending.token) with
        | true =>
            simp only [hpaused, htoken, beq_self_eq_true, Bool.not_true, Bool.false_eq_true,
              if_false, if_true, reduceCtorEq, Option.some.injEq, true_and, false_iff]
            rintro ⟨rfl, hother, -⟩
            simp [htoken] at hother
        | false =>
            cases haccepts : pending.accepts event.payload with
            | true =>
                simp only [hpaused, htoken, haccepts, beq_self_eq_true, Bool.not_true,
                  Bool.false_eq_true, if_false, if_true, Except.ok.injEq, Option.some.injEq,
                  true_and]
                constructor
                · rintro rfl
                  exact ⟨rfl, htoken, haccepts⟩
                · exact fun h => h.1
            | false =>
                simp only [hpaused, htoken, haccepts, beq_self_eq_true, Bool.not_true,
                  Bool.false_eq_true, if_false, Option.some.injEq, true_and]
                constructor
                · intro h
                  split at h <;> cases h
                · rintro ⟨rfl, -, hother⟩
                  simp [haccepts] at hother
  · simp [hpaused]

/-- A run that can be resumed is paused. -/
theorem paused_of_checkResumable {run : Run} {event : Wakeup} {suspension : Suspension}
    (h : Engine.checkResumable run event = .ok suspension) :
    run.status = .paused ∧ run.suspension = some suspension := by
  obtain ⟨hpaused, hpending, -⟩ := checkResumable_eq_ok.mp h
  exact ⟨hpaused, hpending⟩

/-! ## Deeds -/

/-- A world after something that made no difference to runs and of which nobody was told. -/
structure Still (before after : World) : Prop extends before.Later after, before.Silent after

theorem Still.refl (world : World) : world.Still world := ⟨.refl _, .refl _⟩

theorem Still.trans {first second third : World} (h : first.Still second)
    (h' : second.Still third) : first.Still third :=
  ⟨h.toLater.trans h'.toLater, h.toSilent.trans h'.toSilent⟩

theorem still_look (world : World) (flow : FlowId) : world.Still (world.look flow).2 :=
  ⟨world.later_look flow, world.silent_look flow⟩

theorem still_unalarmed (run : Identifier) : world.Still (world.unalarmed run) :=
  ⟨later_unalarmed run, ⟨rfl, rfl, rfl⟩⟩

theorem still_awaiting (run : Identifier) (suspension : Suspension) :
    world.Still (world.awaiting run suspension) := by
  refine ⟨later_awaiting run suspension, ?_⟩
  unfold awaiting
  cases suspension.resumeAt? <;> cases suspension.expiresAt <;> exact ⟨rfl, rfl, rfl⟩

/-- What is persisted is kept, and nothing else happens. -/
theorem still_persist (run : Run) : (world.keep run).Still (world.persist run) := by
  unfold persist
  split
  · exact still_awaiting _ _
  · exact still_unalarmed _

theorem still_recovered (runs : List Run) : world.Still (world.recovered runs) := by
  induction runs generalizing world with
  | nil => exact .refl _
  | cons run rest ih =>
      unfold recovered
      cases run.suspension with
      | none => exact ih
      | some suspension => exact (still_awaiting _ _).trans ih

/-- One run is terminated: it is cancelled, or it has waited too long. -/
inductive Ending : World → World → Prop
  | terminate {world : World} {run kind message}
      (stored : world.store.find? run.id = some run) (unended : run.isTerminal = false)
      (words : kind = .cancelled ∧ message = "run cancelled" ∨
        kind = .timeout ∧ message = Engine.expiredMessage) :
      Ending world (world.terminate run kind message).2

/-- Runs are terminated one after the other. -/
abbrev Endings : World → World → Prop := Relation.ReflTransGen Ending

/-- What an order that leaves the flows alone makes of a world. -/
inductive Deed (world : World) : Order → World → Prop
  /-- Nothing happens to any run. -/
  | idle {order world'} (still : world.Still world') : Deed world order world'
  /-- A run begins. -/
  | begin {request graph node first second run}
      (flow : world.flow request.flow = .ok graph)
      (place : Engine.startNode graph request = .ok node) (still : world.Still first)
      (drive : Drive.Course world.bounds (.level graph none) first.newRun.2
        (Run.fresh first.newRun.1 request node world.bounds.now) second run) :
      Deed world (.start request) (second.persist run)
  /-- A run is resumed. -/
  | resume {order run event suspension graph first second run'}
      (wakes : order.wakeup? = some (run.id, event))
      (stored : world.store.find? run.id = some run)
      (accepted : Engine.checkResumable run event = .ok suspension)
      (flow : world.flow run.flow = .ok graph) (still : world.Still first)
      (drive : Drive.Course world.bounds (.level graph (some event.payload)) first run
        second run') :
      Deed world order (second.persist run')
  /-- Runs are terminated. -/
  | endings {order world'} (endings : world.Endings world') : Deed world order world'

/-- A start comes to nothing, or to a run that is driven from where the request says. -/
theorem obey_start_cases (hworld : world.Ready) (request : RunRequest) :
    (∃ e world', world.obey (Engine.start world.bounds request) = (.error e, world') ∧
      world.Still world') ∨
    ∃ graph node first second run, world.flow request.flow = .ok graph ∧
      Engine.startNode graph request = .ok node ∧ world.Still first ∧
      Drive.Course world.bounds (.level graph none) first.newRun.2
        (Run.fresh first.newRun.1 request node world.bounds.now) second run ∧
      world.obey (Engine.start world.bounds request) = (.ok run, second.persist run) := by
  rw [Engine.obey_start hworld.store]
  have hstill := world.still_look request.flow
  have hflow : world.flow request.flow = (world.look request.flow).1 := rfl
  revert hstill hflow
  rcases world.look request.flow with ⟨loaded, looked⟩
  intro hstill hflow
  cases loaded with
  | error e => exact .inl ⟨e, looked, rfl, hstill⟩
  | ok graph =>
      dsimp only
      cases hplace : Engine.startNode graph request with
      | error e => exact .inl ⟨e, looked, rfl, hstill⟩
      | ok node =>
          obtain ⟨second, run, drive, hdriven⟩ := looked.newRun.2.course_driven graph
            (Run.fresh looked.newRun.1 request node world.bounds.now) none
          rw [(hstill.toLater.trans (later_newRun looked)).bounds] at drive
          refine .inr ⟨graph, node, looked, second, run, hflow, hplace, hstill, drive, ?_⟩
          dsimp only
          rw [hdriven]

theorem deed_resumed {order : Order} {run : Run} {event : Wakeup}
    (hwakes : order.wakeup? = some (run.id, event))
    (hrun : world.store.find? run.id = some run) :
    world.Deed order (Engine.resumed world run event).2 := by
  unfold Engine.resumed
  cases haccepts : Engine.checkResumable run event with
  | error e => exact .idle (.refl _)
  | ok suspension =>
      dsimp only
      split
      · refine .endings (.single (.terminate hrun ?_ (.inr ⟨rfl, rfl⟩)))
        simp [Level.isTerminal, (paused_of_checkResumable haccepts).1, Status.isTerminal]
      · have hstill := world.still_look run.flow
        have hflow : world.flow run.flow = (world.look run.flow).1 := rfl
        revert hstill hflow
        rcases world.look run.flow with ⟨loaded, looked⟩
        intro hstill hflow
        cases loaded with
        | error e => exact .idle hstill
        | ok graph =>
            have hstill' := hstill.trans (still_unalarmed run.id)
            obtain ⟨after, run', drive, hdriven⟩ :=
              (looked.unalarmed run.id).course_driven graph run (some event.payload)
            rw [hstill'.bounds] at drive
            dsimp only
            rw [hdriven]
            exact .resume hwakes hrun haccepts hflow hstill' drive

theorem endings_expireAt (hstore : world.store.outage = {}) (id : Identifier)
    (token : Option Identifier) (time : Instant) :
    world.Endings (world.obey (Engine.expireAt world.bounds id token time)).2 := by
  rw [Engine.obey_expireAt hstore]
  cases hrun : world.store.find? id with
  | none => exact .refl
  | some run =>
      obtain rfl := Store.id_of_find? hrun
      dsimp only
      split
      · next hdue =>
        refine .single (.terminate hrun ?_ (.inr ⟨rfl, rfl⟩))
        cases hstatus : run.status with
        | paused => simp [Level.isTerminal, hstatus, Status.isTerminal]
        | _ => simp [Engine.isDue, hstatus] at hdue
      · exact .refl

/-- Timing several runs out terminates them one after the other. -/
theorem endings_expireEach (hworld : world.Ready) (time : Instant) (runs : List Run) :
    world.Endings (world.obey (Engine.expireEach world.bounds time runs)).2 := by
  induction runs generalizing world with
  | nil => exact .refl
  | cons run rest ih =>
      unfold Engine.expireEach
      split
      · rw [obey_bind]
        have hendings := endings_expireAt hworld.store run.id none time
        have honward := world.onward_obey (Engine.expireAt world.bounds run.id none time)
        revert hendings honward
        rcases world.obey (Engine.expireAt world.bounds run.id none time) with ⟨expired, next⟩
        intro hendings honward
        cases expired with
        | error e => exact hendings
        | ok expired =>
            dsimp only
            rw [obey_bind, ← honward.bounds]
            exact hendings.trans (ih (hworld.onward honward))
      · exact ih hworld

/-- Whatever is ordered that leaves the flows alone comes to a deed. -/
theorem carryOut_deed (hworld : world.Ready) {order : Order}
    (hflows : order.keepsFlows = true) : world.Deed order (world.carryOut order) := by
  have hworld' := hworld.toUndisturbed
  have hresume {order : Order} (id : Identifier) (event : Wakeup)
      (hwakes : order.wakeup? = some (id, event)) :
      world.Deed order (world.obey (Engine.resume world.bounds id event)).2 := by
    rw [Engine.obey_resume hworld.store]
    cases hrun : world.store.find? id with
    | none => exact .idle (.refl _)
    | some run =>
        obtain rfl := Store.id_of_find? hrun
        exact deed_resumed hwakes hrun
  cases order with
  | start request =>
      rw [carryOut, Engine.smooth_start _ _ _ _ hworld']
      obtain ⟨e, world', hfails, hstill⟩ |
        ⟨graph, node, first, second, run, hflow, hplace, hstill, drive, hdone⟩ :=
        obey_start_cases hworld request
      · rw [hfails]
        exact .idle hstill
      · rw [hdone]
        exact .begin hflow hplace hstill drive
  | resume id event =>
      rw [carryOut, Engine.smooth_resume _ _ _ _ _ hworld']
      exact hresume id event rfl
  | cancel id =>
      rw [carryOut, Engine.smooth_cancel _ _ _ _ hworld', Engine.obey_cancel hworld.store]
      cases hrun : world.store.find? id with
      | none => exact .idle (.refl _)
      | some run =>
          obtain rfl := Store.id_of_find? hrun
          dsimp only
          split
          · exact .idle (.refl _)
          · next hopen =>
            exact .endings (.single (.terminate hrun (by simpa using hopen) (.inl ⟨rfl, rfl⟩)))
  | expire id =>
      rw [carryOut, Engine.expire, Engine.smooth_expireAt _ _ _ _ _ _ hworld']
      exact .endings (endings_expireAt hworld.store id none _)
  | expireDue time =>
      rw [carryOut, Engine.smooth_expireDue _ _ _ _ hworld', Engine.expireDue, obey_bind,
        Engine.attend_list hworld.store]
      exact .endings (endings_expireEach hworld time _)
  | fire firing =>
      rw [carryOut, Engine.smooth_handleFiring _ _ _ _ hworld',
        Engine.obey_handleFiring hworld.store]
      obtain ⟨run, token, action⟩ := firing
      cases action with
      | resume => exact hresume run (.timer token) rfl
      | expire => exact .endings (endings_expireAt hworld.store _ _ _)
  | recover =>
      rw [carryOut, Engine.smooth_recover _ _ hworld', Engine.obey_recover hworld.store]
      exact .idle (still_recovered _)
  | invalidate flow => simp [Order.keepsFlows] at hflows
  | define flow => simp [Order.keepsFlows] at hflows

/-- A deed comes to moves. -/
theorem Deed.moves {order : Order} (h : world.Deed order world') : world.Moves world' := by
  cases h with
  | idle still => exact (Move.rest still.toLater).moves
  | begin flow place still drive =>
      exact (Move.begin flow (still.toLater.trans (later_newRun _)) drive).moves
  | resume wakes stored accepted flow still drive =>
      exact (Move.resume stored accepted flow still.toLater drive).moves
  | endings endings =>
      induction endings with
      | refl => exact .none
      | tail _ ending ih =>
          obtain ⟨stored, unended, -⟩ := ending
          exact ih.tail (.terminate stored unended)

/-- Whatever is ordered that leaves the flows alone comes to moves. -/
theorem carryOut_moves (hworld : world.Ready) {order : Order}
    (hflows : order.keepsFlows = true) : world.Moves (world.carryOut order) :=
  (carryOut_deed hworld hflows).moves

/-- No deed changes what the flows are. -/
theorem Deed.flow {order : Order} (h : world.Deed order world') : world'.flow = world.flow := by
  cases h with
  | idle still => exact still.flow
  | begin loaded place still drive =>
      exact ((later_persist _).flow.trans drive.later.flow).trans still.flow
  | resume wakes stored accepted loaded still drive =>
      exact ((later_persist _).flow.trans drive.later.flow).trans still.flow
  | endings endings =>
      induction endings with
      | refl => rfl
      | tail _ ending ih =>
          obtain ⟨stored, unended, words⟩ := ending
          exact ih

/-- Orders that leave the flows alone do not change what they are. -/
theorem flow_after (hworld : world.Ready) {flows : FlowId → Except FlowError Graph}
    (h : world.flow = flows) {orders : List (Instant × Order)}
    (hkeeps : ∀ order ∈ orders, order.2.keepsFlows = true) : (world.after orders).flow = flows :=
  after_induction (fun order => order.keepsFlows = true) (fun world => world.flow = flows)
    (fun _ h => h)
    (fun hready hkeeps h => (carryOut_deed hready hkeeps).flow.trans h) hworld h hkeeps

/-- An order that changes flows does nothing else. -/
theorem carryOut_flows (hworld : world.Ready) {order : Order}
    (hflows : order.keepsFlows = false) :
    (world.carryOut order).store = world.store ∧ world.Silent (world.carryOut order) := by
  cases order with
  | invalidate flow =>
      rw [carryOut, Engine.smooth_invalidateFlow flow 0 _ hworld.toUndisturbed]
      exact ⟨rfl, rfl, rfl, rfl⟩
  | define flow => exact ⟨rfl, rfl, rfl, rfl⟩
  | _ => simp [Order.keepsFlows] at hflows

end World

end Dialogue
