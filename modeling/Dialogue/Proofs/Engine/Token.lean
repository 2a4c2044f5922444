import Dialogue.Proofs.Engine.Order

/-!
# Tokens

The token of a suspension is given out in the drive that pauses the run, and
copied up from the innermost level to the outermost.  So no run ever comes back
to a suspension that it has left: whatever is ordered afterwards, events and
alarms with its token find nothing to do.
-/

namespace Dialogue

/-! ## The tokens of a drive -/

/-- A level pauses where its nested run has paused. -/
theorem Subflow.settle_suspend {flow : FlowId} {around : Surroundings} {run : Run}
    {suspension : Suspension}
    (h : (Subflow.settle flow around run).1 = .suspend suspension) :
    ∃ child, run.child? = some child ∧ child.suspension = some suspension := by
  unfold settle at h
  cases hchild : run.child? with
  | none => simp [hchild] at h
  | some child =>
      refine ⟨child, rfl, ?_⟩
      simp only [hchild] at h
      cases hstatus : child.status with
      | running => simp [hstatus] at h
      | completed =>
          simp only [hstatus] at h
          exact absurd h (around.advance_ne_suspend suspension)
      | failed => simp [hstatus] at h
      | paused =>
          cases hpending : child.suspension with
          | none => simp [hstatus, hpending] at h
          | some pending =>
              simp only [hstatus, hpending, Outcome.suspend.injEq] at h
              rw [h]

namespace Drive

variable {bounds : Bounds}

/-- The pause that is decided before a phase. -/
def Phase.Decides (phase : Phase) (suspension : Suspension) : Prop :=
  ∃ graph left, phase = .leave graph left (.suspend suspension)

theorem Phase.decides_leave {graph : Graph} {left : Nat} {outcome : Outcome}
    {suspension : Suspension} (h : (Phase.leave graph left outcome).Decides suspension) :
    outcome = .suspend suspension := by
  obtain ⟨graph', left', h⟩ := h
  exact (Phase.leave.inj h).2.2

/-- A drive pauses with a token of its own, unless its pause was decided before. -/
theorem Course.pending_issued {phase : Phase} {world world' : World} {run run' : Run}
    (h : Course bounds phase world run world' run') (suspension : Suspension)
    (hpending : run'.suspension = some suspension) :
    world.Issued world' suspension.token ∨ phase.Decides suspension := by
  have widen {first second third : World} {token : Identifier} (hlater : first.Later second)
      (hissued : second.Issued third token) : first.Issued third token :=
    hissued.widen hlater.firstToken hlater.tokens (Nat.le_refl _)
  have undecided {graph : Graph} {left : Nat} {outcome : Outcome} {suspension : Suspension}
      (houtcome : outcome ≠ .suspend suspension) :
      ¬(Phase.leave graph left outcome).Decides suspension :=
    fun hdecides => houtcome (Phase.decides_leave hdecides)
  have unending {phase : Phase} {suspension : Suspension}
      (hphase : ∀ graph left outcome, phase ≠ .leave graph left outcome) :
      ¬phase.Decides suspension :=
    fun ⟨graph, left, h⟩ => hphase graph left _ h
  induction h generalizing suspension with
  | enter rest ih =>
      rcases ih suspension hpending with hissued | hdecides
      · exact .inl (widen (World.later_emit _ _) hissued)
      · exact absurd hdecides (unending (by simp))
  | wake rest ih =>
      exact (ih suspension hpending).imp id fun hdecides =>
        absurd hdecides (unending (by simp))
  | exhausted => simp [Run.failing, Run.onLevel, Level.fail] at hpending
  | missing => simp [Run.failing, Run.onLevel, Level.fail] at hpending
  | @plain graph left payload world run node outcome stepped world₁ world' run' hnode hplain
      hstep rest ih =>
      have hkeeps := Behaviour.step_keepsVisit hplain (alone bounds node) world run payload
      have hlater := world.later_act (node.behaviour.step (alone bounds node) run payload)
      rw [hstep] at hkeeps hlater
      rcases ih suspension hpending with hissued | hdecides
      · exact .inl (widen hlater hissued)
      · have hissued := (hkeeps.pause suspension (Phase.decides_leave hdecides)).1
        exact .inl (hissued.widen rfl (Nat.le_refl _) rest.later.tokens)
  | tooDeep hnode hflow hdepth rest ih =>
      exact (ih suspension hpending).imp id fun hdecides =>
        absurd hdecides (undecided (by simp [Subflow.tooDeep]))
  | unloadable hnode hflow hdepth hlook rest ih =>
      exact (ih suspension hpending).imp id fun hdecides =>
        absurd hdecides (undecided (by simp))
  | @nest graph left world run node flow inner world₁ child world' run' hnode hflow hdepth hlook
      drive rest ihDrive ih =>
      have hlater := (world.later_look flow).trans (World.later_newRun _)
      rcases ih suspension hpending with hissued | hdecides
      · exact .inl (widen (hlater.trans drive.later) hissued)
      · obtain ⟨child', hchild, hcopied⟩ :=
          Subflow.settle_suspend (Phase.decides_leave hdecides)
        obtain rfl := Option.some.inj hchild
        rcases ihDrive suspension hcopied with hissued | hdecides
        · exact .inl (widen hlater
            (hissued.widen rfl (Nat.le_refl _) rest.later.tokens))
        · exact absurd hdecides (unending (by simp))
  | orphan hnode hflow hnested rest ih =>
      exact (ih suspension hpending).imp id fun hdecides =>
        absurd hdecides (undecided (by simp))
  | lost hnode hflow hnested hlook rest ih =>
      exact (ih suspension hpending).imp id fun hdecides =>
        absurd hdecides (undecided (by simp))
  | @pass graph left payload world run node flow child below inner world₁ ended world' run' hnode
      hflow hnested hlook drive rest ihDrive ih =>
      have hlater := world.later_look child.flow
      rcases ih suspension hpending with hissued | hdecides
      · exact .inl (widen (hlater.trans drive.later) hissued)
      · obtain ⟨child', hchild, hcopied⟩ :=
          Subflow.settle_suspend (Phase.decides_leave hdecides)
        obtain rfl := Option.some.inj hchild
        rcases ihDrive suspension hcopied with hissued | hdecides
        · exact .inl (widen hlater
            (hissued.widen rfl (Nat.le_refl _) rest.later.tokens))
        · exact absurd hdecides (unending (by simp))
  | go hnext rest ih =>
      rcases ih suspension hpending with hissued | hdecides
      · exact .inl (widen ((World.later_emit _ _).trans (World.later_emit _ _)) hissued)
      · exact absurd hdecides (unending (by simp))
  | astray => simp [Run.failing, Run.onLevel, Level.fail] at hpending
  | complete => simp [Run.onLevel, Level.complete] at hpending
  | suspend =>
      simp only [Run.onLevel, Level.suspend, Option.some.injEq] at hpending
      exact .inr ⟨_, _, by rw [hpending]⟩
  | fail => simp [Run.failing, Run.onLevel, Level.fail] at hpending

/-- A drive of a level pauses with a token of its own. -/
theorem Course.level_issued {graph : Graph} {payload : Option Payload} {world world' : World}
    {run run' : Run} (h : Course bounds (.level graph payload) world run world' run')
    (suspension : Suspension) (hpending : run'.suspension = some suspension) :
    world.Issued world' suspension.token := by
  rcases h.pending_issued suspension hpending with hissued | ⟨_, _, hphase⟩
  · exact hissued
  · simp at hphase

end Drive

/-! ## The tokens of stored runs -/

namespace World

variable {world world' : World} {id token : Identifier}

/-- A token that has been given out. -/
def Known (world : World) (token : Identifier) : Prop :=
  ∃ n, n < world.supply.tokens ∧ token = ⟨world.supply.firstToken + n⟩

theorem Issued.known (h : world.Issued world' token)
    (hfirst : world'.supply.firstToken = world.supply.firstToken) : world'.Known token := by
  obtain ⟨n, -, hlt, rfl⟩ := h
  exact ⟨n, hlt, by rw [hfirst]⟩

/-- A token is given out once. -/
theorem Issued.not_known (h : world.Issued world' token) : ¬world.Known token := by
  obtain ⟨n, hle, -, rfl⟩ := h
  rintro ⟨m, hlt, heq⟩
  have : world.supply.firstToken + n = world.supply.firstToken + m := congrArg Identifier.bits heq
  omega

/-- A run is in a suspension with a token. -/
def Awaits (world : World) (id token : Identifier) : Prop :=
  ∃ run suspension, world.store.find? id = some run ∧ run.suspension = some suspension ∧
    suspension.token = token

theorem awaits_iff : world.Awaits id token ↔
    ((world.store.find? id).bind fun run => run.suspension).map Suspension.token =
      some token := by
  constructor
  · rintro ⟨run, suspension, hrun, hpending, rfl⟩
    simp [hrun, hpending]
  · intro h
    obtain ⟨suspension, hsuspension, htoken⟩ := Option.map_eq_some_iff.mp h
    obtain ⟨run, hrun, hpending⟩ := Option.bind_eq_some_iff.mp hsuspension
    exact ⟨run, suspension, hrun, hpending, htoken⟩

instance : Decidable (world.Awaits id token) := decidable_of_iff _ awaits_iff.symm

/-- A run has left the suspension that a token was given out for. -/
def Spent (world : World) (id token : Identifier) : Prop :=
  world.Known token ∧ (world.store.find? id).isSome ∧ ¬world.Awaits id token

/-- Every stored run is in a suspension whose token has been given out, if it is in one. -/
def Tracked (world : World) : Prop := ∀ id token, world.Awaits id token → world.Known token

/-- Between two worlds every stored run has kept its suspension or has left it, and may have got
into one with a token that is new. -/
structure Renews (before after : World) : Prop where
  firstToken : after.supply.firstToken = before.supply.firstToken
  tokens : before.supply.tokens ≤ after.supply.tokens
  stays : ∀ id, (before.store.find? id).isSome → (after.store.find? id).isSome
  awaits : ∀ id token, after.Awaits id token →
    before.Awaits id token ∨ before.Issued after token

theorem Renews.refl (world : World) : world.Renews world :=
  ⟨rfl, Nat.le_refl _, fun _ h => h, fun _ _ h => .inl h⟩

theorem Renews.trans {first second third : World} (h : first.Renews second)
    (h' : second.Renews third) : first.Renews third where
  firstToken := h'.firstToken.trans h.firstToken
  tokens := Nat.le_trans h.tokens h'.tokens
  stays := fun id hid => h'.stays id (h.stays id hid)
  awaits := by
    intro id token hawaits
    rcases h'.awaits id token hawaits with hawaits | hissued
    · rcases h.awaits id token hawaits with hawaits | hissued
      · exact .inl hawaits
      · exact .inr (hissued.widen rfl (Nat.le_refl _) h'.tokens)
    · exact .inr (hissued.widen h.firstToken h.tokens (Nat.le_refl _))

/-- Where the store stays as it is, and no token is taken back. -/
theorem Renews.of_store (hstore : world'.store = world.store)
    (hfirst : world'.supply.firstToken = world.supply.firstToken)
    (htokens : world.supply.tokens ≤ world'.supply.tokens) : world.Renews world' where
  firstToken := hfirst
  tokens := htokens
  stays := fun id hid => hstore ▸ hid
  awaits := by
    intro id token hawaits
    unfold Awaits at hawaits ⊢
    rw [hstore] at hawaits
    exact .inl hawaits

theorem Later.renews (h : world.Later world') : world.Renews world' :=
  .of_store h.store h.firstToken h.tokens

/-- A run is kept whose suspension, if it is in one, has a new token. -/
theorem Later.renews_keep (h : world.Later world') {run : Run}
    (hissued : ∀ suspension, run.suspension = some suspension →
      world.Issued world' suspension.token) : world.Renews (world'.keep run) where
  firstToken := h.firstToken
  tokens := h.tokens
  stays := by
    intro other hother
    change ((world'.store.put run).find? other).isSome
    rw [Store.find?_put, h.store]
    split
    · rfl
    · exact hother
  awaits := by
    rintro other token ⟨found, suspension, hfound, hpending, rfl⟩
    change (world'.store.put run).find? other = some found at hfound
    rw [Store.find?_put, h.store] at hfound
    split at hfound
    · obtain rfl := Option.some.inj hfound
      exact .inr (hissued suspension hpending)
    · exact .inl ⟨found, suspension, hfound, hpending, rfl⟩

theorem Move.renews (h : Move world world') : world.Renews world' := by
  have driven {first second : World} {bounds : Bounds} {graph : Graph}
      {payload : Option Payload} {run run' : Run} (later : world.Later first)
      (drive : Drive.Course bounds (.level graph payload) first run second run') :
      world.Renews (second.persist run') := by
    refine ((later.trans drive.later).renews_keep ?_).trans (later_persist run').renews
    intro suspension hpending
    exact (drive.level_issued suspension hpending).widen later.firstToken later.tokens
      (Nat.le_refl _)
  cases h with
  | rest later => exact later.renews
  | begin flow later drive => exact driven later drive
  | resume stored accepted flow later drive => exact driven later drive
  | @terminate run kind message stored unended =>
      obtain ⟨earlier, hlater, heq⟩ := world.terminate_eq run kind message
      rw [heq]
      refine hlater.renews_keep ?_
      intro suspension hpending
      have hnone : (run.terminate kind message world.bounds.now).suspension = none := by
        unfold Run.terminate
        cases run.nested <;> rfl
      simp [hnone] at hpending

theorem Moves.renews (h : world.Moves world') : world.Renews world' := by
  induction h with
  | refl => exact .refl _
  | tail _ hmove ih => exact ih.trans hmove.renews

/-- No order brings a run back to a suspension. -/
theorem renews_carryOut (hworld : world.Ready) (order : Order) :
    world.Renews (world.carryOut order) := by
  cases hflows : order.keepsFlows with
  | true => exact (carryOut_moves hworld hflows).renews
  | false =>
      cases order with
      | invalidate flow =>
          rw [carryOut, Engine.smooth_invalidateFlow flow 0 _ hworld.toUndisturbed]
          exact .of_store rfl rfl (Nat.le_refl _)
      | define flow => exact .of_store rfl rfl (Nat.le_refl _)
      | _ => simp [Order.keepsFlows] at hflows

theorem renews_after (hworld : world.Ready) (orders : List (Instant × Order)) :
    world.Renews (world.after orders) := by
  induction orders generalizing world with
  | nil => exact .refl _
  | cons order rest ih =>
      have hready := hworld.atTime order.1
      have hhere : world.Renews (world.atTime order.1) :=
        .of_store rfl rfl (Nat.le_refl _)
      exact (hhere.trans (renews_carryOut hready order.2)).trans
        (ih (hready.carryOut order.2))

theorem Known.renews (h : world.Known token) (hrenews : world.Renews world') :
    world'.Known token := by
  obtain ⟨n, hlt, rfl⟩ := h
  exact ⟨n, Nat.lt_of_lt_of_le hlt hrenews.tokens, by rw [hrenews.firstToken]⟩

theorem Tracked.renews (h : world.Tracked) (hrenews : world.Renews world') :
    world'.Tracked := by
  intro id token hawaits
  rcases hrenews.awaits id token hawaits with hawaits | hissued
  · exact (h id token hawaits).renews hrenews
  · exact hissued.known hrenews.firstToken

/-- What is spent stays spent. -/
theorem Spent.renews (h : world.Spent id token) (hrenews : world.Renews world') :
    world'.Spent id token := by
  obtain ⟨hknown, hfound, hoff⟩ := h
  refine ⟨hknown.renews hrenews, hrenews.stays id hfound, fun hawaits => ?_⟩
  rcases hrenews.awaits id token hawaits with hawaits | hissued
  · exact hoff hawaits
  · exact hissued.not_known hknown

/-! ## What comes late -/

/-- An event with a token that the run does not wait for is stale. -/
theorem checkResumable_stale {run : Run} {event : Wakeup} (htoken : event.token = some token)
    (hoff : ∀ suspension, run.suspension = some suspension → suspension.token ≠ token) :
    ∃ reason, Engine.checkResumable run event = .error (.stale run.id reason) := by
  unfold Engine.checkResumable
  dsimp only
  split
  · exact ⟨_, rfl⟩
  · cases hpending : run.suspension with
    | none => exact ⟨_, rfl⟩
    | some suspension =>
        have hother : event.token.any (· != suspension.token) = true := by
          simpa [htoken] using (hoff suspension hpending).symm
        dsimp only
        rw [if_pos hother]
        exact ⟨_, rfl⟩

/-- Resuming with a spent token finds the run elsewhere and changes nothing. -/
theorem Spent.resume (h : world.Spent id token) (hworld : world.Ready) (who : Ticket)
    {event : Wakeup} (htoken : event.token = some token) :
    ∃ reason, world.proceed who (Engine.resume world.bounds id event) =
      (.done (.error (.stale id reason)), world) := by
  obtain ⟨run, hrun⟩ := Option.isSome_iff_exists.mp h.2.1
  obtain rfl := Store.id_of_find? hrun
  have hoff : ∀ suspension, run.suspension = some suspension → suspension.token ≠ token :=
    fun suspension hpending heq => h.2.2 ⟨run, suspension, hrun, hpending, heq⟩
  obtain ⟨reason, hstale⟩ := checkResumable_stale htoken hoff
  refine ⟨reason, ?_⟩
  rw [Engine.smooth_resume _ _ _ who _ hworld.toUndisturbed, Engine.obey_resume hworld.store,
    hrun]
  simp only [Engine.resumed, hstale]

/-- An alarm with a spent token does nothing. -/
theorem Spent.fire (h : world.Spent id token) (hworld : world.Ready) (who : Ticket)
    (action : TimerAction) :
    world.proceed who (Engine.handleFiring world.bounds ⟨id, token, action⟩) =
      (.done (), world) := by
  rw [Engine.smooth_handleFiring _ _ who _ hworld.toUndisturbed,
    Engine.obey_handleFiring hworld.store]
  cases action with
  | resume =>
      have htoken : (Wakeup.timer token).token = some token := rfl
      obtain ⟨reason, hresume⟩ := h.resume hworld who htoken
      rw [Engine.smooth_resume _ _ _ who _ hworld.toUndisturbed] at hresume
      exact congrArg (Prod.mk _) (congrArg Prod.snd hresume)
  | expire =>
      obtain ⟨run, hrun⟩ := Option.isSome_iff_exists.mp h.2.1
      have hdue : Engine.isDue run (some token) world.bounds.now = false := by
        unfold Engine.isDue
        split
        · next suspension _ hpending =>
          simpa using fun heq => h.2.2 ⟨run, suspension, hrun, hpending, heq⟩
        · rfl
      dsimp only
      rw [Engine.obey_expireAt hworld.store, hrun]
      simp [hdue]

/-- The order of a sequence with which a run leaves a suspension. -/
def LeavesAt (world : World) (orders : List (Instant × Order)) (id token : Identifier)
    (k : Nat) : Prop :=
  k < orders.length ∧ (world.after (orders.take k)).Awaits id token ∧
    ¬(world.after (orders.take (k + 1))).Awaits id token

/-- From the order with which a run leaves a suspension on, its token is spent. -/
theorem LeavesAt.spent (hworld : world.Ready) (htracked : world.Tracked)
    {orders : List (Instant × Order)} {j k : Nat} (h : world.LeavesAt orders id token j)
    (hjk : j < k) : (world.after (orders.take k)).Spent id token := by
  have hwhole (first second : Nat) (hle : first ≤ second) :
      (world.after (orders.take first)).Renews (world.after (orders.take second)) := by
    obtain ⟨more, rfl⟩ := Nat.exists_eq_add_of_le hle
    rw [List.take_add, after_append]
    exact renews_after (ready_after hworld _) _
  obtain ⟨hlt, hbefore, hafter⟩ := h
  have htracked' := htracked.renews (renews_after hworld (orders.take j))
  have hstep := hwhole j (j + 1) (Nat.le_succ j)
  have hspent : (world.after (orders.take (j + 1))).Spent id token := by
    refine ⟨(htracked' id token hbefore).renews hstep, hstep.stays id ?_, hafter⟩
    · obtain ⟨run, suspension, hrun, -⟩ := hbefore
      simp [hrun]
  exact hspent.renews (hwhole (j + 1) k hjk)

theorem tracked_opened (settings : Settings) (start : Instant) (definitions : List Flow)
    (send : Ledger → String → Message → Except DispatchError String)
    (assign : Ledger → String → String → Except AssignmentError Unit) (supply : Supply) :
    (opened settings start definitions send assign supply).Tracked := by
  rintro id token ⟨run, suspension, hrun, -⟩
  simp [opened, Store.find?] at hrun

/-- At most one order takes a run off a suspension.  After it every event with its token is stale,
every alarm with it does nothing, and both leave the whole world as it is. -/
theorem suspension_consumed_once (settings : Settings) (start : Instant)
    (definitions : List Flow) (send : Ledger → String → Message → Except DispatchError String)
    (assign : Ledger → String → String → Except AssignmentError Unit) (supply : Supply)
    (orders : List (Instant × Order)) (id token : Identifier) :
    let world := opened settings start definitions send assign supply
    (∀ j k, world.LeavesAt orders id token j → world.LeavesAt orders id token k → j = k) ∧
      ∀ j k, world.LeavesAt orders id token j → j < k → ∀ (now : Instant) (who : Ticket),
        let later := (world.after (orders.take k)).atTime now
        (∀ event : Wakeup, event.token = some token → ∃ reason,
          later.proceed who (Engine.resume later.bounds id event) =
            (.done (.error (.stale id reason)), later)) ∧
        ∀ action, later.proceed who (Engine.handleFiring later.bounds ⟨id, token, action⟩) =
          (.done (), later) := by
  intro world
  have hworld : world.Ready := ready_opened ..
  have htracked : world.Tracked := tracked_opened settings start definitions send assign supply
  have hspent {j k : Nat} (h : world.LeavesAt orders id token j) (hjk : j < k) :
      (world.after (orders.take k)).Spent id token := h.spent hworld htracked hjk
  constructor
  · intro j k hj hk
    rcases Nat.lt_trichotomy j k with hlt | heq | hlt
    · exact absurd hk.2.1 (hspent hj hlt).2.2
    · exact heq
    · exact absurd hj.2.1 (hspent hk hlt).2.2
  · intro j k hj hjk now who
    have hready := (ready_after hworld (orders.take k)).atTime now
    have hlate : ((world.after (orders.take k)).atTime now).Spent id token := hspent hj hjk
    exact ⟨fun event htoken => hlate.resume hready who htoken, hlate.fire hready who⟩

/-- A reply takes a run off its suspension; the same reply is stale afterwards. -/
theorem suspension_consumed_once_sample :
    let orders : List (Instant × Order) :=
      [(⟨0, 0⟩, .start { flow := "inner", contactId := "ann" }),
        (⟨1, 0⟩, .resume ⟨sample.supply.firstRun⟩ (.reply "yes"))]
    sample.LeavesAt orders ⟨sample.supply.firstRun⟩ ⟨sample.supply.firstToken⟩ 1 ∧
      ∃ reason, ((sample.after orders).atTime ⟨2, 0⟩).proceed 0
          (Engine.resume ((sample.after orders).atTime ⟨2, 0⟩).bounds ⟨sample.supply.firstRun⟩
            ⟨some ⟨sample.supply.firstToken⟩, .reply "yes"⟩) =
        (.done (.error (.stale ⟨sample.supply.firstRun⟩ reason)),
          (sample.after orders).atTime ⟨2, 0⟩) := by
  intro orders
  have hleaves :
      sample.LeavesAt orders ⟨sample.supply.firstRun⟩ ⟨sample.supply.firstToken⟩ 1 := by
    refine ⟨by decide, ?_, ?_⟩ <;> decide +kernel
  refine ⟨hleaves, ?_⟩
  exact ((suspension_consumed_once {} ⟨0, 0⟩ _ _ _ {} orders _ _).2 1 2 hleaves (by decide)
    ⟨2, 0⟩ 0).1 _ rfl

end World

end Dialogue
