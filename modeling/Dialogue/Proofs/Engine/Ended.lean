import Dialogue.Proofs.Engine.Opening

/-!
# Runs that have ended

A run that has completed or failed stays as it is for good.  Whatever is ordered
afterwards, of this run or of others, it is found in the store unchanged, and the
observers are told nothing of it any more.

That nothing is told of it follows from the story alone: the tale of an ended run
is over before an order and after it, and what is over cannot go on.
-/

namespace Dialogue

namespace Tale

variable {before after : Tale}

/-- What is over before and after has not gone on. -/
theorem Over.of_spoken (hbefore : before.Over) (hafter : after.Over)
    (hspoken : before.Spoken after) : after = before := by
  rcases hspoken with hsame | ⟨told, last, rfl, -⟩
  · exact hsame
  · exfalso
    obtain ⟨earlier, final, rfl, -, hfinal⟩ := hbefore
    obtain ⟨earlier', final', hsplit, hopen, -⟩ := hafter
    have hrest : earlier ++ [final] ++ told = earlier' := by
      rw [← List.append_assoc] at hsplit
      exact (List.append_inj' hsplit rfl).1
    have hended : final ∈ earlier' := by
      rw [← hrest]
      simp
    simp [hopen final hended] at hfinal

end Tale

namespace World

variable {world world' : World} {run : Run}

/-- If the tale of a run has stayed the same, whatever was told was told of others. -/
theorem Ahead.told_of_others (h : world.Ahead world') {id : Identifier}
    (htale : world'.tale id = world.tale id) :
    ∃ told, world'.events = told ++ world.events ∧ ∀ event ∈ told, event.run ≠ id := by
  obtain ⟨told, htold⟩ := h.events
  refine ⟨told, htold, ?_⟩
  have hsplit : world'.tale id =
      world.tale id ++ (told.reverse.filter (·.run == id)).map fun e => (e.node, e.what) := by
    simp [World.tale, htold]
  rw [hsplit] at htale
  have hnone : told.reverse.filter (·.run == id) = [] := by simpa using htale
  intro event hevent hid
  have hmem : event ∈ told.reverse.filter (·.run == id) := by simp [hevent, hid]
  simp [hnone] at hmem

/-- No deed changes a stored run that has ended. -/
theorem Deed.find?_ended {order : Order} (h : world.Deed order world') (hnumbered : world.Numbered)
    (hrun : world.store.find? run.id = some run) (hended : run.isTerminal = true) :
    world'.store.find? run.id = some run := by
  cases h with
  | idle still =>
      rw [still.store]
      exact hrun
  | @begin request graph node first second begun flow place still drive =>
      have hnew : begun.id ≠ run.id := by
        have hid : begun.id = first.newRun.1 := drive.sameRun.id
        rw [hid]
        exact hnumbered.newRun_ne still (by simp [hrun])
      rw [store_begun still drive, if_neg hnew]
      exact hrun
  | @resume _ other event suspension graph first second other' wakes stored accepted flow still
      drive =>
      have hother : other.id ≠ run.id := by
        intro hid
        rw [hid, hrun] at stored
        obtain rfl := Option.some.inj stored
        have hpaused := (paused_of_checkResumable accepted).1
        simp [Level.isTerminal, hpaused, Status.isTerminal] at hended
      rw [store_resumed still drive, if_neg hother]
      exact hrun
  | endings endings =>
      induction endings with
      | refl => exact hrun
      | tail _ ending ih =>
          obtain @⟨other, kind, message, stored, unended, words⟩ := ending
          have hother : other.id ≠ run.id := by
            intro hid
            rw [hid, ih] at stored
            obtain rfl := Option.some.inj stored
            simp [hended] at unended
          rw [store_terminate, if_neg hother]
          exact ih

/-- A stored run that has ended, with what the observers were told of it. -/
structure Buried (run : Run) (tale : Tale) (world : World) : Prop where
  numbered : world.Numbered
  chronicled : world.Chronicled
  stored : world.store.find? run.id = some run
  told : world.tale run.id = tale

theorem Buried.carryOut {tale : Tale} (h : Buried run tale world) (hended : run.isTerminal = true)
    (hworld : world.Ready) (order : Order) : Buried run tale (world.carryOut order) := by
  obtain ⟨hchronicled, hadds⟩ := h.chronicled.carryOut hworld order
  have hstored : (world.carryOut order).store.find? run.id = some run := by
    cases hflows : order.keepsFlows with
    | true => exact (carryOut_deed hworld hflows).find?_ended h.numbered h.stored hended
    | false =>
        rw [(carryOut_flows hworld hflows).1]
        exact h.stored
  have hover := (h.chronicled.runs run h.stored).over hended
  have hover' := (hchronicled.runs run hstored).over hended
  exact ⟨h.numbered.carryOut hworld order, hchronicled, hstored,
    (hover.of_spoken hover' (hadds.spoken run.id)).trans h.told⟩

theorem Buried.after {tale : Tale} (h : Buried run tale world) (hended : run.isTerminal = true)
    (hworld : world.Ready) (orders : List (Instant × Order)) :
    Buried run tale (world.after orders) :=
  after_induction (fun _ => True) (Buried run tale)
    (fun now h => ⟨h.numbered, h.chronicled.atTime now, h.stored, h.told⟩)
    (fun hready _ h => h.carryOut hended hready _) hworld h fun _ _ => trivial

/-- Orders take nothing back that the observers were told. -/
theorem Chronicled.ahead_after (h : world.Chronicled) (hworld : world.Ready)
    (orders : List (Instant × Order)) : world.Ahead (world.after orders) := by
  induction orders generalizing world with
  | nil => exact .refl _
  | cons order rest ih =>
      have hready := hworld.atTime order.1
      obtain ⟨hchronicled, hadds⟩ := (h.atTime order.1).carryOut hready order.2
      have hhere : world.Ahead (world.atTime order.1) := ⟨⟨[], rfl⟩, Nat.le_refl _, rfl⟩
      exact (hhere.trans hadds.ahead).trans (ih hchronicled (hready.carryOut order.2))

/-- What the operations on a run come to, in a world where it has ended. -/
structure LeavesBe (world : World) (run : Run) : Prop where
  /-- Cancelling it gives it back as it is. -/
  cancel : ∀ who, world.proceed who (Engine.cancel world.bounds run.id) = (.done (.ok run), world)
  /-- No event resumes it. -/
  resume : ∀ who event, world.proceed who (Engine.resume world.bounds run.id event) =
    (.done (.error (.stale run.id ("run is " ++ run.status.title))), world)
  /-- It does not time out. -/
  expire : ∀ who, world.proceed who (Engine.expire world.bounds run.id) = (.done (.ok none), world)

theorem leavesBe_of_ended (hworld : world.Ready) (hrun : world.store.find? run.id = some run)
    (hended : run.isTerminal = true) : world.LeavesBe run where
  cancel := by
    intro who
    rw [Engine.smooth_cancel _ _ who _ hworld.toUndisturbed, Engine.obey_cancel hworld.store, hrun]
    simp [hended]
  resume := by
    intro who event
    have hawake : run.isPaused = false := by
      cases hstatus : run.status <;>
        simp_all [Level.isPaused, Level.isTerminal, Status.isTerminal]
    rw [Engine.smooth_resume _ _ _ who _ hworld.toUndisturbed, Engine.obey_resume hworld.store,
      hrun]
    simp [Engine.resumed, Engine.checkResumable, hawake]
  expire := by
    intro who
    have hdue : Engine.isDue run none world.bounds.now = false := by
      cases hstatus : run.status <;>
        simp_all [Engine.isDue, Level.isTerminal, Status.isTerminal]
    rw [Engine.expire, Engine.smooth_expireAt _ _ _ _ who _ hworld.toUndisturbed,
      Engine.obey_expireAt hworld.store, hrun]
    simp [hdue]

/-- A run that has ended stays in the store as it is, whatever is ordered afterwards; nobody is
told anything of it any more, and the operations on it change nothing at all. -/
theorem ended_run_is_frozen (registry : Registry) (settings : Settings) (start : Instant)
    (definitions : List Flow) (send : Ledger → String → Message → Except DispatchError String)
    (assign : Ledger → String → String → Except AssignmentError Unit) (supply : Supply)
    (earlier later : List (Instant × Order)) (run : Run) :
    let world :=
      (openedWith registry settings start definitions send assign supply).after earlier
    world.store.find? run.id = some run → run.isTerminal = true →
      (world.after later).store.find? run.id = some run ∧
      (∃ told, (world.after later).events = told ++ world.events ∧
        ∀ event ∈ told, event.run ≠ run.id) ∧
      ∀ now, ((world.after later).atTime now).LeavesBe run := by
  intro world hrun hended
  have hopened := ready_openedWith registry settings start definitions send assign supply
  have hready : world.Ready := ready_after hopened earlier
  have hchronicled : world.Chronicled :=
    after_induction (fun _ => True) Chronicled (fun now h => h.atTime now)
      (fun hready _ h => (h.carryOut hready _).1) hopened
      (chronicled_openedWith registry settings start definitions send assign supply)
      fun _ _ => trivial
  have hnumbered : world.Numbered :=
    Numbered.after (numbered_openedWith registry settings start definitions send assign supply)
      hopened earlier
  have hburied : Buried run (world.tale run.id) world := ⟨hnumbered, hchronicled, hrun, rfl⟩
  have hlater := hburied.after hended hready later
  refine ⟨hlater.stored, ?_, fun now => ?_⟩
  · exact (hchronicled.ahead_after hready later).told_of_others hlater.told
  · exact leavesBe_of_ended ((ready_after hready later).atTime now) hlater.stored hended

/-- A run that was answered stays completed, though it is resumed, cancelled and timed out, and its
flow is forgotten and another run begins. -/
theorem ended_run_is_frozen_sample :
    let id : Identifier := ⟨sample.supply.firstRun⟩
    let earlier : List (Instant × Order) :=
      [(⟨0, 0⟩, .start { flow := "inner", contactId := "ann" }),
        (⟨1, 0⟩, .resume id (.reply "yes"))]
    let later : List (Instant × Order) :=
      [(⟨2, 0⟩, .resume id (.reply "no")), (⟨3, 0⟩, .cancel id), (⟨4, 0⟩, .expireDue ⟨9, 0⟩),
        (⟨5, 0⟩, .fire ⟨id, ⟨sample.supply.firstToken⟩, .expire⟩), (⟨6, 0⟩, .invalidate "inner"),
        (⟨7, 0⟩, .start { flow := "outer", contactId := "ann" })]
    ∃ run, run.id = id ∧ (sample.after earlier).store.find? id = some run ∧
      run.isTerminal = true ∧
      ((sample.after earlier).after later).store.find? id = some run := by
  intro id earlier later
  have hended : ((sample.after earlier).store.find? id).map (·.isTerminal) = some true := by
    decide +kernel
  obtain ⟨run, hrun, hterminal⟩ := Option.map_eq_some_iff.mp hended
  have hid : run.id = id := Store.id_of_find? hrun
  refine ⟨run, hid, hrun, hterminal, ?_⟩
  rw [← hid] at hrun
  have hfrozen :=
    ended_run_is_frozen .standard {} ⟨0, 0⟩ _ _ _ {} earlier later run hrun hterminal
  rw [← hid]
  exact hfrozen.1

end World

end Dialogue
