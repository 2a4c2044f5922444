import Mathlib.Data.List.Nodup
import Dialogue.Proofs.Drive.Endings
import Dialogue.Proofs.Engine.Drives
import Dialogue.Proofs.Engine.Opening
import Dialogue.Proofs.Engine.Steady

/-!
# How nested runs end

A nested run is gone once it is no level of a stored run any more.  It was told
of its end if the event of the order that made it go was handed down to it; if
the order terminated the run around it, or the event got stuck on a level above,
the nested run was told to wait and nothing after that.

`Accounts` says what one drive or one termination means for the tales of all runs,
and `Accounted` what holds of them after any number of orders.
-/

namespace Dialogue

/-- What is over has come to its end. -/
theorem Tale.Over.not_open {tale : Tale} (h : tale.Over) : ¬tale.Open := by
  obtain ⟨earlier, last, rfl, -, hlast⟩ := h
  intro hopen
  have hnot := hopen last (by simp)
  rw [hlast] at hnot
  cases hnot

/-- The end of a run that is over was told as it is recorded. -/
theorem Tale.Over.status {tale : Tale} {status : Status} (h : tale.Over)
    (hbears : tale.Bears status) : tale.status? = some status := by
  refine hbears.resolve_right fun hpaused => ?_
  obtain ⟨earlier, ⟨node, what⟩, rfl, -, hend⟩ := h
  rw [Tale.status?_tell] at hpaused
  cases what <;> simp_all [Occurrence.status?, Occurrence.isEnd]

/-- In a chain that hangs together a payload reaches every level. -/
theorem Level.Hangs.reached {flows : Flows} {maxDepth steps : Nat} {suspension : Suspension}
    {level : Level} {below : List Level} (h : level.Hangs flows maxDepth suspension below)
    (hsteps : 0 < steps) : level.reached flows steps below = below := by
  induction h with
  | stop stands pauses => rfl
  | @link outer inner below holds waits rest ih =>
      obtain ⟨graph, node, hgraph, hnode, hflow⟩ := holds.stands
      obtain ⟨_, loaded, _, hloaded, -⟩ := rest.stands
      have hloads : (flows inner.flow).isOk = true := by rw [hloaded]; rfl
      rw [Level.reached, if_pos ⟨hsteps, Level.calls_eq_true hgraph hnode hflow, hloads⟩, ih]

theorem Level.Rests.halted {world : World} {level : Level} (h : level.Rests world) :
    (world.tale level.id).Halted := by
  obtain ⟨reason, hlast⟩ := h.last
  refine ⟨h.unended, ?_⟩
  rw [Tale.status?, hlast]
  rfl

/-- What a terminated run records besides is about runs that were nested in it. -/
theorem Run.records_of_unwind {kind : FailureKind} {message : String} {time : Instant}
    {level : Level} {below : List Level} {id : Identifier} {status : Status}
    (h : (unwind kind message time level below).Records id status) :
    level.Records id status ∨ ∃ inner ∈ below, inner.id = id := by
  cases below with
  | nil => exact .inl (Level.records_of_fail h)
  | cons child below =>
      rcases Level.records_of_absorb (Level.records_of_fail h) with ⟨rfl, -⟩ | hold
      · exact .inr ⟨child, .head _, (Run.unwind_ended kind message time child below).1.id.symm⟩
      · exact .inl hold

namespace World

variable {world world' : World} {run : Run} {id : Identifier} {order : Order}

/-- A run is a level of a stored one. -/
def Keeps (world : World) (id : Identifier) : Prop :=
  ∃ run, world.store.find? run.id = some run ∧ ∃ level ∈ run.levels, level.id = id

/-- An order wakes a run: it brings an event that the run accepts in time, and its flow loads. -/
def wakes (world : World) (order : Order) (run : Run) : Bool :=
  order.wakeup?.any fun (id, event) =>
    id == run.id &&
      (Engine.checkResumable run event).toOption.any (!·.isOverdue world.bounds.now) &&
      (world.flow run.flow).isOk

/-- The levels nested in a run that an order hands an event down to. -/
def reached (world : World) (order : Order) (run : Run) : List Level :=
  if world.wakes order run then
    run.toLevel.reached world.flow world.bounds.settings.maxSteps run.nested
  else []

/-- What becomes of runs and of what is told of them, where one run is driven or terminated. -/
structure Accounts (world world' : World) : Prop where
  /-- Nothing is told of who is gone. -/
  silent : ∀ id, world.Named id → ¬world.Keeps id → world'.tale id = world.tale id
  told : ∀ id, world'.tale id ≠ world.tale id → world'.Keeps id ∨ (world'.tale id).Over
  untold : ∀ id, world.Keeps id → world'.tale id = world.tale id →
    world'.Keeps id ∨ (world.tale id).Halted
  noted : ∀ run', world'.store.find? run'.id = some run' → ∀ level' ∈ run'.levels, ∀ id status,
    level'.Records id status →
    (∃ run, world.store.find? run.id = some run ∧ ∃ level ∈ run.levels, level.Records id status) ∨
      (world'.tale id).Bears status

theorem Accounts.of_silent (hstore : world'.store = world.store) (hsilent : world.Silent world') :
    world.Accounts world' where
  silent := fun id _ _ => tale_of_events hsilent.events id
  told := fun id htold => absurd (tale_of_events hsilent.events id) htold
  untold := by
    rintro id ⟨run, hrun, hlevel⟩ -
    exact .inl ⟨run, hstore ▸ hrun, hlevel⟩
  noted := fun run hrun level hlevel id status hnote =>
    .inl ⟨run, hstore ▸ hrun, level, hlevel, hnote⟩

/-- Who is kept is kept on where one run takes its place in the store, but for what was nested in
the run that was there. -/
theorem Keeps.replaced {run' : Run} (h : world.Keeps id)
    (hstore : ∀ id, world'.store.find? id =
      if run'.id = id then some run' else world.store.find? id) :
    world'.Keeps id ∨ ∃ run, world.store.find? run.id = some run ∧ run.id = run'.id ∧
      ∃ level ∈ run.nested, level.id = id := by
  obtain ⟨other, hother, level, hlevel, rfl⟩ := h
  by_cases hid : run'.id = other.id
  · rcases List.mem_cons.mp hlevel with rfl | hlevel
    · refine .inl ⟨run', by rw [hstore, if_pos rfl], _, run'.own_mem, hid⟩
    · exact .inr ⟨other, hother, hid.symm, level, hlevel, rfl⟩
  · exact .inl ⟨other, by rw [hstore, if_neg hid]; exact hother, level, hlevel, rfl⟩

theorem keeps_stored {run' : Run} (hstore : world'.store.find? run'.id = some run')
    {level : Level} (hlevel : level ∈ run'.levels) : world'.Keeps level.id :=
  ⟨run', hstore, level, hlevel, rfl⟩

/-- The drive of a new run or of a stored one that comes between two worlds. -/
structure Encloses (world : World) (leg : Drive.Leg) (world' : World) : Prop where
  goes : leg.Goes world.bounds
  flow : leg.world.flow = world.flow
  handsDown : leg.phase.HandsDown world.flow world.bounds.settings leg.run
  before : ∀ id, leg.world.tale id = world.tale id
  after : ∀ id, world'.tale id = leg.world'.tale id
  named : ∀ id, world.Named id → leg.world.Named id
  own : leg.world.Named leg.run.id
  store : ∀ id, world'.store.find? id =
    if leg.run'.id = id then some leg.run' else world.store.find? id
  outset : (∀ level ∈ leg.run.levels, ∀ id status, ¬level.Records id status) ∧
    leg.run.nested = [] ∧ ¬world.Named leg.run.id ∨
    world.store.find? leg.run.id = some leg.run

variable {leg : Drive.Leg}

theorem Drives.encloses (h : world.Drives order leg) (hnumbered : world.Numbered) :
    world.Encloses leg (world.carryOut order) := by
  obtain ⟨hflow, -, hevents⟩ := h.outset
  have hgoes := h.goes
  have hafter (id : Identifier) : (world.carryOut order).tale id = leg.world'.tale id := by
    rw [h.done]
    exact tale_of_events (silent_persist _ _).events id
  cases h with
  | @begin request graph node first second run look place course done =>
      have hstill := still_of_look look
      refine ⟨hgoes, hflow, trivial, tale_of_events hevents, hafter, ?_, ?_, ?_, .inl ?_⟩
      · exact fun id hid => (ahead_newRun first).named (hstill.toSilent.named_iff.mpr hid)
      · exact named_newRun_iff.mpr (.inl rfl)
      · rw [done]
        exact store_begun hstill course
      · refine ⟨?_, rfl, mt hstill.toSilent.named_iff.mpr first.newRun_not_named⟩
        rintro level hlevel id status ⟨flow, nodes, hnote⟩
        obtain rfl := List.mem_singleton.mp hlevel
        cases hnote
  | @resume _ run event suspension graph first second run' wakes stored accepted timely look course
      done =>
      have hstill := (still_of_look look).trans (still_unalarmed run.id)
      have hnamed (id : Identifier) (hid : world.Named id) :
          (first.unalarmed run.id).Named id := hstill.toSilent.named_iff.mpr hid
      refine ⟨hgoes, hflow, flow_of_look look, tale_of_events hevents, hafter, hnamed, ?_, ?_,
        .inr stored⟩
      · exact hnamed _ (hnumbered _ (by simp [stored]))
      · intro id
        rw [done, store_resumed hstill course, course.sameRun.id]

/-- Nothing is told of a run but the one that is driven, the levels that its payload reaches, and
runs that begin. -/
theorem Encloses.unreached (h : world.Encloses leg world') (hnamed : world.Named id)
    (hother : id ≠ leg.run.id)
    (hreached : ∀ level ∈ leg.phase.reached world.flow world.bounds.settings leg.run,
      level.id ≠ id) : world'.tale id = world.tale id := by
  have hgoes : Drive.Course world.bounds leg.phase leg.world leg.run leg.world' leg.run' := h.goes
  rw [h.after, hgoes.unreached h.flow h.handsDown (h.named id hnamed) hother hreached, h.before]

/-- Something is told of every level that the payload reaches. -/
theorem Encloses.reached_told (h : world.Encloses leg world') {level : Level}
    (hreached : level ∈ leg.phase.reached world.flow world.bounds.settings leg.run) :
    world'.tale level.id ≠ world.tale level.id := by
  have hgoes : Drive.Course world.bounds leg.phase leg.world leg.run leg.world' leg.run' := h.goes
  have hlonger := hgoes.reached_told h.flow h.handsDown level hreached
  rw [← h.after, h.before] at hlonger
  intro hsame
  rw [hsame] at hlonger
  exact Nat.lt_irrefl _ hlonger

theorem Encloses.others (h : world.Encloses leg world') (hnamed : world.Named id)
    (hothers : ∀ level ∈ leg.run.levels, level.id ≠ id) : world'.tale id = world.tale id :=
  h.unreached hnamed (hothers _ leg.run.own_mem).symm fun level hlevel =>
    hothers level (Run.nested_mem (Drive.Phase.reached_subset hlevel))

/-- Whoever something is told of is a level of the run that is driven, or new. -/
theorem Encloses.told_level (h : world.Encloses leg world')
    (htold : world'.tale id ≠ world.tale id) :
    ¬world.Named id ∨ ∃ level ∈ leg.run.levels, level.id = id := by
  by_contra hnot
  simp only [not_or, not_not, not_exists, not_and] at hnot
  exact htold (h.others hnot.1 hnot.2)

/-- A stored run of the same identifier as the run that is driven is that run. -/
theorem Encloses.stored (h : world.Encloses leg world') (hrun : world.store.find? run.id = some run)
    (hnumbered : world.Numbered) (hid : run.id = leg.run.id) : run = leg.run := by
  rcases h.outset with ⟨-, -, hnew⟩ | hstored
  · exact absurd (hid ▸ hnumbered run.id (by simp [hrun])) hnew
  · rw [hid, hstored] at hrun
    exact (Option.some.inj hrun).symm

theorem Chronicled.accounts_encloses (h : world.Chronicled) (hnumbered : world.Numbered)
    (hadds : world.Adds world') (hleg : world.Encloses leg world') : world.Accounts world' := by
  have hgoes : Drive.Course world.bounds leg.phase leg.world leg.run leg.world' leg.run' :=
    hleg.goes
  have hrests : ∀ level ∈ leg.run.nested, level.Rests world := by
    rcases hleg.outset with ⟨-, hnested, -⟩ | hstored
    · simp [hnested]
    · exact (h.runs leg.run hstored).rests
  have hstored : world'.store.find? leg.run'.id = some leg.run' := by
    rw [hleg.store, if_pos rfl]
  refine ⟨?_, ?_, ?_, ?_⟩
  · intro id hnamed hgone
    refine hleg.others hnamed fun level hlevel hid => ?_
    rcases hleg.outset with ⟨-, hnested, hnew⟩ | hrun
    · rw [Run.levels, hnested] at hlevel
      obtain rfl := List.mem_singleton.mp hlevel
      exact hnew (hid ▸ hnamed)
    · exact hgone (hid ▸ keeps_stored hrun hlevel)
  · intro id htold
    by_cases hown : id = leg.run.id
    · subst hown
      exact .inl ⟨_, hstored, _, leg.run'.own_mem, hgoes.sameRun.id⟩
    have htold' : leg.world'.tale id ≠ leg.world.tale id := by
      rw [← hleg.after, hleg.before]
      exact htold
    rcases hgoes.stays_or_ends hown htold' with hended | ⟨-, level, hlevel, hid⟩
    · -- Who has come to its end had not before, so that it is over now.
      have hopen : (world.tale id).Open := by
        rcases hleg.told_level htold with hnew | ⟨level, hlevel, rfl⟩
        · rw [h.told.unnamed id hnew]
          exact fun _ hentry => absurd hentry List.not_mem_nil
        · rcases List.mem_cons.mp hlevel with rfl | hlevel
          · exact absurd rfl hown
          · exact (hrests level hlevel).unended
      rw [← hleg.after] at hended
      exact .inr (hended.over ((hadds.spoken id).resolve_left htold) hopen)
    · exact .inl (hid ▸ keeps_stored hstored (Run.nested_mem hlevel))
  · intro id hkept hsame
    refine (hkept.replaced hleg.store).imp_right ?_
    rintro ⟨run, hrun, hid, level, hlevel, rfl⟩
    obtain rfl := hleg.stored hrun hnumbered (hid.trans hgoes.sameRun.id)
    exact (hrests level hlevel).halted
  · intro run' hrun' level' hlevel' id status hnote
    rw [hleg.store] at hrun'
    split at hrun'
    · obtain rfl := Option.some.inj hrun'
      have hwaits : leg.phase.Waits leg.world leg.run := by
        refine Drive.Phase.waits_of ?_ fun level hlevel => ?_
        · rcases hleg.outset with ⟨-, hnested, -⟩ | hrun
          · simp [Run.levels, hnested]
          · exact (h.runs leg.run hrun).story.apart
        · rcases hleg.outset with ⟨-, hnested, -⟩ | hrun
          · simp [hnested] at hlevel
          · rw [hleg.before]
            exact ⟨hleg.named _ ((h.runs leg.run hrun).story.named level (Run.nested_mem hlevel)),
              (hrests level hlevel).halted.2⟩
      rcases hgoes.notes hleg.own hwaits level' hlevel' id status hnote with
        ⟨level, hlevel, hold⟩ | ⟨-, hbears⟩
      · rcases hleg.outset with ⟨hnone, -⟩ | hrun
        · exact absurd hold (hnone level hlevel id status)
        · exact .inl ⟨leg.run, hrun, level, hlevel, hold⟩
      · rw [hleg.after]
        exact .inr hbears
    · exact .inl ⟨run', hrun', level', hlevel', hnote⟩

theorem Chronicled.accounts_terminate (h : world.Chronicled)
    (hrun : world.store.find? run.id = some run) (kind : FailureKind) (message : String) :
    world.Accounts (world.terminate run kind message).2 := by
  have hkept := h.runs run hrun
  have hid : (run.terminate kind message world.bounds.now).id = run.id :=
    (Run.unwind_ended kind message world.bounds.now run.toLevel run.nested).1.id
  have hstore (id : Identifier) : (world.terminate run kind message).2.store.find? id =
      if (run.terminate kind message world.bounds.now).id = id then
        some (run.terminate kind message world.bounds.now) else world.store.find? id := by
    rw [hid, store_terminate]
  have hothers {id : Identifier} (hother : id ≠ run.id) :=
    tale_terminate world run kind message hother
  refine ⟨?_, ?_, ?_, ?_⟩
  · intro id hnamed hgone
    refine hothers ?_
    rintro rfl
    exact hgone (keeps_stored hrun run.own_mem)
  · intro id htold
    by_cases hown : id = run.id
    · subst hown
      exact .inl ⟨_, by rw [hstore, if_pos rfl], _, Run.own_mem _, hid⟩
    · exact absurd (hothers hown) htold
  · intro id hkeeps hsame
    refine (hkeeps.replaced hstore).imp_right ?_
    rintro ⟨other, hother, hother', level, hlevel, rfl⟩
    rw [hother', hid, hrun] at hother
    obtain rfl := Option.some.inj hother
    exact (hkept.rests level hlevel).halted
  · intro run' hrun' level' hlevel' id status hnote
    rw [hstore] at hrun'
    split at hrun'
    · obtain rfl := Option.some.inj hrun'
      obtain rfl := List.mem_singleton.mp hlevel'
      rcases Run.records_of_unwind hnote with hold | ⟨inner, hinner, rfl⟩
      · exact .inl ⟨run, hrun, _, run.own_mem, hold⟩
      · rw [hothers (hkept.story.nested_ne hinner)]
        exact .inr (.inr (hkept.rests inner hinner).halted.2)
    · exact .inl ⟨run', hrun', level', hlevel', hnote⟩

/-- The tales of all runs agree with what is stored of them. -/
structure Accounted (world : World) : Prop where
  numbered : world.Numbered
  chronicled : world.Chronicled
  gone : ∀ id, world.tale id ≠ [] →
    world.Keeps id ∨ (world.tale id).Over ∨ (world.tale id).Halted
  recorded : ∀ run, world.store.find? run.id = some run → ∀ level ∈ run.levels, ∀ id status,
    level.Records id status → (world.tale id).Bears status

/-- A run that a note is about is named, and gone. -/
theorem Chronicled.not_keeps_recorded (h : world.Chronicled)
    (hrun : world.store.find? run.id = some run) {level : Level} (hlevel : level ∈ run.levels)
    {status : Status} (hnote : level.Records id status) : world.Named id ∧ ¬world.Keeps id := by
  obtain ⟨flow, nodes, hnote⟩ := hnote
  have hcites : level.Cites id nodes := ⟨flow, status, hnote⟩
  obtain ⟨hnamed, -, hothers⟩ := (h.runs run hrun).story.cited level hlevel id nodes hcites
  refine ⟨hnamed, ?_⟩
  rintro ⟨other, hother, inner, hinner, rfl⟩
  by_cases hid : run.id = other.id
  · rw [← hid, hrun] at hother
    obtain rfl := Option.some.inj hother
    exact hothers inner hinner rfl
  · exact h.apart run other hrun hother hid inner.id ⟨level, hlevel, .inr ⟨nodes, hcites⟩⟩
      ⟨inner, hinner, .inl rfl⟩

theorem Accounted.step (h : world.Accounted) (haccounts : world.Accounts world')
    (hnumbered : world'.Numbered) (hchronicled : world'.Chronicled) : world'.Accounted := by
  refine ⟨hnumbered, hchronicled, ?_, ?_⟩
  · intro id htold
    by_cases hsame : world'.tale id = world.tale id
    · rw [hsame] at htold ⊢
      rcases h.gone id htold with hkept | hgone
      · exact (haccounts.untold id hkept hsame).imp_right .inr
      · exact .inr hgone
    · exact (haccounts.told id hsame).imp_right .inl
  · intro run' hrun' level' hlevel' id status hnote
    rcases haccounts.noted run' hrun' level' hlevel' id status hnote with
      ⟨run, hrun, level, hlevel, hold⟩ | hbears
    · obtain ⟨hnamed, hgone⟩ := h.chronicled.not_keeps_recorded hrun hlevel hold
      rw [haccounts.silent id hnamed hgone]
      exact h.recorded run hrun level hlevel id status hold
    · exact hbears

theorem Accounted.endings (h : world.Accounted) (hendings : world.Endings world') :
    world'.Accounted := by
  induction hendings with
  | refl => exact h
  | tail _ hending ih =>
      have hnumbered := ih.numbered.ending hending
      have hchronicled := (ih.chronicled.endings (.single hending)).1
      obtain ⟨stored, unended, words⟩ := hending
      exact ih.step (ih.chronicled.accounts_terminate stored _ _) hnumbered hchronicled

theorem Accounted.carryOut (h : world.Accounted) (hworld : world.Ready) (order : Order) :
    (world.carryOut order).Accounted := by
  have hnumbered := h.numbered.carryOut hworld order
  obtain ⟨hchronicled, hadds⟩ := h.chronicled.carryOut hworld order
  cases hflows : order.keepsFlows with
  | false =>
      obtain ⟨hstore, hsilent⟩ := carryOut_flows hworld hflows
      exact h.step (.of_silent hstore hsilent) hnumbered hchronicled
  | true =>
      rcases carryOut_drives hworld hflows with ⟨leg, hdrives⟩ | hstill | hendings
      · have hleg := hdrives.encloses h.numbered
        have haccounts := h.chronicled.accounts_encloses h.numbered hadds hleg
        exact h.step haccounts hnumbered hchronicled
      · exact h.step (.of_silent hstill.store hstill.toSilent) hnumbered hchronicled
      · exact h.endings hendings

theorem Accounted.atTime (h : world.Accounted) (now : Instant) :
    (world.atTime now).Accounted :=
  ⟨h.numbered, h.chronicled.atTime now, h.gone, h.recorded⟩

theorem accounted_after (registry : Registry) (settings : Settings) (start : Instant)
    (definitions : List Flow) (send : Ledger → String → Message → Except DispatchError String)
    (assign : Ledger → String → String → Except AssignmentError Unit) (supply : Supply)
    (orders : List (Instant × Order)) :
    ((openedWith registry settings start definitions send assign supply).after orders).Accounted :=
  after_induction (fun _ => True) Accounted (fun now h => h.atTime now)
    (fun hready _ h => h.carryOut hready _)
    (ready_openedWith registry settings start definitions send assign supply)
    ⟨numbered_openedWith registry settings start definitions send assign supply,
      chronicled_openedWith registry settings start definitions send assign supply,
      fun id htold => absurd rfl htold, by simp [find?_openedWith]⟩ fun _ _ => trivial

/-! ## What an order tells of nested runs -/

theorem wakes_iff : world.wakes order run = true ↔
    ∃ event suspension graph, order.wakeup? = some (run.id, event) ∧
      Engine.checkResumable run event = .ok suspension ∧
      suspension.isOverdue world.bounds.now = false ∧ world.flow run.flow = .ok graph := by
  unfold wakes
  rw [Option.any_eq_true]
  constructor
  · rintro ⟨⟨id, event⟩, hwakes, htest⟩
    simp only [Bool.and_eq_true, beq_iff_eq, Option.any_eq_true, Bool.not_eq_true'] at htest
    obtain ⟨⟨rfl, suspension, haccepted, htimely⟩, hloads⟩ := htest
    cases hchecked : Engine.checkResumable run event with
    | error e => simp [hchecked, Except.toOption] at haccepted
    | ok accepted =>
        rw [hchecked] at haccepted
        obtain rfl := Option.some.inj haccepted
        cases hflow : world.flow run.flow with
        | error e => simp [hflow, Except.isOk, Except.toBool] at hloads
        | ok graph => exact ⟨event, accepted, graph, hwakes, hchecked, htimely, rfl⟩
  · rintro ⟨event, suspension, graph, hwakes, haccepted, htimely, hflow⟩
    exact ⟨_, hwakes, by simp [haccepted, Except.toOption, htimely, hflow, Except.isOk,
      Except.toBool]⟩

theorem reached_subset : world.reached order run ⊆ run.nested := by
  unfold reached
  split
  · exact Level.reached_subset
  · exact List.nil_subset _

/-- Terminations tell of the stored runs only. -/
theorem Endings.tale (h : world.Endings world') (hid : world.store.find? id = none) :
    world'.tale id = world.tale id := by
  induction h with
  | refl => rfl
  | @tail first second hendings hending ih =>
      obtain @⟨run, kind, message, stored, unended, words⟩ := hending
      rw [tale_terminate first run kind message, ih]
      rintro rfl
      rw [World.Endings.find? hendings hid] at stored
      cases stored

/-- What the event of an order reaches is what the payload of its drive reaches. -/
theorem Drives.reached (h : world.Drives order leg) :
    world.reached order leg.run = leg.phase.reached world.flow world.bounds.settings leg.run := by
  unfold World.reached
  cases h with
  | begin look place course done => rfl
  | resume wakes stored accepted timely look course done =>
      rw [if_pos (wakes_iff.mpr ⟨_, _, _, wakes, accepted, timely, flow_of_look look⟩)]
      rfl

section

variable (hworld : world.Ready) (h : world.Accounted)
  (hrun : world.store.find? run.id = some run) {level : Level} (hlevel : level ∈ run.nested)
include hworld h hrun

/-- Where the event of an order reaches a nested level the run is driven, and something is told of
that level. -/
theorem Accounted.reached_told (hreached : level ∈ world.reached order run) :
    world.Accounts (world.carryOut order) ∧
      (world.carryOut order).tale level.id ≠ world.tale level.id := by
  have hwakes : world.wakes order run = true := by
    by_contra hnot
    simp [reached, hnot] at hreached
  obtain ⟨event, suspension, graph, hbrings, haccepted, htimely, hflow⟩ := wakes_iff.mp hwakes
  obtain ⟨leg, hdrives, rfl⟩ := drives_resume hworld hbrings hrun haccepted htimely hflow
  have hleg := hdrives.encloses h.numbered
  have hadds := (h.chronicled.carryOut hworld order).2
  refine ⟨h.chronicled.accounts_encloses h.numbered hadds hleg, fun hsame => ?_⟩
  exact hleg.reached_told (hdrives.reached ▸ hreached) hsame

include hlevel

/-- Nothing is told of a nested level that the event of an order does not reach. -/
theorem Accounted.unreached_untold (hreached : level ∉ world.reached order run) :
    (world.carryOut order).tale level.id = world.tale level.id := by
  have hstory := (h.chronicled.runs run hrun).story
  have hnamed : world.Named level.id := hstory.named level (Run.nested_mem hlevel)
  cases hflows : order.keepsFlows with
  | false => exact tale_of_events (carryOut_flows hworld hflows).2.events level.id
  | true =>
      rcases carryOut_drives hworld hflows with ⟨leg, hdrives⟩ | hstill | hendings
      · have hleg := hdrives.encloses h.numbered
        by_cases hown : run.id = leg.run.id
        · obtain rfl := hleg.stored hrun h.numbered hown
          refine hleg.unreached hnamed (hstory.nested_ne hlevel) fun other hother hid => ?_
          rw [← hdrives.reached] at hother
          have hmem : other ∈ leg.run.nested := reached_subset hother
          have hsame : other = level := List.inj_on_of_nodup_map hstory.apart
            (Run.nested_mem hmem) (Run.nested_mem hlevel) hid
          exact hreached (hsame ▸ hother)
        · refine hleg.others hnamed fun other hother hid => ?_
          rcases hleg.outset with ⟨-, hnested, hnew⟩ | hrun'
          · rw [Run.levels, hnested] at hother
            obtain rfl := List.mem_singleton.mp hother
            exact hnew (hid ▸ hnamed)
          · exact h.chronicled.apart run leg.run hrun hrun' hown level.id
              ⟨level, Run.nested_mem hlevel, .inl rfl⟩ ⟨other, hother, .inl hid⟩
      · exact tale_of_events hstill.events level.id
      · refine hendings.tale ?_
        by_contra hstored
        obtain ⟨other, hother⟩ := Option.ne_none_iff_exists'.mp hstored
        have hid : other.id = level.id := Store.id_of_find? hother
        refine h.chronicled.apart run other hrun (hid ▸ hother) ?_ level.id
          ⟨level, Run.nested_mem hlevel, .inl rfl⟩ ⟨_, other.own_mem, .inl hid⟩
        exact fun hown => hstory.nested_ne hlevel (hid.symm.trans hown.symm)

/-- A nested run that is gone after an order was told of its end if the event of the order reached
it, and only then. -/
theorem Accounted.over_iff (hgone : ¬(world.carryOut order).Keeps level.id) :
    ((world.carryOut order).tale level.id).Over ↔ level ∈ world.reached order run := by
  have hrests := (h.chronicled.runs run hrun).rests level hlevel
  constructor
  · intro hover
    by_contra hreached
    rw [h.unreached_untold hworld hrun hlevel hreached] at hover
    exact hover.not_open hrests.unended
  · intro hreached
    obtain ⟨haccounts, htold⟩ := h.reached_told hworld hrun hreached
    exact (haccounts.told level.id htold).resolve_left hgone

end

/-- A run that begins with an order is a level of a stored run after it, or over. -/
theorem Accounted.begun_over (h : world.Accounted) (hworld : world.Ready)
    (hnew : ¬world.Named id) (hbegun : (world.carryOut order).Named id)
    (hgone : ¬(world.carryOut order).Keeps id) : ((world.carryOut order).tale id).Over := by
  have hadds := (h.chronicled.carryOut hworld order).2
  have htold : (world.carryOut order).tale id ≠ world.tale id := (hadds.begun id hnew hbegun).ne
  cases hflows : order.keepsFlows with
  | false => exact absurd (tale_of_events (carryOut_flows hworld hflows).2.events id) htold
  | true =>
      rcases carryOut_drives hworld hflows with ⟨leg, hdrives⟩ | hstill | hendings
      · have hleg := hdrives.encloses h.numbered
        have haccounts := h.chronicled.accounts_encloses h.numbered hadds hleg
        exact (haccounts.told id htold).resolve_left hgone
      · exact absurd (tale_of_events hstill.events id) htold
      · refine absurd (hendings.tale ?_) htold
        by_contra hstored
        exact hnew (h.numbered id (Option.isSome_iff_ne_none.mpr hstored))

/-- Where all stored runs are in shape, an event that wakes a run reaches all its levels. -/
theorem Shaped.reached {settings : Settings} (h : world.Shaped world.flow settings)
    (hrun : world.store.find? run.id = some run) (hwakes : world.wakes order run = true) :
    world.reached order run = run.nested := by
  obtain ⟨event, suspension, graph, -, haccepted, -, -⟩ := wakes_iff.mp hwakes
  have hpaused := (paused_of_checkResumable haccepted).1
  obtain ⟨-, -, hsettled⟩ := h.runs run (Store.mem_of_find? hrun)
  rw [World.reached, if_pos hwakes, h.limits]
  cases hsettled with
  | waiting steps waits hangs => exact hangs.reached steps
  | completed status => simp [status] at hpaused
  | failed status => simp [status] at hpaused

/-- Whatever was ordered in a world that was opened with nothing but flows, a run of which something
was told and that is no level of a stored run is over, or it was last told to wait; and if it is
over, its end was told as the note about it records it.  A run that begins with the next order and
is gone after it is over, and a nested run that goes with the next order is over if and only if the
event of the order was handed down to it.  As long as no definition
changes once its flow has been loaded, an event that wakes a run is handed down to all its levels:
then the runs that nobody is told the end of are those nested in a run that was terminated. -/
theorem nested_end_is_told_iff_reached (registry : Registry) (settings : Settings)
    (start : Instant) (definitions : List Flow)
    (send : Ledger → String → Message → Except DispatchError String)
    (assign : Ledger → String → String → Except AssignmentError Unit) (supply : Supply)
    (orders : List (Instant × Order)) :
    let opening := openedWith registry settings start definitions send assign supply
    let world := opening.after orders
    (∀ id, world.tale id ≠ [] → ¬world.Keeps id →
      (world.tale id).Over ∨ (world.tale id).Halted) ∧
    (∀ run, world.store.find? run.id = some run → ∀ level ∈ run.levels,
      ∀ flow id status nodes, .subflow flow id status nodes ∈ level.history.remarks →
        (world.tale id).Over → (world.tale id).status? = some status) ∧
    (∀ now order id, ¬(world.atTime now).Named id → ((world.atTime now).carryOut order).Named id →
      ¬((world.atTime now).carryOut order).Keeps id →
        (((world.atTime now).carryOut order).tale id).Over) ∧
    ∀ now order run, world.store.find? run.id = some run →
      (∀ level ∈ run.nested, ¬((world.atTime now).carryOut order).Keeps level.id →
        ((((world.atTime now).carryOut order).tale level.id).Over ↔
          level ∈ (world.atTime now).reached order run)) ∧
      (registry = .standard → opening.Steady orders →
        (world.atTime now).wakes order run = true →
          (world.atTime now).reached order run = run.nested) := by
  intro opening world
  have hopened : opening.Ready :=
    ready_openedWith registry settings start definitions send assign supply
  have hworld : world.Accounted :=
    accounted_after registry settings start definitions send assign supply orders
  refine ⟨fun id htold hgone => (hworld.gone id htold).resolve_left hgone, ?_, ?_, ?_⟩
  · intro run hrun level hlevel flow id status nodes hnote hover
    exact hover.status (hworld.recorded run hrun level hlevel id status ⟨flow, nodes, hnote⟩)
  · intro now order id hnew hbegun hgone
    have hready : (world.atTime now).Ready := (ready_after hopened orders).atTime now
    exact (hworld.atTime now).begun_over hready hnew hbegun hgone
  · intro now order run hrun
    have hready : (world.atTime now).Ready := (ready_after hopened orders).atTime now
    refine ⟨fun level hlevel hgone => ?_, ?_⟩
    · exact (hworld.atTime now).over_iff hready hrun hlevel hgone
    · rintro rfl hsteady hwakes
      have hshaped := (Steady.kept settings start definitions send assign supply hsteady).shaped
      exact (hshaped.atTime now).reached hrun hwakes

theorem not_keeps_of_all
    (h : world.store.runs.all (fun run => run.levels.all (·.id != id)) = true) :
    ¬world.Keeps id := by
  rintro ⟨run, hrun, level, hlevel, hid⟩
  have hlevels := List.all_eq_true.mp h run (Store.mem_of_find? hrun)
  have hother := List.all_eq_true.mp hlevels level hlevel
  simp [hid] at hother

/-- A world with a flow `outer` that runs a flow `inner`, which is over at once. -/
def brief : World :=
  opened {} ⟨0, 0⟩ [.calling "outer" "inner", .passing "inner"] (fun _ _ _ => .ok "sent")
    (fun _ _ _ => .ok ()) {}

/-- A reply ends the nested run that waits for it, and its end is told; so is the end of a nested
run that begins and is gone with one order. -/
theorem nested_end_is_told_iff_reached_sample :
    let world := (sample.after sampleOrders).atTime ⟨1, 0⟩
    let reply : Order := .resume ⟨sample.supply.firstRun⟩ (.reply "yes")
    let start : Order := .start { flow := "outer", contactId := "ann" }
    let inner : Identifier := ⟨sample.supply.firstRun + 1⟩
    (∃ run level, world.store.find? run.id = some run ∧ run.nested = [level] ∧ level.id = inner ∧
      level ∈ world.reached reply run ∧ ¬(world.carryOut reply).Keeps inner ∧
      ((world.carryOut reply).tale inner).Over) ∧
    (brief.carryOut start).Named inner ∧ ¬(brief.carryOut start).Keeps inner ∧
      ((brief.carryOut start).tale inner).Over := by
  intro world reply start inner
  have hwaits : (world.store.find? ⟨sample.supply.firstRun⟩).any (fun run =>
      world.wakes reply run && decide (run.nested.map Level.id = [inner])) = true := by
    decide +kernel
  have hgone : ¬(world.carryOut reply).Keeps inner := not_keeps_of_all (by decide +kernel)
  have hpassed : ¬(brief.carryOut start).Keeps inner := not_keeps_of_all (by decide +kernel)
  have hbegun : (brief.carryOut start).Named inner :=
    ⟨1, by decide +kernel, by decide +kernel⟩
  obtain ⟨run, hrun, htest⟩ := (Option.any_eq_true _ _).mp hwaits
  simp only [Bool.and_eq_true, decide_eq_true_eq] at htest
  obtain ⟨hwakes, hids⟩ := htest
  obtain ⟨level, hnested, hlevel⟩ := List.map_eq_singleton_iff.mp hids
  have hstored : world.store.find? run.id = some run := by
    rw [Store.id_of_find? hrun]
    exact hrun
  obtain ⟨-, -, -, hnext⟩ := nested_end_is_told_iff_reached .standard {} ⟨0, 0⟩
    [.calling "outer" "inner", .asking "inner"] (fun _ _ _ => .ok "sent") (fun _ _ _ => .ok ())
    {} sampleOrders
  obtain ⟨hover, hreached⟩ := hnext ⟨1, 0⟩ reply run hstored
  have hmem : level ∈ world.reached reply run := by
    have hall : world.reached reply run = run.nested := hreached rfl steady_sample hwakes
    simp [hall, hnested]
  obtain ⟨-, -, hbegins, -⟩ := nested_end_is_told_iff_reached .standard {} ⟨0, 0⟩
    [.calling "outer" "inner", .passing "inner"] (fun _ _ _ => .ok "sent") (fun _ _ _ => .ok ())
    {} []
  refine ⟨⟨run, level, hstored, hnested, hlevel, hmem, hgone, ?_⟩, hbegun, hpassed, ?_⟩
  · rw [← hlevel]
    exact (hover level (by simp [hnested]) (hlevel ▸ hgone)).mpr hmem
  · exact hbegins ⟨0, 0⟩ start inner (by rintro ⟨n, hn, -⟩; exact absurd hn (Nat.not_lt_zero n))
      hbegun hpassed

/-- A run is cancelled while it waits in its nested flow: the nested run, which is recorded to have
failed, is never told to have ended. -/
theorem cancelled_nested_run_ends_untold :
    let world := sample.after [(⟨0, 0⟩, .start { flow := "outer", contactId := "ann" }),
      (⟨1, 0⟩, .cancel ⟨sample.supply.firstRun⟩)]
    let inner : Identifier := ⟨sample.supply.firstRun + 1⟩
    (world.tale inner).entered = ["begin", "ask"] ∧ ¬world.Keeps inner ∧
      (∀ entry ∈ world.tale inner, entry.2.isEnd = false) ∧
      ∃ run, world.store.find? run.id = some run ∧
        .subflow "inner" inner .failed ["begin", "ask"] ∈ run.history.remarks := by
  intro world inner
  have hentered : (world.tale inner).entered = ["begin", "ask"] := by decide +kernel
  have hgone : world.store.runs.all (fun run => run.levels.all (·.id != inner)) = true := by
    decide +kernel
  have hopen : ∀ entry ∈ world.tale inner, entry.2.isEnd = false := by decide +kernel
  have hnoted : (world.store.find? ⟨sample.supply.firstRun⟩).any (fun run => decide
      (.subflow "inner" inner .failed ["begin", "ask"] ∈ run.history.remarks)) = true := by
    decide +kernel
  refine ⟨hentered, not_keeps_of_all hgone, hopen, ?_⟩
  · obtain ⟨run, hrun, hnote⟩ := (Option.any_eq_true _ _).mp hnoted
    exact ⟨run, by rw [Store.id_of_find? hrun]; exact hrun, of_decide_eq_true hnote⟩

end World

end Dialogue
