import Dialogue.Proofs.Timers
import Dialogue.Proofs.Engine.Change
import Dialogue.Proofs.Engine.Opening

/-!
# The timers watch over the store

Which runs have timers is decided by the store: the paused ones whose suspension
waits for time to pass, or for a reply that has to come by some instant.  Store
and timers are written at different moments, so a drive begins where its run has
no timers, and the invariant with that one exception, `WatchedBut`, carries it to
where the run is persisted or terminated.
-/

namespace Dialogue

/-- The token that a suspension's alarms carry, if it calls for any. -/
def Suspension.alarmToken? (suspension : Suspension) : Option Identifier :=
  if suspension.isTimer || suspension.expiresAt.isSome then some suspension.token else none

/-- The token that a run's alarms carry, if it is paused and waits for any. -/
def Run.alarmToken? (run : Run) : Option Identifier :=
  (run.suspension.filter fun _ => run.isPaused).bind Suspension.alarmToken?

theorem Suspension.alarmToken?_eq_some {suspension : Suspension} {token : Identifier} :
    suspension.alarmToken? = some token ↔
      (suspension.isTimer = true ∨ suspension.expiresAt.isSome = true) ∧
        suspension.token = token := by
  simp [alarmToken?]

/-- A run has alarms if it is paused in a suspension that calls for them. -/
theorem Run.alarmToken?_eq_some {run : Run} {token : Identifier} :
    run.alarmToken? = some token ↔ ∃ suspension, run.status = .paused ∧
      run.suspension = some suspension ∧
      (suspension.isTimer = true ∨ suspension.expiresAt.isSome = true) ∧
      suspension.token = token := by
  simp only [alarmToken?, Option.bind_eq_some_iff, Option.filter_eq_some_iff,
    Suspension.alarmToken?_eq_some, Level.isPaused, beq_iff_eq]
  constructor
  · rintro ⟨suspension, ⟨hpending, hpaused⟩, hcalls⟩
    exact ⟨suspension, hpaused, hpending, hcalls⟩
  · rintro ⟨suspension, hpaused, hpending, hcalls⟩
    exact ⟨suspension, ⟨hpending, hpaused⟩, hcalls⟩

namespace World

variable {world : World} {run : Run} {id token : Identifier}

/-! ## Setting alarms -/

/-- The alarms of a suspension are set for its own run only, and only if it calls for any. -/
theorem token?_awaiting (world : World) (run : Identifier) (suspension : Suspension)
    (id : Identifier) : (world.awaiting run suspension).timers.token? id =
      if run = id then suspension.alarmToken?.or (world.timers.token? id)
      else world.timers.token? id := by
  unfold awaiting Suspension.alarmToken? Suspension.resumeAt? Suspension.isTimer
  cases suspension.reason <;> cases suspension.expiresAt <;>
    simp only [alarmed, Timers.schedule, Timers.token?_scheduleIn] <;> split <;> simp

theorem distinct_awaiting (h : world.timers.Distinct) (run : Identifier)
    (suspension : Suspension) : (world.awaiting run suspension).timers.Distinct := by
  unfold awaiting
  cases suspension.resumeAt? <;> cases suspension.expiresAt
  · exact h
  · exact h.scheduleIn _ _
  · exact h.scheduleIn _ _
  · exact (h.scheduleIn _ _).scheduleIn _ _

/-- Setting the alarms of a suspension that has some already changes nothing in the table. -/
theorem pending_awaiting {suspension : Suspension}
    (h : ∀ token, suspension.alarmToken? = some token → world.timers.token? id = some token) :
    (world.awaiting id suspension).timers.pending = world.timers.pending := by
  have hset (world : World) (action : TimerAction) (time : Instant)
      (htoken : world.timers.token? id = some suspension.token) :
      (world.alarmed ⟨id, suspension.token, action⟩ time).timers.pending =
        world.timers.pending := Timers.pending_scheduleIn htoken
  have htoken (hcalls : suspension.isTimer = true ∨ suspension.expiresAt.isSome = true) :
      world.timers.token? id = some suspension.token :=
    h _ (Suspension.alarmToken?_eq_some.mpr ⟨hcalls, rfl⟩)
  unfold awaiting Suspension.resumeAt?
  cases hreason : suspension.reason with
  | reply node =>
      cases hexpires : suspension.expiresAt with
      | none => rfl
      | some time => exact hset _ _ _ (htoken (.inr (by simp [hexpires])))
  | timer resumeAt =>
      have hown := htoken (.inl (by simp [Suspension.isTimer, hreason]))
      have hfirst := hset world .resume resumeAt hown
      cases suspension.expiresAt with
      | none => exact hfirst
      | some time =>
          refine (hset _ .expire time ?_).trans hfirst
          unfold Timers.token?
          rw [hfirst]
          exact hown

/-! ## The invariant -/

/-- What a run within an operation does leaves the timers alone. -/
theorem timers_act {α : Type} (world : World) (acting : Acting α) :
    (world.act acting).2.timers = world.timers := by
  refine @Interaction.run_induction _ _ _ _ reply
    (fun before after => after.timers = before.timers) (fun _ => rfl) ?_ ?_ acting world
  · exact fun h h' => Eq.trans h' h
  · exact fun call _ => by cases call <;> rfl

/-- Exactly those runs have timers whose stored state calls for them. -/
structure Watched (world : World) : Prop where
  token : ∀ id, world.timers.token? id = (world.store.find? id).bind Run.alarmToken?
  distinct : world.timers.Distinct
  ascending : world.store.Ascending

/-- One run has no timers, and the others have those that they call for. -/
structure WatchedBut (world : World) (id : Identifier) : Prop where
  others : ∀ other, other ≠ id →
    world.timers.token? other = (world.store.find? other).bind Run.alarmToken?
  own : world.timers.token? id = none
  distinct : world.timers.Distinct
  ascending : world.store.Ascending

theorem Watched.unalarmed (h : world.Watched) (id : Identifier) :
    (world.unalarmed id).WatchedBut id where
  others := by
    intro other hother
    refine (world.timers.token?_cancel id other).trans ?_
    rw [if_neg hother.symm]
    exact h.token other
  own := (world.timers.token?_cancel id id).trans (if_pos rfl)
  distinct := h.distinct.cancel id
  ascending := h.ascending

/-- A run that is not stored has no timers. -/
theorem Watched.but_new (h : world.Watched) (hnew : world.store.find? id = none) :
    world.WatchedBut id where
  others := fun other _ => h.token other
  own := by rw [h.token, hnew]; rfl
  distinct := h.distinct
  ascending := h.ascending

theorem WatchedBut.act {α : Type} (h : world.WatchedBut id) (acting : Acting α) :
    (world.act acting).2.WatchedBut id := by
  have htimers := world.timers_act acting
  have hstore := (world.later_act acting).store
  refine ⟨?_, ?_, ?_, ?_⟩
  · rw [htimers, hstore]
    exact h.others
  · rw [htimers]
    exact h.own
  · rw [htimers]
    exact h.distinct
  · rw [hstore]
    exact h.ascending

/-- A run that calls for no alarms is kept without any. -/
theorem WatchedBut.keep (h : world.WatchedBut id) (hid : run.id = id)
    (hcalm : run.alarmToken? = none) : (world.keep run).Watched where
  token := by
    obtain rfl := hid
    intro id
    change world.timers.token? id = ((world.store.put run).find? id).bind Run.alarmToken?
    rw [Store.find?_put]
    split
    · next hid =>
      rw [← hid, h.own]
      exact hcalm.symm
    · next hid => exact h.others id (Ne.symm hid)
  distinct := h.distinct
  ascending := h.ascending.put run

/-- A run that is persisted gets the alarms that it calls for. -/
theorem WatchedBut.persist (h : world.WatchedBut id) (hid : run.id = id) :
    (world.persist run).Watched := by
  obtain rfl := hid
  unfold World.persist
  cases hwaits : run.suspension.filter fun _ => run.isPaused with
  | none =>
      have hkept := h.keep rfl (show run.alarmToken? = none by simp [Run.alarmToken?, hwaits])
      refine ⟨fun id => ?_, hkept.distinct.cancel _, hkept.ascending⟩
      refine (world.timers.token?_cancel run.id id).trans ?_
      refine Eq.trans ?_ (hkept.token id)
      split
      · next hid => exact (hid ▸ h.own).symm
      · rfl
  | some suspension =>
      dsimp only
      have hstore : ((world.keep run).awaiting run.id suspension).store = world.store.put run :=
        (later_awaiting run.id suspension).store
      have hdistinct : (world.keep run).timers.Distinct := h.distinct
      refine ⟨fun id => ?_, distinct_awaiting hdistinct _ _, ?_⟩
      · rw [token?_awaiting, hstore]
        change (if run.id = id then suspension.alarmToken?.or (world.timers.token? id)
          else world.timers.token? id) = _
        rw [Store.find?_put]
        split
        · next hid =>
          rw [← hid, h.own]
          simp [Run.alarmToken?, hwaits]
        · next hid => exact h.others id (Ne.symm hid)
      · rw [hstore]
        exact h.ascending.put run

/-- What becomes of a run that is driven gets the alarms that it calls for. -/
theorem WatchedBut.driven (h : world.WatchedBut run.id) (graph : Graph)
    (payload : Option Payload) : (world.driven graph run payload).2.Watched :=
  (h.act (run.drive world.bounds graph payload)).persist
    (Drive.course_drive world.bounds world run graph payload).sameRun.id

/-! ## Setting all alarms anew -/

/-- The alarms of the first of several paused runs are set before those of the others. -/
theorem recovered_cons (world : World) (hpaused : run.isPaused = true) (rest : List Run) :
    ∃ next : World, world.recovered (run :: rest) = next.recovered rest ∧ next.store = world.store ∧
      (world.timers.Distinct → next.timers.Distinct) ∧
      (∀ id, next.timers.token? id =
        if run.id = id then run.alarmToken?.or (world.timers.token? id)
        else world.timers.token? id) ∧
      ((∀ token, run.alarmToken? = some token → world.timers.token? run.id = some token) →
        next.timers.pending = world.timers.pending) := by
  rw [recovered]
  unfold Run.alarmToken?
  cases run.suspension with
  | none => exact ⟨world, rfl, rfl, id, fun id => by simp, fun _ => rfl⟩
  | some suspension =>
      have hwaits : (some suspension).filter (fun _ => run.isPaused) = some suspension := by
        simp [hpaused]
      rw [hwaits]
      exact ⟨_, rfl, (later_awaiting _ _).store, fun h => distinct_awaiting h _ _,
        token?_awaiting world run.id suspension, pending_awaiting⟩

/-- Setting alarms that are set already changes nothing in the table. -/
theorem pending_recovered {runs : List Run}
    (h : ∀ run ∈ runs, run.isPaused = true ∧ ∀ token, run.alarmToken? = some token →
      world.timers.token? run.id = some token) :
    (world.recovered runs).timers.pending = world.timers.pending := by
  induction runs generalizing world with
  | nil => rfl
  | cons run rest ih =>
      obtain ⟨hpaused, htoken⟩ := h run (.head _)
      obtain ⟨next, heq, -, -, -, hpending⟩ := recovered_cons world hpaused rest
      have hsame := hpending htoken
      rw [heq, ← hsame]
      refine ih fun other hother => ?_
      unfold Timers.token?
      rw [hsame]
      exact h other (.tail _ hother)

theorem distinct_recovered {runs : List Run} (h : ∀ run ∈ runs, run.isPaused = true)
    (hdistinct : world.timers.Distinct) : (world.recovered runs).timers.Distinct := by
  induction runs generalizing world with
  | nil => exact hdistinct
  | cons run rest ih =>
      obtain ⟨next, heq, -, hkeeps, -⟩ := recovered_cons world (h run (.head _)) rest
      rw [heq]
      exact ih (fun other hother => h other (.tail _ hother)) (hkeeps hdistinct)

/-- The alarms of listed runs are set as these are stored, and those of others stay. -/
theorem token?_recovered {runs : List Run}
    (h : ∀ run ∈ runs, run.isPaused = true ∧ world.store.find? run.id = some run)
    (id : Identifier) : (world.recovered runs).timers.token? id =
      if id ∈ runs.map (fun run => run.id) then
        ((world.store.find? id).bind Run.alarmToken?).or (world.timers.token? id)
      else world.timers.token? id := by
  induction runs generalizing world with
  | nil => simp [recovered]
  | cons run rest ih =>
      obtain ⟨hpaused, hstored⟩ := h run (.head _)
      obtain ⟨next, heq, hstore, -, htoken, -⟩ := recovered_cons world hpaused rest
      have hrest : ∀ other ∈ rest, other.isPaused = true ∧
          next.store.find? other.id = some other := fun other hother => by
        rw [hstore]
        exact h other (.tail _ hother)
      rw [heq, ih hrest, hstore, htoken]
      by_cases hid : id = run.id
      · subst hid
        simp [hstored, ← Option.or_assoc]
      · simp [hid, Ne.symm hid]

/-- The alarms that a live engine sets anew are set already. -/
theorem Watched.recovered (h : world.Watched) :
    (world.recovered (world.store.all (some .paused))).timers.pending = world.timers.pending := by
  refine pending_recovered fun run hrun => ?_
  obtain ⟨hstored, hpaused⟩ := Store.mem_all.mp hrun
  refine ⟨hpaused, fun token hcalls => ?_⟩
  rw [h.token, h.ascending.find? hstored]
  exact hcalls

/-- From an empty table recovering sets the alarms of exactly the runs that call for them. -/
theorem watched_recovered (hempty : world.timers.pending = []) (hstore : world.store.Ascending) :
    (world.recovered (world.store.all (some .paused))).Watched := by
  have hlisted : ∀ run ∈ world.store.all (some .paused),
      run.isPaused = true ∧ world.store.find? run.id = some run := fun run hrun =>
    ⟨(Store.mem_all.mp hrun).2, hstore.find? (Store.mem_all.mp hrun).1⟩
  have hsame : (world.recovered (world.store.all (some .paused))).store = world.store :=
    (still_recovered _).store
  refine ⟨fun id => ?_, distinct_recovered (fun run hrun => (hlisted run hrun).1) ?_, ?_⟩
  · have hnone : world.timers.token? id = none := by simp [Timers.token?, hempty]
    rw [token?_recovered hlisted, hsame, hnone, Option.or_none]
    split
    · rfl
    · next hunlisted =>
      cases hrun : world.store.find? id with
      | none => rfl
      | some run =>
          obtain rfl := Store.id_of_find? hrun
          have hawake : run.isPaused = false := by
            by_contra hpaused
            refine hunlisted (List.mem_map.mpr ⟨run, Store.mem_all.mpr ?_, rfl⟩)
            exact ⟨Store.mem_of_find? hrun, by simpa [Level.isPaused] using hpaused⟩
          simp [Run.alarmToken?, hawake]
  · simp [Timers.Distinct, hempty]
  · rw [hsame]
    exact hstore

/-! ## Any orders -/

/-- Whatever happens to a world, the timers go on to watch over the store. -/
theorem Change.watched {world' : World} (h : Change world world') (hwatched : world.Watched) :
    world'.Watched := by
  cases h with
  | catalog catalog => exact ⟨hwatched.token, hwatched.distinct, hwatched.ascending⟩
  | begin graph request node new =>
      exact ((hwatched.but_new new).act Acting.newRun).driven graph none
  | resume graph stored accepted => exact (hwatched.unalarmed _).driven graph _
  | @terminate run kind message stored unended =>
      obtain ⟨hsame, -, hpending, -⟩ :=
        Run.unwind_ended kind message world.bounds.now run.toLevel run.nested
      have hbut := hwatched.unalarmed run.id
      have htold : ((world.unalarmed run.id).told world.bounds
          (run.terminate kind message world.bounds.now) run.node
          (.runFailed kind message)).WatchedBut run.id :=
        ⟨hbut.others, hbut.own, hbut.distinct, hbut.ascending⟩
      refine htold.keep hsame.id ?_
      simp [Run.alarmToken?, Run.terminate, Run.ofLevel, hpending]
  | recover =>
      have hsame : (world.recovered (world.store.all (some .paused))).store = world.store :=
        (still_recovered _).store
      refine ⟨fun id => ?_, ?_, ?_⟩
      · unfold Timers.token?
        rw [hwatched.recovered, hsame]
        exact hwatched.token id
      · unfold Timers.Distinct
        rw [hwatched.recovered]
        exact hwatched.distinct
      · rw [hsame]
        exact hwatched.ascending

theorem Watched.after (h : world.Watched) (hworld : world.Ready) (hnumbered : world.Numbered)
    (orders : List (Instant × Order)) : (world.after orders).Watched :=
  changes_induction (fun _ h => ⟨h.token, h.distinct, h.ascending⟩) Change.watched hworld
    hnumbered h orders

/-- Recovering always succeeds while the store is in order. -/
theorem proceed_recover (hworld : world.Ready) (who : Ticket) :
    ∃ count, world.proceed who Engine.recover =
      (.done (.ok count), world.recovered (world.store.all (some .paused))) := by
  have hcounted : ∃ count, (world.obey Engine.recover).1 = .ok count := by
    unfold Engine.recover
    rw [obey_bind, Engine.attend_list hworld.store]
    dsimp only
    rw [obey_bind]
    exact ⟨_, rfl⟩
  obtain ⟨count, hcount⟩ := hcounted
  refine ⟨count, ?_⟩
  rw [Engine.smooth_recover who world hworld.toUndisturbed, hcount,
    Engine.obey_recover hworld.store]

end World

/-- The entries of a table of timers are those that a store calls for: one for each paused run
whose suspension waits for time to pass or expires, with the token of that suspension. -/
structure Timers.Mirrors (timers : Timers) (store : Store) : Prop where
  entry : ∀ id token, (id, token) ∈ timers.pending ↔
    ∃ run suspension, store.find? id = some run ∧ run.status = .paused ∧
      run.suspension = some suspension ∧
      (suspension.isTimer = true ∨ suspension.expiresAt.isSome = true) ∧
      suspension.token = token
  /-- No run has two entries. -/
  distinct : timers.Distinct
  size : timers.size = (store.runs.filter (·.alarmToken?.isSome)).length

namespace World

variable {world : World}

theorem Watched.mirrors (h : world.Watched) : world.timers.Mirrors world.store where
  entry := by
    intro id token
    rw [h.distinct.mem_pending, h.token]
    simp only [Option.bind_eq_some_iff, Run.alarmToken?_eq_some]
    constructor
    · rintro ⟨run, hrun, suspension, hwaits⟩
      exact ⟨run, suspension, hrun, hwaits⟩
    · rintro ⟨run, suspension, hrun, hwaits⟩
      exact ⟨run, hrun, suspension, hwaits⟩
  distinct := h.distinct
  size := by
    have hids : (world.timers.pending.map Prod.fst).Perm
        ((world.store.runs.filter (·.alarmToken?.isSome)).map fun run => run.id) := by
      refine (List.perm_ext_iff_of_nodup h.distinct ?_).mpr fun id => ?_
      · exact h.ascending.nodup.sublist (List.filter_sublist.map _)
      · have hentry : id ∈ world.timers.pending.map Prod.fst ↔
            ∃ token, world.timers.token? id = some token := by
          simp [← h.distinct.mem_pending]
        rw [hentry, h.token]
        simp only [Option.bind_eq_some_iff, List.mem_map, List.mem_filter,
          Option.isSome_iff_exists]
        constructor
        · rintro ⟨token, run, hrun, hcalls⟩
          exact ⟨run, ⟨Store.mem_of_find? hrun, token, hcalls⟩, Store.id_of_find? hrun⟩
        · rintro ⟨run, ⟨hrun, token, hcalls⟩, rfl⟩
          exact ⟨token, run, h.ascending.find? hrun, hcalls⟩
    simpa [Timers.size] using hids.length_eq

/-- After any orders the pending timers are a function of the store.  Recovering leaves the table
of a live engine as it is, and an engine that is opened anew over the same store gets the same
table from it. -/
theorem timers_mirror_store (registry : Registry) (settings : Settings) (start : Instant)
    (definitions : List Flow) (send : Ledger → String → Message → Except DispatchError String)
    (assign : Ledger → String → String → Except AssignmentError Unit) (supply : Supply)
    (orders : List (Instant × Order)) :
    let world := (openedWith registry settings start definitions send assign supply).after orders
    world.timers.Mirrors world.store ∧
    (∀ who now, ∃ count after,
      (world.atTime now).proceed who Engine.recover = (.done (.ok count), after) ∧
      after.timers.pending = world.timers.pending) ∧
    ∀ registry settings start definitions send assign supply who,
      let fresh : World :=
        { openedWith registry settings start definitions send assign supply with
          store := world.store }
      ∃ count after, fresh.proceed who Engine.recover = (.done (.ok count), after) ∧
        after.timers.Mirrors world.store ∧
        after.timers.pending.Perm world.timers.pending := by
  intro world
  have hopened := ready_openedWith registry settings start definitions send assign supply
  have hready : world.Ready := ready_after hopened orders
  have hwatched : world.Watched := by
    refine Watched.after ⟨fun id => ?_, ?_, ?_⟩ hopened
      (numbered_openedWith registry settings start definitions send assign supply) orders
    · rfl
    · exact List.nodup_nil
    · exact List.Pairwise.nil
  refine ⟨hwatched.mirrors, fun who now => ?_, ?_⟩
  · obtain ⟨count, hrecover⟩ := proceed_recover (hready.atTime now) who
    have htimed : (world.atTime now).Watched :=
      ⟨hwatched.token, hwatched.distinct, hwatched.ascending⟩
    exact ⟨count, _, hrecover, htimed.recovered⟩
  · intro registry settings start definitions send assign supply who fresh
    have hfresh : fresh.Ready := ⟨⟨fun _ => rfl, rfl⟩, hready.store⟩
    obtain ⟨count, hrecover⟩ := proceed_recover hfresh who
    have hrebuilt : (fresh.recovered (fresh.store.all (some .paused))).Watched :=
      watched_recovered rfl hwatched.ascending
    have hstore : (fresh.recovered (fresh.store.all (some .paused))).store = world.store :=
      (still_recovered _).store
    have hmirrors := hrebuilt.mirrors
    rw [hstore] at hmirrors
    refine ⟨count, _, hrecover, hmirrors, hrebuilt.distinct.perm hwatched.distinct fun id => ?_⟩
    rw [hrebuilt.token, hwatched.token, hstore]

/-- A world in which replies have to come within a minute. -/
def impatient : World :=
  openedWith .standard { inputTimeout := some 60000 } ⟨0, 0⟩
    [.calling "outer" "inner", .asking "inner"] (fun _ _ _ => .ok "sent") (fun _ _ _ => .ok ()) {}

/-- Two runs come to wait for replies, and one of them gets its reply. -/
def impatientOrders : List (Instant × Order) :=
  [(⟨0, 0⟩, .start { flow := "outer", contactId := "ann" }),
    (⟨0, 0⟩, .start { flow := "outer", contactId := "bob" }),
    (⟨1, 0⟩, .resume ⟨impatient.supply.firstRun⟩ (.reply "yes"))]

/-- The run that still waits has the only entry, with the token that it waits for.  An engine that
is opened anew over the store comes to the same table. -/
theorem timers_mirror_store_sample :
    let world := impatient.after impatientOrders
    ∃ id token, world.timers.pending = [(id, token)] ∧
      (∃ run suspension, world.store.find? id = some run ∧ run.status = .paused ∧
        run.suspension = some suspension ∧ suspension.token = token) ∧
      ∃ count after, World.proceed { impatient with store := world.store } 0 Engine.recover =
        (.done (.ok count), after) ∧ after.timers.pending = [(id, token)] := by
  intro world
  have hpending : world.timers.pending =
      [(⟨impatient.supply.firstRun + 2⟩, ⟨impatient.supply.firstToken + 1⟩)] := by decide +kernel
  have hmem : (⟨impatient.supply.firstRun + 2⟩, ⟨impatient.supply.firstToken + 1⟩) ∈
      world.timers.pending := by
    rw [hpending]
    exact List.mem_singleton_self _
  obtain ⟨hmirrors, -, hrebuilds⟩ := timers_mirror_store .standard { inputTimeout := some 60000 }
    ⟨0, 0⟩ [.calling "outer" "inner", .asking "inner"] (fun _ _ _ => .ok "sent")
    (fun _ _ _ => .ok ()) {} impatientOrders
  obtain ⟨count, after, hrecover, -, hperm⟩ := hrebuilds .standard { inputTimeout := some 60000 }
    ⟨0, 0⟩ [.calling "outer" "inner", .asking "inner"] (fun _ _ _ => .ok "sent")
    (fun _ _ _ => .ok ()) {} 0
  obtain ⟨run, suspension, hrun, hpaused, hsuspension, -, htoken⟩ := (hmirrors.entry _ _).mp hmem
  have hsame : after.timers.pending.Perm world.timers.pending := hperm
  rw [hpending] at hsame
  exact ⟨_, _, hpending, ⟨run, suspension, hrun, hpaused, hsuspension, htoken⟩, count, after,
    hrecover, List.perm_singleton.mp hsame⟩

end World

end Dialogue
