import Dialogue.Proofs.Engine.Standing

/-!
# Where identifiers come from

All identifiers that an engine keeps were given out before, so a renaming of
those that are given out later leaves alone how any run stands.  Orders keep this
up, and so does the time that passes between them.
-/

namespace Dialogue

/-- A renaming leaves alone what a world has given out. -/
structure Renaming.Keeps (ρ : Renaming) (world : World) : Prop where
  run : ∀ id, world.Named id → ρ.run id = id
  token : ∀ token, world.Known token → ρ.token token = token

/-! ## Standings whose identifiers are kept -/

namespace Standing

/-- All identifiers in a standing stay under a renaming. -/
structure Kept (standing : Standing) (ρ : Renaming) : Prop where
  run : ∀ run ∈ standing.run, run.renamed ρ = run
  token : ∀ token ∈ standing.token, ρ.token token = token
  alarms : ∀ alarm ∈ standing.alarms, alarm.renamed ρ = alarm

variable {standing : Standing} {ρ : Renaming}

/-- What keeps its identifiers is the same under a renaming. -/
theorem Kept.renamed_eq (h : standing.Kept ρ) : standing.renamed ρ = standing := by
  obtain ⟨run, token, alarms⟩ := standing
  have hrun : run.map (·.renamed ρ) = run := by
    cases run with
    | none => rfl
    | some run => exact congrArg some (h.run run rfl)
  have htoken : token.map ρ.token = token := by
    cases token with
    | none => rfl
    | some token => exact congrArg some (h.token token rfl)
  have halarms : alarms.map (·.renamed ρ) = alarms :=
    (Multiset.map_congr rfl h.alarms).trans alarms.map_id
  simp only [renamed, hrun, htoken, halarms]

/-- Where there are no alarms, only the run has to keep its identifiers. -/
theorem Kept.of_run {stored : Option Run} (h : ∀ run ∈ stored, run.renamed ρ = run) :
    Standing.Kept ⟨stored, none, 0⟩ ρ where
  run := h
  token _ htoken := absurd htoken (Option.not_mem_none _)
  alarms _ halarm := absurd halarm (Multiset.notMem_zero _)

/-- An alarm keeps its identifiers if its run and its suspension do. -/
theorem renamed_alarm {firing : Firing} (hrun : ρ.run firing.run = firing.run)
    (htoken : ρ.token firing.token = firing.token) (deadline : Nat) :
    Alarm.renamed ⟨firing, deadline⟩ ρ = ⟨firing, deadline⟩ := by
  simp [Alarm.renamed, hrun, htoken]

theorem Kept.alarmed (h : standing.Kept ρ) {alarm : Alarm} (halarm : alarm.renamed ρ = alarm) :
    (standing.alarmed alarm).Kept ρ := by
  unfold Standing.alarmed
  split
  · refine ⟨h.run, h.token, fun other hother => ?_⟩
    rcases Multiset.mem_cons.mp hother with rfl | hother
    · exact halarm
    · exact h.alarms other hother
  · refine ⟨h.run, ?_, fun other hother => ?_⟩
    · rintro _ ⟨⟩
      exact congrArg (fun alarm => alarm.firing.token) halarm
    · rw [Multiset.mem_singleton.mp hother]
      exact halarm

theorem Kept.awaiting (h : standing.Kept ρ) {run : Identifier} (hrun : ρ.run run = run)
    {suspension : Suspension} (hsuspension : suspension.renamed ρ = suspension)
    (deadline : Instant → Nat) : (standing.awaiting run suspension deadline).Kept ρ := by
  have htoken : ρ.token suspension.token = suspension.token :=
    congrArg Suspension.token hsuspension
  have halarm (action : TimerAction) (time : Instant) :
      Alarm.renamed ⟨⟨run, suspension.token, action⟩, deadline time⟩ ρ =
        ⟨⟨run, suspension.token, action⟩, deadline time⟩ := renamed_alarm hrun htoken _
  unfold Standing.awaiting
  cases suspension.resumeAt? <;> cases suspension.expiresAt
  · exact h
  · exact h.alarmed (halarm .expire _)
  · exact h.alarmed (halarm .resume _)
  · exact (h.alarmed (halarm .resume _)).alarmed (halarm .expire _)

theorem Kept.persisted (h : standing.Kept ρ) {run : Run} (hrun : run.renamed ρ = run)
    (deadline : Instant → Nat) : (standing.persisted run deadline).Kept ρ := by
  have hstored : ∀ other ∈ some run, other.renamed ρ = other := by
    rintro _ ⟨⟩
    exact hrun
  unfold Standing.persisted
  cases hwaits : run.suspension.filter fun _ => run.isPaused with
  | none => exact .of_run hstored
  | some suspension =>
      have hid : ρ.run run.id = run.id := congrArg (fun run => run.id) hrun
      have hpending : run.suspension = some suspension := (Option.filter_eq_some_iff.mp hwaits).1
      have hbase : Standing.Kept { standing with run := some run } ρ :=
        ⟨hstored, h.token, h.alarms⟩
      exact hbase.awaiting hid (Run.fixed_suspension ρ hrun hpending) deadline

end Standing

/-! ## What is done keeps identifiers -/

namespace World

variable {world world' : World} {ρ : Renaming} {run : Run} {graph : Graph}
  {payload : Option Payload}

/-- Storing a run and setting its alarms gives out no identifiers. -/
theorem supply_persist (world : World) (run : Run) :
    (world.persist run).supply = world.supply := by
  unfold persist
  split
  · unfold awaiting
    split <;> split <;> rfl
  · rfl

/-- A drive gives out identifiers, and takes none back. -/
theorem supply_driven (world : World) (graph : Graph) (run : Run) (payload : Option Payload) :
    (world.driven graph run payload).2.supply =
      (world.act (run.drive world.bounds graph payload)).2.supply :=
  supply_persist _ _

/-- A run that keeps its identifiers is driven alike in two worlds that belong together. -/
theorem driven_renamed {runs tokens : Nat} (h : ρ.Carries runs tokens world world')
    (hbounds : world'.bounds = world.bounds) (hrun : run.renamed ρ = run)
    (hruns : (world.driven graph run payload).2.supply.runs ≤ runs)
    (htokens : (world.driven graph run payload).2.supply.tokens ≤ tokens) :
    (world'.driven graph run payload).1 = (world.driven graph run payload).1.renamed ρ ∧
      world.Apace (world.driven graph run payload).2 world'
        (world'.driven graph run payload).2 := by
  have hsupply := world.supply_driven graph run payload
  have hsupply' := world'.supply_driven graph run payload
  rw [hsupply] at hruns htokens
  rw [hbounds] at hsupply'
  have hdrive : Acting.RunRenames ρ (run.drive world.bounds graph payload)
      (run.drive world.bounds graph payload) := Run.renames_drive hrun graph payload
  obtain ⟨hvalue, -, hpace⟩ := h.act hdrive hruns htokens
  refine ⟨?_, ⟨?_, ?_⟩⟩
  · unfold driven
    rw [hbounds]
    exact hvalue
  · rw [hsupply, hsupply']
    exact hpace.runs
  · rw [hsupply, hsupply']
    exact hpace.tokens

/-- Identifiers were given out between two worlds, if at all, and none was taken back; the
collaborators are the same. -/
structure Grown (before after : World) : Prop where
  collaborators : after.collaborators = before.collaborators
  firstRun : after.supply.firstRun = before.supply.firstRun
  runs : before.supply.runs ≤ after.supply.runs
  firstToken : after.supply.firstToken = before.supply.firstToken
  tokens : before.supply.tokens ≤ after.supply.tokens

theorem Grown.trans {first second third : World} (h : first.Grown second)
    (h' : second.Grown third) : first.Grown third where
  collaborators := h'.collaborators.trans h.collaborators
  firstRun := h'.firstRun.trans h.firstRun
  runs := Nat.le_trans h.runs h'.runs
  firstToken := h'.firstToken.trans h.firstToken
  tokens := Nat.le_trans h.tokens h'.tokens

theorem Grown.of_act {α : Type} (world : World) (acting : Acting α) :
    world.Grown (world.act acting).2 where
  collaborators := (world.later_act acting).collaborators
  firstRun := (world.ahead_act acting).firstRun
  runs := (world.ahead_act acting).runs
  firstToken := (world.later_act acting).firstToken
  tokens := (world.later_act acting).tokens

/-- Nothing was given out if the supply is the same. -/
theorem Grown.of_supply (hcollaborators : world'.collaborators = world.collaborators)
    (hsupply : world'.supply = world.supply) : world.Grown world' where
  collaborators := hcollaborators
  firstRun := congrArg Supply.firstRun hsupply
  runs := Nat.le_of_eq (congrArg Supply.runs hsupply.symm)
  firstToken := congrArg Supply.firstToken hsupply
  tokens := Nat.le_of_eq (congrArg Supply.tokens hsupply.symm)

theorem grown_driven (world : World) (graph : Graph) (run : Run) (payload : Option Payload) :
    world.Grown (world.driven graph run payload).2 :=
  (Grown.of_act world (run.drive world.bounds graph payload)).trans
    (.of_supply (later_persist _).collaborators (supply_persist _ _))

/-- Whatever happens to a world, no identifier is taken back. -/
theorem Change.grown (h : Change world world') : world.Grown world' := by
  cases h with
  | catalog catalog => exact .of_supply rfl rfl
  | begin graph request node new =>
      have hnew : world.Grown world.newRun.2 := .of_act world Acting.newRun
      exact hnew.trans (grown_driven _ _ _ _)
  | @resume run event suspension graph stored accepted =>
      have hunalarmed : world.Grown (world.unalarmed run.id) := .of_supply rfl rfl
      exact hunalarmed.trans (grown_driven _ _ _ _)
  | terminate kind message stored unended => exact .of_supply rfl rfl
  | recover =>
      have hstill : world.Still (world.recovered (world.store.all (some .paused))) :=
        still_recovered _
      exact ⟨hstill.collaborators, hstill.firstRun, Nat.le_of_eq hstill.runs.symm,
        hstill.firstToken, hstill.tokens⟩

/-- What keeps the identifiers of a world keeps those that were given out before. -/
theorem Grown.keeps (h : world.Grown world') (hkeeps : ρ.Keeps world') : ρ.Keeps world where
  run := by
    rintro _ ⟨n, hn, rfl⟩
    exact hkeeps.run _ ⟨n, Nat.lt_of_lt_of_le hn h.runs, by rw [h.firstRun]⟩
  token := by
    rintro _ ⟨n, hn, rfl⟩
    exact hkeeps.token _ ⟨n, Nat.lt_of_lt_of_le hn h.tokens, by rw [h.firstToken]⟩

/-- A world answers as it does itself, as long as the identifiers that it gives out are kept. -/
theorem Grown.carries (h : world.Grown world') (hkeeps : ρ.Keeps world')
    (hforgetful : world.collaborators.Forgetful) :
    ρ.Carries world'.supply.runs world'.supply.tokens world world where
  flow := rfl
  collaborators := rfl
  forgetful := hforgetful
  run := fun n hn => hkeeps.run _ ⟨_, hn, by rw [h.firstRun]⟩
  token := fun n hn => hkeeps.token _ ⟨_, hn, by rw [h.firstToken]⟩

/-! ## Identifiers in store and timers -/

/-- Collaborators do not remember, and whatever leaves alone what was given out leaves alone how
every run stands. -/
structure Settled (world : World) : Prop where
  forgetful : world.collaborators.Forgetful
  standing : ∀ ρ : Renaming, ρ.Keeps world → ∀ id, (world.standing id).Kept ρ

/-- A stored run keeps its identifiers. -/
theorem Settled.fixed (h : world.Settled) (hkeeps : ρ.Keeps world)
    (hrun : world.store.find? run.id = some run) : run.renamed ρ = run :=
  (h.standing ρ hkeeps run.id).run run hrun

/-- A drive that gives out what is kept leaves a standing whose identifiers are kept. -/
theorem kept_driven (hforgetful : world.collaborators.Forgetful) (hrun : run.renamed ρ = run)
    (hkeeps : ρ.Keeps (world.driven graph run payload).2) (id : Identifier)
    (hkept : (world.standing id).Kept ρ) :
    ((world.driven graph run payload).2.standing id).Kept ρ := by
  have hcarries := (world.grown_driven graph run payload).carries hkeeps hforgetful
  have hdriven := (driven_renamed hcarries rfl hrun (Nat.le_refl _) (Nat.le_refl _)).1
  rw [standing_driven]
  split
  · exact hkept.persisted hdriven.symm _
  · exact hkept

theorem kept_recovered {runs : List Run} (hruns : ∀ run ∈ runs, run.renamed ρ = run)
    {id : Identifier} (hkept : (world.standing id).Kept ρ) :
    ((world.recovered runs).standing id).Kept ρ := by
  induction runs generalizing world with
  | nil => exact hkept
  | cons run rest ih =>
      have hrun := hruns run (.head _)
      have hrest : ∀ other ∈ rest, other.renamed ρ = other :=
        fun other hother => hruns other (.tail _ hother)
      unfold recovered
      cases hpending : run.suspension with
      | none => exact ih hrest hkept
      | some suspension =>
          have hid : ρ.run run.id = run.id := congrArg (fun run => run.id) hrun
          refine ih hrest ?_
          rw [standing_awaiting]
          split
          · exact hkept.awaiting hid (Run.fixed_suspension ρ hrun hpending) _
          · exact hkept

/-- Whatever happens to a world, it stays settled. -/
theorem Change.settled (h : Change world world') (hwatched : world.Watched)
    (hsettled : world.Settled) : world'.Settled := by
  have hgrown := h.grown
  have hforgetful : world'.collaborators.Forgetful := by
    rw [hgrown.collaborators]
    exact hsettled.forgetful
  refine ⟨hforgetful, fun ρ hkeeps id => ?_⟩
  have hearlier := hgrown.keeps hkeeps
  have hkept := hsettled.standing ρ hearlier id
  cases h with
  | catalog catalog => exact hkept
  | begin graph request node new =>
      have hforgets : world.newRun.2.collaborators.Forgetful := hsettled.forgetful
      refine kept_driven hforgets ?_ hkeeps id hkept
      have hid := ((world.newRun.2.grown_driven _ _ _).keeps hkeeps).run world.newRun.1
        (named_newRun_iff.mpr (.inl rfl))
      simp [Run.fresh, Run.ofLevel, Run.renamed, Level.fresh, Level.renamed, History.renamed, hid]
  | @resume run event suspension graph stored accepted =>
      have hforgets : (world.unalarmed run.id).collaborators.Forgetful := hsettled.forgetful
      refine kept_driven hforgets (hsettled.fixed hearlier stored) hkeeps id ?_
      rw [standing_unalarmed]
      split
      · exact .of_run hkept.run
      · exact hkept
  | @terminate run kind message stored unended =>
      rw [standing_terminate]
      split
      · refine .of_run ?_
        rintro _ ⟨⟩
        rw [run.renamed_terminate, hsettled.fixed hearlier stored]
      · exact hkept
  | recover =>
      refine kept_recovered (fun run hrun => hsettled.fixed hearlier ?_) hkept
      exact hwatched.ascending.find? (Store.mem_all.mp hrun).1

/-! ## Every world that an engine comes to -/

/-- The world when time has passed for the timers; the alarms that went off are gone. -/
def elapsed (world : World) (limit : Nat) : World :=
  { world with timers := (world.timers.advanceTo limit).2 }

/-- What becomes of a world by orders, each at any time, and by the passing of time. -/
inductive LeadsTo (first : World) : World → Prop
  | here : LeadsTo first first
  | order {world : World} (now : Instant) (order : Order) (reached : LeadsTo first world) :
      LeadsTo first ((world.atTime now).carryOut order)
  | elapse {world : World} (limit : Nat) (reached : LeadsTo first world) :
      LeadsTo first (world.elapsed limit)

/-- Nobody waits, and store, timers and supply go together. -/
structure Composed (world : World) : Prop extends world.Ready where
  numbered : world.Numbered
  watched : world.Watched
  settled : world.Settled

theorem Composed.atTime (h : world.Composed) (now : Instant) : (world.atTime now).Composed where
  toReady := h.toReady.atTime now
  numbered := h.numbered
  watched := ⟨h.watched.token, h.watched.distinct, h.watched.ascending⟩
  settled := ⟨h.settled.forgetful, fun ρ hkeeps => h.settled.standing ρ ⟨hkeeps.run, hkeeps.token⟩⟩

theorem Composed.carryOut (h : world.Composed) (order : Order) :
    (world.carryOut order).Composed := by
  have hstep {before after : World} (hchange : Change before after)
      (hgood : before.Watched ∧ before.Settled) : after.Watched ∧ after.Settled :=
    ⟨hchange.watched hgood.1, hchange.settled hgood.1 hgood.2⟩
  have hkept : (world.carryOut order).Watched ∧ (world.carryOut order).Settled :=
    (carryOut_changes h.toReady h.numbered order).keeps hstep ⟨h.watched, h.settled⟩
  exact ⟨h.toReady.carryOut order, h.numbered.carryOut h.toReady order, hkept.1, hkept.2⟩

/-- Alarms that go off are removed, and nothing else changes. -/
theorem Composed.elapsed (h : world.Composed) (limit : Nat) : (world.elapsed limit).Composed where
  toReady := ⟨⟨h.holds, h.free⟩, h.store⟩
  numbered := h.numbered
  watched := ⟨h.watched.token, h.watched.distinct, h.watched.ascending⟩
  settled := by
    refine ⟨h.settled.forgetful, fun ρ hkeeps id => ?_⟩
    have hkept := h.settled.standing ρ ⟨hkeeps.run, hkeeps.token⟩ id
    refine ⟨hkept.run, hkept.token, fun alarm halarm => hkept.alarms alarm ?_⟩
    have hleft : alarm ∈ (world.timers.alarms.dropWhile (·.deadline ≤ limit)).filter
        (·.firing.run == id) := halarm
    exact ((List.dropWhile_sublist _).filter _).subset hleft

theorem Composed.leadsTo (h : world.Composed) (hleads : world.LeadsTo world') :
    world'.Composed := by
  induction hleads with
  | here => exact h
  | order now order _ ih => exact (ih.atTime now).carryOut order
  | elapse limit _ ih => exact ih.elapsed limit

/-- An engine whose collaborators answer only what they are asked begins in order. -/
theorem composed_openedWith (registry : Registry) (settings : Settings) (start : Instant)
    (definitions : List Flow) (send : String → Message → Except DispatchError String)
    (assign : String → String → Except AssignmentError Unit) (supply : Supply) :
    (openedWith registry settings start definitions (fun _ => send) (fun _ => assign)
      supply).Composed where
  toReady := ready_openedWith ..
  numbered := numbered_openedWith registry settings start definitions _ _ supply
  watched := by
    refine ⟨fun id => ?_, ?_, ?_⟩
    · rfl
    · exact List.nodup_nil
    · exact List.Pairwise.nil
  settled := by
    refine ⟨⟨fun _ _ => rfl, fun _ _ => rfl⟩, fun ρ _ id => ?_⟩
    exact .of_run fun run hrun => absurd hrun (Option.not_mem_none _)

end World

end Dialogue
