import Mathlib.Data.Multiset.Filter
import Dialogue.Proofs.Drive.Renaming
import Dialogue.Proofs.World.Renaming
import Dialogue.Proofs.Engine.Watch

/-!
# How a run stands

All that the engine keeps about one run: its stored state, the suspension that
its timers are for, and its alarms.  Everything that an operation does to store
and timers concerns one run; it says how that run stands afterwards and leaves
the others as they stand.
-/

namespace Dialogue

/-- An alarm of a run and a suspension under other identifiers. -/
def Alarm.renamed (alarm : Alarm) (ρ : Renaming) : Alarm :=
  { alarm with
    firing := { alarm.firing with
      run := ρ.run alarm.firing.run
      token := ρ.token alarm.firing.token } }

/-- How a run stands: its stored state, the token that its timers are for, and its alarms. -/
structure Standing where
  run : Option Run
  token : Option Identifier
  alarms : Multiset Alarm

namespace Standing

/-- How a run stands under other identifiers. -/
def renamed (standing : Standing) (ρ : Renaming) : Standing where
  run := standing.run.map (·.renamed ρ)
  token := standing.token.map ρ.token
  alarms := standing.alarms.map (·.renamed ρ)

/-- An alarm is added to those of the same suspension, or takes the place of others. -/
def alarmed (standing : Standing) (alarm : Alarm) : Standing :=
  if standing.token = some alarm.firing.token then
    { standing with alarms := alarm ::ₘ standing.alarms }
  else { standing with token := some alarm.firing.token, alarms := {alarm} }

/-- The alarms of a suspension are set, each with the deadline of its instant. -/
def awaiting (standing : Standing) (run : Identifier) (suspension : Suspension)
    (deadline : Instant → Nat) : Standing :=
  let standing :=
    match suspension.resumeAt? with
    | some time => standing.alarmed ⟨⟨run, suspension.token, .resume⟩, deadline time⟩
    | none => standing
  match suspension.expiresAt with
  | some time => standing.alarmed ⟨⟨run, suspension.token, .expire⟩, deadline time⟩
  | none => standing

/-- A run is stored and its alarms are set to what it waits for. -/
def persisted (standing : Standing) (run : Run) (deadline : Instant → Nat) : Standing :=
  match run.suspension.filter fun _ => run.isPaused with
  | some suspension =>
    { standing with run := some run }.awaiting run.id suspension deadline
  | none => ⟨some run, none, 0⟩

variable {ρ : Renaming} (standing : Standing) (deadline : Instant → Nat)

theorem renamed_alarmed (hρ : Function.Injective ρ.token) (alarm : Alarm) :
    (standing.alarmed alarm).renamed ρ = (standing.renamed ρ).alarmed (alarm.renamed ρ) := by
  have htoken : (standing.renamed ρ).token = some (alarm.renamed ρ).firing.token ↔
      standing.token = some alarm.firing.token :=
    Option.map_injective hρ |>.eq_iff (b := some alarm.firing.token)
  unfold alarmed
  by_cases h : standing.token = some alarm.firing.token
  · rw [if_pos h, if_pos (htoken.mpr h)]
    simp [renamed]
  · rw [if_neg h, if_neg fun h' => h (htoken.mp h')]
    simp [renamed, Alarm.renamed]

theorem renamed_awaiting (hρ : Function.Injective ρ.token) (run : Identifier)
    (suspension : Suspension) :
    (standing.awaiting run suspension deadline).renamed ρ =
      (standing.renamed ρ).awaiting (ρ.run run) (suspension.renamed ρ) deadline := by
  have hresume : (suspension.renamed ρ).resumeAt? = suspension.resumeAt? := rfl
  have hexpires : (suspension.renamed ρ).expiresAt = suspension.expiresAt := rfl
  unfold awaiting
  rw [hresume, hexpires]
  cases suspension.resumeAt? <;> cases suspension.expiresAt <;>
    simp only [renamed_alarmed _ hρ] <;> rfl

theorem renamed_persisted (hρ : Function.Injective ρ.token) (run : Run) :
    (standing.persisted run deadline).renamed ρ =
      (standing.renamed ρ).persisted (run.renamed ρ) deadline := by
  have hwaits : (run.renamed ρ).suspension.filter (fun _ => (run.renamed ρ).isPaused) =
      (run.suspension.filter fun _ => run.isPaused).map (·.renamed ρ) := by
    change (run.suspension.map (·.renamed ρ)).filter (fun _ => run.isPaused) = _
    cases run.suspension with
    | none => rfl
    | some suspension => cases run.isPaused <;> rfl
  unfold persisted
  rw [hwaits]
  cases run.suspension.filter fun _ => run.isPaused with
  | none => rfl
  | some suspension => exact renamed_awaiting _ deadline hρ run.id suspension

end Standing

/-! ## The alarms of one run -/

namespace Timers

/-- The alarms of a run. -/
def alarmsOf (timers : Timers) (run : Identifier) : Multiset Alarm :=
  timers.alarms.filter (·.firing.run == run)

theorem perm_place (alarm : Alarm) (alarms : List Alarm) :
    (place alarm alarms).Perm (alarm :: alarms) := by
  induction alarms with
  | nil => exact .refl _
  | cons first rest ih =>
      unfold place
      split
      · exact .refl _
      · exact (ih.cons first).trans (.swap alarm first rest)

variable (timers : Timers) (id : Identifier)

theorem alarmsOf_cancel (run : Identifier) :
    (timers.cancel run).alarmsOf id = if run = id then 0 else timers.alarmsOf id := by
  change (((timers.alarms.filter (·.firing.run != run)).filter (·.firing.run == id) : List Alarm) :
    Multiset Alarm) = _
  rw [List.filter_filter]
  split
  · next hid =>
    subst hid
    have hnone : timers.alarms.filter
        (fun alarm => (alarm.firing.run == run) && (alarm.firing.run != run)) = [] := by
      simp [bne]
    rw [hnone]
    rfl
  · next hid =>
    refine congrArg Multiset.ofList (List.filter_congr fun alarm _ => ?_)
    by_cases hrun : alarm.firing.run = id
    · simp [hrun, Ne.symm hid]
    · simp [hrun]

theorem alarmsOf_place (alarm : Alarm) :
    ({ timers with alarms := place alarm timers.alarms } : Timers).alarmsOf id =
      if alarm.firing.run = id then alarm ::ₘ timers.alarmsOf id else timers.alarmsOf id := by
  have hperm : (Multiset.ofList ((place alarm timers.alarms).filter (·.firing.run == id))) =
      Multiset.ofList ((alarm :: timers.alarms).filter (·.firing.run == id)) :=
    Multiset.coe_eq_coe.mpr ((perm_place alarm timers.alarms).filter _)
  refine hperm.trans ?_
  split
  · next hid => rw [List.filter_cons_of_pos (by simpa using hid)]; rfl
  · next hid => rw [List.filter_cons_of_neg (by simpa using hid)]; rfl

/-- An alarm is added to those of its suspension, and alarms of another one are removed. -/
theorem alarmsOf_scheduleIn (firing : Firing) (length : Nat) :
    (timers.scheduleIn firing length).alarmsOf id =
      if firing.run = id then
        if timers.token? id = some firing.token then
          ⟨firing, timers.clock + length⟩ ::ₘ timers.alarmsOf id
        else {⟨firing, timers.clock + length⟩}
      else timers.alarmsOf id := by
  unfold scheduleIn
  by_cases htoken : timers.token? firing.run = some firing.token
  · rw [if_pos htoken]
    refine (timers.alarmsOf_place id _).trans ?_
    split
    · next hid => rw [if_pos (hid ▸ htoken)]
    · rfl
  · rw [if_neg htoken]
    refine (alarmsOf_place ⟨_, _, _⟩ id _).trans ?_
    change (if firing.run = id then _ ::ₘ (timers.cancel firing.run).alarmsOf id
      else (timers.cancel firing.run).alarmsOf id) = _
    rw [alarmsOf_cancel]
    split
    · next hid =>
      rw [if_neg (hid ▸ htoken)]
      rfl
    · rfl

end Timers

/-! ## What is done to store and timers -/

namespace World

/-- How a run stands in a world. -/
def standing (world : World) (id : Identifier) : Standing where
  run := world.store.find? id
  token := world.timers.token? id
  alarms := world.timers.alarmsOf id

/-- When an alarm for an instant goes off. -/
def deadline (world : World) (time : Instant) : Nat :=
  world.timers.clock + Timers.wait world.bounds.now time

variable (world : World) (id : Identifier)

theorem standing_keep (run : Run) :
    (world.keep run).standing id =
      if run.id = id then { world.standing id with run := some run } else world.standing id := by
  have hfind : (world.keep run).store.find? id = _ := world.store.find?_put run id
  unfold standing
  rw [hfind]
  split <;> rfl

theorem standing_unalarmed (run : Identifier) :
    (world.unalarmed run).standing id =
      if run = id then ⟨world.store.find? id, none, 0⟩ else world.standing id := by
  have htoken : (world.unalarmed run).timers.token? id = _ := world.timers.token?_cancel run id
  have halarms : (world.unalarmed run).timers.alarmsOf id = _ := world.timers.alarmsOf_cancel id run
  unfold standing
  rw [htoken, halarms]
  split <;> rfl

theorem standing_alarmed (firing : Firing) (time : Instant) :
    (world.alarmed firing time).standing id =
      if firing.run = id then (world.standing id).alarmed ⟨firing, world.deadline time⟩
      else world.standing id := by
  have htoken : (world.alarmed firing time).timers.token? id = _ :=
    world.timers.token?_scheduleIn firing _ id
  have halarms : (world.alarmed firing time).timers.alarmsOf id = _ :=
    world.timers.alarmsOf_scheduleIn id firing _
  unfold standing Standing.alarmed
  rw [htoken, halarms]
  split
  · dsimp only
    by_cases hown : world.timers.token? id = some firing.token
    · rw [if_pos hown, if_pos hown, hown]
      rfl
    · rw [if_neg hown, if_neg hown]
      rfl
  · rfl

/-- Setting alarms lets no time pass. -/
theorem deadline_alarmed (firing : Firing) (time : Instant) :
    (world.alarmed firing time).deadline = world.deadline := by
  have hclock : (world.alarmed firing time).timers.clock = world.timers.clock := by
    change (world.timers.scheduleIn firing _).clock = _
    unfold Timers.scheduleIn
    dsimp only
    split <;> rfl
  funext instant
  unfold deadline
  rw [hclock]
  rfl

theorem deadline_awaiting (run : Identifier) (suspension : Suspension) :
    (world.awaiting run suspension).deadline = world.deadline := by
  unfold awaiting
  cases suspension.resumeAt? <;> cases suspension.expiresAt <;> simp only [deadline_alarmed]

theorem standing_awaiting (run : Identifier) (suspension : Suspension) :
    (world.awaiting run suspension).standing id =
      if run = id then (world.standing id).awaiting run suspension world.deadline
      else world.standing id := by
  unfold awaiting Standing.awaiting
  cases suspension.resumeAt? <;> cases suspension.expiresAt <;>
    simp only [standing_alarmed, deadline_alarmed] <;> split <;> rfl

/-- What is persisted concerns one run. -/
theorem standing_persist (run : Run) :
    (world.persist run).standing id =
      if run.id = id then (world.standing id).persisted run world.deadline
      else world.standing id := by
  unfold persist Standing.persisted
  cases run.suspension.filter fun _ => run.isPaused with
  | none =>
      dsimp only
      rw [standing_unalarmed, standing_keep]
      split
      · next hid =>
        have hfind : (world.keep run).store.find? id = _ := world.store.find?_put run id
        rw [hfind, if_pos hid]
      · rfl
  | some suspension =>
      dsimp only
      rw [standing_awaiting, standing_keep]
      split <;> rfl

theorem deadline_persist (run : Run) : (world.persist run).deadline = world.deadline := by
  unfold persist
  split
  · exact deadline_awaiting _ _ _
  · rfl

/-- What happens within a run changes no standing, its own neither. -/
theorem standing_act {α : Type} (acting : Acting α) :
    (world.act acting).2.standing id = world.standing id := by
  unfold standing
  rw [(world.later_act acting).store, world.timers_act acting]

theorem deadline_act {α : Type} (acting : Acting α) :
    (world.act acting).2.deadline = world.deadline := by
  unfold deadline
  rw [(world.later_act acting).bounds, world.timers_act acting]

theorem standing_terminate (run : Run) (kind : FailureKind) (message : String) :
    (world.terminate run kind message).2.standing id =
      if run.id = id then ⟨some (run.terminate kind message world.bounds.now), none, 0⟩
      else world.standing id := by
  have hid : (run.terminate kind message world.bounds.now).id = run.id :=
    (Run.unwind_ended kind message world.bounds.now run.toLevel run.nested).1.id
  have hkept := ((world.unalarmed run.id).told world.bounds
    (run.terminate kind message world.bounds.now) run.node (.runFailed kind message)).standing_keep
      id (run.terminate kind message world.bounds.now)
  refine hkept.trans ?_
  change (if (run.terminate kind message world.bounds.now).id = id then
    { (world.unalarmed run.id).standing id with
      run := some (run.terminate kind message world.bounds.now) }
    else (world.unalarmed run.id).standing id) = _
  rw [hid, standing_unalarmed]
  split <;> rfl

/-- A drive concerns the run that is driven. -/
theorem standing_driven (graph : Graph) (run : Run) (payload : Option Payload) :
    (world.driven graph run payload).2.standing id =
      if run.id = id then
        (world.standing id).persisted (world.driven graph run payload).1 world.deadline
      else world.standing id := by
  have hid : (world.driven graph run payload).1.id = run.id :=
    (Drive.course_drive world.bounds world run graph payload).sameRun.id
  unfold driven at hid ⊢
  dsimp only at hid ⊢
  rw [standing_persist, hid, standing_act, deadline_act]

theorem deadline_driven (graph : Graph) (run : Run) (payload : Option Payload) :
    (world.driven graph run payload).2.deadline = world.deadline :=
  (deadline_persist _ _).trans (world.deadline_act _)

end World

end Dialogue
