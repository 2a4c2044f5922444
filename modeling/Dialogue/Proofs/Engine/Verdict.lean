import Dialogue.Proofs.Engine.Errand
import Dialogue.Proofs.Engine.Settled

/-!
# What a call decides

A call on a stored run looks at that run, at the time and at the run's flow, and
decides to leave the run, to terminate it or to drive it.  What it decides is a
verdict, and what the verdict does concerns this run only.  So other runs have no
part in what it decides, and other identifiers none in what it does.
-/

namespace Dialogue

open Engine

/-- What a call does about a run, and what it answers when the run has become another one. -/
inductive Verdict (α : Type) where
  | leave (answer : α)
  | terminate (run : Run) (kind : FailureKind) (message : String) (answer : Run → α)
  | drive (graph : Graph) (run : Run) (payload : Payload) (answer : Run → α)

namespace Verdict

variable {α β : Type}

/-- A verdict with another answer. -/
def map (f : α → β) : Verdict α → Verdict β
  | .leave answer => .leave (f answer)
  | .terminate run kind message answer => .terminate run kind message (f ∘ answer)
  | .drive graph run payload answer => .drive graph run payload (f ∘ answer)

/-- A verdict is about the run of an identifier, which a renaming leaves alone; and the answer is
renamed with what becomes of the run. -/
inductive About (id : Identifier) (ρ : Renaming) (f : α → α) : Verdict α → Prop
  | leave {answer : α} (hanswer : f answer = answer) : About id ρ f (.leave answer)
  | terminate {run kind message} {answer : Run → α} (hid : run.id = id)
      (hrun : run.renamed ρ = run)
      (hanswer : ∀ after, f (answer after) = answer (after.renamed ρ)) :
      About id ρ f (.terminate run kind message answer)
  | drive {graph run payload} {answer : Run → α} (hid : run.id = id)
      (hrun : run.renamed ρ = run)
      (hanswer : ∀ after, f (answer after) = answer (after.renamed ρ)) :
      About id ρ f (.drive graph run payload answer)

theorem About.map {id : Identifier} {ρ : Renaming} {f : α → α} {f' : β → β}
    {verdict : Verdict α} (h : verdict.About id ρ f) (g : α → β)
    (hg : ∀ answer, f' (g answer) = g (f answer)) : (verdict.map g).About id ρ f' := by
  cases h with
  | leave hanswer => exact .leave ((hg _).trans (congrArg g hanswer))
  | terminate hid hrun hanswer =>
      exact .terminate hid hrun fun after => (hg _).trans (congrArg g (hanswer after))
  | drive hid hrun hanswer =>
      exact .drive hid hrun fun after => (hg _).trans (congrArg g (hanswer after))

end Verdict

/-- A report about a run under other identifiers. -/
def Report.renamed (report : Report) (ρ : Renaming) : Report :=
  match report with
  | .resumed result => .resumed (result.map (·.renamed ρ))
  | .cancelled result => .cancelled (result.map (·.renamed ρ))
  | .expired result => .expired (result.map (Option.map (·.renamed ρ)))
  | .handled => .handled

namespace World

variable {α β : Type} (world : World)

/-! ## Deciding -/

/-- What resuming a run with an event comes to. -/
def resumption (id : Identifier) (event : Wakeup) : Verdict (Except ResumeError Run) :=
  match world.store.find? id with
  | none => .leave (.error (.notFound id))
  | some run =>
    match checkResumable run event with
    | .error e => .leave (.error e)
    | .ok suspension =>
      if suspension.isOverdue world.bounds.now then
        .terminate run .timeout expiredMessage fun _ => .error (.stale run.id expiredMessage)
      else
        match world.flow run.flow with
        | .error e => .leave (.error (.flow e))
        | .ok graph => .drive graph run event.payload .ok

/-- What cancelling a run comes to. -/
def cancellation (id : Identifier) : Verdict (Except FlowError Run) :=
  match world.store.find? id with
  | none => .leave (.error (.runNotFound id))
  | some run =>
    if run.isTerminal then .leave (.ok run) else .terminate run .cancelled "run cancelled" .ok

/-- What timing a run out comes to. -/
def expiry (id : Identifier) (token : Option Identifier) (time : Instant) :
    Verdict (Except FlowError (Option Run)) :=
  match world.store.find? id with
  | none => .leave (.error (.runNotFound id))
  | some run =>
    if isDue run token time then
      .terminate run .timeout expiredMessage fun ended => .ok (some ended)
    else .leave (.ok none)

/-- What any call on a run comes to. -/
def verdict (id : Identifier) : Errand → Verdict Report
  | .resume event => (world.resumption id event).map .resumed
  | .cancel => (world.cancellation id).map .cancelled
  | .expire time => (world.expiry id none time).map .expired
  | .fire token .resume => (world.resumption id (.timer token)).map fun _ => .handled
  | .fire token .expire => (world.expiry id (some token) world.bounds.now).map fun _ => .handled

/-- The world when a run is about to be driven: its flow was looked up, its alarms are removed. -/
def cleared (run : Run) : World := (world.look run.flow).2.unalarmed run.id

/-- Does what a verdict says. -/
def enact : Verdict α → α × World
  | .leave answer => (answer, world)
  | .terminate run kind message answer =>
    let (ended, after) := world.terminate run kind message
    (answer ended, after)
  | .drive graph run payload answer =>
    let (driven, after) := (world.cleared run).driven graph run (some payload)
    (answer driven, after)

/-! ## Every call does what it decides -/

theorem enact_map (f : α → β) (verdict : Verdict α) :
    world.enact (verdict.map f) = (f (world.enact verdict).1, (world.enact verdict).2) := by
  cases verdict <;> rfl

variable {world}

theorem obey_resume_eq (hstore : world.store.outage = {}) (id : Identifier) (event : Wakeup) :
    world.obey (resume world.bounds id event) = world.enact (world.resumption id event) := by
  rw [obey_resume hstore, resumption]
  cases hrun : world.store.find? id with
  | none => rfl
  | some run =>
      dsimp only [resumed]
      cases checkResumable run event with
      | error e => rfl
      | ok suspension =>
          dsimp only
          split
          · rfl
          · cases hflow : world.flow run.flow with
            | error e =>
                rw [look_of_error hflow]
                rfl
            | ok graph =>
                have hlook : world.look run.flow = (.ok graph, (world.look run.flow).2) :=
                  Prod.ext hflow rfl
                rw [hlook]
                rfl

theorem obey_cancel_eq (hstore : world.store.outage = {}) (id : Identifier) :
    world.obey (cancel world.bounds id) = world.enact (world.cancellation id) := by
  rw [obey_cancel hstore, cancellation]
  cases world.store.find? id with
  | none => rfl
  | some run =>
      dsimp only
      split <;> rfl

theorem obey_expireAt_eq (hstore : world.store.outage = {}) (id : Identifier)
    (token : Option Identifier) (time : Instant) :
    world.obey (expireAt world.bounds id token time) =
      world.enact (world.expiry id token time) := by
  rw [obey_expireAt hstore, expiry]
  cases world.store.find? id with
  | none => rfl
  | some run =>
      dsimp only
      split <;> rfl

/-- Where nobody else is at work, a call does what it decides. -/
theorem obey_errand (hstore : world.store.outage = {}) (id : Identifier) (errand : Errand) :
    world.obey (errand.operation world.bounds id) = world.enact (world.verdict id errand) := by
  cases errand with
  | resume event =>
      rw [Errand.operation, obey_bind, obey_resume_eq hstore, verdict, enact_map]
      rfl
  | cancel =>
      rw [Errand.operation, obey_bind, obey_cancel_eq hstore, verdict, enact_map]
      rfl
  | expire time =>
      rw [Errand.operation, obey_bind, obey_expireAt_eq hstore, verdict, enact_map]
      rfl
  | fire token action =>
      have hhandled := obey_handleFiring hstore ⟨id, token, action⟩
      rw [Errand.operation, obey_bind, hhandled]
      cases action with
      | resume =>
          dsimp only
          rw [obey_resume_eq hstore, verdict, enact_map]
          rfl
      | expire =>
          dsimp only
          rw [obey_expireAt_eq hstore, verdict, enact_map]
          rfl

/-- A call decides by the run, the time and the flows. -/
theorem verdict_congr {other : World} {id : Identifier}
    (hfind : other.store.find? id = world.store.find? id) (hbounds : other.bounds = world.bounds)
    (hflow : other.flow = world.flow) (errand : Errand) :
    other.verdict id errand = world.verdict id errand := by
  have hresume (event : Wakeup) : other.resumption id event = world.resumption id event := by
    unfold resumption
    rw [hfind, hbounds, hflow]
  have hexpire (token : Option Identifier) (time : Instant) :
      other.expiry id token time = world.expiry id token time := by
    unfold expiry
    rw [hfind]
  have hcancel : other.cancellation id = world.cancellation id := by
    unfold cancellation
    rw [hfind]
  unfold verdict
  rw [hcancel, hbounds]
  simp only [hresume, hexpire]

/-! ## What verdicts are about -/

section

variable {ρ : Renaming} {id : Identifier}
  (hrun : ∀ run, world.store.find? id = some run → run.renamed ρ = run)

include hrun

theorem about_resumption (event : Wakeup) :
    (world.resumption id event).About id ρ (Except.map (·.renamed ρ)) := by
  unfold resumption
  cases hfound : world.store.find? id with
  | none => exact .leave rfl
  | some run =>
      dsimp only
      cases checkResumable run event with
      | error e => exact .leave rfl
      | ok suspension =>
          dsimp only
          split
          · exact .terminate (Store.id_of_find? hfound) (hrun run hfound) fun _ => rfl
          · cases world.flow run.flow with
            | error e => exact .leave rfl
            | ok graph => exact .drive (Store.id_of_find? hfound) (hrun run hfound) fun _ => rfl

theorem about_cancellation :
    (world.cancellation id).About id ρ (Except.map (·.renamed ρ)) := by
  unfold cancellation
  cases hfound : world.store.find? id with
  | none => exact .leave rfl
  | some run =>
      dsimp only
      split
      · exact .leave (congrArg Except.ok (hrun run hfound))
      · exact .terminate (Store.id_of_find? hfound) (hrun run hfound) fun _ => rfl

theorem about_expiry (token : Option Identifier) (time : Instant) :
    (world.expiry id token time).About id ρ (Except.map (Option.map (·.renamed ρ))) := by
  unfold expiry
  cases hfound : world.store.find? id with
  | none => exact .leave rfl
  | some run =>
      dsimp only
      split
      · exact .terminate (Store.id_of_find? hfound) (hrun run hfound) fun _ => rfl
      · exact .leave rfl

/-- A call on a run concerns this run, and other identifiers have no part in its report. -/
theorem about_verdict (errand : Errand) :
    (world.verdict id errand).About id ρ (·.renamed ρ) := by
  cases errand with
  | resume event => exact (about_resumption hrun event).map _ fun _ => rfl
  | cancel => exact (about_cancellation hrun).map _ fun _ => rfl
  | expire time => exact (about_expiry hrun none time).map _ fun _ => rfl
  | fire token action =>
      cases action with
      | resume => exact (about_resumption hrun (.timer token)).map _ fun _ => rfl
      | expire => exact (about_expiry hrun (some token) world.bounds.now).map _ fun _ => rfl

end

/-! ## What verdicts do -/

/-- What a call on a run leaves alone. -/
structure Beside (before after : World) : Prop extends before.Grown after where
  bounds : after.bounds = before.bounds
  flow : after.flow = before.flow
  deadline : after.deadline = before.deadline

theorem Beside.trans {first second third : World} (h : first.Beside second)
    (h' : second.Beside third) : first.Beside third where
  toGrown := h.toGrown.trans h'.toGrown
  bounds := h'.bounds.trans h.bounds
  flow := h'.flow.trans h.flow
  deadline := h'.deadline.trans h.deadline

theorem beside_cleared (world : World) (run : Run) : world.Beside (world.cleared run) where
  toGrown := .of_supply rfl rfl
  bounds := rfl
  flow := (world.later_look run.flow).flow
  deadline := rfl

theorem beside_driven (world : World) (graph : Graph) (run : Run) (payload : Option Payload) :
    world.Beside (world.driven graph run payload).2 where
  toGrown := world.grown_driven graph run payload
  bounds := (later_persist _).bounds.trans (world.later_act _).bounds
  flow := (later_persist _).flow.trans (world.later_act _).flow
  deadline := world.deadline_driven graph run payload

theorem standing_cleared (world : World) (run : Run) (id : Identifier) :
    (world.cleared run).standing id =
      if run.id = id then ⟨world.store.find? id, none, 0⟩ else world.standing id :=
  standing_unalarmed _ id run.id

variable {id : Identifier} {ρ : Renaming} {f : α → α} {verdict : Verdict α}

theorem beside_enact (world : World) (verdict : Verdict α) :
    world.Beside (world.enact verdict).2 := by
  cases verdict with
  | leave answer => exact ⟨.of_supply rfl rfl, rfl, rfl, rfl⟩
  | terminate run kind message answer => exact ⟨.of_supply rfl rfl, rfl, rfl, rfl⟩
  | drive graph run payload answer =>
      exact (world.beside_cleared run).trans (beside_driven _ graph run (some payload))

/-- What a call on a run does changes no other run. -/
theorem standing_enact_of_ne (world : World) (h : verdict.About id ρ f) {other : Identifier}
    (hother : other ≠ id) : (world.enact verdict).2.standing other = world.standing other := by
  have hown {run : Run} (hid : run.id = id) : run.id ≠ other :=
    fun h => hother (h.symm.trans hid)
  cases h with
  | leave => rfl
  | terminate hid => exact (world.standing_terminate other _ _ _).trans (if_neg (hown hid))
  | @drive graph run payload answer hid =>
      have hdriven := (world.cleared run).standing_driven other graph run (some payload)
      have hcleared := world.standing_cleared run other
      rw [if_neg (hown hid)] at hdriven hcleared
      exact hdriven.trans hcleared

/-- A call on a run does the same in two worlds where the run stands alike, up to the identifiers
that they give out. -/
theorem enact_renamed {other : World} {runs tokens : Nat}
    (hcarries : ρ.Carries runs tokens world other) (hbounds : other.bounds = world.bounds)
    (hdeadline : other.deadline = world.deadline)
    (hstanding : other.standing id = world.standing id) (hkept : (world.standing id).Kept ρ)
    (hρ : Function.Injective ρ.token) (habout : verdict.About id ρ f)
    (hruns : (world.enact verdict).2.supply.runs ≤ runs)
    (htokens : (world.enact verdict).2.supply.tokens ≤ tokens) :
    (other.enact verdict).1 = f (world.enact verdict).1 ∧
      (other.enact verdict).2.standing id = ((world.enact verdict).2.standing id).renamed ρ ∧
      world.Apace (world.enact verdict).2 other (other.enact verdict).2 := by
  cases habout with
  | leave hanswer =>
      exact ⟨hanswer.symm, hstanding.trans hkept.renamed_eq.symm,
        ⟨Nat.add_comm .., Nat.add_comm ..⟩⟩
  | @terminate run kind message answer hid hrun hanswer =>
      have hended : (run.terminate kind message world.bounds.now).renamed ρ =
          run.terminate kind message world.bounds.now := by
        rw [run.renamed_terminate, hrun]
      have hhere := world.standing_terminate id run kind message
      have hthere := other.standing_terminate id run kind message
      rw [if_pos hid] at hhere hthere
      refine ⟨?_, ?_, ⟨Nat.add_comm .., Nat.add_comm ..⟩⟩
      · change answer (run.terminate kind message other.bounds.now) =
          f (answer (run.terminate kind message world.bounds.now))
        rw [hanswer, hended, hbounds]
      · refine hthere.trans (Eq.trans ?_ (congrArg (Standing.renamed · ρ) hhere).symm)
        simp only [Standing.renamed, Option.map_some, Option.map_none, Multiset.map_zero, hended,
          hbounds]
  | @drive graph run payload answer hid hrun hanswer =>
      have hclear : world.Unspent (world.cleared run) :=
        ⟨(world.later_look run.flow).flow, rfl, rfl⟩
      have hclear' : other.Unspent (other.cleared run) :=
        ⟨(other.later_look run.flow).flow, rfl, rfl⟩
      obtain ⟨hvalue, hpace⟩ :=
        driven_renamed (hcarries.unspent hclear hclear') hbounds hrun hruns htokens
      have hhere := (world.cleared run).standing_driven id graph run (some payload)
      have hthere := (other.cleared run).standing_driven id graph run (some payload)
      rw [if_pos hid, standing_cleared, if_pos hid] at hhere hthere
      refine ⟨?_, ?_, hpace.unspent hclear hclear'⟩
      · change answer ((other.cleared run).driven graph run (some payload)).1 = f (answer _)
        rw [hvalue, hanswer]
        rfl
      · have hfind : other.store.find? id = world.store.find? id :=
          congrArg Standing.run hstanding
        have hbase : Standing.Kept ⟨world.store.find? id, none, 0⟩ ρ := .of_run hkept.run
        have hclock : (other.cleared run).deadline = (world.cleared run).deadline := hdeadline
        refine hthere.trans (Eq.trans ?_ (congrArg (Standing.renamed · ρ) hhere).symm)
        rw [Standing.renamed_persisted _ _ hρ, hbase.renamed_eq, hfind, hclock, hvalue]

end World

end Dialogue
