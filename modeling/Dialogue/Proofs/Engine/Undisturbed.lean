import Dialogue.World
import Dialogue.Proofs.Permits
import Dialogue.Proofs.World.Acting

/-!
# Operations in an undisturbed world

Where nobody holds a permit and no collaborator makes anyone wait, an operation
runs to its end at once, and permits make no difference to it.  `obey` says
what an operation comes to when every request is answered so, and `Smooth` that
proceeding with an operation in an undisturbed world comes to the same.
-/

namespace Dialogue

namespace World

variable {α β : Type}

/-- Answers a request of an operation at once, every permit being free. -/
def attend : (request : Request) → World → request.Answer × World
  | .call c, world => reply c world
  | .load id, world => (world.store.load id, world)
  | .save run, world => ((world.store.save run).1,
      { world with store := (world.store.save run).2 })
  | .list status, world => (world.store.list status, world)
  | .tryLock _, world => (true, world)
  | .lock _, world => ((), world)
  | .unlock _, world => ((), world)
  | .schedule firing time, world => ((),
      { world with timers := world.timers.schedule firing time world.bounds.now })
  | .cancelTimers run, world => ((), { world with timers := world.timers.cancel run })
  | .forget flow, world => ((world.catalog.forget flow).1,
      { world with catalog := (world.catalog.forget flow).2 })

/-- What an operation comes to where it never has to wait. -/
def obey (world : World) (operation : Operating α) : α × World :=
  operation.run attend world

/-- Nobody holds a permit, and nobody is made to wait. -/
structure Undisturbed (world : World) : Prop where
  holds : ∀ message, world.collaborators.holds message = false
  free : world.permits.slots = []

/-! ## Laws of obeying -/

@[simp] theorem obey_pure (world : World) (value : α) :
    world.obey (pure value) = (value, world) := rfl

theorem obey_ask (world : World) (q : Request) (next : q.Answer → Operating α) :
    world.obey (.ask q next) = (attend q world).2.obey (next (attend q world).1) := rfl

theorem obey_bind (world : World) (m : Operating α) (f : α → Operating β) :
    world.obey (m >>= f) = (world.obey m).2.obey (f (world.obey m).1) :=
  Interaction.run_bind attend m f world

@[simp] theorem obey_request (world : World) (q : Request) :
    world.obey (Operating.request q) = attend q world := rfl

/-- What happens within a run happens in an operation just so. -/
@[simp] theorem obey_within (world : World) (acting : Acting α) :
    world.obey (Operating.within acting) = world.act acting :=
  Interaction.run_relay (fun _ _ => rfl) acting world

/-- Holding a permit makes no difference to what is done meanwhile. -/
@[simp] theorem obey_holding (world : World) (key : RunKey) (work : Operating α) :
    world.obey (Operating.holding key work) = world.obey work := by
  unfold Operating.holding
  rw [obey_bind, obey_bind]
  rfl

@[simp] theorem obey_holdingIfFree (world : World) (key : RunKey) (busy : α)
    (work : Operating α) :
    world.obey (Operating.holdingIfFree key busy work) = world.obey work := by
  change world.obey (do
    let result ← work
    let () ← Operating.request (.unlock key)
    return result) = _
  rw [obey_bind, obey_bind]
  rfl

/-! ## What no operation changes -/

/-- A world after some operations in another one, as far as they leave it alone. -/
structure Onward (before after : World) : Prop where
  registry : after.registry = before.registry
  bounds : after.bounds = before.bounds
  collaborators : after.collaborators = before.collaborators
  definitions : after.catalog.definitions = before.catalog.definitions
  permits : after.permits = before.permits
  outage : after.store.outage = before.store.outage
  firstToken : after.supply.firstToken = before.supply.firstToken
  tokens : before.supply.tokens ≤ after.supply.tokens

theorem Onward.refl (world : World) : world.Onward world :=
  ⟨rfl, rfl, rfl, rfl, rfl, rfl, rfl, Nat.le_refl _⟩

theorem Onward.trans {first second third : World}
    (h : first.Onward second) (h' : second.Onward third) : first.Onward third where
  registry := h'.registry.trans h.registry
  bounds := h'.bounds.trans h.bounds
  collaborators := h'.collaborators.trans h.collaborators
  definitions := h'.definitions.trans h.definitions
  permits := h'.permits.trans h.permits
  outage := h'.outage.trans h.outage
  firstToken := h'.firstToken.trans h.firstToken
  tokens := Nat.le_trans h.tokens h'.tokens

theorem Later.onward {before after : World} (h : before.Later after) :
    before.Onward after :=
  ⟨h.registry, h.bounds, h.collaborators, h.definitions, h.permits,
    congrArg Store.outage h.store, h.firstToken, h.tokens⟩

theorem onward_attend (q : Request) (world : World) :
    world.Onward (attend q world).2 := by
  cases q with
  | call c => exact (later_reply c world).onward
  | save run =>
      refine ⟨rfl, rfl, rfl, rfl, rfl, ?_, rfl, Nat.le_refl _⟩
      change (world.store.save run).2.outage = world.store.outage
      unfold Store.save
      split <;> rfl
  | _ => exact ⟨rfl, rfl, rfl, rfl, rfl, rfl, rfl, Nat.le_refl _⟩

theorem onward_obey (world : World) (operation : Operating α) :
    world.Onward (world.obey operation).2 :=
  Interaction.run_induction Onward.refl Onward.trans onward_attend operation world

theorem Undisturbed.onward {before after : World} (h : before.Undisturbed)
    (honward : before.Onward after) : after.Undisturbed where
  holds := by
    rw [honward.collaborators]
    exact h.holds
  free := by
    rw [honward.permits]
    exact h.free

/-- A world with other permits. -/
def withPermits (world : World) (permits : Permits Ticket) : World := { world with permits }

theorem attend_withPermits (world : World) (permits : Permits Ticket) (q : Request) :
    attend q (world.withPermits permits) =
      ((attend q world).1, (attend q world).2.withPermits permits) := by
  cases q with
  | call c => cases c <;> rfl
  | _ => rfl

/-- Permits are not looked at by who never has to wait. -/
theorem obey_withPermits (world : World) (permits : Permits Ticket)
    (operation : Operating α) :
    (world.withPermits permits).obey operation =
      ((world.obey operation).1, (world.obey operation).2.withPermits permits) := by
  induction operation generalizing world with
  | done value => rfl
  | ask q next ih =>
      rw [obey_ask, attend_withPermits]
      exact ih _ _

end World

/-! ## Proceeding without having to wait -/

/-- Whether a request is about a permit. -/
def Request.forPermit : Request → Bool
  | .tryLock _ | .lock _ | .unlock _ => true
  | _ => false

/-- Where no collaborator makes anyone wait, only permits have to be waited for. -/
theorem World.answer_eq_attend (who : Ticket) {world : World}
    (hholds : ∀ message, world.collaborators.holds message = false) {q : Request}
    (hq : q.forPermit = false) :
    world.answer who q = (some (attend q world).1, (attend q world).2) := by
  cases q with
  | call c =>
      cases c with
      | send contactId message =>
          simp only [answer, answerCall, hholds]
          rfl
      | _ => rfl
  | tryLock key => simp [Request.forPermit] at hq
  | lock key => simp [Request.forPermit] at hq
  | unlock key => simp [Request.forPermit] at hq
  | _ => rfl

namespace Operating

variable {α β : Type}

/-- An operation that asks for no permit, and so runs to its end whoever holds one. -/
def Lockless (operation : Operating α) : Prop :=
  ∀ (who : Ticket) (world : World),
    (∀ message, world.collaborators.holds message = false) →
      world.proceed who operation = (.done (world.obey operation).1, (world.obey operation).2)

/-- An operation that runs to its end in an undisturbed world. -/
def Smooth (operation : Operating α) : Prop :=
  ∀ (who : Ticket) (world : World), world.Undisturbed →
    world.proceed who operation = (.done (world.obey operation).1, (world.obey operation).2)

theorem Lockless.pure (value : α) : Lockless (pure value : Operating α) :=
  fun _ _ _ => rfl

theorem Lockless.bind {m : Operating α} {f : α → Operating β}
    (hm : Lockless m) (hf : ∀ value, Lockless (f value)) : Lockless (m >>= f) := by
  intro who world hholds
  have hfirst := Interaction.runUntilBlocked_bind (hm who world hholds) f
  have hsecond := hf (world.obey m).1 who (world.obey m).2 (by
    rw [(world.onward_obey m).collaborators]
    exact hholds)
  rw [World.obey_bind]
  exact hfirst.trans hsecond

/-- A request for anything but a permit is answered at once. -/
theorem Lockless.request {q : Request} (hq : q.forPermit = false) :
    Lockless (Operating.request q) := by
  intro who world hholds
  change Interaction.runUntilBlocked (World.answer who) (.ask q .done) world = _
  simp only [Interaction.runUntilBlocked, World.answer_eq_attend who hholds hq]
  rfl

theorem Lockless.within (acting : Acting α) : Lockless (Operating.within acting) := by
  intro who world hholds
  rw [World.obey_within]
  refine Interaction.runUntilBlocked_relay
    (fun world => ∀ message, world.collaborators.holds message = false) ?_ ?_ acting hholds
  · intro call world hholds
    exact Lockless.request (q := .call call) rfl who world hholds
  · intro call world hholds
    rw [(World.later_reply call world).collaborators]
    exact hholds

theorem Lockless.smooth {operation : Operating α} (h : Lockless operation) :
    Smooth operation :=
  fun who world hworld => h who world hworld.holds

theorem Smooth.pure (value : α) : Smooth (pure value : Operating α) := fun _ _ _ => rfl

theorem Smooth.bind {m : Operating α} {f : α → Operating β}
    (hm : Smooth m) (hf : ∀ value, Smooth (f value)) : Smooth (m >>= f) := by
  intro who world hworld
  have hfirst := Interaction.runUntilBlocked_bind (hm who world hworld) f
  have hsecond := hf (world.obey m).1 who (world.obey m).2
    (hworld.onward (world.onward_obey m))
  rw [World.obey_bind]
  exact hfirst.trans hsecond

/-- Work that asks for no permit runs to its end while one is held, and after
it the permit is given back. -/
theorem proceed_held {work : Operating α} (hwork : Lockless work) (who : Ticket) {world : World}
    (hholds : ∀ message, world.collaborators.holds message = false) {key : RunKey}
    (hkey : world.permits.slot? key = none) :
    (world.withPermits (world.permits.taken who key)).proceed who (do
        let result ← work
        let () ← request (.unlock key)
        return result) =
      (.done (world.obey work).1, (world.obey work).2) := by
  have hfirst := hwork who (world.withPermits (world.permits.taken who key)) hholds
  rw [World.obey_withPermits] at hfirst
  have hlast : World.answer who (.unlock key)
      ((world.obey work).2.withPermits (world.permits.taken who key)) =
        (some (), (world.obey work).2) := by
    change (some (), (world.obey work).2.withPermits
      ((world.permits.taken who key).release key)) = _
    rw [Permits.release_taken hkey, ← (world.onward_obey work).permits]
    rfl
  exact (Interaction.runUntilBlocked_bind hfirst _).trans
    (Interaction.runUntilBlocked_request_bind hlast _)

/-- Where the key is not tracked, an operation does not have to wait for its permit. -/
theorem proceed_holding {work : Operating α} (hwork : Lockless work) (who : Ticket)
    {world : World} (hholds : ∀ message, world.collaborators.holds message = false)
    {key : RunKey} (hkey : world.permits.slot? key = none) :
    world.proceed who (holding key work) = (.done (world.obey work).1, (world.obey work).2) := by
  have hlock : World.answer who (.lock key) world =
      (some (), world.withPermits (world.permits.taken who key)) := by
    have hfree : world.permits.holder? key = none := by simp [Permits.holder?, hkey]
    have hunawaited : world.permits.waiting key = [] := by simp [Permits.waiting, hkey]
    have htaken : (world.permits.taken who key).holder? key = some who := by
      simp [Permits.holder?, Permits.slot?_taken hkey]
    simp [World.answer, hfree, hunawaited, (Permits.acquire_untracked hkey).1, htaken,
      World.withPermits]
    rfl
  exact (Interaction.runUntilBlocked_request_bind hlock _).trans
    (proceed_held hwork who hholds hkey)

theorem proceed_holdingIfFree {work : Operating α} (hwork : Lockless work) (who : Ticket)
    {world : World} (hholds : ∀ message, world.collaborators.holds message = false)
    {key : RunKey} (hkey : world.permits.slot? key = none) (busy : α) :
    world.proceed who (holdingIfFree key busy work) =
      (.done (world.obey work).1, (world.obey work).2) := by
  have hlock : World.answer who (.tryLock key) world =
      (some true, world.withPermits (world.permits.taken who key)) := by
    simp only [World.answer, (Permits.acquire_untracked hkey).2]
    rfl
  exact (Interaction.runUntilBlocked_request_bind hlock _).trans
    (proceed_held hwork who hholds hkey)

theorem Smooth.holding {work : Operating α} (hwork : Lockless work) (key : RunKey) :
    Smooth (holding key work) := by
  intro who world hworld
  rw [World.obey_holding]
  exact proceed_holding hwork who hworld.holds (by simp [Permits.slot?, hworld.free])

theorem Smooth.holdingIfFree {work : Operating α} (hwork : Lockless work) (key : RunKey)
    (busy : α) : Smooth (holdingIfFree key busy work) := by
  intro who world hworld
  rw [World.obey_holdingIfFree]
  exact proceed_holdingIfFree hwork who hworld.holds (by simp [Permits.slot?, hworld.free]) busy

end Operating

end Dialogue
