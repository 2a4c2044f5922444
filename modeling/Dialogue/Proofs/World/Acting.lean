import Dialogue.World
import Dialogue.Proofs.Fields
import Dialogue.Proofs.Interaction

/-!
# Acting in a world

What happens within a run, where every call is answered at once.  A world that
makes nobody wait answers in this way, so `act` says what a step or a drive
comes to.  Acting changes four things only: the events, the ledger, the supply
of identifiers and the catalog of loaded flows; and the catalog goes on to give
the same flows.
-/

namespace Dialogue.World

/-- Tells the observers. -/
def emit (world : World) (event : Event) : World :=
  { world with events := event :: world.events }

/-- Gets a loaded flow, loading it if need be. -/
def look (world : World) (flow : FlowId) : Except FlowError Graph × World :=
  ((world.catalog.get world.registry flow).1,
    { world with catalog := (world.catalog.get world.registry flow).2 })

/-- What a flow is for the runs of this world. -/
def flow (world : World) (id : FlowId) : Except FlowError Graph := (world.look id).1

/-- Gives out an identifier for a run. -/
def newRun (world : World) : Identifier × World :=
  (world.supply.newRun.1, { world with supply := world.supply.newRun.2 })

/-- Gives out a token for a suspension. -/
def newToken (world : World) : Identifier × World :=
  (world.supply.newToken.1, { world with supply := world.supply.newToken.2 })

/-- Sends a message. -/
def send (world : World) (contactId : String) (message : Message) :
    Except DispatchError String × World :=
  let result := world.collaborators.send world.ledger contactId message
  (result, { world with ledger := world.ledger.add (.sent contactId message result) })

/-- Hands a contact to a queue. -/
def assign (world : World) (contactId queue : String) :
    Except AssignmentError Unit × World :=
  let result := world.collaborators.assign world.ledger contactId queue
  (result, { world with ledger := world.ledger.add (.assigned contactId queue result) })

/-- Answers a call at once. -/
def reply : (call : Call) → World → call.Answer × World
  | .emit event, world => ((), world.emit event)
  | .newRun, world => world.newRun
  | .newToken, world => world.newToken
  | .flow id, world => world.look id
  | .send contactId message, world => world.send contactId message
  | .assign contactId queue, world => world.assign contactId queue

/-- What a computation within a run comes to. -/
def act {α : Type} (world : World) (acting : Acting α) : α × World :=
  acting.run reply world

variable {α β : Type}

@[simp] theorem act_pure (world : World) (value : α) :
    world.act (pure value) = (value, world) := rfl

theorem act_bind (world : World) (m : Acting α) (f : α → Acting β) :
    world.act (m >>= f) = (world.act m).2.act (f (world.act m).1) :=
  Interaction.run_bind reply m f world

@[simp] theorem act_emit (world : World) (event : Event) :
    world.act (Acting.emit event) = ((), world.emit event) := rfl

@[simp] theorem act_newRun (world : World) :
    world.act Acting.newRun = world.newRun := rfl

@[simp] theorem act_newToken (world : World) :
    world.act Acting.newToken = world.newToken := rfl

@[simp] theorem act_flow (world : World) (id : FlowId) :
    world.act (Acting.flow id) = world.look id := rfl

@[simp] theorem act_send (world : World) (contactId : String) (message : Message) :
    world.act (Acting.send contactId message) = world.send contactId message := rfl

@[simp] theorem act_assign (world : World) (contactId queue : String) :
    world.act (Acting.assign contactId queue) = world.assign contactId queue := rfl

/-! ## What acting leaves alone -/

/-- A world after some acting in another one.  Nothing is said of its events, its ledger and its
timers. -/
structure Later (before after : World) : Prop where
  registry : after.registry = before.registry
  bounds : after.bounds = before.bounds
  collaborators : after.collaborators = before.collaborators
  definitions : after.catalog.definitions = before.catalog.definitions
  store : after.store = before.store
  permits : after.permits = before.permits
  flow : after.flow = before.flow
  firstToken : after.supply.firstToken = before.supply.firstToken
  tokens : before.supply.tokens ≤ after.supply.tokens

theorem Later.refl (world : World) : world.Later world :=
  ⟨rfl, rfl, rfl, rfl, rfl, rfl, rfl, rfl, Nat.le_refl _⟩

theorem Later.trans {first second third : World}
    (h : first.Later second) (h' : second.Later third) : first.Later third where
  registry := h'.registry.trans h.registry
  bounds := h'.bounds.trans h.bounds
  collaborators := h'.collaborators.trans h.collaborators
  definitions := h'.definitions.trans h.definitions
  store := h'.store.trans h.store
  permits := h'.permits.trans h.permits
  flow := h'.flow.trans h.flow
  firstToken := h'.firstToken.trans h.firstToken
  tokens := Nat.le_trans h.tokens h'.tokens

end Dialogue.World

namespace Dialogue.Catalog

theorem get_fst (catalog : Catalog) (registry : Registry) (id : FlowId) :
    (catalog.get registry id).1 =
      match catalog.loaded.get? id with
      | some graph => .ok graph
      | none => catalog.load registry id := by
  unfold get
  cases catalog.loaded.get? id with
  | some graph => rfl
  | none => cases catalog.load registry id <;> rfl

theorem get_definitions (catalog : Catalog) (registry : Registry) (id : FlowId) :
    (catalog.get registry id).2.definitions = catalog.definitions := by
  unfold get
  split
  · rfl
  · split <;> rfl

/-- Getting a flow changes what no later search for any flow finds. -/
theorem get_get_fst (catalog : Catalog) (registry : Registry) (id other : FlowId) :
    ((catalog.get registry id).2.get registry other).1 =
      (catalog.get registry other).1 := by
  simp only [get_fst]
  have hload : (catalog.get registry id).2.load registry other =
      catalog.load registry other := by
    simp only [load, get_definitions]
  rw [hload]
  cases hloaded : catalog.loaded.get? id with
  | some graph => simp [get, hloaded]
  | none =>
      cases h : catalog.load registry id with
      | error e => simp [get, hloaded, h]
      | ok graph =>
          simp only [get, hloaded, h, Fields.get?_insert]
          by_cases hid : other = id
          · subst hid
            simp [hloaded, h]
          · simp [hid]

/-- What cannot be loaded is not kept. -/
theorem get_snd_of_error {catalog : Catalog} {registry : Registry} {id : FlowId}
    {e : FlowError} (h : (catalog.get registry id).1 = .error e) :
    (catalog.get registry id).2 = catalog := by
  rw [get_fst] at h
  unfold get
  cases hloaded : catalog.loaded.get? id with
  | some graph => rfl
  | none =>
      simp only [hloaded] at h
      simp [h]

end Dialogue.Catalog

namespace Dialogue.World

variable {α : Type}

theorem look_flow (world : World) (id other : FlowId) :
    (world.look id).2.flow other = world.flow other :=
  world.catalog.get_get_fst world.registry id other

/-- What cannot be loaded leaves the world as it was. -/
theorem look_of_error {world : World} {id : FlowId} {e : FlowError}
    (h : world.flow id = .error e) : world.look id = (.error e, world) := by
  have hcatalog := Catalog.get_snd_of_error h
  exact Prod.ext h (by simp [look, hcatalog])

theorem later_look (world : World) (id : FlowId) : world.Later (world.look id).2 where
  registry := rfl
  bounds := rfl
  collaborators := rfl
  definitions := world.catalog.get_definitions world.registry id
  store := rfl
  permits := rfl
  flow := funext (world.look_flow id)
  firstToken := rfl
  tokens := Nat.le_refl _

theorem later_emit (world : World) (event : Event) : world.Later (world.emit event) :=
  ⟨rfl, rfl, rfl, rfl, rfl, rfl, rfl, rfl, Nat.le_refl _⟩

theorem later_newRun (world : World) : world.Later world.newRun.2 :=
  ⟨rfl, rfl, rfl, rfl, rfl, rfl, rfl, rfl, Nat.le_refl _⟩

theorem later_newToken (world : World) : world.Later world.newToken.2 :=
  ⟨rfl, rfl, rfl, rfl, rfl, rfl, rfl, rfl, Nat.le_succ _⟩

theorem later_reply (call : Call) (world : World) :
    world.Later (reply call world).2 := by
  cases call with
  | emit event => exact later_emit world event
  | newRun => exact later_newRun world
  | newToken => exact later_newToken world
  | flow id => exact later_look world id
  | send contactId message =>
      exact ⟨rfl, rfl, rfl, rfl, rfl, rfl, rfl, rfl, Nat.le_refl _⟩
  | assign contactId queue =>
      exact ⟨rfl, rfl, rfl, rfl, rfl, rfl, rfl, rfl, Nat.le_refl _⟩

/-- Acting leads to a later world. -/
theorem later_act (world : World) (acting : Acting α) :
    world.Later (world.act acting).2 :=
  Interaction.run_induction Later.refl Later.trans
    (fun call world => later_reply call world) acting world

end Dialogue.World
