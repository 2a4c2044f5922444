import Dialogue.Catalog
import Dialogue.Store
import Dialogue.Permits
import Dialogue.Engine.Operation

/-!
# Worlds

Everything that the engine's operations work on, as one value: the catalog, the
store, the permits, the timers, the observers' events, the collaborators with
all they have been asked, and the supply of new identifiers.  A world answers
the requests of an operation one by one.  An operation may have to wait, for a
permit or for a collaborator; then it stays where it is.
-/

namespace Dialogue

/-- What a collaborator has been asked, with its answer. -/
inductive Delivery where
  | sent (contactId : String) (message : Message) (result : Except DispatchError String)
  | assigned (contactId queue : String) (result : Except AssignmentError Unit)

/-- All that the collaborators have been asked, latest first. -/
structure Ledger where
  entries : List Delivery := []
  /-- The number of messages that were sent. -/
  sent : Nat := 0

namespace Ledger

/-- Records an answer. -/
def add (ledger : Ledger) (delivery : Delivery) : Ledger where
  entries := delivery :: ledger.entries
  sent :=
    match delivery with
    | .sent _ _ (.ok _) => ledger.sent + 1
    | _ => ledger.sent

end Ledger

/-- How collaborators answer, by what they have been asked before. -/
structure Collaborators where
  send : Ledger → String → Message → Except DispatchError String
  assign : Ledger → String → String → Except AssignmentError Unit
  /-- The messages that sending has to wait for. -/
  holds : Message → Bool := fun _ => false

/-- The new identifiers given out so far, and where they begin. -/
structure Supply where
  runs : Nat := 0
  tokens : Nat := 0
  /-- Where the identifiers of runs begin. -/
  firstRun : Nat := 0x4000 * twoTo 64
  /-- Where the tokens of suspensions begin. -/
  firstToken : Nat := 0x8000 * twoTo 64
  deriving Repr

namespace Supply

/-- A supply that begins at a number drawn by lot, with identifiers in the form of random ones. -/
def drawn (lot : Nat) : Supply :=
  let first := (lot % twoTo 48) * twoTo 80 + 0x4000 * twoTo 64 + twoTo 63
  { firstRun := first, firstToken := first + twoTo 48 }

/-- The next identifier of a run. -/
def newRun (supply : Supply) : Identifier × Supply :=
  (⟨supply.firstRun + supply.runs⟩, { supply with runs := supply.runs + 1 })

/-- The next token of a suspension. -/
def newToken (supply : Supply) : Identifier × Supply :=
  (⟨supply.firstToken + supply.tokens⟩, { supply with tokens := supply.tokens + 1 })

end Supply

/-- A number that an operation in progress is known by. -/
abbrev Ticket := Nat

/-- All that operations work on. -/
structure World where
  registry : Registry
  bounds : Bounds
  collaborators : Collaborators
  catalog : Catalog
  store : Store := {}
  permits : Permits Ticket := {}
  timers : Timers := {}
  /-- The events, latest first. -/
  events : List Event := []
  ledger : Ledger := {}
  supply : Supply := {}

namespace World

/-- Answers what a step asks for; none if it has to wait. -/
def answerCall (world : World) : (call : Call) → Option call.Answer × World
  | .emit event => (some (), { world with events := event :: world.events })
  | .newRun =>
    let (id, supply) := world.supply.newRun
    (some id, { world with supply })
  | .newToken =>
    let (id, supply) := world.supply.newToken
    (some id, { world with supply })
  | .flow id =>
    let (result, catalog) := world.catalog.get world.registry id
    (some result, { world with catalog })
  | .send contactId message =>
    if world.collaborators.holds message then (none, world)
    else
      let result := world.collaborators.send world.ledger contactId message
      (some result, { world with ledger := world.ledger.add (.sent contactId message result) })
  | .assign contactId queue =>
    let result := world.collaborators.assign world.ledger contactId queue
    (some result, { world with ledger := world.ledger.add (.assigned contactId queue result) })

/-- Answers what an operation asks for; none if it has to wait.  Who waits for a permit already
does not queue again. -/
def answer (who : Ticket) (request : Request) (world : World) :
    Option request.Answer × World :=
  match request with
  | .call c => world.answerCall c
  | .load id => (some (world.store.load id), world)
  | .save run =>
    let (result, store) := world.store.save run
    (some result, { world with store })
  | .list status => (some (world.store.list status), world)
  | .tryLock key =>
    match world.permits.tryAcquire who key with
    | some permits => (some true, { world with permits })
    | none => (some false, world)
  | .lock key =>
    let permits :=
      if world.permits.holder? key = some who || (world.permits.waiting key).contains who then
        world.permits
      else world.permits.acquire who key
    (if permits.holder? key = some who then some () else none, { world with permits })
  | .unlock key => (some (), { world with permits := world.permits.release key })
  | .schedule firing time =>
    (some (), { world with timers := world.timers.schedule firing time world.bounds.now })
  | .cancelTimers run => (some (), { world with timers := world.timers.cancel run })
  | .forget flow =>
    let (was, catalog) := world.catalog.forget flow
    (some was, { world with catalog })

/-- Runs an operation until it is finished or has to wait: what is left of it. -/
def proceed {α : Type} (world : World) (who : Ticket) (operation : Operating α) :
    Operating α × World :=
  operation.runUntilBlocked (answer who) world

end World

end Dialogue
