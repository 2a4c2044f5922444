import Dialogue.Console.Basic
import Dialogue.Console.Report

/-!
# Plays

A run played at a console: messages are shown as they are sent, and the lines of
the input are the contact's replies.  A play says what it needs next, a reply or
the time of an alarm, and whoever has it at hand passes it on.
-/

namespace Dialogue

/-- A run that is being played. -/
structure Play where
  run : Identifier
  began : Instant
  world : World

/-- What a play needs to go on. -/
inductive Play.Need where
  /-- A reply of the contact. -/
  | reply
  /-- That it is so late. -/
  | alarm (time : Instant)
  /-- Nothing: the run has ended. -/
  | over (run : Run)
  /-- Something that will not come. -/
  | lost (complaint : Complaint)

namespace Play

/-- Collaborators that can do everything.  Messages are numbered as they are sent. -/
def collaborators : Collaborators where
  send := fun ledger _ _ => .ok ("console-" ++ toString (ledger.sent + 1))
  assign := fun _ _ _ => .ok ()

/-- Answers a request in a world and adds the lines about it to those before. -/
def answer (request : Request) (told : World × List String) :
    Option request.Answer × World × List String :=
  let (result, world) := told.1.answer 0 request
  (result, world, told.2 ++ told.1.news world)

/-- Performs an operation in a world and shows what happens; no result if it has to wait, which it
does not as long as nothing else works in the world. -/
def conduct {α : Type} (world : World) (operation : Operating α) :
    Consoling (Option α × World) := do
  let (rest, world, lines) := operation.runUntilBlocked answer (world, [])
  Consoling.sayAll lines
  match rest with
  | .done value => return (some value, world)
  | .ask .. => return (none, world)

/-- The complaint about an operation that has to wait. -/
def busy : Complaint := ⟨"the run is being worked on", none⟩

/-- Begins a play. -/
def start (settings : Settings) (flows : List Flow) (request : RunRequest) :
    Consoling (Except Complaint Play) := do
  let began ← Consoling.clock
  let bounds : Bounds := ⟨settings, began⟩
  let world : World :=
    { registry := .standard, bounds, collaborators, catalog := .ofFlows flows
      supply := .drawn (← Consoling.lot) }
  match ← conduct world (Engine.start bounds request) with
  | (some (.ok run), world) => return .ok { run := run.id, began, world }
  | (some (.error e), _) => return .error (.ofFlow e)
  | (none, _) => return .error busy

/-- Sets the clock of a play, which is never set back. -/
def setClock (play : Play) (now : Instant) : Play :=
  let passed := (now.total - play.began.total).toNat
  let timers := { play.world.timers with clock := max play.world.timers.clock passed }
  { play with world := { play.world with timers, bounds := { play.world.bounds with now } } }

/-- The time of the next alarm. -/
def nextAlarm? (play : Play) : Option Instant :=
  play.world.timers.alarms.head?.map fun alarm => .ofTotal (play.began.total + alarm.deadline)

/-- What a play needs next. -/
def need (play : Play) : Need :=
  match play.world.store.find? play.run with
  | none => .lost ⟨"run " ++ play.run.text ++ " disappeared", none⟩
  | some run =>
    if run.isTerminal then .over run
    else
      match run.suspension.map Suspension.reason with
      | some (.reply _) => .reply
      | some (.timer _) | none =>
        match play.nextAlarm? with
        | some time => .alarm time
        | none => .lost ⟨"event bus closed", none⟩

/-- Passes a line of the input on as the contact's reply.  A reply that comes too late is reported
and no reason to stop. -/
def reply (play : Play) (text : String) : Consoling (Except Complaint Play) := do
  let play := play.setClock (← Consoling.clock)
  match ← conduct play.world (Engine.resume play.world.bounds play.run ⟨none, .reply text⟩) with
  | (some (.ok _), world) => return .ok { play with world }
  | (some (.error (.stale _ reason)), world) =>
    Consoling.say ("⚠️  " ++ reason)
    return .ok { play with world }
  | (some (.error e), _) => return .error (.ofResume e)
  | (none, _) => return .error busy

/-- Ends a play for which there is no more input. -/
def hangUp (play : Play) : Consoling (Except Complaint Play) := do
  let play := play.setClock (← Consoling.clock)
  Consoling.say ""
  match ← conduct play.world (Engine.cancel play.world.bounds play.run) with
  | (some (.ok _), world) => return .ok { play with world }
  | (some (.error e), _) => return .error (.ofFlow e)
  | (none, _) => return .error busy

/-- Lets the next alarm go off if it is time. -/
def ring (play : Play) : Consoling Play := do
  let play := play.setClock (← Consoling.clock)
  match play.world.timers.next? play.world.timers.clock with
  | none => return play
  | some (firing, timers) =>
    let (_, world) ←
      conduct { play.world with timers } (Engine.handleFiring play.world.bounds firing)
    return { play with world }

end Play

end Dialogue
