import Dialogue.Run.Stored
import Dialogue.Session

/-!
# Rehearsals

Collaborators that only record what they are asked, for trying flows out.  Sends
can be made to fail or to wait by a marker in their text, and queues can be
closed.  A run can be changed where it is stored, at a path in its stored form.
-/

namespace Dialogue

namespace Json

/-- The field of an object. -/
def field? (json : Json) (name : String) : Option Json :=
  match json with
  | .object fields => Fields.get? fields name
  | _ => none

/-- The keys of a path such as `/a/b`, where `~1` stands for a slash in a key and `~0` for a
tilde. -/
def pathKeys (path : String) : List String :=
  ((path.splitOn "/").drop 1).map fun key => (key.replace "~1" "/").replace "~0" "~"

/-- Sets the value at a path of keys, adding the last key if it is new.  The path must lead
through objects and existing array positions. -/
def set? (value : Json) : List String → Json → Option Json
  | [], _ => some value
  | key :: path, .object fields =>
    if path.isEmpty then some (.object (Fields.insert key value fields))
    else
      match Fields.get? fields key with
      | none => none
      | some inner => (set? value path inner).map fun new => .object (Fields.insert key new fields)
  | key :: path, .array items =>
    match key.toNat? with
    | none => none
    | some i =>
      match items[i]? with
      | none => none
      | some inner => (set? value path inner).map fun new => .array (items.set i new)
  | _ :: _, _ => none

end Json

/-- The identifiers given to runs so far, in order. -/
def Supply.runIds (supply : Supply) : List Identifier :=
  (List.range supply.runs).map fun n => ⟨supply.firstRun + n⟩

/-- The run that is read from the stored form of another one with a value set at a path. -/
def Run.patched? (run : Run) (path : String) (value : Json) : Option (Except DecodeError Run) :=
  (Json.set? value (Json.pathKeys path) run.stored).map Run.decoder.ofTree

/-- What the recording collaborators refuse and hold back. -/
structure Desk where
  /-- Texts whose messages cannot be sent. -/
  refused : List String := []
  /-- Texts whose messages have to wait. -/
  held : List String := []
  /-- Queues that take nobody. -/
  closed : List String := []
  deriving Repr

namespace Desk

/-- Whether a message holds one of several texts. -/
def marks (texts : List String) (message : Message) : Bool := texts.any (Text.contains message.body)

/-- The collaborators of a desk.  Messages are numbered as they are sent. -/
def collaborators (desk : Desk) : Collaborators where
  send := fun ledger contactId message =>
    if marks desk.refused message then .error ⟨contactId, "channel unavailable"⟩
    else .ok ("msg-" ++ toString (ledger.sent + 1))
  assign := fun _ contactId queue =>
    if desk.closed.contains queue then .error ⟨contactId, queue, "queue closed"⟩ else .ok ()
  holds := marks desk.held

end Desk

/-- A session with recording collaborators. -/
structure Rehearsal where
  desk : Desk := {}
  session : Session

namespace Rehearsal

/-- A rehearsal of flows. -/
def ofFlows (registry : Registry) (bounds : Bounds) (flows : List Flow) : Rehearsal where
  session :=
    { world :=
        { registry, bounds
          collaborators := Desk.collaborators {}
          catalog := .ofFlows flows } }

/-- Changes what the collaborators do. -/
def instruct (rehearsal : Rehearsal) (f : Desk → Desk) : Rehearsal :=
  let desk := f rehearsal.desk
  let world := { rehearsal.session.world with collaborators := desk.collaborators }
  { desk, session := { rehearsal.session with world } }

/-- The runs that have begun, in order. -/
def runs (rehearsal : Rehearsal) : List Identifier := rehearsal.session.world.supply.runIds

/-- Lets all messages go that wait: the endings of the operations in the background. -/
def release (rehearsal : Rehearsal) : List Ending × Rehearsal :=
  let rehearsal := rehearsal.instruct fun desk => { desk with held := [] }
  let (endings, session) := rehearsal.session.settle.collect
  (endings, { rehearsal with session })

end Rehearsal

end Dialogue
