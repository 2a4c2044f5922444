import Dialogue.Run.Basic
import Dialogue.Error

/-!
# The store of runs

Runs in ascending order of their identifiers, each stored once.  A store may be
out of order: then the operations named so fail and change nothing.
-/

namespace Dialogue

/-- Which operations of a store fail. -/
structure Outage where
  save : Bool := false
  load : Bool := false
  list : Bool := false
  deriving DecidableEq, Repr

/-- The stored runs. -/
structure Store where
  runs : List Run := []
  outage : Outage := {}

namespace Store

/-- Puts a run in its place, replacing the one of the same identifier. -/
def place (run : Run) : List Run → List Run
  | [] => [run]
  | old :: rest =>
    if run.id.bits < old.id.bits then run :: old :: rest
    else if run.id = old.id then run :: rest
    else old :: place run rest

/-- The stored run of an identifier, whether or not the store is in order. -/
def find? (store : Store) (id : Identifier) : Option Run := store.runs.find? (·.id == id)

/-- The number of stored runs. -/
def size (store : Store) : Nat := store.runs.length

/-- Stores a run, whether or not the store is in order. -/
def put (store : Store) (run : Run) : Store := { store with runs := place run store.runs }

/-- The error of an operation that fails. -/
def unavailable (operation : String) : FlowError := .execution ("store cannot " ++ operation)

/-- Stores a run. -/
def save (store : Store) (run : Run) : Except FlowError Unit × Store :=
  if store.outage.save then (.error (unavailable "save"), store) else (.ok (), store.put run)

/-- Gets the stored run of an identifier. -/
def load (store : Store) (id : Identifier) : Except FlowError (Option Run) :=
  if store.outage.load then .error (unavailable "load") else .ok (store.find? id)

/-- The stored runs, or those of one status, in the order in which they were created. -/
def all (store : Store) (status : Option Status) : List Run :=
  (store.runs.filter fun run => status.all (run.status == ·)).mergeSort
    fun a b => a.createdAt.le b.createdAt

/-- Gets the stored runs, or those of one status. -/
def list (store : Store) (status : Option Status) : Except FlowError (List Run) :=
  if store.outage.list then .error (unavailable "list") else .ok (store.all status)

end Store

end Dialogue
