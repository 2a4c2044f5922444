import Dialogue.Graph

/-!
# The catalog of flows

Flows are loaded from their definitions on first use and stay loaded until they
are forgotten, whatever happens to their definitions meanwhile.  A flow that
cannot be loaded is tried afresh the next time.
-/

namespace Dialogue

/-- Flow definitions and the flows loaded from them. -/
structure Catalog where
  definitions : Fields Flow := []
  loaded : Fields Graph := []

namespace Catalog

/-- A catalog of definitions, none of them loaded.  Of several with one name the last counts. -/
def ofFlows (flows : List Flow) : Catalog :=
  { definitions := Fields.ofList (flows.map fun flow => (flow.id, flow)) }

/-- Adds or replaces a definition. -/
def define (catalog : Catalog) (flow : Flow) : Catalog :=
  { catalog with definitions := catalog.definitions.insert flow.id flow }

/-- The names of all definitions in ascending order. -/
def names (catalog : Catalog) : List FlowId := catalog.definitions.names

/-- Loads a flow from its definition. -/
def load (catalog : Catalog) (registry : Registry) (id : FlowId) : Except FlowError Graph :=
  match catalog.definitions.get? id with
  | none => .error (.flowNotFound id)
  | some flow => (Graph.load registry flow).mapError .definition

/-- The loaded flow of a name, which stays loaded. -/
def get (catalog : Catalog) (registry : Registry) (id : FlowId) :
    Except FlowError Graph × Catalog :=
  match catalog.loaded.get? id with
  | some graph => (.ok graph, catalog)
  | none =>
    match catalog.load registry id with
    | .error e => (.error e, catalog)
    | .ok graph => (.ok graph, { catalog with loaded := catalog.loaded.insert id graph })

/-- Forgets a loaded flow; whether it was loaded. -/
def forget (catalog : Catalog) (id : FlowId) : Bool × Catalog :=
  (catalog.loaded.has id, { catalog with loaded := catalog.loaded.filter (·.1 != id) })

end Catalog

end Dialogue
