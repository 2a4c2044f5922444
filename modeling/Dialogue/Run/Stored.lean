import Dialogue.Run.Basic

/-!
# Stored runs

The persisted form of a run.  Each nested run is stored inside the one it
belongs to.
-/

namespace Dialogue

namespace Level

/-- The fields of a stored level. -/
def storedFields (level : Level) : List (String × Json) :=
  [("id", level.id.stored), ("flow_id", .string level.flow),
    ("contact_id", .string level.contactId), ("variables", level.vars.stored),
    ("contact", level.contact.stored), ("current_node_id", .string level.node),
    ("history", .array (level.history.map Visit.stored)), ("status", level.status.stored),
    ("subflow_depth", .nat level.depth), ("cursor", .nat level.cursor),
    ("created_at", level.createdAt.stored), ("updated_at", level.updatedAt.stored)] ++
    optionalField "parent_id" (level.parent.map Identifier.stored) ++
    optionalField "suspension" (level.suspension.map Suspension.stored) ++
    optionalField "failure" (level.failure.map Failure.stored)

/-- The stored form of a chain of levels. -/
def storedChain (level : Level) : List Level → Json
  | [] => .ofFields level.storedFields
  | child :: below => .ofFields (level.storedFields ++ [("nested", child.storedChain below)])

end Level

namespace Run

/-- A run as it is stored. -/
def stored (run : Run) : Json := run.toLevel.storedChain run.nested

/-- The values of a stored run's fields in order. -/
abbrev Columns :=
  Identifier × FlowId × String × Option Identifier × Values × Values × NodeId × History ×
    Status × Nat × Nat × Option Suspension × Option Run × Option Failure × Instant × Instant × Unit

/-- The fields of a stored run, whose nested run is read by `nested`. -/
def record (nested : Decoder Run) : Record Columns :=
  .field "id" [] none Identifier.decoder <|
  .field "flow_id" [] none .string <|
  .field "contact_id" [] none .string <|
  .field "parent_id" [] (some none) (.nullable Identifier.decoder) <|
  .field "variables" [] none Values.decoder <|
  .field "contact" [] (some []) Values.decoder <|
  .field "current_node_id" [] none .string <|
  .field "history" [] none (.list Visit.decoder) <|
  .field "status" [] none Status.decoder <|
  .field "subflow_depth" [] none .word32 <|
  .field "cursor" [] (some 0) .size <|
  .field "suspension" [] (some none) (.nullable Suspension.decoder) <|
  .field "nested" [] (some none) (.nullable nested) <|
  .field "failure" [] (some none) (.nullable Failure.decoder) <|
  .field "created_at" [] none Instant.decoder <|
  .field "updated_at" [] none Instant.decoder .done

/-- The run with given values of its fields. -/
def ofColumns : Columns → Run
  | (id, flow, contactId, parent, vars, contact, node, history, status, depth, cursor,
      suspension, nested, failure, createdAt, updatedAt, _) =>
    { id, flow, contactId, parent, vars, contact, node, history, status, depth, cursor,
      suspension, failure, createdAt, updatedAt,
      nested := (nested.map levels).getD [] }

/-- A run of at most so many levels from its stored form. -/
def decoderWithin : Nat → Decoder Run
  | 0 => fun _ document => .error (document.mismatch "struct ExecutionState")
  | levels + 1 =>
    ((record (decoderWithin levels)).decoder "struct ExecutionState").map ofColumns

/-- A run from its stored form.  No run has more levels than its document. -/
def decoder : Decoder Run := fun source document =>
  decoderWithin (document.height + 1) source document

end Run

end Dialogue
