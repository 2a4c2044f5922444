import Dialogue.Flow
import Dialogue.Instant.Written

/-!
# Failures

Why a run failed, as it is kept with the run.
-/

namespace Dialogue

/-- The kind of a failure. -/
inductive FailureKind where
  | configuration
  | dispatch
  | assignment
  | noMatchingBranch
  | recursionLimit
  | stepLimit
  | timeout
  | cancelled
  | internal
  deriving DecidableEq, Repr

namespace FailureKind

/-- The kinds with their stored names. -/
def names : List (String × FailureKind) :=
  [("configuration", .configuration), ("dispatch", .dispatch), ("assignment", .assignment),
    ("no_matching_branch", .noMatchingBranch), ("recursion_limit_exceeded", .recursionLimit),
    ("step_limit_exceeded", .stepLimit), ("timeout", .timeout), ("cancelled", .cancelled),
    ("internal", .internal)]

/-- The stored name of a kind. -/
def name : FailureKind → String
  | .configuration => "configuration"
  | .dispatch => "dispatch"
  | .assignment => "assignment"
  | .noMatchingBranch => "no_matching_branch"
  | .recursionLimit => "recursion_limit_exceeded"
  | .stepLimit => "step_limit_exceeded"
  | .timeout => "timeout"
  | .cancelled => "cancelled"
  | .internal => "internal"

/-- The title of a kind for people. -/
def title : FailureKind → String
  | .configuration => "ConfigurationError"
  | .dispatch => "DispatchError"
  | .assignment => "AssignmentError"
  | .noMatchingBranch => "NoMatchingBranch"
  | .recursionLimit => "RecursionLimitExceeded"
  | .stepLimit => "StepLimitExceeded"
  | .timeout => "Timeout"
  | .cancelled => "Cancelled"
  | .internal => "InternalError"

/-- A kind as it is stored. -/
def stored (kind : FailureKind) : Json := .string kind.name

/-- A kind from its stored form. -/
def decoder : Decoder FailureKind :=
  Decoder.choice (names.map fun (name, kind) => ([name], kind))

end FailureKind

/-- The failure of a run: its kind and words, the node it happened at, and when. -/
structure Failure where
  kind : FailureKind
  message : String
  node : NodeId
  time : Instant
  deriving DecidableEq, Repr

namespace Failure

/-- A failure as it is stored. -/
def stored (failure : Failure) : Json :=
  .ofFields [("kind", failure.kind.stored), ("message", .string failure.message),
    ("node_id", .string failure.node), ("at", failure.time.stored)]

/-- The fields of a stored failure. -/
def record : Record (FailureKind × String × NodeId × Instant × Unit) :=
  .field "kind" [] none FailureKind.decoder <| .field "message" [] none .string <|
    .field "node_id" [] none .string <| .field "at" [] none Instant.decoder .done

/-- A failure from its stored form. -/
def decoder : Decoder Failure :=
  (record.decoder "struct RunFailure").map fun (kind, message, node, time, _) =>
    ⟨kind, message, node, time⟩

end Failure

end Dialogue
