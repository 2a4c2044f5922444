import Dialogue.Engine.Operation
import Dialogue.World

/-!
# Reports

What people at a console are told about flows, runs and types of nodes, line by
line.
-/

namespace Dialogue

/-- The time of day to the millisecond. -/
def Instant.millisText (t : Instant) : String :=
  let second := t.secondOfDay % 60 + t.nanos / Instant.second
  let millis := t.nanos % Instant.second / 1000000
  t.clockText ++ ":" ++ Instant.twoDigits second ++ "." ++
    String.ofList (Text.padZeros 3 (Nat.toDigits 10 millis))

/-- The line about what a collaborator was asked. -/
def Delivery.line : Delivery → String
  | .sent _ message _ =>
    match message.caption with
    | some caption =>
      "💬 [" ++ message.kind.title ++ "] " ++ message.body ++ " (" ++ caption ++ ")"
    | none => "💬 " ++ message.body
  | .assigned contactId queue _ =>
    "👤 " ++ contactId ++ " handed over to queue " ++ apostrophes queue

/-- The line about an event, if people are told about it. -/
def Event.line? (event : Event) : Option String :=
  match event.what with
  | .nodeEntered => some ("  ⚡ Entering node: " ++ event.node)
  | .nodeCompleted => none
  | .runPaused (.reply _) => some ("  ⏸️  Waiting for a reply at " ++ event.node)
  | .runPaused (.timer resumeAt) =>
    some ("  ⏳ " ++ event.node ++ " resumes at " ++ resumeAt.millisText)
  | .runCompleted => some ("  ✅ Completed at " ++ event.node)
  | .runFailed kind message =>
    some ("  ❌ " ++ kind.title ++ " at " ++ event.node ++ ": " ++ message)

namespace World

/-- The lines about what has happened in a world since it was `earlier`. -/
def news (earlier world : World) : List String :=
  let deliveries := world.ledger.entries.length - earlier.ledger.entries.length
  let events := world.events.length - earlier.events.length
  ((world.ledger.entries.take deliveries).reverse.map Delivery.line) ++
    (world.events.take events).reverse.filterMap Event.line?

end World

/-- The lines about a run at its end. -/
def Run.summary (run : Run) : List String :=
  ["", "📊 Run Summary:", "   Execution ID: " ++ run.id.text, "   Status: " ++ run.status.title,
    "   Visited: " ++ toString run.history.length ++ " nodes"] ++
    (match run.failure with
      | some failure => ["   Failure: " ++ failure.kind.title ++ " (" ++ failure.message ++ ")"]
      | none => []) ++
    if run.vars.isEmpty then []
    else ["", "📤 Variables:"] ++
      run.vars.map fun (name, value) => "   " ++ name ++ ": " ++ value.display

/-- The line about a flow that is going to be run. -/
def Flow.headline (flow : Flow) : String :=
  "📋 Flow: " ++ flow.name.getD flow.id ++ " (" ++ toString flow.nodes.length ++ " nodes)"

/-- The lines about a flow that was loaded, which has so many edges. -/
def Graph.report (graph : Graph) (edges : Nat) : List String :=
  ["✅ Flow is valid:", "   Id: " ++ graph.id] ++
    (match graph.name with
      | some name => ["   Name: " ++ name]
      | none => []) ++
    ["   Nodes: " ++ toString graph.size, "   Edges: " ++ toString edges,
      "   Start: " ++ graph.start] ++
    if graph.unreachable.isEmpty then []
    else ["⚠️  Unreachable nodes: " ++ ", ".intercalate graph.unreachable]

/-- The lines about the registered types of nodes. -/
def Registry.report (registry : Registry) : List String :=
  ["📦 Available Node Types:", ""] ++
    registry.types.flatMap fun (name, nodeType) =>
      let pauses := if nodeType.metadata.suspends then ", may pause" else ""
      ["  • " ++ name ++ " (" ++ nodeType.metadata.category ++ pauses ++ ")",
        "    " ++ nodeType.metadata.description]

end Dialogue
