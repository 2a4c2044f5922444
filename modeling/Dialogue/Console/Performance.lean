import Dialogue.Console.Command
import Dialogue.Console.Example
import Dialogue.Console.Play
import Dialogue.Observer

/-!
# Performing commands

What each command does.  A command that runs a flow ends with a play that has
begun; all others are done when they end.
-/

namespace Dialogue.Console

/-- How a command ends. -/
inductive Ending where
  | done
  /-- A run has begun that is now to be played. -/
  | playing (play : Play)
  | failed (complaint : Complaint)
  /-- The settings are such that there can be no engine. -/
  | crashed

/-- The variables that a run begins with. -/
def readVariables : Option String → Except Complaint Values
  | none => .ok []
  | some text =>
    match Json.ofText text with
    | .error fault =>
      .error ⟨"--vars is not valid JSON", some (DecodeError.fault fault).message⟩
    | .ok json =>
      match Value.ofJson json with
      | .object fields => .ok fields
      | _ => .error ⟨"--vars must be a JSON object", none⟩

/-- Reads the settings of a run. -/
def readSettings : Option String → Filing (Except Complaint Settings)
  | none => return .ok {}
  | some path => do
    match ← Filing.read path with
    | .error e => return .error ⟨"reading " ++ path, some e.message⟩
    | .ok text =>
      return (Settings.decoder.ofText text).mapError fun e =>
        ⟨Settings.decoder.errorWords text e, none⟩

/-- Reads the flows besides the one in a run's file, which takes the place of one of its name. -/
def readFlows (directory : Option String) (flow : Flow) :
    Filing (Except LoadError (List Flow)) := do
  match directory with
  | none => return .ok [flow]
  | some path =>
    return (← Flow.loadFolder path).map fun flows => flows.filter (·.id != flow.id) ++ [flow]

/-- Runs a flow. -/
def run (options : RunOptions) : Consoling Ending := do
  Consoling.say ("🚀 Loading flow from: " ++ options.file)
  match ← Consoling.filing (Flow.loadFile options.file) with
  | .error e => return .failed (.ofLoad e)
  | .ok flow =>
    Consoling.say flow.headline
    match ← Consoling.filing (readFlows options.flows flow) with
    | .error e => return .failed (.ofLoad e)
    | .ok flows =>
      match ← Consoling.filing (readSettings options.settings) with
      | .error e => return .failed e
      | .ok settings =>
        if !settings.isUsable then return .crashed
        else
          match readVariables options.vars with
          | .error e => return .failed e
          | .ok vars =>
            match ← Play.start settings flows
                { flow := flow.id, contactId := options.contactId, vars } with
            | .error e => return .failed e
            | .ok play =>
              Consoling.say ("▶️  Run " ++ play.run.text ++ " started")
              return .playing play

/-- Checks the flow in a file. -/
def validate (file : String) : Consoling Ending := do
  Consoling.say ("🔍 Validating flow: " ++ file)
  match ← Consoling.filing (Flow.loadFile file) with
  | .error e => return .failed (.ofLoad e)
  | .ok flow =>
    match Graph.load .standard flow with
    | .error e => return .failed ⟨e.message, none⟩
    | .ok graph =>
      Consoling.sayAll (graph.report flow.edges.length)
      return .done

/-- Writes the example flow to a file. -/
def create (output : String) : Consoling Ending := do
  match ← Consoling.filing (Filing.write output Example.welcome.stored.pretty) with
  | .error e => return .failed ⟨e.message, none⟩
  | .ok () =>
    Consoling.sayAll ["✨ Created example flow: " ++ output, "", "Run it with:",
      "  convo run --file " ++ output ++ " --vars '\x7b\"name\": \"Ana\"\x7d'"]
    return .done

/-- Performs a command. -/
def Command.perform : Command → Consoling Ending
  | .run options => Console.run options
  | .validate file => Console.validate file
  | .nodes => do
    Consoling.sayAll Registry.standard.report
    return .done
  | .create output => Console.create output

/-- What is shown before a reply is read. -/
def prompt : String := "> "

/-- A line of input without the marks that end it. -/
def lineText (raw : String) : String :=
  match raw.toList.reverse with
  | '\n' :: '\r' :: rest => String.ofList rest.reverse
  | '\n' :: rest => String.ofList rest.reverse
  | _ => raw

/-- How a program ends. -/
inductive ExitCode where
  | success
  | failure
  | misuse
  | crash
  deriving DecidableEq, Repr

/-- The number of an exit code. -/
def ExitCode.number : ExitCode → Nat
  | .success => 0
  | .failure => 1
  | .misuse => 2
  | .crash => 101

end Dialogue.Console
