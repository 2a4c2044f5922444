import Dialogue.Console.Parameter

/-!
# Commands

What can be asked for on the command line, and the help that is given about it.
-/

namespace Dialogue.Console

/-- What a flow is to be run with. -/
structure RunOptions where
  file : String
  flows : Option String := none
  contactId : String
  vars : Option String := none
  settings : Option String := none
  verbose : Bool := false
  deriving DecidableEq, Repr

/-- What is asked for. -/
inductive Command where
  /-- Run a flow with the lines of the standard input as replies. -/
  | run (options : RunOptions)
  /-- Check the flow in a file. -/
  | validate (file : String)
  /-- List the types of nodes. -/
  | nodes
  /-- Write an example. -/
  | create (output : String)
  deriving DecidableEq, Repr

/-- The kinds of commands. -/
inductive Verb where
  | run
  | validate
  | nodes
  | create
  deriving DecidableEq, Repr

namespace Verb

/-- All kinds of commands. -/
def all : List Verb := [.run, .validate, .nodes, .create]

/-- The word for a kind of command. -/
def name : Verb → String
  | .run => "run"
  | .validate => "validate"
  | .nodes => "nodes"
  | .create => "init"

/-- What a kind of command does. -/
def about : Verb → String
  | .run => "Run a flow interactively; stdin lines answer menus"
  | .validate => "Validate a flow file"
  | .nodes => "List available node types"
  | .create => "Create an example flow"

/-- The flow file of a command. -/
def file : Parameter where
  name := "file"
  letter := some 'f'
  operand := .path
  required := true
  about := "Path to the flow JSON file"

/-- The folder of a run's other flows. -/
def flowsDir : Parameter where
  name := "flows-dir"
  operand := .path
  about := "Directory with additional flows available to SUBFLOW nodes"

/-- The contact of a run. -/
def contact : Parameter where
  name := "contact"
  letter := some 'c'
  operand := .text
  fallback := some "cli-contact"
  about := "Contact id the run is started for"

/-- The variables that a run begins with. -/
def vars : Parameter where
  name := "vars"
  operand := .text
  about := "Initial variables as a JSON object"

/-- The file of a run's settings. -/
def config : Parameter where
  name := "config"
  operand := .path
  about := "Runtime configuration JSON file"

/-- Whether a run tells more. -/
def verbose : Parameter where
  name := "verbose"
  letter := some 'v'
  operand := .nothing
  about := "Show verbose output"

/-- The file that an example is written to. -/
def output : Parameter where
  name := "output"
  letter := some 'o'
  operand := .path
  fallback := some "flow.json"
  about := "Output file path"

/-- What a kind of command may be given. -/
def parameters : Verb → List Parameter
  | .run => [file, flowsDir, contact, vars, config, verbose]
  | .validate => [file]
  | .nodes => []
  | .create => [output]

/-- The command with the values given. -/
def command (verb : Verb) (given : Given) : Except Refusal Command :=
  match verb with
  | .run => do
    return .run {
      file := ← given.value file
      flows := given.value? flowsDir
      contactId := ← given.value contact
      vars := given.value? vars
      settings := given.value? config
      verbose := given.isOn verbose }
  | .validate => do return .validate (← given.value file)
  | .nodes => return .nodes
  | .create => do return .create (← given.value output)

end Verb

/-- What is refused, with the kind of command that was asked for, if that was clear. -/
structure Refused where
  verb : Option Verb := none
  refusal : Refusal
  deriving DecidableEq, Repr

/-- The kind of command of a name. -/
def verb? (name : String) : Option Verb := Verb.all.find? (·.name == name)

/-- Reads the names of the command that help is asked about. -/
def readHelp : List String → Refused
  | [] => { refusal := .help }
  | [name] =>
    match verb? name with
    | some verb => { verb := some verb, refusal := .help }
    | none =>
      if name = "help" then { refusal := .help }
      else { refusal := .misuse (.unknownCommand name) }
  | name :: other :: _ =>
    match verb? name with
    | some verb => { verb := some verb, refusal := .misuse (.unknownCommand other) }
    | none => { refusal := .misuse (.unknownCommand (if name = "help" then other else name)) }

/-- The command that arguments ask for. -/
def Command.ofArguments : List String → Except Refused Command
  | [] => .error { refusal := .misuse .noCommand }
  | name :: rest =>
    match verb? name with
    | some verb =>
      ((readArguments verb.parameters rest none []).bind verb.command).mapError fun refusal =>
        { verb := some verb, refusal }
    | none =>
      if name = "help" then .error (readHelp rest)
      else if isOption name then
        match readArguments [] (name :: rest) none [] with
        | .error refusal => .error { refusal }
        | .ok _ => .error { refusal := .misuse .noCommand }
      else .error { refusal := .misuse (.unknownCommand name) }

/-! ## Help -/

/-- Two columns of texts, the second of which begins in one place. -/
def columns (rows : List (String × String)) : String :=
  let width := (rows.map (·.1.length)).foldl max 0
  "\n".intercalate (rows.map fun (left, right) =>
    "  " ++ left ++ String.ofList (List.replicate (width - left.length) ' ') ++ "  " ++ right)

/-- The column of a parameter that shows how it is written. -/
def Parameter.column (parameter : Parameter) : String :=
  (match parameter.letter with
    | some c => "-" ++ c.toString ++ ", "
    | none => "    ") ++ parameter.usage

/-- The column of a parameter that says what it is for. -/
def Parameter.purpose (parameter : Parameter) : String :=
  parameter.about ++
    match parameter.fallback with
    | some value => " [default: " ++ value ++ "]"
    | none => ""

/-- How a command is written, in short. -/
def usageLine (verb : Option Verb) : String :=
  "Usage: convo " ++
    match verb with
    | none => "<COMMAND>"
    | some verb =>
      let required := (verb.parameters.filter (·.required)).map fun p => " " ++ p.usage
      let optional := if verb.parameters.all (·.required) then "" else " [OPTIONS]"
      verb.name ++ optional ++ String.join required

/-- The row about the switch that asks for help. -/
def helpRow : String × String := ("-h, --help", "Print help")

/-- The help about all commands or one of them. -/
def help (verb : Option Verb) : String :=
  match verb with
  | none =>
    "Conversational flow engine CLI\n\n" ++ usageLine none ++ "\n\nCommands:\n" ++
      columns (Verb.all.map (fun verb => (verb.name, verb.about)) ++
        [("help", "Print this message or the help of the given subcommand(s)")]) ++
      "\n\nOptions:\n" ++ columns [helpRow]
  | some verb =>
    verb.about ++ "\n\n" ++ usageLine (some verb) ++ "\n\nOptions:\n" ++
      columns (verb.parameters.map (fun p => (p.column, p.purpose)) ++ [helpRow])

/-- What is said about a misuse. -/
def Misuse.report (misuse : Misuse) (verb : Option Verb) : String :=
  match misuse with
  | .noCommand => help none
  | _ =>
    "error: " ++ misuse.message ++ "\n\n" ++ usageLine verb ++
      "\n\nFor more information, try '--help'."

end Dialogue.Console
