/-!
# Parameters

What a command may be given on the command line, and reading it.  A parameter
has a name and may have a letter: `--name value`, `--name=value`, `-n value`,
`-nvalue` and `-n=value` mean the same, and letters of switches may be written
together.  Each parameter may be given once.  Reading stops at the first
argument that is amiss.
-/

namespace Dialogue.Console

/-- What a parameter takes. -/
inductive Operand where
  /-- Nothing: the parameter is a switch. -/
  | nothing
  | text
  /-- A path, which is not empty. -/
  | path
  deriving DecidableEq, Repr

/-- Something that a command may be given. -/
structure Parameter where
  name : String
  letter : Option Char := none
  operand : Operand
  required : Bool := false
  /-- What is taken where nothing is given. -/
  fallback : Option String := none
  about : String
  deriving DecidableEq, Repr

/-- What is amiss with arguments. -/
inductive Misuse where
  | noCommand
  | unknownCommand (name : String)
  | unexpected (argument : String)
  /-- A parameter without the value it takes. -/
  | noValue (parameter : Parameter)
  /-- A switch with a value. -/
  | extraValue (parameter : Parameter) (value : String)
  | repeated (parameter : Parameter)
  | missing (parameter : Parameter)
  deriving DecidableEq, Repr

/-- Why no command comes of arguments. -/
inductive Refusal where
  /-- Help was asked for. -/
  | help
  | misuse (misuse : Misuse)
  deriving DecidableEq, Repr

/-- The values given so far; that of a switch is empty. -/
abbrev Given := List (Parameter × String)

namespace Parameter

/-- What stands for the value of a parameter. -/
def placeholder (parameter : Parameter) : String :=
  "<" ++ (parameter.name.toUpper.replace "-" "_") ++ ">"

/-- A parameter as it is written. -/
def usage (parameter : Parameter) : String :=
  "--" ++ parameter.name ++
    if parameter.operand = .nothing then "" else " " ++ parameter.placeholder

end Parameter

/-- The words for a misuse. -/
def Misuse.message : Misuse → String
  | .noCommand => "a command is required"
  | .unknownCommand name => "unrecognized subcommand '" ++ name ++ "'"
  | .unexpected argument => "unexpected argument '" ++ argument ++ "' found"
  | .noValue parameter =>
    "a value is required for '" ++ parameter.usage ++ "' but none was supplied"
  | .extraValue parameter value =>
    "unexpected value '" ++ value ++ "' for '" ++ parameter.usage ++
      "' found; no more were expected"
  | .repeated parameter =>
    "the argument '" ++ parameter.usage ++ "' cannot be used multiple times"
  | .missing parameter =>
    "the following required arguments were not provided:\n  " ++ parameter.usage

namespace Given

/-- Gives a value to a parameter. -/
def give (given : Given) (parameter : Parameter) (value : String) : Except Refusal Given :=
  if given.any (·.1 == parameter) then .error (.misuse (.repeated parameter))
  else if parameter.operand = .path ∧ value.isEmpty then .error (.misuse (.noValue parameter))
  else .ok (given ++ [(parameter, value)])

/-- The value of a parameter, if it has one. -/
def value? (given : Given) (parameter : Parameter) : Option String :=
  (given.lookup parameter).or parameter.fallback

/-- The value of a parameter that has to have one. -/
def value (given : Given) (parameter : Parameter) : Except Refusal String :=
  match given.value? parameter with
  | some value => .ok value
  | none => .error (.misuse (.missing parameter))

/-- Whether a switch is on. -/
def isOn (given : Given) (parameter : Parameter) : Bool := (given.lookup parameter).isSome

end Given

/-- Whether an argument is a parameter and no value. -/
def isOption (argument : String) : Bool :=
  match argument.toList with
  | '-' :: _ :: _ => true
  | _ => false

/-- Reads letters that are written together: what they give, and the parameter that takes the next
argument as its value. -/
def readLetters (parameters : List Parameter) (argument : String) :
    List Char → Given → Except Refusal (Given × Option Parameter)
  | [], given => .ok (given, none)
  | 'h' :: _, _ => .error .help
  | c :: rest, given =>
    match parameters.find? (·.letter == some c) with
    | none => .error (.misuse (.unexpected argument))
    | some parameter =>
      match parameter.operand, rest with
      | .nothing, _ => do readLetters parameters argument rest (← given.give parameter "")
      | _, [] => .ok (given, some parameter)
      | _, '=' :: value => (given.give parameter (String.ofList value)).map (·, none)
      | _, value => (given.give parameter (String.ofList value)).map (·, none)

/-- Reads a name with or without a value: what it gives, and the parameter that takes the next
argument as its value. -/
def readName (parameters : List Parameter) (argument : String) (given : Given) :
    Except Refusal (Given × Option Parameter) :=
  let written := argument.toList.drop 2
  let name := String.ofList (written.takeWhile (· != '='))
  let value : Option String :=
    match written.dropWhile (· != '=') with
    | _ :: value => some (String.ofList value)
    | [] => none
  if name = "help" ∧ value = none then .error .help
  else
    match parameters.find? (·.name == name) with
    | none => .error (.misuse (.unexpected argument))
    | some parameter =>
      match parameter.operand, value with
      | .nothing, none => (given.give parameter "").map (·, none)
      | .nothing, some value => .error (.misuse (.extraValue parameter value))
      | _, some value => (given.give parameter value).map (·, none)
      | _, none => .ok (given, some parameter)

/-- Reads one argument that is no value. -/
def readOption (parameters : List Parameter) (argument : String) (given : Given) :
    Except Refusal (Given × Option Parameter) :=
  match argument.toList with
  | '-' :: '-' :: _ => readName parameters argument given
  | '-' :: letters => readLetters parameters argument letters given
  | _ => .error (.misuse (.unexpected argument))

/-- Reads arguments, where `pending` takes the next one as its value. -/
def readArguments (parameters : List Parameter) :
    List String → Option Parameter → Given → Except Refusal Given
  | [], none, given => .ok given
  | [], some parameter, _ => .error (.misuse (.noValue parameter))
  | argument :: rest, some parameter, given =>
    if isOption argument then .error (.misuse (.noValue parameter))
    else do readArguments parameters rest none (← given.give parameter argument)
  | argument :: rest, none, given =>
    if argument = "--" then
      match rest with
      | [] => .ok given
      | extra :: _ => .error (.misuse (.unexpected extra))
    else if isOption argument then do
      let (given, pending) ← readOption parameters argument given
      readArguments parameters rest pending given
    else .error (.misuse (.unexpected argument))

end Dialogue.Console
