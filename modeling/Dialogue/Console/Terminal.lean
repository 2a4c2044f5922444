import Dialogue.Folder
import Dialogue.Console.Performance

/-!
# Terminals in memory

A terminal as a value: a folder, the lines that will be typed, a clock that
stands still but for waiting, and all that was shown.  Commands run on it from
beginning to end.  Its transcript leaves out what differs from one time to the
next, such as identifiers.
-/

namespace Dialogue.Identifier

/-- Whether a text begins with an identifier in its written form. -/
def begins (cs : List Char) : Bool :=
  match ungrouped? groups (cs.take 36) with
  | some digits => digits.all fun c => c.isDigit || ('a' ≤ c && c ≤ 'f')
  | none => false

/-- A text with a mark in the place of each identifier in it. -/
def redacted (mark text : String) : String :=
  String.ofList (go 0 text.toList)
where
  /-- Goes through the text; so many characters still belong to the last identifier. -/
  go (rest : Nat) : List Char → List Char
    | [] => []
    | c :: cs =>
      if 0 < rest then go (rest - 1) cs
      else if begins (c :: cs) then mark.toList ++ go 35 cs
      else c :: go 0 cs

end Dialogue.Identifier

namespace Dialogue.Console

/-- A terminal. -/
structure Terminal where
  folder : Folder := {}
  /-- The lines that will be typed. -/
  input : List String := []
  time : Instant
  /-- The texts shown so far, latest first. -/
  shown : List String := []

/-- How a program ended, and what it complained about. -/
structure Conclusion where
  code : ExitCode
  complaint : Option String := none
  deriving DecidableEq, Repr

/-- The lines of a text with the marks that end them; the last line may have none. -/
def rawLines (text : String) : List String :=
  let parts := text.splitOn "\n"
  (parts.dropLast.map (· ++ "\n")) ++ (parts.getLast?.filter (· ≠ "")).toList

namespace Terminal

/-- A terminal that a text will be typed at. -/
def ofText (folder : Folder) (text : String) (time : Instant) : Terminal :=
  { folder, input := (rawLines text).map lineText, time }

/-- Shows a text. -/
def put (terminal : Terminal) (text : String) : Terminal :=
  { terminal with shown := text :: terminal.shown }

/-- All that was shown, line by line. -/
def output (terminal : Terminal) : List String :=
  (rawLines (String.join terminal.shown.reverse)).map lineText

/-- A line without the prompts before it. -/
def unprompted : List Char → List Char
  | '>' :: ' ' :: rest => unprompted rest
  | line => line

/-- Whether a line is about an event. -/
def isNotice (line : String) : Bool :=
  ["⚡", "⏸", "⏳", "✅", "❌"].any fun mark => line.startsWith ("  " ++ mark)

/-- The lines that were shown, but for those about events, with a mark in the place of each
identifier. -/
def transcript (terminal : Terminal) : List String :=
  let lines := terminal.output.map fun line => String.ofList (unprompted line.toList)
  (lines.filter (!isNotice ·)).map (Identifier.redacted "<uuid>")

/-- Answers what a command asks for. -/
def answer (request : ConsoleRequest) (terminal : Terminal) : request.Answer × Terminal :=
  match request with
  | .file q =>
    let (result, folder) := terminal.folder.answer q
    (result, { terminal with folder })
  | .say line => ((), terminal.put (line ++ "\n"))
  | .clock => (terminal.time, terminal)
  | .lot => ((0 : Nat), terminal)

/-- Runs what a command does. -/
def interpret {α : Type} (terminal : Terminal) (work : Consoling α) : α × Terminal :=
  work.run answer terminal

/-- The end with a complaint. -/
def failed (complaint : Complaint) : Conclusion := ⟨.failure, some complaint.text⟩

/-- Plays a run to its end, in so many turns at most; no end if they are not enough. -/
def play (terminal : Terminal) (run : Play) : Nat → Option Conclusion × Terminal
  | 0 => (none, terminal)
  | turns + 1 =>
    match run.need with
    | .over state =>
      let ((), terminal) := terminal.interpret (Consoling.sayAll state.summary)
      (some ⟨.success, none⟩, terminal)
    | .lost complaint => (some (failed complaint), terminal)
    | .alarm time =>
      let (run, terminal) := { terminal with time }.interpret run.ring
      terminal.play run turns
    | .reply =>
      let terminal := terminal.put prompt
      let (result, terminal) :=
        match terminal.input with
        | [] => terminal.interpret run.hangUp
        | line :: rest => { terminal with input := rest }.interpret (run.reply line)
      match result with
      | .error complaint => (some (failed complaint), terminal)
      | .ok run => terminal.play run turns

/-- Runs a command line, in so many turns at most. -/
def execute (terminal : Terminal) (arguments : List String) (turns : Nat) :
    Option Conclusion × Terminal :=
  match Command.ofArguments arguments with
  | .error ⟨verb, .help⟩ => (some ⟨.success, none⟩, terminal.put (help verb ++ "\n"))
  | .error ⟨verb, .misuse misuse⟩ => (some ⟨.misuse, some (misuse.report verb)⟩, terminal)
  | .ok command =>
    match terminal.interpret command.perform with
    | (.done, terminal) => (some ⟨.success, none⟩, terminal)
    | (.playing run, terminal) => terminal.play run turns
    | (.failed complaint, terminal) => (some (failed complaint), terminal)
    | (.crashed, terminal) => (some ⟨.crash, none⟩, terminal)

end Terminal

end Dialogue.Console
