import Dialogue.Error
import Dialogue.Files

/-!
# The console

What a command at a console may ask for besides files, and how it ends in
trouble.  A complaint has a message and may have a cause, which is shown below
it.
-/

namespace Dialogue

/-- What a command may ask for. -/
inductive ConsoleRequest where
  /-- Something asked of files. -/
  | file (request : FileRequest)
  /-- Show a line. -/
  | say (line : String)
  /-- The time. -/
  | clock
  /-- A number drawn by lot. -/
  | lot
  deriving DecidableEq, Repr

/-- What a request of a command is answered with. -/
def ConsoleRequest.Answer : ConsoleRequest → Type
  | .file request => request.Answer
  | .say _ => Unit
  | .clock => Instant
  | .lot => Nat

/-- A computation of a command. -/
abbrev Consoling (α : Type) := Interaction ConsoleRequest ConsoleRequest.Answer α

namespace Consoling

/-- Makes one request. -/
def request (q : ConsoleRequest) : Consoling q.Answer := Interaction.request q

/-- Works with files. -/
def filing {α : Type} (work : Filing α) : Consoling α :=
  work.relay fun q => request (.file q)

/-- Shows a line. -/
def say (line : String) : Consoling Unit := request (.say line)

/-- Shows several lines. -/
def sayAll : List String → Consoling Unit
  | [] => return ()
  | line :: rest => do
    say line
    sayAll rest

/-- Asks for the time. -/
def clock : Consoling Instant := request .clock

/-- Draws a number by lot. -/
def lot : Consoling Nat := request .lot

end Consoling

/-- What a command that fails complains about. -/
structure Complaint where
  message : String
  cause : Option String := none
  deriving DecidableEq, Repr

namespace Complaint

/-- A text with its lines moved to the right. -/
def indented (text : String) : String := "    " ++ text.replace "\n" "\n    "

/-- The text of a complaint. -/
def text (complaint : Complaint) : String :=
  "Error: " ++ complaint.message ++
    match complaint.cause with
    | none => ""
    | some cause => "\n\nCaused by:\n" ++ indented cause

/-- The complaint about a flow that could not be read. -/
def ofLoad (error : LoadError) : Complaint := ⟨error.message, some error.cause⟩

/-- The complaint about a flow error. -/
def ofFlow (error : FlowError) : Complaint where
  message := error.message
  cause :=
    match error with
    | .definition e => some e.message
    | .node e => some e.message
    | .flowNotFound _ | .runNotFound _ | .execution _ => none

/-- The complaint about a run that could not be resumed. -/
def ofResume (error : ResumeError) : Complaint :=
  match error with
  | .flow e => ofFlow e
  | .notFound _ | .busy _ | .stale .. => ⟨error.message, none⟩

end Complaint

end Dialogue
