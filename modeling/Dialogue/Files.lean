import Dialogue.Interaction
import Dialogue.Flow
import Dialogue.Json.Position

/-!
# Flows in files

What may be asked of the files in reach, and the flows read from them.  A flow
is a file of its own; all flows of a folder are those of its files with the
extension `json`, in ascending order of their names.
-/

namespace Dialogue

/-- Why something asked of files failed. -/
inductive FileError where
  | notFound
  | notAFolder
  | isAFolder
  /-- What the file holds is no text. -/
  | notText
  /-- Any other complaint of the system. -/
  | system (complaint : String)
  deriving DecidableEq, Repr

/-- The words of a file error. -/
def FileError.message : FileError → String
  | .notFound => "No such file or directory (os error 2)"
  | .notAFolder => "Not a directory (os error 20)"
  | .isAFolder => "Is a directory (os error 21)"
  | .notText => "stream did not contain valid UTF-8"
  | .system complaint => complaint

/-- What may be asked of files. -/
inductive FileRequest where
  /-- The text of a file. -/
  | read (path : String)
  /-- The names of all that is in a folder. -/
  | list (path : String)
  /-- Make a file with a text, or give it another. -/
  | write (path text : String)
  deriving DecidableEq, Repr

/-- What a request to files is answered with. -/
def FileRequest.Answer : FileRequest → Type
  | .read _ => Except FileError String
  | .list _ => Except FileError (List String)
  | .write .. => Except FileError Unit

/-- A computation that works with files. -/
abbrev Filing (α : Type) := Interaction FileRequest FileRequest.Answer α

namespace Filing

/-- Makes one request. -/
def request (q : FileRequest) : Filing q.Answer := Interaction.request q

/-- Reads the text of a file. -/
def read (path : String) : Filing (Except FileError String) := request (.read path)

/-- Lists the names of all that is in a folder. -/
def list (path : String) : Filing (Except FileError (List String)) := request (.list path)

/-- Writes a file. -/
def write (path text : String) : Filing (Except FileError Unit) := request (.write path text)

end Filing

/-- Why a flow could not be read from a file. -/
inductive LoadError where
  | file (error : FileError)
  /-- The text of the file is no flow. -/
  | decode (text : String) (error : DecodeError)
  deriving DecidableEq, Repr

/-- What lies behind a load error, in words. -/
def LoadError.cause : LoadError → String
  | .file e => e.message
  | .decode text e => Flow.decoder.errorWords text e

/-- The words of a load error. -/
def LoadError.message (error : LoadError) : String :=
  match error with
  | .file _ => "IO error: " ++ error.cause
  | .decode .. => "Serialization error: " ++ error.cause

namespace Flow

/-- Reads the flow in a file. -/
def loadFile (path : String) : Filing (Except LoadError Flow) := do
  match ← Filing.read path with
  | .error e => return .error (.file e)
  | .ok text => return (Flow.decoder.ofText text).mapError (.decode text)

/-- Reads the flows in several files, up to the first that cannot be read. -/
def loadFiles : List String → Filing (Except LoadError (List Flow))
  | [] => return .ok []
  | path :: rest => do
    match ← loadFile path with
    | .error e => return .error e
    | .ok flow => return (← loadFiles rest).map (flow :: ·)

/-- The extension of a file's name: what follows its last point, unless that is its first
character. -/
def extension? (name : String) : Option String :=
  let last := (name.toList.reverse.takeWhile (· != '.')).reverse
  if last.length + 1 < name.length then some (String.ofList last) else none

/-- The names of a folder's flow files in ascending order. -/
def fileNames (names : List String) : List String :=
  (names.filter fun name => extension? name = some "json").mergeSort fun a b => decide (a ≤ b)

/-- Reads all flows in a folder. -/
def loadFolder (path : String) : Filing (Except LoadError (List Flow)) := do
  match ← Filing.list path with
  | .error e => return .error (.file e)
  | .ok names => loadFiles ((fileNames names).map fun name => path ++ "/" ++ name)

end Flow

end Dialogue
