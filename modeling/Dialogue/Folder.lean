import Dialogue.Files

/-!
# Folders in memory

A folder as a value: the files in it and in the folders below it, each under its
path.  A folder below exists as long as a file is in it.
-/

namespace Dialogue

/-- A path as the names that lead from the outermost folder to a file. -/
abbrev Path := List String

/-- Files, each under its path, with the bytes it holds. -/
structure Folder where
  files : List (Path × ByteArray) := []

namespace Folder

/-- What a path leads to. -/
inductive Found where
  | file (bytes : ByteArray)
  | folder

/-- What a path leads to that has no detours. -/
def find? (folder : Folder) (path : Path) : Option Found :=
  match folder.files.lookup path with
  | some bytes => some (.file bytes)
  | none =>
    if path.isEmpty || folder.files.any fun (other, _) => path.isPrefixOf other then some .folder
    else none

/-- Follows the steps of a written path from the folder `here`, whose names are in reverse order:
the path without detours.  Every step but the last has to lead to a folder. -/
def follow (folder : Folder) (here : Path) : List String → Except FileError Path
  | [] => .ok here.reverse
  | step :: rest =>
    match folder.find? here.reverse with
    | none => .error .notFound
    | some (.file _) => .error .notAFolder
    | some .folder =>
      if step = "" ∨ step = "." then follow folder here rest
      else if step = ".." then follow folder here.tail rest
      else follow folder (step :: here) rest

/-- The path without detours that a written one stands for.  One that begins with a slash leads out
of all folders in memory. -/
def resolve (folder : Folder) (written : String) : Except FileError Path :=
  if written.isEmpty ∨ written.toList.head? = some '/' then .error .notFound
  else folder.follow [] (written.splitOn "/")

/-- Reads a file as text. -/
def read (folder : Folder) (written : String) : Except FileError String := do
  match folder.find? (← folder.resolve written) with
  | none => .error .notFound
  | some .folder => .error .isAFolder
  | some (.file bytes) =>
    match String.fromUTF8? bytes with
    | none => .error .notText
    | some text => .ok text

/-- The names of all that is in a folder. -/
def list (folder : Folder) (written : String) : Except FileError (List String) := do
  let path ← folder.resolve written
  match folder.find? path with
  | none => .error .notFound
  | some (.file _) => .error .notAFolder
  | some .folder =>
    .ok (folder.files.filterMap fun (other, _) =>
      if path.isPrefixOf other then other[path.length]? else none).eraseDups

/-- Puts a file in its place. -/
def put (folder : Folder) (path : Path) (bytes : ByteArray) : Folder :=
  { files := (path, bytes) :: folder.files.filter (·.1 != path) }

/-- Writes a text to a file, whose folder has to exist. -/
def write (folder : Folder) (written text : String) : Except FileError Folder := do
  let path ← folder.resolve written
  match folder.find? path, folder.find? path.dropLast with
  | some .folder, _ => .error .isAFolder
  | _, some .folder => .ok (folder.put path text.toUTF8)
  | _, _ => .error .notFound

/-- A folder of files under written paths. -/
def ofFiles (files : List (String × ByteArray)) : Folder :=
  files.foldl (fun folder (name, bytes) => folder.put (name.splitOn "/") bytes) {}

/-- Answers what is asked of files. -/
def answer (folder : Folder) : (request : FileRequest) → request.Answer × Folder
  | .read path => (folder.read path, folder)
  | .list path => (folder.list path, folder)
  | .write path text =>
    match folder.write path text with
    | .error e => (.error e, folder)
    | .ok folder => (.ok (), folder)

end Folder

end Dialogue
