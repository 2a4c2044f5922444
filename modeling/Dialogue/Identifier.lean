import Dialogue.Json.Decoder

/-!
# Identifiers

Runs and suspensions are told apart by universally unique identifiers of 128
bits.  They are written as five groups of hexadecimal digits and read in plain,
grouped, braced and resource-name form.
-/

namespace Dialogue

/-- A universally unique identifier. -/
structure Identifier where
  bits : Nat
  deriving DecidableEq, Repr, Inhabited

namespace Identifier

/-- The identifier of which every bit is zero. -/
def zero : Identifier := ⟨0⟩

/-- The five groups of an identifier, by their numbers of digits. -/
def groups : List Nat := [8, 4, 4, 4, 12]

/-- Cuts digits into groups with a dash between them. -/
def grouped : List Nat → List Char → List Char
  | [], _ => []
  | [n], digits => digits.take n
  | n :: sizes, digits => digits.take n ++ '-' :: grouped sizes (digits.drop n)

/-- The written form of an identifier. -/
def text (id : Identifier) : String :=
  String.ofList (grouped groups (Text.padZeros 32 (Text.hexDigits (id.bits % twoTo 128))))

/-- An identifier as it is stored. -/
def stored (id : Identifier) : Json := .string id.text

/-- The number that hexadecimal digits stand for. -/
def ofDigits? (cs : List Char) : Option Nat :=
  cs.foldl (fun n c => do
    let n ← n
    let d ← Document.hexValue? c
    pure (16 * n + d)) (some 0)

/-- Removes the dashes between groups, if they stand where they should. -/
def ungrouped? : List Nat → List Char → Option (List Char)
  | [], cs => if cs.isEmpty then some [] else none
  | [n], cs => if cs.length = n then some cs else none
  | n :: sizes, cs =>
    match cs.drop n with
    | '-' :: rest => (ungrouped? sizes rest).map (cs.take n ++ ·)
    | _ => none

/-- The words before an identifier in resource-name form. -/
def resourceName : List Char := "urn:uuid:".toList

/-- Takes the wrapping of an identifier off: what is inside, how many characters came before it,
and whether there was none. -/
def unwrap (cs : List Char) : List Char × Nat × Bool :=
  match cs with
  | '\x7b' :: rest =>
    if rest.getLast? = some '\x7d' then (rest.dropLast, 1, false) else (cs, 0, true)
  | _ =>
    if resourceName.isPrefixOf cs then (cs.drop resourceName.length, resourceName.length, false)
    else (cs, 0, true)

/-- The first character that no identifier holds, with its place in bytes. -/
def firstForeign (place : Nat) : List Char → Option (Char × Nat)
  | [] => none
  | c :: rest =>
    if c = '-' || (Document.hexValue? c).isSome then firstForeign (place + c.utf8Size) rest
    else some (c, place)

/-- The lengths of the groups between dashes. -/
def groupLengths (cs : List Char) : List Nat :=
  go 0 cs
where
  /-- Counts the current group. -/
  go (n : Nat) : List Char → List Nat
    | [] => [n]
    | c :: rest => if c = '-' then n :: go 0 rest else go (n + 1) rest

/-- Says why a text is no identifier. -/
def complaint (cs : List Char) : String :=
  let (inner, offset, bare) := unwrap cs
  match firstForeign offset inner with
  | some (c, place) =>
    "invalid character: found " ++ marked (String.singleton c) ++ " at " ++ toString place
  | none =>
    let lengths := groupLengths inner
    if lengths.length = 1 && bare then
      "invalid length: expected length 32 for simple format, found " ++ toString cs.length
    else if lengths.length ≠ 5 then
      "invalid group count: expected 5, found " ++ toString lengths.length
    else
      let wrong := ((List.range 4).zip (lengths.zip groups)).find? fun (_, found, wanted) =>
        found ≠ wanted
      match wrong with
      | some (i, found, wanted) =>
        "invalid group length in group " ++ toString i ++ ": expected " ++ toString wanted ++
          ", found " ++ toString found
      | none =>
        "invalid group length in group 4: expected 12, found " ++ toString (cs.length - 24)

/-- Reads an identifier. -/
def read (s : String) : Except String Identifier :=
  let cs := s.toList
  let (inner, _, bare) := unwrap cs
  let digits :=
    if bare && cs.length = 32 then some cs
    else ungrouped? groups inner
  match digits.bind ofDigits? with
  | some n => .ok ⟨n⟩
  | none => .error ("UUID parsing failed: " ++ complaint cs)

/-- An identifier from its written form. -/
def decoder : Decoder Identifier :=
  (Decoder.stringAs "a formatted UUID string").refine read

end Identifier

end Dialogue
