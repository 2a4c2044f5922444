import Dialogue.Json.Document

/-!
# Decoding documents

A decoder turns a document into a value of a domain type or says what is wrong
with it.  Fields are decoded in the order in which the document gives them, so
the first wrong one is the one reported; fields that are missing are reported at
the end.  Records may also be written as arrays of their fields.

Where a document comes from decides a few details: text that is being read for
the first time, a tree that was read before, or a part that was set aside until
the tag of its union was known.
-/

namespace Dialogue

/-- Where a document comes from. -/
inductive Source where
  | text
  | tree
  | aside
  deriving DecidableEq

/-- Why a document could not be decoded. -/
inductive DecodeError where
  /-- The text itself is at fault. -/
  | fault (fault : Fault)
  /-- The text is fine but means something else. -/
  | wrong (message : String)
  deriving DecidableEq, Repr

/-- The words of a decode error. -/
def DecodeError.message : DecodeError → String
  | .fault .malformed => "malformed text"
  | .fault .truncated => "text ends too early"
  | .wrong message => message

/-- A way to read values out of documents. -/
abbrev Decoder (α : Type) := Source → Document → Except DecodeError α

/-- A name between backquotes. -/
def marked (name : String) : String := "`" ++ name ++ "`"

/-- What a number is called in errors. -/
def Number.described : Number → String
  | .integer n => "integer " ++ marked (toString n)
  | .real x => "floating point " ++ marked (Number.real x).text

/-- The error of a document that should have been something else. -/
def Document.mismatch (wanted : String) : Document → DecodeError
  | .null => wrong "null"
  | .boolean b => wrong ("boolean " ++ marked (if b then "true" else "false"))
  | .number n => wrong n.described
  | .string s => wrong ("string " ++ Text.displayQuoted s)
  | .array .. => wrong "sequence"
  | .object .. => wrong "map"
  | .deep inner => inner.mismatch wanted
  | .unusable => .fault .malformed
  | .fault f => .fault f
where
  /-- Names both sides of the mismatch. -/
  wrong (found : String) : DecodeError :=
    .wrong ("invalid type: " ++ found ++ ", expected " ++ wanted)

/-- The error of a number outside the range of its type. -/
def outOfRange (n : Int) (wanted : String) : DecodeError :=
  .wrong ("invalid value: integer " ++ marked (toString n) ++ ", expected " ++ wanted)

/-- The error of a field that was not given. -/
def missingField (name : String) : DecodeError := .wrong ("missing field " ++ marked name)

/-- The error of a field that was given twice. -/
def duplicateField (name : String) : DecodeError := .wrong ("duplicate field " ++ marked name)

/-- The error of an array of the wrong length. -/
def wrongLength (length : Nat) (wanted : String) : DecodeError :=
  .wrong ("invalid length " ++ toString length ++ ", expected " ++ wanted)

/-- The error of a name that no alternative has. -/
def unknownVariant (name : String) (known : List String) : DecodeError :=
  let names := known.map marked
  let wanted :=
    match names with
    | [] => "there are no variants"
    | [only] => "expected " ++ only
    | [first, second] => "expected " ++ first ++ " or " ++ second
    | _ => "expected one of " ++ ", ".intercalate names
  .wrong ("unknown variant " ++ marked name ++ ", " ++ wanted)

/-- A count of elements in words. -/
def elements (n : Nat) : String := toString n ++ (if n = 1 then " element" else " elements")

/-- Passes a reader's fault on. -/
def Except.fromFault {α : Type} (result : Except Fault α) : Except DecodeError α :=
  match result with
  | .ok a => .ok a
  | .error f => .error (.fault f)

/-- Fails if a container was not closed. -/
def closed (broken : Option Fault) : Except DecodeError Unit :=
  match broken with
  | some f => .error (.fault f)
  | none => .ok ()

namespace Decoder

variable {α β : Type}

/-- Applies a function to what is decoded. -/
def map (f : α → β) (decode : Decoder α) : Decoder β :=
  fun source document => (decode source document).map f

/-- Decodes and then reads the result further; a refusal is worded by `f`. -/
def refine (decode : Decoder α) (f : α → Except String β) : Decoder β :=
  fun source document => do
    match f (← decode source document) with
    | .ok b => .ok b
    | .error message => .error (.wrong message)

/-- A text, called `wanted` in errors. -/
def stringAs (wanted : String) : Decoder String
  | _, .string s => .ok s
  | _, document => .error (document.mismatch wanted)

/-- A text. -/
def string : Decoder String := stringAs "a string"

/-- A natural number up to `largest`, whose type is called `wanted`. -/
def natural (wanted : String) (largest : Nat) : Decoder Nat
  | _, .number (.integer n) =>
    if 0 ≤ n ∧ n ≤ largest then .ok n.toNat else .error (outOfRange n wanted)
  | _, document => .error (document.mismatch wanted)

/-- A count of up to sixty-four bits, as lengths and positions are. -/
def size : Decoder Nat := natural "usize" (twoTo 64 - 1)

/-- A natural number of up to sixty-four bits. -/
def word64 : Decoder Nat := natural "u64" (twoTo 64 - 1)

/-- A natural number of up to thirty-two bits. -/
def word32 : Decoder Nat := natural "u32" (twoTo 32 - 1)

/-- A value that may be `null`. -/
def nullable (decode : Decoder α) : Decoder (Option α)
  | _, .null => .ok none
  | source, document => (decode source document).map some

/-- Any clean tree. -/
def tree : Decoder Json := fun _ document => Except.fromFault document.toJson

/-- Decodes several documents in order. -/
def items (decode : Decoder α) (source : Source) : List Document → Except DecodeError (List α)
  | [] => .ok []
  | item :: rest => do
    let value ← decode source item
    let values ← items decode source rest
    .ok (value :: values)

/-- An array of values of one kind. -/
def list (decode : Decoder α) : Decoder (List α)
  | source, .array documents broken => do
    let values ← items decode source documents
    closed broken
    .ok values
  | _, .deep (.array ..) => .error (.fault .malformed)
  | _, document => .error (document.mismatch "a sequence")

/-- Decodes the values of several fields in order. -/
def entries (decode : Decoder α) (source : Source) :
    List (String × Document) → Except DecodeError (List (String × α))
  | [] => .ok []
  | (name, document) :: rest => do
    let value ← decode source document
    let values ← entries decode source rest
    .ok ((name, value) :: values)

/-- An object whose fields all hold values of one kind. -/
def fields (decode : Decoder α) : Decoder (Fields α)
  | source, .object documents broken => do
    let values ← entries decode source documents
    closed broken
    .ok (Fields.ofList values)
  | _, .deep (.object ..) => .error (.fault .malformed)
  | _, document => .error (document.mismatch "a map")

/-- The place of a name among alternatives that each have several names. -/
def place? (name : String) (alternatives : List (List String)) : Option Nat :=
  alternatives.findIdx? (·.contains name)

/-- Reads the name of an alternative: its place.  A part that was set aside may give the place
itself. -/
def alternative (names : List (List String)) : Decoder Nat
  | _, .string name =>
    match place? name names with
    | some i => .ok i
    | none => .error (unknownVariant name names.flatten)
  | .aside, .number (.integer (.ofNat i)) =>
    if i < names.length then .ok i
    else .error (outOfRange i ("variant index 0 <= i < " ++ toString names.length))
  | _, document => .error (document.mismatch "variant identifier")

/-- Reads nothing: what an alternative without content may carry. -/
def nothing : Decoder Unit
  | _, .null => .ok ()
  | .aside, .object [] none => .ok ()
  | _, document => .error (document.mismatch "unit")

/-- One of several values by name, each of which may have several names. -/
def choice (alternatives : List (List String × α)) : Decoder α :=
  let names := alternatives.map Prod.fst
  let pick (i : Nat) : Except DecodeError α :=
    match alternatives[i]? with
    | some (_, value) => .ok value
    | none => .error (.fault .malformed)
  fun source document =>
    match document with
    | .string _ => do pick (← alternative names source document)
    | .object ((name, inner) :: rest) broken => do
      if source = .text || (rest.isEmpty && broken.isNone) then
        let i ← alternative names source (.string name)
        nothing source inner
        closed broken
        if rest.isEmpty then pick i else .error (.fault .malformed)
      else .error (.wrong "invalid value: map, expected map with a single key")
    | .object [] broken => do
      closed broken
      if source = .text then .error (.fault .malformed)
      else .error (.wrong "invalid value: map, expected map with a single key")
    | .fault f => .error (.fault f)
    | _ =>
      if source = .text then .error (.fault .malformed)
      else .error (document.mismatch "string or map")

end Decoder

/-- The fields of a record type, in the order of its declaration, each with its other names,
the value it has where it is not given, and its decoder. -/
inductive Record : Type → Type 1 where
  | done : Record Unit
  | field {α β : Type} (name : String) (others : List String) (absent : Option α)
      (decode : Decoder α) (rest : Record β) : Record (α × β)

namespace Record

/-- The fields of a record decoded so far. -/
def Draft : {τ : Type} → Record τ → Type
  | _, .done => Unit
  | _, @field α _ _ _ _ _ rest => Option α × rest.Draft

/-- No field decoded yet. -/
def blank : {τ : Type} → (record : Record τ) → record.Draft
  | _, .done => ()
  | _, .field _ _ _ _ rest => (none, rest.blank)

/-- The number of fields. -/
def count : {τ : Type} → Record τ → Nat
  | _, .done => 0
  | _, .field _ _ _ _ rest => rest.count + 1

/-- Decodes the field with a name into the draft; none if no field has the name. -/
def put : {τ : Type} → (record : Record τ) → record.Draft → Source → String → Document →
    Except DecodeError (Option record.Draft)
  | _, .done, _, _, _, _ => .ok none
  | _, .field name others _ decode rest, draft, source, key, document =>
    let (slot, more) : Option _ × rest.Draft := draft
    if key = name || others.contains key then
      match slot with
      | some _ => .error (duplicateField name)
      | none => do
        let value ← decode source document
        .ok (some (some value, more))
    else do
      match ← rest.put more source key document with
      | none => .ok none
      | some more => .ok (some (slot, more))

/-- Decodes fields in the order of the document; fields of other names are skipped. -/
def putAll {τ : Type} (record : Record τ) (source : Source) :
    List (String × Document) → record.Draft → Except DecodeError record.Draft
  | [], draft => .ok draft
  | (key, document) :: rest, draft => do
    match ← record.put draft source key document with
    | some draft => record.putAll source rest draft
    | none =>
      Except.fromFault document.skip
      record.putAll source rest draft

/-- The record of a draft, with the values of fields that were not given. -/
def finish : {τ : Type} → (record : Record τ) → record.Draft → Except DecodeError τ
  | _, .done, _ => .ok ()
  | _, .field name _ absent _ rest, draft => do
    let (slot, more) : Option _ × rest.Draft := draft
    match slot.or absent with
    | none => .error (missingField name)
    | some value => do
      let values ← rest.finish more
      .ok (value, values)

/-- Decodes the fields from an array in the order of declaration; `length` of its items came
before.  Returns the items left over. -/
def fromItems (wanted : String) (broken : Option Fault) : {τ : Type} → Record τ → Source →
    Nat → List Document → Except DecodeError (τ × List Document)
  | _, .done, _, _, documents => .ok ((), documents)
  | _, .field _ _ absent _ rest, source, length, [] => do
    closed broken
    match absent with
    | none => .error (wrongLength length wanted)
    | some value => do
      let (values, left) ← fromItems wanted broken rest source length []
      .ok ((value, values), left)
  | _, .field _ _ _ decode rest, source, length, document :: documents => do
    let value ← decode source document
    let (values, left) ← fromItems wanted broken rest source (length + 1) documents
    .ok ((value, values), left)

/-- The error of an array with more items than a record has fields. -/
def tooLong (source : Source) (count length : Nat) : DecodeError :=
  match source with
  | .text => .fault .malformed
  | .tree => wrongLength length "fewer elements in array"
  | .aside => wrongLength length (elements count ++ " in sequence")

/-- Decodes a record, called `title` in errors, from an object or an array of its fields. -/
def decoder {τ : Type} (record : Record τ) (title : String) : Decoder τ
  | source, .object documents broken => do
    let draft ← record.putAll source documents record.blank
    closed broken
    record.finish draft
  | source, .array documents broken => do
    let wanted := title ++ " with " ++ elements record.count
    let (values, left) ← fromItems wanted broken record source 0 documents
    match left with
    | [] => do
      closed broken
      .ok values
    | _ => .error (tooLong source record.count documents.length)
  | _, .deep (.object ..) | _, .deep (.array ..) => .error (.fault .malformed)
  | _, document => .error (document.mismatch title)

end Record

namespace Decoder

variable {α : Type}

/-- Splits the fields of an object into its tag and the rest, which is set aside. -/
def splitTag (tag : String) (names : List (List String)) (source : Source) :
    List (String × Document) → Option Nat → List (String × Document) →
    Except DecodeError (Option Nat × List (String × Document))
  | [], found, kept => .ok (found, kept.reverse)
  | (key, document) :: rest, found, kept => do
    if key = tag then
      match found with
      | some _ => .error (duplicateField tag)
      | none => do
        let i ← alternative names source document
        splitTag tag names source rest (some i) kept
    else do
      let _ ← Except.fromFault document.toJson
      splitTag tag names source rest found ((key, document) :: kept)

/-- One of several records, told apart by the value of the field `tag`. -/
def tagged (tag title : String) (alternatives : List (String × Decoder α)) : Decoder α :=
  let names := alternatives.map fun (name, _) => [name]
  let body (i : Nat) (content : Document) : Except DecodeError α :=
    match alternatives[i]? with
    | some (_, decode) => decode .aside content
    | none => .error (.fault .malformed)
  fun source document =>
    match document with
    | .object fields broken => do
      let (found, kept) ← splitTag tag names source fields none []
      closed broken
      match found with
      | none => .error (missingField tag)
      | some i => body i (.object kept none)
    | .array [] broken => do
      closed broken
      .error (missingField tag)
    | .array (first :: rest) broken => do
      let i ← alternative names source first
      for item in rest do
        let _ ← Except.fromFault item.toJson
      closed broken
      body i (.array rest none)
    | .deep (.object ..) | .deep (.array ..) => .error (.fault .malformed)
    | _ => .error (document.mismatch title)

/-- An alternative that carries nothing. -/
def alone (value : α) : Decoder α
  | _, _ => .ok value

/-- Decodes a whole text. -/
def ofText (decode : Decoder α) (s : String) : Except DecodeError α := do
  let (document, trailing) := Document.ofText s
  let value ← decode .text document
  closed trailing
  .ok value

/-- Decodes a tree that was read before. -/
def ofTree (decode : Decoder α) (json : Json) : Except DecodeError α :=
  decode .tree (.ofJson json)

end Decoder

end Dialogue
