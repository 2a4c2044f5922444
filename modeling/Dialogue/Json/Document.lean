import Dialogue.Json.Basic

/-!
# JSON documents

Reading JSON text without giving up at the first fault.  A document is the tree
of a text as far as it could be read, with a fault left where reading stopped,
so that whoever decodes it in order meets a wrong shape before a fault that lies
behind it.  Some text is well formed and still has no value: a number beyond the
largest double, a string with half a surrogate pair, a container more than 127
levels deep.  Such parts are harmless where they are skipped.
-/

namespace Dialogue

/-- Why reading stopped. -/
inductive Fault where
  /-- The text is no JSON. -/
  | malformed
  /-- The text ends too early. -/
  | truncated
  deriving DecidableEq, Repr

/-- A JSON text as far as it could be read. -/
inductive Document where
  | null
  | boolean (value : Bool)
  | number (value : Number)
  | string (value : String)
  /-- Well-formed text that stands for no value. -/
  | unusable
  /-- The items read, and the fault that kept the array from being closed. -/
  | array (items : List Document) (broken : Option Fault)
  /-- The fields in the order of the text, and the fault that kept the object from being closed. -/
  | object (fields : List (String × Document)) (broken : Option Fault)
  /-- A container below the deepest level that is read. -/
  | deep (inner : Document)
  | fault (fault : Fault)
  deriving Inhabited, Repr

namespace Document

/-- The deepest level of containers that is read. -/
def maxDepth : Nat := 127

/-- Blanks between the parts of a JSON text. -/
def isSpace (c : Char) : Bool := c == ' ' || c == '\n' || c == '\t' || c == '\r'

/-- What follows the blanks. -/
def skipSpace (cs : List Char) : List Char := cs.dropWhile isSpace

/-- The value of a hexadecimal digit. -/
def hexValue? (c : Char) : Option Nat :=
  if '0' ≤ c && c ≤ '9' then some (c.toNat - 48)
  else if 'a' ≤ c && c ≤ 'f' then some (c.toNat - 87)
  else if 'A' ≤ c && c ≤ 'F' then some (c.toNat - 55)
  else none

/-- The number of bytes in a text. -/
def byteLength (cs : List Char) : Nat := cs.foldl (fun n c => n + c.utf8Size) 0

/-- Reads four hexadecimal digits. -/
def readHex (cs : List Char) : Except Fault (Nat × List Char) :=
  match cs with
  | a :: b :: c :: d :: rest =>
    match hexValue? a, hexValue? b, hexValue? c, hexValue? d with
    | some a, some b, some c, some d => .ok (((a * 16 + b) * 16 + c) * 16 + d, rest)
    | _, _, _, _ => .error .malformed
  | short => if byteLength short < 4 then .error .truncated else .error .malformed

/-- What an escape stands for. -/
inductive Escape where
  | char (value : Char) (rest : List Char)
  /-- Half a surrogate pair. -/
  | half (rest : List Char)
  | fault (fault : Fault)

/-- Reads the second half of a surrogate pair whose first half is `high`. -/
def readLowHalf (high : Nat) (rest : List Char) : Escape :=
  match rest with
  | '\\' :: 'u' :: more =>
    match readHex more with
    | .ok (low, after) =>
      if 0xDC00 ≤ low && low ≤ 0xDFFF then
        .char (Char.ofNat ((high - 0xD800) * 0x400 + (low - 0xDC00) + 0x10000)) after
      else .half rest
    | .error _ => .half rest
  | _ => .half rest

/-- Reads an escape after its backslash. -/
def readEscape (cs : List Char) : Escape :=
  match cs with
  | [] => .fault .truncated
  | 'u' :: rest =>
    match readHex rest with
    | .error f => .fault f
    | .ok (n, after) =>
      if 0xD800 ≤ n && n ≤ 0xDBFF then readLowHalf n after
      else if 0xDC00 ≤ n && n ≤ 0xDFFF then .half after
      else .char (Char.ofNat n) after
  | c :: rest =>
    match c with
    | '"' => .char '"' rest
    | '\\' => .char '\\' rest
    | '/' => .char '/' rest
    | 'b' => .char '\x08' rest
    | 'f' => .char '\x0c' rest
    | 'n' => .char '\n' rest
    | 'r' => .char '\r' rest
    | 't' => .char '\t' rest
    | _ => .fault .malformed

/-- Reads a string after its opening quote: its text, or none where the text has half a
surrogate pair, and what follows. -/
def readString (fuel : Nat) (done : List Char) (usable : Bool) (cs : List Char) :
    Except Fault (Option String × List Char) :=
  match fuel, cs with
  | 0, _ => .error .truncated
  | _, [] => .error .truncated
  | fuel + 1, c :: rest =>
    if c = '"' then .ok (if usable then some (String.ofList done.reverse) else none, rest)
    else if c = '\\' then
      match readEscape rest with
      | .char value after => readString fuel (value :: done) usable after
      | .half after => readString fuel done false after
      | .fault f => .error f
    else if c.toNat < 0x20 then .error .malformed
    else readString fuel (c :: done) usable rest

/-- The largest number that integers are collected in. -/
def maxWord : Nat := twoTo 64 - 1

/-- Collects leading digits as long as they fit in a word: the number, and how many digits of
`cs` were left over. -/
def collect (word : Nat) : List Char → Nat × Nat
  | [] => (word, 0)
  | c :: rest =>
    let next := 10 * word + (c.toNat - 48)
    if next ≤ maxWord then collect next rest else (word, rest.length + 1)

/-- The double for `word · 10 ^ power`, by one multiplication or by divisions; none beyond the
largest double. -/
def scaled (word : Nat) (power : Int) : Option Float :=
  let x := Float.ofScientific word false 0
  if 0 ≤ power then
    if power ≤ 308 then
      let y := x * Float.ofScientific 1 false power.toNat
      if Decimal.isFinite y then some y else none
    else if x == 0 then some x
    else none
  else some (divide 8 x (-power).toNat)
where
  /-- Divides by powers of ten that are doubles themselves. -/
  divide : Nat → Float → Nat → Float
    | 0, x, _ => x
    | fuel + 1, x, k =>
      if k ≤ 308 then x / Float.ofScientific 1 false k
      else if x == 0 then x
      else divide fuel (x / Float.ofScientific 1 false 308) (k - 308)

/-- The largest exponent that is collected. -/
def maxPower : Nat := twoTo 31 - 1

/-- The exponent of a number: whether it is negative, and its digits. -/
abbrev Power := Bool × List Char

/-- The value of a number with a fraction, an exponent or too many digits. -/
def realValue (whole fraction : List Char) (power : Option Power) : Option Float :=
  let (word, left) := collect 0 whole
  let (word, unread) := collect word fraction
  let start : Int := left - (fraction.length - unread : Nat)
  match power with
  | none => scaled word start
  | some (negative, digits) =>
    let n := digits.foldl (fun n c => 10 * n + (c.toNat - 48)) 0
    if maxPower < n then
      if word != 0 && !negative then none else some 0
    else scaled word (if negative then start - n else start + n)

/-- The value of a number, none if it is beyond the largest double. -/
def numberValue (negative : Bool) (whole : List Char) (fraction : List Char)
    (power : Option Power) : Option Number :=
  let (word, left) := collect 0 whole
  if fraction.isEmpty && power.isNone && left == 0 then
    if !negative then some (.integer word)
    else if word == 0 then some (.real (-0.0))
    else if word ≤ twoTo 63 then some (.integer (-(word : Int)))
    else some (.real (-(Float.ofScientific word false 0)))
  else
    (realValue whole fraction power).map fun x => .real (if negative then -x else x)

/-- Reads the exponent of a number, if it has one. -/
def readPower (cs : List Char) : Except Fault (Option Power × List Char) :=
  match cs with
  | c :: rest =>
    if c = 'e' ∨ c = 'E' then
      let (negative, rest) :=
        match rest with
        | '+' :: more => (false, more)
        | '-' :: more => (true, more)
        | _ => (false, rest)
      match rest with
      | [] => .error .truncated
      | d :: _ =>
        if d.isDigit then
          .ok (some (negative, rest.takeWhile Char.isDigit), rest.dropWhile Char.isDigit)
        else .error .malformed
    else .ok (none, cs)
  | [] => .ok (none, [])

/-- Reads what follows the digits before the point. -/
def readTail (negative : Bool) (whole cs : List Char) :
    Except Fault (Option Number × List Char) := do
  let (fraction, rest) ←
    match cs with
    | '.' :: rest =>
      match rest with
      | [] => .error .truncated
      | d :: _ =>
        if d.isDigit then pure (rest.takeWhile Char.isDigit, rest.dropWhile Char.isDigit)
        else .error .malformed
    | _ => pure ([], cs)
  let (power, rest) ← readPower rest
  pure (numberValue negative whole fraction power, rest)

/-- Reads a number: its value, none if it is too large, and what follows. -/
def readNumber (cs : List Char) : Except Fault (Option Number × List Char) :=
  let (negative, cs) :=
    match cs with
    | '-' :: rest => (true, rest)
    | _ => (false, cs)
  match cs with
  | [] => .error .truncated
  | '0' :: rest =>
    match rest with
    | d :: _ => if d.isDigit then .error .malformed else readTail negative ['0'] rest
    | [] => readTail negative ['0'] rest
  | c :: _ =>
    if c.isDigit then readTail negative (cs.takeWhile Char.isDigit) (cs.dropWhile Char.isDigit)
    else .error .malformed

/-- Reads the rest of a word such as `true`. -/
def readWord : List Char → List Char → Except Fault (List Char)
  | [], cs => .ok cs
  | _ :: _, [] => .error .truncated
  | w :: word, c :: cs => if w = c then readWord word cs else .error .malformed

/-- Marks a container below the deepest level. -/
def atDepth (depth : Nat) (container : Document) : Document :=
  if depth ≤ maxDepth then container else .deep container

/-- A scalar that was read, or the fault that was met. -/
def ofScalar (read : Except Fault (Document × List Char)) : Document × Except Fault (List Char) :=
  match read with
  | .ok (document, rest) => (document, .ok rest)
  | .error f => (.fault f, .error f)

mutual

/-- Reads one value inside `depth - 1` containers. -/
def readValue (fuel depth : Nat) (cs : List Char) : Document × Except Fault (List Char) :=
  match fuel with
  | 0 => (.fault .truncated, .error .truncated)
  | fuel + 1 =>
    match skipSpace cs with
    | [] => (.fault .truncated, .error .truncated)
    | c :: rest =>
      if c = '[' then
        match skipSpace rest with
        | ']' :: after => (atDepth depth (.array [] none), .ok after)
        | inner =>
          let (items, stop) := readItems fuel depth inner
          match stop with
          | .ok after => (atDepth depth (.array items none), .ok after)
          | .error f => (atDepth depth (.array items (some f)), .error f)
      else if c = '\x7b' then
        match skipSpace rest with
        | '\x7d' :: after => (atDepth depth (.object [] none), .ok after)
        | inner =>
          let (fields, stop) := readFields fuel depth inner
          match stop with
          | .ok after => (atDepth depth (.object fields none), .ok after)
          | .error f => (atDepth depth (.object fields (some f)), .error f)
      else if c = '"' then
        ofScalar ((readString (rest.length + 1) [] true rest).map fun (s, after) =>
          ((s.map .string).getD .unusable, after))
      else if c = 'n' then ofScalar ((readWord "ull".toList rest).map fun after => (.null, after))
      else if c = 't' then
        ofScalar ((readWord "rue".toList rest).map fun after => (.boolean true, after))
      else if c = 'f' then
        ofScalar ((readWord "alse".toList rest).map fun after => (.boolean false, after))
      else if c = '-' ∨ c.isDigit then
        ofScalar ((readNumber (c :: rest)).map fun (n, after) =>
          ((n.map .number).getD .unusable, after))
      else (.fault .malformed, .error .malformed)

/-- Reads the items of an array from a value on, up to its closing bracket. -/
def readItems (fuel depth : Nat) (cs : List Char) : List Document × Except Fault (List Char) :=
  match fuel with
  | 0 => ([], .error .truncated)
  | fuel + 1 =>
    match skipSpace cs with
    | [] => ([], .error .truncated)
    | ']' :: _ => ([], .error .malformed)
    | start =>
      let (item, stop) := readValue fuel (depth + 1) start
      match stop with
      | .error f => ([item], .error f)
      | .ok rest =>
        match skipSpace rest with
        | [] => ([item], .error .truncated)
        | ']' :: after => ([item], .ok after)
        | ',' :: more =>
          let (items, stop) := readItems fuel depth more
          (item :: items, stop)
        | _ => ([item], .error .malformed)

/-- Reads the fields of an object from a name on, up to its closing brace. -/
def readFields (fuel depth : Nat) (cs : List Char) :
    List (String × Document) × Except Fault (List Char) :=
  match fuel with
  | 0 => ([], .error .truncated)
  | fuel + 1 =>
    match skipSpace cs with
    | [] => ([], .error .truncated)
    | '"' :: inside =>
      match readString (inside.length + 1) [] true inside with
      | .error f => ([], .error f)
      | .ok (none, _) => ([], .error .malformed)
      | .ok (some name, rest) =>
        match skipSpace rest with
        | [] => ([(name, .fault .truncated)], .error .truncated)
        | ':' :: start =>
          let (value, stop) := readValue fuel (depth + 1) start
          match stop with
          | .error f => ([(name, value)], .error f)
          | .ok rest =>
            match skipSpace rest with
            | [] => ([(name, value)], .error .truncated)
            | '\x7d' :: after => ([(name, value)], .ok after)
            | ',' :: more =>
              let (fields, stop) := readFields fuel depth more
              ((name, value) :: fields, stop)
            | _ => ([(name, value)], .error .malformed)
        | _ => ([(name, .fault .malformed)], .error .malformed)
    | _ => ([], .error .malformed)

end

/-- Reads a whole text: its document, and the fault of what follows it. -/
def ofText (s : String) : Document × Option Fault :=
  let cs := s.toList
  let (document, stop) := readValue (2 * cs.length + 2) 1 cs
  match stop with
  | .error _ => (document, none)
  | .ok rest => (document, if (skipSpace rest).isEmpty then none else some .malformed)

mutual

/-- A clean tree as a document. -/
def ofJson : Json → Document
  | .null => .null
  | .boolean b => .boolean b
  | .number n => .number n
  | .string s => .string s
  | .array items => .array (ofItems items) none
  | .object fields => .object (ofFields fields) none

/-- Several clean trees as documents. -/
def ofItems : List Json → List Document
  | [] => []
  | item :: rest => ofJson item :: ofItems rest

/-- The fields of a clean object as documents. -/
def ofFields : List (String × Json) → List (String × Document)
  | [] => []
  | (name, value) :: rest => (name, ofJson value) :: ofFields rest

end

mutual

/-- The clean tree of a document; the last of several fields with one name stays. -/
def toJson : Document → Except Fault Json
  | .null => .ok .null
  | .boolean b => .ok (.boolean b)
  | .number n => .ok (.number n)
  | .string s => .ok (.string s)
  | .unusable => .error .malformed
  | .array items broken => do
    let items ← itemTrees items
    match broken with
    | some f => .error f
    | none => .ok (.array items)
  | .object fields broken => do
    let fields ← fieldTrees fields
    match broken with
    | some f => .error f
    | none => .ok (Json.ofFields fields)
  | .deep _ => .error .malformed
  | .fault f => .error f

/-- The clean trees of several documents. -/
def itemTrees : List Document → Except Fault (List Json)
  | [] => .ok []
  | item :: rest => do
    let tree ← item.toJson
    let trees ← itemTrees rest
    .ok (tree :: trees)

/-- The clean fields of an object. -/
def fieldTrees : List (String × Document) → Except Fault (List (String × Json))
  | [] => .ok []
  | (name, value) :: rest => do
    let tree ← value.toJson
    let trees ← fieldTrees rest
    .ok ((name, tree) :: trees)

end

mutual

/-- The fault met when a document is skipped. -/
def skip : Document → Except Fault Unit
  | .array items broken => do
    skipItems items
    match broken with
    | some f => .error f
    | none => .ok ()
  | .object fields broken => do
    skipFields fields
    match broken with
    | some f => .error f
    | none => .ok ()
  | .deep inner => inner.skip
  | .fault f => .error f
  | .null | .boolean _ | .number _ | .string _ | .unusable => .ok ()

/-- The fault met when several documents are skipped. -/
def skipItems : List Document → Except Fault Unit
  | [] => .ok ()
  | item :: rest => do
    item.skip
    skipItems rest

/-- The fault met when the fields of an object are skipped. -/
def skipFields : List (String × Document) → Except Fault Unit
  | [] => .ok ()
  | (_, value) :: rest => do
    value.skip
    skipFields rest

end

mutual

/-- How many containers lie inside each other, at most. -/
def height : Document → Nat
  | .array items _ => heightItems items + 1
  | .object fields _ => heightFields fields + 1
  | .deep inner => inner.height
  | .fault _ | .null | .boolean _ | .number _ | .string _ | .unusable => 0

/-- The greatest height among several documents. -/
def heightItems : List Document → Nat
  | [] => 0
  | item :: rest => max item.height (heightItems rest)

/-- The greatest height among the fields of an object. -/
def heightFields : List (String × Document) → Nat
  | [] => 0
  | (_, value) :: rest => max value.height (heightFields rest)

end

end Document

/-- Reads a whole text as a clean tree. -/
def Json.ofText (s : String) : Except Fault Json := do
  let (document, trailing) := Document.ofText s
  let json ← document.toJson
  match trailing with
  | some f => .error f
  | none => .ok json

end Dialogue
