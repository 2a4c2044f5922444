import Dialogue.Instant.Basic
import Dialogue.Json.Decoder
import Dialogue.Decimal.Reader
import Dialogue.Text.Blank

/-!
# Written instants

The written date and time of RFC 3339.  Writing gives the shortest fraction of
zero, three, six or nine digits.  Reading is more liberal: blanks may surround
the parts, a space may stand between date and time, years of more than four
digits carry a sign, and any offset is converted.
-/

namespace Dialogue.Instant

/-- A number with at least two digits. -/
def twoDigits (n : Nat) : String := String.ofList (Text.padZeros 2 (Nat.toDigits 10 n))

/-- A year: four digits, or a sign and at least four digits. -/
def yearText (year : Int) : String :=
  let digits := String.ofList (Text.padZeros 4 (Nat.toDigits 10 year.natAbs))
  if 0 ≤ year ∧ year ≤ 9999 then digits
  else (if year < 0 then "-" else "+") ++ digits

/-- The date of an instant. -/
def dateText (t : Instant) : String :=
  yearText t.date.year ++ "-" ++ twoDigits t.date.month ++ "-" ++ twoDigits t.date.day

/-- The hour and minute of an instant. -/
def clockText (t : Instant) : String :=
  twoDigits (t.secondOfDay / 3600) ++ ":" ++ twoDigits (t.secondOfDay / 60 % 60)

/-- The fraction of a second, in the fewest groups of three digits. -/
def fractionText (nanos : Nat) : String :=
  let padded (width n : Nat) := "." ++ String.ofList (Text.padZeros width (Nat.toDigits 10 n))
  if nanos == 0 then ""
  else if nanos % 1000000 == 0 then padded 3 (nanos / 1000000)
  else if nanos % 1000 == 0 then padded 6 (nanos / 1000)
  else padded 9 nanos

/-- An instant in universal time, followed by the words for its zone. -/
def write (t : Instant) (zone : String) : String :=
  let second := t.secondOfDay % 60 + t.nanos / Instant.second
  t.dateText ++ "T" ++ t.clockText ++ ":" ++ twoDigits second ++
    fractionText (t.nanos % Instant.second) ++ zone

/-- An instant as it is stored. -/
def stored (t : Instant) : Json := .string (t.write "Z")

/-- Why a text is no instant. -/
inductive ReadError where
  | outOfRange
  | unexpected
  | tooShort
  | tooLong
  deriving DecidableEq, Repr

/-- The words of a reading error. -/
def ReadError.message : ReadError → String
  | .outOfRange => "input is out of range"
  | .unexpected => "input contains invalid characters"
  | .tooShort => "premature end of input"
  | .tooLong => "trailing input"

/-- Reads one to `most` digits. -/
def readDigits (most : Nat) (cs : List Char) : Except ReadError (Nat × List Char) :=
  match cs with
  | [] => .error .tooShort
  | c :: _ =>
    if c.isDigit then
      let digits := (cs.take most).takeWhile Char.isDigit
      .ok (Decimal.digitsValue digits, cs.drop digits.length)
    else .error .unexpected

/-- Reads a number of one to `most` digits between `low` and `high`, after blanks. -/
def readPart (most low high : Nat) (cs : List Char) : Except ReadError (Nat × List Char) := do
  let (n, rest) ← readDigits most (Text.trimStart cs)
  if low ≤ n ∧ n ≤ high then .ok (n, rest) else .error .outOfRange

/-- Reads a year: up to four digits, or a sign and any number of them. -/
def readYear (cs : List Char) : Except ReadError (Int × List Char) := do
  let (year, rest) ← match Text.trimStart cs with
    | '-' :: rest => (readDigits rest.length rest).map fun (n, rest) => (-(n : Int), rest)
    | '+' :: rest => (readDigits rest.length rest).map fun (n, rest) => ((n : Int), rest)
    | cs => (readDigits 4 cs).map fun (n, rest) => ((n : Int), rest)
  if year.natAbs < twoTo 31 then .ok (year, rest) else .error .outOfRange

/-- Reads a separator after blanks. -/
def readMark (mark : Char) (cs : List Char) : Except ReadError (List Char) :=
  match Text.trimStart cs with
  | [] => .error .tooShort
  | c :: rest => if c = mark then .ok rest else .error .unexpected

/-- Reads a fraction of a second, if there is one; digits after the ninth are dropped. -/
def readFraction (cs : List Char) : Except ReadError (Nat × List Char) :=
  match cs with
  | '.' :: rest => do
    let (n, after) ← readDigits 9 rest
    let read := rest.length - after.length
    .ok (n * tenTo (9 - read), after.dropWhile Char.isDigit)
  | _ => .ok (0, cs)

/-- Reads two digits of an offset, the first of which is at most `tens`. -/
def readPair (tens : Char) (cs : List Char) : Except ReadError (Nat × List Char) :=
  match cs with
  | a :: b :: rest =>
    if a.isDigit && b.isDigit then
      if a ≤ tens then .ok (Decimal.digitsValue [a, b], rest) else .error .outOfRange
    else .error .unexpected
  | _ => .error .tooShort

/-- Reads an offset from universal time, in seconds. -/
def readOffset (cs : List Char) : Except ReadError (Int × List Char) :=
  match cs with
  | [] => .error .tooShort
  | c :: rest =>
    if c = 'Z' ∨ c = 'z' then .ok (0, rest)
    else if (cs.take 3).map Char.toUpper = ['U', 'T', 'C'] then .ok (0, cs.drop 3)
    else if c = '+' ∨ c = '-' ∨ c.toNat = 0x2212 then do
      let (hours, rest) ← readPair '9' rest
      let rest := rest.dropWhile fun c => c == ':' || Text.isBlank c
      let (minutes, rest) ← readPair '5' rest
      let offset : Int := hours * 3600 + minutes * 60
      .ok (if c = '+' then offset else -offset, rest)
    else .error .unexpected

/-- Reads an instant. -/
def read (s : String) : Except ReadError Instant := do
  let (year, cs) ← readYear s.toList
  let cs ← readMark '-' cs
  let (month, cs) ← readPart 2 1 12 cs
  let cs ← readMark '-' cs
  let (day, cs) ← readPart 2 1 31 cs
  let cs ← match cs with
    | [] => .error .tooShort
    | c :: rest =>
      if c = 'T' ∨ c = 't' ∨ c = ' ' then .ok rest else .error .unexpected
  let (hour, cs) ← readPart 2 0 23 cs
  let cs ← readMark ':' cs
  let (minute, cs) ← readPart 2 0 59 cs
  let cs ← readMark ':' cs
  let (second, cs) ← readPart 2 0 60 cs
  let (nanos, cs) ← readFraction cs
  let (offset, cs) ← readOffset (Text.trimStart cs)
  if !(Text.trimStart cs).isEmpty then .error .tooLong
  else
    let date : Calendar.Date := ⟨year, month, day⟩
    let leap := second / 60
    let seconds :=
      date.toDays * 86400 + hour * 3600 + minute * 60 + (second - leap : Nat) - offset
    let t : Instant := ⟨seconds, nanos + leap * Instant.second⟩
    if date.exists && offset.natAbs < 86400 && firstYear ≤ year && year ≤ lastYear &&
        firstYear ≤ t.date.year && t.date.year ≤ lastYear then .ok t
    else .error .outOfRange

/-- An instant from its written form. -/
def decoder : Decoder Instant :=
  (Decoder.stringAs "an RFC 3339 formatted date and time string").refine fun s =>
    (read s).mapError ReadError.message

end Dialogue.Instant
