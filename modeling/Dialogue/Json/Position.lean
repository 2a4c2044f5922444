import Dialogue.Json.Decoder

/-!
# Where a text is wrong

A decoder reads a text from front to back and reports the first thing that is
wrong.  So the place of an error is the end of the shortest beginning of the
text that shows it already: what lies behind had no part in it.  Two details go
with that.  A container that should not be there is reported before its opening
bracket, and a number is read to its last digit before it is reported, as a name
is with the blanks behind it.
-/

namespace Dialogue

/-- A place in a text: its line, counted from one, and the bytes before it on that line. -/
structure Position where
  line : Nat
  column : Nat
  deriving DecidableEq, Repr

namespace Position

/-- The place behind a text. -/
def behind (cs : List Char) : Position where
  line := cs.count '\n' + 1
  column := Document.byteLength (cs.reverse.takeWhile (· != '\n'))

/-- A place in words. -/
def words (position : Position) : String :=
  "line " ++ toString position.line ++ " column " ++ toString position.column

/-- The least number from `low` to `high` that has a property, which `high` has and with any number
all greater ones. -/
def least (p : Nat → Bool) (low high : Nat) : Nat :=
  if low < high then
    let middle := (low + high) / 2
    if p middle then least p low middle else least p (middle + 1) high
  else low
termination_by high - low

/-- Whether a character may continue a number. -/
def continuesNumber (c : Char) : Bool :=
  c.isDigit || c == '.' || c == 'e' || c == 'E' || c == '+' || c == '-'

/-- How many characters of `rest` are read before an error is reported that the ones before it,
whose last one is `last`, show already. -/
def readAhead (last : Char) (rest : List Char) : Nat :=
  if last.isDigit then (rest.takeWhile continuesNumber).length
  else
    let blanks := rest.takeWhile Document.isSpace
    if (rest.drop blanks.length).head? = some ':' then blanks.length else 0

/-- The place of an error that the first `size` characters of a text show and fewer do not. -/
def ofShortest (cs : List Char) (size : Nat) : Position :=
  match (cs.take size).getLast? with
  | none => behind []
  | some last =>
    if last = '[' ∨ last = '\x7b' then behind (cs.take (size - 1))
    else behind (cs.take (size + readAhead last (cs.drop size)))

end Position

namespace Decoder

variable {α : Type}

/-- Whether a text is wrong in the way that `message` says. -/
def isWrong (decode : Decoder α) (message : String) (cs : List Char) : Bool :=
  match decode .text (Document.ofText (String.ofList cs)).1 with
  | .error (.wrong found) => found == message
  | _ => false

/-- The place of an error. -/
def errorPosition (decode : Decoder α) (message text : String) : Position :=
  let cs := text.toList
  .ofShortest cs (Position.least (fun size => decode.isWrong message (cs.take size)) 0 cs.length)

/-- The words of an error of a whole text, with its place where something is wrong with what the
text means. -/
def errorWords (decode : Decoder α) (text : String) (error : DecodeError) : String :=
  match error with
  | .fault _ => error.message
  | .wrong message => message ++ " at " ++ (decode.errorPosition message text).words

end Decoder

end Dialogue
