import Dialogue.Decimal.Binary

/-!
# Reading decimal numbers

The double nearest to a decimal text: an optional sign, digits with an optional
point on either side, an optional exponent; or the words for infinity and for an
invalid number in any case.
-/

namespace Dialogue.Decimal

/-- The value of a list of decimal digits. -/
def digitsValue (cs : List Char) : Nat := cs.foldl (fun n c => 10 * n + (c.toNat - 48)) 0

/-- The double nearest to `digits · 10 ^ exponent`; beyond the largest one, infinity. -/
def nearest (digits : Nat) (exponent : Int) : Float :=
  if digits == 0 then 0
  else
    let magnitude : Int := (Nat.toDigits 10 digits).length + exponent
    if 310 < magnitude then 1 / 0
    else if magnitude < -330 then 0
    else if 0 ≤ exponent then Float.ofScientific (digits * tenTo exponent.toNat) false 0
    else Float.ofScientific digits true (-exponent).toNat

/-- Splits off a leading sign: whether it was a minus, and the rest. -/
def takeSign : List Char → Bool × List Char
  | '-' :: rest => (true, rest)
  | '+' :: rest => (false, rest)
  | cs => (false, cs)

/-- Reads the exponent part, if the text is one or is empty. -/
def exponent? : List Char → Option Int
  | [] => some 0
  | c :: rest =>
    if c = 'e' ∨ c = 'E' then
      let (negative, digits) := takeSign rest
      if digits.isEmpty || !digits.all Char.isDigit then none
      else
        let n : Int := digitsValue digits
        some (if negative then -n else n)
    else none

/-- Reads an unsigned number. -/
def unsigned? (cs : List Char) : Option Float :=
  let word := cs.map Char.toLower
  if word = "inf".toList ∨ word = "infinity".toList then some (1 / 0)
  else if word = "nan".toList then some (0 / 0)
  else
    let before := cs.takeWhile Char.isDigit
    let rest := cs.dropWhile Char.isDigit
    let (after, rest) :=
      match rest with
      | '.' :: more => (more.takeWhile Char.isDigit, more.dropWhile Char.isDigit)
      | _ => ([], rest)
    if before.isEmpty && after.isEmpty then none
    else (exponent? rest).map fun e => nearest (digitsValue (before ++ after)) (e - after.length)

/-- Reads a number. -/
def read? (cs : List Char) : Option Float :=
  let (negative, rest) := takeSign cs
  (unsigned? rest).map fun x => if negative then -x else x

end Dialogue.Decimal
