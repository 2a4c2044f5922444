import Dialogue.Decimal.Binary

/-!
# The fewest digits that read back

A double stands for every real number that rounds to it.  Its shortest decimal
form is the one with the fewest significant digits inside that interval; among
several with that many digits the one nearest to the exact value.  Formats differ
in which of two equally near ones they take.
-/

namespace Dialogue.Decimal

/-- Which of two equally near decimals is taken. -/
inductive Tie where
  /-- The one whose last digit is even. -/
  | even
  /-- The larger one. -/
  | up
  deriving DecidableEq, Repr

/-- A decimal number `0.d₁d₂… · 10 ^ point`, the digits given as one number. -/
structure Digits where
  digits : Nat
  point : Int
  deriving Repr, DecidableEq

/-- `10 ^ k` as a fraction. -/
def powerOfTen (k : Int) : Nat × Nat := (tenTo k.toNat, tenTo (-k).toNat)

/-- Whether `a / b ≤ c / d`. -/
def fractionLe (a b c d : Nat) : Bool := a * d ≤ c * b

/-- The interval of reals that round to `mantissa · 2 ^ exponent`, as numerators over one
denominator: lower end, the value itself, upper end, denominator. -/
def neighbourhood (mantissa : Nat) (exponent : Int) : Nat × Nat × Nat × Nat :=
  let up := twoTo exponent.toNat
  let down := twoTo (-exponent).toNat
  let below := if mantissa == twoTo 52 && -1074 < exponent then 1 else 2
  ((4 * mantissa - below) * up, 4 * mantissa * up, (4 * mantissa + 2) * up, 4 * down)

/-- The exponent `p` with `10 ^ (p - 1) ≤ value / unit < 10 ^ p`, for a positive value. -/
def pointOf (value unit : Nat) : Int :=
  let guess : Int := ((value.log2 : Int) - unit.log2 - 1) * 30103 / 100000
  go 4 guess
where
  /-- Climbs from an exponent that is not too large. -/
  go : Nat → Int → Int
    | 0, p => p
    | fuel + 1, p =>
      let (num, den) := powerOfTen p
      if fractionLe num den value unit then go fuel (p + 1) else p

/-- Whether the larger of the neighbours `floor` and `floor + 1` is taken, where `twice` compares
twice the value with their sum. -/
def takesUpper (tie : Tie) (floor : Nat) (twice : Ordering) : Bool :=
  match twice, tie with
  | .gt, _ => true
  | .lt, _ => false
  | .eq, .up => true
  | .eq, .even => floor % 2 == 1

/-- The best decimal with `count` digits, if one of them lies in the interval. -/
def candidate (tie : Tie) (mantissa : Nat) (exponent : Int) (point : Int) (count : Nat) :
    Option Nat :=
  let (low, value, high, unit) := neighbourhood mantissa exponent
  let (num, den) := powerOfTen (point - count)
  let closed := mantissa % 2 == 0
  let floor := value * den / (unit * num)
  let holds (c : Nat) : Bool :=
    if closed then fractionLe low unit (c * num) den && fractionLe (c * num) den high unit
    else !fractionLe (c * num) den low unit && !fractionLe high unit (c * num) den
  let twice := compare (2 * value * den) ((2 * floor + 1) * num * unit)
  match holds floor, holds (floor + 1) with
  | true, true => some (if takesUpper tie floor twice then floor + 1 else floor)
  | true, false => some floor
  | false, true => some (floor + 1)
  | false, false => none

/-- Drops the zeros a number ends with. -/
def dropZeros (n : Nat) : Nat → Nat
  | 0 => n
  | fuel + 1 => if n % 10 == 0 then dropZeros (n / 10) fuel else n

/-- The shortest decimal form of `mantissa · 2 ^ exponent`. -/
def shortest (tie : Tie) (mantissa : Nat) (exponent : Int) : Digits :=
  if mantissa == 0 then ⟨0, 1⟩
  else
    let (_, value, _, unit) := neighbourhood mantissa exponent
    let point := pointOf value unit
    let found := (List.range 17).findSome? fun k =>
      (candidate tie mantissa exponent point (k + 1)).map fun d => (k + 1, d)
    match found with
    | none => ⟨0, 1⟩
    | some (count, d) =>
      -- A candidate may have grown by one digit: 9.99… rounds to 10.
      let point := if d == tenTo count then point + 1 else point
      ⟨dropZeros d 20, point⟩

end Dialogue.Decimal
