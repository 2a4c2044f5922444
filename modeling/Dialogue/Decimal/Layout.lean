import Dialogue.Decimal.Shortest

/-!
# Laying out decimal numbers

How shortest digits become text: which exponents are written positionally,
whether a whole number keeps a fraction, whether a positive exponent carries its
sign, which way a tie goes.  The formats in use are records of these decisions.
-/

namespace Dialogue.Decimal

/-- The decisions of one number format. -/
structure Layout where
  /-- The exponents written positionally; every one if absent. -/
  positional : Option (Int × Int)
  /-- Whether a whole number written positionally ends in a fraction of zero. -/
  fraction : Bool
  /-- Whether a positive exponent carries a plus sign. -/
  plus : Bool
  /-- Which of two equally near decimals is written. -/
  tie : Tie

/-- Numbers in plain text: no exponent and no needless fraction. -/
def Layout.plain : Layout := ⟨none, false, false, .up⟩

/-- Numbers in templates outside lists: no exponent, always a fraction. -/
def Layout.fractional : Layout := ⟨none, true, false, .up⟩

/-- Numbers inside displayed lists: from one ten-thousandth up to ten quadrillion positional. -/
def Layout.display : Layout := ⟨some (-4, 15), true, false, .up⟩

/-- Numbers in exchanged data: from one hundred-thousandth up to ten quadrillion positional. -/
def Layout.exchange : Layout := ⟨some (-5, 15), true, true, .even⟩

/-- Digits with the point after the first `point` of them. -/
def positionalText (fraction : Bool) (digits : List Char) (point : Int) : List Char :=
  let tail := if fraction then ['.', '0'] else []
  if point ≤ 0 then '0' :: '.' :: List.replicate (-point).toNat '0' ++ digits
  else
    let places := point.toNat
    if digits.length ≤ places then
      digits ++ List.replicate (places - digits.length) '0' ++ tail
    else digits.take places ++ '.' :: digits.drop places

/-- Digits in scientific notation. -/
def scientificText (plus : Bool) (digits : List Char) (exponent : Int) : List Char :=
  let sign := if exponent < 0 then ['-'] else if plus then ['+'] else []
  let mantissa :=
    match digits with
    | [] => []
    | [d] => [d]
    | d :: rest => d :: '.' :: rest
  mantissa ++ 'e' :: sign ++ Nat.toDigits 10 exponent.natAbs

/-- The text of a double in a layout. -/
def Layout.chars (layout : Layout) (x : Float) : List Char :=
  match Binary.ofFloat x with
  | .nan => "NaN".toList
  | .infinite negative => if negative then "-inf".toList else "inf".toList
  | .finite negative mantissa exponent =>
    let sign := if negative then ['-'] else []
    let shown := shortest layout.tie mantissa exponent
    let digits := Nat.toDigits 10 shown.digits
    let power := shown.point - 1
    let scientific :=
      match layout.positional with
      | none => false
      | some (least, most) => mantissa != 0 && (power < least || most < power)
    sign ++
      (if scientific then scientificText layout.plus digits power
      else positionalText layout.fraction digits shown.point)

/-- The text of a double in a layout. -/
def Layout.text (layout : Layout) (x : Float) : String := String.ofList (layout.chars x)

end Dialogue.Decimal
