import Dialogue.Decimal.Power

/-!
# Binary64 numbers as exact values

A finite double is `± mantissa · 2 ^ exponent` with natural `mantissa`.  This
module decodes the sixty-four bits into that form, so that decimal notation can
be computed and reasoned about in exact arithmetic.
-/

namespace Dialogue.Decimal

/-- What the bits of a double stand for. -/
inductive Binary where
  | nan
  | infinite (negative : Bool)
  | finite (negative : Bool) (mantissa : Nat) (exponent : Int)
  deriving Repr, DecidableEq

/-- Decodes the bits of a double. -/
def Binary.ofBits (bits : Nat) : Binary :=
  let negative := bits / twoTo 63 % 2 == 1
  let scale : Nat := bits / twoTo 52 % twoTo 11
  let fraction : Nat := bits % twoTo 52
  if scale == 2047 then
    if fraction == 0 then .infinite negative else .nan
  else if scale == 0 then .finite negative fraction (-1074)
  else .finite negative (twoTo 52 + fraction) ((scale : Int) - 1075)

/-- Decodes a double. -/
def Binary.ofFloat (x : Float) : Binary := Binary.ofBits x.toBits.toNat

/-- Whether the double is neither infinite nor an invalid result. -/
def isFinite (x : Float) : Bool :=
  match Binary.ofFloat x with
  | .finite .. => true
  | _ => false

/-- The integer a finite double is equal to, if it is whole. -/
def whole? (x : Float) : Option Int :=
  match Binary.ofFloat x with
  | .finite negative mantissa exponent =>
    let size :=
      if 0 ≤ exponent then some (mantissa * twoTo exponent.toNat)
      else
        let unit := twoTo (-exponent).toNat
        if mantissa % unit == 0 then some (mantissa / unit) else none
    size.map fun n => if negative then -(n : Int) else n
  | _ => none

/-- The integer nearest to zero's side of a finite double. -/
def truncate? (x : Float) : Option Int :=
  match Binary.ofFloat x with
  | .finite negative mantissa exponent =>
    let size :=
      if 0 ≤ exponent then mantissa * twoTo exponent.toNat else mantissa / twoTo (-exponent).toNat
    some (if negative then -(size : Int) else size)
  | _ => none

/-- The double nearest to an integer, ties to even. -/
def ofInt (n : Int) : Float :=
  match n with
  | .ofNat k => Float.ofScientific k false 0
  | .negSucc k => -(Float.ofScientific (k + 1) false 0)

end Dialogue.Decimal
