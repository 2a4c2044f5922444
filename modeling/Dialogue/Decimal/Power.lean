/-!
# Powers

The powers that bound words and scale decimals.
-/

namespace Dialogue

/-- The power of two with an exponent: the number of words of so many bits. -/
abbrev twoTo (exponent : Nat) : Nat := Nat.pow 2 exponent

/-- The power of ten with an exponent: the number of decimals of so many digits. -/
abbrev tenTo (exponent : Nat) : Nat := Nat.pow 10 exponent

end Dialogue
