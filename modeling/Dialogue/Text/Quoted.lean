import Dialogue.Text.Printable

/-!
# Quoted text

Two ways to write a text between double quotes.  The *exchange* form is the one
JSON prescribes: quotes, backslashes and control characters are escaped and all
else stays.  The *display* form is meant for people: it also writes by number
what would not be visible.
-/

namespace Dialogue.Text

/-- The hexadecimal digits of `n`, lower case and without leading zeros. -/
def hexDigits (n : Nat) : List Char := Nat.toDigits 16 n

/-- Pads with zeros on the left up to `width` characters. -/
def padZeros (width : Nat) (cs : List Char) : List Char :=
  List.replicate (width - cs.length) '0' ++ cs

/-- One character inside exchange quotes. -/
def exchangeChar (c : Char) : List Char :=
  if c = '"' then ['\\', '"']
  else if c = '\\' then ['\\', '\\']
  else if 0x20 ≤ c.toNat then [c]
  else if c.toNat = 0x8 then ['\\', 'b']
  else if c.toNat = 0xC then ['\\', 'f']
  else if c = '\n' then ['\\', 'n']
  else if c = '\r' then ['\\', 'r']
  else if c = '\t' then ['\\', 't']
  else '\\' :: 'u' :: padZeros 4 (hexDigits c.toNat)

/-- A text between double quotes as JSON writes it. -/
def exchangeQuoted (s : String) : String :=
  String.ofList ('"' :: s.toList.flatMap exchangeChar ++ ['"'])

/-- One character inside display quotes. -/
def displayChar (c : Char) : List Char :=
  if c = '"' then ['\\', '"']
  else if c = '\\' then ['\\', '\\']
  else if c = '\n' then ['\\', 'n']
  else if c = '\r' then ['\\', 'r']
  else if c = '\t' then ['\\', 't']
  else if c.toNat = 0 then ['\\', '0']
  else if isPrintable c then [c]
  else ['\\', 'u', '\x7b'] ++ hexDigits c.toNat ++ ['\x7d']

/-- A text between double quotes for people to read. -/
def displayQuoted (s : String) : String :=
  String.ofList ('"' :: s.toList.flatMap displayChar ++ ['"'])

end Dialogue.Text
