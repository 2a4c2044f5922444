/-!
# Blanks

The characters with the Unicode property White_Space, and trimming them from
both ends of a text.  The zero width space and the byte order mark are not
blanks.
-/

namespace Dialogue.Text

/-- A character with the property White_Space. -/
def isBlank (c : Char) : Bool :=
  let n := c.toNat
  (0x9 ≤ n && n ≤ 0xD) || n == 0x20 || n == 0x85 || n == 0xA0 || n == 0x1680 ||
    (0x2000 ≤ n && n ≤ 0x200A) || n == 0x2028 || n == 0x2029 || n == 0x202F || n == 0x205F ||
    n == 0x3000

/-- Drops the blanks a text begins with. -/
def trimStart (cs : List Char) : List Char := cs.dropWhile isBlank

/-- Drops the blanks a text ends with. -/
def trimEnd (cs : List Char) : List Char := (cs.reverse.dropWhile isBlank).reverse

/-- Drops the blanks at both ends. -/
def trimmed (cs : List Char) : List Char := trimEnd (trimStart cs)

/-- Drops the blanks at both ends of a string. -/
def trim (s : String) : String := String.ofList (trimmed s.toList)

/-- Whether `part` occurs in `cs`. -/
def hasPart (part : List Char) : List Char → Bool
  | [] => part.isEmpty
  | c :: cs => part.isPrefixOf (c :: cs) || hasPart part cs

/-- Whether the string `part` occurs in `s`. -/
def contains (s part : String) : Bool := hasPart part.toList s.toList

/-- The maximal pieces of `cs` that hold no blank. -/
def words (cs : List Char) : List (List Char) :=
  go [] cs
where
  /-- Collects the pieces; `word` holds the current one, last character first. -/
  go (word : List Char) : List Char → List (List Char)
    | [] => if word.isEmpty then [] else [word.reverse]
    | c :: rest =>
      if isBlank c then
        if word.isEmpty then go [] rest else word.reverse :: go [] rest
      else go (c :: word) rest

end Dialogue.Text
