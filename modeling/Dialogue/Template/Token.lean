import Dialogue.Decimal.Reader
import Dialogue.Json.Document
import Dialogue.Text.Blank

/-!
# Template tokens

Cutting a template into tokens.  Literal text stands outside the delimiters for
printing, for statements and for comments; inside them are names, literals and
marks.  A hyphen at a delimiter takes the blanks beside it away, and a raw block
is literal text up to its end.
-/

namespace Dialogue.Template

/-- One token of a template. -/
inductive Token where
  | text (chars : List Char)
  | printStart
  | printEnd
  | blockStart
  | blockEnd
  | name (name : String)
  | string (value : String)
  | integer (value : Nat)
  | real (value : Float)
  /-- An operator or a bracket. -/
  | mark (mark : String)
  deriving BEq, Repr, Inhabited

/-- What a pair of delimiters encloses. -/
inductive Region where
  | print
  | block
  | comment
  deriving DecidableEq

/-- The region that the character after an opening brace begins. -/
def Region.ofChar? (c : Char) : Option Region :=
  if c = '\x7b' then some .print
  else if c = '%' then some .block
  else if c = '#' then some .comment
  else none

/-- The text before the first opening delimiter, and the region it opens with what follows. -/
def splitText : List Char → List Char × Option (Region × List Char)
  | [] => ([], none)
  | c :: rest =>
    match rest with
    | [] => ([c], none)
    | d :: inside =>
      match (if c = '\x7b' then Region.ofChar? d else none) with
      | some region => ([], some (region, inside))
      | none =>
        let (text, found) := splitText rest
        (c :: text, found)

/-- The text before the first occurrence of `mark`, and what follows it. -/
def splitAt? (mark : List Char) : List Char → Option (List Char × List Char)
  | [] => if mark.isEmpty then some ([], []) else none
  | c :: rest =>
    if mark.isPrefixOf (c :: rest) then some ([], (c :: rest).drop mark.length)
    else (splitAt? mark rest).map fun (text, after) => (c :: text, after)

/-- Blanks between tokens. -/
def isGap (c : Char) : Bool :=
  c == ' ' || c == '\t' || c == '\n' || c == '\r' || c.toNat == 0xC

/-- Whether a delimiter takes blanks away, and what follows its sign. -/
def trimSign : List Char → Bool × List Char
  | '-' :: rest => (true, rest)
  | '+' :: rest => (false, rest)
  | cs => (false, cs)

/-- Removes a word from the front. -/
def dropWord? (word cs : List Char) : Option (List Char) :=
  if word.isPrefixOf cs then some (cs.drop word.length) else none

/-- Reads the rest of a block that holds only `word`: whether its end takes blanks away, and what
follows it. -/
def bareBlock? (word : List Char) (cs : List Char) : Option (Bool × List Char) := do
  let rest ← dropWord? word (cs.dropWhile isGap)
  let (trims, rest) := trimSign (rest.dropWhile isGap)
  let after ← dropWord? ['%', '\x7d'] rest
  pure (trims, after)

/-- The text of a raw block up to its end: the text, whether its end takes blanks away before and
after, and what follows. -/
def rawText? : List Char → Option (List Char × Bool × Bool × List Char)
  | [] => none
  | c :: rest =>
    let found :=
      match dropWord? ['\x7b', '%'] (c :: rest) with
      | some inside =>
        let (before, inside) := trimSign inside
        (bareBlock? "endraw".toList inside).map fun (after, more) => (before, after, more)
      | none => none
    match found with
    | some (before, after, more) => some ([], before, after, more)
    | none => (rawText? rest).map fun (text, found) => (c :: text, found)

/-- Letters and underscores begin names. -/
def isNameStart (c : Char) : Bool := c.isAlpha || c == '_'

/-- Letters, digits and underscores continue names. -/
def isNameChar (c : Char) : Bool := c.isAlphanum || c == '_'

/-- Splits a string literal at its closing quote: the raw text and what follows. -/
def splitQuoted (quote : Char) : List Char → Option (List Char × List Char)
  | [] => none
  | c :: rest =>
    if c = quote then some ([], rest)
    else if c = '\\' then
      match rest with
      | [] => none
      | d :: more => (splitQuoted quote more).map fun (text, after) => (c :: d :: text, after)
    else (splitQuoted quote rest).map fun (text, after) => (c :: text, after)

/-- The value of up to `most` digits in a base, and what follows them. -/
def codeDigits (base most : Nat) (cs : List Char) : List Nat × List Char :=
  match most, cs with
  | most + 1, c :: rest =>
    match (Document.hexValue? c).filter (· < base) with
    | some d =>
      let (digits, after) := codeDigits base most rest
      (d :: digits, after)
    | none => ([], cs)
  | _, _ => ([], cs)

/-- The number that digits in a base stand for. -/
def codeOf (base : Nat) (digits : List Nat) : Nat := digits.foldl (fun n d => n * base + d) 0

/-- Resolves the escapes of a string literal; `high` is the first half of a surrogate pair that
waits for its second half. -/
def unescape (fuel : Nat) (high : Option Nat) (cs : List Char) : Option (List Char) :=
  match fuel, cs with
  | 0, _ => none
  | _, [] => if high.isNone then some [] else none
  | fuel + 1, '\\' :: 'u' :: rest =>
    let (digits, after) := codeDigits 16 4 rest
    if digits.length = 4 then
      let n := codeOf 16 digits
      match high with
      | none =>
        if 0xD800 ≤ n ∧ n ≤ 0xDFFF then unescape fuel (some n) after
        else (unescape fuel none after).map (Char.ofNat n :: ·)
      | some h =>
        if h ≤ 0xDBFF ∧ 0xDC00 ≤ n ∧ n ≤ 0xDFFF then
          let c := Char.ofNat ((h - 0xD800) * 0x400 + (n - 0xDC00) + 0x10000)
          (unescape fuel none after).map (c :: ·)
        else none
    else none
  | fuel + 1, c :: rest =>
    if high.isSome then none
    else if c = '\\' then
      match rest with
      | [] => none
      | d :: more =>
        let plain (value : Char) := (unescape fuel none more).map (value :: ·)
        match d with
        | '"' | '\\' | '/' | '\'' => plain d
        | 'b' => plain '\x08'
        | 'f' => plain '\x0c'
        | 'n' => plain '\n'
        | 'r' => plain '\r'
        | 't' => plain '\t'
        | 'x' =>
          let (digits, after) := codeDigits 16 2 more
          if digits.length = 2 then
            (unescape fuel none after).map (Char.ofNat (codeOf 16 digits) :: ·)
          else none
        | _ =>
          let (digits, after) := codeDigits 8 3 rest
          let n := codeOf 8 digits
          if digits.isEmpty || 255 < n then none
          else (unescape fuel none after).map (Char.ofNat n :: ·)
    else (unescape fuel none rest).map (c :: ·)

/-- The part of a decimal number that is being read. -/
inductive NumberPart where
  | whole
  | fraction
  | power
  | powerDigits

/-- The characters of a decimal number: whether it has a fraction or an exponent, its characters
and what follows. -/
def takeNumber (part : NumberPart) : List Char → Bool × List Char × List Char
  | [] => (isReal part, [], [])
  | c :: rest =>
    let next : Option NumberPart :=
      if c = '_' then some part
      else if c.isDigit then
        match part with
        | .power => some .powerDigits
        | _ => some part
      else
        match part with
        | .whole =>
          if c = '.' then some .fraction else if c = 'e' ∨ c = 'E' then some .power else none
        | .fraction => if c = 'e' ∨ c = 'E' then some .power else none
        | .power => if c = '+' ∨ c = '-' then some .powerDigits else none
        | .powerDigits => none
    match next with
    | none => (isReal part, [], c :: rest)
    | some part =>
      let (real, chars, after) := takeNumber part rest
      (real, c :: chars, after)
where
  /-- Whether reading has gone past the digits before the point. -/
  isReal : NumberPart → Bool
    | .whole => false
    | _ => true

/-- The base of a number that begins with a zero and a letter. -/
def base? : List Char → Option (Nat × List Char)
  | '0' :: c :: rest =>
    if c = 'x' ∨ c = 'X' then some (16, rest)
    else if c = 'o' ∨ c = 'O' then some (8, rest)
    else if c = 'b' ∨ c = 'B' then some (2, rest)
    else none
  | _ => none

/-- Reads a number. -/
def takeLiteral (cs : List Char) : Option (Token × List Char) :=
  match base? cs with
  | some (base, rest) =>
    let inside (c : Char) : Bool :=
      c == '_' || c.isDigit || (base == 16 && (Document.hexValue? c).isSome)
    let chars := rest.takeWhile inside
    let digits := (chars.filter (· != '_')).map Document.hexValue?
    if chars.getLast? = some '_' || digits.isEmpty || !digits.all (·.any (· < base)) then none
    else
      let n := codeOf base (digits.filterMap id)
      if n < twoTo 128 then some (.integer n, rest.dropWhile inside) else none
  | none =>
    let (real, chars, rest) := takeNumber .whole cs
    let digits := chars.filter (· != '_')
    if chars.getLast? = some '_' then none
    else if real then (Decimal.read? digits).map fun x => (.real x, rest)
    else
      let n := Decimal.digitsValue digits
      if n < twoTo 128 then some (.integer n, rest) else none

/-- The marks of two characters. -/
def longMarks : List String := ["//", "**", "==", "!=", ">=", "<="]

/-- The marks of one character. -/
def shortMarks : List Char := "+-*/%.,:~|=><()[]\x7b\x7d".toList

/-- Reads one token inside delimiters. -/
def takeToken (cs : List Char) : Option (Token × List Char) :=
  match longMarks.find? fun mark => mark.toList.isPrefixOf cs with
  | some mark => some (.mark mark, cs.drop 2)
  | none =>
    match cs with
    | [] => none
    | c :: rest =>
      if c = '"' ∨ c = '\'' then do
        let (raw, after) ← splitQuoted c rest
        let value ← unescape (raw.length + 1) none raw
        pure (.string (String.ofList value), after)
      else if c.isDigit then takeLiteral cs
      else if shortMarks.contains c then some (.mark (String.singleton c), rest)
      else if isNameStart c then
        some (.name (String.ofList (cs.takeWhile isNameChar)), cs.dropWhile isNameChar)
      else none

/-- Reads the end of a region: whether it takes blanks away, and what follows it. -/
def regionEnd? (mark : List Char) (cs : List Char) : Option (Bool × List Char) :=
  let (trims, rest) := trimSign cs
  match dropWord? mark rest with
  | some after => some (trims, after)
  | none => (dropWord? mark cs).map fun after => (false, after)

/-- Where the tokens are being cut. -/
inductive Place where
  /-- In literal text; blanks it begins with are taken away if `trims`. -/
  | outside (trims : Bool)
  | printing
  | stating

/-- A piece of literal text as tokens. -/
def textTokens (chars : List Char) : List Token := if chars.isEmpty then [] else [.text chars]

/-- Cuts a template into tokens; none if it has no such form.  Every step takes a character away
or changes the place, so `fuel` of twice the length is enough. -/
def tokensFrom (fuel : Nat) (place : Place) (cs : List Char) : Option (List Token) :=
  match fuel with
  | 0 => none
  | fuel + 1 =>
    match place with
    | .outside trims =>
      let (text, found) := splitText (if trims then Text.trimStart cs else cs)
      match found with
      | none => some (textTokens text)
      | some (region, inside) =>
        let (strips, inside) := trimSign inside
        let lead := textTokens (if strips then Text.trimEnd text else text)
        match region with
        | .print => do
          let rest ← tokensFrom fuel .printing inside
          pure (lead ++ .printStart :: rest)
        | .comment => do
          let (comment, after) ← splitAt? ['#', '\x7d'] inside
          let rest ← tokensFrom fuel (.outside (comment.getLast? = some '-')) after
          pure (lead ++ rest)
        | .block =>
          match bareBlock? "raw".toList inside with
          | some (trimsFirst, body) => do
            let (raw, trimsLast, trimsNext, after) ← rawText? body
            let raw := if trimsFirst then Text.trimStart raw else raw
            let raw := if trimsLast then Text.trimEnd raw else raw
            let rest ← tokensFrom fuel (.outside trimsNext) after
            pure (lead ++ textTokens raw ++ rest)
          | none => do
            let rest ← tokensFrom fuel .stating inside
            pure (lead ++ .blockStart :: rest)
    | .printing =>
      let cs := cs.dropWhile isGap
      match regionEnd? ['\x7d', '\x7d'] cs with
      | some (trims, after) => do
        let rest ← tokensFrom fuel (.outside trims) after
        pure (.printEnd :: rest)
      | none => do
        let (token, after) ← takeToken cs
        let rest ← tokensFrom fuel .printing after
        pure (token :: rest)
    | .stating =>
      let cs := cs.dropWhile isGap
      match regionEnd? ['%', '\x7d'] cs with
      | some (trims, after) => do
        let rest ← tokensFrom fuel (.outside trims) after
        pure (.blockEnd :: rest)
      | none => do
        let (token, after) ← takeToken cs
        let rest ← tokensFrom fuel .stating after
        pure (token :: rest)

/-- Cuts a template into tokens. -/
def tokens (cs : List Char) : Option (List Token) :=
  tokensFrom (2 * cs.length + 2) (.outside false) cs

end Dialogue.Template
