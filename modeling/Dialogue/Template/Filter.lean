import Dialogue.Template.Operation

/-!
# Filters and tests of templates

The transformations that follow a bar and the questions that follow `is`.  One
that is unknown, or is given what it cannot work on, fails.
-/

namespace Dialogue.Template

open Datum

/-- Positional and named arguments. -/
structure Arguments where
  positional : List Datum
  named : List (String × Datum)

/-- One character of escaped text. -/
def escapeChar (c : Char) : List Char :=
  match c with
  | '<' => "&lt;".toList
  | '>' => "&gt;".toList
  | '&' => "&amp;".toList
  | '"' => "&quot;".toList
  | '\'' => "&#x27;".toList
  | '/' => "&#x2f;".toList
  | _ => [c]

/-- Escapes what markup gives a meaning to, unless that was done already. -/
def escape : Datum → Datum
  | .string s escaped =>
    if escaped then .string s true else .string (String.ofList (s.toList.flatMap escapeChar)) true
  | datum => .string (String.ofList (datum.display.toList.flatMap escapeChar)) true

/-- Upper case for the first character and lower case for the others. -/
def capitalized (cs : List Char) : List Char :=
  match cs with
  | [] => []
  | c :: rest => Text.upperChar c ++ Text.lower rest

/-- Marks of ASCII that are neither letters nor digits nor blanks. -/
def isPunctuation (c : Char) : Bool :=
  0x21 ≤ c.toNat && c.toNat ≤ 0x7E && !c.isAlphanum

/-- Upper case at the beginning of every word and lower case elsewhere; `fresh` at a beginning. -/
def titled (fresh : Bool) : List Char → List Char
  | [] => []
  | c :: rest =>
    if isPunctuation c || Text.isBlank c then c :: titled true rest
    else if fresh then Text.upperChar c ++ titled false rest
    else Text.lowerChar c ++ titled false rest

/-- Replaces every occurrence of a text that is not empty. -/
def replaceAll (fuel : Nat) (old new : List Char) (cs : List Char) : List Char :=
  match fuel, cs with
  | 0, _ => cs
  | _, [] => []
  | fuel + 1, c :: rest =>
    if old.isPrefixOf (c :: rest) then new ++ replaceAll fuel old new ((c :: rest).drop old.length)
    else c :: replaceAll fuel old new rest

/-- Replaces every occurrence of a text; the empty text occurs between all characters. -/
def replaced (old new cs : List Char) : List Char :=
  if old.isEmpty then new ++ cs.flatMap fun c => c :: new
  else replaceAll (cs.length + 1) old new cs

/-- The pieces of a text between occurrences of a mark; at most `most` pieces if given. -/
def pieces (fuel : Nat) (mark : List Char) (most : Option Nat) (cs : List Char) :
    List (List Char) :=
  match fuel with
  | 0 => [cs]
  | fuel + 1 =>
    if most = some 0 then []
    else if most = some 1 then [cs]
    else
      match splitPiece mark cs with
      | some (piece, rest) => piece :: pieces fuel mark (most.map (· - 1)) rest
      | none => [cs]
where
  /-- The text before the first occurrence of the mark, and what follows it. -/
  splitPiece (mark : List Char) : List Char → Option (List Char × List Char)
    | [] => none
    | c :: rest =>
      if mark.isPrefixOf (c :: rest) then some ([], (c :: rest).drop mark.length)
      else (splitPiece mark rest).map fun (piece, after) => (c :: piece, after)

/-- Splits a text at a mark, at the places between characters, or at blanks. -/
def splitText? (s : String) (mark : Option String) (most : Option Nat) : List String :=
  let cs := s.toList
  let parts :=
    match mark, most with
    | none, none => Text.words cs
    | none, some n => blankPieces n cs
    | some mark, _ =>
      if mark.isEmpty then
        if most.isNone then [] :: (cs.map fun c => [c]) ++ [[]] else [cs]
      else pieces (cs.length + 1) mark.toList most cs
  parts.map String.ofList
where
  /-- At most `n` pieces between single blanks. -/
  blankPieces (n : Nat) (cs : List Char) : List (List Char) :=
    match n with
    | 0 => []
    | 1 => [cs]
    | n + 1 =>
      match cs.dropWhile (!Text.isBlank ·) with
      | [] => [cs]
      | _ :: rest => cs.takeWhile (!Text.isBlank ·) :: blankPieces n rest

/-- Joins the texts of items; the joiner stands before every item but leading empty ones. -/
def joined (joiner : String) (items : List Datum) : String :=
  items.foldl (fun done item => (if done.isEmpty then done else done ++ joiner) ++ item.display) ""

/-- The order of a sort: texts without regard to the case of ASCII letters unless `exact`. -/
def sortOrder (exact : Bool) (a b : Datum) : Ordering :=
  match a, b with
  | .string s _, .string t _ =>
    if exact then compare s t else compare (Text.asciiLower s) (Text.asciiLower t)
  | _, _ => order a b

/-- What a dotted path leads to. -/
def follow (path : String) (datum : Datum) : Datum :=
  ((pieces (path.length + 1) ['.'] none path.toList).map String.ofList).foldl
    (fun datum step => datum.get (step.toNat?.elim (.text step) fun n => .integer n)) datum

/-- Sorts items, equal ones staying in order. -/
def sorted (items : List Datum) (named : List (String × Datum)) : Option Datum := do
  if named.any fun (name, _) => !(["case_sensitive", "attribute", "reverse"].contains name) then
    none
  else
    let flag (name : String) : Option Bool :=
      match named.lookup name with
      | none | some .nothing | some .undefined => some false
      | some (.boolean b) => some b
      | some _ => none
    let exact ← flag "case_sensitive"
    let backward ← flag "reverse"
    let key : Datum → Datum ←
      match named.lookup "attribute" with
      | none | some .nothing | some .undefined => some id
      | some (.string path _) => some (follow path)
      | some _ => none
    let items := items.mergeSort fun a b => sortOrder exact (key a) (key b) != .gt
    pure (.ofList (if backward then items.reverse else items))

/-- The least item, the first of equal ones. -/
def least (items : List Datum) : Datum :=
  match items with
  | [] => .undefined
  | first :: rest =>
    rest.foldl (fun best item => if order item best == .lt then item else best) first

/-- The greatest item, the last of equal ones. -/
def greatest (items : List Datum) : Datum :=
  match items with
  | [] => .undefined
  | first :: rest =>
    rest.foldl (fun best item => if order item best != .lt then item else best) first

/-- The sum of numbers. -/
def total (items : List Datum) : Option Datum :=
  items.foldlM (fun sum item =>
    match item.kind with
    | .undefined => some sum
    | .number => add sum item
    | _ => none) (.integer 0)

/-- The integer a datum is converted to, rounding towards zero. -/
def toInteger (datum : Datum) : Option Datum :=
  let clamp (n : Int) : Int := max (-(twoTo 127)) (min n (twoTo 127 - 1))
  let ofReal (x : Float) : Datum :=
    match Decimal.truncate? x with
    | some n => .integer (clamp n)
    | none => .integer (if 0 < x then twoTo 127 - 1 else if x < 0 then -(twoTo 127) else 0)
  match datum with
  | .undefined | .nothing => some (.integer 0)
  | .boolean b => some (.integer (if b then 1 else 0))
  | .integer n => some (.integer n)
  | .real x => some (ofReal x)
  | .string s _ =>
    let (negative, digits) := Decimal.takeSign s.toList
    if !digits.isEmpty && digits.all Char.isDigit && Decimal.digitsValue digits < twoTo 127 then
      let n : Int := Decimal.digitsValue digits
      some (.integer (if negative then -n else n))
    else (Decimal.read? s.toList).map ofReal
  | _ => none

/-- The items of a datum in reverse. -/
def reversed : Datum → Option Datum
  | .undefined => some .undefined
  | .nothing => some .nothing
  | .string s _ => some (.text (String.ofList s.toList.reverse))
  | .list items _ => some (.list items.reverse true)
  | .table entries => some (.list (entries.map Prod.fst).reverse true)
  | _ => none

/-- Applies a text filter without arguments. -/
def onText (f : List Char → List Char) (subject : Datum) (arguments : Arguments) : Option Datum :=
  if arguments.positional.isEmpty && arguments.named.isEmpty then
    some (.text (String.ofList (f subject.display.toList)))
  else none

/-- Applies a filter that takes positional arguments only. -/
def positionally (f : List Datum → Option Datum) (arguments : Arguments) : Option Datum :=
  if arguments.named.isEmpty then f arguments.positional else none

/-- Applies a filter by name. -/
def applyFilter (name : String) (subject : Datum) (arguments : Arguments) : Option Datum :=
  match name with
  | "upper" => onText Text.upper subject arguments
  | "lower" => onText Text.lower subject arguments
  | "capitalize" => onText capitalized subject arguments
  | "title" => onText (titled true) subject arguments
  | "trim" => arguments |> positionally fun
    | [] => some (.text (Text.trim subject.display))
    | [chars] =>
      let isExtra (c : Char) : Bool := chars.display.toList.contains c
      let cs := subject.display.toList.dropWhile isExtra
      some (.text (String.ofList (cs.reverse.dropWhile isExtra).reverse))
    | _ => none
  | "length" | "count" => arguments |> positionally fun
    | [] => subject.length?.map fun n => .integer n
    | _ => none
  | "default" | "d" => arguments |> positionally fun
    | [] => some (if subject.kind = .undefined then .text "" else subject)
    | [other] => some (if subject.kind = .undefined then other else subject)
    | [other, .boolean lax] =>
      some (if subject.kind = .undefined || (lax && !subject.truthy) then other else subject)
    | _ => none
  | "first" => arguments |> positionally fun
    | [] =>
      match subject with
      | .undefined | .nothing => none
      | _ => subject.items?.map fun items => items.head?.getD .undefined
    | _ => none
  | "last" => arguments |> positionally fun
    | [] =>
      match subject with
      | .string .. | .list .. => subject.items?.map fun items => items.getLast?.getD .undefined
      | _ => none
    | _ => none
  | "sort" =>
    if arguments.positional.isEmpty then do sorted (← subject.items?) arguments.named else none
  | "reverse" => arguments |> positionally fun
    | [] => reversed subject
    | _ => none
  | "sum" => arguments |> positionally fun
    | [] => do total (← subject.items?)
    | _ => none
  | "min" => arguments |> positionally fun
    | [] => subject.items?.map least
    | _ => none
  | "max" => arguments |> positionally fun
    | [] => subject.items?.map greatest
    | _ => none
  | "join" => arguments |> positionally fun
    | [] => do pure (.text (joined "" (← subject.items?)))
    | [joiner] => do
      let joiner :=
        if joiner.kind = .nothing || joiner.kind = .undefined then "" else joiner.display
      pure (.text (joined joiner (← subject.items?)))
    | _ => none
  | "replace" => arguments |> positionally fun
    | [old, new] =>
      some (.text (String.ofList
        (replaced old.display.toList new.display.toList subject.display.toList)))
    | _ => none
  | "abs" => arguments |> positionally fun
    | [] =>
      match subject with
      | .integer n => some (.integer n.natAbs)
      | .real x => some (.real x.abs)
      | _ => none
    | _ => none
  | "int" => arguments |> positionally fun
    | [] => toInteger subject
    | _ => none
  | "split" => arguments |> positionally fun
    | [] => made (splitText? subject.display none none)
    | [mark] => made (splitText? subject.display (separator mark) none)
    | [mark, most] => do
      let n ← most.integer?
      made (splitText? subject.display (separator mark)
        (if 0 ≤ n then some (n.toNat + 1) else none))
    | _ => none
  | "items" => arguments |> positionally fun
    | [] =>
      match subject with
      | .table entries => some (.list (entries.map fun (k, v) => .ofList [k, v]) true)
      | _ => none
    | _ => none
  | "e" | "escape" => arguments |> positionally fun
    | [] => some (escape subject)
    | _ => none
  | _ => none
where
  /-- A produced list of texts. -/
  made (parts : List String) : Option Datum := some (.list (parts.map .text) true)
  /-- The mark to split at, absent if it is nothing. -/
  separator (mark : Datum) : Option String :=
    if mark.kind = .nothing || mark.kind = .undefined then none else some mark.display

/-- Answers a test by name. -/
def applyTest (name : String) (subject : Datum) (arguments : Arguments) : Option Bool :=
  if !arguments.positional.isEmpty || !arguments.named.isEmpty then none
  else
    match name with
    | "defined" => some (subject.kind != .undefined)
    | "undefined" => some (subject.kind == .undefined)
    | "none" => some (subject.kind == .nothing)
    | "string" => some (subject.kind == .string)
    | "number" => some (subject.kind == .number)
    | "sequence" => some (subject.kind == .sequence)
    | "mapping" => some (subject.kind == .mapping)
    | "boolean" => some (subject.kind == .boolean)
    | "odd" => some (subject.integer?.any fun n => n % 2 != 0)
    | "even" => some (subject.integer?.any fun n => n % 2 == 0)
    | _ => none

end Dialogue.Template
