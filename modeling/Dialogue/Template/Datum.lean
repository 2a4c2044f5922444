import Dialogue.Value
import Dialogue.Text.Letters

/-!
# Template data

What template expressions evaluate to.  Besides the values a conversation holds
there are integers of up to 128 bits, data that are not defined, texts marked as
already escaped, and lists that are produced on the way.
-/

namespace Dialogue.Template

/-- The value of a template expression. -/
inductive Datum where
  | undefined
  | nothing
  | boolean (value : Bool)
  | integer (value : Int)
  | real (value : Float)
  | string (value : String) (escaped : Bool)
  /-- Items in order; `made` if they were produced by an operation. -/
  | list (items : List Datum) (made : Bool)
  /-- Entries in ascending order of their keys. -/
  | table (entries : List (Datum × Datum))
  deriving Inhabited, Repr

namespace Datum

/-- A text that is not escaped. -/
def text (s : String) : Datum := .string s false

/-- A list that is no intermediate product. -/
def ofList (items : List Datum) : Datum := .list items false

/-- The integers of templates have 128 bits. -/
def ofInt? (n : Int) : Option Datum :=
  if -(twoTo 127) ≤ n ∧ n < twoTo 127 then some (.integer n) else none

mutual

/-- The datum a value enters a template as. -/
def ofValue : Value → Datum
  | .null => .nothing
  | .boolean b => .boolean b
  | .number x =>
    match Value.integer? x with
    | some n => .integer n
    | none => if Decimal.isFinite x then .real x else .nothing
  | .string s => .text s
  | .array items => .list (ofItems items) false
  | .object fields => .table (ofFields fields)

/-- The data of several values. -/
def ofItems : List Value → List Datum
  | [] => []
  | item :: rest => ofValue item :: ofItems rest

/-- The entries of named values. -/
def ofFields : List (String × Value) → List (Datum × Datum)
  | [] => []
  | (name, value) :: rest => (.text name, ofValue value) :: ofFields rest

end

/-- Kinds of data, in their order. -/
inductive Kind where
  | undefined
  | nothing
  | boolean
  | number
  | string
  | sequence
  | mapping
  | produced
  deriving DecidableEq, Repr

/-- The place of a kind in the order of kinds. -/
def Kind.rank : Kind → Nat
  | .undefined => 0
  | .nothing => 1
  | .boolean => 2
  | .number => 3
  | .string => 4
  | .sequence => 5
  | .mapping => 6
  | .produced => 7

/-- The kind of a datum. -/
def kind : Datum → Kind
  | .undefined => .undefined
  | .nothing => .nothing
  | .boolean _ => .boolean
  | .integer _ | .real _ => .number
  | .string .. => .string
  | .list _ made => if made then .produced else .sequence
  | .table _ => .mapping

/-- Whether a datum counts as true. -/
def truthy : Datum → Bool
  | .undefined | .nothing => false
  | .boolean b => b
  | .integer n => n != 0
  | .real x => x != 0
  | .string s _ => !s.isEmpty
  | .list items _ => !items.isEmpty
  | .table entries => !entries.isEmpty

/-- The integer a datum counts as. -/
def integer? : Datum → Option Int
  | .boolean b => some (if b then 1 else 0)
  | .integer n => if -(twoTo 127) ≤ n ∧ n < twoTo 127 then some n else none
  | .real x => (Decimal.whole? x).filter fun n => n.natAbs < twoTo 63
  | _ => none

/-- The double a datum counts as; an integer must be exact unless `lossy`. -/
def real? (lossy : Bool) : Datum → Option Float
  | .boolean b => some (if b then 1 else 0)
  | .integer n =>
    let x := Decimal.ofInt n
    if lossy || Decimal.whole? x == some n then some x else none
  | .real x => some x
  | _ => none

/-- The text of a string datum. -/
def string? : Datum → Option String
  | .string s _ => some s
  | _ => none

/-- Two operands on common ground. -/
inductive Pair where
  | integers (a b : Int)
  | reals (a b : Float)
  | strings (a b : String)

/-- Brings two operands to common ground. -/
def pair? (lossy : Bool) (a b : Datum) : Option Pair :=
  match a, b with
  | .string s _, .string t _ => some (.strings s t)
  | .real x, _ => (b.real? lossy).map (.reals x)
  | _, .real y => (a.real? lossy).map (.reals · y)
  | _, _ => do
    let m ← a.integer?
    let n ← b.integer?
    pure (.integers m n)

/-- A key that orders doubles, minus zero below zero and invalid numbers at the ends. -/
def realKey (x : Float) : Int :=
  let bits : Int := x.toBits.toNat
  if bits < twoTo 63 then bits else twoTo 63 - 1 - bits

mutual

/-- Whether two data are equal. -/
def equal : Datum → Datum → Bool
  | .undefined, .undefined => true
  | .nothing, .nothing => true
  | .list items _, .list others _ => equalItems items others
  | .table entries, .table others => equalEntries entries others
  | a, b =>
    match pair? false a b with
    | some (.integers m n) => m == n
    | some (.reals x y) => x == y
    | some (.strings s t) => s == t
    | none => false

/-- Whether two lists have equal items. -/
def equalItems : List Datum → List Datum → Bool
  | [], [] => true
  | a :: as, b :: bs => equal a b && equalItems as bs
  | _, _ => false

/-- Whether two tables have equal entries. -/
def equalEntries : List (Datum × Datum) → List (Datum × Datum) → Bool
  | [], [] => true
  | (k, a) :: as, (l, b) :: bs => equal k l && equal a b && equalEntries as bs
  | _, _ => false

end

mutual

/-- The order of data. -/
def order : Datum → Datum → Ordering
  | .undefined, .undefined => .eq
  | .nothing, .nothing => .eq
  | .list items made, .list others made' =>
    (compare (kind (.list [] made)).rank (kind (.list [] made')).rank).then
      (orderItems items others)
  | .table entries, .table others => orderEntries entries others
  | a, b =>
    let kinds := compare a.kind.rank b.kind.rank
    match pair? false a b with
    | some (.integers m n) => (compare m n).then kinds
    | some (.reals x y) => (compare (realKey x) (realKey y)).then kinds
    | some (.strings s t) => (compare s t).then kinds
    | none => kinds

/-- The order of lists, item by item. -/
def orderItems : List Datum → List Datum → Ordering
  | [], [] => .eq
  | [], _ => .lt
  | _, [] => .gt
  | a :: as, b :: bs => (order a b).then (orderItems as bs)

/-- The order of tables, entry by entry. -/
def orderEntries : List (Datum × Datum) → List (Datum × Datum) → Ordering
  | [], [] => .eq
  | [], _ => .lt
  | _, [] => .gt
  | (k, a) :: as, (l, b) :: bs => ((order k l).then (order a b)).then (orderEntries as bs)

end

/-- Sets an entry of a table, keeping the keys in order. -/
def setEntry (key value : Datum) : List (Datum × Datum) → List (Datum × Datum)
  | [] => [(key, value)]
  | (k, v) :: rest =>
    match order key k with
    | .lt => (key, value) :: (k, v) :: rest
    | .eq => (k, value) :: rest
    | .gt => (k, v) :: setEntry key value rest

/-- A table from its entries in any order; the last entry of a key stays. -/
def ofEntries (entries : List (Datum × Datum)) : Datum :=
  .table (entries.foldl (fun table (key, value) => setEntry key value table) [])

/-- The word for a truth value. -/
def booleanText (b : Bool) : String := if b then "True" else "False"

mutual

/-- The text of a datum inside a list or a table. -/
def inner : Datum → String
  | .undefined => "undefined"
  | .nothing => "None"
  | .boolean b => booleanText b
  | .integer n => toString n
  | .real x => Decimal.Layout.display.text x
  | .string s _ => Text.displayQuoted s
  | .list items _ => "[" ++ ", ".intercalate (innerItems items) ++ "]"
  | .table entries => "\x7b" ++ ", ".intercalate (innerEntries entries) ++ "\x7d"

/-- The texts of the items of a list. -/
def innerItems : List Datum → List String
  | [] => []
  | item :: rest => item.inner :: innerItems rest

/-- The texts of the entries of a table. -/
def innerEntries : List (Datum × Datum) → List String
  | [] => []
  | (key, value) :: rest => (key.inner ++ ": " ++ value.inner) :: innerEntries rest

end

/-- The text of a datum by itself. -/
def display : Datum → String
  | .undefined => ""
  | .real x => Decimal.Layout.fractional.text x
  | .string s _ => s
  | datum => datum.inner

/-- The text of a printed datum: nothing for `nothing`. -/
def printed : Datum → String
  | .nothing => ""
  | datum => datum.display

/-- The items that a loop runs over. -/
def items? : Datum → Option (List Datum)
  | .undefined | .nothing => some []
  | .string s _ => some (s.toList.map fun c => .text (String.singleton c))
  | .list items _ => some items
  | .table entries => some (entries.map Prod.fst)
  | _ => none

/-- The number of items, characters or entries. -/
def length? : Datum → Option Nat
  | .string s _ => some s.length
  | .list items _ => some items.length
  | .table entries => some entries.length
  | _ => none

/-- The position that an index means in a sequence of a length; negative ones count from its end. -/
def position? (key : Datum) (length : Nat) : Option Nat := do
  let i ← key.integer?
  if i < 0 then if i.natAbs ≤ length then some (length - i.natAbs) else none
  else some i.toNat

/-- What a datum holds under a key; nothing defined where there is no such thing. -/
def get (datum key : Datum) : Datum :=
  let found : Option Datum :=
    match datum with
    | .list items _ => do items[← position? key items.length]?
    | .string s _ => do
      let c ← s.toList[← position? key s.length]?
      pure (.text (String.singleton c))
    | .table entries => (entries.find? fun (k, _) => order k key == .eq).map Prod.snd
    | _ => none
  found.getD .undefined

end Datum

end Dialogue.Template
