import Dialogue.Template.Tree

/-!
# Operations of templates

Arithmetic, comparison, concatenation and membership on template data.  Integers
stay integers except under division; quotients and remainders of integers are
Euclidean.  An operation on data it is not meant for fails.
-/

namespace Dialogue.Template

open Datum

/-- The remainder of `x` by `y` that is not negative. -/
def realRemainder (x y : Float) : Float :=
  match Decimal.Binary.ofFloat x, Decimal.Binary.ofFloat y with
  | .finite nx mx ex, .finite ny my ey =>
    if my == 0 then 0 / 0
    else
      -- Over the finer of the two units both are integers.
      let unit := min ex ey
      let a : Int := mx * twoTo (ex - unit).toNat
      let b : Int := my * twoTo (ey - unit).toNat
      let a := if nx then -a else a
      let b := if ny then -b else b
      let r := (a % b).natAbs
      if 0 ≤ unit then Float.ofScientific (r * twoTo unit.toNat) false 0
      else Float.ofScientific r false 0 / Float.ofScientific (twoTo (-unit).toNat) false 0
  | .finite .., .infinite _ => x
  | _, _ => 0 / 0

/-- The Euclidean quotient of two doubles. -/
def realQuotient (x y : Float) : Float :=
  let q := x / y
  match Decimal.truncate? q with
  | none => q
  | some n =>
    let whole := Decimal.ofInt n
    let r := x - whole * y
    if r < 0 then if 0 < y then whole - 1 else whole + 1 else whole

/-- The items of a list repeated. -/
def repeated {α : Type} (n : Nat) (items : List α) : List α := (List.replicate n items).flatten

/-- The number of times a datum asks to repeat something. -/
def times? (datum : Datum) : Option Nat := do
  let n ← datum.integer?
  if 0 ≤ n then some n.toNat else none

/-- The sum of two data: numbers, texts or lists. -/
def add (a b : Datum) : Option Datum :=
  match a, b with
  | .list xs _, .list ys _ => some (.list (xs ++ ys) true)
  | _, _ =>
    match pair? true a b with
    | some (.integers m n) => ofInt? (m + n)
    | some (.reals x y) => some (.real (x + y))
    | some (.strings s t) => some (.text (s ++ t))
    | none => none

/-- The difference of two numbers. -/
def subtract (a b : Datum) : Option Datum :=
  match pair? true a b with
  | some (.integers m n) => ofInt? (m - n)
  | some (.reals x y) => some (.real (x - y))
  | _ => none

/-- The product of two numbers, or a text or list repeated. -/
def multiply (a b : Datum) : Option Datum :=
  match a, b with
  | .string s _, n | n, .string s _ => do
    pure (.text (String.ofList (repeated (← times? n) s.toList)))
  | .list items _, n | n, .list items _ => do pure (.list (repeated (← times? n) items) true)
  | _, _ =>
    match pair? true a b with
    | some (.integers m n) => ofInt? (m * n)
    | some (.reals x y) => some (.real (x * y))
    | _ => none

/-- The quotient of two numbers as a double. -/
def divide (a b : Datum) : Option Datum := do
  let x ← a.real? true
  let y ← b.real? true
  pure (.real (x / y))

/-- The Euclidean quotient of two numbers. -/
def floorDivide (a b : Datum) : Option Datum :=
  match pair? true a b with
  | some (.integers m n) => if n = 0 then none else ofInt? (Int.ediv m n)
  | some (.reals x y) => some (.real (realQuotient x y))
  | _ => none

/-- The Euclidean remainder of two numbers. -/
def remainder (a b : Datum) : Option Datum :=
  match pair? true a b with
  | some (.integers m n) => if n = 0 then none else ofInt? (Int.emod m n)
  | some (.reals x y) => some (.real (realRemainder x y))
  | _ => none

/-- An integer power within 128 bits, by repeated multiplication. -/
def integerPower? (base : Int) (power : Nat) : Option Int :=
  if base.natAbs ≤ 1 then
    some (if base = -1 then if power % 2 = 0 then 1 else -1 else if power = 0 then 1 else base)
  else if 128 < power then none
  else
    let n := Int.pow base power
    if -(twoTo 127) ≤ n ∧ n < twoTo 127 then some n else none

/-- A power of two numbers. -/
def power (a b : Datum) : Option Datum :=
  match pair? true a b with
  | some (.integers m n) =>
    if 0 ≤ n ∧ n < twoTo 32 then (integerPower? m n.toNat).map .integer else none
  | some (.reals x y) => some (.real (x.pow y))
  | _ => none

/-- Changes the sign of a number. -/
def negate : Datum → Option Datum
  | .integer n => if n ≤ twoTo 127 then ofInt? (-n) else none
  | .real x => some (.real (-x))
  | _ => none

/-- Whether a container holds a datum. -/
def holds (container datum : Datum) : Option Bool :=
  match container with
  | .undefined => some false
  | .string s _ => some (Text.contains s datum.display)
  | .list items _ => some (items.any fun item => equal item datum)
  | .table entries => some (entries.any fun (key, _) => order key datum == .eq)
  | _ => none

/-- Applies an operator to two operands. -/
def applyOperator (operator : Operator) (a b : Datum) : Option Datum :=
  match operator with
  | .add => add a b
  | .subtract => subtract a b
  | .multiply => multiply a b
  | .divide => divide a b
  | .floorDivide => floorDivide a b
  | .remainder => remainder a b
  | .power => power a b
  | .concatenate => some (.text (a.display ++ b.display))
  | .equal => some (.boolean (equal a b))
  | .notEqual => some (.boolean !(equal a b))
  | .less => some (.boolean (order a b == .lt))
  | .lessEqual => some (.boolean (order a b != .gt))
  | .greater => some (.boolean (order a b == .gt))
  | .greaterEqual => some (.boolean (order a b != .lt))
  | .contained => (holds b a).map .boolean

/-- The start and the length of a slice of a sequence with `length` items. -/
def sliceBounds (start : Int) (stop : Option Int) (length : Nat) : Nat × Nat :=
  let bound (i : Int) : Nat := if i < 0 then (length + i).toNat else i.toNat
  let first := bound start
  let last := (stop.map bound).getD length
  (first, last - first)

/-- Every `step`-th item. -/
def everyNth {α : Type} (step : Nat) (items : List α) : List α :=
  items.zipIdx.filterMap fun (item, i) => if i % step == 0 then some item else none

/-- A slice of a text or a list. -/
def slice (subject start stop step : Datum) : Option Datum := do
  let first ← if start.kind = .nothing then some 0 else start.integer?
  let last ← if stop.kind = .nothing then some none else stop.integer?.map some
  let step ← if step.kind = .nothing then some 1 else step.integer?
  if step ≤ 0 then none
  else
    let part {α : Type} (items : List α) : List α :=
      let (skip, count) := sliceBounds first last items.length
      everyNth step.toNat ((items.drop skip).take count)
    match subject with
    | .undefined | .nothing => some (.ofList [])
    | .string s _ => some (.text (String.ofList (part s.toList)))
    | .list items _ => some (.list (part items) true)
    | _ => none

/-- The longest list that counting produces. -/
def maxCount : Nat := 100000

/-- Integers from `low` below `high` in steps. -/
def count? (low high step : Int) : Option Datum :=
  if step = 0 then none
  else
    let span := if 0 < step then high - low else low - high
    let n := ((span + step.natAbs - 1) / step.natAbs).toNat
    if maxCount < n then none
    else some (.list ((List.range n).map fun (i : Nat) => .integer (low + i * step)) true)

/-- Counts up to a bound, from one bound to another, or in steps. -/
def countFrom (arguments : List Datum) : Option Datum := do
  match ← arguments.mapM integer? with
  | [high] => count? 0 high 1
  | [low, high] => count? low high 1
  | [low, high, step] => count? low high step
  | _ => none

end Dialogue.Template
