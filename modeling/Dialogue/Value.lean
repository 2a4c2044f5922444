import Dialogue.Json.Decoder
import Dialogue.Decimal.Reader
import Dialogue.Text.Blank

/-!
# Values

The dynamic values that flows work with: what variables and contact attributes
hold and what node configurations are written in.  Every number is a double.  A
value has three texts: the one shown to people, the JSON it counts as, in which
whole numbers are integers, and the stored JSON, in which every number keeps a
fraction.
-/

namespace Dialogue

/-- A dynamic value. -/
inductive Value where
  | null
  | boolean (value : Bool)
  | number (value : Float)
  | string (value : String)
  | array (items : List Value)
  | object (fields : List (String × Value))
  deriving Inhabited, Repr, BEq

/-- Named values. -/
abbrev Values := Fields Value

namespace Value

/-- Whole numbers below this size are written without a fraction. -/
def wholeLimit : Nat := tenTo 15

/-- The integer that a number is written as, if it is whole and small enough. -/
def integer? (x : Float) : Option Int :=
  (Decimal.whole? x).filter fun n => n.natAbs < wholeLimit

/-- The text of a number for people. -/
def numberText (x : Float) : String :=
  match integer? x with
  | some n => toString n
  | none => Decimal.Layout.plain.text x

mutual

/-- The JSON a value counts as. -/
def toJson : Value → Json
  | .null => .null
  | .boolean b => .boolean b
  | .number x =>
    match integer? x with
    | some n => .int n
    | none => .real x
  | .string s => .string s
  | .array items => .array (itemsToJson items)
  | .object fields => .object (fieldsToJson fields)

/-- The JSON of several values. -/
def itemsToJson : List Value → List Json
  | [] => []
  | item :: rest => item.toJson :: itemsToJson rest

/-- The JSON of named values. -/
def fieldsToJson : List (String × Value) → List (String × Json)
  | [] => []
  | (name, value) :: rest => (name, value.toJson) :: fieldsToJson rest

end

mutual

/-- The JSON a value is stored as. -/
def stored : Value → Json
  | .null => .null
  | .boolean b => .boolean b
  | .number x => .real x
  | .string s => .string s
  | .array items => .array (storedItems items)
  | .object fields => .object (storedFields fields)

/-- The stored JSON of several values. -/
def storedItems : List Value → List Json
  | [] => []
  | item :: rest => item.stored :: storedItems rest

/-- The stored JSON of named values. -/
def storedFields : List (String × Value) → List (String × Json)
  | [] => []
  | (name, value) :: rest => (name, value.stored) :: storedFields rest

end

mutual

/-- The value a JSON tree stands for. -/
def ofJson : Json → Value
  | .null => .null
  | .boolean b => .boolean b
  | .number n => .number n.toFloat
  | .string s => .string s
  | .array items => .array (ofItems items)
  | .object fields => .object (ofFields fields)

/-- The values of several trees. -/
def ofItems : List Json → List Value
  | [] => []
  | item :: rest => ofJson item :: ofItems rest

/-- The values of named trees. -/
def ofFields : List (String × Json) → List (String × Value)
  | [] => []
  | (name, value) :: rest => (name, ofJson value) :: ofFields rest

end

/-- The text of a value for people: nothing for `null`, compact JSON for lists and objects. -/
def display : Value → String
  | .null => ""
  | .boolean b => if b then "true" else "false"
  | .number x => numberText x
  | .string s => s
  | value => value.toJson.text

/-- The number a value counts as, if it is one, is a truth value or is a text that reads as one. -/
def number? : Value → Option Float
  | .number x => some x
  | .string s => Decimal.read? (Text.trimmed s.toList)
  | .boolean b => some (if b then 1 else 0)
  | _ => none

/-- The text of a string value. -/
def string? : Value → Option String
  | .string s => some s
  | _ => none

/-- The items of a list value. -/
def array? : Value → Option (List Value)
  | .array items => some items
  | _ => none

/-- The value of an integer: the nearest double. -/
def ofInt (n : Int) : Value := .number (Decimal.ofInt n)

/-- Any JSON stands for a value. -/
def decoder : Decoder Value := Decoder.tree.map ofJson

end Value

namespace Values

/-- The stored JSON of named values. -/
def stored (values : Values) : Json := .object (Value.storedFields values)

/-- Named values from an object. -/
def decoder : Decoder Values := Decoder.fields Value.decoder

end Values

end Dialogue
