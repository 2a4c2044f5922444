import Dialogue.Fields
import Dialogue.Text.Quoted
import Dialogue.Decimal.Layout

/-!
# JSON trees

Clean JSON values, their compact and indented texts, and editing by a path of
keys.  Objects keep their fields in ascending order of names.
-/

namespace Dialogue

/-- A JSON number: an integer of at most sixty-four bits, or a double. -/
inductive Number where
  | integer (value : Int)
  | real (value : Float)
  deriving Inhabited, Repr

/-- A JSON value. -/
inductive Json where
  | null
  | boolean (value : Bool)
  | number (value : Number)
  | string (value : String)
  | array (items : List Json)
  | object (fields : List (String × Json))
  deriving Inhabited, Repr

/-- The text of a number. -/
def Number.text : Number → String
  | .integer n => toString n
  | .real x => if Decimal.isFinite x then Decimal.Layout.exchange.text x else "null"

/-- The double nearest to a number. -/
def Number.toFloat : Number → Float
  | .integer n => Decimal.ofInt n
  | .real x => x

namespace Json

/-- An integer as a JSON value. -/
def int (n : Int) : Json := .number (.integer n)

/-- A natural number as a JSON value. -/
def nat (n : Nat) : Json := .number (.integer n)

/-- A double as a JSON value; what has no decimal text is `null`. -/
def real (x : Float) : Json := if Decimal.isFinite x then .number (.real x) else .null

/-- An object from its fields in any order. -/
def ofFields (fields : List (String × Json)) : Json := .object (Fields.ofList fields)

/-- A list of texts as a JSON array. -/
def strings (items : List String) : Json := .array (items.map .string)

mutual

/-- The compact text of a value. -/
def text : Json → String
  | .null => "null"
  | .boolean b => if b then "true" else "false"
  | .number n => n.text
  | .string s => Text.exchangeQuoted s
  | .array items => "[" ++ ",".intercalate (itemTexts items) ++ "]"
  | .object fields => "\x7b" ++ ",".intercalate (fieldTexts fields) ++ "\x7d"

/-- The compact texts of several values. -/
def itemTexts : List Json → List String
  | [] => []
  | item :: rest => item.text :: itemTexts rest

/-- The compact texts of several fields. -/
def fieldTexts : List (String × Json) → List String
  | [] => []
  | (name, value) :: rest => (Text.exchangeQuoted name ++ ":" ++ value.text) :: fieldTexts rest

end

mutual

/-- The text of a value over several lines, where `margin` starts each new line. -/
def indented (margin : String) : Json → String
  | .array [] => "[]"
  | .object [] => "\x7b\x7d"
  | .array (item :: rest) =>
    "[" ++ ",".intercalate (indentedItems (margin ++ "  ") (item :: rest)) ++ margin ++ "]"
  | .object (entry :: rest) =>
    "\x7b" ++ ",".intercalate (indentedFields (margin ++ "  ") (entry :: rest)) ++ margin ++ "\x7d"
  | .null => "null"
  | .boolean b => if b then "true" else "false"
  | .number n => n.text
  | .string s => Text.exchangeQuoted s

/-- Each value on a line of its own. -/
def indentedItems (margin : String) : List Json → List String
  | [] => []
  | item :: rest => (margin ++ item.indented margin) :: indentedItems margin rest

/-- Each field on a line of its own. -/
def indentedFields (margin : String) : List (String × Json) → List String
  | [] => []
  | (name, value) :: rest =>
    (margin ++ Text.exchangeQuoted name ++ ": " ++ value.indented margin) ::
      indentedFields margin rest

end

/-- The text of a value with one item or field a line, two spaces for each level. -/
def pretty (json : Json) : String := json.indented "\n"

end Json

end Dialogue
