import Dialogue.Template

/-!
# Conditions

Ordered rules that choose where a conversation goes on.  A rule compares the
rendered form of a template with a literal value: as texts, as numbers, or as a
member of a list.  The first rule that matches decides.
-/

namespace Dialogue

/-- The place of a node in a flow is known by its name. -/
abbrev NodeId := String

namespace Condition

/-- How a rendered text is compared with a value. -/
inductive Operator where
  | equals
  | contains
  | greater
  | less
  | memberOf
  deriving DecidableEq, Repr

/-- The written names of each operator, its stored name first but for `equals`. -/
def Operator.names : List (List String × Operator) :=
  [(["==", "eq", "equals"], .equals), (["contains"], .contains), ([">", "gt"], .greater),
    (["<", "lt"], .less), (["in"], .memberOf)]

/-- The stored name of an operator. -/
def Operator.name : Operator → String
  | .equals => "equals"
  | .contains => "contains"
  | .greater => "gt"
  | .less => "lt"
  | .memberOf => "in"

/-- An operator from one of its names. -/
def Operator.decoder : Decoder Operator := Decoder.choice Operator.names

/-- A test on a rendered template, and the node to go to when it passes. -/
structure Rule where
  left : String
  operator : Operator
  right : Value
  next : NodeId
  deriving Repr, BEq

namespace Rule

/-- A rule as it is stored. -/
def stored (rule : Rule) : Json :=
  .ofFields [("left", .string rule.left), ("op", .string rule.operator.name),
    ("right", rule.right.stored), ("next", .string rule.next)]

/-- The fields of a stored rule. -/
def record : Record (String × Operator × Value × NodeId × Unit) :=
  .field "left" [] none .string <| .field "op" [] none Operator.decoder <|
    .field "right" [] (some .null) Value.decoder <| .field "next" [] none .string .done

/-- A rule from its stored form. -/
def decoder : Decoder Rule :=
  (record.decoder "struct Rule").map fun (left, operator, right, next, _) =>
    ⟨left, operator, right, next⟩

/-- Whether two texts or values count as numbers that stand in a relation. -/
def comparesAs (relation : Float → Float → Bool) (left : String) (right : Value) : Bool :=
  match (Value.string left).number?, right.number? with
  | some l, some r => relation l r
  | _, _ => false

/-- Whether a rendered text passes the test. -/
def accepts (rule : Rule) (left : String) : Bool :=
  match rule.operator with
  | .equals => left == rule.right.display
  | .contains => Text.contains left rule.right.display
  | .greater => comparesAs (fun l r => l > r) left rule.right
  | .less => comparesAs (fun l r => l < r) left rule.right
  | .memberOf => (rule.right.array?.getD []).any fun item => item.display == left

/-- Whether a rule matches what a template can see. -/
def matchesIn (rule : Rule) (view : View) : Bool := rule.accepts (view.render rule.left)

end Rule

/-- The words for a choice that no rule makes. -/
def noMatchMessage : String := "no rule matched and no else target is configured"

/-- The target of the first rule that matches, or else the given one, if any. -/
def choose? (rules : List Rule) (otherwise : Option NodeId) (view : View) : Option NodeId :=
  ((rules.find? (·.matchesIn view)).map (·.next)).or otherwise

end Condition

end Dialogue
