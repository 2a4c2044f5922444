import Dialogue.Template.Datum

/-!
# Template trees

The expressions and parts of a template.
-/

namespace Dialogue.Template

/-- Operators between two operands that are both evaluated. -/
inductive Operator where
  | add
  | subtract
  | multiply
  | divide
  | floorDivide
  | remainder
  | power
  | concatenate
  | equal
  | notEqual
  | less
  | lessEqual
  | greater
  | greaterEqual
  | contained
  deriving DecidableEq, Repr

/-- An expression.  Arguments are pairs of a name, empty for positional ones, and an expression. -/
inductive Expr where
  | literal (value : Datum)
  | name (name : String)
  | list (items : List Expr)
  | table (entries : List (Expr × Expr))
  | attribute (subject : Expr) (name : String)
  | item (subject key : Expr)
  | slice (subject start stop step : Expr)
  | negate (operand : Expr)
  | invert (operand : Expr)
  | binary (operator : Operator) (left right : Expr)
  | both (left right : Expr)
  | either (left right : Expr)
  | choose (condition yes no : Expr)
  | filter (name : String) (subject : Expr) (arguments : List (String × Expr))
  | test (name : String) (subject : Expr) (arguments : List (String × Expr))
  | call (callee : Expr) (arguments : List (String × Expr))
  deriving Inhabited

/-- Where a value is assigned. -/
inductive Target where
  | name (name : String)
  | unpack (targets : List Target)
  /-- A member of a datum; data have no members that can be set. -/
  | member
  deriving Inhabited

/-- A part of a template. -/
inductive Part where
  | text (chars : List Char)
  | print (expr : Expr)
  | branch (condition : Expr) (yes no : List Part)
  | loop (target : Target) (source : Expr) (condition : Option Expr) (body otherwise : List Part)
  | assign (target : Target) (expr : Expr)
  /-- Assigns the text of a body after some filters. -/
  | capture (target : Target) (filters : List (String × List (String × Expr))) (body : List Part)
  deriving Inhabited

end Dialogue.Template
