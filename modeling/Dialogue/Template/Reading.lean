import Dialogue.Template.Token
import Dialogue.Template.Tree

/-!
# Reading templates

From tokens to parts.  Operators bind, from loosest to tightest: the inline
condition, `or`, `and`, `not`, comparisons, sums, concatenation, products,
powers, the sign; filters and tests apply last of all.  Expressions that are
nested too deeply are refused.
-/

namespace Dialogue.Template

/-- What is left to read. -/
structure Cursor where
  tokens : List Token
  /-- How many more expressions may be opened inside the current one. -/
  room : Nat

/-- A reader of something from the front of the tokens. -/
abbrev Reader (α : Type) := StateT Cursor Option α

namespace Reader

/-- The deepest nesting of expressions. -/
def maxNesting : Nat := 150

/-- The next token, if there is one. -/
def peek : Reader (Option Token) := do pure (← get).tokens.head?

/-- Takes the next token. -/
def take : Reader Token := do
  match (← get).tokens with
  | [] => failure
  | token :: rest =>
    modify fun cursor => { cursor with tokens := rest }
    pure token

/-- Takes the next token if it is `token`. -/
def accept (token : Token) : Reader Bool := do
  match (← get).tokens with
  | [] => pure false
  | next :: rest =>
    if next == token then
      modify fun cursor => { cursor with tokens := rest }
      pure true
    else pure false

/-- Takes a mark if it is next. -/
def acceptMark (mark : String) : Reader Bool := accept (.mark mark)

/-- Takes a word if it is next. -/
def acceptName (name : String) : Reader Bool := accept (.name name)

/-- Takes `token`, which must be next. -/
def expect (token : Token) : Reader Unit := do
  if ← accept token then pure () else failure

/-- Takes a mark, which must be next. -/
def expectMark (mark : String) : Reader Unit := expect (.mark mark)

/-- Takes a name, which must be next. -/
def takeName : Reader String := do
  match ← take with
  | .name name => pure name
  | _ => failure

/-- Whether a mark is next. -/
def atMark (mark : String) : Reader Bool := do pure ((← peek) == some (.mark mark))

/-- Reads something one level deeper. -/
def nested {α : Type} (read : Reader α) : Reader α := do
  let cursor ← get
  match cursor.room with
  | 0 => failure
  | room + 1 =>
    set { cursor with room := room }
    let value ← read
    modify fun after => { after with room := room + 1 }
    pure value

end Reader

open Reader

/-- The literal that a word stands for. -/
def literalWord? (name : String) : Option Datum :=
  match name with
  | "true" | "True" => some (.boolean true)
  | "false" | "False" => some (.boolean false)
  | "none" | "None" => some .nothing
  | _ => none

/-- The words that nothing can be assigned to. -/
def reservedNames : List String :=
  ["true", "True", "false", "False", "none", "None", "loop", "self"]

/-- The operators of one level of binding. -/
def operatorOf? (operators : List (String × Operator)) : Option Token → Option Operator
  | some (.mark mark) => operators.lookup mark
  | _ => none

/-- The operators of sums. -/
def sumOperators : List (String × Operator) := [("+", .add), ("-", .subtract)]

/-- The operator of concatenation. -/
def concatOperators : List (String × Operator) := [("~", .concatenate)]

/-- The operators of products. -/
def productOperators : List (String × Operator) :=
  [("*", .multiply), ("/", .divide), ("//", .floorDivide), ("%", .remainder)]

/-- The operator of powers. -/
def powerOperators : List (String × Operator) := [("**", .power)]

/-- The operators of comparisons. -/
def comparisonOperators : List (String × Operator) :=
  [("==", .equal), ("!=", .notEqual), ("<", .less), ("<=", .lessEqual), (">", .greater),
    (">=", .greaterEqual)]

/-- Whether a token after the name of a test begins its argument. -/
def beginsArgument : Option Token → Bool
  | some (.name name) => !(["and", "or", "else", "is", "if"].contains name)
  | some (.string _) | some (.integer _) | some (.real _) => true
  | some (.mark mark) => ["+", "-", "[", "\x7b"].contains mark
  | _ => false

/-- Levels of binding between two operands, loosest first. -/
def binaryLevels : List (List (String × Operator)) :=
  [sumOperators, concatOperators, productOperators, powerOperators]

mutual

/-- Reads an expression. -/
def readExpr (fuel : Nat) : Reader Expr :=
  match fuel with
  | 0 => failure
  | fuel + 1 => nested (readChoice fuel)

/-- Reads an expression that may have inline conditions. -/
def readChoice (fuel : Nat) : Reader Expr :=
  match fuel with
  | 0 => failure
  | fuel + 1 => do readChoices fuel (← readOr fuel)

/-- Reads the inline conditions after an expression. -/
def readChoices (fuel : Nat) (yes : Expr) : Reader Expr :=
  match fuel with
  | 0 => failure
  | fuel + 1 => do
    if ← acceptName "if" then
      let condition ← readOr fuel
      let no ← if ← acceptName "else" then readChoice fuel else pure (.literal .undefined)
      readChoices fuel (.choose condition yes no)
    else pure yes

/-- Reads operands joined by `or`. -/
def readOr (fuel : Nat) : Reader Expr :=
  match fuel with
  | 0 => failure
  | fuel + 1 => do readOrs fuel (← readAnd fuel)

/-- Reads further operands joined by `or`. -/
def readOrs (fuel : Nat) (left : Expr) : Reader Expr :=
  match fuel with
  | 0 => failure
  | fuel + 1 => do
    if ← acceptName "or" then readOrs fuel (.either left (← readAnd fuel)) else pure left

/-- Reads operands joined by `and`. -/
def readAnd (fuel : Nat) : Reader Expr :=
  match fuel with
  | 0 => failure
  | fuel + 1 => do readAnds fuel (← readNot fuel)

/-- Reads further operands joined by `and`. -/
def readAnds (fuel : Nat) (left : Expr) : Reader Expr :=
  match fuel with
  | 0 => failure
  | fuel + 1 => do
    if ← acceptName "and" then readAnds fuel (.both left (← readNot fuel)) else pure left

/-- Reads an operand that may be inverted. -/
def readNot (fuel : Nat) : Reader Expr :=
  match fuel with
  | 0 => failure
  | fuel + 1 => do
    if ← acceptName "not" then pure (.invert (← nested (readNot fuel)))
    else readComparisons fuel (← readBinary fuel binaryLevels)

/-- Reads the comparisons after an operand. -/
def readComparisons (fuel : Nat) (left : Expr) : Reader Expr :=
  match fuel with
  | 0 => failure
  | fuel + 1 => do
    match operatorOf? comparisonOperators (← peek) with
    | some operator =>
      let _ ← take
      readComparisons fuel (.binary operator left (← readBinary fuel binaryLevels))
    | none =>
      if ← acceptName "in" then
        readComparisons fuel (.binary .contained left (← readBinary fuel binaryLevels))
      else if ← acceptName "not" then
        expect (.name "in")
        let right ← readBinary fuel binaryLevels
        readComparisons fuel (.invert (.binary .contained left right))
      else pure left

/-- Reads operands joined by the operators of the given levels. -/
def readBinary (fuel : Nat) (levels : List (List (String × Operator))) : Reader Expr :=
  match fuel, levels with
  | 0, _ => failure
  | fuel + 1, [] => do
    let operand ← readSigned fuel
    readApplied fuel (← readPostfixes fuel operand)
  | fuel + 1, operators :: levels => do
    readBinaries fuel operators levels (← readBinary fuel levels)

/-- Reads further operands of one level. -/
def readBinaries (fuel : Nat) (operators : List (String × Operator))
    (levels : List (List (String × Operator))) (left : Expr) : Reader Expr :=
  match fuel with
  | 0 => failure
  | fuel + 1 => do
    match operatorOf? operators (← peek) with
    | some operator =>
      let _ ← take
      readBinaries fuel operators levels (.binary operator left (← readBinary fuel levels))
    | none => pure left

/-- Reads an operand with its signs. -/
def readSigned (fuel : Nat) : Reader Expr :=
  match fuel with
  | 0 => failure
  | fuel + 1 => do
    if ← acceptMark "-" then pure (.negate (← nested (readSigned fuel)))
    else nested (readPrimary fuel)

/-- Reads the attributes, items and calls after an operand. -/
def readPostfixes (fuel : Nat) (subject : Expr) : Reader Expr :=
  match fuel with
  | 0 => failure
  | fuel + 1 => do
    if ← acceptMark "." then
      match ← take with
      | .name name => readPostfixes fuel (.attribute subject name)
      | .integer n => readPostfixes fuel (.item subject (.literal (.integer n)))
      | _ => failure
    else if ← acceptMark "[" then readPostfixes fuel (← readSubscript fuel subject)
    else if ← atMark "(" then readPostfixes fuel (.call subject (← readArguments fuel))
    else pure subject

/-- Reads an item or a slice after its opening bracket. -/
def readSubscript (fuel : Nat) (subject : Expr) : Reader Expr :=
  match fuel with
  | 0 => failure
  | fuel + 1 => do
    let absent : Expr := .literal .nothing
    let start ← if ← atMark ":" then pure none else some <$> readExpr fuel
    if ← acceptMark ":" then
      let stop ←
        if (← atMark "]") || (← atMark ":") then pure absent else readExpr fuel
      let step ←
        if ← acceptMark ":" then
          if ← atMark "]" then pure absent else readExpr fuel
        else pure absent
      expectMark "]"
      pure (.slice subject (start.getD absent) stop step)
    else
      expectMark "]"
      match start with
      | some key => pure (.item subject key)
      | none => failure

/-- Reads the filters and tests after an operand. -/
def readApplied (fuel : Nat) (subject : Expr) : Reader Expr :=
  match fuel with
  | 0 => failure
  | fuel + 1 => do
    if ← acceptMark "|" then
      let name ← takeName
      let arguments ← if ← atMark "(" then readArguments fuel else pure []
      readApplied fuel (.filter name subject arguments)
    else if ← acceptName "is" then
      let inverted ← acceptName "not"
      let name ← takeName
      let arguments ←
        if ← atMark "(" then readArguments fuel
        else if beginsArgument (← peek) then
          let operand ← readSigned fuel
          pure [("", ← readPostfixes fuel operand)]
        else pure []
      let test : Expr := .test name subject arguments
      readApplied fuel (if inverted then .invert test else test)
    else pure subject

/-- Reads arguments in parentheses. -/
def readArguments (fuel : Nat) : Reader (List (String × Expr)) :=
  match fuel with
  | 0 => failure
  | fuel + 1 => do
    expectMark "("
    if ← acceptMark ")" then pure [] else readArgumentList fuel false

/-- Reads arguments from one on, up to the closing parenthesis; positional ones come first. -/
def readArgumentList (fuel : Nat) (named : Bool) : Reader (List (String × Expr)) :=
  match fuel with
  | 0 => failure
  | fuel + 1 => do
    let expr ← readExpr fuel
    let argument : String × Expr ←
      match expr with
      | .name name =>
        if ← acceptMark "=" then pure (name, ← readOr fuel)
        else if named then failure
        else pure ("", expr)
      | _ => if named then failure else pure ("", expr)
    if ← acceptMark ")" then pure [argument]
    else
      expectMark ","
      if ← acceptMark ")" then pure [argument]
      else pure (argument :: (← readArgumentList fuel (named || argument.1 != "")))

/-- Reads an operand without signs. -/
def readPrimary (fuel : Nat) : Reader Expr :=
  match fuel with
  | 0 => failure
  | fuel + 1 => do
    match ← take with
    | .name name => pure ((literalWord? name).elim (.name name) .literal)
    | .string s => pure (.literal (.text s))
    | .integer n => pure (.literal (.integer n))
    | .real x => pure (.literal (.real x))
    | .mark "(" =>
      if ← acceptMark ")" then pure (.list [])
      else
        let first ← readExpr fuel
        if ← acceptMark "," then
          let rest ← if ← acceptMark ")" then pure [] else readItems fuel ")"
          pure (.list (first :: rest))
        else
          expectMark ")"
          pure first
    | .mark "[" => if ← acceptMark "]" then pure (.list []) else pure (.list (← readItems fuel "]"))
    | .mark "\x7b" =>
      if ← acceptMark "\x7d" then pure (.table []) else pure (.table (← readEntries fuel))
    | _ => failure

/-- Reads items up to the closing bracket. -/
def readItems (fuel : Nat) (close : String) : Reader (List Expr) :=
  match fuel with
  | 0 => failure
  | fuel + 1 => do
    let item ← readExpr fuel
    if ← acceptMark close then pure [item]
    else
      expectMark ","
      if ← acceptMark close then pure [item] else pure (item :: (← readItems fuel close))

/-- Reads entries up to the closing brace. -/
def readEntries (fuel : Nat) : Reader (List (Expr × Expr)) :=
  match fuel with
  | 0 => failure
  | fuel + 1 => do
    let key ← readExpr fuel
    expectMark ":"
    let value ← readExpr fuel
    if ← acceptMark "\x7d" then pure [(key, value)]
    else
      expectMark ","
      if ← acceptMark "\x7d" then pure [(key, value)]
      else pure ((key, value) :: (← readEntries fuel))

end

mutual

/-- Reads what a loop assigns its items to. -/
def readTarget (fuel : Nat) : Reader Target :=
  match fuel with
  | 0 => failure
  | fuel + 1 => do
    let (targets, several) ← readTargets fuel
    match targets, several with
    | [only], false => pure only
    | _, _ => pure (.unpack targets)

/-- Reads targets with commas between them, and whether there was a comma. -/
def readTargets (fuel : Nat) : Reader (List Target × Bool) :=
  match fuel with
  | 0 => failure
  | fuel + 1 => do
    let next ← peek
    if next == some (.mark ")") || next == some .printEnd || next == some .blockEnd
        || next == some (.name "in") then
      pure ([], false)
    else
      let target ←
        if ← acceptMark "(" then
          let inner ← readTarget fuel
          expectMark ")"
          pure inner
        else
          let name ← takeName
          if reservedNames.contains name then failure else pure (.name name)
      if ← acceptMark "," then
        let (rest, _) ← readTargets fuel
        pure (target :: rest, true)
      else pure ([target], false)

end

/-- Reads the filters of a capture. -/
def readFilters (fuel : Nat) : Reader (List (String × List (String × Expr))) :=
  match fuel with
  | 0 => failure
  | fuel + 1 => do
    let name ← takeName
    let arguments ← if ← atMark "(" then readArguments fuel else pure []
    if ← acceptMark "|" then pure ((name, arguments) :: (← readFilters fuel))
    else pure [(name, arguments)]

/-- Reads the members after an assigned name, if there are any. -/
def readMembers (fuel : Nat) (name : String) : Reader Target :=
  match fuel with
  | 0 => failure
  | fuel + 1 => do
    if ← acceptMark "." then
      let _ ← takeName
      let _ ← readMembers fuel name
      pure .member
    else pure (.name name)

mutual

/-- Reads parts up to a block that begins with one of `stops`, or to the end.  The word that
begins that block is left to be read. -/
def readParts (fuel : Nat) (stops : List String) : Reader (List Part) :=
  match fuel with
  | 0 => failure
  | fuel + 1 => do
    match ← peek with
    | none => pure []
    | some (.text chars) =>
      let _ ← take
      pure (.text chars :: (← readParts fuel stops))
    | some .printStart =>
      let _ ← take
      let expr ← readExpr fuel
      expect .printEnd
      pure (.print expr :: (← readParts fuel stops))
    | some .blockStart =>
      let _ ← take
      match ← peek with
      | some (.name word) =>
        if stops.contains word then pure []
        else
          let part ← nested (readBlock fuel)
          expect .blockEnd
          pure (part :: (← readParts fuel stops))
      | _ => failure
    | some _ => failure

/-- Reads a block up to the end of its last delimiter. -/
def readBlock (fuel : Nat) : Reader Part :=
  match fuel with
  | 0 => failure
  | fuel + 1 => do
    match ← takeName with
    | "if" => readBranch fuel
    | "for" =>
      let target ← readTarget fuel
      expect (.name "in")
      let source ← readOr fuel
      let condition ← if ← acceptName "if" then some <$> readExpr fuel else pure none
      expect .blockEnd
      let body ← readParts fuel ["endfor", "else"]
      let otherwise ←
        if ← acceptName "else" then
          expect .blockEnd
          readParts fuel ["endfor"]
        else pure []
      let _ ← take
      pure (.loop target source condition body otherwise)
    | "set" => readAssignment fuel
    | _ => failure

/-- Reads a branch from its condition on. -/
def readBranch (fuel : Nat) : Reader Part :=
  match fuel with
  | 0 => failure
  | fuel + 1 => do
    let condition ← readExpr fuel
    expect .blockEnd
    let yes ← readParts fuel ["endif", "else", "elif"]
    match ← take with
    | .name "else" =>
      expect .blockEnd
      let no ← readParts fuel ["endif"]
      let _ ← take
      pure (.branch condition yes no)
    | .name "elif" =>
      let no ← nested (readBranch fuel)
      pure (.branch condition yes [no])
    | _ => pure (.branch condition yes [])

/-- Reads an assignment of an expression or of a body. -/
def readAssignment (fuel : Nat) : Reader Part :=
  match fuel with
  | 0 => failure
  | fuel + 1 => do
    if ← acceptMark "(" then
      let target ← readTarget fuel
      expectMark ")"
      expectMark "="
      pure (.assign target (← readExpr fuel))
    else
      let name ← takeName
      if reservedNames.contains name then failure
      else
        let target ← readMembers fuel name
        if ← acceptMark "=" then pure (.assign target (← readExpr fuel))
        else
          let filters ← if ← acceptMark "|" then readFilters fuel else pure []
          expect .blockEnd
          let body ← readParts fuel ["endset"]
          let _ ← take
          pure (.capture target filters body)

end

/-- The parts of a template; none if it has no such form. -/
def parts? (template : List Char) : Option (List Part) := do
  let tokens ← tokens template
  let (parts, rest) ← (readParts (40 * tokens.length + 40) []).run ⟨tokens, maxNesting⟩
  if rest.tokens.isEmpty then pure parts else failure

end Dialogue.Template
