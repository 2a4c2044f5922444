import Dialogue.Template.Filter
import Dialogue.Template.Reading

/-!
# Evaluating templates

The meaning of expressions and parts in a scope.  A name that nothing defines is
undefined, and so is anything looked up in it; everything else that makes no
sense fails the whole evaluation.
-/

namespace Dialogue.Template

/-- The names of one loop, or of the template itself. -/
structure Frame where
  names : List (String × Datum)
  /-- What `loop` means inside the loop. -/
  loop : Option Datum

/-- What names mean: frames from the innermost outwards, then the context. -/
structure Scope where
  frames : List Frame
  context : List (String × Datum)

namespace Scope

/-- The meaning of a name in a frame. -/
def inFrame? (frame : Frame) (name : String) : Option Datum :=
  (frame.names.lookup name).or (if name = "loop" then frame.loop else none)

/-- The meaning of a name. -/
def find? (scope : Scope) (name : String) : Option Datum :=
  (scope.frames.findSome? (inFrame? · name)).or (scope.context.lookup name)

/-- Gives a name a meaning in the innermost frame. -/
def define (name : String) (value : Datum) (scope : Scope) : Scope :=
  match scope.frames with
  | [] => { scope with frames := [⟨[(name, value)], none⟩] }
  | frame :: rest =>
    let others := frame.names.filter (·.1 != name)
    { scope with frames := { frame with names := (name, value) :: others } :: rest }

/-- Enters a frame. -/
def enter (frame : Frame) (scope : Scope) : Scope :=
  { scope with frames := frame :: scope.frames }

/-- Leaves the innermost frame. -/
def leave (scope : Scope) : Scope := { scope with frames := scope.frames.tail }

/-- Sets what `loop` means in the innermost frame. -/
def setLoop (loop : Datum) (scope : Scope) : Scope :=
  match scope.frames with
  | [] => scope
  | frame :: rest => { scope with frames := { frame with loop := some loop } :: rest }

end Scope

mutual

/-- The value of an expression. -/
def eval (scope : Scope) : Expr → Option Datum
  | .literal value => some value
  | .name name => some ((scope.find? name).getD .undefined)
  | .list items => do pure (.ofList (← evalAll scope items))
  | .table entries => do pure (.ofEntries (← evalEntries scope entries))
  | .attribute subject name => do pure ((← eval scope subject).get (.text name))
  | .item subject key => do
    let subject ← eval scope subject
    pure (subject.get (← eval scope key))
  | .slice subject start stop step => do
    let subject ← eval scope subject
    let start ← eval scope start
    let stop ← eval scope stop
    slice subject start stop (← eval scope step)
  | .negate operand => do negate (← eval scope operand)
  | .invert operand => do pure (.boolean !(← eval scope operand).truthy)
  | .binary operator left right => do
    let left ← eval scope left
    applyOperator operator left (← eval scope right)
  | .both left right => do
    let value ← eval scope left
    if value.truthy then eval scope right else pure value
  | .either left right => do
    let value ← eval scope left
    if value.truthy then pure value else eval scope right
  | .choose condition yes no => do
    if (← eval scope condition).truthy then eval scope yes else eval scope no
  | .filter name subject arguments => do
    let subject ← eval scope subject
    applyFilter name subject (sortArguments (← evalNamed scope arguments))
  | .test name subject arguments => do
    let subject ← eval scope subject
    (applyTest name subject (sortArguments (← evalNamed scope arguments))).map .boolean
  | .call callee arguments =>
    match callee with
    | .name "range" => do
      let arguments := sortArguments (← evalNamed scope arguments)
      if (scope.find? "range").isSome || !arguments.named.isEmpty then none
      else countFrom arguments.positional
    | _ => none

/-- The values of several expressions. -/
def evalAll (scope : Scope) : List Expr → Option (List Datum)
  | [] => some []
  | expr :: rest => do
    let value ← eval scope expr
    pure (value :: (← evalAll scope rest))

/-- The values of the keys and values of a table. -/
def evalEntries (scope : Scope) : List (Expr × Expr) → Option (List (Datum × Datum))
  | [] => some []
  | (key, value) :: rest => do
    let key ← eval scope key
    let value ← eval scope value
    pure ((key, value) :: (← evalEntries scope rest))

/-- The values of arguments. -/
def evalNamed (scope : Scope) : List (String × Expr) → Option (List (String × Datum))
  | [] => some []
  | (name, expr) :: rest => do
    let value ← eval scope expr
    pure ((name, value) :: (← evalNamed scope rest))

/-- Tells positional arguments from named ones. -/
def sortArguments (arguments : List (String × Datum)) : Arguments :=
  ⟨(arguments.filter (·.1.isEmpty)).map Prod.snd, arguments.filter (!·.1.isEmpty)⟩

end

mutual

/-- Assigns a datum to a target. -/
def assign (value : Datum) (scope : Scope) : Target → Option Scope
  | .name name => some (scope.define name value)
  | .unpack targets =>
    match value with
    | .list items _ => assignAll items scope targets
    | .table entries => assignAll (entries.map Prod.fst) scope targets
    | _ => none
  | .member => none

/-- Assigns data to as many targets. -/
def assignAll (values : List Datum) (scope : Scope) : List Target → Option Scope
  | [] => if values.isEmpty then some scope else none
  | target :: rest =>
    match values with
    | [] => none
    | value :: values => do assignAll values (← assign value scope target) rest

end

/-- An item of a loop with its place and its neighbours. -/
structure Turn where
  index : Nat
  item : Datum
  before : Datum
  after : Datum

/-- The turns of a loop over some items. -/
def turns (items : List Datum) : List Turn :=
  ((Datum.undefined :: items).zip (items.zip (items.drop 1 ++ [Datum.undefined]))).mapIdx
    fun index (before, item, after) => { index, item, before, after }

/-- What `loop` means at one turn of a loop of some length and depth. -/
def loopDatum (length depth : Nat) (turn : Turn) : Datum :=
  let number (n : Nat) : Datum := .integer n
  .ofEntries
    [(.text "index0", number turn.index), (.text "index", number (turn.index + 1)),
      (.text "length", number length), (.text "revindex", number (length - turn.index)),
      (.text "revindex0", number (length - turn.index - 1)),
      (.text "first", .boolean (turn.index == 0)),
      (.text "last", .boolean (turn.index + 1 == length)), (.text "depth", number (depth + 1)),
      (.text "depth0", number depth), (.text "previtem", turn.before),
      (.text "nextitem", turn.after)]

/-- The number of loops around a place. -/
def Scope.depth (scope : Scope) : Nat := (scope.frames.filter (·.loop.isSome)).length

/-- The items for which the condition of a loop holds. -/
def admitted (scope : Scope) (target : Target) (condition : Expr) (items : List Datum) :
    Option (List Datum) := do
  let (_, kept) ← items.foldlM (fun (scope, kept) item => do
    let scope ← assign item scope target
    let holds ← eval scope condition
    pure (scope, if holds.truthy then item :: kept else kept)) (scope.enter ⟨[], none⟩, [])
  pure kept.reverse

/-- Applies filters one after the other. -/
def applyFilters (scope : Scope) (value : Datum) :
    List (String × List (String × Expr)) → Option Datum
  | [] => some value
  | (name, arguments) :: rest => do
    let value ← applyFilter name value (sortArguments (← evalNamed scope arguments))
    applyFilters scope value rest

mutual

/-- The text of a part, and the scope after it. -/
def renderPart (scope : Scope) : Part → Option (List Char × Scope)
  | .text chars => some (chars, scope)
  | .print expr => do pure ((← eval scope expr).printed.toList, scope)
  | .branch condition yes no => do
    if (← eval scope condition).truthy then renderParts scope yes else renderParts scope no
  | .loop target source condition body otherwise => do
    let items ← (← eval scope source).items?
    let items ←
      match condition with
      | none => some items
      | some condition => admitted scope target condition items
    if items.isEmpty then renderParts scope otherwise
    else
      let loop := loopDatum items.length scope.depth
      let (texts, inside) ← (turns items).foldlM (fun (texts, scope) turn => do
        let scope ← assign turn.item (scope.setLoop (loop turn)) target
        let (text, scope) ← renderParts scope body
        pure (text :: texts, scope)) (([] : List (List Char)), scope.enter ⟨[], none⟩)
      pure (texts.reverse.flatten, inside.leave)
  | .assign target expr => do
    let value ← eval scope expr
    pure ([], ← assign value scope target)
  | .capture target filters body => do
    let (text, scope) ← renderParts scope body
    let value ← applyFilters scope (.text (String.ofList text)) filters
    pure ([], ← assign value scope target)

/-- The text of several parts, and the scope after them. -/
def renderParts (scope : Scope) : List Part → Option (List Char × Scope)
  | [] => some ([], scope)
  | part :: rest => do
    let (text, scope) ← renderPart scope part
    let (more, scope) ← renderParts scope rest
    pure (text ++ more, scope)

end

end Dialogue.Template
