import Dialogue.Step.Basic

/-!
# Asking a question

A menu sends its prompt, waits, and takes the answer when the run is resumed.  An
answer that fits no choice goes to the fallback, or else is noted and the wait
begins again.
-/

namespace Dialogue

/-- Whether two texts are equal but for the case of ASCII letters. -/
def sameWords (a b : String) : Bool := Text.asciiLower a == Text.asciiLower b

namespace Choice

/-- Whether a trimmed reply picks a choice, by its key or its label. -/
def fits (choice : Choice) (reply : String) : Bool :=
  sameWords (Text.trim choice.key) reply ||
    choice.label.any fun label => sameWords (Text.trim label) reply

/-- A choice as it is shown. -/
def line (choice : Choice) : String :=
  match choice.label with
  | some label => choice.key ++ " - " ++ label
  | none => choice.key

end Choice

namespace Menu

/-- The rendered prompt with a line for each choice. -/
def promptText (menu : Menu) (around : Surroundings) (level : Level) (prompt : String) : String :=
  menu.choices.foldl (fun text choice => text ++ "\n" ++ choice.line) (around.render level prompt)

/-- Waits for an answer, until the menu's own timeout or the general one. -/
def wait (menu : Menu) (around : Surroundings) (run : Run) : Acting Outcome := do
  let token ← Acting.newToken
  let expiresAt := (menu.timeout.or around.inputTimeout).map around.now.afterMillis
  return .suspend (.forReply token run.node around.now expiresAt)

/-- Keeps an answer in the menu's variable, if it has one. -/
def keep (menu : Menu) (run : Run) (answer : String) : Run :=
  match menu.saveAs with
  | some name =>
    run.onLevel fun l => { l with vars := l.vars.insert name (.string answer) }
  | none => run

/-- Deals with an answer that fits no choice. -/
def unmatched (menu : Menu) (around : Surroundings) (run : Run) (answer : String) :
    Acting (Outcome × Run) :=
  match menu.fallback with
  | some node => return (.go node, menu.keep run answer)
  | none => do
    let run := run.onLevel (·.note (.invalidSelection answer))
    return (← menu.wait around run, run)

/-- Takes a reply in free text. -/
def takeReply (menu : Menu) (around : Surroundings) (run : Run) (text : String) :
    Acting (Outcome × Run) :=
  let reply := Text.trim text
  if menu.choices.isEmpty then return (around.advance, menu.keep run reply)
  else
    match menu.choices.find? (·.fits reply) with
    | some choice => return (.go choice.next, menu.keep run reply)
    | none => menu.unmatched around run reply

/-- Takes the choice of a node. -/
def takeSelection (menu : Menu) (around : Surroundings) (run : Run) (node : NodeId) :
    Acting (Outcome × Run) :=
  match menu.choices.find? (·.next == node) with
  | some choice => return (.go node, menu.keep run choice.key)
  | none =>
    if menu.fallback == some node || (menu.choices.isEmpty && around.successor == some node) then
      return (.go node, run)
    else menu.unmatched around run node

/-- Asks, or takes the answer. -/
def step (menu : Menu) (around : Surroundings) (run : Run) :
    Option Payload → Acting (Outcome × Run)
  | some (.reply text) => menu.takeReply around run text
  | some (.select node) => menu.takeSelection around run node
  | some .elapsed => return (.fail .internal "menu cannot be resumed by a timer", run)
  | none => do
    match menu.prompt with
    | none => return (← menu.wait around run, run)
    | some prompt =>
      let message : Message := ⟨.text, menu.promptText around run.toLevel prompt, none⟩
      let (failed, run) ← around.deliver run 0 message menu.onError
      match failed with
      | some outcome => return (outcome, run)
      | none => return (← menu.wait around run, run)

end Menu

end Dialogue
