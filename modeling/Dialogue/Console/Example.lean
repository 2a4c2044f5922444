import Dialogue.Flow

/-!
# The example flow

A flow for people to begin with: a greeting, a menu with a time limit, and an
end for each of its options.
-/

namespace Dialogue.Example

/-- An object with texts in its fields. -/
def object (fields : List (String × Value)) : Value := .object (Fields.ofList fields)

/-- A node with a configuration. -/
def node (id kind : String) (config : List (String × Value)) : Flow.Node :=
  { id, kind, config := Fields.ofList config }

/-- What the contact is greeted with. -/
def greeting : List Value :=
  [object [("value", .string "Hi \x7b\x7bvars.name\x7d\x7d!"), ("delay_ms", .ofInt 500)],
    object [("value", .string "How can we help today?")]]

/-- What the contact can choose from. -/
def choices : List Value :=
  [object [("key", .string "1"), ("label", .string "Talk to an agent"),
      ("next", .string "handoff")],
    object [("key", .string "2"), ("label", .string "Nothing, thanks"), ("next", .string "bye")]]

/-- The example flow. -/
def welcome : Flow :=
  let nodes := [
    node "start" "start" [],
    node "greet" "content" [("parts", .array greeting)],
    node "menu" "menu" [("prompt", .string "Choose an option:"), ("variable", .string "choice"),
      ("options", .array choices), ("timeout_ms", .ofInt 120000)],
    node "handoff" "assign_queue" [("queue_id", .string "support")],
    node "bye" "content" [("text", .string "Bye \x7b\x7bvars.name\x7d\x7d!")]]
  (({ id := "welcome", name := some "Welcome menu", nodes } : Flow).connect "start" "greet").connect
    "greet" "menu"

end Dialogue.Example
