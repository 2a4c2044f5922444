import Dialogue.Template.Evaluation
import Dialogue.Instant.Written

/-!
# Rendering templates

Texts that flows send may hold templates.  Rendering is total: a text without
delimiters stays as it is, and so does one that is no template or fails to
evaluate.
-/

namespace Dialogue

/-- What a template can see: the variables by themselves and under `vars`, the attributes of the
contact under `contact`, and the instant under `now`. -/
structure View where
  contactId : String
  contact : Values
  vars : Values
  now : Instant

namespace View

open Template

/-- The entries of `now`. -/
def nowDatum (now : Instant) : Datum :=
  .ofEntries [(.text "iso", .text (now.write "+00:00")), (.text "date", .text now.dateText),
    (.text "time", .text now.clockText), (.text "timestamp", .integer now.seconds)]

/-- The names a template can see. -/
def context (view : View) : List (String × Datum) :=
  let vars := view.vars.map fun (name, value) => (name, Datum.ofValue value)
  let contact := view.contact.insert "id" (.string view.contactId)
  [("vars", .ofValue (.object view.vars)), ("contact", .ofValue (.object contact)),
    ("now", nowDatum view.now)] ++ vars

/-- The scope a template begins in. -/
def scope (view : View) : Scope := ⟨[⟨[], none⟩], view.context⟩

/-- Whether a text has an opening delimiter for printing or for statements. -/
def hasDelimiter (template : List Char) : Bool :=
  Text.hasPart ['\x7b', '\x7b'] template || Text.hasPart ['\x7b', '%'] template

/-- The rendered characters of a template; none if it is no template or fails. -/
def render? (view : View) (template : List Char) : Option (List Char) := do
  let parts ← parts? template
  let (text, _) ← renderParts view.scope parts
  pure text

/-- Renders a template. -/
def render (view : View) (template : String) : String :=
  if hasDelimiter template.toList then
    ((view.render? template.toList).map String.ofList).getD template
  else template

end View

end Dialogue
