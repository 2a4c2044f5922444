import Dialogue.Flow

/-!
# Messages

What is sent to a contact, and what a node does when sending fails.
-/

namespace Dialogue

/-- The kind of a message. -/
inductive ContentKind where
  | text
  | image
  | audio
  | video
  | document
  deriving DecidableEq, Repr, Inhabited

namespace ContentKind

/-- The stored name of a kind. -/
def name : ContentKind → String
  | .text => "text"
  | .image => "image"
  | .audio => "audio"
  | .video => "video"
  | .document => "document"

/-- The title of a kind for people. -/
def title : ContentKind → String
  | .text => "Text"
  | .image => "Image"
  | .audio => "Audio"
  | .video => "Video"
  | .document => "Document"

/-- A kind from its stored form. -/
def decoder : Decoder ContentKind :=
  Decoder.choice ([ContentKind.text, .image, .audio, .video, .document].map fun k => ([k.name], k))

end ContentKind

/-- A message ready to be sent: a text, or the address of a medium with a caption. -/
structure Message where
  kind : ContentKind
  body : String
  caption : Option String := none
  deriving DecidableEq, Repr

namespace Message

/-- A message as it is stored. -/
def stored (message : Message) : Json :=
  .ofFields <| [("kind", .string message.kind.name), ("body", .string message.body)] ++
    optionalField "caption" (message.caption.map .string)

/-- The fields of a stored message. -/
def record : Record (ContentKind × String × Option String × Unit) :=
  .field "kind" [] none ContentKind.decoder <| .field "body" [] none .string <|
    .field "caption" [] (some none) (.nullable .string) .done

/-- A message from its stored form. -/
def decoder : Decoder Message :=
  (record.decoder "struct OutboundContent").map fun (kind, body, caption, _) =>
    ⟨kind, body, caption⟩

end Message

/-- What a node does when a collaborator fails. -/
inductive OnError where
  /-- Note the failure and go on. -/
  | proceed
  /-- Fail the run. -/
  | abort
  deriving DecidableEq, Repr

namespace OnError

/-- The stored name of a policy. -/
def name : OnError → String
  | .proceed => "continue"
  | .abort => "abort"

/-- A policy from its stored form. -/
def decoder : Decoder OnError :=
  Decoder.choice ([OnError.proceed, .abort].map fun p => ([p.name], p))

end OnError

end Dialogue
