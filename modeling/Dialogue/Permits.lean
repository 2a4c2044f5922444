import Dialogue.Run.Basic

/-!
# Permits

At most one operation at a time may work on the runs of a contact in a flow.  An
operation takes the permit of their key, at once or by waiting in a queue, and
gives it back when it is done.  A key is tracked from the first request for it
until its permit is given back and nobody waits.
-/

namespace Dialogue

/-- Who holds the permit of a key and who waits for it, first come first served. -/
structure PermitSlot (α : Type) where
  key : RunKey
  holder : Option α
  waiting : List α
  deriving Repr

/-- The tracked keys. -/
structure Permits (α : Type) where
  slots : List (PermitSlot α) := []
  deriving Repr

namespace Permits

variable {α : Type} [DecidableEq α]

/-- The slot of a key. -/
def slot? (permits : Permits α) (key : RunKey) : Option (PermitSlot α) :=
  permits.slots.find? (·.key == key)

/-- The holder of a key. -/
def holder? (permits : Permits α) (key : RunKey) : Option α :=
  (permits.slot? key).bind PermitSlot.holder

/-- Who waits for a key, first come first. -/
def waiting (permits : Permits α) (key : RunKey) : List α :=
  ((permits.slot? key).map PermitSlot.waiting).getD []

/-- The number of tracked keys. -/
def active (permits : Permits α) : Nat := permits.slots.length

/-- Replaces the slot of a key in a list of slots, or adds it at the end. -/
def putSlot (slot : PermitSlot α) : List (PermitSlot α) → List (PermitSlot α)
  | [] => [slot]
  | old :: rest => if old.key = slot.key then slot :: rest else old :: putSlot slot rest

/-- Replaces the slot of a key, or adds it. -/
def put (permits : Permits α) (slot : PermitSlot α) : Permits α := ⟨putSlot slot permits.slots⟩

/-- Forgets a key. -/
def drop (permits : Permits α) (key : RunKey) : Permits α :=
  ⟨permits.slots.filter (·.key != key)⟩

/-- Takes the permit of a key at once; none if it is held. -/
def tryAcquire (permits : Permits α) (who : α) (key : RunKey) : Option (Permits α) :=
  match permits.slot? key with
  | some ⟨_, some _, _⟩ => none
  | some ⟨_, none, waiting⟩ => some (permits.put ⟨key, some who, waiting⟩)
  | none => some (permits.put ⟨key, some who, []⟩)

/-- Takes the permit of a key, or waits for it behind whoever waits already. -/
def acquire (permits : Permits α) (who : α) (key : RunKey) : Permits α :=
  match permits.slot? key with
  | some ⟨_, some holder, waiting⟩ => permits.put ⟨key, some holder, waiting ++ [who]⟩
  | some ⟨_, none, waiting⟩ => permits.put ⟨key, some who, waiting⟩
  | none => permits.put ⟨key, some who, []⟩

/-- Gives the permit of a key back: the first who waits gets it, and if nobody waits the key is
forgotten. -/
def release (permits : Permits α) (key : RunKey) : Permits α :=
  match permits.slot? key with
  | some ⟨_, _, next :: waiting⟩ => permits.put ⟨key, some next, waiting⟩
  | some ⟨_, _, []⟩ => permits.drop key
  | none => permits

/-- Gives up waiting for a key. -/
def abandon (permits : Permits α) (who : α) (key : RunKey) : Permits α :=
  match permits.slot? key with
  | some slot => permits.put { slot with waiting := slot.waiting.filter (· != who) }
  | none => permits

/-- The key that someone holds. -/
def heldBy? (permits : Permits α) (who : α) : Option RunKey :=
  (permits.slots.find? (·.holder == some who)).map PermitSlot.key

/-- The key that someone waits for. -/
def awaitedBy? (permits : Permits α) (who : α) : Option RunKey :=
  (permits.slots.find? (·.waiting.contains who)).map PermitSlot.key

end Permits

end Dialogue
