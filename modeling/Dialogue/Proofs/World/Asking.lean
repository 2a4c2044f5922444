import Dialogue.Proofs.World.Acting

/-!
# What the collaborators are asked

The ledger of a world is only ever added to.  What was asked between two worlds
is what the ledger of the second one has got on top of that of the first.
-/

namespace Dialogue.World

/-- What the collaborators were asked between two worlds, in order. -/
def Asks (before : World) (asked : List Delivery) (after : World) : Prop :=
  after.ledger.entries.reverse = before.ledger.entries.reverse ++ asked

variable {first second third : World} {asked asked' : List Delivery}

/-- Nobody was asked anything where the ledger is the same. -/
theorem asks_nothing (h : second.ledger = first.ledger) : first.Asks [] second := by
  rw [Asks, h, List.append_nil]

/-- Nothing more was asked where the ledger stays the same. -/
theorem Asks.still (h : first.Asks asked second) (hledger : third.ledger = second.ledger) :
    first.Asks asked third := by
  rw [Asks, hledger]
  exact h

theorem Asks.trans (h : first.Asks asked second) (h' : second.Asks asked' third) :
    first.Asks (asked ++ asked') third := by
  rw [Asks, h', h, List.append_assoc]

/-- There is one answer to what was asked between two worlds. -/
theorem Asks.unique (h : first.Asks asked second) (h' : first.Asks asked' second) :
    asked = asked' := List.append_cancel_left (h.symm.trans h')

theorem asks_send (world : World) (contactId : String) (message : Message) :
    world.Asks [.sent contactId message (world.send contactId message).1]
      (world.send contactId message).2 := List.reverse_cons

theorem asks_assign (world : World) (contactId queue : String) :
    world.Asks [.assigned contactId queue (world.assign contactId queue).1]
      (world.assign contactId queue).2 := List.reverse_cons

/-- Whatever is answered, something was asked for, or nothing. -/
theorem asks_reply (call : Call) (world : World) :
    ∃ asked, world.Asks asked (reply call world).2 := by
  cases call with
  | send contactId message => exact ⟨_, world.asks_send contactId message⟩
  | assign contactId queue => exact ⟨_, world.asks_assign contactId queue⟩
  | _ => exact ⟨[], asks_nothing rfl⟩

theorem asks_act {α : Type} (world : World) (acting : Acting α) :
    ∃ asked, world.Asks asked (world.act acting).2 := by
  refine @Interaction.run_induction _ _ _ _ reply
    (fun before after => ∃ asked, before.Asks asked after) (fun _ => ⟨[], asks_nothing rfl⟩) ?_
    asks_reply acting world
  rintro first second third ⟨asked, h⟩ ⟨asked', h'⟩
  exact ⟨_, h.trans h'⟩

end Dialogue.World
