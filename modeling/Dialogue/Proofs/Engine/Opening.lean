import Dialogue.Proofs.Engine.Story
import Dialogue.Proofs.Engine.Token

/-!
# Worlds that have just been opened

A world may be opened for any types of nodes, the standard ones or others.  What
holds of every world in which nothing has been done yet is said here, so that a
property of all that can be reached from there only has to be kept.
-/

namespace Dialogue.World

/-- A world with nothing in it but definitions of flows, for any types of nodes. -/
def openedWith (registry : Registry) (settings : Settings) (now : Instant) (flows : List Flow)
    (send : Ledger → String → Message → Except DispatchError String)
    (assign : Ledger → String → String → Except AssignmentError Unit)
    (supply : Supply) : World :=
  { opened settings now flows send assign supply with registry }

section

variable (registry : Registry) (settings : Settings) (start : Instant) (flows : List Flow)
  (send : Ledger → String → Message → Except DispatchError String)
  (assign : Ledger → String → String → Except AssignmentError Unit) (supply : Supply)

/-- Nothing is stored in it. -/
theorem find?_openedWith (id : Identifier) :
    (openedWith registry settings start flows send assign supply).store.find? id = none := rfl

theorem ready_openedWith :
    (openedWith registry settings start flows send assign supply).Ready :=
  ⟨⟨fun _ => rfl, rfl⟩, rfl⟩

theorem numbered_openedWith :
    (openedWith registry settings start flows send assign supply).Numbered := by
  intro id hid
  simp [find?_openedWith] at hid

theorem tracked_openedWith :
    (openedWith registry settings start flows send assign supply).Tracked := by
  rintro id token ⟨run, suspension, hrun, -⟩
  simp [find?_openedWith] at hrun

theorem chronicled_openedWith :
    (openedWith registry settings start flows send assign supply).Chronicled where
  told := ⟨fun _ _ => rfl, fun _ => Tale.orderly_nil⟩
  runs := by simp [find?_openedWith]
  apart := by simp [find?_openedWith]

end

end Dialogue.World
