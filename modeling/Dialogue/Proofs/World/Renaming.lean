import Dialogue.Proofs.Step.Renaming
import Dialogue.Proofs.World.Telling

/-!
# Acting under other identifiers

Two worlds that give the same flows and whose collaborators give the same
answers differ, for a run, in the identifiers that they give out.  A renaming
that carries those of the one to those of the other carries what is done in the
one to what is done in the other.
-/

namespace Dialogue

namespace World

/-- Acting takes nothing back that was told or given out. -/
theorem ahead_act {α : Type} (world : World) (acting : Acting α) :
    world.Ahead (world.act acting).2 :=
  Interaction.run_induction Ahead.refl Ahead.trans ahead_reply acting world

/-- Acting goes on with the answer to its first call. -/
theorem act_ask {α : Type} (world : World) (call : Call) (next : call.Answer → Acting α)
    {answer : call.Answer} (hanswer : (reply call world).1 = answer) :
    world.act (.ask call next) = (reply call world).2.act (next answer) :=
  hanswer ▸ rfl

end World

/-- The answers of collaborators depend only on what they are asked. -/
structure Collaborators.Forgetful (collaborators : Collaborators) : Prop where
  send : ∀ ledger ledger', collaborators.send ledger = collaborators.send ledger'
  assign : ∀ ledger ledger', collaborators.assign ledger = collaborators.assign ledger'

/-- Two worlds answer alike, up to a renaming of the identifiers that they give out next; so many of
them at least are renamed. -/
structure Renaming.Carries (ρ : Renaming) (runs tokens : Nat) (world other : World) : Prop where
  flow : other.flow = world.flow
  collaborators : other.collaborators = world.collaborators
  forgetful : world.collaborators.Forgetful
  run : ∀ n, world.supply.runs + n < runs →
    ρ.run ⟨world.supply.firstRun + (world.supply.runs + n)⟩ =
      ⟨other.supply.firstRun + (other.supply.runs + n)⟩
  token : ∀ n, world.supply.tokens + n < tokens →
    ρ.token ⟨world.supply.firstToken + (world.supply.tokens + n)⟩ =
      ⟨other.supply.firstToken + (other.supply.tokens + n)⟩

namespace World

/-- As many identifiers were given out between two worlds as between two others. -/
structure Apace (before after before' after' : World) : Prop where
  runs : after'.supply.runs + before.supply.runs = after.supply.runs + before'.supply.runs
  tokens :
    after'.supply.tokens + before.supply.tokens = after.supply.tokens + before'.supply.tokens

/-- Giving out one more on both sides changes nothing. -/
theorem Apace.trans {first second third first' second' third' : World}
    (h : first.Apace second first' second') (h' : second.Apace third second' third') :
    first.Apace third first' third' where
  runs := by
    have := h.runs
    have := h'.runs
    omega
  tokens := by
    have := h.tokens
    have := h'.tokens
    omega

/-- Between two worlds no identifier was given out, and later calls are answered alike. -/
structure Unspent (before after : World) : Prop where
  flow : after.flow = before.flow
  collaborators : after.collaborators = before.collaborators
  supply : after.supply = before.supply

theorem unspent_look (world : World) (id : FlowId) : world.Unspent (world.look id).2 :=
  ⟨(later_look world id).flow, rfl, rfl⟩

/-- Where none was given out before, as many were given out as without that. -/
theorem Apace.unspent {before before' after other other' after' : World}
    (h : before'.Apace after other' after') (hbefore : before.Unspent before')
    (hother : other.Unspent other') : before.Apace after other after' where
  runs := by
    rw [← hbefore.supply, ← hother.supply]
    exact h.runs
  tokens := by
    rw [← hbefore.supply, ← hother.supply]
    exact h.tokens

end World

namespace Renaming.Carries

open World

variable {ρ : Renaming} {runs tokens : Nat} {world other : World}

theorem unspent {world' other' : World} (h : ρ.Carries runs tokens world other)
    (hworld : world.Unspent world') (hother : other.Unspent other') :
    ρ.Carries runs tokens world' other' where
  flow := by rw [hworld.flow, hother.flow, h.flow]
  collaborators := by rw [hworld.collaborators, hother.collaborators, h.collaborators]
  forgetful := by
    rw [hworld.collaborators]
    exact h.forgetful
  run := by
    rw [hworld.supply, hother.supply]
    exact h.run
  token := by
    rw [hworld.supply, hother.supply]
    exact h.token

theorem newRun (h : ρ.Carries runs tokens world other) :
    ρ.Carries runs tokens world.newRun.2 other.newRun.2 where
  flow := h.flow
  collaborators := h.collaborators
  forgetful := h.forgetful
  run := by
    intro n hn
    have hnext (k : Nat) : k + 1 + n = k + (n + 1) := by omega
    change world.supply.runs + 1 + n < runs at hn
    change ρ.run ⟨_ + (world.supply.runs + 1 + n)⟩ = ⟨_ + (other.supply.runs + 1 + n)⟩
    rw [hnext] at hn
    rw [hnext, hnext]
    exact h.run (n + 1) hn
  token := h.token

theorem newToken (h : ρ.Carries runs tokens world other) :
    ρ.Carries runs tokens world.newToken.2 other.newToken.2 where
  flow := h.flow
  collaborators := h.collaborators
  forgetful := h.forgetful
  run := h.run
  token := by
    intro n hn
    have hnext (k : Nat) : k + 1 + n = k + (n + 1) := by omega
    change world.supply.tokens + 1 + n < tokens at hn
    change ρ.token ⟨_ + (world.supply.tokens + 1 + n)⟩ = ⟨_ + (other.supply.tokens + 1 + n)⟩
    rw [hnext] at hn
    rw [hnext, hnext]
    exact h.token (n + 1) hn

/-- Computations that go the same way come to what belongs together, and give out as many
identifiers; the renaming has to cover all of them. -/
theorem act {α β : Type} {f : α → β} {m : Acting α} {m' : Acting β}
    (h : ρ.Carries runs tokens world other) (hm : Acting.Renames ρ f m m')
    (hruns : (world.act m).2.supply.runs ≤ runs)
    (htokens : (world.act m).2.supply.tokens ≤ tokens) :
    (other.act m').1 = f (world.act m).1 ∧
      ρ.Carries runs tokens (world.act m).2 (other.act m').2 ∧
      world.Apace (world.act m).2 other (other.act m').2 := by
  induction hm generalizing world other with
  | done value => exact ⟨rfl, h, ⟨Nat.add_comm .., Nat.add_comm ..⟩⟩
  | @emit event event' next next' rest ih =>
      have htold : world.Unspent (world.emit event) := ⟨rfl, rfl, rfl⟩
      have htold' : other.Unspent (other.emit event') := ⟨rfl, rfl, rfl⟩
      obtain ⟨hvalue, hcarries, hpace⟩ := ih (h.unspent htold htold') hruns htokens
      exact ⟨hvalue, hcarries, hpace.unspent htold htold'⟩
  | @newRun next next' rest ih =>
      have hlater : world.newRun.2.supply.runs ≤ runs :=
        Nat.le_trans (world.newRun.2.ahead_act (next world.newRun.1)).runs hruns
      have hid : ρ.run world.newRun.1 = other.newRun.1 := h.run 0 hlater
      obtain ⟨hvalue, hcarries, hpace⟩ := ih world.newRun.1 h.newRun hruns htokens
      rw [hid] at hvalue hcarries hpace
      have hone : world.Apace world.newRun.2 other other.newRun.2 :=
        ⟨by simp only [World.newRun, Supply.newRun]; omega, Nat.add_comm ..⟩
      exact ⟨hvalue, hcarries, hone.trans hpace⟩
  | @newToken next next' rest ih =>
      have hlater : world.newToken.2.supply.tokens ≤ tokens :=
        Nat.le_trans (world.newToken.2.later_act (next world.newToken.1)).tokens htokens
      have hid : ρ.token world.newToken.1 = other.newToken.1 := h.token 0 hlater
      obtain ⟨hvalue, hcarries, hpace⟩ := ih world.newToken.1 h.newToken hruns htokens
      rw [hid] at hvalue hcarries hpace
      have hone : world.Apace world.newToken.2 other other.newToken.2 :=
        ⟨Nat.add_comm .., by simp only [World.newToken, Supply.newToken]; omega⟩
      exact ⟨hvalue, hcarries, hone.trans hpace⟩
  | @flow id next next' rest ih =>
      have hloaded : (other.look id).1 = (world.look id).1 := congrFun h.flow id
      have hlook := unspent_look world id
      have hlook' := unspent_look other id
      obtain ⟨hvalue, hcarries, hpace⟩ := ih _ (h.unspent hlook hlook') hruns htokens
      rw [act_ask other (.flow id) next' hloaded]
      exact ⟨hvalue, hcarries, hpace.unspent hlook hlook'⟩
  | @send contactId message next next' rest ih =>
      have hresult : (other.send contactId message).1 = (world.send contactId message).1 := by
        change other.collaborators.send other.ledger contactId message =
          world.collaborators.send world.ledger contactId message
        rw [h.collaborators, h.forgetful.send other.ledger world.ledger]
      have hsend : world.Unspent (world.send contactId message).2 := ⟨rfl, rfl, rfl⟩
      have hsend' : other.Unspent (other.send contactId message).2 := ⟨rfl, rfl, rfl⟩
      obtain ⟨hvalue, hcarries, hpace⟩ := ih _ (h.unspent hsend hsend') hruns htokens
      rw [act_ask other (.send contactId message) next' hresult]
      exact ⟨hvalue, hcarries, hpace.unspent hsend hsend'⟩
  | @assign contactId queue next next' rest ih =>
      have hresult : (other.assign contactId queue).1 = (world.assign contactId queue).1 := by
        change other.collaborators.assign other.ledger contactId queue =
          world.collaborators.assign world.ledger contactId queue
        rw [h.collaborators, h.forgetful.assign other.ledger world.ledger]
      have hassign : world.Unspent (world.assign contactId queue).2 := ⟨rfl, rfl, rfl⟩
      have hassign' : other.Unspent (other.assign contactId queue).2 := ⟨rfl, rfl, rfl⟩
      obtain ⟨hvalue, hcarries, hpace⟩ := ih _ (h.unspent hassign hassign') hruns htokens
      rw [act_ask other (.assign contactId queue) next' hresult]
      exact ⟨hvalue, hcarries, hpace.unspent hassign hassign'⟩

end Renaming.Carries

end Dialogue
