import Dialogue.Proofs.Engine.Effect
import Dialogue.Proofs.Engine.Smooth

/-!
# Worlds that serve

A world serves if its store is in order and no collaborator makes anyone wait; who
holds which permit is left open.  Every world that is reached from an empty one is
of this kind, also while operations are in progress.  An operation that takes a
free permit does in it what it does where there are no permits at all.
-/

namespace Dialogue

namespace World

variable {α : Type} {world : World}

/-- The store is in order, no collaborator makes anyone wait, and every tracked key is held. -/
structure Serving (world : World) : Prop where
  holds : ∀ message, world.collaborators.holds message = false
  store : world.store.outage = {}
  held : world.permits.Held

/-- Answering anything leaves a world that serves. -/
theorem Serving.answer (h : world.Serving) (who : Ticket) (q : Request) :
    (world.answer who q).2.Serving := by
  cases hpermit : q.forPermit with
  | false =>
      rw [answer_eq_attend who h.holds hpermit]
      have honward := onward_attend q world
      refine ⟨?_, honward.outage.trans h.store, ?_⟩
      · rw [honward.collaborators]
        exact h.holds
      · rw [honward.permits]
        exact h.held
  | true =>
      cases q with
      | tryLock key =>
          unfold World.answer
          dsimp only
          split
          · next htaken => exact ⟨h.holds, h.store, h.held.tryAcquire htaken⟩
          · exact h
      | lock key =>
          refine ⟨h.holds, h.store, ?_⟩
          unfold World.answer
          dsimp only
          split
          · exact h.held
          · exact h.held.acquire who key
      | unlock key => exact ⟨h.holds, h.store, h.held.release key⟩
      | _ => simp [Request.forPermit] at hpermit

theorem Serving.atTime (h : world.Serving) (now : Instant) :
    ({ world with bounds := { world.bounds with now } } : World).Serving :=
  ⟨h.holds, h.store, h.held⟩

/-- A key is tracked while somebody holds it. -/
theorem Serving.slot?_none (h : world.Serving) {key : RunKey}
    (hfree : world.permits.holder? key = none) : world.permits.slot? key = none :=
  h.held.slot?_none hfree

end World

namespace Operating

variable {α β : Type} {world : World}

/-- Work with a permit that is not waited for is refused, or done as if there were no permits. -/
theorem proceed_holdingIfFree_serving {work : Operating α} (hwork : Lockless work)
    (who : Ticket) (hworld : world.Serving) (key : RunKey) (busy : α) :
    world.proceed who (holdingIfFree key busy work) =
      if (world.permits.holder? key).isSome then (.done busy, world)
      else (.done (world.obey work).1, (world.obey work).2) := by
  by_cases hheld : (world.permits.holder? key).isSome = true
  · have hlock : World.answer who (.tryLock key) world = (some false, world) := by
      simp only [World.answer, Permits.tryAcquire_held hheld]
      rfl
    rw [if_pos hheld]
    exact Interaction.runUntilBlocked_request_bind hlock _
  · rw [if_neg hheld]
    exact proceed_holdingIfFree hwork who hworld.holds
      (hworld.slot?_none (Option.not_isSome_iff_eq_none.mp hheld)) busy

/-- Work with a permit that may have to be waited for is left waiting, or it comes to what it comes
to where there are no permits. -/
theorem proceed_holding_cases {work : Operating α} (hwork : Lockless work) (who : Ticket)
    (hworld : world.Serving) (key : RunKey) :
    (∃ next after, world.proceed who (holding key work) = (.ask (.lock key) next, after)) ∨
      ∃ after, world.proceed who (holding key work) = (.done (world.obey work).1, after) := by
  rcases hanswer : world.answer who (.lock key) with ⟨answer, locked⟩
  have hlocked : ∃ permits, locked = world.withPermits permits :=
    ⟨_, (congrArg Prod.snd hanswer).symm⟩
  cases answer with
  | none =>
      have hblocked : world.proceed who (holding key work) = (holding key work, locked) := by
        change Interaction.runUntilBlocked (World.answer who) (.ask (.lock key) _) world = _
        simp only [Interaction.runUntilBlocked, hanswer]
        rfl
      exact .inl ⟨_, locked, hblocked⟩
  | some answer =>
      obtain ⟨permits, rfl⟩ := hlocked
      have hdone := hwork who (world.withPermits permits) hworld.holds
      rw [World.obey_withPermits] at hdone
      refine .inr ⟨(world.obey work).2.withPermits (permits.release key), ?_⟩
      exact (Interaction.runUntilBlocked_request_bind hanswer _).trans
        (Interaction.runUntilBlocked_bind hdone _)

end Operating

/-! ## What a call may come to among others -/

/-- Whether a request changes nothing but who holds which permit and which flows are loaded. -/
def Request.isInquiry : Request → Bool
  | .call (.flow _) | .load _ | .list _ | .tryLock _ | .lock _ | .unlock _ => true
  | _ => false

/-- Whether a request asks a collaborator for something. -/
def Request.isDelivery : Request → Bool
  | .call (.send ..) | .call (.assign ..) => true
  | _ => false

namespace Operating

variable {α β : Type} {who : Ticket} {requests : List Request}

/-- An operation may make these requests and end with this value, where every request is answered in
a world that serves.  Others may do anything to the world between one request and the next. -/
inductive Yields (who : Ticket) : Operating α → List Request → α → Prop
  | done (value : α) : Yields who (.done value) [] value
  | ask {q next answer rest value} {world : World} (serving : world.Serving)
      (answered : (world.answer who q).1 = some answer)
      (more : Yields who (next answer) rest value) :
      Yields who (.ask q next) (q :: rest) value

theorem Yields.of_pure {value result : α}
    (h : Yields who (pure value : Operating α) requests result) :
    result = value ∧ requests = [] := by
  cases h
  exact ⟨rfl, rfl⟩

/-- What a sequence of operations yields is yielded by its parts. -/
theorem Yields.of_bind {m : Operating α} {f : α → Operating β} {result : β}
    (h : Yields who (m >>= f) requests result) :
    ∃ first second value, Yields who m first value ∧ Yields who (f value) second result ∧
      requests = first ++ second := by
  induction m generalizing requests with
  | done value => exact ⟨[], requests, value, .done value, h, rfl⟩
  | ask q next ih =>
      cases h with
      | ask serving answered more =>
          obtain ⟨first, second, value, hfirst, hsecond, rfl⟩ := ih _ more
          exact ⟨q :: first, second, value, .ask serving answered hfirst, hsecond, rfl⟩

theorem Yields.of_request {q : Request} {answer : q.Answer}
    (h : Yields who (request q) requests answer) :
    requests = [q] ∧ ∃ world : World, world.Serving ∧ (world.answer who q).1 = some answer := by
  cases h with
  | ask serving answered more =>
      cases more
      exact ⟨rfl, _, serving, answered⟩

/-- Work with a permit is done between taking it and giving it back. -/
theorem Yields.of_holding {key : RunKey} {work : Operating α} {result : α}
    (h : Yields who (holding key work) requests result) :
    ∃ inner, Yields who work inner result ∧ requests = .lock key :: inner ++ [.unlock key] := by
  obtain ⟨taking, rest, ⟨⟩, htaking, hrest, rfl⟩ := h.of_bind
  obtain ⟨inner, last, value, hwork, hlast, rfl⟩ := hrest.of_bind
  obtain ⟨giving, nothing, ⟨⟩, hgiving, hnothing, rfl⟩ := hlast.of_bind
  obtain ⟨rfl, rfl⟩ := hnothing.of_pure
  exact ⟨inner, hwork, by simp [htaking.of_request.1, hgiving.of_request.1]⟩

/-- Work with a permit that is not waited for is refused, or done between taking it and giving it
back. -/
theorem Yields.of_holdingIfFree {key : RunKey} {busy : α} {work : Operating α} {result : α}
    (h : Yields who (holdingIfFree key busy work) requests result) :
    (result = busy ∧ requests = [.tryLock key]) ∨
      ∃ inner, Yields who work inner result ∧
        requests = .tryLock key :: inner ++ [.unlock key] := by
  obtain ⟨taking, rest, free, htaking, hrest, rfl⟩ := h.of_bind
  cases free with
  | false =>
      obtain ⟨rfl, rfl⟩ := hrest.of_pure
      exact .inl ⟨rfl, by simp [htaking.of_request.1]⟩
  | true =>
      obtain ⟨inner, last, value, hwork, hlast, rfl⟩ := hrest.of_bind
      obtain ⟨giving, nothing, ⟨⟩, hgiving, hnothing, rfl⟩ := hlast.of_bind
      obtain ⟨rfl, rfl⟩ := hnothing.of_pure
      exact .inr ⟨inner, hwork, by simp [htaking.of_request.1, hgiving.of_request.1]⟩

/-- What an operation comes to when it is left alone is among what it may yield. -/
theorem yields_of_proceed {operation : Operating α} {world after : World} {value : α}
    (hworld : world.Serving) (h : world.proceed who operation = (.done value, after)) :
    ∃ requests, Yields who operation requests value := by
  induction operation generalizing world with
  | done value' =>
      obtain rfl := Interaction.done.inj (Prod.mk.inj h).1
      exact ⟨[], .done _⟩
  | ask q next ih =>
      simp only [World.proceed, Interaction.runUntilBlocked] at h
      split at h
      · next answer world' heq =>
        have hnext := hworld.answer who q
        rw [heq] at hnext
        obtain ⟨rest, hrest⟩ := ih answer hnext h
        exact ⟨q :: rest, .ask hworld (by rw [heq]) hrest⟩
      · simp at h

end Operating

end Dialogue
