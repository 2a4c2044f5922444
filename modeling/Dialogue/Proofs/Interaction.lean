import Dialogue.Interaction

/-!
# Laws of interactions

Running a sequence of computations is running them one after the other.  The
laws are stated for both ways of running: with an answer to every request, and
until a request is not answered.
-/

namespace Dialogue.Interaction

variable {Q R : Type} {A : Q → Type} {B : R → Type} {α β σ : Type}

@[simp] theorem run_pure
    (answer : (q : Q) → σ → A q × σ) (value : α) (s : σ) :
    (pure value : Interaction Q A α).run answer s = (value, s) := rfl

@[simp] theorem run_request
    (answer : (q : Q) → σ → A q × σ) (q : Q) (s : σ) :
    (request q : Interaction Q A (A q)).run answer s = answer q s := rfl

/-- Running a sequence runs its second part from where the first has ended. -/
theorem run_bind
    (answer : (q : Q) → σ → A q × σ) (m : Interaction Q A α)
    (f : α → Interaction Q A β) (s : σ) :
    (m >>= f).run answer s =
      (f (m.run answer s).1).run answer (m.run answer s).2 := by
  induction m generalizing s with
  | done value => rfl
  | ask q next ih => exact ih (answer q s).1 (answer q s).2

/-- A relation that every answer keeps holds between the states around a run. -/
theorem run_induction
    {answer : (q : Q) → σ → A q × σ} {Rel : σ → σ → Prop}
    (refl : ∀ s, Rel s s) (trans : ∀ {s t u}, Rel s t → Rel t u → Rel s u)
    (step : ∀ q s, Rel s (answer q s).2) (m : Interaction Q A α) (s : σ) :
    Rel s (m.run answer s).2 := by
  induction m generalizing s with
  | done value => exact refl s
  | ask q next ih => exact trans (step q s) (ih (answer q s).1 (answer q s).2)

/-- A computation whose requests are relayed runs as it would on its own. -/
theorem run_relay
    {answer : (q : Q) → σ → A q × σ} {answer' : (r : R) → σ → B r × σ}
    {f : (q : Q) → Interaction R B (A q)}
    (step : ∀ q s, (f q).run answer' s = answer q s) (m : Interaction Q A α) (s : σ) :
    (m.relay f).run answer' s = m.run answer s := by
  induction m generalizing s with
  | done value => rfl
  | ask q next ih =>
      have h := run_bind answer' (f q) (fun a => (next a).relay f) s
      rw [step] at h
      exact h.trans (ih _ _)

/-- Sequences of computations may be grouped either way. -/
theorem bind_assoc {γ : Type} (m : Interaction Q A α) (f : α → Interaction Q A β)
    (g : β → Interaction Q A γ) : m >>= f >>= g = m >>= fun value => f value >>= g := by
  induction m with
  | done value => rfl
  | ask q next ih => exact congrArg (ask q) (funext ih)

/-! ## Transcripts -/

/-- What a computation asks for and is answered, where every request is answered at once. -/
def transcript (answer : (q : Q) → σ → A q × σ) : Interaction Q A α → σ → List ((q : Q) × A q)
  | done _, _ => []
  | ask q next, s => ⟨q, (answer q s).1⟩ :: (next (answer q s).1).transcript answer (answer q s).2

@[simp] theorem transcript_pure
    (answer : (q : Q) → σ → A q × σ) (value : α) (s : σ) :
    (pure value : Interaction Q A α).transcript answer s = [] := rfl

@[simp] theorem transcript_request
    (answer : (q : Q) → σ → A q × σ) (q : Q) (s : σ) :
    (request q : Interaction Q A (A q)).transcript answer s = [⟨q, (answer q s).1⟩] := rfl

/-- The transcript of a sequence is the transcripts of its parts. -/
theorem transcript_bind
    (answer : (q : Q) → σ → A q × σ) (m : Interaction Q A α) (f : α → Interaction Q A β) (s : σ) :
    (m >>= f).transcript answer s =
      m.transcript answer s ++
        (f (m.run answer s).1).transcript answer (m.run answer s).2 := by
  induction m generalizing s with
  | done value => rfl
  | ask q next ih => exact congrArg (List.cons _) (ih (answer q s).1 (answer q s).2)

/-- A computation whose requests are relayed one by one asks for nothing else. -/
theorem mem_transcript_relay {answer : (r : R) → σ → B r × σ} {f : (q : Q) → Interaction R B (A q)}
    {P : (r : R) × B r → Prop} (hstep : ∀ q s, ∀ x ∈ (f q).transcript answer s, P x)
    (m : Interaction Q A α) (s : σ) : ∀ x ∈ (m.relay f).transcript answer s, P x := by
  induction m generalizing s with
  | done value => exact fun x hx => absurd hx List.not_mem_nil
  | ask q next ih =>
      intro x hx
      have hsplit := transcript_bind answer (f q) (fun a => (next a).relay f) s
      rcases List.mem_append.mp (hsplit ▸ hx) with hx | hx
      · exact hstep q s x hx
      · exact ih _ _ x hx

/-! ## Running until a request is not answered -/

@[simp] theorem runUntilBlocked_pure
    (answer : (q : Q) → σ → Option (A q) × σ) (value : α) (s : σ) :
    (pure value : Interaction Q A α).runUntilBlocked answer s =
      (.done value, s) := rfl

/-- A request that is answered is followed by the rest of the computation. -/
theorem runUntilBlocked_request_bind
    {answer : (q : Q) → σ → Option (A q) × σ} {q : Q} {s t : σ} {a : A q}
    (h : answer q s = (some a, t)) (f : A q → Interaction Q A β) :
    ((request q : Interaction Q A (A q)) >>= f).runUntilBlocked answer s =
      (f a).runUntilBlocked answer t := by
  change (ask q f).runUntilBlocked answer s = _
  simp only [runUntilBlocked, h]

/-- The second part of a sequence begins where the first has ended. -/
theorem runUntilBlocked_bind
    {answer : (q : Q) → σ → Option (A q) × σ} {m : Interaction Q A α}
    {value : α} {s t : σ} (h : m.runUntilBlocked answer s = (.done value, t))
    (f : α → Interaction Q A β) :
    (m >>= f).runUntilBlocked answer s = (f value).runUntilBlocked answer t := by
  induction m generalizing s with
  | done v =>
      simp only [runUntilBlocked, Prod.mk.injEq, done.injEq] at h
      obtain ⟨rfl, rfl⟩ := h
      rfl
  | ask q next ih =>
      change (ask q fun a => (next a).andThen f).runUntilBlocked answer s = _
      simp only [runUntilBlocked] at h ⊢
      split at h
      · next a u ha => exact ih a h
      · simp at h

/-- A computation whose requests are relayed, each to one that is answered at
once, ends as if it had been run with these answers. -/
theorem runUntilBlocked_relay
    {answer : (q : Q) → σ → A q × σ} {answer' : (r : R) → σ → Option (B r) × σ}
    {f : (q : Q) → Interaction R B (A q)} (Good : σ → Prop)
    (step : ∀ q s, Good s → (f q).runUntilBlocked answer' s =
      (.done (answer q s).1, (answer q s).2))
    (keep : ∀ q s, Good s → Good (answer q s).2)
    (m : Interaction Q A α) {s : σ} (hs : Good s) :
    (m.relay f).runUntilBlocked answer' s =
      (.done (m.run answer s).1, (m.run answer s).2) := by
  induction m generalizing s with
  | done value => rfl
  | ask q next ih =>
      have h := runUntilBlocked_bind (step q s hs) fun a => (next a).relay f
      exact h.trans (ih (answer q s).1 (keep q s hs))

end Dialogue.Interaction
