import Dialogue.Proofs.Instant
import Dialogue.Proofs.Step.Visit

/-!
# When pauses end

A pause that ends without anybody's help ends at a delay after it was set: the
length of a wait, or the timeout of a question.  The sum of the two saturates at
the last instant, so a longer delay that is set later never ends a pause earlier.
-/

namespace Dialogue

/-- A delay after an instant is their sum, or the last instant where the sum lies beyond it. -/
structure Instant.Saturates (t : Instant) (delay : Nat) : Prop where
  /-- The sum is exact in nanoseconds, up to the last instant. -/
  total : (t.after delay).total = min (t.total + delay) Instant.last.total
  /-- It is an instant. -/
  regular : (t.after delay).Regular
  /-- It is not earlier than the instant before the delay. -/
  later : t.le (t.after delay) = true
  /-- On the way to it no count of seconds leaves 63 bits, and none of nanoseconds 31. -/
  fits : ∀ span, Span.ofDelay? delay = some span →
    0 ≤ t.secondsAfter span ∧ t.secondsAfter span ≤ 0x7fffffffffffffff ∧
      t.nanosAfter span ≤ 0x7fffffff

/-- An outcome that is a pause until an instant, unless something else ends it before. -/
def Outcome.PausesUntil (outcome : Outcome) (time : Instant) : Prop :=
  ∃ suspension : Suspension,
    outcome = .suspend suspension ∧ suspension.resumeAt?.or suspension.expiresAt = some time

/-- The pauses that a step may set at an instant for a number of milliseconds. -/
inductive PausesFor (t : Instant) (millis : Nat) : Outcome → Prop where
  /-- A wait for time to pass. -/
  | sleep (around : Surroundings) (world : World) (hnow : around.now = t) :
      PausesFor t millis (world.act (around.sleep millis)).1
  /-- A wait for a reply, with the timeout of the menu or the general one. -/
  | wait (around : Surroundings) (world : World) (menu : Menu) (run : Run) (hnow : around.now = t)
      (htimeout : menu.timeout.or around.inputTimeout = some millis) :
      PausesFor t millis (world.act (menu.wait around run)).1

theorem PausesFor.pausesUntil {t : Instant} {millis : Nat} {outcome : Outcome}
    (h : PausesFor t millis outcome) : outcome.PausesUntil (t.afterMillis millis) := by
  cases h with
  | sleep around world hnow =>
    rw [around.act_sleep, hnow]
    exact ⟨_, rfl, rfl⟩
  | wait around world menu run hnow htimeout =>
    rw [menu.act_wait, hnow, htimeout]
    exact ⟨_, rfl, rfl⟩

/-- Adding a delay saturates: the sum is exact up to the last instant, is never earlier than what
it was added to, and grows with both.  So of two pauses the one that is set no earlier and for no
fewer milliseconds never ends before the other. -/
theorem delays_saturate {t u : Instant} (ht : t.Regular) (hu : u.Regular) (htu : t.le u = true)
    {delay longer : Nat} (hdelay : delay ≤ longer) :
    t.Saturates delay ∧ (t.after delay).le (u.after longer) = true ∧
    ∀ millis more : Nat, millis ≤ more → ∀ early late : Outcome,
      PausesFor t millis early → PausesFor u more late →
      ∃ first second : Instant, early.PausesUntil first ∧ late.PausesUntil second ∧
        first.total = min (t.total + millis * 1000000) Instant.last.total ∧
        first.le second = true := by
  obtain ⟨hregular, htotal⟩ := Instant.total_after ht delay
  refine ⟨⟨htotal, hregular, Instant.le_after ht delay, fun _ => Instant.after_fits ht⟩,
    Instant.after_mono ht hu htu hdelay, ?_⟩
  intro millis more hmillis early late hearly hlate
  refine ⟨_, _, hearly.pausesUntil, hlate.pausesUntil, ?_, ?_⟩
  · exact (Instant.total_after ht (millis * 1000000)).2
  · apply Instant.after_mono ht hu htu
    exact Nat.mul_le_mul_right 1000000 hmillis

/-- A nanosecond that carries over to the next second, and a delay that is longer than any span. -/
theorem delays_saturate_sample :
    let endless := 0xffffffffffffffff * Instant.second + 999999999
    (Instant.after ⟨0, 999999999⟩ 1 = ⟨1, 0⟩ ∧ Instant.after ⟨1, 0⟩ endless = Instant.last) ∧
      Instant.Saturates ⟨0, 999999999⟩ 1 ∧
      (Instant.after ⟨0, 999999999⟩ 1).le (Instant.after ⟨1, 0⟩ endless) := by
  intro endless
  have h := delays_saturate (t := ⟨0, 999999999⟩) (u := ⟨1, 0⟩)
    ⟨by decide, by decide, by decide⟩ ⟨by decide, by decide, by decide⟩ (by decide)
    (show 1 ≤ endless by decide)
  exact ⟨⟨by decide, by decide⟩, h.1, h.2.1⟩

end Dialogue
