import Dialogue.Instant.Basic

/-!
# Laws of instants

Outside leap seconds instants are ordered as their nanoseconds since 1970, and a
delay after one of them is the exact sum, or the last instant where the sum lies
beyond it.  Neither of the two checks on the way loses a sum that has an instant,
and neither lets one through that has none.
-/

namespace Dialogue

namespace Span

/-- The length of a span in nanoseconds. -/
def total (span : Span) : Nat := span.seconds * Instant.second + span.nanos

/-- A delay fits into a span if it is not longer than the longest one. -/
theorem ofDelay?_eq (delay : Nat) :
    ofDelay? delay =
      if delay ≤ longest.total then some ⟨delay / Instant.second, delay % Instant.second⟩
      else none := by
  unfold ofDelay? total longest Instant.second
  by_cases hdelay :
      delay ≤ 0x7fffffffffffffff / 1000 * 1000000000 + 0x7fffffffffffffff % 1000 * 1000000
  · rw [if_pos hdelay, if_neg (by dsimp only; omega)]
  · rw [if_neg hdelay, if_pos (by dsimp only; omega)]

end Span

namespace Instant

variable {t u : Instant} {span : Span} {delay : Nat}

/-- An instant of the range of instants, and of no leap second. -/
structure Regular (t : Instant) : Prop where
  nanos_lt : t.nanos < second
  firstDay_le : firstDay ≤ t.seconds / 86400
  le_lastDay : t.seconds / 86400 ≤ lastDay

/-! ## The range of instants -/

theorem firstDay_eq : firstDay = -96465292 := by rfl

theorem lastDay_eq : lastDay = 95026236 := by rfl

theorem regular_last : last.Regular := by
  constructor
  · decide
  · decide
  · decide

/-- Outside leap seconds an instant is not later than another one if it has no more
nanoseconds. -/
theorem le_iff_total_le (ht : t.nanos < second) (hu : u.nanos < second) :
    t.le u = true ↔ t.total ≤ u.total := by
  unfold le total
  unfold second at *
  rw [Bool.or_eq_true, Bool.and_eq_true, decide_eq_true_eq, decide_eq_true_eq, beq_iff_eq]
  omega

/-- Some nanoseconds since 1970 are within the range if their day is. -/
theorem le_total_last_iff (n : Int) : n ≤ last.total ↔ n / second / 86400 ≤ lastDay := by
  unfold total last second
  dsimp only
  omega

theorem Regular.total_le_last (h : t.Regular) : t.total ≤ last.total := by
  have hseconds : t.total / second = t.seconds := by
    have hnanos := h.nanos_lt
    unfold total
    unfold second at *
    omega
  rw [le_total_last_iff, hseconds]
  exact h.le_lastDay

theorem total_ofTotal (n : Int) : (ofTotal n).total = n := by
  unfold ofTotal total second
  dsimp only
  omega

theorem regular_ofTotal {n : Int} (hfirst : t.Regular) (hle : t.total ≤ n)
    (hlast : n ≤ last.total) : (ofTotal n).Regular := by
  have hfirst := hfirst.firstDay_le
  constructor
  · unfold ofTotal second
    dsimp only
    omega
  · unfold total at hle
    unfold ofTotal
    unfold second at *
    dsimp only
    omega
  · exact (le_total_last_iff n).mp hlast

/-! ## Sums -/

/-- Of days that are not before the first one, only those past the last one are refused. -/
theorem dayAfter?_eq {day days : Int} (hday : firstDay ≤ day) (hdays : 0 ≤ days) :
    dayAfter? day days = if day + days ≤ lastDay then some (day + days) else none := by
  unfold dayAfter?
  rw [firstDay_eq] at *
  rw [lastDay_eq]
  by_cases hlast : day + days ≤ 95026236
  · rw [if_neg (by omega), if_neg (by omega), if_pos hlast]
  · rw [if_neg hlast]
    split
    · rfl
    · rw [if_pos (by omega)]

theorem nanosAfter_eq (ht : t.nanos < second) (span : Span) :
    t.nanosAfter span = t.nanos + span.nanos := by
  unfold nanosAfter
  rw [if_neg (by omega)]

/-- The seconds of a sum, with the full second among its nanoseconds. -/
theorem total_div_second (ht : t.nanos < second) (hspan : span.nanos < second) :
    (t.total + span.total) / second = t.seconds / 86400 * 86400 + t.secondsAfter span := by
  unfold total Span.total secondsAfter
  rw [nanosAfter_eq ht]
  unfold second at *
  split <;> omega

/-- The nanoseconds of a sum, without the full second among them. -/
theorem total_mod_second (ht : t.nanos < second) :
    ((t.total + span.total) % second).toNat = t.nanosAfter span % second := by
  unfold total Span.total
  rw [nanosAfter_eq ht]
  unfold second
  omega

/-- A span after an instant is the exact sum, unless that is beyond the last instant. -/
theorem plus?_eq (ht : t.Regular) (hspan : span.nanos < second) :
    t.plus? span =
      if t.total + span.total ≤ last.total then some (ofTotal (t.total + span.total))
      else none := by
  have hseconds := total_div_second ht.nanos_lt hspan
  have hnanos : ((t.total + span.total) % second).toNat = t.nanosAfter span % second :=
    total_mod_second ht.nanos_lt
  have hlater : 0 ≤ t.secondsAfter span / 86400 := by
    unfold secondsAfter
    split <;> omega
  have hday : (t.total + span.total) / second / 86400 =
      t.seconds / 86400 + t.secondsAfter span / 86400 := by
    rw [hseconds]
    omega
  unfold plus?
  rw [if_neg (by have := ht.nanos_lt; omega), dayAfter?_eq ht.firstDay_le hlater, ← hday]
  by_cases hlast : t.total + span.total ≤ last.total
  · rw [if_pos hlast, if_pos ((le_total_last_iff _).mp hlast), Option.map_some]
    unfold ofTotal
    rw [hnanos, hday, hseconds]
    congr 2
    omega
  · rw [if_neg hlast, if_neg fun h => hlast ((le_total_last_iff _).mpr h), Option.map_none]

/-- A delay after an instant is the exact sum, or the last instant where that lies beyond it. -/
theorem after_eq (ht : t.Regular) (delay : Nat) :
    t.after delay = if t.total + delay ≤ last.total then ofTotal (t.total + delay) else last := by
  unfold after
  rw [Span.ofDelay?_eq]
  by_cases hdelay : delay ≤ Span.longest.total
  · have htotal : Span.total ⟨delay / second, delay % second⟩ = delay := Nat.div_add_mod' _ _
    rw [if_pos hdelay, Option.bind_some, plus?_eq ht (Nat.mod_lt _ (by decide)), htotal]
    split <;> rfl
  · -- What the first check refuses reaches from the first day past the last one.
    have hbeyond : ¬ t.total + delay ≤ last.total := by
      have hfirst := ht.firstDay_le
      rw [firstDay_eq] at hfirst
      rw [le_total_last_iff, lastDay_eq]
      unfold Span.total Span.longest at hdelay
      unfold total
      unfold second at *
      dsimp only at hdelay
      omega
    rw [if_neg hdelay, if_neg hbeyond]
    rfl

/-- A delay after an instant is an instant, and its nanoseconds are the smaller of the exact sum
and those of the last instant. -/
theorem total_after (ht : t.Regular) (delay : Nat) :
    (t.after delay).Regular ∧ (t.after delay).total = min (t.total + delay) last.total := by
  rw [after_eq ht]
  by_cases hlast : t.total + delay ≤ last.total
  · rw [if_pos hlast, Int.min_eq_left hlast, total_ofTotal]
    exact ⟨regular_ofTotal ht (by omega) hlast, rfl⟩
  · rw [if_neg hlast, Int.min_eq_right (by omega)]
    exact ⟨regular_last, rfl⟩

/-- No instant is before itself with a delay. -/
theorem le_after (ht : t.Regular) (delay : Nat) : t.le (t.after delay) = true := by
  obtain ⟨hregular, htotal⟩ := total_after ht delay
  have hlast := ht.total_le_last
  rw [le_iff_total_le ht.nanos_lt hregular.nanos_lt, htotal]
  omega

/-- A longer delay after a later instant is not earlier. -/
theorem after_mono (ht : t.Regular) (hu : u.Regular) (htu : t.le u = true) {longer : Nat}
    (hdelay : delay ≤ longer) : (t.after delay).le (u.after longer) = true := by
  obtain ⟨hearly, hearlier⟩ := total_after ht delay
  obtain ⟨hlate, hlater⟩ := total_after hu longer
  rw [le_iff_total_le ht.nanos_lt hu.nanos_lt] at htu
  rw [le_iff_total_le hearly.nanos_lt hlate.nanos_lt, hearlier, hlater]
  omega

/-- Adding a span within the longest one, no seconds leave 63 bits and no nanoseconds 31. -/
theorem after_fits (ht : t.Regular) (h : Span.ofDelay? delay = some span) :
    0 ≤ t.secondsAfter span ∧ t.secondsAfter span ≤ 0x7fffffffffffffff ∧
      t.nanosAfter span ≤ 0x7fffffff := by
  rw [Span.ofDelay?_eq] at h
  split at h
  · next hdelay =>
    cases h
    have hnanos := ht.nanos_lt
    unfold Span.total Span.longest at hdelay
    unfold secondsAfter
    rw [nanosAfter_eq hnanos]
    unfold second at *
    dsimp only at *
    split <;> omega
  · cases h

end Instant

end Dialogue
