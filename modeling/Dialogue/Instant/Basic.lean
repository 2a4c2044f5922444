import Dialogue.Instant.Calendar

/-!
# Instants

A point in time as whole seconds since the beginning of 1970 and nanoseconds
within the second.  During a leap second the nanoseconds go on past one billion.
The range of instants is bounded, and adding a delay saturates at its end.  Two
checks stand on the way there: a delay has to fit into a span, and the day of the
sum has to be one that the calendar goes to.
-/

namespace Dialogue

/-- A point in time. -/
structure Instant where
  seconds : Int
  nanos : Nat
  deriving DecidableEq, Repr, Inhabited

namespace Instant

/-- Nanoseconds in a second. -/
def second : Nat := 1000000000

/-- The last year that has instants. -/
def lastYear : Int := 262142

/-- The first year that has instants. -/
def firstYear : Int := -262143

/-- The first day that has instants, counted from the first day of 1970. -/
def firstDay : Int := Calendar.Date.toDays ⟨firstYear, 1, 1⟩

/-- The last day that has instants, counted from the first day of 1970. -/
def lastDay : Int := Calendar.Date.toDays ⟨lastYear, 12, 31⟩

/-- The last instant. -/
def last : Instant := ⟨(lastDay + 1) * 86400 - 1, second - 1⟩

/-- The order of instants. -/
def le (a b : Instant) : Bool :=
  a.seconds < b.seconds || (a.seconds == b.seconds && a.nanos ≤ b.nanos)

/-- Outside leap seconds an instant is a number of nanoseconds since 1970. -/
def total (t : Instant) : Int := t.seconds * second + t.nanos

/-- The instant a number of nanoseconds since 1970. -/
def ofTotal (n : Int) : Instant := ⟨n / second, (n % second).toNat⟩

end Instant

/-- A length of time that can be added to an instant: whole seconds, and nanoseconds of one more. -/
structure Span where
  seconds : Nat
  nanos : Nat
  deriving DecidableEq, Repr

namespace Span

/-- The longest span, of as many milliseconds as fit into 63 bits. -/
def longest : Span := ⟨0x7fffffffffffffff / 1000, 0x7fffffffffffffff % 1000 * 1000000⟩

/-- A delay of some nanoseconds as a span, unless it is longer than the longest one. -/
def ofDelay? (delay : Nat) : Option Span :=
  let span : Span := ⟨delay / Instant.second, delay % Instant.second⟩
  if longest.seconds < span.seconds ∨
      (span.seconds = longest.seconds ∧ longest.nanos < span.nanos) then none
  else some span

end Span

namespace Instant

/-- The day a number of days after another one, unless the number does not fit into 32 bits or the
calendar does not go that far. -/
def dayAfter? (day days : Int) : Option Int :=
  if days < -0x80000000 ∨ 0x7fffffff < days then none
  else if day + days < firstDay ∨ lastDay < day + days then none
  else some (day + days)

/-- The nanoseconds of a sum before a full second among them is carried.  A leap second counts as
the second before it, once it is left. -/
def nanosAfter (t : Instant) (span : Span) : Nat :=
  (if second ≤ t.nanos then t.nanos - second else t.nanos) + span.nanos

/-- The seconds of a sum, counted from the midnight before the instant. -/
def secondsAfter (t : Instant) (span : Span) : Int :=
  t.seconds % 86400 + span.seconds + if second ≤ t.nanosAfter span then 1 else 0

/-- A span after an instant, unless no instant is that late.  A leap second is left by any whole
second and by a fraction that does not fit in it. -/
def plus? (t : Instant) (span : Span) : Option Instant :=
  if second ≤ t.nanos ∧ span.seconds = 0 ∧ t.nanos + span.nanos < 2 * second then
    some ⟨t.seconds, t.nanos + span.nanos⟩
  else
    (dayAfter? (t.seconds / 86400) (t.secondsAfter span / 86400)).map fun day =>
      ⟨day * 86400 + t.secondsAfter span % 86400, t.nanosAfter span % second⟩

/-- A delay in nanoseconds after an instant, or the last instant where the delay is too long for a
span or the sum too late for an instant. -/
def after (t : Instant) (delay : Nat) : Instant :=
  ((Span.ofDelay? delay).bind t.plus?).getD last

/-- An instant a number of milliseconds after `t`, or the last instant. -/
def afterMillis (t : Instant) (millis : Nat) : Instant := t.after (millis * 1000000)

/-- The day an instant lies in. -/
def date (t : Instant) : Calendar.Date := Calendar.Date.ofDays (t.seconds / 86400)

/-- The seconds since midnight. -/
def secondOfDay (t : Instant) : Nat := (t.seconds % 86400).toNat

end Instant

end Dialogue
