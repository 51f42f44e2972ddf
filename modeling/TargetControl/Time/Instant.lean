import TargetControl.Time.Duration

/-!
The clock that waits with a limit go by.

Its moments are counted in nanoseconds from the first one, and their seconds fit in 63 bits.  So the
end of a long enough span is no moment of the clock.
-/

namespace TargetControl

def Duration.inNanos (d : Duration) : Nat := 1000000000 * d.seconds + d.nanos

/-- The number of moments. -/
def Instant.count : Nat := Nat.pow 2 63 * 1000000000

/-- A moment of the clock. -/
structure Instant where
  nanos : Nat
  lt_count : nanos < Instant.count
deriving DecidableEq

namespace Instant

def first : Instant := ⟨0, by decide⟩

/-- The moment at the end of a span that begins with this one, if there is such a moment. -/
def after? (i : Instant) (d : Duration) : Option Instant :=
  if h : i.nanos + d.inNanos < count then some ⟨i.nanos + d.inNanos, h⟩ else none

theorem after?_zero (i : Instant) : i.after? ⟨0, 0⟩ = some i := dif_pos i.lt_count

/-- The longest span ends after the last moment, whenever it begins. -/
theorem after?_longest (i : Instant) : i.after? .longest = none := by
  refine dif_neg (Nat.not_lt.mpr ?_)
  have hlong : count ≤ Duration.longest.inNanos := by decide
  omega

end Instant
end TargetControl
