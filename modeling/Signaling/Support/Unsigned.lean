import Mathlib

/-!
# Unsigned 64-bit counters

Counters are natural numbers. Addition that saturates at the largest 64-bit
value is written out; subtraction on naturals already stops at zero.
-/

namespace Signaling

/-- The largest unsigned 64-bit value. -/
def u64Max : Nat := 2 ^ 64 - 1

/-- Addition that stops at the largest 64-bit value. -/
def saturatingAdd (left right : Nat) : Nat :=
  min (left + right) u64Max

theorem saturatingAdd_le (left right : Nat) :
    saturatingAdd left right ≤ u64Max :=
  Nat.min_le_right _ _

theorem saturatingAdd_eq
    {left right : Nat}
    (fits : left + right ≤ u64Max) :
    saturatingAdd left right = left + right :=
  Nat.min_eq_left fits

end Signaling
