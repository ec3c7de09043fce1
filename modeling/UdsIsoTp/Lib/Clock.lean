import Mathlib.Algebra.Order.Group.Nat

/-!
# Wrap-around clocks

A 32-bit tick counter wraps. A deadline is compared with the counter through
the sign of their difference, `(int32_t)(now - deadline) >= 0`, which is right
as long as the two lie within half the counter's range of one another.

`expired` is that comparison. The lemmas relate it to a clock that does not
wrap: when `now` and the deadline are the images of natural numbers, a deadline
that has not been reached is not reported as reached, up to the half range.
-/

namespace UdsIsoTp

/-- `(int32_t)(now - deadline) >= 0` on 32-bit counters. -/
def expired (now deadline : UInt32) : Bool :=
  (now - deadline).toNat < 2 ^ 31

/-- The 32-bit counter's reading at time `t`. -/
def tick32 (t : Nat) : UInt32 := UInt32.ofNat t

theorem toNat_tick32 (t : Nat) : (tick32 t).toNat = t % 2 ^ 32 := by
  simp [tick32]

theorem tick32_add (t d : Nat) : tick32 (t + d) = tick32 t + tick32 d := by
  simp [tick32, UInt32.ofNat_add]

theorem expired_self (now : UInt32) : expired now now = true := by
  simp [expired]

/-- A deadline that lies ahead by at most half the range is not reported as reached. -/
theorem not_expired_of_lt {t d : Nat} (hlt : t < d) (hd : d ≤ t + 2 ^ 31) :
    expired (tick32 t) (tick32 d) = false := by
  have ht := toNat_tick32 t
  have hd' := toNat_tick32 d
  simp only [expired, UInt32.toNat_sub, ht, hd', decide_eq_false_iff_not, Nat.not_lt]
  omega

/-- So a reported deadline has been reached, if it was set at most half the range ago. -/
theorem le_of_expired {t t₀ d : Nat} (hmono : t₀ ≤ t) (hd : d ≤ 2 ^ 31)
    (h : expired (tick32 t) (tick32 t₀ + tick32 d) = true) : t₀ + d ≤ t := by
  by_contra hlt
  rw [← tick32_add, not_expired_of_lt (by omega) (by omega)] at h
  exact Bool.noConfusion h

end UdsIsoTp
