import Mathlib.Data.Nat.Basic

/-!
# Counters that wrap

A counter that a machine keeps modulo a bound, and the serial numbers made of one: 16
bits that count from one and skip zero. Serial numbers are compared by the sign of their
difference, which tells the newer of two as long as they are not too far apart
(`newer_serial`, `not_newer_serial`).
-/

namespace UdsIsoTp

/-- A counter goes up by one or wraps. -/
theorem mod_succ (n : Nat) {b : Nat} (hb : 0 < b) :
    n % b + 1 = b ∧ (n + 1) % b = 0 ∨ n % b + 1 < b ∧ (n + 1) % b = n % b + 1 := by
  have hlt := Nat.mod_lt n hb
  have hmod : (n + 1) % b = (n % b + 1) % b := by rw [Nat.mod_add_mod]
  rcases Nat.lt_or_ge (n % b + 1) b with h | h
  · exact .inr ⟨h, by rw [hmod, Nat.mod_eq_of_lt h]⟩
  · have heq : n % b + 1 = b := by omega
    exact .inl ⟨heq, by rw [hmod, heq, Nat.mod_self]⟩

/-- The serial number of item `k`. -/
def serial (k : Nat) : UInt16 := UInt16.ofNat (k % 65535 + 1)

/-- `(int16_t)(a - b) > 0` -/
def Newer (a b : UInt16) : Prop := 0 < (a - b).toNat ∧ (a - b).toNat < 32768

instance : DecidableRel Newer := fun a b =>
  inferInstanceAs (Decidable (0 < (a - b).toNat ∧ (a - b).toNat < 32768))

theorem Newer.asymm {a b : UInt16} (h : Newer a b) : ¬Newer b a := by
  obtain ⟨hpos, hlt⟩ := h
  have hneg : (b - a).toNat = 65536 - (a - b).toNat := by
    rw [← UInt16.neg_sub, UInt16.toNat_neg]
    exact Nat.mod_eq_of_lt (by simp only [UInt16.size]; omega)
  unfold Newer
  omega

theorem toNat_serial (k : Nat) : (serial k).toNat = k % 65535 + 1 := by
  unfold serial
  rw [UInt16.toNat_ofNat']
  omega

/-- The number after a serial number, zero being skipped. -/
theorem serial_succ (k : Nat) :
    serial (k + 1) = if serial k + 1 = 0 then 1 else serial k + 1 := by
  have hk := toNat_serial k
  have hk1 := toNat_serial (k + 1)
  have hsum : (serial k + 1).toNat = (k % 65535 + 2) % 65536 := by
    rw [UInt16.toNat_add, hk]
    rfl
  split
  next hzero =>
    have h0 : (serial k + 1).toNat = 0 := by
      rw [hzero]
      rfl
    apply UInt16.toNat_inj.mp
    rw [hk1]
    show _ = 1
    omega
  next hsome =>
    have h0 : (serial k + 1).toNat ≠ 0 := fun h => hsome (UInt16.toNat_inj.mp h)
    apply UInt16.toNat_inj.mp
    rw [hk1, hsum]
    omega

/-- How far apart two serial numbers are: as far as the items, or one more across zero. -/
theorem serial_sub {k d : Nat} (hpos : 0 < d) (hle : d ≤ 32767) :
    (serial (k + d) - serial k).toNat = d ∨ (serial (k + d) - serial k).toNat = d + 1 := by
  rw [UInt16.toNat_sub, toNat_serial, toNat_serial]
  have hx := Nat.mod_lt k (show 0 < 65535 by decide)
  have hy : (k + d) % 65535 = k % 65535 + d ∨ (k + d) % 65535 + 65535 = k % 65535 + d := by
    omega
  generalize (k + d) % 65535 = y at hy
  generalize k % 65535 = x at hx hy
  obtain ⟨z, hz⟩ : ∃ z, 65536 = z + (x + 1) := ⟨65536 - (x + 1), by omega⟩
  have hsub : 2 ^ 16 - (x + 1) = z := by
    rw [show 2 ^ 16 = z + (x + 1) from hz, Nat.add_sub_cancel]
  rw [hsub]
  show (z + (y + 1)) % 65536 = d ∨ (z + (y + 1)) % 65536 = d + 1
  omega

/-- The later of two items is the newer one. -/
theorem newer_serial {k d : Nat} (hpos : 0 < d) (hle : d ≤ 32766) :
    Newer (serial (k + d)) (serial k) := by
  unfold Newer
  rcases serial_sub (k := k) hpos (by omega) with h | h <;> omega

/-- The earlier of two items is not. -/
theorem not_newer_serial {k d : Nat} (hpos : 0 < d) (hle : d ≤ 32767) :
    ¬Newer (serial k) (serial (k + d)) := by
  have hneg : (serial k - serial (k + d)).toNat = 65536 - (serial (k + d) - serial k).toNat := by
    rw [← UInt16.neg_sub, UInt16.toNat_neg]
    rcases serial_sub (k := k) hpos hle with h | h <;> rw [h] <;>
      exact Nat.mod_eq_of_lt (by simp only [UInt16.size]; omega)
  unfold Newer
  rcases serial_sub (k := k) hpos hle with h | h <;> omega

end UdsIsoTp
