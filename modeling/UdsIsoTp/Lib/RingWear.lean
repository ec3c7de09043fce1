import Mathlib.Data.Int.CardIntervalMod
import UdsIsoTp.Lib.SectorRing

/-!
# How a ring of sectors wears

Writing goes around the ring, and a sector is entered once a lap. So after any number of items
the sectors have been entered equally often, up to one (`entered_le_entered`), and none more
often than there have been laps (`entered_le`).
-/

namespace UdsIsoTp.SectorRing

variable {R : SectorRing} {n s s' : Nat}

/-- Writing item `i` enters sector `s`. -/
def EntersSector (R : SectorRing) (s i : Nat) : Prop :=
  R.Enters i ∧ R.home i / R.perSector = s

instance (R : SectorRing) (s i : Nat) : Decidable (R.EntersSector s i) :=
  inferInstanceAs (Decidable (R.Enters i ∧ R.home i / R.perSector = s))

/-- How often sector `s` has been entered by the first `n` items. -/
def entered (R : SectorRing) (s n : Nat) : Nat := Nat.count (R.EntersSector s) n

@[simp] theorem entered_zero (R : SectorRing) (s : Nat) : R.entered s 0 = 0 := Nat.count_zero _

theorem entered_succ (R : SectorRing) (s n : Nat) :
    R.entered s (n + 1) = R.entered s n + if R.EntersSector s n then 1 else 0 :=
  Nat.count_succ ..

/-- The sector is entered at its first slot. -/
theorem entersSector_iff (hs : s < R.sectors) (i : Nat) :
    R.EntersSector s i ↔ i ≡ s * R.perSector [MOD R.size] := by
  have hpos := R.pos
  have hfirst : s * R.perSector < R.size := Nat.mul_lt_mul_of_pos_right hs hpos
  have hdm := Nat.div_add_mod (R.home i) R.perSector
  unfold EntersSector Enters Nat.ModEq
  rw [Nat.mod_eq_of_lt hfirst]
  change _ ↔ R.home i = s * R.perSector
  constructor
  · rintro ⟨hzero, rfl⟩
    rw [hzero, Nat.add_zero, Nat.mul_comm] at hdm
    exact hdm.symm
  · intro h
    rw [h]
    exact ⟨Nat.mul_mod_left .., Nat.mul_div_cancel _ hpos⟩

/-- A sector is entered once in every lap, and the first ones once more in the last. -/
theorem entered_eq (hs : s < R.sectors) (n : Nat) :
    R.entered s n = n / R.size + if s * R.perSector < n % R.size then 1 else 0 := by
  have hfirst : s * R.perSector < R.size := Nat.mul_lt_mul_of_pos_right hs R.pos
  have hcount := Nat.count_modEq_card n R.size_pos (s * R.perSector)
  rw [Nat.mod_eq_of_lt hfirst] at hcount
  rw [← hcount]
  unfold entered Nat.count
  exact List.countP_congr fun i _ => by
    rw [decide_eq_true_iff, decide_eq_true_iff, entersSector_iff hs]

theorem entered_le_entered (hs : s < R.sectors) (hs' : s' < R.sectors) (n : Nat) :
    R.entered s n ≤ R.entered s' n + 1 := by
  rw [entered_eq hs, entered_eq hs']
  split <;> split <;> omega

theorem entered_le (hs : s < R.sectors) (n : Nat) : R.entered s n ≤ n / R.size + 1 := by
  rw [entered_eq hs]
  split <;> omega

end UdsIsoTp.SectorRing
