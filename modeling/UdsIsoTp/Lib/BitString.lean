import UdsIsoTp.Lib.BigEndian
import UdsIsoTp.Lib.Blocks

/-!
# Numbers as bit strings, the most significant bit first

The bits of a number in a field of a given width, and the number that a field spells. A string
of bytes is a string of bits, and spells the same number (`ofBitsBe_byteBits`).
-/

namespace UdsIsoTp

/-- The number's last `width` bits. -/
def toBitsBe : Nat → Nat → List Bool
  | 0, _ => []
  | width + 1, n => toBitsBe width (n / 2) ++ [decide (n % 2 = 1)]

/-- The number that the bits make, the high one first. -/
def ofBitsBe (bits : List Bool) : Nat := bits.foldl (fun n b => 2 * n + b.toNat) 0

/-- The bits of a byte, the high one first. -/
def byteBits (b : UInt8) : List Bool := toBitsBe 8 b.toNat

@[simp] theorem length_toBitsBe (width n : Nat) : (toBitsBe width n).length = width := by
  induction width generalizing n with
  | zero => rfl
  | succ width ih => rw [toBitsBe, List.length_append, ih, List.length_singleton]

theorem length_byteBits (b : UInt8) : (byteBits b).length = 8 := length_toBitsBe ..

/-- A field is a field of the higher bits and one of the lower. -/
theorem toBitsBe_add (high low n : Nat) :
    toBitsBe (high + low) n = toBitsBe high (n / 2 ^ low) ++ toBitsBe low n := by
  induction low generalizing n with
  | zero => rw [Nat.pow_zero, Nat.div_one, toBitsBe, List.append_nil, Nat.add_zero]
  | succ low ih =>
    rw [← Nat.add_assoc, toBitsBe, ih, toBitsBe, Nat.div_div_eq_div_mul, Nat.pow_succ',
      List.append_assoc]

/-- Only the bits of the field count. -/
theorem toBitsBe_mod {width n m : Nat} (h : n % 2 ^ width = m % 2 ^ width) :
    toBitsBe width n = toBitsBe width m := by
  -- the last bit is the remainder by two, and the rest are those of the half
  induction width generalizing n m with
  | zero => rfl
  | succ width ih =>
    have hbit : n % 2 = m % 2 := by
      have hdvd : 2 ∣ 2 ^ (width + 1) := Nat.dvd_of_mod_eq_zero (by rw [Nat.pow_succ]; omega)
      rw [← Nat.mod_mod_of_dvd n hdvd, h, Nat.mod_mod_of_dvd m hdvd]
    have hrest : n / 2 % 2 ^ width = m / 2 % 2 ^ width := by
      rw [← Nat.mod_mul_right_div_self, ← Nat.mod_mul_right_div_self, ← Nat.pow_succ', h]
    rw [toBitsBe, toBitsBe, ih hrest, hbit]

theorem ofBitsBe_append (bits bits' : List Bool) :
    ofBitsBe (bits ++ bits') = 2 ^ bits'.length * ofBitsBe bits + ofBitsBe bits' := by
  induction bits' using List.reverseRecOn with
  | nil => rw [List.append_nil, List.length_nil, Nat.pow_zero, Nat.one_mul]; rfl
  | append_singleton bits' b ih =>
    have hconcat : ∀ l : List Bool, ofBitsBe (l ++ [b]) = 2 * ofBitsBe l + b.toNat := by
      intro l
      rw [ofBitsBe, List.foldl_append]
      rfl
    rw [← List.append_assoc, hconcat, hconcat, ih, List.length_append, List.length_singleton,
      Nat.pow_succ', Nat.mul_add, Nat.mul_assoc, Nat.add_assoc]

theorem ofBitsBe_toBitsBe {width n : Nat} (h : n < 2 ^ width) :
    ofBitsBe (toBitsBe width n) = n := by
  induction width generalizing n with
  | zero => exact (Nat.lt_one_iff.mp h).symm
  | succ width ih =>
    have hn : n / 2 < 2 ^ width := Nat.div_lt_of_lt_mul (by rwa [← Nat.pow_succ'])
    have hbit : ofBitsBe [decide (n % 2 = 1)] = n % 2 := by
      rcases Nat.mod_two_eq_zero_or_one n with hzero | hone
      · rw [hzero]
        rfl
      · rw [hone]
        rfl
    rw [toBitsBe, ofBitsBe_append, ih hn, hbit, List.length_singleton, Nat.pow_one]
    exact Nat.div_add_mod n 2

/-- Bytes spell the number that their bits spell. -/
theorem ofBitsBe_byteBits (bytes : List UInt8) :
    ofBitsBe (bytes.flatMap byteBits) = ofBytesBe bytes := by
  induction bytes using List.reverseRecOn with
  | nil => rfl
  | append_singleton bytes b ih =>
    have hbyte : ofBitsBe (byteBits b) = b.toNat := ofBitsBe_toBitsBe b.toNat_lt
    rw [List.flatMap_append, List.flatMap_singleton, ofBitsBe_append, ih, hbyte, length_byteBits,
      ofBytesBe_concat]
    rfl

/-- The bits of the bytes of a number are its bits. -/
theorem toBytesBe_byteBits (width n : Nat) :
    (toBytesBe width n).flatMap byteBits = toBitsBe (width * 8) n := by
  induction width generalizing n with
  | zero => rfl
  | succ width ih =>
    have hbyte : byteBits (UInt8.ofNat n) = toBitsBe 8 n := by
      refine toBitsBe_mod ?_
      rw [UInt8.toNat_ofNat', Nat.mod_mod]
    rw [toBytesBe, List.flatMap_append, List.flatMap_singleton, ih, hbyte, Nat.succ_mul,
      toBitsBe_add]
    rfl

end UdsIsoTp
