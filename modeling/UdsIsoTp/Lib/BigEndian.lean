import Mathlib.Algebra.Order.Group.Nat
import Mathlib.Data.List.Induction

/-!
# Numbers as bytes, the most significant first

The bytes of a number in a field of a given width, and the number a field spells. The two
undo each other: `ofBytesBe_toBytesBe` for the numbers that fit the width, and
`toBytesBe_ofBytesBe` for the fields of that width.
-/

namespace UdsIsoTp

/-- The number's last `width` bytes. -/
def toBytesBe : Nat → Nat → List UInt8
  | 0, _ => []
  | width + 1, n => toBytesBe width (n / 256) ++ [UInt8.ofNat n]

/-- The number that the bytes make, the high one first. -/
def ofBytesBe (bytes : List UInt8) : Nat :=
  bytes.foldl (fun n b => 256 * n + b.toNat) 0

@[simp] theorem ofBytesBe_nil : ofBytesBe [] = 0 := rfl

@[simp] theorem ofBytesBe_concat (bytes : List UInt8) (b : UInt8) :
    ofBytesBe (bytes ++ [b]) = 256 * ofBytesBe bytes + b.toNat := by
  rw [ofBytesBe, List.foldl_append]
  rfl

theorem ofBytesBe_append (bytes bytes' : List UInt8) :
    ofBytesBe (bytes ++ bytes') = ofBytesBe bytes * 256 ^ bytes'.length + ofBytesBe bytes' := by
  induction bytes' using List.reverseRecOn with
  | nil => rw [List.append_nil, List.length_nil, Nat.pow_zero, Nat.mul_one, ofBytesBe_nil]; rfl
  | append_singleton bytes' b ih =>
    rw [← List.append_assoc, ofBytesBe_concat, ofBytesBe_concat, ih, List.length_append,
      List.length_singleton, Nat.pow_succ', Nat.mul_add, Nat.mul_left_comm, Nat.add_assoc]

theorem ofBytesBe_cons (b : UInt8) (bytes : List UInt8) :
    ofBytesBe (b :: bytes) = b.toNat * 256 ^ bytes.length + ofBytesBe bytes := by
  have hone : ofBytesBe [b] = b.toNat := Nat.zero_add _
  rw [← List.singleton_append, ofBytesBe_append, hone]

@[simp] theorem length_toBytesBe (width n : Nat) : (toBytesBe width n).length = width := by
  induction width generalizing n with
  | zero => rfl
  | succ width ih => rw [toBytesBe, List.length_append, ih, List.length_singleton]

/-- The bytes one by one. -/
theorem toBytesBe_eq_map (width n : Nat) :
    toBytesBe width n = (List.range width).map fun i => UInt8.ofNat (n / 256 ^ (width - 1 - i)) := by
  induction width generalizing n with
  | zero => rfl
  | succ width ih =>
    rw [toBytesBe, ih, List.range_succ, List.map_append, List.map_singleton, Nat.add_sub_cancel,
      Nat.sub_self, Nat.pow_zero, Nat.div_one]
    refine congrArg (· ++ [UInt8.ofNat n]) (List.map_congr_left fun i hi => ?_)
    have hexp : width - i = width - 1 - i + 1 := by
      have := List.mem_range.mp hi
      omega
    rw [hexp, Nat.pow_succ', Nat.div_div_eq_div_mul]

theorem ofBytesBe_lt (bytes : List UInt8) : ofBytesBe bytes < 256 ^ bytes.length := by
  induction bytes using List.reverseRecOn with
  | nil => exact Nat.one_pos
  | append_singleton bytes b ih =>
    have hb : b.toNat < 256 := b.toNat_lt
    rw [ofBytesBe_concat, List.length_append, List.length_singleton, Nat.pow_succ]
    omega

/-- Byte by byte is bit by bit. -/
theorem ofBytesBe_xor {bytes bytes' : List UInt8} (h : bytes.length = bytes'.length) :
    ofBytesBe (List.zipWith (· ^^^ ·) bytes bytes') = ofBytesBe bytes ^^^ ofBytesBe bytes' := by
  induction bytes generalizing bytes' with
  | nil =>
    obtain rfl := List.length_eq_zero_iff.mp h.symm
    rfl
  | cons b bytes ih =>
    obtain ⟨b', bytes', rfl⟩ := List.exists_cons_of_length_eq_add_one h.symm
    have hlength : bytes.length = bytes'.length := Nat.succ.inj h
    have hpow : 256 ^ bytes.length = 2 ^ (8 * bytes.length) := by rw [Nat.pow_mul]
    have hlow : ofBytesBe bytes < 2 ^ (8 * bytes.length) := hpow ▸ ofBytesBe_lt bytes
    have hlow' : ofBytesBe bytes' < 2 ^ (8 * bytes.length) := by
      rw [← hpow, hlength]
      exact ofBytesBe_lt bytes'
    have hzip : (List.zipWith (· ^^^ ·) bytes bytes').length = bytes.length := by
      rw [List.length_zipWith, ← hlength, Nat.min_self]
    rw [List.zipWith_cons_cons, ofBytesBe_cons, ofBytesBe_cons, ofBytesBe_cons, hzip, ← hlength,
      ih hlength, hpow, UInt8.toNat_xor]
    refine Nat.eq_of_testBit_eq fun j => ?_
    rw [Nat.testBit_xor, Nat.mul_comm, Nat.mul_comm b.toNat, Nat.mul_comm b'.toNat,
      Nat.testBit_two_pow_mul_add _ (Nat.xor_lt_two_pow hlow hlow'),
      Nat.testBit_two_pow_mul_add _ hlow, Nat.testBit_two_pow_mul_add _ hlow']
    split
    · exact Nat.testBit_xor ..
    · exact Nat.testBit_xor ..

theorem ofBytesBe_toBytesBe {width n : Nat} (h : n < 256 ^ width) :
    ofBytesBe (toBytesBe width n) = n := by
  induction width generalizing n with
  | zero => exact (Nat.lt_one_iff.mp h).symm
  | succ width ih =>
    have hn : n / 256 < 256 ^ width :=
      Nat.div_lt_of_lt_mul (by rwa [Nat.mul_comm, ← Nat.pow_succ])
    rw [toBytesBe, ofBytesBe_concat, ih hn]
    show 256 * (n / 256) + n % 256 = n
    exact Nat.div_add_mod n 256

theorem toBytesBe_ofBytesBe (bytes : List UInt8) :
    toBytesBe bytes.length (ofBytesBe bytes) = bytes := by
  induction bytes using List.reverseRecOn with
  | nil => rfl
  | append_singleton bytes b ih =>
    have hb : b.toNat < 256 := b.toNat_lt
    have hdiv : (256 * ofBytesBe bytes + b.toNat) / 256 = ofBytesBe bytes := by omega
    have hlast : UInt8.ofNat (256 * ofBytesBe bytes + b.toNat) = b := by
      refine UInt8.toNat_inj.mp ?_
      show (256 * ofBytesBe bytes + b.toNat) % 256 = b.toNat
      omega
    rw [ofBytesBe_concat, List.length_append, List.length_singleton, toBytesBe, hdiv, ih, hlast]

/-- A field of a given width spells one number, and that number has one such field. -/
theorem eq_toBytesBe_iff {bytes : List UInt8} {width n : Nat} (hwidth : bytes.length = width)
    (hn : n < 256 ^ width) : bytes = toBytesBe width n ↔ ofBytesBe bytes = n := by
  constructor
  · intro h
    rw [h, ofBytesBe_toBytesBe hn]
  · intro h
    rw [← h, ← hwidth, toBytesBe_ofBytesBe]

/-- One byte shifted into a word that has room for it. -/
theorem shift_in_byte {value : UInt32} {n : Nat} (b : UInt8) (hn : value.toNat = n)
    (hroom : n < 256 ^ 3) : ((value <<< 8) ||| b.toUInt32).toNat = 256 * n + b.toNat := by
  have hb : b.toNat < 2 ^ 8 := b.toNat_lt
  have hshift : (value <<< 8).toNat = n * 2 ^ 8 := by
    rw [UInt32.toNat_shiftLeft, hn, Nat.shiftLeft_eq]
    show n * 2 ^ 8 % 2 ^ 32 = n * 2 ^ 8
    exact Nat.mod_eq_of_lt (by omega)
  rw [UInt32.toNat_or, hshift, UInt8.toNat_toUInt32, ← Nat.shiftLeft_eq,
    ← Nat.shiftLeft_add_eq_or_of_lt hb, Nat.shiftLeft_eq, Nat.mul_comm]

end UdsIsoTp
