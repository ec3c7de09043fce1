import Mathlib.Algebra.Field.ZMod
import Mathlib.Algebra.Ring.MinimalAxioms
import Mathlib.RingTheory.AdjoinRoot

/-!
# Polynomials over two elements, by their bits

A word of `w` bits is the polynomial that has its bits as coefficients, the least significant bit
the constant one. Modulo `x ^ w + r` these words are a ring: words are added by exclusive or, and
to multiply by `x` is to shift up and to add `r` where a one falls out (`timesX`). `BinaryRing r`
is this ring with operations that compute, and `BinaryRing.toQuotient_injective` that it is the
quotient of the polynomials, which gives it its laws.
-/

namespace UdsIsoTp

open Polynomial

namespace BinaryRing

variable {w : Nat}

/-! ## The value of a word -/

/-- The word shifted up by one, and reduced. -/
def timesX (r v : BitVec w) : BitVec w := (v <<< 1) ^^^ (if v.getLsbD (w - 1) then r else 0#w)

/-- The product with the last `n` bits of `b`. -/
def mulBits (r : BitVec w) : Nat → BitVec w → BitVec w → BitVec w
  | 0, _, _ => 0#w
  | n + 1, a, b => (if b.getLsbD 0 then a else 0#w) ^^^ mulBits r n (timesX r a) (b >>> 1)

section Value

variable {R : Type*} [CommRing R] (x : R)

/-- The value at `x` of the polynomial of the last `n` bits. -/
def valueTo (n : Nat) (v : BitVec w) : R :=
  ∑ i ∈ Finset.range n, if v.getLsbD i then x ^ i else 0

/-- The polynomial that the bits stand for, at a point of a ring. -/
def value (v : BitVec w) : R := valueTo x w v

theorem valueTo_zero (n : Nat) : valueTo x n (0#w) = 0 :=
  Finset.sum_eq_zero fun i _ => by simp

theorem valueTo_succ (n : Nat) (v : BitVec w) :
    valueTo x (n + 1) v = (if v.getLsbD 0 then (1 : R) else 0) + x * valueTo x n (v >>> 1) := by
  unfold valueTo
  rw [Finset.sum_range_succ', Finset.mul_sum, add_comm]
  refine congrArg₂ _ (by rw [pow_zero]) (Finset.sum_congr rfl fun i _ => ?_)
  rw [BitVec.getLsbD_ushiftRight, Nat.add_comm 1 i]
  split
  next => exact pow_succ' x i
  next => exact (mul_zero x).symm

variable (htwo : ∀ a : R, a + a = 0)

include htwo

theorem valueTo_xor (n : Nat) (a b : BitVec w) :
    valueTo x n (a ^^^ b) = valueTo x n a + valueTo x n b := by
  unfold valueTo
  rw [← Finset.sum_add_distrib]
  refine Finset.sum_congr rfl fun i _ => ?_
  rw [BitVec.getLsbD_xor]
  cases a.getLsbD i with
  | true =>
    cases b.getLsbD i with
    | true => simp [htwo]
    | false => simp
  | false => simp

/-- Times the root is a shift and a reduction. -/
theorem value_timesX [NeZero w] {r : BitVec w} (hroot : x ^ w = value x r) (v : BitVec w) :
    value x (timesX r v) = x * value x v := by
  obtain ⟨n, rfl⟩ : ∃ n, w = n + 1 := Nat.exists_eq_succ_of_ne_zero (NeZero.ne w)
  have hshift : valueTo x (n + 1) (v <<< 1)
      = ∑ i ∈ Finset.range n, if v.getLsbD i then x ^ (i + 1) else 0 := by
    unfold valueTo
    rw [Finset.sum_range_succ', if_neg (by simp), add_zero]
    refine Finset.sum_congr rfl fun i hi => ?_
    have hlt := Finset.mem_range.mp hi
    rw [BitVec.getLsbD_shiftLeft, Nat.add_sub_cancel]
    simp [hlt]
  have hreduce : valueTo x (n + 1) (if v.getLsbD n then r else 0#(n + 1))
      = if v.getLsbD n then x ^ (n + 1) else 0 := by
    split
    next => exact hroot.symm
    next => exact valueTo_zero x _
  unfold value timesX
  rw [valueTo_xor x htwo, Nat.add_sub_cancel, hshift, hreduce]
  unfold valueTo
  rw [Finset.sum_range_succ, mul_add, Finset.mul_sum]
  refine congrArg₂ _ (Finset.sum_congr rfl fun i _ => ?_) ?_
  · rw [mul_ite, mul_zero, pow_succ']
  · rw [mul_ite, mul_zero, pow_succ']

/-- The loop of the multiplication. -/
theorem value_mulBits [NeZero w] {r : BitVec w} (hroot : x ^ w = value x r) (n : Nat)
    (a b : BitVec w) : value x (mulBits r n a b) = value x a * valueTo x n b := by
  induction n generalizing a b with
  | zero =>
    unfold mulBits value
    rw [valueTo_zero]
    exact (mul_zero _).symm
  | succ n ih =>
    have hbit : value x (if b.getLsbD 0 then a else 0#w)
        = value x a * if b.getLsbD 0 then (1 : R) else 0 := by
      split
      next => exact (mul_one _).symm
      next => exact (valueTo_zero x _).trans (mul_zero _).symm
    have hsum : value x (mulBits r (n + 1) a b) = value x (if b.getLsbD 0 then a else 0#w)
        + value x (mulBits r n (timesX r a) (b >>> 1)) := valueTo_xor x htwo w _ _
    rw [hsum, hbit, ih, value_timesX x htwo hroot, valueTo_succ, mul_add, mul_comm x, mul_assoc]

end Value

/-! ## The quotient -/

/-- `x ^ w + r` -/
noncomputable def modulus (r : BitVec w) : (ZMod 2)[X] := X ^ w + value X r

/-- The coefficients are the bits. -/
theorem coeff_value (v : BitVec w) (i : Nat) :
    (value (X : (ZMod 2)[X]) v).coeff i = if v.getLsbD i then 1 else 0 := by
  unfold value valueTo
  rw [finsetSum_coeff]
  have hterm : ∀ j, (if v.getLsbD j then (X : (ZMod 2)[X]) ^ j else 0).coeff i
      = if i = j then (if v.getLsbD i then 1 else 0) else 0 := by
    intro j
    by_cases hij : i = j
    · subst hij
      rw [if_pos rfl]
      split
      next => rw [coeff_X_pow, if_pos rfl]
      next => exact coeff_zero i
    · rw [if_neg hij]
      split
      next => rw [coeff_X_pow, if_neg hij]
      next => exact coeff_zero i
  rw [Finset.sum_congr rfl fun j _ => hterm j, Finset.sum_ite_eq]
  by_cases hi : i < w
  · rw [if_pos (Finset.mem_range.mpr hi)]
  · rw [if_neg (mt Finset.mem_range.mp hi), BitVec.getLsbD_of_ge v i (Nat.le_of_not_lt hi)]
    rfl

/-- The degree is below the number of the bits. -/
theorem degree_value_lt (v : BitVec w) : (value (X : (ZMod 2)[X]) v).degree < w := by
  refine (degree_lt_iff_coeff_zero _ _).mpr fun i hi => ?_
  rw [coeff_value, BitVec.getLsbD_of_ge v i hi]
  rfl

theorem degree_modulus (r : BitVec w) : (modulus r).degree = w := by
  unfold modulus
  rw [degree_add_eq_left_of_degree_lt, degree_X_pow]
  rw [degree_X_pow]
  exact degree_value_lt r

end BinaryRing

/-- A polynomial modulo `x ^ w + r`. -/
@[ext] structure BinaryRing {w : Nat} (r : BitVec w) where
  bits : BitVec w
  deriving DecidableEq

namespace BinaryRing

variable {w : Nat} {r : BitVec w}

instance : Zero (BinaryRing r) := ⟨⟨0#w⟩⟩

instance : One (BinaryRing r) := ⟨⟨1#w⟩⟩

instance : Add (BinaryRing r) := ⟨fun a b => ⟨a.bits ^^^ b.bits⟩⟩

instance : Neg (BinaryRing r) := ⟨fun a => a⟩

instance : Mul (BinaryRing r) := ⟨fun a b => ⟨mulBits r w a.bits b.bits⟩⟩

theorem add_self_quotient (a : AdjoinRoot (modulus r)) : a + a = 0 := by
  have htwo : (2 : AdjoinRoot (modulus r)) = 0 := by
    have hzero : AdjoinRoot.of (modulus r) 2 = 0 := by
      rw [show (2 : ZMod 2) = 0 from rfl, map_zero]
    rwa [map_ofNat] at hzero
  rw [← two_mul, htwo, zero_mul]

/-- The element of the quotient by the modulus. -/
noncomputable def toQuotient (a : BinaryRing r) : AdjoinRoot (modulus r) :=
  value (AdjoinRoot.root (modulus r)) a.bits

/-- The element is the class of the polynomial of the bits. -/
theorem toQuotient_eq_mk (a : BinaryRing r) :
    a.toQuotient = AdjoinRoot.mk (modulus r) (value X a.bits) := by
  unfold toQuotient value valueTo
  rw [map_sum]
  refine Finset.sum_congr rfl fun i _ => ?_
  split
  next => rw [map_pow, AdjoinRoot.mk_X]
  next => exact (map_zero _).symm

/-- No polynomial but the one of the word is of so low a degree and in the class. -/
theorem toQuotient_injective : Function.Injective (toQuotient (r := r)) := by
  intro a b h
  rw [toQuotient_eq_mk, toQuotient_eq_mk, AdjoinRoot.mk_eq_mk] at h
  have hdegree : (value (X : (ZMod 2)[X]) a.bits - value X b.bits).degree
      < (modulus r).degree := by
    rw [degree_modulus]
    exact (degree_sub_le _ _).trans_lt (max_lt (degree_value_lt _) (degree_value_lt _))
  have hsame := sub_eq_zero.mp (eq_zero_of_dvd_of_degree_lt h hdegree)
  refine BinaryRing.ext (BitVec.eq_of_getLsbD_eq fun i _ => ?_)
  have hcoeff := congrArg (coeff · i) hsame
  simp only [coeff_value] at hcoeff
  cases ha : a.bits.getLsbD i <;> cases hb : b.bits.getLsbD i <;> simp [ha, hb] at hcoeff ⊢

/-- The class of `x` is a root of the modulus. -/
theorem root_pow : AdjoinRoot.root (modulus r) ^ w = value (AdjoinRoot.root (modulus r)) r := by
  have hself : AdjoinRoot.mk (modulus r) (X ^ w + value X r) = 0 := AdjoinRoot.mk_self
  rw [map_add, map_pow, AdjoinRoot.mk_X, ← toQuotient_eq_mk ⟨r⟩] at hself
  exact (eq_neg_of_add_eq_zero_left hself).trans
    (neg_eq_of_add_eq_zero_left (add_self_quotient _))

theorem toQuotient_zero : (0 : BinaryRing r).toQuotient = 0 := valueTo_zero _ _

theorem toQuotient_add (a b : BinaryRing r) :
    (a + b).toQuotient = a.toQuotient + b.toQuotient := valueTo_xor _ add_self_quotient _ _ _

theorem toQuotient_mul [NeZero w] (a b : BinaryRing r) :
    (a * b).toQuotient = a.toQuotient * b.toQuotient :=
  value_mulBits _ add_self_quotient root_pow w a.bits b.bits

theorem toQuotient_one [NeZero w] : (1 : BinaryRing r).toQuotient = 1 := by
  have hpos : 0 < w := Nat.pos_of_ne_zero (NeZero.ne w)
  show valueTo _ w (1#w) = 1
  unfold valueTo
  rw [Finset.sum_eq_single_of_mem 0 (Finset.mem_range.mpr hpos), if_pos (by simpa using hpos),
    pow_zero]
  intro i _ hi
  exact if_neg (by simp [BitVec.getLsbD_one, hi])

/-- The laws are those of the quotient. -/
instance [NeZero w] : CommRing (BinaryRing r) :=
  .ofMinimalAxioms
    (fun a b c => toQuotient_injective (by simp only [toQuotient_add, add_assoc]))
    (fun a => toQuotient_injective (by rw [toQuotient_add, toQuotient_zero, zero_add]))
    (fun a => toQuotient_injective
      (by rw [toQuotient_add, toQuotient_zero]; exact add_self_quotient _))
    (fun a b c => toQuotient_injective (by simp only [toQuotient_mul, mul_assoc]))
    (fun a b => toQuotient_injective (by rw [toQuotient_mul, toQuotient_mul, mul_comm]))
    (fun a => toQuotient_injective (by rw [toQuotient_mul, toQuotient_one, one_mul]))
    (fun a b c => toQuotient_injective
      (by simp only [toQuotient_mul, toQuotient_add, mul_add]))

theorem add_self (a : BinaryRing r) : a + a = 0 :=
  BinaryRing.ext BitVec.xor_self

end BinaryRing

end UdsIsoTp
