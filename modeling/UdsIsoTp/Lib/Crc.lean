import UdsIsoTp.Lib.Blocks
import Mathlib.Data.List.GetD
import Mathlib.Logic.Function.Iterate

/-!
# Reflected checksums

The register of a cyclic redundancy check of `w` bits that takes its message the least
significant bit first: a bit comes in at that end, the register is shifted down, and where a one
falls out the polynomial is added. What comes of two messages differs by what comes of their
difference from an empty register (`feedAll_xor`), and if the polynomial has its top bit no shift
loses anything (`shift_injective`). So a difference within `w` bits in a row is never lost
(`feedAll_burst`).
-/

namespace UdsIsoTp.Crc

variable {w : Nat} (poly : BitVec w)

/-- One step of the register. -/
def shift (v : BitVec w) : BitVec w := if v.getLsbD 0 then (v >>> 1) ^^^ poly else v >>> 1

/-- A bit as the register takes it. -/
def bitWord (w : Nat) (b : Bool) : BitVec w := if b then 1#w else 0#w

/-- One bit goes in. -/
def feed (v : BitVec w) (b : Bool) : BitVec w := shift poly (v ^^^ bitWord w b)

/-- All of the bits go in. -/
def feedAll (v : BitVec w) (bits : List Bool) : BitVec w := bits.foldl (feed poly) v

/-- The bits in one word, the first of them the least significant. -/
def word (w : Nat) : List Bool → BitVec w
  | [] => 0#w
  | b :: rest => (word w rest <<< 1) ^^^ bitWord w b

theorem getLsbD_bitWord (b : Bool) (i : Nat) :
    (bitWord w b).getLsbD i = (decide (i < w) && decide (i = 0) && b) := by
  unfold bitWord
  cases b with
  | true =>
    rw [if_pos rfl, BitVec.getLsbD_one, Bool.and_true]
    by_cases hi : i = 0
    · subst hi
      simp
    · simp [hi]
  | false => simp

theorem getLsbD_word (bits : List Bool) (i : Nat) :
    (word w bits).getLsbD i = (decide (i < w) && bits.getD i false) := by
  induction bits generalizing i with
  | nil => simp [word]
  | cons b rest ih =>
    rw [word, BitVec.getLsbD_xor, BitVec.getLsbD_shiftLeft, getLsbD_bitWord]
    cases i with
    | zero => simp
    | succ i =>
      rw [Nat.add_sub_cancel, ih, List.getD_cons_succ]
      by_cases hi : i + 1 < w
      · have hi' : i < w := Nat.lt_of_succ_lt hi
        simp [hi, hi']
      · simp [hi]

/-! ## Differences -/

theorem xor_xor_xor_comm (a b c d : BitVec w) :
    (a ^^^ b) ^^^ (c ^^^ d) = (a ^^^ c) ^^^ (b ^^^ d) := by
  rw [BitVec.xor_assoc, BitVec.xor_assoc, ← BitVec.xor_assoc b, BitVec.xor_comm b c,
    BitVec.xor_assoc c]

theorem shift_xor (a b : BitVec w) : shift poly (a ^^^ b) = shift poly a ^^^ shift poly b := by
  unfold shift
  rw [BitVec.getLsbD_xor, BitVec.ushiftRight_xor_distrib]
  cases ha : a.getLsbD 0 with
  | true =>
    cases hb : b.getLsbD 0 with
    | true => rw [if_neg (by simp), if_pos rfl, if_pos rfl, xor_xor_xor_comm, BitVec.xor_self,
        BitVec.xor_zero]
    | false => rw [if_pos (by simp), if_pos rfl, if_neg (by simp), BitVec.xor_assoc,
        BitVec.xor_comm (b >>> 1), ← BitVec.xor_assoc]
  | false =>
    cases hb : b.getLsbD 0 with
    | true => rw [if_pos (by simp), if_neg (by simp), if_pos rfl, BitVec.xor_assoc]
    | false => rw [if_neg (by simp), if_neg (by simp), if_neg (by simp)]

theorem shift_zero : shift poly 0#w = 0#w := by
  unfold shift
  rw [if_neg (by simp), BitVec.zero_ushiftRight]

theorem bitWord_xor (b c : Bool) : bitWord w (b ^^ c) = bitWord w b ^^^ bitWord w c := by
  cases b <;> cases c <;> simp [bitWord]

/-- The two messages are fed in one, and their difference from the difference of the registers. -/
theorem feedAll_xor {v u : BitVec w} {bits errors : List Bool}
    (hlength : bits.length = errors.length) :
    feedAll poly (v ^^^ u) (List.zipWith Bool.xor bits errors)
      = feedAll poly v bits ^^^ feedAll poly u errors := by
  induction bits generalizing v u errors with
  | nil =>
    obtain rfl := List.eq_nil_of_length_eq_zero hlength.symm
    rfl
  | cons b bits ih =>
    cases errors with
    | nil => exact absurd hlength (by simp)
    | cons e errors =>
      have hstep : feed poly (v ^^^ u) (b ^^ e) = feed poly v b ^^^ feed poly u e := by
        unfold feed
        rw [bitWord_xor, xor_xor_xor_comm, shift_xor]
      show feedAll poly (feed poly (v ^^^ u) (b ^^ e)) _ = _
      rw [hstep, ih (Nat.succ.inj hlength)]
      rfl

/-! ## Bursts -/

theorem shift_injective (htop : poly.getLsbD (w - 1) = true) : Function.Injective (shift poly) := by
  -- by linearity it is enough that only zero is shifted to zero
  have hzero : ∀ v, shift poly v = 0#w → v = 0#w := by
    intro v hv
    have hpos : 0 < w := by
      by_contra hnot
      rw [BitVec.getLsbD_of_ge _ _ (by omega)] at htop
      exact Bool.noConfusion htop
    unfold shift at hv
    split at hv
    next =>
      have hbit := congrArg (BitVec.getLsbD · (w - 1)) hv
      simp only [BitVec.getLsbD_xor, BitVec.getLsbD_ushiftRight, htop] at hbit
      rw [BitVec.getLsbD_of_ge v _ (by omega)] at hbit
      simp at hbit
    next hlow =>
      refine BitVec.eq_of_getLsbD_eq fun i hi => ?_
      cases i with
      | zero => simpa using hlow
      | succ i =>
        have hbit := congrArg (BitVec.getLsbD · i) hv
        simpa [BitVec.getLsbD_ushiftRight, Nat.add_comm] using hbit
  intro a b h
  refine BitVec.xor_eq_zero_iff.mp (hzero _ ?_)
  rw [shift_xor, h, BitVec.xor_self]

/-- Bits that fill no more than the register could as well have been in it from the start. -/
theorem feedAll_word (v : BitVec w) {bits : List Bool} (h : bits.length ≤ w) :
    feedAll poly v bits = (shift poly)^[bits.length] (v ^^^ word w bits) := by
  induction bits generalizing v with
  | nil => exact (BitVec.xor_zero (x := v)).symm
  | cons b rest ih =>
    have hroom : rest.length < w := h
    have hback : shift poly (word w rest <<< 1) = word w rest := by
      unfold shift
      rw [if_neg (by simp)]
      refine BitVec.eq_of_getLsbD_eq fun i hi => ?_
      rw [BitVec.getLsbD_ushiftRight, BitVec.getLsbD_shiftLeft, Nat.add_sub_cancel_left]
      by_cases hlast : 1 + i < w
      · simp [hlast]
      · rw [getLsbD_word, List.getD_eq_default _ _ (by omega)]
        simp
    show feedAll poly (feed poly v b) rest = _
    rw [ih _ (Nat.le_of_lt hroom), List.length_cons, Function.iterate_succ_apply]
    refine congrArg _ ?_
    have hrest : v ^^^ word w (b :: rest) = (v ^^^ bitWord w b) ^^^ (word w rest <<< 1) := by
      rw [word, BitVec.xor_comm (word w rest <<< 1), BitVec.xor_assoc]
    rw [hrest, shift_xor, hback]
    rfl

/-- The ones among the bits lie within `n` bits in a row. -/
def Confined (n : Nat) (bits : List Bool) : Prop :=
  ∃ start, ∀ i, bits.getD i false = true → start ≤ i ∧ i < start + n

/-- There are only zeros before the burst and behind it. -/
theorem confined_iff {n : Nat} {bits : List Bool} : Confined n bits ↔
    ∃ start, (∀ b ∈ bits.take start, b = false) ∧ ∀ b ∈ bits.drop (start + n), b = false := by
  have hat : ∀ i, bits.getD i false = true ↔ bits[i]? = some true := by
    intro i
    rw [List.getD_eq_getElem?_getD]
    cases bits[i]? <;> simp
  unfold Confined
  refine exists_congr fun start => ?_
  constructor
  · intro h
    constructor
    · intro b hb
      obtain ⟨i, hi⟩ := List.mem_iff_getElem?.mp hb
      rw [List.getElem?_take] at hi
      split at hi
      next hlt =>
        cases b with
        | true => exact absurd (h i ((hat i).mpr hi)).1 (Nat.not_le.mpr hlt)
        | false => rfl
      next => exact absurd hi (by simp)
    · intro b hb
      obtain ⟨i, hi⟩ := List.mem_iff_getElem?.mp hb
      rw [List.getElem?_drop] at hi
      cases b with
      | true => exact absurd (h _ ((hat _).mpr hi)).2 (by omega)
      | false => rfl
  · rintro ⟨hbefore, hbehind⟩ i hi
    have hi := (hat i).mp hi
    constructor
    · by_contra hlow
      refine Bool.noConfusion (hbefore true (List.mem_iff_getElem?.mpr ⟨i, ?_⟩))
      rw [List.getElem?_take, if_pos (Nat.lt_of_not_le hlow)]
      exact hi
    · by_contra hhigh
      refine Bool.noConfusion (hbehind true (List.mem_iff_getElem?.mpr ⟨i - (start + n), ?_⟩))
      rw [List.getElem?_drop, Nat.add_sub_cancel' (Nat.le_of_not_lt hhigh)]
      exact hi

theorem feedAll_false (v : BitVec w) {bits : List Bool} (h : ∀ b ∈ bits, b = false) :
    feedAll poly v bits = (shift poly)^[bits.length] v := by
  induction bits generalizing v with
  | nil => rfl
  | cons b rest ih =>
    obtain ⟨rfl, hrest⟩ := List.forall_mem_cons.mp h
    show feedAll poly (feed poly v false) rest = _
    rw [ih _ hrest, List.length_cons, Function.iterate_succ_apply]
    refine congrArg _ (congrArg (shift poly) ?_)
    exact BitVec.xor_zero

theorem iterate_shift_zero (n : Nat) : (shift poly)^[n] 0#w = 0#w :=
  Function.iterate_fixed (shift_zero poly) n

theorem eq_zero_of_iterate_shift (htop : poly.getLsbD (w - 1) = true) {n : Nat} {v : BitVec w}
    (h : (shift poly)^[n] v = 0#w) : v = 0#w :=
  (shift_injective poly htop).iterate n (h.trans (iterate_shift_zero poly n).symm)

/-- **Bursts.** An error within as many bits as the register has leaves something in it. -/
theorem feedAll_burst (htop : poly.getLsbD (w - 1) = true) {errors : List Bool}
    (hburst : Confined w errors) (hsome : true ∈ errors) : feedAll poly 0#w errors ≠ 0#w := by
  obtain ⟨start, hbefore, hbehind⟩ := confined_iff.mp hburst
  have hparts : errors
      = errors.take start ++ ((errors.drop start).take w ++ errors.drop (start + w)) := by
    rw [← List.drop_drop, List.take_append_drop, List.take_append_drop]
  have hmiddle : true ∈ (errors.drop start).take w := by
    rw [hparts] at hsome
    rcases List.mem_append.mp hsome with hfirst | hrest
    · exact Bool.noConfusion (hbefore true hfirst)
    · rcases List.mem_append.mp hrest with hin | hlast
      · exact hin
      · exact Bool.noConfusion (hbehind true hlast)
  have hsplit : feedAll poly 0#w errors = (shift poly)^[(errors.drop (start + w)).length]
      ((shift poly)^[((errors.drop start).take w).length]
        (word w ((errors.drop start).take w))) := by
    refine (congrArg (feedAll poly 0#w) hparts).trans ?_
    unfold feedAll
    rw [List.foldl_append, List.foldl_append]
    show feedAll poly (feedAll poly (feedAll poly 0#w _) _) _ = _
    rw [feedAll_false poly _ hbefore, iterate_shift_zero, feedAll_false poly _ hbehind,
      feedAll_word poly _ (List.length_take_le ..), BitVec.zero_xor]
  rw [hsplit]
  intro hlost
  have hword := eq_zero_of_iterate_shift poly htop (eq_zero_of_iterate_shift poly htop hlost)
  obtain ⟨i, hi⟩ := List.mem_iff_getElem?.mp hmiddle
  have hlength := (List.getElem?_eq_some_iff.mp hi).1
  have hbit := congrArg (BitVec.getLsbD · i) hword
  simp only [getLsbD_word, List.getD_eq_getElem?_getD, hi] at hbit
  rw [List.length_take] at hlength
  simp [show i < w by omega] at hbit

/-- A message and what a burst has made of it leave the register different. -/
theorem feedAll_ne_of_burst (htop : poly.getLsbD (w - 1) = true) (v : BitVec w)
    {bits errors : List Bool} (hlength : bits.length = errors.length)
    (hburst : Confined w errors) (hsome : true ∈ errors) :
    feedAll poly v (List.zipWith Bool.xor bits errors) ≠ feedAll poly v bits := by
  intro hsame
  have hsum := feedAll_xor poly (v := v) (u := 0#w) hlength
  rw [BitVec.xor_zero, hsame] at hsum
  have hcancel := congrArg (feedAll poly v bits ^^^ ·) hsum
  simp only [← BitVec.xor_assoc, BitVec.xor_self, BitVec.zero_xor] at hcancel
  exact feedAll_burst poly htop hburst hsome hcancel.symm

/-! ## Bytes -/

/-- The bits of a byte, the least significant first. -/
def byteBitsLe (b : UInt8) : List Bool := (List.range 8).map b.toBitVec.getLsbD

/-- The bits of a message of bytes. -/
def bitsOf (bytes : List UInt8) : List Bool := bytes.flatMap byteBitsLe

theorem length_bitsOf (bytes : List UInt8) : (bitsOf bytes).length = bytes.length * 8 :=
  length_flatMap_mul (f := byteBitsLe) (fun _ => rfl) bytes

/-- Where a byte of the error has a one, the byte of the message is changed. -/
def damaged (bytes errors : List UInt8) : List UInt8 := List.zipWith (· ^^^ ·) bytes errors

theorem bitsOf_damaged {bytes errors : List UInt8} (hlength : bytes.length = errors.length) :
    bitsOf (damaged bytes errors) = List.zipWith Bool.xor (bitsOf bytes) (bitsOf errors) := by
  induction bytes generalizing errors with
  | nil => rfl
  | cons b bytes ih =>
    cases errors with
    | nil => exact absurd hlength (by simp)
    | cons e errors =>
      have hbyte : byteBitsLe (b ^^^ e) = List.zipWith Bool.xor (byteBitsLe b) (byteBitsLe e) := by
        unfold byteBitsLe
        rw [List.zipWith_map, List.zipWith_self, UInt8.toBitVec_xor]
        exact List.map_congr_left fun i _ => BitVec.getLsbD_xor
      show byteBitsLe (b ^^^ e) ++ bitsOf (damaged bytes errors) = _
      rw [hbyte, ih (Nat.succ.inj hlength)]
      have height : (byteBitsLe b).length = (byteBitsLe e).length := rfl
      exact (List.zipWith_append height).symm

/-- An error that is not zero has a bit that is not. -/
theorem true_mem_bitsOf {errors : List UInt8} (h : ∃ e ∈ errors, e ≠ 0) :
    true ∈ bitsOf errors := by
  obtain ⟨e, he, hne⟩ := h
  refine List.mem_flatMap.mpr ⟨e, he, ?_⟩
  by_contra hnone
  refine hne (UInt8.toBitVec_inj.mp (BitVec.eq_of_getLsbD_eq fun i hi => ?_))
  have hbit : e.toBitVec.getLsbD i ≠ true := fun htrue =>
    hnone (List.mem_map.mpr ⟨i, List.mem_range.mpr hi, htrue⟩)
  simpa using hbit

/-- A byte and its bits. -/
theorem word_byteBitsLe (b : UInt8) : word w (byteBitsLe b) = b.toBitVec.setWidth w := by
  refine BitVec.eq_of_getLsbD_eq fun i hi => ?_
  rw [getLsbD_word, BitVec.getLsbD_setWidth, List.getD_eq_getElem?_getD]
  unfold byteBitsLe
  rw [List.getElem?_map]
  by_cases hbyte : i < 8
  · rw [List.getElem?_range hbyte]
    rfl
  · rw [List.getElem?_eq_none (by simpa using hbyte), BitVec.getLsbD_of_ge b.toBitVec i (by omega)]
    rfl

end UdsIsoTp.Crc
