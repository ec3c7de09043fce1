import Mathlib.Data.List.GetD

/-!
# Integers as bytes

Little-endian fields of 16 and 32 bits, as a structure in memory has them. Reading what was
written gives it back (`getU32Le_append`), and so does writing what was read
(`putU32Le_getU32Le`).
-/

namespace UdsIsoTp

/-- Two bytes, the low one first. -/
def putU16Le (v : UInt16) : List UInt8 := [v.toUInt8, (v >>> 8).toUInt8]

/-- Four bytes, the low one first. -/
def putU32Le (v : UInt32) : List UInt8 :=
  [v.toUInt8, (v >>> 8).toUInt8, (v >>> 16).toUInt8, (v >>> 24).toUInt8]

/-- The number that two bytes make, the low one first. -/
def getU16Le (bytes : List UInt8) (i : Nat) : UInt16 :=
  UInt16.ofNat ((bytes.getD i 0).toNat + 256 * (bytes.getD (i + 1) 0).toNat)

/-- The number that four bytes make, the low one first. -/
def getU32Le (bytes : List UInt8) (i : Nat) : UInt32 :=
  UInt32.ofNat ((bytes.getD i 0).toNat + 256 * (bytes.getD (i + 1) 0).toNat
    + 65536 * (bytes.getD (i + 2) 0).toNat + 16777216 * (bytes.getD (i + 3) 0).toNat)

@[simp] theorem length_putU16Le (v : UInt16) : (putU16Le v).length = 2 := rfl

@[simp] theorem length_putU32Le (v : UInt32) : (putU32Le v).length = 4 := rfl

theorem putU32Le_getD (v : UInt32) :
    ((putU32Le v).getD 0 0).toNat + 256 * ((putU32Le v).getD 1 0).toNat
      + 65536 * ((putU32Le v).getD 2 0).toNat + 16777216 * ((putU32Le v).getD 3 0).toNat
      = v.toNat := by
  have hv := v.toNat_lt
  simp only [putU32Le, List.getD_cons_zero, List.getD_cons_succ, UInt32.toNat_toUInt8,
    UInt32.toNat_shiftRight, Nat.shiftRight_eq_div_pow]
  show v.toNat % 256 + 256 * (v.toNat / 256 % 256) + 65536 * (v.toNat / 65536 % 256)
    + 16777216 * (v.toNat / 16777216 % 256) = v.toNat
  omega

theorem putU16Le_getD (v : UInt16) :
    ((putU16Le v).getD 0 0).toNat + 256 * ((putU16Le v).getD 1 0).toNat = v.toNat := by
  have hv := v.toNat_lt
  simp only [putU16Le, List.getD_cons_zero, List.getD_cons_succ, UInt16.toNat_toUInt8,
    UInt16.toNat_shiftRight, Nat.shiftRight_eq_div_pow]
  show v.toNat % 256 + 256 * (v.toNat / 256 % 256) = v.toNat
  omega

theorem getU16Le_append (before after : List UInt8) (v : UInt16) {i : Nat}
    (hi : before.length = i) : getU16Le (before ++ (putU16Le v ++ after)) i = v := by
  subst hi
  have hget : ∀ j < 2, (before ++ (putU16Le v ++ after)).getD (before.length + j) 0
      = (putU16Le v).getD j 0 := by
    intro j hj
    rw [List.getD_append_right _ _ _ _ (Nat.le_add_right ..), Nat.add_sub_cancel_left,
      List.getD_append _ _ _ _ (by simpa using hj)]
  unfold getU16Le
  rw [show before.length = before.length + 0 from rfl, hget 0 (by decide), Nat.add_zero,
    hget 1 (by decide), putU16Le_getD]
  exact UInt16.ofNat_toNat

/-- A field is read back from where it was written. -/
theorem getU32Le_append (before after : List UInt8) (v : UInt32) {i : Nat}
    (hi : before.length = i) : getU32Le (before ++ (putU32Le v ++ after)) i = v := by
  subst hi
  have hget : ∀ j < 4, (before ++ (putU32Le v ++ after)).getD (before.length + j) 0
      = (putU32Le v).getD j 0 := by
    intro j hj
    rw [List.getD_append_right _ _ _ _ (Nat.le_add_right ..), Nat.add_sub_cancel_left,
      List.getD_append _ _ _ _ (by simpa using hj)]
  unfold getU32Le
  rw [show before.length = before.length + 0 from rfl, hget 0 (by decide),
    Nat.add_zero, hget 1 (by decide), hget 2 (by decide), hget 3 (by decide), putU32Le_getD]
  exact UInt32.ofNat_toNat

theorem putU16Le_injective : Function.Injective putU16Le := by
  intro v w h
  have hv := getU16Le_append [] [] v rfl
  rw [h, getU16Le_append [] [] w rfl] at hv
  exact hv.symm

theorem putU32Le_injective : Function.Injective putU32Le := by
  intro v w h
  have hv := getU32Le_append [] [] v rfl
  rw [h, getU32Le_append [] [] w rfl] at hv
  exact hv.symm

/-! ## Fields written back -/

/-- The four bytes from an index on. -/
theorem take_four {bytes : List UInt8} {i : Nat} (h : i + 4 ≤ bytes.length) :
    (bytes.drop i).take 4
      = [bytes.getD i 0, bytes.getD (i + 1) 0, bytes.getD (i + 2) 0, bytes.getD (i + 3) 0] := by
  rw [List.getD_eq_getElem _ _ (by omega), List.getD_eq_getElem _ _ (by omega),
    List.getD_eq_getElem _ _ (by omega), List.getD_eq_getElem _ _ (by omega),
    List.drop_eq_getElem_cons (by omega), List.drop_eq_getElem_cons (by omega),
    List.drop_eq_getElem_cons (by omega), List.drop_eq_getElem_cons (by omega)]
  rfl

theorem take_two {bytes : List UInt8} {i : Nat} (h : i + 2 ≤ bytes.length) :
    (bytes.drop i).take 2 = [bytes.getD i 0, bytes.getD (i + 1) 0] := by
  rw [List.getD_eq_getElem _ _ (by omega), List.getD_eq_getElem _ _ (by omega),
    List.drop_eq_getElem_cons (by omega), List.drop_eq_getElem_cons (by omega)]
  rfl

/-- A field that has been read is written as the bytes it was read from. -/
theorem putU32Le_getU32Le {bytes : List UInt8} {i : Nat} (h : i + 4 ≤ bytes.length) :
    putU32Le (getU32Le bytes i) = (bytes.drop i).take 4 := by
  rw [take_four h]
  unfold putU32Le getU32Le
  generalize bytes.getD i 0 = a
  generalize bytes.getD (i + 1) 0 = b
  generalize bytes.getD (i + 2) 0 = c
  generalize bytes.getD (i + 3) 0 = d
  have ha := a.toNat_lt
  have hb := b.toNat_lt
  have hc := c.toNat_lt
  have hd := d.toNat_lt
  have hvalue : (UInt32.ofNat (a.toNat + 256 * b.toNat + 65536 * c.toNat
      + 16777216 * d.toNat)).toNat
        = a.toNat + 256 * b.toNat + 65536 * c.toNat + 16777216 * d.toNat :=
    UInt32.toNat_ofNat_of_lt' (show _ < 4294967296 by omega)
  generalize UInt32.ofNat (a.toNat + 256 * b.toNat + 65536 * c.toNat + 16777216 * d.toNat) = v
    at hvalue
  have hfirst : v.toUInt8 = a := by
    rw [← UInt8.toNat_inj, UInt32.toNat_toUInt8, hvalue]
    omega
  have hsecond : (v >>> 8).toUInt8 = b := by
    rw [← UInt8.toNat_inj, UInt32.toNat_toUInt8, UInt32.toNat_shiftRight, hvalue,
      Nat.shiftRight_eq_div_pow]
    show (a.toNat + 256 * b.toNat + 65536 * c.toNat + 16777216 * d.toNat) / 256 % 256 = b.toNat
    omega
  have hthird : (v >>> 16).toUInt8 = c := by
    rw [← UInt8.toNat_inj, UInt32.toNat_toUInt8, UInt32.toNat_shiftRight, hvalue,
      Nat.shiftRight_eq_div_pow]
    show (a.toNat + 256 * b.toNat + 65536 * c.toNat + 16777216 * d.toNat) / 65536 % 256 = c.toNat
    omega
  have hfourth : (v >>> 24).toUInt8 = d := by
    rw [← UInt8.toNat_inj, UInt32.toNat_toUInt8, UInt32.toNat_shiftRight, hvalue,
      Nat.shiftRight_eq_div_pow]
    show (a.toNat + 256 * b.toNat + 65536 * c.toNat + 16777216 * d.toNat) / 16777216 % 256
      = d.toNat
    omega
  rw [hfirst, hsecond, hthird, hfourth]

theorem putU16Le_getU16Le {bytes : List UInt8} {i : Nat} (h : i + 2 ≤ bytes.length) :
    putU16Le (getU16Le bytes i) = (bytes.drop i).take 2 := by
  rw [take_two h]
  unfold putU16Le getU16Le
  generalize bytes.getD i 0 = a
  generalize bytes.getD (i + 1) 0 = b
  have ha := a.toNat_lt
  have hb := b.toNat_lt
  have hvalue : (UInt16.ofNat (a.toNat + 256 * b.toNat)).toNat = a.toNat + 256 * b.toNat :=
    UInt16.toNat_ofNat_of_lt' (show _ < 65536 by omega)
  generalize UInt16.ofNat (a.toNat + 256 * b.toNat) = v at hvalue
  have hfirst : v.toUInt8 = a := by
    rw [← UInt8.toNat_inj, UInt16.toNat_toUInt8, hvalue]
    omega
  have hsecond : (v >>> 8).toUInt8 = b := by
    rw [← UInt8.toNat_inj, UInt16.toNat_toUInt8, UInt16.toNat_shiftRight, hvalue,
      Nat.shiftRight_eq_div_pow]
    show (a.toNat + 256 * b.toNat) / 256 % 256 = b.toNat
    omega
  rw [hfirst, hsecond]

/-- What holds of the 256 bytes holds of every byte. -/
theorem forall_byte {p : UInt8 → Prop} (h : ∀ i : Fin 256, p (UInt8.ofNat i)) (b : UInt8) : p b := by
  have hb := h ⟨b.toNat, b.toNat_lt⟩
  simpa using hb

/-- No number of the list is a bit of `seen` or comes twice. -/
def allNew : Nat → List Nat → Bool
  | _, [] => true
  | seen, n :: rest => !seen.testBit n && allNew (seen ||| 1 <<< n) rest

theorem allNew_spec : ∀ {seen : Nat} {l : List Nat}, allNew seen l = true →
    (∀ n ∈ l, seen.testBit n = false) ∧ l.Nodup
  | _, [], _ => ⟨by simp, List.nodup_nil⟩
  | seen, n :: rest, h => by
    rw [allNew, Bool.and_eq_true, Bool.not_eq_true'] at h
    obtain ⟨hseen, hrest⟩ := allNew_spec h.2
    simp only [Nat.testBit_or, Nat.shiftLeft_eq, Nat.one_mul, Nat.testBit_two_pow,
      Bool.or_eq_false_iff, decide_eq_false_iff_not] at hseen
    refine ⟨fun m hm => ?_, List.nodup_cons.mpr ⟨fun hm => (hseen n hm).2 rfl, hrest⟩⟩
    rcases List.mem_cons.mp hm with rfl | hm
    · exact h.1
    · exact (hseen m hm).1

/-- A list of small numbers without repetition, checked bit by bit. -/
theorem nodup_of_allNew {l : List Nat} (h : allNew 0 l = true) : l.Nodup := (allNew_spec h).2

end UdsIsoTp
