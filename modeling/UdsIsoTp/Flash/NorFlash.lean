import UdsIsoTp.Flash.ParamStore

/-!
# NOR flash that can lose power

A flash behind the port of a parameter store: an erase sets a sector to the erased byte, and
a write to bytes that are not all erased is rejected. Reads are healthy.

Power may be lost, or an operation fail, at any of them: `cut` says how many erases and writes
are still done in full, and how many bytes of the one after them. `writePadded_outcome` is
what that leaves of a padded write: the first bytes of it, on blank ground.
-/

namespace UdsIsoTp.Flash

/-- The bytes of the flash, and how much power there is left. -/
structure NorFlash where
  mem : Buf
  cut : Option (Nat × Nat)

/-- The bytes of an operation that are done, whether it succeeds, and what is left of the
power. -/
def NorFlash.spend (w : NorFlash) (length : Nat) : Nat × Bool × Option (Nat × Nat) :=
  match w.cut with
  | none => (length, true, none)
  | some (0, bytes) => (min bytes length, false, some (0, 0))
  | some (operations + 1, bytes) => (length, true, some (operations, bytes))

/-- Power is lost between two operations, if it is lost. -/
def NorFlash.Whole (w : NorFlash) : Prop := ∀ cut ∈ w.cut, cut.2 = 0

/-- All bytes of the window are erased. -/
def Blank (erased : UInt8) (mem : Buf) (addr length : Nat) : Prop :=
  ∀ i < length, mem (addr + i) = erased

instance (erased : UInt8) (mem : Buf) (addr length : Nat) :
    Decidable (Blank erased mem addr length) :=
  inferInstanceAs (Decidable (∀ i < length, mem (addr + i) = erased))

/-- A sector takes the erased value, as far as the power goes. -/
def norErase (sectorSize : Nat) (erased : UInt8) (w : NorFlash) (addr : Nat) : Bool × NorFlash :=
  let (bytes, done, cut) := w.spend sectorSize
  (done, ⟨w.mem.copy addr (fun _ => erased) 0 bytes, cut⟩)

/-- Bytes go into blank cells, as far as the power goes. -/
def norWrite (erased : UInt8) (w : NorFlash) (addr : Nat) (data : List UInt8) :
    Bool × NorFlash :=
  if Blank erased w.mem addr data.length then
    let (bytes, done, cut) := w.spend data.length
    (done, ⟨w.mem.copy addr (Buf.ofList data) 0 bytes, cut⟩)
  else (false, w)

/-- The byte that an erase leaves; the store takes a port's zero for `0xFF`. -/
def norErased (erased : UInt8) : UInt8 := if erased ≠ 0 then erased else 0xFF

/-- The drivers of such a flash. -/
def norPort (sectorSize : UInt32) (granule erased : UInt8) : UdsFlashPort NorFlash where
  erase := norErase sectorSize.toNat (norErased erased)
  read := fun w addr length => (some (w.mem.slice addr length), w)
  write := norWrite (norErased erased)
  sectorSize := fun _ => sectorSize
  programGranule := granule
  erasedByte := erased

/-! ## Power -/

theorem NorFlash.spend_le (w : NorFlash) (length : Nat) : (w.spend length).1 ≤ length := by
  unfold NorFlash.spend
  split
  next => exact Nat.le_refl _
  next => exact Nat.min_le_right ..
  next => exact Nat.le_refl _

theorem NorFlash.spend_done {w : NorFlash} {length : Nat} (h : (w.spend length).2.1 = true) :
    (w.spend length).1 = length := by
  unfold NorFlash.spend at h ⊢
  split
  next => rfl
  next hcut =>
    rw [hcut] at h
    exact Bool.noConfusion h
  next => rfl

theorem NorFlash.spend_powered {w : NorFlash} (h : w.cut = none) (length : Nat) :
    w.spend length = (length, true, none) := by
  unfold NorFlash.spend
  rw [h]

/-- An operation is done or it is not. -/
theorem NorFlash.Whole.spend {w : NorFlash} (h : w.Whole) (length : Nat) :
    ((w.spend length).1 = 0 ∨ (w.spend length).2.1 = true) ∧
      ∀ cut ∈ (w.spend length).2.2, cut.2 = 0 := by
  unfold NorFlash.spend
  split
  next => exact ⟨.inr rfl, fun cut hcut => absurd hcut (by simp)⟩
  next bytes hcut =>
    have hbytes : bytes = 0 := h _ hcut
    rw [hbytes]
    exact ⟨.inl (Nat.zero_min _), fun cut hcut => by rw [← Option.some.inj hcut]⟩
  next operations bytes hcut =>
    have hbytes : bytes = 0 := h _ hcut
    exact ⟨.inr rfl, fun cut hcut => by rw [← Option.some.inj hcut, hbytes]⟩

theorem Blank.mono {erased : UInt8} {mem : Buf} {addr length : Nat}
    (h : Blank erased mem addr length) (start n : Nat) (hin : start + n ≤ length) :
    Blank erased mem (addr + start) n := by
  intro i hi
  rw [Nat.add_assoc]
  exact h (start + i) (by omega)

/-! ## Padded writes -/

/-- The source and the padding behind it. -/
def padded (erased : UInt8) (src : Buf) (srcSize : Nat) : Buf :=
  fun i => if i < srcSize then src i else erased

theorem paddedChunk_eq (erased : UInt8) (src : Buf) (srcSize written length : Nat) :
    paddedChunk erased src srcSize written length
      = (padded erased src srcSize).slice written length := by
  have hsplit : length = min (srcSize - written) length
      + (length - min (srcSize - written) length) := by omega
  conv_rhs => rw [hsplit, Buf.slice_append]
  unfold paddedChunk
  congr 1
  · refine Buf.slice_congr fun i hi => ?_
    exact (if_pos (by omega)).symm
  · refine List.ext_getElem (by simp) fun i hi _ => ?_
    rw [List.getElem_replicate, Buf.getElem_slice]
    rw [List.length_replicate] at hi
    exact (if_neg (by omega)).symm

/-- What a write of the bytes from `written` to `total` leaves: those before `k` are there, on
ground that was blank. -/
structure WrittenTo (erased : UInt8) (src : Buf) (addr total written k : Nat) (w : NorFlash)
    (out : Bool × NorFlash) : Prop where
  started : written ≤ k
  within : k ≤ total
  mem : out.2.mem = w.mem.copy (addr + written) src written (k - written)
  ground : Blank erased w.mem (addr + written) (k - written)
  complete : out.1 = true → k = total
  powered : w.cut = none → out.2.cut = none ∧
    (Blank erased w.mem (addr + written) (total - written) → out.1 = true)
  whole : w.Whole → out.2.Whole ∧ (k = written ∨ min total (written + 64) ≤ k)

theorem norWrite_slice (erased : UInt8) (w : NorFlash) (addr : Nat) (src : Buf)
    (start length : Nat) :
    norWrite erased w addr (src.slice start length) =
      if Blank erased w.mem addr length then
        ((w.spend length).2.1,
          ⟨w.mem.copy addr src start (w.spend length).1, (w.spend length).2.2⟩)
      else (false, w) := by
  unfold norWrite
  rw [Buf.length_slice]
  dsimp only
  rw [Buf.copy_ofList_slice _ _ (w.spend_le length)]

section Padded

variable {store : UdsParamStore NorFlash} {sectorSize : UInt32} {granule erased : UInt8}

/-- The next piece of a padded write. -/
theorem writePadded_step (hport : store.port = norPort sectorSize granule erased)
    (herased : store.erasedByte = norErased erased) {addr total written : Nat}
    (haddr : addr + total ≤ 2 ^ 32) (src : Buf) (srcSize : Nat) (w : NorFlash)
    (hmore : written < total) {length : Nat} (hlength : min (total - written) 64 = length) :
    writePaddedChunked store addr src srcSize total written w =
      if Blank (norErased erased) w.mem (addr + written) length then
        if (w.spend length).2.1 then
          writePaddedChunked store addr src srcSize total (written + length)
            ⟨w.mem.copy (addr + written) (padded (norErased erased) src srcSize) written length,
              (w.spend length).2.2⟩
        else (false, ⟨w.mem.copy (addr + written) (padded (norErased erased) src srcSize) written
          (w.spend length).1, (w.spend length).2.2⟩)
      else (false, w) := by
  conv_lhs => unfold writePaddedChunked
  rw [dif_pos hmore, hlength]
  show (match store.port.write w ((addr + written) % 2 ^ 32)
    (paddedChunk store.erasedByte src srcSize written length) with
    | (done, w) => if ¬done then (false, w)
      else writePaddedChunked store addr src srcSize total (written + length) w) = _
  have hwrite : store.port.write = norWrite (norErased erased) := by rw [hport]; rfl
  rw [hwrite, herased, paddedChunk_eq, Nat.mod_eq_of_lt (by omega), norWrite_slice]
  by_cases hblank : Blank (norErased erased) w.mem (addr + written) length
  · rw [if_pos hblank, if_pos hblank]
    dsimp only
    by_cases hdone : (w.spend length).2.1 = true
    · rw [if_neg (not_not.mpr hdone), if_pos hdone, NorFlash.spend_done hdone]
    · rw [if_pos hdone, if_neg hdone]
  · rw [if_neg hblank, if_neg hblank]
    rfl

/-- A write whose first piece is not blank changes nothing. -/
theorem writePadded_rejected (hport : store.port = norPort sectorSize granule erased)
    (herased : store.erasedByte = norErased erased) {addr total : Nat}
    (haddr : addr + total ≤ 2 ^ 32) (src : Buf) (srcSize : Nat) (w : NorFlash)
    (htotal : 0 < total) (hblank : ¬Blank (norErased erased) w.mem addr (min total 64)) :
    writePaddedChunked store addr src srcSize total 0 w = (false, w) := by
  rw [writePadded_step hport herased haddr src srcSize w htotal rfl]
  exact if_neg hblank

theorem blank_copy_behind {erased : UInt8} {mem src : Buf} {addr start length n : Nat} :
    Blank erased (mem.copy addr src start length) (addr + length) n ↔
      Blank erased mem (addr + length) n := by
  unfold Blank
  refine forall₂_congr fun i _ => ?_
  rw [Buf.copy_outside (by omega)]

theorem writePadded_outcome (hport : store.port = norPort sectorSize granule erased)
    (herased : store.erasedByte = norErased erased) {addr total : Nat}
    (haddr : addr + total ≤ 2 ^ 32) (src : Buf) (srcSize written : Nat) (w : NorFlash)
    (hwritten : written ≤ total) :
    ∃ k, WrittenTo (norErased erased) (padded (norErased erased) src srcSize) addr total written k
      w (writePaddedChunked store addr src srcSize total written w) := by
  -- induction on what is left to write
  induction hleft : total - written using Nat.strong_induction_on generalizing written w with
  | _ left ih =>
  by_cases hmore : written < total
  · generalize hlength : min (total - written) 64 = length
    have hpos : 0 < length := by omega
    have hfits : written + length ≤ total := by omega
    rw [writePadded_step hport herased haddr src srcSize w hmore hlength]
    by_cases hblank : Blank (norErased erased) w.mem (addr + written) length
    · rw [if_pos hblank]
      by_cases hdone : (w.spend length).2.1 = true
      · rw [if_pos hdone]
        obtain ⟨k, h⟩ := ih (total - (written + length)) (by omega) (written + length)
          ⟨w.mem.copy (addr + written) (padded (norErased erased) src srcSize) written length,
            (w.spend length).2.2⟩ hfits rfl
        have hstarted := h.started
        have hmem := h.mem
        have hground := h.ground
        have hpowered := h.powered
        have hwhole := h.whole
        dsimp only at hmem hground hpowered
        rw [← Nat.add_assoc] at hmem hground hpowered
        rw [blank_copy_behind] at hground hpowered
        -- this piece and the ones behind it make one copy
        refine ⟨k, by omega, h.within, ?_, ?_, h.complete, fun hpower => ?_, fun hbetween => ?_⟩
        · rw [hmem, Buf.copy_copy, show length + (k - (written + length)) = k - written by omega]
        · intro i hi
          rcases Nat.lt_or_ge i length with hlt | hge
          · exact hblank i hlt
          · have hi' := hground (i - length) (by omega)
            rwa [show addr + written + length + (i - length) = addr + written + i by omega] at hi'
        · have hcut : (w.spend length).2.2 = none := by rw [NorFlash.spend_powered hpower]
          obtain ⟨hnone, hok⟩ := hpowered hcut
          exact ⟨hnone, fun hall => hok (hall.mono length _ (by omega))⟩
        · exact ⟨(hwhole (hbetween.spend length).2).1, .inr (by omega)⟩
      · -- power is lost in this piece
        rw [if_neg hdone]
        have hle := w.spend_le length
        refine ⟨written + (w.spend length).1, by omega, by omega, ?_, ?_, nofun, fun hpower => ?_,
          fun hbetween => ?_⟩
        · rw [Nat.add_sub_cancel_left]
        · rw [Nat.add_sub_cancel_left]
          exact fun i hi => hblank i (by omega)
        · rw [NorFlash.spend_powered hpower] at hdone
          exact absurd rfl hdone
        · obtain ⟨hspent, hcut⟩ := hbetween.spend length
          exact ⟨hcut, .inl (by rw [hspent.resolve_right hdone, Nat.add_zero])⟩
    -- the flash refuses to write over bytes that are not blank
    · rw [if_neg hblank]
      refine ⟨written, Nat.le_refl _, hwritten, ?_, ?_, nofun, fun hpower => ⟨hpower, fun hall => ?_⟩,
        fun hbetween => ⟨hbetween, .inl rfl⟩⟩
      · rw [Nat.sub_self, Buf.copy_zero]
      · exact fun i hi => absurd hi (by omega)
      · exact absurd (hall.mono 0 length (by omega)) hblank
  · have hend : writePaddedChunked store addr src srcSize total written w = (true, w) := by
      unfold writePaddedChunked
      exact dif_neg hmore
    rw [hend]
    refine ⟨written, Nat.le_refl _, hwritten, ?_, ?_, fun _ => by omega,
      fun hpower => ⟨hpower, fun _ => rfl⟩, fun hbetween => ⟨hbetween, .inl rfl⟩⟩
    · rw [Nat.sub_self, Buf.copy_zero]
    · exact fun i hi => absurd hi (by omega)

end Padded

end UdsIsoTp.Flash
