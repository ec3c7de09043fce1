import UdsIsoTp.Flash.NorFlash
import UdsIsoTp.Flash.StoreLog

/-!
# What a save leaves in the flash

On a NOR flash that may lose power a save gets some way: it erases the first bytes of a sector
it enters, then writes the first bytes of the payload, then the first bytes of the header
(`SavedTo`). What the scan makes of that is the subject of `StoreSlots`.
-/

namespace UdsIsoTp.Flash

/-- The store is on a NOR flash. -/
structure OnNor (L : UdsParamStore NorFlash) (erased : UInt8) : Prop where
  port : ∃ sectorSize granule raw, L.port = norPort sectorSize granule raw ∧
    erased = norErased raw ∧ L.sectorSize = sectorSize.toNat
  erasedByte : L.erasedByte = erased

theorem OnNor.healthy {L : UdsParamStore NorFlash} {erased : UInt8} (h : OnNor L erased) :
    Healthy L.port NorFlash.mem := by
  obtain ⟨sectorSize, granule, raw, hport, -, -⟩ := h.port
  rw [hport]
  exact ⟨fun _ _ _ => rfl⟩

/-- The header of item `n`. -/
def itemHeader (L : UdsParamStore NorFlash) (n : Nat) (data : Buf) : UdsParamSlotHeader where
  magic := paramMagic
  seq := serial n
  dataSize := UInt16.ofNat L.dataSize
  crc := udsCrc16Ccitt (data.slice 0 L.dataSize)

section Save

variable {L : UdsParamStore NorFlash} {erased : UInt8}

/-- The slot is erased. -/
def SlotBlank (L : UdsParamStore NorFlash) (erased : UInt8) (mem : Buf) (r : Nat) : Prop :=
  Blank erased mem (slotStart L r) L.slotSize

/-- The memory after the first `bytes` of the erase of a sector. -/
def erasing (L : UdsParamStore NorFlash) (erased : UInt8) (mem : Buf) (r bytes : Nat) : Buf :=
  mem.copy (sectorStart L r) (fun _ => erased) 0 bytes

/-- What a save of item `n` leaves: `j` bytes of an erase, `k` of the payload, `h` of the
header. -/
structure SavedTo (hsound : Sound L) (erased : UInt8) (n : Nat) (data : Buf) (w : NorFlash)
    (out : UdsParamStatus × UdsParamStore NorFlash × NorFlash) (j k h : Nat) : Prop where
  erased_le : j ≤ L.sectorSize
  stays : ¬hsound.ring.Enters n → j = 0
  payload_le : k ≤ L.payloadSizeAligned
  header_le : h ≤ L.headerSize
  entered : 0 < k → hsound.ring.Enters n → j = L.sectorSize
  committed : 0 < h → k = L.payloadSizeAligned
  mem : out.2.2.mem =
    ((erasing L erased w.mem (hsound.ring.home n) j).copy
      (slotStart L (hsound.ring.home n) + L.headerSize) (padded erased data L.dataSize) 0 k).copy
      (slotStart L (hsound.ring.home n))
      (padded erased (Buf.ofList (encodeHeader erased (itemHeader L n data))) slotHeaderSize) 0 h
  ground : Blank erased (erasing L erased w.mem (hsound.ring.home n) j)
    (slotStart L (hsound.ring.home n) + L.headerSize) k
  result : out.1 = .ok ∧ out.2.1 = resumedAt L hsound (n + 1) ∧ k = L.payloadSizeAligned ∧
      h = L.headerSize ∨
    out.1 = .err ∧ out.2.1 = resumedAt L hsound n
  powered : w.cut = none → out.2.2.cut = none ∧
    (hsound.ring.Enters n ∨ Blank erased w.mem (slotStart L (hsound.ring.home n))
      (L.headerSize + L.payloadSizeAligned) → out.1 = .ok)
  whole : w.Whole → out.2.2.Whole ∧ (h = 0 ∨ slotHeaderSize ≤ h)

/-- The erase before a save. -/
theorem prepare_outcome (hsound : Sound L) (hnor : OnNor L erased) (n : Nat) (w : NorFlash) :
    ∃ j, j ≤ L.sectorSize ∧ (¬hsound.ring.Enters n → j = 0) ∧
      (prepareNextSlot (resumedAt L hsound n) w).2.mem
        = erasing L erased w.mem (hsound.ring.home n) j ∧
      ((prepareNextSlot (resumedAt L hsound n) w).1 = none ∨
        (prepareNextSlot (resumedAt L hsound n) w).1 = some
          (hsound.ring.home n / L.slotsPerSector, hsound.ring.home n % L.slotsPerSector) ∧
        (hsound.ring.Enters n → j = L.sectorSize)) ∧
      (w.cut = none → (prepareNextSlot (resumedAt L hsound n) w).2.cut = none ∧
        (prepareNextSlot (resumedAt L hsound n) w).1 ≠ none) ∧
      (w.Whole → (prepareNextSlot (resumedAt L hsound n) w).2.Whole) := by
  obtain ⟨sectorSize, granule, raw, hport, rfl, hsector⟩ := hnor.port
  have herase : L.port.erase = norErase L.sectorSize (norErased raw) := by
    rw [hport, hsector]
    rfl
  rw [prepareNextSlot_resumedAt, herase]
  by_cases henters : hsound.ring.Enters n
  · rw [if_pos henters]
    refine ⟨(w.spend L.sectorSize).1, w.spend_le _, fun hnot => absurd henters hnot, rfl, ?_,
      fun hpower => ?_, fun hbetween => (hbetween.spend L.sectorSize).2⟩
    · by_cases hdone : (w.spend L.sectorSize).2.1 = true
      · exact .inr ⟨if_pos hdone, fun _ => NorFlash.spend_done hdone⟩
      · exact .inl (if_neg hdone)
    · unfold norErase
      dsimp only
      rw [NorFlash.spend_powered hpower]
      exact ⟨rfl, by simp⟩
  · rw [if_neg henters]
    refine ⟨0, Nat.zero_le _, fun _ => rfl, ?_, .inr ⟨rfl, fun h => absurd h henters⟩,
      fun hpower => ⟨hpower, by simp⟩, fun hbetween => hbetween⟩
    unfold erasing
    rw [Buf.copy_zero]

/-- With power, a save takes the slot of the next item. -/
theorem prepare_powered (hsound : Sound L) (hnor : OnNor L erased) (n : Nat) {w : NorFlash}
    (hpower : w.cut = none) : (prepareNextSlot (resumedAt L hsound n) w).1
      = some (hsound.ring.home n / L.slotsPerSector, hsound.ring.home n % L.slotsPerSector) := by
  obtain ⟨_, -, -, -, hprepared, hpowered, -⟩ := prepare_outcome hsound hnor n w
  exact (hprepared.resolve_left (hpowered hpower).2).1

theorem saveHeader_resumedAt (hsound : Sound L) (n : Nat) (data : Buf) :
    saveHeader (resumedAt L hsound n) data = itemHeader L n data := by cases n <;> rfl

theorem resumedAt_erasedByte (hsound : Sound L) (hnor : OnNor L erased) (n : Nat) :
    (resumedAt L hsound n).erasedByte = erased := by
  rw [← hnor.erasedByte]
  cases n <;> rfl

/-- A save writes the payload behind the header's place, and the header only if that went well. -/
theorem writeSlot_resumedAt (hsound : Sound L) (hnor : OnNor L erased) (n : Nat) (data : Buf)
    (w : NorFlash) :
    let addr := slotStart L (hsound.ring.home n)
    let payload := writePaddedChunked (resumedAt L hsound n) (addr + L.headerSize) data L.dataSize
      L.payloadSizeAligned 0 w
    writeSlot (resumedAt L hsound n) data (hsound.ring.home n / L.slotsPerSector)
      (hsound.ring.home n % L.slotsPerSector) w =
      if ¬payload.1 then (false, payload.2)
      else writePaddedChunked (resumedAt L hsound n) addr
        (Buf.ofList (encodeHeader erased (itemHeader L n data))) slotHeaderSize L.headerSize 0
        payload.2 := by
  have hfits := hsound.slot_fits (hsound.ring.home_lt n)
  have hpayload := hsound.payload
  have hdata := hsound.data_pos
  have haddr : slotAddr (resumedAt L hsound n) (hsound.ring.home n / L.slotsPerSector)
      (hsound.ring.home n % L.slotsPerSector) = slotStart L (hsound.ring.home n) := by
    rw [← hsound.slotAddr_eq (hsound.ring.home_lt n)]
    cases n <;> rfl
  have hbehind : slotStart L (hsound.ring.home n) + L.headerSize < 2 ^ 32 := by omega
  dsimp only
  unfold writeSlot
  rw [haddr, saveHeader_resumedAt, resumedAt_erasedByte hsound hnor, resumedAt_headerSize,
    resumedAt_dataSize, resumedAt_payloadSizeAligned]
  dsimp only
  rw [Nat.mod_eq_of_lt hbehind]

/-- The payload and then the header of a save. -/
theorem writeSlot_outcome (hsound : Sound L) (hnor : OnNor L erased) (n : Nat) (data : Buf)
    (w : NorFlash) :
    ∃ k h, k ≤ L.payloadSizeAligned ∧ h ≤ L.headerSize ∧ (0 < h → k = L.payloadSizeAligned) ∧
      (writeSlot (resumedAt L hsound n) data (hsound.ring.home n / L.slotsPerSector)
          (hsound.ring.home n % L.slotsPerSector) w).2.mem =
        (w.mem.copy (slotStart L (hsound.ring.home n) + L.headerSize)
          (padded erased data L.dataSize) 0 k).copy (slotStart L (hsound.ring.home n))
          (padded erased (Buf.ofList (encodeHeader erased (itemHeader L n data))) slotHeaderSize)
          0 h ∧
      Blank erased w.mem (slotStart L (hsound.ring.home n) + L.headerSize) k ∧
      ((writeSlot (resumedAt L hsound n) data (hsound.ring.home n / L.slotsPerSector)
          (hsound.ring.home n % L.slotsPerSector) w).1 = true →
        k = L.payloadSizeAligned ∧ h = L.headerSize) ∧
      (w.cut = none →
        (writeSlot (resumedAt L hsound n) data (hsound.ring.home n / L.slotsPerSector)
          (hsound.ring.home n % L.slotsPerSector) w).2.cut = none ∧
        (Blank erased w.mem (slotStart L (hsound.ring.home n))
            (L.headerSize + L.payloadSizeAligned) →
          (writeSlot (resumedAt L hsound n) data (hsound.ring.home n / L.slotsPerSector)
            (hsound.ring.home n % L.slotsPerSector) w).1 = true)) ∧
      (w.Whole → (writeSlot (resumedAt L hsound n) data (hsound.ring.home n / L.slotsPerSector)
          (hsound.ring.home n % L.slotsPerSector) w).2.Whole ∧ (h = 0 ∨ slotHeaderSize ≤ h)) := by
  have hrun := writeSlot_resumedAt hsound hnor n data w
  have hbyte := resumedAt_erasedByte hsound hnor n
  obtain ⟨sectorSize, granule, raw, hport, rfl, -⟩ := hnor.port
  have hstore : (resumedAt L hsound n).port = norPort sectorSize granule raw := by
    rw [resumedAt_port, hport]
  have hfits := hsound.slot_fits (hsound.ring.home_lt n)
  dsimp only at hrun
  generalize slotStart L (hsound.ring.home n) = addr at *
  rw [hrun]
  obtain ⟨k, hp⟩ := writePadded_outcome hstore hbyte hfits data L.dataSize 0 w (Nat.zero_le _)
  generalize writePaddedChunked (resumedAt L hsound n) (addr + L.headerSize) data L.dataSize
    L.payloadSizeAligned 0 w = payload at *
  have hmem := hp.mem
  have hground := hp.ground
  have hpowered := hp.powered
  have hheader : 16 ≤ L.headerSize := hsound.header
  rw [Nat.add_zero, Nat.sub_zero] at hmem hground hpowered
  -- the header is written behind a whole payload only
  by_cases hdone : payload.1 = true
  · rw [if_neg (not_not.mpr hdone)]
    obtain rfl := hp.complete hdone
    obtain ⟨h, hh⟩ := writePadded_outcome hstore hbyte (show addr + L.headerSize ≤ 2 ^ 32 by omega)
      (Buf.ofList (encodeHeader (norErased raw) (itemHeader L n data))) slotHeaderSize 0 payload.2
      (Nat.zero_le _)
    have hmem' := hh.mem
    have hpowered' := hh.powered
    rw [Nat.add_zero, Nat.sub_zero] at hmem' hpowered'
    refine ⟨_, h, Nat.le_refl _, hh.within, fun _ => rfl, by rw [hmem', hmem], hground,
      fun hok => ⟨rfl, hh.complete hok⟩, fun hcut => ?_, fun hbetween => ?_⟩
    · obtain ⟨hcut', -⟩ := hpowered hcut
      obtain ⟨hcut'', hok⟩ := hpowered' hcut'
      refine ⟨hcut'', fun hblank => hok fun i hi => ?_⟩
      -- the payload lies behind the header's place
      rw [hmem, Buf.copy_outside (by omega)]
      exact hblank i (by omega)
    · obtain ⟨hwhole, hfirst⟩ := hh.whole (hp.whole hbetween).1
      exact ⟨hwhole, hfirst.imp_right fun hle => show 16 ≤ h by omega⟩
  · rw [if_pos hdone]
    refine ⟨k, 0, hp.within, Nat.zero_le _, nofun, by rw [Buf.copy_zero, hmem], hground, nofun,
      fun hcut => ?_, fun hbetween => ⟨(hp.whole hbetween).1, .inl rfl⟩⟩
    obtain ⟨hcut', hok⟩ := hpowered hcut
    refine ⟨hcut', fun hblank => absurd (hok ?_) hdone⟩
    exact hblank.mono L.headerSize L.payloadSizeAligned (Nat.le_refl _)

/-- Where a slot is written its cells are blank: a sector that a save enters has been erased. -/
theorem entered_blank (hsound : Sound L) {n j : Nat} {mem : Buf}
    (hentered : hsound.ring.Enters n → j = L.sectorSize)
    (hstays : ¬hsound.ring.Enters n → j = 0)
    (h : hsound.ring.Enters n ∨ Blank erased mem (slotStart L (hsound.ring.home n))
      (L.headerSize + L.payloadSizeAligned)) :
    Blank erased (erasing L erased mem (hsound.ring.home n) j)
      (slotStart L (hsound.ring.home n)) (L.headerSize + L.payloadSizeAligned) := by
  by_cases henters : hsound.ring.Enters n
  · intro i hi
    have hwithin := hsound.slot_within (hsound.ring.home n)
    have hslot := hsound.slot
    have hle := sectorStart_le L (hsound.ring.home n)
    have hoffset : slotStart L (hsound.ring.home n) + i = sectorStart L (hsound.ring.home n)
        + (slotStart L (hsound.ring.home n) + i - sectorStart L (hsound.ring.home n)) := by omega
    unfold erasing
    rw [hentered henters, hoffset, Buf.copy_inside (by omega)]
  · rw [hstays henters]
    unfold erasing
    rw [Buf.copy_zero]
    exact h.resolve_left henters

theorem save_outcome (hsound : Sound L) (hnor : OnNor L erased) (n : Nat) (data : Buf)
    (w : NorFlash) :
    ∃ j k h, SavedTo hsound erased n data w (udsParamSave (resumedAt L hsound n) data w) j k h := by
  obtain ⟨j, hj, hstays, hmem, hprepared, hpowered, hbetween⟩ := prepare_outcome hsound hnor n w
  have hpos : 0 < L.payloadSizeAligned := Nat.lt_of_lt_of_le hsound.data_pos hsound.payload
  unfold udsParamSave
  rw [if_neg (by simp)]
  generalize prepareNextSlot (resumedAt L hsound n) w = prepared at *
  obtain ⟨slot, w'⟩ := prepared
  dsimp only at hmem hprepared hpowered hbetween ⊢
  obtain rfl | ⟨rfl, hentered⟩ := hprepared
  · -- the erase has failed
    refine ⟨j, 0, 0, hj, hstays, Nat.zero_le _, Nat.zero_le _,
      fun h => absurd h (Nat.lt_irrefl 0), fun h => absurd h (Nat.lt_irrefl 0), ?_,
      fun _ hi => absurd hi (Nat.not_lt_zero _), .inr ⟨rfl, rfl⟩,
      fun hcut => absurd rfl (hpowered hcut).2, fun hcut => ⟨hbetween hcut, .inl rfl⟩⟩
    rw [Buf.copy_zero, Buf.copy_zero]
    exact hmem
  · obtain ⟨k, h, hk, hh, hcommitted, hwritten, hground, hcomplete, hwrote, hwhole⟩ :=
      writeSlot_outcome hsound hnor n data w'
    rw [hmem] at hwritten hground hwrote
    dsimp only
    generalize writeSlot (resumedAt L hsound n) data (hsound.ring.home n / L.slotsPerSector)
      (hsound.ring.home n % L.slotsPerSector) w' = written at *
    have hentered' : 0 < k → hsound.ring.Enters n → j = L.sectorSize := fun _ => hentered
    -- a save that reports success has written the slot whole
    by_cases hdone : written.1 = true
    · rw [if_neg (not_not.mpr hdone)]
      obtain ⟨hkfull, hhfull⟩ := hcomplete hdone
      refine ⟨j, k, h, hj, hstays, hk, hh, hentered', hcommitted, hwritten, hground,
        .inl ⟨rfl, ?_, hkfull, hhfull⟩, fun hcut => ⟨?_, fun _ => rfl⟩,
        fun hcut => hwhole (hbetween hcut)⟩
      · have hnext : seqAfter (resumedAt L hsound n).nextSeq = serial (n + 1) := by
          rw [resumedAt_nextSeq, serial_succ]
          rfl
        rw [hnext]
        cases n <;> rfl
      · exact (hwrote (hpowered hcut).1).1
    · rw [if_pos hdone]
      refine ⟨j, k, h, hj, hstays, hk, hh, hentered', hcommitted, hwritten, hground,
        .inr ⟨rfl, rfl⟩, fun hcut => ?_, fun hcut => hwhole (hbetween hcut)⟩
      -- with power, a write into a blank slot cannot fail
      obtain ⟨hcut', hok⟩ := hwrote (hpowered hcut).1
      exact ⟨hcut', fun hready => absurd (hok (entered_blank hsound hentered hstays hready)) hdone⟩

end Save

end UdsIsoTp.Flash
