import UdsIsoTp.Flash.StoreSave

/-!
# What the scan makes of a save

A save that got some way leaves the log as it was or with its own item behind it
(`SavedTo.logged`): the slots of other sectors are as they were, those of a sector that is
being erased are gone or as they were, and the slot of the save itself is accepted with its
own data and number, or not at all. A header torn in its number passes only where the erased
byte reads as size and checksum as well (`Confusable`).
-/

namespace UdsIsoTp.Flash

variable {L : UdsParamStore NorFlash} {erased : UInt8}

/-- The first byte of a slot is erased, or that of a header. -/
def HeadBytes (L : UdsParamStore NorFlash) (erased : UInt8) (mem : Buf) : Prop :=
  ∀ r, mem (slotStart L r) = erased ∨ mem (slotStart L r) = 0xDE

/-- Erased bytes read as the size and the checksum of the data. -/
def Confusable (L : UdsParamStore NorFlash) (erased : UInt8) (data : Buf) : Prop :=
  L.dataSize = (le16 erased erased).toNat ∧
    udsCrc16Ccitt (data.slice 0 L.dataSize) = le16 erased erased

theorem not_accepted_erased {mem : Buf} {addr : Nat} (h0 : mem addr = erased)
    (h1 : mem (addr + 1) = erased) : ¬Accepted L mem addr := by
  intro haccepted
  obtain ⟨hlow, hhigh⟩ := haccepted.bytes
  rw [h0] at hlow
  rw [h1, hlow] at hhigh
  exact absurd hhigh (by decide)

theorem slotSeq_none {mem : Buf} {r : Nat} (h : ¬Accepted L mem (slotStart L r)) :
    slotSeq L mem r = none := if_neg h

theorem SlotBlank.seq (hsound : Sound L) {mem : Buf} {r : Nat} (h : SlotBlank L erased mem r) :
    slotSeq L mem r = none := by
  have hheader : 16 ≤ L.headerSize := hsound.header
  have hslot := hsound.slot
  exact slotSeq_none (not_accepted_erased (h 0 (by omega)) (h 1 (by omega)))

/-! ## Erasing -/

section Erase

variable {mem : Buf} {t r j : Nat}

/-- A sector that is not the one being erased stays. -/
theorem erasing_apart (hsound : Sound L) (hj : j ≤ L.sectorSize)
    (hapart : r / L.slotsPerSector ≠ t / L.slotsPerSector) :
    SameSlot L mem (erasing L erased mem t j) r := by
  have hwithin := hsound.slot_within r
  have hle := sectorStart_le L r
  intro i hi
  refine Buf.copy_outside ?_
  rcases Nat.lt_or_gt_of_ne hapart with hlt | hlt
  · have := sectors_apart hlt
    omega
  · have := sectors_apart hlt
    omega

/-- A slot of the sector that is being erased is gone or as it was. -/
theorem erasing_beside (hhead : HeadBytes L erased mem)
    (hbeside : r / L.slotsPerSector = t / L.slotsPerSector) :
    slotSeq L (erasing L erased mem t j) r = none ∨
      SameSlot L mem (erasing L erased mem t j) r := by
  have hstart : sectorStart L t ≤ slotStart L r := by
    have hle := sectorStart_le L r
    unfold sectorStart at hle ⊢
    rwa [← hbeside]
  have hinside : ∀ i, sectorStart L t ≤ i → i < sectorStart L t + j →
      erasing L erased mem t j i = erased := by
    intro i hle hlt
    obtain ⟨d, rfl⟩ := Nat.exists_eq_add_of_le hle
    exact Buf.copy_inside (by omega)
  have houtside : ∀ i, sectorStart L t + j ≤ i → erasing L erased mem t j i = mem i :=
    fun i hle => Buf.copy_outside (.inr hle)
  rcases Nat.lt_or_ge (slotStart L r + 1) (sectorStart L t + j) with htwo | hone
  · left
    exact slotSeq_none (not_accepted_erased (hinside _ hstart (by omega))
      (hinside _ (by omega) htwo))
  · rcases Nat.lt_or_ge (slotStart L r) (sectorStart L t + j) with hfirst | hbehind
    · -- just the first byte is gone
      by_cases haccepted : Accepted L (erasing L erased mem t j) (slotStart L r)
      · right
        have hbyte := hinside _ hstart hfirst
        have hsame : erased = 0xDE := hbyte.symm.trans haccepted.bytes.1
        intro i _
        rcases Nat.eq_zero_or_pos i with rfl | hi
        · rw [Nat.add_zero, hbyte]
          rcases hhead r with h | h
          · exact h.symm
          · exact hsame.trans h.symm
        · exact houtside _ (by omega)
      · exact .inl (slotSeq_none haccepted)
    · exact .inr fun i _ => houtside _ (by omega)

/-- A sector that has been erased is blank. -/
theorem erasing_blank (hsound : Sound L) (hbeside : r / L.slotsPerSector = t / L.slotsPerSector) :
    SlotBlank L erased (erasing L erased mem t L.sectorSize) r := by
  have hwithin := hsound.slot_within r
  have hle := sectorStart_le L r
  have hstart : sectorStart L t = sectorStart L r := by
    unfold sectorStart
    rw [hbeside]
  intro i hi
  unfold erasing
  rw [hstart, show slotStart L r + i = sectorStart L r + (slotStart L r + i - sectorStart L r)
    by omega]
  exact Buf.copy_inside (by omega)

end Erase

/-! ## Slots after a save -/

section Saved

variable {hsound : Sound L} {n j k h : Nat} {data : Buf} {w : NorFlash}
  {out : UdsParamStatus × UdsParamStore NorFlash × NorFlash}

/-- The other slots are what the erase left of them. -/
theorem SavedTo.other (H : SavedTo hsound erased n data w out j k h) {r : Nat}
    (hne : r ≠ hsound.ring.home n) :
    SameSlot L (erasing L erased w.mem (hsound.ring.home n) j) out.2.2.mem r := by
  have hapart := hsound.slots_apart hne
  have hslot := hsound.slot
  have hk := H.payload_le
  have hh := H.header_le
  intro i hi
  rw [H.mem, Buf.copy_outside (by omega), Buf.copy_outside (by omega)]

theorem SavedTo.far (H : SavedTo hsound erased n data w out j k h) {r : Nat}
    (hne : r ≠ hsound.ring.home n)
    (hfar : ¬(hsound.ring.Enters n ∧ hsound.ring.Beside n r)) :
    SameSlot L w.mem out.2.2.mem r := by
  intro i hi
  rw [H.other hne i hi]
  by_cases henters : hsound.ring.Enters n
  · exact erasing_apart hsound H.erased_le (fun hbeside => hfar ⟨henters, hbeside⟩) i hi
  · rw [H.stays henters]
    unfold erasing
    rw [Buf.copy_zero]

/-- A byte of the header of the save's slot. -/
theorem SavedTo.header_byte (H : SavedTo hsound erased n data w out j k h) {i : Nat}
    (hi : i < slotHeaderSize) :
    out.2.2.mem (slotStart L (hsound.ring.home n) + i) =
      if i < h then (encodeHeader erased (itemHeader L n data)).getD i 0
      else erasing L erased w.mem (hsound.ring.home n) j (slotStart L (hsound.ring.home n) + i) := by
  have hheader := hsound.header
  rw [H.mem]
  split
  next hlt =>
    rw [Buf.copy_inside hlt, Nat.zero_add]
    exact if_pos hi
  next hge => rw [Buf.copy_outside (by omega), Buf.copy_outside (by omega)]

/-- The data of the save's slot, once the payload is complete. -/
theorem SavedTo.data_written (H : SavedTo hsound erased n data w out j k h)
    (hk : k = L.payloadSizeAligned) :
    slotData L out.2.2.mem (hsound.ring.home n) = data.slice 0 L.dataSize := by
  have hpayload := hsound.payload
  have hh := H.header_le
  refine Buf.slice_congr fun i hi => ?_
  rw [H.mem, Buf.copy_outside (by omega), Buf.copy_inside (by omega), Nat.zero_add]
  exact if_pos hi

/-- The erase has gone as far as a save that has written anything needs. -/
theorem SavedTo.erased_full (H : SavedTo hsound erased n data w out j k h)
    (hwritten : 0 < k ∨ 0 < h) (henters : hsound.ring.Enters n) : j = L.sectorSize := by
  have hpos : 0 < L.payloadSizeAligned := Nat.lt_of_lt_of_le hsound.data_pos hsound.payload
  rcases hwritten with hk | hh
  · exact H.entered hk henters
  · exact H.entered (by rw [H.committed hh]; exact hpos) henters

theorem SavedTo.headBytes (H : SavedTo hsound erased n data w out j k h)
    (hhead : HeadBytes L erased w.mem) : HeadBytes L erased out.2.2.mem := by
  have herasing : ∀ i, erasing L erased w.mem (hsound.ring.home n) j i = erased ∨
      erasing L erased w.mem (hsound.ring.home n) j i = w.mem i := by
    intro i
    by_cases hin : sectorStart L (hsound.ring.home n) ≤ i ∧
        i < sectorStart L (hsound.ring.home n) + j
    · obtain ⟨d, rfl⟩ := Nat.exists_eq_add_of_le hin.1
      exact .inl (Buf.copy_inside (by omega))
    · exact .inr (Buf.copy_outside (by omega))
  have hbefore : ∀ r, erasing L erased w.mem (hsound.ring.home n) j (slotStart L r) = erased ∨
      erasing L erased w.mem (hsound.ring.home n) j (slotStart L r) = 0xDE := by
    intro r
    rcases herasing (slotStart L r) with h | h
    · exact .inl h
    · rw [h]
      exact hhead r
  intro r
  have hheader : 16 ≤ L.headerSize := hsound.header
  have hslot := hsound.slot
  by_cases hr : r = hsound.ring.home n
  · have hbyte := H.header_byte (i := 0) (by decide)
    rw [Nat.add_zero] at hbyte
    rw [hr, hbyte]
    split
    next => exact .inr (show lowByte paramMagic = 0xDE by decide)
    next => exact hbefore _
  · have hbyte := H.other hr 0 (by omega)
    rw [Nat.add_zero] at hbyte
    rw [hbyte]
    exact hbefore r

/-- Behind a blank header, the save's slot is not accepted, or with the save's own data; and
then under its own number, or one that erased bytes make up. -/
theorem SavedTo.target (H : SavedTo hsound erased n data w out j k h)
    (hblank : Blank erased (erasing L erased w.mem (hsound.ring.home n) j)
      (slotStart L (hsound.ring.home n)) slotHeaderSize) :
    slotSeq L out.2.2.mem (hsound.ring.home n) = none ∨
      0 < h ∧ slotData L out.2.2.mem (hsound.ring.home n) = data.slice 0 L.dataSize ∧
        (slotSeq L out.2.2.mem (hsound.ring.home n) = some (serial n) ∨
          Confusable L erased data) := by
  by_cases haccepted : Accepted L out.2.2.mem (slotStart L (hsound.ring.home n))
  · right
    have hrest : ∀ i < slotHeaderSize, h ≤ i →
        out.2.2.mem (slotStart L (hsound.ring.home n) + i) = erased := by
      intro i hi hle
      rw [H.header_byte hi, if_neg (by omega), hblank i hi]
    have hpos : 0 < h := by
      rcases Nat.eq_zero_or_pos h with rfl | hpos
      · exact absurd haccepted (not_accepted_erased (hrest 0 (by decide) (by omega))
          (hrest 1 (by decide) (by omega)))
      · exact hpos
    have hdata := H.data_written (H.committed hpos)
    refine ⟨hpos, hdata, ?_⟩
    rcases Nat.lt_or_ge h 4 with htorn | hnumber
    · right
      have hsize := haccepted.dataSize
      have hcrc := haccepted.crc
      rw [headerAt_dataSize, hrest 4 (by decide) (by omega), hrest 5 (by decide) (by omega)]
        at hsize
      rw [headerAt_crc, hrest 6 (by decide) (by omega), hrest 7 (by decide) (by omega)] at hcrc
      exact ⟨hsize.symm, hdata ▸ hcrc⟩
    · left
      unfold slotSeq seqAt
      rw [if_pos haccepted, headerAt_seq, H.header_byte (by decide), H.header_byte (by decide),
        if_pos (by omega), if_pos (by omega)]
      exact congrArg some (le16_bytes (serial n))
  · exact .inl (slotSeq_none haccepted)

/-- A slot whose header has been written is accepted. -/
theorem SavedTo.target_written (H : SavedTo hsound erased n data w out j k h)
    (hwritten : slotHeaderSize ≤ h) :
    slotSeq L out.2.2.mem (hsound.ring.home n) = some (serial n) ∧
      slotData L out.2.2.mem (hsound.ring.home n) = data.slice 0 L.dataSize := by
  have hdata := H.data_written (H.committed (Nat.lt_of_lt_of_le (by decide) hwritten))
  have hbyte : ∀ i < slotHeaderSize, out.2.2.mem (slotStart L (hsound.ring.home n) + i)
      = (encodeHeader erased (itemHeader L n data)).getD i 0 := by
    intro i hi
    rw [H.header_byte hi]
    exact if_pos (Nat.lt_of_lt_of_le hi hwritten)
  have haccepted : Accepted L out.2.2.mem (slotStart L (hsound.ring.home n)) := by
    refine ⟨?_, ?_, ?_⟩
    · have h0 := hbyte 0 (by decide)
      rw [Nat.add_zero] at h0
      rw [headerAt_magic, h0, hbyte 1 (by decide)]
      exact le16_bytes paramMagic
    · rw [headerAt_dataSize, hbyte 4 (by decide), hbyte 5 (by decide)]
      refine (congrArg UInt16.toNat (le16_bytes (UInt16.ofNat L.dataSize))).trans ?_
      exact UInt16.toNat_ofNat_of_lt' hsound.data_lt
    · rw [headerAt_crc, hbyte 6 (by decide), hbyte 7 (by decide)]
      refine (congrArg udsCrc16Ccitt hdata).trans ?_
      exact (le16_bytes (udsCrc16Ccitt (data.slice 0 L.dataSize))).symm
  refine ⟨?_, hdata⟩
  unfold slotSeq seqAt
  rw [if_pos haccepted, headerAt_seq, hbyte 2 (by decide), hbyte 3 (by decide)]
  exact congrArg some (le16_bytes (serial n))

/-- A save that succeeds has its slot accepted. -/
theorem SavedTo.target_ok (H : SavedTo hsound erased n data w out j k h) (hok : out.1 = .ok) :
    slotSeq L out.2.2.mem (hsound.ring.home n) = some (serial n) ∧
      slotData L out.2.2.mem (hsound.ring.home n) = data.slice 0 L.dataSize ∧ 0 < h := by
  obtain ⟨-, -, -, hh⟩ | ⟨herr, -⟩ := H.result
  · have hwritten : slotHeaderSize ≤ h := hh ▸ hsound.header
    obtain ⟨hitem, hdata⟩ := H.target_written hwritten
    exact ⟨hitem, hdata, Nat.lt_of_lt_of_le (by decide) hwritten⟩
  · rw [hok] at herr
    exact absurd herr (by decide)

/-! ## The log after a save -/

/-- The other slots of a sector that has been entered are erased. -/
theorem SavedTo.beside_blank (H : SavedTo hsound erased n data w out j k h)
    (hfull : j = L.sectorSize) {r : Nat} (hne : r ≠ hsound.ring.home n)
    (hbeside : hsound.ring.Beside n r) : SlotBlank L erased out.2.2.mem r := by
  intro i hi
  rw [H.other hne i hi, hfull]
  exact erasing_blank hsound hbeside i hi

/-- What the log loses to the erase is not of it any more. -/
theorem SavedTo.other_seq (H : SavedTo hsound erased n data w out j k h)
    (hhead : HeadBytes L erased w.mem) {r : Nat} (hne : r ≠ hsound.ring.home n) :
    slotSeq L out.2.2.mem r = slotSeq L w.mem r ∨
      hsound.ring.Enters n ∧ hsound.ring.Beside n r ∧ slotSeq L out.2.2.mem r = none := by
  by_cases hboth : hsound.ring.Enters n ∧ hsound.ring.Beside n r
  · rw [(H.other hne).seq hsound]
    rcases erasing_beside hhead hboth.2 with hnone | hsame
    · exact .inr ⟨hboth.1, hboth.2, hnone⟩
    · exact .inl (hsame.seq hsound)
  · exact .inl ((H.far hne hboth).seq hsound)

/-- The save's slot is accepted: the item has joined the log. -/
theorem SavedTo.commit (H : SavedTo hsound erased n data w out j k h)
    {f : Nat → Option UInt16} (hlogged : hsound.ring.Logged serial f n)
    (hf : ∀ r, r ≠ hsound.ring.home n → f r = slotSeq L w.mem r)
    (hwritten : 0 < h) (hitem : slotSeq L out.2.2.mem (hsound.ring.home n) = some (serial n)) :
    hsound.ring.Logged serial (slotSeq L out.2.2.mem) (n + 1) := by
  refine hlogged.commit hitem (fun r _ hne henters hbeside => ?_) fun r _ hne hboth => ?_
  · exact (H.beside_blank (H.erased_full (.inr hwritten) henters) hne hbeside).seq hsound
  · rw [hf r hne]
    exact (H.far hne hboth).seq hsound

/-- The slots of the log but the one that comes next. -/
def behindNext (hsound : Sound L) (n : Nat) (mem : Buf) (r : Nat) : Option UInt16 :=
  if r = hsound.ring.home n then none else slotSeq L mem r

/-- A save that has not put its item into the log has left the rest of it. -/
theorem SavedTo.rest (htwo : 2 ≤ L.sectorCount) (H : SavedTo hsound erased n data w out j k h)
    (hbase : hsound.ring.Logged serial (behindNext hsound n w.mem) n)
    (hheads : HeadBytes L erased w.mem) :
    hsound.ring.Logged serial (behindNext hsound n out.2.2.mem) n := by
  refine hbase.scrub htwo fun r _ => ?_
  unfold behindNext
  by_cases hr : r = hsound.ring.home n
  · exact .inl (by rw [if_pos hr, if_pos hr])
  · rw [if_neg hr, if_neg hr]
    exact H.other_seq hheads hr

theorem logged_of_behindNext {mem : Buf}
    (hbase : hsound.ring.Logged serial (behindNext hsound n mem) n)
    (hnone : slotSeq L mem (hsound.ring.home n) = none) :
    hsound.ring.Logged serial (slotSeq L mem) n := by
  refine hbase.congr fun r _ => ?_
  unfold behindNext
  split
  next hr => rw [hr, hnone]
  next => rfl

/-- A save onto a blank header: its slot is empty, or the erase has not got anywhere, or the
item is in the log. -/
theorem SavedTo.outcome (htwo : 2 ≤ L.sectorCount) (H : SavedTo hsound erased n data w out j k h)
    (hbase : hsound.ring.Logged serial (behindNext hsound n w.mem) n)
    (hheads : HeadBytes L erased w.mem)
    (hready : ¬hsound.ring.Enters n →
      Blank erased w.mem (slotStart L (hsound.ring.home n)) slotHeaderSize)
    (hclear : out.1 ≠ .ok → ¬Confusable L erased data) :
    out.1 ≠ .ok ∧ hsound.ring.Logged serial (slotSeq L out.2.2.mem) n ∨
      out.1 ≠ .ok ∧ hsound.ring.Enters n ∧
        out.2.2.mem = erasing L erased w.mem (hsound.ring.home n) j ∧
        SameSlot L w.mem out.2.2.mem (hsound.ring.home n) ∨
      0 < h ∧ hsound.ring.Logged serial (slotSeq L out.2.2.mem) (n + 1) ∧
        slotData L out.2.2.mem (hsound.ring.home n) = data.slice 0 L.dataSize := by
  have hothers : ∀ r, r ≠ hsound.ring.home n → behindNext hsound n w.mem r = slotSeq L w.mem r :=
    fun r hr => if_neg hr
  by_cases hok : out.1 = .ok
  · obtain ⟨hitem, hdata, hpos⟩ := H.target_ok hok
    exact .inr (.inr ⟨hpos, H.commit hbase hothers hpos hitem, hdata⟩)
  -- on a blank header the slot stays empty, or takes the new item
  have hboth : Blank erased (erasing L erased w.mem (hsound.ring.home n) j)
      (slotStart L (hsound.ring.home n)) slotHeaderSize →
      out.1 ≠ .ok ∧ hsound.ring.Logged serial (slotSeq L out.2.2.mem) n ∨
        0 < h ∧ hsound.ring.Logged serial (slotSeq L out.2.2.mem) (n + 1) ∧
          slotData L out.2.2.mem (hsound.ring.home n) = data.slice 0 L.dataSize := by
    intro hblank
    obtain hnone | ⟨hpos, hdata, hitem | hconfused⟩ := H.target hblank
    · exact .inl ⟨hok, logged_of_behindNext (H.rest htwo hbase hheads) hnone⟩
    · exact .inr ⟨hpos, H.commit hbase hothers hpos hitem, hdata⟩
    · exact absurd hconfused (hclear hok)
  have hheader := hsound.header
  have hslot := hsound.slot
  by_cases henters : hsound.ring.Enters n
  · by_cases hfull : j = L.sectorSize
    · have hblank : SlotBlank L erased (erasing L erased w.mem (hsound.ring.home n) j)
          (hsound.ring.home n) := by
        rw [hfull]
        exact erasing_blank hsound rfl
      obtain hleft | hcommitted := hboth fun i hi => hblank i (by omega)
      · exact .inl hleft
      · exact .inr (.inr hcommitted)
    · -- the erase did not come to its end, and nothing has been written
      have hk : k = 0 := by
        by_contra hk
        exact hfull (H.erased_full (.inl (Nat.pos_of_ne_zero hk)) henters)
      have hh : h = 0 := by
        by_contra hh
        exact hfull (H.erased_full (.inr (Nat.pos_of_ne_zero hh)) henters)
      have hmem : out.2.2.mem = erasing L erased w.mem (hsound.ring.home n) j := by
        rw [H.mem, hk, hh, Buf.copy_zero, Buf.copy_zero]
      obtain hnone | hsame := erasing_beside (j := j) hheads
        (rfl : hsound.ring.home n / L.slotsPerSector = _)
      · rw [← hmem] at hnone
        exact .inl ⟨hok, logged_of_behindNext (H.rest htwo hbase hheads) hnone⟩
      · rw [← hmem] at hsame
        exact .inr (.inl ⟨hok, henters, hmem, hsame⟩)
  -- inside a sector nothing is erased
  · have herasing : erasing L erased w.mem (hsound.ring.home n) j = w.mem := by
      rw [H.stays henters]
      exact Buf.copy_zero ..
    rw [herasing] at hboth
    obtain hleft | hcommitted := hboth (hready henters)
    · exact .inl hleft
    · exact .inr (.inr hcommitted)

/-- A save onto a blank header leaves the log as it was or with its own item behind it. -/
theorem SavedTo.logged (htwo : 2 ≤ L.sectorCount) (H : SavedTo hsound erased n data w out j k h)
    (hlogged : hsound.ring.Logged serial (slotSeq L w.mem) n) (hheads : HeadBytes L erased w.mem)
    (hready : ¬hsound.ring.Enters n →
      Blank erased w.mem (slotStart L (hsound.ring.home n)) slotHeaderSize)
    (hclear : out.1 ≠ .ok → ¬Confusable L erased data) :
    out.1 ≠ .ok ∧ hsound.ring.Logged serial (slotSeq L out.2.2.mem) n ∨
      hsound.ring.Logged serial (slotSeq L out.2.2.mem) (n + 1) ∧
        slotData L out.2.2.mem (hsound.ring.home n) = data.slice 0 L.dataSize := by
  obtain hleft | ⟨hok, -, -, hsame⟩ | ⟨-, hcommitted⟩ :=
    H.outcome htwo (hlogged.mask htwo) hheads hready hclear
  · exact .inl hleft
  · refine .inl ⟨hok, hlogged.scrub htwo fun r _ => ?_⟩
    by_cases hr : r = hsound.ring.home n
    · rw [hr]
      exact .inl (hsame.seq hsound)
    · exact H.other_seq hheads hr
  · exact .inr hcommitted

end Saved

end UdsIsoTp.Flash
