import UdsIsoTp.Flash.StoreLayout

/-!
# What the scan finds

A port is `Truthful` when what its reads return is what is in the flash, and `Healthy` when
they also return it. The scan of the store is the library's scan of its ring, over the slots
that are accepted when it comes to them (`scanSlots_eq`); on a healthy port these are the slots
that would be at any time (`seenAt_healthy`).
-/

namespace UdsIsoTp.Flash

variable {ω : Type}

/-! ## Reads -/

/-- Reads change nothing, and what they return is there. -/
structure Truthful (port : UdsFlashPort ω) (mem : ω → Buf) : Prop where
  kept : ∀ w addr length, mem (port.read w addr length).2 = mem w
  told : ∀ w addr length bytes, (port.read w addr length).1 = some bytes →
    bytes = (mem w).slice addr length

/-- Every read of the port succeeds and gives what is there. -/
structure Healthy (port : UdsFlashPort ω) (mem : ω → Buf) : Prop where
  reads : ∀ w addr length, port.read w addr length = (some ((mem w).slice addr length), w)

section Reads

variable {store : UdsParamStore ω} {mem : ω → Buf}

theorem crcUpdate_append (crc : UInt16) (xs ys : List UInt8) :
    udsCrc16CcittUpdate crc (xs ++ ys)
      = udsCrc16CcittUpdate (udsCrc16CcittUpdate crc xs) ys := List.foldl_append

theorem crcChunks_truthful (hport : Truthful store.port mem) (remaining addr : Nat) (crc : UInt16)
    (w : ω) (haddr : addr + remaining ≤ 2 ^ 32) :
    mem (crcChunks store remaining addr crc w).2 = mem w ∧
      ∀ result, (crcChunks store remaining addr crc w).1 = some result →
        result = udsCrc16CcittUpdate crc ((mem w).slice addr remaining) := by
  induction remaining using Nat.strong_induction_on generalizing addr crc w with
  | _ remaining ih =>
  unfold crcChunks
  split
  next hmore =>
    generalize hlength : min remaining 32 = length
    have hkept := hport.kept w addr length
    have htold := hport.told w addr length
    split
    next w' hread =>
      rw [hread] at hkept
      exact ⟨hkept, fun _ h => absurd h (Option.some_ne_none _).symm⟩
    next bytes w' hread =>
      rw [hread] at hkept htold
      obtain rfl := htold bytes rfl
      rcases Nat.lt_or_ge (addr + length) (2 ^ 32) with hlt | hge
      · rw [Nat.mod_eq_of_lt hlt]
        obtain ⟨hmem, hcrc⟩ := ih (remaining - length) (by omega) (addr + length)
          (udsCrc16CcittUpdate crc ((mem w).slice addr length)) w' (by omega)
        refine ⟨hmem.trans hkept, fun result hresult => ?_⟩
        rw [hcrc result hresult, ← crcUpdate_append, hkept, ← Buf.slice_append,
          Nat.add_sub_cancel' (by omega)]
      · -- the last piece ends where the address space does
        have hall : remaining = length := by omega
        rw [hall, Nat.sub_self]
        unfold crcChunks
        rw [dif_neg (Nat.lt_irrefl 0)]
        exact ⟨hkept, fun result hresult => (Option.some.inj hresult).symm⟩
  next hend =>
    obtain rfl : remaining = 0 := by omega
    exact ⟨rfl, fun result hresult => (Option.some.inj hresult).symm⟩

theorem crcChunks_healthy (hport : Healthy store.port mem) (remaining addr : Nat) (crc : UInt16)
    (w : ω) (haddr : addr + remaining ≤ 2 ^ 32) :
    crcChunks store remaining addr crc w
      = (some (udsCrc16CcittUpdate crc ((mem w).slice addr remaining)), w) := by
  induction remaining using Nat.strong_induction_on generalizing addr crc with
  | _ remaining ih =>
  unfold crcChunks
  split
  next hmore =>
    generalize hlength : min remaining 32 = length
    rw [hport.reads]
    dsimp only
    rcases Nat.lt_or_ge (addr + length) (2 ^ 32) with hlt | hge
    · rw [Nat.mod_eq_of_lt hlt, ih (remaining - length) (by omega) (addr + length) _ (by omega),
        ← crcUpdate_append, ← Buf.slice_append, Nat.add_sub_cancel' (by omega)]
    · have hall : remaining = length := by omega
      rw [hall, Nat.sub_self]
      unfold crcChunks
      exact dif_neg (Nat.lt_irrefl 0)
  next hend =>
    obtain rfl : remaining = 0 := by omega
    rfl

/-- The slot whose header is read lies in the address space. -/
theorem Sound.payload_within (hsound : Sound store) {r : Nat} (hr : r < hsound.ring.size) :
    slotStart store r + store.headerSize + store.dataSize ≤ 2 ^ 32 := by
  have hfits := hsound.slot_fits hr
  have hpayload := hsound.payload
  omega

theorem readSlotHeader_truthful (hsound : Sound store) (hport : Truthful store.port mem)
    {r : Nat} (hr : r < hsound.ring.size) (w : ω) :
    mem (readSlotHeader store (r / store.slotsPerSector) (r % store.slotsPerSector) w).2 = mem w ∧
      ∀ hdr, (readSlotHeader store (r / store.slotsPerSector) (r % store.slotsPerSector) w).1
          = some hdr →
        Accepted store (mem w) (slotStart store r) ∧
          hdr = headerAt (mem w) (slotStart store r) := by
  have hwithin := hsound.payload_within hr
  have hdata := hsound.data_pos
  unfold readSlotHeader verifySlotCrc
  rw [hsound.slotAddr_eq hr, Nat.mod_eq_of_lt (by omega)]
  have hkept := hport.kept w (slotStart store r) slotHeaderSize
  have htold := hport.told w (slotStart store r) slotHeaderSize
  split
  next w' hread =>
    rw [hread] at hkept
    exact ⟨hkept, fun _ h => absurd h (Option.some_ne_none _).symm⟩
  next bytes w' hread =>
    rw [hread] at hkept htold
    obtain rfl := htold bytes rfl
    dsimp only
    split
    next => exact ⟨hkept, fun _ h => absurd h (Option.some_ne_none _).symm⟩
    next hform =>
      obtain ⟨hmagic, hsize⟩ := not_or.mp hform
      obtain ⟨hmem, hcrc⟩ := crcChunks_truthful hport store.dataSize
        (slotStart store r + store.headerSize) 0xFFFF w' hwithin
      refine ⟨hmem.trans hkept, fun hdr hhdr => ?_⟩
      split at hhdr
      next hverified =>
        have hresult := hcrc _ (beq_iff_eq.mp hverified)
        rw [show mem w' = mem w from hkept] at hresult
        exact ⟨⟨not_not.mp hmagic, not_not.mp hsize, hresult.symm⟩,
          (Option.some.inj hhdr).symm⟩
      next => exact absurd hhdr (by simp)

theorem readSlotHeader_healthy (hsound : Sound store) (hport : Healthy store.port mem)
    {r : Nat} (hr : r < hsound.ring.size) (w : ω) :
    readSlotHeader store (r / store.slotsPerSector) (r % store.slotsPerSector) w
      = (if Accepted store (mem w) (slotStart store r) then
          some (headerAt (mem w) (slotStart store r)) else none, w) := by
  have hwithin := hsound.payload_within hr
  have hdata := hsound.data_pos
  unfold readSlotHeader verifySlotCrc
  rw [hsound.slotAddr_eq hr, Nat.mod_eq_of_lt (by omega), hport.reads]
  dsimp only
  rw [crcChunks_healthy hport _ _ _ _ hwithin]
  dsimp only
  split
  next hform =>
    refine congrArg (·, w) (if_neg fun haccepted => ?_).symm
    exact hform.elim (fun hmagic => hmagic haccepted.magic) fun hsize => hsize haccepted.dataSize
  next hform =>
    obtain ⟨hmagic, hsize⟩ := not_or.mp hform
    refine congrArg (·, w) (if_congr ?_ rfl rfl)
    rw [beq_iff_eq, Option.some_inj]
    exact ⟨fun hcrc => ⟨not_not.mp hmagic, not_not.mp hsize, hcrc⟩, fun h => h.crc⟩

end Reads

/-! ## The scan -/

section Scan

variable {store : UdsParamStore ω}

/-- The flash when the scan comes to slot `r`. -/
def scanWorld (store : UdsParamStore ω) (w : ω) : Nat → ω
  | 0 => w
  | r + 1 => (readSlotHeader store (r / store.slotsPerSector) (r % store.slotsPerSector)
      (scanWorld store w r)).2

/-- The sequence number under which the scan accepts slot `r`, if it does. -/
def seenAt (store : UdsParamStore ω) (w : ω) (r : Nat) : Option UInt16 :=
  (readSlotHeader store (r / store.slotsPerSector) (r % store.slotsPerSector)
    (scanWorld store w r)).1.map (·.seq)

/-- A slot of the ring as the scan keeps it. -/
def foundAt (store : UdsParamStore ω) (found : UInt16 × Nat) : FoundSlot :=
  ⟨found.1, found.2 / store.slotsPerSector, found.2 % store.slotsPerSector⟩

/-- What the scan holds once it has seen the first `r` slots. -/
def scanned (store : UdsParamStore ω) (w : ω) (r : Nat) : Option FoundSlot × ω :=
  ((latest Newer (seenAt store w) r).map (foundAt store), scanWorld store w r)

theorem scanSlot_scanned (w : ω) (r : Nat) :
    scanSlot store (r / store.slotsPerSector) (scanned store w r) (r % store.slotsPerSector)
      = scanned store w (r + 1) := by
  generalize hanswer : readSlotHeader store (r / store.slotsPerSector) (r % store.slotsPerSector)
    (scanWorld store w r) = answer
  have hseen : seenAt store w r = answer.1.map (·.seq) := by
    unfold seenAt
    rw [hanswer]
  have hworld : scanWorld store w (r + 1) = answer.2 := congrArg Prod.snd hanswer
  unfold scanSlot scanned
  dsimp only
  rw [hanswer, hworld, latest_succ, hseen]
  obtain ⟨hdr | hdr, w'⟩ := answer
  · rfl
  · cases UdsIsoTp.latest Newer (seenAt store w) r with
    | none => rfl
    | some found =>
      refine congrArg (fun best => (some best, w')) ?_
      exact (apply_ite (foundAt store) (Newer hdr.seq found.1) (hdr.seq, r) found).symm

theorem scanSlot_foldl (w : ω) (sector n : Nat) (hn : n ≤ store.slotsPerSector) :
    (List.range n).foldl (scanSlot store sector) (scanned store w (sector * store.slotsPerSector))
      = scanned store w (sector * store.slotsPerSector + n) := by
  induction n with
  | zero => rfl
  | succ n ih =>
    have hslot := @scanSlot_scanned _ store w (sector * store.slotsPerSector + n)
    rw [Nat.add_comm (sector * store.slotsPerSector) n, Nat.add_mul_div_right _ _ (by omega),
      Nat.div_eq_of_lt hn, Nat.zero_add, Nat.add_mul_mod_self_right, Nat.mod_eq_of_lt hn,
      Nat.add_comm n (sector * store.slotsPerSector)] at hslot
    rw [List.range_succ, List.foldl_append, ih (Nat.le_of_succ_le hn)]
    exact hslot

/-- The scan holds the latest of the slots that it accepts. -/
theorem scanSlots_eq (w : ω) :
    scanSlots store w = scanned store w (store.sectorCount * store.slotsPerSector) := by
  unfold scanSlots
  induction store.sectorCount with
  | zero =>
    rw [Nat.zero_mul]
    rfl
  | succ sectors ih =>
    rw [List.range_succ, List.foldl_append, ih, Nat.succ_mul]
    exact scanSlot_foldl w sectors store.slotsPerSector (Nat.le_refl _)

/-- A healthy port stays as it is. -/
theorem scanWorld_healthy {mem : ω → Buf} (hsound : Sound store) (hport : Healthy store.port mem)
    (w : ω) {r : Nat} (hr : r ≤ hsound.ring.size) : scanWorld store w r = w := by
  induction r with
  | zero => rfl
  | succ r ih =>
    unfold scanWorld
    rw [ih (Nat.le_of_succ_le hr), readSlotHeader_healthy hsound hport hr]

/-- On a healthy port the scan accepts what is there. -/
theorem seenAt_healthy {mem : ω → Buf} (hsound : Sound store) (hport : Healthy store.port mem)
    (w : ω) {r : Nat} (hr : r < hsound.ring.size) :
    seenAt store w r = slotSeq store (mem w) r := by
  unfold seenAt
  rw [scanWorld_healthy hsound hport w (Nat.le_of_lt hr), readSlotHeader_healthy hsound hport hr]
  unfold slotSeq seqAt
  split <;> rfl

/-- Reads that may fail change nothing. -/
theorem scanWorld_truthful {mem : ω → Buf} (hsound : Sound store)
    (hport : Truthful store.port mem) (w : ω) {r : Nat} (hr : r ≤ hsound.ring.size) :
    mem (scanWorld store w r) = mem w := by
  induction r with
  | zero => rfl
  | succ r ih =>
    unfold scanWorld
    rw [(readSlotHeader_truthful hsound hport hr _).1, ih (Nat.le_of_succ_le hr)]

/-- What the scan accepts is there. -/
theorem seenAt_truthful {mem : ω → Buf} (hsound : Sound store) (hport : Truthful store.port mem)
    (w : ω) {r : Nat} (hr : r < hsound.ring.size) {seq : UInt16}
    (hseen : seenAt store w r = some seq) : slotSeq store (mem w) r = some seq := by
  unfold seenAt at hseen
  obtain ⟨hdr, hhdr, rfl⟩ := Option.map_eq_some_iff.mp hseen
  obtain ⟨haccepted, rfl⟩ := (readSlotHeader_truthful hsound hport hr _).2 hdr hhdr
  rw [scanWorld_truthful hsound hport w (Nat.le_of_lt hr)] at haccepted ⊢
  unfold slotSeq seqAt
  rw [if_pos haccepted]

end Scan

/-! ## Ports whose reads leave the flash -/

section Pure

variable {port : UdsFlashPort ω} {store : UdsParamStore ω}

/-- Reads leave the flash as it is. -/
def PureReads (port : UdsFlashPort ω) : Prop := ∀ w addr length, (port.read w addr length).2 = w

theorem crcChunks_pure (hpure : PureReads store.port) (remaining addr : Nat) (crc : UInt16) (w : ω) :
    (crcChunks store remaining addr crc w).2 = w := by
  -- on the bytes that are left
  induction remaining using Nat.strong_induction_on generalizing addr crc w with
  | _ remaining ih =>
    have hread := hpure w addr (min remaining 32)
    unfold crcChunks
    split
    next hmore =>
      split
      next left hfailed =>
        rw [hfailed] at hread
        exact hread
      next chunk left hdone =>
        rw [hdone] at hread
        exact (ih _ (by omega) _ _ left).trans hread
    next => rfl

theorem readSlotHeader_pure (hpure : PureReads store.port) (sector slot : Nat) (w : ω) :
    (readSlotHeader store sector slot w).2 = w := by
  have hread := hpure w (slotAddr store sector slot) slotHeaderSize
  unfold readSlotHeader
  split
  next left hfailed =>
    rw [hfailed] at hread
    exact hread
  next bytes left hdone =>
    rw [hdone] at hread
    dsimp only
    split
    next => exact hread
    next => exact (crcChunks_pure hpure ..).trans hread

theorem scanWorld_pure (hpure : PureReads store.port) (w : ω) (r : Nat) : scanWorld store w r = w := by
  induction r with
  | zero => rfl
  | succ r ih =>
    unfold scanWorld
    rw [ih, readSlotHeader_pure hpure]

theorem udsParamInit_pure (hpure : PureReads port) (flashBase : UInt32) (sectorCount : UInt8)
    (dataSize : UInt16) (w : ω) : (udsParamInit port flashBase sectorCount dataSize w).2 = w := by
  have hscan : (scanSlots (layOut port flashBase sectorCount dataSize) w).2 = w := by
    rw [scanSlots_eq]
    exact scanWorld_pure hpure w _
  unfold udsParamInit
  split_ifs
  · rfl
  · rfl
  · rfl
  · rfl
  · exact hscan

theorem udsParamLoad_pure (hpure : PureReads store.port) (data : List UInt8) (w : ω) :
    (udsParamLoad store data w).2.2 = w := by
  unfold udsParamLoad
  split
  next => rfl
  next =>
    split
    next => rfl
    next =>
      dsimp only
      have hdata := hpure w ((slotAddr store store.activeSector store.activeSlot
        + store.headerSize) % 2 ^ 32) store.dataSize
      split
      next left hfailed =>
        rw [hfailed] at hdata
        exact hdata
      next bytes left hdone =>
        rw [hdone] at hdata
        have hheader := hpure left (slotAddr store store.activeSector store.activeSlot)
          slotHeaderSize
        split
        next left' hfailed =>
          rw [hfailed] at hheader
          exact hheader.trans hdata
        next header left' hread =>
          rw [hread] at hheader
          split
          next => exact hheader.trans hdata
          next => exact hheader.trans hdata

end Pure

end UdsIsoTp.Flash
