import UdsIsoTp.Flash.ParamStore

/-!
# A store counted from its base

A store reaches its flash at sums with its base, taken in 32 bits. Where the base lies is then a
matter of the port alone: behind a port that adds the base (`countedFrom`), a store at base 0
does the same, call for call (`udsParamInit_counted`, `udsParamLoad_counted`,
`udsParamSave_counted`). That asks nothing of the geometry, so the sectors may lie across the end
of the address space.
-/

namespace UdsIsoTp.Flash

variable {ω : Type}

/-- The port, with its addresses counted from `base`. -/
def UdsFlashPort.countedFrom (port : UdsFlashPort ω) (base : UInt32) : UdsFlashPort ω where
  erase := fun w addr => port.erase w ((base.toNat + addr) % 2 ^ 32)
  read := fun w addr length => port.read w ((base.toNat + addr) % 2 ^ 32) length
  write := fun w addr data => port.write w ((base.toNat + addr) % 2 ^ 32) data
  sectorSize := fun addr => port.sectorSize (base + addr)
  programGranule := port.programGranule
  erasedByte := port.erasedByte

/-- The store, at base 0 behind such a port. -/
def UdsParamStore.counted (store : UdsParamStore ω) (base : UInt32) : UdsParamStore ω :=
  { store with
    port := store.port.countedFrom base
    flashBase := 0 }

section Counted

variable {base : UInt32}

/-! ## The port -/

theorem countedFrom_read (port : UdsFlashPort ω) (w : ω) (addr length : Nat) :
    (port.countedFrom base).read w (addr % 2 ^ 32) length
      = port.read w ((base.toNat + addr) % 2 ^ 32) length := by
  show port.read w ((base.toNat + addr % 2 ^ 32) % 2 ^ 32) length = _
  rw [Nat.add_mod_mod]

theorem countedFrom_write (port : UdsFlashPort ω) (w : ω) (addr : Nat) (data : List UInt8) :
    (port.countedFrom base).write w (addr % 2 ^ 32) data
      = port.write w ((base.toNat + addr) % 2 ^ 32) data := by
  show port.write w ((base.toNat + addr % 2 ^ 32) % 2 ^ 32) data = _
  rw [Nat.add_mod_mod]

theorem countedFrom_erase (port : UdsFlashPort ω) (w : ω) (addr : Nat) :
    (port.countedFrom base).erase w (addr % 2 ^ 32)
      = port.erase w ((base.toNat + addr) % 2 ^ 32) := by
  show port.erase w ((base.toNat + addr % 2 ^ 32) % 2 ^ 32) = _
  rw [Nat.add_mod_mod]

variable {store : UdsParamStore ω}

/-! ## Reading a slot -/

theorem slotAddr_counted (hbase : store.flashBase = base.toNat) (sector slot : Nat) :
    slotAddr store sector slot
      = (base.toNat + slotAddr (store.counted base) sector slot) % 2 ^ 32 := by
  show (store.flashBase + sector * store.sectorSize + slot * store.slotSize) % 2 ^ 32
    = (base.toNat + (0 + sector * store.sectorSize + slot * store.slotSize) % 2 ^ 32) % 2 ^ 32
  rw [hbase, Nat.add_mod_mod, Nat.zero_add, Nat.add_assoc]

/-- An address behind the start of a slot. -/
theorem slotAddr_counted_add (hbase : store.flashBase = base.toNat) (sector slot offset : Nat) :
    (slotAddr store sector slot + offset) % 2 ^ 32
      = (base.toNat + (slotAddr (store.counted base) sector slot + offset)) % 2 ^ 32 := by
  rw [slotAddr_counted hbase, Nat.mod_add_mod, Nat.add_assoc]

/-- The header of a slot, read through either port. -/
theorem headerRead_counted (hbase : store.flashBase = base.toNat) (sector slot : Nat) (w : ω) :
    (store.counted base).port.read w (slotAddr (store.counted base) sector slot) slotHeaderSize
      = store.port.read w (slotAddr store sector slot) slotHeaderSize := by
  rw [slotAddr_counted hbase]
  rfl

theorem crcChunks_counted (remaining addr : Nat) (crc : UInt16) (w : ω) :
    crcChunks (store.counted base) remaining (addr % 2 ^ 32) crc w
      = crcChunks store remaining ((base.toNat + addr) % 2 ^ 32) crc w := by
  -- on the bytes that are left
  induction remaining using Nat.strong_induction_on generalizing addr crc w with
  | _ remaining ih =>
    unfold crcChunks
    by_cases hmore : 0 < remaining
    · rw [dif_pos hmore, dif_pos hmore,
        show (store.counted base).port = store.port.countedFrom base from rfl, countedFrom_read]
      split
      next => rfl
      next chunk left _ =>
        rw [Nat.mod_add_mod, Nat.mod_add_mod, Nat.add_assoc]
        exact ih _ (by omega) _ _ _
    · rw [dif_neg hmore, dif_neg hmore]

theorem readSlotHeader_counted (hbase : store.flashBase = base.toNat) (sector slot : Nat) (w : ω) :
    readSlotHeader (store.counted base) sector slot w = readSlotHeader store sector slot w := by
  unfold readSlotHeader verifySlotCrc
  rw [headerRead_counted hbase]
  split
  next => rfl
  next bytes left _ =>
    dsimp only
    rw [show (store.counted base).headerSize = store.headerSize from rfl,
      show (store.counted base).dataSize = store.dataSize from rfl, crcChunks_counted,
      ← slotAddr_counted_add hbase]

/-! ## Init -/

theorem scanSlots_counted (hbase : store.flashBase = base.toNat) (w : ω) :
    scanSlots (store.counted base) w = scanSlots store w := by
  have hslot : scanSlot (store.counted base) = scanSlot store := by
    funext sector best slot
    unfold scanSlot
    rw [readSlotHeader_counted hbase]
  unfold scanSlots
  rw [hslot]
  rfl

theorem activate_counted (best : Option FoundSlot) :
    activate (store.counted base) best = (activate store best).counted base := by
  cases best <;> rfl

variable {port : UdsFlashPort ω} {sectorCount : UInt8} {dataSize : UInt16}

theorem layOut_counted :
    layOut (port.countedFrom base) 0 sectorCount dataSize
      = (layOut port base sectorCount dataSize).counted base := by
  unfold layOut UdsParamStore.counted
  rw [show (port.countedFrom base).sectorSize 0 = port.sectorSize base from
    congrArg port.sectorSize (UInt32.add_zero base)]
  rfl

/-- An init at the base, and the one that is counted from there. -/
theorem udsParamInit_counted (w : ω) :
    udsParamInit (port.countedFrom base) 0 sectorCount dataSize w
      = ((udsParamInit port base sectorCount dataSize w).1.map (·.counted base),
        (udsParamInit port base sectorCount dataSize w).2) := by
  have hscan : scanSlots ((layOut port base sectorCount dataSize).counted base) w
      = scanSlots (layOut port base sectorCount dataSize) w := scanSlots_counted rfl w
  unfold udsParamInit
  rw [show (port.countedFrom base).sectorSize 0 = port.sectorSize base from
      congrArg port.sectorSize (UInt32.add_zero base),
    show portGranule (port.countedFrom base) = portGranule port from rfl, layOut_counted]
  split
  next => rfl
  next =>
    split
    next => rfl
    next =>
      split
      next => rfl
      next =>
        split
        next => rfl
        next =>
          unfold scanForActiveSlot
          rw [hscan]
          dsimp only
          rw [activate_counted]
          rfl

/-! ## Load -/

theorem udsParamLoad_counted (hbase : store.flashBase = base.toNat) (data : List UInt8) (w : ω) :
    udsParamLoad (store.counted base) data w = udsParamLoad store data w := by
  have hdata : ∀ w, (store.counted base).port.read w
        ((slotAddr (store.counted base) store.activeSector store.activeSlot + store.headerSize)
          % 2 ^ 32) store.dataSize
      = store.port.read w
        ((slotAddr store store.activeSector store.activeSlot + store.headerSize) % 2 ^ 32)
        store.dataSize := by
    intro w
    rw [slotAddr_counted_add hbase]
    exact countedFrom_read store.port w _ _
  unfold udsParamLoad
  rw [show (store.counted base).initialized = store.initialized from rfl,
    show (store.counted base).hasActiveSlot = store.hasActiveSlot from rfl,
    show (store.counted base).activeSector = store.activeSector from rfl,
    show (store.counted base).activeSlot = store.activeSlot from rfl,
    show (store.counted base).headerSize = store.headerSize from rfl,
    show (store.counted base).dataSize = store.dataSize from rfl]
  split
  next => rfl
  next =>
    split
    next => rfl
    next =>
      dsimp only
      rw [hdata]
      split
      next => rfl
      next => rw [headerRead_counted hbase]

/-! ## Save -/

/-- One piece of a padded write. -/
theorem writePaddedChunked_piece {addr total written : Nat} (hmore : written < total) (src : Buf)
    (srcSize : Nat) (w : ω) :
    writePaddedChunked store addr src srcSize total written w =
      if ¬(store.port.write w ((addr + written) % 2 ^ 32)
          (paddedChunk store.erasedByte src srcSize written (min (total - written) 64))).1 then
        (false, (store.port.write w ((addr + written) % 2 ^ 32)
          (paddedChunk store.erasedByte src srcSize written (min (total - written) 64))).2)
      else writePaddedChunked store addr src srcSize total (written + min (total - written) 64)
        (store.port.write w ((addr + written) % 2 ^ 32)
          (paddedChunk store.erasedByte src srcSize written (min (total - written) 64))).2 := by
  conv_lhs => unfold writePaddedChunked
  rw [dif_pos hmore]

theorem writePaddedChunked_counted (addr : Nat) (src : Buf) (srcSize total written : Nat) (w : ω) :
    writePaddedChunked (store.counted base) (addr % 2 ^ 32) src srcSize total written w
      = writePaddedChunked store ((base.toNat + addr) % 2 ^ 32) src srcSize total written w := by
  -- on what is left to write
  induction hleft : total - written using Nat.strong_induction_on generalizing written w with
  | _ left ih =>
    by_cases hmore : written < total
    · rw [writePaddedChunked_piece hmore, writePaddedChunked_piece hmore, Nat.mod_add_mod,
        Nat.mod_add_mod, Nat.add_assoc base.toNat, ← countedFrom_write,
        show (store.counted base).port = store.port.countedFrom base from rfl,
        show (store.counted base).erasedByte = store.erasedByte from rfl]
      split
      next => rfl
      next => exact ih _ (by omega) _ _ rfl
    · unfold writePaddedChunked
      rw [dif_neg hmore, dif_neg hmore]

theorem prepareNextSlot_counted (hbase : store.flashBase = base.toNat) (w : ω) :
    prepareNextSlot (store.counted base) w = prepareNextSlot store w := by
  have hsector : ∀ sector, (store.counted base).port.erase w
        ((0 + sector * store.sectorSize) % 2 ^ 32)
      = store.port.erase w ((store.flashBase + sector * store.sectorSize) % 2 ^ 32) := by
    intro sector
    rw [Nat.zero_add, hbase]
    exact countedFrom_erase store.port w _
  have hfirst : (store.counted base).port.erase w 0 = store.port.erase w store.flashBase := by
    show store.port.erase w ((base.toNat + 0) % 2 ^ 32) = _
    rw [Nat.add_zero, Nat.mod_eq_of_lt base.toNat_lt, hbase]
  unfold prepareNextSlot
  rw [show (store.counted base).hasActiveSlot = store.hasActiveSlot from rfl,
    show (store.counted base).slotsPerSector = store.slotsPerSector from rfl,
    show (store.counted base).activeSlot = store.activeSlot from rfl,
    show (store.counted base).activeSector = store.activeSector from rfl,
    show (store.counted base).sectorCount = store.sectorCount from rfl,
    show (store.counted base).flashBase = 0 from rfl,
    show (store.counted base).sectorSize = store.sectorSize from rfl, hfirst]
  simp only [hsector]

theorem writeSlot_counted (hbase : store.flashBase = base.toNat) (data : Buf) (sector slot : Nat)
    (w : ω) :
    writeSlot (store.counted base) data sector slot w = writeSlot store data sector slot w := by
  have haddr : slotAddr (store.counted base) sector slot
      = slotAddr (store.counted base) sector slot % 2 ^ 32 := (Nat.mod_mod ..).symm
  unfold writeSlot
  dsimp only
  rw [show (store.counted base).headerSize = store.headerSize from rfl,
    show (store.counted base).dataSize = store.dataSize from rfl,
    show (store.counted base).payloadSizeAligned = store.payloadSizeAligned from rfl,
    show (store.counted base).erasedByte = store.erasedByte from rfl,
    show saveHeader (store.counted base) data = saveHeader store data from rfl,
    writePaddedChunked_counted, ← slotAddr_counted_add hbase]
  split
  next => rfl
  next => rw [haddr, writePaddedChunked_counted, ← slotAddr_counted hbase]

/-- A save at the base, and the one that is counted from there. -/
theorem udsParamSave_counted (hbase : store.flashBase = base.toNat) (data : Buf) (w : ω) :
    udsParamSave (store.counted base) data w
      = ((udsParamSave store data w).1, (udsParamSave store data w).2.1.counted base,
        (udsParamSave store data w).2.2) := by
  unfold udsParamSave
  rw [show (store.counted base).initialized = store.initialized from rfl,
    prepareNextSlot_counted hbase]
  split
  next => rfl
  next =>
    split
    next => rfl
    next sector slot left _ =>
      rw [writeSlot_counted hbase]
      dsimp only
      split
      next => rfl
      next => rfl

/-- A save leaves the store where it is. -/
theorem udsParamSave_base (data : Buf) (w : ω) :
    (udsParamSave store data w).2.1.port = store.port ∧
      (udsParamSave store data w).2.1.flashBase = store.flashBase := by
  unfold udsParamSave
  split
  next => exact ⟨rfl, rfl⟩
  next =>
    split
    next => exact ⟨rfl, rfl⟩
    next =>
      dsimp only
      split
      next => exact ⟨rfl, rfl⟩
      next => exact ⟨rfl, rfl⟩

end Counted

end UdsIsoTp.Flash
