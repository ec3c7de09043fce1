import UdsIsoTp.Flash.ParamStore

/-!
# Two ports that do the same

A store knows its flash from the answers of its port alone. So where two ports give the same
answers and keep a relation between what stands behind them (`PortSim`), the store does the
same on both, and the relation is kept by every one of its functions (`udsParamInit_sim`,
`udsParamLoad_sim`, `udsParamSave_sim`).

The ports have to agree only inside some part of the address space; the store stays there if
its slots and sectors do (`Reaches`).
-/

namespace UdsIsoTp.Flash

variable {ω ω' α β : Type} {R : ω → ω' → Prop}

/-- The same answer, and flashes that are related. -/
def SameOutcome (R : ω → ω' → Prop) (x : α × ω) (y : α × ω') : Prop := x.1 = y.1 ∧ R x.2 y.2

/-- Two ports that do the same, on the operations inside a range. -/
structure PortSim (R : ω → ω' → Prop) (inside : Nat → Nat → Prop) (sectorSize : Nat)
    (port : UdsFlashPort ω) (port' : UdsFlashPort ω') : Prop where
  erase : ∀ {w w' addr}, R w w' → inside addr sectorSize →
    SameOutcome R (port.erase w addr) (port'.erase w' addr)
  read : ∀ {w w' addr length}, R w w' → inside addr length →
    SameOutcome R (port.read w addr length) (port'.read w' addr length)
  write : ∀ {w w' addr data}, R w w' → inside addr data.length →
    SameOutcome R (port.write w addr data) (port'.write w' addr data)

/-- The store with another port. -/
def UdsParamStore.on (store : UdsParamStore ω) (port : UdsFlashPort ω') : UdsParamStore ω' where
  port := port
  flashBase := store.flashBase
  sectorSize := store.sectorSize
  sectorCount := store.sectorCount
  dataSize := store.dataSize
  slotSize := store.slotSize
  slotsPerSector := store.slotsPerSector
  headerSize := store.headerSize
  payloadSizeAligned := store.payloadSizeAligned
  programGranule := store.programGranule
  erasedByte := store.erasedByte
  activeSector := store.activeSector
  activeSlot := store.activeSlot
  nextSeq := store.nextSeq
  initialized := store.initialized
  hasActiveSlot := store.hasActiveSlot

/-- The slots and the sectors of the store lie inside. -/
structure Reaches (store : UdsParamStore ω) (inside : Nat → Nat → Prop) : Prop where
  slot : ∀ {sector slot offset length}, sector < store.sectorCount → slot < store.slotsPerSector →
    0 < length → offset + length ≤ store.slotSize →
    inside ((slotAddr store sector slot + offset) % 2 ^ 32) length
  sector : ∀ {sector}, sector < store.sectorCount →
    inside ((store.flashBase + sector * store.sectorSize) % 2 ^ 32) store.sectorSize
  base : inside store.flashBase store.sectorSize
  header : slotHeaderSize ≤ store.headerSize
  data_pos : 0 < store.dataSize
  payload : store.dataSize ≤ store.payloadSizeAligned
  room : store.headerSize + store.payloadSizeAligned ≤ store.slotSize
  sectors_pos : 0 < store.sectorCount
  pos : 0 < store.slotsPerSector

/-- The active slot is one of the store. -/
structure Placed (store : UdsParamStore ω) : Prop where
  sector : store.activeSector < store.sectorCount
  slot : store.activeSlot < store.slotsPerSector

section Sim

variable {inside : Nat → Nat → Prop} {store : UdsParamStore ω} {port' : UdsFlashPort ω'}

/-! ## Reading a slot -/

/-- The CRC over a range that lies inside. -/
theorem crcChunks_sim (hsim : PortSim R inside store.sectorSize store.port port') {base len : Nat}
    (hpiece : ∀ offset length, 0 < length → offset + length ≤ len →
      inside ((base + offset) % 2 ^ 32) length)
    (remaining offset : Nat) (hle : offset + remaining ≤ len) (crc : UInt16) {w : ω} {w' : ω'}
    (h : R w w') :
    SameOutcome R (crcChunks store remaining ((base + offset) % 2 ^ 32) crc w)
      (crcChunks (store.on port') remaining ((base + offset) % 2 ^ 32) crc w') := by
  -- on the bytes that are left
  induction remaining using Nat.strong_induction_on generalizing offset crc w w' with
  | _ remaining ih =>
    unfold crcChunks
    by_cases hmore : 0 < remaining
    · rw [dif_pos hmore, dif_pos hmore]
      have hread : SameOutcome R
          (store.port.read w ((base + offset) % 2 ^ 32) (min remaining 32))
          ((store.on port').port.read w' ((base + offset) % 2 ^ 32) (min remaining 32)) :=
        hsim.read h (hpiece offset (min remaining 32) (by omega) (by omega))
      obtain ⟨hanswer, hleft⟩ := hread
      generalize store.port.read w ((base + offset) % 2 ^ 32) (min remaining 32) = x at *
      generalize (store.on port').port.read w' ((base + offset) % 2 ^ 32) (min remaining 32) = y
        at *
      obtain ⟨answer, left⟩ := x
      obtain ⟨answer', left'⟩ := y
      obtain rfl : answer = answer' := hanswer
      cases answer with
      | none => exact ⟨rfl, hleft⟩
      | some chunk =>
        dsimp only
        rw [Nat.mod_add_mod, Nat.add_assoc]
        exact ih _ (by omega) _ (by omega) _ hleft
    · rw [dif_neg hmore, dif_neg hmore]
      exact ⟨rfl, h⟩

/-- The header of a slot. -/
theorem readSlotHeader_sim (hsim : PortSim R inside store.sectorSize store.port port')
    (hreach : Reaches store inside) {sector slot : Nat} (hsector : sector < store.sectorCount)
    (hslot : slot < store.slotsPerSector) {w : ω} {w' : ω'} (h : R w w') :
    SameOutcome R (readSlotHeader store sector slot w)
      (readSlotHeader (store.on port') sector slot w') := by
  have hheader := hreach.header
  have hpayload := hreach.payload
  have hroom := hreach.room
  have haddr : slotAddr store sector slot % 2 ^ 32 = slotAddr store sector slot := Nat.mod_mod ..
  have hread : inside ((slotAddr store sector slot + 0) % 2 ^ 32) slotHeaderSize :=
    hreach.slot hsector hslot (by decide) (by omega)
  rw [Nat.add_zero, haddr] at hread
  obtain ⟨hanswer, hleft⟩ := hsim.read h hread
  unfold readSlotHeader
  rw [show (store.on port').port = port' from rfl,
    show slotAddr (store.on port') sector slot = slotAddr store sector slot from rfl]
  generalize store.port.read w (slotAddr store sector slot) slotHeaderSize = x at *
  generalize port'.read w' (slotAddr store sector slot) slotHeaderSize = y at *
  obtain ⟨answer, left⟩ := x
  obtain ⟨answer', left'⟩ := y
  obtain rfl : answer = answer' := hanswer
  cases answer with
  | none => exact ⟨rfl, hleft⟩
  | some bytes =>
    dsimp only
    rw [show (store.on port').dataSize = store.dataSize from rfl]
    by_cases hbad : (decodeHeader bytes).magic ≠ paramMagic ∨
        (decodeHeader bytes).dataSize.toNat ≠ store.dataSize
    · rw [if_pos hbad, if_pos hbad]
      exact ⟨rfl, hleft⟩
    · rw [if_neg hbad, if_neg hbad]
      -- the CRC reads the data, which lie in the slot behind the header
      have hpiece : ∀ offset length, 0 < length → offset + length ≤ store.payloadSizeAligned →
          inside ((slotAddr store sector slot + store.headerSize + offset) % 2 ^ 32) length := by
        intro offset length hpos hle
        rw [Nat.add_assoc]
        exact hreach.slot hsector hslot hpos (by omega)
      have hcrc := crcChunks_sim hsim hpiece store.dataSize 0 (by omega) 0xFFFF hleft
      rw [Nat.add_zero] at hcrc
      obtain ⟨hcrc, hverified⟩ := hcrc
      refine ⟨?_, hverified⟩
      show (if (crcChunks store store.dataSize _ _ left).1 == some (decodeHeader bytes).crc then _
        else _) = if (crcChunks (store.on port') store.dataSize _ _ left').1
          == some (decodeHeader bytes).crc then _ else _
      rw [hcrc]
      rfl

/-! ## The scan -/

/-- The scan over all slots. -/
theorem scanSlots_sim (hsim : PortSim R inside store.sectorSize store.port port')
    (hreach : Reaches store inside) {w : ω} {w' : ω'} (h : R w w') :
    SameOutcome R (scanSlots store w) (scanSlots (store.on port') w') := by
  refine List.foldl_rel (r := SameOutcome R) ⟨rfl, h⟩ fun sector hsector x y hxy => ?_
  refine List.foldl_rel (r := SameOutcome R) hxy fun slot hslot x y hxy => ?_
  obtain ⟨best, left⟩ := x
  obtain ⟨best', left'⟩ := y
  obtain ⟨rfl, hleft⟩ : best = best' ∧ R left left' := hxy
  obtain ⟨hheader, hread⟩ := readSlotHeader_sim hsim hreach (List.mem_range.mp hsector)
    (List.mem_range.mp hslot) hleft
  unfold scanSlot
  dsimp only
  generalize readSlotHeader store sector slot left = x at *
  generalize readSlotHeader (store.on port') sector slot left' = y at *
  obtain ⟨header, left⟩ := x
  obtain ⟨header', left'⟩ := y
  obtain rfl : header = header' := hheader
  cases header with
  | none => exact ⟨rfl, hread⟩
  | some header => exact ⟨rfl, hread⟩

/-- What the scan holds is a slot of the store. -/
def Found (store : UdsParamStore ω) (best : Option FoundSlot × ω) : Prop :=
  ∀ found, best.1 = some found →
    found.sector < store.sectorCount ∧ found.slot < store.slotsPerSector

/-- The scan settles on a slot that there is. -/
theorem scanSlots_found (w : ω) : Found store (scanSlots store w) := by
  refine List.foldlRecOn (motive := Found store) _ _
    (fun found hfound => absurd hfound (by simp)) (fun best hbest sector hsector => ?_)
  refine List.foldlRecOn (motive := Found store) _ _ hbest
    fun best hbest slot hslot => ?_
  intro found hfound
  unfold scanSlot at hfound
  split at hfound
  next => exact hbest found hfound
  next hdr left hread =>
    have hhere : sector < store.sectorCount ∧ slot < store.slotsPerSector :=
      ⟨List.mem_range.mp hsector, List.mem_range.mp hslot⟩
    obtain rfl : betterSlot best.1 hdr.seq sector slot = found := Option.some.inj hfound
    unfold betterSlot
    split
    next => exact hhere
    next old hold =>
      split
      next => exact hhere
      next => exact hbest old hold

/-! ## Init -/

theorem activate_on (best : Option FoundSlot) :
    activate (store.on port') best = (activate store best).on port' := by
  cases best <;> rfl

variable {port : UdsFlashPort ω} {flashBase : UInt32} {sectorCount : UInt8} {dataSize : UInt16}

/-- Two ports to flashes of one kind. -/
structure SameKind (port : UdsFlashPort ω) (port' : UdsFlashPort ω') : Prop where
  sectorSize : port'.sectorSize = port.sectorSize
  programGranule : port'.programGranule = port.programGranule
  erasedByte : port'.erasedByte = port.erasedByte

theorem SameKind.layOut (hkind : SameKind port port') :
    layOut port' flashBase sectorCount dataSize
      = (layOut port flashBase sectorCount dataSize).on port' := by
  have hgranule : portGranule port' = portGranule port := by
    unfold portGranule
    rw [hkind.programGranule]
  have herased : portErased port' = portErased port := by
    unfold portErased
    rw [hkind.erasedByte]
  unfold Flash.layOut UdsParamStore.on
  rw [hkind.sectorSize, hgranule, herased]

/-- An init comes up with the same store. -/
theorem udsParamInit_sim (hkind : SameKind port port')
    (hsim : PortSim R inside (port.sectorSize flashBase).toNat port port')
    (hreach : Reaches (layOut port flashBase sectorCount dataSize) inside) {w : ω} {w' : ω'}
    (h : R w w') :
    (udsParamInit port' flashBase sectorCount dataSize w').1
        = (udsParamInit port flashBase sectorCount dataSize w).1.map (·.on port') ∧
      R (udsParamInit port flashBase sectorCount dataSize w).2
        (udsParamInit port' flashBase sectorCount dataSize w').2 := by
  have hgranule : portGranule port' = portGranule port := by
    unfold portGranule
    rw [hkind.programGranule]
  obtain ⟨hfound, hleft⟩ : SameOutcome R
      (scanSlots (Flash.layOut port flashBase sectorCount dataSize) w)
      (scanSlots ((Flash.layOut port flashBase sectorCount dataSize).on port') w') :=
    scanSlots_sim hsim hreach h
  unfold udsParamInit
  rw [hkind.sectorSize, hgranule, hkind.layOut]
  split
  next => exact ⟨rfl, h⟩
  next =>
    split
    next => exact ⟨rfl, h⟩
    next =>
      split
      next => exact ⟨rfl, h⟩
      next =>
        split
        next => exact ⟨rfl, h⟩
        next =>
          refine ⟨?_, hleft⟩
          unfold scanForActiveSlot
          dsimp only
          rw [← hfound, activate_on]
          rfl

/-- Init takes up a slot of the store. -/
theorem udsParamInit_placed {w : ω} {store : UdsParamStore ω}
    (hreach : Reaches (layOut port flashBase sectorCount dataSize) inside)
    (h : (udsParamInit port flashBase sectorCount dataSize w).1 = some store) :
    ∃ best, store = { activate (layOut port flashBase sectorCount dataSize) best with
      initialized := true } ∧ Placed store := by
  unfold udsParamInit at h
  split at h
  next => exact absurd h (by simp)
  next =>
    split at h
    next => exact absurd h (by simp)
    next =>
      split at h
      next => exact absurd h (by simp)
      next =>
        split at h
        next => exact absurd h (by simp)
        next =>
          have hfound : Found _ (scanSlots (Flash.layOut port flashBase sectorCount dataSize) w) :=
            scanSlots_found w
          obtain rfl := Option.some.inj h
          refine ⟨_, rfl, ?_⟩
          unfold scanForActiveSlot
          dsimp only
          cases hbest : (scanSlots (Flash.layOut port flashBase sectorCount dataSize) w).1 with
          | none => exact ⟨hreach.sectors_pos, hreach.pos⟩
          | some found => exact ⟨(hfound found hbest).1, (hfound found hbest).2⟩

/-! ## Load -/

/-- A load reads the same record. -/
theorem udsParamLoad_sim (hsim : PortSim R inside store.sectorSize store.port port')
    (hreach : Reaches store inside) (hplaced : Placed store) (data : List UInt8) {w : ω} {w' : ω'}
    (h : R w w') :
    SameOutcome (fun x y => x.1 = y.1 ∧ R x.2 y.2) (udsParamLoad store data w)
      (udsParamLoad (store.on port') data w') := by
  have hheader := hreach.header
  have hpayload := hreach.payload
  have hroom := hreach.room
  -- both reads of a load lie in the active slot
  have hdata : inside ((slotAddr store store.activeSector store.activeSlot + store.headerSize)
      % 2 ^ 32) store.dataSize :=
    hreach.slot hplaced.sector hplaced.slot hreach.data_pos (by omega)
  have hhead : inside ((slotAddr store store.activeSector store.activeSlot + 0) % 2 ^ 32)
      slotHeaderSize :=
    hreach.slot hplaced.sector hplaced.slot (by decide) (by omega)
  rw [Nat.add_zero, show slotAddr store store.activeSector store.activeSlot % 2 ^ 32
    = slotAddr store store.activeSector store.activeSlot from Nat.mod_mod ..] at hhead
  unfold udsParamLoad
  rw [show (store.on port').port = port' from rfl,
    show slotAddr (store.on port') (store.on port').activeSector (store.on port').activeSlot
      = slotAddr store store.activeSector store.activeSlot from rfl,
    show (store.on port').initialized = store.initialized from rfl,
    show (store.on port').hasActiveSlot = store.hasActiveSlot from rfl,
    show (store.on port').headerSize = store.headerSize from rfl,
    show (store.on port').dataSize = store.dataSize from rfl]
  split
  next => exact ⟨rfl, rfl, h⟩
  next =>
    split
    next => exact ⟨rfl, rfl, h⟩
    next =>
      dsimp only
      obtain ⟨hanswer, hleft⟩ := hsim.read h hdata
      generalize store.port.read w _ store.dataSize = x at *
      generalize port'.read w' _ store.dataSize = y at *
      obtain ⟨answer, left⟩ := x
      obtain ⟨answer', left'⟩ := y
      obtain rfl : answer = answer' := hanswer
      cases answer with
      | none => exact ⟨rfl, rfl, hleft⟩
      | some bytes =>
        dsimp only at hleft ⊢
        obtain ⟨hanswer, hleft⟩ := hsim.read hleft hhead
        generalize store.port.read left _ slotHeaderSize = x at *
        generalize port'.read left' _ slotHeaderSize = y at *
        obtain ⟨answer, left⟩ := x
        obtain ⟨answer', left'⟩ := y
        obtain rfl : answer = answer' := hanswer
        cases answer with
        | none => exact ⟨rfl, rfl, hleft⟩
        | some header =>
          dsimp only
          split
          next => exact ⟨rfl, rfl, hleft⟩
          next => exact ⟨rfl, rfl, hleft⟩

/-! ## Save -/

/-- A write of a range that lies inside. -/
theorem writePaddedChunked_sim (hsim : PortSim R inside store.sectorSize store.port port')
    {addr total : Nat}
    (hpiece : ∀ offset length, 0 < length → offset + length ≤ total →
      inside ((addr + offset) % 2 ^ 32) length)
    (src : Buf) (srcSize written : Nat) {w : ω} {w' : ω'} (h : R w w') :
    SameOutcome R (writePaddedChunked store addr src srcSize total written w)
      (writePaddedChunked (store.on port') addr src srcSize total written w') := by
  -- on what is left to write
  induction hleft : total - written using Nat.strong_induction_on generalizing written w w' with
  | _ left ih =>
    unfold writePaddedChunked
    by_cases hmore : written < total
    · rw [dif_pos hmore, dif_pos hmore]
      have hlength : (paddedChunk store.erasedByte src srcSize written
          (min (total - written) 64)).length = min (total - written) 64 := by
        unfold paddedChunk
        rw [List.length_append, Buf.length_slice, List.length_replicate]
        omega
      have hinside : inside ((addr + written) % 2 ^ 32)
          (paddedChunk store.erasedByte src srcSize written (min (total - written) 64)).length :=
        hpiece written _ (by omega) (by omega)
      obtain ⟨hanswer, hafter⟩ := hsim.write h hinside
      dsimp only
      rw [show (store.on port').port = port' from rfl,
        show (store.on port').erasedByte = store.erasedByte from rfl, ← hanswer]
      split
      next => exact ⟨rfl, hafter⟩
      next => exact ih _ (by omega) _ hafter rfl
    · rw [dif_neg hmore, dif_neg hmore]
      exact ⟨rfl, h⟩

/-- The choice of the next slot, with its erase. -/
theorem prepareNextSlot_sim (hsim : PortSim R inside store.sectorSize store.port port')
    (hreach : Reaches store inside) {w : ω} {w' : ω'} (h : R w w') :
    SameOutcome R (prepareNextSlot store w) (prepareNextSlot (store.on port') w') := by
  unfold prepareNextSlot
  rw [show (store.on port').port = port' from rfl,
    show (store.on port').hasActiveSlot = store.hasActiveSlot from rfl,
    show (store.on port').slotsPerSector = store.slotsPerSector from rfl,
    show (store.on port').activeSlot = store.activeSlot from rfl,
    show (store.on port').activeSector = store.activeSector from rfl,
    show (store.on port').sectorCount = store.sectorCount from rfl,
    show (store.on port').flashBase = store.flashBase from rfl,
    show (store.on port').sectorSize = store.sectorSize from rfl]
  split
  next =>
    split
    next =>
      obtain ⟨hanswer, hleft⟩ := hsim.erase h
        (hreach.sector (Nat.mod_lt (store.activeSector + 1) hreach.sectors_pos))
      dsimp only
      rw [← hanswer]
      split
      next => exact ⟨rfl, hleft⟩
      next => exact ⟨rfl, hleft⟩
    next => exact ⟨rfl, h⟩
  next =>
    obtain ⟨hanswer, hleft⟩ := hsim.erase h hreach.base
    dsimp only
    rw [← hanswer]
    split
    next => exact ⟨rfl, hleft⟩
    next => exact ⟨rfl, hleft⟩

/-- The slot of a save is one of the store. -/
theorem prepareNextSlot_placed (hreach : Reaches store inside) (hplaced : Placed store) {w : ω}
    {sector slot : Nat} (h : (prepareNextSlot store w).1 = some (sector, slot)) :
    sector < store.sectorCount ∧ slot < store.slotsPerSector := by
  have hadopt : ∀ {erased : Bool} {found : Nat × Nat} {left : ω},
      (if ¬erased then ((none : Option (Nat × Nat)), left) else (some found, left)).1
        = some (sector, slot) → found = (sector, slot) := by
    intro erased found left h
    split at h
    next => exact absurd h (by simp)
    next => exact Option.some.inj h
  unfold prepareNextSlot at h
  split at h
  next =>
    split at h
    next =>
      obtain ⟨rfl, rfl⟩ := Prod.mk.inj (hadopt h)
      exact ⟨Nat.mod_lt _ hreach.sectors_pos, hreach.pos⟩
    next hroom =>
      obtain ⟨rfl, rfl⟩ := Prod.mk.inj (Option.some.inj h)
      exact ⟨hplaced.sector, Nat.not_le.mp hroom⟩
  next =>
    obtain ⟨rfl, rfl⟩ := Prod.mk.inj (hadopt h)
    exact ⟨hreach.sectors_pos, hreach.pos⟩

/-- The write of a slot. -/
theorem writeSlot_sim (hsim : PortSim R inside store.sectorSize store.port port')
    (hreach : Reaches store inside) (data : Buf) {sector slot : Nat}
    (hsector : sector < store.sectorCount) (hslot : slot < store.slotsPerSector) {w : ω} {w' : ω'}
    (h : R w w') :
    SameOutcome R (writeSlot store data sector slot w)
      (writeSlot (store.on port') data sector slot w') := by
  have hroom := hreach.room
  have hpiece : ∀ offset length, 0 < length → offset + length ≤ store.payloadSizeAligned →
      inside (((slotAddr store sector slot + store.headerSize) % 2 ^ 32 + offset) % 2 ^ 32)
        length := by
    intro offset length hpos hle
    rw [Nat.mod_add_mod, Nat.add_assoc]
    exact hreach.slot hsector hslot hpos (by omega)
  obtain ⟨hpayload, hleft⟩ := writePaddedChunked_sim hsim hpiece data store.dataSize 0 h
  unfold writeSlot
  dsimp only
  rw [show slotAddr (store.on port') sector slot = slotAddr store sector slot from rfl,
    show (store.on port').headerSize = store.headerSize from rfl,
    show (store.on port').dataSize = store.dataSize from rfl,
    show (store.on port').payloadSizeAligned = store.payloadSizeAligned from rfl,
    show (store.on port').erasedByte = store.erasedByte from rfl, ← hpayload]
  split
  next => exact ⟨rfl, hleft⟩
  next =>
    exact writePaddedChunked_sim hsim
      (fun offset length hpos hle => hreach.slot hsector hslot hpos (by omega)) _ _ 0 hleft

/-- A save does the same to both flashes. -/
theorem udsParamSave_sim (hsim : PortSim R inside store.sectorSize store.port port')
    (hreach : Reaches store inside) (hplaced : Placed store) (data : Buf) {w : ω} {w' : ω'}
    (h : R w w') :
    (udsParamSave (store.on port') data w').1 = (udsParamSave store data w).1 ∧
      (udsParamSave (store.on port') data w').2.1 = (udsParamSave store data w).2.1.on port' ∧
      R (udsParamSave store data w).2.2 (udsParamSave (store.on port') data w').2.2 := by
  unfold udsParamSave
  rw [show (store.on port').initialized = store.initialized from rfl]
  split
  next => exact ⟨rfl, rfl, h⟩
  next =>
    have hplace : ∀ sector slot, (prepareNextSlot store w).1 = some (sector, slot) →
        sector < store.sectorCount ∧ slot < store.slotsPerSector :=
      fun sector slot => prepareNextSlot_placed hreach hplaced
    obtain ⟨hslot, hleft⟩ := prepareNextSlot_sim hsim hreach h
    generalize prepareNextSlot store w = x at *
    generalize prepareNextSlot (store.on port') w' = y at *
    obtain ⟨found, left⟩ := x
    obtain ⟨found', left'⟩ := y
    obtain rfl : found = found' := hslot
    cases found with
    | none => exact ⟨rfl, rfl, hleft⟩
    | some found =>
      obtain ⟨sector, slot⟩ := found
      obtain ⟨hsector, hslot⟩ := hplace sector slot rfl
      obtain ⟨hwritten, hafter⟩ := writeSlot_sim hsim hreach data hsector hslot hleft
      dsimp only
      rw [← hwritten]
      split
      next => exact ⟨rfl, rfl, hafter⟩
      next => exact ⟨rfl, rfl, hafter⟩

/-- A save leaves a store of the same geometry, with an active slot of its own. -/
theorem udsParamSave_placed (hreach : Reaches store inside) (hplaced : Placed store) (data : Buf)
    (w : ω) :
    (udsParamSave store data w).2.1.port = store.port ∧
      (udsParamSave store data w).2.1.sectorSize = store.sectorSize ∧
      Reaches (udsParamSave store data w).2.1 inside ∧ Placed (udsParamSave store data w).2.1 := by
  unfold udsParamSave
  split
  next => exact ⟨rfl, rfl, hreach, hplaced⟩
  next =>
    split
    next => exact ⟨rfl, rfl, hreach, hplaced⟩
    next sector slot left hslot =>
      obtain ⟨hsector, hwithin⟩ := prepareNextSlot_placed hreach hplaced (w := w)
        (congrArg Prod.fst hslot)
      dsimp only
      split
      next => exact ⟨rfl, rfl, hreach, hplaced⟩
      next =>
        exact ⟨rfl, rfl, ⟨hreach.slot, hreach.sector, hreach.base, hreach.header, hreach.data_pos,
          hreach.payload, hreach.room, hreach.sectors_pos, hreach.pos⟩, ⟨hsector, hwithin⟩⟩

end Sim

end UdsIsoTp.Flash
