import UdsIsoTp.Lib.Buffer
import UdsIsoTp.Lib.Wrap

/-!
# The parameter store

`uds_wear_leveling.c`: parameters are saved to flash in slots, one after the other around
a ring of sectors, so that no sector wears out. A slot is a header and the data; the header
is written last and carries a sequence number and a checksum of the data. After a restart
the store looks for the slot with the newest sequence number.

The flash is behind a port: `ω` is what stands behind its functions, `true` is their `0`,
and any of them may change it.
Addresses and sizes are natural numbers that carry the `% 2 ^ 32` or `% 65536` of their C
type wherever they can leave its range; the sequence number is a `UInt16`. No pointer is
`NULL` here.
-/

namespace UdsIsoTp.Flash

variable {ω : Type}

/-- The drivers of a flash and its shape, as the owner of the store hands them over. -/
structure UdsFlashPort (ω : Type) where
  erase : ω → Nat → Bool × ω
  read : ω → Nat → Nat → Option (List UInt8) × ω
  write : ω → Nat → List UInt8 → Bool × ω
  sectorSize : UInt32 → UInt32
  programGranule : UInt8
  erasedByte : UInt8

/-- The eight bytes in front of a record. -/
structure UdsParamSlotHeader where
  magic : UInt16
  seq : UInt16
  dataSize : UInt16
  crc : UInt16

/-- The whole of `UdsParamStore`: the layout in the flash, and where the newest record is. -/
structure UdsParamStore (ω : Type) where
  port : UdsFlashPort ω
  flashBase : Nat
  sectorSize : Nat
  sectorCount : Nat
  dataSize : Nat
  slotSize : Nat
  slotsPerSector : Nat
  headerSize : Nat
  payloadSizeAligned : Nat
  programGranule : Nat
  erasedByte : UInt8
  activeSector : Nat
  activeSlot : Nat
  nextSeq : UInt16
  initialized : Bool
  hasActiveSlot : Bool

/-- What a routine of the store says. -/
inductive UdsParamStatus where
  | ok
  | err
  | invalidParam
  deriving DecidableEq, Repr

/-- `UDS_PARAM_MAGIC` -/
def paramMagic : UInt16 := 0xC0DE

/-- `sizeof(UdsParamSlotHeader)` -/
def slotHeaderSize : Nat := 16

/-! ## The checksum -/

/-- One step of the CRC, with the polynomial 0x1021. -/
def crc16Bit (val : UInt16) : UInt16 :=
  if val &&& 0x8000 ≠ 0 then (val <<< 1) ^^^ 0x1021 else val <<< 1

/-- Eight steps, the byte at the high end. -/
def crc16Byte (val : UInt16) (byte : UInt8) : UInt16 :=
  Nat.repeat crc16Bit 8 (val ^^^ (byte.toUInt16 <<< 8))

/-- `uds_crc16_ccitt_update`; the source keeps the 16 bits in a `uint32_t`. -/
def udsCrc16CcittUpdate (crc : UInt16) (data : List UInt8) : UInt16 := data.foldl crc16Byte crc

/-- The CRC of the whole data, from 0xFFFF on. -/
def udsCrc16Ccitt (data : List UInt8) : UInt16 := udsCrc16CcittUpdate 0xFFFF data

/-! ## Headers as bytes -/

/-- A little-endian 16-bit field. -/
def le16 (low high : UInt8) : UInt16 := UInt16.ofNat (low.toNat + 256 * high.toNat)

/-- The byte of the flash that comes first. -/
def lowByte (value : UInt16) : UInt8 := UInt8.ofNat (value.toNat % 256)

/-- The byte that comes second. -/
def highByte (value : UInt16) : UInt8 := UInt8.ofNat (value.toNat / 256)

/-- Reads the four fields, the low byte of each first. -/
def decodeHeader (bytes : List UInt8) : UdsParamSlotHeader where
  magic := le16 (bytes.getD 0 0) (bytes.getD 1 0)
  seq := le16 (bytes.getD 2 0) (bytes.getD 3 0)
  dataSize := le16 (bytes.getD 4 0) (bytes.getD 5 0)
  crc := le16 (bytes.getD 6 0) (bytes.getD 7 0)

/-- The bytes of a header; the padding keeps the erased byte. -/
def encodeHeader (erased : UInt8) (hdr : UdsParamSlotHeader) : List UInt8 :=
  [lowByte hdr.magic, highByte hdr.magic, lowByte hdr.seq, highByte hdr.seq,
    lowByte hdr.dataSize, highByte hdr.dataSize, lowByte hdr.crc, highByte hdr.crc]
    ++ List.replicate 8 erased

/-! ## Looking for the active slot -/

section Scan

variable (store : UdsParamStore ω)

/-- `slot_addr`, in 32 bits. -/
def slotAddr (sector slot : Nat) : Nat :=
  (store.flashBase + sector * store.sectorSize + slot * store.slotSize) % 2 ^ 32

/-- The checksum of the bytes at `addr`, read in pieces of 32. -/
def crcChunks (remaining addr : Nat) (crc : UInt16) (w : ω) : Option UInt16 × ω :=
  if _h : 0 < remaining then
    match store.port.read w addr (min remaining 32) with
    | (none, w) => (none, w)
    | (some chunk, w) =>
      crcChunks (remaining - min remaining 32) ((addr + min remaining 32) % 2 ^ 32)
        (udsCrc16CcittUpdate crc chunk) w
  else (some crc, w)
termination_by remaining
decreasing_by omega

/-- `verify_slot_crc`: reads the data in chunks; a read that fails fails the check. -/
def verifySlotCrc (sector slot : Nat) (expectedCrc : UInt16) (w : ω) : Bool × ω :=
  let (crc, w) := crcChunks store store.dataSize
    ((slotAddr store sector slot + store.headerSize) % 2 ^ 32) 0xFFFF w
  (crc == some expectedCrc, w)

/-- `read_slot_header`: the header, when the slot is accepted. -/
def readSlotHeader (sector slot : Nat) (w : ω) : Option UdsParamSlotHeader × ω :=
  match store.port.read w (slotAddr store sector slot) slotHeaderSize with
  | (none, w) => (none, w)
  | (some bytes, w) =>
    let hdr := decodeHeader bytes
    if hdr.magic ≠ paramMagic ∨ hdr.dataSize.toNat ≠ store.dataSize then (none, w)
    else
      let (verified, w) := verifySlotCrc store sector slot hdr.crc w
      (if verified then some hdr else none, w)

/-- The best slot of a scan so far. -/
structure FoundSlot where
  seq : UInt16
  sector : Nat
  slot : Nat

/-- The better of two slots: the newer one, the first on a tie. -/
def betterSlot (best : Option FoundSlot) (seq : UInt16) (sector slot : Nat) : FoundSlot :=
  match best with
  | none => ⟨seq, sector, slot⟩
  | some found => if Newer seq found.seq then ⟨seq, sector, slot⟩ else found

/-- One step of the scan: the better of the best so far and this slot. -/
def scanSlot (sector : Nat) (best : Option FoundSlot × ω) (slot : Nat) : Option FoundSlot × ω :=
  match readSlotHeader store sector slot best.2 with
  | (none, w) => (best.1, w)
  | (some hdr, w) => (some (betterSlot best.1 hdr.seq sector slot), w)

/-- The two loops of `scan_for_active_slot`. -/
def scanSlots (w : ω) : Option FoundSlot × ω :=
  (List.range store.sectorCount).foldl
    (fun best sector => (List.range store.slotsPerSector).foldl (scanSlot store sector) best)
    (none, w)

/-- The number after `seq`; zero is skipped. -/
def seqAfter (seq : UInt16) : UInt16 := if seq + 1 = 0 then 1 else seq + 1

/-- The store once the scan has found the active slot, if any. -/
def activate (best : Option FoundSlot) : UdsParamStore ω :=
  match best with
  | none => store
  | some best =>
    { store with
      activeSector := best.sector
      activeSlot := best.slot
      nextSeq := seqAfter best.seq
      hasActiveSlot := true }

/-- `scan_for_active_slot`: makes the newest valid record of all slots the active one. -/
def scanForActiveSlot (w : ω) : UdsParamStore ω × ω :=
  let (best, w) := scanSlots store w
  (activate store best, w)

end Scan

/-! ## Init -/

/-- `n` rounded up to a multiple of `granule`. -/
def alignUp (n granule : Nat) : Nat := (n + granule - 1) / granule * granule

/-- The granule with its default. -/
def portGranule (port : UdsFlashPort ω) : UInt8 :=
  if port.programGranule = 0 then 2 else port.programGranule

/-- The erased byte with its default. -/
def portErased (port : UdsFlashPort ω) : UInt8 :=
  if port.erasedByte ≠ 0 then port.erasedByte else 0xFF

/-- `header_size` -/
def headerSizeFor (granule : Nat) : Nat :=
  alignUp (if granule < slotHeaderSize then slotHeaderSize else granule) granule % 65536

/-- `payload_aligned` -/
def payloadSizeFor (granule dataSize : Nat) : Nat := alignUp dataSize granule % 65536

/-- `slot_size`, rounded up to 16 where the granule is finer. -/
def slotSizeFor (granule dataSize : Nat) : Nat :=
  let slotSize := (headerSizeFor granule + payloadSizeFor granule dataSize) % 65536
  if slotSize % 16 ≠ 0 ∧ granule < 16 then (slotSize + 15) / 16 * 16 % 65536 else slotSize

/-- The store of an accepted geometry, before the scan. -/
def layOut (port : UdsFlashPort ω) (flashBase : UInt32) (sectorCount : UInt8)
    (dataSize : UInt16) : UdsParamStore ω where
  port := port
  flashBase := flashBase.toNat
  sectorSize := (port.sectorSize flashBase).toNat
  sectorCount := sectorCount.toNat
  dataSize := dataSize.toNat
  slotSize := slotSizeFor (portGranule port).toNat dataSize.toNat
  headerSize := headerSizeFor (portGranule port).toNat
  payloadSizeAligned := payloadSizeFor (portGranule port).toNat dataSize.toNat
  programGranule := (portGranule port).toNat
  erasedByte := portErased port
  slotsPerSector :=
    (port.sectorSize flashBase).toNat / slotSizeFor (portGranule port).toNat dataSize.toNat % 65536
  activeSector := 0
  activeSlot := 0
  nextSeq := 1
  initialized := false
  hasActiveSlot := false

/-- `uds_param_init`: the store, or nothing for `UDS_PARAM_INVALID_PARAM`. -/
def udsParamInit (port : UdsFlashPort ω) (flashBase : UInt32) (sectorCount : UInt8)
    (dataSize : UInt16) (w : ω) : Option (UdsParamStore ω) × ω :=
  if sectorCount = 0 ∨ dataSize = 0 then (none, w)
  else if port.sectorSize flashBase = 0 then (none, w)
  else if portGranule port &&& (portGranule port - 1) ≠ 0 then (none, w)
  else if (port.sectorSize flashBase).toNat
      < slotSizeFor (portGranule port).toNat dataSize.toNat then (none, w)
  else
    let (store, w) := scanForActiveSlot (layOut port flashBase sectorCount dataSize) w
    (some { store with initialized := true }, w)

/-! ## Load and save -/

/-- `uds_param_load`; `data` is what the caller's memory held before. -/
def udsParamLoad (store : UdsParamStore ω) (data : List UInt8) (w : ω) :
    UdsParamStatus × List UInt8 × ω :=
  if ¬store.initialized then (.invalidParam, data, w)
  else if ¬store.hasActiveSlot then (.err, data, w)
  else
    let addr := slotAddr store store.activeSector store.activeSlot
    match store.port.read w ((addr + store.headerSize) % 2 ^ 32) store.dataSize with
    | (none, w) => (.err, data, w)
    | (some data, w) =>
      match store.port.read w addr slotHeaderSize with
      | (none, w) => (.err, data, w)
      | (some bytes, w) =>
        if (decodeHeader bytes).crc ≠ udsCrc16Ccitt data then (.err, data, w)
        else (.ok, data, w)

/-- The piece of `length` bytes that is written when `written` bytes are done. -/
def paddedChunk (erased : UInt8) (src : Buf) (srcSize written length : Nat) : List UInt8 :=
  src.slice written (min (srcSize - written) length)
    ++ List.replicate (length - min (srcSize - written) length) erased

/-- `write_padded_chunked`, with `written` bytes done. -/
def writePaddedChunked (store : UdsParamStore ω) (addr : Nat) (src : Buf) (srcSize total : Nat)
    (written : Nat) (w : ω) : Bool × ω :=
  if _h : written < total then
    let toWrite := min (total - written) 64
    let (done, w) := store.port.write w ((addr + written) % 2 ^ 32)
      (paddedChunk store.erasedByte src srcSize written toWrite)
    if ¬done then (false, w)
    else writePaddedChunked store addr src srcSize total (written + toWrite) w
  else (true, w)
termination_by total - written
decreasing_by omega

/-- The slot that the next save takes. -/
def prepareNextSlot (store : UdsParamStore ω) (w : ω) : Option (Nat × Nat) × ω :=
  if store.hasActiveSlot then
    if store.slotsPerSector ≤ store.activeSlot + 1 then
      let sector := (store.activeSector + 1) % store.sectorCount
      let (erased, w) :=
        store.port.erase w ((store.flashBase + sector * store.sectorSize) % 2 ^ 32)
      if ¬erased then (none, w) else (some (sector, 0), w)
    else (some (store.activeSector, store.activeSlot + 1), w)
  else
    let (erased, w) := store.port.erase w store.flashBase
    if ¬erased then (none, w) else (some (0, 0), w)

/-- The header of a slot with this data. -/
def saveHeader (store : UdsParamStore ω) (data : Buf) : UdsParamSlotHeader where
  magic := paramMagic
  seq := store.nextSeq
  dataSize := UInt16.ofNat store.dataSize
  crc := udsCrc16Ccitt (data.slice 0 store.dataSize)

/-- The data and then the header are written to the slot. -/
def writeSlot (store : UdsParamStore ω) (data : Buf) (sector slot : Nat) (w : ω) : Bool × ω :=
  let addr := slotAddr store sector slot
  let (done, w) := writePaddedChunked store ((addr + store.headerSize) % 2 ^ 32) data
    store.dataSize store.payloadSizeAligned 0 w
  if ¬done then (false, w)
  else
    writePaddedChunked store addr
      (Buf.ofList (encodeHeader store.erasedByte (saveHeader store data))) slotHeaderSize
      store.headerSize 0 w

/-- Writes the record into the next slot, which becomes active only when all of it is written. -/
def udsParamSave (store : UdsParamStore ω) (data : Buf) (w : ω) :
    UdsParamStatus × UdsParamStore ω × ω :=
  if ¬store.initialized then (.invalidParam, store, w)
  else
    match prepareNextSlot store w with
    | (none, w) => (.err, store, w)
    | (some (sector, slot), w) =>
      let (done, w) := writeSlot store data sector slot w
      if ¬done then (.err, store, w)
      else
        (.ok, { store with
          activeSector := sector
          activeSlot := slot
          nextSeq := seqAfter store.nextSeq
          hasActiveSlot := true }, w)

/-- The loop of `uds_param_erase_all`, from sector `sec` on. -/
def eraseSectors (store : UdsParamStore ω) (sec : Nat) (w : ω) : Bool × ω :=
  if _h : sec < store.sectorCount then
    let (erased, w) := store.port.erase w ((store.flashBase + sec * store.sectorSize) % 2 ^ 32)
    if ¬erased then (false, w) else eraseSectors store (sec + 1) w
  else (true, w)
termination_by store.sectorCount - sec
decreasing_by omega

/-- Erases every sector and forgets the active slot. -/
def udsParamEraseAll (store : UdsParamStore ω) (w : ω) : UdsParamStatus × UdsParamStore ω × ω :=
  if ¬store.initialized then (.invalidParam, store, w)
  else
    let (done, w) := eraseSectors store 0 w
    if ¬done then (.err, store, w)
    else
      (.ok, { store with
        activeSector := 0
        activeSlot := 0
        nextSeq := 1
        hasActiveSlot := false }, w)

end UdsIsoTp.Flash
