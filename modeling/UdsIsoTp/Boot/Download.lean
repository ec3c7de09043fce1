import UdsIsoTp.Lib.Buffer
import UdsIsoTp.Lib.Clock

/-!
# The download engine

`uds_download.c`: an image is received block by block into the staging region of a memory
map, after the region has been checked against the map and erased.

The flash is behind callbacks; `ω` is what stands behind their context. Addresses and
lengths are the source's `uint32_t`, so that its arithmetic wraps where it does there.
-/

namespace UdsIsoTp.Boot

variable {ω : Type}

/-- What a routine of the download says. -/
inductive UdsDownloadResult where
  | ok
  | busy
  | invalidArgument
  | notReady
  | outOfRange
  | alignmentError
  | overflow
  | sequenceError
  | programError
  | eraseError
  | verifyError
  | timeout
  | aborted
  deriving DecidableEq, Repr

/-- Where a download stands. -/
inductive UdsDownloadState where
  | idle
  | erasing
  | receiving
  | verifying
  | complete
  | aborted
  deriving DecidableEq, Repr

/-- The addresses from `start` up to, without, `endExclusive`. -/
structure UdsDownloadRegion where
  start : UInt32
  endExclusive : UInt32
  deriving DecidableEq, Repr

/-- The region an image may be written to, the four it may not touch, and the alignments. -/
structure UdsDownloadMemoryMap where
  stagingImage : UdsDownloadRegion
  bootloader : UdsDownloadRegion
  activeApplication : UdsDownloadRegion
  persistentStorage : UdsDownloadRegion
  diagnosticStorage : UdsDownloadRegion
  eraseAlignment : UInt32
  programAlignment : UInt32
  maxBlockLength : UInt16
  activationSupported : Bool
  deriving DecidableEq, Repr

/-- What the download knows of the image, and what the verification gets to see. -/
structure UdsDownloadMetadata where
  magic : UInt32
  imageAddress : UInt32
  imageLength : UInt32
  receivedLength : UInt32
  crc32 : UInt32
  hash : List UInt8
  crcValid : Bool
  hashValid : Bool
  activationPending : Bool

/-- The drivers of the flash, as the owner of the download hands them over. -/
structure UdsDownloadCallbacks (ω : Type) where
  eraseStart : Option (ω → UInt32 → UInt32 → UdsDownloadResult × ω)
  erasePoll : Option (ω → UdsDownloadResult × ω)
  program : Option (ω → UInt32 → List UInt8 → UdsDownloadResult × ω)
  verifyImage : Option (ω → UdsDownloadMetadata → UInt32 → Bool → UdsDownloadResult × ω)
  abort : Option (ω → ω)
  watchdogKick : Option (ω → ω)

/-- The whole of `uds_download_t`. -/
structure UdsDownload (ω : Type) where
  memory : UdsDownloadMemoryMap
  callbacks : UdsDownloadCallbacks ω
  state : UdsDownloadState
  metadata : UdsDownloadMetadata
  expectedBlock : UInt8
  deadlineMs : UInt32
  crc32 : UInt32

/-- `UDS_DOWNLOAD_MAX_CHUNK_LENGTH` -/
def maxChunkLength : UInt16 := 256
/-- `UDS_DOWNLOAD_TIMEOUT_MS` -/
def downloadTimeoutMs : UInt32 := 5000

/-- `UDS_DOWNLOAD_METADATA_MAGIC` -/
def downloadMetadataMagic : UInt32 := 0x55445349

/-! ## Checks -/

/-- `range_inside`: the length is compared with what is left of the region, so nothing wraps. -/
def rangeInside (region : UdsDownloadRegion) (address length : UInt32) : Bool :=
  if length = 0 ∨ address < region.start ∨ region.endExclusive < region.start then false
  else length ≤ region.endExclusive - address

/-- `aligned`: an alignment of 0 is none at all. -/
def aligned (value alignment : UInt32) : Bool := alignment ≠ 0 ∧ value % alignment = 0

/-- `overlaps`, of two half-open ranges. -/
def overlaps (left right : UdsDownloadRegion) : Bool :=
  left.start < right.endExclusive ∧ right.start < left.endExclusive

/-- Whether an image may be put there: inside the staging region, clear of the others. -/
def validateDownloadRegion (map : UdsDownloadMemoryMap) (address length : UInt32) : Bool :=
  let image : UdsDownloadRegion := ⟨address, address + length⟩
  if length = 0 ∨ image.endExclusive < address then false
  else if ¬rangeInside map.stagingImage address length then false
  else
    !overlaps image map.bootloader && !overlaps image map.activeApplication
      && !overlaps image map.persistentStorage && !overlaps image map.diagnosticStorage

/-! ## The checksum -/

/-- One step of the reflected CRC, with the polynomial 0xEDB88320. -/
def crc32Bit (value : UInt32) : UInt32 :=
  if value &&& 1 ≠ 0 then (value >>> 1) ^^^ 0xEDB88320 else value >>> 1

/-- Eight steps, over the bits of one byte. -/
def crc32Byte (value : UInt32) (byte : UInt8) : UInt32 :=
  Nat.repeat crc32Bit 8 (value ^^^ byte.toUInt32)

/-- `crc32_update`, over all of the data. -/
def crc32Update (crc : UInt32) (data : List UInt8) : UInt32 := data.foldl crc32Byte crc

/-! ## Operations -/

/-- `uds_download_init`; the map and the callbacks are there. -/
def udsDownloadInit (memory : UdsDownloadMemoryMap) (callbacks : UdsDownloadCallbacks ω) :
    UdsDownload ω where
  memory := memory
  callbacks := callbacks
  state := .idle
  metadata := ⟨0, 0, 0, 0, 0, List.replicate 32 0, false, false, false⟩
  expectedBlock := 1
  deadlineMs := 0
  crc32 := 0xFFFFFFFF

/-- An optional callback that answers nothing. -/
def notify (callback : Option (ω → ω)) (w : ω) : ω :=
  match callback with
  | none => w
  | some f => f w

/-- Gives the download up and tells the owner. -/
def udsDownloadAbort (d : UdsDownload ω) (w : ω) : UdsDownload ω × ω :=
  ({ d with state := .aborted, metadata := { d.metadata with activationPending := false } },
    notify d.callbacks.abort w)

/-- The download that has been accepted. -/
def beginDownload (d : UdsDownload ω) (address length now : UInt32) : UdsDownload ω :=
  { d with
    metadata := { d.metadata with
      magic := downloadMetadataMagic
      imageAddress := address
      imageLength := length
      receivedLength := 0
      crc32 := 0xFFFFFFFF
      crcValid := false
      hashValid := false
      activationPending := false }
    crc32 := 0xFFFFFFFF
    expectedBlock := 1
    deadlineMs := now + downloadTimeoutMs
    state := .erasing }

/-- `uds_download_begin`: checks the image's place, then starts the erase. -/
def udsDownloadBegin (d : UdsDownload ω) (address length now : UInt32) (w : ω) :
    UdsDownloadResult × UdsDownload ω × ω :=
  match d.callbacks.eraseStart with
  | none => (.invalidArgument, d, w)
  | some eraseStart =>
    if d.callbacks.erasePoll.isNone ∨ d.callbacks.program.isNone
        ∨ d.callbacks.verifyImage.isNone then (.invalidArgument, d, w)
    else if ¬validateDownloadRegion d.memory address length then (.outOfRange, d, w)
    else if ¬aligned address d.memory.eraseAlignment ∨ ¬aligned length d.memory.eraseAlignment
        ∨ ¬aligned address d.memory.programAlignment then (.alignmentError, d, w)
    else if d.memory.maxBlockLength < 3 ∨ maxChunkLength < d.memory.maxBlockLength then
      (.invalidArgument, d, w)
    else
      let (result, w) := eraseStart w address length
      if result ≠ .ok then (result, d, w) else (.ok, beginDownload d address length now, w)

/-- `uds_download_poll_erase`: asks the driver whether the erase is through. -/
def udsDownloadPollErase (d : UdsDownload ω) (now : UInt32) (w : ω) :
    UdsDownloadResult × UdsDownload ω × ω :=
  match d.callbacks.erasePoll with
  | none => (.notReady, d, w)
  | some erasePoll =>
    if d.state ≠ .erasing then (.notReady, d, w)
    else if expired now d.deadlineMs then (.timeout, udsDownloadAbort d w)
    else
      let (result, w) := erasePoll (notify d.callbacks.watchdogKick w)
      if result = .ok then
        (.ok, { d with state := .receiving, deadlineMs := now + downloadTimeoutMs }, w)
      else (result, d, w)

/-- The download after a block has been programmed. -/
def blockProgrammed (d : UdsDownload ω) (bytes : List UInt8) (length : UInt16) (now : UInt32) :
    UdsDownload ω :=
  let crc := crc32Update d.crc32 bytes
  { d with
    metadata := { d.metadata with
      receivedLength := d.metadata.receivedLength + length.toUInt32
      crc32 := crc }
    crc32 := crc
    expectedBlock := d.expectedBlock + 1
    deadlineMs := now + downloadTimeoutMs }

/-- `uds_download_write`; `none` is `data == NULL`. -/
def udsDownloadWrite (d : UdsDownload ω) (block : UInt8) (data : Option Buf) (length : UInt16)
    (now : UInt32) (w : ω) : UdsDownloadResult × UdsDownload ω × ω :=
  match d.callbacks.program, data with
  | some program, some data =>
    if length = 0 ∨ maxChunkLength < length ∨ d.state ≠ .receiving then (.notReady, d, w)
    else if expired now d.deadlineMs then (.timeout, udsDownloadAbort d w)
    else if block ≠ d.expectedBlock then (.sequenceError, d, w)
    else if d.metadata.imageLength - d.metadata.receivedLength < length.toUInt32 then
      (.overflow, d, w)
    else if d.metadata.receivedLength % d.memory.programAlignment ≠ 0
        ∨ length.toUInt32 % d.memory.programAlignment ≠ 0 then (.alignmentError, d, w)
    else
      let bytes := data.slice 0 length.toNat
      let (result, w) := program w (d.metadata.imageAddress + d.metadata.receivedLength) bytes
      if result ≠ .ok then (.programError, d, w)
      else (.ok, blockProgrammed d bytes length now, notify d.callbacks.watchdogKick w)
  | _, _ => (.notReady, d, w)

/-- `uds_download_finish`: after the last byte, compares the CRC and has the image verified. -/
def udsDownloadFinish (d : UdsDownload ω) (expectedCrc32 : UInt32) (hasExpectedCrc32 : Bool)
    (now : UInt32) (w : ω) : UdsDownloadResult × UdsDownload ω × ω :=
  match d.callbacks.verifyImage with
  | none => (.notReady, d, w)
  | some verifyImage =>
    if d.state ≠ .receiving ∨ d.metadata.receivedLength ≠ d.metadata.imageLength then
      (.notReady, d, w)
    else if expired now d.deadlineMs then (.timeout, udsDownloadAbort d w)
    else
      let crcValid := !hasExpectedCrc32 || (d.crc32 ^^^ 0xFFFFFFFF == expectedCrc32)
      let d := { d with
        state := .verifying
        metadata := { d.metadata with crcValid := crcValid } }
      if ¬crcValid then (.verifyError, udsDownloadAbort d w)
      else
        let (result, w) := verifyImage w d.metadata expectedCrc32 hasExpectedCrc32
        if result ≠ .ok then (result, udsDownloadAbort d w)
        else
          (.ok, { d with
            metadata := { d.metadata with activationPending := !d.memory.activationSupported }
            state := .complete }, w)

/-- `uds_download_tick`: aborts a download that is over its deadline. -/
def udsDownloadTick (d : UdsDownload ω) (now : UInt32) (w : ω) :
    UdsDownloadResult × UdsDownload ω × ω :=
  if d.state = .idle ∨ d.state = .complete ∨ d.state = .aborted then (.ok, d, w)
  else if expired now d.deadlineMs then (.timeout, udsDownloadAbort d w)
  else (.ok, d, notify d.callbacks.watchdogKick w)

end UdsIsoTp.Boot
