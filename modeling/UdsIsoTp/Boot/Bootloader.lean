import UdsIsoTp.Boot.Verify
import UdsIsoTp.Flash.BootFloor
import UdsIsoTp.Uds.Types

/-!
# The bootloader

`uds_bootloader.c`: images are downloaded into slot B, checked by a routine, and activated;
an active image is confirmed or rolled back. This is the build without the HAL flash module,
whose slots and metadata journal are arrays of the file.

The file's static variables are the fields of `Bootloader`. The download engine reaches
`s_bl_ctx` and the slots through its callbacks, so these two are its world; `φ` is what
stands behind the flash port of the floor store. The platform clock's answer is the
argument `now` of the operations that ask it.
-/

namespace UdsIsoTp.Boot

open UdsIsoTp.Uds UdsIsoTp.Flash

variable {φ : Type}

/-! ## Constants -/

/-- The two devices that the bootloader is built for. -/
inductive UdsBootloaderTarget where
  | stm32f767
  | stm32c092
  deriving DecidableEq, Repr

/-- What CheckMemory judges an image by. -/
inductive UdsBootloaderVerifyMode where
  | crc32
  | sha256Secure
  deriving DecidableEq, Repr

-- `UdsBootloaderSlotStatus`, as the byte in the metadata.
namespace SlotStatus

/-- `UDS_BL_SLOT_INVALID` -/
def invalid : UInt8 := 0
/-- `UDS_BL_SLOT_CANDIDATE` -/
def candidate : UInt8 := 1
/-- `UDS_BL_SLOT_ACTIVE` -/
def active : UInt8 := 2
/-- `UDS_BL_SLOT_CONFIRMED` -/
def confirmed : UInt8 := 3
/-- `UDS_BL_SLOT_ROLLBACK` -/
def rollback : UInt8 := 4

end SlotStatus

/-- `UDS_BL_ROUTINE_ERASE_MEMORY` -/
def routineEraseMemoryId : UInt16 := 0xFF00
/-- `UDS_BL_ROUTINE_CHECK_MEMORY` -/
def routineCheckMemoryId : UInt16 := 0x0202
/-- `UDS_BL_ROUTINE_CHECK_DEPENDENCIES` -/
def routineCheckDependenciesId : UInt16 := 0xFF01

/-- `UDS_ROUTINE_SUBFUNCTION_START_ROUTINE` -/
def subfunctionStartRoutine : UInt8 := 0x01
/-- `UDS_ROUTINE_SUBFUNCTION_REQUEST_RESULTS` -/
def subfunctionRequestResults : UInt8 := 0x03

/-- `UDS_BL_MOCK_FLASH_SIZE` -/
def mockFlashSize : UInt32 := 4096

namespace F767

/-- `UDS_BL_F767_BOOTLOADER_START` -/
def bootloaderStart : UInt32 := 0x08000000
/-- `UDS_BL_F767_BOOTLOADER_SIZE` -/
def bootloaderSize : UInt32 := 0x00040000
/-- `UDS_BL_F767_NVM_METADATA_START` -/
def nvmMetadataStart : UInt32 := 0x08010000
/-- `UDS_BL_F767_APP_SLOT_A_START` -/
def appSlotAStart : UInt32 := 0x08040000
/-- `UDS_BL_F767_APP_SLOT_A_SIZE` -/
def appSlotASize : UInt32 := 0x000C0000
/-- `UDS_BL_F767_APP_SLOT_B_START` -/
def appSlotBStart : UInt32 := 0x08100000
/-- `UDS_BL_F767_APP_SLOT_B_SIZE` -/
def appSlotBSize : UInt32 := 0x00100000

end F767

namespace C092

/-- `UDS_BL_C092_BOOTLOADER_START` -/
def bootloaderStart : UInt32 := 0x08000000
/-- `UDS_BL_C092_BOOTLOADER_SIZE` -/
def bootloaderSize : UInt32 := 0x00008000
/-- `UDS_BL_C092_NVM_METADATA_START` -/
def nvmMetadataStart : UInt32 := 0x08008000
/-- `UDS_BL_C092_NVM_METADATA_SIZE` -/
def nvmMetadataSize : UInt32 := 0x00002000
/-- `UDS_BL_C092_APP_SLOT_A_START` -/
def appSlotAStart : UInt32 := 0x0800A000
/-- `UDS_BL_C092_APP_SLOT_A_SIZE` -/
def appSlotASize : UInt32 := 0x0001B000
/-- `UDS_BL_C092_APP_SLOT_B_START` -/
def appSlotBStart : UInt32 := 0x08025000
/-- `UDS_BL_C092_APP_SLOT_B_SIZE` -/
def appSlotBSize : UInt32 := 0x0001B000

end C092

/-! ## State -/

/-- The static `s_bl_ctx`: the slots of the device, the staging metadata and the results of the last
routines. -/
structure UdsBootloaderContext where
  target : UdsBootloaderTarget
  activeVersion : UInt32
  activeSlotAddr : UInt32
  activeSlotSize : UInt32
  targetSlotAddr : UInt32
  targetSlotSize : UInt32
  downloadInProgress : Bool
  candidateVerified : Bool
  lastEraseResult : UInt8
  lastCheckMemoryResult : UInt8
  lastCheckDependenciesResult : UInt8
  verifyMode : UdsBootloaderVerifyMode
  stagingMetadata : FirmwareMetadata

/-- The slots, and how much of each has been programmed. -/
structure MockFlash where
  slotA : Buf
  slotB : Buf
  slotALen : UInt32
  slotBLen : UInt32

/-- What the download engine's callbacks see. -/
abbrev BootWorld := UdsBootloaderContext × MockFlash

/-- The statics of `uds_bootloader.c`, with the flash, the record of the journal and the floor store
behind them. -/
structure Bootloader (φ : Type) where
  ctx : UdsBootloaderContext
  flash : MockFlash
  memoryMap : UdsDownloadMemoryMap
  download : UdsDownload BootWorld
  nvm : Option FirmwareMetadata
  floorStore : Option (UdsBootFloor φ)
  floorFlash : φ
  signatureVerifier : Option (List UInt8 → List UInt8 → Bool)
  signatureRequired : Bool

/-! ## Slots -/

/-- `bootloader_get_slot_ptr`: the array, the index in it and the bytes from there on. -/
def bootloaderGetSlotPtr (ctx : UdsBootloaderContext) (flash : MockFlash) (address : UInt32) :
    Option (Buf × Nat × Nat) :=
  if ctx.targetSlotAddr ≤ address then
    let offset := address - ctx.targetSlotAddr
    if offset < mockFlashSize then
      some (flash.slotB, offset.toNat, (mockFlashSize - offset).toNat)
    else none
  else
    let offset := if ctx.activeSlotAddr ≤ address then address - ctx.activeSlotAddr else 0
    if offset < mockFlashSize then
      some (flash.slotA, offset.toNat, (mockFlashSize - offset).toNat)
    else none

/-- Without the HAL an erase blanks the whole array of the slot that the address is in. -/
def bootloaderFlashEraseStart (w : BootWorld) (address _length : UInt32) :
    UdsDownloadResult × BootWorld :=
  if w.1.targetSlotAddr ≤ address then
    (.ok, w.1, { w.2 with slotBLen := 0, slotB := fun _ => 0xFF })
  else (.ok, w.1, { w.2 with slotALen := 0, slotA := fun _ => 0xFF })

/-- The erase is over at once, and its result is that of the last erase routine. -/
def bootloaderFlashErasePoll (w : BootWorld) : UdsDownloadResult × BootWorld :=
  (if w.1.lastEraseResult = 0 then .ok else .eraseError, w)

/-- The bytes go into the array of the slot, if they fit it, and its length grows with them. -/
def mockFlashProgram (ctx : UdsBootloaderContext) (flash : MockFlash) (address : UInt32)
    (data : List UInt8) : MockFlash :=
  let length := UInt32.ofNat data.length
  if data.length = 0 then flash
  else if ctx.targetSlotAddr ≤ address then
    let offset := address - ctx.targetSlotAddr
    if offset + length ≤ mockFlashSize then
      { flash with
        slotB := flash.slotB.copy offset.toNat (Buf.ofList data) 0 data.length
        slotBLen := if flash.slotBLen < offset + length then offset + length else flash.slotBLen }
    else flash
  else
    let offset := if ctx.activeSlotAddr ≤ address then address - ctx.activeSlotAddr else 0
    if offset + length ≤ mockFlashSize then
      { flash with
        slotA := flash.slotA.copy offset.toNat (Buf.ofList data) 0 data.length
        slotALen := if flash.slotALen < offset + length then offset + length else flash.slotALen }
    else flash

/-- Programming does not fail, not even where `mockFlashProgram` has dropped the bytes. -/
def bootloaderFlashProgram (w : BootWorld) (address : UInt32) (data : List UInt8) :
    UdsDownloadResult × BootWorld :=
  (.ok, w.1, mockFlashProgram w.1 w.2 address data)

/-- The checksum of the stored image against the one of TransferExit, or else the one that was
counted while it was written. -/
def bootloaderFlashVerify (w : BootWorld) (metadata : UdsDownloadMetadata)
    (expectedCrc32 : UInt32) (hasExpectedCrc32 : Bool) : UdsDownloadResult × BootWorld :=
  if metadata.imageLength = 0 then (.invalidArgument, w)
  else
    let (buf, len) :=
      if w.1.targetSlotAddr ≤ metadata.imageAddress then (w.2.slotB, w.2.slotBLen)
      else (w.2.slotA, w.2.slotALen)
    if len = 0 ∨ len < metadata.imageLength then (.verifyError, w)
    else
      let computed := bootCalcCrc32 (buf.slice 0 metadata.imageLength.toNat)
      if hasExpectedCrc32 then
        if computed ≠ expectedCrc32 then (.verifyError, w) else (.ok, w)
      else if metadata.crc32 ≠ 0xFFFFFFFF ∧ computed ≠ metadata.crc32 ^^^ 0xFFFFFFFF then
        (.verifyError, w)
      else (.ok, w)

/-! ## Journal, floor and signature -/

/-- The metadata as the journal keeps it; its bytes are copied in and out whole. -/
def bootloaderNvmSaveMetadata (s : Bootloader φ) (metadata : FirmwareMetadata) : Bootloader φ :=
  { s with nvm := some (bootFinalizeMetadata metadata) }

/-- The record of the journal, if it checks. -/
def bootloaderNvmLoadMetadata (s : Bootloader φ) : Option FirmwareMetadata :=
  match s.nvm with
  | none => none
  | some metadata => if bootValidateMetadata metadata then some metadata else none

/-- The version below which no image is accepted: that of the running image, or the persistent floor
if that is higher. -/
def udsBootloaderGetVersionFloor (s : Bootloader φ) : UInt32 :=
  match s.floorStore with
  | none => s.ctx.activeVersion
  | some bf =>
    if s.ctx.activeVersion < bootFloorGet bf then bootFloorGet bf else s.ctx.activeVersion

/-- `uds_bootloader_verify_signature`; without a verifier nothing is authentic. -/
def udsBootloaderVerifySignature (s : Bootloader φ) (digest signature : List UInt8) : Bool :=
  match s.signatureVerifier with
  | none => false
  | some verifier => verifier digest signature

/-! ## Confirmation and rollback -/

/-- The persistent floor is raised to the version of the image, where there is a floor. -/
def raiseFloor (s : Bootloader φ) : Bool × Bootloader φ :=
  match s.floorStore with
  | none => (true, s)
  | some bf =>
    let (raised, bf, w) := bootFloorRaise bf s.ctx.stagingMetadata.version s.floorFlash
    (raised, { s with floorStore := some bf, floorFlash := w })

/-- The end of a confirmation. -/
def markConfirmed (s : Bootloader φ) : Bootloader φ :=
  let metadata := { s.ctx.stagingMetadata with
    status := SlotStatus.confirmed
    bootAttempts := 0 }
  bootloaderNvmSaveMetadata { s with ctx := { s.ctx with stagingMetadata := metadata } } metadata

/-- The image has proved itself. Its version becomes the floor before it is marked, so a floor that
cannot be stored leaves it on trial. -/
def udsBootloaderConfirmActiveImage (s : Bootloader φ) : UdsDownloadResult × Bootloader φ :=
  if s.ctx.stagingMetadata.status ≠ SlotStatus.active then (.sequenceError, s)
  else
    let (raised, s) := raiseFloor s
    if ¬raised then (.programError, s) else (.ok, markConfirmed s)

/-- Back to slot A, whose version the code takes to be 1. -/
def udsBootloaderRollbackCandidate (s : Bootloader φ) : UdsDownloadResult × Bootloader φ :=
  let metadata := { s.ctx.stagingMetadata with status := SlotStatus.rollback, activeSlot := 0 }
  (.ok, bootloaderNvmSaveMetadata { s with ctx := { s.ctx with
    stagingMetadata := metadata
    activeSlotAddr :=
      if s.ctx.target = .stm32c092 then C092.appSlotAStart else F767.appSlotAStart
    activeVersion := 1
    candidateVerified := false } } metadata)

/-! ## Activation -/

/-- `c092_verify_copied_image`, as a truth value. -/
def c092VerifyCopiedImage (ctx : UdsBootloaderContext) (copied : Buf) (imageSize : UInt32) :
    Bool :=
  if imageSize.toNat ≤ metadataSize then false
  else
    let payload := copied.slice metadataSize (imageSize.toNat - metadataSize)
    if ctx.verifyMode = .crc32 then
      !(ctx.stagingMetadata.crc32 == 0 || bootCalcCrc32 payload != ctx.stagingMetadata.crc32)
    else sha256Hash payload == ctx.stagingMetadata.sha256

/-- The STM32C092 runs from slot A only: erase it, copy slot B into it and check the copy. -/
def c092CopyCandidateToSlotA (s : Bootloader φ) (imageSize slotAAddr : UInt32) :
    UdsDownloadResult × Bootloader φ :=
  let (erased, w) := bootloaderFlashEraseStart (s.ctx, s.flash) slotAAddr imageSize
  let s := { s with flash := w.2 }
  if erased ≠ .ok then (erased, s)
  else
    let (polled, _) := bootloaderFlashErasePoll (s.ctx, s.flash)
    if polled ≠ .ok then (polled, s)
    else
      let copyLen := if mockFlashSize < imageSize then mockFlashSize else imageSize
      let (programmed, w) := bootloaderFlashProgram (s.ctx, s.flash) slotAAddr
        (s.flash.slotB.slice 0 copyLen.toNat)
      let s := { s with flash := w.2 }
      if programmed ≠ .ok then (programmed, s)
      else if ¬c092VerifyCopiedImage s.ctx s.flash.slotA copyLen then (.verifyError, s)
      else (.ok, s)

/-- The end of an activation. -/
def markActive (s : Bootloader φ) : Bootloader φ :=
  let metadata := { s.ctx.stagingMetadata with
    status := SlotStatus.active
    bootAttempts := 1
    maxAttempts := 3
    activeSlot := 0 }
  bootloaderNvmSaveMetadata { s with ctx := { s.ctx with
    activeVersion := s.ctx.stagingMetadata.version
    stagingMetadata := metadata
    candidateVerified := false } } metadata

/-- The candidate that CheckMemory has accepted becomes the image that runs. -/
def udsBootloaderActivateCandidate (s : Bootloader φ) : UdsDownloadResult × Bootloader φ :=
  if ¬s.ctx.candidateVerified then (.sequenceError, s)
  else if s.ctx.target = .stm32c092 then
    let imageSize := s.ctx.stagingMetadata.imageSize
    if imageSize = 0 ∨ s.ctx.activeSlotSize < imageSize then (.outOfRange, s)
    else
      let (copied, s) := c092CopyCandidateToSlotA s imageSize s.ctx.activeSlotAddr
      if copied ≠ .ok then (copied, s) else (.ok, markActive s)
  else (.ok, markActive s)

/-! ## Target and init -/

/-- `memset(&metadata, 0, …)` with the status of a fresh device. -/
def freshMetadata : FirmwareMetadata where
  magic := 0
  version := 0
  imageSize := 0
  crc32 := 0
  sha256 := List.replicate 32 0
  signature := List.replicate 64 0
  status := SlotStatus.confirmed
  bootAttempts := 0
  maxAttempts := 0
  activeSlot := 0
  formatVersion := 0
  flags := 0
  headerCrc32 := 0
  reserved := List.replicate 4 0

/-- Where a download may go on the device, and what it must stay away from. -/
def targetMemoryMap : UdsBootloaderTarget → UdsDownloadMemoryMap
  | .stm32c092 => {
    stagingImage := ⟨C092.appSlotBStart, C092.appSlotBStart + C092.appSlotBSize⟩
    bootloader := ⟨C092.bootloaderStart, C092.bootloaderStart + C092.bootloaderSize⟩
    activeApplication := ⟨C092.appSlotAStart, C092.appSlotAStart + C092.appSlotASize⟩
    persistentStorage := ⟨C092.nvmMetadataStart, C092.nvmMetadataStart + C092.nvmMetadataSize⟩
    diagnosticStorage := ⟨C092.nvmMetadataStart, C092.nvmMetadataStart + C092.nvmMetadataSize⟩
    eraseAlignment := 8
    programAlignment := 8
    maxBlockLength := 256
    activationSupported := true }
  | .stm32f767 => {
    stagingImage := ⟨F767.appSlotBStart, F767.appSlotBStart + F767.appSlotBSize⟩
    bootloader := ⟨F767.bootloaderStart, F767.bootloaderStart + F767.bootloaderSize⟩
    activeApplication := ⟨F767.appSlotAStart, F767.appSlotAStart + F767.appSlotASize⟩
    persistentStorage := ⟨F767.nvmMetadataStart, F767.nvmMetadataStart + 0x8000⟩
    diagnosticStorage := ⟨F767.nvmMetadataStart + 0x8000, F767.appSlotAStart⟩
    eraseAlignment := 4
    programAlignment := 4
    maxBlockLength := 256
    activationSupported := true }

/-- The flash operations that the download engine is given. -/
def bootDownloadCallbacks : UdsDownloadCallbacks BootWorld where
  eraseStart := some bootloaderFlashEraseStart
  erasePoll := some bootloaderFlashErasePoll
  program := some bootloaderFlashProgram
  verifyImage := some bootloaderFlashVerify
  abort := none
  watchdogKick := none

/-- The context of a target. -/
def targetContext (target : UdsBootloaderTarget) : UdsBootloaderContext where
  target := target
  activeVersion := 1
  activeSlotAddr := if target = .stm32c092 then C092.appSlotAStart else F767.appSlotAStart
  activeSlotSize := if target = .stm32c092 then C092.appSlotASize else F767.appSlotASize
  targetSlotAddr := if target = .stm32c092 then C092.appSlotBStart else F767.appSlotBStart
  targetSlotSize := if target = .stm32c092 then C092.appSlotBSize else F767.appSlotBSize
  downloadInProgress := false
  candidateVerified := false
  lastEraseResult := 0x00
  lastCheckMemoryResult := 0x01
  lastCheckDependenciesResult := 0x01
  verifyMode := .sha256Secure
  stagingMetadata := freshMetadata

/-- Sets the device up anew, and with it the download engine. -/
def udsBootloaderSetTarget (s : Bootloader φ) (target : UdsBootloaderTarget) : Bootloader φ :=
  { s with
    ctx := targetContext target
    signatureRequired := true
    memoryMap := targetMemoryMap target
    download := udsDownloadInit (targetMemoryMap target) bootDownloadCallbacks }

/-- `uds_bootloader_init`; the target is the one the file was compiled for. -/
def udsBootloaderInit (s : Bootloader φ) (target : UdsBootloaderTarget) : Bootloader φ :=
  let s := udsBootloaderSetTarget s target
  match bootloaderNvmLoadMetadata s with
  | none => s
  | some loaded =>
    let s := { s with ctx := { s.ctx with
      stagingMetadata := loaded
      activeVersion := loaded.version } }
    if loaded.status = SlotStatus.active then
      let metadata := { loaded with bootAttempts := loaded.bootAttempts + 1 }
      let s := { s with ctx := { s.ctx with stagingMetadata := metadata } }
      if metadata.maxAttempts < metadata.bootAttempts then (udsBootloaderRollbackCandidate s).2
      else bootloaderNvmSaveMetadata s metadata
    else s

/-! ## Download services -/

/-- Service 0x34; the block length is only set on success. -/
def udsBootloaderRequestDownload (s : Bootloader φ) (address length now : UInt32) :
    UdsCallbackResult × UInt16 × Bootloader φ :=
  if address < s.ctx.targetSlotAddr
      ∨ s.ctx.targetSlotAddr + s.ctx.targetSlotSize < address + length then (.outOfRange, 0, s)
  else
    let (result, d, w) := udsDownloadBegin s.download address length now (s.ctx, s.flash)
    let s := { s with download := d, flash := w.2 }
    if result ≠ .ok then (if result = .outOfRange then .outOfRange else .error, 0, s)
    else
      let (_, d, w) := udsDownloadPollErase s.download now (s.ctx, s.flash)
      (.ok, s.memoryMap.maxBlockLength, { s with
        download := d
        flash := w.2
        ctx := { s.ctx with downloadInProgress := true, candidateVerified := false } })

/-- A step of the download engine on the file's own download. -/
def runDownload (s : Bootloader φ) (f : UdsDownload BootWorld → BootWorld →
    UdsDownloadResult × UdsDownload BootWorld × BootWorld) :
    UdsDownloadResult × Bootloader φ :=
  let (result, d, w) := f s.download (s.ctx, s.flash)
  (result, { s with download := d, flash := w.2 })

/-- Service 0x36 -/
def udsBootloaderTransferData (s : Bootloader φ) (blockSequence : UInt8) (data : Option Buf)
    (length : UInt16) (now : UInt32) : UdsCallbackResult × Bootloader φ :=
  if ¬s.ctx.downloadInProgress then (.sequenceError, s)
  else
    let s :=
      if s.download.state = .erasing then
        (runDownload s fun d w => udsDownloadPollErase d now w).2
      else s
    let (result, s) :=
      runDownload s fun d w => udsDownloadWrite d blockSequence data length now w
    if result ≠ .ok then (if result = .sequenceError then .sequenceError else .error, s)
    else (.ok, s)

/-- The checksum that a request carries, if it is long enough. -/
def requestedCrc (request : List UInt8) : Option UInt32 :=
  if 4 ≤ request.length then
    some (((byteAt request 0).toUInt32 <<< 24) ||| ((byteAt request 1).toUInt32 <<< 16)
      ||| ((byteAt request 2).toUInt32 <<< 8) ||| (byteAt request 3).toUInt32)
  else none

/-- Service 0x37, and the bytes of its response. -/
def udsBootloaderTransferExit (s : Bootloader φ) (request : List UInt8) (now : UInt32) :
    UdsCallbackResult × List UInt8 × Bootloader φ :=
  if ¬s.ctx.downloadInProgress then (.sequenceError, [], s)
  else
    let expected := requestedCrc request
    let (result, s) := runDownload s fun d w =>
      udsDownloadFinish d (expected.getD 0) expected.isSome now w
    let s := { s with ctx := { s.ctx with downloadInProgress := false } }
    if result ≠ .ok then
      let (d, w) := udsDownloadAbort s.download (s.ctx, s.flash)
      (.error, [], { s with download := d, flash := w.2 })
    else (.ok, [0x00], s)

/-! ## Routines -/

/-- A routine's verdict, the bytes of its response and what it leaves. -/
abbrev RoutineResult (φ : Type) := UdsCallbackResult × List UInt8 × Bootloader φ

/-- The routine that erases slot B. -/
def routineEraseMemory (s : Bootloader φ) (subfunction : UInt8) (_input : List UInt8) :
    RoutineResult φ :=
  if subfunction = subfunctionRequestResults then (.ok, [s.ctx.lastEraseResult], s)
  else
    let (result, w) := bootloaderFlashEraseStart (s.ctx, s.flash) s.ctx.targetSlotAddr
      s.ctx.targetSlotSize
    let status := if result = .ok then 0x00 else 0x01
    (if result = .ok then .ok else .error, [status],
      { s with flash := w.2, ctx := { s.ctx with lastEraseResult := status } })

/-- `parse_check_memory_metadata`: the metadata that the request carries, if any. -/
def parseCheckMemoryMetadata (s : Bootloader φ) (input : List UInt8) : Option FirmwareMetadata :=
  if metadataSize ≤ input.length then some (FirmwareMetadata.decode input)
  else if input.length = 4 ∧ s.ctx.verifyMode = .crc32 then
    some (bootFinalizeMetadata { s.ctx.stagingMetadata with
      magic := metadataMagic
      version := s.ctx.activeVersion
      crc32 := (requestedCrc input).getD 0 })
  else none

/-- The payload of an image in slot B: what follows the header, as far as it is there. -/
def slotBPayload (s : Bootloader φ) (imageSize : UInt32) : Option (List UInt8) :=
  match bootloaderGetSlotPtr s.ctx s.flash (s.ctx.targetSlotAddr + 128) with
  | none => none
  | some (slot, start, avail) =>
    if avail < imageSize.toNat - metadataSize then none
    else some (slot.slice start (imageSize.toNat - metadataSize))

/-- The CRC of the payload, or of the bytes from the start of the slot if the image is no longer
than its header. -/
def verifyCandidateCrc32 (s : Bootloader φ) (metadata : FirmwareMetadata) : Bool :=
  if metadata.crc32 = 0 then false
  else if metadataSize < metadata.imageSize.toNat then
    match slotBPayload s metadata.imageSize with
    | none => false
    | some payload => bootCalcCrc32 payload == metadata.crc32
  else if 0 < metadata.imageSize then
    match bootloaderGetSlotPtr s.ctx s.flash s.ctx.targetSlotAddr with
    | none => false
    | some (slot, start, avail) =>
      if avail < metadata.imageSize.toNat then false
      else bootCalcCrc32 (slot.slice start metadata.imageSize.toNat) == metadata.crc32
  else false

/-- `verify_candidate_crypto`: what stands against the candidate, if anything does. -/
def verifyCandidateCrypto (s : Bootloader φ) (metadata : FirmwareMetadata) :
    Option (UdsCallbackResult × UInt8) :=
  if metadata.imageSize.toNat ≤ metadataSize then some (.error, 0x03)
  else
    match slotBPayload s metadata.imageSize with
    | none => some (.error, 0x03)
    | some payload =>
      if sha256Hash payload ≠ metadata.sha256 then some (.error, 0x03)
      else if s.signatureRequired
          ∧ ¬udsBootloaderVerifySignature s (bootManifestDigest metadata) metadata.signature then
        some (.securityDenied, 0x04)
      else none

/-- What CheckMemory has against the metadata, in the order in which it looks. -/
def judgeCandidate (s : Bootloader φ) (metadata : FirmwareMetadata) :
    Option (UdsCallbackResult × UInt8) :=
  if ¬bootValidateMetadata metadata then some (.outOfRange, 0x01)
  else if metadata.version < udsBootloaderGetVersionFloor s then some (.outOfRange, 0x02)
  else if s.ctx.verifyMode = .crc32 then
    if ¬verifyCandidateCrc32 s metadata then some (.error, 0x03) else none
  else verifyCandidateCrypto s metadata

/-- The metadata that CheckMemory judges: the request's, or the header in slot B. -/
def candidateMetadata (s : Bootloader φ) (input : List UInt8) : Option FirmwareMetadata :=
  match parseCheckMemoryMetadata s input with
  | some metadata => some metadata
  | none =>
    match bootloaderGetSlotPtr s.ctx s.flash s.ctx.targetSlotAddr with
    | none => none
    | some (slot, start, avail) =>
      if avail < metadataSize then none
      else some (FirmwareMetadata.decode (slot.slice start metadataSize))

/-- The metadata become the staging metadata, in memory and in the journal. -/
def acceptCandidate (s : Bootloader φ) (metadata : FirmwareMetadata) : Bootloader φ :=
  let metadata := { metadata with status := SlotStatus.candidate }
  bootloaderNvmSaveMetadata { s with ctx := { s.ctx with
    stagingMetadata := metadata
    candidateVerified := true
    lastCheckMemoryResult := 0x00
    lastCheckDependenciesResult := 0x00 } } metadata

/-- The routine that judges an image in slot B. A refusal leaves a candidate that was accepted
before. -/
def routineCheckMemory (s : Bootloader φ) (subfunction : UInt8) (input : List UInt8) :
    RoutineResult φ :=
  if subfunction = subfunctionRequestResults then (.ok, [s.ctx.lastCheckMemoryResult], s)
  else
    match candidateMetadata s input with
    | none =>
      (.outOfRange, [0x01], { s with ctx := { s.ctx with lastCheckMemoryResult := 0x01 } })
    | some metadata =>
      match judgeCandidate s metadata with
      | some (result, status) =>
        (result, [status], { s with ctx := { s.ctx with lastCheckMemoryResult := status } })
      | none => (.ok, [0x00], acceptCandidate s metadata)

/-- The routine that says whether a candidate is waiting and no download is going on. -/
def routineCheckDependencies (s : Bootloader φ) (subfunction : UInt8) (_input : List UInt8) :
    RoutineResult φ :=
  if subfunction = subfunctionRequestResults then (.ok, [s.ctx.lastCheckDependenciesResult], s)
  else
    let dependenciesOk := s.ctx.candidateVerified && !s.ctx.downloadInProgress
      && s.ctx.stagingMetadata.magic == metadataMagic
    let status := if dependenciesOk then 0x00 else 0x01
    (if dependenciesOk then .ok else .denied, [status],
      { s with ctx := { s.ctx with lastCheckDependenciesResult := status } })

/-- `k_boot_routines` -/
def bootRoutines : List (UInt16 × (Bootloader φ → UInt8 → List UInt8 → RoutineResult φ)) :=
  [(routineEraseMemoryId, routineEraseMemory), (routineCheckMemoryId, routineCheckMemory),
    (routineCheckDependenciesId, routineCheckDependencies)]

/-- Service 0x31 -/
def udsBootloaderRoutineControl (s : Bootloader φ) (subfunction : UInt8) (routineId : UInt16)
    (input : List UInt8) (capacity : UInt16) : RoutineResult φ :=
  if (subfunction ≠ subfunctionStartRoutine ∧ subfunction ≠ subfunctionRequestResults)
      ∨ capacity < 1 then (.outOfRange, [], s)
  else
    match bootRoutines.find? fun entry => entry.1 == routineId with
    | none => (.notSupported, [], s)
    | some entry => entry.2 s subfunction input

end UdsIsoTp.Boot
