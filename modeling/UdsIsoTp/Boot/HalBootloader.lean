import UdsIsoTp.Boot.HalFlash

/-!
# The bootloader on the STM32C092

The part of `uds_bootloader.c` that decides which image runs, built for the STM32C092 with the
HAL flash module: CheckMemory judges the image in slot B where it lies, an activation copies it
to slot A and reads it back, and a jump looks at the vector table first. `Bootloader` is the
same file without the module.

The metadata journal does nothing in this build, and the download engine has no part in what
is said here; both are left out.
-/

namespace UdsIsoTp.Boot.Hal

open UdsIsoTp.Uds UdsIsoTp.Flash

variable {φ η : Type}

/-- The bootloader with all it reaches: the flash, the store of the floor, the verifier. -/
structure HalBootloader (φ η : Type) where
  ctx : UdsBootloaderContext
  flash : η
  floorStore : Option (UdsBootFloor φ)
  signatureVerifier : Option (List UInt8 → List UInt8 → Bool)
  signatureRequired : Bool

/-- The memory behind an address. -/
def memoryAt (hal : HalFlash η) (w : η) (address : UInt32) : Buf :=
  fun i => hal.read w (address.toNat + i)

/-- `bootloader_get_slot_ptr`: the bytes, and how many of them are said to be there. -/
def bootloaderGetSlotPtr (hal : HalFlash η) (s : HalBootloader φ η) (address : UInt32) :
    Buf × Nat :=
  (memoryAt hal s.flash address, s.ctx.targetSlotSize.toNat)

/-- The higher of the active version and the stored floor. -/
def udsBootloaderGetVersionFloor (s : HalBootloader φ η) : UInt32 :=
  match s.floorStore with
  | none => s.ctx.activeVersion
  | some bf =>
    if s.ctx.activeVersion < bootFloorGet bf then bootFloorGet bf else s.ctx.activeVersion

/-- Without a verifier no signature is good. -/
def udsBootloaderVerifySignature (s : HalBootloader φ η) (digest signature : List UInt8) : Bool :=
  match s.signatureVerifier with
  | none => false
  | some verifier => verifier digest signature

/-! ## CheckMemory -/

/-- `parse_check_memory_metadata`: a whole record, or a bare CRC in the CRC mode. -/
def parseCheckMemoryMetadata (ctx : UdsBootloaderContext) (input : List UInt8) :
    Option FirmwareMetadata :=
  if metadataSize ≤ input.length then some (FirmwareMetadata.decode input)
  else if input.length = 4 ∧ ctx.verifyMode = .crc32 then
    some (bootFinalizeMetadata { ctx.stagingMetadata with
      magic := metadataMagic
      version := ctx.activeVersion
      crc32 := (requestedCrc input).getD 0 })
  else none

/-- The payload of an image in slot B, if the slot is said to hold it. -/
def slotBPayload (hal : HalFlash η) (s : HalBootloader φ η) (imageSize : UInt32) :
    Option (List UInt8) :=
  let (payload, avail) := bootloaderGetSlotPtr hal s (s.ctx.targetSlotAddr + 128)
  if avail < imageSize.toNat - metadataSize then none
  else some (payload.slice 0 (imageSize.toNat - metadataSize))

/-- The CRC of the payload, which an image longer than its header has behind the header. -/
def verifyCandidateCrc32 (hal : HalFlash η) (s : HalBootloader φ η)
    (metadata : FirmwareMetadata) : Bool :=
  if metadata.crc32 = 0 then false
  else if metadataSize < metadata.imageSize.toNat then
    match slotBPayload hal s metadata.imageSize with
    | none => false
    | some payload => bootCalcCrc32 payload == metadata.crc32
  else if 0 < metadata.imageSize then
    let (image, avail) := bootloaderGetSlotPtr hal s s.ctx.targetSlotAddr
    if avail < metadata.imageSize.toNat then false
    else bootCalcCrc32 (image.slice 0 metadata.imageSize.toNat) == metadata.crc32
  else false

/-- `verify_candidate_crypto`: what stands against the candidate, if anything does. -/
def verifyCandidateCrypto (hal : HalFlash η) (s : HalBootloader φ η)
    (metadata : FirmwareMetadata) : Option (UdsCallbackResult × UInt8) :=
  if metadata.imageSize.toNat ≤ metadataSize then some (.error, 0x03)
  else
    match slotBPayload hal s metadata.imageSize with
    | none => some (.error, 0x03)
    | some payload =>
      if sha256Hash payload ≠ metadata.sha256 then some (.error, 0x03)
      else if s.signatureRequired
          ∧ ¬udsBootloaderVerifySignature s (bootManifestDigest metadata) metadata.signature then
        some (.securityDenied, 0x04)
      else none

/-- What CheckMemory has against the metadata, in the order in which it looks. -/
def judgeCandidate (hal : HalFlash η) (s : HalBootloader φ η) (metadata : FirmwareMetadata) :
    Option (UdsCallbackResult × UInt8) :=
  if ¬bootValidateMetadata metadata then some (.outOfRange, 0x01)
  else if metadata.version < udsBootloaderGetVersionFloor s then some (.outOfRange, 0x02)
  else if s.ctx.verifyMode = .crc32 then
    if ¬verifyCandidateCrc32 hal s metadata then some (.error, 0x03) else none
  else verifyCandidateCrypto hal s metadata

/-- The metadata that CheckMemory judges: the request's, or the header in slot B. -/
def candidateMetadata (hal : HalFlash η) (s : HalBootloader φ η) (input : List UInt8) :
    Option FirmwareMetadata :=
  match parseCheckMemoryMetadata s.ctx input with
  | some metadata => some metadata
  | none =>
    let (header, avail) := bootloaderGetSlotPtr hal s s.ctx.targetSlotAddr
    if avail < metadataSize then none
    else some (FirmwareMetadata.decode (header.slice 0 metadataSize))

/-- Notes that the image in the slot has passed. -/
def acceptCandidate (s : HalBootloader φ η) (metadata : FirmwareMetadata) : HalBootloader φ η :=
  { s with ctx := { s.ctx with
    stagingMetadata := { metadata with status := SlotStatus.candidate }
    candidateVerified := true
    lastCheckMemoryResult := 0x00
    lastCheckDependenciesResult := 0x00 } }

/-- The verdict, the bytes of the response and what is left behind. -/
def routineCheckMemory (hal : HalFlash η) (s : HalBootloader φ η) (subfunction : UInt8)
    (input : List UInt8) : UdsCallbackResult × List UInt8 × HalBootloader φ η :=
  if subfunction = subfunctionRequestResults then (.ok, [s.ctx.lastCheckMemoryResult], s)
  else
    match candidateMetadata hal s input with
    | none =>
      (.outOfRange, [0x01], { s with ctx := { s.ctx with lastCheckMemoryResult := 0x01 } })
    | some metadata =>
      match judgeCandidate hal s metadata with
      | some (result, status) =>
        (result, [status], { s with ctx := { s.ctx with lastCheckMemoryResult := status } })
      | none => (.ok, [0x00], acceptCandidate s metadata)

/-! ## Activation -/

/-- The copy, and the check of what slot A then reads as. -/
def c092CopyCandidateToSlotA (hal : HalFlash η) (ctx : UdsBootloaderContext) (w : η)
    (imageSize slotAAddr : UInt32) : UdsDownloadResult × η :=
  let (erased, w) := bootloaderFlashEraseStart hal w slotAAddr imageSize
  if erased ≠ .ok then (erased, w)
  else
    let (polled, w) := bootloaderFlashErasePoll hal ctx w
    if polled ≠ .ok then (polled, w)
    else
      let (copied, w) := copyChunks hal slotAAddr ctx.targetSlotAddr.toNat imageSize.toNat 0 w
      if copied ≠ .ok then (copied, w)
      else if ¬c092VerifyCopiedImage ctx (memoryAt hal w slotAAddr) imageSize then
        (.verifyError, w)
      else (.ok, w)

/-- The end of an activation. -/
def markActive (ctx : UdsBootloaderContext) : UdsBootloaderContext :=
  { ctx with
    activeVersion := ctx.stagingMetadata.version
    stagingMetadata := { ctx.stagingMetadata with
      status := SlotStatus.active
      bootAttempts := 1
      maxAttempts := 3
      activeSlot := 0 }
    candidateVerified := false }

/-- Makes the verified image the one to boot; on the C092 it is copied to slot A first. -/
def udsBootloaderActivateCandidate (hal : HalFlash η) (s : HalBootloader φ η) :
    UdsDownloadResult × HalBootloader φ η :=
  if ¬s.ctx.candidateVerified then (.sequenceError, s)
  else if s.ctx.target = .stm32c092 then
    let imageSize := s.ctx.stagingMetadata.imageSize
    if imageSize = 0 ∨ s.ctx.activeSlotSize < imageSize then (.outOfRange, s)
    else
      let (copied, w) :=
        c092CopyCandidateToSlotA hal s.ctx s.flash imageSize s.ctx.activeSlotAddr
      if copied ≠ .ok then (copied, { s with flash := w })
      else (.ok, { s with flash := w, ctx := markActive s.ctx })
  else (.ok, { s with ctx := markActive s.ctx })

/-- Whether an image is verified and waits to be activated. -/
def udsBootloaderIsActivationPending (s : HalBootloader φ η) : Bool := s.ctx.candidateVerified

/-- The chip the bootloader was made for. -/
def udsBootloaderGetTarget (s : HalBootloader φ η) : UdsBootloaderTarget := s.ctx.target

/-! ## The jump -/

/-- How many bytes of flash the chip has. -/
def flashSize : UdsBootloaderTarget → UInt32
  | .stm32c092 => 0x00040000
  | .stm32f767 => 0x00200000

/-- `UDS_BL_C092_RAM_START`, and the same on the F767. -/
def ramStart : UInt32 := 0x20000000

/-- The end of the chip's memory, where the stack may start. -/
def ramEnd : UdsBootloaderTarget → UInt32
  | .stm32c092 => 0x20006000
  | .stm32f767 => 0x20080000

/-- `is_msp_valid`; the initial stack pointer of an application. -/
def isMspValid (target : UdsBootloaderTarget) (msp : UInt32) : Bool :=
  msp &&& 0x3 == 0 && decide (ramStart ≤ msp) && decide (msp ≤ ramEnd target)

/-- `is_reset_handler_valid`: a Thumb address inside the application. -/
def isResetHandlerValid (resetHandler appVectorAddr flashEnd : UInt32) : Bool :=
  if resetHandler &&& 0x1 = 0 ∨ resetHandler = 0xFFFFFFFF then false
  else
    let resetAddr := resetHandler &&& ~~~1
    decide (appVectorAddr ≤ resetAddr) && decide (resetAddr < flashEnd)

/-- A word of the vector table. -/
def vector (hal : HalFlash η) (w : η) (appVectorAddr : UInt32) (i : Nat) : UInt32 :=
  getU32Le ((memoryAt hal w appVectorAddr).slice 0 8) (4 * i)

/-- `uds_bootloader_is_application_valid`; both targets have their flash at the same base. -/
def udsBootloaderIsApplicationValid (hal : HalFlash η) (s : HalBootloader φ η)
    (appVectorAddr : UInt32) : Bool :=
  let flashEnd := flashBase + flashSize s.ctx.target
  let alignmentMask : UInt32 := if s.ctx.target = .stm32c092 then 0xFF else 0x1FF
  if ¬(flashBase ≤ appVectorAddr ∧ appVectorAddr < flashEnd) then false
  else if appVectorAddr &&& alignmentMask ≠ 0 then false
  else if ¬isMspValid s.ctx.target (vector hal s.flash appVectorAddr 0) then false
  else isResetHandlerValid (vector hal s.flash appVectorAddr 1) appVectorAddr flashEnd

/-- `uds_bootloader_jump_to_app`: the stack pointer and the entry it branches to, if it does;
otherwise it returns. -/
def udsBootloaderJumpToApp (hal : HalFlash η) (s : HalBootloader φ η) (appVectorAddr : UInt32) :
    Option (UInt32 × UInt32) :=
  if ¬udsBootloaderIsApplicationValid hal s appVectorAddr then none
  else some (vector hal s.flash appVectorAddr 0, vector hal s.flash appVectorAddr 1)

end UdsIsoTp.Boot.Hal
