import UdsIsoTp.Boot.HalBootloader

/-!
# CheckMemory and the activation

CheckMemory judges an image in slot B, and the activation copies it over the running
application before it judges the copy. `activate_ok_iff` says what an activation needs to
succeed, and `copied_slotA` that the copy is the image; `checked_activates_iff` then compares the
two verdicts. They differ in two places: CheckMemory takes the checksum of an image that is no
longer than its header, which the activation refuses, and the activation asks for the result of
the last erase routine, whatever its own erase has come to.
-/

namespace UdsIsoTp.Boot.Hal

open UdsIsoTp.Uds UdsIsoTp.Flash

variable {φ η : Type} {hal : HalFlash η}

/-- The context of the STM32C092, as `uds_bootloader_set_target` lays it out. -/
structure OnC092 (ctx : UdsBootloaderContext) : Prop where
  target : ctx.target = .stm32c092
  activeSlotAddr : ctx.activeSlotAddr = C092.appSlotAStart
  activeSlotSize : ctx.activeSlotSize = C092.appSlotASize
  targetSlotAddr : ctx.targetSlotAddr = C092.appSlotBStart
  targetSlotSize : ctx.targetSlotSize = C092.appSlotBSize

/-! ## The flash operations of an activation -/

/-- The flash once slot A has been erased for the candidate. -/
def erasedFlash (hal : HalFlash η) (s : HalBootloader φ η) : η :=
  hal.lock (bootloaderFlashEraseStart hal s.flash s.ctx.activeSlotAddr
    s.ctx.stagingMetadata.imageSize).2

/-- The flash once every chunk of the candidate has been programmed. -/
def copiedFlash (hal : HalFlash η) (s : HalBootloader φ η) : η :=
  flashAfter hal s.ctx.activeSlotAddr s.ctx.targetSlotAddr.toNat
    s.ctx.stagingMetadata.imageSize.toNat (erasedFlash hal s)
    (chunkCount s.ctx.stagingMetadata.imageSize.toNat)

/-- Every operation that an activation asks of the flash succeeds. -/
structure FlashSucceeds (hal : HalFlash η) (s : HalBootloader φ η) : Prop where
  erased : (bootloaderFlashEraseStart hal s.flash s.ctx.activeSlotAddr
    s.ctx.stagingMetadata.imageSize).1 = .ok
  idle : hal.busy (bootloaderFlashEraseStart hal s.flash s.ctx.activeSlotAddr
    s.ctx.stagingMetadata.imageSize).2 = false
  clean : hal.allErrors (bootloaderFlashEraseStart hal s.flash s.ctx.activeSlotAddr
    s.ctx.stagingMetadata.imageSize).2 = false
  programmed : ∀ k < chunkCount s.ctx.stagingMetadata.imageSize.toNat,
    ChunkProgrammed hal s.ctx.activeSlotAddr s.ctx.targetSlotAddr.toNat
      s.ctx.stagingMetadata.imageSize.toNat (erasedFlash hal s) k

/-- What slot A reads as after the copy passes for the candidate. -/
def ReadsBack (hal : HalFlash η) (s : HalBootloader φ η) (w : η) : Prop :=
  c092VerifyCopiedImage s.ctx (memoryAt hal w s.ctx.activeSlotAddr)
    s.ctx.stagingMetadata.imageSize = true

theorem erasePoll_ok_iff (ctx : UdsBootloaderContext) (w : η) :
    (bootloaderFlashErasePoll hal ctx w).1 = .ok ↔
      hal.busy w = false ∧ hal.allErrors w = false ∧ ctx.lastEraseResult = 0 := by
  unfold bootloaderFlashErasePoll
  by_cases hbusy : hal.busy w = true
  · simp [hbusy]
  · by_cases herrors : hal.allErrors w = true
    · simp [hbusy, herrors]
    · by_cases hlast : ctx.lastEraseResult = 0 <;> simp [hbusy, herrors, hlast]

theorem erasePoll_flash {ctx : UdsBootloaderContext} {w : η} (hidle : hal.busy w = false)
    (hclean : hal.allErrors w = false) : (bootloaderFlashErasePoll hal ctx w).2 = hal.lock w := by
  unfold bootloaderFlashErasePoll
  rw [hidle, hclean]
  rfl

/-- What the copy needs to succeed, and the flash that it then leaves. -/
theorem copyCandidate_ok_iff (s : HalBootloader φ η) :
    (c092CopyCandidateToSlotA hal s.ctx s.flash s.ctx.stagingMetadata.imageSize
        s.ctx.activeSlotAddr).1 = .ok ↔
      FlashSucceeds hal s ∧ s.ctx.lastEraseResult = 0 ∧ ReadsBack hal s (copiedFlash hal s) := by
  unfold c092CopyCandidateToSlotA
  dsimp only
  split
  next hfailed => exact ⟨fun hok => absurd hok hfailed, fun h => absurd h.1.erased hfailed⟩
  next herased =>
    have herased := not_not.mp herased
    split
    next hfailed =>
      refine ⟨fun hok => absurd hok hfailed, fun h => absurd ?_ hfailed⟩
      exact (erasePoll_ok_iff _ _).mpr ⟨h.1.idle, h.1.clean, h.2.1⟩
    next hpolled =>
      obtain ⟨hidle, hclean, hlast⟩ := (erasePoll_ok_iff _ _).mp (not_not.mp hpolled)
      rw [erasePoll_flash hidle hclean]
      split
      next hfailed =>
        refine ⟨fun hok => absurd hok hfailed, fun h => absurd ?_ hfailed⟩
        exact (copyChunks_ok_iff hal _ _ _ _).mpr h.1.programmed
      next hcopied =>
        have hcopied := not_not.mp hcopied
        have hprogrammed := (copyChunks_ok_iff hal _ _ _ _).mp hcopied
        rw [copyChunks_flash hcopied]
        split
        next hrefused =>
          exact ⟨fun hok => UdsDownloadResult.noConfusion hok, fun h => absurd h.2.2 hrefused⟩
        next hread =>
          exact ⟨fun _ => ⟨⟨herased, hidle, hclean, hprogrammed⟩, hlast, not_not.mp hread⟩,
            fun _ => rfl⟩

/-- What an activation needs to succeed on the STM32C092. -/
theorem activate_ok_iff {s : HalBootloader φ η} (htarget : s.ctx.target = .stm32c092) :
    (udsBootloaderActivateCandidate hal s).1 = .ok ↔
      s.ctx.candidateVerified = true ∧ s.ctx.stagingMetadata.imageSize ≠ 0 ∧
        s.ctx.stagingMetadata.imageSize ≤ s.ctx.activeSlotSize ∧
        FlashSucceeds hal s ∧ s.ctx.lastEraseResult = 0 ∧
        ReadsBack hal s (copiedFlash hal s) := by
  rw [← copyCandidate_ok_iff]
  unfold udsBootloaderActivateCandidate
  rw [if_pos htarget]
  split
  next hunverified =>
    exact ⟨fun hok => UdsDownloadResult.noConfusion hok, fun h => absurd h.1 hunverified⟩
  next hverified =>
    dsimp only
    split
    next hsize =>
      refine ⟨fun hok => UdsDownloadResult.noConfusion hok, fun h => ?_⟩
      rcases hsize with hzero | hlarge
      · exact absurd hzero h.2.1
      · exact absurd hlarge (UInt32.not_lt.mpr h.2.2.1)
    next hsize =>
      obtain ⟨hzero, hlarge⟩ := not_or.mp hsize
      split
      next hfailed => exact ⟨fun hok => absurd hok hfailed, fun h => absurd h.2.2.2 hfailed⟩
      next hcopied =>
        exact ⟨fun _ => ⟨not_not.mp hverified, hzero, UInt32.not_lt.mp hlarge, not_not.mp hcopied⟩,
          fun _ => rfl⟩

/-- The flash that a successful copy leaves. -/
theorem copyCandidate_flash {s : HalBootloader φ η}
    (hok : (c092CopyCandidateToSlotA hal s.ctx s.flash s.ctx.stagingMetadata.imageSize
      s.ctx.activeSlotAddr).1 = .ok) :
    (c092CopyCandidateToSlotA hal s.ctx s.flash s.ctx.stagingMetadata.imageSize
      s.ctx.activeSlotAddr).2 = copiedFlash hal s := by
  obtain ⟨hops, hlast, hread⟩ := (copyCandidate_ok_iff s).mp hok
  have hpolled := (erasePoll_ok_iff s.ctx _).mpr ⟨hops.idle, hops.clean, hlast⟩
  have hcopied := (copyChunks_ok_iff hal _ _ _ _).mpr hops.programmed
  unfold c092CopyCandidateToSlotA
  dsimp only
  rw [if_neg (not_not.mpr hops.erased), if_neg (not_not.mpr hpolled),
    erasePoll_flash hops.idle hops.clean]
  have hflash := copyChunks_flash hcopied
  unfold erasedFlash at hcopied hflash
  rw [if_neg (not_not.mpr hcopied)]
  split <;> exact hflash

/-- What a successful activation leaves. -/
theorem activate_left {s : HalBootloader φ η} (htarget : s.ctx.target = .stm32c092)
    (hok : (udsBootloaderActivateCandidate hal s).1 = .ok) :
    (udsBootloaderActivateCandidate hal s).2
      = { s with flash := copiedFlash hal s, ctx := markActive s.ctx } := by
  obtain ⟨hverified, hzero, hlarge, hcopy⟩ := (activate_ok_iff htarget).mp hok
  have hcopied := (copyCandidate_ok_iff s).mpr hcopy
  have hsize : ¬(s.ctx.stagingMetadata.imageSize = 0 ∨
      s.ctx.activeSlotSize < s.ctx.stagingMetadata.imageSize) :=
    not_or.mpr ⟨hzero, UInt32.not_lt.mpr hlarge⟩
  unfold udsBootloaderActivateCandidate
  rw [if_neg (not_not.mpr hverified), if_pos htarget]
  dsimp only
  rw [if_neg hsize, if_neg (not_not.mpr hcopied), copyCandidate_flash hcopied]

/-! ## The copy is the image -/

/-- Erasing slot A for an image blanks the double words of the image, and leaves slot B. -/
theorem erasedFlash_read (hdoc : hal.Documented) {s : HalBootloader φ η} (hplaced : OnC092 s.ctx)
    (hsize : s.ctx.stagingMetadata.imageSize ≤ s.ctx.activeSlotSize)
    (herased : (bootloaderFlashEraseStart hal s.flash s.ctx.activeSlotAddr
      s.ctx.stagingMetadata.imageSize).1 = .ok) :
    Blank (hal.read (erasedFlash hal s)) C092.appSlotAStart.toNat
        (C092.appSlotAStart.toNat + (s.ctx.stagingMetadata.imageSize.toNat + 7) / 8 * 8) ∧
      ∀ a, C092.appSlotBStart.toNat ≤ a →
        hal.read (erasedFlash hal s) a = hal.read s.flash a := by
  have hsize : s.ctx.stagingMetadata.imageSize.toNat ≤ 0x1B000 := by
    rw [hplaced.activeSlotSize] at hsize
    exact UInt32.le_iff_toNat_le.mp hsize
  have hpage : ((C092.appSlotAStart - flashBase) / 2048).toNat = 20 := by decide
  have hpages : ((s.ctx.stagingMetadata.imageSize + 2047) / 2048).toNat
      = (s.ctx.stagingMetadata.imageSize.toNat + 2047) / 2048 := by
    rw [UInt32.toNat_div, UInt32.toNat_add]
    show (s.ctx.stagingMetadata.imageSize.toNat + 2047) % 2 ^ 32 / 2048 = _
    rw [Nat.mod_eq_of_lt (by omega)]
  unfold bootloaderFlashEraseStart at herased
  rw [hplaced.activeSlotAddr] at herased
  dsimp only at herased
  -- An erase that succeeds blanks whole pages, counted from the start of the flash.
  have hread : ∀ a, hal.read (erasedFlash hal s) a
      = if InPages ((C092.appSlotAStart - flashBase) / 2048)
            ((s.ctx.stagingMetadata.imageSize + 2047) / 2048) a then 0xFF
          else hal.read s.flash a := by
    intro a
    have hok : (hal.erase (hal.clearErrors (hal.unlock s.flash))
        ((C092.appSlotAStart - flashBase) / 2048)
        ((s.ctx.stagingMetadata.imageSize + 2047) / 2048)).1 = true := by
      by_contra hfailed
      rw [if_neg hfailed] at herased
      exact UdsDownloadResult.noConfusion herased
    unfold erasedFlash bootloaderFlashEraseStart
    rw [hplaced.activeSlotAddr]
    dsimp only
    rw [hdoc.lock_read, hdoc.lock_read, hdoc.erase_read _ _ _ ?_ hok, hdoc.clearErrors_read,
      hdoc.unlock_read]
    rw [hpage, hpages]
    unfold pageCount
    omega
  have hbase : flashBase.toNat = 0x08000000 := by decide
  have hslotA : C092.appSlotAStart.toNat = 0x0800A000 := by decide
  have hslotB : C092.appSlotBStart.toNat = 0x08025000 := by decide
  constructor
  · intro a hlow hhigh
    rw [hread, if_pos]
    unfold InPages
    rw [hpage, hpages, hbase]
    rw [hslotA] at hlow hhigh
    omega
  · -- The pages of the largest image end where slot B starts.
    intro a hlow
    rw [hread, if_neg]
    unfold InPages
    rw [hpage, hpages, hbase]
    rw [hslotB] at hlow
    omega

/-- After a copy whose operations all succeed, slot A holds the image that slot B held. -/
theorem copied_slotA (hdoc : hal.Documented) {s : HalBootloader φ η} (hplaced : OnC092 s.ctx)
    (hsize : s.ctx.stagingMetadata.imageSize ≤ s.ctx.activeSlotSize) (hops : FlashSucceeds hal s)
    {i : Nat} (hi : i < s.ctx.stagingMetadata.imageSize.toNat) :
    memoryAt hal (copiedFlash hal s) s.ctx.activeSlotAddr i
      = memoryAt hal s.flash s.ctx.targetSlotAddr i := by
  obtain ⟨hblank, hslotB⟩ := erasedFlash_read hdoc hplaced hsize hops.erased
  have hsize : s.ctx.stagingMetadata.imageSize.toNat ≤ 0x1B000 := by
    rw [hplaced.activeSlotSize] at hsize
    exact UInt32.le_iff_toNat_le.mp hsize
  have hcopied := (copyChunks_ok_iff hal _ _ _ _).mpr hops.programmed
  have hflash := copyChunks_flash hcopied
  rw [hplaced.activeSlotAddr, hplaced.targetSlotAddr] at hcopied hflash
  have hread := copyChunks_read hdoc C092.appSlotAStart C092.appSlotBStart.toNat _ 0 (by decide)
    (by rw [show C092.appSlotAStart.toNat = 0x0800A000 by decide]; omega) (by decide)
    (by omega) hblank hcopied
  unfold copiedFlash memoryAt
  rw [hplaced.activeSlotAddr, hplaced.targetSlotAddr, ← hflash, hread, Nat.add_zero, Nat.add_zero,
    Nat.sub_zero, Buf.copy_inside hi, hslotB _ (by omega)]

/-! ## The two verdicts -/

/-- The payload is the one that the metadata stands for, by the check that the mode asks for. -/
def Digested (mode : UdsBootloaderVerifyMode) (metadata : FirmwareMetadata)
    (payload : List UInt8) : Prop :=
  if mode = .crc32 then metadata.crc32 ≠ 0 ∧ bootCalcCrc32 payload = metadata.crc32
  else sha256Hash payload = metadata.sha256

theorem verifyCopied_iff (ctx : UdsBootloaderContext) (copied : Buf) (imageSize : UInt32) :
    c092VerifyCopiedImage ctx copied imageSize = true ↔
      metadataSize < imageSize.toNat ∧ Digested ctx.verifyMode ctx.stagingMetadata
        (copied.slice metadataSize (imageSize.toNat - metadataSize)) := by
  unfold c092VerifyCopiedImage Digested
  split
  next hsmall => exact ⟨fun h => absurd h (by simp), fun h => absurd h.1 (by omega)⟩
  next hlarge =>
    have hlarge : metadataSize < imageSize.toNat := Nat.lt_of_not_le hlarge
    dsimp only
    split
    next => simp [hlarge]
    next => simp [hlarge]

/-- The payload that CheckMemory looks at lies in slot B behind the header. -/
theorem slotBPayload_some {s : HalBootloader φ η} (hplaced : OnC092 s.ctx) {imageSize : UInt32}
    {payload : List UInt8} (h : slotBPayload hal s imageSize = some payload) :
    payload = (memoryAt hal s.flash s.ctx.targetSlotAddr).slice metadataSize
      (imageSize.toNat - metadataSize) := by
  unfold slotBPayload bootloaderGetSlotPtr at h
  dsimp only at h
  split at h
  next => exact absurd h (by simp)
  next =>
    rw [← Option.some.inj h, hplaced.targetSlotAddr]
    apply Buf.slice_congr
    intro i hi
    unfold memoryAt
    rw [show (C092.appSlotBStart + 128).toNat = C092.appSlotBStart.toNat + metadataSize by decide]
    congr 1
    omega

theorem imageSize_ne_zero {metadata : FirmwareMetadata} {n : Nat}
    (h : n < metadata.imageSize.toNat) : metadata.imageSize ≠ 0 := by
  intro hzero
  rw [hzero] at h
  exact absurd h (Nat.not_lt_zero n)

/-- The bytes that stand for an image: what follows its header in slot B. -/
def candidatePayload (hal : HalFlash η) (s : HalBootloader φ η) (metadata : FirmwareMetadata) :
    List UInt8 :=
  (memoryAt hal s.flash s.ctx.targetSlotAddr).slice metadataSize
    (metadata.imageSize.toNat - metadataSize)

/-- Where the flash does its work, the copy reads back if slot B holds what the metadata stands
for. -/
theorem readsBack_iff (hdoc : hal.Documented) {s : HalBootloader φ η} (hplaced : OnC092 s.ctx)
    (hsize : s.ctx.stagingMetadata.imageSize ≤ s.ctx.activeSlotSize)
    (hops : FlashSucceeds hal s) :
    ReadsBack hal s (copiedFlash hal s) ↔
      metadataSize < s.ctx.stagingMetadata.imageSize.toNat ∧
        Digested s.ctx.verifyMode s.ctx.stagingMetadata
          (candidatePayload hal s s.ctx.stagingMetadata) := by
  have hsame : (memoryAt hal (copiedFlash hal s) s.ctx.activeSlotAddr).slice metadataSize
        (s.ctx.stagingMetadata.imageSize.toNat - metadataSize)
      = candidatePayload hal s s.ctx.stagingMetadata :=
    Buf.slice_congr fun i hi => copied_slotA hdoc hplaced hsize hops (by omega)
  unfold ReadsBack
  rw [verifyCopied_iff, hsame]

theorem verifyCandidateCrc32_digested {s : HalBootloader φ η} (hplaced : OnC092 s.ctx)
    {metadata : FirmwareMetadata} (h : verifyCandidateCrc32 hal s metadata = true) :
    metadata.imageSize ≠ 0 ∧ (metadataSize < metadata.imageSize.toNat →
      metadata.crc32 ≠ 0 ∧ bootCalcCrc32 (candidatePayload hal s metadata) = metadata.crc32) := by
  unfold verifyCandidateCrc32 at h
  split at h
  next => exact absurd h (by simp)
  next hcrc =>
    split at h
    next hlarge =>
      refine ⟨imageSize_ne_zero hlarge, fun _ => ⟨hcrc, ?_⟩⟩
      split at h
      next => exact absurd h (by simp)
      next payload hpayload =>
        rw [slotBPayload_some hplaced hpayload] at h
        exact beq_iff_eq.mp h
    next hsmall =>
      -- a short image is judged from the start of the slot, so nothing is known of a payload
      split at h
      next hsome =>
        exact ⟨imageSize_ne_zero (UInt32.lt_iff_toNat_lt.mp hsome),
          fun hlarge => absurd hlarge hsmall⟩
      next => exact absurd h (by simp)

theorem verifyCandidateCrypto_digested {s : HalBootloader φ η} (hplaced : OnC092 s.ctx)
    {metadata : FirmwareMetadata} (h : verifyCandidateCrypto hal s metadata = none) :
    metadata.imageSize ≠ 0 ∧ sha256Hash (candidatePayload hal s metadata) = metadata.sha256 := by
  unfold verifyCandidateCrypto at h
  split at h
  next => exact absurd h (by simp)
  next hlarge =>
    refine ⟨imageSize_ne_zero (Nat.lt_of_not_le hlarge), ?_⟩
    split at h
    next => exact absurd h (by simp)
    next payload hpayload =>
      rw [slotBPayload_some hplaced hpayload] at h
      split at h
      next => exact absurd h (by simp)
      next hhash => exact not_not.mp hhash

/-- An image that CheckMemory accepts is not empty, and if it is longer than its header then its
payload is the one that the metadata stands for. -/
theorem judged_digested {s : HalBootloader φ η} (hplaced : OnC092 s.ctx)
    {metadata : FirmwareMetadata} (hjudged : judgeCandidate hal s metadata = none) :
    metadata.imageSize ≠ 0 ∧ (metadataSize < metadata.imageSize.toNat →
      Digested s.ctx.verifyMode metadata (candidatePayload hal s metadata)) := by
  unfold judgeCandidate at hjudged
  split at hjudged
  next => exact absurd hjudged (by simp)
  next =>
    split at hjudged
    next => exact absurd hjudged (by simp)
    next =>
      unfold Digested
      split at hjudged
      next hmode =>
        split at hjudged
        next => exact absurd hjudged (by simp)
        next haccepted =>
          rw [if_pos hmode]
          exact verifyCandidateCrc32_digested hplaced (not_not.mp haccepted)
      next hmode =>
        obtain ⟨hnonzero, hhash⟩ := verifyCandidateCrypto_digested hplaced hjudged
        rw [if_neg hmode]
        exact ⟨hnonzero, fun _ => hhash⟩

theorem checkMemory_ok {s : HalBootloader φ η} {subfunction : UInt8} {input : List UInt8}
    (hstart : subfunction ≠ subfunctionRequestResults)
    (hok : (routineCheckMemory hal s subfunction input).1 = .ok) :
    ∃ metadata, judgeCandidate hal s metadata = none ∧
      (routineCheckMemory hal s subfunction input).2.2 = acceptCandidate s metadata := by
  -- no verdict against a candidate is `ok`
  have hagainst : ∀ metadata result status,
      judgeCandidate hal s metadata = some (result, status) → result ≠ .ok := by
    intro metadata result status hjudged hresult
    subst hresult
    unfold judgeCandidate verifyCandidateCrypto at hjudged
    repeat' split at hjudged
    all_goals simp at hjudged
  unfold routineCheckMemory at hok ⊢
  rw [if_neg hstart] at hok ⊢
  split at hok
  next => exact UdsCallbackResult.noConfusion hok
  next metadata hcandidate =>
    split at hok
    next result status hjudged => exact absurd hok (hagainst metadata result status hjudged)
    next hjudged => exact ⟨metadata, hjudged, rfl⟩

/-- The candidate stands as CheckMemory left it, and slot B with it. -/
structure CandidateKept (hal : HalFlash η) (s s' : HalBootloader φ η) : Prop where
  verified : s'.ctx.candidateVerified = s.ctx.candidateVerified
  staging : s'.ctx.stagingMetadata = s.ctx.stagingMetadata
  verifyMode : s'.ctx.verifyMode = s.ctx.verifyMode
  placed : OnC092 s'.ctx
  slotB : ∀ i < C092.appSlotBSize.toNat,
    memoryAt hal s'.flash C092.appSlotBStart i = memoryAt hal s.flash C092.appSlotBStart i

/-- An image that CheckMemory has accepted is activated, if it is longer than its header and the
last erase routine did not fail. Nothing else keeps it back, as long as the flash does its work
and slot B stays. -/
theorem checked_activates_iff (hal : HalFlash η) (hdoc : hal.Documented) {s s' : HalBootloader φ η}
    {subfunction : UInt8} {input : List UInt8} (hplaced : OnC092 s.ctx)
    (hstart : subfunction ≠ subfunctionRequestResults)
    (haccepted : (routineCheckMemory hal s subfunction input).1 = .ok)
    (hkept : CandidateKept hal (routineCheckMemory hal s subfunction input).2.2 s')
    (hsize : s'.ctx.stagingMetadata.imageSize ≤ s'.ctx.activeSlotSize)
    (hops : FlashSucceeds hal s') :
    (udsBootloaderActivateCandidate hal s').1 = .ok ↔
      metadataSize < s'.ctx.stagingMetadata.imageSize.toNat ∧ s'.ctx.lastEraseResult = 0 := by
  obtain ⟨metadata, hjudged, hleft⟩ := checkMemory_ok hstart haccepted
  rw [hleft] at hkept
  have himage : s'.ctx.stagingMetadata.imageSize = metadata.imageSize := by rw [hkept.staging]; rfl
  obtain ⟨hnonzero, hdigested⟩ := judged_digested hplaced hjudged
  -- the activation is after the payload that CheckMemory has seen
  have hpayload : candidatePayload hal s' s'.ctx.stagingMetadata
      = candidatePayload hal s metadata := by
    have hfits : s'.ctx.stagingMetadata.imageSize.toNat ≤ C092.appSlotBSize.toNat := by
      rw [hkept.placed.activeSlotSize] at hsize
      exact UInt32.le_iff_toNat_le.mp hsize
    unfold candidatePayload
    rw [← himage, hkept.placed.targetSlotAddr, hplaced.targetSlotAddr]
    apply Buf.slice_congr
    intro i hi
    exact hkept.slotB _ (by omega)
  have hread : ReadsBack hal s' (copiedFlash hal s') ↔ metadataSize < metadata.imageSize.toNat := by
    rw [readsBack_iff hdoc hkept.placed hsize hops, hpayload, himage, hkept.verifyMode,
      hkept.staging]
    exact ⟨fun h => h.1, fun hlarge => ⟨hlarge, hdigested hlarge⟩⟩
  rw [activate_ok_iff hkept.placed.target, hread, himage]
  constructor
  · rintro ⟨-, -, -, -, hlast, hlarge⟩
    exact ⟨hlarge, hlast⟩
  · rintro ⟨hlarge, hlast⟩
    exact ⟨hkept.verified, hnonzero, himage ▸ hsize, hops, hlast, hlarge⟩

/-! ## A flash that reports no failure -/

/-- The flash does all it is asked to. -/
structure HalFlash.Flawless (hal : HalFlash η) : Prop where
  idle : ∀ w, hal.busy w = false
  clean : ∀ w, hal.allErrors w = false
  erased : ∀ w page nbPages, (hal.erase w page nbPages).1 = true
  programmed : ∀ w address dword, (hal.program w address dword).1 = true

theorem HalFlash.Flawless.programFrom (h : hal.Flawless) (address : UInt32) (data length i : Nat)
    (w : η) : (programFrom hal address data length i w).1 = true := by
  fun_induction Hal.programFrom hal address data length i w with
  | case1 i w hfull programmed w' hprogram hfailed =>
    have hok := h.programmed w (address + UInt32.ofNat i) ((hal.read w).slice (data + i) 8)
    rw [hprogram] at hok
    exact absurd hok hfailed
  | case2 i w hfull programmed w' hprogram hdone ih => exact ih
  | case3 i w hfull hrest => exact h.programmed ..
  | case4 i w hfull hrest => rfl

theorem HalFlash.Flawless.succeeds (h : hal.Flawless) (s : HalBootloader φ η) :
    FlashSucceeds hal s := by
  refine ⟨if_pos (h.erased ..), h.idle _, h.clean _, fun k _ => ?_⟩
  unfold ChunkProgrammed bootloaderFlashProgram halFlashProgramC092
  exact if_pos (h.programFrom ..)

/-- Nothing but the memory: every operation does what it should. -/
def workingFlash : HalFlash Buf where
  unlock := id
  lock := id
  busy _ := false
  allErrors _ := false
  clearErrors := id
  erase w page nbPages := (true, fun a => if InPages page nbPages a then 0xFF else w a)
  program w address dword := (true, w.copy address.toNat (Buf.ofList dword) 0 8)
  read := id

theorem workingFlash_documented : workingFlash.Documented :=
  ⟨fun _ => rfl, fun _ => rfl, fun _ => rfl, fun _ _ _ _ _ _ => rfl, fun _ _ _ _ _ _ _ => rfl⟩

theorem workingFlash_flawless : workingFlash.Flawless :=
  ⟨fun _ => rfl, fun _ => rfl, fun _ _ _ => rfl, fun _ _ _ => rfl⟩

/-- A blank flash, on a device whose integrator has chosen the checksum. -/
def checksummed : HalBootloader Unit Buf where
  ctx := { targetContext .stm32c092 with verifyMode := .crc32 }
  flash := fun _ => 0xFF
  floorStore := none
  signatureVerifier := none
  signatureRequired := true

/-- The header of an image, as a CheckMemory request carries it. -/
def imageHeader (imageSize crc32 : UInt32) : List UInt8 :=
  let metadata := bootFinalizeMetadata { freshMetadata with
    magic := metadataMagic
    version := 1
    imageSize := imageSize
    crc32 := crc32 }
  metadata.encodeHead ++ putU32Le metadata.headerCrc32 ++ metadata.reserved

/-- The device after a CheckMemory of the image. -/
def checkedImage (imageSize crc32 : UInt32) : HalBootloader Unit Buf :=
  (routineCheckMemory workingFlash checksummed subfunctionStartRoutine
    (imageHeader imageSize crc32)).2.2

theorem candidateKept_refl {s : HalBootloader φ η} (hplaced : OnC092 s.ctx) :
    CandidateKept hal s s :=
  ⟨rfl, rfl, rfl, hplaced, fun _ _ => rfl⟩

set_option maxRecDepth 20000 in
theorem oneByte_placed : OnC092 (checkedImage 129 0xFF000000).ctx := by
  -- one evaluation of the run for all that is asked of its end
  obtain ⟨htarget, hactive, hactiveSize, hstaging, hstagingSize⟩ :
      (checkedImage 129 0xFF000000).ctx.target = .stm32c092 ∧
        (checkedImage 129 0xFF000000).ctx.activeSlotAddr = C092.appSlotAStart ∧
        (checkedImage 129 0xFF000000).ctx.activeSlotSize = C092.appSlotASize ∧
        (checkedImage 129 0xFF000000).ctx.targetSlotAddr = C092.appSlotBStart ∧
        (checkedImage 129 0xFF000000).ctx.targetSlotSize = C092.appSlotBSize := by
    decide +kernel
  exact ⟨htarget, hactive, hactiveSize, hstaging, hstagingSize⟩

set_option maxRecDepth 20000 in
/-- One byte behind the header, and its checksum. -/
theorem oneByte_activates :
    (udsBootloaderActivateCandidate workingFlash (checkedImage 129 0xFF000000)).1 = .ok ↔
      metadataSize < (checkedImage 129 0xFF000000).ctx.stagingMetadata.imageSize.toNat ∧
        (checkedImage 129 0xFF000000).ctx.lastEraseResult = 0 := by
  obtain ⟨haccepted, hsize⟩ :
      (routineCheckMemory workingFlash checksummed subfunctionStartRoutine
          (imageHeader 129 0xFF000000)).1 = .ok ∧
        (checkedImage 129 0xFF000000).ctx.stagingMetadata.imageSize
          ≤ (checkedImage 129 0xFF000000).ctx.activeSlotSize := by
    decide +kernel
  have hkept : CandidateKept workingFlash (routineCheckMemory workingFlash checksummed
      subfunctionStartRoutine (imageHeader 129 0xFF000000)).2.2 (checkedImage 129 0xFF000000) := by
    show CandidateKept workingFlash (checkedImage 129 0xFF000000) (checkedImage 129 0xFF000000)
    exact candidateKept_refl oneByte_placed
  exact checked_activates_iff workingFlash workingFlash_documented ⟨rfl, rfl, rfl, rfl, rfl⟩
    (by decide) haccepted hkept hsize (workingFlash_flawless.succeeds _)

set_option maxRecDepth 20000 in
/-- CheckMemory accepts four bytes by their checksum. The activation erases the application
that is running, and then refuses them. -/
theorem fourBytes_refused :
    (routineCheckMemory workingFlash checksummed subfunctionStartRoutine
        (imageHeader 4 0xFFFFFFFF)).1 = .ok ∧
      (checkedImage 4 0xFFFFFFFF).ctx.stagingMetadata.imageSize
        ≤ (checkedImage 4 0xFFFFFFFF).ctx.activeSlotSize ∧
      FlashSucceeds workingFlash (checkedImage 4 0xFFFFFFFF) ∧
      (udsBootloaderActivateCandidate workingFlash (checkedImage 4 0xFFFFFFFF)).1 ≠ .ok := by
  obtain ⟨haccepted, hsize, htarget, hsmall⟩ :
      (routineCheckMemory workingFlash checksummed subfunctionStartRoutine
          (imageHeader 4 0xFFFFFFFF)).1 = .ok ∧
        (checkedImage 4 0xFFFFFFFF).ctx.stagingMetadata.imageSize
          ≤ (checkedImage 4 0xFFFFFFFF).ctx.activeSlotSize ∧
        (checkedImage 4 0xFFFFFFFF).ctx.target = .stm32c092 ∧
        ¬metadataSize < (checkedImage 4 0xFFFFFFFF).ctx.stagingMetadata.imageSize.toNat := by
    decide +kernel
  refine ⟨haccepted, hsize, workingFlash_flawless.succeeds _, fun hok => ?_⟩
  obtain ⟨-, -, -, -, -, hread⟩ := (activate_ok_iff htarget).mp hok
  exact hsmall ((verifyCopied_iff _ _ _).mp hread).1

end UdsIsoTp.Boot.Hal
