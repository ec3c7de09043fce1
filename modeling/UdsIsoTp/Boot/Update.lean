import UdsIsoTp.Boot.Candidate
import UdsIsoTp.Boot.Completion

/-!
# An update that is in order goes through

What the bootloader refuses is the subject of `Candidate`, `Completion` and `AntiRollback`.
Here is what it takes: from any state that its operations lead to, whatever was left
unfinished there, a client that requests the download of slot B, transfers a genuine image in
blocks, ends the transfer, has it checked and activates it gets a positive answer each time,
and afterwards the image that runs is the one that was sent (`update_succeeds`).

This is the build without the HAL flash module, whose slots are arrays of 4096 bytes.
-/

namespace UdsIsoTp.Boot

open UdsIsoTp.Uds UdsIsoTp.Flash

variable {φ : Type}

/-- The answer to the call is positive. -/
def Succeeds (s : Bootloader φ) : BootCall → Prop
  | .requestDownload address length now => (udsBootloaderRequestDownload s address length now).1 = .ok
  | .transferData block data length now => (udsBootloaderTransferData s block data length now).1 = .ok
  | .transferExit request now => (udsBootloaderTransferExit s request now).1 = .ok
  | .routineControl subfunction routineId input capacity =>
    (udsBootloaderRoutineControl s subfunction routineId input capacity).1 = .ok
  | .activateCandidate => (udsBootloaderActivateCandidate s).1 = .ok
  | .confirmActiveImage => (udsBootloaderConfirmActiveImage s).1 = .ok
  | .rollbackCandidate => (udsBootloaderRollbackCandidate s).1 = .ok

/-! ## What an init sets up for good -/

/-- The bootloader is set up for this device. -/
structure Outfitted (target : UdsBootloaderTarget) (s : Bootloader φ) : Prop where
  device : s.ctx.target = target
  activeSlotAddr : s.ctx.activeSlotAddr = (targetContext target).activeSlotAddr
  activeSlotSize : s.ctx.activeSlotSize = (targetContext target).activeSlotSize
  targetSlotAddr : s.ctx.targetSlotAddr = (targetContext target).targetSlotAddr
  targetSlotSize : s.ctx.targetSlotSize = (targetContext target).targetSlotSize
  verifyMode : s.ctx.verifyMode = .sha256Secure
  lastEraseResult : s.ctx.lastEraseResult = 0
  memory : s.download.memory = targetMemoryMap target
  callbacks : s.download.callbacks = bootDownloadCallbacks
  memoryMap : s.memoryMap = targetMemoryMap target

variable {target : UdsBootloaderTarget} {s : Bootloader φ}

/-- An initialised bootloader is set up for its device. -/
theorem init_outfitted (s : Bootloader φ) (target : UdsBootloaderTarget) :
    Outfitted target (udsBootloaderInit s target) := by
  unfold udsBootloaderInit
  dsimp only
  split
  next => exact ⟨rfl, rfl, rfl, rfl, rfl, rfl, rfl, rfl, rfl, rfl⟩
  next =>
    split
    next => split <;> exact ⟨rfl, rfl, rfl, rfl, rfl, rfl, rfl, rfl, rfl, rfl⟩
    next => exact ⟨rfl, rfl, rfl, rfl, rfl, rfl, rfl, rfl, rfl, rfl⟩

/-- Slot A lies below slot B. -/
theorem Outfitted.slots (h : Outfitted target s) :
    s.ctx.activeSlotAddr < s.ctx.targetSlotAddr := by
  rw [h.activeSlotAddr, h.targetSlotAddr]
  cases target <;> decide

/-- The parts of the context that nothing changes are those of this other state. -/
structure SameGeometry (s s' : Bootloader φ) : Prop where
  activeSlotSize : s'.ctx.activeSlotSize = s.ctx.activeSlotSize
  lastEraseResult : s'.ctx.lastEraseResult = s.ctx.lastEraseResult ∨ s'.ctx.lastEraseResult = 0
  memory : s'.download.memory = s.download.memory
  memoryMap : s'.memoryMap = s.memoryMap

/-- A download changes nothing of the geometry. -/
theorem requestDownload_geometry (s : Bootloader φ) (address length now : UInt32) :
    SameGeometry s (udsBootloaderRequestDownload s address length now).2.2 := by
  have hbegun : (udsDownloadBegin s.download address length now (s.ctx, s.flash)).2.1.memory
      = s.download.memory := by
    obtain ⟨⟨-, hsame⟩ | ⟨-, -, -, -, hbegun⟩, -⟩ :=
      udsDownloadBegin_cases s.download address length now (s.ctx, s.flash)
    · rw [hsame]
    · rw [hbegun]
      rfl
  unfold udsBootloaderRequestDownload
  split
  next => exact ⟨rfl, .inl rfl, rfl, rfl⟩
  next =>
    dsimp only
    split
    next => exact ⟨rfl, .inl rfl, hbegun, rfl⟩
    next => exact ⟨rfl, .inl rfl, (pollErase_quiet _ _ _).memory.trans hbegun, rfl⟩

/-- Neither does a block. -/
theorem transferData_geometry (s : Bootloader φ) (block : UInt8) (data : Option Buf)
    (length : UInt16) (now : UInt32) :
    SameGeometry s (udsBootloaderTransferData s block data length now).2 := by
  have hwritten : ∀ (d : UdsDownload BootWorld) (w : BootWorld),
      (udsDownloadWrite d block data length now w).2.1.memory = d.memory := by
    intro d w
    obtain ⟨hquiet, -⟩ | ⟨_, _, -, -, -, ⟨-, hout⟩ | ⟨-, hout⟩⟩ :=
      udsDownloadWrite_cases d block data length now w
    · exact hquiet.memory
    · rw [hout]
    · rw [hout]
      rfl
  unfold udsBootloaderTransferData runDownload
  split
  next => exact ⟨rfl, .inl rfl, rfl, rfl⟩
  next =>
    dsimp only
    split
    next => split <;> exact ⟨rfl, .inl rfl, (hwritten _ _).trans (pollErase_quiet _ _ _).memory, rfl⟩
    next => split <;> exact ⟨rfl, .inl rfl, hwritten _ _, rfl⟩

/-- Nor does the exit. -/
theorem transferExit_geometry (s : Bootloader φ) (request : List UInt8) (now : UInt32) :
    SameGeometry s (udsBootloaderTransferExit s request now).2.2 := by
  have hfinished := (finish_quiet s.download ((requestedCrc request).getD 0)
    (requestedCrc request).isSome now (s.ctx, s.flash)).memory
  unfold udsBootloaderTransferExit runDownload
  split
  next => exact ⟨rfl, .inl rfl, rfl, rfl⟩
  next =>
    dsimp only
    split <;> exact ⟨rfl, .inl rfl, hfinished, rfl⟩

/-- So no operation does. -/
theorem bootStep_geometry (h : Outfitted target s) (call : BootCall) :
    SameGeometry s (bootStep s call) := by
  cases call with
  | requestDownload address length now => exact requestDownload_geometry ..
  | transferData block data length now => exact transferData_geometry ..
  | transferExit request now => exact transferExit_geometry ..
  | routineControl subfunction routineId input capacity =>
    obtain hsame | ⟨-, -, ⟨-, hrun⟩ | ⟨-, hrun⟩ | ⟨-, hrun⟩⟩ :=
      routineControl_cases s subfunction routineId input capacity
    · rw [bootStep, hsame]
      exact ⟨rfl, .inl rfl, rfl, rfl⟩
    · rw [bootStep, hrun]
      unfold routineEraseMemory
      split
      next => exact ⟨rfl, .inl rfl, rfl, rfl⟩
      next =>
        refine ⟨rfl, .inr (if_pos ?_), rfl, rfl⟩
        unfold bootloaderFlashEraseStart
        split <;> rfl
    · rw [bootStep, hrun]
      unfold routineCheckMemory
      split
      next => exact ⟨rfl, .inl rfl, rfl, rfl⟩
      next =>
        split
        next => exact ⟨rfl, .inl rfl, rfl, rfl⟩
        next => split <;> exact ⟨rfl, .inl rfl, rfl, rfl⟩
    · rw [bootStep, hrun]
      unfold routineCheckDependencies
      split <;> exact ⟨rfl, .inl rfl, rfl, rfl⟩
  | activateCandidate =>
    obtain ⟨flash, -, ⟨-, hout⟩ | ⟨-, -, hout⟩⟩ := activate_effect s h.slots <;>
      rw [bootStep, hout] <;> exact ⟨rfl, .inl rfl, rfl, rfl⟩
  | confirmActiveImage =>
    obtain ⟨floorStore, floorFlash, hraised⟩ := raiseFloor_eq s
    obtain ⟨-, hout⟩ | ⟨-, ⟨-, -, hout⟩ | ⟨-, -, hout⟩⟩ := confirm_effect s <;> rw [bootStep, hout]
    · exact ⟨rfl, .inl rfl, rfl, rfl⟩
    · rw [hraised]
      exact ⟨rfl, .inl rfl, rfl, rfl⟩
    · rw [hraised]
      exact ⟨rfl, .inl rfl, rfl, rfl⟩
  | rollbackCandidate => exact ⟨rfl, .inl rfl, rfl, rfl⟩

theorem Aside.trans {s₁ s₂ s₃ : Bootloader φ} (h : Aside s₁ s₂) (h' : Aside s₂ s₃) :
    Aside s₁ s₃ :=
  ⟨h'.staging.trans h.staging, h'.activeVersion.trans h.activeVersion,
    fun hverified => h.verified (h'.verified hverified), h'.target.trans h.target,
    h'.targetSlotAddr.trans h.targetSlotAddr, h'.targetSlotSize.trans h.targetSlotSize,
    h'.activeSlotAddr.trans h.activeSlotAddr, h'.verifyMode.trans h.verifyMode,
    h'.nvm.trans h.nvm, h'.floorStore.trans h.floorStore, h'.floorFlash.trans h.floorFlash,
    h'.signatureVerifier.trans h.signatureVerifier,
    h'.signatureRequired.trans h.signatureRequired⟩

theorem Aside.outfitted {s' : Bootloader φ} (h : Outfitted target s) (haside : Aside s s')
    (hgeometry : SameGeometry s s') (hcallbacks : s'.download.callbacks = bootDownloadCallbacks) :
    Outfitted target s' where
  device := haside.target.trans h.device
  activeSlotAddr := haside.activeSlotAddr.trans h.activeSlotAddr
  activeSlotSize := hgeometry.activeSlotSize.trans h.activeSlotSize
  targetSlotAddr := haside.targetSlotAddr.trans h.targetSlotAddr
  targetSlotSize := haside.targetSlotSize.trans h.targetSlotSize
  verifyMode := haside.verifyMode.trans h.verifyMode
  lastEraseResult := hgeometry.lastEraseResult.elim (fun h' => h'.trans h.lastEraseResult) id
  memory := hgeometry.memory.trans h.memory
  callbacks := hcallbacks
  memoryMap := hgeometry.memoryMap.trans h.memoryMap

/-- Every operation leaves the device set up. -/
theorem bootStep_outfitted (h : Outfitted target s) (call : BootCall) :
    Outfitted target (bootStep s call) := by
  have hgeometry := bootStep_geometry h call
  have hcallbacks := bootStep_callbacks h.callbacks h.slots call
  have heffect := bootStep_effect s h.slots call
  generalize bootStep s call = s' at hgeometry hcallbacks heffect ⊢
  cases heffect with
  | aside haside => exact haside.outfitted h hgeometry hcallbacks
  | accepted =>
    exact ⟨h.device, h.activeSlotAddr, h.activeSlotSize, h.targetSlotAddr, h.targetSlotSize,
      h.verifyMode, h.lastEraseResult, h.memory, h.callbacks, h.memoryMap⟩
  | activated =>
    exact ⟨h.device, h.activeSlotAddr, h.activeSlotSize, h.targetSlotAddr, h.targetSlotSize,
      h.verifyMode, h.lastEraseResult, h.memory, h.callbacks, h.memoryMap⟩
  | confirmed | unconfirmed =>
    obtain ⟨floorStore, floorFlash, hraised⟩ := raiseFloor_eq s
    rw [hraised]
    exact ⟨h.device, h.activeSlotAddr, h.activeSlotSize, h.targetSlotAddr, h.targetSlotSize,
      h.verifyMode, h.lastEraseResult, h.memory, h.callbacks, h.memoryMap⟩
  | rolledBack =>
    refine ⟨h.device, ?_, h.activeSlotSize, h.targetSlotAddr, h.targetSlotSize, h.verifyMode,
      h.lastEraseResult, h.memory, h.callbacks, h.memoryMap⟩
    rw [← h.device]
    rfl

theorem run_outfitted (target : UdsBootloaderTarget) (s : Bootloader φ) (calls : List BootCall) :
    Outfitted target (run bootStep (udsBootloaderInit s target) calls) :=
  run_inv (I := Outfitted target) (fun _ call h => bootStep_outfitted h call)
    (init_outfitted s target) calls

/-! ## The image -/

/-- The header that an image begins with. -/
def headerOf (image : List UInt8) : FirmwareMetadata := .decode (image.take metadataSize)

/-- What the header covers. -/
def payloadOf (image : List UInt8) : List UInt8 :=
  (image.drop metadataSize).take ((headerOf image).imageSize.toNat - metadataSize)

/-- An image with a header in order, for this device. -/
structure Genuine (s : Bootloader φ) (image : List UInt8) : Prop where
  fits : image.length ≤ 4096
  aligned : image.length % 8 = 0
  header : bootValidateMetadata (headerOf image) = true
  larger : metadataSize < (headerOf image).imageSize.toNat
  whole : (headerOf image).imageSize.toNat ≤ image.length
  newer : udsBootloaderGetVersionFloor s ≤ (headerOf image).version
  hashed : sha256Hash (payloadOf image) = (headerOf image).sha256
  signed : udsBootloaderVerifySignature s (bootManifestDigest (headerOf image))
    (headerOf image).signature = true

/-- A block of the image and the time at which it is transferred. -/
structure Chunk where
  bytes : List UInt8
  time : UInt32

/-- A block that the download takes: not empty, not too long, and aligned. -/
structure Chunk.Fits (c : Chunk) : Prop where
  pos : 0 < c.bytes.length
  le : c.bytes.length ≤ 256
  aligned : c.bytes.length % 8 = 0

/-- Each time is less than the timeout of a download behind the one before. -/
def Timely : UInt32 → List UInt32 → Prop
  | _, [] => True
  | last, now :: rest => expired now (last + downloadTimeoutMs) = false ∧ Timely now rest

/-- The blocks one after the other, each under its number. -/
def transfers : Nat → List Chunk → List BootCall
  | _, [] => []
  | k, c :: chunks =>
    .transferData (blockNumber k) (some (Buf.ofList c.bytes)) (UInt16.ofNat c.bytes.length) c.time
      :: transfers (k + 1) chunks

/-- A CheckMemory of what slot B begins with. -/
def checkCall : BootCall := .routineControl subfunctionStartRoutine routineCheckMemoryId [] 1

/-- The download of an image, its check and its activation. -/
def updateCalls (target : UdsBootloaderTarget) (length start : UInt32) (chunks : List Chunk)
    (request : List UInt8) (stop : UInt32) : List BootCall :=
  .requestDownload (targetContext target).targetSlotAddr length start
    :: (transfers 0 chunks ++ [.transferExit request stop, checkCall, .activateCandidate])

/-! ## The transfer -/

/-- These bytes of an image of `length` bytes have been transferred in `k` blocks. -/
structure Uploading (target : UdsBootloaderTarget) (s₀ s : Bootloader φ) (length : Nat)
    (done : List UInt8) (k : Nat) (last : UInt32) : Prop where
  outfitted : Outfitted target s
  aside : Aside s₀ s
  fits : done.length ≤ length ∧ length ≤ 4096
  aligned : done.length % 8 = 0
  progress : s.ctx.downloadInProgress = true
  state : s.download.state = .receiving
  address : s.download.metadata.imageAddress = (targetContext target).targetSlotAddr
  length : s.download.metadata.imageLength = UInt32.ofNat length
  received : s.download.metadata.receivedLength = UInt32.ofNat done.length
  block : s.download.expectedBlock = blockNumber k
  crc32 : s.download.crc32 = crc32Update 0xFFFFFFFF done
  checksum : s.download.metadata.crc32 = crc32Update 0xFFFFFFFF done
  deadline : s.download.deadlineMs = last + downloadTimeoutMs
  slot : s.flash.slotB.slice 0 done.length = done
  programmed : s.flash.slotBLen = UInt32.ofNat done.length

/-- Slot B takes whatever fits the arrays. -/
theorem slotB_inside (target : UdsBootloaderTarget) {length : UInt32} (hpos : 0 < length.toNat)
    (hfits : length.toNat ≤ 4096) :
    validateDownloadRegion (targetMemoryMap target) (targetContext target).targetSlotAddr length
      = true := by
  have hne : length ≠ 0 := fun h => by simp [h] at hpos
  have hend : ∀ base : UInt32, base.toNat < 2 ^ 31 → ¬base + length < base := by
    intro base hbase
    rw [UInt32.lt_iff_toNat_lt, UInt32.toNat_add]
    omega
  have hroom : ∀ size : UInt32, 4096 ≤ size.toNat → length ≤ size := by
    intro size hsize
    rw [UInt32.le_iff_toNat_le]
    omega
  have hinside : rangeInside (targetMemoryMap target).stagingImage
      (targetContext target).targetSlotAddr length = true := by
    unfold rangeInside
    cases target <;>
    · rw [if_neg (not_or.mpr ⟨hne, by decide⟩)]
      exact decide_eq_true (hroom _ (by decide))
  unfold validateDownloadRegion
  dsimp only
  rw [if_neg (not_or.mpr ⟨hne, hend _ (by cases target <;> decide)⟩), hinside]
  -- everything else in the map lies before slot B
  have hapart : ∀ region : UdsDownloadRegion,
      region.endExclusive ≤ (targetContext target).targetSlotAddr →
      overlaps ⟨(targetContext target).targetSlotAddr,
        (targetContext target).targetSlotAddr + length⟩ region = false := by
    intro region hbefore
    unfold overlaps
    rw [decide_eq_false_iff_not]
    exact fun h => absurd h.1 (UInt32.not_lt.mpr hbefore)
  rw [if_neg (by decide), hapart _ (by cases target <;> decide),
    hapart _ (by cases target <;> decide), hapart _ (by cases target <;> decide),
    hapart _ (by cases target <;> decide)]
  rfl

theorem begin_accepted {d : UdsDownload BootWorld} (hmemory : d.memory = targetMemoryMap target)
    (hcallbacks : d.callbacks = bootDownloadCallbacks) (length : UInt32)
    (hpos : 0 < length.toNat) (hfits : length.toNat ≤ 4096) (haligned : length.toNat % 8 = 0)
    (now : UInt32) (ctx : UdsBootloaderContext) (flash : MockFlash)
    (hslot : ctx.targetSlotAddr = (targetContext target).targetSlotAddr) :
    udsDownloadBegin d (targetContext target).targetSlotAddr length now (ctx, flash)
      = (.ok, beginDownload d (targetContext target).targetSlotAddr length now,
        ctx, { flash with slotBLen := 0, slotB := fun _ => 0xFF }) := by
  have hlength : ∀ alignment : UInt32, alignment.toNat ∣ 8 → alignment ≠ 0 →
      aligned length alignment = true := by
    intro alignment hdvd hne
    unfold aligned
    refine decide_eq_true ⟨hne, ?_⟩
    rw [← UInt32.toNat_inj, UInt32.toNat_mod]
    exact Nat.mod_eq_zero_of_dvd (hdvd.trans (Nat.dvd_of_mod_eq_zero haligned))
  have herase : bootloaderFlashEraseStart (ctx, flash) (targetContext target).targetSlotAddr length
      = (.ok, ctx, { flash with slotBLen := 0, slotB := fun _ => 0xFF }) := by
    unfold bootloaderFlashEraseStart
    exact if_pos (UInt32.le_of_eq hslot)
  have haddress : ∀ alignment : UInt32, alignment = (targetMemoryMap target).eraseAlignment ∨
      alignment = (targetMemoryMap target).programAlignment →
      aligned (targetContext target).targetSlotAddr alignment = true := by
    rintro alignment (rfl | rfl) <;> cases target <;> decide
  unfold udsDownloadBegin
  rw [hcallbacks, hmemory]
  show (if _ then _ else _) = _
  split
  next hmissing => exact absurd hmissing (by simp [bootDownloadCallbacks])
  next =>
    rw [slotB_inside target hpos hfits, if_neg (by simp), haddress _ (.inl rfl),
      haddress _ (.inr rfl), hlength _ (by cases target <;> decide) (by cases target <;> decide),
      if_neg (by simp), if_neg (by cases target <;> decide)]
    dsimp only
    rw [herase]
    rfl

theorem pollErase_accepted {d : UdsDownload BootWorld}
    (hcallbacks : d.callbacks = bootDownloadCallbacks) (hstate : d.state = .erasing) {now : UInt32} (htime : expired now d.deadlineMs = false)
    {w : BootWorld} (herased : w.1.lastEraseResult = 0) :
    udsDownloadPollErase d now w
      = (.ok, { d with state := .receiving, deadlineMs := now + downloadTimeoutMs }, w) := by
  have hpolled : bootloaderFlashErasePoll w = (.ok, w) := by
    unfold bootloaderFlashErasePoll
    rw [if_pos herased]
  unfold udsDownloadPollErase
  rw [hcallbacks]
  show (if _ then _ else _) = _
  rw [if_neg (not_not.mpr hstate), htime, if_neg (by decide)]
  show (if (bootloaderFlashErasePoll w).1 = .ok then _ else _) = _
  rw [hpolled]
  rfl

theorem expired_fresh (now : UInt32) : expired now (now + downloadTimeoutMs) = false := by
  have htimeout : downloadTimeoutMs.toNat = 5000 := rfl
  have hnow := now.toNat_lt
  unfold expired
  rw [decide_eq_false_iff_not, UInt32.toNat_sub, UInt32.toNat_add, htimeout]
  omega

theorem request_uploading (h : Outfitted target s) {length : Nat} (hpos : 0 < length)
    (hfits : length ≤ 4096) (haligned : length % 8 = 0) (now : UInt32) :
    (udsBootloaderRequestDownload s (targetContext target).targetSlotAddr (UInt32.ofNat length)
        now).1 = .ok ∧
      Uploading target s (udsBootloaderRequestDownload s (targetContext target).targetSlotAddr
        (UInt32.ofNat length) now).2.2 length [] 0 now := by
  have haside := requestDownload_aside s (targetContext target).targetSlotAddr
    (UInt32.ofNat length) now
  have houtfitted := bootStep_outfitted h (.requestDownload (targetContext target).targetSlotAddr
    (UInt32.ofNat length) now)
  have hlength : (UInt32.ofNat length).toNat = length := by
    rw [UInt32.toNat_ofNat']
    omega
  have hbegun := begin_accepted h.memory h.callbacks (UInt32.ofNat length)
    (by omega) (by omega) (by omega) now s.ctx s.flash h.targetSlotAddr
  -- no image of this size reaches beyond the slot
  have hrange : ¬((targetContext target).targetSlotAddr < s.ctx.targetSlotAddr ∨
      s.ctx.targetSlotAddr + s.ctx.targetSlotSize
        < (targetContext target).targetSlotAddr + UInt32.ofNat length) := by
    rw [h.targetSlotAddr, h.targetSlotSize, UInt32.lt_iff_toNat_lt, UInt32.lt_iff_toNat_lt]
    have hsum : ((targetContext target).targetSlotAddr + UInt32.ofNat length).toNat
        = (targetContext target).targetSlotAddr.toNat + length := by
      rw [UInt32.toNat_add, hlength]
      have hbase : (targetContext target).targetSlotAddr.toNat < 2 ^ 31 := by
        cases target <;> decide
      omega
    rw [hsum]
    have hroom : (targetContext target).targetSlotAddr.toNat + 4096
        ≤ ((targetContext target).targetSlotAddr + (targetContext target).targetSlotSize).toNat := by
      cases target <;> decide
    omega
  change Aside s (udsBootloaderRequestDownload s _ _ now).2.2 at haside
  change Outfitted target (udsBootloaderRequestDownload s _ _ now).2.2 at houtfitted
  unfold udsBootloaderRequestDownload at haside houtfitted ⊢
  rw [if_neg hrange] at haside houtfitted ⊢
  rw [hbegun] at haside houtfitted ⊢
  dsimp only at haside houtfitted ⊢
  rw [if_neg (by simp)] at haside houtfitted ⊢
  have hcallbacks : (beginDownload s.download (targetContext target).targetSlotAddr
      (UInt32.ofNat length) now).callbacks = bootDownloadCallbacks := h.callbacks
  have hpolled := pollErase_accepted hcallbacks rfl (expired_fresh now)
    (w := (s.ctx, { s.flash with slotBLen := 0, slotB := fun _ => 0xFF })) h.lastEraseResult
  rw [hpolled] at haside houtfitted ⊢
  exact ⟨rfl, houtfitted, haside, ⟨Nat.zero_le _, hfits⟩, rfl, rfl, rfl, rfl, rfl, rfl, rfl, rfl,
    rfl, rfl, rfl, rfl⟩

theorem write_accepted {d : UdsDownload BootWorld} (hcallbacks : d.callbacks = bootDownloadCallbacks)
    {block : UInt8} {length : UInt16} {now : UInt32} (htaken : BlockTaken d block length now)
    (data : Buf) (w : BootWorld) :
    udsDownloadWrite d block (some data) length now w
      = (.ok, blockProgrammed d (data.slice 0 length.toNat) length now, w.1,
        mockFlashProgram w.1 w.2 (blockAddress d) (data.slice 0 length.toNat)) := by
  have hbounds : ¬(length = 0 ∨ maxChunkLength < length ∨ d.state ≠ .receiving) := by
    rintro (hzero | hlong | hstate)
    · exact htaken.bounds.1 hzero
    · exact UInt16.not_lt.mpr htaken.bounds.2 hlong
    · exact hstate htaken.state
  have haligned : ¬(d.metadata.receivedLength % d.memory.programAlignment ≠ 0
      ∨ length.toUInt32 % d.memory.programAlignment ≠ 0) :=
    not_or.mpr ⟨not_not.mpr htaken.aligned.1, not_not.mpr htaken.aligned.2⟩
  unfold udsDownloadWrite
  rw [hcallbacks]
  show (if _ then _ else _) = _
  rw [if_neg hbounds, htaken.inTime, if_neg (by decide), if_neg (not_not.mpr htaken.inSequence),
    if_neg (UInt32.not_lt.mpr htaken.fits), if_neg haligned]
  rfl

/-- A block behind the bytes that are there already. -/
theorem program_appends {ctx : UdsBootloaderContext} {flash : MockFlash} {done bytes : List UInt8}
    (hslot : ctx.targetSlotAddr = (targetContext target).targetSlotAddr)
    (hpos : 0 < bytes.length) (hfits : done.length + bytes.length ≤ 4096)
    (hdone : flash.slotB.slice 0 done.length = done)
    (hlen : flash.slotBLen = UInt32.ofNat done.length) :
    let after := mockFlashProgram ctx flash
      ((targetContext target).targetSlotAddr + UInt32.ofNat done.length) bytes
    after.slotB.slice 0 (done ++ bytes).length = done ++ bytes ∧
      after.slotBLen = UInt32.ofNat (done ++ bytes).length := by
  have hbase : (targetContext target).targetSlotAddr.toNat < 2 ^ 31 := by cases target <;> decide
  have hbehind : (targetContext target).targetSlotAddr
      ≤ (targetContext target).targetSlotAddr + UInt32.ofNat done.length := by
    rw [UInt32.le_iff_toNat_le, UInt32.toNat_add, UInt32.toNat_ofNat']
    omega
  have hoffset : (targetContext target).targetSlotAddr + UInt32.ofNat done.length
      - (targetContext target).targetSlotAddr = UInt32.ofNat done.length := by
    rw [UInt32.add_comm, UInt32.add_sub_cancel]
  have hsum : UInt32.ofNat done.length + UInt32.ofNat bytes.length
      = UInt32.ofNat (done ++ bytes).length := by
    rw [List.length_append, UInt32.ofNat_add]
  have hroom : UInt32.ofNat (done ++ bytes).length ≤ mockFlashSize := by
    rw [UInt32.le_iff_toNat_le, UInt32.toNat_ofNat', List.length_append]
    change _ ≤ 4096
    omega
  have hmore : UInt32.ofNat done.length < UInt32.ofNat (done ++ bytes).length := by
    rw [UInt32.lt_iff_toNat_lt, UInt32.toNat_ofNat', UInt32.toNat_ofNat', List.length_append]
    omega
  intro after
  have hafter : after = { flash with
      slotB := flash.slotB.copy done.length (Buf.ofList bytes) 0 bytes.length
      slotBLen := UInt32.ofNat (done ++ bytes).length } := by
    show mockFlashProgram ctx flash _ bytes = _
    unfold mockFlashProgram
    dsimp only
    rw [if_neg (by omega), hslot, if_pos hbehind, hoffset, hsum, if_pos hroom, hlen, if_pos hmore,
      UInt32.toNat_ofNat', Nat.mod_eq_of_lt (by omega)]
  rw [hafter]
  refine ⟨?_, rfl⟩
  rw [List.length_append, Buf.slice_copy_append, hdone, Buf.slice_ofList]

theorem transfer_uploading {s₀ : Bootloader φ} {length : Nat} {done : List UInt8} {k : Nat}
    {last : UInt32} (h : Uploading target s₀ s length done k last) {c : Chunk} (hc : c.Fits)
    (hroom : done.length + c.bytes.length ≤ length)
    (htime : expired c.time (last + downloadTimeoutMs) = false) :
    (udsBootloaderTransferData s (blockNumber k) (some (Buf.ofList c.bytes))
        (UInt16.ofNat c.bytes.length) c.time).1 = .ok ∧
      Uploading target s₀ (udsBootloaderTransferData s (blockNumber k) (some (Buf.ofList c.bytes))
        (UInt16.ofNat c.bytes.length) c.time).2 length (done ++ c.bytes) (k + 1) c.time := by
  have haside := transferData_aside s (blockNumber k) (some (Buf.ofList c.bytes))
    (UInt16.ofNat c.bytes.length) c.time
  have houtfitted := bootStep_outfitted h.outfitted (.transferData (blockNumber k)
    (some (Buf.ofList c.bytes)) (UInt16.ofNat c.bytes.length) c.time)
  obtain ⟨hpos, hle, hblock⟩ := hc
  obtain ⟨hdone, hfits⟩ := h.fits
  have hlength : (UInt16.ofNat c.bytes.length).toNat = c.bytes.length := by
    rw [UInt16.toNat_ofNat']
    omega
  have hreceived : (UInt32.ofNat done.length).toNat = done.length := by
    rw [UInt32.toNat_ofNat']
    omega
  -- both devices program in units that a block's length is a multiple of
  have halignment : s.download.memory.programAlignment.toNat ∣ 8 := by
    rw [h.outfitted.memory]
    cases target <;> decide
  have hmultiple : ∀ x : UInt32, x.toNat % 8 = 0 →
      x % s.download.memory.programAlignment = 0 := by
    intro x hx
    rw [← UInt32.toNat_inj, UInt32.toNat_mod]
    exact Nat.mod_eq_zero_of_dvd (halignment.trans (Nat.dvd_of_mod_eq_zero hx))
  have htaken : BlockTaken s.download (blockNumber k) (UInt16.ofNat c.bytes.length) c.time := by
    refine ⟨h.state, ⟨fun hzero => ?_, ?_⟩, ?_, h.block.symm, ?_, ?_, ?_⟩
    · rw [hzero] at hlength
      exact absurd hlength (by change ¬0 = _; omega)
    · rw [UInt16.le_iff_toNat_le, hlength]
      exact hle
    · rw [h.deadline]
      exact htime
    · rw [h.length, h.received, UInt32.le_iff_toNat_le, UInt16.toNat_toUInt32, hlength,
        UInt32.toNat_sub_of_le _ _ ?_, UInt32.toNat_ofNat', hreceived]
      · omega
      · rw [UInt32.le_iff_toNat_le, hreceived, UInt32.toNat_ofNat']
        omega
    · rw [h.received]
      exact hmultiple _ (by rw [hreceived]; exact h.aligned)
    · exact hmultiple _ (by rw [UInt16.toNat_toUInt32, hlength]; exact hblock)
  have hbytes : (Buf.ofList c.bytes).slice 0 (UInt16.ofNat c.bytes.length).toNat = c.bytes := by
    rw [hlength, Buf.slice_ofList]
  have hwritten := write_accepted h.outfitted.callbacks htaken (Buf.ofList c.bytes)
    (s.ctx, s.flash)
  rw [hbytes] at hwritten
  -- the block goes where the one before it ended
  have hwhere : blockAddress s.download
      = (targetContext target).targetSlotAddr + UInt32.ofNat done.length := by
    unfold blockAddress
    rw [h.address, h.received]
  obtain ⟨hslot, hprogrammed⟩ := program_appends h.outfitted.targetSlotAddr hpos (by omega) h.slot
    h.programmed
  rw [← hwhere] at hslot hprogrammed
  have hout : udsBootloaderTransferData s (blockNumber k) (some (Buf.ofList c.bytes))
      (UInt16.ofNat c.bytes.length) c.time = (.ok, { s with
        download := blockProgrammed s.download c.bytes (UInt16.ofNat c.bytes.length) c.time
        flash := mockFlashProgram s.ctx s.flash (blockAddress s.download) c.bytes }) := by
    have hpolled : ¬s.download.state = .erasing := by
      rw [h.state]
      decide
    unfold udsBootloaderTransferData runDownload
    rw [if_neg (not_not.mpr h.progress)]
    simp only [if_neg hpolled]
    rw [hwritten]
    rfl
  -- the invariant, clause by clause, with the block behind the others
  change Outfitted target (udsBootloaderTransferData s _ _ _ _).2 at houtfitted
  rw [hout] at haside houtfitted ⊢
  refine ⟨rfl, houtfitted, h.aside.trans haside, ?_, ?_, h.progress, h.state, h.address, h.length,
    ?_, ?_, ?_, ?_, rfl, hslot, hprogrammed⟩
  · rw [List.length_append]
    omega
  · rw [List.length_append]
    have haligned := h.aligned
    omega
  · show s.download.metadata.receivedLength + (UInt16.ofNat c.bytes.length).toUInt32 = _
    have hwide : (UInt16.ofNat c.bytes.length).toUInt32 = UInt32.ofNat c.bytes.length := by
      rw [← UInt32.toNat_inj, UInt16.toNat_toUInt32, hlength, UInt32.toNat_ofNat']
      omega
    rw [h.received, hwide, List.length_append, UInt32.ofNat_add]
  · show s.download.expectedBlock + 1 = _
    rw [h.block, blockNumber_succ]
  · show crc32Update s.download.crc32 c.bytes = _
    rw [h.crc32, crc32Update_append]
  · show crc32Update s.download.crc32 c.bytes = _
    rw [h.crc32, crc32Update_append]

/-- All blocks of what is left of the image. -/
theorem transfers_uploading {s₀ : Bootloader φ} {length k : Nat} {done : List UInt8}
    {last stop : UInt32} {chunks : List Chunk} (h : Uploading target s₀ s length done k last)
    (hchunks : ∀ c ∈ chunks, c.Fits)
    (hroom : done.length + (chunks.flatMap Chunk.bytes).length ≤ length)
    (htimes : Timely last (chunks.map Chunk.time ++ [stop])) :
    Along bootStep Succeeds s (transfers k chunks) ∧
      ∃ last', expired stop (last' + downloadTimeoutMs) = false ∧
        Uploading target s₀ (run bootStep s (transfers k chunks)) length
          (done ++ chunks.flatMap Chunk.bytes) (k + chunks.length) last' := by
  induction chunks generalizing s done k last with
  | nil =>
    refine ⟨trivial, last, htimes.1, ?_⟩
    rw [List.flatMap_nil, List.append_nil]
    exact h
  | cons c chunks ih =>
    rw [List.flatMap_cons, List.length_append] at hroom
    obtain ⟨htime, hlater⟩ := htimes
    obtain ⟨hok, hnext⟩ := transfer_uploading h (hchunks c List.mem_cons_self) (by omega) htime
    obtain ⟨hrest, last', hstop, hdone⟩ := ih hnext
      (fun c' hmem => hchunks c' (List.mem_cons_of_mem c hmem))
      (by rw [List.length_append]; omega) hlater
    refine ⟨⟨hok, hrest⟩, last', hstop, ?_⟩
    rw [List.flatMap_cons, ← List.append_assoc, List.length_cons, Nat.add_comm chunks.length 1,
      ← Nat.add_assoc]
    exact hdone

/-! ## The end of the transfer -/

theorem checksum_complement (data : List UInt8) (hne : data ≠ []) :
    crc32Update 0xFFFFFFFF data ^^^ 0xFFFFFFFF = bootCalcCrc32 data := by
  unfold bootCalcCrc32
  rw [if_neg (fun hzero => hne (List.eq_nil_of_length_eq_zero hzero))]
  generalize crc32Update 0xFFFFFFFF data = crc
  rw [← UInt32.xor_neg_one]
  rfl

/-- The image is in slot B, and nothing is under way. -/
structure Uploaded (target : UdsBootloaderTarget) (s₀ s : Bootloader φ) (image : List UInt8) :
    Prop where
  outfitted : Outfitted target s
  aside : Aside s₀ s
  slot : s.flash.slotB.slice 0 image.length = image

theorem flashVerify_accepts (w : BootWorld) (metadata : UdsDownloadMetadata) {image : List UInt8}
    (hne : image ≠ []) (hfits : image.length ≤ 4096)
    (hslot : w.1.targetSlotAddr ≤ metadata.imageAddress)
    (hlength : metadata.imageLength = UInt32.ofNat image.length)
    (hbytes : w.2.slotB.slice 0 image.length = image)
    (hprogrammed : w.2.slotBLen = UInt32.ofNat image.length)
    (hcrc : metadata.crc32 = crc32Update 0xFFFFFFFF image) {request : Option UInt32}
    (hrequest : ∀ crc, request = some crc → crc = bootCalcCrc32 image) :
    bootloaderFlashVerify w metadata (request.getD 0) request.isSome = (.ok, w) := by
  have hpos : 0 < image.length := List.length_pos_of_ne_nil hne
  have hsize : (UInt32.ofNat image.length).toNat = image.length := by
    rw [UInt32.toNat_ofNat']
    omega
  have hzero : UInt32.ofNat image.length ≠ 0 := by
    intro h
    rw [h] at hsize
    change 0 = _ at hsize
    omega
  have hwhole : ¬(UInt32.ofNat image.length = 0 ∨
      UInt32.ofNat image.length < UInt32.ofNat image.length) :=
    not_or.mpr ⟨hzero, UInt32.lt_irrefl _⟩
  unfold bootloaderFlashVerify
  rw [hlength, if_neg hzero, if_pos hslot]
  dsimp only
  rw [hprogrammed, if_neg hwhole, hsize, hbytes]
  cases request with
  | none =>
    rw [if_neg (by decide), hcrc, checksum_complement image hne]
    exact if_neg fun h => h.2 rfl
  | some crc =>
    obtain rfl := hrequest crc rfl
    rw [if_pos (by rfl)]
    exact if_neg fun h => h rfl

theorem exit_uploaded {s₀ : Bootloader φ} {image request : List UInt8} {k : Nat}
    {last stop : UInt32} (h : Uploading target s₀ s image.length image k last)
    (hne : image ≠ []) (htime : expired stop (last + downloadTimeoutMs) = false)
    (hrequest : ∀ crc, requestedCrc request = some crc → crc = bootCalcCrc32 image) :
    (udsBootloaderTransferExit s request stop).1 = .ok ∧
      Uploaded target s₀ (udsBootloaderTransferExit s request stop).2.2 image := by
  have haside := transferExit_aside s request stop
  have houtfitted := bootStep_outfitted h.outfitted (.transferExit request stop)
  have hflash := transferExit_flash s request stop h.outfitted.callbacks
  refine ⟨?_, houtfitted, h.aside.trans haside, by rw [hflash]; exact h.slot⟩
  have hslot : s.ctx.targetSlotAddr ≤ s.download.metadata.imageAddress := by
    rw [h.address, h.outfitted.targetSlotAddr]
    exact UInt32.le_refl _
  have hcrc : (!(requestedCrc request).isSome ||
      (s.download.crc32 ^^^ 0xFFFFFFFF == (requestedCrc request).getD 0)) = true := by
    cases hcrc : requestedCrc request with
    | none => rfl
    | some crc =>
      rw [h.crc32, checksum_complement image hne, hrequest crc hcrc]
      exact beq_self_eq_true _
  have hverified := flashVerify_accepts (s.ctx, s.flash)
    { s.download.metadata with crcValid := true } hne h.fits.2 hslot h.length h.slot h.programmed
    h.checksum hrequest
  have hfinished : (udsDownloadFinish s.download ((requestedCrc request).getD 0)
      (requestedCrc request).isSome stop (s.ctx, s.flash)).1 = .ok := by
    unfold udsDownloadFinish
    rw [h.outfitted.callbacks]
    show (if _ then _ else _ : UdsDownloadResult × UdsDownload BootWorld × BootWorld).1 = _
    rw [if_neg (not_or.mpr ⟨not_not.mpr h.state, not_not.mpr (h.received.trans h.length.symm)⟩),
      h.deadline, htime, if_neg (by decide)]
    dsimp only
    rw [hcrc]
    show (if (bootloaderFlashVerify _ _ _ _).1 ≠ .ok then _ else _ :
      UdsDownloadResult × UdsDownload BootWorld × BootWorld).1 = _
    rw [hverified]
    rfl
  unfold udsBootloaderTransferExit runDownload
  rw [if_neg (not_not.mpr h.progress)]
  dsimp only
  rw [hfinished, if_neg (by simp)]

/-! ## The check -/

theorem slotPtr_target (ctx : UdsBootloaderContext) (flash : MockFlash) (offset : UInt32)
    (hoffset : offset < mockFlashSize) (hslot : ctx.targetSlotAddr.toNat < 2 ^ 31) :
    bootloaderGetSlotPtr ctx flash (ctx.targetSlotAddr + offset)
      = some (flash.slotB, offset.toNat, (mockFlashSize - offset).toNat) := by
  have hsmall : offset.toNat < 4096 := UInt32.lt_iff_toNat_lt.mp hoffset
  have hbehind : ctx.targetSlotAddr ≤ ctx.targetSlotAddr + offset := by
    rw [UInt32.le_iff_toNat_le, UInt32.toNat_add]
    omega
  have hback : ctx.targetSlotAddr + offset - ctx.targetSlotAddr = offset := by
    rw [UInt32.add_comm, UInt32.add_sub_cancel]
  unfold bootloaderGetSlotPtr
  rw [if_pos hbehind, hback]
  exact if_pos hoffset

theorem Outfitted.low (h : Outfitted target s) : s.ctx.targetSlotAddr.toNat < 2 ^ 31 := by
  rw [h.targetSlotAddr]
  cases target <;> decide

theorem Uploaded.header {s₀ : Bootloader φ} {image : List UInt8}
    (h : Uploaded target s₀ s image) (hlong : metadataSize ≤ image.length) :
    candidateMetadata s [] = some (headerOf image) := by
  have hparse : parseCheckMemoryMetadata s [] = none := by
    unfold parseCheckMemoryMetadata
    rw [if_neg (by decide), if_neg (fun h => absurd h.1 (by decide))]
  have hptr := slotPtr_target s.ctx s.flash 0 (by decide) h.outfitted.low
  rw [UInt32.add_zero] at hptr
  have hhead : s.flash.slotB.slice 0 metadataSize = image.take metadataSize := by
    conv_rhs => rw [← h.slot]
    rw [Buf.take_slice, Nat.min_eq_left hlong]
  unfold candidateMetadata
  rw [hparse, hptr]
  dsimp only
  rw [if_neg (by decide)]
  exact congrArg (fun bytes => some (FirmwareMetadata.decode bytes)) hhead

/-- What the header covers, read where the image is stored. -/
theorem slice_payload {slot : Buf} {image : List UInt8}
    (hslot : slot.slice 0 image.length = image)
    (hwhole : (headerOf image).imageSize.toNat ≤ image.length) :
    slot.slice metadataSize ((headerOf image).imageSize.toNat - metadataSize)
      = payloadOf image := by
  unfold payloadOf
  generalize (headerOf image).imageSize.toNat = size at hwhole ⊢
  conv_rhs => rw [← hslot]
  rw [Buf.drop_slice, Buf.take_slice, Nat.zero_add, Nat.min_eq_left (by omega)]

theorem Uploaded.payload {s₀ : Bootloader φ} {image : List UInt8}
    (h : Uploaded target s₀ s image) (hfits : image.length ≤ 4096)
    (hwhole : (headerOf image).imageSize.toNat ≤ image.length) :
    slotBPayload s (headerOf image).imageSize = some (payloadOf image) := by
  have hptr := slotPtr_target s.ctx s.flash 128 (by decide) h.outfitted.low
  have hoffset : (128 : UInt32).toNat = metadataSize := rfl
  have havail : (mockFlashSize - 128).toNat = 4096 - metadataSize := rfl
  rw [hoffset, havail] at hptr
  have hroom : ¬4096 - metadataSize < (headerOf image).imageSize.toNat - metadataSize := by
    omega
  unfold slotBPayload
  rw [hptr]
  dsimp only
  rw [if_neg hroom, slice_payload h.slot hwhole]

theorem judge_genuine {s₀ : Bootloader φ} {image : List UInt8} (h : Uploaded target s₀ s image)
    (hgenuine : Genuine s₀ image) : judgeCandidate s (headerOf image) = none := by
  have hfloor : udsBootloaderGetVersionFloor s = udsBootloaderGetVersionFloor s₀ := by
    unfold udsBootloaderGetVersionFloor
    rw [h.aside.floorStore, h.aside.activeVersion]
  have hsigned : udsBootloaderVerifySignature s (bootManifestDigest (headerOf image))
      (headerOf image).signature = true := by
    rw [← hgenuine.signed]
    unfold udsBootloaderVerifySignature
    rw [h.aside.signatureVerifier]
  have hmode : ¬s.ctx.verifyMode = .crc32 := by
    rw [h.outfitted.verifyMode]
    decide
  unfold judgeCandidate
  rw [hgenuine.header, if_neg (by decide), hfloor, if_neg (UInt32.not_lt.mpr hgenuine.newer),
    if_neg hmode]
  unfold verifyCandidateCrypto
  rw [if_neg (Nat.not_le.mpr hgenuine.larger),
    h.payload hgenuine.fits hgenuine.whole]
  dsimp only
  rw [if_neg (not_not.mpr hgenuine.hashed), hsigned]
  exact if_neg fun hrefused => hrefused.2 rfl

theorem check_genuine {s₀ : Bootloader φ} {image : List UInt8} (h : Uploaded target s₀ s image)
    (hgenuine : Genuine s₀ image) :
    udsBootloaderRoutineControl s subfunctionStartRoutine routineCheckMemoryId [] 1
      = (.ok, [0x00], acceptCandidate s (headerOf image)) := by
  have hlong : metadataSize ≤ image.length :=
    (Nat.le_of_lt hgenuine.larger).trans hgenuine.whole
  have hcandidate := h.header hlong
  have hjudged := judge_genuine h hgenuine
  unfold udsBootloaderRoutineControl
  rw [if_neg (by decide)]
  show routineCheckMemory s subfunctionStartRoutine [] = _
  unfold routineCheckMemory
  rw [if_neg (by decide), hcandidate]
  dsimp only
  rw [hjudged]

/-! ## The activation -/

/-- The header of the image, marked as active and on its first boot attempt. -/
def activeHeader (image : List UInt8) : FirmwareMetadata :=
  { headerOf image with
    status := SlotStatus.active
    bootAttempts := 1
    maxAttempts := 3
    activeSlot := 0 }

/-- The image that the device runs. -/
structure Installed (target : UdsBootloaderTarget) (image : List UInt8) (s : Bootloader φ) :
    Prop where
  version : s.ctx.activeVersion = (headerOf image).version
  staging : s.ctx.stagingMetadata = activeHeader image
  journal : s.nvm = some (bootFinalizeMetadata (activeHeader image))
  slotB : s.flash.slotB.slice 0 image.length = image
  /-- The STM32C092 runs what is in slot A. -/
  slotA : target = .stm32c092 → s.flash.slotA.slice 0 (headerOf image).imageSize.toNat
    = image.take (headerOf image).imageSize.toNat

theorem copy_genuine {image : List UInt8} (houtfitted : Outfitted target s)
    (hslot : s.flash.slotB.slice 0 image.length = image) (hfits : image.length ≤ 4096)
    (hlarger : metadataSize < (headerOf image).imageSize.toNat)
    (hwhole : (headerOf image).imageSize.toNat ≤ image.length)
    (hhashed : sha256Hash (payloadOf image) = (headerOf image).sha256)
    (hstaging : s.ctx.stagingMetadata.sha256 = (headerOf image).sha256) :
    ∃ flash, c092CopyCandidateToSlotA s (headerOf image).imageSize s.ctx.activeSlotAddr
        = (.ok, { s with flash := flash }) ∧ flash.slotB = s.flash.slotB ∧
      flash.slotA.slice 0 (headerOf image).imageSize.toNat
        = image.take (headerOf image).imageSize.toNat := by
  generalize hsize : (headerOf image).imageSize = size at hlarger hwhole ⊢
  have haddr : ¬s.ctx.targetSlotAddr ≤ s.ctx.activeSlotAddr :=
    UInt32.not_le.mpr houtfitted.slots
  have hcopied : s.flash.slotB.slice 0 size.toNat = image.take size.toNat := by
    conv_rhs => rw [← hslot]
    rw [Buf.take_slice, Nat.min_eq_left hwhole]
  have hmock : mockFlashSize.toNat = 4096 := rfl
  have hlen : ¬mockFlashSize < size := by
    rw [UInt32.lt_iff_toNat_lt]
    omega
  -- slot A as the erase leaves it, and then with the image
  let erased : MockFlash := { s.flash with slotALen := 0, slotA := fun _ => 0xFF }
  let slotA := erased.slotA.copy 0 (Buf.ofList (s.flash.slotB.slice 0 size.toNat)) 0 size.toNat
  have hcopy : slotA.slice 0 size.toNat = s.flash.slotB.slice 0 size.toNat := by
    have hslotA : slotA = erased.slotA.copy 0 s.flash.slotB 0 size.toNat :=
      Buf.copy_ofList_slice _ _ (Nat.le_refl _)
    rw [hslotA, Buf.slice_copy_self]
  have hprogram : mockFlashProgram s.ctx erased s.ctx.activeSlotAddr
      (s.flash.slotB.slice 0 size.toNat)
        = { erased with slotA := slotA, slotALen := if 0 < 0 + size then 0 + size else 0 } := by
    unfold mockFlashProgram
    rw [Buf.length_slice, UInt32.ofNat_toNat, if_neg (by omega), if_neg haddr,
      if_pos (UInt32.le_refl _), UInt32.sub_self]
    exact if_pos (by rw [UInt32.zero_add]; exact UInt32.not_lt.mp hlen)
  -- what is read back has the hash that the header gives
  have hverified : c092VerifyCopiedImage s.ctx slotA size = true := by
    have hmode : ¬s.ctx.verifyMode = .crc32 := by
      rw [houtfitted.verifyMode]
      decide
    have hpayload : slotA.slice metadataSize (size.toNat - metadataSize) = payloadOf image := by
      rw [← slice_payload hslot (by rw [hsize]; exact hwhole), hsize]
      apply Buf.slice_congr
      intro i hi
      have hbyte := Buf.eq_of_slice_eq hcopy (i := metadataSize + i) (by omega)
      rwa [Nat.zero_add] at hbyte
    unfold c092VerifyCopiedImage
    rw [if_neg (Nat.not_le.mpr hlarger)]
    dsimp only
    rw [if_neg hmode, hpayload, hhashed, hstaging]
    exact beq_self_eq_true _
  refine ⟨{ erased with slotA := slotA, slotALen := if 0 < 0 + size then 0 + size else 0 }, ?_,
    rfl, ?_⟩
  · unfold c092CopyCandidateToSlotA bootloaderFlashEraseStart
    rw [if_neg haddr]
    dsimp only
    rw [if_neg (by simp)]
    unfold bootloaderFlashErasePoll bootloaderFlashProgram
    dsimp only
    rw [if_pos houtfitted.lastEraseResult, if_neg (by simp), if_neg hlen, if_neg (by simp)]
    rw [hprogram]
    exact if_neg (not_not.mpr hverified)
  · show slotA.slice 0 size.toNat = _
    rw [hcopy, hcopied]

theorem activate_genuine {s₀ : Bootloader φ} {image : List UInt8} (h : Uploaded target s₀ s image)
    (hgenuine : Genuine s₀ image) :
    Succeeds (acceptCandidate s (headerOf image)) .activateCandidate ∧
      Installed target image (bootStep (acceptCandidate s (headerOf image)) .activateCandidate) := by
  set s' := acceptCandidate s (headerOf image)
  have hout : Outfitted target s' :=
    ⟨h.outfitted.device, h.outfitted.activeSlotAddr, h.outfitted.activeSlotSize,
      h.outfitted.targetSlotAddr, h.outfitted.targetSlotSize, h.outfitted.verifyMode,
      h.outfitted.lastEraseResult, h.outfitted.memory, h.outfitted.callbacks, h.outfitted.memoryMap⟩
  have hverified : ¬¬s'.ctx.candidateVerified = true := not_not.mpr rfl
  have hstaged : s'.ctx.stagingMetadata.imageSize = (headerOf image).imageSize := rfl
  have hslot : s'.flash.slotB.slice 0 image.length = image := h.slot
  show (udsBootloaderActivateCandidate s').1 = .ok ∧
    Installed target image (udsBootloaderActivateCandidate s').2
  unfold udsBootloaderActivateCandidate
  rw [if_neg hverified, hout.device]
  cases target with
  -- the image is copied into slot A, for which it is neither empty nor too long
  | stm32c092 =>
    have hzero : ¬(headerOf image).imageSize = 0 := by
      intro hzero
      have hlarger := hgenuine.larger
      rw [hzero] at hlarger
      exact absurd hlarger (by decide)
    have hroom : ¬s'.ctx.activeSlotSize < (headerOf image).imageSize := by
      have hsize : s'.ctx.activeSlotSize.toNat = 110592 := by
        rw [hout.activeSlotSize]
        rfl
      have hwhole := hgenuine.whole
      have hfits := hgenuine.fits
      rw [UInt32.lt_iff_toNat_lt]
      omega
    obtain ⟨flash, hcopied, hslotB, hslotA⟩ := copy_genuine hout hslot hgenuine.fits
      hgenuine.larger hgenuine.whole hgenuine.hashed rfl
    rw [if_pos rfl]
    dsimp only
    rw [hstaged, if_neg (not_or.mpr ⟨hzero, hroom⟩), hcopied]
    exact ⟨rfl, rfl, rfl, rfl, by rw [← hslotB] at hslot; exact hslot, fun _ => hslotA⟩
  -- the hardware swaps the banks, and nothing is copied
  | stm32f767 =>
    rw [if_neg (by decide)]
    exact ⟨rfl, rfl, rfl, rfl, hslot, fun hother => absurd hother (by decide)⟩

/-- **An update that is in order goes through.** -/
theorem update_succeeds (target : UdsBootloaderTarget) (s₀ : Bootloader φ) (before : List BootCall)
    (image request : List UInt8) (chunks : List Chunk) (start stop : UInt32)
    (hgenuine : Genuine (run bootStep (udsBootloaderInit s₀ target) before) image)
    (hchunks : ∀ c ∈ chunks, c.Fits) (hbytes : chunks.flatMap Chunk.bytes = image)
    (hrequest : ∀ crc, requestedCrc request = some crc → crc = bootCalcCrc32 image)
    (htimes : Timely start (chunks.map Chunk.time ++ [stop])) :
    let s := run bootStep (udsBootloaderInit s₀ target) before
    let calls := updateCalls target (UInt32.ofNat image.length) start chunks request stop
    Along bootStep Succeeds s calls ∧ Installed target image (run bootStep s calls) := by
  intro s calls
  have hsize : metadataSize = 128 := rfl
  have hlarger := hgenuine.larger
  have hwhole := hgenuine.whole
  have hne : image ≠ [] := by
    rintro rfl
    rw [List.length_nil] at hwhole
    omega
  have hrequested : Succeeds s (.requestDownload (targetContext target).targetSlotAddr
        (UInt32.ofNat image.length) start) ∧
      Uploading target s (bootStep s (.requestDownload (targetContext target).targetSlotAddr
        (UInt32.ofNat image.length) start)) image.length [] 0 start :=
    request_uploading (run_outfitted target s₀ before) (by omega) hgenuine.fits
      hgenuine.aligned start
  obtain ⟨hok, hbegun⟩ := hrequested
  obtain ⟨htransferred, last, hstop, hdone⟩ := transfers_uploading hbegun hchunks
    (by rw [hbytes, List.length_nil, Nat.zero_add]) htimes
  rw [hbytes, List.nil_append] at hdone
  obtain ⟨hended, huploaded⟩ := exit_uploaded hdone hne hstop hrequest
  have hcheck := check_genuine huploaded hgenuine
  have hchecked : Succeeds _ checkCall := congrArg Prod.fst hcheck
  have haccepted : bootStep _ checkCall = acceptCandidate _ (headerOf image) :=
    congrArg (fun out => out.2.2) hcheck
  obtain ⟨hactivated, hinstalled⟩ := activate_genuine huploaded hgenuine
  rw [← haccepted] at hactivated hinstalled
  constructor
  · refine ⟨hok, along_append.mpr ⟨htransferred, hended, hchecked, hactivated, trivial⟩⟩
  · show Installed target image (run bootStep (bootStep s _) (transfers 0 chunks ++ _))
    rw [run_append]
    exact hinstalled

/-- Version 5, with a payload of one byte. -/
def imageFive : List UInt8 := offeredBytes 5 ++ List.replicate 8 0

/-- A C092 as delivered, with a verifier that takes everything. -/
def freshC092 : Bootloader Unit :=
  attach (factoryNew blankFlash () .stm32c092) none () (some fun _ _ => true)

set_option maxRecDepth 20000 in
/-- After an erase that nothing came of, in two blocks, while the clock wraps. -/
theorem update_succeeds_five :
    let s := run bootStep (udsBootloaderInit freshC092 .stm32c092) [startErase]
    let calls := updateCalls .stm32c092 136 0xFFFFFF00
      [⟨imageFive.take 128, 0xFFFFFFF0⟩, ⟨imageFive.drop 128, 16⟩] [] 32
    Along bootStep Succeeds s calls ∧ Installed .stm32c092 imageFive (run bootStep s calls) :=
  update_succeeds .stm32c092 freshC092 [startErase] imageFive [] _ 0xFFFFFF00 32
    ⟨by decide +kernel, by decide +kernel, by decide +kernel, by decide +kernel,
      by decide +kernel, by decide +kernel, by decide +kernel, by decide +kernel⟩
    (by
      intro c hc
      rcases List.mem_cons.mp hc with rfl | hc
      · exact ⟨by decide +kernel, by decide +kernel, by decide +kernel⟩
      · obtain rfl := List.mem_singleton.mp hc
        exact ⟨by decide +kernel, by decide +kernel, by decide +kernel⟩)
    (by decide +kernel) (fun _ hcrc => nomatch hcrc) ⟨by decide, by decide, by decide, trivial⟩

end UdsIsoTp.Boot
