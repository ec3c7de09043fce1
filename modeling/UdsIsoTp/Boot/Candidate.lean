import UdsIsoTp.Boot.Journal

/-!
# What stays verified

CheckMemory hashes the payload in slot B and has the signature verified, and
`candidate_verified` remembers it until the activation. `Authentic` is what the flag stands
for, `Secure` the invariant that keeps it.

A download that begins drops the flag. Two other operations change slot B and do not: the
erase routine, and a block of a transfer that was under way when the candidate was checked
(`SparesCandidate` says when they happen to change nothing of the payload).
-/

namespace UdsIsoTp.Boot

open UdsIsoTp.Uds UdsIsoTp.Flash

variable {φ : Type}

/-- What slot B holds is the payload that was signed. -/
structure Authentic (s : Bootloader φ) : Prop where
  sized : metadataSize < s.ctx.stagingMetadata.imageSize.toNat
  hashed : sha256Hash (s.flash.slotB.slice metadataSize
      (s.ctx.stagingMetadata.imageSize.toNat - metadataSize)) = s.ctx.stagingMetadata.sha256
  signed : udsBootloaderVerifySignature s (bootManifestDigest s.ctx.stagingMetadata)
    s.ctx.stagingMetadata.signature = true

/-- The two states hold the same bytes where the candidate's payload is. -/
def SamePayload (s s' : Bootloader φ) : Prop :=
  ∀ k, metadataSize ≤ k → k < s.ctx.stagingMetadata.imageSize.toNat →
    s'.flash.slotB k = s.flash.slotB k

/-! ## Blocks -/

/-- The state in which a block finds the download. -/
def erasePolled (s : Bootloader φ) (now : UInt32) : Bootloader φ :=
  if s.download.state = .erasing then
    (runDownload s fun d w => udsDownloadPollErase d now w).2
  else s

/-- The block is not programmed, or only over bytes of the payload that are the same. -/
def SparesBlock (s : Bootloader φ) (block : UInt8) (data : Buf) (length : UInt16)
    (now : UInt32) : Prop :=
  let d := (erasePolled s now).download
  let offset := blockAddress d - s.ctx.targetSlotAddr
  BlockTaken d block length now → s.ctx.targetSlotAddr ≤ blockAddress d →
    ∀ i < length.toNat, metadataSize ≤ offset.toNat + i →
      offset.toNat + i < s.ctx.stagingMetadata.imageSize.toNat →
        s.flash.slotB (offset.toNat + i) = data i

/-- While a candidate is verified, no erase routine is started unless its payload is blank, and
no block is transferred unless it spares the payload. -/
def SparesCandidate (s : Bootloader φ) (call : BootCall) : Prop :=
  s.ctx.candidateVerified = true →
    match call with
    | .routineControl subfunction routineId _ capacity =>
      subfunction = subfunctionStartRoutine → routineId = routineEraseMemoryId →
        ¬capacity < 1 → ∀ k, metadataSize ≤ k → k < s.ctx.stagingMetadata.imageSize.toNat →
          s.flash.slotB k = 0xFF
    | .transferData block (some data) length now =>
      s.ctx.downloadInProgress = true → SparesBlock s block data length now
    | _ => True

/-! ## The flash -/

theorem requestDownload_payload (s : Bootloader φ) (address length now : UInt32)
    (hcallbacks : s.download.callbacks = bootDownloadCallbacks) :
    (udsBootloaderRequestDownload s address length now).2.2.ctx.candidateVerified = false ∨
      (udsBootloaderRequestDownload s address length now).2.2.flash = s.flash := by
  unfold udsBootloaderRequestDownload
  split
  next => exact .inr rfl
  next =>
    obtain ⟨-, hworld⟩ :=
      udsDownloadBegin_cases s.download address length now (s.ctx, s.flash)
    dsimp only
    split
    next hfailed =>
      refine .inr ?_
      obtain ⟨-, hsame⟩ | ⟨f, hf, hresult, -⟩ := hworld
      · exact congrArg Prod.snd hsame
      · -- the erase of the arrays cannot fail, so a begin that fails has not come to it
        rw [hcallbacks] at hf
        obtain rfl := Option.some.inj hf
        refine absurd (hresult.trans ?_) hfailed
        unfold bootloaderFlashEraseStart
        split <;> rfl
    next => exact .inl rfl

/-- Polling an erase leaves the slots alone. -/
theorem erasePolled_flash (s : Bootloader φ) (now : UInt32)
    (hcallbacks : s.download.callbacks = bootDownloadCallbacks) :
    (erasePolled s now).flash = s.flash ∧ (erasePolled s now).ctx = s.ctx ∧
      (erasePolled s now).download.callbacks = bootDownloadCallbacks := by
  unfold erasePolled
  split
  next =>
    have hquiet := pollErase_quiet s.download now (s.ctx, s.flash)
    refine ⟨?_, rfl, hquiet.callbacks.trans hcallbacks⟩
    show (udsDownloadPollErase s.download now (s.ctx, s.flash)).2.2.2 = s.flash
    unfold udsDownloadPollErase
    rw [hcallbacks]
    dsimp only [bootDownloadCallbacks]
    split
    next => rfl
    next =>
      split
      next =>
        unfold udsDownloadAbort
        rw [hcallbacks]
        rfl
      next =>
        unfold bootloaderFlashErasePoll notify
        dsimp only
        split <;> split <;> rfl
  next => exact ⟨rfl, rfl, hcallbacks⟩

/-- A byte of slot B after a block has been programmed. -/
theorem mockFlashProgram_slotB (ctx : UdsBootloaderContext) (flash : MockFlash)
    (address : UInt32) (data : List UInt8) (k : Nat) :
    (mockFlashProgram ctx flash address data).slotB k = flash.slotB k ∨
      ctx.targetSlotAddr ≤ address ∧ ∃ i < data.length,
        k = (address - ctx.targetSlotAddr).toNat + i ∧
          (mockFlashProgram ctx flash address data).slotB k = Buf.ofList data i := by
  unfold mockFlashProgram
  generalize (if ctx.activeSlotAddr ≤ address then address - ctx.activeSlotAddr else 0) = offset
  dsimp only
  split
  next => exact .inl rfl
  next =>
    split
    next haddr =>
      split
      next =>
        by_cases hin : (address - ctx.targetSlotAddr).toNat ≤ k ∧
            k < (address - ctx.targetSlotAddr).toNat + data.length
        · obtain ⟨i, rfl⟩ := Nat.exists_eq_add_of_le hin.1
          have hi : i < data.length := by omega
          refine .inr ⟨haddr, i, hi, rfl, ?_⟩
          dsimp only
          rw [Buf.copy_inside hi, Nat.zero_add]
        · exact .inl (Buf.copy_outside (by omega))
      next => exact .inl rfl
    next => split <;> exact .inl rfl

theorem transferData_payload (s : Bootloader φ) (block : UInt8) (data : Option Buf)
    (length : UInt16) (now : UInt32) (hcallbacks : s.download.callbacks = bootDownloadCallbacks)
    (hspares : s.ctx.downloadInProgress = true →
      ∀ buf, data = some buf → SparesBlock s block buf length now) :
    SamePayload s (udsBootloaderTransferData s block data length now).2 := by
  -- The call polls the erase and then writes the block; only the write can reach slot B.
  have hout : (udsBootloaderTransferData s block data length now).2 =
      if ¬s.ctx.downloadInProgress then s
      else (runDownload (erasePolled s now)
        fun d w => udsDownloadWrite d block data length now w).2 := by
    unfold udsBootloaderTransferData erasePolled
    split
    next => rfl
    next =>
      dsimp only
      split <;> split <;> rfl
  rw [hout]
  split
  next => exact fun k _ _ => rfl
  next hprogress =>
    obtain ⟨hflash, hctx, hpolled⟩ := erasePolled_flash s now hcallbacks
    have hspares := hspares (not_not.mp hprogress)
    intro k hlow hhigh
    rw [← hflash]
    show (udsDownloadWrite (erasePolled s now).download block data length now
      ((erasePolled s now).ctx, (erasePolled s now).flash)).2.2.2.slotB k = _
    obtain ⟨-, hsame | habort⟩ | ⟨program, buf, hprogram, hdata, htaken, hwritten⟩ :=
      udsDownloadWrite_cases (erasePolled s now).download block data length now
        ((erasePolled s now).ctx, (erasePolled s now).flash)
    · rw [hsame]
    · rw [habort, hpolled]
      rfl
    · rw [hpolled] at hprogram hwritten
      obtain rfl := Option.some.inj hprogram
      have hslots : (udsDownloadWrite (erasePolled s now).download block data length now
          ((erasePolled s now).ctx, (erasePolled s now).flash)).2.2.2
            = mockFlashProgram (erasePolled s now).ctx (erasePolled s now).flash
              (blockAddress (erasePolled s now).download) (buf.slice 0 length.toNat) := by
        obtain ⟨-, hwritten⟩ | ⟨-, hwritten⟩ := hwritten <;> rw [hwritten] <;> rfl
      rw [hslots]
      obtain hsame | ⟨haddr, i, hi, rfl, hbyte⟩ := mockFlashProgram_slotB (erasePolled s now).ctx
        (erasePolled s now).flash (blockAddress (erasePolled s now).download)
        (buf.slice 0 length.toNat) k
      · exact hsame
      · rw [Buf.length_slice] at hi
        rw [hctx] at haddr hlow hhigh ⊢
        rw [hctx] at hbyte
        rw [hbyte, hflash, hspares buf hdata htaken haddr i hi hlow hhigh,
          Buf.ofList_of_lt (by rwa [Buf.length_slice]), Buf.getElem_slice, Nat.zero_add]

theorem flashVerify_world (w : BootWorld) (metadata : UdsDownloadMetadata) (crc : UInt32)
    (has : Bool) : (bootloaderFlashVerify w metadata crc has).2 = w := by
  unfold bootloaderFlashVerify
  generalize (if w.1.targetSlotAddr ≤ metadata.imageAddress then (w.2.slotB, w.2.slotBLen)
    else (w.2.slotA, w.2.slotALen)) = slot
  dsimp only
  split
  next => rfl
  next =>
    split
    next => rfl
    next =>
      split
      next => split <;> rfl
      next => split <;> rfl

theorem abort_world {d : UdsDownload BootWorld} (w : BootWorld)
    (hcallbacks : d.callbacks = bootDownloadCallbacks) : (udsDownloadAbort d w).2 = w := by
  unfold udsDownloadAbort
  rw [hcallbacks]
  rfl

theorem finish_world {d : UdsDownload BootWorld} (crc : UInt32) (has : Bool) (now : UInt32)
    (w : BootWorld) (hcallbacks : d.callbacks = bootDownloadCallbacks) :
    (udsDownloadFinish d crc has now w).2.2 = w := by
  unfold udsDownloadFinish
  split
  next => rfl
  next verifyImage hverifyImage =>
    rw [hcallbacks] at hverifyImage
    obtain rfl := Option.some.inj hverifyImage
    split
    next => rfl
    next =>
      split
      next => exact abort_world w hcallbacks
      next =>
        dsimp only
        split
        next => exact abort_world w hcallbacks
        next =>
          split
          next => exact (abort_world _ hcallbacks).trans (flashVerify_world ..)
          next => exact flashVerify_world ..

theorem transferExit_flash (s : Bootloader φ) (request : List UInt8) (now : UInt32)
    (hcallbacks : s.download.callbacks = bootDownloadCallbacks) :
    (udsBootloaderTransferExit s request now).2.2.flash = s.flash := by
  unfold udsBootloaderTransferExit runDownload
  split
  next => rfl
  next =>
    have hworld := finish_world ((requestedCrc request).getD 0) (requestedCrc request).isSome now
      (s.ctx, s.flash) hcallbacks
    have hquiet := finish_quiet s.download ((requestedCrc request).getD 0)
      (requestedCrc request).isSome now (s.ctx, s.flash)
    dsimp only
    split
    next =>
      dsimp only
      rw [abort_world _ (hquiet.callbacks.trans hcallbacks)]
      exact congrArg Prod.snd hworld
    next => exact congrArg Prod.snd hworld

theorem routineControl_payload (s : Bootloader φ) (subfunction : UInt8) (routineId : UInt16)
    (input : List UInt8) (capacity : UInt16)
    (hspares : subfunction = subfunctionStartRoutine → routineId = routineEraseMemoryId →
      ¬capacity < 1 → ∀ k, metadataSize ≤ k → k < s.ctx.stagingMetadata.imageSize.toNat →
        s.flash.slotB k = 0xFF) :
    SamePayload s (udsBootloaderRoutineControl s subfunction routineId input capacity).2.2 := by
  obtain hsame | ⟨hsub, hcapacity, ⟨hid, hrun⟩ | ⟨-, hrun⟩ | ⟨-, hrun⟩⟩ :=
    routineControl_cases s subfunction routineId input capacity
  · rw [hsame]
    exact fun _ _ _ => rfl
  · rw [hrun]
    unfold routineEraseMemory
    split
    next => exact fun _ _ _ => rfl
    next hstart =>
      intro k hlow hhigh
      unfold bootloaderFlashEraseStart
      rw [if_pos (UInt32.le_refl _)]
      exact (hspares (hsub.resolve_right hstart) hid hcapacity k hlow hhigh).symm
  · rw [hrun]
    obtain ⟨-, hflash⟩ | ⟨-, metadata, -, -, haccepted⟩ := checkMemory_cases s subfunction input
    · rw [SamePayload, hflash]
      exact fun _ _ _ => rfl
    · rw [haccepted]
      exact fun _ _ _ => rfl
  · rw [hrun]
    unfold routineCheckDependencies
    split <;> exact fun _ _ _ => rfl

/-! ## The invariant -/

/-- What every operation keeps of the bootloader in its secure mode. -/
structure Secure (s : Bootloader φ) : Prop where
  placed : Placed s.ctx
  callbacks : s.download.callbacks = bootDownloadCallbacks
  verifyMode : s.ctx.verifyMode = .sha256Secure
  signatureRequired : s.signatureRequired = true
  authentic : s.ctx.candidateVerified = true → Authentic s

/-- A call that spares the candidate drops the flag or keeps the payload. -/
theorem bootStep_payload {s : Bootloader φ} (hsecure : Secure s) (call : BootCall)
    (hspares : SparesCandidate s call) (hverified : s.ctx.candidateVerified = true) :
    (bootStep s call).ctx.candidateVerified = false ∨ SamePayload s (bootStep s call) := by
  have hspares := hspares hverified
  cases call with
  | requestDownload address length now =>
    obtain hdropped | hflash := requestDownload_payload s address length now hsecure.callbacks
    · exact .inl hdropped
    · refine .inr fun k _ _ => ?_
      rw [bootStep, hflash]
  | transferData block data length now =>
    refine .inr (transferData_payload s block data length now hsecure.callbacks ?_)
    rintro hprogress buf rfl
    exact hspares hprogress
  | transferExit request now =>
    refine .inr fun k _ _ => ?_
    rw [bootStep, transferExit_flash s request now hsecure.callbacks]
  | routineControl subfunction routineId input capacity =>
    exact .inr (routineControl_payload s subfunction routineId input capacity hspares)
  | activateCandidate =>
    obtain ⟨flash, hslotB, ⟨-, hout⟩ | ⟨-, -, hout⟩⟩ := activate_effect s hsecure.placed.lt
    · refine .inr fun k _ _ => ?_
      rw [bootStep, hout, hslotB]
    · refine .inl ?_
      rw [bootStep, hout]
      rfl
  | confirmActiveImage =>
    obtain ⟨-, -, hflash⟩ := raiseFloor_kept s
    refine .inr fun k _ _ => ?_
    obtain ⟨-, hout⟩ | ⟨-, ⟨-, -, hout⟩ | ⟨-, -, hout⟩⟩ := confirm_effect s
    · rw [bootStep, hout]
    · rw [bootStep, hout, hflash]
    · rw [bootStep, hout]
      exact congrArg (fun flash => flash.slotB k) hflash
  | rollbackCandidate => exact .inl rfl

section Callbacks

variable {s : Bootloader φ} (hcallbacks : s.download.callbacks = bootDownloadCallbacks)

include hcallbacks

theorem requestDownload_callbacks (address length now : UInt32) :
    (udsBootloaderRequestDownload s address length now).2.2.download.callbacks
      = bootDownloadCallbacks := by
  have hbegun : (udsDownloadBegin s.download address length now (s.ctx, s.flash)).2.1.callbacks
      = bootDownloadCallbacks := by
    obtain ⟨⟨-, hsame⟩ | ⟨-, -, -, -, hbegun⟩, -⟩ :=
      udsDownloadBegin_cases s.download address length now (s.ctx, s.flash)
    · rw [hsame, hcallbacks]
    · rw [hbegun]
      exact hcallbacks
  unfold udsBootloaderRequestDownload
  split
  next => exact hcallbacks
  next =>
    dsimp only
    split
    next => exact hbegun
    next => exact (pollErase_quiet _ _ _).callbacks.trans hbegun

theorem transferData_callbacks (block : UInt8) (data : Option Buf) (length : UInt16)
    (now : UInt32) :
    (udsBootloaderTransferData s block data length now).2.download.callbacks
      = bootDownloadCallbacks := by
  have hwritten : ∀ (d : UdsDownload BootWorld) (w : BootWorld),
      (udsDownloadWrite d block data length now w).2.1.callbacks = d.callbacks := by
    intro d w
    obtain ⟨hquiet, -⟩ | ⟨_, _, -, -, -, ⟨-, hout⟩ | ⟨-, hout⟩⟩ :=
      udsDownloadWrite_cases d block data length now w
    · exact hquiet.callbacks
    · rw [hout]
    · rw [hout]
      rfl
  unfold udsBootloaderTransferData runDownload
  split
  next => exact hcallbacks
  next =>
    dsimp only
    split
    next =>
      -- the erase is polled before the block
      split <;> exact (hwritten _ _).trans ((pollErase_quiet _ _ _).callbacks.trans hcallbacks)
    next => split <;> exact (hwritten _ _).trans hcallbacks

theorem transferExit_callbacks (request : List UInt8) (now : UInt32) :
    (udsBootloaderTransferExit s request now).2.2.download.callbacks = bootDownloadCallbacks := by
  have hfinished := (finish_quiet s.download ((requestedCrc request).getD 0)
    (requestedCrc request).isSome now (s.ctx, s.flash)).callbacks.trans hcallbacks
  unfold udsBootloaderTransferExit runDownload
  split
  next => exact hcallbacks
  next =>
    dsimp only
    split <;> exact hfinished

theorem routineControl_callbacks (subfunction : UInt8) (routineId : UInt16) (input : List UInt8)
    (capacity : UInt16) :
    (udsBootloaderRoutineControl s subfunction routineId input capacity).2.2.download.callbacks
      = bootDownloadCallbacks := by
  obtain hsame | ⟨-, -, ⟨-, hrun⟩ | ⟨-, hrun⟩ | ⟨-, hrun⟩⟩ :=
    routineControl_cases s subfunction routineId input capacity
  · rw [hsame, hcallbacks]
  · rw [hrun]
    unfold routineEraseMemory
    split <;> exact hcallbacks
  · rw [hrun]
    unfold routineCheckMemory
    split
    next => exact hcallbacks
    next =>
      split
      next => exact hcallbacks
      next => split <;> exact hcallbacks
  · rw [hrun]
    unfold routineCheckDependencies
    split <;> exact hcallbacks

/-- No call changes the callbacks of the engine. -/
theorem bootStep_callbacks (hslots : s.ctx.activeSlotAddr < s.ctx.targetSlotAddr)
    (call : BootCall) : (bootStep s call).download.callbacks = bootDownloadCallbacks := by
  cases call with
  | requestDownload address length now => exact requestDownload_callbacks hcallbacks ..
  | transferData block data length now => exact transferData_callbacks hcallbacks ..
  | transferExit request now => exact transferExit_callbacks hcallbacks ..
  | routineControl subfunction routineId input capacity =>
    exact routineControl_callbacks hcallbacks ..
  | activateCandidate =>
    obtain ⟨flash, -, ⟨-, hout⟩ | ⟨-, -, hout⟩⟩ := activate_effect s hslots <;> rw [bootStep, hout]
    · exact hcallbacks
    · exact hcallbacks
  | confirmActiveImage =>
    have hraised : (raiseFloor s).2.download = s.download := by
      obtain ⟨floorStore, floorFlash, hraised⟩ := raiseFloor_eq s
      rw [hraised]
    rw [← hraised] at hcallbacks
    obtain ⟨-, hout⟩ | ⟨-, ⟨-, -, hout⟩ | ⟨-, -, hout⟩⟩ := confirm_effect s <;> rw [bootStep, hout]
    · rw [← hraised, hcallbacks]
    · exact hcallbacks
    · exact hcallbacks
  | rollbackCandidate => exact hcallbacks

end Callbacks

/-- In secure mode, a candidate against which nothing stands is authentic. -/
theorem accepted_authentic {s : Bootloader φ} (hsecure : Secure s) {metadata : FirmwareMetadata}
    (h : judgeCandidate s metadata = none) : Authentic (acceptCandidate s metadata) := by
  have hmode : ¬s.ctx.verifyMode = .crc32 := by
    rw [hsecure.verifyMode]
    decide
  unfold judgeCandidate at h
  split at h
  next => exact absurd h (by simp)
  next =>
    split at h
    next => exact absurd h (by simp)
    next =>
      unfold verifyCandidateCrypto at h
      split at h
      next => exact absurd h (by simp)
      next hsized =>
        split at h
        next => exact absurd h (by simp)
        next payload hpayload =>
          split at h
          next => exact absurd h (by simp)
          next hhash =>
            split at h
            next => exact absurd h (by simp)
            next hsigned =>
              -- The payload that was hashed is the one slot B holds behind its metadata.
              have hslotB : payload = s.flash.slotB.slice metadataSize
                  (metadata.imageSize.toNat - metadataSize) := by
                have hread : bootloaderGetSlotPtr s.ctx s.flash (s.ctx.targetSlotAddr + 128)
                    = some (s.flash.slotB, 128, 3968) := by
                  unfold bootloaderGetSlotPtr
                  rw [hsecure.placed.targetSlot]
                  cases s.ctx.target <;> rfl
                unfold slotBPayload at hpayload
                rw [hread] at hpayload
                dsimp only at hpayload
                split at hpayload
                next => exact absurd hpayload (by simp)
                next => exact (Option.some.inj hpayload).symm
              refine ⟨Nat.lt_of_not_le hsized, ?_, ?_⟩
              · rw [hslotB] at hhash
                exact not_not.mp hhash
              · rw [hsecure.signatureRequired] at hsigned
                by_contra hrefused
                exact hsigned ⟨rfl, hrefused⟩

theorem Authentic.congr {s s' : Bootloader φ} (h : Authentic s)
    (hstaging : s'.ctx.stagingMetadata = s.ctx.stagingMetadata)
    (hverifier : s'.signatureVerifier = s.signatureVerifier) (hpayload : SamePayload s s') :
    Authentic s' := by
  refine ⟨hstaging ▸ h.sized, ?_, ?_⟩
  · rw [hstaging, ← h.hashed]
    refine congrArg sha256Hash (Buf.slice_congr fun i hi => hpayload _ ?_ ?_)
    · omega
    · omega
  · have hsigned := h.signed
    unfold udsBootloaderVerifySignature at hsigned ⊢
    rwa [hstaging, hverifier]

theorem bootStep_secure {s : Bootloader φ} (h : Secure s) (call : BootCall)
    (hspares : SparesCandidate s call) : Secure (bootStep s call) := by
  have heffect := bootStep_effect s h.placed.lt call
  have hpayload := bootStep_payload h call hspares
  have hcallbacks := bootStep_callbacks h.callbacks h.placed.lt call
  generalize bootStep s call = s' at heffect hpayload hcallbacks
  cases heffect with
  | aside haside =>
    refine ⟨haside.placed h.placed, hcallbacks, haside.verifyMode.trans h.verifyMode,
      haside.signatureRequired.trans h.signatureRequired, fun hverified => ?_⟩
    have hbefore := haside.verified hverified
    obtain hdropped | hsame := hpayload hbefore
    · exact absurd hverified (by rw [hdropped]; decide)
    · exact (h.authentic hbefore).congr haside.staging haside.signatureVerifier hsame
  | accepted metadata haccepts =>
    exact ⟨⟨h.placed.activeSlot, h.placed.targetSlot⟩, hcallbacks, h.verifyMode,
      h.signatureRequired, fun _ => accepted_authentic h haccepts.judged⟩
  | activated flash verified slotB ok =>
    exact ⟨⟨h.placed.activeSlot, h.placed.targetSlot⟩, hcallbacks, h.verifyMode,
      h.signatureRequired, nofun⟩
  | confirmed active raised ok =>
    obtain ⟨floorStore, floorFlash, hraised⟩ := raiseFloor_eq s
    rw [hraised]
    refine ⟨⟨h.placed.activeSlot, h.placed.targetSlot⟩, h.callbacks, h.verifyMode,
      h.signatureRequired, fun hverified => ?_⟩
    have hauthentic := h.authentic hverified
    exact ⟨hauthentic.sized, hauthentic.hashed, hauthentic.signed⟩
  | unconfirmed active raised =>
    obtain ⟨floorStore, floorFlash, hraised⟩ := raiseFloor_eq s
    rw [hraised]
    exact ⟨h.placed, h.callbacks, h.verifyMode, h.signatureRequired, fun hverified =>
      (h.authentic hverified).congr rfl rfl fun _ _ _ => rfl⟩
  | rolledBack =>
    exact ⟨⟨rfl, h.placed.targetSlot⟩, hcallbacks, h.verifyMode, h.signatureRequired, nofun⟩

theorem init_secure (s : Bootloader φ) (target : UdsBootloaderTarget) :
    Secure (udsBootloaderInit s target) := by
  unfold udsBootloaderInit
  dsimp only
  split
  next => exact ⟨⟨rfl, rfl⟩, rfl, rfl, rfl, nofun⟩
  next =>
    split
    next => split <;> exact ⟨⟨rfl, rfl⟩, rfl, rfl, rfl, nofun⟩
    next => exact ⟨⟨rfl, rfl⟩, rfl, rfl, rfl, nofun⟩

/-- After an init, in secure mode and with signatures required, a candidate that is marked as
verified is the one that was signed, as long as no erase routine and no block of a transfer
under way changes its payload. -/
theorem verified_authentic (target : UdsBootloaderTarget) (s : Bootloader φ)
    (calls : List BootCall)
    (hspares : Along bootStep SparesCandidate (udsBootloaderInit s target) calls)
    (hverified : (run bootStep (udsBootloaderInit s target) calls).ctx.candidateVerified = true) :
    Authentic (run bootStep (udsBootloaderInit s target) calls) := by
  have hsecure := Along.inv (I := Secure) (fun _ call h hcall => bootStep_secure h call hcall)
    (init_secure s target) hspares
  exact hsecure.authentic hverified

/-! ### Erased behind the check -/

/-- A device whose verifier takes anything, after an init. -/
def started : Bootloader Unit :=
  udsBootloaderInit (attach (factoryNew blankFlash () .stm32f767) none ()
    (some fun _ _ => true)) .stm32f767

/-- The routine that erases the slot. -/
def startErase : BootCall :=
  .routineControl subfunctionStartRoutine routineEraseMemoryId [] 1

set_option maxRecDepth 20000 in
/-- The erase routine leaves nothing of a candidate but its mark, and the activation takes
it. -/
theorem erased_verified :
    (run bootStep started [checkOffered 5, startErase]).ctx.candidateVerified = true ∧
      ¬Authentic (run bootStep started [checkOffered 5, startErase]) ∧
      (udsBootloaderActivateCandidate
        (run bootStep started [checkOffered 5, startErase])).1 = .ok := by
  rw [and_left_comm]
  refine ⟨fun hauthentic => ?_, by decide +kernel⟩
  -- an erased slot does not have the digest of its manifest
  exact absurd hauthentic.hashed (by decide +kernel)

set_option maxRecDepth 20000 in
theorem checked_authentic : Authentic (run bootStep started [checkOffered 5]) := by
  have hspares : Along bootStep SparesCandidate started [checkOffered 5] :=
    ⟨fun _ _ hid => absurd hid (by decide), trivial⟩
  exact verified_authentic .stm32f767 _ [checkOffered 5] hspares (by decide +kernel)

end UdsIsoTp.Boot
