import UdsIsoTp.Lib.Digest
import UdsIsoTp.Boot.Update

/-!
# The image in the active slot

On the STM32C092 an activation copies the candidate to slot A and takes the digest of the
copy. So it does not matter what has become of slot B since CheckMemory: after every
successful activation, and until the next attempt at one, slot A holds the payload of an
image that was signed, unless SHA-256 has a collision between two messages of this very run
(`active_slot_signed`).

`Vouched` is what the verified flag is worth without a look at slot B, and `Staged` keeps a
download out of slot A.
-/

namespace UdsIsoTp.Boot

open UdsIsoTp.Uds UdsIsoTp.Flash UdsIsoTp.Digest

variable {φ : Type}

/-! ## Signed images -/

/-- The bytes that the manifest digest covers. -/
def manifest (hdr : FirmwareMetadata) : List UInt8 :=
  manifestTag ++ putU32Le hdr.magic ++ putU16Le hdr.formatVersion
    ++ putU16Le hdr.flags ++ putU32Le hdr.version ++ putU32Le hdr.imageSize ++ hdr.sha256

theorem bootManifestDigest_eq (hdr : FirmwareMetadata) :
    bootManifestDigest hdr = sha256Hash (manifest hdr) := rfl

/-- Two headers that a signature does not tell apart. -/
structure SameManifest (a b : FirmwareMetadata) : Prop where
  magic : a.magic = b.magic
  formatVersion : a.formatVersion = b.formatVersion
  flags : a.flags = b.flags
  version : a.version = b.version
  imageSize : a.imageSize = b.imageSize
  sha256 : a.sha256 = b.sha256

theorem manifest_inj {a b : FirmwareMetadata} (h : manifest a = manifest b) : SameManifest a b := by
  unfold manifest at h
  obtain ⟨h, hsha256⟩ := List.append_inj h rfl
  obtain ⟨h, hsize⟩ := List.append_inj h rfl
  obtain ⟨h, hversion⟩ := List.append_inj h rfl
  obtain ⟨h, hflags⟩ := List.append_inj h rfl
  obtain ⟨h, hformat⟩ := List.append_inj h rfl
  obtain ⟨-, hmagic⟩ := List.append_inj h rfl
  exact ⟨putU32Le_injective hmagic, putU16Le_injective hformat, putU16Le_injective hflags,
    putU32Le_injective hversion, putU32Le_injective hsize, hsha256⟩

/-- An image as its maker signs it: the header names the digest of the payload. -/
structure SignedImage where
  header : FirmwareMetadata
  payload : List UInt8
  hashed : header.sha256 = sha256Hash payload

/-- The message that is signed is the manifest of one of these images. -/
def Manifests (signed : SignedImage → Prop) (message : List UInt8) : Prop :=
  ∃ image, signed image ∧ manifest image.header = message

/-! ## What the flag is worth -/

/-- The signature of the metadata has been accepted. -/
structure Vouched (verifier : List UInt8 → List UInt8 → Bool) (metadata : FirmwareMetadata) :
    Prop where
  fits : metadata.imageSize.toNat ≤ 4096
  signed : verifier (bootManifestDigest metadata) metadata.signature = true

/-- The verifier is in force, and what counts as verified it has vouched for. -/
structure Guarded (verifier : List UInt8 → List UInt8 → Bool) (s : Bootloader φ) : Prop where
  registered : s.signatureVerifier = some verifier
  required : s.signatureRequired = true
  vouched : s.ctx.candidateVerified = true → Vouched verifier s.ctx.stagingMetadata

variable {target : UdsBootloaderTarget} {s : Bootloader φ}
  {verifier : List UInt8 → List UInt8 → Bool}

/-- CheckMemory vouches for what it accepts. -/
theorem judged_vouched (h : Outfitted target s) (hguarded : Guarded verifier s)
    {metadata : FirmwareMetadata} (hjudged : judgeCandidate s metadata = none) :
    Vouched verifier metadata := by
  have hmode : ¬s.ctx.verifyMode = .crc32 := by
    rw [h.verifyMode]
    decide
  -- every check before the cryptographic one has let the image through
  have hcrypto : verifyCandidateCrypto s metadata = none := by
    unfold judgeCandidate at hjudged
    split at hjudged
    next => exact absurd hjudged (by simp)
    next =>
      split at hjudged
      next => exact absurd hjudged (by simp)
      next => exact hjudged
  unfold verifyCandidateCrypto at hcrypto
  split at hcrypto
  next => exact absurd hcrypto (by simp)
  next =>
    split at hcrypto
    next => exact absurd hcrypto (by simp)
    next payload hpayload =>
      split at hcrypto
      next => exact absurd hcrypto (by simp)
      next =>
        split at hcrypto
        next => exact absurd hcrypto (by simp)
        next hsigned =>
          constructor
          · -- the payload is in slot B behind the header
            unfold slotBPayload at hpayload
            rw [slotPtr_target s.ctx s.flash 128 (by decide) h.low] at hpayload
            dsimp only at hpayload
            split at hpayload
            next => exact absurd hpayload (by simp)
            next hroom =>
              have hsize : metadataSize = 128 := rfl
              have havail : (mockFlashSize - 128 : UInt32).toNat = 3968 := rfl
              omega
          · by_contra hrefused
            refine hsigned ⟨hguarded.required, ?_⟩
            unfold udsBootloaderVerifySignature
            rw [hguarded.registered]
            exact hrefused

theorem init_guarded (s : Bootloader φ) (target : UdsBootloaderTarget)
    (hverifier : s.signatureVerifier = some verifier) :
    Guarded verifier (udsBootloaderInit s target) := by
  unfold udsBootloaderInit
  dsimp only
  split
  next => exact ⟨hverifier, rfl, nofun⟩
  next =>
    split
    next => split <;> exact ⟨hverifier, rfl, nofun⟩
    next => exact ⟨hverifier, rfl, nofun⟩

theorem bootStep_guarded (h : Outfitted target s) (hguarded : Guarded verifier s)
    (call : BootCall) : Guarded verifier (bootStep s call) := by
  have heffect := bootStep_effect s h.slots call
  generalize bootStep s call = s' at heffect
  cases heffect with
  | aside haside =>
    refine ⟨haside.signatureVerifier.trans hguarded.registered,
      haside.signatureRequired.trans hguarded.required, fun hverified => ?_⟩
    rw [haside.staging]
    exact hguarded.vouched (haside.verified hverified)
  | accepted metadata haccepts =>
    refine ⟨hguarded.registered, hguarded.required, fun _ => ?_⟩
    -- the status is no part of what was signed
    obtain ⟨fits, signed⟩ := judged_vouched h hguarded haccepts.judged
    exact ⟨fits, signed⟩
  | activated flash => exact ⟨hguarded.registered, hguarded.required, nofun⟩
  | confirmed active raised ok =>
    obtain ⟨floorStore, floorFlash, hraised⟩ := raiseFloor_eq s
    rw [hraised]
    refine ⟨hguarded.registered, hguarded.required, fun hverified => ?_⟩
    obtain ⟨fits, signed⟩ := hguarded.vouched hverified
    exact ⟨fits, signed⟩
  | unconfirmed active raised =>
    obtain ⟨floorStore, floorFlash, hraised⟩ := raiseFloor_eq s
    rw [hraised]
    exact ⟨hguarded.registered, hguarded.required, hguarded.vouched⟩
  | rolledBack => exact ⟨hguarded.registered, hguarded.required, nofun⟩

/-! ## What stays out of slot A -/

/-- The download under way goes to slot B. -/
structure InSlotB (slot : UInt32) (d : UdsDownload BootWorld) : Prop where
  address : slot ≤ d.metadata.imageAddress
  sized : Sized d

/-- A download under way stays in slot B. -/
def Staged (s : Bootloader φ) : Prop := Active s.download → InSlotB s.ctx.targetSlotAddr s.download

theorem InSlotB.quiet {slot : UInt32} {d d' : UdsDownload BootWorld}
    (h : Active d → InSlotB slot d) (hquiet : Quiet d d') (hactive : Active d') :
    InSlotB slot d' := by
  obtain ⟨hbefore, hmetadata⟩ := hquiet.active hactive
  obtain ⟨address, received, sum, programAlignment⟩ := h hbefore
  rw [← hmetadata] at address received sum
  rw [← hquiet.memory] at programAlignment
  exact ⟨address, received, sum, programAlignment⟩

/-- Blocks go where the download does. -/
theorem InSlotB.block {slot : UInt32} {d : UdsDownload BootWorld} (h : InSlotB slot d)
    {block : UInt8} {length : UInt16} {now : UInt32}
    (htaken : BlockTaken d block length now) : slot ≤ blockAddress d := by
  obtain ⟨-, haddress, -⟩ := htaken.exact h.sized
  have hbegin := UInt32.le_iff_toNat_le.mp h.address
  rw [UInt32.le_iff_toNat_le, haddress]
  omega

theorem validateDownloadRegion_sum {map : UdsDownloadMemoryMap} {address length : UInt32}
    (h : validateDownloadRegion map address length = true) :
    address.toNat + length.toNat < 2 ^ 32 := by
  by_contra hover
  have haddress := address.toNat_lt
  have hlength := length.toNat_lt
  have hwraps : address + length < address := by
    rw [UInt32.lt_iff_toNat_lt, UInt32.toNat_add]
    omega
  unfold validateDownloadRegion at h
  dsimp only at h
  rw [if_pos (.inr hwraps)] at h
  exact Bool.noConfusion h

theorem mockFlashProgram_slotA {ctx : UdsBootloaderContext} {address : UInt32}
    (h : ctx.targetSlotAddr ≤ address) (flash : MockFlash) (data : List UInt8) :
    (mockFlashProgram ctx flash address data).slotA = flash.slotA := by
  unfold mockFlashProgram
  dsimp only
  split
  next => rfl
  next => split <;> rfl

theorem pollErase_world {d : UdsDownload BootWorld} (now : UInt32) (w : BootWorld)
    (hcallbacks : d.callbacks = bootDownloadCallbacks) :
    (udsDownloadPollErase d now w).2.2 = w := by
  unfold udsDownloadPollErase
  rw [hcallbacks]
  dsimp only [bootDownloadCallbacks]
  split
  next => rfl
  next =>
    split
    next => exact abort_world w hcallbacks
    next =>
      unfold bootloaderFlashErasePoll notify
      dsimp only
      split <;> split <;> rfl

theorem requestDownload_stays (h : Outfitted target s) (hstaged : Staged s)
    (address length now : UInt32) :
    (udsBootloaderRequestDownload s address length now).2.2.flash.slotA = s.flash.slotA ∧
      Staged (udsBootloaderRequestDownload s address length now).2.2 := by
  unfold udsBootloaderRequestDownload
  split
  next => exact ⟨rfl, hstaged⟩
  next hslot =>
    have haddress : s.ctx.targetSlotAddr ≤ address := UInt32.not_lt.mp (not_or.mp hslot).1
    obtain ⟨hd, hworld⟩ := udsDownloadBegin_cases s.download address length now (s.ctx, s.flash)
    have hflash : (udsDownloadBegin s.download address length now (s.ctx, s.flash)).2.2.2.slotA
        = s.flash.slotA := by
      rcases hworld with ⟨-, hsame⟩ | ⟨f, hf, -, hsame⟩
      · rw [hsame]
      · rw [h.callbacks] at hf
        obtain rfl := Option.some.inj hf
        rw [hsame]
        unfold bootloaderFlashEraseStart
        rw [if_pos haddress]
    have hbegun : (udsDownloadBegin s.download address length now (s.ctx, s.flash)).2.1.callbacks
        = bootDownloadCallbacks := by
      obtain ⟨-, hsame⟩ | ⟨-, -, -, -, hbegun⟩ := hd
      · rw [hsame, h.callbacks]
      · rw [hbegun]
        exact h.callbacks
    have hinside : Active (udsDownloadBegin s.download address length now (s.ctx, s.flash)).2.1 →
        InSlotB s.ctx.targetSlotAddr
          (udsDownloadBegin s.download address length now (s.ctx, s.flash)).2.1 := by
      intro hactive
      obtain ⟨-, hsame⟩ | ⟨-, hvalid, -, halignment, hbegun⟩ := hd
      · rw [hsame] at hactive ⊢
        exact hstaged hactive
      · rw [hbegun]
        exact ⟨haddress, UInt32.zero_le, validateDownloadRegion_sum hvalid, halignment⟩
    dsimp only
    split
    next => exact ⟨hflash, hinside⟩
    next =>
      refine ⟨?_, InSlotB.quiet hinside (pollErase_quiet ..)⟩
      rw [pollErase_world _ _ hbegun]
      exact hflash

theorem erasePolled_staged (h : Outfitted target s) (hstaged : Staged s) (now : UInt32) :
    Staged (erasePolled s now) := by
  obtain ⟨-, hctx, -⟩ := erasePolled_flash s now h.callbacks
  unfold Staged
  rw [hctx]
  unfold erasePolled
  split
  next => exact InSlotB.quiet hstaged (pollErase_quiet ..)
  next => exact hstaged

theorem transferData_stays (h : Outfitted target s) (hstaged : Staged s) (block : UInt8)
    (data : Option Buf) (length : UInt16) (now : UInt32) :
    (udsBootloaderTransferData s block data length now).2.flash.slotA = s.flash.slotA ∧
      Staged (udsBootloaderTransferData s block data length now).2 := by
  -- a block polls the erase first, if one is running
  have hout : (udsBootloaderTransferData s block data length now).2 =
      if ¬s.ctx.downloadInProgress then s
      else (runDownload (erasePolled s now)
        fun d w => udsDownloadWrite d block data length now w).2 := by
    unfold udsBootloaderTransferData erasePolled
    split
    next => rfl
    next =>
      dsimp only
      split <;> split <;> rfl
  rw [hout]
  split
  next => exact ⟨rfl, hstaged⟩
  next =>
    obtain ⟨hflash, -, hcallbacks⟩ := erasePolled_flash s now h.callbacks
    have hpolled := erasePolled_staged h hstaged now
    rw [← hflash]
    generalize erasePolled s now = s at hcallbacks hpolled ⊢
    unfold runDownload Staged
    dsimp only
    obtain ⟨hquiet, hsame | habort⟩ | ⟨program, buf, hprogram, -, htaken, hwritten⟩ :=
      udsDownloadWrite_cases s.download block data length now (s.ctx, s.flash)
    · exact ⟨by rw [hsame], InSlotB.quiet hpolled hquiet⟩
    · refine ⟨?_, InSlotB.quiet hpolled hquiet⟩
      rw [habort, hcallbacks]
      rfl
    -- a block is written where the download is, and that is slot B
    · have hinside := hpolled (.inr htaken.state)
      rw [hcallbacks] at hprogram
      obtain rfl := Option.some.inj hprogram
      have hslotA := mockFlashProgram_slotA (hinside.block htaken) s.flash
        (buf.slice 0 length.toNat)
      obtain ⟨-, hwritten⟩ | ⟨-, hwritten⟩ := hwritten
      · obtain ⟨hd, hworld⟩ := Prod.ext_iff.mp hwritten
        rw [hd, hworld]
        exact ⟨hslotA, hpolled⟩
      · obtain ⟨hd, hworld⟩ := Prod.ext_iff.mp hwritten
        rw [hd, hworld]
        refine ⟨?_, fun _ => ⟨hinside.address, hinside.sized.programmed htaken _⟩⟩
        rw [hcallbacks]
        exact hslotA

theorem transferExit_staged (hstaged : Staged s) (request : List UInt8) (now : UInt32) :
    Staged (udsBootloaderTransferExit s request now).2.2 := by
  have hfinished := finish_quiet s.download ((requestedCrc request).getD 0)
    (requestedCrc request).isSome now (s.ctx, s.flash)
  unfold udsBootloaderTransferExit runDownload
  split
  next => exact hstaged
  next =>
    dsimp only
    split
    next => exact fun hactive => absurd hactive (not_active nofun nofun)
    next => exact InSlotB.quiet hstaged hfinished

theorem routineControl_stays (hstaged : Staged s) (subfunction : UInt8) (routineId : UInt16)
    (input : List UInt8) (capacity : UInt16) :
    (udsBootloaderRoutineControl s subfunction routineId input capacity).2.2.flash.slotA
        = s.flash.slotA ∧
      Staged (udsBootloaderRoutineControl s subfunction routineId input capacity).2.2 := by
  obtain hsame | ⟨-, -, ⟨-, hrun⟩ | ⟨-, hrun⟩ | ⟨-, hrun⟩⟩ :=
    routineControl_cases s subfunction routineId input capacity
  · rw [hsame]
    exact ⟨rfl, hstaged⟩
  · rw [hrun]
    unfold routineEraseMemory
    split
    next => exact ⟨rfl, hstaged⟩
    next =>
      refine ⟨?_, hstaged⟩
      unfold bootloaderFlashEraseStart
      rw [if_pos (UInt32.le_refl _)]
  · rw [hrun]
    unfold routineCheckMemory
    split
    next => exact ⟨rfl, hstaged⟩
    next =>
      split
      next => exact ⟨rfl, hstaged⟩
      next => split <;> exact ⟨rfl, hstaged⟩
  · rw [hrun]
    unfold routineCheckDependencies
    split <;> exact ⟨rfl, hstaged⟩

/-- Only an activation touches slot A. -/
theorem bootStep_stays (h : Outfitted target s) (hstaged : Staged s) {call : BootCall}
    (hcall : call ≠ .activateCandidate) :
    (bootStep s call).flash.slotA = s.flash.slotA ∧ Staged (bootStep s call) := by
  cases call with
  | requestDownload address length now => exact requestDownload_stays h hstaged address length now
  | transferData block data length now =>
    exact transferData_stays h hstaged block data length now
  | transferExit request now =>
    refine ⟨?_, transferExit_staged hstaged request now⟩
    rw [bootStep, transferExit_flash s request now h.callbacks]
  | routineControl subfunction routineId input capacity =>
    exact routineControl_stays hstaged subfunction routineId input capacity
  | activateCandidate => exact absurd rfl hcall
  | confirmActiveImage =>
    obtain ⟨floorStore, floorFlash, hraised⟩ := raiseFloor_eq s
    obtain ⟨-, hout⟩ | ⟨-, ⟨-, -, hout⟩ | ⟨-, -, hout⟩⟩ := confirm_effect s <;> rw [bootStep, hout]
    · exact ⟨rfl, hstaged⟩
    · rw [hraised]
      exact ⟨rfl, hstaged⟩
    · rw [hraised]
      exact ⟨rfl, hstaged⟩
  | rollbackCandidate => exact ⟨rfl, hstaged⟩

theorem activate_staged (h : Outfitted target s) (hstaged : Staged s) :
    Staged (bootStep s .activateCandidate) := by
  obtain ⟨flash, -, ⟨-, hout⟩ | ⟨-, -, hout⟩⟩ := activate_effect s h.slots
  · rw [bootStep, hout]
    exact hstaged
  · rw [bootStep, hout]
    exact hstaged

/-! ## What an activation copies -/

theorem copyCandidate_verified {imageSize slotAAddr : UInt32}
    (hok : (c092CopyCandidateToSlotA s imageSize slotAAddr).1 = .ok) :
    c092VerifyCopiedImage s.ctx (c092CopyCandidateToSlotA s imageSize slotAAddr).2.flash.slotA
      (if mockFlashSize < imageSize then mockFlashSize else imageSize) = true := by
  unfold c092CopyCandidateToSlotA at hok ⊢
  generalize (if mockFlashSize < imageSize then mockFlashSize else imageSize) = copyLen at hok ⊢
  dsimp only at hok ⊢
  split at hok
  next herased => exact absurd hok herased
  next herased =>
    rw [if_neg herased]
    split at hok
    next hpolled => exact absurd hok hpolled
    next hpolled =>
      rw [if_neg hpolled]
      split at hok
      next hprogrammed => exact absurd hok hprogrammed
      next hprogrammed =>
        rw [if_neg hprogrammed]
        split at hok
        next => exact absurd hok (by simp)
        next hdigest =>
          rw [if_neg hdigest]
          exact not_not.mp hdigest

theorem activate_copied (h : Outfitted .stm32c092 s) (hok : Succeeds s .activateCandidate) :
    s.ctx.candidateVerified = true ∧
      (bootStep s .activateCandidate).ctx.activeVersion = s.ctx.stagingMetadata.version ∧
      c092VerifyCopiedImage s.ctx (bootStep s .activateCandidate).flash.slotA
        (if mockFlashSize < s.ctx.stagingMetadata.imageSize then mockFlashSize
          else s.ctx.stagingMetadata.imageSize) = true := by
  have hok : (udsBootloaderActivateCandidate s).1 = .ok := hok
  show _ ∧ (udsBootloaderActivateCandidate s).2.ctx.activeVersion = _ ∧
    c092VerifyCopiedImage s.ctx (udsBootloaderActivateCandidate s).2.flash.slotA _ = true
  unfold udsBootloaderActivateCandidate at hok ⊢
  split at hok
  next => exact absurd hok (by simp)
  next hverified =>
    rw [if_neg hverified, if_pos h.device]
    rw [if_pos h.device] at hok
    dsimp only at hok ⊢
    split at hok
    next => exact absurd hok (by simp)
    next hsize =>
      rw [if_neg hsize]
      split at hok
      next hfailed => exact absurd hok hfailed
      next hcopied =>
        rw [if_neg hcopied]
        refine ⟨not_not.mp hverified, ?_, ?_⟩
        · obtain ⟨flash, -, hflash⟩ :=
            copyCandidate_flash s s.ctx.stagingMetadata.imageSize s.ctx.activeSlotAddr h.slots
          show (c092CopyCandidateToSlotA s _ _).2.ctx.stagingMetadata.version = _
          rw [hflash]
        · exact copyCandidate_verified (not_not.mp hcopied)

/-- So the copy has the digest of the candidate. -/
theorem activate_digest (h : Outfitted .stm32c092 s)
    (hfits : s.ctx.stagingMetadata.imageSize.toNat ≤ 4096) (hok : Succeeds s .activateCandidate) :
    sha256Hash ((bootStep s .activateCandidate).flash.slotA.slice metadataSize
      (s.ctx.stagingMetadata.imageSize.toNat - metadataSize)) = s.ctx.stagingMetadata.sha256 := by
  obtain ⟨-, -, hcopied⟩ := activate_copied h hok
  have hlen : ¬mockFlashSize < s.ctx.stagingMetadata.imageSize := by
    have hmock : mockFlashSize.toNat = 4096 := rfl
    rw [UInt32.lt_iff_toNat_lt]
    omega
  have hmode : ¬s.ctx.verifyMode = .crc32 := by
    rw [h.verifyMode]
    decide
  rw [if_neg hlen] at hcopied
  unfold c092VerifyCopiedImage at hcopied
  split at hcopied
  next => exact absurd hcopied (by simp)
  next => exact beq_iff_eq.mp hcopied

/-! ## Every run -/

/-- What every operation keeps. -/
structure Safe (verifier : List UInt8 → List UInt8 → Bool) (s : Bootloader φ) : Prop where
  outfitted : Outfitted .stm32c092 s
  guarded : Guarded verifier s
  staged : Staged s

theorem init_safe (s : Bootloader φ) (hverifier : s.signatureVerifier = some verifier) :
    Safe verifier (udsBootloaderInit s .stm32c092) := by
  refine ⟨init_outfitted s _, init_guarded s _ hverifier, fun hactive => ?_⟩
  have hidle : (udsBootloaderInit s .stm32c092).download.state = .idle := by
    unfold udsBootloaderInit
    dsimp only
    split
    next => rfl
    next =>
      split
      next => split <;> rfl
      next => rfl
  rcases hactive with herasing | hreceiving
  · exact absurd (hidle.symm.trans herasing) (by decide)
  · exact absurd (hidle.symm.trans hreceiving) (by decide)

theorem bootStep_safe (h : Safe verifier s) (call : BootCall) : Safe verifier (bootStep s call) := by
  refine ⟨bootStep_outfitted h.outfitted call, bootStep_guarded h.outfitted h.guarded call, ?_⟩
  by_cases hcall : call = .activateCandidate
  · rw [hcall]
    exact activate_staged h.outfitted h.staged
  · exact (bootStep_stays h.outfitted h.staged hcall).2

/-- Without another activation, slot A stays as it is. -/
theorem run_stays (h : Safe verifier s) {calls : List BootCall}
    (hcalls : .activateCandidate ∉ calls) : (run bootStep s calls).flash.slotA = s.flash.slotA := by
  induction calls generalizing s with
  | nil => rfl
  | cons call calls ih =>
    obtain ⟨hcall, hrest⟩ := not_or.mp (mt List.mem_cons.mpr hcalls)
    rw [run_cons, ih (bootStep_safe h call) hrest]
    exact (bootStep_stays h.outfitted h.staged fun hactivates => hcall hactivates.symm).1

/-- **What runs has been signed.** -/
theorem active_slot_signed (s₀ : Bootloader φ) (hverifier : s₀.signatureVerifier = some verifier)
    {signed : SignedImage → Prop} (hunforged : Unforged sha256Hash verifier (Manifests signed))
    (before after : List BootCall)
    (hactivated : Succeeds (run bootStep (udsBootloaderInit s₀ .stm32c092) before)
      .activateCandidate)
    (hafter : .activateCandidate ∉ after) :
    let candidate := (run bootStep (udsBootloaderInit s₀ .stm32c092) before).ctx.stagingMetadata
    let activated := run bootStep (udsBootloaderInit s₀ .stm32c092) (before ++ [.activateCandidate])
    let slotA := (run bootStep activated after).flash.slotA
    ∃ image, signed image ∧
      (SameManifest candidate image.header ∧
          activated.ctx.activeVersion = image.header.version ∧
          slotA.slice metadataSize (image.header.imageSize.toNat - metadataSize) = image.payload ∨
        Collides sha256Hash (manifest candidate) (manifest image.header) ∨
        Collides sha256Hash
          (slotA.slice metadataSize (candidate.imageSize.toNat - metadataSize)) image.payload) := by
  intro candidate activated slotA
  have hsafe : Safe verifier (run bootStep (udsBootloaderInit s₀ .stm32c092) before) :=
    run_inv (I := Safe verifier) (fun _ call h => bootStep_safe h call) (init_safe s₀ hverifier)
      before
  have hrun : activated = bootStep (run bootStep (udsBootloaderInit s₀ .stm32c092) before)
      .activateCandidate := run_concat ..
  obtain ⟨hverified, hversion, -⟩ := activate_copied hsafe.outfitted hactivated
  obtain ⟨hfits, hsigned⟩ := hsafe.guarded.vouched hverified
  -- slot A hashes to what the signed manifest says
  have hdigest := activate_digest hsafe.outfitted hfits hactivated
  rw [bootManifestDigest_eq] at hsigned
  have hcarried : Safe verifier activated := by
    rw [hrun]
    exact bootStep_safe hsafe _
  -- no later operation touches slot A
  have hslotA : slotA = activated.flash.slotA := run_stays hcarried hafter
  rw [← hrun, ← hslotA] at hdigest
  rw [← hrun] at hversion
  obtain ⟨message, ⟨image, himage, rfl⟩, hsame | hcollides⟩ := hunforged.message hsigned
  · have hfields := manifest_inj hsame
    refine ⟨image, himage, ?_⟩
    rcases eq_or_collides (hdigest.trans (hfields.sha256.trans image.hashed)) with heq | hcollides
    · left
      refine ⟨hfields, hversion.trans hfields.version, ?_⟩
      rw [← hfields.imageSize]
      exact heq
    · exact .inr (.inr hcollides)
  · exact ⟨image, himage, .inr (.inl hcollides)⟩

/-- The maker has signed version 5 and nothing else. -/
def signedFive : SignedImage where
  header := headerOf imageFive
  payload := payloadOf imageFive
  hashed := by decide +kernel

/-- The verifier that takes one image only. -/
def takesFive (digest _signature : List UInt8) : Bool :=
  digest == sha256Hash (manifest signedFive.header)

set_option maxRecDepth 20000 in
/-- Version 5 is activated, and slot B erased afterwards. -/
theorem active_slot_signed_five :
    let s₀ : Bootloader Unit :=
      attach (factoryNew blankFlash () .stm32c092) none () (some takesFive)
    let candidate := (run bootStep (udsBootloaderInit s₀ .stm32c092)
      [checkOffered 5]).ctx.stagingMetadata
    let activated := run bootStep (udsBootloaderInit s₀ .stm32c092)
      ([checkOffered 5] ++ [.activateCandidate])
    let slotA := (run bootStep activated [startErase]).flash.slotA
    ∃ image, image = signedFive ∧
      (SameManifest candidate image.header ∧
          activated.ctx.activeVersion = image.header.version ∧
          slotA.slice metadataSize (image.header.imageSize.toNat - metadataSize) = image.payload ∨
        Collides sha256Hash (manifest candidate) (manifest image.header) ∨
        Collides sha256Hash
          (slotA.slice metadataSize (candidate.imageSize.toNat - metadataSize))
          image.payload) := by
  have hunforged : Unforged sha256Hash takesFive (Manifests fun image => image = signedFive) :=
    fun digest signature haccepts => ⟨_, ⟨signedFive, rfl, rfl⟩, (beq_iff_eq.mp haccepts).symm⟩
  refine active_slot_signed _ rfl hunforged [checkOffered 5] [startErase] ?_ (by simp [startErase])
  show (udsBootloaderActivateCandidate _).1 = .ok
  decide +kernel

end UdsIsoTp.Boot
