import UdsIsoTp.Boot.Operations

/-!
# The metadata journal

The journal holds one metadata record, which is by turns that of a candidate, of the active
image, of a confirmed and of a rolled-back one. `Journaled` says what the record and the
running state have to do with each other: the record is the staging metadata, and its version
is the active one as long as its status says active or confirmed.

That is what an init after a power cycle can rely on (`journal_restores_iff`), and what the
automatic rollback rests on, as long as no other candidate takes the record over
(`rolls_back_iff`).
-/

namespace UdsIsoTp.Boot

open UdsIsoTp.Uds UdsIsoTp.Flash

variable {φ : Type}

/-! ## A device with its power cycles -/

/-- What can happen to the device over its life. -/
inductive DeviceCall (φ : Type) where
  | op (call : BootCall)
  /-- Power comes back: the file is initialised, and what the integrator attaches to it is
  attached again. -/
  | powerCycle (floorStore : Option (UdsBootFloor φ)) (floorFlash : φ)
      (verifier : Option (List UInt8 → List UInt8 → Bool))
  | setVerificationMode (mode : UdsBootloaderVerifyMode)
  | setSignatureRequired (required : Bool)

/-- What the integrator attaches after a reset. -/
def attach (s : Bootloader φ) (floorStore : Option (UdsBootFloor φ)) (floorFlash : φ)
    (verifier : Option (List UInt8 → List UInt8 → Bool)) : Bootloader φ :=
  { s with floorStore := floorStore, floorFlash := floorFlash, signatureVerifier := verifier }

/-- One call. -/
def deviceStep (target : UdsBootloaderTarget) (s : Bootloader φ) : DeviceCall φ → Bootloader φ
  | .op call => bootStep s call
  | .powerCycle floorStore floorFlash verifier =>
    udsBootloaderInit (attach s floorStore floorFlash verifier) target
  | .setVerificationMode mode => { s with ctx := { s.ctx with verifyMode := mode } }
  | .setSignatureRequired required => { s with signatureRequired := required }

/-- A device that has never been written: its journal is empty. -/
def factoryNew (flash : MockFlash) (floorFlash : φ) (target : UdsBootloaderTarget) :
    Bootloader φ :=
  udsBootloaderInit {
    ctx := targetContext target
    flash := flash
    memoryMap := targetMemoryMap target
    download := udsDownloadInit (targetMemoryMap target) bootDownloadCallbacks
    nvm := none
    floorStore := none
    floorFlash := floorFlash
    signatureVerifier := none
    signatureRequired := true } target

/-! ## The invariant -/

/-- The journal holds the staging metadata, or what a rollback has left of no image at all. -/
inductive JournalOf (s : Bootloader φ) (entry : FirmwareMetadata) : Prop
  | staging (magic : s.ctx.stagingMetadata.magic = metadataMagic)
      (entry_eq : entry = bootFinalizeMetadata s.ctx.stagingMetadata)
      (confirmed : s.ctx.stagingMetadata.status = SlotStatus.confirmed →
        s.ctx.stagingMetadata.version = s.ctx.activeVersion)
  | nothing (magic : s.ctx.stagingMetadata.magic ≠ metadataMagic)
      (entry_magic : entry.magic ≠ metadataMagic) (version : s.ctx.activeVersion = 1)

/-- The slots are where the target has them. -/
structure Placed (ctx : UdsBootloaderContext) : Prop where
  activeSlot : ctx.activeSlotAddr = (targetContext ctx.target).activeSlotAddr
  targetSlot : ctx.targetSlotAddr = (targetContext ctx.target).targetSlotAddr

theorem Placed.lt {ctx : UdsBootloaderContext} (h : Placed ctx) :
    ctx.activeSlotAddr < ctx.targetSlotAddr := by
  rw [h.activeSlot, h.targetSlot]
  cases ctx.target <;> decide

/-- What every call keeps of the metadata in memory. -/
structure Journaled (s : Bootloader φ) : Prop where
  placed : Placed s.ctx
  verified : s.ctx.candidateVerified = true → s.ctx.stagingMetadata.magic = metadataMagic
  active : s.ctx.stagingMetadata.status = SlotStatus.active →
    s.ctx.stagingMetadata.magic = metadataMagic ∧
      s.ctx.stagingMetadata.version = s.ctx.activeVersion
  recorded : ∀ entry, s.nvm = some entry → JournalOf s entry

/-! ## Init -/

/-- A record whose trial is over: the next init rolls its image back. -/
def TrialOver (entry : FirmwareMetadata) : Prop :=
  entry.status = SlotStatus.active ∧ entry.maxAttempts < entry.bootAttempts + 1

instance (entry : FirmwareMetadata) : Decidable (TrialOver entry) :=
  inferInstanceAs (Decidable (_ ∧ _))

/-- The state in which a record leaves an init. -/
def resumed (s : Bootloader φ) (metadata : FirmwareMetadata) : Bootloader φ :=
  { s with ctx := { s.ctx with
    stagingMetadata := metadata
    activeVersion := metadata.version } }

theorem load_none {s : Bootloader φ} (h : ∀ entry, s.nvm = some entry → entry.magic ≠ metadataMagic) :
    bootloaderNvmLoadMetadata s = none := by
  unfold bootloaderNvmLoadMetadata
  split
  next => rfl
  next entry hentry =>
    refine if_neg fun hvalid => ?_
    exact h entry hentry (magic_of_validate hvalid)

theorem load_some {s : Bootloader φ} {metadata : FirmwareMetadata}
    (h : s.nvm = some (bootFinalizeMetadata metadata)) (hmagic : metadata.magic = metadataMagic) :
    bootloaderNvmLoadMetadata s = some (bootFinalizeMetadata metadata) := by
  unfold bootloaderNvmLoadMetadata
  rw [h]
  refine if_pos ?_
  rw [validate_finalize, hmagic]
  exact beq_self_eq_true _

/-- An init without a record that is valid. -/
theorem init_fresh {s : Bootloader φ} (target : UdsBootloaderTarget)
    (h : ∀ entry, s.nvm = some entry → entry.magic ≠ metadataMagic) :
    udsBootloaderInit s target = udsBootloaderSetTarget s target := by
  have hload : bootloaderNvmLoadMetadata (udsBootloaderSetTarget s target) = none := load_none h
  unfold udsBootloaderInit
  dsimp only
  rw [hload]

/-- An init with one. -/
theorem init_resumed {s : Bootloader φ} (target : UdsBootloaderTarget)
    {metadata : FirmwareMetadata} (h : s.nvm = some (bootFinalizeMetadata metadata))
    (hmagic : metadata.magic = metadataMagic) :
    udsBootloaderInit s target =
      if metadata.status = SlotStatus.active then
        let next := { bootFinalizeMetadata metadata with
          bootAttempts := metadata.bootAttempts + 1 }
        if metadata.maxAttempts < metadata.bootAttempts + 1 then
          (udsBootloaderRollbackCandidate (resumed (udsBootloaderSetTarget s target) next)).2
        else bootloaderNvmSaveMetadata (resumed (udsBootloaderSetTarget s target) next) next
      else resumed (udsBootloaderSetTarget s target) (bootFinalizeMetadata metadata) := by
  have hload : bootloaderNvmLoadMetadata (udsBootloaderSetTarget s target)
      = some (bootFinalizeMetadata metadata) := load_some h hmagic
  unfold udsBootloaderInit
  dsimp only
  rw [hload]
  rfl

/-- The metadata as it is saved next. -/
theorem saved_journaled {s : Bootloader φ} (hplaced : Placed s.ctx)
    (hmagic : s.ctx.stagingMetadata.magic = metadataMagic)
    (hversion : s.ctx.stagingMetadata.status = SlotStatus.active ∨
      s.ctx.stagingMetadata.status = SlotStatus.confirmed →
        s.ctx.stagingMetadata.version = s.ctx.activeVersion) :
    Journaled (bootloaderNvmSaveMetadata s s.ctx.stagingMetadata) := by
  refine ⟨hplaced, fun _ => hmagic, fun hactive => ⟨hmagic, hversion (.inl hactive)⟩, ?_⟩
  intro entry hentry
  obtain rfl := Option.some.inj hentry
  exact .staging hmagic rfl fun hconfirmed => hversion (.inr hconfirmed)

theorem rollback_journaled {s : Bootloader φ} (hplaced : Placed s.ctx) :
    Journaled (udsBootloaderRollbackCandidate s).2 := by
  refine ⟨⟨rfl, hplaced.targetSlot⟩, nofun, fun hactive => ?_, ?_⟩
  · exact absurd (show SlotStatus.rollback = _ from hactive) (by decide)
  intro entry hentry
  obtain rfl := Option.some.inj hentry
  by_cases hmagic : s.ctx.stagingMetadata.magic = metadataMagic
  · refine .staging hmagic rfl fun hconfirmed => ?_
    exact absurd (show SlotStatus.rollback = _ from hconfirmed) (by decide)
  · exact .nothing hmagic hmagic rfl

theorem init_journaled {s : Bootloader φ} (target : UdsBootloaderTarget)
    (h : ∀ entry, s.nvm = some entry → JournalOf s entry) :
    Journaled (udsBootloaderInit s target) := by
  by_cases hfresh : ∀ entry, s.nvm = some entry → entry.magic ≠ metadataMagic
  · rw [init_fresh target hfresh]
    refine ⟨⟨rfl, rfl⟩, nofun, fun hactive => ?_, ?_⟩
    · exact absurd (show SlotStatus.confirmed = _ from hactive) (by decide)
    · intro entry hentry
      exact .nothing (by decide : freshMetadata.magic ≠ metadataMagic) (hfresh entry hentry) rfl
  · obtain ⟨entry, hentry, hmagic⟩ : ∃ entry, s.nvm = some entry ∧ entry.magic = metadataMagic := by
      by_contra hnone
      exact hfresh fun entry hentry hmagic => hnone ⟨entry, hentry, hmagic⟩
    cases h entry hentry with
    | nothing hstaging hother hversion => exact absurd hmagic hother
    | staging hstaging heq hconfirmed =>
      rw [heq] at hentry
      rw [init_resumed target hentry hstaging]
      have hplaced : ∀ metadata, Placed (resumed (udsBootloaderSetTarget s target) metadata).ctx :=
        fun _ => ⟨rfl, rfl⟩
      split
      next =>
        dsimp only
        split
        next => exact rollback_journaled (hplaced _)
        next => exact saved_journaled (hplaced _) hstaging fun _ => rfl
      next =>
        refine ⟨hplaced _, nofun, fun _ => ⟨hstaging, rfl⟩, ?_⟩
        intro entry' hentry'
        exact .staging hstaging (Option.some.inj (hentry'.symm.trans hentry)) fun _ => rfl

/-! ## The invariant holds -/

theorem Aside.placed {s s' : Bootloader φ} (h : Aside s s') (hplaced : Placed s.ctx) :
    Placed s'.ctx := by
  obtain ⟨hactive, htarget⟩ := hplaced
  rw [← h.activeSlotAddr, ← h.target] at hactive
  rw [← h.targetSlotAddr, ← h.target] at htarget
  exact ⟨hactive, htarget⟩

theorem JournalOf.congr {s s' : Bootloader φ} {entry : FirmwareMetadata} (h : JournalOf s entry)
    (hstaging : s'.ctx.stagingMetadata = s.ctx.stagingMetadata)
    (hversion : s'.ctx.activeVersion = s.ctx.activeVersion) : JournalOf s' entry := by
  cases h with
  | staging magic entry_eq confirmed =>
    rw [← hstaging] at magic entry_eq confirmed
    rw [← hversion] at confirmed
    exact .staging magic entry_eq confirmed
  | nothing magic entry_magic version =>
    rw [← hstaging] at magic
    rw [← hversion] at version
    exact .nothing magic entry_magic version

theorem Journaled.aside {s s' : Bootloader φ} (h : Journaled s) (haside : Aside s s') :
    Journaled s' := by
  have hactive := h.active
  have hverified := h.verified
  rw [← haside.staging] at hactive hverified
  rw [← haside.activeVersion] at hactive
  refine ⟨haside.placed h.placed, fun hflag => hverified (haside.verified hflag), hactive, ?_⟩
  intro entry hentry
  rw [haside.nvm] at hentry
  exact (h.recorded entry hentry).congr haside.staging haside.activeVersion

theorem Journaled.congr {s s' : Bootloader φ} (h : Journaled s) (hctx : s'.ctx = s.ctx)
    (hnvm : s'.nvm = s.nvm) : Journaled s' := by
  refine ⟨hctx ▸ h.placed, hctx ▸ h.verified, hctx ▸ h.active, fun entry hentry => ?_⟩
  rw [hnvm] at hentry
  exact (h.recorded entry hentry).congr (congrArg _ hctx) (congrArg _ hctx)

/-- A candidate that is accepted has a valid header. -/
theorem judged_valid {s : Bootloader φ} {metadata : FirmwareMetadata}
    (h : judgeCandidate s metadata = none) : bootValidateMetadata metadata = true := by
  unfold judgeCandidate at h
  by_contra hinvalid
  rw [if_pos hinvalid] at h
  exact absurd h (by simp)

theorem Accepts.magic {s : Bootloader φ} {call : BootCall} {metadata : FirmwareMetadata}
    (h : Accepts s call metadata) : metadata.magic = metadataMagic :=
  magic_of_validate (judged_valid h.judged)

theorem raiseFloor_kept (s : Bootloader φ) :
    (raiseFloor s).2.ctx = s.ctx ∧ (raiseFloor s).2.nvm = s.nvm ∧
      (raiseFloor s).2.flash = s.flash := by
  obtain ⟨floorStore, floorFlash, hraised⟩ := raiseFloor_eq s
  rw [hraised]
  exact ⟨rfl, rfl, rfl⟩

theorem bootStep_journaled {s : Bootloader φ} (h : Journaled s) (call : BootCall) :
    Journaled (bootStep s call) := by
  have heffect := bootStep_effect s h.placed.lt call
  generalize bootStep s call = s' at heffect
  cases heffect with
  | aside haside => exact h.aside haside
  | accepted metadata haccepts =>
    have hmagic : metadata.magic = metadataMagic := haccepts.magic
    refine saved_journaled (s := { s with ctx := { s.ctx with
      stagingMetadata := { metadata with status := SlotStatus.candidate }
      candidateVerified := true
      lastCheckMemoryResult := 0x00
      lastCheckDependenciesResult := 0x00 } }) ⟨h.placed.activeSlot, h.placed.targetSlot⟩
      hmagic ?_
    -- a candidate is neither active nor confirmed
    rintro (hactive | hconfirmed)
    · exact absurd (show SlotStatus.candidate = _ from hactive) (by decide)
    · exact absurd (show SlotStatus.candidate = _ from hconfirmed) (by decide)
  | activated flash verified slotB ok =>
    have hmagic := h.verified verified
    refine saved_journaled (s := { s with flash := flash, ctx := { s.ctx with
      activeVersion := s.ctx.stagingMetadata.version
      stagingMetadata := { s.ctx.stagingMetadata with
        status := SlotStatus.active
        bootAttempts := 1
        maxAttempts := 3
        activeSlot := 0 }
      candidateVerified := false } }) ⟨h.placed.activeSlot, h.placed.targetSlot⟩ hmagic fun _ => rfl
  | confirmed active raised ok =>
    obtain ⟨hmagic, hversion⟩ := h.active active
    obtain ⟨hctx, -, -⟩ := raiseFloor_kept s
    have hplaced := h.placed
    rw [← hctx] at hplaced hmagic hversion
    exact saved_journaled (s := { (raiseFloor s).2 with ctx := { (raiseFloor s).2.ctx with
      stagingMetadata := { (raiseFloor s).2.ctx.stagingMetadata with
        status := SlotStatus.confirmed
        bootAttempts := 0 } } }) ⟨hplaced.activeSlot, hplaced.targetSlot⟩ hmagic fun _ => hversion
  | unconfirmed active raised =>
    obtain ⟨hctx, hnvm, -⟩ := raiseFloor_kept s
    exact h.congr hctx hnvm
  | rolledBack => exact rollback_journaled h.placed

theorem deviceStep_journaled (target : UdsBootloaderTarget) {s : Bootloader φ} (h : Journaled s)
    (call : DeviceCall φ) : Journaled (deviceStep target s call) := by
  cases call with
  | op call => exact bootStep_journaled h call
  | powerCycle floorStore floorFlash verifier =>
    have hattached : Journaled (attach s floorStore floorFlash verifier) := h.congr rfl rfl
    exact init_journaled target hattached.recorded
  | setVerificationMode mode =>
    exact ⟨⟨h.placed.activeSlot, h.placed.targetSlot⟩, h.verified, h.active,
      fun entry hentry => (h.recorded entry hentry).congr rfl rfl⟩
  | setSignatureRequired required =>
    exact h.congr rfl rfl

theorem reachable_journaled (target : UdsBootloaderTarget) (flash : MockFlash) (floorFlash : φ)
    (calls : List (DeviceCall φ)) :
    Journaled (run (deviceStep target) (factoryNew flash floorFlash target) calls) := by
  have hfactory : Journaled (factoryNew flash floorFlash target) :=
    init_journaled target fun entry hentry => absurd hentry (by simp)
  exact run_inv (I := Journaled) (fun _ call h => deviceStep_journaled target h call) hfactory calls

/-! ## What an init restores -/

/-- The record is that of an image that runs, or has its version. -/
def RestoresVersion (s : Bootloader φ) (entry : FirmwareMetadata) : Prop :=
  entry.magic ≠ metadataMagic ∨ entry.status = SlotStatus.active ∨
    entry.status = SlotStatus.confirmed ∨ entry.version = s.ctx.activeVersion

theorem Journaled.restores_iff {s : Bootloader φ} (h : Journaled s)
    (target : UdsBootloaderTarget) {entry : FirmwareMetadata} (hentry : s.nvm = some entry)
    (htrial : ¬TrialOver entry) :
    (udsBootloaderInit s target).ctx.activeVersion = s.ctx.activeVersion ↔
      RestoresVersion s entry := by
  cases h.recorded entry hentry with
  | nothing hstaging hother hversion =>
    rw [init_fresh target fun entry' hentry' => by
      rw [Option.some.inj (hentry'.symm.trans hentry)]; exact hother]
    exact iff_of_true hversion.symm (.inl hother)
  | staging hmagic heq hconfirmed =>
    -- the three statuses under which the record's version is the active one, or just the fourth
    have hrestores : RestoresVersion s entry ↔
        s.ctx.stagingMetadata.version = s.ctx.activeVersion := by
      rw [heq]
      refine ⟨?_, fun hversion => .inr (.inr (.inr hversion))⟩
      rintro (hother | hactive | hstatus | hversion)
      · exact absurd hmagic hother
      · exact (h.active hactive).2
      · exact hconfirmed hstatus
      · exact hversion
    rw [hrestores, init_resumed target (heq ▸ hentry) hmagic]
    split
    next hactive =>
      dsimp only
      split
      next hover => exact absurd ⟨heq ▸ hactive, heq ▸ hover⟩ htrial
      next => exact Iff.rfl
    next => exact Iff.rfl

/-- After any run that has saved a record, an init that does not end the record's trial
restores the active version exactly when the record is that of an image that runs, or has the
version of that image. -/
theorem journal_restores_iff (target : UdsBootloaderTarget) (flash : MockFlash) (floorFlash : φ)
    (calls : List (DeviceCall φ)) (entry : FirmwareMetadata)
    (hsaved : (run (deviceStep target) (factoryNew flash floorFlash target) calls).nvm
      = some entry)
    (htrial : ¬TrialOver entry) (floorStore : Option (UdsBootFloor φ)) (floorFlash' : φ)
    (verifier : Option (List UInt8 → List UInt8 → Bool)) :
    (run (deviceStep target) (factoryNew flash floorFlash target)
        (calls ++ [.powerCycle floorStore floorFlash' verifier])).ctx.activeVersion
      = (run (deviceStep target) (factoryNew flash floorFlash target) calls).ctx.activeVersion ↔
    RestoresVersion (run (deviceStep target) (factoryNew flash floorFlash target) calls)
      entry := by
  have hreached := reachable_journaled target flash floorFlash calls
  rw [run_concat]
  generalize run (deviceStep target) (factoryNew flash floorFlash target) calls = s at *
  have hattached : Journaled (attach s floorStore floorFlash' verifier) := hreached.congr rfl rfl
  exact hattached.restores_iff target hsaved htrial

/-! ### A candidate that has only been checked -/

/-- The arrays of the file as the startup code leaves them. -/
def blankFlash : MockFlash := ⟨fun _ => 0, fun _ => 0, 0, 0⟩

/-- The header of an image whose payload is a single zero byte. -/
def offered (version : UInt32) : FirmwareMetadata :=
  bootFinalizeMetadata { freshMetadata with
    magic := metadataMagic
    version := version
    imageSize := 129
    sha256 := sha256Hash [0x00] }

/-- The metadata as a request carries them. -/
def offeredBytes (version : UInt32) : List UInt8 :=
  (offered version).encodeHead ++ putU32Le (offered version).headerCrc32
    ++ (offered version).reserved

/-- A CheckMemory with that header. -/
def checkOffered (version : UInt32) : BootCall :=
  .routineControl subfunctionStartRoutine routineCheckMemoryId (offeredBytes version) 1

/-- Power comes back on a device without a floor store, whose verifier takes anything. -/
def restart : DeviceCall Unit := .powerCycle none () (some fun _ _ => true)

set_option maxRecDepth 20000 in
/-- A device that runs version 1 has checked version 5, without activating it, and reports
version 5 as the active one after a power cycle. -/
theorem journal_reports_candidate :
    ∃ entry, (run (deviceStep .stm32f767) (factoryNew blankFlash () .stm32f767)
        [restart, .op (checkOffered 5)]).nvm = some entry ∧
      ¬TrialOver entry ∧
      (run (deviceStep .stm32f767) (factoryNew blankFlash () .stm32f767)
        [restart, .op (checkOffered 5)]).ctx.activeVersion = 1 ∧
      (run (deviceStep .stm32f767) (factoryNew blankFlash () .stm32f767)
        [restart, .op (checkOffered 5), restart]).ctx.activeVersion = 5 := by
  refine ⟨bootFinalizeMetadata { offered 5 with status := SlotStatus.candidate }, ?_⟩
  decide +kernel

set_option maxRecDepth 20000 in
/-- The same device once the image has been activated. -/
theorem journal_restores_active :
    (run (deviceStep .stm32f767) (factoryNew blankFlash () .stm32f767)
        ([restart, .op (checkOffered 5), .op .activateCandidate] ++ [restart])).ctx.activeVersion
      = (run (deviceStep .stm32f767) (factoryNew blankFlash () .stm32f767)
        [restart, .op (checkOffered 5), .op .activateCandidate]).ctx.activeVersion := by
  have hactive : (bootFinalizeMetadata { offered 5 with
      status := SlotStatus.active
      bootAttempts := 1
      maxAttempts := 3 }).status = SlotStatus.active := rfl
  have hrestored := (journal_restores_iff .stm32f767 blankFlash ()
    [restart, .op (checkOffered 5), .op .activateCandidate] _ (by decide +kernel) (by decide +kernel)
    none () (some fun _ _ => true)).mpr (.inr (.inl hactive))
  unfold restart at hrestored ⊢
  exact hrestored

end UdsIsoTp.Boot
