import UdsIsoTp.Lib.Run
import UdsIsoTp.Boot.Bootloader
import UdsIsoTp.Boot.DownloadSteps

/-!
# What the bootloader's operations do

The operations that reach the bootloader, and what each does to the state that decides which
image runs: the staging metadata, the journal, the active version, the verified flag, the
floor. Only four of them touch it (`BootEffect`): a CheckMemory that accepts its candidate, an
activation, a confirmation and a rollback. The rest leaves it alone, or drops the flag.
-/

namespace UdsIsoTp.Boot

open UdsIsoTp.Uds UdsIsoTp.Flash

variable {φ : Type}

/-- The operations of the bootloader. -/
inductive BootCall where
  | requestDownload (address length now : UInt32)
  | transferData (blockSequence : UInt8) (data : Option Buf) (length : UInt16) (now : UInt32)
  | transferExit (request : List UInt8) (now : UInt32)
  | routineControl (subfunction : UInt8) (routineId : UInt16) (input : List UInt8)
      (capacity : UInt16)
  | activateCandidate
  | confirmActiveImage
  | rollbackCandidate

/-- One operation. -/
def bootStep (s : Bootloader φ) : BootCall → Bootloader φ
  | .requestDownload address length now => (udsBootloaderRequestDownload s address length now).2.2
  | .transferData block data length now => (udsBootloaderTransferData s block data length now).2
  | .transferExit request now => (udsBootloaderTransferExit s request now).2.2
  | .routineControl subfunction routineId input capacity =>
    (udsBootloaderRoutineControl s subfunction routineId input capacity).2.2
  | .activateCandidate => (udsBootloaderActivateCandidate s).2
  | .confirmActiveImage => (udsBootloaderConfirmActiveImage s).2
  | .rollbackCandidate => (udsBootloaderRollbackCandidate s).2

/-- Nothing has changed that decides which image runs, unless the flag has been dropped. -/
structure Aside (s s' : Bootloader φ) : Prop where
  staging : s'.ctx.stagingMetadata = s.ctx.stagingMetadata
  activeVersion : s'.ctx.activeVersion = s.ctx.activeVersion
  verified : s'.ctx.candidateVerified = true → s.ctx.candidateVerified = true
  target : s'.ctx.target = s.ctx.target
  targetSlotAddr : s'.ctx.targetSlotAddr = s.ctx.targetSlotAddr
  targetSlotSize : s'.ctx.targetSlotSize = s.ctx.targetSlotSize
  activeSlotAddr : s'.ctx.activeSlotAddr = s.ctx.activeSlotAddr
  verifyMode : s'.ctx.verifyMode = s.ctx.verifyMode
  nvm : s'.nvm = s.nvm
  floorStore : s'.floorStore = s.floorStore
  floorFlash : s'.floorFlash = s.floorFlash
  signatureVerifier : s'.signatureVerifier = s.signatureVerifier
  signatureRequired : s'.signatureRequired = s.signatureRequired

theorem Aside.refl (s : Bootloader φ) : Aside s s :=
  ⟨rfl, rfl, id, rfl, rfl, rfl, rfl, rfl, rfl, rfl, rfl, rfl, rfl⟩

/-- The call is a CheckMemory that accepts the metadata. -/
def Accepts (s : Bootloader φ) : BootCall → FirmwareMetadata → Prop
  | .routineControl subfunction routineId input capacity, metadata =>
    subfunction = subfunctionStartRoutine ∧ routineId = routineCheckMemoryId ∧ ¬capacity < 1 ∧
      candidateMetadata s input = some metadata ∧ judgeCandidate s metadata = none
  | _, _ => False

theorem Accepts.judged {s : Bootloader φ} {call : BootCall} {metadata : FirmwareMetadata}
    (h : Accepts s call metadata) : judgeCandidate s metadata = none := by
  cases call with
  | routineControl subfunction routineId input capacity =>
    obtain ⟨-, -, -, -, hjudged⟩ := h
    exact hjudged
  | _ => exact h.elim

/-- What a call does, with the state it leaves. -/
inductive BootEffect (s : Bootloader φ) : BootCall → Bootloader φ → Prop
  | aside {call : BootCall} {s' : Bootloader φ} (h : Aside s s') : BootEffect s call s'
  | accepted {call : BootCall} (metadata : FirmwareMetadata) (h : Accepts s call metadata) :
      BootEffect s call (acceptCandidate s metadata)
  | activated (flash : MockFlash) (verified : s.ctx.candidateVerified = true)
      (slotB : flash.slotB = s.flash.slotB) (ok : (udsBootloaderActivateCandidate s).1 = .ok) :
      BootEffect s .activateCandidate (markActive { s with flash := flash })
  | confirmed (active : s.ctx.stagingMetadata.status = SlotStatus.active)
      (raised : (raiseFloor s).1 = true) (ok : (udsBootloaderConfirmActiveImage s).1 = .ok) :
      BootEffect s .confirmActiveImage (markConfirmed (raiseFloor s).2)
  | unconfirmed (active : s.ctx.stagingMetadata.status = SlotStatus.active)
      (raised : (raiseFloor s).1 = false) :
      BootEffect s .confirmActiveImage (raiseFloor s).2
  | rolledBack : BootEffect s .rollbackCandidate (udsBootloaderRollbackCandidate s).2

/-! ## Downloads -/

theorem requestDownload_aside (s : Bootloader φ) (address length now : UInt32) :
    Aside s (udsBootloaderRequestDownload s address length now).2.2 := by
  unfold udsBootloaderRequestDownload
  split
  next => exact .refl s
  next =>
    dsimp only
    split
    next => exact ⟨rfl, rfl, id, rfl, rfl, rfl, rfl, rfl, rfl, rfl, rfl, rfl, rfl⟩
    next => exact ⟨rfl, rfl, nofun, rfl, rfl, rfl, rfl, rfl, rfl, rfl, rfl, rfl, rfl⟩

theorem transferData_aside (s : Bootloader φ) (block : UInt8) (data : Option Buf)
    (length : UInt16) (now : UInt32) :
    Aside s (udsBootloaderTransferData s block data length now).2 := by
  unfold udsBootloaderTransferData runDownload
  split
  next => exact .refl s
  next =>
    dsimp only
    split <;> split <;>
      exact ⟨rfl, rfl, id, rfl, rfl, rfl, rfl, rfl, rfl, rfl, rfl, rfl, rfl⟩

theorem transferExit_aside (s : Bootloader φ) (request : List UInt8) (now : UInt32) :
    Aside s (udsBootloaderTransferExit s request now).2.2 := by
  unfold udsBootloaderTransferExit runDownload
  split
  next => exact .refl s
  next =>
    dsimp only
    split <;> exact ⟨rfl, rfl, id, rfl, rfl, rfl, rfl, rfl, rfl, rfl, rfl, rfl, rfl⟩

/-! ## Routines -/

theorem eraseMemory_aside (s : Bootloader φ) (subfunction : UInt8) (input : List UInt8) :
    Aside s (routineEraseMemory s subfunction input).2.2 := by
  unfold routineEraseMemory
  split
  next => exact .refl s
  next => exact ⟨rfl, rfl, id, rfl, rfl, rfl, rfl, rfl, rfl, rfl, rfl, rfl, rfl⟩

theorem checkDependencies_aside (s : Bootloader φ) (subfunction : UInt8) (input : List UInt8) :
    Aside s (routineCheckDependencies s subfunction input).2.2 := by
  unfold routineCheckDependencies
  split
  next => exact .refl s
  next => exact ⟨rfl, rfl, id, rfl, rfl, rfl, rfl, rfl, rfl, rfl, rfl, rfl, rfl⟩

/-- CheckMemory accepts the candidate that nothing stands against, or changes nothing. -/
theorem checkMemory_cases (s : Bootloader φ) (subfunction : UInt8) (input : List UInt8) :
    Aside s (routineCheckMemory s subfunction input).2.2 ∧
        (routineCheckMemory s subfunction input).2.2.flash = s.flash ∨
      subfunction ≠ subfunctionRequestResults ∧
        ∃ metadata, candidateMetadata s input = some metadata ∧ judgeCandidate s metadata = none ∧
          (routineCheckMemory s subfunction input).2.2 = acceptCandidate s metadata := by
  unfold routineCheckMemory
  split
  next => exact .inl ⟨.refl s, rfl⟩
  next hstart =>
    split
    next =>
      exact .inl ⟨⟨rfl, rfl, id, rfl, rfl, rfl, rfl, rfl, rfl, rfl, rfl, rfl, rfl⟩, rfl⟩
    next metadata hcandidate =>
      split
      next =>
        exact .inl ⟨⟨rfl, rfl, id, rfl, rfl, rfl, rfl, rfl, rfl, rfl, rfl, rfl, rfl⟩, rfl⟩
      next hjudged => exact .inr ⟨hstart, metadata, hcandidate, hjudged, rfl⟩

/-- Which routine a request asks for, if it is well formed. -/
theorem routineControl_cases (s : Bootloader φ) (subfunction : UInt8) (routineId : UInt16)
    (input : List UInt8) (capacity : UInt16) :
    (udsBootloaderRoutineControl s subfunction routineId input capacity).2.2 = s ∨
      (subfunction = subfunctionStartRoutine ∨ subfunction = subfunctionRequestResults) ∧
        ¬capacity < 1 ∧
        (routineId = routineEraseMemoryId ∧
            udsBootloaderRoutineControl s subfunction routineId input capacity
              = routineEraseMemory s subfunction input ∨
          routineId = routineCheckMemoryId ∧
            udsBootloaderRoutineControl s subfunction routineId input capacity
              = routineCheckMemory s subfunction input ∨
          routineId = routineCheckDependenciesId ∧
            udsBootloaderRoutineControl s subfunction routineId input capacity
              = routineCheckDependencies s subfunction input) := by
  unfold udsBootloaderRoutineControl
  split
  next => exact .inl rfl
  next hformed =>
    have hsub : subfunction = subfunctionStartRoutine ∨
        subfunction = subfunctionRequestResults := by
      by_contra hneither
      exact hformed (.inl (not_or.mp hneither))
    split
    next => exact .inl rfl
    next entry hfind =>
      have hid : entry.1 = routineId := by simpa using List.find?_some hfind
      have hmem := List.mem_of_find?_eq_some hfind
      right
      refine ⟨hsub, fun hcapacity => hformed (.inr hcapacity), ?_⟩
      simp only [bootRoutines, List.mem_cons, List.not_mem_nil, or_false] at hmem
      rcases hmem with rfl | rfl | rfl
      · exact .inl ⟨hid.symm, rfl⟩
      · exact .inr (.inl ⟨hid.symm, rfl⟩)
      · exact .inr (.inr ⟨hid.symm, rfl⟩)

/-! ## Every call -/

/-- The copy to slot A leaves everything but the flash alone, and slot B with it. -/
theorem copyCandidate_flash (s : Bootloader φ) (imageSize slotAAddr : UInt32)
    (hslot : slotAAddr < s.ctx.targetSlotAddr) :
    ∃ flash, flash.slotB = s.flash.slotB ∧
      (c092CopyCandidateToSlotA s imageSize slotAAddr).2 = { s with flash := flash } := by
  have haddr : ¬s.ctx.targetSlotAddr ≤ slotAAddr := UInt32.not_le.mpr hslot
  have hprogram : ∀ (flash : MockFlash) (data : List UInt8),
      (mockFlashProgram s.ctx flash slotAAddr data).slotB = flash.slotB := by
    intro flash data
    unfold mockFlashProgram
    generalize (if s.ctx.activeSlotAddr ≤ slotAAddr then slotAAddr - s.ctx.activeSlotAddr else 0)
      = offset
    dsimp only
    rw [if_neg haddr]
    split
    next => rfl
    next => split <;> rfl
  unfold c092CopyCandidateToSlotA bootloaderFlashEraseStart
  generalize (if mockFlashSize < imageSize then mockFlashSize else imageSize) = copyLen
  rw [if_neg haddr]
  dsimp only
  rw [if_neg (by simp)]
  split
  next => exact ⟨{ s.flash with slotALen := 0, slotA := fun _ => 0xFF }, rfl, rfl⟩
  next =>
    unfold bootloaderFlashProgram
    dsimp only
    rw [if_neg (by simp)]
    refine ⟨mockFlashProgram s.ctx { s.flash with slotALen := 0, slotA := fun _ => 0xFF } slotAAddr
      (s.flash.slotB.slice 0 copyLen.toNat), hprogram _ _, ?_⟩
    split <;> rfl

theorem activate_effect (s : Bootloader φ) (hslots : s.ctx.activeSlotAddr < s.ctx.targetSlotAddr) :
    ∃ flash, flash.slotB = s.flash.slotB ∧
      ((udsBootloaderActivateCandidate s).1 ≠ .ok ∧
          (udsBootloaderActivateCandidate s).2 = { s with flash := flash } ∨
        (udsBootloaderActivateCandidate s).1 = .ok ∧ s.ctx.candidateVerified = true ∧
          (udsBootloaderActivateCandidate s).2 = markActive { s with flash := flash }) := by
  unfold udsBootloaderActivateCandidate
  split
  next => exact ⟨s.flash, rfl, .inl ⟨by simp, rfl⟩⟩
  next hverified =>
    have hverified := not_not.mp hverified
    split
    next =>
      dsimp only
      split
      next => exact ⟨s.flash, rfl, .inl ⟨by simp, rfl⟩⟩
      next =>
        obtain ⟨flash, hslotB, hcopied⟩ :=
          copyCandidate_flash s s.ctx.stagingMetadata.imageSize s.ctx.activeSlotAddr hslots
        split
        next hfailed => exact ⟨flash, hslotB, .inl ⟨hfailed, hcopied⟩⟩
        next => exact ⟨flash, hslotB, .inr ⟨rfl, hverified, congrArg markActive hcopied⟩⟩
    next => exact ⟨s.flash, rfl, .inr ⟨rfl, hverified, rfl⟩⟩

/-- Raising the floor touches nothing but the floor. -/
theorem raiseFloor_eq (s : Bootloader φ) :
    ∃ floorStore floorFlash, (raiseFloor s).2 =
      { s with floorStore := floorStore, floorFlash := floorFlash } := by
  unfold raiseFloor
  split
  next => exact ⟨_, _, rfl⟩
  next => exact ⟨_, _, rfl⟩

theorem confirm_effect (s : Bootloader φ) :
    (udsBootloaderConfirmActiveImage s).1 ≠ .ok ∧ (udsBootloaderConfirmActiveImage s).2 = s ∨
      s.ctx.stagingMetadata.status = SlotStatus.active ∧
        ((udsBootloaderConfirmActiveImage s).1 ≠ .ok ∧ (raiseFloor s).1 = false ∧
            (udsBootloaderConfirmActiveImage s).2 = (raiseFloor s).2 ∨
          (udsBootloaderConfirmActiveImage s).1 = .ok ∧ (raiseFloor s).1 = true ∧
            (udsBootloaderConfirmActiveImage s).2 = markConfirmed (raiseFloor s).2) := by
  unfold udsBootloaderConfirmActiveImage
  split
  next => exact .inl ⟨by simp, rfl⟩
  next hactive =>
    refine .inr ⟨not_not.mp hactive, ?_⟩
    dsimp only
    split
    next hfailed => exact .inl ⟨by simp, eq_false_of_ne_true hfailed, rfl⟩
    next hraised => exact .inr ⟨rfl, not_not.mp hraised, rfl⟩

/-- A CheckMemory that has nothing against its candidate accepts it. -/
theorem bootStep_accepts {s : Bootloader φ} {call : BootCall} {metadata : FirmwareMetadata}
    (h : Accepts s call metadata) : bootStep s call = acceptCandidate s metadata := by
  cases call with
  | routineControl subfunction routineId input capacity =>
    obtain ⟨rfl, rfl, hcapacity, hcandidate, hjudged⟩ := h
    show (udsBootloaderRoutineControl s _ _ input capacity).2.2 = _
    unfold udsBootloaderRoutineControl
    rw [if_neg (by simp [hcapacity])]
    show (routineCheckMemory s subfunctionStartRoutine input).2.2 = _
    unfold routineCheckMemory
    rw [if_neg (by decide), hcandidate]
    dsimp only
    rw [hjudged]
  | _ => exact h.elim

theorem bootStep_effect (s : Bootloader φ) (hslots : s.ctx.activeSlotAddr < s.ctx.targetSlotAddr)
    (call : BootCall) : BootEffect s call (bootStep s call) := by
  cases call with
  | requestDownload address length now => exact .aside (requestDownload_aside s address length now)
  | transferData block data length now => exact .aside (transferData_aside s block data length now)
  | transferExit request now => exact .aside (transferExit_aside s request now)
  | routineControl subfunction routineId input capacity =>
    show BootEffect s _ (udsBootloaderRoutineControl s subfunction routineId input capacity).2.2
    obtain hsame | ⟨hsub, hcapacity, ⟨-, hrun⟩ | ⟨hid, hrun⟩ | ⟨-, hrun⟩⟩ :=
      routineControl_cases s subfunction routineId input capacity
    · rw [hsame]
      exact .aside (.refl s)
    · rw [hrun]
      exact .aside (eraseMemory_aside s subfunction input)
    · rw [hrun]
      obtain ⟨haside, -⟩ | ⟨hstart, metadata, hcandidate, hjudged, haccepted⟩ :=
        checkMemory_cases s subfunction input
      · exact .aside haside
      · rw [haccepted]
        exact .accepted metadata
          ⟨hsub.resolve_right hstart, hid, hcapacity, hcandidate, hjudged⟩
    · rw [hrun]
      exact .aside (checkDependencies_aside s subfunction input)
  | activateCandidate =>
    show BootEffect s _ (udsBootloaderActivateCandidate s).2
    obtain ⟨flash, hslotB, ⟨-, hfailed⟩ | ⟨hok, hverified, hactive⟩⟩ := activate_effect s hslots
    · rw [hfailed]
      exact .aside ⟨rfl, rfl, id, rfl, rfl, rfl, rfl, rfl, rfl, rfl, rfl, rfl, rfl⟩
    · rw [hactive]
      exact .activated flash hverified hslotB hok
  | confirmActiveImage =>
    show BootEffect s _ (udsBootloaderConfirmActiveImage s).2
    obtain ⟨-, hsame⟩ | ⟨hactive, ⟨-, hraised, hout⟩ | ⟨hok, hraised, hout⟩⟩ := confirm_effect s
    · rw [hsame]
      exact .aside (.refl s)
    · rw [hout]
      exact .unconfirmed hactive hraised
    · rw [hout]
      exact .confirmed hactive hraised hok
  | rollbackCandidate => exact .rolledBack

end UdsIsoTp.Boot
