import UdsIsoTp.Boot.Activation

/-!
# The reset of the application

`uds_app_ecu_reset_execute` of `uds_app.c`, on the STM32C092: a reset first activates the
candidate that is waiting, and jumps to its slot; if the jump returns, or nothing is waiting, the
platform is reset.

The result of the activation is thrown away, so the jump is made however the activation went.
Only with no candidate waiting on the STM32C092 is nothing but an activated image run, whatever
the flash does (`reset_runs_activated_iff`).
-/

namespace UdsIsoTp.App

open UdsIsoTp.Boot UdsIsoTp.Boot.Hal

variable {φ η : Type}

/-- How a reset leaves the running program. -/
inductive ResetEnding where
  | application (msp entry : UInt32)
  | systemReset (subfunction : UInt8)
  deriving DecidableEq, Repr

/-- The calls of `uds_bootloader_jump_to_app` that a reset makes, and how it ends. -/
structure ResetRun where
  jumps : List UInt32
  ending : ResetEnding
  deriving DecidableEq, Repr

/-- The jump to a slot; if it returns, the platform is reset. -/
def jumpOrReset (hal : HalFlash η) (s : HalBootloader φ η) (appVectorAddr : UInt32)
    (subfunction : UInt8) : ResetRun where
  jumps := [appVectorAddr]
  ending :=
    match udsBootloaderJumpToApp hal s appVectorAddr with
    | some (msp, entry) => .application msp entry
    | none => .systemReset subfunction

/-- `uds_app_ecu_reset_execute`: activates an image that waits, then jumps or resets. -/
def udsAppEcuResetExecute (hal : HalFlash η) (s : HalBootloader φ η) (subfunction : UInt8) :
    ResetRun × HalBootloader φ η :=
  if udsBootloaderIsActivationPending s then
    if udsBootloaderGetTarget s = .stm32c092 then
      let (_, s) := udsBootloaderActivateCandidate hal s
      (jumpOrReset hal s C092.appSlotAStart subfunction, s)
    else
      let (_, s) := udsBootloaderActivateCandidate hal s
      (jumpOrReset hal s F767.appSlotBStart subfunction, s)
  else (⟨[], .systemReset subfunction⟩, s)

/-! ## What is run -/

/-- Where a candidate waits on the STM32C092, slot A is only jumped to if the activation has
succeeded, and then it holds the candidate. -/
def RunsActivated (hal : HalFlash η) (s : HalBootloader φ η) (subfunction : UInt8) : Prop :=
  udsBootloaderIsActivationPending s = true → udsBootloaderGetTarget s = .stm32c092 →
    C092.appSlotAStart ∈ (udsAppEcuResetExecute hal s subfunction).1.jumps →
      (udsBootloaderActivateCandidate hal s).1 = .ok ∧
        ReadsBack hal s (udsAppEcuResetExecute hal s subfunction).2.flash

/-- A reset jumps to slot A wherever a candidate waits. -/
theorem reset_jumps {hal : HalFlash η} {s : HalBootloader φ η} {subfunction : UInt8}
    (hpending : udsBootloaderIsActivationPending s = true)
    (htarget : udsBootloaderGetTarget s = .stm32c092) :
    udsAppEcuResetExecute hal s subfunction
      = (jumpOrReset hal (udsBootloaderActivateCandidate hal s).2 C092.appSlotAStart subfunction,
        (udsBootloaderActivateCandidate hal s).2) := by
  unfold udsAppEcuResetExecute
  rw [if_pos hpending, if_pos htarget]

/-- So it runs nothing but an activated image exactly if the activation succeeds. -/
theorem runsActivated_iff {hal : HalFlash η} {s : HalBootloader φ η} {subfunction : UInt8} :
    RunsActivated hal s subfunction ↔
      (s.ctx.candidateVerified = true → s.ctx.target = .stm32c092 →
        (udsBootloaderActivateCandidate hal s).1 = .ok) := by
  constructor
  · intro hruns hpending htarget
    have hjump : C092.appSlotAStart ∈ (udsAppEcuResetExecute hal s subfunction).1.jumps := by
      rw [reset_jumps hpending htarget]
      exact List.mem_singleton.mpr rfl
    exact (hruns hpending htarget hjump).1
  · intro hgood hpending htarget _
    have hok := hgood hpending htarget
    refine ⟨hok, ?_⟩
    rw [reset_jumps hpending htarget, activate_left htarget hok]
    exact ((activate_ok_iff htarget).mp hok).2.2.2.2.2

/-- The candidate is longer than its header and fits slot A, slot B holds what its metadata stands
for, and the last erase routine did not fail. -/
structure Copyable (hal : HalFlash η) (s : HalBootloader φ η) : Prop where
  sized : metadataSize < s.ctx.stagingMetadata.imageSize.toNat
  fits : s.ctx.stagingMetadata.imageSize ≤ s.ctx.activeSlotSize
  digested : Digested s.ctx.verifyMode s.ctx.stagingMetadata
    (candidatePayload hal s s.ctx.stagingMetadata)
  lastErase : s.ctx.lastEraseResult = 0

/-- A flash that reports no failure leaves the activation to what was in the state before it. -/
theorem activate_copyable_iff {hal : HalFlash η} (hdoc : hal.Documented) (hworks : hal.Flawless)
    {s : HalBootloader φ η} (hplaced : OnC092 s.ctx) :
    (udsBootloaderActivateCandidate hal s).1 = .ok ↔
      s.ctx.candidateVerified = true ∧ Copyable hal s := by
  have hops := hworks.succeeds s
  rw [activate_ok_iff hplaced.target]
  constructor
  · rintro ⟨hpending, -, hfits, -, hlast, hread⟩
    obtain ⟨hsized, hdigested⟩ := (readsBack_iff hdoc hplaced hfits hops).mp hread
    exact ⟨hpending, hsized, hfits, hdigested, hlast⟩
  · rintro ⟨hpending, h⟩
    have hread := (readsBack_iff hdoc hplaced h.fits hops).mpr ⟨h.sized, h.digested⟩
    exact ⟨hpending, imageSize_ne_zero h.sized, h.fits, hops, h.lastErase, hread⟩

/-- A flash whose operations all report an error. -/
def stuckFlash (read : η → Buf) : HalFlash η where
  unlock := id
  lock := id
  busy _ := false
  allErrors _ := false
  clearErrors := id
  erase w _ _ := (false, w)
  program w _ _ := (false, w)
  read := read

theorem stuckFlash_fails (read : η → Buf) {s : HalBootloader φ η}
    (htarget : s.ctx.target = .stm32c092) :
    (udsBootloaderActivateCandidate (stuckFlash read) s).1 ≠ .ok := fun hok =>
  UdsDownloadResult.noConfusion ((activate_ok_iff htarget).mp hok).2.2.2.1.erased

/-- Whatever the operations of the flash come to, a reset runs nothing but an activated image:
that is so exactly if no candidate waits on the STM32C092. With a flash that reports no failure
it is so exactly if a candidate that waits can be copied. -/
theorem reset_runs_activated_iff (s : HalBootloader φ η) (subfunction : UInt8) :
    ((∀ hal : HalFlash η, RunsActivated hal s subfunction) ↔
        ¬(s.ctx.candidateVerified = true ∧ s.ctx.target = .stm32c092)) ∧
      ∀ hal : HalFlash η, hal.Documented → hal.Flawless → OnC092 s.ctx →
        (RunsActivated hal s subfunction ↔
          (s.ctx.candidateVerified = true → Copyable hal s)) := by
  refine ⟨⟨fun hruns ⟨hpending, htarget⟩ => ?_, fun hnone hal => ?_⟩,
    fun hal hdoc hworks hplaced => ?_⟩
  · have hstuck := hruns (stuckFlash fun _ _ => 0xFF)
    exact stuckFlash_fails _ htarget (runsActivated_iff.mp hstuck hpending htarget)
  · exact runsActivated_iff.mpr fun hpending htarget => absurd ⟨hpending, htarget⟩ hnone
  · rw [runsActivated_iff, activate_copyable_iff hdoc hworks hplaced]
    exact ⟨fun h hpending => (h hpending hplaced.target).2,
      fun h hpending _ => ⟨hpending, h hpending⟩⟩

set_option maxRecDepth 20000 in
/-- One byte behind the header, on a flash that does its work. -/
theorem reset_runs_oneByte :
    RunsActivated workingFlash (checkedImage 129 0xFF000000) 0x01 ∧
      (udsBootloaderActivateCandidate workingFlash (checkedImage 129 0xFF000000)).1 = .ok := by
  have hok : (udsBootloaderActivateCandidate workingFlash (checkedImage 129 0xFF000000)).1 = .ok := by
    decide +kernel
  have hcopyable := (activate_copyable_iff workingFlash_documented workingFlash_flawless
    oneByte_placed).mp hok
  exact ⟨((reset_runs_activated_iff (checkedImage 129 0xFF000000) 0x01).2 workingFlash
    workingFlash_documented workingFlash_flawless oneByte_placed).mpr fun _ => hcopyable.2, hok⟩

/-! ### An erase that fails -/

/-- An application that has the vector table of one in slot A, and one byte waiting behind the
header in slot B. -/
def waiting : HalBootloader Unit Buf :=
  let vectors : List UInt8 := [0x00, 0x10, 0x00, 0x20, 0x01, 0xA1, 0x00, 0x08]
  (routineCheckMemory (stuckFlash id)
    { checksummed with flash := fun a => vectors.getD (a - C092.appSlotAStart.toNat) 0xFF }
    subfunctionStartRoutine (imageHeader 129 0xFF000000)).2.2

set_option maxRecDepth 20000 in
/-- The erase of slot A fails, and the reset enters the application in it all the same. -/
theorem reset_runs_failed :
    (udsBootloaderActivateCandidate (stuckFlash id) waiting).1 = .eraseError ∧
      (udsAppEcuResetExecute (stuckFlash id) waiting 0x01).1
        = ⟨[C092.appSlotAStart], .application 0x20001000 0x0800A101⟩ ∧
      ¬RunsActivated (stuckFlash id) waiting 0x01 := by
  -- one evaluation of the reset for all that is asked of it
  obtain ⟨hfailed, hentered, hpending, htarget⟩ :
      (udsBootloaderActivateCandidate (stuckFlash id) waiting).1 = .eraseError ∧
        (udsAppEcuResetExecute (stuckFlash id) waiting 0x01).1
          = ⟨[C092.appSlotAStart], .application 0x20001000 0x0800A101⟩ ∧
        waiting.ctx.candidateVerified = true ∧ waiting.ctx.target = .stm32c092 := by
    decide +kernel
  refine ⟨hfailed, hentered, fun hruns => ?_⟩
  have hjump : C092.appSlotAStart ∈ (udsAppEcuResetExecute (stuckFlash id) waiting 0x01).1.jumps := by
    rw [hentered]
    exact List.mem_singleton.mpr rfl
  obtain ⟨hok, -⟩ := hruns hpending htarget hjump
  rw [hfailed] at hok
  exact UdsDownloadResult.noConfusion hok

end UdsIsoTp.App
