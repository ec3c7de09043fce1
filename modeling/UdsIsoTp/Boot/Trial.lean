import UdsIsoTp.Boot.Journal

/-!
# The trial of an activated image

An image that has been activated is on trial until it is confirmed: each init counts an
attempt in the staging metadata and in its record, and the init that finds all three used up
rolls the image back.

The count is only kept as long as the record is (`Pending`). A CheckMemory that accepts a
candidate in the meantime overwrites both, and the trial is never over (`Superseded`).
`rolls_back_iff` says that nothing else gets in the way of the rollback, but for an image of
version 1, which a rollback does not tell from the image it returns to.
-/

namespace UdsIsoTp.Boot

open UdsIsoTp.Uds UdsIsoTp.Flash

variable {φ : Type}

/-- Power goes and comes back. -/
def DeviceCall.isPowerCycle : DeviceCall φ → Bool
  | .powerCycle .. => true
  | _ => false

/-- The call neither confirms an image, nor activates or rolls one back. -/
def KeepsTrial (s : Bootloader φ) : DeviceCall φ → Prop
  | .op .activateCandidate => (udsBootloaderActivateCandidate s).1 ≠ .ok
  | .op .confirmActiveImage => (udsBootloaderConfirmActiveImage s).1 ≠ .ok
  | .op .rollbackCandidate => False
  | _ => True

/-- The call is not a CheckMemory that accepts a candidate. -/
def AcceptsNone (s : Bootloader φ) : DeviceCall φ → Prop
  | .op call => ∀ metadata, ¬Accepts s call metadata
  | _ => True

/-- The staging metadata is a valid image's, and the journal's. -/
structure Saved (s : Bootloader φ) : Prop where
  placed : Placed s.ctx
  magic : s.ctx.stagingMetadata.magic = metadataMagic
  nvm : s.nvm = some (bootFinalizeMetadata s.ctx.stagingMetadata)

/-- The image is on trial, and `n` of the three inits are behind it. -/
structure Pending (version : UInt32) (n : Nat) (s : Bootloader φ) : Prop extends Saved s where
  status : s.ctx.stagingMetadata.status = SlotStatus.active
  version_eq : s.ctx.stagingMetadata.version = version
  attempts : s.ctx.stagingMetadata.bootAttempts = UInt8.ofNat (n + 1)
  maximum : s.ctx.stagingMetadata.maxAttempts = 3

/-- A candidate has taken the record over. -/
structure Superseded (s : Bootloader φ) : Prop extends Saved s where
  status : s.ctx.stagingMetadata.status = SlotStatus.candidate

/-! ## What keeps the metadata -/

theorem Saved.congr {s s' : Bootloader φ} (h : Saved s) (hplaced : Placed s'.ctx)
    (hstaging : s'.ctx.stagingMetadata = s.ctx.stagingMetadata) (hnvm : s'.nvm = s.nvm) :
    Saved s' := by
  refine ⟨hplaced, ?_, ?_⟩
  · rw [hstaging, h.magic]
  · rw [hnvm, hstaging, h.nvm]

theorem Pending.congr {version : UInt32} {n : Nat} {s s' : Bootloader φ}
    (h : Pending version n s) (hplaced : Placed s'.ctx)
    (hstaging : s'.ctx.stagingMetadata = s.ctx.stagingMetadata) (hnvm : s'.nvm = s.nvm) :
    Pending version n s' := by
  refine ⟨h.toSaved.congr hplaced hstaging hnvm, ?_, ?_, ?_, ?_⟩ <;> rw [hstaging]
  exacts [h.status, h.version_eq, h.attempts, h.maximum]

theorem Superseded.congr {s s' : Bootloader φ} (h : Superseded s) (hplaced : Placed s'.ctx)
    (hstaging : s'.ctx.stagingMetadata = s.ctx.stagingMetadata) (hnvm : s'.nvm = s.nvm) :
    Superseded s' :=
  ⟨h.toSaved.congr hplaced hstaging hnvm, hstaging ▸ h.status⟩

theorem accepted_superseded {s : Bootloader φ} {call : BootCall} {metadata : FirmwareMetadata}
    (hplaced : Placed s.ctx) (h : Accepts s call metadata) :
    Superseded (bootStep s call) := by
  have hmagic : metadata.magic = metadataMagic := h.magic
  rw [bootStep_accepts h]
  exact ⟨⟨⟨hplaced.activeSlot, hplaced.targetSlot⟩, hmagic, rfl⟩, rfl⟩

/-- A call that neither ends the trial nor accepts a candidate keeps the metadata and the
record, and so does every call that is not an operation. -/
theorem keepsTrial_step {s : Bootloader φ} (hplaced : Placed s.ctx) (call : BootCall)
    (htrial : KeepsTrial s (.op call)) (hnone : AcceptsNone s (.op call)) :
    Placed (bootStep s call).ctx ∧
      (bootStep s call).ctx.stagingMetadata = s.ctx.stagingMetadata ∧
      (bootStep s call).nvm = s.nvm := by
  have heffect := bootStep_effect s hplaced.lt call
  generalize bootStep s call = s' at heffect
  cases heffect with
  | aside haside => exact ⟨haside.placed hplaced, haside.staging, haside.nvm⟩
  | accepted metadata haccepts => exact absurd haccepts (hnone metadata)
  | activated flash verified slotB ok => exact absurd ok htrial
  | confirmed active raised ok => exact absurd ok htrial
  | unconfirmed active raised =>
    obtain ⟨hctx, hnvm, -⟩ := raiseFloor_kept s
    exact ⟨hctx ▸ hplaced, congrArg _ hctx, hnvm⟩
  | rolledBack => exact htrial.elim

/-! ## One step -/

theorem activate_pending {s : Bootloader φ} (h : Journaled s)
    (hok : (udsBootloaderActivateCandidate s).1 = .ok) :
    Pending s.ctx.stagingMetadata.version 0 (udsBootloaderActivateCandidate s).2 := by
  obtain ⟨flash, -, ⟨hfailed, -⟩ | ⟨-, hverified, hout⟩⟩ := activate_effect s h.placed.lt
  · exact absurd hok hfailed
  · rw [hout]
    exact ⟨⟨⟨h.placed.activeSlot, h.placed.targetSlot⟩, h.verified hverified, rfl⟩, rfl, rfl,
      rfl, rfl⟩

/-- An init that the trial outlives. -/
theorem pending_init {version : UInt32} {n : Nat} {s : Bootloader φ} (h : Pending version n s)
    (hn : n < 2) (target : UdsBootloaderTarget) :
    Pending version (n + 1) (udsBootloaderInit s target) := by
  have hnext : s.ctx.stagingMetadata.bootAttempts + 1 = UInt8.ofNat (n + 1 + 1) := by
    rw [h.attempts, UInt8.ofNat_add (n + 1) 1]
    rfl
  have hleft : ¬s.ctx.stagingMetadata.maxAttempts < s.ctx.stagingMetadata.bootAttempts + 1 := by
    rw [hnext, h.maximum]
    obtain rfl | rfl : n = 0 ∨ n = 1 := by omega
    · decide
    · decide
  rw [init_resumed target h.nvm h.magic, if_pos h.status]
  dsimp only
  rw [if_neg hleft]
  exact ⟨⟨⟨rfl, rfl⟩, h.magic, rfl⟩, h.status, h.version_eq, hnext, h.maximum⟩

/-- The init that ends it. -/
theorem pending_rollback {version : UInt32} {s : Bootloader φ} (h : Pending version 2 s)
    (target : UdsBootloaderTarget) :
    (udsBootloaderInit s target).ctx.stagingMetadata.status = SlotStatus.rollback ∧
      (udsBootloaderInit s target).ctx.activeVersion = 1 := by
  have hover : s.ctx.stagingMetadata.maxAttempts < s.ctx.stagingMetadata.bootAttempts + 1 := by
    rw [h.attempts, h.maximum]
    decide
  rw [init_resumed target h.nvm h.magic, if_pos h.status]
  dsimp only
  rw [if_pos hover]
  exact ⟨rfl, rfl⟩

theorem superseded_init {s : Bootloader φ} (h : Superseded s) (target : UdsBootloaderTarget) :
    Superseded (udsBootloaderInit s target) := by
  have hother : s.ctx.stagingMetadata.status ≠ SlotStatus.active := by
    rw [h.status]
    decide
  rw [init_resumed target h.nvm h.magic, if_neg hother]
  exact ⟨⟨⟨rfl, rfl⟩, h.magic, h.nvm⟩, h.status⟩

theorem superseded_step {target : UdsBootloaderTarget} {s : Bootloader φ} (h : Superseded s)
    (call : DeviceCall φ) (htrial : KeepsTrial s call) : Superseded (deviceStep target s call) := by
  cases call with
  | op call =>
    by_cases haccepts : ∃ metadata, Accepts s call metadata
    · obtain ⟨metadata, haccepts⟩ := haccepts
      exact accepted_superseded h.placed haccepts
    · obtain ⟨hplaced, hstaging, hnvm⟩ :=
        keepsTrial_step h.placed call htrial (not_exists.mp haccepts)
      exact h.congr hplaced hstaging hnvm
  | powerCycle floorStore floorFlash verifier =>
    have hattached : Superseded (attach s floorStore floorFlash verifier) :=
      h.congr h.placed rfl rfl
    exact superseded_init hattached target
  | setVerificationMode mode => exact h.congr ⟨h.placed.activeSlot, h.placed.targetSlot⟩ rfl rfl
  | setSignatureRequired required => exact h.congr h.placed rfl rfl

theorem pending_step {target : UdsBootloaderTarget} {version : UInt32} {n : Nat}
    {s : Bootloader φ} (h : Pending version n s) (call : DeviceCall φ)
    (htrial : KeepsTrial s call) (hn : call.isPowerCycle = true → n < 2) :
    AcceptsNone s call ∧
        Pending version (n + if call.isPowerCycle then 1 else 0) (deviceStep target s call) ∨
      ¬AcceptsNone s call ∧ Superseded (deviceStep target s call) := by
  cases call with
  | op call =>
    by_cases hnone : AcceptsNone s (.op call)
    · obtain ⟨hplaced, hstaging, hnvm⟩ := keepsTrial_step h.placed call htrial hnone
      exact .inl ⟨hnone, h.congr hplaced hstaging hnvm⟩
    · refine .inr ⟨hnone, ?_⟩
      obtain ⟨metadata, haccepts⟩ : ∃ metadata, Accepts s call metadata := by
        by_contra hno
        exact hnone (not_exists.mp hno)
      exact accepted_superseded h.placed haccepts
  | powerCycle floorStore floorFlash verifier =>
    have hattached : Pending version n (attach s floorStore floorFlash verifier) :=
      h.congr h.placed rfl rfl
    exact .inl ⟨trivial, pending_init hattached (hn rfl) target⟩
  | setVerificationMode mode =>
    exact .inl ⟨trivial, h.congr ⟨h.placed.activeSlot, h.placed.targetSlot⟩ rfl rfl⟩
  | setSignatureRequired required => exact .inl ⟨trivial, h.congr h.placed rfl rfl⟩

/-! ## A run -/

/-- Along a trial the image is pending, with the inits so far, until a candidate is
accepted. -/
theorem trial_run {target : UdsBootloaderTarget} {version : UInt32} {s : Bootloader φ}
    (h : Pending version 0 s) {calls : List (DeviceCall φ)}
    (htrial : Along (deviceStep target) KeepsTrial s calls)
    (hcount : calls.countP DeviceCall.isPowerCycle ≤ 2) :
    Along (deviceStep target) AcceptsNone s calls ∧
        Pending version (calls.countP DeviceCall.isPowerCycle) (run (deviceStep target) s calls) ∨
      ¬Along (deviceStep target) AcceptsNone s calls ∧
        Superseded (run (deviceStep target) s calls) := by
  induction calls using List.reverseRecOn with
  | nil => exact .inl ⟨trivial, h⟩
  | append_singleton calls call ih =>
    obtain ⟨hcalls, hcall⟩ := along_concat.mp htrial
    rw [List.countP_append, List.countP_singleton] at hcount
    rw [along_concat, run_concat, List.countP_append, List.countP_singleton]
    obtain ⟨hnone, hpending⟩ | ⟨haccepted, hsuperseded⟩ := ih hcalls (by omega)
    · have hleft : call.isPowerCycle = true → calls.countP DeviceCall.isPowerCycle < 2 := by
        intro hcycle
        rw [if_pos hcycle] at hcount
        omega
      obtain ⟨hcallNone, hstep⟩ | ⟨haccepted, hstep⟩ := pending_step hpending call hcall hleft
      · exact .inl ⟨⟨hnone, hcallNone⟩, hstep⟩
      · exact .inr ⟨fun hall => haccepted hall.2, hstep⟩
    · exact .inr ⟨fun hall => haccepted hall.1, superseded_step hsuperseded call hcall⟩

/-- After an activation, and with no other one, no confirmation and no rollback since, the
third init has rolled the image back if and only if no candidate has been accepted in the
meantime and the image's version is not 1. -/
theorem rolls_back_iff (target : UdsBootloaderTarget) (flash : MockFlash) (floorFlash : φ)
    (before calls : List (DeviceCall φ)) (s activated : Bootloader φ)
    (hs : s = run (deviceStep target) (factoryNew flash floorFlash target) before)
    (hactivated : udsBootloaderActivateCandidate s = (.ok, activated))
    (htrial : Along (deviceStep target) KeepsTrial activated calls)
    (hcount : calls.countP DeviceCall.isPowerCycle = 2)
    (floorStore : Option (UdsBootFloor φ)) (floorFlash' : φ)
    (verifier : Option (List UInt8 → List UInt8 → Bool)) :
    (run (deviceStep target) activated
          (calls ++ [.powerCycle floorStore floorFlash' verifier])).ctx.stagingMetadata.status
        = SlotStatus.rollback ∧
      (run (deviceStep target) activated
          (calls ++ [.powerCycle floorStore floorFlash' verifier])).ctx.activeVersion
        ≠ s.ctx.stagingMetadata.version ↔
    Along (deviceStep target) AcceptsNone activated calls ∧
      s.ctx.stagingMetadata.version ≠ 1 := by
  have hpending : Pending s.ctx.stagingMetadata.version 0 activated := by
    have hreached := reachable_journaled target flash floorFlash before
    rw [← hs] at hreached
    have hok := activate_pending hreached (congrArg Prod.fst hactivated)
    rwa [hactivated] at hok
  rw [run_concat]
  show (udsBootloaderInit (attach (run (deviceStep target) activated calls) floorStore floorFlash'
      verifier) target).ctx.stagingMetadata.status = _ ∧
    (udsBootloaderInit (attach (run (deviceStep target) activated calls) floorStore floorFlash'
      verifier) target).ctx.activeVersion ≠ _ ↔ _
  -- either nothing was accepted on the way and the trial goes on, or it was cut short
  obtain ⟨hnone, hlast⟩ | ⟨haccepted, hlast⟩ := trial_run hpending htrial hcount.le
  · rw [hcount] at hlast
    have hattached : Pending s.ctx.stagingMetadata.version 2
        (attach (run (deviceStep target) activated calls) floorStore floorFlash' verifier) :=
      hlast.congr hlast.placed rfl rfl
    obtain ⟨hstatus, hversion⟩ := pending_rollback hattached target
    rw [hversion]
    exact ⟨fun h => ⟨hnone, h.2.symm⟩, fun h => ⟨hstatus, h.2.symm⟩⟩
  · have hattached : Superseded
        (attach (run (deviceStep target) activated calls) floorStore floorFlash' verifier) :=
      hlast.congr hlast.placed rfl rfl
    refine ⟨fun h => ?_, fun h => absurd h.1 haccepted⟩
    have hstatus := (superseded_init hattached target).status
    rw [h.1] at hstatus
    exact absurd hstatus (by decide)

/-! ### Version 5 on trial -/

/-- A device that has checked version 5. -/
def checkedFive : Bootloader Unit :=
  run (deviceStep .stm32f767) (factoryNew blankFlash () .stm32f767) [restart, .op (checkOffered 5)]

set_option maxRecDepth 20000 in
/-- It activates version 5, checks version 6 without activating it, and after three power
cycles the image is still no rolled-back one, and version 6 is said to be active. -/
theorem trial_never_over :
    (udsBootloaderActivateCandidate checkedFive).1 = .ok ∧
      Along (deviceStep .stm32f767) KeepsTrial (udsBootloaderActivateCandidate checkedFive).2
        [.op (checkOffered 6), restart, restart, restart] ∧
      (run (deviceStep .stm32f767) (udsBootloaderActivateCandidate checkedFive).2
        [.op (checkOffered 6), restart, restart, restart]).ctx.stagingMetadata.status
          = SlotStatus.candidate ∧
      (run (deviceStep .stm32f767) (udsBootloaderActivateCandidate checkedFive).2
        [.op (checkOffered 6), restart, restart, restart]).ctx.activeVersion = 6 := by
  -- one evaluation of the run for all that is asked of its end
  rw [and_left_comm]
  exact ⟨⟨trivial, trivial, trivial, trivial, trivial⟩, by decide +kernel⟩

set_option maxRecDepth 20000 in
/-- Without that check, it rolls version 5 back. -/
theorem trial_over :
    (run (deviceStep .stm32f767) (udsBootloaderActivateCandidate checkedFive).2
          ([restart, restart] ++ [.powerCycle none () none])).ctx.stagingMetadata.status
        = SlotStatus.rollback ∧
      (run (deviceStep .stm32f767) (udsBootloaderActivateCandidate checkedFive).2
          ([restart, restart] ++ [.powerCycle none () none])).ctx.activeVersion
        ≠ checkedFive.ctx.stagingMetadata.version := by
  obtain ⟨hversion, hok⟩ : checkedFive.ctx.stagingMetadata.version ≠ 1 ∧
      (udsBootloaderActivateCandidate checkedFive).1 = .ok := by decide +kernel
  have hactivated : udsBootloaderActivateCandidate checkedFive
      = (.ok, (udsBootloaderActivateCandidate checkedFive).2) := by
    generalize udsBootloaderActivateCandidate checkedFive = out at hok ⊢
    exact Prod.ext hok rfl
  have hnone : Along (deviceStep .stm32f767) AcceptsNone
      (udsBootloaderActivateCandidate checkedFive).2 [restart, restart] :=
    ⟨trivial, trivial, trivial⟩
  have htrial : Along (deviceStep .stm32f767) KeepsTrial
      (udsBootloaderActivateCandidate checkedFive).2 [restart, restart] :=
    ⟨trivial, trivial, trivial⟩
  exact (rolls_back_iff .stm32f767 blankFlash () [restart, .op (checkOffered 5)] [restart, restart]
    checkedFive _ rfl hactivated htrial rfl none () none).mpr ⟨hnone, hversion⟩

end UdsIsoTp.Boot
