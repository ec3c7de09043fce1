import UdsIsoTp.Boot.Journal
import UdsIsoTp.Flash.FloorDurable

/-!
# Anti-rollback, end to end

The floor store sits on a NOR flash, stays attached, and is opened again after every power
cycle. CheckMemory compares the candidate with the floor, and the floor moves at the
confirmation, which comes an activation later. In between only the status of the staging
metadata keeps the two in step: while a candidate is verified its status says so, and a
confirmation wants an active image (`FloorBelow`).

The floor itself is only as good as its store: `rolled_back_below` is the run on sectors whose
slots the store does not count.
-/

namespace UdsIsoTp.Boot

open UdsIsoTp.Uds UdsIsoTp.Flash

/-! ## Runs -/

/-- The bootloader with its floor, and what it has confirmed. -/
structure FlooredBoot where
  boot : Bootloader NorFlash
  /-- The highest version of an image that has been confirmed. -/
  confirmed : UInt32

/-- What can happen to it. -/
inductive FlooredCall where
  /-- An operation, with the floor's flash working for so many operations and bytes of the next
  one, or for all. -/
  | op (call : BootCall) (cut : Option (Nat × Nat))
  | powerCycle (verifier : Option (List UInt8 → List UInt8 → Bool))
  | setVerificationMode (mode : UdsBootloaderVerifyMode)
  | setSignatureRequired (required : Bool)

/-- The bootloader with its floor's flash cut there. -/
def cutFloor (s : Bootloader NorFlash) (cut : Option (Nat × Nat)) : Bootloader NorFlash :=
  { s with floorFlash := ⟨s.floorFlash.mem, cut⟩ }

/-- The highest confirmed version after a call. -/
def confirmedBy (s : Bootloader NorFlash) (confirmed : UInt32) : BootCall → UInt32
  | .confirmActiveImage =>
    if (udsBootloaderConfirmActiveImage s).1 = .ok ∧ confirmed < s.ctx.stagingMetadata.version then
      s.ctx.stagingMetadata.version
    else confirmed
  | _ => confirmed

/-- The floor store as `boot_floor_init` opens it on its flash. -/
def openFloor (g : NorStore) (floorFlash : NorFlash) : UdsBootFloor NorFlash × NorFlash :=
  (bootFloorInit g.port g.flashBase g.sectorCount ⟨floorFlash.mem, none⟩).2

/-- One call. -/
def flooredStep (g : NorStore) (target : UdsBootloaderTarget) (s : FlooredBoot) :
    FlooredCall → FlooredBoot
  | .op call cut =>
    ⟨bootStep (cutFloor s.boot cut) call, confirmedBy (cutFloor s.boot cut) s.confirmed call⟩
  | .powerCycle verifier =>
    let (floor, floorFlash) := openFloor g s.boot.floorFlash
    ⟨deviceStep target s.boot (.powerCycle (some floor) floorFlash verifier), s.confirmed⟩
  | .setVerificationMode mode => ⟨deviceStep target s.boot (.setVerificationMode mode), s.confirmed⟩
  | .setSignatureRequired required =>
    ⟨deviceStep target s.boot (.setSignatureRequired required), s.confirmed⟩

/-- A new device after its first power-on. -/
def flooredStart (g : NorStore) (target : UdsBootloaderTarget) (flash : MockFlash)
    (verifier : Option (List UInt8 → List UInt8 → Bool)) : FlooredBoot :=
  flooredStep g target ⟨factoryNew flash g.delivered target, 0⟩ (.powerCycle verifier)

/-! ## The invariant -/

section Floored

variable {g : NorStore} {target : UdsBootloaderTarget}

/-- The bootloader's floor, as a run of the floor alone has it. -/
def FlooredBoot.floorRun (s : FlooredBoot) (floor : UdsBootFloor NorFlash) : FloorRun :=
  ⟨s.boot.floorFlash, floor, s.confirmed⟩

/-- The floor is no higher than a verified candidate, which has yet to be activated. -/
structure FloorBelow (g : NorStore) (floor : UdsBootFloor NorFlash) (s : FlooredBoot) : Prop where
  placed : Placed s.boot.ctx
  attached : s.boot.floorStore = some floor
  kept : FloorKept g (s.floorRun floor)
  candidate : s.boot.ctx.candidateVerified = true →
    s.boot.ctx.stagingMetadata.status = SlotStatus.candidate ∧
      bootFloorGet floor ≤ s.boot.ctx.stagingMetadata.version

/-- Where the flash will fail is nothing that it holds. -/
theorem FloorKept.cut {s : FloorRun} (h : FloorKept g s) (cut : Option (Nat × Nat)) :
    FloorKept g ⟨⟨s.flash.mem, cut⟩, s.floor, s.confirmed⟩ := by
  obtain h | ⟨hopens, hsound, n, h⟩ := h
  · exact .inl ⟨h.store, h.mem, h.confirmed, h.floor⟩
  · exact .inr ⟨hopens, hsound, n, h.store, h.guarded, h.newest, h.empty, h.confirmed⟩

theorem FloorBelow.cut {floor : UdsBootFloor NorFlash} {s : FlooredBoot}
    (h : FloorBelow g floor s) (cut : Option (Nat × Nat)) :
    FloorBelow g floor ⟨cutFloor s.boot cut, s.confirmed⟩ :=
  ⟨h.placed, h.attached, FloorKept.cut h.kept cut, h.candidate⟩

/-! ## One step -/

/-- A candidate that CheckMemory accepts is not below the floor. -/
theorem judged_floor {s : Bootloader NorFlash} {floor : UdsBootFloor NorFlash}
    (hattached : s.floorStore = some floor) {metadata : FirmwareMetadata}
    (h : judgeCandidate s metadata = none) : bootFloorGet floor ≤ metadata.version := by
  have hfloor : bootFloorGet floor ≤ udsBootloaderGetVersionFloor s := by
    unfold udsBootloaderGetVersionFloor
    rw [hattached]
    dsimp only
    split
    next => exact UInt32.le_refl _
    next hlow => exact UInt32.not_lt.mp hlow
  unfold judgeCandidate at h
  split at h
  next => exact absurd h (by simp)
  next =>
    split at h
    next => exact absurd h (by simp)
    next hversion => exact UInt32.le_trans hfloor (UInt32.not_lt.mp hversion)

/-- While a candidate is verified, no image is active. -/
theorem FloorBelow.unverified {floor : UdsBootFloor NorFlash} {s : FlooredBoot}
    (h : FloorBelow g floor s) (hactive : s.boot.ctx.stagingMetadata.status = SlotStatus.active) :
    ¬s.boot.ctx.candidateVerified = true := by
  intro hverified
  have hstatus : SlotStatus.candidate = SlotStatus.active :=
    (h.candidate hverified).1.symm.trans hactive
  exact absurd hstatus (by decide)

theorem raiseFloor_of {s : Bootloader NorFlash} {floor floor' : UdsBootFloor NorFlash}
    {raised : Bool} {floorFlash : NorFlash} (hattached : s.floorStore = some floor)
    (hraise : bootFloorRaise floor s.ctx.stagingMetadata.version s.floorFlash
      = (raised, floor', floorFlash)) :
    raiseFloor s = (raised, { s with floorStore := some floor', floorFlash := floorFlash }) := by
  unfold raiseFloor
  rw [hattached]
  dsimp only
  rw [hraise]

/-- The confirmation of an active image is a raise of the floor. -/
theorem confirm_below
    (hsound : Opens g.port g.flashBase g.sectorCount floorRecordSize → Sound g.floorLayout)
    {floor : UdsBootFloor NorFlash} {s : FlooredBoot} (h : FloorBelow g floor s)
    (cut : Option (Nat × Nat)) :
    ∃ floor, FloorBelow g floor (flooredStep g target s (.op .confirmActiveImage cut)) := by
  show ∃ floor, FloorBelow g floor ⟨(udsBootloaderConfirmActiveImage (cutFloor s.boot cut)).2,
    if (udsBootloaderConfirmActiveImage (cutFloor s.boot cut)).1 = .ok ∧
        s.confirmed < s.boot.ctx.stagingMetadata.version then
      s.boot.ctx.stagingMetadata.version
    else s.confirmed⟩
  obtain ⟨hrefused, hsame⟩ | ⟨hactive, hconfirm⟩ := confirm_effect (cutFloor s.boot cut)
  · rw [hsame, if_neg fun hok => hrefused hok.1]
    exact ⟨floor, h.cut cut⟩
  have hunverified := h.unverified hactive
  have hkept := (floorStep_kept hsound (.raise s.boot.ctx.stagingMetadata.version cut) h.kept).1
  generalize hout : bootFloorRaise floor s.boot.ctx.stagingMetadata.version
    ⟨s.boot.floorFlash.mem, cut⟩ = out
  obtain ⟨raised, floor', floorFlash⟩ := out
  rw [floorStep_raise (s := s.floorRun floor) hout] at hkept
  have hraise : raiseFloor (cutFloor s.boot cut) =
      (raised, { s.boot with floorStore := some floor', floorFlash := floorFlash }) :=
    raiseFloor_of (s := cutFloor s.boot cut) h.attached hout
  rw [hraise] at hconfirm
  refine ⟨floor', ?_⟩
  obtain ⟨hfailed, rfl, hafter⟩ | ⟨hok, rfl, hafter⟩ := hconfirm
  · rw [hafter, if_neg fun hok => hfailed hok.1]
    exact ⟨h.placed, rfl, hkept, fun hverified => absurd hverified hunverified⟩
  · have hcounted : (if (udsBootloaderConfirmActiveImage (cutFloor s.boot cut)).1 = .ok ∧
          s.confirmed < s.boot.ctx.stagingMetadata.version then s.boot.ctx.stagingMetadata.version
        else s.confirmed) = if true = true ∧ s.confirmed < s.boot.ctx.stagingMetadata.version then
          s.boot.ctx.stagingMetadata.version else s.confirmed :=
      if_congr (and_congr_left' (iff_of_true hok rfl)) rfl rfl
    rw [hafter, hcounted]
    exact ⟨⟨h.placed.activeSlot, h.placed.targetSlot⟩, rfl, hkept,
      fun hverified => absurd hverified hunverified⟩

/-- The other operations leave the floor alone. -/
theorem op_below {floor : UdsBootFloor NorFlash} {s : FlooredBoot} (h : FloorBelow g floor s)
    {call : BootCall} (hcall : call ≠ .confirmActiveImage) (cut : Option (Nat × Nat)) :
    FloorBelow g floor (flooredStep g target s (.op call cut)) := by
  have hconfirmed : confirmedBy (cutFloor s.boot cut) s.confirmed call = s.confirmed := by
    cases call with
    | confirmActiveImage => exact absurd rfl hcall
    | _ => rfl
  have hcut := h.cut cut
  have heffect := bootStep_effect (cutFloor s.boot cut) hcut.placed.lt call
  show FloorBelow g floor ⟨bootStep (cutFloor s.boot cut) call, confirmedBy _ s.confirmed call⟩
  rw [hconfirmed]
  generalize cutFloor s.boot cut = s₀ at hcut heffect
  generalize bootStep s₀ call = s₁ at heffect
  obtain ⟨hplaced, hattached, hkept, hcandidate⟩ := hcut
  cases heffect with
  | aside haside =>
    refine ⟨haside.placed hplaced, haside.floorStore.trans hattached, ?_, fun hverified => ?_⟩
    · unfold FlooredBoot.floorRun at hkept ⊢
      dsimp only at hkept ⊢
      rw [haside.floorFlash]
      exact hkept
    · dsimp only
      rw [haside.staging]
      exact hcandidate (haside.verified hverified)
  | accepted metadata haccepts =>
    have hfloor := judged_floor hattached haccepts.judged
    exact ⟨⟨hplaced.activeSlot, hplaced.targetSlot⟩, hattached, hkept, fun _ => ⟨rfl, hfloor⟩⟩
  | activated flash verified slotB ok =>
    exact ⟨⟨hplaced.activeSlot, hplaced.targetSlot⟩, hattached, hkept, nofun⟩
  | confirmed active raised ok => exact absurd rfl hcall
  | unconfirmed active raised => exact absurd rfl hcall
  | rolledBack => exact ⟨⟨rfl, hplaced.targetSlot⟩, hattached, hkept, nofun⟩

/-- An init leaves no candidate verified, and the floor as it was opened. -/
theorem init_below (s : Bootloader NorFlash) (target : UdsBootloaderTarget) :
    Placed (udsBootloaderInit s target).ctx ∧
      (udsBootloaderInit s target).floorStore = s.floorStore ∧
      (udsBootloaderInit s target).floorFlash = s.floorFlash ∧
      (udsBootloaderInit s target).ctx.candidateVerified = false := by
  unfold udsBootloaderInit
  dsimp only
  split
  next => exact ⟨⟨rfl, rfl⟩, rfl, rfl, rfl⟩
  next =>
    split
    next => split <;> exact ⟨⟨rfl, rfl⟩, rfl, rfl, rfl⟩
    next => exact ⟨⟨rfl, rfl⟩, rfl, rfl, rfl⟩

theorem powerCycle_below
    (hsound : Opens g.port g.flashBase g.sectorCount floorRecordSize → Sound g.floorLayout)
    (floor : UdsBootFloor NorFlash) {s : FlooredBoot} (hkept : FloorKept g (s.floorRun floor))
    (verifier : Option (List UInt8 → List UInt8 → Bool)) :
    ∃ floor, FloorBelow g floor (flooredStep g target s (.powerCycle verifier)) := by
  have hopened := (floorStep_kept hsound .init hkept).1
  generalize hout : bootFloorInit g.port g.flashBase g.sectorCount ⟨s.boot.floorFlash.mem, none⟩
    = out
  obtain ⟨opened, floor', floorFlash⟩ := out
  rw [floorStep_init (s := s.floorRun floor) hout] at hopened
  refine ⟨floor', ?_⟩
  unfold flooredStep openFloor deviceStep
  rw [hout]
  obtain ⟨hplaced, hstore, hflash, hdropped⟩ :=
    init_below (attach s.boot (some floor') floorFlash verifier) target
  refine ⟨hplaced, hstore, ?_, fun hverified => absurd (hdropped.symm.trans hverified) (by decide)⟩
  unfold FlooredBoot.floorRun
  dsimp only
  rw [hflash]
  exact hopened

theorem flooredStep_below
    (hsound : Opens g.port g.flashBase g.sectorCount floorRecordSize → Sound g.floorLayout)
    {s : FlooredBoot} (h : ∃ floor, FloorBelow g floor s) (call : FlooredCall) :
    ∃ floor, FloorBelow g floor (flooredStep g target s call) := by
  obtain ⟨floor, h⟩ := h
  cases call with
  | op call cut =>
    by_cases hcall : call = .confirmActiveImage
    · rw [hcall]
      exact confirm_below hsound h cut
    · exact ⟨floor, op_below h hcall cut⟩
  | powerCycle verifier => exact powerCycle_below hsound floor h.kept verifier
  | setVerificationMode mode =>
    exact ⟨floor, ⟨h.placed.activeSlot, h.placed.targetSlot⟩, h.attached, h.kept, h.candidate⟩
  | setSignatureRequired required =>
    exact ⟨floor, h.placed, h.attached, h.kept, h.candidate⟩

/-! ## The run -/

theorem flooredStart_below
    (hsound : Opens g.port g.flashBase g.sectorCount floorRecordSize → Sound g.floorLayout)
    (flash : MockFlash) (verifier : Option (List UInt8 → List UInt8 → Bool)) :
    ∃ floor, FloorBelow g floor (flooredStart g target flash verifier) := by
  refine powerCycle_below hsound ⟨none, 0⟩ (.inl ?_) verifier
  obtain ⟨-, -, hflash, -⟩ := init_below {
    ctx := targetContext target
    flash := flash
    memoryMap := targetMemoryMap target
    download := udsDownloadInit (targetMemoryMap target) bootDownloadCallbacks
    nvm := none
    floorStore := none
    floorFlash := g.delivered
    signatureVerifier := none
    signatureRequired := true } target
  have hmem : (factoryNew flash g.delivered target).floorFlash = g.delivered := hflash
  exact ⟨rfl, congrArg NorFlash.mem hmem, rfl, .inl rfl⟩

end Floored

/-- On sectors whose slots the store can count, whatever the operations, whatever candidates
they are given, and however often the power goes: an activation only succeeds for an image that
is at least the highest version that has been confirmed. -/
theorem activation_not_below (g : NorStore)
    (hregion : g.flashBase.toNat + g.sectorCount.toNat * g.sectorSize.toNat ≤ 2 ^ 32)
    (hcountable : Opens g.port g.flashBase g.sectorCount floorRecordSize →
      Countable g.port g.flashBase g.sectorCount floorRecordSize)
    (target : UdsBootloaderTarget) (flash : MockFlash)
    (verifier : Option (List UInt8 → List UInt8 → Bool)) (calls : List FlooredCall) :
    let s := run (flooredStep g target) (flooredStart g target flash verifier) calls
    (udsBootloaderActivateCandidate s.boot).1 = .ok →
      s.confirmed ≤ s.boot.ctx.stagingMetadata.version := by
  have hsound : Opens g.port g.flashBase g.sectorCount floorRecordSize → Sound g.floorLayout :=
    fun hopens => floorLayout_sound hregion hopens.two_le (hcountable hopens)
  intro s hok
  obtain ⟨floor, h⟩ : ∃ floor, FloorBelow g floor s :=
    run_inv (I := fun s => ∃ floor, FloorBelow g floor s)
      (fun _ call h => flooredStep_below hsound h call) (flooredStart_below hsound flash verifier)
      calls
  obtain ⟨-, -, ⟨hfailed, -⟩ | ⟨-, hverified, -⟩⟩ := activate_effect s.boot h.placed.lt
  · exact absurd hok hfailed
  · exact UInt32.le_trans h.kept.confirmed_le (h.candidate hverified).2

/-- A verifier that takes anything. -/
def trusting : Option (List UInt8 → List UInt8 → Bool) := some fun _ _ => true

/-- Version 5 is confirmed, the power goes, and the image is rolled back to the one before. -/
def confirmedAndRolledBack : List FlooredCall :=
  [.op (checkOffered 5) none, .op .activateCandidate none, .op .confirmActiveImage none,
    .powerCycle trusting, .op .rollbackCandidate none]

set_option maxRecDepth 20000 in
/-- The record of version 5 is not found again, and version 2 is activated. -/
theorem rolled_back_below :
    let s := run (flooredStep wideStore .stm32f767)
      (flooredStart wideStore .stm32f767 blankFlash trusting)
      (confirmedAndRolledBack ++ [.op (checkOffered 2) none])
    (udsBootloaderActivateCandidate s.boot).1 = .ok ∧ s.confirmed = 5 ∧
      s.boot.ctx.stagingMetadata.version = 2 := by
  decide +kernel

set_option maxRecDepth 20000 in
/-- Two sectors of 64 bytes: the next version that is activated is 6. -/
theorem activated_above :
    let s := run (flooredStep smallStore .stm32f767)
      (flooredStart smallStore .stm32f767 blankFlash trusting)
      (confirmedAndRolledBack ++ [.op (checkOffered 6) none])
    s.confirmed ≤ s.boot.ctx.stagingMetadata.version :=
  activation_not_below smallStore (by decide) (fun _ => ⟨by decide, by decide⟩) .stm32f767
    blankFlash trusting _ (by decide +kernel)

end UdsIsoTp.Boot
