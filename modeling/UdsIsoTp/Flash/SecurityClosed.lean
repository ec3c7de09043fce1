import UdsIsoTp.Flash.FloorDurable
import UdsIsoTp.Flash.SecurityNvm
import UdsIsoTp.Flash.StoreBoot
import UdsIsoTp.Uds.LockoutSpan

/-!
# Lockout state that is read with difficulty

On a healthy port every write of the lockout state succeeds, and the newest record is the one
written last (`SecurityClean`). At a later boot reads may fail and bytes may have changed. A
record that cannot be read or does not check puts the gate into lockout, but only if its slot
gets through the scan. A boot that finds no slot takes that for a first boot, and one that passes
over the newest slot restores what an older one says (`attach_opened`). As long as the scan takes
the newest slot for the newest, the gate is locked or is what was written last
(`attach_fails_closed`).
-/

namespace UdsIsoTp.Flash

open UdsIsoTp.Uds

/-! ## Records -/

/-- The layout of the lockout state's store. -/
def NorStore.securityLayout (g : NorStore) : UdsParamStore NorFlash :=
  (g.withData securityRecordSize).layout

theorem NorStore.onNorSecurity (g : NorStore) : OnNor g.securityLayout (norErased g.erased) :=
  (g.withData securityRecordSize).onNor

theorem securityLayout_sound {g : NorStore}
    (hregion : g.flashBase.toNat + g.sectorCount.toNat * g.sectorSize.toNat ≤ 2 ^ 32)
    (hsectors : 2 ≤ g.sectorCount)
    (hcountable : Countable g.port g.flashBase g.sectorCount securityRecordSize) :
    Sound g.securityLayout :=
  layOut_sound ⟨slotBytes_record g.port, hregion, hsectors⟩ hcountable
    (show securityRecordSize ≠ 0 by decide)

theorem SecurityRecord.decode_encode (r : SecurityRecord) : decode r.encode = r := by
  have hmagic : getU32Le r.encode 0 = r.magic := by
    have h := getU32Le_append [] (putU32Le r.remainingMs ++
      ([r.failedAttempts, 0, 0, 0] ++ putU32Le r.check)) r.magic (i := 0) rfl
    simpa [encode] using h
  have hremaining : getU32Le r.encode 4 = r.remainingMs := by
    have h := getU32Le_append (putU32Le r.magic) ([r.failedAttempts, 0, 0, 0] ++ putU32Le r.check)
      r.remainingMs (i := 4) rfl
    simpa [encode] using h
  have hcheck : getU32Le r.encode 12 = r.check := by
    have h := getU32Le_append (putU32Le r.magic ++ putU32Le r.remainingMs ++
      [r.failedAttempts, 0, 0, 0]) [] r.check (i := 12) rfl
    simpa [encode] using h
  unfold decode
  rw [hmagic, hremaining, hcheck]
  rfl

theorem securityRecord_slice {g : NorStore} (failedAttempts : UInt8) (remainingMs : UInt32) :
    (Buf.ofList (securityRecord failedAttempts remainingMs).encode).slice 0
      g.securityLayout.dataSize = (securityRecord failedAttempts remainingMs).encode :=
  Buf.slice_ofList (securityRecord failedAttempts remainingMs).encode

/-- The attempts and the remaining lockout that a record says, if it is one. -/
def securityOf (data : List UInt8) : Option (UInt8 × UInt32) :=
  let r := SecurityRecord.decode data
  if r.magic ≠ secNvmMagic ∨ r.check ≠ recordCheck r then none
  else some (r.failedAttempts, r.remainingMs)

theorem securityOf_securityRecord (failedAttempts : UInt8) (remainingMs : UInt32) :
    securityOf (securityRecord failedAttempts remainingMs).encode
      = some (failedAttempts, remainingMs) := by
  unfold securityOf
  rw [SecurityRecord.decode_encode]
  exact if_neg fun h => h.elim (fun hmagic => hmagic rfl) fun hcheck => hcheck rfl

/-! ## The storage on a healthy port -/

section Clean

variable {g : NorStore}

/-- A storage on a clean flash whose newest record is this one. -/
structure SecurityClean (hsound : Sound g.securityLayout) (n : Nat)
    (w : UdsSecurityNvm NorFlash × NorFlash) (last : Option (UInt8 × UInt32)) : Prop where
  store : w.1.store = some (resumedAt g.securityLayout hsound n)
  clean : Clean hsound (norErased g.erased) n w.2.mem
  newest : ∀ m, n = m + 1 → ∃ failedAttempts remainingMs,
    last = some (failedAttempts, remainingMs) ∧
      slotData g.securityLayout w.2.mem (hsound.ring.home m)
        = (securityRecord failedAttempts remainingMs).encode
  empty : n = 0 → last = none
  powered : w.2.cut = none

variable {hsound : Sound g.securityLayout} {n : Nat} {w : UdsSecurityNvm NorFlash × NorFlash}
  {last : Option (UInt8 × UInt32)}

/-- An init finds the storage as it was. -/
theorem SecurityClean.init (h : SecurityClean hsound n w last)
    (hopens : Opens g.port g.flashBase g.sectorCount securityRecordSize)
    (nvm : UdsSecurityNvm NorFlash) :
    udsSecurityNvmInit nvm g.port g.flashBase g.sectorCount w.2 = (true, w) := by
  have hinit : udsParamInit g.port g.flashBase g.sectorCount securityRecordSize w.2
      = (some (resumedAt g.securityLayout hsound n), w.2) :=
    init_resumedAt hsound g.onNorSecurity.healthy
      ((udsParamInit_usable (w := w.2)).mpr hopens.usable) h.clean.logged
  unfold udsSecurityNvmInit
  rw [if_neg (UInt8.not_lt.mpr hopens.two_le), hinit]
  dsimp only
  rw [← h.store]

theorem securityClean_delivered (hsound : Sound g.securityLayout) :
    SecurityClean hsound 0 (⟨some (resumedAt g.securityLayout hsound 0)⟩, g.delivered) none :=
  ⟨rfl, delivered_clean, nofun, fun _ => rfl, rfl⟩

/-- A write succeeds, and its record is the newest. -/
theorem SecurityClean.persist (h : SecurityClean hsound n w last) (failedAttempts : UInt8)
    (remainingMs : UInt32) :
    (udsSecurityNvmGatePersist w failedAttempts remainingMs).1 = true ∧
      SecurityClean hsound (n + 1) (udsSecurityNvmGatePersist w failedAttempts remainingMs).2
        (some (failedAttempts, remainingMs)) := by
  obtain ⟨hok, hstore, hclean, hcut, hdata⟩ := save_clean g.onNorSecurity h.clean h.powered
    (Buf.ofList (securityRecord failedAttempts remainingMs).encode)
  rw [securityRecord_slice] at hdata
  unfold udsSecurityNvmGatePersist
  rw [h.store]
  refine ⟨decide_eq_true hok, congrArg some hstore, hclean, ?_, nofun, hcut⟩
  rintro _ ⟨⟩
  exact ⟨_, _, rfl, hdata⟩

end Clean

/-! ## Runs on a healthy port -/

/-- The storage of the gate, and what was written to it. -/
structure SecurityRun where
  nvm : UdsSecurityNvm NorFlash
  flash : NorFlash
  /-- What was written last. -/
  last : Option (UInt8 × UInt32)

/-- What can happen in a history. -/
inductive SecurityCall where
  | init
  | persist (failedAttempts : UInt8) (remainingMs : UInt32)

/-- One call. -/
def securityStep (g : NorStore) (s : SecurityRun) : SecurityCall → SecurityRun
  | .init =>
    let (_, nvm, flash) := udsSecurityNvmInit s.nvm g.port g.flashBase g.sectorCount s.flash
    { s with nvm := nvm, flash := flash }
  | .persist failedAttempts remainingMs =>
    let (stored, nvm, flash) :=
      udsSecurityNvmGatePersist (s.nvm, s.flash) failedAttempts remainingMs
    { nvm := nvm
      flash := flash
      last := if stored then some (failedAttempts, remainingMs) else s.last }

/-- A storage that has not been initialised, on a flash that has just been delivered. -/
def securityStart (g : NorStore) : SecurityRun := ⟨⟨none⟩, g.delivered, none⟩

section Powered

variable {g : NorStore}

/-- Nothing has been written, or the storage is clean. -/
def SecurityPowered (g : NorStore) (s : SecurityRun) : Prop :=
  s.nvm.store = none ∧ s.flash = g.delivered ∧ s.last = none ∨
    Opens g.port g.flashBase g.sectorCount securityRecordSize ∧
    ∃ hsound : Sound g.securityLayout, ∃ n, SecurityClean hsound n (s.nvm, s.flash) s.last

/-- What an init does not open it leaves without a store. -/
theorem securityNvmInit_closed {ω : Type} {port : UdsFlashPort ω} {flashBase : UInt32}
    {sectorCount : UInt8} (hopens : ¬Opens port flashBase sectorCount securityRecordSize)
    {nvm : UdsSecurityNvm ω} (hnvm : nvm.store = none) (w : ω) :
    udsSecurityNvmInit nvm port flashBase sectorCount w = (false, ⟨none⟩, w) := by
  obtain rfl : nvm = ⟨none⟩ := congrArg UdsSecurityNvm.mk hnvm
  unfold udsSecurityNvmInit
  by_cases hsectors : sectorCount < 2
  · exact if_pos hsectors
  · rw [if_neg hsectors, udsParamInit_closed hopens hsectors]

theorem securityStep_powered
    (hsound : Opens g.port g.flashBase g.sectorCount securityRecordSize → Sound g.securityLayout)
    {s : SecurityRun} (call : SecurityCall) (h : SecurityPowered g s) :
    SecurityPowered g (securityStep g s call) := by
  obtain ⟨hstore, hflash, hlast⟩ | ⟨hopens, hsound, n, h⟩ := h
  · cases call with
    | persist failedAttempts remainingMs =>
      left
      unfold securityStep udsSecurityNvmGatePersist
      dsimp only
      rw [hstore]
      exact ⟨hstore, hflash, hlast⟩
    | init =>
      unfold securityStep
      dsimp only
      rw [hflash, hlast]
      by_cases hopens : Opens g.port g.flashBase g.sectorCount securityRecordSize
      · have hclean := securityClean_delivered (hsound hopens)
        rw [hclean.init hopens]
        exact .inr ⟨hopens, hsound hopens, 0, hclean⟩
      · rw [securityNvmInit_closed hopens hstore]
        exact .inl ⟨rfl, rfl, rfl⟩
  · right
    refine ⟨hopens, hsound, ?_⟩
    cases call with
    | persist failedAttempts remainingMs =>
      obtain ⟨hstored, hclean⟩ := h.persist failedAttempts remainingMs
      unfold securityStep
      dsimp only
      rw [if_pos hstored]
      exact ⟨n + 1, hclean⟩
    | init =>
      unfold securityStep
      dsimp only
      rw [h.init hopens]
      exact ⟨n, h⟩

theorem security_powered
    (hsound : Opens g.port g.flashBase g.sectorCount securityRecordSize → Sound g.securityLayout)
    (calls : List SecurityCall) :
    SecurityPowered g (run (securityStep g) (securityStart g) calls) :=
  run_inv (I := SecurityPowered g) (fun _ call h => securityStep_powered hsound call h)
    (.inl ⟨rfl, rfl, rfl⟩) calls

end Powered

/-! ## Boots -/

section Boots

variable {ω : Type}

/-- The lockout that the gate has left. -/
def remainingLockout (gate : UdsSecurityGate ω) (now : UInt32) : UInt32 :=
  if gate.lockoutActive then gate.lockoutUntilMs - now else 0

/-- The gate is locked, or is what was written last, or clean if nothing was. -/
def GateFailsClosed (last : Option (UInt8 × UInt32)) (now : UInt32) (gate : UdsSecurityGate ω) :
    Prop :=
  gate.state = .lockout ∨
    (gate.failedAttempts, remainingLockout gate now) = last.getD (0, 0)

/-- A gate that has just been initialised and given its parameters. -/
def freshGate (start initialDelayMs lockoutMs seedTimeoutMs : UInt32) (maxAttempts : UInt8) :
    UdsSecurityGate ω :=
  gateSetTiming (gateInit start) initialDelayMs lockoutMs seedTimeoutMs maxAttempts start

/-- A record that locks the gate: it does not check, or says a lockout or that no attempt is
left. -/
def LocksGate (maxAttempts : UInt8) (data : List UInt8) : Prop :=
  ∀ state ∈ securityOf data, state.2 ≠ 0 ∨ maxAttempts ≤ state.1

instance (maxAttempts : UInt8) (data : List UInt8) : Decidable (LocksGate maxAttempts data) :=
  inferInstanceAs (Decidable (∀ state ∈ _, _))

/-- What the boot comes up with is what was written last, or locks the gate. -/
def SecurityStands (maxAttempts : UInt8) (last : Option (UInt8 × UInt32)) : BootRecord → Prop
  | .absent => last = none
  | .unreadable => True
  | .loaded data => securityOf data = last ∨ LocksGate maxAttempts data

/-- The gate that a boot's record makes. -/
def BootRecord.restore (gate : UdsSecurityGate ω) (now : UInt32) : BootRecord → UdsSecurityGate ω
  | .absent => gate
  | .unreadable => gateRestoreState gate gate.maxAttempts gate.lockoutMs now
  | .loaded data =>
    match securityOf data with
    | none => gateRestoreState gate gate.maxAttempts gate.lockoutMs now
    | some (failedAttempts, remainingMs) => gateRestoreState gate failedAttempts remainingMs now

variable {port : UdsFlashPort ω} {flashBase : UInt32} {sectorCount : UInt8}

/-- The gate after a boot: the storage is initialised, and then attached. -/
def bootGate (port : UdsFlashPort ω) (flashBase : UInt32) (sectorCount : UInt8)
    (gate : UdsSecurityGate (UdsSecurityNvm ω × ω)) (now : UInt32) (w : ω) :
    UdsSecurityGate (UdsSecurityNvm ω × ω) :=
  let (_, nvm, w) := udsSecurityNvmInit ⟨none⟩ port flashBase sectorCount w
  (udsSecurityNvmAttach gate now (nvm, w)).1

/-- Attaching makes the gate of what the boot comes up with. -/
theorem bootGate_record (hopens : Opens port flashBase sectorCount securityRecordSize)
    (hsound : Sound (layOut port flashBase sectorCount securityRecordSize)) {mem : ω → Buf}
    (hport : Truthful port mem) (gate : UdsSecurityGate (UdsSecurityNvm ω × ω)) (now : UInt32)
    (w : ω) :
    bootGate port flashBase sectorCount gate now w
      = (bootRecord (layOut port flashBase sectorCount securityRecordSize) (mem w) w).restore
          (gateSetPersistence gate (some udsSecurityNvmGatePersist)) now := by
  obtain ⟨store, hinit, hup⟩ := init_cameUp hsound hport
    ((udsParamInit_usable (w := w)).mpr hopens.usable) w
  unfold bootGate udsSecurityNvmInit
  rw [if_neg (UInt8.not_lt.mpr hopens.two_le), hinit]
  unfold udsSecurityNvmAttach
  dsimp only
  generalize bootRecord _ (mem w) w = record at hup ⊢
  generalize scanEnd _ w = w' at hup ⊢
  cases record with
  | absent =>
    rw [if_pos (by simp [show store.hasActiveSlot = false from hup])]
    rfl
  | unreadable =>
    obtain ⟨hactive, data, w'', hload⟩ := hup.unreadable
    rw [if_neg (by simp [hactive]), hload]
    rfl
  | loaded data =>
    obtain ⟨hactive, w'', hload⟩ := hup.loaded
    rw [if_neg (by simp [hactive]), hload]
    unfold BootRecord.restore securityOf
    dsimp only
    split <;> rfl

/-- A restored lockout, or restored attempts. -/
theorem gateRestoreState_cases (gate : UdsSecurityGate ω) (hmax : 0 < gate.maxAttempts)
    (failedAttempts : UInt8) (remainingMs now : UInt32) :
    (remainingMs ≠ 0 ∨ gate.maxAttempts ≤ failedAttempts) ∧
        (gateRestoreState gate failedAttempts remainingMs now).state = .lockout ∨
      ¬(remainingMs ≠ 0 ∨ gate.maxAttempts ≤ failedAttempts) ∧
        gateRestoreState gate failedAttempts remainingMs now
          = { gate with failedAttempts := failedAttempts } := by
  rw [gateRestoreState_eq gate now hmax failedAttempts remainingMs]
  split
  next hlocked => exact .inl ⟨hlocked, rfl⟩
  next hopen => exact .inr ⟨hopen, rfl⟩

/-- A gate that has neither counted nor locked anything. -/
structure Unlocked (gate : UdsSecurityGate ω) : Prop where
  attempts : gate.failedAttempts = 0
  active : gate.lockoutActive = false
  state : gate.state ≠ .lockout
  maxAttempts : 0 < gate.maxAttempts
  lockout : gate.lockoutMs ≠ 0

/-- A persistence callback changes nothing of that. -/
theorem Unlocked.persisting {gate : UdsSecurityGate (UdsSecurityNvm ω × ω)}
    (h : Unlocked gate) : Unlocked (gateSetPersistence gate (some udsSecurityNvmGatePersist)) :=
  ⟨h.attempts, h.active, h.state, h.maxAttempts, h.lockout⟩

theorem freshGate_unlocked (start initialDelayMs lockoutMs seedTimeoutMs : UInt32)
    (maxAttempts : UInt8) :
    Unlocked (freshGate start initialDelayMs lockoutMs seedTimeoutMs maxAttempts :
      UdsSecurityGate ω) := by
  refine ⟨rfl, rfl, nofun, ?_, ?_⟩
  · show (0 : UInt8) < if 0 < maxAttempts then maxAttempts else 3
    split
    next hpos => exact hpos
    next => decide
  · unfold freshGate
    rw [gateSetTiming_lockoutMs]
    exact lockoutDuration_ne lockoutMs

/-- A gate that only counts is closed exactly if it counts what was written last. -/
theorem Unlocked.failsClosed_iff {gate : UdsSecurityGate ω} (hgate : Unlocked gate)
    (last : Option (UInt8 × UInt32)) (now : UInt32) (failedAttempts : UInt8) :
    GateFailsClosed last now ({ gate with failedAttempts := failedAttempts } : UdsSecurityGate ω) ↔
      last.getD (0, 0) = (failedAttempts, 0) := by
  have hremaining : remainingLockout
      ({ gate with failedAttempts := failedAttempts } : UdsSecurityGate ω) now = 0 :=
    if_neg (by simp [hgate.active])
  unfold GateFailsClosed
  rw [hremaining]
  exact (or_iff_right hgate.state).trans eq_comm

/-- A boot that comes up with no slot leaves the gate clean. -/
theorem Unlocked.restore_absent {gate : UdsSecurityGate ω} (hgate : Unlocked gate)
    (last : Option (UInt8 × UInt32)) (now : UInt32) :
    GateFailsClosed last now (BootRecord.absent.restore gate now) ↔ last.getD (0, 0) = (0, 0) := by
  have hiff := hgate.failsClosed_iff last now gate.failedAttempts
  rw [hgate.attempts] at hiff
  exact hgate.attempts ▸ hiff

/-- What cannot be read is restored as if every attempt had been used. -/
theorem Unlocked.restore_closed {gate : UdsSecurityGate ω} (hgate : Unlocked gate) (now : UInt32) :
    (gateRestoreState gate gate.maxAttempts gate.lockoutMs now).state = .lockout := by
  obtain ⟨-, hlocked⟩ | ⟨hnot, -⟩ :=
    gateRestoreState_cases gate hgate.maxAttempts gate.maxAttempts gate.lockoutMs now
  · exact hlocked
  · exact absurd (.inl hgate.lockout) hnot

theorem SecurityStands.failsClosed {gate : UdsSecurityGate ω} (hgate : Unlocked gate)
    {last : Option (UInt8 × UInt32)} {record : BootRecord}
    (hstands : SecurityStands gate.maxAttempts last record) (now : UInt32) :
    GateFailsClosed last now (record.restore gate now) := by
  cases record with
  | absent =>
    obtain rfl : last = none := hstands
    exact (hgate.restore_absent none now).mpr rfl
  | unreadable => exact .inl (hgate.restore_closed now)
  | loaded data =>
    unfold SecurityStands LocksGate at hstands
    unfold BootRecord.restore
    dsimp only at hstands ⊢
    cases hdata : securityOf data with
    | none => exact .inl (hgate.restore_closed now)
    | some state =>
      obtain ⟨failedAttempts, remainingMs⟩ := state
      dsimp only
      rw [hdata] at hstands
      obtain ⟨-, hlocked⟩ | ⟨hnot, hrestored⟩ :=
        gateRestoreState_cases gate hgate.maxAttempts failedAttempts remainingMs now
      · exact .inl hlocked
      · obtain rfl | hlocks := hstands
        · have hzero : remainingMs = 0 := not_not.mp fun h => hnot (.inl h)
          rw [hrestored, hgate.failsClosed_iff, hzero]
          rfl
        · exact absurd (hlocks _ rfl) hnot

/-- A storage that cannot be opened locks the gate. -/
theorem bootGate_closed (hopens : ¬Opens port flashBase sectorCount securityRecordSize)
    {gate : UdsSecurityGate (UdsSecurityNvm ω × ω)} (hgate : Unlocked gate) (now : UInt32) (w : ω) :
    (bootGate port flashBase sectorCount gate now w).state = .lockout := by
  unfold bootGate
  rw [securityNvmInit_closed hopens rfl]
  exact hgate.persisting.restore_closed now

/-- While the newest record stands, what the boot comes up with is right. -/
theorem SecurityPowered.stands {g : NorStore} {s : SecurityRun} (h : SecurityPowered g s)
    {port : UdsFlashPort ω} (hsame : SameSectors g.port port g.flashBase) {mem : Buf} {w : ω}
    {maxAttempts : UInt8}
    (hstands : NewestStands (LocksGate maxAttempts) s.nvm.store s.flash.mem
      (layOut port g.flashBase g.sectorCount securityRecordSize) mem w) :
    SecurityStands maxAttempts s.last
      (bootRecord (layOut port g.flashBase g.sectorCount securityRecordSize) mem w) := by
  have hslots : SameSlots g.securityLayout
      (layOut port g.flashBase g.sectorCount securityRecordSize) :=
    hsame.layOut g.sectorCount securityRecordSize
  obtain ⟨hstore, -, hlast⟩ | ⟨-, hsound, n, h⟩ := h
  · rw [hstore] at hstands
    rw [bootRecord_absent hstands, hlast]
    rfl
  · rw [h.store] at hstands
    have hup := bootRecord_stands hsound hslots hstands
    cases n with
    | zero =>
      rw [show bootRecord _ mem w = .absent from hup, h.empty rfl]
      rfl
    | succ m =>
      obtain hunread | ⟨data, hloaded, hdata⟩ := hup
      · rw [hunread]
        trivial
      · obtain ⟨failedAttempts, remainingMs, hlast, hnewest⟩ := h.newest m rfl
        rw [hloaded, hlast]
        refine hdata.imp_left ?_
        rintro rfl
        dsimp only
        rw [hnewest, securityOf_securityRecord]

end Boots

/-- Writes on a healthy port, and then a boot through a port whose reads may fail, on a flash
whose bytes may be others: as long as the scan takes the newest slot for the newest, the gate is
locked or is what was written last, whatever has become of the record in it. If no slot gets
through the scan, that is so only if nothing but a clean state was written last. -/
theorem attach_fails_closed (g : NorStore)
    (hregion : g.flashBase.toNat + g.sectorCount.toNat * g.sectorSize.toNat ≤ 2 ^ 32)
    (hcountable : Opens g.port g.flashBase g.sectorCount securityRecordSize →
      Countable g.port g.flashBase g.sectorCount securityRecordSize) (calls : List SecurityCall)
    {ω : Type} (port : UdsFlashPort ω) (hsame : SameSectors g.port port g.flashBase)
    {mem : ω → Buf} (hport : Truthful port mem) (w : ω)
    (start initialDelayMs lockoutMs seedTimeoutMs : UInt32) (maxAttempts : UInt8) (now : UInt32) :
    let s := run (securityStep g) (securityStart g) calls
    let fresh := freshGate start initialDelayMs lockoutMs seedTimeoutMs maxAttempts
    let gate := bootGate port g.flashBase g.sectorCount fresh now w
    let store := layOut port g.flashBase g.sectorCount securityRecordSize
    ((Opens port g.flashBase g.sectorCount securityRecordSize →
        NewestStands (LocksGate fresh.maxAttempts) s.nvm.store s.flash.mem store (mem w) w) →
        GateFailsClosed s.last now gate) ∧
      (Opens port g.flashBase g.sectorCount securityRecordSize → NothingSeen store w →
        (GateFailsClosed s.last now gate ↔ s.last.getD (0, 0) = (0, 0))) := by
  have hsound : Opens g.port g.flashBase g.sectorCount securityRecordSize →
      Sound g.securityLayout :=
    fun hopens => securityLayout_sound hregion hopens.two_le (hcountable hopens)
  have hopened : Opens port g.flashBase g.sectorCount securityRecordSize →
      Opens g.port g.flashBase g.sectorCount securityRecordSize :=
    fun hopens => ⟨hopens.two_le, hsame.usable hopens.usable⟩
  have hslots := hsame.layOut g.sectorCount securityRecordSize
  have hkept := security_powered hsound calls
  intro s fresh gate store
  have hfresh : Unlocked fresh := freshGate_unlocked ..
  have hgate : Opens port g.flashBase g.sectorCount securityRecordSize → gate =
      (bootRecord store (mem w) w).restore
        (gateSetPersistence fresh (some udsSecurityNvmGatePersist)) now :=
    fun hopens =>
      bootGate_record hopens (hslots.sound (hsound (hopened hopens))) hport fresh now w
  refine ⟨fun hstands => ?_, fun hopens hnothing => ?_⟩
  · by_cases hopens : Opens port g.flashBase g.sectorCount securityRecordSize
    · rw [hgate hopens]
      exact (hkept.stands hsame (hstands hopens)).failsClosed hfresh.persisting now
    · exact .inl (bootGate_closed hopens hfresh now w)
  · rw [hgate hopens, bootRecord_absent hnothing]
    exact hfresh.persisting.restore_absent s.last now

/-- One record, and a boot that cannot read its header. -/
theorem attach_opened :
    let s := run (securityStep smallStore) (securityStart smallStore) [.init, .persist 3 10000]
    let gate := bootGate (blindPort smallStore.port) 0 2 (freshGate 0 0 10000 0 3) 0 s.flash
    s.last = some (3, 10000) ∧ Truthful (blindPort smallStore.port) NorFlash.mem ∧
      gate.state = .lockedReady ∧ gate.failedAttempts = 0 ∧ gate.lockoutActive = false :=
  ⟨by decide +kernel, blindPort_truthful smallStore.onNor.healthy, by decide +kernel,
    by decide +kernel, by decide +kernel⟩

/-- Two records, and a boot that cannot read the header of the older. -/
theorem attach_fails_closed_small :
    let s := run (securityStep smallStore) (securityStart smallStore)
      [.init, .persist 1 0, .persist 3 10000]
    GateFailsClosed s.last 0
      (bootGate (blindPort smallStore.port) 0 2 (freshGate 0 0 10000 0 3) 0 s.flash) :=
  (attach_fails_closed smallStore (by decide) (fun _ => ⟨by decide, by decide⟩)
    [.init, .persist 1 0, .persist 3 10000] (blindPort smallStore.port) ⟨rfl, rfl⟩
    (blindPort_truthful smallStore.onNor.healthy) _ 0 0 10000 0 3 0).1 fun _ => by decide +kernel

end UdsIsoTp.Flash
