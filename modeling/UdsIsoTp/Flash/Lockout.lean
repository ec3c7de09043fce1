import UdsIsoTp.Flash.SecurityClosed
import UdsIsoTp.Lib.Run
import UdsIsoTp.Uds.GateSteps

/-!
# The lockout across power cycles

A gate whose lockout state is stored on a healthy port. Keys are tried, time goes by, the ECU is
reset, and at any point the power is cycled: the storage and the gate begin anew, and what was
stored is restored. The clock of a power cycle is a natural number; the gate reads 32 bits of it.

The stored attempts are at every time those of the gate, and no fewer than the wrong keys since
the last correct one or the last lockout that was served in full (`LockHeld`). A restored lockout
begins anew with its whole length. So no more wrong keys are judged than the gate allows
(`wrong_keys_bounded`), unless the store cannot count its slots (`wrong_keys_forgotten`).
-/

namespace UdsIsoTp.Flash

open UdsIsoTp.Uds

/-! ## Runs -/

/-- The parameters that every power cycle gives the gate. -/
structure LockParams where
  initialDelayMs : UInt32
  lockoutMs : UInt32
  seedTimeoutMs : UInt32
  maxAttempts : UInt8

/-- The gate of a power cycle, before the storage is attached. -/
def LockParams.fresh (p : LockParams) (start : UInt32) :
    UdsSecurityGate (UdsSecurityNvm NorFlash × NorFlash) :=
  freshGate start p.initialDelayMs p.lockoutMs p.seedTimeoutMs p.maxAttempts

/-- A gate with its storage, over power cycles. -/
structure LockRun where
  gate : UdsSecurityGate (UdsSecurityNvm NorFlash × NorFlash)
  world : UdsSecurityNvm NorFlash × NorFlash
  /-- The time since the clock of this power cycle began. -/
  now : Nat
  /-- When the gate's lockout began, in this power cycle. -/
  lockedSince : Nat
  /-- The wrong keys since the last correct key or the last lockout served in full. -/
  wrong : Nat

/-- What can happen to it. -/
inductive LockCall where
  | tick (delay : Nat)
  | seed (level : UInt8) (delay : Nat)
  | wrongKey (delay : Nat)
  | correctKey (level : UInt8) (delay : Nat)
  | resetEcu (delay : Nat)
  /-- The clock begins at `start`, and the storage is attached a while later. -/
  | powerCycle (start later : Nat)

/-- A power cycle: the storage is initialised, the gate too, and the one attached to the other. -/
def lockBoot (g : NorStore) (p : LockParams) (flash : NorFlash) (start later wrong : Nat) :
    LockRun :=
  let (_, nvm, flash) := udsSecurityNvmInit ⟨none⟩ g.port g.flashBase g.sectorCount flash
  let (gate, world) :=
    udsSecurityNvmAttach (p.fresh (tick32 start)) (tick32 (start + later)) (nvm, flash)
  { gate := gate
    world := world
    now := start + later
    lockedSince := start + later
    wrong := wrong }

/-- The tick; it ends a lockout that has been served, and with it the count. -/
def LockRun.tick (s : LockRun) (delay : Nat) : LockRun :=
  let now := s.now + delay
  let (gate, world) := gateTick s.gate (tick32 now) s.world
  { s with
    gate := gate
    world := world
    now := now
    wrong :=
      if s.gate.lockoutActive ∧ ¬gate.lockoutActive ∧
        s.lockedSince + s.gate.lockoutMs.toNat ≤ now then 0 else s.wrong }

/-- A key is judged, and a seed given, as `uds.c` does it: after a tick, and not during a
delay. -/
def LockRun.whenReady (s : LockRun) (delay : Nat) (act : LockRun → LockRun) : LockRun :=
  let s := s.tick delay
  if gateDelayActive s.gate (tick32 s.now) then s else act s

/-- A wrong key is judged. -/
def LockRun.wrongKey (s : LockRun) : LockRun :=
  let (gate, world) := gateRecordFailure s.gate (tick32 s.now) s.world
  { s with
    gate := gate
    world := world
    lockedSince := if gate.lockoutActive then s.now else s.lockedSince
    wrong := s.wrong + 1 }

/-- The right key is judged. -/
def LockRun.correctKey (s : LockRun) (level : UInt8) : LockRun :=
  let (gate, world) := gateRecordSuccess s.gate level s.world
  { s with gate := gate, world := world, wrong := 0 }

/-- A seed is handed out. -/
def LockRun.seed (s : LockRun) (level : UInt8) : LockRun :=
  { s with gate := gateGrantSeed s.gate level (tick32 s.now) }

/-- One call. -/
def lockStep (g : NorStore) (p : LockParams) (s : LockRun) : LockCall → LockRun
  | .tick delay => s.tick delay
  | .seed level delay => s.whenReady delay (·.seed level)
  | .wrongKey delay => s.whenReady delay LockRun.wrongKey
  | .correctKey level delay => s.whenReady delay (·.correctKey level)
  | .resetEcu delay =>
    { s with gate := gateResetEcu s.gate (tick32 (s.now + delay)), now := s.now + delay }
  | .powerCycle start later => lockBoot g p s.world.2 start later s.wrong

/-- The first boot, on a flash that has just been delivered. -/
def lockStart (g : NorStore) (p : LockParams) (start later : Nat) : LockRun :=
  lockBoot g p g.delivered start later 0

/-! ## The invariant -/

section Held

variable {g : NorStore} {p : LockParams}

/-- What every power cycle gives the gate. -/
structure Configured (p : LockParams)
    (lock : GateLock (UdsSecurityNvm NorFlash × NorFlash)) : Prop where
  persist : lock.persistFn = some udsSecurityNvmGatePersist
  maxAttempts : lock.maxAttempts = (p.fresh 0).maxAttempts
  lockout : lock.lockoutMs = (p.fresh 0).lockoutMs

/-- The storage has the gate's attempts, and these are no fewer than the wrong keys. -/
structure Counted (p : LockParams) (hsound : Sound g.securityLayout) (n : Nat)
    (last : Option (UInt8 × UInt32)) (lock : GateLock (UdsSecurityNvm NorFlash × NorFlash))
    (world : UdsSecurityNvm NorFlash × NorFlash) (now lockedSince wrong : Nat) : Prop where
  configured : Configured p lock
  storage : SecurityClean hsound n world last
  stored : (last.getD (0, 0)).1 = lock.failedAttempts
  length : (last.getD (0, 0)).2 = 0 ∨ (last.getD (0, 0)).2 = lock.lockoutMs
  count : wrong ≤ lock.failedAttempts.toNat
  bound : lock.failedAttempts ≤ lock.maxAttempts
  locked : lock.lockoutActive = true → lockedSince ≤ now ∧
    lock.lockoutUntilMs = tick32 lockedSince + lock.lockoutMs
  unlocked : lock.lockoutActive = false → lock.failedAttempts < lock.maxAttempts

/-- A gate without a storage is locked out, and stays so. -/
structure Shut (p : LockParams) (lock : GateLock (UdsSecurityNvm NorFlash × NorFlash))
    (world : UdsSecurityNvm NorFlash × NorFlash) (wrong : Nat) : Prop where
  configured : Configured p lock
  store : world.1.store = none
  locked : lock.lockoutActive = true
  none_judged : wrong = 0

/-- What holds between the calls. -/
def LockHeld (g : NorStore) (p : LockParams) (s : LockRun) : Prop :=
  (Opens g.port g.flashBase g.sectorCount securityRecordSize ∧
    ∃ (hsound : Sound g.securityLayout) (n : Nat) (last : Option (UInt8 × UInt32)),
      Counted p hsound n last (gateLock s.gate) s.world s.now s.lockedSince s.wrong) ∨
  (¬Opens g.port g.flashBase g.sectorCount securityRecordSize ∧
    Shut p (gateLock s.gate) s.world s.wrong)

theorem Configured.pos {lock : GateLock (UdsSecurityNvm NorFlash × NorFlash)}
    (h : Configured p lock) : 0 < lock.maxAttempts := by
  have hfresh : Unlocked (p.fresh 0) := freshGate_unlocked ..
  rw [h.maxAttempts]
  exact hfresh.maxAttempts

theorem Configured.lockout_ne_zero {lock : GateLock (UdsSecurityNvm NorFlash × NorFlash)}
    (h : Configured p lock) : lock.lockoutMs ≠ 0 := by
  have hfresh : Unlocked (p.fresh 0) := freshGate_unlocked ..
  rw [h.lockout]
  exact hfresh.lockout

variable {hsound : Sound g.securityLayout} {n : Nat} {last : Option (UInt8 × UInt32)} {s : LockRun}

/-- Time may go by. -/
theorem Counted.later {lock : GateLock (UdsSecurityNvm NorFlash × NorFlash)}
    {world : UdsSecurityNvm NorFlash × NorFlash} {now now' lockedSince wrong : Nat}
    (h : Counted p hsound n last lock world now lockedSince wrong) (hle : now ≤ now') :
    Counted p hsound n last lock world now' lockedSince wrong :=
  { h with locked := fun hactive => ⟨Nat.le_trans (h.locked hactive).1 hle, (h.locked hactive).2⟩ }

/-! ## The tick -/

theorem Counted.tick
    (h : Counted p hsound n last (gateLock s.gate) s.world s.now s.lockedSince s.wrong)
    (hshort : (p.fresh 0).lockoutMs.toNat ≤ 2 ^ 31) (delay : Nat) :
    ∃ n last, Counted p hsound n last (gateLock (s.tick delay).gate) (s.tick delay).world
      (s.tick delay).now (s.tick delay).lockedSince (s.tick delay).wrong := by
  have hlock := gateTick_lock s.gate (tick32 (s.now + delay)) s.world
  have hpersist : s.gate.persistFn = some udsSecurityNvmGatePersist := h.configured.persist
  have hwritten : gatePersist s.gate 0 0 s.world = udsSecurityNvmGatePersist s.world 0 0 := by
    unfold gatePersist
    rw [hpersist]
  obtain ⟨hok, hclean⟩ := h.storage.persist 0 0
  rw [hwritten] at hlock
  unfold LockRun.tick
  dsimp only
  generalize gateTick s.gate (tick32 (s.now + delay)) s.world = out at hlock ⊢
  obtain ⟨gate, world⟩ := out
  dsimp only at hlock ⊢
  obtain ⟨hahead, hsame, rfl⟩ | ⟨⟨hactive, hexpired⟩, rfl, ⟨-, hended⟩ | ⟨hrefused, -⟩⟩ := hlock
  · have hkept : gate.lockoutActive = s.gate.lockoutActive :=
      congrArg GateLock.lockoutActive hsame
    rw [hsame, if_neg fun hend => hend.2.1 (hkept.trans hend.1)]
    exact ⟨n, last, h.later (Nat.le_add_right ..)⟩
  · -- the lockout has been served
    have hover : gate.lockoutActive = false := congrArg GateLock.lockoutActive hended
    obtain ⟨hsince, huntil⟩ := h.locked hactive
    have huntil : s.gate.lockoutUntilMs = tick32 s.lockedSince + tick32 s.gate.lockoutMs.toNat :=
      huntil.trans (congrArg (tick32 s.lockedSince + ·) UInt32.ofNat_toNat.symm)
    have hlockout : s.gate.lockoutMs = (p.fresh 0).lockoutMs := h.configured.lockout
    rw [huntil] at hexpired
    have hserved := le_of_expired (Nat.le_trans hsince (Nat.le_add_right s.now delay))
      (by rw [hlockout]; exact hshort) hexpired
    rw [hended, if_pos ⟨hactive, by simp [hover], hserved⟩]
    exact ⟨n + 1, some (0, 0), ⟨h.configured.persist, h.configured.maxAttempts,
      h.configured.lockout⟩, hclean, rfl, .inl rfl, Nat.le_refl _, UInt8.zero_le, nofun,
      fun _ => h.configured.pos⟩
  · rw [hok] at hrefused
    exact Bool.noConfusion hrefused

/-! ## Keys -/

theorem Counted.wrongKey
    (h : Counted p hsound n last (gateLock s.gate) s.world s.now s.lockedSince s.wrong)
    (hinactive : s.gate.lockoutActive = false) :
    ∃ n last, Counted p hsound n last (gateLock s.wrongKey.gate) s.wrongKey.world
      s.wrongKey.now s.wrongKey.lockedSince s.wrongKey.wrong := by
  have hpersist : s.gate.persistFn = some udsSecurityNvmGatePersist := h.configured.persist
  have hbelow : s.gate.failedAttempts < s.gate.maxAttempts := h.unlocked hinactive
  have hcount : s.wrong ≤ s.gate.failedAttempts.toNat := h.count
  obtain ⟨hworld, hlock⟩ := gateRecordFailure_lock s.gate (tick32 s.now) s.world hinactive
    h.configured.lockout_ne_zero
  have hmax := s.gate.maxAttempts.toNat_lt
  have hnext : (s.gate.failedAttempts + 1).toNat = s.gate.failedAttempts.toNat + 1 := by
    rw [UInt8.lt_iff_toNat_lt] at hbelow
    rw [UInt8.toNat_add]
    exact Nat.mod_eq_of_lt (by simp only [UInt8.reduceToNat]; omega)
  generalize hremaining : (if s.gate.maxAttempts ≤ s.gate.failedAttempts + 1 then
    storedLockout (tick32 s.now) s.gate.lockoutMs else 0) = remaining at hworld hlock
  have hwritten : gatePersist s.gate (s.gate.failedAttempts + 1) remaining s.world
      = udsSecurityNvmGatePersist s.world (s.gate.failedAttempts + 1) remaining := by
    unfold gatePersist
    rw [hpersist]
  obtain ⟨hok, hclean⟩ := h.storage.persist (s.gate.failedAttempts + 1) remaining
  rw [hwritten] at hworld hlock
  -- no lockout is stored, or one of full length
  have hlength : remaining = 0 ∨ remaining = s.gate.lockoutMs := by
    rw [← hremaining]
    unfold storedLockout
    split
    · split
      · exact .inr rfl
      · exact .inl rfl
    · exact .inl rfl
  have hwrong : s.wrong + 1 ≤ (s.gate.failedAttempts + 1).toNat := by omega
  unfold LockRun.wrongKey
  dsimp only
  generalize gateRecordFailure s.gate (tick32 s.now) s.world = out at hworld hlock ⊢
  obtain ⟨gate, world⟩ := out
  dsimp only at hworld hlock ⊢
  subst hworld
  by_cases hmany : s.gate.maxAttempts ≤ s.gate.failedAttempts + 1
  · -- one too many: a lockout begins
    rw [if_pos (.inl hmany)] at hlock
    have hactive : gate.lockoutActive = true := congrArg GateLock.lockoutActive hlock
    rw [hlock, if_pos hactive]
    refine ⟨n + 1, some (s.gate.failedAttempts + 1, remaining), ⟨h.configured.persist,
      h.configured.maxAttempts, h.configured.lockout⟩, hclean, rfl, hlength, hwrong, ?_,
      fun _ => ⟨Nat.le_refl _, rfl⟩, nofun⟩
    show s.gate.failedAttempts + 1 ≤ s.gate.maxAttempts
    rw [UInt8.lt_iff_toNat_lt] at hbelow
    rw [UInt8.le_iff_toNat_le, hnext]
    exact hbelow
  -- not yet too many: the gate only counts
  · rw [if_neg fun hlocks => hlocks.elim hmany fun hrefused => by
      rw [hok] at hrefused
      exact Bool.noConfusion hrefused] at hlock
    have hstill : gate.lockoutActive = false :=
      (congrArg GateLock.lockoutActive hlock).trans hinactive
    have hfew : s.gate.failedAttempts + 1 < s.gate.maxAttempts := UInt8.not_le.mp hmany
    rw [hlock, if_neg (by simp [hstill])]
    refine ⟨n + 1, some (s.gate.failedAttempts + 1, remaining), ⟨h.configured.persist,
      h.configured.maxAttempts, h.configured.lockout⟩, hclean, rfl, hlength, hwrong,
      UInt8.le_of_lt hfew, fun hactive => ?_, fun _ => hfew⟩
    have hactive : s.gate.lockoutActive = true := hactive
    rw [hinactive] at hactive
    exact Bool.noConfusion hactive

theorem Counted.correctKey
    (h : Counted p hsound n last (gateLock s.gate) s.world s.now s.lockedSince s.wrong)
    (level : UInt8) :
    ∃ n last, Counted p hsound n last (gateLock (s.correctKey level).gate) (s.correctKey level).world
      (s.correctKey level).now (s.correctKey level).lockedSince (s.correctKey level).wrong := by
  have hpersist : s.gate.persistFn = some udsSecurityNvmGatePersist := h.configured.persist
  obtain ⟨-, hclean⟩ := h.storage.persist 0 0
  have hworld : (s.correctKey level).world = (udsSecurityNvmGatePersist s.world 0 0).2 := by
    refine (gateRecordSuccess_lock s.gate s.world level).1.trans ?_
    unfold gatePersist
    rw [hpersist]
  rw [hworld]
  exact ⟨n + 1, some (0, 0), ⟨h.configured.persist, h.configured.maxAttempts,
    h.configured.lockout⟩, hclean, rfl, .inl rfl, Nat.le_refl _, UInt8.zero_le, h.locked,
    fun _ => h.configured.pos⟩

/-! ## Power cycles -/

/-- Attaching restores what was written last. -/
theorem SecurityClean.attach {w : UdsSecurityNvm NorFlash × NorFlash}
    (h : SecurityClean hsound n w last)
    (gate : UdsSecurityGate (UdsSecurityNvm NorFlash × NorFlash)) (now : UInt32) :
    udsSecurityNvmAttach gate now w =
      (last.elim (gateSetPersistence gate (some udsSecurityNvmGatePersist)) fun state =>
        gateRestoreState (gateSetPersistence gate (some udsSecurityNvmGatePersist)) state.1 state.2
          now, w) := by
  unfold udsSecurityNvmAttach
  rw [h.store]
  cases n with
  | zero =>
    rw [h.empty rfl]
    rfl
  | succ m =>
    obtain ⟨failedAttempts, remainingMs, rfl, hdata⟩ := h.newest m rfl
    dsimp only
    rw [if_neg (by simp [resumedAt]), load_resumedAt hsound g.onNorSecurity.healthy h.clean.logged,
      hdata]
    dsimp only
    rw [SecurityRecord.decode_encode]
    refine (if_neg fun hbad => ?_)
    exact hbad.elim (fun hmagic => hmagic rfl) fun hcheck => hcheck rfl

/-- A boot comes up with the attempts that were written last, and with a whole lockout. -/
theorem lockBoot_counted {w : UdsSecurityNvm NorFlash × NorFlash}
    (hstorage : SecurityClean hsound n w last)
    (hopens : Opens g.port g.flashBase g.sectorCount securityRecordSize) {wrong : Nat}
    (hlength : (last.getD (0, 0)).2 = 0 ∨ (last.getD (0, 0)).2 = (p.fresh 0).lockoutMs)
    (hcount : wrong ≤ (last.getD (0, 0)).1.toNat)
    (hbound : (last.getD (0, 0)).1 ≤ (p.fresh 0).maxAttempts) (start later : Nat) :
    let s := lockBoot g p w.2 start later wrong
    Counted p hsound n last (gateLock s.gate) s.world s.now s.lockedSince s.wrong := by
  have hfresh : Unlocked (p.fresh 0) := freshGate_unlocked ..
  unfold lockBoot
  rw [hstorage.init hopens]
  dsimp only
  rw [hstorage.attach]
  dsimp only
  cases last with
  | none =>
    exact ⟨⟨rfl, rfl, rfl⟩, hstorage, rfl, .inl rfl, hcount, UInt8.zero_le, nofun,
      fun _ => hfresh.maxAttempts⟩
  | some state =>
    obtain ⟨failedAttempts, remainingMs⟩ := state
    have hlock := gateRestoreState_lock
      (gateSetPersistence (p.fresh (tick32 start)) (some udsSecurityNvmGatePersist))
      (tick32 (start + later)) hfresh.maxAttempts failedAttempts remainingMs
    dsimp only [Option.elim]
    split at hlock
    -- the stored count or the stored time locks the gate again
    next hlocks =>
      rw [hlock]
      refine ⟨⟨rfl, rfl, rfl⟩, hstorage, rfl, hlength, hcount, hbound,
        fun _ => ⟨Nat.le_refl _, ?_⟩, nofun⟩
      obtain hzero | hwhole := hlength
      · have hzero : remainingMs = 0 := hzero
        rw [if_neg (not_not.mpr hzero)]
        rfl
      · have hwhole : remainingMs = (p.fresh 0).lockoutMs := hwhole
        rw [if_pos (hwhole ▸ hfresh.lockout), hwhole]
        rfl
    next hlocks =>
      rw [hlock]
      exact ⟨⟨rfl, rfl, rfl⟩, hstorage, rfl, hlength, hcount, hbound, nofun,
        fun _ => UInt8.not_le.mp fun hmany => hlocks (.inr hmany)⟩

/-! ## Without a storage -/

theorem Shut.tick (h : Shut p (gateLock s.gate) s.world s.wrong)
    (hshort : (p.fresh 0).lockoutMs.toNat ≤ 2 ^ 31) (delay : Nat) :
    Shut p (gateLock (s.tick delay).gate) (s.tick delay).world (s.tick delay).wrong ∧
      gateDelayActive (s.tick delay).gate (tick32 (s.tick delay).now) = true := by
  have hlock := gateTick_lock s.gate (tick32 (s.now + delay)) s.world
  have hlocked := gateTick_locked s.gate (tick32 (s.now + delay)) s.world
    h.configured.lockout_ne_zero (by
      rw [show s.gate.lockoutMs = (p.fresh 0).lockoutMs from h.configured.lockout]
      exact hshort)
  have hpersist : s.gate.persistFn = some udsSecurityNvmGatePersist := h.configured.persist
  have hrefused : gatePersist s.gate 0 0 s.world = (false, s.world) := by
    unfold gatePersist
    rw [hpersist]
    unfold udsSecurityNvmGatePersist
    dsimp only
    rw [h.store]
  have hwrong : ∀ b : Prop, [Decidable b] → (if b then 0 else s.wrong) = 0 := by
    intro b _
    rw [h.none_judged]
    exact ite_self 0
  rw [hrefused] at hlock
  unfold LockRun.tick
  dsimp only
  rw [hwrong]
  generalize gateTick s.gate (tick32 (s.now + delay)) s.world = out at hlock hlocked ⊢
  obtain ⟨gate, world⟩ := out
  dsimp only at hlock hlocked ⊢
  obtain ⟨-, hsame, rfl⟩ | ⟨-, rfl, ⟨hstored, -⟩ | ⟨-, hrenewed⟩⟩ := hlock
  · have hactive : gate.lockoutActive = true :=
      (congrArg GateLock.lockoutActive hsame).trans h.locked
    rw [hsame]
    exact ⟨⟨h.configured, h.store, h.locked, rfl⟩,
      gateDelayActive_locked _ _ hactive (hlocked hactive)⟩
  · exact Bool.noConfusion hstored
  · have hactive : gate.lockoutActive = true :=
      (congrArg GateLock.lockoutActive hrenewed).trans h.locked
    rw [hrenewed]
    exact ⟨⟨⟨h.configured.persist, h.configured.maxAttempts, h.configured.lockout⟩, h.store,
      h.locked, rfl⟩, gateDelayActive_locked _ _ hactive (hlocked hactive)⟩

theorem lockBoot_shut (hopens : ¬Opens g.port g.flashBase g.sectorCount securityRecordSize)
    (flash : NorFlash) (start later : Nat) :
    Shut p (gateLock (lockBoot g p flash start later 0).gate)
      (lockBoot g p flash start later 0).world 0 := by
  have hfresh : Unlocked (p.fresh 0) := freshGate_unlocked ..
  have hlock := gateRestoreState_lock
    (gateSetPersistence (p.fresh (tick32 start)) (some udsSecurityNvmGatePersist))
    (tick32 (start + later)) hfresh.maxAttempts (p.fresh 0).maxAttempts (p.fresh 0).lockoutMs
  rw [if_pos (Or.inl hfresh.lockout)] at hlock
  unfold lockBoot
  rw [securityNvmInit_closed hopens rfl]
  dsimp only [udsSecurityNvmAttach]
  exact ⟨hlock ▸ ⟨rfl, rfl, rfl⟩, rfl, hlock ▸ rfl, rfl⟩

/-! ## The run -/

theorem LockHeld.whenReady (hshort : (p.fresh 0).lockoutMs.toNat ≤ 2 ^ 31) (h : LockHeld g p s)
    (delay : Nat) {act : LockRun → LockRun}
    (hact : ∀ (s : LockRun) (hsound : Sound g.securityLayout) (n : Nat)
        (last : Option (UInt8 × UInt32)), s.gate.lockoutActive = false →
      Counted p hsound n last (gateLock s.gate) s.world s.now s.lockedSince s.wrong →
      ∃ n last, Counted p hsound n last (gateLock (act s).gate) (act s).world (act s).now
        (act s).lockedSince (act s).wrong) :
    LockHeld g p (s.whenReady delay act) := by
  unfold LockRun.whenReady
  dsimp only
  obtain ⟨hopens, hsound, n, last, h⟩ | ⟨hopens, h⟩ := h
  · obtain ⟨n', last', hticked⟩ := h.tick hshort delay
    split
    next => exact .inl ⟨hopens, hsound, n', last', hticked⟩
    next hready =>
      have hinactive : (s.tick delay).gate.lockoutActive = false := by
        refine gateTick_unlocked s.gate (tick32 (s.now + delay)) s.world
          h.configured.lockout_ne_zero ?_ ((Bool.not_eq_true _).mp hready)
        rw [show s.gate.lockoutMs = (p.fresh 0).lockoutMs from h.configured.lockout]
        exact hshort
      exact .inl ⟨hopens, hsound, hact _ hsound n' last' hinactive hticked⟩
  · obtain ⟨hticked, hdelayed⟩ := h.tick hshort delay
    rw [if_pos hdelayed]
    exact .inr ⟨hopens, hticked⟩

theorem lockStep_held (hshort : (p.fresh 0).lockoutMs.toNat ≤ 2 ^ 31) (call : LockCall)
    (h : LockHeld g p s) : LockHeld g p (lockStep g p s call) := by
  cases call with
  | tick delay =>
    obtain ⟨hopens, hsound, n, last, h⟩ | ⟨hopens, h⟩ := h
    · exact .inl ⟨hopens, hsound, h.tick hshort delay⟩
    · exact .inr ⟨hopens, (h.tick hshort delay).1⟩
  | seed level delay =>
    exact h.whenReady hshort delay fun s hsound n last _ h => ⟨n, last, h⟩
  | wrongKey delay =>
    exact h.whenReady hshort delay fun s hsound n last hinactive h => h.wrongKey hinactive
  | correctKey level delay =>
    exact h.whenReady hshort delay fun s hsound n last _ h => h.correctKey level
  | resetEcu delay =>
    obtain ⟨hopens, hsound, n, last, h⟩ | ⟨hopens, h⟩ := h
    · exact .inl ⟨hopens, hsound, n, last, h.later (Nat.le_add_right ..)⟩
    · exact .inr ⟨hopens, h⟩
  | powerCycle start later =>
    obtain ⟨hopens, hsound, n, last, h⟩ | ⟨hopens, h⟩ := h
    · have hlength := h.length
      rw [h.configured.lockout] at hlength
      have hbound := h.bound
      rw [← h.stored, h.configured.maxAttempts] at hbound
      have hcount := h.count
      rw [← h.stored] at hcount
      exact .inl ⟨hopens, hsound, n, last,
        lockBoot_counted h.storage hopens hlength hcount hbound start later⟩
    · refine .inr ⟨hopens, ?_⟩
      show Shut p (gateLock (lockBoot g p s.world.2 start later s.wrong).gate) _ s.wrong
      rw [h.none_judged]
      exact lockBoot_shut hopens s.world.2 start later

theorem lockStart_held
    (hsound : Opens g.port g.flashBase g.sectorCount securityRecordSize → Sound g.securityLayout)
    (start later : Nat) : LockHeld g p (lockStart g p start later) := by
  by_cases hopens : Opens g.port g.flashBase g.sectorCount securityRecordSize
  · exact .inl ⟨hopens, hsound hopens, 0, none,
      lockBoot_counted (securityClean_delivered (hsound hopens)) hopens (.inl rfl) (Nat.le_refl _)
        UInt8.zero_le start later⟩
  · exact .inr ⟨hopens, lockBoot_shut hopens g.delivered start later⟩

theorem LockHeld.wrong_le (h : LockHeld g p s) : s.wrong ≤ (p.fresh 0).maxAttempts.toNat := by
  obtain ⟨-, hsound, n, last, h⟩ | ⟨-, h⟩ := h
  · have hbound := h.bound
    rw [h.configured.maxAttempts, UInt8.le_iff_toNat_le] at hbound
    exact Nat.le_trans h.count hbound
  · rw [h.none_judged]
    exact Nat.zero_le _

end Held

/-- On a healthy port with at least two sectors whose slots the store can count, and with a
lockout below half the clock's range: however keys, ticks, resets and power cycles follow one
another, no more wrong keys than the gate allows are judged without a correct key or a lockout
served in full. -/
theorem wrong_keys_bounded (g : NorStore)
    (hregion : g.flashBase.toNat + g.sectorCount.toNat * g.sectorSize.toNat ≤ 2 ^ 32)
    (hcountable : Opens g.port g.flashBase g.sectorCount securityRecordSize →
      Countable g.port g.flashBase g.sectorCount securityRecordSize) (p : LockParams)
    (hshort : p.lockoutMs.toNat < 2 ^ 31) (start later : Nat) (calls : List LockCall) :
    (run (lockStep g p) (lockStart g p start later) calls).wrong
      ≤ (p.fresh 0).maxAttempts.toNat := by
  have hsound : Opens g.port g.flashBase g.sectorCount securityRecordSize →
      Sound g.securityLayout :=
    fun hopens => securityLayout_sound hregion hopens.two_le (hcountable hopens)
  have hwhole : (p.fresh 0).lockoutMs.toNat ≤ 2 ^ 31 := by
    show (if p.lockoutMs = 0 then 10000 else if p.lockoutMs < 1000 then 1000
      else p.lockoutMs : UInt32).toNat ≤ 2 ^ 31
    split
    next => decide
    next =>
      split
      next => decide
      next => exact Nat.le_of_lt hshort
  have hheld : LockHeld g p (run (lockStep g p) (lockStart g p start later) calls) :=
    run_inv (I := LockHeld g p) (fun _ call h => lockStep_held hwhole call h)
      (lockStart_held hsound start later) calls
  exact hheld.wrong_le

/-- Three attempts, and ten seconds of lockout. -/
def threeAttempts : LockParams := ⟨0, 10000, 0, 3⟩

/-- The attempts of both power cycles count together. -/
theorem wrong_keys_bounded_small :
    (run (lockStep smallStore threeAttempts) (lockStart smallStore threeAttempts 0 0)
      [.wrongKey 1, .wrongKey 1, .powerCycle 0 0, .wrongKey 1, .wrongKey 1]).wrong
        ≤ (threeAttempts.fresh 0).maxAttempts.toNat :=
  wrong_keys_bounded smallStore (by decide) (fun _ => ⟨by decide, by decide⟩) threeAttempts
    (by decide) 0 0 _

/-- A store that counts no slots finds none after the power cycle. -/
theorem wrong_keys_forgotten :
    (threeAttempts.fresh 0).maxAttempts = 3 ∧
      (run (lockStep wideStore threeAttempts) (lockStart wideStore threeAttempts 0 0)
        [.wrongKey 1, .wrongKey 1, .powerCycle 0 0, .wrongKey 1, .wrongKey 1]).wrong = 4 := by
  constructor <;> decide +kernel

end UdsIsoTp.Flash
