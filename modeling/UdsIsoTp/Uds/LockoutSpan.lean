import UdsIsoTp.Lib.Run
import UdsIsoTp.Uds.GateSteps

/-!
# How long a lockout lasts

A lockout ends when a deadline is reached, and the comparison with the deadline is right up to
half the range of the clock (`not_expired_ahead`). `uds_security_gate_set_timing` and
`uds_security_gate_restore_state` take any duration. One of at most half the range lasts in full;
a longer one is over when it begins (`lockout_lasts_iff`).
-/

namespace UdsIsoTp.Uds

variable {ω : Type}

/-- The lockout that `set_timing` makes of its argument. -/
def lockoutDuration (lockoutMs : UInt32) : UInt32 :=
  if lockoutMs = 0 then 10000 else if lockoutMs < 1000 then 1000 else lockoutMs

/-- `uds_security_gate_set_timing` takes any duration there is. -/
theorem gateSetTiming_lockoutMs (gate : UdsSecurityGate ω)
    (initialDelayMs lockoutMs seedTimeoutMs : UInt32) (maxAttempts : UInt8) (now : UInt32) :
    (gateSetTiming gate initialDelayMs lockoutMs seedTimeoutMs maxAttempts now).lockoutMs
      = lockoutDuration lockoutMs := rfl

/-- The state after ticks, each of them this long after `start`. -/
def gateTicks (gate : UdsSecurityGate ω) (start : UInt32) (offsets : List UInt32) (w : ω) :
    UdsSecurityGate ω × ω :=
  run (fun s e => gateTick s.1 (start + e) s.2) (gate, w) offsets

/-- For the whole duration, whatever ticks there are, the delay is active and the attempts are
not cleared. -/
def LastsFull (gate : UdsSecurityGate ω) (start duration : UInt32) : Prop :=
  ∀ (w : ω) (offsets : List UInt32), (∀ e ∈ offsets, e < duration) →
    (gateTicks gate start offsets w).1.failedAttempts = gate.failedAttempts ∧
      ∀ e < duration, gateDelayActive (gateTicks gate start offsets w).1 (start + e) = true

/-- The gate is locked out for this long. -/
structure LockedFor (gate : UdsSecurityGate ω) (start duration : UInt32) : Prop where
  active : gate.lockoutActive = true
  until_ : gate.lockoutUntilMs = start + duration

/-! ## The clock -/

theorem expired_offset (start e duration : UInt32) :
    expired (start + e) (start + duration) = decide ((e - duration).toNat < 2 ^ 31) := by
  unfold expired
  rw [show start + e - (start + duration) = e - duration by grind]

/-- Before its end, a duration of at most half the range is not over. -/
theorem not_expired_before {e duration : UInt32} (start : UInt32) (he : e < duration)
    (hhalf : duration.toNat ≤ 2 ^ 31) : expired (start + e) (start + duration) = false := by
  have he := UInt32.lt_iff_toNat_lt.mp he
  rw [expired_offset, UInt32.toNat_sub]
  simp only [decide_eq_false_iff_not, Nat.not_lt]
  omega

/-- A longer one is over at once. -/
theorem expired_at_once {duration : UInt32} (start : UInt32) (hlong : 2 ^ 31 < duration.toNat) :
    expired (start + 0) (start + duration) = true := by
  have hlt := duration.toNat_lt
  rw [expired_offset, UInt32.toNat_sub]
  simp only [decide_eq_true_eq, UInt32.toNat_zero]
  omega

/-! ## Lockouts -/

/-- A tick before the end leaves the lockout and the attempts. -/
theorem LockedFor.tick {gate : UdsSecurityGate ω} {start e duration : UInt32} {w : ω}
    (h : LockedFor gate start duration) (he : e < duration) (hhalf : duration.toNat ≤ 2 ^ 31) :
    LockedFor (gateTick gate (start + e) w).1 start duration ∧
      (gateTick gate (start + e) w).1.failedAttempts = gate.failedAttempts := by
  obtain ⟨-, hsame, -⟩ | ⟨⟨-, hup⟩, -⟩ := gateTick_lock gate (start + e) w
  · refine ⟨⟨?_, ?_⟩, congrArg GateLock.failedAttempts hsame⟩
    · exact (congrArg GateLock.lockoutActive hsame).trans h.active
    · exact (congrArg GateLock.lockoutUntilMs hsame).trans h.until_
  · rw [h.until_, not_expired_before start he hhalf] at hup
    exact Bool.noConfusion hup

theorem LockedFor.lasts {gate : UdsSecurityGate ω} {start duration : UInt32}
    (h : LockedFor gate start duration) (hhalf : duration.toNat ≤ 2 ^ 31) :
    LastsFull gate start duration := by
  intro w offsets hoffsets
  have hrun : LockedFor (gateTicks gate start offsets w).1 start duration ∧
      (gateTicks gate start offsets w).1.failedAttempts = gate.failedAttempts := by
    refine Along.inv (I := fun s : UdsSecurityGate ω × ω =>
      LockedFor s.1 start duration ∧ s.1.failedAttempts = gate.failedAttempts)
      (fun s e hs he => ?_) ⟨h, rfl⟩ (along_of_forall hoffsets _)
    obtain ⟨hlocked, hsame⟩ := hs.1.tick (w := s.2) he hhalf
    exact ⟨hlocked, hsame.trans hs.2⟩
  refine ⟨hrun.2, fun e he => gateDelayActive_locked _ _ hrun.1.active ?_⟩
  rw [hrun.1.until_]
  exact not_expired_before start he hhalf

/-- Without an initial delay to stand in for it, a lockout that is over at once does not last. -/
theorem LockedFor.half {gate : UdsSecurityGate ω} {start duration : UInt32} (w : ω)
    (h : LockedFor gate start duration) (hdelay : gate.initialDelayActive = false)
    (hlasts : LastsFull gate start duration) : duration.toNat ≤ 2 ^ 31 := by
  by_contra hlong
  have hlong := Nat.not_le.mp hlong
  have hpos : 0 < duration := UInt32.lt_iff_toNat_lt.mpr (Nat.lt_trans (by decide) hlong)
  have hstill := (hlasts w [] nofun).2 0 hpos
  have hup : expired (start + 0) gate.lockoutUntilMs = true := by
    rw [h.until_]
    exact expired_at_once start hlong
  change gateDelayActive gate (start + 0) = true at hstill
  unfold gateDelayActive at hstill
  rw [if_neg (by simp [hdelay]), if_neg fun h => h.2 hup] at hstill
  exact Bool.noConfusion hstill

/-! ## How they begin -/

/-- One wrong key too many, whatever storage answers. -/
theorem gateRecordFailure_locked (gate : UdsSecurityGate ω) (now : UInt32) (w : ω)
    (hmany : gate.maxAttempts ≤ gate.failedAttempts + 1) (hpos : gate.lockoutMs ≠ 0) :
    LockedFor (gateRecordFailure gate now w).1 now gate.lockoutMs := by
  unfold gateRecordFailure
  dsimp only [gateInvalidateSeed]
  rw [if_pos hmany]
  dsimp only
  generalize gatePersist _ (gate.failedAttempts + 1) _ w = out
  obtain ⟨stored, w'⟩ := out
  cases stored with
  | false => exact ⟨rfl, rfl⟩
  | true => exact ⟨decide_eq_true hpos, rfl⟩

theorem gateRestoreState_locked (gate : UdsSecurityGate ω) (failedAttempts : UInt8)
    {remainingMs : UInt32} (now : UInt32) (hpos : 0 < remainingMs) :
    LockedFor (gateRestoreState gate failedAttempts remainingMs now) now remainingMs := by
  unfold gateRestoreState
  dsimp only
  rw [if_pos hpos]
  exact ⟨rfl, rfl⟩

theorem lockoutDuration_ne (lockoutMs : UInt32) : lockoutDuration lockoutMs ≠ 0 := by
  unfold lockoutDuration
  split
  next => decide
  next hne =>
    split
    next => decide
    next => exact hne

/-- A lockout of no length has nothing to last. -/
theorem lastsFull_zero (gate : UdsSecurityGate ω) (start : UInt32) : LastsFull gate start 0 := by
  intro w offsets hoffsets
  have hnone : offsets = [] :=
    List.eq_nil_iff_forall_not_mem.mpr fun e he => UInt32.not_lt_zero (hoffsets e he)
  subst hnone
  exact ⟨rfl, fun e he => absurd he UInt32.not_lt_zero⟩

/-- **The length of a lockout.** The lockouts that a configured duration or a restored rest of one
begins last in full exactly if it is at most half the range of the clock. -/
theorem lockout_lasts_iff (lockoutMs remainingMs : UInt32) (w : ω) :
    ((∀ (gate : UdsSecurityGate ω) (start : UInt32) (w : ω),
        gate.lockoutMs = lockoutDuration lockoutMs →
        gate.maxAttempts ≤ gate.failedAttempts + 1 →
        LastsFull (gateRecordFailure gate start w).1 start gate.lockoutMs) ↔
      (lockoutDuration lockoutMs).toNat ≤ 2 ^ 31) ∧
    ((∀ (gate : UdsSecurityGate ω) (failedAttempts : UInt8) (start : UInt32),
        LastsFull (gateRestoreState gate failedAttempts remainingMs start) start remainingMs) ↔
      remainingMs.toNat ≤ 2 ^ 31) := by
  refine ⟨⟨fun hlasts => ?_, fun hhalf gate start w hduration hmany => ?_⟩,
    ⟨fun hlasts => ?_, fun hhalf gate failedAttempts start => ?_⟩⟩
  · have hne := lockoutDuration_ne lockoutMs
    let gate : UdsSecurityGate ω := gateSetTiming (gateInit 0) 0 lockoutMs 0 1 0
    have hlocked := gateRecordFailure_locked gate 0 w (by show (1 : UInt8) ≤ 0 + 1; decide) hne
    have hduration : gate.lockoutMs = lockoutDuration lockoutMs := gateSetTiming_lockoutMs ..
    exact hlocked.half w rfl (hlasts gate 0 w hduration (by show (1 : UInt8) ≤ 0 + 1; decide))
  · rw [hduration]
    refine LockedFor.lasts ?_ hhalf
    rw [← hduration]
    exact gateRecordFailure_locked gate start w hmany (hduration ▸ lockoutDuration_ne lockoutMs)
  · by_cases hpos : 0 < remainingMs
    · have hlocked := gateRestoreState_locked (gateInit 0 : UdsSecurityGate ω) 0 0 hpos
      refine hlocked.half w ?_ (hlasts (gateInit 0) 0 0)
      unfold gateRestoreState
      dsimp only
      rw [if_pos hpos]
      rfl
    · have hzero : remainingMs.toNat = 0 :=
        Nat.eq_zero_of_not_pos fun h => hpos (UInt32.lt_iff_toNat_lt.mpr h)
      omega
  · by_cases hpos : 0 < remainingMs
    · exact (gateRestoreState_locked gate failedAttempts start hpos).lasts hhalf
    · obtain rfl : remainingMs = 0 :=
        UInt32.toNat_inj.mp (Nat.eq_zero_of_not_pos fun h => hpos (UInt32.lt_iff_toNat_lt.mpr h))
      exact lastsFull_zero _ start

/-- A lockout of half the range and one, configured or restored, is not active when it begins, and
the first tick clears the attempts. -/
theorem lockout_over_at_once :
    let gate : UdsSecurityGate Unit := gateSetTiming (gateInit 0) 0 0x80000001 10000 1 0
    let failed := (gateRecordFailure gate 5 ()).1
    let restored := gateRestoreState gate 2 0x80000001 5
    gateDelayActive failed 5 = false ∧ failed.failedAttempts = 1 ∧
      (gateTick failed 5 ()).1.failedAttempts = 0 ∧
      gateDelayActive restored 5 = false ∧ (gateTick restored 5 ()).1.failedAttempts = 0 := by
  decide +kernel

end UdsIsoTp.Uds
