import UdsIsoTp.Uds.SecurityGate

/-!
# What the gate's operations do to the lockout

The attempts and the lockout are a part of the gate that few operations touch (`GateLock`). The
tick ends a lockout or renews it, a wrong key counts and may begin one, a correct key clears the
count; a seed, a change of session and a reset leave all of it.

A gate that has just been ticked and is locked out has its delay active (`gateTick_locked`), so
that no key is judged.
-/

namespace UdsIsoTp.Uds

variable {ω : Type}

/-- The attempts, the lockout and what decides about them. -/
structure GateLock (ω : Type) where
  failedAttempts : UInt8
  lockoutActive : Bool
  lockoutUntilMs : UInt32
  maxAttempts : UInt8
  lockoutMs : UInt32
  persistFn : Option (ω → UInt8 → UInt32 → Bool × ω)

/-- The part of the gate that a lockout is about. -/
def gateLock (gate : UdsSecurityGate ω) : GateLock ω where
  failedAttempts := gate.failedAttempts
  lockoutActive := gate.lockoutActive
  lockoutUntilMs := gate.lockoutUntilMs
  maxAttempts := gate.maxAttempts
  lockoutMs := gate.lockoutMs
  persistFn := gate.persistFn

section Steps

variable (gate : UdsSecurityGate ω) (now : UInt32) (w : ω)

@[simp] theorem gateLock_invalidateSeed : gateLock (gateInvalidateSeed gate) = gateLock gate := rfl

@[simp] theorem gateLock_grantSeed (level : UInt8) :
    gateLock (gateGrantSeed gate level now) = gateLock gate := rfl

@[simp] theorem gateLock_resetSession : gateLock (gateResetSession gate) = gateLock gate := rfl

@[simp] theorem gateLock_resetEcu : gateLock (gateResetEcu gate now) = gateLock gate := rfl

/-- The tick's lockout, between the initial delay and the seed. -/
theorem gateTick_lockout :
    ∃ delayed : Bool, gateLock (gateTick gate now w).1
        = gateLock (gateTickLockout { gate with initialDelayActive := delayed } now w).1 ∧
      (gateTick gate now w).2
        = (gateTickLockout { gate with initialDelayActive := delayed } now w).2 := by
  by_cases hdelay : gate.initialDelayActive ∧ expired now gate.initialDelayUntilMs
  · refine ⟨false, ?_⟩
    unfold gateTick
    rw [if_pos hdelay]
    dsimp only
    split <;> exact ⟨rfl, rfl⟩
  · refine ⟨gate.initialDelayActive, ?_⟩
    unfold gateTick
    rw [if_neg hdelay]
    dsimp only
    split <;> exact ⟨rfl, rfl⟩

/-- The tick leaves the lockout, or its time is up: then it ends, unless storage refuses. -/
theorem gateTick_lock :
    ¬(gate.lockoutActive ∧ expired now gate.lockoutUntilMs) ∧
        gateLock (gateTick gate now w).1 = gateLock gate ∧ (gateTick gate now w).2 = w ∨
      (gate.lockoutActive ∧ expired now gate.lockoutUntilMs) ∧
        (gateTick gate now w).2 = (gatePersist gate 0 0 w).2 ∧
        ((gatePersist gate 0 0 w).1 = true ∧ gateLock (gateTick gate now w).1
            = { gateLock gate with lockoutActive := false, failedAttempts := 0 } ∨
          (gatePersist gate 0 0 w).1 = false ∧ gateLock (gateTick gate now w).1
            = { gateLock gate with lockoutUntilMs := now + gate.lockoutMs }) := by
  obtain ⟨delayed, hlock, hworld⟩ := gateTick_lockout gate now w
  rw [hlock, hworld]
  unfold gateTickLockout
  by_cases hup : gate.lockoutActive ∧ expired now gate.lockoutUntilMs
  · right
    rw [if_pos hup]
    refine ⟨hup, ?_⟩
    dsimp only
    rw [show gatePersist { gate with initialDelayActive := delayed } 0 0 w = gatePersist gate 0 0 w
      from rfl]
    cases hstored : (gatePersist gate 0 0 w).1 with
    | true => exact ⟨rfl, .inl ⟨rfl, rfl⟩⟩
    | false => exact ⟨rfl, .inr ⟨rfl, rfl⟩⟩
  · left
    rw [if_neg hup]
    exact ⟨hup, rfl, rfl⟩

/-- A lockout's deadline lies ahead when it is set. -/
theorem not_expired_ahead {lockoutMs : UInt32} (hpos : lockoutMs ≠ 0)
    (hle : lockoutMs.toNat ≤ 2 ^ 31) : expired now (now + lockoutMs) = false := by
  have hne : lockoutMs.toNat ≠ 0 := fun h => hpos (UInt32.toNat_inj.mp h)
  have hahead := not_expired_of_lt (t := now.toNat) (d := now.toNat + lockoutMs.toNat)
    (by omega) (by omega)
  have hnow : tick32 now.toNat = now := UInt32.ofNat_toNat
  have hlockout : tick32 lockoutMs.toNat = lockoutMs := UInt32.ofNat_toNat
  rwa [tick32_add, hnow, hlockout] at hahead

/-- After a tick a lockout lies ahead. -/
theorem gateTick_locked (hpos : gate.lockoutMs ≠ 0) (hle : gate.lockoutMs.toNat ≤ 2 ^ 31)
    (hactive : (gateTick gate now w).1.lockoutActive = true) :
    expired now (gateTick gate now w).1.lockoutUntilMs = false := by
  have hlock := gateTick_lock gate now w
  generalize (gateTick gate now w).1 = gate' at hlock hactive ⊢
  obtain ⟨hahead, hsame, -⟩ | ⟨hup, -, ⟨-, hended⟩ | ⟨-, hrenewed⟩⟩ := hlock
  · have huntil : gate'.lockoutUntilMs = gate.lockoutUntilMs :=
      congrArg GateLock.lockoutUntilMs hsame
    have hbefore : gate.lockoutActive = true :=
      (congrArg GateLock.lockoutActive hsame).symm.trans hactive
    rw [huntil]
    by_contra hexpired
    exact hahead ⟨hbefore, by simpa using hexpired⟩
  · have hover : gate'.lockoutActive = false := congrArg GateLock.lockoutActive hended
    rw [hactive] at hover
    exact Bool.noConfusion hover
  · have huntil : gate'.lockoutUntilMs = now + gate.lockoutMs :=
      congrArg GateLock.lockoutUntilMs hrenewed
    rw [huntil]
    exact not_expired_ahead now hpos hle

theorem gateDelayActive_locked (hactive : gate.lockoutActive = true)
    (hahead : expired now gate.lockoutUntilMs = false) : gateDelayActive gate now = true := by
  unfold gateDelayActive
  split
  next => rfl
  next => exact if_pos ⟨hactive, by simp [hahead]⟩

/-- So no key is judged while the gate is locked out. -/
theorem gateTick_unlocked (hpos : gate.lockoutMs ≠ 0) (hle : gate.lockoutMs.toNat ≤ 2 ^ 31)
    (hready : gateDelayActive (gateTick gate now w).1 now = false) :
    (gateTick gate now w).1.lockoutActive = false := by
  by_contra hactive
  have hactive : (gateTick gate now w).1.lockoutActive = true := by simpa using hactive
  rw [gateDelayActive_locked _ now hactive (gateTick_locked gate now w hpos hle hactive)] at hready
  exact Bool.noConfusion hready

/-- What is stored of a lockout that begins: its length, unless the clock wraps before its
end. -/
def storedLockout (now lockoutMs : UInt32) : UInt32 :=
  if now < now + lockoutMs then lockoutMs else 0

/-- A wrong key counts. It begins a lockout if it is one too many, or if storage refuses. -/
theorem gateRecordFailure_lock (hinactive : gate.lockoutActive = false)
    (hpos : gate.lockoutMs ≠ 0) :
    let failed := gate.failedAttempts + 1
    let remaining :=
      if gate.maxAttempts ≤ failed then storedLockout now gate.lockoutMs else 0
    (gateRecordFailure gate now w).2 = (gatePersist gate failed remaining w).2 ∧
      gateLock (gateRecordFailure gate now w).1 =
        if gate.maxAttempts ≤ failed ∨ (gatePersist gate failed remaining w).1 = false then
          { gateLock gate with
            failedAttempts := failed
            lockoutActive := true
            lockoutUntilMs := now + gate.lockoutMs }
        else { gateLock gate with failedAttempts := failed } := by
  intro failed remaining
  have hlength : now + gate.lockoutMs - now = gate.lockoutMs := by
    rw [UInt32.add_comm, UInt32.add_sub_cancel]
  unfold gateRecordFailure
  dsimp only [gateInvalidateSeed]
  -- with one attempt too many the lockout is stored, and else none is there to be stored
  by_cases hmany : gate.maxAttempts ≤ failed
  · have hremaining : (if decide (gate.lockoutMs ≠ 0) = true ∧ now < now + gate.lockoutMs then
        now + gate.lockoutMs - now else 0) = remaining := by
      rw [hlength]
      refine (if_congr ?_ rfl rfl).trans (if_pos hmany).symm
      exact and_iff_right (decide_eq_true hpos)
    rw [if_pos (show gate.maxAttempts ≤ gate.failedAttempts + 1 from hmany)]
    dsimp only
    rw [hremaining, if_pos (Or.inl hmany)]
    generalize hstored : gatePersist _ (gate.failedAttempts + 1) remaining w = out
    have hstored : gatePersist gate failed remaining w = out := hstored
    rw [hstored]
    obtain ⟨stored, w'⟩ := out
    cases stored with
    | false => exact ⟨rfl, rfl⟩
    | true =>
      refine ⟨rfl, ?_⟩
      have hactive : decide (gate.lockoutMs ≠ 0) = true := decide_eq_true hpos
      unfold gateLock
      dsimp only
      rw [hactive]
      rfl
  · have hremaining : (if gate.lockoutActive = true ∧ now < gate.lockoutUntilMs then
        gate.lockoutUntilMs - now else 0) = remaining := by
      rw [show remaining = 0 from if_neg hmany]
      exact if_neg (by simp [hinactive])
    rw [if_neg (show ¬gate.maxAttempts ≤ gate.failedAttempts + 1 from hmany)]
    dsimp only
    rw [hremaining]
    generalize hstored : gatePersist _ (gate.failedAttempts + 1) remaining w = out
    have hstored : gatePersist gate failed remaining w = out := hstored
    rw [hstored]
    obtain ⟨stored, w'⟩ := out
    cases stored with
    | false => exact ⟨rfl, (if_pos (Or.inr rfl)).symm⟩
    | true =>
      refine ⟨rfl, (if_neg fun h => ?_).symm⟩
      exact h.elim hmany fun hfalse => Bool.noConfusion hfalse

/-- A correct key clears the count. -/
theorem gateRecordSuccess_lock (level : UInt8) :
    (gateRecordSuccess gate level w).2 = (gatePersist gate 0 0 w).2 ∧
      gateLock (gateRecordSuccess gate level w).1
        = { gateLock gate with failedAttempts := 0 } := ⟨rfl, rfl⟩

/-- A restored lockout takes what was left of it, or its whole length if only the attempts say
that there is one. -/
theorem gateRestoreState_eq (hmax : 0 < gate.maxAttempts) (failedAttempts : UInt8)
    (remainingMs : UInt32) :
    gateRestoreState gate failedAttempts remainingMs now =
      if remainingMs ≠ 0 ∨ gate.maxAttempts ≤ failedAttempts then
        { gate with
          failedAttempts := failedAttempts
          lockoutActive := true
          lockoutUntilMs := now + if remainingMs ≠ 0 then remainingMs else gate.lockoutMs
          state := .lockout }
      else { gate with failedAttempts := failedAttempts } := by
  unfold gateRestoreState
  dsimp only
  by_cases hremaining : remainingMs = 0
  · rw [hremaining, if_neg (UInt32.lt_irrefl 0)]
    by_cases hmany : gate.maxAttempts ≤ failedAttempts
    · rw [if_pos ⟨hmany, hmax⟩, if_pos (Or.inr hmany), if_neg (not_not.mpr rfl)]
    · rw [if_neg fun h => hmany h.1, if_neg fun h => h.elim (fun hne => hne rfl) hmany]
  · rw [if_pos (UInt32.pos_iff_ne_zero.mpr hremaining), if_pos (Or.inl hremaining),
      if_pos hremaining]

theorem gateRestoreState_lock (hmax : 0 < gate.maxAttempts) (failedAttempts : UInt8)
    (remainingMs : UInt32) :
    gateLock (gateRestoreState gate failedAttempts remainingMs now) =
      if remainingMs ≠ 0 ∨ gate.maxAttempts ≤ failedAttempts then
        { gateLock gate with
          failedAttempts := failedAttempts
          lockoutActive := true
          lockoutUntilMs := now + if remainingMs ≠ 0 then remainingMs else gate.lockoutMs }
      else { gateLock gate with failedAttempts := failedAttempts } := by
  rw [gateRestoreState_eq gate now hmax failedAttempts remainingMs]
  split <;> rfl

end Steps

end UdsIsoTp.Uds
