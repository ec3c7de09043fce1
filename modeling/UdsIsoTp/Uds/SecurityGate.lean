import UdsIsoTp.Lib.Clock

/-!
# The security gate

`uds_security_gate.c`: seed, key, failed attempts and lockout of SecurityAccess.

The gate tells a persistence function of every change of the attempt counter and
fails closed when the write fails. That function is an outside call, so the two
operations that make it, and the tick, hand the world on.
-/

namespace UdsIsoTp.Uds

variable {ω : Type}

/-- Where the dialogue of seed and key stands. -/
inductive UdsSecurityState where
  | lockedReady
  | waitingForKey
  | unlocked
  | lockout
  deriving DecidableEq, Repr

/-- The gate of a server, with its attempt counter, its timers and the function that stores a change
of the counter. -/
structure UdsSecurityGate (ω : Type) where
  failedAttempts : UInt8
  maxAttempts : UInt8
  activeLevel : UInt8
  seedLevel : UInt8
  state : UdsSecurityState
  seedValid : Bool
  seedTimerActive : Bool
  lockoutActive : Bool
  initialDelayActive : Bool
  seedTimeoutMs : UInt32
  seedExpiryMs : UInt32
  lockoutMs : UInt32
  lockoutUntilMs : UInt32
  initialDelayMs : UInt32
  initialDelayUntilMs : UInt32
  persistFn : Option (ω → UInt8 → UInt32 → Bool × ω)

/-- A gate that is locked and has counted nothing, with ten seconds of lockout after three
attempts. -/
def gateInit (now : UInt32) : UdsSecurityGate ω where
  failedAttempts := 0
  maxAttempts := 3
  activeLevel := 0
  seedLevel := 0
  state := .lockedReady
  seedValid := false
  seedTimerActive := false
  lockoutActive := false
  initialDelayActive := false
  seedTimeoutMs := 0
  seedExpiryMs := 0
  lockoutMs := 10000
  lockoutUntilMs := 0
  initialDelayMs := 0
  initialDelayUntilMs := now
  persistFn := none

/-- The integrator's timing. A lockout is never shorter than a second, and no number of attempts
means three. -/
def gateSetTiming (gate : UdsSecurityGate ω) (initialDelayMs lockoutMs seedTimeoutMs : UInt32)
    (maxAttempts : UInt8) (now : UInt32) : UdsSecurityGate ω :=
  { gate with
    initialDelayMs := initialDelayMs
    initialDelayUntilMs := now + initialDelayMs
    initialDelayActive := decide (initialDelayMs ≠ 0)
    lockoutMs := if lockoutMs = 0 then 10000 else if lockoutMs < 1000 then 1000 else lockoutMs
    seedTimeoutMs := seedTimeoutMs
    maxAttempts := if 0 < maxAttempts then maxAttempts else 3 }

/-- The seed that has been granted is no longer good for a key. -/
def gateInvalidateSeed (gate : UdsSecurityGate ω) : UdsSecurityGate ω :=
  { gate with
    seedValid := false
    seedTimerActive := false
    seedLevel := 0
    state := if gate.state = .waitingForKey then .lockedReady else gate.state }

/-- `persist_fn(failed_attempts, remaining)`; without one there is nothing that can fail. -/
def gatePersist (gate : UdsSecurityGate ω) (failedAttempts : UInt8) (remaining : UInt32) (w : ω) :
    Bool × ω :=
  match gate.persistFn with
  | some persist => persist w failedAttempts remaining
  | none => (true, w)

/-- The part of the tick that ends a lockout, or renews it when storage takes no writes. -/
def gateTickLockout (gate : UdsSecurityGate ω) (now : UInt32) (w : ω) : UdsSecurityGate ω × ω :=
  if gate.lockoutActive ∧ expired now gate.lockoutUntilMs then
    let (stored, w) := gatePersist gate 0 0 w
    if ¬stored then ({ gate with lockoutUntilMs := now + gate.lockoutMs }, w)
    else
      ({ gate with
        lockoutActive := false
        failedAttempts := 0
        state := if gate.state = .lockout then .lockedReady else gate.state }, w)
  else (gate, w)

/-- What time does to the gate: the initial delay, the lockout and the seed expire, in turn. -/
def gateTick (gate : UdsSecurityGate ω) (now : UInt32) (w : ω) : UdsSecurityGate ω × ω :=
  let gate :=
    if gate.initialDelayActive ∧ expired now gate.initialDelayUntilMs then
      { gate with initialDelayActive := false }
    else gate
  let (gate, w) := gateTickLockout gate now w
  let gate :=
    if gate.seedTimerActive ∧ expired now gate.seedExpiryMs then gateInvalidateSeed gate else gate
  (gate, w)

/-- Whether a key would come too early. -/
def gateDelayActive (gate : UdsSecurityGate ω) (now : UInt32) : Bool :=
  if gate.initialDelayActive ∧ ¬expired now gate.initialDelayUntilMs then true
  else if gate.lockoutActive ∧ ¬expired now gate.lockoutUntilMs then true
  else false

/-- A wrong key. The counter is stored with what is left of a lockout, and a write that fails locks
the gate. -/
def gateRecordFailure (gate : UdsSecurityGate ω) (now : UInt32) (w : ω) :
    UdsSecurityGate ω × ω :=
  let gate := gateInvalidateSeed gate
  let gate := { gate with activeLevel := 0, failedAttempts := gate.failedAttempts + 1 }
  let gate :=
    if gate.maxAttempts ≤ gate.failedAttempts then
      { gate with
        lockoutActive := decide (gate.lockoutMs ≠ 0)
        lockoutUntilMs := now + gate.lockoutMs
        state := if gate.lockoutMs ≠ 0 then .lockout else .lockedReady }
    else gate
  let remaining :=
    if gate.lockoutActive ∧ now < gate.lockoutUntilMs then gate.lockoutUntilMs - now else 0
  let (stored, w) := gatePersist gate gate.failedAttempts remaining w
  if ¬stored then
    ({ gate with
      lockoutActive := true
      lockoutUntilMs := now + gate.lockoutMs
      state := .lockout }, w)
  else (gate, w)

/-- The right key. The level is open whether or not the cleared counter could be stored. -/
def gateRecordSuccess (gate : UdsSecurityGate ω) (level : UInt8) (w : ω) :
    UdsSecurityGate ω × ω :=
  let gate := gateInvalidateSeed { gate with activeLevel := level, failedAttempts := 0 }
  let gate := { gate with state := .unlocked }
  (gate, (gatePersist gate 0 0 w).2)

/-- A seed has been sent for the level, and its time begins. -/
def gateGrantSeed (gate : UdsSecurityGate ω) (level : UInt8) (now : UInt32) : UdsSecurityGate ω :=
  { gate with
    seedLevel := level
    seedValid := true
    seedTimerActive := decide (gate.seedTimeoutMs ≠ 0)
    seedExpiryMs := now + gate.seedTimeoutMs
    state := .waitingForKey }

/-- A change of session takes the level away, and leaves the counter and a lockout. -/
def gateResetSession (gate : UdsSecurityGate ω) : UdsSecurityGate ω :=
  let gate := gateInvalidateSeed { gate with activeLevel := 0 }
  { gate with state := if gate.state = .unlocked then .lockedReady else gate.state }

/-- So does a reset of the ECU, after which the gate is locked and ready unless a lockout runs. -/
def gateResetEcu (gate : UdsSecurityGate ω) (_now : UInt32) : UdsSecurityGate ω :=
  let gate := gateInvalidateSeed { gate with activeLevel := 0 }
  { gate with state := if ¬gate.lockoutActive then .lockedReady else gate.state }

/-- From now on this function is told of the counter. -/
def gateSetPersistence (gate : UdsSecurityGate ω)
    (persistFn : Option (ω → UInt8 → UInt32 → Bool × ω)) : UdsSecurityGate ω :=
  { gate with persistFn := persistFn }

/-- The state that was stored before the last power-off: a lockout goes on for what was left of it,
and a full counter begins one. -/
def gateRestoreState (gate : UdsSecurityGate ω) (failedAttempts : UInt8)
    (lockoutRemainingMs now : UInt32) : UdsSecurityGate ω :=
  let gate := { gate with failedAttempts := failedAttempts }
  if 0 < lockoutRemainingMs then
    { gate with
      lockoutActive := true
      lockoutUntilMs := now + lockoutRemainingMs
      state := .lockout }
  else if gate.maxAttempts ≤ failedAttempts ∧ 0 < gate.maxAttempts then
    { gate with
      lockoutActive := true
      lockoutUntilMs := now + gate.lockoutMs
      state := .lockout }
  else gate

end UdsIsoTp.Uds
