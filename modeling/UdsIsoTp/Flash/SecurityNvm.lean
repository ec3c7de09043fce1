import UdsIsoTp.Flash.ParamStore
import UdsIsoTp.Lib.Bytes
import UdsIsoTp.Uds.SecurityGate

/-!
# Storage for the lockout state

`uds_security_nvm.c`: the attempt counter and the remaining lockout of a security gate, as a
record in a parameter store, so that neither a reset nor a power cycle gives fresh guesses.

The gate's persistence function reaches the store through its context. The world of the gate
is therefore the storage together with the flash behind it.
-/

namespace UdsIsoTp.Flash

open UdsIsoTp.Uds

variable {ω : Type}

/-- `SEC_NVM_MAGIC` -/
def secNvmMagic : UInt32 := 0x53454331

/-- What the store keeps of the gate. -/
structure SecurityRecord where
  magic : UInt32
  remainingMs : UInt32
  failedAttempts : UInt8
  check : UInt32

/-- `sizeof(SecurityRecord)` -/
def securityRecordSize : UInt16 := 16

/-- `record_check` -/
def recordCheck (r : SecurityRecord) : UInt32 :=
  ~~~(r.magic ^^^ r.remainingMs ^^^ r.failedAttempts.toUInt32)

/-- The bytes of a record; the three reserved ones are zero. -/
def SecurityRecord.encode (r : SecurityRecord) : List UInt8 :=
  putU32Le r.magic ++ putU32Le r.remainingMs ++ [r.failedAttempts, 0, 0, 0] ++ putU32Le r.check

/-- Reads the fields off the bytes. -/
def SecurityRecord.decode (bytes : List UInt8) : SecurityRecord where
  magic := getU32Le bytes 0
  remainingMs := getU32Le bytes 4
  failedAttempts := bytes.getD 8 0
  check := getU32Le bytes 12

/-- The record of a count and a remaining time, with its check. -/
def securityRecord (failedAttempts : UInt8) (remainingMs : UInt32) : SecurityRecord :=
  let r : SecurityRecord := ⟨secNvmMagic, remainingMs, failedAttempts, 0⟩
  { r with check := recordCheck r }

/-- A storage is `ready` when it has a store. -/
structure UdsSecurityNvm (ω : Type) where
  store : Option (UdsParamStore ω)

/-- `uds_security_nvm_init`, and what it returns. With fewer than two sectors the storage is
left as it was. -/
def udsSecurityNvmInit (nvm : UdsSecurityNvm ω) (port : UdsFlashPort ω) (flashBase : UInt32)
    (sectorCount : UInt8) (w : ω) : Bool × UdsSecurityNvm ω × ω :=
  if sectorCount < 2 then (false, nvm, w)
  else
    match udsParamInit port flashBase sectorCount securityRecordSize w with
    | (none, w) => (false, ⟨none⟩, w)
    | (some store, w) => (true, ⟨some store⟩, w)

/-- `uds_security_nvm_gate_persist` -/
def udsSecurityNvmGatePersist (w : UdsSecurityNvm ω × ω) (failedAttempts : UInt8)
    (lockoutRemainingMs : UInt32) : Bool × UdsSecurityNvm ω × ω :=
  match w.1.store with
  | none => (false, w)
  | some store =>
    let r := securityRecord failedAttempts lockoutRemainingMs
    let (status, store, flash) := udsParamSave store (Buf.ofList r.encode) w.2
    (status = .ok, ⟨some store⟩, flash)

/-- `uds_security_nvm_attach` -/
def udsSecurityNvmAttach (gate : UdsSecurityGate (UdsSecurityNvm ω × ω)) (now : UInt32)
    (w : UdsSecurityNvm ω × ω) :
    UdsSecurityGate (UdsSecurityNvm ω × ω) × UdsSecurityNvm ω × ω :=
  let gate := gateSetPersistence gate (some udsSecurityNvmGatePersist)
  match w.1.store with
  | none => (gateRestoreState gate gate.maxAttempts gate.lockoutMs now, w)
  | some store =>
    if ¬store.hasActiveSlot then (gate, w)
    else
      match udsParamLoad store [] w.2 with
      | (.ok, data, flash) =>
        let r := SecurityRecord.decode data
        if r.magic ≠ secNvmMagic ∨ r.check ≠ recordCheck r then
          (gateRestoreState gate gate.maxAttempts gate.lockoutMs now, w.1, flash)
        else
          (gateRestoreState gate r.failedAttempts r.remainingMs now, w.1, flash)
      | (_, _, flash) =>
        (gateRestoreState gate gate.maxAttempts gate.lockoutMs now, w.1, flash)

end UdsIsoTp.Flash
