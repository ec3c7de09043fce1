import UdsIsoTp.Uds.Services

/-!
# The UDS server

The rest of `uds.c`: which service may be asked for when, the dispatch of a request,
the tick with its S3 timeout, and the operations on a pending reset.
-/

namespace UdsIsoTp.Uds

variable {ω : Type}

/-! ## Service attributes -/

/-- `UDS_SESSION_MASK_DEFAULT` -/
def sessionMaskDefault : UInt8 := 1
/-- `UDS_SESSION_MASK_PROGRAMMING` -/
def sessionMaskProgramming : UInt8 := 2
/-- `UDS_SESSION_MASK_EXTENDED` -/
def sessionMaskExtended : UInt8 := 4
/-- `UDS_SESSION_MASK_SAFETY` -/
def sessionMaskSafety : UInt8 := 8
/-- `UDS_SESSION_MASK_ALL` -/
def sessionMaskAll : UInt8 := 15

/-- `UDS_SECURITY_MASK_NONE` -/
def securityMaskNone : UInt16 := 0
/-- `UDS_ADDRESS_MODE_BOTH` -/
def addressModeBoth : UInt8 := 0
/-- The address mode of a service that only this server alone is asked for. -/
def addressPhysical : UInt8 := 1
/-- The sub-service of a row that is for the whole service. -/
def anySubfunction : UInt8 := 0xFF

/-- The bit of a session. -/
def sessionMask (session : UInt8) : UInt8 :=
  if session = sessionDefault then sessionMaskDefault
  else if session = sessionProgramming then sessionMaskProgramming
  else if session = sessionExtended then sessionMaskExtended
  else if session = sessionSafety then sessionMaskSafety
  else 0

/-- A row of the attribute table: what a service asks of the session, the security level and the
address mode. -/
structure UdsServiceAttribute where
  sid : UInt8
  subservice : UInt8
  sessionMask : UInt8
  securityMask : UInt16
  addressMode : UInt8
  deriving DecidableEq, Repr

/-- A service that the table does not name asks for nothing. -/
def defaultServiceAttribute : UdsServiceAttribute :=
  ⟨0, anySubfunction, sessionMaskAll, securityMaskNone, addressModeBoth⟩

/-- A row of the table: none names a subfunction or asks for a security level. -/
def attributeRow (sid sessionMask addressMode : UInt8) : UdsServiceAttribute :=
  ⟨sid, anySubfunction, sessionMask, securityMaskNone, addressMode⟩

/-- The attribute table. -/
def serviceAttributes : List UdsServiceAttribute :=
  [attributeRow 0x10 sessionMaskAll addressModeBoth,
    attributeRow 0x11 sessionMaskAll addressModeBoth,
    attributeRow 0x19 sessionMaskAll addressModeBoth,
    attributeRow 0x22 sessionMaskAll addressModeBoth,
    attributeRow 0x27 (sessionMaskProgramming ||| sessionMaskExtended) addressPhysical,
    attributeRow 0x28 sessionMaskAll addressModeBoth,
    attributeRow 0x2F sessionMaskExtended addressPhysical,
    attributeRow 0x31 (sessionMaskProgramming ||| sessionMaskExtended) addressPhysical,
    attributeRow 0x34 sessionMaskProgramming addressPhysical,
    attributeRow 0x36 sessionMaskProgramming addressPhysical,
    attributeRow 0x37 sessionMaskProgramming addressPhysical,
    attributeRow 0x3E sessionMaskAll addressModeBoth,
    attributeRow 0x85 sessionMaskAll addressModeBoth,
    attributeRow 0x83 sessionMaskAll addressPhysical,
    attributeRow 0x84 sessionMaskAll addressPhysical,
    attributeRow 0x86 sessionMaskAll addressPhysical,
    attributeRow 0x87 sessionMaskAll addressPhysical,
    attributeRow 0x23 (sessionMaskProgramming ||| sessionMaskExtended) addressPhysical,
    attributeRow 0x24 sessionMaskAll addressPhysical,
    attributeRow 0x2A sessionMaskAll addressPhysical,
    attributeRow 0x2C sessionMaskExtended addressPhysical,
    attributeRow 0x2E (sessionMaskProgramming ||| sessionMaskExtended) addressPhysical,
    attributeRow 0x3D (sessionMaskProgramming ||| sessionMaskExtended) addressPhysical,
    attributeRow 0x14 sessionMaskAll addressModeBoth,
    attributeRow 0x35 sessionMaskProgramming addressPhysical,
    attributeRow 0x29 sessionMaskAll addressPhysical,
    attributeRow 0x38 sessionMaskProgramming addressPhysical]

/-- The loop of `uds_service_attribute`. -/
def findAttribute (sid subservice : UInt8) :
    List UdsServiceAttribute → Option UdsServiceAttribute → Option UdsServiceAttribute
  | [], fallback => fallback
  | entry :: rest, fallback =>
    if entry.sid ≠ sid then findAttribute sid subservice rest fallback
    else if entry.subservice = subservice then some entry
    else if entry.subservice = anySubfunction then
      findAttribute sid subservice rest (some entry)
    else findAttribute sid subservice rest fallback

/-- The row of a service, the most specific one. -/
def udsServiceAttribute (sid subservice : UInt8) : UdsServiceAttribute :=
  (findAttribute sid subservice serviceAttributes none).getD defaultServiceAttribute

/-- The NRC that turns a request away before its handler sees it, or zero. -/
def checkServiceAttributes (server : UdsServer ω) (request : List UInt8)
    (addressMode : UdsAddressMode) : UInt8 :=
  let entry := udsServiceAttribute (byteAt request 0)
    (if 1 < request.length then byteAt request 1 &&& 0x7F else anySubfunction)
  if entry.sid = 0 then 0
  else if entry.addressMode ≠ addressModeBoth ∧
      entry.addressMode &&& addressMode.value = 0 then
    Nrc.serviceNotSupportedInActiveSession
  else if entry.sessionMask &&& sessionMask server.session = 0 then
    Nrc.serviceNotSupportedInActiveSession
  else if entry.securityMask ≠ securityMaskNone ∧
      entry.securityMask &&& (1 <<< server.securityGate.activeLevel.toUInt16) = 0 then
    Nrc.securityAccessDenied
  else 0

/-! ## Dispatch -/

/-- How a service handler is called. -/
abbrev UdsServiceDispatch (ω : Type) :=
  Exchange ω → List UInt8 → UInt16 → UInt32 → Served ω

/-- `k_service_dispatch_table`, where a `wrap_` function is one that drops the time. -/
def serviceDispatchTable : List (UInt8 × UdsServiceDispatch ω) :=
  [(0x10, serviceSessionControl),
    (0x11, fun x request capacity _ => serviceEcuReset x request capacity),
    (0x14, fun x request capacity _ => serviceClearDtc x request capacity),
    (0x19, fun x request capacity _ => serviceReadDtc x request capacity),
    (0x22, fun x request capacity _ => serviceReadData x request capacity),
    (0x23, fun x request capacity _ => serviceModularBackend x request capacity),
    (0x24, fun x request capacity _ => serviceModularBackend x request capacity),
    (0x27, serviceSecurityAccess),
    (0x28, fun x request capacity _ => serviceCommunicationControl x request capacity),
    (0x29, fun x request capacity _ => serviceModularBackend x request capacity),
    (0x2A, fun x request capacity _ => serviceModularBackend x request capacity),
    (0x2C, fun x request capacity _ => serviceModularBackend x request capacity),
    (0x2E, fun x request capacity _ => serviceWriteData x request capacity),
    (0x2F, fun x request capacity _ => serviceIoControl x request capacity),
    (0x31, fun x request capacity _ => serviceRoutineControl x request capacity),
    (0x34, fun x request capacity _ => serviceDownload x request capacity),
    (0x35, fun x request capacity _ => serviceModularBackend x request capacity),
    (0x36, fun x request capacity _ => serviceTransferData x request capacity),
    (0x37, fun x request capacity _ => serviceTransferExit x request capacity),
    (0x38, fun x request capacity _ => serviceModularBackend x request capacity),
    (0x3D, fun x request capacity _ => serviceModularBackend x request capacity),
    (0x3E, fun x request capacity _ => serviceTesterPresent x request capacity),
    (0x83, fun x request capacity _ => serviceModularBackend x request capacity),
    (0x84, fun x request capacity _ => serviceModularBackend x request capacity),
    (0x85, fun x request capacity _ => serviceDtcSetting x request capacity),
    (0x86, fun x request capacity _ => serviceModularBackend x request capacity),
    (0x87, fun x request capacity _ => serviceModularBackend x request capacity)]

/-- The loop over the dispatch table. -/
def udsDispatch (x : Exchange ω) (request : List UInt8) (capacity : UInt16) (now : UInt32) :
    Served ω :=
  match serviceDispatchTable.find? fun entry => entry.1 == byteAt request 0 with
  | some entry => entry.2 x request capacity now
  | none => negativeResponse x request Nrc.serviceNotSupported capacity

/-- One request: the attribute check, and then the handler of the service. -/
def udsServerHandleAddressed (x : Exchange ω) (request : List UInt8) (capacity : UInt16)
    (addressMode : UdsAddressMode) (now : UInt32) : Served ω :=
  if capacity = 0 ∨ request.length = 0 ∨ maxRequestLength < request.length then (.error, x)
  else
    let nrc := checkServiceAttributes x.server request addressMode
    let addressed := { x with server := { x.server with currentAddressMode := addressMode } }
    if nrc ≠ 0 then negativeResponse addressed request nrc capacity
    else
      udsDispatch { addressed with
          server := { addressed.server with lastActivityMs := now }
          responseLen := 0 }
        request capacity now

/-! ## The server's own operations -/

/-- A server in the default session, with its own timing. -/
def udsServerInit (callbacks : UdsCallbacks ω) (now : UInt32) : UdsServer ω where
  callbacks := callbacks
  session := sessionDefault
  securityGate := gateSetTiming (gateInit now) 0 10000 10000 3 now
  pendingResetReason := .normal
  pendingResetSubfunction := 0
  nextDownloadBlock := 1
  maxDownloadBlockLength := 0
  p2ServerMs := 50
  p2StarServerMs := 5000
  s3ServerTimeoutMs := 5000
  lastActivityMs := now
  downloadActive := false
  resetPending := false
  resetReady := false
  dtcSettingEnabled := true
  currentAddressMode := .physical

/-- Closes the security level. -/
def udsServerResetSecurity (server : UdsServer ω) : UdsServer ω :=
  { server with securityGate := gateResetSession server.securityGate }

/-- The fields a reset request lives in, at rest. -/
def udsServerClearReset (server : UdsServer ω) : UdsServer ω :=
  { server with
    resetPending := false
    resetReady := false
    pendingResetReason := .normal
    pendingResetSubfunction := 0 }

/-- What a reset leaves of the server: the default session, no download and a closed level. The
lockout stays. -/
def udsServerApplyReset (server : UdsServer ω) (_reason : UdsResetReason) (now : UInt32) :
    UdsServer ω :=
  { server with
    session := sessionDefault
    downloadActive := false
    nextDownloadBlock := 1
    maxDownloadBlockLength := 0
    resetPending := false
    resetReady := false
    pendingResetReason := .normal
    pendingResetSubfunction := 0
    lastActivityMs := now
    securityGate := gateResetEcu server.securityGate now }

/-- `ecu_reset_execute`, where there is one. -/
def executeReset (callbacks : UdsCallbacks ω) (subfunction : UInt8) (w : ω) : ω :=
  match callbacks.ecuResetExecute with
  | some execute => execute w subfunction
  | none => w

/-- The S3 timeout: back to the default session. -/
def sessionTimeout (server : UdsServer ω) (now : UInt32) : UdsServer ω :=
  { server with
    session := sessionDefault
    securityGate := gateResetSession server.securityGate
    downloadActive := false
    nextDownloadBlock := 1
    lastActivityMs := now }

/-- What time does to the server: it ticks the gate, carries out a reset that is ready, and ends a
session that has been silent for too long. -/
def udsServerTick (server : UdsServer ω) (now : UInt32) (w : ω) :
    UdsCallbackResult × UdsServer ω × ω :=
  let (gate, w) := gateTick server.securityGate now w
  let server := { server with securityGate := gate }
  if server.resetPending ∧ server.resetReady then
    (.ok, udsServerClearReset server,
      executeReset server.callbacks server.pendingResetSubfunction w)
  else if server.s3ServerTimeoutMs ≤ now - server.lastActivityMs then
    (.busy, sessionTimeout server now, w)
  else (.ok, server, w)

/-- The integrator's timing. The initial delay that is passed is not used. -/
def udsServerSetTiming (server : UdsServer ω) (s3TimeoutMs _securityInitialDelayMs
    securityLockoutMs securitySeedTimeoutMs : UInt32) (securityMaxAttempts : UInt8) :
    UdsServer ω :=
  { server with
    s3ServerTimeoutMs := s3TimeoutMs
    securityGate := gateSetTiming server.securityGate 0 securityLockoutMs
      securitySeedTimeoutMs securityMaxAttempts server.lastActivityMs }

/-- From now on this function is told of the gate's counter. -/
def udsServerSetSecurityPersistence (server : UdsServer ω)
    (persistFn : Option (ω → UInt8 → UInt32 → Bool × ω)) : UdsServer ω :=
  { server with securityGate := gateSetPersistence server.securityGate persistFn }

/-- The gate's state as it was stored. -/
def udsServerRestoreSecurityState (server : UdsServer ω) (failedAttempts : UInt8)
    (lockoutRemainingMs now : UInt32) : UdsServer ω :=
  { server with
    securityGate := gateRestoreState server.securityGate failedAttempts lockoutRemainingMs now }

/-- The response to the ECUReset has been sent, so the next tick carries it out. -/
def udsServerCompleteReset (server : UdsServer ω) : UdsCallbackResult × UdsServer ω :=
  if ¬server.resetPending then (.sequenceError, server)
  else if server.callbacks.ecuResetExecute.isNone then (.notSupported, server)
  else (.ok, { server with resetReady := true })

end UdsIsoTp.Uds
