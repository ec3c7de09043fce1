import UdsIsoTp.Uds.Types

/-!
# The services of the UDS server

The service handlers of `uds.c`, the tables they consult (`uds_dtc.c`,
`uds_services.c`) and the session transitions.

A handler is a function from the exchange it finds to its verdict and the exchange it
leaves. Every handler ends in one of three ways: a negative response, a verdict of a
callback handed on by `callbackResult`, or a positive response written into the buffer.
-/

namespace UdsIsoTp.Uds

variable {ω : Type}

/-! ## Responses -/

/-- The negative response code for what a callback says. -/
def udsResultToNrc : UdsCallbackResult → UInt8
  | .ok => Nrc.conditionsNotCorrect
  | .noResponse => Nrc.conditionsNotCorrect
  | .notSupported => Nrc.serviceNotSupported
  | .subfunctionNotSupported => Nrc.subfunctionNotSupported
  | .denied => Nrc.conditionsNotCorrect
  | .outOfRange => Nrc.requestOutOfRange
  | .busy => Nrc.busyRepeatRequest
  | .sequenceError => Nrc.requestSequenceError
  | .invalidKey => Nrc.invalidKey
  | .attemptsExceeded => Nrc.exceededNumberOfAttempts
  | .delayActive => Nrc.requiredTimeDelayNotExpired
  | .programmingFailure => Nrc.generalProgrammingFailure
  | .responseTooLong => Nrc.responseTooLong
  | .responsePending => Nrc.responsePending
  | .invalidFormat => Nrc.incorrectMessageLengthOrInvalidFormat
  | .securityDenied => Nrc.securityAccessDenied
  | .error => Nrc.conditionsNotCorrect

/-- The codes that are not sent when all servers were asked. -/
def nrcSuppressedOnFunctional (nrc : UInt8) : Bool :=
  nrc == Nrc.serviceNotSupported || nrc == Nrc.subfunctionNotSupported ||
    nrc == Nrc.requestOutOfRange || nrc == Nrc.subfunctionNotSupportedInActiveSession ||
    nrc == Nrc.serviceNotSupportedInActiveSession

/-- `7F`, the service and the code, or nothing if the request was for all servers and the code is
one they keep silent about. -/
def negativeResponse (x : Exchange ω) (request : List UInt8) (nrc : UInt8) (capacity : UInt16) :
    Served ω :=
  if x.server.currentAddressMode = .functional ∧ nrcSuppressedOnFunctional nrc then
    (.noResponse, { x with responseLen := 0 })
  else if capacity < 3 then (.responseTooLong, x)
  else
    (.ok, { x with
      response := ((x.response.write 0 0x7F).write 1 (byteAt request 0)).write 2 nrc
      responseLen := 3 })

/-- What a callback says, as the verdict on the request. -/
def callbackResult (x : Exchange ω) (result : UdsCallbackResult) (request : List UInt8)
    (capacity : UInt16) : Served ω :=
  if result = .ok then (.ok, x)
  else if result = .noResponse then (.noResponse, { x with responseLen := 0 })
  else negativeResponse x request (udsResultToNrc result) capacity

/-! ## Sessions -/

/-- The sessions that there are. -/
def sessionSupported (session : UInt8) : Bool :=
  session == sessionDefault || session == sessionProgramming || session == sessionExtended ||
    session == sessionSafety

/-- The sessions in which SecurityAccess may be used. -/
def securitySessionAllowed (session : UInt8) : Bool :=
  session == sessionProgramming || session == sessionExtended

/-- `uds_session_transition_allowed`, as a truth value. -/
def udsSessionTransitionAllowed (current requested : UInt8) : Bool :=
  if ¬sessionSupported current ∨ ¬sessionSupported requested then false
  else if current = requested then true
  else if current = sessionDefault then requested == sessionExtended
  else if current = sessionExtended then
    requested == sessionDefault || requested == sessionProgramming
  else if current = sessionProgramming ∨ current = sessionSafety then
    requested == sessionDefault
  else false

/-- The reset that a change of session leaves pending. -/
def sessionReset (server : UdsServer ω) (current requested : UInt8) : UdsServer ω :=
  if requested = sessionProgramming then
    { server with
      resetPending := true
      pendingResetReason := .programming
      pendingResetSubfunction := 0 }
  else if requested = sessionDefault ∧ current ≠ sessionDefault then
    { server with
      resetPending := true
      pendingResetReason := .normal
      pendingResetSubfunction := 0 }
  else server

/-- Enters the session, if there is a way from the present one. A change closes the security level
and ends a download. -/
def udsServerRequestSession (server : UdsServer ω) (requested : UInt8) (now : UInt32) (w : ω) :
    UdsCallbackResult × UdsServer ω × ω :=
  if ¬sessionSupported requested then (.outOfRange, server, w)
  else if ¬udsSessionTransitionAllowed server.session requested then (.denied, server, w)
  else
    let (gate, w) := gateTick server.securityGate now w
    let changed := { server with
      securityGate := gateResetSession gate
      session := requested
      downloadActive := false
      nextDownloadBlock := 1
      lastActivityMs := now }
    (.ok, sessionReset changed server.session requested, w)

/-- DiagnosticSessionControl. -/
def serviceSessionControl (x : Exchange ω) (request : List UInt8) (capacity : UInt16)
    (now : UInt32) : Served ω :=
  if request.length ≠ 2 then
    negativeResponse x request Nrc.incorrectMessageLengthOrInvalidFormat capacity
  else
    let subfunction := byteAt request 1 &&& 0x7F
    if ¬sessionSupported subfunction then
      negativeResponse x request Nrc.subfunctionNotSupported capacity
    else
      let (result, server, w) := udsServerRequestSession x.server subfunction now x.world
      let x := { x with server := server, world := w }
      if result ≠ .ok then negativeResponse x request (udsResultToNrc result) capacity
      else if byteAt request 1 &&& suppressPositiveResponse ≠ 0 then (.noResponse, x)
      else if capacity < 6 then negativeResponse x request Nrc.responseTooLong capacity
      else
        let p2Star10ms := x.server.p2StarServerMs / 10
        let response := ((((((x.response.write 0 0x50).write 1 subfunction).write 2
          (x.server.p2ServerMs >>> 8).toUInt8).write 3 x.server.p2ServerMs.toUInt8).write 4
          (p2Star10ms >>> 8).toUInt8).write 5 p2Star10ms.toUInt8)
        (.ok, { x with response := response, responseLen := 6 })

/-! ## EcuReset -/

/-- `UDS_RESET_TYPE_HARD` -/
def resetTypeHard : UInt8 := 0x01
/-- `UDS_RESET_TYPE_ENABLE_RAPID_POWER_SHUTDOWN` -/
def resetTypeEnableRapidPowerShutdown : UInt8 := 0x04
/-- `UDS_RESET_TYPE_DISABLE_RAPID_POWER_SHUTDOWN` -/
def resetTypeDisableRapidPowerShutdown : UInt8 := 0x05

/-- The server once an ECU reset of this type has been accepted. -/
def acceptReset (server : UdsServer ω) (subfunction : UInt8) : UdsServer ω :=
  { server with
    resetPending := true
    resetReady := false
    pendingResetReason := .normal
    pendingResetSubfunction := subfunction }

/-- ECUReset. The reset is only noted here, and carried out once the response has been sent. -/
def serviceEcuReset (x : Exchange ω) (request : List UInt8) (capacity : UInt16) : Served ω :=
  if request.length ≠ 2 then
    negativeResponse x request Nrc.incorrectMessageLengthOrInvalidFormat capacity
  else
    let subfunction := byteAt request 1 &&& 0x7F
    match x.server.callbacks.ecuReset with
    | none => negativeResponse x request Nrc.subfunctionNotSupported capacity
    | some ecuReset =>
      if subfunction < resetTypeHard ∨ resetTypeDisableRapidPowerShutdown < subfunction then
        negativeResponse x request Nrc.subfunctionNotSupported capacity
      else
        let (result, w) := ecuReset x.world subfunction
        let x := { x with world := w }
        if result ≠ .ok then callbackResult x result request capacity
        else if byteAt request 1 &&& suppressPositiveResponse ≠ 0 then
          (.noResponse, { x with server := acceptReset x.server subfunction, responseLen := 0 })
        else if subfunction = resetTypeEnableRapidPowerShutdown then
          if capacity < 3 then negativeResponse x request Nrc.responseTooLong capacity
          else
            (.ok, { x with
              server := acceptReset x.server subfunction
              response := ((x.response.write 0 0x51).write 1 subfunction).write 2 0x00
              responseLen := 3 })
        else if capacity < 2 then negativeResponse x request Nrc.responseTooLong capacity
        else
          (.ok, { x with
            server := acceptReset x.server subfunction
            response := (x.response.write 0 0x51).write 1 subfunction
            responseLen := 2 })

/-! ## Diagnostic trouble codes -/

/-- ClearDiagnosticInformation. -/
def serviceClearDtc (x : Exchange ω) (request : List UInt8) (capacity : UInt16) : Served ω :=
  if request.length ≠ 4 then
    negativeResponse x request Nrc.incorrectMessageLengthOrInvalidFormat capacity
  else
    match x.server.callbacks.clearDtc with
    | none => negativeResponse x request Nrc.serviceNotSupported capacity
    | some clearDtc =>
      let (result, w) := clearDtc x.world (readBeU32 request 1 3)
      let x := { x with world := w }
      if result ≠ .ok then callbackResult x result request capacity
      else if capacity < 1 then negativeResponse x request Nrc.responseTooLong capacity
      else (.ok, { x with response := x.response.write 0 0x54, responseLen := 1 })

/-- A row of the table of ReadDTCInformation: a sub-function, the lengths that its request may have
and the capability that it needs. -/
structure UdsDtcSubfnMeta where
  subfunction : UInt8
  minLen : Nat
  maxLen : Nat
  capability : UInt32

/-- A capability is a bit. -/
def dtcCap (bit : UInt32) : UInt32 := 1 <<< bit

/-- `k_dtc_subfn_table` -/
def dtcSubfnTable : List UdsDtcSubfnMeta :=
  [⟨0x01, 3, 3, dtcCap 0⟩, ⟨0x02, 3, 3, dtcCap 1⟩, ⟨0x03, 2, 2, dtcCap 2⟩, ⟨0x04, 5, 6, dtcCap 3⟩,
    ⟨0x05, 3, 3, dtcCap 4⟩, ⟨0x06, 5, 6, dtcCap 5⟩, ⟨0x07, 3, 4, dtcCap 6⟩, ⟨0x08, 3, 4, dtcCap 7⟩,
    ⟨0x09, 5, 5, dtcCap 25⟩, ⟨0x0A, 2, 3, dtcCap 8⟩, ⟨0x0B, 2, 2, dtcCap 9⟩,
    ⟨0x0C, 2, 2, dtcCap 10⟩, ⟨0x0D, 2, 2, dtcCap 11⟩, ⟨0x0E, 2, 2, dtcCap 12⟩,
    ⟨0x0F, 3, 3, dtcCap 13⟩, ⟨0x10, 5, 6, dtcCap 13⟩, ⟨0x11, 3, 3, dtcCap 14⟩,
    ⟨0x12, 3, 3, dtcCap 15⟩, ⟨0x13, 3, 3, dtcCap 16⟩, ⟨0x14, 2, 2, dtcCap 17⟩,
    ⟨0x15, 2, 3, dtcCap 18⟩, ⟨0x16, 3, 3, dtcCap 19⟩, ⟨0x17, 3, 4, dtcCap 20⟩,
    ⟨0x18, 6, 7, dtcCap 21⟩, ⟨0x19, 6, 7, dtcCap 22⟩, ⟨0x42, 5, 5, dtcCap 23⟩,
    ⟨0x55, 2, 3, dtcCap 24⟩]

/-- The row of the sub-function. -/
def udsDtcFindMeta (subfunction : UInt8) : Option UdsDtcSubfnMeta :=
  dtcSubfnTable.find? fun entry => entry.subfunction == subfunction

/-- The table has the sub-function. -/
def udsDtcSubfunctionSupported (subfunction : UInt8) : Bool := (udsDtcFindMeta subfunction).isSome

/-- A request of the sub-function may have this length. -/
def udsDtcRequestLengthValid (subfunction : UInt8) (requestLength : Nat) : Bool :=
  match udsDtcFindMeta subfunction with
  | none => false
  | some entry => decide (entry.minLen ≤ requestLength) && decide (requestLength ≤ entry.maxLen)

/-- The capability that a backend needs for the sub-function. -/
def udsDtcCapabilityForSubfunction (subfunction : UInt8) : UInt32 :=
  match udsDtcFindMeta subfunction with
  | none => 0
  | some entry => entry.capability

/-- What follows a report of the DTC callbacks, whose bytes go behind the first one. -/
def finishReadDtc (x : Exchange ω) (reply : Reply ω) (request : List UInt8) (capacity : UInt16) :
    Served ω :=
  let x := { x with
    response := x.response.copy 1 (Buf.ofList reply.data) 0 reply.data.length
    world := reply.world }
  if reply.result ≠ .ok then callbackResult x reply.result request capacity
  else if capacity - x.responseLen < reply.length then
    negativeResponse x request Nrc.responseTooLong capacity
  else (.ok, { x with responseLen := x.responseLen + reply.length })

/-- ReadDTCInformation. The backend is asked if it is capable of the sub-function, or else the plain
callback. -/
def serviceReadDtc (x : Exchange ω) (request : List UInt8) (capacity : UInt16) : Served ω :=
  if request.length < 2 then
    negativeResponse x request Nrc.incorrectMessageLengthOrInvalidFormat capacity
  else if byteAt request 1 &&& 0x80 ≠ 0 then
    negativeResponse x request Nrc.subfunctionNotSupported capacity
  else
    let subfunction := byteAt request 1
    if ¬udsDtcSubfunctionSupported subfunction then
      negativeResponse x request Nrc.subfunctionNotSupported capacity
    else if ¬udsDtcRequestLengthValid subfunction request.length then
      negativeResponse x request Nrc.incorrectMessageLengthOrInvalidFormat capacity
    else if capacity < 1 then negativeResponse x request Nrc.responseTooLong capacity
    else
      let x := { x with response := x.response.write 0 0x59, responseLen := 1 }
      match x.server.callbacks.dtcBackend with
      | some backend =>
        if backend.capabilities &&& udsDtcCapabilityForSubfunction subfunction = 0 then
          negativeResponse x request Nrc.subfunctionNotSupported capacity
        else
          match backend.report with
          | none => negativeResponse x request Nrc.serviceNotSupported capacity
          | some report =>
            finishReadDtc x (report x.world subfunction request (capacity - 1)) request capacity
      | none =>
        match x.server.callbacks.readDtc with
        | none => negativeResponse x request Nrc.serviceNotSupported capacity
        | some readDtc =>
          finishReadDtc x (readDtc x.world subfunction request (capacity - 1)) request capacity

/-- ControlDTCSetting. -/
def serviceDtcSetting (x : Exchange ω) (request : List UInt8) (capacity : UInt16) : Served ω :=
  match x.server.callbacks.controlDtcSetting with
  | none => negativeResponse x request Nrc.incorrectMessageLengthOrInvalidFormat capacity
  | some controlDtcSetting =>
    if request.length ≠ 2 then
      negativeResponse x request Nrc.incorrectMessageLengthOrInvalidFormat capacity
    else
      let subfunction := byteAt request 1 &&& 0x7F
      if subfunction ≠ 0x01 ∧ subfunction ≠ 0x02 then
        negativeResponse x request Nrc.subfunctionNotSupported capacity
      else
        let (result, w) := controlDtcSetting x.world subfunction
        let x := { x with world := w }
        if result ≠ .ok then callbackResult x result request capacity
        else
          let x := { x with
            server := { x.server with dtcSettingEnabled := subfunction == 0x01 } }
          if byteAt request 1 &&& suppressPositiveResponse ≠ 0 then (.noResponse, x)
          else if capacity < 2 then negativeResponse x request Nrc.responseTooLong capacity
          else
            (.ok, { x with
              response := (x.response.write 0 0xC5).write 1 subfunction
              responseLen := 2 })

/-! ## Data identifiers -/

/-- The loop of `service_read_data` over the identifiers that remain. -/
def readDids (readDid : ω → UInt16 → UInt16 → Reply ω) (request : List UInt8)
    (capacity : UInt16) : List UInt8 → Exchange ω → Served ω
  | high :: low :: rest, x =>
    if capacity - x.responseLen < 2 then
      negativeResponse x request Nrc.responseTooLong capacity
    else
      let at_ := x.responseLen.toNat
      let response := (x.response.write at_ high).write (at_ + 1) low
      let x := { x with response := response, responseLen := x.responseLen + 2 }
      let did := (high.toUInt16 <<< 8) ||| low.toUInt16
      let reply := readDid x.world did (capacity - x.responseLen)
      let x := { x with
        response := x.response.copy x.responseLen.toNat (Buf.ofList reply.data) 0
          reply.data.length
        world := reply.world }
      if reply.result ≠ .ok then callbackResult x reply.result request capacity
      else if capacity - x.responseLen < reply.length then
        negativeResponse x request Nrc.responseTooLong capacity
      else
        readDids readDid request capacity rest
          { x with responseLen := x.responseLen + reply.length }
  | _, x => (.ok, x)

/-- ReadDataByIdentifier, over all identifiers of the request. -/
def serviceReadData (x : Exchange ω) (request : List UInt8) (capacity : UInt16) : Served ω :=
  match x.server.callbacks.readDid with
  | none => negativeResponse x request Nrc.incorrectMessageLengthOrInvalidFormat capacity
  | some readDid =>
    if request.length < 3 ∨ (request.length - 1) % 2 ≠ 0 then
      negativeResponse x request Nrc.incorrectMessageLengthOrInvalidFormat capacity
    else
      readDids readDid request capacity (request.drop 1)
        { x with response := x.response.write 0 0x62, responseLen := 1 }

/-- WriteDataByIdentifier. -/
def serviceWriteData (x : Exchange ω) (request : List UInt8) (capacity : UInt16) : Served ω :=
  if request.length < 4 then
    negativeResponse x request Nrc.incorrectMessageLengthOrInvalidFormat capacity
  else
    match x.server.callbacks.writeDid with
    | none => negativeResponse x request Nrc.serviceNotSupported capacity
    | some writeDid =>
      let (result, w) := writeDid x.world (readU16 request 1) (request.drop 3)
      let x := { x with world := w }
      if result ≠ .ok then callbackResult x result request capacity
      else if capacity < 3 then negativeResponse x request Nrc.responseTooLong capacity
      else
        (.ok, { x with
          response := ((x.response.write 0 0x6E).write 1 (byteAt request 1)).write 2
            (byteAt request 2)
          responseLen := 3 })

/-! ## SecurityAccess -/

/-- `uds_security_subfunction_level`: the level, and whether a seed is asked for. -/
def udsSecuritySubfunctionLevel (subfunction : UInt8) : Option (UInt8 × Bool) :=
  let raw := subfunction &&& 0x7F
  let sprmib := decide (subfunction &&& 0x80 ≠ 0)
  if raw < 1 ∨ 10 < raw then none
  else
    let seed := decide (raw &&& 1 ≠ 0)
    if seed ∧ sprmib then none
    else some (if seed then (raw + 1) >>> 1 else raw >>> 1, seed)

/-- The half of SecurityAccess that asks for a seed. -/
def serviceSecuritySeed (securitySeed : ω → UInt8 → UInt16 → Reply ω) (x : Exchange ω)
    (request : List UInt8) (capacity : UInt16) (subfunction level : UInt8) (now : UInt32) :
    Served ω :=
  if request.length ≠ 2 then
    negativeResponse x request Nrc.incorrectMessageLengthOrInvalidFormat capacity
  else
    let reply := securitySeed x.world level (if 2 < capacity then capacity - 2 else 0)
    let x := { x with
      response := x.response.copy 2 (Buf.ofList reply.data) 0 reply.data.length
      world := reply.world }
    if reply.result ≠ .ok then callbackResult x reply.result request capacity
    else if capacity < 2 + reply.length then
      negativeResponse x request Nrc.responseTooLong capacity
    else if x.server.securityGate.activeLevel = level then
      let response := x.response.copy 2 (fun _ => 0) 0 reply.length.toNat
      (.ok, { x with
        response := (response.write 0 0x67).write 1 subfunction
        responseLen := 2 + reply.length })
    else
      (.ok, { x with
        server := { x.server with securityGate := gateGrantSeed x.server.securityGate level now }
        response := (x.response.write 0 0x67).write 1 subfunction
        responseLen := 2 + reply.length })

/-- The half that sends a key, which is only judged for the level of the seed. -/
def serviceSecurityKey (securityKey : ω → UInt8 → List UInt8 → UdsCallbackResult × ω)
    (x : Exchange ω) (request : List UInt8) (capacity : UInt16) (subfunction level : UInt8)
    (now : UInt32) : Served ω :=
  if request.length ≤ 2 ∨ ¬x.server.securityGate.seedValid ∨
      x.server.securityGate.seedLevel ≠ level then
    negativeResponse x request Nrc.requestSequenceError capacity
  else
    let (result, w) := securityKey x.world level (request.drop 2)
    if result = .invalidKey then
      let (gate, w) := gateRecordFailure x.server.securityGate now w
      let x := { x with server := { x.server with securityGate := gate }, world := w }
      if gate.state = .lockout then
        negativeResponse x request Nrc.exceededNumberOfAttempts capacity
      else negativeResponse x request Nrc.invalidKey capacity
    else if result ≠ .ok then callbackResult { x with world := w } result request capacity
    else
      let (gate, w) := gateRecordSuccess x.server.securityGate level w
      let x := { x with server := { x.server with securityGate := gate }, world := w }
      if byteAt request 1 &&& suppressPositiveResponse ≠ 0 then (.noResponse, x)
      else if capacity < 2 then negativeResponse x request Nrc.responseTooLong capacity
      else
        (.ok, { x with
          response := (x.response.write 0 0x67).write 1 (subfunction &&& 0x7F)
          responseLen := 2 })

/-- SecurityAccess. The gate is ticked first, and while a delay is active neither half is served. -/
def serviceSecurityAccess (x : Exchange ω) (request : List UInt8) (capacity : UInt16)
    (now : UInt32) : Served ω :=
  if request.length < 2 then
    negativeResponse x request Nrc.incorrectMessageLengthOrInvalidFormat capacity
  else
    match x.server.callbacks.securitySeed, x.server.callbacks.securityKey with
    | some securitySeed, some securityKey =>
      let (gate, w) := gateTick x.server.securityGate now x.world
      let x := { x with server := { x.server with securityGate := gate }, world := w }
      if ¬securitySessionAllowed x.server.session then
        negativeResponse x request Nrc.serviceNotSupportedInActiveSession capacity
      else
        let subfunction := byteAt request 1
        match udsSecuritySubfunctionLevel subfunction with
        | none => negativeResponse x request Nrc.subfunctionNotSupported capacity
        | some (level, isSeed) =>
          if gateDelayActive gate now then
            negativeResponse x request Nrc.requiredTimeDelayNotExpired capacity
          else if isSeed then
            serviceSecuritySeed securitySeed x request capacity subfunction level now
          else serviceSecurityKey securityKey x request capacity subfunction level now
    | _, _ => negativeResponse x request Nrc.serviceNotSupported capacity

/-! ## Control of communication, outputs and routines -/

/-- CommunicationControl. -/
def serviceCommunicationControl (x : Exchange ω) (request : List UInt8) (capacity : UInt16) :
    Served ω :=
  match x.server.callbacks.communicationControl with
  | none => negativeResponse x request Nrc.incorrectMessageLengthOrInvalidFormat capacity
  | some communicationControl =>
    if request.length ≠ 3 then
      negativeResponse x request Nrc.incorrectMessageLengthOrInvalidFormat capacity
    else
      let subfunction := byteAt request 1 &&& 0x7F
      let (result, w) := communicationControl x.world subfunction (byteAt request 2)
      let x := { x with world := w }
      if result ≠ .ok then callbackResult x result request capacity
      else if byteAt request 1 &&& suppressPositiveResponse ≠ 0 then (.noResponse, x)
      else if capacity < 3 then negativeResponse x request Nrc.responseTooLong capacity
      else
        (.ok, { x with
          response := ((x.response.write 0 0x68).write 1 subfunction).write 2 (byteAt request 2)
          responseLen := 3 })

/-- InputOutputControlByIdentifier. The header is written before the callback is asked. -/
def serviceIoControl (x : Exchange ω) (request : List UInt8) (capacity : UInt16) : Served ω :=
  match x.server.callbacks.ioControl with
  | none => negativeResponse x request Nrc.incorrectMessageLengthOrInvalidFormat capacity
  | some ioControl =>
    if request.length < 4 then
      negativeResponse x request Nrc.incorrectMessageLengthOrInvalidFormat capacity
    else
      let response := ((x.response.write 0 0x6F).write 1 (byteAt request 1)).write 2
        (byteAt request 2)
      let reply := ioControl x.world (readU16 request 1) (request.drop 3)
        (if 3 < capacity then capacity - 3 else 0)
      let x := { x with
        response := response.copy 3 (Buf.ofList reply.data) 0 reply.data.length
        responseLen := 3
        world := reply.world }
      if reply.result ≠ .ok then callbackResult x reply.result request capacity
      else if capacity - x.responseLen < reply.length then
        negativeResponse x request Nrc.responseTooLong capacity
      else (.ok, { x with responseLen := x.responseLen + reply.length })

/-- RoutineControl, with its header written in the same way. -/
def serviceRoutineControl (x : Exchange ω) (request : List UInt8) (capacity : UInt16) :
    Served ω :=
  match x.server.callbacks.routineControl with
  | none => negativeResponse x request Nrc.incorrectMessageLengthOrInvalidFormat capacity
  | some routineControl =>
    if request.length < 4 then
      negativeResponse x request Nrc.incorrectMessageLengthOrInvalidFormat capacity
    else
      let subfunction := byteAt request 1 &&& 0x7F
      let response := (((x.response.write 0 0x71).write 1 subfunction).write 2
        (byteAt request 2)).write 3 (byteAt request 3)
      let reply := routineControl x.world subfunction (readU16 request 2) (request.drop 4)
        (if 4 < capacity then capacity - 4 else 0)
      let x := { x with
        response := response.copy 4 (Buf.ofList reply.data) 0 reply.data.length
        responseLen := 4
        world := reply.world }
      if reply.result ≠ .ok then callbackResult x reply.result request capacity
      else if byteAt request 1 &&& suppressPositiveResponse ≠ 0 then (.noResponse, x)
      else if capacity - x.responseLen < reply.length then
        negativeResponse x request Nrc.responseTooLong capacity
      else (.ok, { x with responseLen := x.responseLen + reply.length })

/-! ## Download -/

/-- RequestDownload. Address and size are as long as the request says. -/
def serviceDownload (x : Exchange ω) (request : List UInt8) (capacity : UInt16) : Served ω :=
  match x.server.callbacks.requestDownload with
  | none => negativeResponse x request Nrc.incorrectMessageLengthOrInvalidFormat capacity
  | some requestDownload =>
    if request.length < 4 then
      negativeResponse x request Nrc.incorrectMessageLengthOrInvalidFormat capacity
    else
      let addressLength := (byteAt request 2 &&& 0x0F).toNat
      let lengthLength := (byteAt request 2 >>> 4).toNat
      if addressLength = 0 ∨ 4 < addressLength ∨ lengthLength = 0 ∨ 4 < lengthLength ∨
          request.length ≠ 3 + addressLength + lengthLength then
        negativeResponse x request Nrc.incorrectMessageLengthOrInvalidFormat capacity
      else
        let address := readBeU32 request 3 addressLength
        let length := readBeU32 request (3 + addressLength) lengthLength
        let (result, maxBlockLength, w) := requestDownload x.world address length
        let x := { x with world := w }
        if result ≠ .ok then callbackResult x result request capacity
        else if maxBlockLength < 3 ∨ capacity < 4 then
          negativeResponse x request Nrc.uploadDownloadNotAccepted capacity
        else
          (.ok, { x with
            server := { x.server with
              downloadActive := true
              nextDownloadBlock := 1
              maxDownloadBlockLength := maxBlockLength }
            response := (((x.response.write 0 0x74).write 1 0x20).write 2
              (maxBlockLength >>> 8).toUInt8).write 3 maxBlockLength.toUInt8
            responseLen := 4 })

/-- TransferData, for the block that is due and no longer than was agreed. -/
def serviceTransferData (x : Exchange ω) (request : List UInt8) (capacity : UInt16) : Served ω :=
  match x.server.callbacks.transferData with
  | none => negativeResponse x request Nrc.requestSequenceError capacity
  | some transferData =>
    if request.length < 3 ∨ ¬x.server.downloadActive then
      negativeResponse x request Nrc.requestSequenceError capacity
    else if byteAt request 1 ≠ x.server.nextDownloadBlock then
      negativeResponse x request Nrc.wrongBlockSequenceCounter capacity
    else if x.server.maxDownloadBlockLength - 2 < UInt16.ofNat (request.length - 2) then
      negativeResponse x request Nrc.incorrectMessageLengthOrInvalidFormat capacity
    else
      let (result, w) := transferData x.world (byteAt request 1) (request.drop 2)
      let x := { x with world := w }
      if result ≠ .ok then callbackResult x result request capacity
      else
        let x := { x with
          server := { x.server with nextDownloadBlock := x.server.nextDownloadBlock + 1 } }
        if capacity < 2 then negativeResponse x request Nrc.responseTooLong capacity
        else
          (.ok, { x with
            response := (x.response.write 0 0x76).write 1 (byteAt request 1)
            responseLen := 2 })

/-- RequestTransferExit. -/
def serviceTransferExit (x : Exchange ω) (request : List UInt8) (capacity : UInt16) : Served ω :=
  match x.server.callbacks.requestTransferExit with
  | none => negativeResponse x request Nrc.requestSequenceError capacity
  | some requestTransferExit =>
    if ¬x.server.downloadActive then
      negativeResponse x request Nrc.requestSequenceError capacity
    else
      let reply := requestTransferExit x.world (request.drop 1)
        (if 1 < capacity then capacity - 1 else 0)
      let x := { x with
        response := x.response.copy 1 (Buf.ofList reply.data) 0 reply.data.length
        responseLen := reply.length
        world := reply.world }
      if reply.result ≠ .ok then callbackResult x reply.result request capacity
      else if capacity < 1 then negativeResponse x request Nrc.responseTooLong capacity
      else
        (.ok, { x with
          server := { x.server with downloadActive := false }
          response := x.response.write 0 0x77
          responseLen := x.responseLen + 1 })

/-! ## TesterPresent and the modular services -/

/-- TesterPresent. -/
def serviceTesterPresent (x : Exchange ω) (request : List UInt8) (capacity : UInt16) :
    Served ω :=
  if request.length ≠ 2 then
    negativeResponse x request Nrc.incorrectMessageLengthOrInvalidFormat capacity
  else if byteAt request 1 &&& 0x7F ≠ 0 then
    negativeResponse x request Nrc.subfunctionNotSupported capacity
  else if byteAt request 1 &&& suppressPositiveResponse ≠ 0 then (.noResponse, x)
  else if capacity < 2 then negativeResponse x request Nrc.responseTooLong capacity
  else
    (.ok, { x with
      response := (x.response.write 0 0x7E).write 1 (byteAt request 1)
      responseLen := 2 })

/-- `uds_service_backends_preflight` -/
def udsServiceBackendsPreflight (backends : Option (UdsServiceBackends ω)) (sid : UInt8)
    (request : List UInt8) (w : ω) : UdsCallbackResult × ω :=
  match backends with
  | none => (.notSupported, w)
  | some backends =>
    if sid = 0x23 ∨ sid = 0x3D then
      match backends.memory with
      | none => (.ok, w)
      | some memory =>
        match memory.checkAccess with
        | none => (.ok, w)
        | some checkAccess => checkAccess w sid request
    else if sid = 0x2A ∨ sid = 0x86 then
      match backends.periodicEvent with
      | none => (.notSupported, w)
      | some periodicEvent =>
        if periodicEvent.maxPendingItems = 0 then (.notSupported, w) else (.ok, w)
    else (.ok, w)

/-- `uds_service_backends_handler` over the table of service identifiers. -/
def udsServiceBackendsHandler (backends : Option (UdsServiceBackends ω)) (sid : UInt8) :
    Option (ServiceHandler ω) :=
  backends.bind fun b =>
    if sid = 0x23 then b.memory.bind fun memory => memory.readMemory
    else if sid = 0x3D then b.memory.bind fun memory => memory.writeMemory
    else if sid = 0x24 then b.did.bind fun did => did.readScaling
    else if sid = 0x2C then b.did.bind fun did => did.dynamicallyDefine
    else if sid = 0x35 then b.transfer.bind fun transfer => transfer.requestUpload
    else if sid = 0x38 then b.transfer.bind fun transfer => transfer.requestFile
    else if sid = 0x83 then b.timing
    else if sid = 0x2A then b.periodicEvent.bind fun periodicEvent => periodicEvent.periodicData
    else if sid = 0x86 then b.periodicEvent.bind fun periodicEvent => periodicEvent.eventResponse
    else if sid = 0x87 then b.linkControl
    else if sid = 0x29 then b.authentication
    else if sid = 0x84 then b.securedData
    else none

/-- The services that a backend serves, once its preflight has passed the request. -/
def serviceModularBackend (x : Exchange ω) (request : List UInt8) (capacity : UInt16) :
    Served ω :=
  let (preflight, w) := udsServiceBackendsPreflight x.server.callbacks.serviceBackends
    (byteAt request 0) request x.world
  let x := { x with world := w }
  if preflight ≠ .ok then callbackResult x preflight request capacity
  else
    match udsServiceBackendsHandler x.server.callbacks.serviceBackends (byteAt request 0) with
    | none => negativeResponse x request Nrc.serviceNotSupported capacity
    | some handler =>
      let reply := handler x.world request capacity
      let x := { x with
        response := x.response.copy 0 (Buf.ofList reply.data) 0 reply.data.length
        responseLen := reply.length
        world := reply.world }
      if reply.result = .noResponse then (.noResponse, x)
      else if reply.result ≠ .ok then callbackResult x reply.result request capacity
      else if capacity < x.responseLen then
        negativeResponse x request Nrc.responseTooLong capacity
      else (.ok, x)

end UdsIsoTp.Uds
