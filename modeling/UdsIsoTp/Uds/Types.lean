import UdsIsoTp.Lib.Buffer
import UdsIsoTp.Uds.SecurityGate

/-!
# The data types of the UDS server

`uds.h` and `uds_services.h`: results, callbacks and the server's own state.

A callback takes the world behind its context pointer and hands it back. One that
fills a buffer answers with the bytes it wrote there and with what it left in
`*length`; the code trusts neither to agree with the capacity it passed.
-/

namespace UdsIsoTp.Uds

variable {ω : Type}

/-- What a callback of the application, or a service handler, says of a request. -/
inductive UdsCallbackResult where
  | ok
  | noResponse
  | notSupported
  | subfunctionNotSupported
  | denied
  | outOfRange
  | busy
  | sequenceError
  | invalidKey
  | attemptsExceeded
  | delayActive
  | programmingFailure
  | responseTooLong
  | responsePending
  | invalidFormat
  | securityDenied
  | error
  deriving DecidableEq, Repr

/-- Whether a request was addressed to this server alone. -/
inductive UdsAddressMode where
  | physical
  | functional
  deriving DecidableEq, Repr

/-- The number that the attribute table has for the mode. -/
def UdsAddressMode.value : UdsAddressMode → UInt8
  | .physical => 1
  | .functional => 2

/-- Why the server is reset. -/
inductive UdsResetReason where
  | normal
  | programming
  deriving DecidableEq, Repr

/-! ## Constants -/

/-- `UDS_MAX_REQUEST_LENGTH` -/
def maxRequestLength : Nat := 4095
/-- `UDS_MAX_RESPONSE_LENGTH` -/
def maxResponseLength : UInt16 := 4095

/-- `UDS_SESSION_DEFAULT` -/
def sessionDefault : UInt8 := 0x01
/-- `UDS_SESSION_PROGRAMMING` -/
def sessionProgramming : UInt8 := 0x02
/-- `UDS_SESSION_EXTENDED` -/
def sessionExtended : UInt8 := 0x03
/-- `UDS_SESSION_SAFETY` -/
def sessionSafety : UInt8 := 0x04

/-- `UDS_SUPPRESS_POSITIVE_RESPONSE`, the bit of a sub-function that asks for silence. -/
def suppressPositiveResponse : UInt8 := 0x80

namespace Nrc

/-- `UDS_NRC_SERVICE_NOT_SUPPORTED` -/
def serviceNotSupported : UInt8 := 0x11
/-- `UDS_NRC_SUBFUNCTION_NOT_SUPPORTED` -/
def subfunctionNotSupported : UInt8 := 0x12
/-- `UDS_NRC_INCORRECT_MESSAGE_LENGTH_OR_INVALID_FORMAT` -/
def incorrectMessageLengthOrInvalidFormat : UInt8 := 0x13
/-- `UDS_NRC_RESPONSE_TOO_LONG` -/
def responseTooLong : UInt8 := 0x14
/-- `UDS_NRC_BUSY_REPEAT_REQUEST` -/
def busyRepeatRequest : UInt8 := 0x21
/-- `UDS_NRC_CONDITIONS_NOT_CORRECT` -/
def conditionsNotCorrect : UInt8 := 0x22
/-- `UDS_NRC_REQUEST_SEQUENCE_ERROR` -/
def requestSequenceError : UInt8 := 0x24
/-- `UDS_NRC_REQUEST_OUT_OF_RANGE` -/
def requestOutOfRange : UInt8 := 0x31
/-- `UDS_NRC_SECURITY_ACCESS_DENIED` -/
def securityAccessDenied : UInt8 := 0x33
/-- `UDS_NRC_INVALID_KEY` -/
def invalidKey : UInt8 := 0x35
/-- `UDS_NRC_EXCEEDED_NUMBER_OF_ATTEMPTS` -/
def exceededNumberOfAttempts : UInt8 := 0x36
/-- `UDS_NRC_REQUIRED_TIME_DELAY_NOT_EXPIRED` -/
def requiredTimeDelayNotExpired : UInt8 := 0x37
/-- `UDS_NRC_UPLOAD_DOWNLOAD_NOT_ACCEPTED` -/
def uploadDownloadNotAccepted : UInt8 := 0x70
/-- `UDS_NRC_GENERAL_PROGRAMMING_FAILURE` -/
def generalProgrammingFailure : UInt8 := 0x72
/-- `UDS_NRC_WRONG_BLOCK_SEQUENCE_COUNTER` -/
def wrongBlockSequenceCounter : UInt8 := 0x73
/-- `UDS_NRC_REQUEST_CORRECTLY_RECEIVED_RESPONSE_PENDING` -/
def responsePending : UInt8 := 0x78
/-- `UDS_NRC_SUBFUNCTION_NOT_SUPPORTED_IN_ACTIVE_SESSION` -/
def subfunctionNotSupportedInActiveSession : UInt8 := 0x7E
/-- `UDS_NRC_SERVICE_NOT_SUPPORTED_IN_ACTIVE_SESSION` -/
def serviceNotSupportedInActiveSession : UInt8 := 0x7F

end Nrc

/-! ## Callbacks -/

/-- What a callback that fills a buffer answers: its result, the bytes it wrote and the
length it reported. -/
structure Reply (ω : Type) where
  result : UdsCallbackResult
  data : List UInt8
  length : UInt16
  world : ω

/-- The reports of ReadDTCInformation, with the sub-functions that the backend is capable of. -/
structure UdsDtcBackend (ω : Type) where
  capabilities : UInt32
  report : Option (ω → UInt8 → List UInt8 → UInt16 → Reply ω)

/-- `UdsServiceHandlerFn` -/
abbrev ServiceHandler (ω : Type) := ω → List UInt8 → UInt16 → Reply ω

/-- The handlers of ReadMemoryByAddress and WriteMemoryByAddress. -/
structure UdsMemoryServiceBackend (ω : Type) where
  checkAccess : Option (ω → UInt8 → List UInt8 → UdsCallbackResult × ω)
  readMemory : Option (ServiceHandler ω)
  writeMemory : Option (ServiceHandler ω)

/-- The handlers of ReadScalingDataByIdentifier and DynamicallyDefineDataIdentifier. -/
structure UdsDidServiceBackend (ω : Type) where
  readScaling : Option (ServiceHandler ω)
  dynamicallyDefine : Option (ServiceHandler ω)

/-- The handlers of RequestUpload and RequestFileTransfer. -/
structure UdsTransferServiceBackend (ω : Type) where
  requestUpload : Option (ServiceHandler ω)
  requestFile : Option (ServiceHandler ω)

/-- The handlers of ReadDataByPeriodicIdentifier and ResponseOnEvent. -/
structure UdsPeriodicEventServiceBackend (ω : Type) where
  maxPendingItems : UInt16
  periodicData : Option (ServiceHandler ω)
  eventResponse : Option (ServiceHandler ω)

/-- A backend of one handler is the handler's pointer. -/
structure UdsServiceBackends (ω : Type) where
  memory : Option (UdsMemoryServiceBackend ω)
  did : Option (UdsDidServiceBackend ω)
  transfer : Option (UdsTransferServiceBackend ω)
  timing : Option (ServiceHandler ω)
  periodicEvent : Option (UdsPeriodicEventServiceBackend ω)
  linkControl : Option (ServiceHandler ω)
  authentication : Option (ServiceHandler ω)
  securedData : Option (ServiceHandler ω)

/-- What the application has for the services. A service whose callback is missing is refused. -/
structure UdsCallbacks (ω : Type) where
  readDid : Option (ω → UInt16 → UInt16 → Reply ω) := none
  writeDid : Option (ω → UInt16 → List UInt8 → UdsCallbackResult × ω) := none
  readDtc : Option (ω → UInt8 → List UInt8 → UInt16 → Reply ω) := none
  dtcBackend : Option (UdsDtcBackend ω) := none
  securitySeed : Option (ω → UInt8 → UInt16 → Reply ω) := none
  securityKey : Option (ω → UInt8 → List UInt8 → UdsCallbackResult × ω) := none
  communicationControl : Option (ω → UInt8 → UInt8 → UdsCallbackResult × ω) := none
  ioControl : Option (ω → UInt16 → List UInt8 → UInt16 → Reply ω) := none
  routineControl : Option (ω → UInt8 → UInt16 → List UInt8 → UInt16 → Reply ω) := none
  requestDownload : Option (ω → UInt32 → UInt32 → UdsCallbackResult × UInt16 × ω) := none
  transferData : Option (ω → UInt8 → List UInt8 → UdsCallbackResult × ω) := none
  requestTransferExit : Option (ω → List UInt8 → UInt16 → Reply ω) := none
  ecuReset : Option (ω → UInt8 → UdsCallbackResult × ω) := none
  ecuResetExecute : Option (ω → UInt8 → ω) := none
  controlDtcSetting : Option (ω → UInt8 → UdsCallbackResult × ω) := none
  clearDtc : Option (ω → UInt32 → UdsCallbackResult × ω) := none
  serviceBackends : Option (UdsServiceBackends ω) := none

/-! ## The server -/

/-- The server's own state. The security state is the gate's, and `currentAddressMode` is that of
the request in hand. -/
structure UdsServer (ω : Type) where
  callbacks : UdsCallbacks ω
  session : UInt8
  securityGate : UdsSecurityGate ω
  pendingResetReason : UdsResetReason
  pendingResetSubfunction : UInt8
  nextDownloadBlock : UInt8
  maxDownloadBlockLength : UInt16
  p2ServerMs : UInt16
  p2StarServerMs : UInt16
  s3ServerTimeoutMs : UInt32
  lastActivityMs : UInt32
  downloadActive : Bool
  resetPending : Bool
  resetReady : Bool
  dtcSettingEnabled : Bool
  currentAddressMode : UdsAddressMode

/-- What a service handler works on: the server, the response it fills and the world. -/
structure Exchange (ω : Type) where
  server : UdsServer ω
  response : Buf
  responseLen : UInt16
  world : ω

/-- A handler's verdict and what it leaves behind. -/
abbrev Served (ω : Type) := UdsCallbackResult × Exchange ω

/-- `data[i]`, inside the array. -/
def byteAt (data : List UInt8) (i : Nat) : UInt8 := data.getD i 0

/-- Two bytes from `i` on, the high one first. -/
def readU16 (data : List UInt8) (i : Nat) : UInt16 :=
  ((byteAt data i).toUInt16 <<< 8) ||| (byteAt data (i + 1)).toUInt16

/-- `read_be_u32(&data[i], length)` -/
def readBeU32 (data : List UInt8) (i length : Nat) : UInt32 :=
  (List.range length).foldl (fun value k => (value <<< 8) ||| (byteAt data (i + k)).toUInt32) 0

end UdsIsoTp.Uds
