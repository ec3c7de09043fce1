import UdsIsoTp.Endpoint.Endpoint
import UdsIsoTp.Uds.Beside

/-!
# The application on a bxCAN controller

`can_transport.c` puts the endpoint on a CAN controller, `uds_app.c` wires it and polls
it. The transport keeps the mailboxes that have taken a frame, and a flag for a frame
that was refused.

The hardware abstraction layer is not ours: `CanHal` is what its calls answer, and `η`
the state behind the answers. The callbacks of the application live in that state too
and have no way to the transport, which stands beside it.
-/

namespace UdsIsoTp.App

open UdsIsoTp.IsoTp UdsIsoTp.Uds UdsIsoTp.Endpoint

variable {η : Type}

/-- `CAN_TxHeaderTypeDef`, for a data frame with a standard identifier. -/
structure CanTxHeader where
  stdId : UInt32
  dlc : Nat

/-- The calls on the controller: `addTxMessage` says whether it was `HAL_OK` and in which
mailbox, `busOff` is the bus-off bit of the status register. -/
structure CanHal (η : Type) where
  addTxMessage : η → CanTxHeader → Buf → Bool × UInt32 × η
  isTxMessagePending : η → UInt32 → Bool × η
  abortTxRequest : η → UInt32 → η
  getError : η → UInt32 × η
  busOff : η → Bool × η

/-- `hcan` says whether there is a handle. -/
structure UdsCanTransport where
  hcan : Bool
  requestId : UInt32
  responseId : UInt32
  txMailboxMask : UInt32
  txErrorOccurred : Bool

/-- The world of the endpoint. -/
abbrev CanWorld (η : Type) := η × UdsCanTransport

/-- `uds_can_transport_init` -/
def udsCanTransportInit (hcan : Bool) (requestId responseId : UInt32) : UdsCanTransport where
  hcan := hcan
  requestId := requestId
  responseId := responseId
  txMailboxMask := 0
  txErrorOccurred := false

/-! ## The error bits -/

/-- `CAN_TX_MAILBOX0` -/
def canTxMailbox0 : UInt32 := 0x1
/-- `CAN_TX_MAILBOX1` -/
def canTxMailbox1 : UInt32 := 0x2
/-- `CAN_TX_MAILBOX2` -/
def canTxMailbox2 : UInt32 := 0x4

/-- `HAL_CAN_ERROR_BOF`: the controller is off the bus. -/
def halCanErrorBof : UInt32 := 0x4
/-- `HAL_CAN_ERROR_TX_ALST0`: mailbox 0 lost the arbitration. -/
def halCanErrorTxAlst0 : UInt32 := 0x800
/-- `HAL_CAN_ERROR_TX_TERR0`: mailbox 0 failed to send. -/
def halCanErrorTxTerr0 : UInt32 := 0x1000
/-- `HAL_CAN_ERROR_TX_ALST1` -/
def halCanErrorTxAlst1 : UInt32 := 0x2000
/-- `HAL_CAN_ERROR_TX_TERR1` -/
def halCanErrorTxTerr1 : UInt32 := 0x4000
/-- `HAL_CAN_ERROR_TX_ALST2` -/
def halCanErrorTxAlst2 : UInt32 := 0x8000
/-- `HAL_CAN_ERROR_TX_TERR2` -/
def halCanErrorTxTerr2 : UInt32 := 0x10000

/-- `tx_err_mask`: the errors of the mailboxes in the mask. -/
def txErrMask (mailboxes : UInt32) : UInt32 :=
  (if mailboxes &&& canTxMailbox0 ≠ 0 then halCanErrorTxTerr0 ||| halCanErrorTxAlst0 else 0) |||
  (if mailboxes &&& canTxMailbox1 ≠ 0 then halCanErrorTxTerr1 ||| halCanErrorTxAlst1 else 0) |||
  (if mailboxes &&& canTxMailbox2 ≠ 0 then halCanErrorTxTerr2 ||| halCanErrorTxAlst2 else 0)

/-! ## The transport -/

section Transport

variable (hal : CanHal η)

/-- Hands a frame to a mailbox; when none takes it, the error stays noted. -/
def udsCanTransportSend (w : CanWorld η) (frame : IsoTpCanFrame) : Bool × CanWorld η :=
  if ¬w.2.hcan ∨ frame.isFd ∨ 8 < frame.dlc then (false, w)
  else
    let (accepted, mailbox, h) := hal.addTxMessage w.1 ⟨frame.canId, frame.dlc⟩ frame.data
    if ¬accepted then (false, h, { w.2 with txErrorOccurred := true })
    else (true, h, { w.2 with txMailboxMask := w.2.txMailboxMask ||| mailbox })

/-- Whether every frame handed over is on the bus. -/
def udsCanTransportTxComplete (w : CanWorld η) : Bool × CanWorld η :=
  if ¬w.2.hcan then (false, w)
  else if w.2.txErrorOccurred then (false, w)
  else if w.2.txMailboxMask = 0 then (true, w)
  else
    let (pending, h) := hal.isTxMessagePending w.1 w.2.txMailboxMask
    if pending then (false, h, w.2) else (true, h, { w.2 with txMailboxMask := 0 })

/-- The mailboxes in use are given up. -/
def abortMailboxes (w : CanWorld η) : CanWorld η :=
  if w.2.txMailboxMask ≠ 0 then
    (hal.abortTxRequest w.1 w.2.txMailboxMask, { w.2 with txMailboxMask := 0 })
  else w

/-- Whether a transmission has failed; then the mailboxes are aborted. -/
def udsCanTransportTxError (w : CanWorld η) : Bool × CanWorld η :=
  if ¬w.2.hcan then (false, w)
  else if w.2.txErrorOccurred then
    (true, abortMailboxes hal (w.1, { w.2 with txErrorOccurred := false }))
  else
    let (err, h) := hal.getError w.1
    let (off, h) := hal.busOff h
    if err &&& halCanErrorBof ≠ 0 ∨ off then (true, abortMailboxes hal (h, w.2))
    else if w.2.txMailboxMask ≠ 0 ∧ err &&& txErrMask w.2.txMailboxMask ≠ 0 then
      (true, abortMailboxes hal (h, w.2))
    else (false, h, w.2)

/-! ## The application -/

/-- The configuration of `uds_app_init`, with whatever callbacks the application has. -/
def udsAppConfig (callbacks : UdsCallbacks η) : UdsIsoTpEndpointConfig (CanWorld η) where
  sendFrame := udsCanTransportSend hal
  txComplete := some (udsCanTransportTxComplete hal)
  txError := some (udsCanTransportTxError hal)
  resetEvent := none
  isotpConfig := { isotpConfigClassicCan with paddingEnabled := true, paddingValue := 0xCC }
  requestId := 0x7E0
  responseId := 0x7E8
  functionalRequestId := 0x7DF
  udsCallbacks := besideCallbacks callbacks

/-- A call of `uds_app_process`: the frame that the receive queue had, if any, what the
receiver's event held before, and the time. -/
structure AppStep where
  frame : Option IsoTpCanFrame
  event : IsoTpRxEvent
  now : UInt32

/-- The endpoint of the application and its world. -/
abbrev AppState (η : Type) := UdsIsoTpEndpoint (CanWorld η) × CanWorld η

/-- Asks the transport, and tells the endpoint when the bus has had every frame. -/
def pollComplete (s : AppState η) : AppState η :=
  let (complete, w) := udsCanTransportTxComplete hal s.2
  if complete then udsIsotpEndpointTxComplete s.1 w else (s.1, w)

/-- `uds_app_process` up to the call of `uds_isotp_endpoint_process`. -/
def beforeProcess (s : AppState η) (step : AppStep) : AppState η :=
  let s := pollComplete hal s
  match step.frame with
  | some frame => (udsIsotpEndpointReceive s.1 frame step.event step.now s.2).2
  | none => s

/-- One round of `uds_app_process`. -/
def udsAppProcess (s : AppState η) (step : AppStep) : AppState η :=
  let s := beforeProcess hal s step
  let s := (udsIsotpEndpointProcess s.1 step.now s.2).2
  (udsIsotpEndpointTick s.1 step.now s.2).2

end Transport

end UdsIsoTp.App
