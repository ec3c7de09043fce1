import UdsIsoTp.IsoTp.Rx
import UdsIsoTp.IsoTp.Tx
import UdsIsoTp.Uds.Server

/-!
# The endpoint

`endpoint.c`: one receiver, one transmitter and one server behind four calls. A
response waits in one of three places: as the frame the transmitter has built
(`pendingFrame`), as a frame the bus has taken and not yet confirmed (in flight), or
whole in a queue of one.

A frame goes out through `sendFrame`, which may refuse it; `txComplete` and `txError`
are asked about the frame in flight. `init` demands `sendFrame` and the clock, so they
are no options here, and the clock is left out since nothing of `endpoint.c` reads it.
-/

namespace UdsIsoTp.Endpoint

open UdsIsoTp.IsoTp UdsIsoTp.Uds

variable {ω : Type}

/-- The milestones of an ECU reset that the endpoint reports. -/
inductive UdsResetEvent where
  | requested
  | responseReady
  | txSubmitted
  | txComplete
  | executed
  deriving DecidableEq, Repr

/-- What the owner hands over: the drivers of the bus, the transport's settings and the ids. -/
structure UdsIsoTpEndpointConfig (ω : Type) where
  sendFrame : ω → IsoTpCanFrame → Bool × ω
  txComplete : Option (ω → Bool × ω)
  txError : Option (ω → Bool × ω)
  resetEvent : Option (ω → UdsResetEvent → ω)
  isotpConfig : IsoTpConfig ω
  requestId : UInt32
  responseId : UInt32
  functionalRequestId : UInt32
  udsCallbacks : UdsCallbacks ω

/-- The whole of `uds_isotp_endpoint_t`: both directions, the server, and what waits to be sent. -/
structure UdsIsoTpEndpoint (ω : Type) where
  config : UdsIsoTpEndpointConfig ω
  rx : IsoTpRx ω
  tx : IsoTpTx ω
  uds : UdsServer ω
  response : Buf
  pendingFrame : IsoTpCanFrame
  txPending : Bool
  pendingControlFrame : IsoTpCanFrame
  controlPending : Bool
  pendingResetCompletion : Bool
  pendingFrameFinal : Bool
  txInFlight : Bool
  inFlightFinal : Bool
  inFlightResetCompletion : Bool
  txResetCompletion : Bool
  queuedResponse : Buf
  queuedResponseLength : UInt16
  queuedResponsePending : Bool
  queuedResetCompletion : Bool

/-- A call's status, and the endpoint and the world it leaves. -/
abbrev EndpointOut (ω : Type) := IsoTpStatus × UdsIsoTpEndpoint ω × ω

/-! ## Helpers -/

/-- `frame_is_functional`: an id of 0 is no functional id. -/
def frameIsFunctional (e : UdsIsoTpEndpoint ω) (frame : IsoTpCanFrame) : Bool :=
  decide (e.config.functionalRequestId ≠ 0 ∧ frame.canId = e.config.functionalRequestId)

/-- `queue_control_frame`: one control frame may wait. -/
def queueControlFrame (e : UdsIsoTpEndpoint ω) (frame : IsoTpCanFrame) :
    IsoTpStatus × UdsIsoTpEndpoint ω :=
  if e.controlPending then (.errState, e)
  else (.needFlowControl, { e with pendingControlFrame := frame, controlPending := true })

/-- Whether the server has a reset of its own that an answer must complete. -/
def responseResetPending (server : UdsServer ω) : Bool :=
  server.resetPending && decide (server.pendingResetSubfunction ≠ 0)

/-- Reports a milestone to the owner, when it wants to know. -/
def resetEvent (config : UdsIsoTpEndpointConfig ω) (event : UdsResetEvent) (w : ω) : ω :=
  match config.resetEvent with
  | some report => report w event
  | none => w

/-- Nothing stands between a response and the transmitter. -/
abbrev TxFree (e : UdsIsoTpEndpoint ω) : Prop :=
  e.txPending = false ∧ e.txInFlight = false ∧ e.tx.state = .idle

/-- A response goes to the transmitter when that is free, else into the queue. -/
def startResponse (e : UdsIsoTpEndpoint ω) (response : Buf) (responseLength : UInt16)
    (resetCompletion : Bool) (now : UInt32) : IsoTpStatus × UdsIsoTpEndpoint ω :=
  if ¬TxFree e then
    if e.queuedResponsePending then (.errState, e)
    else
      (.txFrameReady, { e with
        queuedResponse := e.queuedResponse.copy 0 response 0 responseLength.toNat
        queuedResponseLength := responseLength
        queuedResponsePending := true
        queuedResetCompletion := resetCompletion })
  else
    let out := isotpTxStart e.tx (response.slice 0 responseLength.toNat) now e.pendingFrame
    let e := { e with tx := out.tx, pendingFrame := out.frame }
    if out.status ≠ .txFrameReady then (out.status, e)
    else
      (out.status, { e with
        txPending := true
        pendingFrameFinal := decide (out.tx.state = .idle)
        pendingResetCompletion := resetCompletion
        txResetCompletion := resetCompletion })

/-- Sends the control frame that waits; when the bus refuses, it goes on waiting. -/
def submitControl (e : UdsIsoTpEndpoint ω) (w : ω) : EndpointOut ω :=
  if ¬e.controlPending then (.ok, e, w)
  else
    let (sent, w) := e.config.sendFrame w e.pendingControlFrame
    if ¬sent then (.ok, e, w) else (.txFrameReady, { e with controlPending := false }, w)

/-- Drops the message in transmission. -/
def abortInFlight (e : UdsIsoTpEndpoint ω) : UdsIsoTpEndpoint ω :=
  if ¬e.txInFlight then e
  else
    { e with
      tx := isotpTxReset e.tx
      txInFlight := false
      inFlightFinal := false
      inFlightResetCompletion := false
      txResetCompletion := false
      queuedResponsePending := false
      queuedResponseLength := 0
      queuedResetCompletion := false
      uds := udsServerClearReset e.uds }

/-- The frame on the bus is through; the last one of an answer may complete a reset. -/
def completeInFlight (e : UdsIsoTpEndpoint ω) (w : ω) : UdsIsoTpEndpoint ω × ω :=
  if ¬e.txInFlight then (e, w)
  else
    let done := { e with
      txInFlight := false
      inFlightFinal := false
      inFlightResetCompletion := false }
    if e.inFlightFinal ∧ e.inFlightResetCompletion then
      ({ done with uds := (udsServerCompleteReset e.uds).2 }, resetEvent e.config .txComplete w)
    else (done, w)

/-! ## Receiving -/

/-- The endpoint in the memory of `e`, when the configuration is accepted. -/
def udsIsotpEndpointInit (e : UdsIsoTpEndpoint ω) (config : UdsIsoTpEndpointConfig ω)
    (now : UInt32) : Option (UdsIsoTpEndpoint ω) :=
  if config.requestId = config.responseId ∨
      (config.udsCallbacks.ecuReset.isSome ∧ config.txComplete.isNone) then none
  else
    some { e with
      config := config
      rx := isotpRxInit e.rx (some config.isotpConfig) config.requestId config.responseId
      tx := isotpTxInit e.tx (some config.isotpConfig) config.requestId config.responseId
      uds := udsServerInit config.udsCallbacks now
      txPending := false
      controlPending := false
      pendingResetCompletion := false
      pendingFrameFinal := false
      txInFlight := false
      inFlightFinal := false
      inFlightResetCompletion := false
      txResetCompletion := false
      queuedResponseLength := 0
      queuedResponsePending := false
      queuedResetCompletion := false }

/-- `is_flow_control_for_endpoint` -/
def isFlowControlForEndpoint (e : UdsIsoTpEndpoint ω) (frame : IsoTpCanFrame) : Bool :=
  decide (frame.canId = e.config.requestId ∧ frame.highNibble = 3)

/-- The server's answer to a request, in the endpoint's response buffer. -/
def endpointServe (e : UdsIsoTpEndpoint ω) (request : List UInt8) (mode : UdsAddressMode)
    (now : UInt32) (w : ω) : Served ω :=
  udsServerHandleAddressed ⟨e.uds, e.response, 0, w⟩ request maxResponseLength mode now

/-- What the endpoint does with the server's answer; `resetCompletion` says that the
answer is the one a reset waits for. -/
def deliverAnswer (e : UdsIsoTpEndpoint ω) (served : Served ω) (resetCompletion : Bool)
    (now : UInt32) : EndpointOut ω :=
  let w := if resetCompletion then resetEvent e.config .requested served.2.world
    else served.2.world
  if served.1 = .noResponse then
    if resetCompletion then
      let (result, server) := udsServerCompleteReset e.uds
      (.complete, { e with uds := server },
        if result = .ok then resetEvent e.config .executed w else w)
    else (.complete, e, w)
  else if served.1 ≠ .ok ∨ served.2.responseLen = 0 then (.errState, e, w)
  else
    let (status, e') := startResponse e e.response served.2.responseLen resetCompletion now
    (status, e', if resetCompletion then resetEvent e.config .responseReady w else w)

/-- `handle_rx_completion`: serves the request that has come in whole. -/
def handleRxCompletion (e : UdsIsoTpEndpoint ω) (event : IsoTpRxEvent) (mode : UdsAddressMode)
    (now : UInt32) (w : ω) : EndpointOut ω :=
  if 65535 < event.length then (.errOverflow, e, w)
  else
    let request := (event.payload.map fun payload => payload.slice 0 event.length).getD []
    let served := endpointServe e request mode now w
    let resetCompletion := !e.uds.resetPending && responseResetPending served.2.server
    deliverAnswer { e with uds := served.2.server, response := served.2.response } served
      resetCompletion now

/-- The frame as the receiver sees it, and how it was addressed. -/
def networkFrame (e : UdsIsoTpEndpoint ω) (frame : IsoTpCanFrame) :
    IsoTpCanFrame × UdsAddressMode :=
  if frameIsFunctional e frame then ({ frame with canId := e.config.requestId }, .functional)
  else (frame, .physical)

/-- A frame for the receiver; `event` is what its event held before. -/
def receiveRequest (e : UdsIsoTpEndpoint ω) (frame : IsoTpCanFrame) (event : IsoTpRxEvent)
    (now : UInt32) (w : ω) : EndpointOut ω :=
  let (network, mode) := networkFrame e frame
  let out := isotpRxFeed e.rx network now event
  let e := { e with rx := out.rx }
  if out.event.hasFlowControl then
    let (queued, e) := queueControlFrame e out.event.flowControl
    if queued ≠ .needFlowControl then (queued, e, w)
    else if out.status ≠ .complete then (out.status, e, w)
    else handleRxCompletion e out.event mode now w
  else if out.status ≠ .complete then (out.status, e, w)
  else handleRxCompletion e out.event mode now w

/-- `uds_isotp_endpoint_receive`: a flow control goes to the sender, the rest to the receiver. -/
def udsIsotpEndpointReceive (e : UdsIsoTpEndpoint ω) (frame : IsoTpCanFrame)
    (event : IsoTpRxEvent) (now : UInt32) (w : ω) : EndpointOut ω :=
  if frame.dlc = 0 then (.errArgument, e, w)
  else if isFlowControlForEndpoint e frame then
    if e.tx.state = .idle ∧ e.config.isotpConfig.fullDuplex ∧ e.rx.active then (.ok, e, w)
    else
      let (status, tx, w) := isotpTxFeedFlowControl e.tx frame now w
      (status, { e with tx := tx }, w)
  else if responseResetPending e.uds then (.ok, e, w)
  else if frameIsFunctional e frame ∧ frame.highNibble ≠ 0 then (.ok, e, w)
  else receiveRequest e frame event now w

/-! ## Sending -/

/-- The endpoint once the bus has taken the pending frame. -/
def submitted (e : UdsIsoTpEndpoint ω) : UdsIsoTpEndpoint ω :=
  { e with
    txPending := false
    txInFlight := true
    inFlightFinal := e.pendingFrameFinal
    inFlightResetCompletion := e.pendingResetCompletion
    pendingFrameFinal := false
    pendingResetCompletion := false }

/-- The world after the report that the frame a reset waits for was submitted. -/
def submittedWorld (e : UdsIsoTpEndpoint ω) (w : ω) : ω :=
  if e.pendingResetCompletion then resetEvent e.config .txSubmitted w else w

/-- Offers the frame that waits to the bus. -/
def processTxPending (e : UdsIsoTpEndpoint ω) (w : ω) : EndpointOut ω :=
  let (sent, w) := e.config.sendFrame w e.pendingFrame
  if ¬sent then (.ok, e, w)
  else
    let w := submittedWorld e w
    match e.config.txComplete with
    | none => (.txFrameReady, completeInFlight (submitted e) w)
    | some txComplete =>
      let (complete, w) := txComplete w
      if complete then (.txFrameReady, completeInFlight (submitted e) w)
      else (.txFrameReady, submitted e, w)

/-- Starts the answer that waited for the one before it. -/
def processQueuedResponse (e : UdsIsoTpEndpoint ω) (now : UInt32) :
    IsoTpStatus × UdsIsoTpEndpoint ω :=
  let taken := { e with
    queuedResponsePending := false
    queuedResponseLength := 0
    queuedResetCompletion := false }
  startResponse taken e.queuedResponse e.queuedResponseLength e.queuedResetCompletion now

/-- The end of `process`: the queue, once the transmitter has nothing left. -/
def processQueue (e : UdsIsoTpEndpoint ω) (now : UInt32) (w : ω) : EndpointOut ω :=
  if e.queuedResponsePending then
    let (status, e) := processQueuedResponse e now
    (status, e, w)
  else (.ok, e, w)

/-- The rest of `process` when no frame is pending: the next frame of the transfer, or
the queue. -/
def processTransfer (e : UdsIsoTpEndpoint ω) (now : UInt32) (w : ω) : EndpointOut ω :=
  if e.tx.state ≠ .idle then
    let (out, w) := isotpTxNext e.tx now e.pendingFrame w
    let e := { e with tx := out.tx, pendingFrame := out.frame }
    if out.status = .txFrameReady then
      (out.status, { e with
        txPending := true
        pendingFrameFinal := decide (out.tx.payloadLen ≤ out.tx.offset)
        pendingResetCompletion := e.txResetCompletion }, w)
    else if out.status ≠ .complete then (out.status, e, w)
    else processQueue e now w
  else processQueue e now w

/-- `uds_isotp_endpoint_process`: what the main loop does for the sender. -/
def udsIsotpEndpointProcess (e : UdsIsoTpEndpoint ω) (now : UInt32) (w : ω) : EndpointOut ω :=
  if e.txInFlight then
    match e.config.txError with
    | none => (.ok, e, w)
    | some txError =>
      let (failed, w) := txError w
      if failed then (.errState, abortInFlight e, w) else (.ok, e, w)
  else
    let (status, e, w) := submitControl e w
    if e.controlPending ∨ status = .txFrameReady then (status, e, w)
    else if e.txPending then processTxPending e w
    else processTransfer e now w

/-! ## Time and completion -/

/-- `uds_isotp_endpoint_tick`: the timers of both directions, then those of the server. -/
def udsIsotpEndpointTick (e : UdsIsoTpEndpoint ω) (now : UInt32) (w : ω) : EndpointOut ω :=
  let (rxStatus, rx) := isotpRxTick e.rx now
  let (txStatus, tx) := isotpTxTick e.tx now
  let (_, server, w) := udsServerTick e.uds now w
  let executed := e.uds.resetPending && !server.resetPending
  (if rxStatus ≠ .ok then rxStatus else txStatus, { e with rx := rx, tx := tx, uds := server },
    if executed then resetEvent e.config .executed w else w)

/-- `uds_isotp_endpoint_tx_complete` -/
def udsIsotpEndpointTxComplete (e : UdsIsoTpEndpoint ω) (w : ω) : UdsIsoTpEndpoint ω × ω :=
  completeInFlight e w

/-! ## Runs -/

/-- A call on the endpoint; `event` is what the receiver's event held before. -/
inductive EndpointCall where
  | receive (frame : IsoTpCanFrame) (event : IsoTpRxEvent) (now : UInt32)
  | process (now : UInt32)
  | tick (now : UInt32)
  | txComplete

/-- One call, on the endpoint and the world. -/
def endpointStep (s : UdsIsoTpEndpoint ω × ω) : EndpointCall → UdsIsoTpEndpoint ω × ω
  | .receive frame event now => (udsIsotpEndpointReceive s.1 frame event now s.2).2
  | .process now => (udsIsotpEndpointProcess s.1 now s.2).2
  | .tick now => (udsIsotpEndpointTick s.1 now s.2).2
  | .txComplete => udsIsotpEndpointTxComplete s.1 s.2

end UdsIsoTp.Endpoint
