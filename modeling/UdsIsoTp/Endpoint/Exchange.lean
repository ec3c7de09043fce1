import UdsIsoTp.Endpoint.Functional
import UdsIsoTp.Endpoint.Order
import UdsIsoTp.Endpoint.Unseen
import UdsIsoTp.IsoTp.LossyLink

/-!
# A tester and an endpoint on a bus that loses frames

A tester sends one request and listens for the answer, with a transmitter and a receiver of
the same library. The bus may lose any frame in either direction, both sides are polled at
any times and so may give up, `send_frame` may refuse frames, and both hear flow control that
nobody has sent.

Then the request need not be answered, but what the server was given and what the tester
hears are never anything else: the server has served the request at most once, whole, and the
tester has heard nothing or, once, the answer that the server gave
(`exchange_whole_or_nothing`). That holds from every state of the endpoint in which nothing
is under way, and so for one exchange after another.

`Conveyed` is the argument in each direction: what reaches a receiver is a sublist of the
frames of one transfer. The two directions share the bus with the flow control of the other,
which `isData` tells apart.
-/

namespace UdsIsoTp.IsoTp

variable {ω : Type}

/-! ## The frames of a transfer -/

/-- All frames but flow control. -/
def isData (frame : IsoTpCanFrame) : Bool := decide (frame.highNibble ≠ 3)

theorem Segmented.isData {payload : List UInt8} {frames : List IsoTpCanFrame}
    (h : Segmented payload frames) : ∀ frame ∈ frames, isData frame = true := by
  intro frame hmem
  refine decide_eq_true ?_
  cases h with
  | nothing => exact absurd hmem (by simp)
  | single type =>
    rw [List.mem_singleton.mp hmem, type]
    decide
  | several type decoded next =>
    rcases List.mem_cons.mp hmem with rfl | hmem
    · rw [type]
      decide
    · rw [(next frame hmem).1]
      decide
  | refused type decoded short next =>
    rcases List.mem_cons.mp hmem with rfl | hmem
    · rw [type]
      decide
    · rw [next frame hmem]
      decide

theorem restFrames_valid (tx : IsoTpTx ω) {rc : IsoTpConfig ω} (hmatched : Matched tx.config rc) :
    ∀ frame ∈ restFrames tx, frameValid rc frame = true := by
  induction tx using restFrames.induct with
  | case1 tx hmore ih =>
    intro frame hmem
    rw [restFrames, dif_pos hmore] at hmem
    rcases List.mem_cons.mp hmem with rfl | hmem
    · exact frameValid_full hmatched.sender hmatched.canFd hmatched.down rfl
        (clearFrame_dlc tx.responseId hmatched.sender)
    · exact ih hmatched frame hmem
  | case2 tx hnone =>
    rw [restFrames, dif_neg hnone]
    exact fun _ hmem => absurd hmem (by simp)

/-- The other side takes the frames of a transfer for valid. -/
theorem segment_valid (tx : IsoTpTx ω) {rc : IsoTpConfig ω} (hmatched : Matched tx.config rc)
    {payload : List UInt8} (hpos : 1 ≤ payload.length) :
    ∀ frame ∈ segment tx payload, frameValid rc frame = true := by
  have hend : TxEnd tx.config tx.responseId tx.requestId (txLoad tx payload 0) := ⟨rfl, rfl, rfl⟩
  unfold segment
  intro frame hmem
  cases hsf : txBuildSf (txLoad tx payload 0) payload with
  | some out =>
    rw [hsf] at hmem
    rw [List.mem_singleton.mp hmem]
    exact (txBuildSf_pdu hmatched hend hpos hsf).valid
  | none =>
    rw [hsf] at hmem
    rcases List.mem_cons.mp hmem with rfl | hmem
    · exact frameValid_full hmatched.sender hmatched.canFd hmatched.down rfl
        (clearFrame_dlc tx.responseId hmatched.sender)
    · exact restFrames_valid (txBuildFirstFrame (txLoad tx payload 0) payload).1 hmatched frame hmem

theorem Matched.symm {sc rc : IsoTpConfig ω} (h : Matched sc rc) : Matched rc sc :=
  ⟨h.receiver, h.sender, h.canFd.symm, h.up, h.down⟩

/-! ## The flow control of a receiver -/

/-- No call changes the identifier that the receiver answers with. -/
theorem rxDispatch_responseId (rx : IsoTpRx ω) (frame : IsoTpCanFrame) (now : UInt32)
    (event : IsoTpRxEvent) : (rxDispatch rx frame now event).rx.responseId = rx.responseId := by
  unfold rxDispatch rxSingle rxFirst rxConsecutive isotpRxReset
  repeat' first | rfl | dsimp only | split

theorem feed_responseId (rx : IsoTpRx ω) (frame : IsoTpCanFrame) (now : UInt32)
    (event : IsoTpRxEvent) : (isotpRxFeed rx frame now event).rx.responseId = rx.responseId := by
  unfold isotpRxFeed
  split
  next => rfl
  next =>
    split
    next => rfl
    next =>
      dsimp only
      split
      next => exact rxDispatch_responseId ..
      next => exact rxDispatch_responseId ..

theorem makeFc_type (rx : IsoTpRx ω) (event : IsoTpRxEvent) (status : IsoTpFlowStatus) :
    (makeFc rx event status).flowControl.highNibble = 3 := by
  have hbyte : (makeFc rx event status).flowControl.data 0
      = UInt8.ofNat (0x30 ||| (status.value &&& 0x0F)) := by
    simp only [makeFc]
    rw [Buf.write_of_ne (by omega), Buf.write_of_ne (by omega), Buf.write_same]
  rw [IsoTpCanFrame.highNibble, hbyte]
  cases status <;> rfl

/-- A flow control frame from this receiver. -/
structure OwnFlow (rx : IsoTpRx ω) (frame : IsoTpCanFrame) : Prop where
  type : frame.highNibble = 3
  id : frame.canId = rx.responseId

theorem makeFc_own (rx : IsoTpRx ω) (event : IsoTpRxEvent) (status : IsoTpFlowStatus) :
    OwnFlow rx (makeFc rx event status).flowControl :=
  ⟨makeFc_type rx event status, rfl⟩

/-- The flow control that the receiver asks for, if it does, is its own. -/
def AsksOwn (rx : IsoTpRx ω) (out : RxOut ω) : Prop :=
  out.event.hasFlowControl = true → OwnFlow rx out.event.flowControl

theorem asksOwn_clear {rx : IsoTpRx ω} {out : RxOut ω} (h : out.event.hasFlowControl = false) :
    AsksOwn rx out := fun hflow => absurd (h.symm.trans hflow) Bool.false_ne_true

theorem rxSingle_flow (rx : IsoTpRx ω) (frame : IsoTpCanFrame) {event : IsoTpRxEvent}
    (hclear : event.hasFlowControl = false) : AsksOwn rx (rxSingle rx frame event) := by
  unfold rxSingle
  split
  next => exact asksOwn_clear hclear
  next =>
    split
    next => exact asksOwn_clear hclear
    next => split <;> exact asksOwn_clear hclear

theorem rxFirst_flow (rx : IsoTpRx ω) (frame : IsoTpCanFrame) (now : UInt32)
    {event : IsoTpRxEvent} (hclear : event.hasFlowControl = false) :
    AsksOwn rx (rxFirst rx frame now event) := by
  unfold rxFirst
  split
  next => exact asksOwn_clear hclear
  next =>
    split
    next => exact asksOwn_clear hclear
    next =>
      split
      next => exact asksOwn_clear hclear
      next =>
        split
        next => exact asksOwn_clear hclear
        next =>
          split
          next => exact fun _ => makeFc_own ..
          next =>
            dsimp only
            split
            next => exact asksOwn_clear hclear
            next => exact fun _ => makeFc_own ..

theorem rxConsecutive_flow (rx : IsoTpRx ω) (frame : IsoTpCanFrame) (now : UInt32)
    {event : IsoTpRxEvent} (hclear : event.hasFlowControl = false) :
    AsksOwn rx (rxConsecutive rx frame now event) := by
  unfold rxConsecutive
  dsimp only
  repeat' split
  all_goals first
    | exact asksOwn_clear hclear
    | exact fun _ => makeFc_own ..

theorem rxDispatch_flow (rx : IsoTpRx ω) (frame : IsoTpCanFrame) (now : UInt32)
    {event : IsoTpRxEvent} (hclear : event.hasFlowControl = false) :
    AsksOwn rx (rxDispatch rx frame now event) := by
  unfold rxDispatch
  split
  next => exact rxSingle_flow rx frame hclear
  next => exact rxFirst_flow rx frame now hclear
  next => exact rxConsecutive_flow rx frame now hclear
  next =>
    split
    next => exact asksOwn_clear hclear
    next => split <;> exact asksOwn_clear hclear

/-- An invalid frame leaves the event as it was; any other one clears it first. -/
theorem feed_flow {rx : IsoTpRx ω} {frame : IsoTpCanFrame}
    (hvalid : frameValid rx.config frame = true) (now : UInt32) (event : IsoTpRxEvent) :
    AsksOwn rx (isotpRxFeed rx frame now event) := by
  unfold isotpRxFeed
  rw [if_neg (not_not.mpr hvalid)]
  split
  next => exact asksOwn_clear rfl
  next =>
    dsimp only
    split
    next =>
      intro hflow
      have hclear : ({ clearEvent event with unexpectedNPdu := true } : IsoTpRxEvent).hasFlowControl
        = false := rfl
      have hown := rxDispatch_flow (isotpRxReset rx) frame now hclear hflow
      exact ⟨hown.type, hown.id⟩
    next => exact rxDispatch_flow rx frame now rfl

end UdsIsoTp.IsoTp

namespace UdsIsoTp.Endpoint

open UdsIsoTp.IsoTp UdsIsoTp.Uds

variable {ω : Type}

/-! ## The exchange -/

/-- A tester and an endpoint, with the frames that are on the bus, the requests that the server
was given with its answers, and the payloads that the tester has received. -/
structure Exchange (ω : Type) where
  sender : IsoTpTx (Recorded ω)
  receiver : IsoTpRx (Recorded ω)
  endpoint : UdsIsoTpEndpoint (Recorded ω)
  world : Recorded ω
  toEndpoint : List IsoTpCanFrame
  toTester : List IsoTpCanFrame
  served : List (List UInt8 × List UInt8)
  delivered : List (List UInt8)

/-- What happens in an exchange; `event` is what the event of the receiver held before, and `w`
is the world of the tester's clock. -/
inductive ExchangeCall (ω : Type) where
  /-- The tester polls its transmitter. -/
  | send (now : UInt32) (frame : IsoTpCanFrame) (w : Recorded ω)
  /-- The next frame reaches the tester. -/
  | hear (now : UInt32) (event : IsoTpRxEvent) (w : Recorded ω)
  | tickTester (now : UInt32)
  | resetTester
  /-- The next frame reaches the endpoint. -/
  | arrive (now : UInt32) (event : IsoTpRxEvent)
  | process (now : UInt32)
  | tick (now : UInt32)
  | txComplete
  /-- The frame at this place of those on the bus is lost. -/
  | loseRequest (i : Nat)
  | loseResponse (i : Nat)
  /-- Flow control reaches the tester that the endpoint has not sent, or the other way round. -/
  | forgeToTester (frame : IsoTpCanFrame) (now : UInt32) (w : Recorded ω)
  | forgeToEndpoint (frame : IsoTpCanFrame) (now : UInt32) (event : IsoTpRxEvent)

/-- The request that a call gives to the server, and what the server answers. -/
def servedBy (s : Exchange ω) : EndpointCall → List (List UInt8 × List UInt8)
  | .receive frame event now =>
    match requestOf s.endpoint frame event now with
    | some (request, mode) => [(request, answerBytes s.endpoint request mode now s.world)]
    | none => []
  | _ => []

/-- A call on the endpoint: the frames that `send_frame` takes go on the bus. -/
def Exchange.call (s : Exchange ω) (call : EndpointCall) : Exchange ω :=
  let out := endpointStep (s.endpoint, s.world) call
  { s with
    endpoint := out.1
    world := out.2
    toTester := s.toTester ++ (takenFrames out.2.2).drop (takenFrames s.world.2).length
    served := s.served ++ servedBy s call }

/-- A frame that reaches the tester. -/
def Exchange.hear (s : Exchange ω) (frame : IsoTpCanFrame) (now : UInt32) (event : IsoTpRxEvent)
    (w : Recorded ω) : Exchange ω :=
  if isData frame then
    let out := isotpRxFeed s.receiver frame now event
    { s with
      receiver := out.rx
      toEndpoint := if out.event.hasFlowControl then s.toEndpoint ++ [out.event.flowControl]
        else s.toEndpoint
      delivered := if out.status = .complete then s.delivered ++ [out.event.bytes]
        else s.delivered }
  else { s with sender := (isotpTxFeedFlowControl s.sender frame now w).2.1 }

/-- One call at either end, or something that befalls a frame on the way. -/
def exchangeStep (s : Exchange ω) : ExchangeCall ω → Exchange ω
  | .send now frame w =>
    let out := (isotpTxNext s.sender now frame w).1
    { s with
      sender := out.tx
      toEndpoint := if out.status = .txFrameReady then s.toEndpoint ++ [out.frame]
        else s.toEndpoint }
  | .hear now event w =>
    match s.toTester with
    | [] => s
    | frame :: rest => Exchange.hear { s with toTester := rest } frame now event w
  | .tickTester now =>
    { s with
      sender := (isotpTxTick s.sender now).2
      receiver := (isotpRxTick s.receiver now).2 }
  | .resetTester =>
    { s with sender := isotpTxReset s.sender, receiver := isotpRxReset s.receiver }
  | .arrive now event =>
    match s.toEndpoint with
    | [] => s
    | frame :: rest => Exchange.call { s with toEndpoint := rest } (.receive frame event now)
  | .process now => s.call (.process now)
  | .tick now => s.call (.tick now)
  | .txComplete => s.call .txComplete
  | .loseRequest i => { s with toEndpoint := s.toEndpoint.eraseIdx i }
  | .loseResponse i => { s with toTester := s.toTester.eraseIdx i }
  | .forgeToTester frame now w =>
    { s with sender := (isotpTxFeedFlowControl s.sender frame now w).2.1 }
  | .forgeToEndpoint frame now event =>
    if isFlowControlForEndpoint s.endpoint frame then s.call (.receive frame event now) else s

/-- The tester starts to send a request; the frame is what its event held before. -/
def exchangeStart (tx₀ : IsoTpTx (Recorded ω)) (rx₀ : IsoTpRx (Recorded ω))
    (tester : IsoTpConfig (Recorded ω)) (config : UdsIsoTpEndpointConfig ω)
    (s : UdsIsoTpEndpoint (Recorded ω) × Recorded ω) (request : List UInt8) (now : UInt32)
    (frame : IsoTpCanFrame) : Exchange ω :=
  let out := isotpTxStart (isotpTxInit tx₀ (some tester) config.responseId config.requestId)
    request now frame
  { sender := out.tx
    receiver := isotpRxInit rx₀ (some tester) config.responseId config.requestId
    endpoint := s.1
    world := s.2
    toEndpoint := if out.status = .txFrameReady then [out.frame] else []
    toTester := []
    served := []
    delivered := [] }

/-- Nothing is under way: no message is being received, none is being sent or waits, and no flow
control does. -/
structure Quiet (e : UdsIsoTpEndpoint ω) : Prop where
  free : TxFree e
  unqueued : e.queuedResponsePending = false
  uncontrolled : e.controlPending = false
  inactive : e.rx.active = false

/-! ## What the endpoint sends -/

section calls

variable {config : UdsIsoTpEndpointConfig ω} {e : UdsIsoTpEndpoint (Recorded ω)} {w : Recorded ω}
  {now : UInt32}

theorem takenFrames_append (log events : List EndpointEvent) :
    takenFrames (log ++ events) = takenFrames log ++ takenFrames events := List.filterMap_append ..

/-- Nothing but `send_frame` makes the bus take frames. -/
theorem record_serving (config : UdsIsoTpEndpointConfig ω) :
    UnseenServing (fun w : Recorded ω => takenFrames w.2) (record config) where
  callbacks := (record_unseen config.udsCallbacks).comp takenFrames
  accepted f hf w sub := by
    obtain ⟨f', -, rfl⟩ := Option.map_eq_some_iff.mp hf
    dsimp only
    split
    next => exact (takenFrames_append ..).trans (List.append_nil _)
    next => rfl
  executed f hf w sub := by
    obtain ⟨f', -, rfl⟩ := Option.map_eq_some_iff.mp hf
    exact (takenFrames_append ..).trans (List.append_nil _)
  resetEvent f hf w event := by
    obtain ⟨f', -, rfl⟩ := Option.map_eq_some_iff.mp hf
    rfl
  clock f hf w := by
    obtain ⟨f', -, rfl⟩ := Option.map_eq_some_iff.mp hf
    rfl

/-- A call that answers no request: what the bus takes, and what is owed afterwards, was owed
before; flow control comes from nowhere. -/
structure Onward (e : UdsIsoTpEndpoint (Recorded ω)) (w : Recorded ω)
    (out : UdsIsoTpEndpoint (Recorded ω) × Recorded ω) : Prop where
  sent : ∃ taken, takenFrames out.2.2 = takenFrames w.2 ++ taken ∧
    (taken.filter isData ++ outstanding out.1).Sublist (outstanding e)
  free : TxFree e → e.queuedResponsePending = false →
    TxFree out.1 ∧ out.1.queuedResponsePending = false
  control : out.1.controlPending = true →
    e.controlPending = true ∧ out.1.pendingControlFrame = e.pendingControlFrame

/-- A call in which the bus takes nothing. -/
theorem Onward.nothing {out : UdsIsoTpEndpoint (Recorded ω) × Recorded ω}
    (htaken : takenFrames out.2.2 = takenFrames w.2)
    (hframes : (outstanding out.1).Sublist (outstanding e))
    (hfree : TxFree e → e.queuedResponsePending = false →
      TxFree out.1 ∧ out.1.queuedResponsePending = false)
    (hcontrol : out.1.controlPending = true →
      e.controlPending = true ∧ out.1.pendingControlFrame = e.pendingControlFrame) :
    Onward e w out :=
  ⟨⟨[], by rw [htaken, List.append_nil], hframes⟩, hfree, hcontrol⟩

/-- A transmitter that goes on, and is asked for no frame while one is pending. -/
theorem outstanding_goesOn {tx : IsoTpTx (Recorded ω)} {frame : IsoTpCanFrame}
    (hgoes : GoesOn e.tx tx) (htx : Continues e.tx tx)
    (hframe : e.txPending = true → frame = e.pendingFrame) :
    (outstanding { e with tx := tx, pendingFrame := frame }).Sublist (outstanding e) := by
  have hqueued := queuedFrames_tx frame htx
  unfold outstanding
  rw [hqueued]
  refine (List.Sublist.append ?_ hgoes.sublist).append (List.Sublist.refl _)
  show (if e.txPending then [frame] else []).Sublist (if e.txPending then [e.pendingFrame] else [])
  split
  next hpending => rw [hframe hpending]
  next => exact List.Sublist.refl _

/-- A response that is dequeued is owed or lost. -/
theorem processQueue_sublist (hfree : TxFree e) (now : UInt32) (w : Recorded ω) :
    (outstanding (processQueue e now w).2.1).Sublist (outstanding e) := by
  unfold processQueue
  split
  next hqueued =>
    have hstart := startResponse_outstanding (e := dequeued e)
      (fun h => absurd h Bool.false_ne_true) e.queuedResponse e.queuedResponseLength
      e.queuedResetCompletion now
    rw [outstanding_free (e := dequeued e) hfree] at hstart
    rw [outstanding_free hfree]
    rcases hstart with ⟨-, -, hframes⟩ | ⟨-, hsame⟩
    · have hall : queuedFrames e = segment e.tx
          (e.queuedResponse.slice 0 e.queuedResponseLength.toNat) := if_pos hqueued
      rw [hall, ← List.nil_append (segment e.tx _)]
      have hnone : queuedFrames (dequeued e) = [] := rfl
      rw [hnone] at hframes
      exact (congrArg (List.Sublist · _) hframes).mpr (List.Sublist.refl _)
    · show (outstanding (startResponse (dequeued e) _ _ _ now).2).Sublist _
      rw [hsame, outstanding_free (e := dequeued e) hfree]
      exact List.nil_sublist _
  next => exact List.Sublist.refl _

/-- No flow control is asked for or sent. -/
structure SameControl (e e' : UdsIsoTpEndpoint ω) : Prop where
  pending : e'.controlPending = e.controlPending
  frame : e'.pendingControlFrame = e.pendingControlFrame

theorem startResponse_control (e : UdsIsoTpEndpoint ω) (response : Buf) (length : UInt16)
    (mark : Bool) (now : UInt32) : SameControl e (startResponse e response length mark now).2 := by
  have heffect := startResponse_cases e response length mark now
  generalize startResponse e response length mark now = out at heffect ⊢
  cases heffect with
  | begun free ready => exact ⟨rfl, rfl⟩
  | queued busy room => exact ⟨rfl, rfl⟩
  | full busy occupied => exact ⟨rfl, rfl⟩
  | refused free failed hstatus => exact ⟨rfl, rfl⟩

theorem processQueue_control (e : UdsIsoTpEndpoint ω) (now : UInt32) (w : ω) :
    SameControl e (processQueue e now w).2.1 := by
  unfold processQueue
  split
  next =>
    have hsame := startResponse_control (dequeued e) e.queuedResponse e.queuedResponseLength
      e.queuedResetCompletion now
    exact ⟨hsame.pending, hsame.frame⟩
  next => exact ⟨rfl, rfl⟩

theorem deliverAnswer_control (e : UdsIsoTpEndpoint ω) (served : Served ω) (mark : Bool)
    (now : UInt32) : SameControl e (deliverAnswer e served mark now).2.1 := by
  unfold deliverAnswer
  dsimp only
  split
  next => split <;> exact ⟨rfl, rfl⟩
  next =>
    split
    next => exact ⟨rfl, rfl⟩
    next => exact startResponse_control ..

theorem handleRxCompletion_control (e : UdsIsoTpEndpoint ω) (event : IsoTpRxEvent)
    (mode : UdsAddressMode) (now : UInt32) (w : ω) :
    SameControl e (handleRxCompletion e event mode now w).2.1 := by
  unfold handleRxCompletion
  split
  next => exact ⟨rfl, rfl⟩
  next =>
    exact ⟨(deliverAnswer_control ..).pending, (deliverAnswer_control ..).frame⟩

/-- The queue's response, once the transmitter has come to rest. -/
theorem processQueue_onward {e' : UdsIsoTpEndpoint (Recorded ω)} {w' : Recorded ω}
    (hfree : TxFree e') (hframes : (outstanding e').Sublist (outstanding e))
    (hqueue : e'.queuedResponsePending = e.queuedResponsePending) (hsame : SameControl e e')
    (hlog : w'.2 = w.2) : Onward e w (processQueue e' now w').2 := by
  have hcontrol := processQueue_control e' now w'
  refine .nothing ?_ ((processQueue_sublist hfree now w').trans hframes) (fun _ hempty => ?_)
    fun hpending => ?_
  · rw [processQueue_world, hlog]
  · have hidle : ¬e'.queuedResponsePending = true := by
      rw [hqueue, hempty]
      exact Bool.false_ne_true
    unfold processQueue
    rw [if_neg hidle]
    exact ⟨hfree, hqueue.trans hempty⟩
  · rw [hcontrol.pending, hsame.pending] at hpending
    exact ⟨hpending, hcontrol.frame.trans hsame.frame⟩

theorem process_onward (hsound : Sound (record config) e)
    (hvalid : validTxConfig (record config).isotpConfig = true)
    (hown : e.controlPending = true → e.pendingControlFrame.highNibble = 3) :
    Onward e w (udsIsotpEndpointProcess e now w).2 := by
  have hconfig := hsound.wired.config_eq
  have htaken : ∀ {w' : Recorded ω} {events : List EndpointEvent}, w'.2 = w.2 ++ events →
      takenFrames w'.2 = takenFrames w.2 ++ takenFrames events := by
    intro w' events hlog
    rw [hlog, takenFrames_append]
  have hkept : ∀ {w' : Recorded ω} {events : List EndpointEvent}, w'.2 = w.2 ++ events →
      takenFrames events = [] → takenFrames w'.2 = takenFrames w.2 := by
    intro w' events hlog hnone
    rw [htaken hlog, hnone, List.append_nil]
  -- a pending frame that is taken was the first of those that were owed
  have hhanded : ∀ {out : UdsIsoTpEndpoint (Recorded ω) × Recorded ω}
      {events : List EndpointEvent}, e.txPending = true → out.2.2 = w.2 ++ events →
      takenFrames events = [e.pendingFrame] → outstanding out.1 = outstanding (submitted e) →
      SameControl e out.1 → Onward e w out := by
    intro out events hpending hlog hone hframes hsame
    refine ⟨⟨_, htaken hlog, ?_⟩, fun hfree => ?_, fun hcontrol => ?_⟩
    · rw [hone, hframes]
      unfold outstanding
      rw [if_pos hpending]
      exact List.filter_sublist.append (List.Sublist.refl _)
    · exact absurd (hfree.1.symm.trans hpending) Bool.false_ne_true
    · rw [hsame.pending] at hcontrol
      exact ⟨hcontrol, hsame.frame⟩
  have heffect := process_cases e now w
  generalize udsIsotpEndpointProcess e now w = out at heffect ⊢
  cases heffect with
  | waiting inFlight asked =>
    refine .nothing ?_ (List.Sublist.refl _) (fun hfree _ => ?_) fun hcontrol => ⟨hcontrol, rfl⟩
    · obtain ⟨-, rfl⟩ | ⟨f, hook, hf⟩ := asked
      · rfl
      · rw [hconfig] at hook
        exact hkept (record_txError hook hf) rfl
    · exact absurd (hfree.2.1.symm.trans inFlight) Bool.false_ne_true
  | aborted inFlight hook failed =>
    rw [hconfig] at hook
    have habort : abortInFlight e = { e with
        tx := isotpTxReset e.tx
        txInFlight := false
        inFlightFinal := false
        inFlightResetCompletion := false
        txResetCompletion := false
        queuedResponsePending := false
        queuedResponseLength := 0
        queuedResetCompletion := false
        uds := udsServerClearReset e.uds } := if_neg (not_not.mpr inFlight)
    rw [habort]
    refine .nothing (hkept (record_txError hook failed) rfl) ?_ (fun hfree _ => ?_)
      fun hcontrol => ⟨hcontrol, rfl⟩
    · refine ((List.Sublist.refl _).append ?_).append (List.nil_sublist _)
      exact (congrArg (List.Sublist · _) (if_pos rfl)).mpr (List.nil_sublist _)
    · exact absurd (hfree.2.1.symm.trans inFlight) Bool.false_ne_true
  | controlRefused idle control sent =>
    rw [hconfig] at sent
    exact .nothing (hkept (record_sendFrame sent) rfl) (List.Sublist.refl _)
      (fun hfree hempty => ⟨hfree, hempty⟩) fun hcontrol => ⟨hcontrol, rfl⟩
  | controlSent idle control sent =>
    rw [hconfig] at sent
    refine ⟨⟨_, htaken (record_sendFrame sent), ?_⟩, fun hfree hempty => ⟨hfree, hempty⟩,
      fun hcontrol => absurd hcontrol Bool.false_ne_true⟩
    have hflow : isData e.pendingControlFrame = false := decide_eq_false (not_not.mpr (hown control))
    show ([e.pendingControlFrame].filter isData ++ outstanding e).Sublist _
    rw [List.filter_singleton, hflow]
    exact List.Sublist.refl _
  | refused idle pending sent =>
    rw [hconfig] at sent
    exact .nothing (hkept (record_sendFrame sent) rfl) (List.Sublist.refl _)
      (fun hfree hempty => ⟨hfree, hempty⟩) fun hcontrol => ⟨hcontrol, rfl⟩
  | sent idle pending sent asked clear =>
    obtain ⟨f, hook, hf⟩ := asked
    rw [hconfig] at sent hook
    have hlog := record_txComplete hook hf
    rw [submittedWorld_log hconfig, record_sendFrame sent, List.append_assoc] at hlog
    exact hhanded pending hlog rfl rfl ⟨rfl, rfl⟩
  | completed idle pending sent asked clear =>
    rw [hconfig] at sent
    have hdone : ∀ w, (completeInFlight (submitted e) w).2.2 = w.2 := fun w =>
      completeInFlight_world (submitted e) w hconfig
    have hsame : ∀ w, SameControl e (completeInFlight (submitted e) w).1 := by
      intro w
      unfold completeInFlight
      dsimp only
      repeat' split
      all_goals exact ⟨rfl, rfl⟩
    obtain ⟨-, rfl⟩ | ⟨f, hook, hf⟩ := asked
    · have htook : takenFrames [.sent e.pendingFrame true] = [e.pendingFrame] := rfl
      refine hhanded pending ?_ htook (completeInFlight_outstanding ..) (hsame _)
      exact (hdone _).trans ((submittedWorld_log hconfig _).trans (record_sendFrame sent))
    · rw [hconfig] at hook
      have hlog := record_txComplete hook hf
      rw [submittedWorld_log hconfig, record_sendFrame sent, List.append_assoc] at hlog
      exact hhanded pending ((hdone _).trans hlog) rfl (completeInFlight_outstanding ..) (hsame _)
  | advanced idle quiet active ready =>
    have hover := handsOver_advanced hsound hvalid quiet ready
    have hframes := hover.frames
    have hnone : (if e.controlPending then [] else takenFrames []) = ([] : List IsoTpCanFrame) := by
      split <;> rfl
    rw [hnone, List.nil_append] at hframes
    refine .nothing (hkept hover.log rfl) ?_ (fun hfree => absurd hfree.2.2 active)
      fun hcontrol => ⟨hcontrol, rfl⟩
    rw [hframes]
  | paused idle quiet active notReady notComplete =>
    refine .nothing ?_ ?_ (fun hfree => absurd hfree.2.2 active) fun hcontrol => ⟨hcontrol, rfl⟩
    · rw [record_next hsound.wired.tx]
    · exact outstanding_goesOn (next_goesOn notReady) (next_continues ..)
        fun hpending => absurd (quiet.symm.trans hpending) Bool.false_ne_true
  | ended idle quiet active complete =>
    have hgoes : GoesOn e.tx (isotpTxNext e.tx now e.pendingFrame w).1.tx :=
      next_goesOn (by rw [complete]; decide)
    exact processQueue_onward ⟨quiet, idle, next_complete_idle complete⟩
      (outstanding_goesOn hgoes (next_continues ..)
        fun hpending => absurd (quiet.symm.trans hpending) Bool.false_ne_true)
      rfl ⟨rfl, rfl⟩ (record_next hsound.wired.tx ..)
  | queue idle quiet inactive =>
    exact processQueue_onward ⟨quiet, idle, inactive⟩ (List.Sublist.refl _) rfl ⟨rfl, rfl⟩ rfl

theorem tick_onward (hsound : Sound (record config) e) (now : UInt32) :
    Onward e w (udsIsotpEndpointTick e now w).2 := by
  refine .nothing (tick_unseen (record_serving config) hsound.wired now w) ?_
    (fun hfree hempty => ⟨⟨hfree.1, hfree.2.1, ?_⟩, hempty⟩) fun hcontrol => ⟨hcontrol, rfl⟩
  · exact outstanding_goesOn (tick_goesOn e.tx now) (tick_continues e.tx now) fun _ => rfl
  · by_contra hbusy
    exact (tick_goesOn e.tx now).busy hbusy hfree.2.2

theorem txComplete_onward (hsound : Sound (record config) e) :
    Onward e w (udsIsotpEndpointTxComplete e w) := by
  refine .nothing ?_ ?_ (fun hfree hempty => ⟨completeInFlight_free hfree w, ?_⟩) ?_
  · show takenFrames (completeInFlight e w).2.2 = _
    rw [completeInFlight_world e w hsound.wired.config_eq]
  · show (outstanding (completeInFlight e w).1).Sublist _
    rw [completeInFlight_outstanding]
  · unfold udsIsotpEndpointTxComplete completeInFlight
    dsimp only
    repeat' split
    all_goals exact hempty
  · unfold udsIsotpEndpointTxComplete completeInFlight
    dsimp only
    repeat' split
    all_goals exact fun hcontrol => ⟨hcontrol, rfl⟩

/-- Flow control for the transmitter. -/
theorem receive_flow (hsound : Sound (record config) e) {frame : IsoTpCanFrame}
    (hflow : isFlowControlForEndpoint e frame = true) (event : IsoTpRxEvent) (now : UInt32)
    (w : Recorded ω) : requestOf e frame event now = none ∧
      (udsIsotpEndpointReceive e frame event now w).2.1.rx = e.rx ∧
      Onward e w (udsIsotpEndpointReceive e frame event now w).2 := by
  have hsame : Onward e w (e, w) := .nothing rfl (List.Sublist.refl _)
    (fun hfree hempty => ⟨hfree, hempty⟩) fun hcontrol => ⟨hcontrol, rfl⟩
  refine ⟨if_pos (.inr (.inl hflow)), ?_⟩
  unfold udsIsotpEndpointReceive
  split
  next => exact ⟨rfl, hsame⟩
  next =>
    split
    next => exact ⟨rfl, hsame⟩
    next =>
      have hgoes := feedFlowControl_goesOn e.tx frame now w
      refine ⟨rfl, .nothing ?_ ?_ (fun hfree hempty => ⟨⟨hfree.1, hfree.2.1, ?_⟩, hempty⟩)
        fun hcontrol => ⟨hcontrol, rfl⟩⟩
      · exact congrArg takenFrames (record_feed hsound.wired.tx frame w)
      · exact outstanding_goesOn hgoes (feedFlowControl_continues ..) fun _ => rfl
      · by_contra hbusy
        exact hgoes.busy hbusy hfree.2.2

/-! ## What the endpoint receives -/

theorem networkFrame_id {e : UdsIsoTpEndpoint ω} {frame : IsoTpCanFrame}
    (hid : frame.canId = e.config.requestId) : (networkFrame e frame).1 = frame := by
  unfold networkFrame
  split
  next => rw [← hid]
  next => rfl

/-- A frame of the tester's request reaches the receiver, or is dropped before. -/
theorem receive_feeds {frame : IsoTpCanFrame} (hid : frame.canId = e.config.requestId)
    (hdata : isData frame = true) (event : IsoTpRxEvent) (now : UInt32) (w : Recorded ω) :
    (requestOf e frame event now = none ∧ (udsIsotpEndpointReceive e frame event now w).2 = (e, w)) ∨
      ((udsIsotpEndpointReceive e frame event now w).2.1.rx
          = (isotpRxFeed e.rx frame now event).rx ∧
        ∀ request mode, requestOf e frame event now = some (request, mode) →
          (isotpRxFeed e.rx frame now event).status = .complete ∧
            request = (isotpRxFeed e.rx frame now event).event.bytes) := by
  have hnetwork := networkFrame_id hid
  have hflow : ¬isFlowControlForEndpoint e frame = true := by
    intro hflow
    exact of_decide_eq_true hdata (of_decide_eq_true hflow).2
  unfold udsIsotpEndpointReceive
  split
  next hdlc => exact .inl ⟨if_pos (.inl hdlc), rfl⟩
  next hdlc =>
    split
    next hdeaf => exact .inl ⟨if_pos (.inr (.inr (.inl hdeaf))), rfl⟩
    next hawake =>
      split
      next hmulti => exact .inl ⟨if_pos (.inr (.inr (.inr hmulti))), rfl⟩
      next hsingle =>
        refine .inr ⟨(receiveRequest_rx ..).trans (by rw [hnetwork]), fun request mode hsome => ?_⟩
        unfold requestOf at hsome
        rw [if_neg (by
          rintro (h | h | h | h)
          · exact hdlc h
          · exact hflow h
          · exact hawake h
          · exact hsingle h), hnetwork] at hsome
        dsimp only at hsome
        split at hsome
        next => exact absurd hsome (by simp)
        next htaken =>
          obtain ⟨rfl, -⟩ := Prod.mk.inj (Option.some.inj hsome)
          refine ⟨?_, rfl⟩
          by_contra hnot
          exact htaken (.inr (.inl hnot))

/-- The flow control that the receiver asks for is the next to be sent, unless another is. -/
theorem receiveRequest_control (e : UdsIsoTpEndpoint ω) (frame : IsoTpCanFrame)
    (event : IsoTpRxEvent) (now : UInt32) (w : ω) :
    SameControl e (receiveRequest e frame event now w).2.1 ∨
      ((isotpRxFeed e.rx (networkFrame e frame).1 now event).event.hasFlowControl = true ∧
        (receiveRequest e frame event now w).2.1.pendingControlFrame
          = (isotpRxFeed e.rx (networkFrame e frame).1 now event).event.flowControl) := by
  unfold receiveRequest queueControlFrame
  dsimp only
  split
  next hasks =>
    split
    next => exact .inl ⟨rfl, rfl⟩
    next =>
      rw [if_neg (by simp)]
      refine .inr ⟨hasks, ?_⟩
      split
      next => rfl
      next => exact (handleRxCompletion_control ..).frame
  next =>
    split
    next => exact .inl ⟨rfl, rfl⟩
    next =>
      exact .inl ⟨(handleRxCompletion_control ..).pending, (handleRxCompletion_control ..).frame⟩

theorem receive_control (e : UdsIsoTpEndpoint ω) (frame : IsoTpCanFrame) (event : IsoTpRxEvent)
    (now : UInt32) (w : ω) :
    SameControl e (udsIsotpEndpointReceive e frame event now w).2.1 ∨
      ((isotpRxFeed e.rx (networkFrame e frame).1 now event).event.hasFlowControl = true ∧
        (udsIsotpEndpointReceive e frame event now w).2.1.pendingControlFrame
          = (isotpRxFeed e.rx (networkFrame e frame).1 now event).event.flowControl) := by
  unfold udsIsotpEndpointReceive
  split
  next => exact .inl ⟨rfl, rfl⟩
  next =>
    split
    next => split <;> exact .inl ⟨rfl, rfl⟩
    next =>
      split
      next => exact .inl ⟨rfl, rfl⟩
      next =>
        split
        next => exact .inl ⟨rfl, rfl⟩
        next => exact receiveRequest_control e frame event now w

/-- The frames of one transfer of these bytes to a receiver with this identifier and this
configuration. -/
structure Transfer (id : UInt32) (rc : IsoTpConfig (Recorded ω)) (payload : List UInt8)
    (frames : List IsoTpCanFrame) : Prop where
  segmented : Segmented payload frames
  id : ∀ frame ∈ frames, frame.canId = id
  valid : ∀ frame ∈ frames, frameValid rc frame = true

theorem transfer_nothing (id : UInt32) (rc : IsoTpConfig (Recorded ω)) (payload : List UInt8) :
    Transfer id rc payload [] :=
  ⟨.nothing, fun _ h => absurd h List.not_mem_nil, fun _ h => absurd h List.not_mem_nil⟩

theorem start_transfer {tx : IsoTpTx (Recorded ω)} {rc : IsoTpConfig (Recorded ω)}
    {payload : List UInt8} {frame : IsoTpCanFrame} (hmatched : Matched tx.config rc)
    (h : (isotpTxStart tx payload now frame).status = .txFrameReady) :
    Transfer tx.responseId rc payload (segment tx payload) := by
  obtain ⟨hids, hsegmented⟩ := start_segmented h
  exact ⟨hsegmented, hids, segment_valid tx hmatched (start_pos h)⟩

/-- An answer that is started, by an endpoint that owes nothing. -/
theorem startResponse_transfer {rc : IsoTpConfig (Recorded ω)} (hmatched : Matched e.tx.config rc)
    (hfree : TxFree e) (hempty : e.queuedResponsePending = false) (response : Buf)
    (length : UInt16) (mark : Bool) (now : UInt32) :
    ∃ frames, Transfer e.tx.responseId rc (response.slice 0 length.toNat) frames ∧
      (outstanding (startResponse e response length mark now).2).Sublist frames := by
  have hnone : outstanding e = [] := by
    rw [outstanding_free hfree]
    exact if_neg (by rw [hempty]; exact Bool.false_ne_true)
  have heffect := startResponse_cases e response length mark now
  have hstart := startResponse_outstanding (fun h => absurd (hempty.symm.trans h)
    Bool.false_ne_true) response length mark now
  generalize startResponse e response length mark now = out at heffect hstart ⊢
  cases heffect with
  | begun free ready =>
    refine ⟨_, start_transfer hmatched ready, ?_⟩
    obtain ⟨-, -, hframes⟩ | ⟨hbad, -⟩ := hstart
    · rw [hframes, hnone]
      exact List.Sublist.refl _
    · exact absurd rfl hbad
  | queued busy room => exact absurd hfree busy
  | full busy occupied => exact absurd hfree busy
  | refused free failed hstatus =>
    refine ⟨[], transfer_nothing .., ?_⟩
    rw [hnone]

/-- A frame that reaches an endpoint which owes nothing: nothing is owed afterwards, or one
answer. -/
theorem receive_begins {rc : IsoTpConfig (Recorded ω)} (hsound : Sound (record config) e)
    (hmatched : Matched (record config).isotpConfig rc) (hfree : TxFree e)
    (hempty : e.queuedResponsePending = false) (frame : IsoTpCanFrame) (event : IsoTpRxEvent)
    (now : UInt32) (w : Recorded ω) :
    (requestOf e frame event now = none ∧
        TxFree (udsIsotpEndpointReceive e frame event now w).2.1 ∧
        (udsIsotpEndpointReceive e frame event now w).2.1.queuedResponsePending = false) ∨
      ∃ request mode frames, requestOf e frame event now = some (request, mode) ∧
        Transfer config.responseId rc (answerBytes e request mode now w) frames ∧
        (outstanding (udsIsotpEndpointReceive e frame event now w).2.1).Sublist frames := by
  have heffect := receive_cases e frame event now w
  generalize udsIsotpEndpointReceive e frame event now w = out at heffect ⊢
  cases heffect with
  | dropped none => exact .inl ⟨none, hfree, hempty⟩
  | flow none =>
    refine .inl ⟨none, ⟨hfree.1, hfree.2.1, ?_⟩, hempty⟩
    by_contra hbusy
    exact (feedFlowControl_goesOn e.tx frame now w).busy hbusy hfree.2.2
  | part none => exact .inl ⟨none, hfree, hempty⟩
  -- a whole request is served, and its answer starts unless there is none
  | @request rx control controlPending request mode some awake =>
    right
    rcases answered_starts (received e rx control controlPending) request mode now w with
      ⟨-, server, response, hout⟩ | ⟨server, mark, hout⟩
    · refine ⟨request, mode, [], some, transfer_nothing .., ?_⟩
      rw [hout]
      show (outstanding e).Sublist []
      rw [outstanding_free hfree]
      exact (if_neg (by rw [hempty]; exact Bool.false_ne_true) :
        queuedFrames e = []) ▸ List.Sublist.refl _
    · have hendpoint := (Prod.ext_iff.mp hout).2
      dsimp only at hendpoint
      have hwired := hsound.wired
      have hfits : Matched e.tx.config rc := by
        rw [hwired.tx]
        exact hmatched
      obtain ⟨frames, htransfer, hframes⟩ := startResponse_transfer
        (e := served (received e rx control controlPending) server
          (endpointServe (received e rx control controlPending) request mode now w).2.response)
        hfits hfree hempty
        (endpointServe (received e rx control controlPending) request mode now w).2.response
        (endpointServe (received e rx control controlPending) request mode now w).2.responseLen
        mark now
      refine ⟨request, mode, frames, some, ?_, ?_⟩
      · rw [← show e.tx.responseId = config.responseId from hwired.responseId]
        exact htransfer
      · rw [hendpoint]
        exact hframes

end calls

/-! ## The invariant -/

section exchange

variable {config : UdsIsoTpEndpointConfig ω} {tester : IsoTpConfig (Recorded ω)}
  {asked told : IsoTpRx (Recorded ω)} {request : List UInt8} {frames : List IsoTpCanFrame}
  {s s' : Exchange ω}

/-- The frames of the request on the bus, and those that the tester has yet to send. -/
def requestAhead (s : Exchange ω) : List IsoTpCanFrame :=
  s.toEndpoint.filter isData ++ outgoing s.sender

/-- The frames of the answer on the bus, and those that the endpoint owes. -/
def answerAhead (s : Exchange ω) : List IsoTpCanFrame :=
  s.toTester.filter isData ++ outstanding s.endpoint

/-- The request is on its way. -/
structure Asking (told : IsoTpRx (Recorded ω)) (s : Exchange ω) : Prop where
  served : s.served = []
  delivered : s.delivered = []
  free : TxFree s.endpoint
  unqueued : s.endpoint.queuedResponsePending = false
  silent : s.toTester.filter isData = []
  listening : ∃ calls, Conveyed told [] calls s.receiver []

/-- The server was given the request, and the answer is on its way. -/
structure Answered (config : UdsIsoTpEndpointConfig ω) (tester : IsoTpConfig (Recorded ω))
    (told : IsoTpRx (Recorded ω)) (request answer : List UInt8) (s : Exchange ω) : Prop where
  served : s.served = [(request, answer)]
  spent : requestAhead s = []
  conveyed : ∃ frames calls, Transfer config.responseId tester answer frames ∧
    Conveyed told frames calls s.receiver (answerAhead s)
  delivered : s.delivered = [] ∨ (s.delivered = [answer] ∧ answerAhead s = [])

/-- What holds at any time: `asked` and `told` are the two receivers as they were at first, and
`frames` are those of the request. -/
structure Exchanging (config : UdsIsoTpEndpointConfig ω) (tester : IsoTpConfig (Recorded ω))
    (asked told : IsoTpRx (Recorded ω)) (request : List UInt8) (frames : List IsoTpCanFrame)
    (s : Exchange ω) : Prop where
  sound : Sound (record config) s.endpoint
  tuned : Tuned (record config) s.endpoint.rx
  control : s.endpoint.controlPending = true → s.endpoint.pendingControlFrame.highNibble = 3
  sender : s.sender.config = tester
  receiver : s.receiver.config = tester ∧ s.receiver.responseId = config.requestId
  addressed : ∀ frame ∈ s.toEndpoint, frame.canId = config.requestId
  conveyed : ∃ calls, Conveyed asked frames calls s.endpoint.rx (requestAhead s)
  phase : Asking told s ∨ ∃ answer, Answered config tester told request answer s

/-- The tester does something, or the bus loses a frame, and nobody is told anything. -/
structure Aside (config : UdsIsoTpEndpointConfig ω) (s s' : Exchange ω) : Prop where
  endpoint : s'.endpoint = s.endpoint
  served : s'.served = s.served
  delivered : s'.delivered = s.delivered
  sender : s'.sender.config = s.sender.config
  receiver : s'.receiver.config = s.receiver.config ∧ s'.receiver.responseId = s.receiver.responseId
  addressed : (∀ frame ∈ s.toEndpoint, frame.canId = config.requestId) →
    ∀ frame ∈ s'.toEndpoint, frame.canId = config.requestId
  request : (requestAhead s').Sublist (requestAhead s)
  answer : (s'.toTester.filter isData).Sublist (s.toTester.filter isData)
  listening : ∀ {told frames calls ahead}, Conveyed told frames calls s.receiver ahead →
    ∃ calls, Conveyed told frames calls s'.receiver ahead

theorem Exchanging.aside (h : Exchanging config tester asked told request frames s)
    (haside : Aside config s s') : Exchanging config tester asked told request frames s' := by
  have hanswer : (answerAhead s').Sublist (answerAhead s) := by
    unfold answerAhead
    rw [haside.endpoint]
    exact haside.answer.append (List.Sublist.refl _)
  obtain ⟨calls, hconveyed⟩ := h.conveyed
  refine ⟨haside.endpoint ▸ h.sound, haside.endpoint ▸ h.tuned, haside.endpoint ▸ h.control,
    haside.sender.trans h.sender, ⟨haside.receiver.1.trans h.receiver.1,
      haside.receiver.2.trans h.receiver.2⟩, haside.addressed h.addressed,
    ⟨calls, haside.endpoint ▸ hconveyed.shrink haside.request⟩, ?_⟩
  rcases h.phase with hasking | ⟨answer, hanswered⟩
  · obtain ⟨heard, hlistening⟩ := hasking.listening
    refine .inl ⟨haside.served.trans hasking.served, haside.delivered.trans hasking.delivered,
      haside.endpoint ▸ hasking.free, haside.endpoint ▸ hasking.unqueued, ?_,
      haside.listening hlistening⟩
    have hsilent := haside.answer
    rw [hasking.silent] at hsilent
    exact List.sublist_nil.mp hsilent
  · obtain ⟨parts, heard, htransfer, hheard⟩ := hanswered.conveyed
    obtain ⟨heard', hheard'⟩ := haside.listening (hheard.shrink hanswer)
    have hspent := haside.request
    rw [hanswered.spent] at hspent
    refine .inr ⟨answer, haside.served.trans hanswered.served, List.sublist_nil.mp hspent,
      ⟨parts, heard', htransfer, hheard'⟩, ?_⟩
    rw [haside.delivered]
    rcases hanswered.delivered with hnone | ⟨hsome, hlast⟩
    · exact .inl hnone
    · rw [hlast] at hanswer
      exact .inr ⟨hsome, List.sublist_nil.mp hanswer⟩

/-- A call on the endpoint that gives the server nothing. -/
theorem Exchanging.onward (h : Exchanging config tester asked told request frames s)
    {call : EndpointCall} (honward : Onward s.endpoint s.world
      (endpointStep (s.endpoint, s.world) call)) (hserved : servedBy s call = [])
    (hrx : ∀ calls, Conveyed asked frames calls s.endpoint.rx (requestAhead s) →
      ∃ calls, Conveyed asked frames calls (endpointStep (s.endpoint, s.world) call).1.rx
        (requestAhead s)) :
    Exchanging config tester asked told request frames (s.call call) := by
  obtain ⟨taken, htaken, hframes⟩ := honward.sent
  have hbus : (s.call call).toTester = s.toTester ++ taken := by
    show s.toTester ++ (takenFrames (endpointStep (s.endpoint, s.world) call).2.2).drop _ = _
    rw [htaken, List.drop_left]
  have hsame : (s.call call).served = s.served := by
    show s.served ++ servedBy s call = _
    rw [hserved, List.append_nil]
  have hanswer : (answerAhead (s.call call)).Sublist (answerAhead s) := by
    unfold answerAhead
    rw [hbus, List.filter_append, List.append_assoc]
    exact (List.Sublist.refl _).append hframes
  obtain ⟨calls, hconveyed⟩ := h.conveyed
  refine ⟨endpointStep_sound (s.endpoint, s.world) call h.sound,
    endpointStep_tuned (s.endpoint, s.world) call h.tuned, fun hpending => ?_, h.sender,
    h.receiver, h.addressed, hrx calls hconveyed, ?_⟩
  · obtain ⟨hbefore, hframe⟩ := honward.control hpending
    exact (congrArg IsoTpCanFrame.highNibble hframe).trans (h.control hbefore)
  rcases h.phase with hasking | ⟨answer, hanswered⟩
  · obtain ⟨hfree, hempty⟩ := honward.free hasking.free hasking.unqueued
    refine .inl ⟨hsame.trans hasking.served, hasking.delivered, hfree, hempty, ?_,
      hasking.listening⟩
    have hnothing : answerAhead s = [] := by
      unfold answerAhead
      rw [hasking.silent, outstanding_free hasking.free]
      exact if_neg (by rw [hasking.unqueued]; exact Bool.false_ne_true)
    rw [hnothing] at hanswer
    exact (List.append_eq_nil_iff.mp (List.sublist_nil.mp hanswer)).1
  · obtain ⟨parts, heard, htransfer, hheard⟩ := hanswered.conveyed
    refine .inr ⟨answer, hsame.trans hanswered.served, hanswered.spent,
      ⟨parts, heard, htransfer, hheard.shrink hanswer⟩, ?_⟩
    rcases hanswered.delivered with hnone | ⟨hsome, hlast⟩
    · exact .inl hnone
    · rw [hlast] at hanswer
      exact .inr ⟨hsome, List.sublist_nil.mp hanswer⟩

/-- A frame of the request reaches the endpoint. -/
theorem Exchanging.arrive (h : Exchanging config tester asked told request frames s)
    (hmatched : Matched tester (record config).isotpConfig)
    (hidle : asked.active = false) (hasked : asked.requestId = config.requestId)
    (hframes : Transfer config.requestId (record config).isotpConfig request frames)
    {frame : IsoTpCanFrame} {rest : List IsoTpCanFrame} (harrives : s.toEndpoint = frame :: rest)
    (hdata : isData frame = true) (now : UInt32) (event : IsoTpRxEvent) :
    Exchanging config tester asked told request frames
      (Exchange.call { s with toEndpoint := rest } (.receive frame event now)) := by
  obtain ⟨calls, hconveyed⟩ := h.conveyed
  have hahead : requestAhead s = frame :: requestAhead { s with toEndpoint := rest } := by
    unfold requestAhead
    rw [harrives, List.filter_cons_of_pos hdata]
    rfl
  rw [hahead] at hconveyed
  have hmem : frame ∈ frames := hconveyed.ahead.subset (by simp)
  have hid := hframes.id frame hmem
  have hvalid : frameValid s.endpoint.rx.config frame = true := by
    rw [h.tuned.config_eq]
    exact hframes.valid frame hmem
  -- while a frame of the request is on its way, nothing has been answered
  have hasking : Asking told s := by
    rcases h.phase with hasking | ⟨answer, hanswered⟩
    · exact hasking
    · have hspent := hanswered.spent
      rw [hahead] at hspent
      exact absurd hspent (by simp)
  have hto : frame.canId = s.endpoint.config.requestId := by
    rw [h.sound.wired.config_eq]
    exact hid
  have hunsent := receive_unseen (record_serving config) h.sound.wired frame event now s.world
  have hcontrol := receive_control s.endpoint frame event now s.world
  have hbus : (Exchange.call { s with toEndpoint := rest } (.receive frame event now)).toTester
      = s.toTester := by
    show s.toTester ++ (takenFrames
      (udsIsotpEndpointReceive s.endpoint frame event now s.world).2.2.2).drop _ = _
    rw [hunsent, List.drop_length, List.append_nil]
  have hsilent : (Exchange.call { s with toEndpoint := rest }
      (.receive frame event now)).toTester.filter isData = [] := by
    rw [hbus]
    exact hasking.silent
  have hfed : Conveyed asked frames (calls ++ [.feed frame now event])
      (isotpRxFeed s.endpoint.rx frame now event).rx (requestAhead { s with toEndpoint := rest }) :=
    hconveyed.feed (hid.trans hasked.symm)
  -- the request goes on, or this frame completes it and the answer begins
  refine ⟨endpointStep_sound (s.endpoint, s.world) _ h.sound,
    endpointStep_tuned (s.endpoint, s.world) _ h.tuned, fun hpending => ?_, h.sender, h.receiver,
    fun f hf => h.addressed f (harrives ▸ List.mem_cons_of_mem frame hf), ?_, ?_⟩
  · rcases hcontrol with hsame | ⟨hasks, hflow⟩
    · exact (congrArg IsoTpCanFrame.highNibble hsame.frame).trans
        (h.control (hsame.pending.symm.trans hpending))
    · rw [networkFrame_id hto] at hasks hflow
      exact (congrArg IsoTpCanFrame.highNibble hflow).trans
        (feed_flow hvalid now event hasks).type
  · rcases receive_feeds hto hdata event now s.world with ⟨-, hdropped⟩ | ⟨hrx, -⟩
    · refine ⟨calls, ?_⟩
      show Conveyed asked frames calls
        (udsIsotpEndpointReceive s.endpoint frame event now s.world).2.1.rx _
      rw [hdropped]
      exact hconveyed.shrink (List.sublist_cons_self ..)
    · refine ⟨calls ++ [.feed frame now event], ?_⟩
      show Conveyed asked frames _
        (udsIsotpEndpointReceive s.endpoint frame event now s.world).2.1.rx _
      rw [hrx]
      exact hfed
  · rcases receive_begins h.sound hmatched.symm hasking.free hasking.unqueued frame event now
      s.world with
      ⟨hnone, hfree, hempty⟩ | ⟨bytes, mode, parts, hsome, htransfer, howed⟩
    · refine .inl ⟨?_, hasking.delivered, hfree, hempty, hsilent, hasking.listening⟩
      show s.served ++ servedBy { s with toEndpoint := rest } (.receive frame event now) = []
      rw [hasking.served]
      simp [servedBy, hnone]
    · -- the frame completes the request, which was the last of its frames
      obtain ⟨hnone, -⟩ | ⟨-, hcompletes⟩ := receive_feeds hto hdata event now s.world
      · exact absurd (hnone.symm.trans hsome) (by simp)
      obtain ⟨hcomplete, rfl⟩ := hcompletes bytes mode hsome
      obtain ⟨hbytes, hall⟩ := hconveyed.complete hidle hframes.segmented hcomplete
      obtain ⟨heard, hlistening⟩ := hasking.listening
      have hunheard : fedFrames told.requestId heard = [] := by
        have hnothing := List.sublist_nil.mp hlistening.ahead
        exact (List.append_eq_nil_iff.mp hnothing).1
      refine .inr ⟨answerBytes s.endpoint (isotpRxFeed s.endpoint.rx frame now event).event.bytes
        mode now s.world, ?_, hconveyed.exhausted hall, ⟨parts, heard, htransfer,
          hlistening.receiver, ?_⟩, .inl hasking.delivered⟩
      · show s.served ++ servedBy { s with toEndpoint := rest } (.receive frame event now) = _
        rw [hasking.served]
        simp [servedBy, hsome, hbytes]
      · unfold answerAhead
        rw [hunheard, hsilent]
        exact howed

/-- A frame of the answer reaches the tester. -/
theorem Exchanging.hear (h : Exchanging config tester asked told request frames s)
    (hidle : told.active = false) (htold : told.requestId = config.responseId)
    {frame : IsoTpCanFrame} {rest : List IsoTpCanFrame} (harrives : s.toTester = frame :: rest)
    (hdata : isData frame = true) (now : UInt32) (event : IsoTpRxEvent) (w : Recorded ω) :
    Exchanging config tester asked told request frames
      (Exchange.hear { s with toTester := rest } frame now event w) := by
  have hheard : (s.toTester.filter isData) = frame :: rest.filter isData := by
    rw [harrives, List.filter_cons_of_pos hdata]
  obtain ⟨answer, hanswered⟩ : ∃ answer, Answered config tester told request answer s := by
    rcases h.phase with hasking | hanswered
    · have hsilent := hasking.silent
      rw [hheard] at hsilent
      exact absurd hsilent (by simp)
    · exact hanswered
  obtain ⟨parts, heard, htransfer, hconveyed⟩ := hanswered.conveyed
  have hahead : answerAhead s = frame :: answerAhead { s with toTester := rest } := by
    unfold answerAhead
    rw [hheard]
    rfl
  rw [hahead] at hconveyed
  have hmem : frame ∈ parts := hconveyed.ahead.subset (by simp)
  have hvalid : frameValid s.receiver.config frame = true := by
    rw [h.receiver.1]
    exact htransfer.valid frame hmem
  have hasks := feed_flow hvalid now event
  have hunheard : s.delivered = [] := by
    rcases hanswered.delivered with hnone | ⟨-, hlast⟩
    · exact hnone
    · rw [hahead] at hlast
      exact absurd hlast (by simp)
  have hfed : Conveyed told parts (heard ++ [.feed frame now event])
      (isotpRxFeed s.receiver frame now event).rx (answerAhead { s with toTester := rest }) :=
    hconveyed.feed ((htransfer.id frame hmem).trans htold.symm)
  have hdone : (isotpRxFeed s.receiver frame now event).status = .complete →
      (isotpRxFeed s.receiver frame now event).event.bytes = answer ∧
        answerAhead { s with toTester := rest } = [] := by
    intro hcomplete
    obtain ⟨hbytes, hall⟩ := hconveyed.complete hidle htransfer.segmented hcomplete
    exact ⟨hbytes, hconveyed.exhausted hall⟩
  unfold Exchange.hear
  rw [if_pos hdata]
  dsimp only
  generalize hout : isotpRxFeed s.receiver frame now event = out at *
  have hconfig : out.rx.config = tester := by
    rw [← hout]
    exact (feed_config ..).trans h.receiver.1
  have hid : out.rx.responseId = config.requestId := by
    rw [← hout]
    exact (feed_responseId ..).trans h.receiver.2
  -- flow control goes back, which is no frame of the request
  have hback : (if out.event.hasFlowControl then s.toEndpoint ++ [out.event.flowControl]
        else s.toEndpoint).filter isData = s.toEndpoint.filter isData ∧
      ∀ frame ∈ (if out.event.hasFlowControl then s.toEndpoint ++ [out.event.flowControl]
        else s.toEndpoint), frame.canId = config.requestId := by
    split
    next hflow =>
      have hown := hasks hflow
      have hnone : isData out.event.flowControl = false := decide_eq_false (not_not.mpr hown.type)
      refine ⟨?_, fun f hf => ?_⟩
      · rw [List.filter_append, List.filter_singleton, hnone]
        exact List.append_nil _
      · rcases List.mem_append.mp hf with hf | hf
        · exact h.addressed f hf
        · rw [List.mem_singleton.mp hf]
          exact hown.id.trans h.receiver.2
    next => exact ⟨rfl, h.addressed⟩
  obtain ⟨calls, hrequest⟩ := h.conveyed
  refine ⟨h.sound, h.tuned, h.control, h.sender, ⟨hconfig, hid⟩, hback.2, ⟨calls, ?_⟩,
    .inr ⟨answer, hanswered.served, ?_, ⟨parts, _, htransfer, hfed⟩, ?_⟩⟩
  · show Conveyed asked frames calls s.endpoint.rx (List.filter isData _ ++ outgoing s.sender)
    rw [hback.1]
    exact hrequest
  · show List.filter isData _ ++ outgoing s.sender = []
    rw [hback.1]
    exact hanswered.spent
  · dsimp only
    split
    next hcomplete =>
      obtain ⟨hbytes, hlast⟩ := hdone hcomplete
      refine .inr ⟨?_, hlast⟩
      rw [hunheard, hbytes]
      rfl
    next => exact .inl hunheard

/-! ## The steps -/

/-- The tester's transmitter goes on. -/
theorem aside_sender (config : UdsIsoTpEndpointConfig ω) (s : Exchange ω)
    {tx : IsoTpTx (Recorded ω)} (hgoes : GoesOn s.sender tx) :
    Aside config s { s with sender := tx } :=
  ⟨rfl, rfl, rfl, hgoes.config, ⟨rfl, rfl⟩, id, (List.Sublist.refl _).append hgoes.sublist,
    List.Sublist.refl _, fun h => ⟨_, h⟩⟩

/-- The tester goes on without a frame. -/
theorem aside_unfed (config : UdsIsoTpEndpointConfig ω) (s : Exchange ω)
    {tx : IsoTpTx (Recorded ω)} (hgoes : GoesOn s.sender tx) (call : RxCall)
    (hunfed : ∀ id, fedFrames id [call] = [])
    (hsame : (rxStep s.receiver call).config = s.receiver.config ∧
      (rxStep s.receiver call).responseId = s.receiver.responseId) :
    Aside config s { s with sender := tx, receiver := rxStep s.receiver call } :=
  ⟨rfl, rfl, rfl, hgoes.config, hsame, id, (List.Sublist.refl _).append hgoes.sublist,
    List.Sublist.refl _, fun h => ⟨_, h.unfed (hunfed _)⟩⟩

/-- Frames on the bus are taken off it. -/
theorem aside_bus (config : UdsIsoTpEndpointConfig ω) (s : Exchange ω)
    {toEndpoint toTester : List IsoTpCanFrame} (hdown : toEndpoint.Sublist s.toEndpoint)
    (hup : toTester.Sublist s.toTester) :
    Aside config s { s with toEndpoint := toEndpoint, toTester := toTester } :=
  ⟨rfl, rfl, rfl, rfl, ⟨rfl, rfl⟩, fun h f hf => h f (hdown.subset hf),
    (hdown.filter _).append (List.Sublist.refl _), hup.filter _, fun h => ⟨_, h⟩⟩

theorem send_exchanging (h : Exchanging config tester asked told request frames s)
    (hmatched : Matched tester (record config).isotpConfig)
    (hframes : Transfer config.requestId (record config).isotpConfig request frames)
    (now : UInt32) (frame : IsoTpCanFrame) (w : Recorded ω) :
    Exchanging config tester asked told request frames
      (exchangeStep s (.send now frame w)) := by
  simp only [exchangeStep]
  by_cases hready : (isotpTxNext s.sender now frame w).1.status = .txFrameReady
  · obtain ⟨hbusy, hconfig⟩ := next_busy hready
    have hnext := next_outgoing s.sender frame (by rw [h.sender]; exact hmatched.sender) hready
    rw [if_pos hready]
    refine h.aside ⟨rfl, rfl, rfl, hconfig, ⟨rfl, rfl⟩, fun haddressed f hf => ?_, ?_,
      List.Sublist.refl _, fun hheard => ⟨_, hheard⟩⟩
    · rcases List.mem_append.mp hf with hf | hf
      · exact haddressed f hf
      · obtain ⟨calls, hconveyed⟩ := h.conveyed
        refine hframes.id f (hconveyed.ahead.subset (List.mem_append_right _
          (List.mem_append_right _ ?_)))
        rw [hnext, List.mem_singleton.mp hf]
        exact List.mem_cons_self
    · show (List.filter isData (s.toEndpoint ++ [_]) ++ outgoing _).Sublist (_ ++ outgoing s.sender)
      rw [hnext, List.filter_append, List.append_assoc, ← List.singleton_append]
      exact (List.Sublist.refl _).append (List.filter_sublist.append (List.Sublist.refl _))
  · rw [if_neg hready]
    exact h.aside (aside_sender config s (next_goesOn hready))

/-- A frame reaches the endpoint that is flow control for it. -/
theorem flow_exchanging (h : Exchanging config tester asked told request frames s)
    {frame : IsoTpCanFrame} (hflow : isFlowControlForEndpoint s.endpoint frame = true)
    (now : UInt32) (event : IsoTpRxEvent) :
    Exchanging config tester asked told request frames (s.call (.receive frame event now)) := by
  obtain ⟨hnone, hrx, honward⟩ := receive_flow h.sound hflow event now s.world
  refine h.onward honward ?_ fun calls hconveyed => ⟨calls, ?_⟩
  · simp only [servedBy, hnone]
  · show Conveyed asked frames _
      (udsIsotpEndpointReceive s.endpoint frame event now s.world).2.1.rx _
    rw [hrx]
    exact hconveyed

theorem exchangeStep_exchanging (h : Exchanging config tester asked told request frames s)
    (hmatched : Matched tester (record config).isotpConfig)
    (hasked : asked.active = false ∧ asked.requestId = config.requestId)
    (htold : told.active = false ∧ told.requestId = config.responseId)
    (hframes : Transfer config.requestId (record config).isotpConfig request frames)
    (call : ExchangeCall ω) :
    Exchanging config tester asked told request frames (exchangeStep s call) := by
  cases call with
  | send now frame w => exact send_exchanging h hmatched hframes now frame w
  | hear now event w =>
    simp only [exchangeStep]
    cases harrives : s.toTester with
    | nil => exact h
    | cons frame rest =>
      dsimp only
      by_cases hdata : isData frame = true
      · exact h.hear htold.1 htold.2 harrives hdata now event w
      · -- flow control for the tester
        have hrest : rest.Sublist s.toTester := by
          rw [harrives]
          exact List.sublist_cons_self ..
        have hless := h.aside (aside_bus config s (List.Sublist.refl s.toEndpoint) hrest)
        unfold Exchange.hear
        rw [if_neg hdata]
        exact hless.aside (aside_sender config _ (feedFlowControl_goesOn s.sender frame now w))
  | tickTester now =>
    refine h.aside (aside_unfed config s (tick_goesOn s.sender now) (.tick now) (fun _ => rfl) ?_)
    show (isotpRxTick s.receiver now).2.config = _ ∧ (isotpRxTick s.receiver now).2.responseId = _
    unfold isotpRxTick
    split
    next => exact ⟨rfl, rfl⟩
    next => split <;> exact ⟨rfl, rfl⟩
  | resetTester =>
    exact h.aside (aside_unfed config s (goesOn_reset s.sender) .reset (fun _ => rfl) ⟨rfl, rfl⟩)
  | arrive now event =>
    simp only [exchangeStep]
    cases harrives : s.toEndpoint with
    | nil => exact h
    | cons frame rest =>
      dsimp only
      by_cases hdata : isData frame = true
      · exact h.arrive hmatched hasked.1 hasked.2 hframes harrives hdata now event
      -- flow control for the endpoint
      · have hrest : rest.Sublist s.toEndpoint := by
          rw [harrives]
          exact List.sublist_cons_self ..
        have hid := h.addressed frame (by rw [harrives]; exact List.mem_cons_self)
        have hflow : isFlowControlForEndpoint s.endpoint frame = true := by
          refine decide_eq_true ⟨?_, ?_⟩
          · rw [h.sound.wired.config_eq]
            exact hid
          · by_contra hother
            exact hdata (decide_eq_true hother)
        exact flow_exchanging (h.aside (aside_bus config s hrest (List.Sublist.refl s.toTester)))
          hflow now event
  | process now =>
    refine h.onward (process_onward h.sound hmatched.receiver h.control) rfl
      fun calls hconveyed => ⟨calls, ?_⟩
    show Conveyed asked frames _ (udsIsotpEndpointProcess s.endpoint now s.world).2.1.rx _
    rw [process_rx]
    exact hconveyed
  | tick now =>
    have hunfed : fedFrames asked.requestId [.tick now] = [] := rfl
    exact h.onward (tick_onward h.sound now) rfl fun calls hconveyed =>
      ⟨_, hconveyed.unfed hunfed⟩
  | txComplete =>
    refine h.onward (txComplete_onward h.sound) rfl fun calls hconveyed => ⟨calls, ?_⟩
    show Conveyed asked frames _ (udsIsotpEndpointTxComplete s.endpoint s.world).1.rx _
    have hrx : (udsIsotpEndpointTxComplete s.endpoint s.world).1.rx = s.endpoint.rx := by
      unfold udsIsotpEndpointTxComplete completeInFlight
      dsimp only
      repeat' split
      all_goals rfl
    rw [hrx]
    exact hconveyed
  | loseRequest i =>
    exact h.aside (aside_bus config s (List.eraseIdx_sublist ..) (List.Sublist.refl s.toTester))
  | loseResponse i =>
    exact h.aside (aside_bus config s (List.Sublist.refl s.toEndpoint) (List.eraseIdx_sublist ..))
  | forgeToTester frame now w =>
    exact h.aside (aside_sender config s (feedFlowControl_goesOn s.sender frame now w))
  | forgeToEndpoint frame now event =>
    simp only [exchangeStep]
    split
    next hflow => exact flow_exchanging h hflow now event
    next => exact h

end exchange

/-! ## Every run -/

/-- A request that the tester starts to send, to an endpoint with nothing under way. -/
theorem exchangeStart_exchanging {config : UdsIsoTpEndpointConfig ω}
    {tester : IsoTpConfig (Recorded ω)} {e : UdsIsoTpEndpoint (Recorded ω)} {w : Recorded ω}
    (hsound : Sound (record config) e) (htuned : Tuned (record config) e.rx) (hquiet : Quiet e)
    (hmatched : Matched tester (record config).isotpConfig)
    (tx₀ : IsoTpTx (Recorded ω)) (rx₀ : IsoTpRx (Recorded ω)) (request : List UInt8)
    (now : UInt32) (frame : IsoTpCanFrame) :
    ∃ frames, Transfer config.requestId (record config).isotpConfig request frames ∧
      Exchanging config tester e.rx
        (isotpRxInit rx₀ (some tester) config.responseId config.requestId) request frames
        (exchangeStart tx₀ rx₀ tester config (e, w) request now frame) := by
  have hidle : (isotpTxInit tx₀ (some tester) config.responseId config.requestId).state = .idle :=
    rfl
  have hid : (isotpTxInit tx₀ (some tester) config.responseId config.requestId).responseId
      = config.requestId := rfl
  have hconfig : (isotpTxInit tx₀ (some tester) config.responseId config.requestId).config
      = tester := rfl
  have hpending : e.controlPending = true → e.pendingControlFrame.highNibble = 3 := fun h =>
    absurd (hquiet.uncontrolled.symm.trans h) Bool.false_ne_true
  -- whatever becomes of the request, the endpoint has seen nothing of it
  have hasking : ∀ s : Exchange ω, s.served = [] → s.delivered = [] → s.endpoint = e →
      s.toTester = [] →
      s.receiver = isotpRxInit rx₀ (some tester) config.responseId config.requestId →
      Asking (isotpRxInit rx₀ (some tester) config.responseId config.requestId) s := by
    intro s hserved hdelivered hendpoint hsilent hreceiver
    exact ⟨hserved, hdelivered, hendpoint ▸ hquiet.free, hendpoint ▸ hquiet.unqueued,
      by rw [hsilent, List.filter_nil], [], hreceiver, List.Sublist.refl _⟩
  unfold exchangeStart
  generalize isotpTxInit tx₀ (some tester) config.responseId config.requestId = tx
    at hidle hid hconfig
  by_cases hready : (isotpTxStart tx request now frame).status = .txFrameReady
  · have htransfer : Transfer config.requestId (record config).isotpConfig request
        (segment tx request) := by
      rw [← hid]
      exact start_transfer (hconfig ▸ hmatched) hready
    refine ⟨segment tx request, htransfer, hsound, htuned, hpending,
      (start_config hready).trans hconfig, ⟨rfl, rfl⟩, ?_, ⟨[], rfl, ?_⟩,
      .inl (hasking _ rfl rfl rfl rfl rfl)⟩
    · dsimp only
      rw [if_pos hready]
      intro first hmem
      apply htransfer.id
      rw [← start_outgoing hready, List.mem_singleton.mp hmem]
      exact List.mem_cons_self
    · unfold requestAhead
      dsimp only
      rw [if_pos hready, ← start_outgoing hready]
      exact List.filter_sublist.append (List.Sublist.refl _)
  · -- the request is refused, and nothing is sent
    have hkept := start_unready hready
    refine ⟨[], transfer_nothing .., hsound, htuned, hpending, ?_, ⟨rfl, rfl⟩, ?_, ⟨[], rfl, ?_⟩,
      .inl (hasking _ rfl rfl rfl rfl rfl)⟩
    · dsimp only
      rw [hkept]
      exact hconfig
    · dsimp only
      rw [if_neg hready]
      exact fun _ hmem => absurd hmem List.not_mem_nil
    · unfold requestAhead
      dsimp only
      rw [if_neg hready, hkept, outgoing, if_pos hidle]
      exact List.Sublist.refl _

/-- **An exchange over a bus that loses frames is all or nothing.** -/
theorem exchange_whole_or_nothing {config : UdsIsoTpEndpointConfig ω}
    {e₀ e₁ : UdsIsoTpEndpoint (Recorded ω)} {start : UInt32}
    (hinit : udsIsotpEndpointInit e₀ (record config) start = some e₁) (w₀ : Recorded ω)
    (before : List EndpointCall) (hquiet : Quiet (run endpointStep (e₁, w₀) before).1)
    {tester : IsoTpConfig (Recorded ω)} (hmatched : Matched tester (record config).isotpConfig)
    (tx₀ : IsoTpTx (Recorded ω)) (rx₀ : IsoTpRx (Recorded ω)) (request : List UInt8)
    (now : UInt32) (frame : IsoTpCanFrame) (calls : List (ExchangeCall ω)) :
    let s := run exchangeStep (exchangeStart tx₀ rx₀ tester config
      (run endpointStep (e₁, w₀) before) request now frame) calls
    (s.served = [] ∧ s.delivered = []) ∨
      ∃ answer, s.served = [(request, answer)] ∧ (s.delivered = [] ∨ s.delivered = [answer]) := by
  intro s
  have hsound : Sound (record config) (run endpointStep (e₁, w₀) before).1 :=
    run_inv (I := fun t : UdsIsoTpEndpoint (Recorded ω) × Recorded ω => Sound (record config) t.1)
      endpointStep_sound (init_sound hinit) before
  have htuned : Tuned (record config) (run endpointStep (e₁, w₀) before).1.rx :=
    run_inv (I := fun t : UdsIsoTpEndpoint (Recorded ω) × Recorded ω => Tuned (record config) t.1.rx)
      endpointStep_tuned (init_tuned hinit) before
  obtain ⟨frames, hframes, hstart⟩ := exchangeStart_exchanging
    (w := (run endpointStep (e₁, w₀) before).2) hsound htuned hquiet hmatched tx₀ rx₀ request now
    frame
  have hs := run_inv (I := Exchanging config tester (run endpointStep (e₁, w₀) before).1.rx
      (isotpRxInit rx₀ (some tester) config.responseId config.requestId) request frames)
    (fun t call h => exchangeStep_exchanging h hmatched ⟨hquiet.inactive, htuned.requestId⟩
      ⟨rfl, rfl⟩ hframes call) hstart calls
  rcases hs.phase with hasking | ⟨answer, hanswered⟩
  · exact .inl ⟨hasking.served, hasking.delivered⟩
  · refine .inr ⟨answer, hanswered.served, ?_⟩
    rcases hanswered.delivered with hnone | ⟨hsome, -⟩
    · exact .inl hnone
    · exact .inr hsome

/-- A tester asks for the extended session, and hears the answer. -/
theorem exchange_whole_or_nothing_bench :
    let start := (bench (record benchConfig), ((), []))
    let s := run exchangeStep (exchangeStart start.1.tx start.1.rx isotpConfigClassicCan benchConfig
      start [0x10, 0x03] 0 (benchFrame 0 []))
      [.arrive 0 benchEvent, .process 0, .hear 0 benchEvent ((), [])]
    s.delivered.length = 1 ∧ ((s.served = [] ∧ s.delivered = []) ∨
      ∃ answer, s.served = [([0x10, 0x03], answer)] ∧
        (s.delivered = [] ∨ s.delivered = [answer])) := by
  have hinit : udsIsotpEndpointInit (blankEndpoint (record benchConfig)) (record benchConfig) 0
      = some (bench (record benchConfig)) := rfl
  have hmatched : Matched isotpConfigClassicCan (record benchConfig).isotpConfig :=
    ⟨by decide, by decide, rfl, Nat.le_refl 8, Nat.le_refl 8⟩
  exact ⟨by decide, exchange_whole_or_nothing hinit ((), []) [] ⟨⟨rfl, rfl, rfl⟩, rfl, rfl, rfl⟩
    hmatched _ _ _ _ _ _⟩

end UdsIsoTp.Endpoint
