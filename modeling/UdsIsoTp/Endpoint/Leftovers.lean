import UdsIsoTp.Endpoint.Stranded
import UdsIsoTp.IsoTp.Alike

/-!
# What lies about in memory

A call of `receive` meets bytes nobody has written for it: the frame's array behind its
data length, and the event, a local variable without a value until `isotp_rx_feed` fills
it in. The first make no difference to any call (`receive_alike`). The second do, in the
calls in which the receiver is given a frame it finds invalid: `isotp_rx_feed` returns
before it has written anything, and the endpoint reads `has_flow_control` all the same.
-/

namespace UdsIsoTp.Endpoint

open UdsIsoTp.IsoTp UdsIsoTp.Uds

variable {ω : Type}

/-- The frame gets past the endpoint's own checks, to `isotp_rx_feed`. -/
def ReachesReceiver (e : UdsIsoTpEndpoint ω) (frame : IsoTpCanFrame) : Prop :=
  frame.dlc ≠ 0 ∧ isFlowControlForEndpoint e frame = false ∧
    responseResetPending e.uds = false ∧
    ¬(frameIsFunctional e frame = true ∧ frame.highNibble ≠ 0)

/-! ## Frames that say the same -/

section Alike

variable {e : UdsIsoTpEndpoint ω} {frame frame' : IsoTpCanFrame} (h : SameFrame frame frame')

include h

theorem networkFrame_alike :
    SameFrame (networkFrame e frame).1 (networkFrame e frame').1 ∧
      (networkFrame e frame).2 = (networkFrame e frame').2 := by
  have hfunctional : frameIsFunctional e frame = frameIsFunctional e frame' := by
    unfold frameIsFunctional
    rw [h.canId]
  unfold networkFrame
  rw [← hfunctional]
  split
  next => exact ⟨h.withId _, rfl⟩
  next => exact ⟨h, rfl⟩

end Alike

/-- The frame is as valid under the one identifier as under the other. -/
theorem networkFrame_valid (config : IsoTpConfig ω) (e : UdsIsoTpEndpoint ω)
    (frame : IsoTpCanFrame) :
    frameValid config (networkFrame e frame).1 = frameValid config frame := by
  unfold networkFrame
  split
  next => rfl
  next => rfl

theorem handleRxCompletion_alike (e : UdsIsoTpEndpoint ω) {event event' : IsoTpRxEvent}
    (h : SameEvent event event') (mode : UdsAddressMode) (now : UInt32) (w : ω) :
    handleRxCompletion e event mode now w = handleRxCompletion e event' mode now w := by
  unfold handleRxCompletion
  rw [h.length, h.payload]

/-- What the endpoint makes of the receiver's answer: `out` is what `isotp_rx_feed` left. -/
def afterFeed (e : UdsIsoTpEndpoint ω) (out : RxOut ω) (mode : UdsAddressMode) (now : UInt32)
    (w : ω) : EndpointOut ω :=
  let e := { e with rx := out.rx }
  if out.event.hasFlowControl then
    let (queued, e) := queueControlFrame e out.event.flowControl
    if queued ≠ .needFlowControl then (queued, e, w)
    else if out.status ≠ .complete then (out.status, e, w)
    else handleRxCompletion e out.event mode now w
  else if out.status ≠ .complete then (out.status, e, w)
  else handleRxCompletion e out.event mode now w

theorem receiveRequest_eq (e : UdsIsoTpEndpoint ω) (frame : IsoTpCanFrame)
    (event : IsoTpRxEvent) (now : UInt32) (w : ω) :
    receiveRequest e frame event now w
      = afterFeed e (isotpRxFeed e.rx (networkFrame e frame).1 now event)
          (networkFrame e frame).2 now w := rfl

/-- The endpoint reads no more of the answer than it says. -/
theorem afterFeed_alike (e : UdsIsoTpEndpoint ω) {out out' : RxOut ω} (h : SameOut out out')
    (mode : UdsAddressMode) (now : UInt32) (w : ω) :
    afterFeed e out mode now w = afterFeed e out' mode now w := by
  unfold afterFeed
  rw [← h.rx, ← h.status, ← h.event.hasFlowControl]
  have hcompletion := fun e' => handleRxCompletion_alike e' h.event mode now w
  -- the control frame is looked at only where the event announces one
  split
  next hfc =>
    rw [← h.event.flowControl hfc]
    dsimp only
    rw [hcompletion]
  next =>
    dsimp only
    rw [hcompletion]

/-- The receiver's answer to a frame is settled by what the frame says, if the frame is
valid or the events are the same. -/
theorem feed_decided {frame frame' : IsoTpCanFrame} (h : SameFrame frame frame') (rx : IsoTpRx ω)
    (now : UInt32) {event event' : IsoTpRxEvent}
    (hdecided : frameValid rx.config frame = true ∨ event = event') :
    SameOut (isotpRxFeed rx frame now event) (isotpRxFeed rx frame' now event') := by
  by_cases hvalid : frameValid rx.config frame = true
  · exact feed_alike h rx now event event' hvalid
  · have hinvalid : frameValid rx.config frame = false := Bool.eq_false_iff.mpr hvalid
    have hinvalid' : frameValid rx.config frame' = false := by rw [← h.frameValid, hinvalid]
    obtain rfl := hdecided.resolve_left hvalid
    rw [feed_invalid now event hinvalid, feed_invalid now event hinvalid']
    exact ⟨rfl, rfl, .refl event⟩

/-- Frames that say the same are received alike, and what the event held makes no
difference unless the receiver is given a frame it finds invalid. -/
theorem receive_alike {frame frame' : IsoTpCanFrame} (h : SameFrame frame frame')
    (e : UdsIsoTpEndpoint ω) (event event' : IsoTpRxEvent) (now : UInt32) (w : ω)
    (hdecided : ReachesReceiver e frame →
      frameValid e.rx.config frame = true ∨ event = event') :
    udsIsotpEndpointReceive e frame event now w
      = udsIsotpEndpointReceive e frame' event' now w := by
  unfold udsIsotpEndpointReceive
  rw [← h.dlc]
  by_cases hdlc : frame.dlc = 0
  · rw [if_pos hdlc, if_pos hdlc]
  rw [if_neg hdlc, if_neg hdlc]
  -- from here on the first byte is one of the frame's own
  have hnibble := h.highNibble (by omega)
  have hflow : isFlowControlForEndpoint e frame = isFlowControlForEndpoint e frame' := by
    unfold isFlowControlForEndpoint
    rw [h.canId, hnibble]
  have hfunctional : frameIsFunctional e frame = frameIsFunctional e frame' := by
    unfold frameIsFunctional
    rw [h.canId]
  rw [← hflow, ← hfunctional, ← hnibble]
  by_cases hfc : isFlowControlForEndpoint e frame = true
  · rw [if_pos hfc, if_pos hfc, feedFlowControl_alike h]
  rw [if_neg hfc, if_neg hfc]
  by_cases hreset : responseResetPending e.uds = true
  · rw [if_pos hreset, if_pos hreset]
  rw [if_neg hreset, if_neg hreset]
  by_cases hdropped : frameIsFunctional e frame = true ∧ frame.highNibble ≠ 0
  · rw [if_pos hdropped, if_pos hdropped]
  rw [if_neg hdropped, if_neg hdropped]
  have hreaches : ReachesReceiver e frame :=
    ⟨hdlc, Bool.eq_false_iff.mpr hfc, Bool.eq_false_iff.mpr hreset, hdropped⟩
  obtain ⟨hnetwork, hmode⟩ := networkFrame_alike (e := e) h
  rw [receiveRequest_eq, receiveRequest_eq, ← hmode]
  refine afterFeed_alike e (feed_decided hnetwork e.rx now ?_) _ now w
  rw [networkFrame_valid]
  exact hdecided hreaches

/-! ## The event -/

/-- The event with nothing in it but whether it announces a flow control frame. -/
def leftoverEvent (hasFlowControl : Bool) : IsoTpRxEvent where
  payload := none
  length := 0
  hasFlowControl := hasFlowControl
  unexpectedNPdu := false
  flowControl := ⟨0, 0, false, false, fun _ => 0⟩

theorem receive_reaches {e : UdsIsoTpEndpoint ω} {frame : IsoTpCanFrame}
    (h : ReachesReceiver e frame) (event : IsoTpRxEvent) (now : UInt32) (w : ω) :
    udsIsotpEndpointReceive e frame event now w = receiveRequest e frame event now w := by
  obtain ⟨hdlc, hflow, hreset, hkept⟩ := h
  unfold udsIsotpEndpointReceive
  rw [if_neg hdlc, hflow, if_neg Bool.false_ne_true, hreset, if_neg Bool.false_ne_true,
    if_neg hkept]

/-- A frame that the receiver finds invalid leaves the answer to the event. -/
theorem receive_invalid {e : UdsIsoTpEndpoint ω} {frame : IsoTpCanFrame}
    (h : ReachesReceiver e frame) (hinvalid : frameValid e.rx.config frame = false)
    (event : IsoTpRxEvent) (now : UInt32) (w : ω) :
    udsIsotpEndpointReceive e frame event now w
      = afterFeed e { status := .errArgument, rx := e.rx, event := event }
          (networkFrame e frame).2 now w := by
  rw [receive_reaches h, receiveRequest_eq, feed_invalid]
  rw [networkFrame_valid]
  exact hinvalid

/-- Left over from before, `has_flow_control` queues a frame or fails to. -/
theorem receive_leftover {e : UdsIsoTpEndpoint ω} {frame : IsoTpCanFrame}
    (h : ReachesReceiver e frame) (hinvalid : frameValid e.rx.config frame = false)
    (now : UInt32) (w : ω) :
    udsIsotpEndpointReceive e frame (leftoverEvent false) now w
      ≠ udsIsotpEndpointReceive e frame (leftoverEvent true) now w := by
  rw [receive_invalid h hinvalid, receive_invalid h hinvalid]
  unfold afterFeed queueControlFrame leftoverEvent
  intro hsame
  -- the flag queues a control frame, or says that there is one already
  cases hcontrol : e.controlPending with
  | false =>
    have hpending := congrArg (fun out => out.2.1.controlPending) hsame
    simp [hcontrol] at hpending
  | true =>
    have hstatus := congrArg (fun out => out.1) hsame
    simp [hcontrol] at hstatus

/-- **The event is decided exactly when the receiver is given no invalid frame.** What the
call returns and leaves behind is the same whatever the event held, and whenever
`isotp_rx_feed` is called it settles all the endpoint reads of the event, if and only if a
frame that gets as far as the receiver is valid. -/
theorem receive_decided_iff (e : UdsIsoTpEndpoint ω) (frame : IsoTpCanFrame) (now : UInt32)
    (w : ω) :
    ((∀ event event', udsIsotpEndpointReceive e frame event now w
          = udsIsotpEndpointReceive e frame event' now w) ∧
        (ReachesReceiver e frame → ∀ event event',
          SameEvent (isotpRxFeed e.rx (networkFrame e frame).1 now event).event
            (isotpRxFeed e.rx (networkFrame e frame).1 now event').event)) ↔
      (ReachesReceiver e frame → frameValid e.rx.config frame = true) := by
  constructor
  · rintro ⟨hdecided, -⟩ hreaches
    by_contra hinvalid
    exact receive_leftover hreaches (Bool.eq_false_iff.mpr hinvalid) now w (hdecided _ _)
  · intro hvalid
    refine ⟨fun event event' => ?_, fun hreaches event event' => ?_⟩
    · exact receive_alike (.refl frame) e event event' now w fun hreaches => .inl (hvalid hreaches)
    · refine (feed_alike (.refl _) e.rx now event event' ?_).event
      rw [networkFrame_valid]
      exact hvalid hreaches

/-- A CAN FD frame on a node configured for classic CAN. -/
def fdFrame : IsoTpCanFrame := { benchFrame 0x7E0 [0x3E, 0x00] with isFd := true }

/-- Had the event's memory held a set `has_flow_control`, the endpoint would now have a
control frame to send that nobody built. -/
theorem leftover_control_frame :
    ¬∀ event event', udsIsotpEndpointReceive (bench benchConfig) fdFrame event 0 ()
      = udsIsotpEndpointReceive (bench benchConfig) fdFrame event' 0 () := by
  intro h
  have hpending := congrArg (fun out => out.2.1.controlPending)
    (h (leftoverEvent false) (leftoverEvent true))
  exact Bool.noConfusion hpending

end UdsIsoTp.Endpoint
