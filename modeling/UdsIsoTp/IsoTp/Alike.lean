import UdsIsoTp.IsoTp.Rx
import UdsIsoTp.IsoTp.Tx

/-!
# What a frame and an event say

A frame says its identifier, its format, its length and that many bytes. The array is
longer, and what stands behind the bytes was left there by the frame before it. In the
same way an event says its fields, but its flow control frame only when it announces one.

`SameFrame` and `SameEvent` are these readings, and the decoders of `isotp.c` answer alike
to frames and events that say the same: each of them looks at a byte only behind a check
of the length. A valid frame settles the event besides, whatever stood in it before
(`feed_alike`).
-/

namespace UdsIsoTp.IsoTp

variable {ω : Type}

/-- The two frames say the same. -/
structure SameFrame (frame frame' : IsoTpCanFrame) : Prop where
  canId : frame.canId = frame'.canId
  isFd : frame.isFd = frame'.isFd
  dlc : frame.dlc = frame'.dlc
  data : ∀ i < frame.dlc, frame.data i = frame'.data i

/-- The two events say the same. -/
structure SameEvent (event event' : IsoTpRxEvent) : Prop where
  payload : event.payload = event'.payload
  length : event.length = event'.length
  hasFlowControl : event.hasFlowControl = event'.hasFlowControl
  unexpectedNPdu : event.unexpectedNPdu = event'.unexpectedNPdu
  flowControl : event.hasFlowControl = true → event.flowControl = event'.flowControl

/-- The two calls end alike. -/
structure SameOut (out out' : RxOut ω) : Prop where
  status : out.status = out'.status
  rx : out.rx = out'.rx
  event : SameEvent out.event out'.event

/-! ## Frames -/

section Frames

variable {frame frame' : IsoTpCanFrame} (h : SameFrame frame frame')

/-- A frame and itself. -/
theorem SameFrame.refl (frame : IsoTpCanFrame) : SameFrame frame frame :=
  ⟨rfl, rfl, rfl, fun _ _ => rfl⟩

include h

theorem SameFrame.withId (id : UInt32) :
    SameFrame { frame with canId := id } { frame' with canId := id } :=
  ⟨rfl, h.isFd, h.dlc, h.data⟩

theorem SameFrame.highNibble (hdlc : 1 ≤ frame.dlc) : frame.highNibble = frame'.highNibble := by
  unfold IsoTpCanFrame.highNibble
  rw [h.data 0 hdlc]

theorem SameFrame.lowNibble (hdlc : 1 ≤ frame.dlc) : frame.lowNibble = frame'.lowNibble := by
  unfold IsoTpCanFrame.lowNibble
  rw [h.data 0 hdlc]

/-- Whether a frame is valid is a matter of its length. -/
theorem SameFrame.frameValid (config : IsoTpConfig ω) :
    frameValid config frame = frameValid config frame' := by
  unfold IsoTp.frameValid
  rw [h.dlc, h.isFd]

/-- Bytes copied from inside the frame. -/
theorem SameFrame.copy (dst : Buf) (off : Nat) {start n : Nat} (hn : start + n ≤ frame.dlc) :
    dst.copy off frame.data start n = dst.copy off frame'.data start n :=
  Buf.copy_congr fun i hi => h.data (start + i) (by omega)

/-- The header of a single frame lies inside the length. -/
theorem decodeSf_alike (hdlc : 1 ≤ frame.dlc) : decodeSf frame = decodeSf frame' := by
  unfold decodeSf
  rw [← h.lowNibble hdlc, ← h.isFd, ← h.dlc]
  by_cases hshort : ¬frame.isFd ∨ frame.dlc < 2
  · rw [if_pos hshort, if_pos hshort]
  · -- the length byte of the long header is there
    have hbyte := h.data 1 (by omega)
    rw [hbyte]

/-- So does that of a first frame. -/
theorem decodeFf_alike (hdlc : 2 ≤ frame.dlc) : decodeFf frame = decodeFf frame' := by
  have hbyte := h.data 1 (by omega)
  unfold decodeFf
  rw [← h.lowNibble (by omega), ← h.isFd, ← h.dlc, ← hbyte]
  by_cases hshort : frame.dlc < 6 ∨ frame.data 1 ≠ 0
  · rw [if_pos hshort, if_pos hshort]
  · -- the four bytes of the escaped length are there
    have hescaped : escapedLength frame = escapedLength frame' := by
      unfold escapedLength
      rw [h.data 2 (by omega), h.data 3 (by omega), h.data 4 (by omega), h.data 5 (by omega)]
    rw [hescaped]

end Frames

/-! ## Events -/

section Events

variable {event event' : IsoTpRxEvent}

theorem SameEvent.refl (event : IsoTpRxEvent) : SameEvent event event :=
  ⟨rfl, rfl, rfl, rfl, fun _ => rfl⟩

/-- A cleared event says nothing of what stood in it. -/
theorem clearEvent_alike (event event' : IsoTpRxEvent) :
    SameEvent (clearEvent event) (clearEvent event') :=
  ⟨rfl, rfl, rfl, rfl, fun h => Bool.noConfusion h⟩

variable (h : SameEvent event event')

include h

theorem SameEvent.delivered (payload : Option Buf) (length : Nat) :
    SameEvent { event with payload := payload, length := length }
      { event' with payload := payload, length := length } :=
  ⟨rfl, rfl, h.hasFlowControl, h.unexpectedNPdu, h.flowControl⟩

theorem SameEvent.unexpected :
    SameEvent { event with unexpectedNPdu := true } { event' with unexpectedNPdu := true } :=
  ⟨h.payload, h.length, h.hasFlowControl, rfl, h.flowControl⟩

/-- A flow control frame is built from nothing that the event held. -/
theorem makeFc_alike (rx : IsoTpRx ω) (status : IsoTpFlowStatus) :
    SameEvent (makeFc rx event status) (makeFc rx event' status) :=
  ⟨h.payload, h.length, rfl, h.unexpectedNPdu, fun _ => rfl⟩

end Events

/-! ## The receiver -/

section Receiver

variable {frame frame' : IsoTpCanFrame} {event event' : IsoTpRxEvent}
  (hframe : SameFrame frame frame') (hevent : SameEvent event event')

include hframe hevent

/-- A single frame. -/
theorem rxSingle_alike (rx : IsoTpRx ω) (hdlc : 1 ≤ frame.dlc) :
    SameOut (rxSingle rx frame event) (rxSingle rx frame' event') := by
  have hdecode := decodeSf_alike hframe hdlc
  unfold rxSingle
  rw [← hdecode, ← hframe.dlc]
  cases hsf : decodeSf frame with
  | mk found reads =>
    cases found with
    | none => exact ⟨rfl, rfl, hevent⟩
    | some sizes =>
      obtain ⟨length, header⟩ := sizes
      have hheader := (decodeSf_some hdlc (by rw [hsf])).2.2.1
      dsimp only
      by_cases hfit : frame.dlc - header < length
      · rw [if_pos hfit, if_pos hfit]
        exact ⟨rfl, rfl, hevent⟩
      rw [if_neg hfit, if_neg hfit]
      by_cases hmax : maxPayload < length
      · rw [if_pos hmax, if_pos hmax]
        exact ⟨rfl, rfl, hevent⟩
      rw [if_neg hmax, if_neg hmax]
      have hinside : header + length ≤ frame.dlc := by omega
      rw [hframe.copy (isotpRxReset rx).buffer 0 hinside]
      exact ⟨rfl, rfl, hevent.delivered _ _⟩

/-- A first frame. -/
theorem rxFirst_alike (rx : IsoTpRx ω) (now : UInt32) :
    SameOut (rxFirst rx frame now event) (rxFirst rx frame' now event') := by
  unfold rxFirst
  rw [← hframe.dlc]
  by_cases hdlc : frame.dlc < 2
  · rw [if_pos hdlc, if_pos hdlc]
    exact ⟨rfl, rfl, hevent⟩
  rw [if_neg hdlc, if_neg hdlc]
  by_cases hclassic : ¬rx.config.canFd ∧ frame.dlc < 8
  · rw [if_pos hclassic, if_pos hclassic]
    exact ⟨rfl, rfl, hevent⟩
  rw [if_neg hclassic, if_neg hclassic, ← decodeFf_alike hframe (by omega)]
  cases hff : decodeFf frame with
  | mk found reads =>
    cases found with
    | none => exact ⟨rfl, rfl, hevent⟩
    | some sizes =>
      obtain ⟨length, header⟩ := sizes
      have hheader : header ≤ frame.dlc := decodeFf_some (by omega) (by rw [hff])
      dsimp only
      by_cases hshort : length ≤ 7
      · rw [if_pos hshort, if_pos hshort]
        exact ⟨rfl, rfl, hevent⟩
      rw [if_neg hshort, if_neg hshort]
      by_cases hmax : maxPayload < length
      · rw [if_pos hmax, if_pos hmax]
        exact ⟨rfl, rfl, makeFc_alike hevent rx .overflow⟩
      rw [if_neg hmax, if_neg hmax]
      have hinside : header + min (frame.dlc - header) length ≤ frame.dlc := by omega
      rw [hframe.copy rx.buffer 0 hinside]
      by_cases hmore : ¬decide (min (frame.dlc - header) length < length) = true
      · rw [if_pos hmore, if_pos hmore]
        exact ⟨rfl, rfl, hevent.delivered _ _⟩
      · rw [if_neg hmore, if_neg hmore]
        exact ⟨rfl, rfl, makeFc_alike hevent _ .cts⟩

/-- A consecutive frame. -/
theorem rxConsecutive_alike (rx : IsoTpRx ω) (now : UInt32) (hdlc : 1 ≤ frame.dlc) :
    SameOut (rxConsecutive rx frame now event) (rxConsecutive rx frame' now event') := by
  unfold rxConsecutive
  rw [← hframe.dlc, ← hframe.lowNibble hdlc]
  by_cases hactive : ¬rx.active = true
  · rw [if_pos hactive, if_pos hactive]
    exact ⟨rfl, rfl, hevent⟩
  have hsome : ¬frame.dlc < 1 := by omega
  rw [if_neg hactive, if_neg hactive, if_neg hsome, if_neg hsome]
  by_cases hsequence : frame.lowNibble ≠ rx.nextSequence
  · rw [if_pos hsequence, if_pos hsequence]
    exact ⟨rfl, rfl, hevent⟩
  rw [if_neg hsequence, if_neg hsequence]
  by_cases hshort : ¬rx.config.canFd = true ∧
      frame.dlc - 1 < rx.expectedLen - rx.receivedLen ∧ frame.dlc < 8
  · rw [if_pos hshort, if_pos hshort]
    exact ⟨rfl, rfl, hevent⟩
  rw [if_neg hshort, if_neg hshort]
  have hinside : 1 + min (frame.dlc - 1) (rx.expectedLen - rx.receivedLen) ≤ frame.dlc := by
    omega
  dsimp only
  rw [hframe.copy rx.buffer rx.receivedLen hinside]
  -- from here on the two calls look at the receiver alone
  split
  next => exact ⟨rfl, rfl, hevent.delivered _ _⟩
  next =>
    split
    next => exact ⟨rfl, rfl, makeFc_alike hevent _ .cts⟩
    next => exact ⟨rfl, rfl, hevent⟩

theorem rxDispatch_alike (rx : IsoTpRx ω) (now : UInt32) (hdlc : 1 ≤ frame.dlc) :
    SameOut (rxDispatch rx frame now event) (rxDispatch rx frame' now event') := by
  unfold rxDispatch
  rw [← hframe.highNibble hdlc]
  split
  next => exact rxSingle_alike hframe hevent rx hdlc
  next => exact rxFirst_alike hframe hevent rx now
  next => exact rxConsecutive_alike hframe hevent rx now hdlc
  next =>
    split
    next => exact ⟨rfl, rfl, hevent⟩
    next =>
      split
      next => exact ⟨rfl, rfl, hevent⟩
      next => exact ⟨rfl, rfl, hevent⟩

end Receiver

/-- A valid frame settles what the call says: two calls on frames that say the same end
alike, whatever the events held. -/
theorem feed_alike {frame frame' : IsoTpCanFrame} (hframe : SameFrame frame frame')
    (rx : IsoTpRx ω) (now : UInt32) (event event' : IsoTpRxEvent)
    (hvalid : frameValid rx.config frame = true) :
    SameOut (isotpRxFeed rx frame now event) (isotpRxFeed rx frame' now event') := by
  have hdlc := (dlc_bounds hvalid).1
  have hclear := clearEvent_alike event event'
  unfold isotpRxFeed
  rw [← hframe.frameValid, ← hframe.canId, ← hframe.highNibble hdlc]
  rw [if_neg (not_not.mpr hvalid), if_neg (not_not.mpr hvalid)]
  split
  next => exact ⟨rfl, rfl, hclear⟩
  next =>
    dsimp only
    split
    next =>
      have hout := rxDispatch_alike hframe hclear.unexpected (isotpRxReset rx) now hdlc
      exact ⟨hout.status, hout.rx, hout.event⟩
    next =>
      have hout := rxDispatch_alike hframe hclear rx now hdlc
      exact ⟨hout.status, hout.rx, hout.event⟩

/-- An invalid one leaves everything alone, the event too. -/
theorem feed_invalid {rx : IsoTpRx ω} {frame : IsoTpCanFrame} (now : UInt32)
    (event : IsoTpRxEvent) (hinvalid : frameValid rx.config frame = false) :
    isotpRxFeed rx frame now event = { status := .errArgument, rx := rx, event := event } := by
  unfold isotpRxFeed
  rw [hinvalid, if_pos Bool.false_ne_true]

/-! ## The transmitter -/

theorem txValidateFcFrame_dlc {tx : IsoTpTx ω} {frame : IsoTpCanFrame}
    (h : txValidateFcFrame tx frame = .ok) : 3 ≤ frame.dlc := by
  by_contra hshort
  unfold txValidateFcFrame at h
  split at h
  next => exact IsoTpStatus.noConfusion h
  split at h
  next => exact IsoTpStatus.noConfusion h
  split at h
  next => exact IsoTpStatus.noConfusion h
  rw [if_pos (.inl (by omega))] at h
  exact IsoTpStatus.noConfusion h

/-- Flow control looks at three bytes, and at two of them behind a check of the length. -/
theorem feedFlowControl_alike {frame frame' : IsoTpCanFrame} (h : SameFrame frame frame')
    (tx : IsoTpTx ω) (now : UInt32) (w : ω) :
    isotpTxFeedFlowControl tx frame now w = isotpTxFeedFlowControl tx frame' now w := by
  have hstatus : txValidateFcFrame tx frame = txValidateFcFrame tx frame' := by
    unfold txValidateFcFrame
    rw [← h.frameValid, ← h.canId, ← h.dlc]
    by_cases hvalid : frameValid tx.config frame = true
    · rw [h.highNibble (dlc_bounds hvalid).1]
    · rw [if_pos hvalid, if_pos hvalid]
  unfold isotpTxFeedFlowControl
  rw [← hstatus]
  by_cases hok : txValidateFcFrame tx frame ≠ .ok
  · rw [if_pos hok, if_pos hok]
  · have hdlc := txValidateFcFrame_dlc (of_not_not hok)
    unfold txGrant
    rw [h.lowNibble (by omega), h.data 1 (by omega), h.data 2 (by omega)]

end UdsIsoTp.IsoTp
