import UdsIsoTp.IsoTp.Rx
import UdsIsoTp.IsoTp.Segmentation
import Mathlib.Tactic.IntervalCases

/-!
# A sender and a receiver on a link

The two machines of `isotp.c` with the frames in flight between them. The link loses
nothing: what one side hands out reaches the other in order, after any delay.

Below the definitions stands what each side does with the frames of a multi-frame
transfer: a pdu the other side sent is accepted, and answered as the plan of the
transfer says.
-/

namespace UdsIsoTp.IsoTp

variable {ω : Type}

/-- The status says that something went wrong. -/
def IsoTpStatus.isError : IsoTpStatus → Bool
  | .ok | .complete | .needFlowControl | .txFrameReady => false
  | _ => true

/-- The two ends, the frames in flight, the payloads reported and whether a call failed. -/
structure Link (ω : Type) where
  sender : IsoTpTx ω
  receiver : IsoTpRx ω
  toReceiver : List IsoTpCanFrame
  toSender : List IsoTpCanFrame
  delivered : List (List UInt8)
  failed : Bool

/-- What happens on the link: the oldest frame in flight reaches the receiver or the
sender, or one of them is polled. -/
inductive LinkCall (ω : Type) where
  | deliver (now : UInt32) (event : IsoTpRxEvent)
  | answer (now : UInt32) (w : ω)
  | next (now : UInt32) (frame : IsoTpCanFrame) (w : ω)
  | tickSender (now : UInt32)
  | tickReceiver (now : UInt32)

/-- The payload a completed reception reports. -/
def IsoTpRxEvent.bytes (event : IsoTpRxEvent) : List UInt8 :=
  (event.payload.map fun buffer => buffer.slice 0 event.length).getD []

/-- One call: a frame arrives at one end, or the sender is asked for the next. -/
def linkStep (s : Link ω) : LinkCall ω → Link ω
  | .deliver now event =>
    match s.toReceiver with
    | [] => s
    | frame :: rest =>
      let out := isotpRxFeed s.receiver frame now event
      { s with
        receiver := out.rx
        toReceiver := rest
        toSender :=
          if out.event.hasFlowControl then s.toSender ++ [out.event.flowControl] else s.toSender
        delivered := if out.status = .complete then s.delivered ++ [out.event.bytes]
          else s.delivered
        failed := s.failed || out.status.isError }
  | .answer now w =>
    match s.toSender with
    | [] => s
    | frame :: rest =>
      let out := isotpTxFeedFlowControl s.sender frame now w
      { s with
        sender := out.2.1
        toSender := rest
        failed := s.failed || out.1.isError }
  | .next now frame w =>
    let out := (isotpTxNext s.sender now frame w).1
    { s with
      sender := out.tx
      toReceiver := if out.status = .txFrameReady then s.toReceiver ++ [out.frame]
        else s.toReceiver
      failed := s.failed || out.status.isError }
  | .tickSender now =>
    let out := isotpTxTick s.sender now
    { s with sender := out.2, failed := s.failed || out.1.isError }
  | .tickReceiver now =>
    let out := isotpRxTick s.receiver now
    { s with receiver := out.2, failed := s.failed || out.1.isError }

/-- No deadline has passed when the call looks at it. -/
def InTime (s : Link ω) : LinkCall ω → Prop
  | .next now _ _ | .tickSender now =>
    s.sender.state ≠ .idle → expired now s.sender.deadlineMs = false
  | .tickReceiver now => s.receiver.active = true → expired now s.receiver.deadlineMs = false
  | _ => True

/-- Two configurations with frames that the other takes. -/
structure Matched (sc rc : IsoTpConfig ω) : Prop where
  sender : validTxConfig sc = true
  receiver : validTxConfig rc = true
  canFd : sc.canFd = rc.canFd
  down : sc.txDl ≤ rc.rxDl
  up : rc.txDl ≤ sc.rxDl

/-- Two configurations that fit together. -/
structure Compatible (sc rc : IsoTpConfig ω) : Prop extends Matched sc rc where
  senderClock : sc.clockUs = none

/-- Fresh ends with mirrored identifiers, the sender's first frame on its way. -/
def linkStart (tx₀ : IsoTpTx ω) (rx₀ : IsoTpRx ω) (sc rc : IsoTpConfig ω) (down up : UInt32)
    (payload : List UInt8) (now : UInt32) (frame : IsoTpCanFrame) : Link ω :=
  let out := isotpTxStart (isotpTxInit tx₀ (some sc) up down) payload now frame
  { sender := out.tx
    receiver := isotpRxInit rx₀ (some rc) down up
    toReceiver := if out.status = .txFrameReady then [out.frame] else []
    toSender := []
    delivered := []
    failed := out.status.isError }

/-! ## Frames that the other side accepts -/

theorem frameValid_of_fd {config : IsoTpConfig ω} {frame : IsoTpCanFrame}
    (hfd : frame.isFd = true) (hcan : config.canFd = true) (hdl : validFdDl frame.dlc = true)
    (hle : frame.dlc ≤ config.rxDl) : frameValid config frame = true := by
  have hcases := validFdDl_cases hdl
  have hmax : ¬(frame.dlc = 0 ∨ maxFrameData < frame.dlc) := by
    unfold maxFrameData
    omega
  have hlong : ¬(config.rxDl ≠ 0 ∧ config.rxDl < frame.dlc) := by omega
  simp [frameValid, hmax, hfd, hcan, hdl, hlong]

theorem frameValid_of_classic {config : IsoTpConfig ω} {frame : IsoTpCanFrame}
    (hfd : frame.isFd = false) (hpos : 1 ≤ frame.dlc) (hle : frame.dlc ≤ 8) :
    frameValid config frame = true := by
  have hmax : ¬(frame.dlc = 0 ∨ maxFrameData < frame.dlc) := by
    unfold maxFrameData
    omega
  simp [frameValid, hmax, hfd, hle]

theorem validFdDl_txDl {config : IsoTpConfig ω} (h : validTxConfig config = true)
    (hfd : config.canFd = true) : validFdDl config.txDl = true := by
  unfold validTxConfig at h
  rw [if_pos hfd] at h
  exact (Bool.and_eq_true_iff.mp h).1

/-- A frame of the full size that one end sends is valid at the other. -/
theorem frameValid_full {config peer : IsoTpConfig ω} {frame : IsoTpCanFrame}
    (hvalid : validTxConfig config = true) (hcan : config.canFd = peer.canFd)
    (hdl : config.txDl ≤ peer.rxDl) (hfd : frame.isFd = config.canFd)
    (hdlc : frame.dlc = config.txDl) : frameValid peer frame = true := by
  cases hc : config.canFd with
  | true =>
    refine frameValid_of_fd (hfd.trans hc) (hcan.symm.trans hc) ?_ (by omega)
    rw [hdlc]
    exact validFdDl_txDl hvalid hc
  | false =>
    have h8 := classic_txDl hvalid (by rw [hc]; simp)
    exact frameValid_of_classic (hfd.trans hc) (by omega) (by omega)

/-! ## The frames of a transfer -/

section frames

variable (rc : IsoTpConfig ω) (down : UInt32) (payload : List UInt8) (p : Plan)

/-- The first frame of the transfer, as the receiver sees it. -/
structure FirstPdu (frame : IsoTpCanFrame) : Prop where
  id : frame.canId = down
  valid : frameValid rc frame = true
  type : frame.highNibble = 1
  full : 8 ≤ frame.dlc
  decoded : ∃ header, (decodeFf frame).1 = some (payload.length, header) ∧
    frame.dlc - header = p.first ∧ frame.data.slice header p.first = payload.take p.first

/-- The consecutive frame that follows `n` others. -/
structure NextPdu (n : Nat) (frame : IsoTpCanFrame) : Prop where
  id : frame.canId = down
  valid : frameValid rc frame = true
  type : frame.highNibble = 2
  full : 8 ≤ frame.dlc
  sequence : frame.lowNibble = (n + 1) % 16
  chunk : frame.dlc - 1 = p.chunk
  data : frame.data.slice 1 (min p.chunk (payload.length - p.covered n))
    = (payload.drop (p.covered n)).take (min p.chunk (payload.length - p.covered n))

/-- The frame that carries the n-th piece of the payload. -/
def Pdu : Nat → IsoTpCanFrame → Prop
  | 0 => FirstPdu rc down payload p
  | n + 1 => NextPdu rc down payload p n

/-- The frames in flight are those of the transfer from the `n`-th on. -/
def Carries : Nat → List IsoTpCanFrame → Prop
  | _, [] => True
  | n, frame :: rest => Pdu rc down payload p n frame ∧ Carries (n + 1) rest

theorem carries_concat {frames : List IsoTpCanFrame} {frame : IsoTpCanFrame} {n : Nat}
    (h : Carries rc down payload p n frames)
    (hframe : Pdu rc down payload p (n + frames.length) frame) :
    Carries rc down payload p n (frames ++ [frame]) := by
  induction frames generalizing n with
  | nil => exact ⟨hframe, trivial⟩
  | cons f rest ih =>
    refine ⟨h.1, ih h.2 ?_⟩
    rw [List.length_cons] at hframe
    rw [Nat.add_assoc, Nat.add_comm 1]
    exact hframe

end frames

/-- A clear-to-send of the receiver, as the sender sees it. -/
structure CtsPdu (sc rc : IsoTpConfig ω) (up : UInt32) (frame : IsoTpCanFrame) : Prop where
  id : frame.canId = up
  valid : frameValid sc frame = true
  long : 3 ≤ frame.dlc
  type : frame.highNibble = 3
  flow : frame.lowNibble = IsoTpFlowStatus.cts.value
  blockSize : frame.data 1 = rc.blockSize

/-! ## The receiver's side -/

section receiver

variable {sc rc : IsoTpConfig ω} {down up : UInt32} {payload : List UInt8} {p : Plan}

/-- What `isotp_rx_init` was given, and no call changes. -/
structure RxEnd (rc : IsoTpConfig ω) (down up : UInt32) (rx : IsoTpRx ω) : Prop where
  config : rx.config = rc
  requestId : rx.requestId = down
  responseId : rx.responseId = up

/-- The receiver has taken the first frame and `n` consecutive frames and needs more. -/
structure RxBusy (rc : IsoTpConfig ω) (payload : List UInt8) (p : Plan) (n : Nat)
    (rx : IsoTpRx ω) : Prop where
  active : rx.active = true
  expectedLen : rx.expectedLen = payload.length
  receivedLen : rx.receivedLen = p.covered n
  nextSequence : rx.nextSequence = (n + 1) % 16
  blockCount : rc.blockSize ≠ 0 → rx.blockCount = n % rc.blockSize.toNat
  bytes : rx.buffer.slice 0 (p.covered n) = payload.take (p.covered n)

theorem makeFc_cts {rx : IsoTpRx ω} (hcompat : Matched sc rc) (hrx : RxEnd rc down up rx)
    (event : IsoTpRxEvent) : CtsPdu sc rc up (makeFc rx event .cts).flowControl := by
  have hbyte : (makeFc rx event .cts).flowControl.data 0 = 0x30 := by
    simp only [makeFc]
    rw [Buf.write_of_ne (by omega), Buf.write_of_ne (by omega), Buf.write_same]
    rfl
  have hdlc : (makeFc rx event .cts).flowControl.dlc = if rc.canFd then rc.txDl
      else if rc.paddingEnabled then 8 else 3 := by
    rw [← hrx.config]
    rfl
  have hfd : (makeFc rx event .cts).flowControl.isFd = rc.canFd := by
    rw [← hrx.config]
    rfl
  have hbounds := txDl_bounds hcompat.receiver
  refine ⟨hrx.responseId, ?_, ?_, ?_, ?_, ?_⟩
  · cases hc : rc.canFd with
    | true =>
      rw [hc, if_pos rfl] at hdlc
      exact frameValid_full hcompat.receiver hcompat.canFd.symm hcompat.up hfd hdlc
    | false =>
      rw [hc, if_neg (by simp)] at hdlc
      refine frameValid_of_classic (hfd.trans hc) ?_ ?_ <;> rw [hdlc] <;> split <;> omega
  · rw [hdlc]
    split
    · omega
    · split <;> omega
  · rw [IsoTpCanFrame.highNibble, hbyte]
    rfl
  · rw [IsoTpCanFrame.lowNibble, hbyte]
    rfl
  · simp only [makeFc]
    rw [Buf.write_of_ne (by omega), Buf.write_same, if_pos trivial, hrx.config]

/-- A valid frame with the receiver's identifier reaches the `switch`. -/
theorem feed_dispatch (rx : IsoTpRx ω) (frame : IsoTpCanFrame) (now : UInt32)
    (event : IsoTpRxEvent) (hvalid : frameValid rx.config frame = true)
    (hid : frame.canId = rx.requestId) (hexpected : isUnexpectedNPdu rx frame.highNibble = false) :
    (isotpRxFeed rx frame now event).status
        = (rxDispatch rx frame now (clearEvent event)).status ∧
      (isotpRxFeed rx frame now event).rx = (rxDispatch rx frame now (clearEvent event)).rx ∧
      (isotpRxFeed rx frame now event).event
        = (rxDispatch rx frame now (clearEvent event)).event := by
  unfold isotpRxFeed
  rw [if_neg (by simp [hvalid]), if_neg (by simp [hid])]
  simp only [hexpected, Bool.false_eq_true, if_false]
  exact ⟨trivial, trivial, trivial⟩

/-- The first frame of the transfer is accepted and answered. -/
theorem feed_first {rx : IsoTpRx ω} {frame : IsoTpCanFrame} (now : UInt32) (event : IsoTpRxEvent)
    (hcompat : Matched sc rc) (hrx : RxEnd rc down up rx) (hidle : rx.active = false)
    (hlength : p.length = payload.length) (hlong : 7 < payload.length)
    (hfits : payload.length ≤ maxPayload) (hframe : FirstPdu rc down payload p frame) :
    (isotpRxFeed rx frame now event).status = .needFlowControl ∧
      RxEnd rc down up (isotpRxFeed rx frame now event).rx ∧
      RxBusy rc payload p 0 (isotpRxFeed rx frame now event).rx ∧
      (isotpRxFeed rx frame now event).event.hasFlowControl = true ∧
      CtsPdu sc rc up (isotpRxFeed rx frame now event).event.flowControl := by
  obtain ⟨header, hff, hroom, hdata⟩ := hframe.decoded
  have hfirst : p.first < payload.length := by
    rw [← hlength]
    exact p.first_lt
  -- the frame has room for exactly the first part of the payload
  have hcopy : min (frame.dlc - header) payload.length = p.first := by omega
  have hcovered : p.covered 0 = p.first := by simp [Plan.covered]
  have hfull := hframe.full
  obtain ⟨hstatus, hrx', hevent⟩ := feed_dispatch rx frame now event
    (by rw [hrx.config]; exact hframe.valid) (by rw [hrx.requestId]; exact hframe.id)
    (by simp [isUnexpectedNPdu, hidle])
  have hdispatch : rxDispatch rx frame now (clearEvent event)
      = rxFirst rx frame now (clearEvent event) := by
    simp only [rxDispatch, hframe.type]
  rw [hstatus, hrx', hevent, hdispatch]
  unfold rxFirst
  -- long enough, on classic CAN too
  rw [if_neg (by omega), if_neg (by omega)]
  split
  next reads hnone => rw [hnone] at hff; exact absurd hff (by simp)
  next length header' reads hsome =>
    rw [hsome] at hff
    obtain ⟨rfl, rfl⟩ := Prod.mk.inj (Option.some.inj hff)
    rw [if_neg (by omega), if_neg (by omega)]
    dsimp only
    rw [if_neg (by simp [hcopy, hfirst])]
    refine ⟨rfl, ⟨hrx.config, hrx.requestId, hrx.responseId⟩, ?_, rfl, ?_⟩
    · refine ⟨by simp [hcopy, hfirst], rfl, hcopy.trans hcovered.symm, rfl, fun _ => ?_, ?_⟩
      · exact (Nat.zero_mod _).symm
      · dsimp only
        rw [hcovered, hcopy, Buf.slice_copy_self]
        exact hdata
    · exact makeFc_cts hcompat ⟨hrx.config, hrx.requestId, hrx.responseId⟩ _

/-- The bytes of one more frame behind those that were received. -/
theorem RxBusy.next_bytes {rx : IsoTpRx ω} {frame : IsoTpCanFrame} {n : Nat}
    (hbusy : RxBusy rc payload p n rx) (hframe : NextPdu rc down payload p n frame) :
    (rx.buffer.copy rx.receivedLen frame.data 1
        (min p.chunk (payload.length - p.covered n))).slice 0
        (p.covered n + min p.chunk (payload.length - p.covered n))
      = payload.take (p.covered n + min p.chunk (payload.length - p.covered n)) := by
  rw [hbusy.receivedLen, Buf.slice_copy_append, hbusy.bytes, hframe.data, ← List.take_add]

/-- In a configuration with blocks, the frame is one more of its block, and fills it if and only
if the frames up to it fill blocks. -/
theorem RxBusy.next_in_block {rx : IsoTpRx ω} {n : Nat} (hbusy : RxBusy rc payload p n rx)
    (hbs : rc.blockSize ≠ 0) :
    (rx.blockCount + 1) % 256 = n % rc.blockSize.toNat + 1 ∧
      (n % rc.blockSize.toNat + 1 = rc.blockSize.toNat ∧ (n + 1) % rc.blockSize.toNat = 0 ∨
        n % rc.blockSize.toNat + 1 < rc.blockSize.toNat ∧
        (n + 1) % rc.blockSize.toNat = n % rc.blockSize.toNat + 1) := by
  have hbyte := rc.blockSize.toNat_lt
  have hpos : rc.blockSize.toNat ≠ 0 := fun h0 => hbs (UInt8.toNat_inj.mp h0)
  have hlt := Nat.mod_lt n (Nat.pos_of_ne_zero hpos)
  refine ⟨?_, mod_succ n (Nat.pos_of_ne_zero hpos)⟩
  rw [hbusy.blockCount hbs, Nat.mod_eq_of_lt (by omega)]

/-- The next consecutive frame is accepted. It completes the payload, or it is answered
if it fills a block, or neither. -/
theorem feed_next {rx : IsoTpRx ω} {frame : IsoTpCanFrame} {n : Nat} (now : UInt32)
    (event : IsoTpRxEvent) (hcompat : Matched sc rc) (hrx : RxEnd rc down up rx)
    (hmore : p.covered n < payload.length)
    (hbusy : RxBusy rc payload p n rx) (hframe : NextPdu rc down payload p n frame) :
    RxEnd rc down up (isotpRxFeed rx frame now event).rx ∧
    if payload.length ≤ p.covered (n + 1) then
      (isotpRxFeed rx frame now event).status = .complete ∧
      (isotpRxFeed rx frame now event).rx.active = false ∧
      (isotpRxFeed rx frame now event).event.bytes = payload ∧
      (isotpRxFeed rx frame now event).event.hasFlowControl = false
    else
      RxBusy rc payload p (n + 1) (isotpRxFeed rx frame now event).rx ∧
      if rc.blockSize ≠ 0 ∧ (n + 1) % rc.blockSize.toNat = 0 then
        (isotpRxFeed rx frame now event).status = .needFlowControl ∧
        (isotpRxFeed rx frame now event).event.hasFlowControl = true ∧
        CtsPdu sc rc up (isotpRxFeed rx frame now event).event.flowControl
      else
        (isotpRxFeed rx frame now event).status = .ok ∧
        (isotpRxFeed rx frame now event).event.hasFlowControl = false := by
  have hfull := hframe.full
  have hsucc := covered_succ p n
  have hchunk := hframe.chunk
  have hexpected := hbusy.expectedLen
  have hreceived := hbusy.receivedLen
  obtain ⟨hstatus, hrx', hevent⟩ := feed_dispatch rx frame now event
    (by rw [hrx.config]; exact hframe.valid) (by rw [hrx.requestId]; exact hframe.id)
    (by simp [isUnexpectedNPdu, hframe.type])
  have hdispatch : rxDispatch rx frame now (clearEvent event)
      = rxConsecutive rx frame now (clearEvent event) := by
    simp only [rxDispatch, hframe.type]
  rw [hstatus, hrx', hevent, hdispatch]
  have hcopy : min (frame.dlc - 1) (rx.expectedLen - rx.receivedLen)
      = min p.chunk (payload.length - p.covered n) := by
    rw [hchunk, hexpected, hreceived]
  have hbytes := hbusy.next_bytes hframe
  unfold rxConsecutive
  rw [if_neg (by simp [hbusy.active]), if_neg (by omega),
    if_neg (by rw [hframe.sequence, hbusy.nextSequence]; simp), if_neg (by omega)]
  dsimp only
  rw [hcopy]
  split
  next hdone =>
    -- the last bytes of the payload are in the frame
    have hall : payload.length ≤ p.covered (n + 1) := by
      rw [hexpected, hreceived] at hdone
      omega
    have hlast : p.covered n + min p.chunk (payload.length - p.covered n) = payload.length := by
      omega
    rw [if_pos hall]
    refine ⟨⟨hrx.config, hrx.requestId, hrx.responseId⟩, rfl, rfl, ?_, rfl⟩
    rw [hlast, List.take_length] at hbytes
    simp only [IsoTpRxEvent.bytes, Option.map_some, Option.getD_some, hexpected]
    exact hbytes
  next hgo =>
    rw [hexpected, hreceived] at hgo
    have hpart : p.covered n + min p.chunk (payload.length - p.covered n) = p.covered (n + 1) := by
      omega
    rw [hpart] at hbytes
    rw [if_neg (show ¬payload.length ≤ p.covered (n + 1) by omega)]
    have hnext : (rx.nextSequence + 1) % 16 = (n + 1 + 1) % 16 := by
      rw [hbusy.nextSequence]
      omega
    split
    next hblock =>
      -- the receiver's counter has come to the block size, and the plan's frames fill blocks
      obtain ⟨hbs, hge⟩ := hblock
      rw [hrx.config] at hbs hge
      obtain ⟨hcount, hmod⟩ := hbusy.next_in_block hbs
      have hzero : (n + 1) % rc.blockSize.toNat = 0 := by omega
      rw [if_pos ⟨hbs, hzero⟩]
      refine ⟨⟨hrx.config, hrx.requestId, hrx.responseId⟩, ⟨hbusy.active, hexpected, ?_, hnext,
        fun _ => hzero.symm, hbytes⟩, rfl, rfl, ?_⟩
      · simp only [hreceived, hpart]
      · exact makeFc_cts hcompat ⟨hrx.config, hrx.requestId, hrx.responseId⟩ _
    next hblock =>
      rw [hrx.config] at hblock
      have hnot : ¬(rc.blockSize ≠ 0 ∧ (n + 1) % rc.blockSize.toNat = 0) := by
        rintro ⟨hbs, hzero⟩
        obtain ⟨hcount, hmod⟩ := hbusy.next_in_block hbs
        exact hblock ⟨hbs, by omega⟩
      rw [if_neg hnot]
      refine ⟨⟨hrx.config, hrx.requestId, hrx.responseId⟩, ⟨hbusy.active, hexpected, ?_, hnext,
        fun hbs => ?_, hbytes⟩, rfl, rfl⟩
      · simp only [hreceived, hpart]
      · obtain ⟨hcount, hmod⟩ := hbusy.next_in_block hbs
        have hne : (n + 1) % rc.blockSize.toNat ≠ 0 := fun h0 => hnot ⟨hbs, h0⟩
        dsimp only
        omega

end receiver

/-! ## The sender's side -/

section sender

variable {sc rc : IsoTpConfig ω} {down up : UInt32} {payload : List UInt8} {p : Plan}

/-- The plan of a transfer between these two ends. -/
structure PlanOf (sc rc : IsoTpConfig ω) (payload : List UInt8) (p : Plan) : Prop where
  length : p.length = payload.length
  first : p.first = sc.txDl - ffHeader payload.length
  chunk : p.chunk = sc.txDl - 1
  blockSize : p.blockSize = rc.blockSize.toNat

/-- What the sender was set up with, and no call changes. -/
structure TxEnd (sc : IsoTpConfig ω) (down up : UInt32) (tx : IsoTpTx ω) : Prop where
  config : tx.config = sc
  requestId : tx.requestId = up
  responseId : tx.responseId = down

/-- The sender has sent the first frame and `sent` consecutive frames. -/
structure TxBusyAt (rc : IsoTpConfig ω) (payload : List UInt8) (p : Plan) (q : Progress)
    (tx : IsoTpTx ω) : Prop where
  bytes : tx.buffer.slice 0 payload.length = payload
  payloadLen : tx.payloadLen = payload.length
  offset : tx.offset = min payload.length (p.covered q.sent)
  nextSequence : tx.nextSequence = (q.sent + 1) % 16
  remoteBlockSize : q.state = .sendConsecutive → tx.remoteBlockSize = rc.blockSize
  blockCount : q.state = .sendConsecutive → rc.blockSize ≠ 0 →
    tx.blockCount + (q.granted - 1) * p.blockSize = q.sent

theorem shiftLeft_or_byte (a : Nat) {b : Nat} (hb : b < 2 ^ 8) : (a <<< 8) ||| b = a * 256 + b := by
  rw [← Nat.shiftLeft_add_eq_or_of_lt hb, Nat.shiftLeft_eq]

/-- An escaped length is read back as it was written. -/
theorem firstFrame_escaped (tx : IsoTpTx ω) (hvalid : validTxConfig tx.config = true)
    (hlong : 4095 < payload.length) (hfits : payload.length ≤ maxPayload)
    (hcan : tx.config.canFd = true) :
    (txBuildFirstFrame tx payload).2.highNibble = 1 ∧
      (decodeFf (txBuildFirstFrame tx payload).2).1
        = some (payload.length, ffHeader payload.length) := by
  have hdl := txDl_bounds hvalid
  have hdlc : (txBuildFirstFrame tx payload).2.dlc = tx.config.txDl :=
    clearFrame_dlc tx.responseId hvalid
  have hfd : (txBuildFirstFrame tx payload).2.isFd = tx.config.canFd := rfl
  have hmax : payload.length ≤ 16384 := hfits
  have hheader : ffHeader payload.length = 6 := if_neg (by omega)
  have hbytes : ∀ i, i < 6 → (txBuildFirstFrame tx payload).2.data i =
      [0x10, 0, UInt8.ofNat (payload.length >>> 24), UInt8.ofNat (payload.length >>> 16),
        UInt8.ofNat (payload.length >>> 8), UInt8.ofNat payload.length].getD i 0 := by
    intro i hi
    simp only [txBuildFirstFrame, hheader, if_neg (Nat.not_le.mpr hlong)]
    rw [Buf.copy_outside (by omega)]
    simp only [Buf.write_apply]
    interval_cases i <;> rfl
  have hb0 : (txBuildFirstFrame tx payload).2.data 0 = 0x10 := hbytes 0 (by omega)
  have hb1 : (txBuildFirstFrame tx payload).2.data 1 = 0 := hbytes 1 (by omega)
  have hlow : (txBuildFirstFrame tx payload).2.lowNibble = 0 := by
    rw [IsoTpCanFrame.lowNibble, hb0]
    rfl
  -- the two highest of the four bytes are zero
  have hescaped : escapedLength (txBuildFirstFrame tx payload).2 = payload.length := by
    simp only [escapedLength, hbytes 2 (by omega), hbytes 3 (by omega), hbytes 4 (by omega),
      hbytes 5 (by omega), List.getD_cons_succ, List.getD_cons_zero, UInt8.toNat_ofNat',
      Nat.shiftRight_eq_div_pow]
    have h24 : payload.length / 2 ^ 24 % 2 ^ 8 = 0 := by omega
    have h16 : payload.length / 2 ^ 16 % 2 ^ 8 = 0 := by omega
    rw [h24, h16, Nat.zero_shiftLeft, Nat.zero_shiftLeft, Nat.zero_or, Nat.zero_or,
      shiftLeft_or_byte _ (by omega)]
    omega
  refine ⟨by rw [IsoTpCanFrame.highNibble, hb0]; rfl, ?_⟩
  unfold decodeFf
  rw [if_neg (by rw [hfd, hcan, hlow, hb1]; simp), if_neg (by rw [hdlc, hb1]; simp; omega),
    hescaped, if_neg (by omega), hheader]

/-- So is a length of 12 bits. -/
theorem firstFrame_short (tx : IsoTpTx ω) (hlong : 7 < payload.length)
    (hshort : payload.length ≤ 4095) :
    (txBuildFirstFrame tx payload).2.highNibble = 1 ∧
      (decodeFf (txBuildFirstFrame tx payload).2).1
        = some (payload.length, ffHeader payload.length) := by
  have hheader : ffHeader payload.length = 2 := if_pos hshort
  have hand : (payload.length >>> 8) &&& 0x0F = payload.length / 256 % 16 := by
    rw [Nat.shiftRight_eq_div_pow]
    exact Nat.and_two_pow_sub_one_eq_mod _ 4
  have hb0 : (txBuildFirstFrame tx payload).2.data 0
      = UInt8.ofNat ((1 <<< 4) ||| (payload.length / 256 % 16)) := by
    simp only [txBuildFirstFrame, hheader, if_pos hshort, hand]
    rw [Buf.copy_outside (by omega), Buf.write_of_ne (by omega), Buf.write_same]
    rfl
  have hb1 : (txBuildFirstFrame tx payload).2.data 1 = UInt8.ofNat payload.length := by
    simp only [txBuildFirstFrame, hheader, if_pos hshort]
    rw [Buf.copy_outside (by omega), Buf.write_same]
  have hlow : (txBuildFirstFrame tx payload).2.lowNibble = payload.length / 256 % 16 := by
    rw [IsoTpCanFrame.lowNibble, hb0]
    exact lowNibble_pci 1 (by omega) _ (Nat.mod_lt _ (by omega))
  have hone : ((txBuildFirstFrame tx payload).2.data 1).toNat = payload.length % 256 := by
    rw [hb1, UInt8.toNat_ofNat']
  refine ⟨?_, ?_⟩
  · rw [IsoTpCanFrame.highNibble, hb0]
    exact highNibble_pci 1 (by omega) _ (Nat.mod_lt _ (by omega))
  · unfold decodeFf
    rw [if_pos ?_, hlow, hone, shiftLeft_or_byte _ (by omega), hheader]
    · refine congrArg some (Prod.ext ?_ rfl)
      dsimp only
      omega
    · -- both bytes are zero in the escape only, and the length is not
      by_contra hno
      simp only [not_or, ne_eq, Decidable.not_not] at hno
      rw [hlow] at hno
      rw [hno.2.2] at hone
      simp at hone
      omega

theorem firstFrame_decoded (tx : IsoTpTx ω) (hvalid : validTxConfig tx.config = true)
    (hlong : 7 < payload.length) (hfits : payload.length ≤ maxPayload)
    (hclassic : tx.config.canFd = false → payload.length ≤ 4095) :
    (txBuildFirstFrame tx payload).2.highNibble = 1 ∧
      (decodeFf (txBuildFirstFrame tx payload).2).1
        = some (payload.length, ffHeader payload.length) := by
  rcases Nat.lt_or_ge 4095 payload.length with hescape | hshort
  · refine firstFrame_escaped tx hvalid hescape hfits ?_
    by_contra hno
    have hfew := hclassic (Bool.eq_false_of_not_eq_true hno)
    omega
  · exact firstFrame_short tx hlong hshort

theorem firstFrame_pdu {tx : IsoTpTx ω} (hcompat : Matched sc rc) (hplan : PlanOf sc rc payload p)
    (htx : TxEnd sc down up tx) (hlong : 7 < payload.length) (hfits : payload.length ≤ maxPayload)
    (hclassic : sc.canFd = false → payload.length ≤ 4095) :
    FirstPdu rc down payload p (txBuildFirstFrame tx payload).2 := by
  have hvalid : validTxConfig tx.config = true := by rw [htx.config]; exact hcompat.sender
  have hdl := txDl_bounds hvalid
  have hdlc : (txBuildFirstFrame tx payload).2.dlc = tx.config.txDl :=
    clearFrame_dlc tx.responseId hvalid
  have hfd : (txBuildFirstFrame tx payload).2.isFd = sc.canFd := by rw [← htx.config]; rfl
  have hfirst := p.first_lt
  have hlength := hplan.length
  obtain ⟨htype, hff⟩ := firstFrame_decoded tx hvalid hlong hfits
    (by rw [htx.config]; exact hclassic)
  refine ⟨htx.responseId, ?_, htype, by omega, ffHeader payload.length, hff, ?_, ?_⟩
  · exact frameValid_full hcompat.sender hcompat.canFd hcompat.down hfd
      (by rw [hdlc, htx.config])
  · rw [hdlc, htx.config, hplan.first]
  · have hmin : min (tx.config.txDl - ffHeader payload.length) payload.length = p.first := by
      rw [htx.config, ← hplan.first]
      omega
    simp only [txBuildFirstFrame, hmin]
    rw [Buf.slice_copy_self, Buf.slice_ofList_of_le (by omega), List.drop_zero]

theorem nextFrame_pdu {tx : IsoTpTx ω} {q : Progress} (hcompat : Matched sc rc)
    (hplan : PlanOf sc rc payload p) (htx : TxEnd sc down up tx)
    (hbusy : TxBusyAt rc payload p q tx) (hmore : p.covered q.sent < payload.length) :
    NextPdu rc down payload p q.sent (txConsecutiveFrame tx (txCopy tx)) := by
  have hvalid : validTxConfig tx.config = true := by rw [htx.config]; exact hcompat.sender
  have hdl := txDl_bounds hvalid
  have hdlc : (txConsecutiveFrame tx (txCopy tx)).dlc = tx.config.txDl :=
    clearFrame_dlc tx.responseId hvalid
  have hfd : (txConsecutiveFrame tx (txCopy tx)).isFd = sc.canFd := by rw [← htx.config]; rfl
  have hoffset : tx.offset = p.covered q.sent := by rw [hbusy.offset]; omega
  have hcopy : txCopy tx = min p.chunk (payload.length - p.covered q.sent) := by
    rw [txCopy, hbusy.payloadLen, hoffset, htx.config, ← hplan.chunk, Nat.min_comm]
  obtain ⟨hhigh, hlow⟩ := consecutiveFrame_nibbles tx (txCopy tx) (by
    rw [hbusy.nextSequence]
    exact Nat.mod_lt _ (by omega))
  refine ⟨htx.responseId, ?_, hhigh, by omega, hlow.trans hbusy.nextSequence, ?_, ?_⟩
  · exact frameValid_full hcompat.sender hcompat.canFd hcompat.down hfd
      (by rw [hdlc, htx.config])
  · rw [hdlc, htx.config, hplan.chunk]
  · rw [← hcopy]
    have hslice : (txConsecutiveFrame tx (txCopy tx)).data.slice 1 (txCopy tx)
        = tx.buffer.slice tx.offset (txCopy tx) := Buf.slice_copy_self ..
    rw [hslice, hoffset]
    conv_rhs => rw [← hbusy.bytes]
    rw [Buf.drop_slice, Buf.take_slice, Nat.zero_add, Nat.min_eq_left (by omega)]

/-- A clear-to-send is accepted by a sender that waits for it. -/
theorem feedFlowControl_cts {tx : IsoTpTx ω} {frame : IsoTpCanFrame} (now : UInt32) (w : ω)
    (hcompat : Compatible sc rc) (htx : TxEnd sc down up tx) (hstate : AwaitsFlow tx)
    (hframe : CtsPdu sc rc up frame) :
    isotpTxFeedFlowControl tx frame now w = (.ok, txGrant tx frame now tx.nextFrameUs, w) := by
  have hok : txValidateFcFrame tx frame = .ok := by
    have hlong := hframe.long
    unfold txValidateFcFrame
    rw [if_neg (by rw [htx.config, hframe.valid]; simp),
      if_neg (by rw [hframe.id, htx.requestId]; simp), if_neg ?_, if_neg ?_]
    · rw [hframe.type]
      simp
      omega
    · rcases hstate with hs | hs <;> rw [hs] <;> simp
  have hclock : tx.config.clockUs = none := by rw [htx.config]; exact hcompat.senderClock
  unfold isotpTxFeedFlowControl
  rw [hok, hframe.flow, if_neg (by simp), if_neg (by decide), if_neg (by simp [validStMin]),
    if_neg (by decide), hclock]

/-- A sender that is not sending has nothing to hand out. -/
theorem next_of_not_sending (tx : IsoTpTx ω) (now : UInt32) (frame : IsoTpCanFrame) (w : ω)
    (h : tx.state ≠ .sendConsecutive) : (isotpTxNext tx now frame w).1 = ⟨.ok, tx, frame⟩ := by
  have hwait : tx.state = .idle ∨ tx.state = .waitFirstFlowControl ∨
      tx.state = .waitBlockFlowControl := by
    cases hs : tx.state with
    | idle => exact .inl rfl
    | waitFirstFlowControl => exact .inr (.inl rfl)
    | waitBlockFlowControl => exact .inr (.inr rfl)
    | sendConsecutive => exact absurd hs h
  unfold isotpTxNext
  rw [if_pos hwait]

/-- A sender that sends, polled in time. -/
theorem next_of_sending {tx : IsoTpTx ω} {now : UInt32} (frame : IsoTpCanFrame) (w : ω)
    (hs : tx.state = .sendConsecutive) (hclock : tx.config.clockUs = none)
    (htime : expired now tx.deadlineMs = false) :
    (isotpTxNext tx now frame w).1 =
      if expired now tx.nextFrameMs then
        if tx.payloadLen ≤ tx.offset then ⟨.complete, isotpTxReset tx, frame⟩
        else ⟨.txFrameReady, txAdvance tx now (txCopy tx) tx.nextFrameUs,
          txConsecutiveFrame tx (txCopy tx)⟩
      else ⟨.ok, tx, frame⟩ := by
  unfold isotpTxNext txPacingExpired
  rw [if_neg (by rw [hs]; simp), if_neg (by rw [htime]; simp), hclock]
  dsimp only
  cases hpaced : expired now tx.nextFrameMs with
  | false => rw [if_pos (by simp), if_neg (by simp)]
  | true =>
    simp only [not_true_eq_false, if_false, if_true]
    by_cases hdone : tx.payloadLen ≤ tx.offset
    · rw [if_pos hdone, if_pos hdone]
    · rw [if_neg hdone, if_neg hdone]

/-! ### A payload in one frame -/

/-- A single frame that carries the payload, as the receiver sees it. -/
structure SinglePdu (rc : IsoTpConfig ω) (down : UInt32) (payload : List UInt8)
    (frame : IsoTpCanFrame) : Prop where
  id : frame.canId = down
  valid : frameValid rc frame = true
  type : frame.highNibble = 0
  decoded : ∃ header, (decodeSf frame).1 = some (payload.length, header) ∧
    header + payload.length ≤ frame.dlc ∧ frame.data.slice header payload.length = payload

theorem shortFrame_pdu {tx : IsoTpTx ω} (hcompat : Matched sc rc) (htx : TxEnd sc down up tx)
    (hpos : 1 ≤ payload.length) (hshort : payload.length ≤ 7) :
    SinglePdu rc down payload (txShortFrame tx payload) := by
  have hbounds := txDl_bounds hcompat.sender
  have hfd : (txShortFrame tx payload).isFd = sc.canFd := by rw [← htx.config]; rfl
  have hdlc : (txShortFrame tx payload).dlc = singleDlc sc payload.length := by
    rw [← htx.config]
    rfl
  have hpci : (txShortFrame tx payload).data 0
      = UInt8.ofNat ((0 <<< 4) ||| payload.length) := by
    -- The payload is copied behind the header byte.
    simp only [txShortFrame]
    rw [Buf.copy_outside (by omega), Buf.write_same]
    simp
  have hlow : (txShortFrame tx payload).lowNibble = payload.length := by
    rw [IsoTpCanFrame.lowNibble, hpci]
    exact lowNibble_pci 0 (by omega) _ (by omega)
  have hvalid : frameValid rc (txShortFrame tx payload) = true ∧
      1 + payload.length ≤ (txShortFrame tx payload).dlc := by
    rw [hdlc]
    cases hc : sc.canFd with
    | true =>
      have hdl : singleDlc sc payload.length = fdDlForLength (payload.length + 1) := if_pos hc
      have hspec := fdDlForLength_spec (validFdDl_txDl hcompat.sender hc)
        (show payload.length + 1 ≤ sc.txDl by omega)
      have hdown := hcompat.down
      refine ⟨frameValid_of_fd (hfd.trans hc) (hcompat.canFd.symm.trans hc) ?_ ?_, ?_⟩
      · rw [hdlc, hdl]
        exact hspec.1
      · omega
      · omega
    | false =>
      have hdl : singleDlc sc payload.length = if sc.paddingEnabled then 8
          else payload.length + 1 := if_neg (by rw [hc]; simp)
      refine ⟨frameValid_of_classic (hfd.trans hc) ?_ ?_, ?_⟩
      all_goals
        simp only [hdlc, hdl]
        split <;> omega
  refine ⟨htx.responseId, hvalid.1, ?_, 1, ?_, hvalid.2, ?_⟩
  · rw [IsoTpCanFrame.highNibble, hpci]
    exact highNibble_pci 0 (by omega) _ (by omega)
  · unfold decodeSf
    rw [if_pos (by rw [hlow]; omega), hlow]
  · exact (Buf.slice_copy_self ..).trans (Buf.slice_ofList payload)

theorem escapedFrame_pdu {tx : IsoTpTx ω} (hcompat : Matched sc rc)
    (htx : TxEnd sc down up tx) (hlong : 7 < payload.length) (hcan : sc.canFd = true)
    (hcapacity : payload.length ≤ singleCapacity sc) (hbyte : payload.length ≤ 255) :
    SinglePdu rc down payload (txEscapedFrame tx payload) := by
  have hbounds := txDl_bounds hcompat.sender
  have hcap : singleCapacity sc = sc.txDl - 2 := if_pos hcan
  have hspec := fdDlForLength_spec (validFdDl_txDl hcompat.sender hcan)
    (show payload.length + 2 ≤ sc.txDl by omega)
  have hdown := hcompat.down
  have hfd : (txEscapedFrame tx payload).isFd = true := by
    rw [← hcan, ← htx.config]
    rfl
  have hdlc : (txEscapedFrame tx payload).dlc = fdDlForLength (payload.length + 2) := rfl
  have hzero : (txEscapedFrame tx payload).data 0 = 0 := by
    simp only [txEscapedFrame]
    rw [Buf.copy_outside (by omega), Buf.write_of_ne (by omega), Buf.write_same]
  have hone : ((txEscapedFrame tx payload).data 1).toNat = payload.length := by
    simp only [txEscapedFrame]
    rw [Buf.copy_outside (by omega), Buf.write_same, UInt8.toNat_ofNat']
    omega
  have hlow : (txEscapedFrame tx payload).lowNibble = 0 := by
    rw [IsoTpCanFrame.lowNibble, hzero]
    rfl
  refine ⟨htx.responseId, ?_, ?_, 2, ?_, by omega, ?_⟩
  · exact frameValid_of_fd hfd (hcompat.canFd.symm.trans hcan) hspec.1 (by omega)
  · rw [IsoTpCanFrame.highNibble, hzero]
    rfl
  · have hne : (txEscapedFrame tx payload).data 1 ≠ 0 := by
      intro h0
      rw [h0] at hone
      simp at hone
      omega
    unfold decodeSf
    rw [if_neg (by rw [hlow]; simp), if_neg (by rw [hfd]; simp; omega), if_neg hne, hone]
  · exact (Buf.slice_copy_self ..).trans (Buf.slice_ofList payload)

/-- A payload that fits one frame leaves in one. -/
theorem txBuildSf_pdu {tx tx' : IsoTpTx ω} {frame : IsoTpCanFrame} (hcompat : Matched sc rc)
    (htx : TxEnd sc down up tx) (hpos : 1 ≤ payload.length)
    (h : txBuildSf tx payload = some (tx', frame)) : SinglePdu rc down payload frame := by
  unfold txBuildSf at h
  dsimp only at h
  split at h
  next hshort =>
    rw [← (Prod.mk.inj (Option.some.inj h)).2]
    exact shortFrame_pdu hcompat htx hpos hshort
  next hlong =>
    split at h
    next hfit =>
      rw [htx.config] at hfit
      rw [← (Prod.mk.inj (Option.some.inj h)).2]
      exact escapedFrame_pdu hcompat htx (by omega) hfit.1 hfit.2.1 hfit.2.2
    next => exact absurd h (by simp)

end sender

/-- A single frame is delivered at once. -/
theorem feed_single {rc : IsoTpConfig ω} {down up : UInt32} {payload : List UInt8}
    {rx : IsoTpRx ω} {frame : IsoTpCanFrame} (now : UInt32) (event : IsoTpRxEvent)
    (hrx : RxEnd rc down up rx) (hidle : rx.active = false)
    (hfits : payload.length ≤ maxPayload) (hframe : SinglePdu rc down payload frame) :
    (isotpRxFeed rx frame now event).status = .complete ∧
      RxEnd rc down up (isotpRxFeed rx frame now event).rx ∧
      (isotpRxFeed rx frame now event).rx.active = false ∧
      (isotpRxFeed rx frame now event).event.bytes = payload ∧
      (isotpRxFeed rx frame now event).event.hasFlowControl = false := by
  obtain ⟨header, hsf, hroom, hdata⟩ := hframe.decoded
  obtain ⟨hstatus, hrx', hevent⟩ := feed_dispatch rx frame now event
    (by rw [hrx.config]; exact hframe.valid) (by rw [hrx.requestId]; exact hframe.id)
    (by simp [isUnexpectedNPdu, hidle])
  have hdispatch : rxDispatch rx frame now (clearEvent event)
      = rxSingle rx frame (clearEvent event) := by
    simp only [rxDispatch, hframe.type]
  rw [hstatus, hrx', hevent, hdispatch]
  unfold rxSingle
  split
  next hnone => rw [hnone] at hsf; exact absurd hsf (by simp)
  next length header' reads hsome =>
    rw [hsome] at hsf
    obtain ⟨rfl, rfl⟩ := Prod.mk.inj (Option.some.inj hsf)
    rw [if_neg (by omega), if_neg (by omega)]
    refine ⟨rfl, ⟨hrx.config, hrx.requestId, hrx.responseId⟩, rfl, ?_, rfl⟩
    simp only [IsoTpRxEvent.bytes, Option.map_some, Option.getD_some]
    exact (Buf.slice_copy_self ..).trans hdata

end UdsIsoTp.IsoTp
