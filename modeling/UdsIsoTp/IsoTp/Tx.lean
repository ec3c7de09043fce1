import UdsIsoTp.IsoTp.Frame

/-!
# The ISO-TP transmitter

`isotp_tx_*` of `isotp.c`: a payload leaves as a single frame, or as a first
frame and, paced by the flow control of the other side, consecutive frames.

`isotp_tx_start` and `isotp_tx_next` fill a frame the caller owns; a call that
returns without one leaves it alone, so the previous frame is an argument. The
only outside call is the optional microsecond clock.

The second half says once what each call can do: `feedFlowControl_effect` and
`next_effect` for the two calls the peer and the clock drive, `start_multi` for
the state and the frame a multi-frame transfer begins with.
-/

namespace UdsIsoTp.IsoTp

variable {ω : Type}

/-- Where a transmission stands. -/
inductive IsoTpTxState where
  | idle
  | waitFirstFlowControl
  | sendConsecutive
  | waitBlockFlowControl
  deriving DecidableEq, Repr

/-- The whole of `IsoTpTx`: the message, and how much of it is out. -/
structure IsoTpTx (ω : Type) where
  config : IsoTpConfig ω
  requestId : UInt32
  responseId : UInt32
  buffer : Buf
  payloadLen : Nat
  offset : Nat
  nextSequence : Nat
  blockCount : Nat
  remoteBlockSize : UInt8
  remoteStMin : UInt8
  remoteStMinUs : UInt32
  deadlineMs : UInt32
  nextFrameMs : UInt32
  nextFrameUs : UInt32
  state : IsoTpTxState
  waitFrames : Nat

/-- What a call leaves behind: its status, the transmitter and the caller's frame. -/
structure TxOut (ω : Type) where
  status : IsoTpStatus
  tx : IsoTpTx ω
  frame : IsoTpCanFrame

/-- `isotp_tx_reset`: forgets the message in transmission. -/
def isotpTxReset (tx : IsoTpTx ω) : IsoTpTx ω :=
  { tx with
    payloadLen := 0
    offset := 0
    nextSequence := 1
    blockCount := 0
    remoteBlockSize := 0
    remoteStMin := 0
    deadlineMs := 0
    nextFrameMs := 0
    state := .idle
    waitFrames := 0 }

/-- `isotp_tx_init` -/
def isotpTxInit (tx : IsoTpTx ω) (config : Option (IsoTpConfig ω))
    (requestId responseId : UInt32) : IsoTpTx ω :=
  isotpTxReset
    { tx with
      config := config.getD isotpConfigDefault
      requestId := requestId
      responseId := responseId }

/-- The header of a first frame: two bytes, or six when the length needs the escape. -/
def ffHeader (length : Nat) : Nat := if length ≤ 4095 then 2 else 6

/-- The first frame, with the length before the first bytes. -/
def txBuildFirstFrame (tx : IsoTpTx ω) (payload : List UInt8) : IsoTpTx ω × IsoTpCanFrame :=
  let length := payload.length
  let frame := clearFrame tx.responseId tx.config
  let header := ffHeader length
  let data := frame.data.write 0
    (if length ≤ 4095 then UInt8.ofNat (0x10 ||| ((length >>> 8) &&& 0x0F)) else 0x10)
  let data := data.write 1 (if length ≤ 4095 then UInt8.ofNat length else 0)
  let data :=
    if length ≤ 4095 then data
    else (((data.write 2 (UInt8.ofNat (length >>> 24))).write 3
      (UInt8.ofNat (length >>> 16))).write 4 (UInt8.ofNat (length >>> 8))).write 5
      (UInt8.ofNat length)
  let first := min (tx.config.txDl - header) length
  let data := data.copy header (Buf.ofList payload) 0 first
  ({ tx with offset := first, state := .waitFirstFlowControl }, { frame with data := data })

/-- `frame->dlc` of a single frame with the short header. -/
def singleDlc (config : IsoTpConfig ω) (length : Nat) : Nat :=
  if config.canFd then fdDlForLength (length + 1)
  else if config.paddingEnabled then 8 else length + 1

/-- `single_capacity` -/
def singleCapacity (config : IsoTpConfig ω) : Nat := if config.canFd then config.txDl - 2 else 0

/-- The single frame with the length in the first byte. -/
def txShortFrame (tx : IsoTpTx ω) (payload : List UInt8) : IsoTpCanFrame :=
  let frame := clearFrame tx.responseId tx.config
  let data := frame.data.write 0 (UInt8.ofNat payload.length)
  { frame with
    dlc := singleDlc tx.config payload.length
    data := data.copy 1 (Buf.ofList payload) 0 payload.length }

/-- The single frame with the length in the second byte, after a zero. -/
def txEscapedFrame (tx : IsoTpTx ω) (payload : List UInt8) : IsoTpCanFrame :=
  let frame := clearFrame tx.responseId tx.config
  let data := (frame.data.write 0 0).write 1 (UInt8.ofNat payload.length)
  { frame with
    dlc := fdDlForLength (payload.length + 2)
    data := data.copy 2 (Buf.ofList payload) 0 payload.length }

/-- `tx_build_sf`: the frame, when the payload fits one. -/
def txBuildSf (tx : IsoTpTx ω) (payload : List UInt8) : Option (IsoTpTx ω × IsoTpCanFrame) :=
  let length := payload.length
  if length ≤ 7 then some (isotpTxReset tx, txShortFrame tx payload)
  else if tx.config.canFd ∧ length ≤ singleCapacity tx.config ∧ length ≤ 255 then
    some (isotpTxReset tx, txEscapedFrame tx payload)
  else none

/-- The transmitter with the payload taken over. -/
def txLoad (tx : IsoTpTx ω) (payload : List UInt8) (now : UInt32) : IsoTpTx ω :=
  { tx with
    buffer := tx.buffer.copy 0 (Buf.ofList payload) 0 payload.length
    payloadLen := payload.length
    offset := 0
    nextSequence := 1
    blockCount := 0
    deadlineMs := deadline now tx.config.txTimeoutMs }

/-- `isotp_tx_start`: a short message goes out in one frame. -/
def isotpTxStart (tx : IsoTpTx ω) (payload : List UInt8) (now : UInt32)
    (frame : IsoTpCanFrame) : TxOut ω :=
  if payload.length = 0 ∨ ¬validTxConfig tx.config then ⟨.errArgument, tx, frame⟩
  else if maxPayload < payload.length then ⟨.errOverflow, tx, frame⟩
  else
    let tx := txLoad tx payload now
    match txBuildSf tx payload with
    | some (tx, frame) => ⟨.txFrameReady, tx, frame⟩
    | none =>
      let (tx, frame) := txBuildFirstFrame tx payload
      ⟨.txFrameReady, tx, frame⟩

/-- Whether the frame is a flow control the sender waits for. -/
def txValidateFcFrame (tx : IsoTpTx ω) (frame : IsoTpCanFrame) : IsoTpStatus :=
  if ¬frameValid tx.config frame then .errArgument
  else if frame.canId ≠ tx.requestId then .errArgument
  else if tx.state ≠ .waitFirstFlowControl ∧ tx.state ≠ .waitBlockFlowControl then .errState
  else if frame.dlc < 3 ∨ frame.highNibble ≠ 3 then .errFormat
  else .ok

/-- `valid_st_min` accepts every value. -/
def validStMin (_value : UInt8) : Bool := true

/-- The transmitter after a clear-to-send: a new block begins, its first frame is due. -/
def txGrant (tx : IsoTpTx ω) (frame : IsoTpCanFrame) (now nextFrameUs : UInt32) : IsoTpTx ω :=
  { tx with
    remoteBlockSize := frame.data 1
    remoteStMin := frame.data 2
    remoteStMinUs := stMinUs (frame.data 2)
    waitFrames := 0
    state := .sendConsecutive
    blockCount := 0
    nextFrameMs := now
    nextFrameUs := nextFrameUs
    deadlineMs := deadline now tx.config.txTimeoutMs }

/-- `isotp_tx_feed_flow_control` -/
def isotpTxFeedFlowControl (tx : IsoTpTx ω) (frame : IsoTpCanFrame) (now : UInt32) (w : ω) :
    IsoTpStatus × IsoTpTx ω × ω :=
  let status := txValidateFcFrame tx frame
  let flow := frame.lowNibble
  if status ≠ .ok then (status, tx, w)
  else if flow = IsoTpFlowStatus.overflow.value then (.errFlowOverflow, isotpTxReset tx, w)
  else if (flow ≠ IsoTpFlowStatus.cts.value ∧ flow ≠ IsoTpFlowStatus.wait.value) ∨
      ¬validStMin (frame.data 2) then
    (.errFlowControl, isotpTxReset tx, w)
  else if flow = IsoTpFlowStatus.wait.value then
    if tx.config.maxWaitFrames.toNat ≤ tx.waitFrames then (.errFlowControl, isotpTxReset tx, w)
    else
      (.ok, { tx with
        waitFrames := (tx.waitFrames + 1) % 256
        deadlineMs := deadline now tx.config.txTimeoutMs }, w)
  else
    match tx.config.clockUs with
    | some clockUs =>
      let (nowUs, w) := clockUs w
      (.ok, txGrant tx frame now nowUs, w)
    | none => (.ok, txGrant tx frame now tx.nextFrameUs, w)

/-- Whether the separation time is over, by the fine clock when there is one. -/
def txPacingExpired (tx : IsoTpTx ω) (now : UInt32) (w : ω) : Bool × ω :=
  match tx.config.clockUs with
  | some clockUs =>
    let (nowUs, w) := clockUs w
    (expired nowUs tx.nextFrameUs, w)
  | none => (expired now tx.nextFrameMs, w)

/-- The bytes the next consecutive frame takes. -/
def txCopy (tx : IsoTpTx ω) : Nat := min (tx.payloadLen - tx.offset) (tx.config.txDl - 1)

/-- The consecutive frame that carries the `copy` bytes at `tx->offset`. -/
def txConsecutiveFrame (tx : IsoTpTx ω) (copy : Nat) : IsoTpCanFrame :=
  let frame := clearFrame tx.responseId tx.config
  let data := frame.data.write 0 (UInt8.ofNat (0x20 ||| tx.nextSequence))
  { frame with data := data.copy 1 tx.buffer tx.offset copy }

/-- That frame fills the block, and there is more to send. -/
abbrev BlockFull (tx : IsoTpTx ω) (copy : Nat) : Prop :=
  tx.remoteBlockSize ≠ 0 ∧ tx.remoteBlockSize.toNat ≤ (tx.blockCount + 1) % 256 ∧
    tx.offset + copy < tx.payloadLen

/-- The transmitter after that frame: pacing is armed, and a full block waits for the
next flow control. -/
def txAdvance (tx : IsoTpTx ω) (now : UInt32) (copy : Nat) (nextFrameUs : UInt32) : IsoTpTx ω :=
  { tx with
    offset := tx.offset + copy
    nextSequence := (tx.nextSequence + 1) % 16
    blockCount := if BlockFull tx copy then 0 else (tx.blockCount + 1) % 256
    deadlineMs := deadline now tx.config.txTimeoutMs
    nextFrameMs := now + stMinMs tx.remoteStMin
    nextFrameUs := nextFrameUs
    state := if BlockFull tx copy then .waitBlockFlowControl else tx.state }

/-- `isotp_tx_next`: the next frame, when it is time for it. -/
def isotpTxNext (tx : IsoTpTx ω) (now : UInt32) (frame : IsoTpCanFrame) (w : ω) :
    TxOut ω × ω :=
  if tx.state = .idle ∨ tx.state = .waitFirstFlowControl ∨ tx.state = .waitBlockFlowControl then
    (⟨.ok, tx, frame⟩, w)
  else if expired now tx.deadlineMs then (⟨.errTimeout, isotpTxReset tx, frame⟩, w)
  else
    let (paced, w) := txPacingExpired tx now w
    if ¬paced then (⟨.ok, tx, frame⟩, w)
    else if tx.payloadLen ≤ tx.offset then (⟨.complete, isotpTxReset tx, frame⟩, w)
    else
      let copy := txCopy tx
      let frame := txConsecutiveFrame tx copy
      match tx.config.clockUs with
      | some clockUs =>
        let (nowUs, w) := clockUs w
        (⟨.txFrameReady, txAdvance tx now copy (nowUs + tx.remoteStMinUs), frame⟩, w)
      | none => (⟨.txFrameReady, txAdvance tx now copy tx.nextFrameUs, frame⟩, w)

/-- `isotp_tx_tick`: gives up a message over its deadline. -/
def isotpTxTick (tx : IsoTpTx ω) (now : UInt32) : IsoTpStatus × IsoTpTx ω :=
  if tx.state = .idle then (.ok, tx)
  else if expired now tx.deadlineMs then (.errTimeout, isotpTxReset tx)
  else (.ok, tx)

/-! ## What a call can do -/

/-- Classic CAN leaves no choice of the frame size. -/
theorem classic_txDl {config : IsoTpConfig ω} (h : validTxConfig config = true)
    (hfd : ¬config.canFd = true) : config.txDl = 8 := by
  unfold validTxConfig at h
  rw [if_neg hfd] at h
  simpa using (Bool.and_eq_true_iff.mp h).1

theorem clearFrame_dlc {config : IsoTpConfig ω} (id : UInt32) (h : validTxConfig config = true) :
    (clearFrame id config).dlc = config.txDl := by
  by_cases hfd : config.canFd = true
  · exact if_pos hfd
  · exact (if_neg hfd).trans (classic_txDl h hfd).symm

/-- A single frame ends the transfer where it begins. -/
theorem txBuildSf_some {tx : IsoTpTx ω} {payload : List UInt8} {out : IsoTpTx ω × IsoTpCanFrame}
    (h : txBuildSf tx payload = some out) : out.1 = isotpTxReset tx := by
  unfold txBuildSf at h
  dsimp only at h
  split at h
  next => rw [← Option.some.inj h]
  next =>
    split at h
    next => rw [← Option.some.inj h]
    next => exact absurd h (by simp)

/-- A payload that fits no single frame is longer than the data of a first frame. -/
theorem txBuildSf_none {tx : IsoTpTx ω} {payload : List UInt8} (hvalid : validTxConfig tx.config)
    (h : txBuildSf tx payload = none) :
    7 < payload.length ∧ tx.config.txDl - ffHeader payload.length < payload.length := by
  have hdl := txDl_bounds hvalid
  have hheader : 2 ≤ ffHeader payload.length := by
    unfold ffHeader
    split <;> omega
  unfold txBuildSf at h
  dsimp only at h
  split at h
  next => exact absurd h (by simp)
  next hlong =>
    split at h
    next => exact absurd h (by simp)
    next hfit =>
      refine ⟨by omega, ?_⟩
      by_cases hfd : tx.config.canFd = true
      · have hcap : singleCapacity tx.config = tx.config.txDl - 2 := if_pos hfd
        have hfit' : ¬(payload.length ≤ tx.config.txDl - 2 ∧ payload.length ≤ 255) := by
          rw [← hcap]
          exact fun hle => hfit ⟨hfd, hle⟩
        omega
      · have h8 := classic_txDl hvalid hfd
        omega

/-- What `isotp_tx_start` does with a payload it takes: one frame that carries it all,
or the first of several. -/
theorem start_ready {tx : IsoTpTx ω} {payload : List UInt8} {now : UInt32}
    {frame : IsoTpCanFrame} (h : (isotpTxStart tx payload now frame).status = .txFrameReady) :
    validTxConfig tx.config = true ∧ payload.length ≤ maxPayload ∧
      ((∃ sf, txBuildSf (txLoad tx payload now) payload = some sf ∧
          isotpTxStart tx payload now frame = ⟨.txFrameReady, sf.1, sf.2⟩) ∨
        (txBuildSf (txLoad tx payload now) payload = none ∧
          isotpTxStart tx payload now frame =
            ⟨.txFrameReady, (txBuildFirstFrame (txLoad tx payload now) payload).1,
              (txBuildFirstFrame (txLoad tx payload now) payload).2⟩)) := by
  unfold isotpTxStart at h ⊢
  split at h
  next => exact absurd h (by simp)
  next hargs =>
    split at h
    next => exact absurd h (by simp)
    next hfits =>
      have hvalid : validTxConfig tx.config = true := by
        by_contra hno
        exact hargs (.inr hno)
      refine ⟨hvalid, by omega, ?_⟩
      rw [if_neg hargs, if_neg hfits]
      dsimp only
      cases hsf : txBuildSf (txLoad tx payload now) payload with
      | some sf => exact .inl ⟨sf, rfl, rfl⟩
      | none => exact .inr ⟨rfl, rfl⟩

/-- The state and the frame a multi-frame transfer begins with. -/
structure Started (tx : IsoTpTx ω) (payload : List UInt8) (out : TxOut ω) : Prop where
  valid : validTxConfig tx.config = true
  long : 7 < payload.length
  fits : payload.length ≤ maxPayload
  config : out.tx.config = tx.config
  buffer : out.tx.buffer.slice 0 payload.length = payload
  payloadLen : out.tx.payloadLen = payload.length
  offset : out.tx.offset = tx.config.txDl - ffHeader payload.length
  more : out.tx.offset < payload.length
  nextSequence : out.tx.nextSequence = 1
  state : out.tx.state = .waitFirstFlowControl
  first : ffData out.frame (ffHeader payload.length) = payload.take out.tx.offset

theorem ffHeader_le (length : Nat) : ffHeader length ≤ 6 := by
  unfold ffHeader
  split <;> omega

/-- The transmitter holds the payload it has taken over. -/
theorem load_slice (tx : IsoTpTx ω) (payload : List UInt8) (now : UInt32) :
    (txLoad tx payload now).buffer.slice 0 payload.length = payload := by
  have hcopy := Buf.slice_copy_self tx.buffer (Buf.ofList payload) 0 0 payload.length
  rw [Buf.slice_ofList] at hcopy
  exact hcopy

/-- A first frame carries the bytes up to the offset it leaves. -/
theorem firstFrame_carries {tx : IsoTpTx ω} {payload : List UInt8}
    (hvalid : validTxConfig tx.config = true) (hsf : txBuildSf tx payload = none) :
    (txBuildFirstFrame tx payload).1.offset = tx.config.txDl - ffHeader payload.length ∧
      (txBuildFirstFrame tx payload).1.offset < payload.length ∧
      ffData (txBuildFirstFrame tx payload).2 (ffHeader payload.length)
        = payload.take (txBuildFirstFrame tx payload).1.offset := by
  have hdl := txDl_bounds hvalid
  obtain ⟨hlong, hmore⟩ := txBuildSf_none hvalid hsf
  have hheader := ffHeader_le payload.length
  have hfirst : min (tx.config.txDl - ffHeader payload.length) payload.length
      = tx.config.txDl - ffHeader payload.length := Nat.min_eq_left (Nat.le_of_lt hmore)
  refine ⟨hfirst, hfirst.trans_lt hmore, ?_⟩
  have hdlc : (clearFrame tx.responseId tx.config).dlc = tx.config.txDl :=
    clearFrame_dlc _ hvalid
  simp only [txBuildFirstFrame, ffData, hdlc, hfirst]
  rw [Buf.slice_copy_self, Buf.slice_ofList_of_le (by omega), List.drop_zero]

theorem started_firstFrame {tx : IsoTpTx ω} {payload : List UInt8} {now : UInt32}
    (hvalid : validTxConfig tx.config = true) (hfits : payload.length ≤ maxPayload)
    (hsf : txBuildSf (txLoad tx payload now) payload = none) :
    Started tx payload ⟨.txFrameReady, (txBuildFirstFrame (txLoad tx payload now) payload).1,
      (txBuildFirstFrame (txLoad tx payload now) payload).2⟩ := by
  have hload : validTxConfig (txLoad tx payload now).config = true := hvalid
  obtain ⟨hlong, -⟩ := txBuildSf_none hload hsf
  obtain ⟨hoffset, hmore, hfirst⟩ := firstFrame_carries hload hsf
  exact ⟨hvalid, hlong, hfits, rfl, load_slice tx payload now, rfl, hoffset, hmore, rfl, rfl,
    hfirst⟩

/-- A transfer that does not end with its first call is a multi-frame one. -/
theorem start_multi {tx : IsoTpTx ω} {payload : List UInt8} {now : UInt32}
    {frame : IsoTpCanFrame} (h : (isotpTxStart tx payload now frame).status = .txFrameReady)
    (hmulti : (isotpTxStart tx payload now frame).tx.state ≠ .idle) :
    Started tx payload (isotpTxStart tx payload now frame) := by
  obtain ⟨hvalid, hfits, ⟨sf, hsf, hout⟩ | ⟨hsf, hout⟩⟩ := start_ready h
  · rw [hout] at hmulti
    exact absurd (congrArg IsoTpTx.state (txBuildSf_some hsf)) hmulti
  · rw [hout]
    exact started_firstFrame hvalid hfits hsf

/-- The transmitter waits for a flow control frame. -/
def AwaitsFlow (tx : IsoTpTx ω) : Prop :=
  tx.state = .waitFirstFlowControl ∨ tx.state = .waitBlockFlowControl

/-- What `isotp_tx_feed_flow_control` can do: refuse the frame, abort the transfer,
count a WAIT, or begin a block. -/
inductive FlowEffect (tx : IsoTpTx ω) (frame : IsoTpCanFrame) (now : UInt32) (w : ω) :
    IsoTpStatus × IsoTpTx ω × ω → Prop
  | refused {status} (hstatus : status ≠ .ok) : FlowEffect tx frame now w (status, tx, w)
  | aborted {status} (hstatus : status ≠ .ok) :
      FlowEffect tx frame now w (status, isotpTxReset tx, w)
  | waited (hstate : AwaitsFlow tx) (hflow : frame.lowNibble = IsoTpFlowStatus.wait.value)
      (hfew : tx.waitFrames < tx.config.maxWaitFrames.toNat) :
      FlowEffect tx frame now w (.ok, { tx with
        waitFrames := tx.waitFrames + 1
        deadlineMs := deadline now tx.config.txTimeoutMs }, w)
  | granted {nextFrameUs w'} (hstate : AwaitsFlow tx)
      (hflow : frame.lowNibble = IsoTpFlowStatus.cts.value)
      (hclock : ∀ clockUs, tx.config.clockUs = some clockUs → clockUs w = (nextFrameUs, w'))
      (hnoclock : tx.config.clockUs = none → w' = w) :
      FlowEffect tx frame now w (.ok, txGrant tx frame now nextFrameUs, w')

theorem txValidateFcFrame_ok {tx : IsoTpTx ω} {frame : IsoTpCanFrame}
    (h : txValidateFcFrame tx frame = .ok) : AwaitsFlow tx := by
  unfold txValidateFcFrame at h
  split at h
  next => exact absurd h (by simp)
  next =>
    split at h
    next => exact absurd h (by simp)
    next =>
      split at h
      next => exact absurd h (by simp)
      next hstate =>
        by_contra hno
        exact hstate ⟨fun h1 => hno (.inl h1), fun h2 => hno (.inr h2)⟩

theorem feedFlowControl_effect (tx : IsoTpTx ω) (frame : IsoTpCanFrame) (now : UInt32) (w : ω) :
    FlowEffect tx frame now w (isotpTxFeedFlowControl tx frame now w) := by
  unfold isotpTxFeedFlowControl
  dsimp only
  split
  next hbad => exact .refused hbad
  next hok =>
    have hstate := txValidateFcFrame_ok (by simpa using hok)
    split
    next => exact .aborted (by simp)
    next =>
      split
      next => exact .aborted (by simp)
      next hknown =>
        split
        next hwait =>
          split
          next => exact .aborted (by simp)
          next hfew =>
            have hmax := tx.config.maxWaitFrames.toNat_lt
            have hmod : (tx.waitFrames + 1) % 256 = tx.waitFrames + 1 :=
              Nat.mod_eq_of_lt (by omega)
            rw [hmod]
            exact .waited hstate hwait (by omega)
        next hwait =>
          have hcts : frame.lowNibble = IsoTpFlowStatus.cts.value := by
            by_contra hne
            exact hknown (.inl ⟨hne, hwait⟩)
          split
          next clockUs hclock =>
            refine .granted hstate hcts (fun c hc => ?_) (fun hnone => ?_)
            · rw [hclock] at hc
              cases hc
              rfl
            · rw [hclock] at hnone
              exact absurd hnone (by simp)
          next hclock =>
            refine .granted hstate hcts (fun c hc => ?_) (fun _ => rfl)
            rw [hclock] at hc
            exact absurd hc (by simp)

/-- What `isotp_tx_next` can do: nothing yet, end the transfer, or hand out the next
consecutive frame. The world moves only by the reading of the pacing clock and, for a
frame, by the one that arms it again. -/
inductive NextEffect (tx : IsoTpTx ω) (now : UInt32) (frame : IsoTpCanFrame) (w : ω) :
    TxOut ω × ω → Prop
  | kept {w'} (hw : w' = w ∨ w' = (txPacingExpired tx now w).2) :
      NextEffect tx now frame w (⟨.ok, tx, frame⟩, w')
  | ended {status w'} (hstatus : status = .errTimeout ∨ status = .complete)
      (hw : w' = w ∨ w' = (txPacingExpired tx now w).2) :
      NextEffect tx now frame w (⟨status, isotpTxReset tx, frame⟩, w')
  | sent {nextFrameUs w₁ w₂} (hstate : tx.state = .sendConsecutive)
      (hmore : tx.offset < tx.payloadLen) (hpaced : txPacingExpired tx now w = (true, w₁))
      (hclock : ∀ clockUs, tx.config.clockUs = some clockUs →
        nextFrameUs = (clockUs w₁).1 + tx.remoteStMinUs ∧ w₂ = (clockUs w₁).2)
      (hnoclock : tx.config.clockUs = none → w₂ = w₁) :
      NextEffect tx now frame w (⟨.txFrameReady, txAdvance tx now (txCopy tx) nextFrameUs,
        txConsecutiveFrame tx (txCopy tx)⟩, w₂)

theorem next_effect (tx : IsoTpTx ω) (now : UInt32) (frame : IsoTpCanFrame) (w : ω) :
    NextEffect tx now frame w (isotpTxNext tx now frame w) := by
  unfold isotpTxNext
  split
  next => exact .kept (.inl rfl)
  next hbusy =>
    have hstate : tx.state = .sendConsecutive := by
      cases h : tx.state with
      | sendConsecutive => rfl
      | idle => exact absurd (.inl h) hbusy
      | waitFirstFlowControl => exact absurd (.inr (.inl h)) hbusy
      | waitBlockFlowControl => exact absurd (.inr (.inr h)) hbusy
    split
    next => exact .ended (.inl rfl) (.inl rfl)
    next =>
      dsimp only
      split
      next => exact .kept (.inr rfl)
      next hpaced =>
        have hpaced' : txPacingExpired tx now w = (true, (txPacingExpired tx now w).2) :=
          Prod.ext (by simpa using hpaced) rfl
        split
        next => exact .ended (.inr rfl) (.inr rfl)
        next hmore =>
          have hmore' : tx.offset < tx.payloadLen := Nat.lt_of_not_le hmore
          split
          next clockUs hclock =>
            refine .sent hstate hmore' hpaced' (fun c hc => ?_) (fun hnone => ?_)
            · rw [hclock] at hc
              cases hc
              exact ⟨rfl, rfl⟩
            · rw [hclock] at hnone
              exact absurd hnone (by simp)
          next hclock =>
            refine .sent hstate hmore' hpaced' (fun c hc => ?_) (fun _ => rfl)
            rw [hclock] at hc
            exact absurd hc (by simp)

/-- The protocol control byte of a consecutive frame. -/
theorem consecutiveFrame_nibbles (tx : IsoTpTx ω) (copy : Nat) (h : tx.nextSequence < 16) :
    (txConsecutiveFrame tx copy).highNibble = 2 ∧
      (txConsecutiveFrame tx copy).lowNibble = tx.nextSequence := by
  have hpci : (txConsecutiveFrame tx copy).data 0
      = UInt8.ofNat ((2 <<< 4) ||| tx.nextSequence) := by
    unfold txConsecutiveFrame
    dsimp only
    rw [Buf.copy_outside (by omega), Buf.write_same]
    rfl
  unfold IsoTpCanFrame.highNibble IsoTpCanFrame.lowNibble
  rw [hpci]
  exact ⟨highNibble_pci 2 (by omega) _ h, lowNibble_pci 2 (by omega) _ h⟩

/-- The data of a consecutive frame begins with the bytes it was given to carry. -/
theorem consecutiveFrame_data (tx : IsoTpTx ω) {copy : Nat}
    (hvalid : validTxConfig tx.config = true) (hcopy : copy ≤ tx.config.txDl - 1) :
    (cfData (txConsecutiveFrame tx copy)).length = tx.config.txDl - 1 ∧
      (cfData (txConsecutiveFrame tx copy)).take copy = tx.buffer.slice tx.offset copy := by
  have hdlc : (txConsecutiveFrame tx copy).dlc = tx.config.txDl :=
    clearFrame_dlc tx.responseId hvalid
  unfold cfData
  rw [hdlc]
  refine ⟨Buf.length_slice .., ?_⟩
  rw [Buf.take_slice, Nat.min_eq_left hcopy]
  exact Buf.slice_copy_self ..

/-! ## What is not seen of the transmitter -/

section Unseen

variable {β : Type*} {proj : ω → β} {tx : IsoTpTx ω}
  (hclock : ∀ f ∈ tx.config.clockUs, ∀ w, proj (f w).2 = proj w)
include hclock

/-- The transmitter reads the clock and nothing else. -/
theorem next_unseen (now : UInt32) (frame : IsoTpCanFrame) (w : ω) :
    proj (isotpTxNext tx now frame w).2 = proj w := by
  have hpaced : proj (txPacingExpired tx now w).2 = proj w := by
    unfold txPacingExpired
    split
    next f hf => exact hclock f hf w
    next => rfl
  have heffect := next_effect tx now frame w
  generalize isotpTxNext tx now frame w = out at heffect ⊢
  cases heffect with
  | kept hw =>
    rcases hw with rfl | rfl
    · rfl
    · exact hpaced
  | ended hstatus hw =>
    rcases hw with rfl | rfl
    · rfl
    · exact hpaced
  | sent hstate hmore hexpired harmed hnoclock =>
    rw [hexpired] at hpaced
    rcases hc : tx.config.clockUs with _ | f
    · rw [hnoclock hc]
      exact hpaced
    · rw [(harmed f hc).2]
      exact (hclock f hc _).trans hpaced

theorem feedFlowControl_unseen (frame : IsoTpCanFrame) (now : UInt32) (w : ω) :
    proj (isotpTxFeedFlowControl tx frame now w).2.2 = proj w := by
  have heffect := feedFlowControl_effect tx frame now w
  generalize isotpTxFeedFlowControl tx frame now w = out at heffect ⊢
  cases heffect with
  | refused hstatus => rfl
  | aborted hstatus => rfl
  | waited hstate hflow hfew => rfl
  | @granted nextFrameUs w' hstate hflow hread hnoclock =>
    rcases hc : tx.config.clockUs with _ | f
    · rw [hnoclock hc]
    · have hw := hclock f hc w
      rw [hread f hc] at hw
      exact hw

end Unseen

end UdsIsoTp.IsoTp
