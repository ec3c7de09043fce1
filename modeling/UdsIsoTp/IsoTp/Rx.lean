import UdsIsoTp.IsoTp.Frame

/-!
# The ISO-TP receiver

`isotp_rx_*` of `isotp.c`: single, first and consecutive frames are decoded and
reassembled into `rx->buffer`; first frames and full blocks are answered with a
flow control frame, handed out through the event.

A call reads `frame->data` and writes `rx->buffer` by index. `RxOut.reads` and
`RxOut.writes` list those indices next to the accesses they belong to, so that
"inside the array" is a statement about them; nothing else looks at them.

The event is the caller's object: a call that returns before it writes a field
leaves in it what was there, so the previous contents are an argument.

`RxEffect` says once what a call of `isotp_rx_feed` can do to the receiver; the
proofs about histories start from `feed_effect` and not from the code.
-/

namespace UdsIsoTp.IsoTp

variable {ω : Type}

/-- The whole of `IsoTpRx`: the message as far as it has come. -/
structure IsoTpRx (ω : Type) where
  config : IsoTpConfig ω
  requestId : UInt32
  responseId : UInt32
  buffer : Buf
  expectedLen : Nat
  receivedLen : Nat
  nextSequence : Nat
  blockCount : Nat
  deadlineMs : UInt32
  active : Bool

/-- What a frame leads to: a message, or a flow control to send. -/
structure IsoTpRxEvent where
  payload : Option Buf
  length : Nat
  hasFlowControl : Bool
  unexpectedNPdu : Bool
  flowControl : IsoTpCanFrame

/-- What a call leaves behind, with the indices of `frame->data` it read and of
`rx->buffer` it wrote. -/
structure RxOut (ω : Type) where
  status : IsoTpStatus
  rx : IsoTpRx ω
  event : IsoTpRxEvent
  reads : List Nat := []
  writes : List Nat := []

/-- `isotp_rx_reset`: forgets the message in reception. -/
def isotpRxReset (rx : IsoTpRx ω) : IsoTpRx ω :=
  { rx with
    expectedLen := 0
    receivedLen := 0
    nextSequence := 1
    blockCount := 0
    deadlineMs := 0
    active := false }

/-- `isotp_rx_init` -/
def isotpRxInit (rx : IsoTpRx ω) (config : Option (IsoTpConfig ω))
    (requestId responseId : UInt32) : IsoTpRx ω :=
  isotpRxReset
    { rx with
      config := config.getD isotpConfigDefault
      requestId := requestId
      responseId := responseId }

/-- `make_fc`: puts a flow control into the event. -/
def makeFc (rx : IsoTpRx ω) (event : IsoTpRxEvent) (status : IsoTpFlowStatus) : IsoTpRxEvent :=
  let frame := clearFrame rx.responseId rx.config
  let dlc := if rx.config.canFd then rx.config.txDl else if rx.config.paddingEnabled then 8 else 3
  let data := frame.data.write 0 (UInt8.ofNat (0x30 ||| (status.value &&& 0x0F)))
  let data := data.write 1 (if status = .cts then rx.config.blockSize else 0)
  let data := data.write 2 (if status = .cts then rx.config.stMin else 0)
  { event with
    flowControl := { frame with dlc := dlc, data := data }
    hasFlowControl := true }

/-- `*length` and `*header` when the frame is a single frame, and the bytes looked at. -/
def decodeSf (frame : IsoTpCanFrame) : Option (Nat × Nat) × List Nat :=
  if frame.lowNibble ≠ 0 then (some (frame.lowNibble, 1), [0])
  else if ¬frame.isFd ∨ frame.dlc < 2 then (none, [0])
  else if frame.data 1 = 0 then (none, [0, 1])
  else (some ((frame.data 1).toNat, 2), [0, 1])

/-- The 32-bit length that follows an all-zero 12-bit one. -/
def escapedLength (frame : IsoTpCanFrame) : Nat :=
  ((frame.data 2).toNat <<< 24) ||| ((frame.data 3).toNat <<< 16) |||
    ((frame.data 4).toNat <<< 8) ||| (frame.data 5).toNat

/-- `decode_ff`: the length and where the data start, and what it reads for them. -/
def decodeFf (frame : IsoTpCanFrame) : Option (Nat × Nat) × List Nat :=
  if ¬frame.isFd ∨ frame.lowNibble ≠ 0 ∨ frame.data 1 ≠ 0 then
    (some ((frame.lowNibble <<< 8) ||| (frame.data 1).toNat, 2), [0, 1])
  else if frame.dlc < 6 ∨ frame.data 1 ≠ 0 then (none, [0, 1])
  else if escapedLength frame ≤ 4095 then (none, [0, 1, 2, 3, 4, 5])
  else (some (escapedLength frame, 6), [0, 1, 2, 3, 4, 5])

/-- `rx_single`: a whole message in one frame. -/
def rxSingle (rx : IsoTpRx ω) (frame : IsoTpCanFrame) (event : IsoTpRxEvent) : RxOut ω :=
  match decodeSf frame with
  | (none, reads) => { status := .errFormat, rx := rx, event := event, reads := reads }
  | (some (length, header), reads) =>
    if frame.dlc - header < length then
      { status := .errFormat, rx := rx, event := event, reads := reads }
    else if maxPayload < length then
      { status := .errOverflow, rx := rx, event := event, reads := reads }
    else
      let rx := isotpRxReset rx
      let buffer := rx.buffer.copy 0 frame.data header length
      { status := .complete
        rx := { rx with buffer := buffer }
        event := { event with payload := some buffer, length := length }
        reads := reads ++ List.range' header length
        writes := List.range' 0 length }

/-- `rx_first`: the first piece of a longer message, which is answered by a flow control. -/
def rxFirst (rx : IsoTpRx ω) (frame : IsoTpCanFrame) (now : UInt32) (event : IsoTpRxEvent) :
    RxOut ω :=
  if frame.dlc < 2 then { status := .errFormat, rx := rx, event := event }
  else if ¬rx.config.canFd ∧ frame.dlc < 8 then
    { status := .errFormat, rx := rx, event := event }
  else
    match decodeFf frame with
    | (none, reads) => { status := .errFormat, rx := rx, event := event, reads := reads }
    | (some (length, header), reads) =>
      if length ≤ 7 then { status := .errFormat, rx := rx, event := event, reads := reads }
      else if maxPayload < length then
        { status := .errOverflow
          rx := isotpRxReset rx
          event := makeFc rx event .overflow
          reads := reads }
      else
        let received := min (frame.dlc - header) length
        let buffer := rx.buffer.copy 0 frame.data header received
        let rx := { rx with
          expectedLen := length
          receivedLen := received
          buffer := buffer
          nextSequence := 1
          blockCount := 0
          deadlineMs := deadline now rx.config.rxTimeoutMs
          active := decide (received < length) }
        let reads := reads ++ List.range' header received
        let writes := List.range' 0 received
        if ¬rx.active then
          { status := .complete
            rx := rx
            event := { event with payload := some rx.buffer, length := rx.expectedLen }
            reads := reads
            writes := writes }
        else
          { status := .needFlowControl
            rx := rx
            event := makeFc rx event .cts
            reads := reads
            writes := writes }

/-- `rx_consecutive`: the next piece, and the message when it was the last. -/
def rxConsecutive (rx : IsoTpRx ω) (frame : IsoTpCanFrame) (now : UInt32)
    (event : IsoTpRxEvent) : RxOut ω :=
  if ¬rx.active then { status := .errState, rx := rx, event := event }
  else if frame.dlc < 1 then { status := .errFormat, rx := rx, event := event }
  else if frame.lowNibble ≠ rx.nextSequence then
    { status := .errSequence, rx := isotpRxReset rx, event := event, reads := [0] }
  else if ¬rx.config.canFd ∧ frame.dlc - 1 < rx.expectedLen - rx.receivedLen ∧ frame.dlc < 8 then
    { status := .errFormat, rx := isotpRxReset rx, event := event, reads := [0] }
  else
    let copyLen := min (frame.dlc - 1) (rx.expectedLen - rx.receivedLen)
    let reads := 0 :: List.range' 1 copyLen
    let writes := List.range' rx.receivedLen copyLen
    let rx := { rx with
      buffer := rx.buffer.copy rx.receivedLen frame.data 1 copyLen
      receivedLen := rx.receivedLen + copyLen
      nextSequence := (rx.nextSequence + 1) % 16
      blockCount := (rx.blockCount + 1) % 256
      deadlineMs := deadline now rx.config.rxTimeoutMs }
    if rx.expectedLen ≤ rx.receivedLen then
      { status := .complete
        rx := { rx with active := false }
        event := { event with payload := some rx.buffer, length := rx.expectedLen }
        reads := reads
        writes := writes }
    else if rx.config.blockSize ≠ 0 ∧ rx.config.blockSize.toNat ≤ rx.blockCount then
      { status := .needFlowControl
        rx := { rx with blockCount := 0 }
        event := makeFc rx event .cts
        reads := reads
        writes := writes }
    else { status := .ok, rx := rx, event := event, reads := reads, writes := writes }

/-- Whether a new message begins on top of one in reception, under full duplex. -/
def isUnexpectedNPdu (rx : IsoTpRx ω) (type : Nat) : Bool :=
  rx.active && rx.config.fullDuplex && (type == 0 || type == 1)

/-- The `switch` of `isotp_rx_feed`. -/
def rxDispatch (rx : IsoTpRx ω) (frame : IsoTpCanFrame) (now : UInt32) (event : IsoTpRxEvent) :
    RxOut ω :=
  match frame.highNibble with
  | 0 => rxSingle rx frame event
  | 1 => rxFirst rx frame now event
  | 2 => rxConsecutive rx frame now event
  | type =>
    if rx.config.fullDuplex ∧ rx.active then { status := .ok, rx := rx, event := event }
    else if type = 3 then { status := .errState, rx := rx, event := event }
    else { status := .errFormat, rx := rx, event := event }

/-- The fields of the event that every accepted call clears first. -/
def clearEvent (event : IsoTpRxEvent) : IsoTpRxEvent :=
  { event with payload := none, length := 0, hasFlowControl := false, unexpectedNPdu := false }

/-- `isotp_rx_feed`: tells the kinds of frame apart. -/
def isotpRxFeed (rx : IsoTpRx ω) (frame : IsoTpCanFrame) (now : UInt32)
    (event : IsoTpRxEvent) : RxOut ω :=
  if ¬frameValid rx.config frame then { status := .errArgument, rx := rx, event := event }
  else if frame.canId ≠ rx.requestId then
    { status := .ok, rx := rx, event := clearEvent event }
  else
    let out :=
      if isUnexpectedNPdu rx frame.highNibble then
        rxDispatch (isotpRxReset rx) frame now { clearEvent event with unexpectedNPdu := true }
      else rxDispatch rx frame now (clearEvent event)
    { out with reads := 0 :: out.reads }

/-- `isotp_rx_tick` -/
def isotpRxTick (rx : IsoTpRx ω) (now : UInt32) : IsoTpStatus × IsoTpRx ω :=
  if ¬rx.active then (.ok, rx)
  else if expired now rx.deadlineMs then (.errTimeout, isotpRxReset rx)
  else (.ok, rx)

/-! ## What the decoders accept -/

theorem decodeSf_some {frame : IsoTpCanFrame} {length header : Nat} (hdlc : 1 ≤ frame.dlc)
    (h : (decodeSf frame).1 = some (length, header)) :
    1 ≤ length ∧ length ≤ 255 ∧ header ≤ frame.dlc ∧ 1 ≤ header := by
  have hlow := lowNibble_lt frame
  have hbyte := (frame.data 1).toNat_lt
  unfold decodeSf at h
  split at h
  next hne =>
    simp only [Option.some.injEq, Prod.mk.injEq] at h
    omega
  next =>
    split at h
    next => simp at h
    next hfd =>
      split at h
      next => simp at h
      next hzero =>
        simp only [Option.some.injEq, Prod.mk.injEq] at h
        have hpos : (frame.data 1).toNat ≠ 0 := fun h0 => hzero (UInt8.toNat_inj.mp h0)
        omega

/-- The header of a first frame lies inside the frame. -/
theorem decodeFf_some {frame : IsoTpCanFrame} {length header : Nat} (hdlc : 2 ≤ frame.dlc)
    (h : (decodeFf frame).1 = some (length, header)) : header ≤ frame.dlc := by
  unfold decodeFf at h
  split at h
  next =>
    simp only [Option.some.injEq, Prod.mk.injEq] at h
    omega
  next =>
    split at h
    next => simp at h
    next hlong =>
      split at h
      next => simp at h
      next =>
        simp only [Option.some.injEq, Prod.mk.injEq] at h
        omega

/-! ## What a call can do -/

/-- The five things a call of `isotp_rx_feed` can do to the receiver: ignore the
frame, abandon what was being received, deliver a single frame, start a message,
or take the next piece of one. -/
inductive RxEffect (rx : IsoTpRx ω) (frame : IsoTpCanFrame) : RxOut ω → Prop
  | ignored {out : RxOut ω} (hrx : out.rx = rx)
      (hstatus : out.status ≠ .complete ∧ out.status ≠ .needFlowControl ∧
        out.status ≠ .errSequence)
      (hok : out.status = .ok → frame.canId = rx.requestId → frame.highNibble ≠ 2) :
      RxEffect rx frame out
  | abandoned {out : RxOut ω} (hactive : out.rx.active = false)
      (hstatus : out.status ≠ .complete) : RxEffect rx frame out
  | single {out : RxOut ω} {length header : Nat} (hid : frame.canId = rx.requestId)
      (htype : frame.highNibble = 0) (hsf : (decodeSf frame).1 = some (length, header))
      (hfit : header + length ≤ frame.dlc) (hactive : out.rx.active = false)
      (hstatus : out.status = .complete) (hpayload : out.event.payload = some out.rx.buffer)
      (hlength : out.event.length = length)
      (hbytes : out.rx.buffer.slice 0 length = frame.data.slice header length) :
      RxEffect rx frame out
  | first {out : RxOut ω} {length header : Nat} (hid : frame.canId = rx.requestId)
      (htype : frame.highNibble = 1) (hff : (decodeFf frame).1 = some (length, header))
      (hheader : header ≤ frame.dlc) (hlong : 7 < length) (hmax : length ≤ maxPayload)
      (hexpected : out.rx.expectedLen = length)
      (hreceived : out.rx.receivedLen = min (frame.dlc - header) length)
      (hsequence : out.rx.nextSequence = 1)
      (hactive : out.rx.active = decide (out.rx.receivedLen < length))
      (hbytes : out.rx.buffer.slice 0 out.rx.receivedLen
        = frame.data.slice header out.rx.receivedLen)
      (hstatus : out.status = if out.rx.receivedLen < length then .needFlowControl else .complete)
      (hevent : ¬out.rx.receivedLen < length →
        out.event.payload = some out.rx.buffer ∧ out.event.length = length) :
      RxEffect rx frame out
  | consecutive {out : RxOut ω} (hid : frame.canId = rx.requestId)
      (htype : frame.highNibble = 2) (hwas : rx.active = true)
      (hsequence : frame.lowNibble = rx.nextSequence)
      (hexpected : out.rx.expectedLen = rx.expectedLen)
      (hreceived : out.rx.receivedLen
        = rx.receivedLen + min (frame.dlc - 1) (rx.expectedLen - rx.receivedLen))
      (hnext : out.rx.nextSequence = (rx.nextSequence + 1) % 16)
      (hbytes : out.rx.buffer.slice 0 out.rx.receivedLen
        = rx.buffer.slice 0 rx.receivedLen
          ++ frame.data.slice 1 (min (frame.dlc - 1) (rx.expectedLen - rx.receivedLen)))
      (hactive : out.rx.active = decide (out.rx.receivedLen < rx.expectedLen))
      (hstatus : (out.status = .complete ∧ rx.expectedLen ≤ out.rx.receivedLen) ∨
        ((out.status = .ok ∨ out.status = .needFlowControl) ∧
          out.rx.receivedLen < rx.expectedLen))
      (hevent : out.status = .complete →
        out.event.payload = some out.rx.buffer ∧ out.event.length = rx.expectedLen) :
      RxEffect rx frame out

/-- The effect does not depend on the indices the call reports. -/
theorem RxEffect.of_reads {rx : IsoTpRx ω} {frame : IsoTpCanFrame} {out : RxOut ω}
    (reads : List Nat) (h : RxEffect rx frame out) :
    RxEffect rx frame { out with reads := reads } := by
  cases h with
  | ignored hrx hstatus hok => exact .ignored hrx hstatus hok
  | abandoned hactive hstatus => exact .abandoned hactive hstatus
  | single hid htype hsf hfit hactive hstatus hpayload hlength hbytes =>
    exact .single hid htype hsf hfit hactive hstatus hpayload hlength hbytes
  | first hid htype hff hheader hlong hmax hexpected hreceived hsequence hactive hbytes hstatus
      hevent =>
    exact .first hid htype hff hheader hlong hmax hexpected hreceived hsequence hactive hbytes
      hstatus hevent
  | consecutive hid htype hwas hsequence hexpected hreceived hnext hbytes hactive hstatus hevent =>
    exact .consecutive hid htype hwas hsequence hexpected hreceived hnext hbytes hactive hstatus
      hevent

theorem rxSingle_effect {rx : IsoTpRx ω} {frame : IsoTpCanFrame} {event : IsoTpRxEvent}
    (hid : frame.canId = rx.requestId) (htype : frame.highNibble = 0) (hdlc : 1 ≤ frame.dlc) :
    RxEffect rx frame (rxSingle rx frame event) := by
  unfold rxSingle
  split
  next => exact .ignored rfl (by simp) (by simp)
  next length header reads hsf =>
    have hsf' : (decodeSf frame).1 = some (length, header) := by rw [hsf]
    have hbound := decodeSf_some hdlc hsf'
    split
    next => exact .ignored rfl (by simp) (by simp)
    next hfit =>
      split
      next => exact .ignored rfl (by simp) (by simp)
      next =>
        exact .single hid htype hsf' (by omega) rfl rfl rfl rfl (Buf.slice_copy_self ..)

theorem rxFirst_effect {rx : IsoTpRx ω} {frame : IsoTpCanFrame} {now : UInt32}
    {event : IsoTpRxEvent} (hid : frame.canId = rx.requestId) (htype : frame.highNibble = 1) :
    RxEffect rx frame (rxFirst rx frame now event) := by
  unfold rxFirst
  split
  next => exact .ignored rfl (by simp) (by simp)
  next hdlc =>
    split
    next => exact .ignored rfl (by simp) (by simp)
    next =>
      split
      next => exact .ignored rfl (by simp) (by simp)
      next length header reads hff =>
        have hff' : (decodeFf frame).1 = some (length, header) := by rw [hff]
        have hheader := decodeFf_some (by omega) hff'
        split
        next => exact .ignored rfl (by simp) (by simp)
        next hlong =>
          split
          next => exact .abandoned rfl (by simp)
          next hmax =>
            dsimp only
            split
            next hdone =>
              have hdone' : ¬min (frame.dlc - header) length < length := by simpa using hdone
              exact .first hid htype hff' hheader (by omega) (by omega) rfl rfl rfl rfl
                (Buf.slice_copy_self ..) (if_neg hdone').symm fun _ => ⟨rfl, rfl⟩
            next hmore =>
              have hmore' : min (frame.dlc - header) length < length := by simpa using hmore
              exact .first hid htype hff' hheader (by omega) (by omega) rfl rfl rfl rfl
                (Buf.slice_copy_self ..) (if_pos hmore').symm fun hno => absurd hmore' hno

theorem rxConsecutive_effect {rx : IsoTpRx ω} {frame : IsoTpCanFrame} {now : UInt32}
    {event : IsoTpRxEvent} (hid : frame.canId = rx.requestId) (htype : frame.highNibble = 2) :
    RxEffect rx frame (rxConsecutive rx frame now event) := by
  unfold rxConsecutive
  split
  next => exact .ignored rfl (by simp) (by simp)
  next hactive =>
    have hwas : rx.active = true := by simpa using hactive
    split
    next => exact .ignored rfl (by simp) (by simp)
    next =>
      split
      next => exact .abandoned rfl (by simp)
      next hseq =>
        have hseq' : frame.lowNibble = rx.nextSequence := by simpa using hseq
        split
        next => exact .abandoned rfl (by simp)
        next =>
          dsimp only
          have hbytes := Buf.slice_copy_append rx.buffer frame.data rx.receivedLen 1
            (min (frame.dlc - 1) (rx.expectedLen - rx.receivedLen))
          split
          next hdone =>
            exact .consecutive hid htype hwas hseq' rfl rfl rfl hbytes
              (by simpa using hdone) (.inl ⟨rfl, hdone⟩) fun _ => ⟨rfl, rfl⟩
          next hmore =>
            have hlt := Nat.lt_of_not_le hmore
            have hstill : rx.active = decide (rx.receivedLen +
                min (frame.dlc - 1) (rx.expectedLen - rx.receivedLen) < rx.expectedLen) := by
              rw [hwas, decide_eq_true hlt]
            split
            next =>
              exact .consecutive hid htype hwas hseq' rfl rfl rfl hbytes hstill
                (.inr ⟨.inr rfl, hlt⟩) (by simp)
            next =>
              exact .consecutive hid htype hwas hseq' rfl rfl rfl hbytes hstill
                (.inr ⟨.inl rfl, hlt⟩) (by simp)

theorem rxDispatch_effect {rx : IsoTpRx ω} {frame : IsoTpCanFrame} {now : UInt32}
    {event : IsoTpRxEvent} (hid : frame.canId = rx.requestId) (hdlc : 1 ≤ frame.dlc) :
    RxEffect rx frame (rxDispatch rx frame now event) := by
  unfold rxDispatch
  split
  next htype => exact rxSingle_effect hid htype hdlc
  next htype => exact rxFirst_effect hid htype
  next htype => exact rxConsecutive_effect hid htype
  next hne2 =>
    split
    next => exact .ignored rfl (by simp) fun _ _ => hne2
    next =>
      split
      next => exact .ignored rfl (by simp) (by simp)
      next => exact .ignored rfl (by simp) (by simp)

/-- In full-duplex mode an unexpected single or first frame first resets the
receiver; if it is then rejected, what was being received is gone. -/
theorem RxEffect.of_reset {rx : IsoTpRx ω} {frame : IsoTpCanFrame} {out : RxOut ω}
    (htype : frame.highNibble ≠ 2) (h : RxEffect (isotpRxReset rx) frame out) :
    RxEffect rx frame out := by
  cases h with
  | ignored hrx hstatus hok => exact .abandoned (by rw [hrx]; rfl) hstatus.1
  | abandoned hactive hstatus => exact .abandoned hactive hstatus
  | single hid htype hsf hfit hactive hstatus hpayload hlength hbytes =>
    exact .single hid htype hsf hfit hactive hstatus hpayload hlength hbytes
  | first hid htype hff hheader hlong hmax hexpected hreceived hsequence hactive hbytes hstatus
      hevent =>
    exact .first hid htype hff hheader hlong hmax hexpected hreceived hsequence hactive hbytes
      hstatus hevent
  | consecutive hid htype' => exact absurd htype' htype

/-- What a call of `isotp_rx_feed` does is one of the five effects. -/
theorem feed_effect (rx : IsoTpRx ω) (frame : IsoTpCanFrame) (now : UInt32)
    (event : IsoTpRxEvent) : RxEffect rx frame (isotpRxFeed rx frame now event) := by
  unfold isotpRxFeed
  split
  next => exact .ignored rfl (by simp) (by simp)
  next hvalid =>
    have hdlc := (dlc_bounds (by simpa using hvalid)).1
    split
    next hid => exact .ignored rfl (by simp) fun _ heq => absurd heq hid
    next hid =>
      have hid' : frame.canId = rx.requestId := by simpa using hid
      dsimp only
      split
      next hunexpected =>
        have htype : frame.highNibble ≠ 2 := by
          intro h2
          simp [isUnexpectedNPdu, h2] at hunexpected
        exact (RxEffect.of_reset htype (rxDispatch_effect hid' hdlc)).of_reads _
      next => exact (rxDispatch_effect hid' hdlc).of_reads _

/-! ## The indices a call touches -/

/-- All indices of the list lie below the bound. -/
def Below (n : Nat) (indices : List Nat) : Prop := ∀ i ∈ indices, i < n

theorem below_nil (n : Nat) : Below n [] := by simp [Below]

theorem below_range' {n start len : Nat} (h : start + len ≤ n) :
    Below n (List.range' start len) := by
  intro i hi
  have := List.mem_range'_1.mp hi
  omega

theorem Below.append {n : Nat} {xs ys : List Nat} (hx : Below n xs) (hy : Below n ys) :
    Below n (xs ++ ys) := by
  intro i hi
  rcases List.mem_append.mp hi with h | h
  · exact hx i h
  · exact hy i h

theorem Below.cons {n x : Nat} {xs : List Nat} (hx : x < n) (hxs : Below n xs) :
    Below n (x :: xs) := by
  intro i hi
  rcases List.mem_cons.mp hi with rfl | h
  · exact hx
  · exact hxs i h

theorem decodeSf_reads {frame : IsoTpCanFrame} (hdlc : 1 ≤ frame.dlc) :
    Below frame.dlc (decodeSf frame).2 := by
  unfold decodeSf
  have hfirst : Below frame.dlc [0] := (below_nil _).cons (by omega)
  split
  next => exact hfirst
  next =>
    split
    next => exact hfirst
    next hfd =>
      have hboth : Below frame.dlc [0, 1] := ((below_nil _).cons (by omega)).cons (by omega)
      split
      next => exact hboth
      next => exact hboth

theorem decodeFf_reads {frame : IsoTpCanFrame} (hdlc : 2 ≤ frame.dlc) :
    Below frame.dlc (decodeFf frame).2 := by
  unfold decodeFf
  have hboth : Below frame.dlc [0, 1] := ((below_nil _).cons (by omega)).cons (by omega)
  split
  next => exact hboth
  next =>
    split
    next => exact hboth
    next hlong =>
      have hsix : Below frame.dlc [0, 1, 2, 3, 4, 5] := by
        intro i hi
        simp only [List.mem_cons, List.not_mem_nil, or_false] at hi
        omega
      split
      next => exact hsix
      next => exact hsix

theorem rxSingle_indices {rx : IsoTpRx ω} {frame : IsoTpCanFrame} {event : IsoTpRxEvent}
    (hdlc : 1 ≤ frame.dlc) :
    Below frame.dlc (rxSingle rx frame event).reads ∧
      Below maxPayload (rxSingle rx frame event).writes := by
  unfold rxSingle
  have hreads := decodeSf_reads hdlc
  split
  next reads hsf =>
    rw [hsf] at hreads
    exact ⟨hreads, below_nil _⟩
  next length header reads hsf =>
    have hbound := decodeSf_some hdlc (by rw [hsf])
    rw [hsf] at hreads
    split
    next => exact ⟨hreads, below_nil _⟩
    next =>
      split
      next => exact ⟨hreads, below_nil _⟩
      next => exact ⟨hreads.append (below_range' (by omega)), below_range' (by omega)⟩

theorem rxFirst_indices {rx : IsoTpRx ω} {frame : IsoTpCanFrame} {now : UInt32}
    {event : IsoTpRxEvent} :
    Below frame.dlc (rxFirst rx frame now event).reads ∧
      Below maxPayload (rxFirst rx frame now event).writes := by
  unfold rxFirst
  split
  next => exact ⟨below_nil _, below_nil _⟩
  next hdlc =>
    split
    next => exact ⟨below_nil _, below_nil _⟩
    next =>
      have hreads := decodeFf_reads (show 2 ≤ frame.dlc by omega)
      split
      next reads hff =>
        rw [hff] at hreads
        exact ⟨hreads, below_nil _⟩
      next length header reads hff =>
        have hheader := decodeFf_some (show 2 ≤ frame.dlc by omega) (by rw [hff])
        rw [hff] at hreads
        split
        next => exact ⟨hreads, below_nil _⟩
        next =>
          split
          next => exact ⟨hreads, below_nil _⟩
          next =>
            have hcopy := hreads.append (below_range'
              (show header + min (frame.dlc - header) length ≤ frame.dlc by omega))
            have hwrite : Below maxPayload
                (List.range' 0 (min (frame.dlc - header) length)) := below_range' (by omega)
            dsimp only
            split
            next => exact ⟨hcopy, hwrite⟩
            next => exact ⟨hcopy, hwrite⟩

theorem rxConsecutive_indices {rx : IsoTpRx ω} {frame : IsoTpCanFrame} {now : UInt32}
    {event : IsoTpRxEvent}
    (hrx : rx.active = true → rx.receivedLen < rx.expectedLen ∧ rx.expectedLen ≤ maxPayload) :
    Below frame.dlc (rxConsecutive rx frame now event).reads ∧
      Below maxPayload (rxConsecutive rx frame now event).writes := by
  unfold rxConsecutive
  split
  next => exact ⟨below_nil _, below_nil _⟩
  next hactive =>
    obtain ⟨hlt, hmax⟩ := hrx (by simpa using hactive)
    split
    next => exact ⟨below_nil _, below_nil _⟩
    next hdlc =>
      have hfirst : Below frame.dlc [0] := (below_nil _).cons (by omega)
      split
      next => exact ⟨hfirst, below_nil _⟩
      next =>
        split
        next => exact ⟨hfirst, below_nil _⟩
        next =>
          have hcopy : Below frame.dlc (0 :: List.range' 1
              (min (frame.dlc - 1) (rx.expectedLen - rx.receivedLen))) :=
            (below_range' (by omega)).cons (by omega)
          have hwrite : Below maxPayload (List.range' rx.receivedLen
              (min (frame.dlc - 1) (rx.expectedLen - rx.receivedLen))) :=
            below_range' (by omega)
          dsimp only
          split
          next => exact ⟨hcopy, hwrite⟩
          next =>
            split
            next => exact ⟨hcopy, hwrite⟩
            next => exact ⟨hcopy, hwrite⟩

theorem rxDispatch_indices {rx : IsoTpRx ω} {frame : IsoTpCanFrame} (now : UInt32)
    (event : IsoTpRxEvent) (hdlc : 1 ≤ frame.dlc)
    (hrx : rx.active = true → rx.receivedLen < rx.expectedLen ∧ rx.expectedLen ≤ maxPayload) :
    Below frame.dlc (rxDispatch rx frame now event).reads ∧
      Below maxPayload (rxDispatch rx frame now event).writes := by
  unfold rxDispatch
  split
  next => exact rxSingle_indices hdlc
  next => exact rxFirst_indices
  next => exact rxConsecutive_indices hrx
  next =>
    split
    next => exact ⟨below_nil _, below_nil _⟩
    next =>
      split
      next => exact ⟨below_nil _, below_nil _⟩
      next => exact ⟨below_nil _, below_nil _⟩

/-- A call reads inside the frame and, when what is being received fits the
buffer, writes inside the buffer. -/
theorem feed_indices {rx : IsoTpRx ω} (frame : IsoTpCanFrame) (now : UInt32)
    (event : IsoTpRxEvent)
    (hrx : rx.active = true → rx.receivedLen < rx.expectedLen ∧ rx.expectedLen ≤ maxPayload) :
    Below frame.dlc (isotpRxFeed rx frame now event).reads ∧
      Below maxPayload (isotpRxFeed rx frame now event).writes := by
  unfold isotpRxFeed
  split
  next => exact ⟨below_nil _, below_nil _⟩
  next hvalid =>
    have hdlc := (dlc_bounds (by simpa using hvalid)).1
    split
    next => exact ⟨below_nil _, below_nil _⟩
    next =>
      dsimp only
      split
      next =>
        have hreset : (isotpRxReset rx).active = true → (isotpRxReset rx).receivedLen
            < (isotpRxReset rx).expectedLen ∧ (isotpRxReset rx).expectedLen ≤ maxPayload :=
          fun h => Bool.noConfusion h
        obtain ⟨hr, hw⟩ := rxDispatch_indices now
          { clearEvent event with unexpectedNPdu := true } hdlc hreset
        exact ⟨hr.cons hdlc, hw⟩
      next =>
        obtain ⟨hr, hw⟩ := rxDispatch_indices now (clearEvent event) hdlc hrx
        exact ⟨hr.cons hdlc, hw⟩

end UdsIsoTp.IsoTp
