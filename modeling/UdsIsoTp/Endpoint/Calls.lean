import UdsIsoTp.Endpoint.Endpoint
import UdsIsoTp.Lib.Run

/-!
# What a call does to the endpoint

`receive` and `process` decide among many branches; here each branch is said once.
`receive_cases` splits a received frame into flow control, a frame that ends no request,
and a request that the server answers; `process_cases` follows the order in which
`process` looks for work. `startResponse_cases` is the choice between the transmitter,
the queue and neither.

`requestOf` is the request that a frame completes, if any, from the state before the
call: the properties of runs are stated with it.
-/

namespace UdsIsoTp.Endpoint

open UdsIsoTp.IsoTp UdsIsoTp.Uds

variable {ω : Type} {e : UdsIsoTpEndpoint ω} {w : ω} {now : UInt32}

/-! ## Starting a response -/

/-- A transmitter that does not start keeps what it had. -/
theorem start_refused {tx : IsoTpTx ω} {payload : List UInt8} {frame : IsoTpCanFrame}
    (h : (isotpTxStart tx payload now frame).status ≠ .txFrameReady) :
    (isotpTxStart tx payload now frame).tx = tx ∧
      (isotpTxStart tx payload now frame).frame = frame := by
  unfold isotpTxStart at h ⊢
  split
  next => exact ⟨rfl, rfl⟩
  next hargs =>
    split
    next => exact ⟨rfl, rfl⟩
    next hfits =>
      exfalso
      apply h
      rw [if_neg hargs, if_neg hfits]
      dsimp only
      split <;> rfl

/-- The endpoint with a response in the queue. -/
def queueResponse (e : UdsIsoTpEndpoint ω) (response : Buf) (responseLength : UInt16)
    (resetCompletion : Bool) : UdsIsoTpEndpoint ω :=
  { e with
    queuedResponse := e.queuedResponse.copy 0 response 0 responseLength.toNat
    queuedResponseLength := responseLength
    queuedResponsePending := true
    queuedResetCompletion := resetCompletion }

/-- The endpoint with the first frame of a response pending. -/
def beginResponse (e : UdsIsoTpEndpoint ω) (out : TxOut ω) (resetCompletion : Bool) :
    UdsIsoTpEndpoint ω :=
  { e with
    tx := out.tx
    pendingFrame := out.frame
    txPending := true
    pendingFrameFinal := decide (out.tx.state = .idle)
    pendingResetCompletion := resetCompletion
    txResetCompletion := resetCompletion }

/-- The three fates of a response: the transmitter takes it, the queue takes it, or it is
lost. -/
inductive StartEffect (e : UdsIsoTpEndpoint ω) (response : Buf) (responseLength : UInt16)
    (resetCompletion : Bool) (now : UInt32) : IsoTpStatus × UdsIsoTpEndpoint ω → Prop
  | begun (free : TxFree e)
      (ready : (isotpTxStart e.tx (response.slice 0 responseLength.toNat) now
        e.pendingFrame).status = .txFrameReady) :
      StartEffect e response responseLength resetCompletion now (.txFrameReady,
        beginResponse e (isotpTxStart e.tx (response.slice 0 responseLength.toNat) now
          e.pendingFrame) resetCompletion)
  | queued (busy : ¬TxFree e) (room : e.queuedResponsePending = false) :
      StartEffect e response responseLength resetCompletion now
        (.txFrameReady, queueResponse e response responseLength resetCompletion)
  | full (busy : ¬TxFree e) (occupied : e.queuedResponsePending = true) :
      StartEffect e response responseLength resetCompletion now (.errState, e)
  | refused {status} (free : TxFree e)
      (failed : (isotpTxStart e.tx (response.slice 0 responseLength.toNat) now
        e.pendingFrame).status ≠ .txFrameReady) (hstatus : status ≠ .txFrameReady) :
      StartEffect e response responseLength resetCompletion now (status, e)

theorem startResponse_cases (e : UdsIsoTpEndpoint ω) (response : Buf) (responseLength : UInt16)
    (resetCompletion : Bool) (now : UInt32) :
    StartEffect e response responseLength resetCompletion now
      (startResponse e response responseLength resetCompletion now) := by
  unfold startResponse
  split
  next hbusy =>
    split
    next hoccupied => exact .full hbusy hoccupied
    next hroom => exact .queued hbusy (by simpa using hroom)
  next hfree =>
    replace hfree := not_not.mp hfree
    dsimp only
    split
    next hfailed =>
      obtain ⟨htx, hframe⟩ := start_refused hfailed
      rw [htx, hframe]
      exact .refused hfree hfailed hfailed
    next hready =>
      replace hready := not_not.mp hready
      rw [hready]
      exact .begun hfree hready

/-- A response of at most seven bytes is one frame. -/
theorem start_short {tx : IsoTpTx ω} {payload : List UInt8} {frame : IsoTpCanFrame}
    (hvalid : validTxConfig tx.config = true) (hpos : 1 ≤ payload.length)
    (hshort : payload.length ≤ 7) :
    isotpTxStart tx payload now frame = ⟨.txFrameReady, isotpTxReset (txLoad tx payload now),
      txShortFrame (txLoad tx payload now) payload⟩ := by
  have hargs : ¬(payload.length = 0 ∨ ¬validTxConfig tx.config) := by
    rintro (h | h)
    · omega
    · exact h hvalid
  have hfits : ¬maxPayload < payload.length := by
    unfold maxPayload
    omega
  unfold isotpTxStart
  rw [if_neg hargs, if_neg hfits]
  simp only [txBuildSf, if_pos hshort]

/-! ## Receiving -/

/-- The request that the frame completes and the server is about to see. -/
def requestOf (e : UdsIsoTpEndpoint ω) (frame : IsoTpCanFrame) (event : IsoTpRxEvent)
    (now : UInt32) : Option (List UInt8 × UdsAddressMode) :=
  if frame.dlc = 0 ∨ isFlowControlForEndpoint e frame ∨ responseResetPending e.uds ∨
      (frameIsFunctional e frame ∧ frame.highNibble ≠ 0) then none
  else
    let out := isotpRxFeed e.rx (networkFrame e frame).1 now event
    if (out.event.hasFlowControl ∧ e.controlPending) ∨ out.status ≠ .complete ∨
        65535 < out.event.length then none
    else
      some ((out.event.payload.map fun payload => payload.slice 0 out.event.length).getD [],
        (networkFrame e frame).2)

/-- The endpoint once the receiver has taken a frame. -/
def received (e : UdsIsoTpEndpoint ω) (rx : IsoTpRx ω) (control : IsoTpCanFrame)
    (controlPending : Bool) : UdsIsoTpEndpoint ω :=
  { e with rx := rx, pendingControlFrame := control, controlPending := controlPending }

/-- The answer to a request, on its way out. -/
def answered (e : UdsIsoTpEndpoint ω) (request : List UInt8) (mode : UdsAddressMode)
    (now : UInt32) (w : ω) : EndpointOut ω :=
  deliverAnswer
    { e with
      uds := (endpointServe e request mode now w).2.server
      response := (endpointServe e request mode now w).2.response }
    (endpointServe e request mode now w)
    (!e.uds.resetPending && responseResetPending (endpointServe e request mode now w).2.server)
    now

/-- What a received frame can do. -/
inductive ReceiveEffect (e : UdsIsoTpEndpoint ω) (frame : IsoTpCanFrame) (event : IsoTpRxEvent)
    (now : UInt32) (w : ω) : EndpointOut ω → Prop
  /-- It is dropped. -/
  | dropped {status} (none : requestOf e frame event now = none) :
      ReceiveEffect e frame event now w (status, e, w)
  /-- It is flow control. -/
  | flow (none : requestOf e frame event now = none) :
      ReceiveEffect e frame event now w
        ((isotpTxFeedFlowControl e.tx frame now w).1,
          { e with tx := (isotpTxFeedFlowControl e.tx frame now w).2.1 },
          (isotpTxFeedFlowControl e.tx frame now w).2.2)
  /-- The receiver takes it and has no request yet. -/
  | part {status rx control controlPending} (none : requestOf e frame event now = none) :
      ReceiveEffect e frame event now w (status, received e rx control controlPending, w)
  /-- It completes a request. -/
  | request {rx control controlPending request mode}
      (some : requestOf e frame event now = some (request, mode))
      (awake : responseResetPending e.uds = false) :
      ReceiveEffect e frame event now w
        (answered (received e rx control controlPending) request mode now w)

theorem receiveRequest_cases (frame : IsoTpCanFrame) (event : IsoTpRxEvent)
    (hframe : ¬(frame.dlc = 0 ∨ isFlowControlForEndpoint e frame ∨ responseResetPending e.uds ∨
      (frameIsFunctional e frame ∧ frame.highNibble ≠ 0))) :
    ReceiveEffect e frame event now w (receiveRequest e frame event now w) := by
  have hawake : responseResetPending e.uds = false := by
    by_contra hdeaf
    exact hframe (.inr (.inr (.inl (by simpa using hdeaf))))
  have hrequest : ∀ {r}, requestOf e frame event now = r ↔
      (if ((isotpRxFeed e.rx (networkFrame e frame).1 now event).event.hasFlowControl ∧
          e.controlPending) ∨
          (isotpRxFeed e.rx (networkFrame e frame).1 now event).status ≠ .complete ∨
          65535 < (isotpRxFeed e.rx (networkFrame e frame).1 now event).event.length then none
        else some
          (((isotpRxFeed e.rx (networkFrame e frame).1 now event).event.payload.map
            fun payload => payload.slice 0
              (isotpRxFeed e.rx (networkFrame e frame).1 now event).event.length).getD [],
          (networkFrame e frame).2)) = r := by
    intro r
    unfold requestOf
    rw [if_neg hframe]
  unfold receiveRequest
  dsimp only
  generalize isotpRxFeed e.rx (networkFrame e frame).1 now event = out at hrequest ⊢
  -- Once any flow control of the receiver's has its place, only the status and the length count.
  have htaken : ∀ {control controlPending},
      ¬(out.event.hasFlowControl ∧ e.controlPending) →
      ReceiveEffect e frame event now w
        (if out.status ≠ .complete then
          (out.status, received e out.rx control controlPending, w)
        else handleRxCompletion (received e out.rx control controlPending) out.event
          (networkFrame e frame).2 now w) := by
    intro control controlPending hplace
    unfold handleRxCompletion
    split
    next hstatus => exact .part (hrequest.mpr (if_pos (.inr (.inl hstatus))))
    next hstatus =>
      split
      next hlong => exact .part (hrequest.mpr (if_pos (.inr (.inr hlong))))
      next hlong =>
        refine .request (hrequest.mpr (if_neg ?_)) hawake
        rintro (hfull | hbad | hbad)
        · exact hplace hfull
        · exact hstatus hbad
        · exact hlong hbad
  unfold queueControlFrame
  split
  next hflow =>
    split
    next hoccupied =>
      rw [if_pos (by simp)]
      exact .part (hrequest.mpr (if_pos (.inl ⟨hflow, hoccupied⟩)))
    next hroom =>
      rw [if_neg (by simp)]
      exact htaken fun hfull => hroom hfull.2
  next hflow => exact htaken fun hfull => hflow hfull.1

theorem receive_cases (e : UdsIsoTpEndpoint ω) (frame : IsoTpCanFrame) (event : IsoTpRxEvent)
    (now : UInt32) (w : ω) :
    ReceiveEffect e frame event now w (udsIsotpEndpointReceive e frame event now w) := by
  have hnone : ∀ {p : Prop}, p → (p → frame.dlc = 0 ∨ isFlowControlForEndpoint e frame ∨
      responseResetPending e.uds ∨ (frameIsFunctional e frame ∧ frame.highNibble ≠ 0)) →
      requestOf e frame event now = none := fun hp hcond => if_pos (hcond hp)
  unfold udsIsotpEndpointReceive
  split
  next hdlc => exact .dropped (hnone hdlc .inl)
  next hdlc =>
    split
    next hflow =>
      split
      next => exact .dropped (hnone hflow fun h => .inr (.inl h))
      next => exact .flow (hnone hflow fun h => .inr (.inl h))
    next hflow =>
      split
      next hdeaf => exact .dropped (hnone hdeaf fun h => .inr (.inr (.inl h)))
      next hawake =>
        split
        next hmulti => exact .dropped (hnone hmulti fun h => .inr (.inr (.inr h)))
        next hsingle =>
          apply receiveRequest_cases
          rintro (h | h | h | h)
          · exact hdlc h
          · exact hflow h
          · exact hawake h
          · exact hsingle h

/-! ## Sending -/

/-- The endpoint with the next frame of its transfer pending. -/
def continueTransfer (e : UdsIsoTpEndpoint ω) (out : TxOut ω) : UdsIsoTpEndpoint ω :=
  { e with
    tx := out.tx
    pendingFrame := out.frame
    txPending := true
    pendingFrameFinal := decide (out.tx.payloadLen ≤ out.tx.offset)
    pendingResetCompletion := e.txResetCompletion }

/-- The work that `process` finds, in the order in which it looks. -/
inductive ProcessEffect (e : UdsIsoTpEndpoint ω) (now : UInt32) (w : ω) : EndpointOut ω → Prop
  /-- The bus still has a frame. -/
  | waiting {w'} (inFlight : e.txInFlight = true)
      (asked : (e.config.txError = none ∧ w' = w) ∨
        ∃ txError, e.config.txError = some txError ∧ txError w = (false, w')) :
      ProcessEffect e now w (.ok, e, w')
  /-- The bus has lost it. -/
  | aborted {txError w'} (inFlight : e.txInFlight = true) (hook : e.config.txError = some txError)
      (failed : txError w = (true, w')) : ProcessEffect e now w (.errState, abortInFlight e, w')
  /-- A flow control frame goes first. -/
  | controlRefused {w'} (idle : e.txInFlight = false) (control : e.controlPending = true)
      (sent : e.config.sendFrame w e.pendingControlFrame = (false, w')) :
      ProcessEffect e now w (.ok, e, w')
  | controlSent {w'} (idle : e.txInFlight = false) (control : e.controlPending = true)
      (sent : e.config.sendFrame w e.pendingControlFrame = (true, w')) :
      ProcessEffect e now w (.txFrameReady, { e with controlPending := false }, w')
  /-- The pending frame is offered to the bus. -/
  | refused {w'} (idle : e.txInFlight = false) (pending : e.txPending = true)
      (sent : e.config.sendFrame w e.pendingFrame = (false, w')) :
      ProcessEffect e now w (.ok, e, w')
  | sent {w₁ w₂} (idle : e.txInFlight = false) (pending : e.txPending = true)
      (sent : e.config.sendFrame w e.pendingFrame = (true, w₁))
      (asked : ∃ txComplete, e.config.txComplete = some txComplete ∧
        txComplete (submittedWorld e w₁) = (false, w₂)) (clear : e.controlPending = false) :
      ProcessEffect e now w (.txFrameReady, submitted e, w₂)
  | completed {w₁ w₂} (idle : e.txInFlight = false) (pending : e.txPending = true)
      (sent : e.config.sendFrame w e.pendingFrame = (true, w₁))
      (asked : (e.config.txComplete = none ∧ w₂ = submittedWorld e w₁) ∨
        ∃ txComplete, e.config.txComplete = some txComplete ∧
          txComplete (submittedWorld e w₁) = (true, w₂)) (clear : e.controlPending = false) :
      ProcessEffect e now w (.txFrameReady, completeInFlight (submitted e) w₂)
  /-- The transfer goes on. -/
  | advanced (idle : e.txInFlight = false) (quiet : e.txPending = false)
      (active : e.tx.state ≠ .idle)
      (ready : (isotpTxNext e.tx now e.pendingFrame w).1.status = .txFrameReady) :
      ProcessEffect e now w (.txFrameReady,
        continueTransfer e (isotpTxNext e.tx now e.pendingFrame w).1,
        (isotpTxNext e.tx now e.pendingFrame w).2)
  | paused (idle : e.txInFlight = false) (quiet : e.txPending = false)
      (active : e.tx.state ≠ .idle)
      (notReady : (isotpTxNext e.tx now e.pendingFrame w).1.status ≠ .txFrameReady)
      (notComplete : (isotpTxNext e.tx now e.pendingFrame w).1.status ≠ .complete) :
      ProcessEffect e now w ((isotpTxNext e.tx now e.pendingFrame w).1.status,
        { e with
          tx := (isotpTxNext e.tx now e.pendingFrame w).1.tx
          pendingFrame := (isotpTxNext e.tx now e.pendingFrame w).1.frame },
        (isotpTxNext e.tx now e.pendingFrame w).2)
  /-- The transfer has ended, and the queue comes next. -/
  | ended (idle : e.txInFlight = false) (quiet : e.txPending = false)
      (active : e.tx.state ≠ .idle)
      (complete : (isotpTxNext e.tx now e.pendingFrame w).1.status = .complete) :
      ProcessEffect e now w (processQueue
        { e with
          tx := (isotpTxNext e.tx now e.pendingFrame w).1.tx
          pendingFrame := (isotpTxNext e.tx now e.pendingFrame w).1.frame }
        now (isotpTxNext e.tx now e.pendingFrame w).2)
  | queue (idle : e.txInFlight = false) (quiet : e.txPending = false)
      (inactive : e.tx.state = .idle) : ProcessEffect e now w (processQueue e now w)

/-- A transfer that is complete leaves the transmitter idle. -/
theorem next_complete_idle {tx : IsoTpTx ω} {frame : IsoTpCanFrame}
    (h : (isotpTxNext tx now frame w).1.status = .complete) :
    (isotpTxNext tx now frame w).1.tx.state = .idle := by
  have hnext := next_effect tx now frame w
  generalize isotpTxNext tx now frame w = out at hnext h ⊢
  cases hnext with
  | kept hw => exact absurd h (by simp)
  | ended hstatus hw => rfl
  | sent hstate hmore hpaced hclock hnoclock => exact absurd h (by simp)

theorem processQueue_world (e : UdsIsoTpEndpoint ω) (now : UInt32) (w : ω) :
    (processQueue e now w).2.2 = w := by
  unfold processQueue
  split <;> rfl

theorem processTxPending_cases (hidle : e.txInFlight = false) (hpending : e.txPending = true)
    (hclear : e.controlPending = false) :
    ProcessEffect e now w (processTxPending e w) := by
  unfold processTxPending
  dsimp only
  split
  next hrefused =>
    refine .refused hidle hpending ?_
    exact Prod.ext (by simpa using hrefused) rfl
  next htaken =>
    have hsent : e.config.sendFrame w e.pendingFrame
        = (true, (e.config.sendFrame w e.pendingFrame).2) := Prod.ext (by simpa using htaken) rfl
    split
    next hnone => exact .completed hidle hpending hsent (.inl ⟨hnone, rfl⟩) hclear
    next txComplete hsome =>
      split
      next hdone =>
        exact .completed hidle hpending hsent (.inr ⟨txComplete, hsome, Prod.ext hdone rfl⟩) hclear
      next hdone =>
        exact .sent hidle hpending hsent
          ⟨txComplete, hsome, Prod.ext (by simpa using hdone) rfl⟩ hclear

theorem processTransfer_cases (hidle : e.txInFlight = false) (hquiet : e.txPending = false) :
    ProcessEffect e now w (processTransfer e now w) := by
  unfold processTransfer
  split
  next hactive =>
    dsimp only
    split
    next hready =>
      rw [hready]
      exact .advanced hidle hquiet hactive hready
    next hready =>
      split
      next hcomplete => exact .paused hidle hquiet hactive hready hcomplete
      next hcomplete => exact .ended hidle hquiet hactive (not_not.mp hcomplete)
  next hactive => exact .queue hidle hquiet (not_not.mp hactive)

/-- A pending control frame is offered to the bus. -/
theorem submitControl_pending (w : ω) (h : e.controlPending = true) :
    (e.config.sendFrame w e.pendingControlFrame
        = (false, (e.config.sendFrame w e.pendingControlFrame).2) ∧
      submitControl e w = (.ok, e, (e.config.sendFrame w e.pendingControlFrame).2)) ∨
    (e.config.sendFrame w e.pendingControlFrame
        = (true, (e.config.sendFrame w e.pendingControlFrame).2) ∧
      submitControl e w = (.txFrameReady, { e with controlPending := false },
        (e.config.sendFrame w e.pendingControlFrame).2)) := by
  unfold submitControl
  rw [if_neg (not_not.mpr h)]
  dsimp only
  split
  next hrefused => exact .inl ⟨Prod.ext (by simpa using hrefused) rfl, rfl⟩
  next htaken => exact .inr ⟨Prod.ext (by simpa using htaken) rfl, rfl⟩

theorem process_cases (e : UdsIsoTpEndpoint ω) (now : UInt32) (w : ω) :
    ProcessEffect e now w (udsIsotpEndpointProcess e now w) := by
  unfold udsIsotpEndpointProcess
  split
  next hflight =>
    split
    next hnone => exact .waiting hflight (.inl ⟨hnone, rfl⟩)
    next txError hsome =>
      dsimp only
      split
      next hfailed => exact .aborted hflight hsome (Prod.ext hfailed rfl)
      next hfailed =>
        exact .waiting hflight (.inr ⟨txError, hsome, Prod.ext (by simpa using hfailed) rfl⟩)
  next hflight =>
    have hidle : e.txInFlight = false := by simpa using hflight
    by_cases hcontrol : e.controlPending = true
    · obtain ⟨hsend, hsubmit⟩ | ⟨hsend, hsubmit⟩ := submitControl_pending w hcontrol
      · rw [hsubmit]
        dsimp only
        rw [if_pos (.inl hcontrol)]
        exact .controlRefused hidle hcontrol hsend
      · rw [hsubmit]
        dsimp only
        rw [if_pos (.inr rfl)]
        exact .controlSent hidle hcontrol hsend
    · have hsubmit : submitControl e w = (.ok, e, w) := if_pos hcontrol
      rw [hsubmit]
      dsimp only
      rw [if_neg (by simpa using hcontrol)]
      split
      next hpending => exact processTxPending_cases hidle hpending (by simpa using hcontrol)
      next hpending => exact processTransfer_cases hidle (by simpa using hpending)

end UdsIsoTp.Endpoint
