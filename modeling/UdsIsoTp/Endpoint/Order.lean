import UdsIsoTp.Endpoint.Recorder
import UdsIsoTp.Endpoint.Stranded
import UdsIsoTp.IsoTp.Link
import UdsIsoTp.IsoTp.Outgoing

/-!
# The order of the responses

The frames that the bus takes should be those of the accepted responses, one response
after the other. `outstanding` lists the frames that the endpoint still owes: the
pending frame, what the transfer has left, the response in the queue. The property is
then a conservation law: what was handed over, followed by what is outstanding, is the
accepted responses cut into frames.

The law fails in one place. A response is queued while the transmitter is busy; once the
transmitter is free, and before `process` has come to the queue, the next response goes
past it (`response_overtakes`). `InTurn` excludes that, and is all that is needed
(`responses_in_order`).
-/

namespace UdsIsoTp.Endpoint

open UdsIsoTp.IsoTp UdsIsoTp.Uds

section Outstanding

variable {ω : Type} {e : UdsIsoTpEndpoint ω} {w : ω} {now : UInt32}
  {config : UdsIsoTpEndpointConfig ω}

/-- The frames of the queued response. -/
def queuedFrames (e : UdsIsoTpEndpoint ω) : List IsoTpCanFrame :=
  if e.queuedResponsePending then
    segment e.tx (e.queuedResponse.slice 0 e.queuedResponseLength.toNat)
  else []

/-- The frames of responses that the bus has yet to take, in order. -/
def outstanding (e : UdsIsoTpEndpoint ω) : List IsoTpCanFrame :=
  (if e.txPending then [e.pendingFrame] else []) ++ outgoing e.tx ++ queuedFrames e

/-- The response bytes of a request. -/
def answerBytes (e : UdsIsoTpEndpoint ω) (request : List UInt8) (mode : UdsAddressMode)
    (now : UInt32) (w : ω) : List UInt8 :=
  (endpointServe e request mode now w).2.response.slice 0
    (endpointServe e request mode now w).2.responseLen.toNat

theorem outstanding_free (h : TxFree e) : outstanding e = queuedFrames e := by
  obtain ⟨hpending, -, hidle⟩ := h
  unfold outstanding outgoing
  rw [if_neg (by rw [hpending]; exact Bool.false_ne_true), if_pos hidle]
  rfl

/-- A queued response keeps its frames while the transmitter goes on. -/
theorem queuedFrames_tx {tx : IsoTpTx ω} (frame : IsoTpCanFrame) (htx : Continues e.tx tx) :
    queuedFrames { e with tx := tx, pendingFrame := frame } = queuedFrames e := by
  unfold queuedFrames
  split
  next => exact segment_congr htx.2.1 htx.2.2 _
  next => rfl

/-- A response that is started, and does not overtake one in the queue, comes last. -/
theorem startResponse_outstanding (hturn : e.queuedResponsePending = true → ¬TxFree e)
    (response : Buf) (length : UInt16) (mark : Bool) (now : UInt32) :
    ((startResponse e response length mark now).1 = .txFrameReady ∧
        (¬TxFree e ∨ validTxConfig e.tx.config = true) ∧
        outstanding (startResponse e response length mark now).2
          = outstanding e ++ segment e.tx (response.slice 0 length.toNat)) ∨
      ((startResponse e response length mark now).1 ≠ .txFrameReady ∧
        (startResponse e response length mark now).2 = e) := by
  have heffect := startResponse_cases e response length mark now
  generalize startResponse e response length mark now = out at heffect ⊢
  cases heffect with
  | begun free ready =>
    have hempty : ¬e.queuedResponsePending = true := fun hqueued => hturn hqueued free
    refine .inl ⟨rfl, .inr (start_ready ready).1, ?_⟩
    have hnone : queuedFrames e = [] := if_neg hempty
    have hnone' : queuedFrames (beginResponse e (isotpTxStart e.tx
        (response.slice 0 length.toNat) now e.pendingFrame) mark) = [] := if_neg hempty
    rw [outstanding_free free, hnone, List.nil_append, ← start_outgoing ready]
    unfold outstanding
    rw [hnone', List.append_nil]
    rfl
  | queued busy room =>
    refine .inl ⟨rfl, .inl busy, ?_⟩
    have hnone : queuedFrames e = [] := if_neg (by rw [room]; exact Bool.false_ne_true)
    have hqueued : queuedFrames (queueResponse e response length mark)
        = segment e.tx (response.slice 0 length.toNat) := by
      refine (if_pos rfl).trans ?_
      exact congrArg (segment e.tx) (Buf.slice_copy_self ..)
    unfold outstanding
    rw [hqueued, hnone, List.append_nil]
    rfl
  | full busy occupied => exact .inr ⟨nofun, rfl⟩
  | refused free failed hstatus => exact .inr ⟨hstatus, rfl⟩

/-- A response that is not started is an error. -/
theorem startResponse_status (e : UdsIsoTpEndpoint ω) (response : Buf) (length : UInt16)
    (mark : Bool) (now : UInt32) :
    (startResponse e response length mark now).1 = .txFrameReady ∨
      (startResponse e response length mark now).1.isError = true := by
  have hstart : (isotpTxStart e.tx (response.slice 0 length.toNat) now e.pendingFrame).status
        = .txFrameReady ∨
      (isotpTxStart e.tx (response.slice 0 length.toNat) now e.pendingFrame).status.isError
        = true := by
    unfold isotpTxStart
    dsimp only
    split
    next => exact .inr rfl
    next =>
      split
      next => exact .inr rfl
      next => split <;> exact .inl rfl
  unfold startResponse
  split
  next =>
    split
    next => exact .inr rfl
    next => exact .inl rfl
  next =>
    dsimp only
    split
    next => exact hstart
    next => exact hstart

/-- The answer to a request is started as a response, or there is none. -/
theorem answered_starts (e : UdsIsoTpEndpoint ω) (request : List UInt8) (mode : UdsAddressMode)
    (now : UInt32) (w : ω) :
    ((answered e request mode now w).1 ≠ .txFrameReady ∧ ∃ server response,
        (answered e request mode now w).2.1 = served e server response) ∨
      ∃ server mark,
        ((answered e request mode now w).1, (answered e request mode now w).2.1) = startResponse
          (served e server (endpointServe e request mode now w).2.response)
          (endpointServe e request mode now w).2.response
          (endpointServe e request mode now w).2.responseLen mark now := by
  unfold answered deliverAnswer
  generalize endpointServe e request mode now w = out
  dsimp only
  split
  next =>
    split
    next => exact .inl ⟨nofun, _, _, rfl⟩
    next => exact .inl ⟨nofun, _, _, rfl⟩
  next =>
    split
    next => exact .inl ⟨nofun, _, _, rfl⟩
    next => exact .inr ⟨_, _, rfl⟩

/-- The queue's response is the one that a free transmitter owes. -/
theorem processQueue_outstanding (hfree : TxFree e)
    (hno : (processQueue e now w).1.isError = false) :
    outstanding (processQueue e now w).2.1 = outstanding e := by
  unfold processQueue at hno ⊢
  split
  next hqueued =>
    rw [if_pos hqueued] at hno
    have hstart := startResponse_outstanding (e := dequeued e)
      (fun h => absurd h Bool.false_ne_true) e.queuedResponse e.queuedResponseLength
      e.queuedResetCompletion now
    have hstatus := startResponse_status (dequeued e) e.queuedResponse e.queuedResponseLength
      e.queuedResetCompletion now
    rcases hstart with ⟨-, -, hframes⟩ | ⟨hbad, -⟩
    · rw [outstanding_free (e := dequeued e) hfree] at hframes
      rw [outstanding_free hfree]
      exact hframes.trans (if_pos hqueued).symm
    · exact absurd (hno.symm.trans (hstatus.resolve_left hbad)) Bool.false_ne_true
  next => rfl

theorem completeInFlight_outstanding (e : UdsIsoTpEndpoint ω) (w : ω) :
    outstanding (completeInFlight e w).1 = outstanding e := by
  unfold completeInFlight
  split
  next => rfl
  next =>
    dsimp only
    split
    next => rfl
    next => rfl

/-- A completion makes nothing busy. -/
theorem completeInFlight_free (h : TxFree e) (w : ω) : TxFree (completeInFlight e w).1 := by
  have hidle : ¬e.txInFlight = true := by
    rw [h.2.1]
    exact Bool.false_ne_true
  unfold completeInFlight
  rw [if_pos hidle]
  exact h

end Outstanding

/-! ## What a call hands over -/

variable {ω : Type} {config : UdsIsoTpEndpointConfig ω} {e : UdsIsoTpEndpoint (Recorded ω)}
  {w : Recorded ω} {now : UInt32}

/-- The frames that `send_frame` took. -/
def takenFrames (log : List EndpointEvent) : List IsoTpCanFrame :=
  log.filterMap fun event =>
    match event with
    | .sent frame true => some frame
    | _ => none

/-- Only an endpoint whose transmitter accepts its configuration is ever busy. -/
def ValidIfBusy (config : UdsIsoTpEndpointConfig ω) (e : UdsIsoTpEndpoint (Recorded ω)) : Prop :=
  ¬TxFree e → validTxConfig (record config).isotpConfig = true

/-- What a call of `process` hands over, and what it still owes, is what it owed before:
a flow control frame goes alone. -/
structure HandsOver (config : UdsIsoTpEndpointConfig ω) (e : UdsIsoTpEndpoint (Recorded ω))
    (w : Recorded ω) (events : List EndpointEvent) (out : EndpointOut (Recorded ω)) : Prop where
  log : out.2.2.2 = w.2 ++ events
  frames : (if e.controlPending then [] else takenFrames events) ++ outstanding out.2.1
    = outstanding e
  valid : ValidIfBusy config out.2.1

theorem startResponse_valid (htx : e.tx.config = (record config).isotpConfig)
    (hvalid : ValidIfBusy config e) (response : Buf) (length : UInt16) (mark : Bool) (now : UInt32) :
    ValidIfBusy config (startResponse e response length mark now).2 := by
  have heffect := startResponse_cases e response length mark now
  generalize startResponse e response length mark now = out at heffect ⊢
  cases heffect with
  | begun free ready =>
    intro _
    rw [← htx]
    exact (start_ready ready).1
  | queued busy room => exact fun _ => hvalid busy
  | full busy occupied => exact hvalid
  | refused free failed hstatus => exact hvalid

theorem processQueue_valid (htx : e.tx.config = (record config).isotpConfig)
    (hvalid : ValidIfBusy config e) (now : UInt32) (w : Recorded ω) :
    ValidIfBusy config (processQueue e now w).2.1 := by
  unfold processQueue
  split
  next => exact startResponse_valid (e := dequeued e) htx hvalid _ _ _ now
  next => exact hvalid

/-- No frame is taken, and as much is owed as before. -/
theorem HandsOver.nothing {events : List EndpointEvent} {out : EndpointOut (Recorded ω)}
    (hlog : out.2.2.2 = w.2 ++ events) (htaken : takenFrames events = [])
    (hframes : outstanding out.2.1 = outstanding e) (hvalid : ValidIfBusy config out.2.1) :
    HandsOver config e w events out where
  log := hlog
  frames := by
    rw [htaken, hframes]
    split <;> rfl
  valid := hvalid

/-- The pending frame is taken, and the others are owed. -/
theorem HandsOver.pending {events : List EndpointEvent} {out : EndpointOut (Recorded ω)}
    (hpending : e.txPending = true) (hclear : e.controlPending = false)
    (hlog : out.2.2.2 = w.2 ++ events) (htaken : takenFrames events = [e.pendingFrame])
    (hframes : outstanding out.2.1 = outstanding (submitted e))
    (hvalid : ValidIfBusy config out.2.1) : HandsOver config e w events out where
  log := hlog
  frames := by
    rw [hclear, htaken, hframes]
    unfold outstanding
    rw [if_pos hpending]
    rfl
  valid := hvalid

/-- A transfer that goes on owes the frames from the next one on, which is now pending. -/
theorem handsOver_advanced (hsound : Sound (record config) e)
    (hvalid : validTxConfig (record config).isotpConfig = true) (quiet : e.txPending = false)
    (ready : (isotpTxNext e.tx now e.pendingFrame w).1.status = .txFrameReady) :
    HandsOver config e w [] (.txFrameReady,
      continueTransfer e (isotpTxNext e.tx now e.pendingFrame w).1,
      (isotpTxNext e.tx now e.pendingFrame w).2) := by
  have hlog : (isotpTxNext e.tx now e.pendingFrame w).2.2 = w.2 ++ [] :=
    (record_next hsound.wired.tx ..).trans (List.append_nil _).symm
  have hnext := next_outgoing e.tx e.pendingFrame (by rw [hsound.wired.tx]; exact hvalid) ready
  have hqueued := queuedFrames_tx (isotpTxNext e.tx now e.pendingFrame w).1.frame
    (next_continues e.tx now e.pendingFrame w)
  have hbefore : outstanding e = outgoing e.tx ++ queuedFrames e := by
    unfold outstanding
    rw [quiet]
    rfl
  refine .nothing hlog rfl ?_ fun _ => hvalid
  rw [hbefore, hnext, ← hqueued]
  rfl

/-- A transfer that has ended owed nothing itself, so the queue's response is all that is. -/
theorem handsOver_ended (hsound : Sound (record config) e)
    (hvalid : validTxConfig (record config).isotpConfig = true) (idle : e.txInFlight = false)
    (quiet : e.txPending = false)
    (complete : (isotpTxNext e.tx now e.pendingFrame w).1.status = .complete) :
    let ended := { e with
      tx := (isotpTxNext e.tx now e.pendingFrame w).1.tx
      pendingFrame := (isotpTxNext e.tx now e.pendingFrame w).1.frame }
    let out := processQueue ended now (isotpTxNext e.tx now e.pendingFrame w).2
    out.1.isError = false → HandsOver config e w [] out := by
  intro ended out hno
  have hlog : (isotpTxNext e.tx now e.pendingFrame w).2.2 = w.2 ++ [] :=
    (record_next hsound.wired.tx ..).trans (List.append_nil _).symm
  have hcontinues := next_continues e.tx now e.pendingFrame w
  obtain ⟨hdone, hidle⟩ := next_complete complete
  have hqueued := queuedFrames_tx (isotpTxNext e.tx now e.pendingFrame w).1.frame hcontinues
  have hbefore : outstanding e = queuedFrames e := by
    unfold outstanding
    rw [quiet, hdone]
    rfl
  have hfree : TxFree ended := ⟨quiet, idle, hidle⟩
  have hafter : outstanding out.2.1 = outstanding ended := processQueue_outstanding hfree hno
  refine .nothing ((congrArg Prod.snd (processQueue_world ..)).trans hlog) rfl ?_
    (processQueue_valid (hcontinues.2.1.trans hsound.wired.tx) (fun _ => hvalid) now _)
  rw [hafter, outstanding_free hfree, hqueued, ← hbefore]

theorem process_handsOver (hsound : Sound (record config) e) (hvalid : ValidIfBusy config e)
    (hno : (udsIsotpEndpointProcess e now w).1.isError = false) :
    ∃ events, HandsOver config e w events (udsIsotpEndpointProcess e now w) := by
  have hconfig := hsound.wired.config_eq
  have hbusy : e.txPending = true → ¬TxFree e := by
    intro hpending hfree
    exact absurd (hfree.1.symm.trans hpending) Bool.false_ne_true
  have heffect := process_cases e now w
  generalize udsIsotpEndpointProcess e now w = out at heffect hno ⊢
  cases heffect with
  | waiting inFlight asked =>
    obtain ⟨-, rfl⟩ | ⟨f, hook, hf⟩ := asked
    · exact ⟨[], .nothing (List.append_nil _).symm rfl rfl hvalid⟩
    · rw [hconfig] at hook
      exact ⟨[.failed false], .nothing (record_txError hook hf) rfl rfl hvalid⟩
  | aborted inFlight hook failed => exact Bool.noConfusion hno
  | controlRefused idle control sent =>
    rw [hconfig] at sent
    exact ⟨_, .nothing (record_sendFrame sent) rfl rfl hvalid⟩
  | controlSent idle control sent =>
    -- a flow control frame is none of those that are owed
    rw [hconfig] at sent
    refine ⟨_, record_sendFrame sent, ?_, hvalid⟩
    rw [if_pos control]
    rfl
  | refused idle pending sent =>
    rw [hconfig] at sent
    exact ⟨_, .nothing (record_sendFrame sent) rfl rfl hvalid⟩
  | sent idle pending sent asked clear =>
    obtain ⟨f, hook, hf⟩ := asked
    rw [hconfig] at sent hook
    have hlog := record_txComplete hook hf
    rw [submittedWorld_log hconfig, record_sendFrame sent, List.append_assoc] at hlog
    exact ⟨_, .pending pending clear hlog rfl rfl fun _ => hvalid (hbusy pending)⟩
  | completed idle pending sent asked clear =>
    rw [hconfig] at sent
    have hframes := completeInFlight_outstanding (submitted e)
    have hdone : ∀ w, (completeInFlight (submitted e) w).2.2 = w.2 := fun w =>
      completeInFlight_world (submitted e) w hconfig
    obtain ⟨-, rfl⟩ | ⟨f, hook, hf⟩ := asked
    · refine ⟨[.sent e.pendingFrame true], .pending pending clear ?_ rfl (hframes _)
        fun _ => hvalid (hbusy pending)⟩
      exact (hdone _).trans ((submittedWorld_log hconfig _).trans (record_sendFrame sent))
    · rw [hconfig] at hook
      have hlog := record_txComplete hook hf
      rw [submittedWorld_log hconfig, record_sendFrame sent, List.append_assoc] at hlog
      exact ⟨[.sent e.pendingFrame true, .completed true], .pending pending clear
        ((hdone _).trans hlog) rfl (hframes _) fun _ => hvalid (hbusy pending)⟩
  | advanced idle quiet active ready =>
    exact ⟨[], handsOver_advanced hsound (hvalid fun hfree => active hfree.2.2) quiet ready⟩
  | paused idle quiet active notReady notComplete =>
    have hok : (isotpTxNext e.tx now e.pendingFrame w).1.status = .ok := by
      rcases next_status e.tx now e.pendingFrame w with h | h | h | h
      · exact h
      · exact absurd h notReady
      · exact absurd h notComplete
      · rw [h] at hno
        exact Bool.noConfusion hno
    have hlog : (isotpTxNext e.tx now e.pendingFrame w).2.2 = w.2 ++ [] :=
      (record_next hsound.wired.tx ..).trans (List.append_nil _).symm
    obtain ⟨htx, hframe⟩ := next_kept hok
    rw [htx, hframe]
    exact ⟨[], .nothing hlog rfl rfl hvalid⟩
  | ended idle quiet active complete =>
    exact ⟨[], handsOver_ended hsound (hvalid fun hfree => active hfree.2.2) idle quiet complete hno⟩
  | queue idle quiet inactive =>
    exact ⟨[], .nothing ((congrArg Prod.snd (processQueue_world ..)).trans (List.append_nil _).symm)
      rfl (processQueue_outstanding ⟨quiet, idle, inactive⟩ hno)
      (processQueue_valid hsound.wired.tx hvalid now w)⟩

/-- A transmitter that goes on is busy only if it was. -/
theorem ValidIfBusy.of_tx {tx : IsoTpTx (Recorded ω)} (h : ValidIfBusy config e)
    (htx : Continues e.tx tx) : ValidIfBusy config { e with tx := tx } := by
  intro hbusy
  apply h
  rintro ⟨hpending, hflight, hidle⟩
  refine hbusy ⟨hpending, hflight, ?_⟩
  by_contra hactive
  exact htx.1 hactive hidle

/-- A received frame adds the response it is answered with to what is owed, if there is
one. -/
theorem receive_outstanding (hsound : Sound (record config) e) (hvalid : ValidIfBusy config e)
    {frame : IsoTpCanFrame} {event : IsoTpRxEvent}
    (hcontrol : (udsIsotpEndpointReceive e frame event now w).1 ≠ .errFlowControl)
    (hoverflow : (udsIsotpEndpointReceive e frame event now w).1 ≠ .errFlowOverflow)
    (hturn : (requestOf e frame event now).isSome = true → e.queuedResponsePending = true →
      ¬TxFree e) :
    ValidIfBusy config (udsIsotpEndpointReceive e frame event now w).2.1 ∧
      (((requestOf e frame event now = none ∨
            (udsIsotpEndpointReceive e frame event now w).1 ≠ .txFrameReady) ∧
          outstanding (udsIsotpEndpointReceive e frame event now w).2.1 = outstanding e) ∨
        ∃ request mode, requestOf e frame event now = some (request, mode) ∧
          (udsIsotpEndpointReceive e frame event now w).1 = .txFrameReady ∧
          validTxConfig (record config).isotpConfig = true ∧
          outstanding (udsIsotpEndpointReceive e frame event now w).2.1
            = outstanding e ++ segment e.tx (answerBytes e request mode now w)) := by
  have heffect := receive_cases e frame event now w
  generalize udsIsotpEndpointReceive e frame event now w = out at heffect hcontrol hoverflow ⊢
  cases heffect with
  | dropped none => exact ⟨hvalid, .inl ⟨.inl none, rfl⟩⟩
  | flow none =>
    have htx := feedFlowControl_continues e.tx frame now w
    refine ⟨hvalid.of_tx htx, .inl ⟨.inl none, ?_⟩⟩
    have hqueued := queuedFrames_tx e.pendingFrame htx
    unfold outstanding
    dsimp only
    rw [feed_outgoing hcontrol hoverflow]
    exact congrArg _ hqueued
  | part none => exact ⟨hvalid, .inl ⟨.inl none, rfl⟩⟩
  | @request rx control controlPending request mode some awake =>
    rcases answered_starts (received e rx control controlPending) request mode now w with
      ⟨hsilent, server, response, hout⟩ | ⟨server, mark, hout⟩
    · rw [hout]
      exact ⟨hvalid, .inl ⟨.inr hsilent, rfl⟩⟩
    · obtain ⟨hstatus, hendpoint⟩ := Prod.ext_iff.mp hout
      dsimp only at hstatus hendpoint
      have hturn' := hturn (by rw [some]; rfl)
      have hvalid' := startResponse_valid (e := served (received e rx control controlPending) server
        (endpointServe (received e rx control controlPending) request mode now w).2.response)
        hsound.wired.tx hvalid
        (endpointServe (received e rx control controlPending) request mode now w).2.response
        (endpointServe (received e rx control controlPending) request mode now w).2.responseLen
        mark now
      have hstart := startResponse_outstanding (e := served (received e rx control controlPending)
        server (endpointServe (received e rx control controlPending) request mode now w).2.response)
        hturn'
        (endpointServe (received e rx control controlPending) request mode now w).2.response
        (endpointServe (received e rx control controlPending) request mode now w).2.responseLen
        mark now
      rw [hstatus, hendpoint]
      refine ⟨hvalid', ?_⟩
      -- the response is taken, and then its frames are owed, or nothing is
      rcases hstart with ⟨hready, hconfig, hframes⟩ | ⟨hfailed, hsame⟩
      · refine .inr ⟨request, mode, some, hready, ?_, hframes⟩
        rcases hconfig with hbusy | hconfig
        · exact hvalid hbusy
        · exact (congrArg validTxConfig hsound.wired.tx).symm.trans hconfig
      · refine .inl ⟨.inr hfailed, ?_⟩
        rw [hsame]
        rfl

/-! ## Runs -/

/-- An endpoint with the responses it has accepted and the response frames that the bus has
taken, both in order. -/
structure OrderRun (ω : Type) where
  endpoint : UdsIsoTpEndpoint (Recorded ω)
  world : Recorded ω
  accepted : List (List UInt8)
  handed : List IsoTpCanFrame

/-- The response of a request for which `receive` has said that a frame is ready. -/
def acceptedBy (s : OrderRun ω) : EndpointCall → List (List UInt8)
  | .receive frame event now =>
    match requestOf s.endpoint frame event now with
    | some (request, mode) =>
      if (udsIsotpEndpointReceive s.endpoint frame event now s.world).1 = .txFrameReady then
        [answerBytes s.endpoint request mode now s.world]
      else []
    | none => []
  | _ => []

/-- The response frames that the bus takes in a call: a flow control frame goes alone. -/
def handedBy (s : OrderRun ω) : EndpointCall → List IsoTpCanFrame
  | .process now =>
    if s.endpoint.controlPending then []
    else
      takenFrames
        ((udsIsotpEndpointProcess s.endpoint now s.world).2.2.2.drop s.world.2.length)
  | _ => []

/-- One call, with what it accepts and what it hands over. -/
def orderStep (s : OrderRun ω) (call : EndpointCall) : OrderRun ω where
  endpoint := (endpointStep (s.endpoint, s.world) call).1
  world := (endpointStep (s.endpoint, s.world) call).2
  accepted := s.accepted ++ acceptedBy s call
  handed := s.handed ++ handedBy s call

/-- The call ends no transmission: flow control does not abort it, its deadline has not
passed, and `process` meets no error. -/
def NoTransmissionError (s : OrderRun ω) : EndpointCall → Prop
  | .receive frame event now =>
    (udsIsotpEndpointReceive s.endpoint frame event now s.world).1 ≠ .errFlowControl ∧
      (udsIsotpEndpointReceive s.endpoint frame event now s.world).1 ≠ .errFlowOverflow
  | .process now => (udsIsotpEndpointProcess s.endpoint now s.world).1.isError = false
  | .tick now => (isotpTxTick s.endpoint.tx now).1 ≠ .errTimeout
  | .txComplete => True

/-- A request is not completed while a response is queued for a transmitter that is free. -/
def InTurn (s : OrderRun ω) : EndpointCall → Prop
  | .receive frame event now => (requestOf s.endpoint frame event now).isSome = true →
      s.endpoint.queuedResponsePending = true → ¬TxFree s.endpoint
  | _ => True

/-- Nothing is lost and nothing is out of order: `tx` is a transmitter wired like that of
the endpoint. -/
structure InOrder (config : UdsIsoTpEndpointConfig ω) (tx : IsoTpTx (Recorded ω))
    (s : OrderRun ω) : Prop where
  sound : Sound (record config) s.endpoint
  valid : ValidIfBusy config s.endpoint
  conserved : s.handed ++ outstanding s.endpoint = s.accepted.flatMap (segment tx)
  whole : ∀ payload ∈ s.accepted, Conveys payload (segment tx payload)

variable {tx : IsoTpTx (Recorded ω)} {s : OrderRun ω}

/-- A call that accepts no response and owes what it owed. -/
theorem InOrder.of_same (h : InOrder config tx s) {call : EndpointCall}
    (haccepted : acceptedBy s call = [])
    (hframes : handedBy s call ++ outstanding (orderStep s call).endpoint
      = outstanding s.endpoint)
    (hvalid : ValidIfBusy config (orderStep s call).endpoint) :
    InOrder config tx (orderStep s call) := by
  refine ⟨endpointStep_sound (s.endpoint, s.world) call h.sound, hvalid, ?_, ?_⟩
  · show (s.handed ++ handedBy s call) ++ outstanding (orderStep s call).endpoint
      = (s.accepted ++ acceptedBy s call).flatMap (segment tx)
    rw [haccepted, List.append_nil, List.append_assoc, hframes]
    exact h.conserved
  · show ∀ payload ∈ s.accepted ++ acceptedBy s call, _
    rw [haccepted, List.append_nil]
    exact h.whole

theorem process_inOrder (h : InOrder config tx s)
    (hno : (udsIsotpEndpointProcess s.endpoint now s.world).1.isError = false) :
    InOrder config tx (orderStep s (.process now)) := by
  obtain ⟨events, hover⟩ := process_handsOver h.sound h.valid hno
  refine h.of_same rfl ?_ hover.valid
  have hevents : (udsIsotpEndpointProcess s.endpoint now s.world).2.2.2.drop s.world.2.length
      = events := by
    rw [hover.log]
    exact List.drop_left ..
  have hhanded : handedBy s (.process now)
      = if s.endpoint.controlPending then [] else takenFrames events := by
    rw [← hevents]
    rfl
  rw [hhanded]
  exact hover.frames

/-- The frames of a response do not depend on where the transmitter is. -/
theorem InOrder.segment_eq (h : InOrder config tx s) (htx : tx.config = (record config).isotpConfig)
    (hid : tx.responseId = config.responseId) (payload : List UInt8) :
    segment s.endpoint.tx payload = segment tx payload :=
  segment_congr (h.sound.wired.tx.trans htx.symm) (h.sound.wired.responseId.trans hid.symm) payload

theorem receive_inOrder (h : InOrder config tx s) (htx : tx.config = (record config).isotpConfig)
    (hid : tx.responseId = config.responseId) {frame : IsoTpCanFrame} {event : IsoTpRxEvent}
    (hno : NoTransmissionError s (.receive frame event now))
    (hturn : InTurn s (.receive frame event now)) :
    InOrder config tx (orderStep s (.receive frame event now)) := by
  obtain ⟨hcontrol, hoverflow⟩ := hno
  obtain ⟨hvalid, ⟨hnone, hframes⟩ | ⟨request, mode, hsome, hready, hconfig, hframes⟩⟩ :=
    receive_outstanding h.sound h.valid hcontrol hoverflow hturn
  · refine h.of_same ?_ hframes hvalid
    unfold acceptedBy
    dsimp only
    split
    next hrequest =>
      refine if_neg (hnone.resolve_left ?_)
      rw [hrequest]
      simp
    next => rfl
  · have haccepted : acceptedBy s (.receive frame event now)
        = [answerBytes s.endpoint request mode now s.world] := by
      unfold acceptedBy
      dsimp only
      rw [hsome]
      exact if_pos hready
    refine ⟨endpointStep_sound (s.endpoint, s.world) _ h.sound, hvalid, ?_, ?_⟩
    · show (s.handed ++ []) ++ outstanding (udsIsotpEndpointReceive s.endpoint frame event now
          s.world).2.1 = (s.accepted ++ acceptedBy s _).flatMap (segment tx)
      rw [haccepted, hframes, List.append_nil, ← List.append_assoc, h.conserved,
        h.segment_eq htx hid, List.flatMap_append, List.flatMap_singleton]
    · show ∀ payload ∈ s.accepted ++ acceptedBy s _, _
      rw [haccepted]
      intro payload hmem
      rcases List.mem_append.mp hmem with hold | hnew
      · exact h.whole payload hold
      · exact segment_conveys (by rw [htx]; exact hconfig) payload

/-- Every call that ends no transmission, made in turn, keeps the order. -/
theorem orderStep_inOrder (htx : tx.config = (record config).isotpConfig)
    (hid : tx.responseId = config.responseId) (s : OrderRun ω) (call : EndpointCall)
    (h : InOrder config tx s) (hno : NoTransmissionError s call) (hturn : InTurn s call) :
    InOrder config tx (orderStep s call) := by
  cases call with
  | receive frame event now => exact receive_inOrder h htx hid hno hturn
  | process now => exact process_inOrder h hno
  | tick now =>
    have hsame : (orderStep s (.tick now)).endpoint.tx = s.endpoint.tx := tick_outgoing hno
    refine h.of_same rfl ?_ ?_
    · unfold outstanding queuedFrames
      rw [hsame]
      rfl
    · intro hbusy
      apply h.valid
      rintro ⟨hpending, hflight, hidle⟩
      exact hbusy ⟨hpending, hflight, hsame ▸ hidle⟩
  | txComplete =>
    refine h.of_same rfl (completeInFlight_outstanding ..) ?_
    intro hbusy
    apply h.valid
    intro hfree
    exact hbusy (completeInFlight_free hfree _)

/-- **Response order.** In every run in which no transmission fails and no request is
completed past a queued response, the frames that the bus has taken, followed by those that
the endpoint still owes, are the accepted responses in order, each cut into its frames; and
those frames carry it whole. -/
theorem responses_in_order (e₀ e : UdsIsoTpEndpoint (Recorded ω))
    (config : UdsIsoTpEndpointConfig ω) (start : UInt32) (w : Recorded ω)
    (hinit : udsIsotpEndpointInit e₀ (record config) start = some e) (calls : List EndpointCall)
    (hrun : Along orderStep (fun s call => NoTransmissionError s call ∧ InTurn s call)
      ⟨e, w, [], []⟩ calls) :
    let s := run orderStep ⟨e, w, [], []⟩ calls
    s.handed ++ outstanding s.endpoint = s.accepted.flatMap (segment e.tx) ∧
      ∀ response ∈ s.accepted, Conveys response (segment e.tx response) := by
  have hsound := init_sound hinit
  have hfree : TxFree e ∧ e.queuedResponsePending = false := by
    unfold udsIsotpEndpointInit at hinit
    split at hinit
    next => exact absurd hinit (by simp)
    next =>
      rw [← Option.some.inj hinit]
      exact ⟨⟨rfl, rfl, rfl⟩, rfl⟩
  have h0 : InOrder config e.tx ⟨e, w, [], []⟩ := by
    refine ⟨hsound, fun hbusy => absurd hfree.1 hbusy, ?_, fun _ hmem => absurd hmem (by simp)⟩
    refine (outstanding_free hfree.1).trans (if_neg ?_)
    rw [hfree.2]
    exact Bool.false_ne_true
  have hrun' := Along.inv (I := InOrder config e.tx)
    (fun s call h hok => orderStep_inOrder hsound.wired.tx hsound.wired.responseId s call h hok.1
      hok.2) h0 hrun
  exact ⟨hrun'.conserved, hrun'.whole⟩

/-- Two requests, the second answered from the queue before the third is asked. -/
theorem responses_in_order_bench :
    let e := bench (record benchConfig)
    let s := run orderStep ⟨e, ((), []), [], []⟩
      [ask [0x10, 0x03], ask [0x3E, 0x00], .process 0, .process 0, .process 0]
    s.handed ++ outstanding s.endpoint = s.accepted.flatMap (segment e.tx) ∧
      ∀ response ∈ s.accepted, Conveys response (segment e.tx response) := by
  refine responses_in_order (blankEndpoint (record benchConfig)) (bench (record benchConfig))
    benchConfig 0 ((), []) rfl _ ⟨⟨⟨by decide, by decide⟩, ?_⟩, ⟨⟨by decide, by decide⟩, ?_⟩,
      ⟨rfl, trivial⟩, ⟨rfl, trivial⟩, ⟨rfl, trivial⟩, trivial⟩
  · intro _ hqueued
    exact absurd hqueued (by decide)
  · intro _ hqueued
    exact absurd hqueued (by decide)

/-- The bytes of a short frame. -/
def shortBytes (frame : IsoTpCanFrame) : List UInt8 := frame.data.slice 0 3

/-- Three requests, each accepted and answered. The second response waits in the queue when
the first is confirmed, and the third goes past it. -/
theorem response_overtakes :
    let e := bench (record benchConfig)
    let calls := [ask [0x10, 0x03], ask [0x3E, 0x00], .process 0, ask [0x10, 0x01], .process 0]
    let s := run orderStep ⟨e, ((), []), [], []⟩ calls
    udsIsotpEndpointInit (blankEndpoint (record benchConfig)) (record benchConfig) 0 = some e ∧
      Along orderStep NoTransmissionError ⟨e, ((), []), [], []⟩ calls ∧
      s.accepted.length = 3 ∧
      s.handed ++ outstanding s.endpoint ≠ s.accepted.flatMap (segment e.tx) := by
  refine ⟨rfl, ⟨⟨by decide, by decide⟩, ⟨by decide, by decide⟩, rfl,
    ⟨by decide, by decide⟩, rfl, trivial⟩, by decide, ?_⟩
  intro heq
  have hbytes := congrArg (List.map shortBytes) heq
  exact absurd hbytes (by decide)

end UdsIsoTp.Endpoint
