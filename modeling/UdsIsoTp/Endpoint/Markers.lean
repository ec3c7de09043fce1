import UdsIsoTp.Endpoint.Answers

/-!
# The marker of a reset response

A reset waits for its response. The response carries a marker through the endpoint: on
the pending frame, on the frame in flight, or in the queue, and the reset becomes due
when the marked frame is confirmed.

`Markers` is what holds of the marker in every state, whatever the callbacks answer: it
stands in at most one place, on a frame that is the whole response, and only while the
server waits for that response. `markers_step` keeps it through every call.
-/

namespace UdsIsoTp.Endpoint

open UdsIsoTp.IsoTp UdsIsoTp.Uds

variable {ω : Type}

/-! ## Where the marker stands -/

/-- The frame that waits completes a reset. -/
def PendingMark (e : UdsIsoTpEndpoint ω) : Prop :=
  e.txPending = true ∧ e.pendingResetCompletion = true

/-- The frame on the bus completes a reset. -/
def FlightMark (e : UdsIsoTpEndpoint ω) : Prop :=
  e.txInFlight = true ∧ e.inFlightResetCompletion = true

/-- The answer in the queue completes a reset. -/
def QueuedMark (e : UdsIsoTpEndpoint ω) : Prop :=
  e.queuedResponsePending = true ∧ e.queuedResetCompletion = true

/-- The server has accepted a reset and waits for its response. -/
def AwaitsReset (e : UdsIsoTpEndpoint ω) : Prop :=
  AwaitsAnswer e.uds e.uds.pendingResetSubfunction

/-- What every call keeps: at most one place has the marker, and it means what it should. -/
structure Markers (e : UdsIsoTpEndpoint ω) : Prop where
  exclusive : e.txPending = true → e.txInFlight = false
  transfer : e.tx.state ≠ .idle → e.txResetCompletion = false
  pending : PendingMark e → e.pendingFrameFinal = true ∧ AwaitsReset e ∧ ¬QueuedMark e
  flight : FlightMark e → e.inFlightFinal = true ∧ AwaitsReset e ∧ ¬QueuedMark e
  queued : QueuedMark e → AwaitsReset e ∧
    (e.queuedResponseLength = 2 ∨ e.queuedResponseLength = 3)
  ready : e.uds.resetReady = true → responseResetPending e.uds = true

/-- The parts of the endpoint that no call touches. -/
structure Wired (config : UdsIsoTpEndpointConfig ω) (e : UdsIsoTpEndpoint ω) : Prop where
  config_eq : e.config = config
  tx : e.tx.config = config.isotpConfig
  responseId : e.tx.responseId = config.responseId
  callbacks : e.uds.callbacks = config.udsCallbacks
  persist : e.uds.securityGate.persistFn = none

/-- What every call keeps. -/
structure Sound (config : UdsIsoTpEndpointConfig ω) (e : UdsIsoTpEndpoint ω) : Prop where
  markers : Markers e
  wired : Wired config e

variable {e : UdsIsoTpEndpoint ω} {w : ω} {now : UInt32} {config : UdsIsoTpEndpointConfig ω}

/-- While a reset is waited for, no request is served. -/
theorem AwaitsReset.deaf (h : AwaitsReset e) : responseResetPending e.uds = true := by
  unfold responseResetPending
  rw [h.pending]
  simpa using h.nonzero

/-- A marker stands for a reset that is awaited. -/
theorem Markers.none (h : Markers e) (hno : ¬AwaitsReset e) :
    ¬PendingMark e ∧ ¬FlightMark e ∧ ¬QueuedMark e :=
  ⟨fun hm => hno (h.pending hm).2.1, fun hm => hno (h.flight hm).2.1,
    fun hm => hno (h.queued hm).1⟩

/-- While the server waits for no response there is no marker anywhere. -/
theorem Markers.none_awake (h : Markers e) (hawake : responseResetPending e.uds = false) :
    ¬PendingMark e ∧ ¬FlightMark e ∧ ¬QueuedMark e := by
  refine h.none ?_
  intro hawaits
  rw [hawaits.deaf] at hawake
  exact Bool.noConfusion hawake

/-- Nor is there one once the reset is due. -/
theorem Markers.none_ready (h : Markers e) (hready : e.uds.resetReady = true) :
    ¬PendingMark e ∧ ¬FlightMark e ∧ ¬QueuedMark e := by
  refine h.none ?_
  intro hawaits
  rw [hawaits.ready] at hready
  exact Bool.noConfusion hready

/-- A transmitter that is free has none. -/
theorem TxFree.unmarked (h : TxFree e) : ¬PendingMark e ∧ ¬FlightMark e := by
  constructor
  · rintro ⟨hpending, -⟩
    exact absurd (h.1.symm.trans hpending) Bool.false_ne_true
  · rintro ⟨hflight, -⟩
    exact absurd (h.2.1.symm.trans hflight) Bool.false_ne_true

/-- Otherwise the server listens. -/
theorem Markers.awake (h : Markers e) (hawake : responseResetPending e.uds = false) :
    Awake e.uds := by
  refine ⟨hawake, ?_⟩
  cases hready : e.uds.resetReady with
  | false => rfl
  | true =>
    rw [h.ready hready] at hawake
    exact Bool.noConfusion hawake

/-- Without any marker, only the shape of the endpoint matters. -/
theorem Markers.of_none (hpending : ¬PendingMark e) (hflight : ¬FlightMark e)
    (hqueued : ¬QueuedMark e) (hexclusive : e.txPending = true → e.txInFlight = false)
    (htransfer : e.tx.state ≠ .idle → e.txResetCompletion = false)
    (hready : e.uds.resetReady = true → responseResetPending e.uds = true) : Markers e :=
  ⟨hexclusive, htransfer, fun h => absurd h hpending, fun h => absurd h hflight,
    fun h => absurd h hqueued, hready⟩

/-- A transmitter that goes on from where it was, or stops. -/
def Continues (tx tx' : IsoTpTx ω) : Prop :=
  (tx'.state ≠ .idle → tx.state ≠ .idle) ∧ tx'.config = tx.config ∧ tx'.responseId = tx.responseId

/-- The markers do not depend on what the sender does in between. -/
theorem Markers.of_tx {tx : IsoTpTx ω} {frame : IsoTpCanFrame} (h : Markers e)
    (htx : Continues e.tx tx) : Markers { e with tx := tx, pendingFrame := frame } :=
  ⟨h.exclusive, fun hstate => h.transfer (htx.1 hstate), h.pending, h.flight, h.queued, h.ready⟩

theorem Wired.of_tx {tx : IsoTpTx ω} {frame : IsoTpCanFrame} (h : Wired config e)
    (htx : Continues e.tx tx) : Wired config { e with tx := tx, pendingFrame := frame } :=
  ⟨h.config_eq, htx.2.1.trans h.tx, htx.2.2.trans h.responseId, h.callbacks, h.persist⟩

/-- A flow control does not start a transfer. -/
theorem feedFlowControl_continues (tx : IsoTpTx ω) (frame : IsoTpCanFrame) (now : UInt32)
    (w : ω) : Continues tx (isotpTxFeedFlowControl tx frame now w).2.1 := by
  have hawaits : AwaitsFlow tx → tx.state ≠ .idle := by
    rintro (h | h) <;> rw [h] <;> decide
  have heffect := feedFlowControl_effect tx frame now w
  generalize isotpTxFeedFlowControl tx frame now w = out at heffect ⊢
  cases heffect with
  | refused hstatus => exact ⟨id, rfl, rfl⟩
  | aborted hstatus => exact ⟨fun h => absurd rfl h, rfl, rfl⟩
  | waited hstate hflow hfew => exact ⟨fun _ => hawaits hstate, rfl, rfl⟩
  | granted hstate hflow hclock hnoclock => exact ⟨fun _ => hawaits hstate, rfl, rfl⟩

/-- Neither does the next frame. -/
theorem next_continues (tx : IsoTpTx ω) (now : UInt32) (frame : IsoTpCanFrame) (w : ω) :
    Continues tx (isotpTxNext tx now frame w).1.tx := by
  have heffect := next_effect tx now frame w
  generalize isotpTxNext tx now frame w = out at heffect ⊢
  cases heffect with
  | kept hw => exact ⟨id, rfl, rfl⟩
  | ended hstatus hw => exact ⟨fun h => absurd rfl h, rfl, rfl⟩
  | sent hstate hmore hpaced hclock hnoclock =>
    refine ⟨fun _ => ?_, rfl, rfl⟩
    rw [hstate]
    decide

/-- Nor does a tick. -/
theorem tick_continues (tx : IsoTpTx ω) (now : UInt32) :
    Continues tx (isotpTxTick tx now).2 := by
  unfold isotpTxTick
  split
  next => exact ⟨id, rfl, rfl⟩
  next =>
    split
    next => exact ⟨fun h => absurd rfl h, rfl, rfl⟩
    next => exact ⟨id, rfl, rfl⟩

theorem start_wired (tx : IsoTpTx ω) (payload : List UInt8) (now : UInt32)
    (frame : IsoTpCanFrame) :
    (isotpTxStart tx payload now frame).tx.config = tx.config ∧
      (isotpTxStart tx payload now frame).tx.responseId = tx.responseId := by
  by_cases hready : (isotpTxStart tx payload now frame).status = .txFrameReady
  · obtain ⟨-, -, ⟨sf, hsf, hout⟩ | ⟨-, hout⟩⟩ := start_ready hready
    · rw [hout, txBuildSf_some hsf]
      exact ⟨rfl, rfl⟩
    · rw [hout]
      exact ⟨rfl, rfl⟩
  · rw [(start_refused hready).1]
    exact ⟨rfl, rfl⟩

/-- A response changes nothing of the wiring. -/
theorem startResponse_wired (h : Wired config e) (response : Buf) (length : UInt16)
    (mark : Bool) (now : UInt32) :
    Wired config (startResponse e response length mark now).2 := by
  have heffect := startResponse_cases e response length mark now
  generalize startResponse e response length mark now = out at heffect ⊢
  cases heffect with
  | begun free ready =>
    have htx := start_wired e.tx (response.slice 0 length.toNat) now e.pendingFrame
    exact ⟨h.config_eq, htx.1.trans h.tx, htx.2.trans h.responseId, h.callbacks, h.persist⟩
  | queued busy room => exact ⟨h.config_eq, h.tx, h.responseId, h.callbacks, h.persist⟩
  | full busy occupied => exact h
  | refused free failed hstatus => exact h

/-! ## Starting a response -/

/-- A response without a marker disturbs none. -/
theorem startResponse_unmarked (h : Markers e) (response : Buf) (length : UInt16)
    (now : UInt32) : Markers (startResponse e response length false now).2 := by
  have heffect := startResponse_cases e response length false now
  generalize startResponse e response length false now = out at heffect ⊢
  cases heffect with
  | begun free ready =>
    refine ⟨fun _ => free.2.1, fun _ => rfl, ?_, ?_, h.queued, h.ready⟩
    · rintro ⟨-, hmark⟩
      exact Bool.noConfusion hmark
    · rintro ⟨hflight, -⟩
      exact absurd (free.2.1.symm.trans hflight) Bool.false_ne_true
  | queued busy room =>
    have hnone : ¬QueuedMark (queueResponse e response length false) := by
      rintro ⟨-, hmark⟩
      exact Bool.noConfusion hmark
    refine ⟨h.exclusive, h.transfer, ?_, ?_, fun hq => absurd hq hnone, h.ready⟩
    · intro hp
      obtain ⟨hfinal, hawaits, -⟩ := h.pending hp
      exact ⟨hfinal, hawaits, hnone⟩
    · intro hf
      obtain ⟨hfinal, hawaits, -⟩ := h.flight hf
      exact ⟨hfinal, hawaits, hnone⟩
  | full busy occupied => exact h
  | refused free failed hstatus => exact h

/-- A short response that the transmitter takes is one frame. -/
theorem start_short_idle {tx : IsoTpTx ω} {payload : List UInt8} {frame : IsoTpCanFrame}
    (hready : (isotpTxStart tx payload now frame).status = .txFrameReady)
    (hshort : payload.length ≤ 7) : (isotpTxStart tx payload now frame).tx.state = .idle := by
  obtain ⟨hvalid, -, ⟨sf, hsf, hout⟩ | ⟨hsf, hout⟩⟩ := start_ready hready
  · rw [hout, txBuildSf_some hsf]
    rfl
  · unfold txBuildSf at hsf
    dsimp only at hsf
    rw [if_pos hshort] at hsf
    exact absurd hsf (by simp)

/-- A response of two or three bytes goes out in one frame. -/
theorem slice_short (response : Buf) {length : UInt16} (h : length = 2 ∨ length = 3) :
    1 ≤ (response.slice 0 length.toNat).length ∧ (response.slice 0 length.toNat).length ≤ 7 := by
  rw [Buf.length_slice]
  rcases h with rfl | rfl <;> decide

/-- The response a reset waits for takes the marker along. -/
theorem startResponse_marked (h : Markers e) (hawaits : AwaitsReset e)
    (hpending : ¬PendingMark e) (hflight : ¬FlightMark e) (hqueued : ¬QueuedMark e)
    (response : Buf) {length : UInt16} (hlength : length = 2 ∨ length = 3) (now : UInt32) :
    Markers (startResponse e response length true now).2 := by
  have hshort := slice_short response hlength
  have heffect := startResponse_cases e response length true now
  generalize startResponse e response length true now = out at heffect ⊢
  cases heffect with
  | begun free ready =>
    have hidle := start_short_idle ready hshort.2
    refine ⟨fun _ => free.2.1, fun hstate => absurd hidle hstate, ?_, ?_, ?_, h.ready⟩
    · intro _
      exact ⟨decide_eq_true hidle, hawaits, hqueued⟩
    · rintro ⟨hin, -⟩
      exact absurd (free.2.1.symm.trans hin) Bool.false_ne_true
    · intro hq
      exact absurd hq hqueued
  | queued busy room =>
    exact ⟨h.exclusive, h.transfer, fun hp => absurd hp hpending, fun hf => absurd hf hflight,
      fun _ => ⟨hawaits, hlength⟩, h.ready⟩
  | full busy occupied => exact h
  | refused free failed hstatus => exact h

/-! ## Completion and abort -/

/-- Completing a reset leaves its flags alone. -/
theorem completeReset_flags (server : UdsServer ω) :
    (udsServerCompleteReset server).2.callbacks = server.callbacks ∧
      (udsServerCompleteReset server).2.securityGate = server.securityGate ∧
      (udsServerCompleteReset server).2.resetPending = server.resetPending ∧
      (udsServerCompleteReset server).2.pendingResetSubfunction
        = server.pendingResetSubfunction := by
  unfold udsServerCompleteReset
  split_ifs <;> exact ⟨rfl, rfl, rfl, rfl⟩

theorem completeReset_deaf (server : UdsServer ω) :
    responseResetPending (udsServerCompleteReset server).2 = responseResetPending server := by
  obtain ⟨-, -, hpending, hsub⟩ := completeReset_flags server
  unfold responseResetPending
  rw [hpending, hsub]

/-- A frame that is through takes its marker with it. -/
theorem completeInFlight_markers (h : Markers e) : Markers (completeInFlight e w).1 := by
  unfold completeInFlight
  split
  next => exact h
  next hin =>
    replace hin := not_not.mp hin
    have hpending : ¬PendingMark e := by
      rintro ⟨hp, -⟩
      rw [h.exclusive hp] at hin
      exact Bool.noConfusion hin
    have hnone : ∀ {e' : UdsIsoTpEndpoint ω}, e'.txInFlight = false → ¬FlightMark e' := by
      rintro e' hidle ⟨hflight, -⟩
      rw [hidle] at hflight
      exact Bool.noConfusion hflight
    dsimp only
    split
    next hmark =>
      have hf : FlightMark e := ⟨hin, hmark.2⟩
      obtain ⟨-, hawaits, hqueued⟩ := h.flight hf
      refine .of_none hpending (hnone rfl) hqueued (fun _ => rfl) h.transfer ?_
      intro _
      show responseResetPending (udsServerCompleteReset e.uds).2 = true
      rw [completeReset_deaf]
      exact hawaits.deaf
    next hmark =>
      exact ⟨fun _ => rfl, h.transfer, h.pending, fun hf => absurd hf (hnone rfl), h.queued,
        h.ready⟩

theorem completeInFlight_wired (h : Wired config e) : Wired config (completeInFlight e w).1 := by
  obtain ⟨hcallbacks, hgate, -⟩ := completeReset_flags e.uds
  unfold completeInFlight
  split
  next => exact h
  next =>
    dsimp only
    split
    next =>
      exact ⟨h.config_eq, h.tx, h.responseId, hcallbacks.trans h.callbacks,
        (congrArg UdsSecurityGate.persistFn hgate).trans h.persist⟩
    next => exact ⟨h.config_eq, h.tx, h.responseId, h.callbacks, h.persist⟩

/-- So does one that is dropped. -/
theorem abortInFlight_markers (h : Markers e) : Markers (abortInFlight e) := by
  unfold abortInFlight
  split
  next => exact h
  next hin =>
    have hpending : ¬e.txPending = true := by
      intro hp
      rw [h.exclusive hp] at hin
      exact hin Bool.false_ne_true
    refine .of_none ?_ ?_ ?_ (fun _ => rfl) (fun hstate => absurd rfl hstate) ?_
    · rintro ⟨hp, -⟩
      exact hpending hp
    · rintro ⟨hf, -⟩
      exact Bool.noConfusion hf
    · rintro ⟨hq, -⟩
      exact Bool.noConfusion hq
    · intro hready
      exact Bool.noConfusion hready

theorem abortInFlight_wired (h : Wired config e) : Wired config (abortInFlight e) := by
  unfold abortInFlight
  split
  next => exact h
  next => exact ⟨h.config_eq, h.tx, h.responseId, h.callbacks, h.persist⟩

/-- A frame that the bus takes keeps its marker. -/
theorem submitted_markers (h : Markers e) (hpending : e.txPending = true) : Markers (submitted e) := by
  refine ⟨fun hp => Bool.noConfusion hp, h.transfer, ?_, ?_, h.queued, h.ready⟩
  · rintro ⟨hp, -⟩
    exact Bool.noConfusion hp
  · rintro ⟨-, hmark⟩
    exact h.pending ⟨hpending, hmark⟩

/-! ## Requests -/

/-- An answer to a request, in an endpoint whose server waits for no reset. -/
theorem answered_sound (hsound : Sound config e)
    (hawake : responseResetPending e.uds = false) (request : List UInt8) (mode : UdsAddressMode)
    (now : UInt32) : Sound config (answered e request mode now w).2.1 := by
  obtain ⟨h, hw⟩ := hsound
  obtain ⟨hpending, hflight, hqueued⟩ := h.none_awake hawake
  have hu := unseen_blind e.uds.callbacks e.uds.securityGate.persistFn
  have hserved : ∀ {server : UdsServer ω} (response : Buf), SameWiring e.uds server →
      Wired config (served e server response) := fun response hwiring =>
    ⟨hw.config_eq, hw.tx, hw.responseId, hwiring.callbacks.trans hw.callbacks,
      hwiring.persist.trans hw.persist⟩
  have hclear : ∀ {server : UdsServer ω} (response : Buf),
      (server.resetReady = true → responseResetPending server = true) →
      Markers (served e server response) := fun response hready =>
    .of_none hpending hflight hqueued h.exclusive h.transfer hready
  have heffect := answered_cases (w := w) (h.awake hawake) hu
    (fun _ _ => rfl) request mode now
  generalize answered e request mode now w = out at heffect ⊢
  cases heffect with
  | silent awake wiring world =>
    refine ⟨hclear _ ?_, hserved _ wiring⟩
    intro hready
    exact absurd (awake.ready.symm.trans hready) Bool.false_ne_true
  | plain length awake wiring world =>
    refine ⟨startResponse_unmarked (hclear _ ?_) .., startResponse_wired (hserved _ wiring) ..⟩
    intro hready
    exact absurd (awake.ready.symm.trans hready) Bool.false_ne_true
  | @suppressed server response w' b f accepts wiring awaits spr world =>
    -- No response carries a marker, so `resetReady` alone has to announce the reset.
    have hdeaf : responseResetPending server = true := by
      unfold responseResetPending
      rw [awaits.pending, awaits.subfunction]
      simpa using awaits.nonzero
    obtain ⟨hcallbacks, hgate, -⟩ := completeReset_flags server
    split
    next => exact ⟨hclear _ fun _ => hdeaf, hserved _ wiring⟩
    next =>
      refine ⟨hclear _ fun _ => (completeReset_deaf server).trans hdeaf, hserved _ ?_⟩
      exact ⟨hcallbacks.trans wiring.callbacks,
        (congrArg UdsSecurityGate.persistFn hgate).trans wiring.persist⟩
  | @marked server response w' b f length accepts wiring awaits spr length_eq sid sub world =>
    have hclean : Markers (served e server response) := by
      apply hclear
      intro hready
      exact absurd (awaits.ready.symm.trans hready) Bool.false_ne_true
    have hawaits : AwaitsReset (served e server response) :=
      ⟨awaits.pending, rfl, by
        show server.pendingResetSubfunction ≠ 0
        rw [awaits.subfunction]
        exact awaits.nonzero, awaits.ready⟩
    refine ⟨?_, startResponse_wired (hserved _ wiring) ..⟩
    cases e.uds.resetPending with
    | true => exact startResponse_unmarked hclean ..
    | false => exact startResponse_marked hclean hawaits hpending hflight hqueued _ length_eq now

/-! ## Calls -/

theorem Sound.of_received {rx : IsoTpRx ω} {control : IsoTpCanFrame} {controlPending : Bool}
    (h : Sound config e) : Sound config (received e rx control controlPending) :=
  ⟨⟨h.markers.exclusive, h.markers.transfer, h.markers.pending, h.markers.flight,
      h.markers.queued, h.markers.ready⟩,
    ⟨h.wired.config_eq, h.wired.tx, h.wired.responseId, h.wired.callbacks, h.wired.persist⟩⟩

theorem Sound.of_tx {tx : IsoTpTx ω} {frame : IsoTpCanFrame} (h : Sound config e)
    (htx : Continues e.tx tx) : Sound config { e with tx := tx, pendingFrame := frame } :=
  ⟨h.markers.of_tx htx, h.wired.of_tx htx⟩

/-- The endpoint with an empty queue. -/
def dequeued (e : UdsIsoTpEndpoint ω) : UdsIsoTpEndpoint ω :=
  { e with
    queuedResponsePending := false
    queuedResponseLength := 0
    queuedResetCompletion := false }

/-- What was taken from the queue is no longer in it. -/
theorem dequeued_not_queued (e : UdsIsoTpEndpoint ω) : ¬QueuedMark (dequeued e) := by
  rintro ⟨hq, -⟩
  exact Bool.noConfusion hq

theorem TxFree.dequeued_unmarked (h : TxFree e) :
    ¬PendingMark (dequeued e) ∧ ¬FlightMark (dequeued e) ∧ ¬QueuedMark (dequeued e) := by
  obtain ⟨hpending, hflight⟩ := h.unmarked
  exact ⟨hpending, hflight, dequeued_not_queued e⟩

theorem Sound.dequeued (h : Sound config e) : Sound config (dequeued e) := by
  refine ⟨⟨h.markers.exclusive, h.markers.transfer, ?_, ?_,
      fun hq => absurd hq (dequeued_not_queued e), h.markers.ready⟩,
    ⟨h.wired.config_eq, h.wired.tx, h.wired.responseId, h.wired.callbacks, h.wired.persist⟩⟩
  · intro hp
    obtain ⟨hfinal, hawaits, -⟩ := h.markers.pending hp
    exact ⟨hfinal, hawaits, dequeued_not_queued e⟩
  · intro hf
    obtain ⟨hfinal, hawaits, -⟩ := h.markers.flight hf
    exact ⟨hfinal, hawaits, dequeued_not_queued e⟩

theorem processQueue_queued (hqueued : e.queuedResponsePending = true) (now : UInt32) (w : ω) :
    (processQueue e now w).2.1 = (startResponse (dequeued e) e.queuedResponse
      e.queuedResponseLength e.queuedResetCompletion now).2 := by
  unfold processQueue
  rw [if_pos hqueued]
  rfl

theorem processQueue_empty (hempty : ¬e.queuedResponsePending = true) (now : UInt32) (w : ω) :
    (processQueue e now w).2.1 = e := by
  unfold processQueue
  rw [if_neg hempty]

/-- The queue's response goes to a transmitter that is free. -/
theorem processQueue_sound (h : Sound config e) (now : UInt32) (w : ω) :
    Sound config (processQueue e now w).2.1 := by
  by_cases hqueued : e.queuedResponsePending = true
  · rw [processQueue_queued hqueued]
    refine ⟨?_, startResponse_wired h.dequeued.wired ..⟩
    cases hmark : e.queuedResetCompletion with
    | false => exact startResponse_unmarked h.dequeued.markers ..
    | true =>
      -- the queue's marker is the only one
      obtain ⟨hawaits, hlength⟩ := h.markers.queued ⟨hqueued, hmark⟩
      refine startResponse_marked h.dequeued.markers hawaits ?_ ?_ (dequeued_not_queued e) _
        hlength now
      · intro hp
        exact (h.markers.pending hp).2.2 ⟨hqueued, hmark⟩
      · intro hf
        exact (h.markers.flight hf).2.2 ⟨hqueued, hmark⟩
  · rw [processQueue_empty hqueued]
    exact h

/-- The main loop's call keeps the markers. -/
theorem process_sound (h : Sound config e) (now : UInt32) (w : ω) :
    Sound config (udsIsotpEndpointProcess e now w).2.1 := by
  have heffect := process_cases e now w
  generalize udsIsotpEndpointProcess e now w = out at heffect ⊢
  cases heffect with
  | waiting inFlight asked => exact h
  | aborted inFlight hook failed =>
    exact ⟨abortInFlight_markers h.markers, abortInFlight_wired h.wired⟩
  | controlRefused idle control sent => exact h
  | controlSent idle control sent => exact h.of_received
  | refused idle pending sent => exact h
  | sent idle pending sent asked =>
    exact ⟨submitted_markers h.markers pending,
      ⟨h.wired.config_eq, h.wired.tx, h.wired.responseId, h.wired.callbacks, h.wired.persist⟩⟩
  | completed idle pending sent asked =>
    have hwired : Wired config (submitted e) :=
      ⟨h.wired.config_eq, h.wired.tx, h.wired.responseId, h.wired.callbacks, h.wired.persist⟩
    exact ⟨completeInFlight_markers (submitted_markers h.markers pending),
      completeInFlight_wired hwired⟩
  | advanced idle quiet active ready =>
    -- a transfer of several frames never carries the marker
    have htx := next_continues e.tx now e.pendingFrame w
    have hmark := h.markers.transfer active
    refine ⟨⟨fun _ => idle, fun _ => hmark, ?_, h.markers.flight, h.markers.queued,
      h.markers.ready⟩, ⟨h.wired.config_eq, htx.2.1.trans h.wired.tx,
        htx.2.2.trans h.wired.responseId, h.wired.callbacks, h.wired.persist⟩⟩
    rintro ⟨-, hset⟩
    exact absurd (hmark.symm.trans hset) Bool.false_ne_true
  | paused idle quiet active notReady notComplete => exact h.of_tx (next_continues ..)
  | ended idle quiet active complete => exact processQueue_sound (h.of_tx (next_continues ..)) ..
  | queue idle quiet inactive => exact processQueue_sound h ..

/-- A frame that comes in does, too. -/
theorem receive_sound (h : Sound config e) (frame : IsoTpCanFrame) (event : IsoTpRxEvent)
    (now : UInt32) (w : ω) : Sound config (udsIsotpEndpointReceive e frame event now w).2.1 := by
  have heffect := receive_cases e frame event now w
  generalize udsIsotpEndpointReceive e frame event now w = out at heffect ⊢
  cases heffect with
  | dropped none => exact h
  | flow none => exact h.of_tx (feedFlowControl_continues ..)
  | part none => exact h.of_received
  | request some awake =>
    apply answered_sound h.of_received
    exact awake

/-- The server's tick carries out a reset that is due and changes no other reset field. -/
theorem serverTick_cases (server : UdsServer ω) (now : UInt32) (w : ω) :
    (server.resetReady = true ∧ (udsServerTick server now w).2.1.resetPending = false ∧
        (udsServerTick server now w).2.1.resetReady = false) ∨
      ((udsServerTick server now w).2.1.resetPending = server.resetPending ∧
        (udsServerTick server now w).2.1.resetReady = server.resetReady ∧
        (udsServerTick server now w).2.1.pendingResetSubfunction
          = server.pendingResetSubfunction) := by
  unfold udsServerTick
  dsimp only
  split
  next hdue => exact .inl ⟨hdue.2, rfl, rfl⟩
  next =>
    split
    next => exact .inr ⟨rfl, rfl, rfl⟩
    next => exact .inr ⟨rfl, rfl, rfl⟩

theorem serverTick_wiring (server : UdsServer ω) (now : UInt32) (w : ω) :
    SameWiring server (udsServerTick server now w).2.1 := by
  have hpersist := (gateTick_fields server.securityGate now w).1
  unfold udsServerTick
  dsimp only
  split_ifs <;> exact ⟨rfl, hpersist⟩

/-- And a tick. -/
theorem tick_sound (h : Sound config e) (now : UInt32) (w : ω) :
    Sound config (udsIsotpEndpointTick e now w).2.1 := by
  have htx := tick_continues e.tx now
  have hwiring := serverTick_wiring e.uds now w
  refine ⟨?_, ⟨h.wired.config_eq, htx.2.1.trans h.wired.tx, htx.2.2.trans h.wired.responseId,
    hwiring.callbacks.trans h.wired.callbacks, hwiring.persist.trans h.wired.persist⟩⟩
  have htransfer : (isotpTxTick e.tx now).2.state ≠ .idle → e.txResetCompletion = false :=
    fun hstate => h.markers.transfer (htx.1 hstate)
  obtain ⟨hdue, -, hready⟩ | ⟨hpending, hready, hsub⟩ := serverTick_cases e.uds now w
  · obtain ⟨hp, hf, hq⟩ := h.markers.none_ready hdue
    refine .of_none hp hf hq h.markers.exclusive htransfer ?_
    intro hset
    exact absurd (hready.symm.trans hset) Bool.false_ne_true
  · have hawaits : AwaitsReset e → AwaitsReset (udsIsotpEndpointTick e now w).2.1 := by
      intro hawaits
      refine ⟨hpending.trans hawaits.pending, rfl, ?_, hready.trans hawaits.ready⟩
      show (udsServerTick e.uds now w).2.1.pendingResetSubfunction ≠ 0
      rw [hsub]
      exact hawaits.nonzero
    have hdeaf : responseResetPending (udsServerTick e.uds now w).2.1
        = responseResetPending e.uds := by
      unfold responseResetPending
      rw [hpending, hsub]
    refine ⟨h.markers.exclusive, htransfer, ?_, ?_, ?_, ?_⟩
    · intro hp
      obtain ⟨hfinal, ha, hq⟩ := h.markers.pending hp
      exact ⟨hfinal, hawaits ha, hq⟩
    · intro hf
      obtain ⟨hfinal, ha, hq⟩ := h.markers.flight hf
      exact ⟨hfinal, hawaits ha, hq⟩
    · intro hq
      obtain ⟨ha, hlength⟩ := h.markers.queued hq
      exact ⟨hawaits ha, hlength⟩
    · intro hset
      exact hdeaf.trans (h.markers.ready (hready.symm.trans hset))

/-- Every call keeps what is known of the marker. -/
theorem endpointStep_sound (s : UdsIsoTpEndpoint ω × ω) (call : EndpointCall)
    (h : Sound config s.1) : Sound config (endpointStep s call).1 := by
  cases call with
  | receive frame event now => exact receive_sound h frame event now s.2
  | process now => exact process_sound h now s.2
  | tick now => exact tick_sound h now s.2
  | txComplete => exact ⟨completeInFlight_markers h.markers, completeInFlight_wired h.wired⟩

/-- An endpoint begins with no marker. -/
theorem init_sound {e₀ : UdsIsoTpEndpoint ω} (h : udsIsotpEndpointInit e₀ config now = some e) :
    Sound config e := by
  unfold udsIsotpEndpointInit at h
  split at h
  next => exact absurd h (by simp)
  next =>
    rw [← Option.some.inj h]
    refine ⟨.of_none ?_ ?_ ?_ (fun _ => rfl) (fun hstate => absurd rfl hstate) ?_,
      ⟨rfl, rfl, rfl, rfl, rfl⟩⟩
    · rintro ⟨hp, -⟩
      exact Bool.noConfusion hp
    · rintro ⟨hf, -⟩
      exact Bool.noConfusion hf
    · rintro ⟨hq, -⟩
      exact Bool.noConfusion hq
    · intro hready
      exact Bool.noConfusion hready

end UdsIsoTp.Endpoint
