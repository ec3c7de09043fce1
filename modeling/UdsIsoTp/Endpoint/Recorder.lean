import UdsIsoTp.Endpoint.Markers
import UdsIsoTp.Lib.Log
import UdsIsoTp.Uds.Beside

/-!
# A recorder

What an endpoint does is seen in the calls it makes: the frames it hands out, the
questions it asks about them, the resets it has accepted and carried out. `record` puts a
log beside the world of any configuration, and every callback of that kind writes its
call and its verdict there; the others leave the log alone (`record_unseen`).

Two things that the callbacks cannot see are written by the step itself: the request that
a frame completes, and the caller's own report that a frame is complete.
-/

namespace UdsIsoTp.Endpoint

open UdsIsoTp.IsoTp UdsIsoTp.Uds

variable {ω : Type}

/-- What the owner of the endpoint can see happen. -/
inductive EndpointEvent where
  /-- The server is about to see this request. -/
  | request (request : List UInt8)
  /-- `ecu_reset` has accepted a reset. -/
  | accepted (sub : UInt8)
  /-- `send_frame` was offered the frame, and took it or not. -/
  | sent (frame : IsoTpCanFrame) (taken : Bool)
  /-- `tx_complete` was asked. -/
  | completed (done : Bool)
  /-- The caller has reported completion. -/
  | reported
  /-- `tx_error` was asked. -/
  | failed (lost : Bool)
  /-- `ecu_reset_execute` was called. -/
  | executed (sub : UInt8)

/-- A world with the log of what has happened in it. -/
abbrev Recorded (ω : Type) := ω × List EndpointEvent

/-! ## The recorder -/

/-- The callbacks, with a log of the resets they accept and carry out. -/
def recordCallbacks (c : UdsCallbacks ω) : UdsCallbacks (Recorded ω) :=
  { besideCallbacks c with
    ecuReset := c.ecuReset.map fun f w sub =>
      ((f w.1 sub).1, (f w.1 sub).2,
        if (f w.1 sub).1 = .ok then w.2 ++ [.accepted sub] else w.2)
    ecuResetExecute := c.ecuResetExecute.map fun f w sub => (f w.1 sub, w.2 ++ [.executed sub]) }

/-- The callbacks, with their calls recorded. -/
def record (config : UdsIsoTpEndpointConfig ω) : UdsIsoTpEndpointConfig (Recorded ω) where
  sendFrame w frame :=
    ((config.sendFrame w.1 frame).1, (config.sendFrame w.1 frame).2,
      w.2 ++ [.sent frame (config.sendFrame w.1 frame).1])
  txComplete := config.txComplete.map fun f w =>
    ((f w.1).1, (f w.1).2, w.2 ++ [.completed (f w.1).1])
  txError := config.txError.map fun f w => ((f w.1).1, (f w.1).2, w.2 ++ [.failed (f w.1).1])
  resetEvent := config.resetEvent.map fun f w event => (f w.1 event, w.2)
  isotpConfig :=
    { config.isotpConfig with
      clockUs := config.isotpConfig.clockUs.map fun f w => besideVerdict (f w.1) w.2 }
  requestId := config.requestId
  responseId := config.responseId
  functionalRequestId := config.functionalRequestId
  udsCallbacks := recordCallbacks config.udsCallbacks

/-- The world in which a call begins, with what only the step can see. -/
def noted (s : UdsIsoTpEndpoint (Recorded ω) × Recorded ω) : EndpointCall → Recorded ω
  | .receive frame event now =>
    match requestOf s.1 frame event now with
    | some (request, _) => (s.2.1, s.2.2 ++ [.request request])
    | none => s.2
  | .txComplete => (s.2.1, s.2.2 ++ [.reported])
  | _ => s.2

/-- One call, recorded. -/
def recordStep (s : UdsIsoTpEndpoint (Recorded ω) × Recorded ω) (call : EndpointCall) :
    UdsIsoTpEndpoint (Recorded ω) × Recorded ω :=
  endpointStep (s.1, noted s call) call

/-! ## What the log shows -/

/-- No callback writes the log, an accepted reset excepted. -/
theorem record_unseen (c : UdsCallbacks ω) :
    Unseen (Prod.snd : Recorded ω → List EndpointEvent) (recordCallbacks c) none := by
  refine { beside_unseen c with ecuReset := ?_ }
  intro f hf w sub hne
  obtain ⟨f', -, rfl⟩ := Option.map_eq_some_iff.mp hf
  exact if_neg hne

section Hooks

variable {config : UdsIsoTpEndpointConfig ω} {w w' : Recorded ω}

theorem record_resetEvent (event : UdsResetEvent) (w : Recorded ω) :
    (resetEvent (record config) event w).2 = w.2 := by
  unfold resetEvent
  split
  next f hf =>
    obtain ⟨f', -, rfl⟩ := Option.map_eq_some_iff.mp hf
    rfl
  next => rfl

/-- An offer to the bus is recorded. -/
theorem record_sendFrame {frame : IsoTpCanFrame} {taken : Bool}
    (h : (record config).sendFrame w frame = (taken, w')) :
    w'.2 = w.2 ++ [.sent frame taken] := by
  cases h
  rfl

/-- A confirmation is recorded. -/
theorem record_txComplete {f : Recorded ω → Bool × Recorded ω} {done : Bool}
    (hook : (record config).txComplete = some f) (h : f w = (done, w')) :
    w'.2 = w.2 ++ [.completed done] := by
  obtain ⟨f', -, rfl⟩ := Option.map_eq_some_iff.mp hook
  cases h
  rfl

/-- A failure is recorded. -/
theorem record_txError {f : Recorded ω → Bool × Recorded ω} {lost : Bool}
    (hook : (record config).txError = some f) (h : f w = (lost, w')) :
    w'.2 = w.2 ++ [.failed lost] := by
  obtain ⟨f', -, rfl⟩ := Option.map_eq_some_iff.mp hook
  cases h
  rfl

/-- A reset that is accepted is recorded. -/
theorem record_ecuReset {f : Recorded ω → UInt8 → UdsCallbackResult × Recorded ω} {sub : UInt8}
    (hook : (recordCallbacks config.udsCallbacks).ecuReset = some f)
    (h : (f w sub).1 = .ok) : (f w sub).2.2 = w.2 ++ [.accepted sub] := by
  obtain ⟨f', -, rfl⟩ := Option.map_eq_some_iff.mp hook
  exact if_pos h

/-- A reset that is executed is recorded. -/
theorem record_executeReset (config : UdsIsoTpEndpointConfig ω) (sub : UInt8) (w : Recorded ω) :
    (executeReset (recordCallbacks config.udsCallbacks) sub w).2 = w.2 ∨
      (executeReset (recordCallbacks config.udsCallbacks) sub w).2 = w.2 ++ [.executed sub] := by
  unfold executeReset
  split
  next f hf =>
    obtain ⟨f', -, rfl⟩ := Option.map_eq_some_iff.mp hf
    exact .inr rfl
  next => exact .inl rfl

variable {tx : IsoTpTx (Recorded ω)} {now : UInt32}

theorem record_clock (htx : tx.config = (record config).isotpConfig)
    {f : Recorded ω → UInt32 × Recorded ω} (hf : tx.config.clockUs = some f) (w : Recorded ω) :
    (f w).2.2 = w.2 := by
  rw [htx] at hf
  obtain ⟨f', -, rfl⟩ := Option.map_eq_some_iff.mp hf
  rfl

/-- The transmitter is not recorded. -/
theorem record_next (htx : tx.config = (record config).isotpConfig) (frame : IsoTpCanFrame)
    (w : Recorded ω) : (isotpTxNext tx now frame w).2.2 = w.2 :=
  next_unseen (fun _ hf => record_clock htx hf) now frame w

theorem record_feed (htx : tx.config = (record config).isotpConfig) (frame : IsoTpCanFrame)
    (w : Recorded ω) : (isotpTxFeedFlowControl tx frame now w).2.2.2 = w.2 :=
  feedFlowControl_unseen (fun _ hf => record_clock htx hf) frame now w

/-- The end of a frame is seen by nobody. -/
theorem completeInFlight_world (e : UdsIsoTpEndpoint (Recorded ω)) (w : Recorded ω)
    (hconfig : e.config = record config) : (completeInFlight e w).2.2 = w.2 := by
  unfold completeInFlight
  split
  next => rfl
  next =>
    dsimp only
    split
    next =>
      rw [hconfig]
      exact record_resetEvent ..
    next => rfl

theorem submittedWorld_log {e : UdsIsoTpEndpoint (Recorded ω)}
    (hconfig : e.config = record config) (w : Recorded ω) :
    (submittedWorld e w).2 = w.2 := by
  unfold submittedWorld
  split
  next =>
    rw [hconfig]
    exact record_resetEvent ..
  next => rfl

end Hooks

end UdsIsoTp.Endpoint
