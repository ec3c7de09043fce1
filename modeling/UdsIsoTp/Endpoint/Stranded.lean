import UdsIsoTp.Endpoint.Markers

/-!
# No reset is left stranded

While a reset waits for its response, the endpoint drops every request. So the wait has
to end: either the reset is due, or its response is still on the way and carries the
marker that will make it due.

This can fail. A change of session leaves `resetPending` set, and an ECU reset accepted
after it finds a reset pending already and marks no response; and a response that finds
both the transmitter and the queue occupied is dropped, with its marker. `ResetHasRoom`
excludes exactly these two, and then no reset is stranded (`reset_not_stranded`).
-/

namespace UdsIsoTp.Endpoint

open UdsIsoTp.IsoTp UdsIsoTp.Uds

variable {ω : Type}

/-- The reset is due, or a marked response is outstanding. -/
def ResetUnderway (e : UdsIsoTpEndpoint ω) : Prop :=
  e.uds.resetReady = true ∨ PendingMark e ∨ (FlightMark e ∧ e.inFlightFinal = true) ∨ QueuedMark e

/-- An endpoint that drops requests for the sake of a reset has that reset on its way. -/
def NotStranded (e : UdsIsoTpEndpoint ω) : Prop :=
  responseResetPending e.uds = true → ResetUnderway e

instance (e : UdsIsoTpEndpoint ω) : Decidable (NotStranded e) := by
  unfold NotStranded ResetUnderway PendingMark FlightMark QueuedMark
  infer_instance

/-- An ECU reset is only accepted while no other reset is pending, and while its response
has a place to go, if it has one. -/
def ResetHasRoom (s : UdsIsoTpEndpoint ω × ω) : EndpointCall → Prop
  | .receive frame event now => ∀ b mode f, requestOf s.1 frame event now = some ([0x11, b], mode) →
      Accepts s.1 s.2 [0x11, b] b f →
      s.1.uds.resetPending = false ∧
        (b &&& suppressPositiveResponse ≠ 0 ∨ TxFree s.1 ∨ s.1.queuedResponsePending = false)
  | _ => True

variable {e : UdsIsoTpEndpoint ω} {w : ω} {now : UInt32} {config : UdsIsoTpEndpointConfig ω}

theorem notStranded_awake (h : responseResetPending e.uds = false) : NotStranded e := by
  intro hdeaf
  exact absurd (h.symm.trans hdeaf) Bool.false_ne_true

/-- Completing a reset that is pending makes it due. -/
theorem completeReset_ready {server : UdsServer ω} (hpending : server.resetPending = true)
    (hexecute : server.callbacks.ecuResetExecute.isSome = true) :
    (udsServerCompleteReset server).2.resetReady = true := by
  have hsome : ¬server.callbacks.ecuResetExecute.isNone = true := by
    rw [← Option.not_isSome, hexecute]
    exact Bool.false_ne_true
  unfold udsServerCompleteReset
  rw [if_neg (not_not.mpr hpending), if_neg hsome]

/-- A transmitter that is free takes a short response. -/
theorem startResponse_free (hvalid : validTxConfig e.tx.config = true) (hfree : TxFree e)
    (response : Buf) {length : UInt16} (hlength : length = 2 ∨ length = 3) (now : UInt32) :
    PendingMark (startResponse e response length true now).2 := by
  have hshort := slice_short response hlength
  have hready : isotpTxStart e.tx _ now e.pendingFrame = _ := start_short hvalid hshort.1 hshort.2
  have heffect := startResponse_cases e response length true now
  generalize startResponse e response length true now = out at heffect ⊢
  cases heffect with
  | begun free ready => exact ⟨rfl, rfl⟩
  | queued busy room => exact absurd hfree busy
  | full busy occupied => exact absurd hfree busy
  | refused free failed hstatus =>
    rw [hready] at failed
    exact absurd rfl failed

/-- A marked response is never lost while there is room for it. -/
theorem startResponse_underway (hvalid : validTxConfig e.tx.config = true)
    (hroom : TxFree e ∨ e.queuedResponsePending = false) (response : Buf) {length : UInt16}
    (hlength : length = 2 ∨ length = 3) (now : UInt32) :
    ResetUnderway (startResponse e response length true now).2 := by
  by_cases hfree : TxFree e
  · exact .inr (.inl (startResponse_free hvalid hfree response hlength now))
  · have hempty : ¬e.queuedResponsePending = true := by
      rcases hroom with h | h
      · exact absurd h hfree
      · rw [h]
        exact Bool.false_ne_true
    unfold startResponse
    rw [if_pos hfree, if_neg hempty]
    exact .inr (.inr (.inr ⟨rfl, rfl⟩))

theorem answered_notStranded (hsound : Sound config e)
    (hvalid : validTxConfig config.isotpConfig = true)
    (hexecute : config.udsCallbacks.ecuResetExecute.isSome = true)
    (hawake : responseResetPending e.uds = false) {request : List UInt8} (mode : UdsAddressMode)
    (hroom : ∀ b f, Accepts e w request b f → e.uds.resetPending = false ∧
      (b &&& suppressPositiveResponse ≠ 0 ∨ TxFree e ∨ e.queuedResponsePending = false)) :
    NotStranded (answered e request mode now w).2.1 := by
  have hu := unseen_blind e.uds.callbacks e.uds.securityGate.persistFn
  have heffect := answered_cases (w := w) (hsound.markers.awake hawake) hu (fun _ _ => rfl)
    request mode now
  generalize answered e request mode now w = out at heffect ⊢
  cases heffect with
  | silent awake wiring world => exact notStranded_awake awake.quiet
  | @plain server response w' length awake wiring world =>
    have hstart := startResponse_cases (served e server response) response length false now
    apply notStranded_awake
    show responseResetPending (startResponse (served e server response) response length false
      now).2.uds = false
    generalize startResponse (served e server response) response length false now = out at hstart ⊢
    cases hstart <;> exact awake.quiet
  | @suppressed server response w' b f accepts wiring awaits spr world =>
    intro _
    rw [(hroom b f accepts).1, if_neg Bool.false_ne_true]
    refine .inl ?_
    refine completeReset_ready awaits.pending ?_
    rw [wiring.callbacks, ← hexecute]
    exact congrArg (fun c => c.ecuResetExecute.isSome) hsound.wired.callbacks
  | @marked server response w' b f length accepts wiring awaits spr length_eq sid sub world =>
    intro _
    obtain ⟨hpending, hplace⟩ := hroom b f accepts
    show ResetUnderway (startResponse (served e server response) response length
      (!e.uds.resetPending) now).2
    rw [hpending]
    refine startResponse_underway ?_ ?_ response length_eq now
    · show validTxConfig e.tx.config = true
      rw [hsound.wired.tx]
      exact hvalid
    · rcases hplace with hspr | hfree | hempty
      · exact absurd spr hspr
      · exact .inl hfree
      · exact .inr hempty

/-- A marked frame that is confirmed makes its reset due. -/
theorem completeInFlight_notStranded (hsound : Sound config e)
    (hexecute : config.udsCallbacks.ecuResetExecute.isSome = true) (h : NotStranded e) :
    NotStranded (completeInFlight e w).1 := by
  unfold completeInFlight
  split
  next => exact h
  next hin =>
    replace hin := not_not.mp hin
    dsimp only
    split
    next hmark =>
      intro _
      obtain ⟨-, hawaits, -⟩ := hsound.markers.flight ⟨hin, hmark.2⟩
      refine .inl ?_
      refine completeReset_ready hawaits.pending ?_
      rw [hsound.wired.callbacks]
      exact hexecute
    next hmark =>
      intro hdeaf
      rcases h hdeaf with hready | hp | ⟨hf, hfinal⟩ | hq
      · exact .inl hready
      · exact .inr (.inl hp)
      · exact absurd ⟨hfinal, hf.2⟩ hmark
      · exact .inr (.inr (.inr hq))

/-- The queue's response keeps its marker. -/
theorem processQueue_notStranded (hsound : Sound config e)
    (hvalid : validTxConfig config.isotpConfig = true) (hfree : TxFree e) (h : NotStranded e) :
    NotStranded (processQueue e now w).2.1 := by
  by_cases hqueued : e.queuedResponsePending = true
  · rw [processQueue_queued hqueued]
    cases hmark : e.queuedResetCompletion with
    | true =>
      intro _
      obtain ⟨-, hlength⟩ := hsound.markers.queued ⟨hqueued, hmark⟩
      refine .inr (.inl (startResponse_free (e := dequeued e) ?_ hfree _ hlength now))
      show validTxConfig e.tx.config = true
      rw [hsound.wired.tx]
      exact hvalid
    | false =>
      obtain ⟨hpending, hflight⟩ := TxFree.unmarked hfree
      have hready : responseResetPending e.uds = true → e.uds.resetReady = true := by
        intro hdeaf
        rcases h hdeaf with hready | hp | ⟨hf, -⟩ | ⟨-, hq⟩
        · exact hready
        · exact absurd hp hpending
        · exact absurd hf hflight
        · exact absurd (hmark.symm.trans hq) Bool.false_ne_true
      have hstart := startResponse_cases (dequeued e) e.queuedResponse e.queuedResponseLength
        false now
      generalize startResponse (dequeued e) e.queuedResponse e.queuedResponseLength false now
        = out at hstart ⊢
      cases hstart with
      | begun free ready => exact fun hdeaf => .inl (hready hdeaf)
      | queued busy room => exact absurd hfree busy
      | full busy occupied => exact absurd hfree busy
      | refused free failed hstatus => exact fun hdeaf => .inl (hready hdeaf)
  · rw [processQueue_empty hqueued]
    exact h

theorem process_notStranded (hsound : Sound config e)
    (hvalid : validTxConfig config.isotpConfig = true)
    (hexecute : config.udsCallbacks.ecuResetExecute.isSome = true) (h : NotStranded e) :
    NotStranded (udsIsotpEndpointProcess e now w).2.1 := by
  -- a frame handed to the bus is in flight and no longer pending
  have hsubmitted : e.txPending = true → NotStranded (submitted e) := by
    intro hpending hdeaf
    rcases h hdeaf with hready | hp | ⟨hf, -⟩ | hq
    · exact .inl hready
    · exact .inr (.inr (.inl ⟨⟨rfl, hp.2⟩, (hsound.markers.pending hp).1⟩))
    · exact absurd ((hsound.markers.exclusive hpending).symm.trans hf.1) Bool.false_ne_true
    · exact .inr (.inr (.inr hq))
  have heffect := process_cases e now w
  generalize udsIsotpEndpointProcess e now w = out at heffect ⊢
  cases heffect with
  | waiting inFlight asked => exact h
  | aborted inFlight hook failed =>
    unfold abortInFlight
    rw [if_neg (not_not.mpr inFlight)]
    exact notStranded_awake rfl
  | controlRefused idle control sent => exact h
  | controlSent idle control sent => exact h
  | refused idle pending sent => exact h
  | sent idle pending sent asked => exact hsubmitted pending
  | completed idle pending sent asked =>
    have hsound' : Sound config (submitted e) := ⟨submitted_markers hsound.markers pending,
      ⟨hsound.wired.config_eq, hsound.wired.tx, hsound.wired.responseId, hsound.wired.callbacks,
        hsound.wired.persist⟩⟩
    exact completeInFlight_notStranded hsound' hexecute (hsubmitted pending)
  | advanced idle quiet active ready =>
    intro hdeaf
    rcases h hdeaf with hready | hp | hf | hq
    · exact .inl hready
    · exact absurd (quiet.symm.trans hp.1) Bool.false_ne_true
    · exact .inr (.inr (.inl hf))
    · exact .inr (.inr (.inr hq))
  | paused idle quiet active notReady notComplete => exact h
  | ended idle quiet active complete =>
    exact processQueue_notStranded (hsound.of_tx (next_continues ..)) hvalid
      ⟨quiet, idle, next_complete_idle complete⟩ h
  | queue idle quiet inactive =>
    exact processQueue_notStranded hsound hvalid ⟨quiet, idle, inactive⟩ h

theorem tick_notStranded (h : NotStranded e) :
    NotStranded (udsIsotpEndpointTick e now w).2.1 := by
  obtain ⟨-, hpending, -⟩ | ⟨hpending, hready, hsub⟩ := serverTick_cases e.uds now w
  · apply notStranded_awake
    show responseResetPending (udsServerTick e.uds now w).2.1 = false
    unfold responseResetPending
    rw [hpending]
    rfl
  · intro hdeaf
    have hwas : responseResetPending e.uds = true := by
      rw [← hdeaf]
      show _ = responseResetPending (udsServerTick e.uds now w).2.1
      unfold responseResetPending
      rw [hpending, hsub]
    rcases h hwas with hr | hp | hf | hq
    · exact .inl (hready.trans hr)
    · exact .inr (.inl hp)
    · exact .inr (.inr (.inl hf))
    · exact .inr (.inr (.inr hq))

theorem endpointStep_notStranded (hvalid : validTxConfig config.isotpConfig = true)
    (hexecute : config.udsCallbacks.ecuResetExecute.isSome = true)
    (s : UdsIsoTpEndpoint ω × ω) (call : EndpointCall) (hsound : Sound config s.1)
    (h : NotStranded s.1) (hroom : ResetHasRoom s call) : NotStranded (endpointStep s call).1 := by
  cases call with
  | receive frame event now =>
    show NotStranded (udsIsotpEndpointReceive s.1 frame event now s.2).2.1
    have heffect := receive_cases s.1 frame event now s.2
    generalize udsIsotpEndpointReceive s.1 frame event now s.2 = out at heffect ⊢
    cases heffect with
    | dropped none => exact h
    | flow none => exact h
    | part none => exact h
    | @request rx control controlPending request mode some awake =>
      apply answered_notStranded hsound.of_received hvalid hexecute
      · exact awake
      intro b f haccepts
      have hrequest := haccepts.request_eq
      subst hrequest
      exact hroom b mode f some ⟨rfl, haccepts.callback, haccepts.range, haccepts.ok⟩
  | process now => exact process_notStranded hsound hvalid hexecute h
  | tick now => exact tick_notStranded h
  | txComplete => exact completeInFlight_notStranded hsound hexecute h

/-- **No stranded reset.** In every run in which an ECU reset is only accepted while no
other reset is pending and its response has a place to go, a reset that makes the
endpoint drop requests is on its way in every state. -/
theorem reset_not_stranded (e₀ e : UdsIsoTpEndpoint ω) (config : UdsIsoTpEndpointConfig ω)
    (start : UInt32) (w : ω) (hinit : udsIsotpEndpointInit e₀ config start = some e)
    (hvalid : validTxConfig config.isotpConfig = true)
    (hexecute : config.udsCallbacks.ecuResetExecute.isSome = true) (calls : List EndpointCall)
    (hroom : Along endpointStep ResetHasRoom (e, w) calls) :
    NotStranded (run endpointStep (e, w) calls).1 := by
  have h0 : Sound config e ∧ NotStranded e := by
    refine ⟨init_sound hinit, notStranded_awake ?_⟩
    unfold udsIsotpEndpointInit at hinit
    split at hinit
    next => exact absurd hinit (by simp)
    next =>
      rw [← Option.some.inj hinit]
      rfl
  refine (Along.inv (I := fun s => Sound config s.1 ∧ NotStranded s.1) ?_ h0 hroom).2
  intro s call hs hok
  exact ⟨endpointStep_sound s call hs.1,
    endpointStep_notStranded hvalid hexecute s call hs.1 hs.2 hok⟩

/-! ### Runs on a bench -/

/-- A bus that takes and confirms every frame, and callbacks that accept every reset. -/
def benchConfig : UdsIsoTpEndpointConfig Unit where
  sendFrame _ _ := (true, ())
  txComplete := some fun _ => (true, ())
  txError := none
  resetEvent := none
  isotpConfig := isotpConfigClassicCan
  requestId := 0x7E0
  responseId := 0x7E8
  functionalRequestId := 0
  udsCallbacks :=
    { ecuReset := some fun _ _ => (.ok, ())
      ecuResetExecute := some fun _ _ => () }

/-- A single frame with this payload. -/
def benchFrame (canId : UInt32) (payload : List UInt8) : IsoTpCanFrame where
  canId := canId
  dlc := payload.length + 1
  isFd := false
  bitRateSwitch := false
  data := Buf.ofList (UInt8.ofNat payload.length :: payload)

/-- An event with nothing in it. -/
def benchEvent : IsoTpRxEvent where
  payload := none
  length := 0
  hasFlowControl := false
  unexpectedNPdu := false
  flowControl := benchFrame 0 []

/-- Cleared memory, before `init`. -/
def blankEndpoint (config : UdsIsoTpEndpointConfig ω) : UdsIsoTpEndpoint ω where
  config := config
  rx := ⟨config.isotpConfig, 0, 0, fun _ => 0, 0, 0, 0, 0, 0, false⟩
  tx := ⟨config.isotpConfig, 0, 0, fun _ => 0, 0, 0, 0, 0, 0, 0, 0, 0, 0, 0, .idle, 0⟩
  uds := udsServerInit {} 0
  response := fun _ => 0
  pendingFrame := benchFrame 0 []
  txPending := false
  pendingControlFrame := benchFrame 0 []
  controlPending := false
  pendingResetCompletion := false
  pendingFrameFinal := false
  txInFlight := false
  inFlightFinal := false
  inFlightResetCompletion := false
  txResetCompletion := false
  queuedResponse := fun _ => 0
  queuedResponseLength := 0
  queuedResponsePending := false
  queuedResetCompletion := false

/-- The endpoint of a configuration that `init` accepts. -/
def bench (config : UdsIsoTpEndpointConfig ω) : UdsIsoTpEndpoint ω :=
  (udsIsotpEndpointInit (blankEndpoint config) config 0).getD (blankEndpoint config)

/-- The request as one frame from the tester. -/
def ask (payload : List UInt8) : EndpointCall := .receive (benchFrame 0x7E0 payload) benchEvent 0

/-- One reset on a quiet endpoint: asked for, answered, carried out. -/
theorem reset_not_stranded_bench :
    NotStranded (run endpointStep (bench benchConfig, ())
      [ask [0x11, 0x01], .process 0, .tick 0]).1 := by
  refine reset_not_stranded (blankEndpoint benchConfig) (bench benchConfig) benchConfig 0 () rfl
    rfl rfl _ ⟨?_, trivial, trivial, trivial⟩
  intro b mode f _ _
  exact ⟨rfl, .inr (.inr rfl)⟩

/-- A return to the default session, and then a reset without response: nothing is due and
nothing is on its way, and every request is dropped from here on. -/
theorem reset_stranded_by_session :
    udsIsotpEndpointInit (blankEndpoint benchConfig) benchConfig 0 = some (bench benchConfig) ∧
      validTxConfig benchConfig.isotpConfig = true ∧
      benchConfig.udsCallbacks.ecuReset.isSome = true ∧
      benchConfig.udsCallbacks.ecuResetExecute.isSome = true ∧
      benchConfig.txComplete.isSome = true ∧
      ¬NotStranded (run endpointStep (bench benchConfig, ())
        [ask [0x10, 0x03], .process 0, ask [0x10, 0x01], .process 0, ask [0x11, 0x81]]).1 :=
  ⟨rfl, rfl, rfl, rfl, rfl, by decide⟩

/-- The other way: two responses occupy the transmitter and the queue, and the reset's is
dropped. -/
example : ¬NotStranded (run endpointStep (bench benchConfig, ())
    [ask [0x3E, 0x00], ask [0x3E, 0x00], ask [0x11, 0x01]]).1 := by
  decide

end UdsIsoTp.Endpoint
