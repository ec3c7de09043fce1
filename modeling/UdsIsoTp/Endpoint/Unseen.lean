import UdsIsoTp.Endpoint.Markers

/-!
# What no call on the endpoint touches

The endpoint acts on the world through the callbacks of its server and through the functions of
its configuration. What none of them touches, no call on the endpoint touches
(`endpointStep_unseen`).
-/

namespace UdsIsoTp.Endpoint

open UdsIsoTp.IsoTp UdsIsoTp.Uds

variable {ω β : Type} {proj : ω → β}

/-- `proj` is the same after every function of the configuration. -/
structure UnseenConfig (proj : ω → β) (config : UdsIsoTpEndpointConfig ω) : Prop where
  callbacks : Unseen proj config.udsCallbacks none
  accepted : ∀ f ∈ config.udsCallbacks.ecuReset, ∀ w sub, proj (f w sub).2 = proj w
  executed : ∀ f ∈ config.udsCallbacks.ecuResetExecute, ∀ w sub, proj (f w sub) = proj w
  sendFrame : ∀ w frame, proj (config.sendFrame w frame).2 = proj w
  txComplete : ∀ f ∈ config.txComplete, ∀ w, proj (f w).2 = proj w
  txError : ∀ f ∈ config.txError, ∀ w, proj (f w).2 = proj w
  resetEvent : ∀ f ∈ config.resetEvent, ∀ w event, proj (f w event) = proj w
  clock : ∀ f ∈ config.isotpConfig.clockUs, ∀ w, proj (f w).2 = proj w

/-- It is the same after every function that is called while no frame goes out. -/
structure UnseenServing (proj : ω → β) (config : UdsIsoTpEndpointConfig ω) : Prop where
  callbacks : Unseen proj config.udsCallbacks none
  accepted : ∀ f ∈ config.udsCallbacks.ecuReset, ∀ w sub, proj (f w sub).2 = proj w
  executed : ∀ f ∈ config.udsCallbacks.ecuResetExecute, ∀ w sub, proj (f w sub) = proj w
  resetEvent : ∀ f ∈ config.resetEvent, ∀ w event, proj (f w event) = proj w
  clock : ∀ f ∈ config.isotpConfig.clockUs, ∀ w, proj (f w).2 = proj w

variable {config : UdsIsoTpEndpointConfig ω} {e : UdsIsoTpEndpoint ω}

theorem UnseenConfig.serving (hu : UnseenConfig proj config) : UnseenServing proj config :=
  ⟨hu.callbacks, hu.accepted, hu.executed, hu.resetEvent, hu.clock⟩

theorem resetEvent_unseen (hu : UnseenServing proj config) (event : UdsResetEvent) (w : ω) :
    proj (resetEvent config event w) = proj w := by
  unfold resetEvent
  split
  next f hf => exact hu.resetEvent f hf w event
  next => rfl

/-- An event that may be reported. -/
theorem resetEvent_ite_unseen (hu : UnseenServing proj config) (p : Prop) [Decidable p]
    (event : UdsResetEvent) (w : ω) :
    proj (if p then resetEvent config event w else w) = proj w := by
  split
  next => exact resetEvent_unseen hu ..
  next => rfl

section Serving

variable (hu : UnseenServing proj config) (h : Wired config e)
include hu h

theorem answered_unseen (request : List UInt8) (mode : UdsAddressMode) (now : UInt32) (w : ω) :
    proj (answered e request mode now w).2.2 = proj w := by
  have hserved : proj (endpointServe e request mode now w).2.world = proj w := by
    refine handleAddressed_unseen (x := ⟨e.uds, e.response, 0, w⟩) ?_ ?_ request maxResponseLength
      mode now
    · rw [h.callbacks, h.persist]
      exact hu.callbacks
    · rw [h.callbacks]
      exact hu.accepted
  unfold answered deliverAnswer
  generalize endpointServe e request mode now w = out at hserved ⊢
  simp only [h.config_eq]
  split
  next =>
    split
    next =>
      exact (resetEvent_ite_unseen hu ..).trans ((resetEvent_unseen hu ..).trans hserved)
    next => exact hserved
  next =>
    split
    next => exact (resetEvent_ite_unseen hu ..).trans hserved
    next => exact (resetEvent_ite_unseen hu ..).trans ((resetEvent_ite_unseen hu ..).trans hserved)

theorem receive_unseen (frame : IsoTpCanFrame) (event : IsoTpRxEvent) (now : UInt32) (w : ω) :
    proj (udsIsotpEndpointReceive e frame event now w).2.2 = proj w := by
  have heffect := receive_cases e frame event now w
  generalize udsIsotpEndpointReceive e frame event now w = out at heffect ⊢
  cases heffect with
  | dropped none => rfl
  | flow none =>
    refine feedFlowControl_unseen (fun f hf => ?_) frame now w
    rw [h.tx] at hf
    exact hu.clock f hf
  | part none => rfl
  | @request rx control controlPending request mode some awake =>
    exact answered_unseen (e := received e rx control controlPending) hu
      ⟨h.config_eq, h.tx, h.responseId, h.callbacks, h.persist⟩ request mode now w

theorem completeInFlight_unseen (w : ω) : proj (completeInFlight e w).2 = proj w := by
  unfold completeInFlight
  split
  next => rfl
  next =>
    dsimp only
    split
    next =>
      rw [h.config_eq]
      exact resetEvent_unseen hu ..
    next => rfl

theorem submittedWorld_unseen (w : ω) : proj (submittedWorld e w) = proj w := by
  unfold submittedWorld
  rw [h.config_eq]
  exact resetEvent_ite_unseen hu ..

theorem tick_unseen (now : UInt32) (w : ω) :
    proj (udsIsotpEndpointTick e now w).2.2 = proj w := by
  have htick : proj (udsServerTick e.uds now w).2.2 = proj w := by
    refine udsServerTick_unseen (fun f hf => ?_) (fun f hf => ?_) now w
    · rw [h.persist] at hf
      exact absurd hf (Option.not_mem_none f)
    · rw [h.callbacks] at hf
      exact hu.executed f hf
  unfold udsIsotpEndpointTick
  dsimp only
  rw [h.config_eq]
  exact (resetEvent_ite_unseen hu ..).trans htick

end Serving

/-- Frames go out here. -/
theorem process_unseen (hu : UnseenConfig proj config) (h : Wired config e) (now : UInt32)
    (w : ω) : proj (udsIsotpEndpointProcess e now w).2.2 = proj w := by
  -- The driver's hooks first, as the steps below call them.
  have hsend {frame : IsoTpCanFrame} {sent : Bool} {w' : ω}
      (hsent : e.config.sendFrame w frame = (sent, w')) : proj w' = proj w := by
    rw [h.config_eq] at hsent
    have hw := hu.sendFrame w frame
    rw [hsent] at hw
    exact hw
  have hcomplete {f : ω → Bool × ω} {done : Bool} {w₁ w₂ : ω} (hf : e.config.txComplete = some f)
      (hasked : f w₁ = (done, w₂)) : proj w₂ = proj w₁ := by
    rw [h.config_eq] at hf
    have hw := hu.txComplete f hf w₁
    rw [hasked] at hw
    exact hw
  have herror {f : ω → Bool × ω} {lost : Bool} {w' : ω} (hf : e.config.txError = some f)
      (hasked : f w = (lost, w')) : proj w' = proj w := by
    rw [h.config_eq] at hf
    have hw := hu.txError f hf w
    rw [hasked] at hw
    exact hw
  have hnext : proj (isotpTxNext e.tx now e.pendingFrame w).2 = proj w :=
    next_unseen (fun f hf => hu.clock f (h.tx ▸ hf)) now e.pendingFrame w
  have heffect := process_cases e now w
  generalize udsIsotpEndpointProcess e now w = out at heffect ⊢
  cases heffect with
  | waiting inFlight asked =>
    rcases asked with ⟨-, rfl⟩ | ⟨f, hf, hasked⟩
    · rfl
    · exact herror hf hasked
  | aborted inFlight hook failed => exact herror hook failed
  | controlRefused idle control sent => exact hsend sent
  | controlSent idle control sent => exact hsend sent
  | refused idle pending sent => exact hsend sent
  | sent idle pending sent asked =>
    obtain ⟨f, hf, hasked⟩ := asked
    exact (hcomplete hf hasked).trans ((submittedWorld_unseen hu.serving h _).trans (hsend sent))
  | @completed w₁ w₂ idle pending sent asked =>
    have hwired : Wired config (submitted e) :=
      ⟨h.config_eq, h.tx, h.responseId, h.callbacks, h.persist⟩
    have hw : proj w₂ = proj (submittedWorld e w₁) := by
      rcases asked with ⟨-, rfl⟩ | ⟨f, hf, hasked⟩
      · rfl
      · exact hcomplete hf hasked
    exact (completeInFlight_unseen hu.serving hwired w₂).trans
      (hw.trans ((submittedWorld_unseen hu.serving h _).trans (hsend sent)))
  | advanced idle quiet active ready => exact hnext
  | paused idle quiet active notReady notComplete => exact hnext
  | ended idle quiet active complete =>
    rw [processQueue_world]
    exact hnext
  | queue idle quiet inactive => rw [processQueue_world]

theorem endpointStep_unseen (hu : UnseenConfig proj config) {s : UdsIsoTpEndpoint ω × ω}
    (h : Wired config s.1) (call : EndpointCall) : proj (endpointStep s call).2 = proj s.2 := by
  cases call with
  | receive frame event now => exact receive_unseen hu.serving h frame event now s.2
  | process now => exact process_unseen hu h now s.2
  | tick now => exact tick_unseen hu.serving h now s.2
  | txComplete => exact completeInFlight_unseen hu.serving h s.2

end UdsIsoTp.Endpoint
