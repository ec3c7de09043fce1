import UdsIsoTp.Endpoint.Stranded
import UdsIsoTp.IsoTp.Reassembly

/-!
# Functional requests during a reassembly

The endpoint has one receiver for two channels. A frame with the functional identifier
that does not look like a single frame is dropped before the receiver sees it; a single
frame is handed over under the physical identifier. `rx_single` resets the receiver before
it copies the payload, and a full-duplex receiver resets itself on any single frame while
it is active. So the reassembly of a physical request survives exactly the frames that are
stopped on the way (`Harmless`).
-/

namespace UdsIsoTp.Endpoint

open UdsIsoTp.IsoTp UdsIsoTp.Uds

variable {ω : Type} {config : UdsIsoTpEndpointConfig ω} {e : UdsIsoTpEndpoint ω} {w : ω}
  {now : UInt32}

/-! ## Where the receiver changes -/

theorem startResponse_rx (e : UdsIsoTpEndpoint ω) (response : Buf) (length : UInt16)
    (mark : Bool) (now : UInt32) : (startResponse e response length mark now).2.rx = e.rx := by
  have heffect := startResponse_cases e response length mark now
  generalize startResponse e response length mark now = out at heffect ⊢
  cases heffect with
  | begun free ready => rfl
  | queued busy room => rfl
  | full busy occupied => rfl
  | refused free failed hstatus => rfl

theorem deliverAnswer_rx (e : UdsIsoTpEndpoint ω) (served : Served ω) (mark : Bool)
    (now : UInt32) : (deliverAnswer e served mark now).2.1.rx = e.rx := by
  unfold deliverAnswer
  dsimp only
  split
  next =>
    split
    next => rfl
    next => rfl
  next =>
    split
    next => rfl
    next => exact startResponse_rx ..

theorem handleRxCompletion_rx (e : UdsIsoTpEndpoint ω) (event : IsoTpRxEvent)
    (mode : UdsAddressMode) (now : UInt32) (w : ω) :
    (handleRxCompletion e event mode now w).2.1.rx = e.rx := by
  unfold handleRxCompletion
  split
  next => rfl
  next => exact deliverAnswer_rx ..

/-- Whatever becomes of the request, the receiver is as the frame left it. -/
theorem receiveRequest_rx (e : UdsIsoTpEndpoint ω) (frame : IsoTpCanFrame)
    (event : IsoTpRxEvent) (now : UInt32) (w : ω) :
    (receiveRequest e frame event now w).2.1.rx
      = (isotpRxFeed e.rx (networkFrame e frame).1 now event).rx := by
  unfold receiveRequest queueControlFrame
  dsimp only
  split
  next =>
    split
    next => rfl
    next =>
      rw [if_neg (by simp)]
      split
      next => rfl
      next => exact handleRxCompletion_rx ..
  next =>
    split
    next => rfl
    next => exact handleRxCompletion_rx ..

/-- A received frame reaches the receiver once, or not at all. -/
theorem receive_rx (e : UdsIsoTpEndpoint ω) (frame : IsoTpCanFrame) (event : IsoTpRxEvent)
    (now : UInt32) (w : ω) :
    (udsIsotpEndpointReceive e frame event now w).2.1.rx = e.rx ∨
      (udsIsotpEndpointReceive e frame event now w).2.1.rx
        = (isotpRxFeed e.rx (networkFrame e frame).1 now event).rx := by
  unfold udsIsotpEndpointReceive
  split
  next => exact .inl rfl
  next =>
    split
    next =>
      split
      next => exact .inl rfl
      next => exact .inl rfl
    next =>
      split
      next => exact .inl rfl
      next =>
        split
        next => exact .inl rfl
        next => exact .inr (receiveRequest_rx ..)

theorem process_rx (e : UdsIsoTpEndpoint ω) (now : UInt32) (w : ω) :
    (udsIsotpEndpointProcess e now w).2.1.rx = e.rx := by
  have hqueue : ∀ (e : UdsIsoTpEndpoint ω) (w : ω), (processQueue e now w).2.1.rx = e.rx := by
    intro e w
    unfold processQueue
    split
    next => exact startResponse_rx ..
    next => rfl
  have hdone : ∀ (e : UdsIsoTpEndpoint ω) (w : ω), (completeInFlight e w).1.rx = e.rx := by
    intro e w
    unfold completeInFlight
    dsimp only
    repeat' split
    all_goals rfl
  have heffect := process_cases e now w
  generalize udsIsotpEndpointProcess e now w = out at heffect ⊢
  cases heffect with
  | waiting => rfl
  | aborted =>
    unfold abortInFlight
    dsimp only
    split <;> rfl
  | controlRefused => rfl
  | controlSent => rfl
  | refused => rfl
  | sent => rfl
  | completed => exact hdone ..
  | advanced => rfl
  | paused => rfl
  | ended => exact hqueue ..
  | queue => exact hqueue ..

/-! ## What the receiver listens to -/

/-- The receiver is set up as the configuration says. -/
structure Tuned (config : UdsIsoTpEndpointConfig ω) (rx : IsoTpRx ω) : Prop where
  config_eq : rx.config = config.isotpConfig
  requestId : rx.requestId = config.requestId

theorem Tuned.feed {rx : IsoTpRx ω} (h : Tuned config rx) (frame : IsoTpCanFrame)
    (now : UInt32) (event : IsoTpRxEvent) : Tuned config (isotpRxFeed rx frame now event).rx :=
  ⟨(feed_config ..).trans h.config_eq, (feed_requestId ..).trans h.requestId⟩

theorem endpointStep_tuned (s : UdsIsoTpEndpoint ω × ω) (call : EndpointCall)
    (h : Tuned config s.1.rx) : Tuned config (endpointStep s call).1.rx := by
  cases call with
  | receive frame event now =>
    rcases receive_rx s.1 frame event now s.2 with hrx | hrx
    · exact hrx ▸ h
    · exact hrx ▸ h.feed ..
  | process now => exact (process_rx s.1 now s.2).symm ▸ h
  | tick now =>
    show Tuned config (isotpRxTick s.1.rx now).2
    unfold isotpRxTick
    split
    next => exact h
    next =>
      split
      next => exact ⟨h.config_eq, h.requestId⟩
      next => exact h
  | txComplete =>
    show Tuned config (completeInFlight s.1 s.2).1.rx
    unfold completeInFlight
    dsimp only
    repeat' split
    all_goals exact h

theorem init_tuned {e₀ : UdsIsoTpEndpoint ω} (h : udsIsotpEndpointInit e₀ config now = some e) :
    Tuned config e.rx := by
  unfold udsIsotpEndpointInit at h
  split at h
  next => exact absurd h (by simp)
  next =>
    rw [← Option.some.inj h]
    exact ⟨rfl, rfl⟩

/-! ## A functional frame -/

/-- Nothing of a reassembly is lost: its counters, its deadline and the bytes so far. -/
structure Intact (before after : IsoTpRx ω) : Prop where
  active : after.active = before.active
  expectedLen : after.expectedLen = before.expectedLen
  receivedLen : after.receivedLen = before.receivedLen
  nextSequence : after.nextSequence = before.nextSequence
  blockCount : after.blockCount = before.blockCount
  deadlineMs : after.deadlineMs = before.deadlineMs
  bytes : after.buffer.slice 0 before.receivedLen = before.buffer.slice 0 before.receivedLen

/-- The header of a single frame announces a payload that the frame holds. -/
def SfHolds (frame : IsoTpCanFrame) : Prop :=
  ∃ length header, (decodeSf frame).1 = some (length, header) ∧ length ≤ frame.dlc - header

/-- A functional frame that is stopped before the receiver gives up what it has: there is no
functional channel, the endpoint drops the frame, or the receiver cannot use it. -/
def Harmless (e : UdsIsoTpEndpoint ω) (frame : IsoTpCanFrame) : Prop :=
  e.config.functionalRequestId = 0 ∨ frame.dlc = 0 ∨ responseResetPending e.uds = true ∨
    frame.highNibble ≠ 0 ∨ frameValid e.config.isotpConfig frame = false ∨
    (e.config.isotpConfig.fullDuplex = false ∧ ¬SfHolds frame)

/-- A single frame that holds its payload takes the place of what was being received. -/
theorem rxSingle_ends (rx : IsoTpRx ω) {frame : IsoTpCanFrame} (event : IsoTpRxEvent)
    (hdlc : 1 ≤ frame.dlc) (hholds : SfHolds frame) :
    (rxSingle rx frame event).rx.active = false := by
  obtain ⟨length, header, hsf, hfit⟩ := hholds
  obtain ⟨-, hshort, -, -⟩ := decodeSf_some hdlc hsf
  unfold rxSingle
  split
  next reads hnone =>
    rw [hnone] at hsf
    exact absurd hsf (by simp)
  next length' header' reads hsome =>
    rw [hsome] at hsf
    obtain ⟨rfl, rfl⟩ := Prod.mk.inj (Option.some.inj hsf)
    rw [if_neg (by omega), if_neg (by unfold maxPayload; omega)]
    rfl

/-- Any other leaves the receiver alone. -/
theorem rxSingle_keeps (rx : IsoTpRx ω) {frame : IsoTpCanFrame} (event : IsoTpRxEvent)
    (hholds : ¬SfHolds frame) : (rxSingle rx frame event).rx = rx := by
  unfold rxSingle
  split
  next => rfl
  next length header reads hsome =>
    have hover : frame.dlc - header < length := by
      by_contra hfit
      exact hholds ⟨length, header, by rw [hsome], by omega⟩
    rw [if_pos hover]

/-- A single frame for an active receiver. -/
theorem feed_single_active {rx : IsoTpRx ω} (frame : IsoTpCanFrame) (now : UInt32)
    (event : IsoTpRxEvent)
    (hvalid : frameValid rx.config frame = true) (hid : frame.canId = rx.requestId)
    (htype : frame.highNibble = 0) (hactive : rx.active = true) :
    ((rx.config.fullDuplex = true ∨ SfHolds frame) →
      (isotpRxFeed rx frame now event).rx.active = false) ∧
    (rx.config.fullDuplex = false → ¬SfHolds frame →
      (isotpRxFeed rx frame now event).rx = rx) := by
  have hdlc := (dlc_bounds hvalid).1
  have hsingle : ∀ (rx : IsoTpRx ω) (event : IsoTpRxEvent),
      rxDispatch rx frame now event = rxSingle rx frame event := by
    intro rx event
    unfold rxDispatch
    rw [htype]
    rfl
  have hunexpected : isUnexpectedNPdu rx frame.highNibble = rx.config.fullDuplex := by
    simp [isUnexpectedNPdu, htype, hactive]
  unfold isotpRxFeed
  rw [if_neg (by simpa using hvalid), if_neg (by simpa using hid), hunexpected]
  simp only [hsingle]
  by_cases hduplex : rx.config.fullDuplex = true
  · rw [if_pos hduplex]
    refine ⟨fun _ => ?_, fun hnot => absurd (hduplex.symm.trans hnot) (by decide)⟩
    -- the receiver has given up before it looks at the header
    by_cases hholds : SfHolds frame
    · exact rxSingle_ends _ _ hdlc hholds
    · show (rxSingle (isotpRxReset rx) frame _).rx.active = false
      rw [rxSingle_keeps _ _ hholds]
      rfl
  · rw [if_neg hduplex]
    refine ⟨fun hends => ?_, fun _ hholds => rxSingle_keeps _ _ hholds⟩
    rcases hends with hset | hholds
    · exact absurd hset hduplex
    · exact rxSingle_ends _ _ hdlc hholds

/-- While a request is being put together, a functional frame leaves it intact exactly when it
is harmless, and then nothing about the receiver changes. -/
theorem Tuned.intact_iff (htuned : Tuned e.config e.rx)
    (hdistinct : e.config.functionalRequestId ≠ e.config.requestId) {frame : IsoTpCanFrame}
    (hframe : frame.canId = e.config.functionalRequestId) (event : IsoTpRxEvent)
    (hactive : e.rx.active = true) :
    (Intact e.rx (udsIsotpEndpointReceive e frame event now w).2.1.rx ↔ Harmless e frame) ∧
      (Harmless e frame → (udsIsotpEndpointReceive e frame event now w).2.1.rx = e.rx) := by
  have hsame : (udsIsotpEndpointReceive e frame event now w).2.1.rx = e.rx →
      Intact e.rx (udsIsotpEndpointReceive e frame event now w).2.1.rx := by
    intro hrx
    rw [hrx]
    exact ⟨rfl, rfl, rfl, rfl, rfl, rfl, rfl⟩
  -- a frame that harms ends the reassembly, so that is all there is to tell
  suffices hboth : (Harmless e frame →
      (udsIsotpEndpointReceive e frame event now w).2.1.rx = e.rx) ∧
      (¬Harmless e frame →
        (udsIsotpEndpointReceive e frame event now w).2.1.rx.active = false) by
    refine ⟨⟨fun hintact => ?_, fun hharmless => hsame (hboth.1 hharmless)⟩, hboth.1⟩
    by_contra hharms
    have hlost := hintact.active.symm.trans (hboth.2 hharms)
    exact absurd (hactive.symm.trans hlost) (by decide)
  have hflow : ¬isFlowControlForEndpoint e frame = true := by
    simp [isFlowControlForEndpoint, hframe, hdistinct]
  -- the ways to be harmless, in the order in which the endpoint checks
  unfold udsIsotpEndpointReceive Harmless
  by_cases hdlc : frame.dlc = 0
  · simp [hdlc]
  rw [if_neg hdlc, if_neg hflow]
  by_cases hdeaf : responseResetPending e.uds = true
  · simp [hdeaf]
  rw [if_neg hdeaf]
  by_cases hchannel : e.config.functionalRequestId = 0
  · -- the receiver listens to another identifier
    have hphysical : ¬(frameIsFunctional e frame ∧ frame.highNibble ≠ 0) := by
      simp [frameIsFunctional, hchannel]
    have hnetwork : (networkFrame e frame).1 = frame := by
      simp [networkFrame, frameIsFunctional, hchannel]
    rw [if_neg hphysical, receiveRequest_rx, hnetwork]
    refine ⟨fun _ => ?_, fun hharms => absurd (.inl hchannel) hharms⟩
    have hother : frame.canId ≠ e.rx.requestId := by
      rw [hframe, htuned.requestId]
      exact hdistinct
    unfold isotpRxFeed
    rw [if_pos hother]
    split <;> rfl
  · have hfunctional : frameIsFunctional e frame = true := by
      simp [frameIsFunctional, hchannel, hframe]
    by_cases htype : frame.highNibble = 0
    · have hnetwork : (networkFrame e frame).1 = { frame with canId := e.config.requestId } := by
        simp [networkFrame, hfunctional]
      rw [if_neg (by simp [htype]), receiveRequest_rx, hnetwork]
      by_cases hvalid : frameValid e.config.isotpConfig frame = true
      · have hfed := feed_single_active { frame with canId := e.config.requestId } now event
          (htuned.config_eq ▸ hvalid) htuned.requestId.symm htype hactive
        rw [htuned.config_eq] at hfed
        constructor
        · rintro (h | h | h | h | h | ⟨hsimplex, hholds⟩)
          · exact absurd h hchannel
          · exact absurd h hdlc
          · exact absurd h hdeaf
          · exact absurd htype h
          · exact absurd (hvalid.symm.trans h) (by decide)
          · exact hfed.2 hsimplex hholds
        · intro hharms
          apply hfed.1
          by_contra hneither
          obtain ⟨hsimplex, hholds⟩ := not_or.mp hneither
          exact hharms (.inr (.inr (.inr (.inr (.inr ⟨by simpa using hsimplex, hholds⟩)))))
      · have hrejected : frameValid e.config.isotpConfig frame = false := by simpa using hvalid
        refine ⟨fun _ => ?_, fun hharms =>
          absurd (.inr (.inr (.inr (.inr (.inl hrejected))))) hharms⟩
        unfold isotpRxFeed
        rw [if_pos (by rw [htuned.config_eq]; exact hvalid)]
    · rw [if_pos ⟨hfunctional, htype⟩]
      exact ⟨fun _ => rfl, fun hharms => absurd (.inr (.inr (.inr (.inl htype)))) hharms⟩

/-- In every state that an endpoint with a functional identifier of its own can reach, and
while a request is being put together: a frame with that identifier leaves the reassembly
intact if and only if it is harmless, and the receiver is then the one that the remaining
consecutive frames would have met without it. -/
theorem functional_undisturbed (e₀ e : UdsIsoTpEndpoint ω) (config : UdsIsoTpEndpointConfig ω)
    (t₀ : UInt32) (w₀ : ω) (hinit : udsIsotpEndpointInit e₀ config t₀ = some e)
    (hdistinct : config.functionalRequestId ≠ config.requestId) (calls : List EndpointCall)
    (hactive : (run endpointStep (e, w₀) calls).1.rx.active = true) (frame : IsoTpCanFrame)
    (hframe : frame.canId = config.functionalRequestId) (event : IsoTpRxEvent) (now : UInt32) :
    let s := run endpointStep (e, w₀) calls
    let after := (udsIsotpEndpointReceive s.1 frame event now s.2).2.1
    (Intact s.1.rx after.rx ↔ Harmless s.1 frame) ∧ (Harmless s.1 frame → after.rx = s.1.rx) := by
  intro s after
  have hconfig : s.1.config = config :=
    (run_inv (I := fun t : UdsIsoTpEndpoint ω × ω => Sound config t.1) endpointStep_sound
      (init_sound hinit) calls).wired.config_eq
  have htuned : Tuned config s.1.rx :=
    run_inv (I := fun t : UdsIsoTpEndpoint ω × ω => Tuned config t.1.rx) endpointStep_tuned
      (init_tuned hinit) calls
  exact Tuned.intact_iff (by rw [hconfig]; exact htuned) (by rw [hconfig]; exact hdistinct)
    (by rw [hconfig]; exact hframe) event hactive

/-- The bench with a functional identifier. -/
def sharedBench : UdsIsoTpEndpointConfig Unit := { benchConfig with functionalRequestId := 0x7DF }

/-- The first eight of twenty bytes. -/
def openingFrame : IsoTpCanFrame where
  canId := 0x7E0
  dlc := 8
  isFd := false
  bitRateSwitch := false
  data := Buf.ofList [0x10, 0x14, 0x2E, 0xF1, 0x90, 1, 2, 3]

/-- A functional single frame whose header promises more than it holds. -/
def shortFrame : IsoTpCanFrame := { benchFrame 0x7DF [0x22] with dlc := 1 }

theorem functional_undisturbed_short :
    let s := run endpointStep (bench sharedBench, ()) [.receive openingFrame benchEvent 0]
    let after := (udsIsotpEndpointReceive s.1 shortFrame benchEvent 1 s.2).2.1
    (Intact s.1.rx after.rx ↔ Harmless s.1 shortFrame) ∧
      (Harmless s.1 shortFrame → after.rx = s.1.rx) :=
  functional_undisturbed (blankEndpoint sharedBench) (bench sharedBench) sharedBench 0 () rfl
    (by decide) [.receive openingFrame benchEvent 0] (by decide) shortFrame rfl benchEvent 1

/-- The functional request is answered, and the physical one is gone: its next consecutive
frame finds no reassembly. -/
theorem functional_disturbs :
    let s := run endpointStep (bench sharedBench, ()) [.receive openingFrame benchEvent 0]
    let frame := benchFrame 0x7DF [0x22, 0xF1, 0x90]
    let out := udsIsotpEndpointReceive s.1 frame benchEvent 1 s.2
    udsIsotpEndpointInit (blankEndpoint sharedBench) sharedBench 0 = some (bench sharedBench) ∧
      sharedBench.functionalRequestId ≠ sharedBench.requestId ∧ s.1.rx.active = true ∧
      frame.canId = sharedBench.functionalRequestId ∧ ¬Intact s.1.rx out.2.1.rx ∧
      (udsIsotpEndpointReceive out.2.1
        { openingFrame with data := Buf.ofList [0x21, 4, 5, 6, 7, 8, 9, 10] } benchEvent 2
        out.2.2).1 = .errState := by
  intro s frame out
  refine ⟨rfl, by decide, by decide, rfl, fun hintact => ?_, by decide⟩
  exact absurd hintact.active (by decide)

end UdsIsoTp.Endpoint
