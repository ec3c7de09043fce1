import UdsIsoTp.App.CanTransport
import UdsIsoTp.Endpoint.Stranded
import UdsIsoTp.Endpoint.Unseen

/-!
# A refused send

The controller may refuse a frame, all its mailboxes being full; the endpoint keeps the
frame and offers it again. The transport, however, remembers the refusal in a flag that
only `tx_error` clears, and the endpoint asks `tx_error` only about a frame in flight: a
frame that is refused and then taken is in flight with the flag set, `tx_complete` denies
its completion, and the next `process` aborts it.

`never_aborts_iff` makes that exact: no call of a run aborts a response if and only if no
response frame is taken while the flag is set. The flag and the flight of a frame are the
whole state of the argument; `FlightClear` is its invariant and `Doomed` the trap.
-/

namespace UdsIsoTp.App

open UdsIsoTp.IsoTp UdsIsoTp.Uds UdsIsoTp.Endpoint

variable {η : Type} {hal : CanHal η} {callbacks : UdsCallbacks η}

/-- The error bits that `tx_error` looks for. -/
def busErrors : UInt32 :=
  halCanErrorBof ||| halCanErrorTxTerr0 ||| halCanErrorTxAlst0 ||| halCanErrorTxTerr1 |||
    halCanErrorTxAlst1 ||| halCanErrorTxTerr2 ||| halCanErrorTxAlst2

/-- The controller reports no bus error and no bus-off. -/
def NoBusError (hal : CanHal η) : Prop :=
  ∀ h, (hal.getError h).1 &&& busErrors = 0 ∧ (hal.busOff h).1 = false

/-! ## The transport -/

section Transport

variable {w : CanWorld η}

/-- A part of the error bits is clear when all are. -/
theorem clear_part {err mask : UInt32} (h : err &&& busErrors = 0)
    (hmask : busErrors &&& mask = mask) : err &&& mask = 0 := by
  rw [← hmask, ← UInt32.and_assoc, h, UInt32.zero_and]

theorem txErrMask_part (mailboxes : UInt32) :
    busErrors &&& txErrMask mailboxes = txErrMask mailboxes := by
  unfold txErrMask
  split_ifs <;> rfl

/-- Without a bus error and without the flag there is no transmit error. -/
theorem txError_quiet (hno : NoBusError hal) (hflag : w.2.txErrorOccurred = false) :
    (udsCanTransportTxError hal w).1 = false ∧ (udsCanTransportTxError hal w).2.2 = w.2 := by
  unfold udsCanTransportTxError
  split
  next => exact ⟨rfl, rfl⟩
  next =>
    rw [if_neg (by rw [hflag]; exact Bool.false_ne_true)]
    dsimp only
    obtain ⟨herr, -⟩ := hno w.1
    have hoff := (hno (hal.getError w.1).2).2
    rw [if_neg (by
      rintro (hbof | hset)
      · exact hbof (clear_part herr rfl)
      · rw [hoff] at hset
        exact Bool.false_ne_true hset)]
    rw [if_neg (fun h => h.2 (clear_part herr (txErrMask_part _)))]
    exact ⟨rfl, rfl⟩

/-- With the flag there is one. -/
theorem txError_flag (hcan : w.2.hcan = true) (hflag : w.2.txErrorOccurred = true) :
    (udsCanTransportTxError hal w).1 = true := by
  unfold udsCanTransportTxError
  rw [if_neg (not_not.mpr hcan), if_pos hflag]

theorem txComplete_kept (hal : CanHal η) (w : CanWorld η) :
    (udsCanTransportTxComplete hal w).2.2.txErrorOccurred = w.2.txErrorOccurred ∧
      (udsCanTransportTxComplete hal w).2.2.hcan = w.2.hcan := by
  unfold udsCanTransportTxComplete
  dsimp only
  split_ifs <;> exact ⟨rfl, rfl⟩

/-- The flag denies completion. -/
theorem txComplete_flag (hal : CanHal η) (hflag : w.2.txErrorOccurred = true) :
    (udsCanTransportTxComplete hal w).1 = false := by
  unfold udsCanTransportTxComplete
  rw [if_pos hflag]
  split
  next => rfl
  next => rfl

/-- A frame that is taken leaves the flag as it is. -/
theorem send_taken {frame : IsoTpCanFrame} (h : (udsCanTransportSend hal w frame).1 = true) :
    w.2.hcan = true ∧
      (udsCanTransportSend hal w frame).2.2.txErrorOccurred = w.2.txErrorOccurred ∧
      (udsCanTransportSend hal w frame).2.2.hcan = w.2.hcan := by
  unfold udsCanTransportSend at h ⊢
  split
  next hbad =>
    rw [if_pos hbad] at h
    exact Bool.noConfusion h
  next hgood =>
    rw [if_neg hgood] at h
    have hcan : w.2.hcan = true := by
      by_contra hno
      exact hgood (.inl hno)
    dsimp only at h ⊢
    split
    next hrefused =>
      rw [if_pos hrefused] at h
      exact Bool.noConfusion h
    next => exact ⟨hcan, rfl, rfl⟩

end Transport

/-! ## The calls of the endpoint -/

section Calls

variable {e : UdsIsoTpEndpoint (CanWorld η)} {w : CanWorld η} {now : UInt32}

theorem startResponse_inFlight (e : UdsIsoTpEndpoint (CanWorld η)) (response : Buf)
    (length : UInt16) (mark : Bool) (now : UInt32) :
    (startResponse e response length mark now).2.txInFlight = e.txInFlight := by
  have heffect := startResponse_cases e response length mark now
  generalize startResponse e response length mark now = out at heffect ⊢
  cases heffect with
  | begun free ready => rfl
  | queued busy room => rfl
  | full busy occupied => rfl
  | refused free failed hstatus => rfl

/-- A call that leaves the transport and the frame in flight alone. -/
def Aside (e : UdsIsoTpEndpoint (CanWorld η)) (w : CanWorld η)
    (out : UdsIsoTpEndpoint (CanWorld η) × CanWorld η) : Prop :=
  out.1.txInFlight = e.txInFlight ∧ out.2.2 = w.2

/-- Nothing but the sending of a frame touches the transport. -/
theorem udsAppConfig_serving (hal : CanHal η) (callbacks : UdsCallbacks η) :
    UnseenServing (Prod.snd : CanWorld η → UdsCanTransport) (udsAppConfig hal callbacks) where
  callbacks := beside_unseen callbacks
  accepted := Option.forall_mem_map.mpr fun _ _ _ _ => rfl
  executed := Option.forall_mem_map.mpr fun _ _ _ _ => rfl
  resetEvent f hf := absurd hf (Option.not_mem_none f)
  clock f hf := absurd hf (Option.not_mem_none f)

theorem answered_inFlight (e : UdsIsoTpEndpoint (CanWorld η)) (request : List UInt8)
    (mode : UdsAddressMode) (now : UInt32) (w : CanWorld η) :
    (answered e request mode now w).2.1.txInFlight = e.txInFlight := by
  unfold answered deliverAnswer
  generalize endpointServe e request mode now w = out
  dsimp only
  split
  next => split <;> rfl
  next =>
    split
    next => rfl
    next => exact startResponse_inFlight ..

theorem receive_aside (hwired : Wired (udsAppConfig hal callbacks) e) (frame : IsoTpCanFrame)
    (event : IsoTpRxEvent) (now : UInt32) (w : CanWorld η) :
    Aside e w (udsIsotpEndpointReceive e frame event now w).2 := by
  refine ⟨?_, receive_unseen (udsAppConfig_serving hal callbacks) hwired frame event now w⟩
  have heffect := receive_cases e frame event now w
  generalize udsIsotpEndpointReceive e frame event now w = out at heffect ⊢
  cases heffect with
  | dropped none => rfl
  | flow none => rfl
  | part none => rfl
  | request some awake => exact answered_inFlight ..

theorem tick_aside (hwired : Wired (udsAppConfig hal callbacks) e) (now : UInt32)
    (w : CanWorld η) : Aside e w (udsIsotpEndpointTick e now w).2 :=
  ⟨rfl, tick_unseen (udsAppConfig_serving hal callbacks) hwired now w⟩

end Calls

/-! ## Steps of the application -/

/-- `process` is about to take the path of `abort_in_flight`. -/
def Aborts (s : AppState η) : Prop :=
  s.1.txInFlight = true ∧ ∃ txError, s.1.config.txError = some txError ∧ (txError s.2).1 = true

/-- `process` is about to hand over a response frame that the controller takes. -/
def Takes (hal : CanHal η) (s : AppState η) : Prop :=
  s.1.txInFlight = false ∧ s.1.controlPending = false ∧ s.1.txPending = true ∧
    (udsCanTransportSend hal s.2 s.1.pendingFrame).1 = true

/-- A response frame is taken only while the error flag is clear. -/
def Unmarred (hal : CanHal η) (s : AppState η) (step : AppStep) : Prop :=
  Takes hal (beforeProcess hal s step) → (beforeProcess hal s step).2.2.txErrorOccurred = false

/-- No frame in flight carries an error flag. -/
def FlightClear (s : AppState η) : Prop :=
  s.1.txInFlight = true → s.2.2.txErrorOccurred = false

/-- A frame is in flight that the transport holds for lost. -/
def Doomed (s : AppState η) : Prop :=
  s.1.txInFlight = true ∧ s.2.2.txErrorOccurred = true ∧ s.2.2.hcan = true

/-- An application that is wired up. -/
def Connected (hal : CanHal η) (callbacks : UdsCallbacks η) (s : AppState η) : Prop :=
  Sound (udsAppConfig hal callbacks) s.1

variable {s : AppState η} {step : AppStep}

theorem pollComplete_connected (h : Connected hal callbacks s) :
    Connected hal callbacks (pollComplete hal s) := by
  unfold pollComplete
  dsimp only
  split
  next => exact endpointStep_sound (s.1, (udsCanTransportTxComplete hal s.2).2) .txComplete h
  next => exact h

theorem beforeProcess_connected (h : Connected hal callbacks s) (step : AppStep) :
    Connected hal callbacks (beforeProcess hal s step) := by
  have hpoll := pollComplete_connected h
  unfold beforeProcess
  dsimp only
  split
  next frame _ =>
    exact endpointStep_sound (pollComplete hal s) (.receive frame step.event step.now) hpoll
  next => exact hpoll

theorem udsAppProcess_connected (h : Connected hal callbacks s) (step : AppStep) :
    Connected hal callbacks (udsAppProcess hal s step) := by
  have hprocess := endpointStep_sound _ (.process step.now) (beforeProcess_connected h step)
  exact endpointStep_sound _ (.tick step.now) hprocess

theorem completeInFlight_idle (e : UdsIsoTpEndpoint (CanWorld η)) (w : CanWorld η) :
    (completeInFlight e w).1.txInFlight = false := by
  unfold completeInFlight
  split
  next hidle => simpa using hidle
  next =>
    dsimp only
    split
    next => rfl
    next => rfl

/-- What comes after the poll leaves the transport and the frame in flight alone. -/
theorem beforeProcess_aside (hc : Connected hal callbacks s) (step : AppStep) :
    Aside (pollComplete hal s).1 (pollComplete hal s).2 (beforeProcess hal s step) := by
  have hwired : Wired (udsAppConfig hal callbacks) (pollComplete hal s).1 :=
    (pollComplete_connected hc).wired
  unfold beforeProcess
  dsimp only
  split
  next frame _ => exact receive_aside hwired frame step.event step.now _
  next => exact ⟨rfl, rfl⟩

theorem beforeProcess_clear (hc : Connected hal callbacks s) (h : FlightClear s)
    (step : AppStep) : FlightClear (beforeProcess hal s step) := by
  have hpoll : FlightClear (pollComplete hal s) := by
    unfold pollComplete
    dsimp only
    split
    next =>
      intro hin
      exact absurd ((completeInFlight_idle ..).symm.trans hin) Bool.false_ne_true
    next => exact fun hin => (txComplete_kept hal s.2).1.trans (h hin)
  obtain ⟨hflight, hworld⟩ := beforeProcess_aside hc step
  intro hin
  rw [hworld]
  exact hpoll (hflight.symm.trans hin)

theorem beforeProcess_doomed (hc : Connected hal callbacks s) (h : Doomed s)
    (step : AppStep) : Doomed (beforeProcess hal s step) := by
  obtain ⟨hin, hset, hcan⟩ := h
  have hpoll : pollComplete hal s = (s.1, (udsCanTransportTxComplete hal s.2).2) := by
    unfold pollComplete
    dsimp only
    rw [txComplete_flag hal hset]
    rfl
  obtain ⟨hkept, hkept'⟩ := txComplete_kept hal s.2
  obtain ⟨hflight, hworld⟩ := beforeProcess_aside hc step
  rw [hpoll] at hflight hworld
  refine ⟨hflight.trans hin, ?_, ?_⟩
  · rw [hworld]
    exact hkept.trans hset
  · rw [hworld]
    exact hkept'.trans hcan

/-- A frame in flight without the flag is not aborted. -/
theorem FlightClear.not_aborts (hno : NoBusError hal) (hc : Connected hal callbacks s)
    (h : FlightClear s) : ¬Aborts s := by
  rintro ⟨hflight, txError, hook, hlost⟩
  rw [hc.wired.config_eq] at hook
  obtain rfl := Option.some.inj hook
  rw [(txError_quiet hno (h hflight)).1] at hlost
  exact Bool.noConfusion hlost

theorem Doomed.aborts (hc : Connected hal callbacks s) (h : Doomed s) : Aborts s := by
  obtain ⟨hflight, hflag, hcan⟩ := h
  refine ⟨hflight, udsCanTransportTxError hal, ?_, txError_flag hcan hflag⟩
  rw [hc.wired.config_eq]
  rfl

/-- The world in which `tx_complete` is asked about a frame just taken. -/
theorem submittedWorld_app (hc : Connected hal callbacks s) (w : CanWorld η) :
    submittedWorld s.1 w = w := by
  unfold submittedWorld resetEvent
  rw [hc.wired.config_eq]
  split <;> rfl

/-- The hook that the endpoint asks after a frame is the transport's. -/
theorem txComplete_asked (hc : Connected hal callbacks s) {w w' : CanWorld η} {done : Bool}
    (h : ∃ txComplete, s.1.config.txComplete = some txComplete ∧
      txComplete (submittedWorld s.1 w) = (done, w')) :
    udsCanTransportTxComplete hal w = (done, w') := by
  obtain ⟨txComplete, hook, hasked⟩ := h
  rw [hc.wired.config_eq] at hook
  obtain rfl := Option.some.inj hook
  rwa [submittedWorld_app hc] at hasked

theorem processQueue_inFlight (e : UdsIsoTpEndpoint (CanWorld η)) (now : UInt32)
    (w : CanWorld η) : (processQueue e now w).2.1.txInFlight = e.txInFlight := by
  unfold processQueue
  split
  next => exact startResponse_inFlight ..
  next => rfl

theorem process_clear (hno : NoBusError hal) (hc : Connected hal callbacks s)
    (h : FlightClear s) (hunmarred : Takes hal s → s.2.2.txErrorOccurred = false) (now : UInt32) :
    FlightClear (udsIsotpEndpointProcess s.1 now s.2).2 := by
  have hconfig := hc.wired.config_eq
  have hidle : ∀ {after : AppState η}, after.1.txInFlight = false → FlightClear after := by
    intro after hnone hin
    exact absurd (hnone.symm.trans hin) Bool.false_ne_true
  have heffect := process_cases s.1 now s.2
  generalize udsIsotpEndpointProcess s.1 now s.2 = out at heffect ⊢
  cases heffect with
  | waiting inFlight asked =>
    obtain ⟨-, rfl⟩ | ⟨txError, hook, hasked⟩ := asked
    · exact h
    -- the question for an error clears nothing and finds nothing
    · rw [hconfig] at hook
      obtain rfl := Option.some.inj hook
      intro _
      have hkept := (txError_quiet hno (h inFlight)).2
      rw [hasked] at hkept
      exact (congrArg UdsCanTransport.txErrorOccurred hkept).trans (h inFlight)
  | aborted inFlight hook failed =>
    exact absurd ⟨inFlight, _, hook, by rw [failed]⟩ (h.not_aborts hno hc)
  | controlRefused idle control sent => exact hidle idle
  | controlSent idle control sent => exact hidle idle
  | refused idle pending sent => exact hidle idle
  | sent idle pending sent asked clear =>
    rw [hconfig] at sent
    have hasked := txComplete_asked hc asked
    have htaken : (udsCanTransportSend hal s.2 s.1.pendingFrame).1 = true := congrArg Prod.fst sent
    have hflag := (send_taken htaken).2.1.trans (hunmarred ⟨idle, clear, pending, htaken⟩)
    have hworld : (udsCanTransportSend hal s.2 s.1.pendingFrame).2 = _ := congrArg Prod.snd sent
    rw [hworld] at hflag
    intro _
    have hkept := (txComplete_kept hal _).1.trans hflag
    rw [hasked] at hkept
    exact hkept
  | completed idle pending sent asked clear => exact hidle (completeInFlight_idle ..)
  | advanced idle quiet active ready => exact hidle idle
  | paused idle quiet active notReady notComplete => exact hidle idle
  | ended idle quiet active complete => exact hidle ((processQueue_inFlight ..).trans idle)
  | queue idle quiet inactive => exact hidle ((processQueue_inFlight ..).trans idle)

theorem process_doomed (hc : Connected hal callbacks s) (htakes : Takes hal s)
    (hflag : s.2.2.txErrorOccurred = true) (now : UInt32) :
    Doomed (udsIsotpEndpointProcess s.1 now s.2).2 := by
  have hconfig := hc.wired.config_eq
  obtain ⟨hidle, hclear, hpending, htaken⟩ := htakes
  obtain ⟨hcan, hkept, hcan'⟩ := send_taken htaken
  have heffect := process_cases s.1 now s.2
  generalize udsIsotpEndpointProcess s.1 now s.2 = out at heffect ⊢
  cases heffect with
  | waiting inFlight asked => exact absurd (hidle.symm.trans inFlight) Bool.false_ne_true
  | aborted inFlight hook failed => exact absurd (hidle.symm.trans inFlight) Bool.false_ne_true
  | controlRefused idle control sent =>
    exact absurd (hclear.symm.trans control) Bool.false_ne_true
  | controlSent idle control sent => exact absurd (hclear.symm.trans control) Bool.false_ne_true
  | refused idle pending sent =>
    rw [hconfig] at sent
    exact absurd ((congrArg Prod.fst sent).symm.trans htaken) Bool.false_ne_true
  | sent idle pending sent asked clear =>
    rw [hconfig] at sent
    -- the hook is asked with the flag still set, and leaves it so
    have hasked := txComplete_asked hc asked
    have hworld : (udsCanTransportSend hal s.2 s.1.pendingFrame).2 = _ := congrArg Prod.snd sent
    rw [hworld] at hkept hcan'
    obtain ⟨hset, hset'⟩ := txComplete_kept hal _
    rw [hasked] at hset hset'
    exact ⟨rfl, hset.trans (hkept.trans hflag), hset'.trans (hcan'.trans hcan)⟩
  | completed idle pending sent asked clear =>
    -- a completion needs the flag down
    exfalso
    rw [hconfig] at sent
    have hworld : (udsCanTransportSend hal s.2 s.1.pendingFrame).2 = _ := congrArg Prod.snd sent
    rw [hworld] at hkept
    rcases asked with ⟨hnone, -⟩ | hhook
    · rw [hconfig] at hnone
      exact absurd hnone (by simp [udsAppConfig])
    · have hdenied := txComplete_flag hal (hkept.trans hflag)
      rw [txComplete_asked hc hhook] at hdenied
      exact Bool.noConfusion hdenied
  | advanced idle quiet active ready => exact absurd (quiet.symm.trans hpending) Bool.false_ne_true
  | paused idle quiet active notReady notComplete =>
    exact absurd (quiet.symm.trans hpending) Bool.false_ne_true
  | ended idle quiet active complete =>
    exact absurd (quiet.symm.trans hpending) Bool.false_ne_true
  | queue idle quiet inactive => exact absurd (quiet.symm.trans hpending) Bool.false_ne_true

theorem udsAppProcess_clear (hno : NoBusError hal) (hc : Connected hal callbacks s)
    (h : FlightClear s) (hunmarred : Unmarred hal s step) :
    FlightClear (udsAppProcess hal s step) := by
  have hbefore := beforeProcess_connected hc step
  have hprocess := process_clear hno hbefore (beforeProcess_clear hc h step) hunmarred step.now
  have hwired := (endpointStep_sound _ (.process step.now) hbefore).wired
  obtain ⟨hflight, hworld⟩ := tick_aside hwired step.now
    (udsIsotpEndpointProcess (beforeProcess hal s step).1 step.now
      (beforeProcess hal s step).2).2.2
  intro hin
  have hflag := hprocess (hflight.symm.trans hin)
  rw [← hworld] at hflag
  exact hflag

theorem udsAppProcess_doomed (hc : Connected hal callbacks s)
    (htakes : Takes hal (beforeProcess hal s step))
    (hflag : (beforeProcess hal s step).2.2.txErrorOccurred = true) :
    Doomed (udsAppProcess hal s step) := by
  have hbefore := beforeProcess_connected hc step
  obtain ⟨hin, hset, hcan⟩ := process_doomed hbefore htakes hflag step.now
  have hwired := (endpointStep_sound _ (.process step.now) hbefore).wired
  obtain ⟨hflight, hworld⟩ := tick_aside hwired step.now
    (udsIsotpEndpointProcess (beforeProcess hal s step).1 step.now
      (beforeProcess hal s step).2).2.2
  rw [← hworld] at hset hcan
  exact ⟨hflight.trans hin, hset, hcan⟩

/-- The two sides of the exact condition, from any state in which no frame is doomed. -/
theorem aborts_iff_along (hno : NoBusError hal) (last : AppStep) (steps : List AppStep) :
    ∀ s : AppState η, Connected hal callbacks s → FlightClear s →
      (Along (udsAppProcess hal) (fun s step => ¬Aborts (beforeProcess hal s step)) s
          (steps ++ [last]) ↔
        Along (udsAppProcess hal) (Unmarred hal) s steps) := by
  induction steps with
  | nil =>
    intro s hc h
    refine iff_of_true ⟨?_, trivial⟩ trivial
    exact (beforeProcess_clear hc h last).not_aborts hno (beforeProcess_connected hc last)
  | cons step rest ih =>
    intro s hc h
    have hc' := udsAppProcess_connected hc step
    have hfirst := (beforeProcess_clear hc h step).not_aborts hno (beforeProcess_connected hc step)
    constructor
    · rintro ⟨-, hrest⟩
      have hunmarred : Unmarred hal s step := by
        intro htakes
        by_contra hset
        -- the next call of `process` aborts the frame that this one hands over
        have hdoomed := udsAppProcess_doomed hc htakes (by simpa using hset)
        cases rest with
        | nil =>
          exact hrest.1 ((beforeProcess_doomed hc' hdoomed last).aborts
            (beforeProcess_connected hc' last))
        | cons next rest =>
          exact hrest.1 ((beforeProcess_doomed hc' hdoomed next).aborts
            (beforeProcess_connected hc' next))
      exact ⟨hunmarred, (ih _ hc' (udsAppProcess_clear hno hc h hunmarred)).mp hrest⟩
    · rintro ⟨hunmarred, hrest⟩
      exact ⟨hfirst, (ih _ hc' (udsAppProcess_clear hno hc h hunmarred)).mpr hrest⟩

/-- **When a refused send has no lasting effect.** On a controller without bus errors, and
whatever it refuses, the endpoint never takes the path of `abort_in_flight` if and only if
the controller takes no response frame while the error flag is set. (The abort comes with the
call after the one that hands the frame over, hence the `last` one.) -/
theorem never_aborts_iff (hal : CanHal η) (callbacks : UdsCallbacks η) (hno : NoBusError hal)
    (e₀ e : UdsIsoTpEndpoint (CanWorld η)) (start : UInt32) (h : η) (hcan : Bool)
    (hinit : udsIsotpEndpointInit e₀ (udsAppConfig hal callbacks) start = some e)
    (steps : List AppStep) (last : AppStep) :
    Along (udsAppProcess hal) (fun s step => ¬Aborts (beforeProcess hal s step))
        (e, h, udsCanTransportInit hcan 0x7E0 0x7E8) (steps ++ [last]) ↔
      Along (udsAppProcess hal) (Unmarred hal) (e, h, udsCanTransportInit hcan 0x7E0 0x7E8)
        steps :=
  aborts_iff_along hno last steps _ (init_sound hinit) fun _ => rfl

/-! ### A controller that refuses once -/

/-- A controller that refuses its first frame and then takes every frame at once; the state
counts the calls. -/
def fussyHal : CanHal Nat where
  addTxMessage n _ _ := (n != 0, canTxMailbox0, n + 1)
  isTxMessagePending n _ := (false, n)
  abortTxRequest n _ := n
  getError n := (0, n)
  busOff n := (false, n)

/-- An application that accepts every reset. -/
def resetCallbacks : UdsCallbacks Nat where
  ecuReset := some fun n _ => (.ok, n)
  ecuResetExecute := some fun n _ => n

/-- The application on a controller, before its first call. -/
def appBench (hal : CanHal Nat) : AppState Nat :=
  (bench (udsAppConfig hal resetCallbacks), 0, udsCanTransportInit true 0x7E0 0x7E8)

/-- A call that finds this request, and one that finds none. -/
def appAsk (payload : List UInt8) : AppStep := ⟨some (benchFrame 0x7E0 payload), benchEvent, 0⟩
/-- A round of the main loop in which nothing comes in. -/
def appIdle : AppStep := ⟨none, benchEvent, 0⟩

theorem fussyHal_quiet : NoBusError fussyHal := by
  intro n
  exact ⟨UInt32.zero_and, rfl⟩

/-- A reset that is asked for and refused, while nothing has been taken: no abort. -/
theorem never_aborts_fussy :
    Along (udsAppProcess fussyHal) (fun s step => ¬Aborts (beforeProcess fussyHal s step))
        (appBench fussyHal) ([appAsk [0x11, 0x01]] ++ [appIdle]) ↔
      Along (udsAppProcess fussyHal) (Unmarred fussyHal) (appBench fussyHal)
        [appAsk [0x11, 0x01]] :=
  never_aborts_iff fussyHal resetCallbacks fussyHal_quiet _ _ 0 0 true rfl _ _

/-- The response of a reset is refused, offered again and taken; the next call aborts it and
the reset is no longer pending. -/
theorem refused_send_aborts :
    let s := run (udsAppProcess fussyHal) (appBench fussyHal) [appAsk [0x11, 0x01], appIdle]
    NoBusError fussyHal ∧
      udsIsotpEndpointInit (blankEndpoint (udsAppConfig fussyHal resetCallbacks))
        (udsAppConfig fussyHal resetCallbacks) 0 = some (appBench fussyHal).1 ∧
      Aborts (beforeProcess fussyHal s appIdle) ∧
      s.1.uds.resetPending = true ∧
      (udsAppProcess fussyHal s appIdle).1.uds.resetPending = false :=
  ⟨fussyHal_quiet, rfl, ⟨by decide, _, rfl, by decide⟩, by decide, by decide⟩

end UdsIsoTp.App
