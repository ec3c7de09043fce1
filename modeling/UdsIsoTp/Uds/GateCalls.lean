import UdsIsoTp.Uds.Access
import UdsIsoTp.Uds.GateSteps
import UdsIsoTp.Uds.Privilege

/-!
# What the server's calls do to the gate

Of the calls of a running server only a SecurityAccess request comes to `security_seed` and
`security_key`, and only it gives the gate a seed or a level (`AccessEffect`). Every other call
may end a lockout or renew it, as the tick does (`Lapse`), and takes a seed or a level away or
leaves it (`Lessened`).

What the callbacks see of the world is a projection `proj`, as for the requests.
-/

namespace UdsIsoTp.Uds

variable {ω β : Type} {proj : ω → β}

/-! ## Calls -/

/-- The calls between an init and the loss of power: nothing is restored or configured anew. -/
def ServerCall.Running : ServerCall ω → Prop
  | .restoreSecurityState .. => False
  | .setTiming .. => False
  | .setSecurityPersistence .. => False
  | _ => True

/-- When a call is made, if it says so. -/
def ServerCall.time : ServerCall ω → Option UInt32
  | .handle _ _ _ _ _ now => some now
  | .tick now => some now
  | .requestSession _ now => some now
  | .applyReset _ now => some now
  | .restoreSecurityState _ _ now => some now
  | _ => none

/-- `proj` is the same after every callback of the server but those of SecurityAccess. -/
structure UnseenCalls (proj : ω → β) (callbacks : UdsCallbacks ω)
    (persistFn : Option (ω → UInt8 → UInt32 → Bool × ω)) : Prop
    extends UnseenServices proj callbacks persistFn where
  accepted : ∀ f ∈ callbacks.ecuReset, ∀ w sub, proj (f w sub).2 = proj w
  executed : ∀ f ∈ callbacks.ecuResetExecute, ∀ w sub, proj (f w sub) = proj w

/-! ## Effects -/

/-- The attempts and the lockout after a call that judges no key. -/
inductive Lapse (time : Option UInt32) (lock lock' : GateLock ω) : Prop
  | none (same : lock' = lock)
  | ended (now : UInt32) (called : time = some now) (active : lock.lockoutActive = true)
      (up : expired now lock.lockoutUntilMs = true)
      (left : lock' = { lock with lockoutActive := false, failedAttempts := 0 })
  /-- Storage has refused the end of the lockout. -/
  | renewed (now : UInt32) (called : time = some now) (active : lock.lockoutActive = true)
      (up : expired now lock.lockoutUntilMs = true)
      (left : lock' = { lock with lockoutUntilMs := now + lock.lockoutMs })

/-- The gate's seed and level after a call that grants neither. -/
structure Lessened (gate gate' : UdsSecurityGate ω) : Prop where
  seedValid : gate'.seedValid = true → gate.seedValid = true
  seedLevel : gate'.seedValid = true → gate'.seedLevel = gate.seedLevel
  seedTimerActive : gate'.seedValid = true → gate'.seedTimerActive = gate.seedTimerActive
  seedExpiryMs : gate'.seedExpiryMs = gate.seedExpiryMs
  activeLevel : gate'.activeLevel = gate.activeLevel ∨ gate'.activeLevel = 0
  seedTimeoutMs : gate'.seedTimeoutMs = gate.seedTimeoutMs

theorem Lessened.refl (gate : UdsSecurityGate ω) : Lessened gate gate :=
  ⟨id, fun _ => rfl, fun _ => rfl, rfl, .inl rfl, rfl⟩

/-- A gate that holds no seed and no level. -/
theorem Lessened.of_cleared {gate gate' : UdsSecurityGate ω} (hseed : gate'.seedValid = false)
    (hlevel : gate'.activeLevel = 0) (hexpiry : gate'.seedExpiryMs = gate.seedExpiryMs)
    (htimeout : gate'.seedTimeoutMs = gate.seedTimeoutMs) : Lessened gate gate' := by
  have hnone : ∀ {P : Prop}, gate'.seedValid = true → P := fun hvalid =>
    absurd (hseed.symm.trans hvalid) (by decide)
  exact ⟨hnone, hnone, hnone, hexpiry, .inr hlevel, htimeout⟩

/-- What a call can do to the gate. -/
inductive GateMove (proj : ω → β) (s : UdsServer ω × ω) (call : ServerCall ω)
    (s' : UdsServer ω × ω) : Prop
  | aside (world : proj s'.2 = proj s.2)
      (lapse : Lapse call.time (gateLock s.1.securityGate) (gateLock s'.1.securityGate))
      (lessened : Lessened s.1.securityGate s'.1.securityGate) : GateMove proj s call s'
  | access (request : List UInt8) (response : Buf) (responseLen capacity : UInt16)
      (mode : UdsAddressMode) (now : UInt32)
      (called : call = .handle request response responseLen capacity mode now)
      (sid : byteAt request 0 = 0x27)
      (effect : AccessEffect (atHandler ⟨s.1, response, responseLen, s.2⟩ mode now) request
        capacity now
        (udsServerHandleAddressed ⟨s.1, response, responseLen, s.2⟩ request capacity mode now)) :
      GateMove proj s call s'

/-! ## The gate's tick -/

section Tick

variable (gate : UdsSecurityGate ω) (now : UInt32) (w : ω)

theorem gateTick_lapse : Lapse (some now) (gateLock gate) (gateLock (gateTick gate now w).1) := by
  obtain ⟨-, hsame, -⟩ | ⟨⟨hactive, hup⟩, -, ⟨-, hended⟩ | ⟨-, hrenewed⟩⟩ := gateTick_lock gate now w
  · exact .none hsame
  · exact .ended now rfl hactive hup hended
  · exact .renewed now rfl hactive hup hrenewed

/-- The end of a lockout, or its renewal, leaves the seed and the level. -/
theorem gateTickLockout_lessened : Lessened gate (gateTickLockout gate now w).1 := by
  unfold gateTickLockout
  split
  next =>
    dsimp only
    split
    next => exact ⟨id, fun _ => rfl, fun _ => rfl, rfl, .inl rfl, rfl⟩
    next => exact ⟨id, fun _ => rfl, fun _ => rfl, rfl, .inl rfl, rfl⟩
  next => exact .refl gate

theorem Lessened.trans {gate gate' gate'' : UdsSecurityGate ω} (h : Lessened gate gate')
    (h' : Lessened gate' gate'') : Lessened gate gate'' := by
  refine ⟨fun hvalid => h.seedValid (h'.seedValid hvalid), fun hvalid => ?_, fun hvalid => ?_,
    h'.seedExpiryMs.trans h.seedExpiryMs, ?_, h'.seedTimeoutMs.trans h.seedTimeoutMs⟩
  · exact (h'.seedLevel hvalid).trans (h.seedLevel (h'.seedValid hvalid))
  · exact (h'.seedTimerActive hvalid).trans (h.seedTimerActive (h'.seedValid hvalid))
  · obtain hsame | hnone := h'.activeLevel
    · rw [hsame]
      exact h.activeLevel
    · exact .inr hnone

/-- A seed that is there after the tick was there before, and its time is not up. -/
theorem gateTick_seed :
    Lessened gate (gateTick gate now w).1 ∧ ((gateTick gate now w).1.seedValid = true →
      gate.seedTimerActive = true → expired now gate.seedExpiryMs = false) := by
  have hdelayed : Lessened gate (if gate.initialDelayActive ∧ expired now gate.initialDelayUntilMs
      then { gate with initialDelayActive := false } else gate) := by
    split
    next => exact ⟨id, fun _ => rfl, fun _ => rfl, rfl, .inl rfl, rfl⟩
    next => exact .refl gate
  have hlessened := hdelayed.trans (gateTickLockout_lessened _ now w)
  unfold gateTick
  generalize (if gate.initialDelayActive ∧ expired now gate.initialDelayUntilMs
    then { gate with initialDelayActive := false } else gate) = delayed at hlessened ⊢
  dsimp only
  generalize (gateTickLockout delayed now w).1 = gate' at hlessened ⊢
  split
  next =>
    refine ⟨hlessened.trans ⟨nofun, nofun, nofun, rfl, .inl rfl, rfl⟩, nofun⟩
  next hrunning =>
    refine ⟨hlessened, fun hvalid hactive => ?_⟩
    by_contra hup
    rw [← hlessened.seedTimerActive hvalid] at hactive
    rw [← hlessened.seedExpiryMs] at hup
    exact hrunning ⟨hactive, by simpa using hup⟩

end Tick

/-! ## Every call -/

theorem resetSession_lessened (gate : UdsSecurityGate ω) : Lessened gate (gateResetSession gate) :=
  .of_cleared rfl rfl rfl rfl

/-- A granted change of session ticks the gate and clears it. -/
theorem requestSession_gate {server : UdsServer ω} {requested : UInt8} {now : UInt32} {w : ω}
    (h : (udsServerRequestSession server requested now w).1 = .ok) :
    (udsServerRequestSession server requested now w).2.1.securityGate
      = gateResetSession (gateTick server.securityGate now w).1 := by
  unfold udsServerRequestSession at h ⊢
  split at h
  next => exact UdsCallbackResult.noConfusion h
  next hsupported =>
    split at h
    next => exact UdsCallbackResult.noConfusion h
    next hallowed =>
      rw [if_neg hsupported, if_neg hallowed]
      dsimp only
      unfold sessionReset
      split
      next => rfl
      next => split <;> rfl

variable {s : UdsServer ω × ω}

/-- The gate as a session change leaves it. -/
theorem GateMove.session {call : ServerCall ω} {s' : UdsServer ω × ω} {now : UInt32} {w : ω}
    (htime : call.time = some now) (hworld : proj s'.2 = proj s.2)
    (hgate : s'.1.securityGate = gateResetSession (gateTick s.1.securityGate now w).1) :
    GateMove proj s call s' := by
  refine .aside hworld ?_ ?_
  · rw [hgate, gateLock_resetSession, htime]
    exact gateTick_lapse s.1.securityGate now w
  · rw [hgate]
    exact (gateTick_seed s.1.securityGate now w).1.trans (resetSession_lessened _)

theorem GateMove.still {call : ServerCall ω} {s' : UdsServer ω × ω}
    (hworld : proj s'.2 = proj s.2) (hgate : s'.1.securityGate = s.1.securityGate) :
    GateMove proj s call s' := by
  refine .aside hworld (.none ?_) ?_
  · rw [hgate]
  · rw [hgate]
    exact .refl _

section Move

variable (hu : UnseenCalls proj s.1.callbacks s.1.securityGate.persistFn)
include hu

theorem handle_move (request : List UInt8) (response : Buf) (responseLen capacity : UInt16)
    (mode : UdsAddressMode) (now : UInt32) :
    GateMove proj s (.handle request response responseLen capacity mode now)
      (serverStep s (.handle request response responseLen capacity mode now)) := by
  have hcases := handleAddressed_access (x := ⟨s.1, response, responseLen, s.2⟩)
    hu.toUnseenServices request capacity mode now
  unfold serverStep
  dsimp only
  obtain hout | ⟨hserver, hworld⟩ | ⟨-, ⟨hsid, hout⟩ | ⟨hsid, hout⟩⟩ := hcases
  · rw [hout]
    exact .still rfl rfl
  · rw [hserver, hworld]
    exact .still rfl rfl
  · generalize udsServerHandleAddressed ⟨s.1, response, responseLen, s.2⟩ request capacity mode now
      = out at hout
    -- outside the session and the security services the gate stays
    have hstill {server : UdsServer ω} (hserver : out.2.server = server)
        (hgate : server.securityGate = s.1.securityGate) (hworld : proj out.2.world = proj s.2) :
        GateMove proj s (.handle request response responseLen capacity mode now)
          (out.2.server, out.2.world) := by
      refine .still hworld ?_
      rw [hserver, hgate]
    cases hout with
    | quiet server world => exact hstill server rfl world
    | session requested ok server world =>
      refine .session (w := s.2) rfl world ?_
      dsimp only
      rw [server]
      exact requestSession_gate ok
    | reset b f callback request_eq range ok server world =>
      exact hstill server rfl (world ▸ hu.accepted f callback _ _)
    | dropped b f callback room server ok world =>
      exact hstill server rfl (world ▸ hu.accepted f callback _ _)
    | ticked server world sid => exact absurd sid hsid
    | access gate session persist server world sid => exact absurd sid hsid
    | dtcSetting enabled server world => exact hstill server rfl world
    | download maxBlockLength sid length server world => exact hstill server rfl world
    | block sid server world => exact hstill server rfl world
    | exit sid server world => exact hstill server rfl world
  · refine .access request response responseLen capacity mode now rfl hsid ?_
    rw [hout]
    exact serviceSecurityAccess_effect ..

theorem tick_move (now : UInt32) : GateMove proj s (.tick now) (serverStep s (.tick now)) := by
  have hworld := gateTick_unseen hu.persist now s.2
  have hlapse := gateTick_lapse s.1.securityGate now s.2
  have hlessened := (gateTick_seed s.1.securityGate now s.2).1
  unfold serverStep udsServerTick
  dsimp only
  split
  next => exact .aside ((executeReset_unseen hu.executed ..).trans hworld) hlapse hlessened
  next =>
    split
    next => exact .session rfl hworld rfl
    next => exact .aside hworld hlapse hlessened

theorem requestSession_move (requested : UInt8) (now : UInt32) :
    GateMove proj s (.requestSession requested now)
      (serverStep s (.requestSession requested now)) := by
  unfold serverStep
  dsimp only
  by_cases hok : (udsServerRequestSession s.1 requested now s.2).1 = .ok
  · exact .session rfl (udsServerRequestSession_unseen hu.toUnseenServices requested now s.2)
      (requestSession_gate hok)
  · rw [udsServerRequestSession_refused hok]
    exact .still rfl rfl

theorem serverStep_move {call : ServerCall ω} (hrunning : call.Running) :
    GateMove proj s call (serverStep s call) := by
  cases call with
  | handle request response responseLen capacity mode now =>
    exact handle_move hu request response responseLen capacity mode now
  | tick now => exact tick_move hu now
  | requestSession requested now => exact requestSession_move hu requested now
  | resetSecurity => exact .aside rfl (.none rfl) (resetSession_lessened _)
  | applyReset reason now => exact .aside rfl (.none rfl) (.of_cleared rfl rfl rfl rfl)
  | restoreSecurityState failedAttempts lockoutRemainingMs now => exact hrunning.elim
  | setTiming s3TimeoutMs initialDelayMs lockoutMs seedTimeoutMs maxAttempts =>
    exact hrunning.elim
  | setSecurityPersistence persistFn => exact hrunning.elim
  | completeReset =>
    unfold serverStep udsServerCompleteReset
    dsimp only
    split
    next => exact .still rfl rfl
    next => split <;> exact .still rfl rfl
  | clearReset => exact .still rfl rfl

end Move

/-- No call rewires the callbacks. -/
theorem serverStep_callbacks (s : UdsServer ω × ω) (call : ServerCall ω) :
    (serverStep s call).1.callbacks = s.1.callbacks := by
  cases call with
  | handle request response responseLen capacity mode now =>
    show (udsServerHandleAddressed ⟨s.1, response, responseLen, s.2⟩ request capacity mode
      now).2.server.callbacks = s.1.callbacks
    obtain hout | ⟨hserver, -⟩ | ⟨-, hout⟩ :=
      handleAddressed_cases (x := ⟨s.1, response, responseLen, s.2⟩) (unseen_blind _ _) request
        capacity mode now
    · rw [hout]
    · rw [hserver]
    · exact hout.wiring.1
  | tick now =>
    unfold serverStep udsServerTick
    dsimp only
    split
    next => rfl
    next => split <;> rfl
  | requestSession requested now =>
    show (udsServerRequestSession s.1 requested now s.2).2.1.callbacks = s.1.callbacks
    by_cases hok : (udsServerRequestSession s.1 requested now s.2).1 = .ok
    · exact (udsServerRequestSession_ok hok).callbacks
    · rw [udsServerRequestSession_refused hok]
  | completeReset =>
    unfold serverStep udsServerCompleteReset
    dsimp only
    split
    next => rfl
    next => split <;> rfl
  | _ => rfl

/-- Where the gate is stored is only configured. -/
theorem serverStep_persistFn (s : UdsServer ω × ω) (call : ServerCall ω) :
    (∃ persistFn, call = .setSecurityPersistence persistFn ∧
        (serverStep s call).1.securityGate.persistFn = persistFn) ∨
      (serverStep s call).1.securityGate.persistFn = s.1.securityGate.persistFn := by
  -- only the call that is there for it changes the callback
  cases call with
  | handle request response responseLen capacity mode now =>
    right
    show (udsServerHandleAddressed ⟨s.1, response, responseLen, s.2⟩ request capacity mode
      now).2.server.securityGate.persistFn = s.1.securityGate.persistFn
    obtain hout | ⟨hserver, -⟩ | ⟨-, hout⟩ :=
      handleAddressed_cases (x := ⟨s.1, response, responseLen, s.2⟩) (unseen_blind _ _) request
        capacity mode now
    · rw [hout]
    · rw [hserver]
    · exact hout.wiring.2
  | tick now =>
    right
    have hgate := (gateTick_fields s.1.securityGate now s.2).1
    unfold serverStep udsServerTick
    dsimp only
    split
    next => exact hgate
    next => split <;> exact hgate
  | requestSession requested now =>
    right
    show (udsServerRequestSession s.1 requested now s.2).2.1.securityGate.persistFn = _
    by_cases hok : (udsServerRequestSession s.1 requested now s.2).1 = .ok
    · exact (udsServerRequestSession_ok hok).persist
    · rw [udsServerRequestSession_refused hok]
  | restoreSecurityState failedAttempts lockoutRemainingMs now =>
    right
    unfold serverStep udsServerRestoreSecurityState gateRestoreState
    dsimp only
    split
    next => rfl
    next => split <;> rfl
  | setSecurityPersistence persistFn => exact .inl ⟨persistFn, rfl, rfl⟩
  | completeReset =>
    right
    unfold serverStep udsServerCompleteReset
    dsimp only
    split
    next => rfl
    next => split <;> rfl
  | _ => exact .inr rfl

/-- What no callback sees, the resets included, no call changes. -/
theorem serverStep_unseen (hu : Unseen proj s.1.callbacks s.1.securityGate.persistFn)
    (haccepted : ∀ f ∈ s.1.callbacks.ecuReset, ∀ w sub, proj (f w sub).2 = proj w)
    (hexecuted : ∀ f ∈ s.1.callbacks.ecuResetExecute, ∀ w sub, proj (f w sub) = proj w)
    (call : ServerCall ω) : proj (serverStep s call).2 = proj s.2 := by
  cases call with
  | handle request response responseLen capacity mode now =>
    exact handleAddressed_unseen (x := ⟨s.1, response, responseLen, s.2⟩) hu haccepted request
      capacity mode now
  | tick now => exact udsServerTick_unseen hu.persist hexecuted now s.2
  | requestSession requested now =>
    exact udsServerRequestSession_unseen hu.toUnseenServices requested now s.2
  | _ => rfl

end UdsIsoTp.Uds
