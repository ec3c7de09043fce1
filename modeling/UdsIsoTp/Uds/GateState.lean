import UdsIsoTp.Lib.Bytes
import UdsIsoTp.Uds.GateCalls

/-!
# The reported state of the gate

The gate holds its state three times: as `state`, as the seed's flag and as the level that is
granted. They agree (`GateConsistent`) as long as no tick finds the time of a seed up while a level
is granted: dropping the seed then reports the gate as locked, and leaves the level
(`seed_lapse_reports_locked`). `Settled` says so of a call, and `gate_states_agree` of a run.
-/

namespace UdsIsoTp.Uds

variable {ω : Type}

/-- The state of the gate and its fields agree. -/
structure GateConsistent (gate : UdsSecurityGate ω) : Prop where
  waiting : gate.state = .waitingForKey ↔ gate.seedValid = true
  unlocked : gate.state = .unlocked → gate.activeLevel ≠ 0
  granted : gate.activeLevel ≠ 0 → gate.state = .unlocked ∨ gate.state = .waitingForKey

/-- The time of the seed is up while a level is granted. -/
def Lapsed (gate : UdsSecurityGate ω) (now : UInt32) : Prop :=
  gate.activeLevel ≠ 0 ∧ gate.seedTimerActive = true ∧ expired now gate.seedExpiryMs = true

instance (gate : UdsSecurityGate ω) (now : UInt32) : Decidable (Lapsed gate now) :=
  inferInstanceAs (Decidable (_ ∧ _ ∧ _))

/-! ## Operations -/

section Operations

variable {gate : UdsSecurityGate ω} {now : UInt32} {w : ω}

/-- A gate that grants nothing is consistent unless it says otherwise. -/
theorem GateConsistent.of_locked (hlevel : gate.activeLevel = 0) (hseed : gate.seedValid = false)
    (hstate : gate.state = .lockedReady ∨ gate.state = .lockout) : GateConsistent gate := by
  refine ⟨iff_of_false ?_ (by simp [hseed]), fun h => ?_, fun h => absurd hlevel h⟩
  · rcases hstate with h | h <;> simp [h]
  · rcases hstate with h' | h' <;> exact absurd (h'.symm.trans h) (by decide)

/-- Dropping the seed of a gate that grants nothing. -/
theorem GateConsistent.invalidateSeed (h : GateConsistent gate) (hlevel : gate.activeLevel = 0) :
    GateConsistent (gateInvalidateSeed gate) := by
  refine .of_locked hlevel rfl ?_
  unfold gateInvalidateSeed
  cases hstate : gate.state with
  | unlocked => exact absurd hlevel (h.unlocked hstate)
  | lockout => exact .inr rfl
  | _ => exact .inl rfl

theorem GateConsistent.tickLockout (h : GateConsistent gate) (now : UInt32) (w : ω) :
    GateConsistent (gateTickLockout gate now w).1 := by
  unfold gateTickLockout
  split
  next =>
    dsimp only
    split
    next => exact ⟨h.waiting, h.unlocked, h.granted⟩
    next =>
      by_cases hstate : gate.state = .lockout
      · -- a gate that is locked out grants nothing
        have hlevel : gate.activeLevel = 0 := by
          by_contra hgranted
          have hsaid := h.granted hgranted
          rw [hstate] at hsaid
          exact absurd hsaid (by decide)
        have hseed : gate.seedValid = false := by
          by_contra hvalid
          have hsaid := h.waiting.mpr (by simpa using hvalid)
          rw [hstate] at hsaid
          exact absurd hsaid (by decide)
        rw [if_pos hstate]
        exact .of_locked hlevel hseed (.inl rfl)
      · rw [if_neg hstate]
        exact ⟨h.waiting, h.unlocked, h.granted⟩
  next => exact h

theorem gateTickLockout_seed (gate : UdsSecurityGate ω) (now : UInt32) (w : ω) :
    (gateTickLockout gate now w).1.activeLevel = gate.activeLevel ∧
      (gateTickLockout gate now w).1.seedTimerActive = gate.seedTimerActive ∧
      (gateTickLockout gate now w).1.seedExpiryMs = gate.seedExpiryMs := by
  unfold gateTickLockout
  split
  next =>
    dsimp only
    split <;> exact ⟨rfl, rfl, rfl⟩
  next => exact ⟨rfl, rfl, rfl⟩

theorem GateConsistent.tick (h : GateConsistent gate) (hlapsed : ¬Lapsed gate now) (w : ω) :
    GateConsistent (gateTick gate now w).1 := by
  unfold gateTick
  generalize hdelayed : (if gate.initialDelayActive ∧ expired now gate.initialDelayUntilMs
    then { gate with initialDelayActive := false } else gate) = delayed
  have hsame : GateConsistent delayed ∧ delayed.activeLevel = gate.activeLevel ∧
      delayed.seedTimerActive = gate.seedTimerActive ∧ delayed.seedExpiryMs = gate.seedExpiryMs := by
    subst hdelayed
    split
    next => exact ⟨⟨h.waiting, h.unlocked, h.granted⟩, rfl, rfl, rfl⟩
    next => exact ⟨h, rfl, rfl, rfl⟩
  obtain ⟨hconsistent, hlevel, htimer, hexpiry⟩ := hsame
  obtain ⟨hlevel', htimer', hexpiry'⟩ := gateTickLockout_seed delayed now w
  dsimp only
  split
  next hup =>
    refine (hconsistent.tickLockout now w).invalidateSeed ?_
    rw [hlevel', hlevel]
    rw [htimer', htimer, hexpiry', hexpiry] at hup
    by_contra hgranted
    exact hlapsed ⟨hgranted, hup⟩
  next => exact hconsistent.tickLockout now w

theorem gateGrantSeed_consistent (gate : UdsSecurityGate ω) (level : UInt8) (now : UInt32) :
    GateConsistent (gateGrantSeed gate level now) :=
  ⟨iff_of_true rfl rfl, UdsSecurityState.noConfusion, fun _ => .inr rfl⟩

theorem gateRecordSuccess_consistent (gate : UdsSecurityGate ω) {level : UInt8}
    (hlevel : level ≠ 0) (w : ω) : GateConsistent (gateRecordSuccess gate level w).1 :=
  ⟨iff_of_false UdsSecurityState.noConfusion Bool.noConfusion, fun _ => hlevel, fun _ => .inl rfl⟩

/-- A key is only judged while one is waited for. -/
theorem GateConsistent.recordFailure (h : GateConsistent gate) (hseed : gate.seedValid = true) :
    GateConsistent (gateRecordFailure gate now w).1 := by
  have hwaiting := h.waiting.mpr hseed
  unfold gateRecordFailure
  dsimp only [gateInvalidateSeed]
  rw [if_pos hwaiting]
  split_ifs <;>
    first
    | exact .of_locked rfl rfl (.inr rfl)
    | exact .of_locked rfl rfl (.inl rfl)

theorem gateResetSession_consistent (gate : UdsSecurityGate ω) :
    GateConsistent (gateResetSession gate) := by
  refine .of_locked rfl rfl ?_
  unfold gateResetSession gateInvalidateSeed
  cases hstate : gate.state with
  | lockout => exact .inr rfl
  | _ => exact .inl rfl

/-- A reset while a lockout lasts leaves the state, which must then not say unlocked. -/
theorem gateResetEcu_consistent
    (h : gate.lockoutActive = true → gate.state ≠ .unlocked) (now : UInt32) :
    GateConsistent (gateResetEcu gate now) := by
  refine .of_locked rfl rfl ?_
  unfold gateResetEcu gateInvalidateSeed
  cases hlocked : gate.lockoutActive with
  | false => exact .inl rfl
  | true =>
    cases hstate : gate.state with
    | unlocked => exact absurd hstate (h hlocked)
    | lockout => exact .inr rfl
    | _ => exact .inl rfl

end Operations

/-! ## Calls -/

/-- The call ticks the gate and may leave it so: a tick of the server does, and a SecurityAccess
request that gets as far. -/
def TicksGate (s : UdsServer ω × ω) : ServerCall ω → UInt32 → Prop
  | .tick now, t => t = now
  | .handle request _ _ capacity mode now, t =>
    t = now ∧ byteAt request 0 = 0x27 ∧ 2 ≤ request.length ∧ request.length ≤ maxRequestLength ∧
      capacity ≠ 0 ∧ checkServiceAttributes s.1 request mode = 0 ∧
      s.1.callbacks.securitySeed.isSome = true ∧ s.1.callbacks.securityKey.isSome = true
  | _, _ => False

/-- What a call has to meet for the gate to keep telling the same. -/
structure Settled (s : UdsServer ω × ω) (call : ServerCall ω) : Prop where
  running : call.Running
  /-- No tick finds the time of a seed up while a level is granted. -/
  seed : ∀ now, TicksGate s call now → ¬Lapsed s.1.securityGate now
  /-- No reset is applied to an unlocked gate that is locked out all the same: storage has refused
  the end of a lockout of more than half the clock's range. -/
  reset : ∀ reason now, call = .applyReset reason now →
    s.1.securityGate.lockoutActive = true → s.1.securityGate.state ≠ .unlocked

theorem securityLevel_ne {subfunction level : UInt8} {isSeed : Bool}
    (h : udsSecuritySubfunctionLevel subfunction = some (level, isSeed)) : level ≠ 0 := by
  have hall : ∀ b : UInt8, ∀ isSeed : Bool, udsSecuritySubfunctionLevel b ≠ some (0, isSeed) := by
    apply forall_byte
    decide +kernel
  rintro rfl
  exact hall subfunction isSeed h

variable {s : UdsServer ω × ω}

/-- A SecurityAccess request that does not get to the tick leaves the gate. -/
theorem handle_unticked {request : List UInt8} {response : Buf} {responseLen capacity : UInt16}
    {mode : UdsAddressMode} {now : UInt32} (hsid : byteAt request 0 = 0x27)
    (hunticked : ¬TicksGate s (.handle request response responseLen capacity mode now) now) :
    (udsServerHandleAddressed ⟨s.1, response, responseLen, s.2⟩ request capacity mode
      now).2.server.securityGate = s.1.securityGate := by
  unfold udsServerHandleAddressed
  split
  next => rfl
  next hlength =>
    dsimp only
    split
    next => rw [negativeResponse_server]
    next hnrc =>
      rw [udsDispatch_access capacity now hsid]
      unfold serviceSecurityAccess
      split
      next => rw [negativeResponse_server]
      next hshort =>
        split
        next seed key hseed hkey =>
          refine absurd ⟨rfl, hsid, Nat.not_lt.mp hshort, ?_, fun h => hlength (.inl h),
            not_not.mp hnrc, ?_, ?_⟩ hunticked
          · exact Nat.not_lt.mp fun h => hlength (.inr (.inr h))
          · exact Option.isSome_iff_exists.mpr ⟨seed, hseed⟩
          · exact Option.isSome_iff_exists.mpr ⟨key, hkey⟩
        next => rw [negativeResponse_server]

theorem AccessEffect.consistent {x : Exchange ω} {request : List UInt8} {capacity : UInt16}
    {now : UInt32} {out : Served ω} (h : AccessEffect x request capacity now out)
    (hbefore : GateConsistent x.server.securityGate) (hlapsed : ¬Lapsed x.server.securityGate now) :
    GateConsistent out.2.server.securityGate := by
  have hticked : GateConsistent (Uds.ticked x now).server.securityGate := hbefore.tick hlapsed x.world
  have hleft {server : UdsServer ω} {w : ω}
      (left : (out.2.server, out.2.world) = (server, w)) : out.2.server = server :=
    congrArg Prod.fst left
  cases h with
  | closed left => exact (hleft left) ▸ hbefore
  | ticked left => exact (hleft left) ▸ hticked
  | seedRefused level admitted seed callback reply called refused left =>
    exact (hleft left) ▸ hticked
  | seedZero level admitted seed callback reply called unlocked left =>
    exact (hleft left) ▸ hticked
  | seedGranted level admitted seed callback length reply called result locked left =>
    rw [hleft left]
    exact gateGrantSeed_consistent _ level now
  | keyWrong level admitted key callback awaited w called left =>
    rw [hleft left]
    exact hticked.recordFailure awaited.seedValid
  | keyRefused level admitted key callback awaited result w called wrong right left =>
    exact (hleft left) ▸ hticked
  | keyRight level admitted key callback length awaited w called left =>
    rw [hleft left]
    exact gateRecordSuccess_consistent _ (securityLevel_ne admitted.level) w

theorem handle_consistent (h : GateConsistent s.1.securityGate) (request : List UInt8)
    (response : Buf) (responseLen capacity : UInt16) (mode : UdsAddressMode) (now : UInt32)
    (hsettled : Settled s (.handle request response responseLen capacity mode now)) :
    GateConsistent
      (serverStep s (.handle request response responseLen capacity mode now)).1.securityGate := by
  have hu := (unseen_blind s.1.callbacks s.1.securityGate.persistFn).toUnseenServices
  obtain hout | ⟨hserver, -⟩ | ⟨-, ⟨hsid, hout⟩ | ⟨hsid, hout⟩⟩ :=
    handleAddressed_access (x := ⟨s.1, response, responseLen, s.2⟩) hu request capacity mode now
  · show GateConsistent (udsServerHandleAddressed _ request capacity mode now).2.server.securityGate
    rw [hout]
    exact h
  · show GateConsistent (udsServerHandleAddressed _ request capacity mode now).2.server.securityGate
    rw [hserver]
    exact h
  · show GateConsistent (udsServerHandleAddressed _ request capacity mode now).2.server.securityGate
    generalize udsServerHandleAddressed ⟨s.1, response, responseLen, s.2⟩ request capacity mode now
      = out at hout ⊢
    -- no other service writes the gate, except by a change of session
    have hsame {server : UdsServer ω} (hserver : out.2.server = server)
        (hgate : server.securityGate = s.1.securityGate) :
        GateConsistent out.2.server.securityGate := by
      rw [hserver, hgate]
      exact h
    cases hout with
    | session requested ok server =>
      rw [server, requestSession_gate ok]
      exact gateResetSession_consistent _
    | ticked server world sid => exact absurd sid hsid
    | access gate session persist server world sid => exact absurd sid hsid
    | quiet server => exact hsame server rfl
    | reset b f callback request_eq range ok server => exact hsame server rfl
    | dropped b f callback room server => exact hsame server rfl
    | dtcSetting enabled server => exact hsame server rfl
    | download maxBlockLength sid length server => exact hsame server rfl
    | block sid server => exact hsame server rfl
    | exit sid server => exact hsame server rfl
  · -- Security access is the one service that moves the gate.
    by_cases hticks : TicksGate s (.handle request response responseLen capacity mode now) now
    · have heffect := serviceSecurityAccess_effect
        (atHandler ⟨s.1, response, responseLen, s.2⟩ mode now) request capacity now
      rw [← hout] at heffect
      exact heffect.consistent h (hsettled.seed now hticks)
    · show GateConsistent (udsServerHandleAddressed _ request capacity mode now).2.server.securityGate
      rw [handle_unticked hsid hticks]
      exact h

theorem serverStep_consistent (h : GateConsistent s.1.securityGate) {call : ServerCall ω}
    (hsettled : Settled s call) : GateConsistent (serverStep s call).1.securityGate := by
  cases call with
  | handle request response responseLen capacity mode now =>
    exact handle_consistent h request response responseLen capacity mode now hsettled
  | tick now =>
    have hticked := h.tick (hsettled.seed now rfl) s.2
    unfold serverStep udsServerTick
    dsimp only
    split
    next => exact hticked
    next =>
      split
      next => exact gateResetSession_consistent _
      next => exact hticked
  | requestSession requested now =>
    show GateConsistent (udsServerRequestSession s.1 requested now s.2).2.1.securityGate
    by_cases hok : (udsServerRequestSession s.1 requested now s.2).1 = .ok
    · rw [requestSession_gate hok]
      exact gateResetSession_consistent _
    · rw [udsServerRequestSession_refused hok]
      exact h
  | resetSecurity => exact gateResetSession_consistent _
  | applyReset reason now => exact gateResetEcu_consistent (hsettled.reset reason now rfl) now
  | completeReset =>
    unfold serverStep udsServerCompleteReset
    dsimp only
    split
    next => exact h
    next => split <;> exact h
  | clearReset => exact h
  | restoreSecurityState => exact hsettled.running.elim
  | setTiming => exact hsettled.running.elim
  | setSecurityPersistence => exact hsettled.running.elim

/-! ## Runs -/

/-- A gate that has granted nothing yet. -/
structure GateFresh (gate : UdsSecurityGate ω) : Prop where
  activeLevel : gate.activeLevel = 0
  seedValid : gate.seedValid = false
  state : gate.state = .lockedReady ∨ gate.state = .lockout

/-- The configuration of a server, and what is restored before it runs. -/
theorem serverStep_fresh (h : GateFresh s.1.securityGate) {call : ServerCall ω}
    (hsetup : ¬call.Running) : GateFresh (serverStep s call).1.securityGate := by
  cases call with
  | restoreSecurityState failedAttempts lockoutRemainingMs now =>
    show GateFresh (gateRestoreState s.1.securityGate failedAttempts lockoutRemainingMs now)
    unfold gateRestoreState
    dsimp only
    split
    next => exact ⟨h.activeLevel, h.seedValid, .inr rfl⟩
    next =>
      split
      next => exact ⟨h.activeLevel, h.seedValid, .inr rfl⟩
      next => exact ⟨h.activeLevel, h.seedValid, h.state⟩
  | setTiming => exact ⟨h.activeLevel, h.seedValid, h.state⟩
  | setSecurityPersistence => exact ⟨h.activeLevel, h.seedValid, h.state⟩
  | _ => exact absurd trivial hsetup

/-- **The state of the gate.** In every run of a server, however it was configured and whatever was
restored, the state, the seed and the level of the gate agree after every call, as long as no call
drops the seed of a gate that grants a level. -/
theorem gate_states_agree (callbacks : UdsCallbacks ω) (start : UInt32) (w : ω)
    (setup calls : List (ServerCall ω)) (hsetup : ∀ call ∈ setup, ¬call.Running)
    (hcalls : Along serverStep Settled (run serverStep (udsServerInit callbacks start, w) setup)
      calls) :
    GateConsistent (run serverStep (run serverStep (udsServerInit callbacks start, w) setup)
      calls).1.securityGate := by
  have hfresh : GateFresh (run serverStep (udsServerInit callbacks start, w) setup).1.securityGate :=
    Along.inv (I := fun s : UdsServer ω × ω => GateFresh s.1.securityGate)
      (fun _ _ h hcall => serverStep_fresh h hcall) ⟨rfl, rfl, .inl rfl⟩ (along_of_forall hsetup _)
  exact Along.inv (I := fun s : UdsServer ω × ω => GateConsistent s.1.securityGate)
    (fun _ _ h hcall => serverStep_consistent h hcall)
    (.of_locked hfresh.activeLevel hfresh.seedValid hfresh.state) hcalls

/-- Callbacks that give a seed and take every key. -/
def easyCallbacks : UdsCallbacks Unit where
  securitySeed := some fun w _ _ => ⟨.ok, [0x5A], 1, w⟩
  securityKey := some fun w _ _ => (.ok, w)

/-- A request at some time. -/
def askAt (request : List UInt8) (now : UInt32) : ServerCall Unit :=
  .handle request (fun _ => 0) 0 64 .physical now

/-- Level 1 is unlocked, and a seed asked for level 2. -/
def secondSeed : List (ServerCall Unit) :=
  [askAt [0x10, 0x03] 1, askAt [0x27, 0x01] 2, askAt [0x27, 0x02, 0xAA] 3, askAt [0x27, 0x03] 4]

/-- A request is settled where the time of no seed can be up. -/
theorem settled_ask {s : UdsServer Unit × Unit} {request : List UInt8} {now : UInt32}
    (h : s.1.securityGate.activeLevel = 0 ∨ s.1.securityGate.seedTimerActive = false) :
    Settled s (askAt request now) := by
  refine ⟨trivial, fun t _ hlapsed => ?_, fun reason t hcall => by simp [askAt] at hcall⟩
  rcases h with hlevel | htimer
  · exact hlapsed.1 hlevel
  · exact absurd (htimer.symm.trans hlapsed.2.1) (by decide)

/-- The gate waits for the key of level 2, with level 1 granted. -/
theorem gate_states_agree_second :
    GateConsistent (run serverStep (run serverStep (udsServerInit easyCallbacks 0, ())
      [.setTiming 5000 0 10000 1000 3]) secondSeed).1.securityGate := by
  refine gate_states_agree easyCallbacks 0 () [.setTiming 5000 0 10000 1000 3] secondSeed ?_ ?_
  · intro call hcall
    obtain rfl := List.mem_singleton.mp hcall
    exact id
  · refine ⟨settled_ask (.inl ?_), settled_ask (.inl ?_), settled_ask (.inl ?_),
      settled_ask (.inr ?_), trivial⟩ <;> decide +kernel

/-- The seed for level 2 lapses: the gate says that it is locked, and level 1 is granted. -/
theorem seed_lapse_reports_locked :
    let s := run serverStep (udsServerInit easyCallbacks 0, ())
      ([.setTiming 5000 0 10000 1000 3] ++ secondSeed ++ [.tick 1004])
    s.1.securityGate.state = .lockedReady ∧ s.1.securityGate.activeLevel = 1 := by
  decide +kernel

end UdsIsoTp.Uds
