import UdsIsoTp.App.SecurityApp
import UdsIsoTp.Uds.BruteForce

/-!
# Which key unlocks

A server whose seed and key callbacks are those of `uds_security_app.c`, with any other callbacks,
any storage for the gate and any entropy. The gate keeps whether a seed is outstanding and for
which level; the application keeps, for each level, the seed itself and whether it may still be
used. They are set and cleared at different times: a zero seed is drawn and kept but not granted,
and a key that cannot be judged uses the kept seed up and leaves the gate waiting.

`Linked` says what they have to do with each other: while the gate waits for a key, the last seed
that was given away is the one that the application keeps for that level, unless it is used up
(`Outstanding`). So a level is only unlocked by the key of the last seed (`unlock_sound`).
-/

namespace UdsIsoTp.App

open UdsIsoTp.Crypto UdsIsoTp.Uds

variable {η : Type}

/-! ## The server with its application -/

/-- What stands beside the world of the other callbacks: the application, and a log of the calls
that its two callbacks have had. -/
abbrev SecurityWorld (η : Type) := η × UdsSecurityApp η × List AccessEvent

/-- The server's callbacks with the security application's own two put in. -/
def securityCallbacks (trng : UdsEntropySource η) (c : UdsCallbacks η) :
    UdsCallbacks (SecurityWorld η) :=
  { besideCallbacks c with
    securitySeed := some fun w level capacity =>
      let reply := udsSecurityAppSeed trng w.2.1 w.1 level capacity
      ⟨reply.result, reply.data, reply.length, reply.world.1, reply.world.2,
        w.2.2 ++ [.seed level]⟩
    securityKey := some fun w level key =>
      let verdict := udsSecurityAppKey w.2.1 w.1 level key
      (verdict.1, verdict.2.1, verdict.2.2, w.2.2 ++ [.key level verdict.1]) }

/-- A callback of the server beside the application, which it does not touch. -/
def besidePersist (f : η → UInt8 → UInt32 → Bool × η) :
    SecurityWorld η → UInt8 → UInt32 → Bool × SecurityWorld η :=
  fun w attempts remaining => besideVerdict (f w.1 attempts remaining) w.2

/-- The server with the world it and the application share. -/
abbrev SecurityServer (η : Type) := UdsServer (SecurityWorld η) × SecurityWorld η

/-- The application of a server. -/
def securityApp (s : SecurityServer η) : UdsSecurityApp η := s.2.2.1

/-- What the two callbacks were asked, in order. -/
def accessLog (s : SecurityServer η) : List AccessEvent := s.2.2.2

/-- A server that is wired to the application and waits for no key. -/
structure Started (trng : UdsEntropySource η) (c : UdsCallbacks η)
    (persistFn : Option (η → UInt8 → UInt32 → Bool × η)) (s : SecurityServer η) : Prop where
  callbacks : s.1.callbacks = securityCallbacks trng c
  persist : s.1.securityGate.persistFn = persistFn.map besidePersist
  noSeed : s.1.securityGate.seedValid = false
  notReady : s.1.resetReady = false

/-- The server and the application from their init on. -/
def securityStart (trng : UdsEntropySource η) (c : UdsCallbacks η)
    (persistFn : Option (η → UInt8 → UInt32 → Bool × η)) (app : UdsSecurityApp η) (start : UInt32)
    (w : η) : SecurityServer η :=
  (udsServerSetSecurityPersistence (udsServerInit (securityCallbacks trng c) start)
    (persistFn.map besidePersist), w, udsSecurityAppInit app, [])

/-- The calls of a run: requests, ticks, and what the application asks of the server itself. A
reset is applied by `applyReset`; `ecu_reset_execute` does not come back. -/
def Asked : ServerCall (SecurityWorld η) → Prop
  | .handle .. => True
  | .tick _ => True
  | .requestSession .. => True
  | .resetSecurity => True
  | .applyReset .. => True
  | .clearReset => True
  | _ => False

/-! ## What is seen of a run -/

/-- The answer to a request is a positive seed response for the level, with a seed that is not
zero. -/
structure SeedResponse (request : List UInt8) (out : Served (SecurityWorld η)) (level : UInt8)
    (seed : List UInt8) : Prop where
  service : byteAt request 0 = 0x27
  subfunction : udsSecuritySubfunctionLevel (byteAt request 1) = some (level, true)
  result : out.1 = .ok
  positive : out.2.response 0 = 0x67
  length : out.2.responseLen.toNat = 2 + seed.length
  bytes : out.2.response.slice 2 seed.length = seed
  nonzero : ∃ b ∈ seed, b ≠ 0

/-- The call is a request that is answered with the seed. -/
def GivesSeed (s : SecurityServer η) (call : ServerCall (SecurityWorld η)) (level : UInt8)
    (seed : List UInt8) : Prop :=
  ∃ request response responseLen capacity mode now,
    call = .handle request response responseLen capacity mode now ∧
      SeedResponse request (udsServerHandleAddressed ⟨s.1, response, responseLen, s.2⟩ request
        capacity mode now) level seed

/-- The key callback has been called for the level. -/
def JudgesKey (s : SecurityServer η) (call : ServerCall (SecurityWorld η)) (level : UInt8) : Prop :=
  ∃ verdict, accessLog (serverStep s call) = accessLog s ++ [.key level verdict]

/-- The session ends: it becomes another one, a change of session is granted (also to the one it
is), the S3 timeout strikes, or the ECU is reset. -/
def EndsSession (s : SecurityServer η) (call : ServerCall (SecurityWorld η)) : Prop :=
  (serverStep s call).1.session ≠ s.1.session ∨
    match call with
    | .handle request _ _ capacity mode now =>
      -- a session request that is admitted, well formed and granted, whatever its answer
      byteAt request 0 = 0x10 ∧ request.length = 2 ∧ capacity ≠ 0 ∧
        checkServiceAttributes s.1 request mode = 0 ∧
        (udsServerRequestSession s.1 (byteAt request 1 &&& 0x7F) now s.2).1 = .ok
    | .requestSession requested now => (udsServerRequestSession s.1 requested now s.2).1 = .ok
    | .tick now =>
      (udsServerTick s.1 now s.2).1 = .busy ∨ (s.1.resetPending = true ∧ s.1.resetReady = true)
    | .applyReset .. => True
    | _ => False

/-- The seed timer runs out. -/
def SeedExpires (s : SecurityServer η) (call : ServerCall (SecurityWorld η)) : Prop :=
  ∃ now, call = .tick now ∧ s.1.securityGate.seedTimerActive = true ∧
    expired now s.1.securityGate.seedExpiryMs = true

/-- Nothing happens to the seed that the gate has granted for the level. -/
structure Calm (level : UInt8) (s : SecurityServer η) (call : ServerCall (SecurityWorld η)) :
    Prop where
  held : Awaited (serverStep s call).1.securityGate level
  noSeed : ∀ other seed, ¬GivesSeed s call other seed
  session : ¬EndsSession s call
  timer : ¬SeedExpires s call

/-- The call sends the key that the level derives from the seed, in time. -/
def SendsKey (s : SecurityServer η) (call : ServerCall (SecurityWorld η)) (level : UInt8)
    (seed : List UInt8) : Prop :=
  ∃ request response responseLen capacity mode now,
    call = .handle request response responseLen capacity mode now ∧
      byteAt request 0 = 0x27 ∧
      udsSecuritySubfunctionLevel (byteAt request 1) = some (level, false) ∧
      LevelKey (securityApp s) (gateTick s.1.securityGate now s.2).2.1 level seed
        (request.drop 2) ∧
      (s.1.securityGate.seedTimerActive = true → expired now s.1.securityGate.seedExpiryMs = false)

/-- The call unlocks the level. -/
structure Unlocks (s : SecurityServer η) (call : ServerCall (SecurityWorld η)) (level : UInt8) :
    Prop where
  unlocked : (serverStep s call).1.securityGate.activeLevel = level
  locked : s.1.securityGate.activeLevel ≠ level
  someLevel : level ≠ 0

/-- The call has the key of the seed that `asked` was answered with, and since then nothing has
happened to that seed. -/
structure UnlockedBy (start : SecurityServer η) (before : List (ServerCall (SecurityWorld η)))
    (call : ServerCall (SecurityWorld η)) (level : UInt8)
    (earlier : List (ServerCall (SecurityWorld η))) (asked : ServerCall (SecurityWorld η))
    (later : List (ServerCall (SecurityWorld η))) (seed : List UInt8) (given now : UInt32) :
    Prop where
  split : before = earlier ++ asked :: later
  gives : GivesSeed (run serverStep start earlier) asked level seed
  sends : SendsKey (run serverStep start before) call level seed
  calm : Along serverStep (Calm level) (run serverStep start (earlier ++ [asked])) later
  unjudged : Along serverStep (fun s call => ¬JudgesKey s call level)
    (run serverStep start (earlier ++ [asked])) later
  issued : asked.time = some given
  received : call.time = some now
  inTime : (run serverStep start before).1.securityGate.seedTimeoutMs ≠ 0 →
    expired now (given + (run serverStep start before).1.securityGate.seedTimeoutMs) = false

/-- The keys for the level that were found to be right or wrong. -/
def judgedKeys (level : UInt8) (log : List AccessEvent) : Nat :=
  log.countP fun event => match event with
    | .key asked verdict => asked = level ∧ (verdict = .ok ∨ verdict = .invalidKey)
    | .seed _ => false

/-! ## What a call does -/

/-- No other callback touches the application or the log. -/
theorem security_unseen (trng : UdsEntropySource η) (c : UdsCallbacks η)
    (persistFn : Option (η → UInt8 → UInt32 → Bool × η)) :
    UnseenCalls (Prod.snd : SecurityWorld η → UdsSecurityApp η × List AccessEvent)
      (securityCallbacks trng c) (persistFn.map besidePersist) :=
  beside_calls c _ _ persistFn

theorem serverStep_resetReady {s : SecurityServer η} {call : ServerCall (SecurityWorld η)}
    (hasked : Asked call) (hready : s.1.resetReady = false) :
    (serverStep s call).1.resetReady = false := by
  cases call with
  | handle request response responseLen capacity mode now =>
    show (udsServerHandleAddressed ⟨s.1, response, responseLen, s.2⟩ request capacity mode
      now).2.server.resetReady = false
    obtain hout | ⟨hserver, -⟩ | ⟨-, hout⟩ :=
      handleAddressed_cases (x := ⟨s.1, response, responseLen, s.2⟩) (unseen_blind _ _) request
        capacity mode now
    · rw [hout]
      exact hready
    · rw [hserver]
      exact hready
    · exact Handled.resetReady hout hready
  | tick now =>
    unfold serverStep udsServerTick
    dsimp only
    split
    next => rfl
    next => split <;> exact hready
  | requestSession requested now =>
    show (udsServerRequestSession s.1 requested now s.2).2.1.resetReady = false
    by_cases hok : (udsServerRequestSession s.1 requested now s.2).1 = .ok
    · exact (udsServerRequestSession_ok hok).resetReady.trans hready
    · rw [udsServerRequestSession_refused hok]
      exact hready
  | resetSecurity => exact hready
  | applyReset reason now => rfl
  | clearReset => rfl
  | _ => exact hasked.elim

/-- The end of a session clears the seed. -/
theorem endsSession_seed {s : SecurityServer η} {call : ServerCall (SecurityWorld η)}
    (hready : s.1.resetReady = false) (h : EndsSession s call) :
    (serverStep s call).1.securityGate.seedValid = false := by
  have hgranted : ∀ requested now, (udsServerRequestSession s.1 requested now s.2).1 = .ok →
      (udsServerRequestSession s.1 requested now s.2).2.1.securityGate.seedValid = false :=
    fun _ _ hok => (udsServerRequestSession_ok hok).seedValid
  cases call with
  | handle request response responseLen capacity mode now =>
    rcases h with hsession | ⟨hsid, hlength, hcapacity, hattributes, hok⟩
    · have hcases := handleAddressed_cases (x := ⟨s.1, response, responseLen, s.2⟩)
        (unseen_blind _ _) request capacity mode now
      unfold serverStep at hsession ⊢
      dsimp only at hsession ⊢
      obtain hout | ⟨hserver, -⟩ | ⟨-, hout⟩ := hcases
      · rw [hout] at hsession
        exact absurd rfl hsession
      · rw [hserver] at hsession
        exact absurd rfl hsession
      · exact Handled.session_seed hout hsession
    · have hdispatch : udsServerHandleAddressed ⟨s.1, response, responseLen, s.2⟩ request capacity
          mode now
            = serviceSessionControl (atHandler ⟨s.1, response, responseLen, s.2⟩ mode now) request
              capacity now := by
        unfold udsServerHandleAddressed
        have hformed :
            ¬(capacity = 0 ∨ request.length = 0 ∨ maxRequestLength < request.length) := by
          rw [hlength]
          simp [hcapacity, maxRequestLength]
        rw [if_neg hformed]
        dsimp only
        rw [if_neg (not_not.mpr hattributes)]
        unfold udsDispatch
        rw [hsid]
        rfl
      show (udsServerHandleAddressed ⟨s.1, response, responseLen, s.2⟩ request capacity mode
        now).2.server.securityGate.seedValid = false
      rw [hdispatch]
      -- whether a session is granted does not depend on when and how the request came
      have hallowed := udsServerRequestSession_ok_iff.mp hok
      exact serviceSessionControl_granted capacity hlength
        (udsServerRequestSession_ok_iff.mpr hallowed)
  | tick now =>
    unfold EndsSession serverStep at h
    unfold serverStep
    unfold udsServerTick at h ⊢
    dsimp only at h ⊢
    rw [if_neg (by simp [hready])] at h ⊢
    by_cases hidle : s.1.s3ServerTimeoutMs ≤ now - s.1.lastActivityMs
    · rw [if_pos hidle]
      rfl
    · rw [if_neg hidle] at h
      rcases h with hsession | hbusy | ⟨-, hisready⟩
      · exact absurd rfl hsession
      · exact UdsCallbackResult.noConfusion hbusy
      · exact Bool.noConfusion (hready.symm.trans hisready)
  | requestSession requested now =>
    rcases h with hsession | hok
    · by_cases hok : (udsServerRequestSession s.1 requested now s.2).1 = .ok
      · exact hgranted requested now hok
      · unfold serverStep at hsession
        dsimp only at hsession
        rw [udsServerRequestSession_refused hok] at hsession
        exact absurd rfl hsession
    · exact hgranted requested now hok
  | resetSecurity => rfl
  | applyReset reason now => rfl
  | restoreSecurityState failedAttempts lockoutRemainingMs now =>
    rcases h with hsession | hnone
    · exact absurd (by unfold serverStep udsServerRestoreSecurityState; rfl) hsession
    · exact hnone.elim
  | completeReset =>
    rcases h with hsession | hnone
    · refine absurd ?_ hsession
      unfold serverStep udsServerCompleteReset
      dsimp only
      split
      next => rfl
      next => split <;> rfl
    · exact hnone.elim
  | _ =>
    rcases h with hsession | hnone
    · exact absurd rfl hsession
    · exact hnone.elim

/-! ## Answers -/

section Answers

variable {x : Exchange (SecurityWorld η)} {request : List UInt8} {capacity : UInt16}
  {now : UInt32} {out : Served (SecurityWorld η)} {level : UInt8} {seed : List UInt8}

/-- A refusal gives no seed. -/
theorem noSeed_of_refusal (h : Refusal out) : ¬SeedResponse request out level seed :=
  fun hseed => absurd ((h hseed.result).symm.trans hseed.positive) (by decide)

/-- A seed response has come to the seed callback, and the gate has granted it. -/
theorem SeedResponse.granted (h : SeedResponse request out level seed)
    (heffect : AccessEffect x request capacity now out) :
    ∃ callback reply, x.server.callbacks.securitySeed = some callback ∧
      seedReply callback x capacity now level = reply ∧
      out.2.world = reply.world ∧ (ticked x now).server.securityGate.activeLevel ≠ level := by
  cases heffect with
  | closed left answer => exact absurd h (noSeed_of_refusal answer)
  | ticked left answer => exact absurd h (noSeed_of_refusal answer)
  | seedRefused level' admitted callback called_eq reply called refused left answer =>
    exact absurd h (noSeed_of_refusal answer)
  | seedZero level' admitted callback called_eq reply called unlocked left answer zero =>
    -- the bytes of the response are zero, those of the seed are not
    obtain ⟨b, hb, hne⟩ := h.nonzero
    rw [← h.bytes] at hb
    obtain ⟨i, hi, rfl⟩ := List.mem_iff_getElem.mp hb
    rw [Buf.getElem_slice] at hne
    rw [Buf.length_slice] at hi
    refine absurd (zero i ?_) hne
    have hlength := h.length
    have hfits : (2 + reply.length).toNat ≤ 2 + reply.length.toNat := by
      rw [UInt16.toNat_add]
      exact Nat.mod_le _ _
    rw [answer.responseLen] at hlength
    omega
  | seedGranted level' admitted callback called_eq length reply called result locked left answer =>
    have hlevel : level' = level := by
      have hsame := admitted.level.symm.trans h.subfunction
      simpa using hsame
    subst hlevel
    exact ⟨callback, reply, called_eq, called, congrArg Prod.snd left, locked⟩
  | keyWrong level' admitted callback called_eq awaited w called left answer =>
    exact absurd h (noSeed_of_refusal answer)
  | keyRefused level' admitted callback called_eq awaited result w called wrong right left answer =>
    exact absurd h (noSeed_of_refusal answer)
  | keyRight level' admitted callback called_eq length awaited w called left =>
    exact absurd (admitted.level.symm.trans h.subfunction) (by simp)

/-- A request that is answered with a seed has come to SecurityAccess. -/
theorem givesSeed_access {s : SecurityServer η} {call : ServerCall (SecurityWorld η)}
    (h : GivesSeed s call level seed) :
    ∃ request response responseLen capacity mode now,
      call = .handle request response responseLen capacity mode now ∧
        SeedResponse request (udsServerHandleAddressed ⟨s.1, response, responseLen, s.2⟩ request
          capacity mode now) level seed ∧
        AccessEffect (atHandler ⟨s.1, response, responseLen, s.2⟩ mode now) request capacity now
          (udsServerHandleAddressed ⟨s.1, response, responseLen, s.2⟩ request capacity mode
            now) := by
  obtain ⟨request, response, responseLen, capacity, mode, now, hcall, hseed⟩ := h
  refine ⟨request, response, responseLen, capacity, mode, now, hcall, hseed, ?_⟩
  unfold udsServerHandleAddressed at hseed ⊢
  split at hseed
  next => exact UdsCallbackResult.noConfusion hseed.result
  next hformed =>
    rw [if_neg hformed]
    dsimp only at hseed ⊢
    split at hseed
    next => exact absurd hseed (noSeed_of_refusal (negativeResponse_refusal _))
    next hadmitted =>
      rw [if_neg hadmitted, udsDispatch_access capacity now hseed.service]
      exact serviceSecurityAccess_effect ..

end Answers

/-! ## What a call does to the seeds -/

/-- No key has been asked about: the log is what it was, or says that a seed was asked for. -/
def NoKey (log log' : List AccessEvent) : Prop :=
  log' = log ∨ ∃ level, log' = log ++ [.seed level]

/-- What a call does to the seed of the gate and to those of the application. -/
inductive AppMove (s : SecurityServer η) (call : ServerCall (SecurityWorld η))
    (s' : SecurityServer η) : Prop
  /-- The seed that the gate waits for is the one it was, if it still waits. -/
  | still (lessened : Lessened s.1.securityGate s'.1.securityGate)
      (kept : ∀ level, Awaited s'.1.securityGate level →
        (securityApp s').seed level = (securityApp s).seed level ∧
          (securityApp s').seedValid level = (securityApp s).seedValid level)
      (noKey : NoKey (accessLog s) (accessLog s'))
      (noSeed : ∀ level seed, ¬GivesSeed s call level seed) : AppMove s call s'
  | given (level : UInt8) (seed : List UInt8) (now : UInt32) (gives : GivesSeed s call level seed)
      (called : call.time = some now) (known : level = securityLevel1 ∨ level = securityLevel2)
      (kept : (securityApp s').seed level = seed)
      (locked : s'.1.securityGate.activeLevel ≠ level)
      (noLevel : s'.1.securityGate.activeLevel = s.1.securityGate.activeLevel ∨
        s'.1.securityGate.activeLevel = 0)
      (awaited : Awaited s'.1.securityGate level)
      (expiry : s'.1.securityGate.seedExpiryMs = now + s'.1.securityGate.seedTimeoutMs)
      (timer : s'.1.securityGate.seedTimerActive
        = decide (s'.1.securityGate.seedTimeoutMs ≠ 0))
      (noKey : NoKey (accessLog s) (accessLog s')) : AppMove s call s'
  /-- The key could not be judged: the seed is used up, and the gate does not know. -/
  | failed (level : UInt8) (verdict : UdsCallbackResult)
      (lessened : Lessened s.1.securityGate s'.1.securityGate)
      (awaited : Awaited s.1.securityGate level)
      (used : (securityApp s').seedValid level = false)
      (judged : accessLog s' = accessLog s ++ [.key level verdict])
      (wrong : verdict ≠ .invalidKey) (right : verdict ≠ .ok)
      (noSeed : ∀ other seed, ¬GivesSeed s call other seed) : AppMove s call s'
  | wrong (level : UInt8) (awaited : Awaited s.1.securityGate level)
      (judged : accessLog s' = accessLog s ++ [.key level .invalidKey])
      (cleared : s'.1.securityGate.seedValid = false)
      (noLevel : s'.1.securityGate.activeLevel = 0) : AppMove s call s'
  | right (level : UInt8) (awaited : Awaited s.1.securityGate level)
      (judged : accessLog s' = accessLog s ++ [.key level .ok])
      (cleared : s'.1.securityGate.seedValid = false)
      (unlocked : s'.1.securityGate.activeLevel = level)
      (valid : (securityApp s).seedValid level = true)
      (sent : SendsKey s call level ((securityApp s).seed level)) : AppMove s call s'

/-- The seed that the gate waits for is of a level that is not unlocked. -/
def SeedApart {ω : Type} (gate : UdsSecurityGate ω) : Prop :=
  gate.seedValid = true → gate.seedLevel ≠ gate.activeLevel ∧ gate.seedLevel ≠ 0

/-- A seed that is still there is the one that was there. -/
theorem SeedApart.lessened {ω : Type} {gate gate' : UdsSecurityGate ω} (h : SeedApart gate)
    (hlessened : Lessened gate gate') : SeedApart gate' := by
  intro hvalid
  obtain ⟨hdiffers, hsome⟩ := h (hlessened.seedValid hvalid)
  rw [hlessened.seedLevel hvalid]
  rcases hlessened.activeLevel with hsame | hnone
  · rw [hsame]
    exact ⟨hdiffers, hsome⟩
  · rw [hnone]
    exact ⟨hsome, hsome⟩

/-- A call that leaves the application alone leaves the seed alone. -/
theorem AppMove.unmoved {s s' : SecurityServer η} {call : ServerCall (SecurityWorld η)}
    (hlessened : Lessened s.1.securityGate s'.1.securityGate)
    (happ : securityApp s' = securityApp s) (hlog : NoKey (accessLog s) (accessLog s'))
    (hnoSeed : ∀ level seed, ¬GivesSeed s call level seed) : AppMove s call s' := by
  refine .still hlessened (fun level _ => ?_) hlog hnoSeed
  rw [happ]
  exact ⟨rfl, rfl⟩

theorem gateRecordFailure_cleared {ω : Type} (gate : UdsSecurityGate ω) (now : UInt32) (w : ω) :
    (gateRecordFailure gate now w).1.activeLevel = 0 := by
  unfold gateRecordFailure
  dsimp only
  split_ifs <;> rfl

section Move

variable {trng : UdsEntropySource η} {c : UdsCallbacks η}
  {persistFn : Option (η → UInt8 → UInt32 → Bool × η)} {s : SecurityServer η}

/-- The wiring of a server to the application. -/
structure Wired (trng : UdsEntropySource η) (c : UdsCallbacks η)
    (persistFn : Option (η → UInt8 → UInt32 → Bool × η)) (s : SecurityServer η) : Prop where
  callbacks : s.1.callbacks = securityCallbacks trng c
  persist : s.1.securityGate.persistFn = persistFn.map besidePersist

theorem Wired.unseen (h : Wired trng c persistFn s) :
    UnseenCalls (Prod.snd : SecurityWorld η → UdsSecurityApp η × List AccessEvent) s.1.callbacks
      s.1.securityGate.persistFn := by
  rw [h.callbacks, h.persist]
  exact security_unseen trng c persistFn

theorem Wired.step (h : Wired trng c persistFn s) {call : ServerCall (SecurityWorld η)}
    (hasked : Asked call) : Wired trng c persistFn (serverStep s call) := by
  refine ⟨(serverStep_callbacks s call).trans h.callbacks, ?_⟩
  obtain ⟨persistFn', rfl, -⟩ | hsame := serverStep_persistFn s call
  · exact hasked.elim
  · exact hsame.trans h.persist

/-- The gate's tick touches neither the application nor the log. -/
theorem Wired.ticked (h : Wired trng c persistFn s) (now : UInt32) :
    (gateTick s.1.securityGate now s.2).2.2 = s.2.2 :=
  gateTick_unseen h.unseen.persist now s.2

theorem log_ne_append {log : List AccessEvent} {event : AccessEvent} : log ++ [event] ≠ log :=
  fun h => by simpa using congrArg List.length h

theorem NoKey.not_judges {call : ServerCall (SecurityWorld η)}
    (h : NoKey (accessLog s) (accessLog (serverStep s call))) (level : UInt8) :
    ¬JudgesKey s call level := by
  rintro ⟨verdict, hjudged⟩
  rcases h with hsame | ⟨asked, hseed⟩
  · exact log_ne_append (hjudged.symm.trans hsame)
  · have hevent := List.append_cancel_left (hseed.symm.trans hjudged)
    exact AccessEvent.noConfusion (List.singleton_inj.mp hevent)

/-- What the seed callback answers, and the log that it leaves. -/
theorem Wired.seedReply (h : Wired trng c persistFn s)
    {callback : SecurityWorld η → UInt8 → UInt16 → Reply (SecurityWorld η)} {response : Buf}
    {responseLen capacity : UInt16} {mode : UdsAddressMode} {now : UInt32} {level : UInt8}
    {reply : Reply (SecurityWorld η)} (hcallback : s.1.callbacks.securitySeed = some callback)
    (hcalled : seedReply callback (atHandler ⟨s.1, response, responseLen, s.2⟩ mode now) capacity
      now level = reply) :
    reply.world.2.2 = accessLog s ++ [.seed level] ∧
      (reply.result ≠ .ok ∧ reply.world.2.1 = securityApp s ∨
        reply.result = .ok ∧ SeedKept level (if 2 < capacity then capacity - 2 else 0)
          (securityApp s) ⟨reply.result, reply.data, reply.length, reply.world.1,
            reply.world.2.1⟩) := by
  rw [h.callbacks] at hcallback
  obtain rfl := Option.some.inj hcallback
  have hticked := h.ticked now
  rw [← hcalled]
  unfold Uds.seedReply
  have happ : (Uds.ticked (atHandler ⟨s.1, response, responseLen, s.2⟩ mode now) now).world.2
      = s.2.2 := hticked
  dsimp only
  rw [happ]
  exact ⟨rfl, udsSecurityAppSeed_cases trng (securityApp s) _ level _⟩

/-- A seed that has been kept fits the response. -/
theorem SeedKept.room {level : UInt8} {capacity : UInt16} {app : UdsSecurityApp η}
    {reply : Reply (η × UdsSecurityApp η)}
    (h : SeedKept level (if 2 < capacity then capacity - 2 else 0) app reply) :
    ¬capacity < 2 + reply.length := by
  have hsome : 0 < reply.data.length := by
    obtain ⟨b, hb, -⟩ := h.nonzero
    exact List.length_pos_of_mem hb
  have hlength := h.length
  have hfits := UInt16.le_iff_toNat_le.mp h.fits
  rw [UInt16.not_lt, UInt16.le_iff_toNat_le, UInt16.toNat_add]
  have hbound := capacity.toNat_lt
  split at hfits
  next hroom =>
    have hroom := UInt16.lt_iff_toNat_lt.mp hroom
    rw [UInt16.toNat_sub_of_le _ _ (UInt16.le_iff_toNat_le.mpr (by simpa using hroom.le))] at hfits
    simp only [UInt16.reduceToNat] at hfits hroom ⊢
    omega
  next =>
    simp only [UInt16.reduceToNat] at hfits
    omega

/-- The answer with such a seed is a seed response. -/
theorem SeedKept.seedResponse {level : UInt8} {capacity : UInt16} {app : UdsSecurityApp η}
    {reply : Reply (η × UdsSecurityApp η)} (h : SeedKept level capacity app reply)
    {request : List UInt8} {out : Served (SecurityWorld η)} (hsid : byteAt request 0 = 0x27)
    (hlevel : udsSecuritySubfunctionLevel (byteAt request 1) = some (level, true))
    (hanswer : SeedAnswer out (byteAt request 1) reply.length)
    (hbytes : ∀ i < reply.data.length, out.2.response (2 + i) = Buf.ofList reply.data i) :
    SeedResponse request out level reply.data := by
  refine ⟨hsid, hlevel, hanswer.result, hanswer.service, ?_, ?_, h.nonzero⟩
  · have hshort := h.short
    have hlength := h.length
    rw [hanswer.responseLen, UInt16.toNat_add]
    simp only [UInt16.reduceToNat] at hlength hshort ⊢
    omega
  · rw [← Buf.slice_ofList reply.data, Buf.length_slice]
    refine Buf.slice_congr fun i hi => ?_
    rw [hbytes i hi, Nat.zero_add]

/-- The key callback's verdict, and what it leaves. -/
theorem Wired.keyVerdict (h : Wired trng c persistFn s)
    {callback : SecurityWorld η → UInt8 → List UInt8 → UdsCallbackResult × SecurityWorld η}
    {response : Buf} {responseLen : UInt16} {mode : UdsAddressMode} {request : List UInt8}
    {now : UInt32} {level : UInt8} {verdict : UdsCallbackResult} {w : SecurityWorld η}
    (hcallback : s.1.callbacks.securityKey = some callback)
    (hcalled : keyVerdict callback (atHandler ⟨s.1, response, responseLen, s.2⟩ mode now) request
      now level = (verdict, w)) :
    w.2.2 = accessLog s ++ [.key level verdict] ∧ w.2.1.seedValid level = false ∧
      (verdict = .ok → (securityApp s).seedValid level = true ∧
        LevelKey (securityApp s) (gateTick s.1.securityGate now s.2).2.1 level
          ((securityApp s).seed level) (request.drop 2)) := by
  rw [h.callbacks] at hcallback
  obtain rfl := Option.some.inj hcallback
  have happ : (Uds.ticked (atHandler ⟨s.1, response, responseLen, s.2⟩ mode now) now).world.2
      = s.2.2 := h.ticked now
  unfold Uds.keyVerdict at hcalled
  dsimp only at hcalled
  rw [happ] at hcalled
  obtain ⟨rfl, rfl⟩ := Prod.mk.inj hcalled
  refine ⟨rfl, ?_⟩
  obtain ⟨hnot1, hnot2, hverdict⟩ | hused := udsSecurityAppKey_cases (securityApp s)
    (gateTick s.1.securityGate now s.2).2.1 level (request.drop 2)
  · -- a level that the application does not know has no seed to use up
    have hnone : (securityApp s).seedValid level = false := by
      unfold UdsSecurityApp.seedValid
      rw [if_neg hnot1, if_neg hnot2]
    refine ⟨(congrArg (fun out => out.2.2.seedValid level) hverdict).trans hnone, fun hok => ?_⟩
    exact UdsCallbackResult.noConfusion ((congrArg Prod.fst hverdict).symm.trans hok)
  · exact ⟨hused.seedValid, hused.right⟩

theorem awaited_of_lessened {ω : Type} {gate gate' : UdsSecurityGate ω} {level : UInt8}
    (hlessened : Lessened gate gate') (h : Awaited gate' level) : Awaited gate level :=
  ⟨hlessened.seedValid h.seedValid, (hlessened.seedLevel h.seedValid).symm.trans h.seedLevel⟩

/-- The way from the gate's tick to a call that a SecurityAccess request has come to. -/
theorem awaited_before_tick {ω : Type} {gate : UdsSecurityGate ω} {now : UInt32} {w : ω}
    {level : UInt8} (h : Awaited (gateTick gate now w).1 level) :
    Awaited gate level ∧ (gate.seedTimerActive = true → expired now gate.seedExpiryMs = false) := by
  obtain ⟨hlessened, htimer⟩ := gateTick_seed gate now w
  exact ⟨awaited_of_lessened hlessened h, htimer h.seedValid⟩

/-- A refusal is not a seed, however it is read. -/
theorem givesNoSeed {request : List UInt8} {response : Buf} {responseLen capacity : UInt16}
    {mode : UdsAddressMode} {now : UInt32}
    (answer : Refusal (udsServerHandleAddressed ⟨s.1, response, responseLen, s.2⟩ request capacity
      mode now)) (level : UInt8) (seed : List UInt8) :
    ¬GivesSeed s (.handle request response responseLen capacity mode now) level seed := by
  rintro ⟨request', response', responseLen', capacity', mode', now', hcall, hseed⟩
  cases hcall
  exact noSeed_of_refusal answer hseed

/-- A seed response comes from the seed callback, for a level that is not unlocked. -/
theorem Wired.gives (h : Wired trng c persistFn s) {call : ServerCall (SecurityWorld η)}
    {level : UInt8} {seed : List UInt8} (hgives : GivesSeed s call level seed) :
    accessLog (serverStep s call) = accessLog s ++ [.seed level] ∧
      ∀ now, call.time = some now → (gateTick s.1.securityGate now s.2).1.activeLevel ≠ level := by
  obtain ⟨request, response, responseLen, capacity, mode, now, rfl, hresponse, heffect⟩ :=
    givesSeed_access hgives
  obtain ⟨callback, reply, hcallback, hcalled, hworld, hlocked⟩ := hresponse.granted heffect
  refine ⟨?_, fun now' hnow => ?_⟩
  · show (udsServerHandleAddressed ⟨s.1, response, responseLen, s.2⟩ request capacity mode
      now).2.world.2.2 = _
    rw [hworld]
    exact (h.seedReply hcallback hcalled).1
  · obtain rfl := Option.some.inj hnow
    exact hlocked

theorem Wired.access (h : Wired trng c persistFn s) (hapart : SeedApart s.1.securityGate)
    {request : List UInt8} {response : Buf} {responseLen capacity : UInt16} {mode : UdsAddressMode}
    {now : UInt32} (hsid : byteAt request 0 = 0x27)
    (heffect : AccessEffect (atHandler ⟨s.1, response, responseLen, s.2⟩ mode now) request capacity
      now (udsServerHandleAddressed ⟨s.1, response, responseLen, s.2⟩ request capacity mode now)) :
    AppMove s (.handle request response responseLen capacity mode now)
      (serverStep s (.handle request response responseLen capacity mode now)) := by
  have hticked := h.ticked now
  have hlessened := (gateTick_seed s.1.securityGate now s.2).1
  have hpersist : ∀ f ∈ (gateTick s.1.securityGate now s.2).1.persistFn,
      ∀ (w : SecurityWorld η) attempts remaining, (f w attempts remaining).2.2 = w.2 := by
    rw [(gateTick_fields s.1.securityGate now s.2).1]
    exact h.unseen.persist
  have hstep : serverStep s (.handle request response responseLen capacity mode now)
      = ((udsServerHandleAddressed ⟨s.1, response, responseLen, s.2⟩ request capacity mode
          now).2.server,
        (udsServerHandleAddressed ⟨s.1, response, responseLen, s.2⟩ request capacity mode
          now).2.world) := rfl
  have hrefused (answer : Refusal (udsServerHandleAddressed ⟨s.1, response, responseLen, s.2⟩
      request capacity mode now)) := givesNoSeed answer
  generalize hout : udsServerHandleAddressed ⟨s.1, response, responseLen, s.2⟩ request capacity mode
    now = out at heffect hstep hrefused
  cases heffect with
  | closed left answer =>
    rw [left] at hstep
    refine .unmoved ?_ ?_ (.inl ?_) (hrefused answer) <;> rw [hstep]
    · exact .refl _
    · rfl
    · rfl
  | ticked left answer =>
    rw [left] at hstep
    have hworld : (Uds.ticked (atHandler ⟨s.1, response, responseLen, s.2⟩ mode now) now).world.2
        = s.2.2 := hticked
    refine .unmoved ?_ ?_ (.inl ?_) (hrefused answer) <;> rw [hstep]
    · exact hlessened
    · exact congrArg Prod.fst hworld
    · exact congrArg Prod.snd hworld
  | seedRefused level admitted callback hcallback reply called refused left answer =>
    rw [left] at hstep
    obtain ⟨hlog, ⟨-, happ⟩ | ⟨hok, hkept⟩⟩ := h.seedReply hcallback called
    · refine .unmoved ?_ ?_ (.inr ⟨level, ?_⟩) (hrefused answer) <;> rw [hstep]
      · exact hlessened
      · exact happ
      · exact hlog
    · rcases refused with hfailed | hroom
      · exact absurd hok hfailed
      · exact absurd hroom hkept.room
  | seedZero level admitted callback hcallback reply called unlocked left answer zero =>
    rw [left] at hstep
    obtain ⟨hlog, hreply⟩ := h.seedReply hcallback called
    have happ : OnlyLevel level (securityApp s) reply.world.2.1 := by
      rcases hreply with ⟨-, hsame⟩ | ⟨-, hkept⟩
      · rw [hsame]
        exact ⟨fun _ _ => rfl, fun _ _ => rfl⟩
      · exact hkept.others
    -- the level is unlocked, so the seed that the gate waits for is of another one
    have hother : ∀ other, Awaited (gateTick s.1.securityGate now s.2).1 other →
        other ≠ level := by
      rintro other hawaited rfl
      obtain ⟨hdiffers, -⟩ := hapart.lessened hlessened hawaited.seedValid
      exact hdiffers (hawaited.seedLevel.trans unlocked.symm)
    refine .still ?_ ?_ (.inr ⟨level, ?_⟩) ?_
    · rw [hstep]
      exact hlessened
    · rw [hstep]
      intro other hawaited
      exact ⟨happ.seed other (hother other hawaited), happ.seedValid other (hother other hawaited)⟩
    · rw [hstep]
      exact hlog
    · -- the callback was asked for a level that is unlocked
      intro other seed hgives
      obtain ⟨hsame, hlocked⟩ := h.gives hgives
      rw [hstep] at hsame
      have hevent := List.append_cancel_left (hlog.symm.trans hsame)
      obtain rfl : level = other := by simpa using hevent
      exact hlocked now rfl unlocked
  | seedGranted level admitted callback hcallback length reply called result locked left answer
      bytes =>
    rw [left] at hstep
    obtain ⟨hlog, ⟨hfailed, -⟩ | ⟨-, hkept⟩⟩ := h.seedReply hcallback called
    · exact absurd result hfailed
    · have hresponse := hkept.seedResponse hsid admitted.level answer bytes
      refine .given level reply.data now ⟨request, response, responseLen, capacity, mode, now, rfl,
        hout ▸ hresponse⟩ rfl hkept.known ?_ ?_ ?_ ?_ ?_ ?_ (.inr ⟨level, ?_⟩) <;>
        rw [hstep]
      · exact hkept.seed
      · exact locked
      · exact hlessened.activeLevel
      · exact ⟨rfl, rfl⟩
      · rfl
      · rfl
      · exact hlog
  | keyWrong level admitted callback hcallback awaited w called left answer =>
    rw [left] at hstep
    obtain ⟨hlog, -, -⟩ := h.keyVerdict hcallback called
    refine .wrong level (awaited_before_tick awaited).1 ?_ ?_ ?_ <;> rw [hstep]
    · exact (congrArg Prod.snd (gateRecordFailure_unseen hpersist now w)).trans hlog
    · exact gateRecordFailure_seed _ now w
    · exact gateRecordFailure_cleared _ now w
  | keyRefused level admitted callback hcallback awaited result w called wrong right left answer =>
    rw [left] at hstep
    obtain ⟨hlog, hused, -⟩ := h.keyVerdict hcallback called
    refine .failed level result ?_ (awaited_before_tick awaited).1 ?_ ?_ wrong right
      (hrefused answer) <;> rw [hstep]
    · exact hlessened
    · exact hused
    · exact hlog
  | keyRight level admitted callback hcallback length awaited w called left =>
    rw [left] at hstep
    obtain ⟨hlog, -, hright⟩ := h.keyVerdict hcallback called
    obtain ⟨hvalid, hkey⟩ := hright rfl
    obtain ⟨hawaited, hinTime⟩ := awaited_before_tick awaited
    refine .right level hawaited ?_ ?_ ?_ hvalid ⟨request, response, responseLen, capacity, mode,
      now, rfl, hsid, admitted.level, hkey, hinTime⟩ <;> rw [hstep]
    · exact (congrArg Prod.snd (gateRecordSuccess_unseen hpersist level w)).trans hlog
    · rfl
    · rfl

theorem Asked.running {call : ServerCall (SecurityWorld η)} (h : Asked call) : call.Running := by
  cases call <;> trivial

theorem Wired.move (h : Wired trng c persistFn s) (hapart : SeedApart s.1.securityGate)
    {call : ServerCall (SecurityWorld η)} (hasked : Asked call) :
    AppMove s call (serverStep s call) := by
  cases serverStep_move h.unseen (Asked.running hasked) with
  | aside world lapse lessened =>
    have hlog : accessLog (serverStep s call) = accessLog s := congrArg Prod.snd world
    refine .unmoved lessened (congrArg Prod.fst world) (.inl hlog) fun level seed hgives => ?_
    exact log_ne_append ((h.gives hgives).1.symm.trans hlog)
  | access request response responseLen capacity mode now called sid effect =>
    subst called
    exact h.access hapart sid effect

/-! ## The outstanding seed -/

theorem SendsKey.inTime {call : ServerCall (SecurityWorld η)} {level : UInt8} {seed : List UInt8}
    (h : SendsKey s call level seed) :
    ∃ now, call.time = some now ∧ (s.1.securityGate.seedTimerActive = true →
      expired now s.1.securityGate.seedExpiryMs = false) := by
  obtain ⟨request, response, responseLen, capacity, mode, now, rfl, -, -, -, hinTime⟩ := h
  exact ⟨now, rfl, hinTime⟩

/-- A tick that finds the seed timer run out takes the seed. -/
theorem seedExpires_seed {call : ServerCall (SecurityWorld η)} (h : SeedExpires s call) :
    (serverStep s call).1.securityGate.seedValid = false := by
  obtain ⟨now, rfl, hactive, hup⟩ := h
  have hgone : (gateTick s.1.securityGate now s.2).1.seedValid = false := by
    by_contra hvalid
    have hahead := (gateTick_seed s.1.securityGate now s.2).2 (by simpa using hvalid) hactive
    exact Bool.noConfusion (hahead.symm.trans hup)
  unfold serverStep udsServerTick
  dsimp only
  split
  next => exact hgone
  next =>
    split
    next => rfl
    next => exact hgone

/-- A call after which the gate still waits, and which gave no seed, has left the seed alone. -/
theorem calm_of_held {call : ServerCall (SecurityWorld η)} (hready : s.1.resetReady = false)
    (hvalid : (serverStep s call).1.securityGate.seedValid = true)
    (hnoSeed : ∀ level seed, ¬GivesSeed s call level seed) :
    Calm (serverStep s call).1.securityGate.seedLevel s call := by
  refine ⟨⟨hvalid, rfl⟩, hnoSeed, fun hends => ?_, fun hexpires => ?_⟩
  · exact Bool.noConfusion ((endsSession_seed hready hends).symm.trans hvalid)
  · exact Bool.noConfusion ((seedExpires_seed hexpires).symm.trans hvalid)

/-! ## The keys that a seed is good for -/

/-- How many keys for the level may still be judged. -/
def waits (s : SecurityServer η) (level : UInt8) : Nat :=
  if s.1.securityGate.seedValid = true ∧ s.1.securityGate.seedLevel = level then 1 else 0

theorem waits_le (s : SecurityServer η) (level : UInt8) : waits s level ≤ 1 := by
  unfold waits
  split <;> decide

theorem waits_awaited {level : UInt8} (h : Awaited s.1.securityGate level) : waits s level = 1 :=
  if_pos ⟨h.seedValid, h.seedLevel⟩

theorem waits_cleared (level : UInt8) (h : s.1.securityGate.seedValid = false) :
    waits s level = 0 :=
  if_neg fun hwaits => Bool.noConfusion (h.symm.trans hwaits.1)

theorem waits_lessened {s s' : SecurityServer η}
    (h : Lessened s.1.securityGate s'.1.securityGate) (level : UInt8) :
    waits s' level ≤ waits s level := by
  by_cases hvalid : s'.1.securityGate.seedValid = true
  · unfold waits
    rw [hvalid, h.seedValid hvalid, h.seedLevel hvalid]
  · rw [waits_cleared level (by simpa using hvalid)]
    exact Nat.zero_le _

theorem NoKey.judgedKeys {log log' : List AccessEvent} (h : NoKey log log') (level : UInt8) :
    judgedKeys level log' = judgedKeys level log := by
  rcases h with rfl | ⟨asked, rfl⟩
  · rfl
  · exact List.countP_append

theorem judgedKeys_key (level : UInt8) (log : List AccessEvent) (asked : UInt8)
    (verdict : UdsCallbackResult) :
    judgedKeys level (log ++ [.key asked verdict]) = judgedKeys level log +
      if asked = level ∧ (verdict = .ok ∨ verdict = .invalidKey) then 1 else 0 := by
  unfold judgedKeys
  rw [List.countP_append, List.countP_singleton]
  simp only [decide_eq_true_eq]

/-- A key that is judged uses up the wait for it. -/
theorem judged_of_cleared {s s' : SecurityServer η} {asked : UInt8} {verdict : UdsCallbackResult}
    (hawaited : Awaited s.1.securityGate asked)
    (hjudged : accessLog s' = accessLog s ++ [.key asked verdict])
    (hcleared : s'.1.securityGate.seedValid = false) (level : UInt8) :
    judgedKeys level (accessLog s') + waits s' level
      ≤ judgedKeys level (accessLog s) + waits s level := by
  rw [hjudged, judgedKeys_key, waits_cleared level hcleared]
  by_cases hsame : asked = level
  · subst hsame
    rw [waits_awaited hawaited]
    split <;> omega
  · rw [if_neg fun h => hsame h.1]
    omega

/-- Only a seed response makes the gate wait for a key that has not been judged. -/
theorem AppMove.judged {call : ServerCall (SecurityWorld η)} {s' : SecurityServer η}
    (h : AppMove s call s') (level : UInt8) :
    judgedKeys level (accessLog s') + waits s' level
        ≤ judgedKeys level (accessLog s) + waits s level ∨
      (∃ seed, GivesSeed s call level seed) ∧
        judgedKeys level (accessLog s') = judgedKeys level (accessLog s) := by
  cases h with
  | still lessened kept noKey noSeed =>
    left
    rw [noKey.judgedKeys level]
    exact Nat.add_le_add_left (waits_lessened lessened level) _
  | given asked seed now gives called known kept locked noLevel awaited expiry timer noKey =>
    rw [noKey.judgedKeys level]
    by_cases hsame : asked = level
    · subst hsame
      exact .inr ⟨⟨seed, gives⟩, rfl⟩
    · -- the gate waits for a key of another level
      left
      have hnone : waits s' level = 0 :=
        if_neg fun hwaits => hsame (awaited.seedLevel.symm.trans hwaits.2)
      omega
  | failed asked verdict lessened awaited used judged wrong right noSeed =>
    left
    rw [judged, judgedKeys_key, if_neg fun hjudged => hjudged.2.elim right wrong]
    exact Nat.add_le_add_left (waits_lessened lessened level) _
  | wrong asked awaited judged cleared noLevel =>
    exact .inl (judged_of_cleared awaited judged cleared level)
  | right asked awaited judged cleared unlocked valid sends =>
    exact .inl (judged_of_cleared awaited judged cleared level)

end Move

/-- The calls begin with those up to the seed response for the level that is outstanding. Nothing
has happened to the seed since, and as long as the application has not used it up, it is the one
that is kept and no key has been judged by it. -/
structure Traced (start : SecurityServer η) (calls : List (ServerCall (SecurityWorld η)))
    (s : SecurityServer η) (level : UInt8) (earlier : List (ServerCall (SecurityWorld η)))
    (asked : ServerCall (SecurityWorld η)) (later : List (ServerCall (SecurityWorld η)))
    (seed : List UInt8) (given : UInt32) : Prop where
  split : calls = earlier ++ asked :: later
  gives : GivesSeed (run serverStep start earlier) asked level seed
  time : asked.time = some given
  expiry : s.1.securityGate.seedExpiryMs = given + s.1.securityGate.seedTimeoutMs
  timer : s.1.securityGate.seedTimerActive = decide (s.1.securityGate.seedTimeoutMs ≠ 0)
  calm : Along serverStep (Calm level) (run serverStep start (earlier ++ [asked])) later
  unused : (securityApp s).seedValid level = true →
    (securityApp s).seed level = seed ∧
      Along serverStep (fun s call => ¬JudgesKey s call level)
        (run serverStep start (earlier ++ [asked])) later

/-- A seed for the level was handed out on the way here, and still waits for its key. -/
def Outstanding (start : SecurityServer η) (calls : List (ServerCall (SecurityWorld η)))
    (s : SecurityServer η) (level : UInt8) : Prop :=
  ∃ earlier asked later seed given, Traced start calls s level earlier asked later seed given

/-- One call more that leaves the seed alone. -/
theorem Traced.extend {start : SecurityServer η} {calls : List (ServerCall (SecurityWorld η))}
    {level : UInt8} {earlier later : List (ServerCall (SecurityWorld η))}
    {asked : ServerCall (SecurityWorld η)} {seed : List UInt8} {given : UInt32}
    (h : Traced start calls (run serverStep start calls) level earlier asked later seed given)
    {call : ServerCall (SecurityWorld η)} (hcalm : Calm level (run serverStep start calls) call)
    (hlessened : Lessened (run serverStep start calls).1.securityGate
      (serverStep (run serverStep start calls) call).1.securityGate)
    (hunused : (securityApp (serverStep (run serverStep start calls) call)).seedValid level = true →
      (securityApp (run serverStep start calls)).seedValid level = true ∧
        (securityApp (serverStep (run serverStep start calls) call)).seed level
          = (securityApp (run serverStep start calls)).seed level ∧
        ¬JudgesKey (run serverStep start calls) call level) :
    Traced start (calls ++ [call]) (serverStep (run serverStep start calls) call) level earlier
      asked (later ++ [call]) seed given := by
  have hreached : run serverStep (run serverStep start (earlier ++ [asked])) later
      = run serverStep start calls := by
    rw [h.split, ← run_append, List.append_assoc]
    rfl
  have hheld := hcalm.held.seedValid
  refine ⟨?_, h.gives, h.time, ?_, ?_, ?_, fun hvalid => ?_⟩
  · rw [h.split, List.append_assoc]
    rfl
  · rw [hlessened.seedExpiryMs, hlessened.seedTimeoutMs]
    exact h.expiry
  · rw [hlessened.seedTimerActive hheld, hlessened.seedTimeoutMs]
    exact h.timer
  · refine along_concat.mpr ⟨h.calm, ?_⟩
    rw [hreached]
    exact hcalm
  · obtain ⟨hbefore, hsame, hnoKey⟩ := hunused hvalid
    obtain ⟨hkept, hnoKeys⟩ := h.unused hbefore
    refine ⟨hsame.trans hkept, along_concat.mpr ⟨hnoKeys, ?_⟩⟩
    rw [hreached]
    exact hnoKey

/-- What the gate and the application have to do with each other, after the calls. -/
structure Linked (trng : UdsEntropySource η) (c : UdsCallbacks η)
    (persistFn : Option (η → UInt8 → UInt32 → Bool × η)) (start : SecurityServer η)
    (calls : List (ServerCall (SecurityWorld η))) (s : SecurityServer η) : Prop where
  wired : Wired trng c persistFn s
  notReady : s.1.resetReady = false
  apart : SeedApart s.1.securityGate
  outstanding : s.1.securityGate.seedValid = true →
    Outstanding start calls s s.1.securityGate.seedLevel

section Runs

variable {trng : UdsEntropySource η} {c : UdsCallbacks η}
  {persistFn : Option (η → UInt8 → UInt32 → Bool × η)} {start : SecurityServer η}

theorem securityStart_started (app : UdsSecurityApp η) (now : UInt32) (w : η) :
    Started trng c persistFn (securityStart trng c persistFn app now w) :=
  ⟨rfl, rfl, rfl, rfl⟩

/-- So it is with other times, and with the attempts and the lockout of an earlier power cycle. -/
theorem Started.setTiming (h : Started trng c persistFn start)
    (s3TimeoutMs initialDelayMs lockoutMs seedTimeoutMs : UInt32) (maxAttempts : UInt8) :
    Started trng c persistFn (serverStep start
      (.setTiming s3TimeoutMs initialDelayMs lockoutMs seedTimeoutMs maxAttempts)) :=
  ⟨h.callbacks, h.persist, h.noSeed, h.notReady⟩

theorem Started.restored (h : Started trng c persistFn start) (failedAttempts : UInt8)
    (lockoutRemainingMs now : UInt32) :
    Started trng c persistFn
      (serverStep start (.restoreSecurityState failedAttempts lockoutRemainingMs now)) := by
  obtain ⟨hcallbacks, hpersist, hnoSeed, hnotReady⟩ := h
  refine ⟨hcallbacks, ?_, ?_, hnotReady⟩
  all_goals
    unfold serverStep udsServerRestoreSecurityState gateRestoreState
    dsimp only
    split_ifs <;> assumption

theorem Started.linked (h : Started trng c persistFn start) :
    Linked trng c persistFn start [] start := by
  have hnone {P : Prop} (hvalid : start.1.securityGate.seedValid = true) : P :=
    Bool.noConfusion (h.noSeed.symm.trans hvalid)
  exact ⟨⟨h.callbacks, h.persist⟩, h.notReady, hnone, hnone⟩

/-- A seed that a call leaves alone is outstanding after it. -/
theorem Linked.extended {calls : List (ServerCall (SecurityWorld η))}
    (h : Linked trng c persistFn start calls (run serverStep start calls))
    {call : ServerCall (SecurityWorld η)} {level : UInt8}
    (hlessened : Lessened (run serverStep start calls).1.securityGate
      (serverStep (run serverStep start calls) call).1.securityGate)
    (hcalm : Calm level (run serverStep start calls) call)
    (hunused : (securityApp (serverStep (run serverStep start calls) call)).seedValid level = true →
      (securityApp (run serverStep start calls)).seedValid level = true ∧
        (securityApp (serverStep (run serverStep start calls) call)).seed level
          = (securityApp (run serverStep start calls)).seed level ∧
        ¬JudgesKey (run serverStep start calls) call level) :
    Outstanding start (calls ++ [call]) (serverStep (run serverStep start calls) call) level := by
  have hheld := hcalm.held
  have hbefore := awaited_of_lessened hlessened hheld
  obtain ⟨earlier, asked, later, seed, given, htraced⟩ := h.outstanding hbefore.seedValid
  rw [hbefore.seedLevel] at htraced
  exact ⟨earlier, asked, later ++ [call], seed, given, htraced.extend hcalm hlessened hunused⟩

theorem Linked.step {calls : List (ServerCall (SecurityWorld η))}
    (h : Linked trng c persistFn start calls (run serverStep start calls))
    {call : ServerCall (SecurityWorld η)} (hasked : Asked call) :
    Linked trng c persistFn start (calls ++ [call])
      (serverStep (run serverStep start calls) call) := by
  have hmove := h.wired.move h.apart hasked
  have hwired := h.wired.step hasked
  have hready := serverStep_resetReady hasked h.notReady
  have hcleared {P : Prop}
      (hgone : (serverStep (run serverStep start calls) call).1.securityGate.seedValid = false)
      (hvalid : (serverStep (run serverStep start calls) call).1.securityGate.seedValid = true) :
      P := Bool.noConfusion (hgone.symm.trans hvalid)
  cases hmove with
  | still lessened kept noKey noSeed =>
    refine ⟨hwired, hready, h.apart.lessened lessened, fun hvalid => ?_⟩
    have hcalm := calm_of_held h.notReady hvalid noSeed
    obtain ⟨hseed, hseedValid⟩ := kept _ hcalm.held
    exact h.extended lessened hcalm fun hunused =>
      ⟨hseedValid.symm.trans hunused, hseed, noKey.not_judges _⟩
  | given level seed now gives called known kept locked noLevel awaited expiry timer noKey =>
    refine ⟨hwired, hready, fun _ => ?_, fun _ => ?_⟩
    · rw [awaited.seedLevel]
      refine ⟨locked.symm, ?_⟩
      rcases known with rfl | rfl <;> decide
    · rw [awaited.seedLevel]
      exact ⟨calls, call, [], seed, now, rfl, gives, called, expiry, timer, trivial,
        fun _ => ⟨kept, trivial⟩⟩
  | failed level verdict lessened awaited used judged wrong right noSeed =>
    refine ⟨hwired, hready, h.apart.lessened lessened, fun hvalid => ?_⟩
    have hcalm := calm_of_held h.notReady hvalid noSeed
    refine h.extended lessened hcalm fun hunused => ?_
    rw [lessened.seedLevel hvalid, awaited.seedLevel] at hunused
    exact Bool.noConfusion (used.symm.trans hunused)
  | wrong level awaited judged cleared noLevel =>
    exact ⟨hwired, hready, hcleared cleared, hcleared cleared⟩
  | right level awaited judged cleared unlocked valid sent =>
    exact ⟨hwired, hready, hcleared cleared, hcleared cleared⟩

theorem Started.run_linked (h : Started trng c persistFn start)
    {calls : List (ServerCall (SecurityWorld η))} (hasked : ∀ call ∈ calls, Asked call) :
    Linked trng c persistFn start calls (run serverStep start calls) :=
  Along.history (I := Linked trng c persistFn start) h.linked
    (fun _ _ hlinked hcall => hlinked.step hcall) (along_of_forall hasked start)

/-- Only a right key unlocks, and the seed that it answers is the outstanding one. -/
theorem Started.unlocked_by (h : Started trng c persistFn start)
    {before : List (ServerCall (SecurityWorld η))} (hbefore : ∀ call ∈ before, Asked call)
    {call : ServerCall (SecurityWorld η)} (hasked : Asked call) {level : UInt8}
    (hunlocks : Unlocks (run serverStep start before) call level) :
    ∃ earlier asked later seed given now,
      UnlockedBy start before call level earlier asked later seed given now := by
  have hlinked := h.run_linked hbefore
  -- a call that at most ends the unlocked level does not unlock one
  have hno (hend : (serverStep (run serverStep start before) call).1.securityGate.activeLevel
        = (run serverStep start before).1.securityGate.activeLevel ∨
      (serverStep (run serverStep start before) call).1.securityGate.activeLevel = 0) :
      False := by
    rcases hend with hsame | hnone
    · exact hunlocks.locked (hsame.symm.trans hunlocks.unlocked)
    · exact hunlocks.someLevel (hunlocks.unlocked.symm.trans hnone)
  cases hlinked.wired.move hlinked.apart hasked with
  | still lessened => exact (hno lessened.activeLevel).elim
  | given level seed now gives called known kept locked noLevel => exact (hno noLevel).elim
  | failed level verdict lessened => exact (hno lessened.activeLevel).elim
  | wrong level awaited judged cleared noLevel => exact (hno (.inr noLevel)).elim
  | right level' awaited judged cleared unlocked valid sends =>
    obtain rfl : level' = level := unlocked.symm.trans hunlocks.unlocked
    obtain ⟨earlier, asked, later, seed, given, htraced⟩ := hlinked.outstanding awaited.seedValid
    rw [awaited.seedLevel] at htraced
    obtain ⟨rfl, hunjudged⟩ := htraced.unused valid
    obtain ⟨now, hnow, hinTime⟩ := sends.inTime
    refine ⟨earlier, asked, later, _, given, now, htraced.split, htraced.gives, sends,
      htraced.calm, hunjudged, htraced.time, hnow, fun htimeout => ?_⟩
    rw [← htraced.expiry]
    refine hinTime ?_
    rw [htraced.timer]
    exact decide_eq_true htimeout

/-- While no seed is given for the level, its judged keys are paid for by the wait at the
beginning. -/
theorem Linked.judgedKeys_le {calls later : List (ServerCall (SecurityWorld η))}
    (h : Linked trng c persistFn start calls (run serverStep start calls)) {level : UInt8}
    (hasked : ∀ call ∈ later, Asked call)
    (hnoSeed : Along serverStep (fun s call => ∀ seed, ¬GivesSeed s call level seed)
      (run serverStep start calls) later) :
    judgedKeys level (accessLog (run serverStep start (calls ++ later)))
        + waits (run serverStep start (calls ++ later)) level
      ≤ judgedKeys level (accessLog (run serverStep start calls))
        + waits (run serverStep start calls) level := by
  induction later generalizing calls with
  | nil => rw [List.append_nil]
  | cons call later ih =>
    obtain ⟨hcall, hlater⟩ := List.forall_mem_cons.mp hasked
    obtain ⟨hnone, hrest⟩ := hnoSeed
    have hreached : run serverStep start (calls ++ [call])
        = serverStep (run serverStep start calls) call := run_concat start calls call
    have hnext := h.step hcall
    rw [← hreached] at hnext hrest
    have hrun := ih hnext hlater hrest
    rw [List.append_assoc, List.singleton_append] at hrun
    refine hrun.trans ?_
    rw [hreached]
    rcases (h.wired.move h.apart hcall).judged level with hle | ⟨⟨seed, hgives⟩, -⟩
    · exact hle
    · exact absurd hgives (hnone seed)

/-- A seed response lets at most one key be judged until there is another one for its level. -/
theorem Started.judged_once (h : Started trng c persistFn start)
    {earlier later : List (ServerCall (SecurityWorld η))} {asked : ServerCall (SecurityWorld η)}
    (hasked : ∀ call ∈ earlier ++ asked :: later, Asked call) {level : UInt8}
    (hnoSeed : Along serverStep (fun s call => ∀ seed, ¬GivesSeed s call level seed)
      (run serverStep start (earlier ++ [asked])) later) :
    judgedKeys level (accessLog (run serverStep start (earlier ++ asked :: later)))
      ≤ judgedKeys level (accessLog (run serverStep start earlier)) + 1 := by
  obtain ⟨hearlier, hrest⟩ := List.forall_mem_append.mp hasked
  obtain ⟨hcall, hlater⟩ := List.forall_mem_cons.mp hrest
  have hlinked := h.run_linked hearlier
  have hreached : run serverStep start (earlier ++ [asked])
      = serverStep (run serverStep start earlier) asked := run_concat start earlier asked
  have hnext := hlinked.step hcall
  rw [← hreached] at hnext
  have hrun := hnext.judgedKeys_le hlater hnoSeed
  rw [List.append_assoc, List.singleton_append, hreached] at hrun
  have hbefore := waits_le (run serverStep start earlier) level
  have hafter := waits_le (serverStep (run serverStep start earlier) asked) level
  rcases (hlinked.wired.move hlinked.apart hcall).judged level with hle | ⟨-, hsame⟩ <;> omega

/-- A level is only unlocked by the key that it derives from the seed of the last seed response for
it, with nothing in between that would have ended the wait for that key, and a seed response is
good for one key. -/
theorem unlock_sound (h : Started trng c persistFn start)
    {calls : List (ServerCall (SecurityWorld η))} (hasked : ∀ call ∈ calls, Asked call) :
    (∀ before call after level, calls = before ++ call :: after →
      Unlocks (run serverStep start before) call level →
        ∃ earlier asked later seed given now,
          UnlockedBy start before call level earlier asked later seed given now) ∧
    (∀ earlier asked later level seed, calls = earlier ++ asked :: later →
      GivesSeed (run serverStep start earlier) asked level seed →
      Along serverStep (fun s call => ∀ seed', ¬GivesSeed s call level seed')
          (run serverStep start (earlier ++ [asked])) later →
        judgedKeys level (accessLog (run serverStep start calls))
          ≤ judgedKeys level (accessLog (run serverStep start earlier)) + 1) := by
  constructor
  · rintro before call after level rfl hunlocks
    obtain ⟨hbefore, hrest⟩ := List.forall_mem_append.mp hasked
    exact h.unlocked_by hbefore (List.forall_mem_cons.mp hrest).1 hunlocks
  · rintro earlier asked later level seed rfl - hnoSeed
    exact h.judged_once hasked hnoSeed

end Runs

/-- Entropy that is always the same. -/
def constantEntropy : UdsEntropySource Unit := fun w n => (some (.replicate n 1), w)

/-- An application without a key for level 2. -/
def unprovisioned : UdsSecurityApp Unit where
  provisionedMasterKey := zeroBlock
  hasProvisionedKey := false
  customKeyProvider := none
  customEntropySource := none
  level1ActiveSeed := .replicate 4 0
  level1SeedValid := false
  level2ActiveSeed := zeroBlock
  level2SeedValid := false

/-- A request at some time. -/
def askAt (request : List UInt8) (now : UInt32) : ServerCall (SecurityWorld Unit) :=
  .handle request (fun _ => 0) 0 64 .physical now

/-- The extended session, and a seed of level 1. -/
def seedAsked : List (ServerCall (SecurityWorld Unit)) :=
  [askAt [0x10, 0x03] 1, askAt [0x27, 0x01] 2]

/-- The request that carries the key. -/
def keySent : ServerCall (SecurityWorld Unit) := askAt [0x27, 0x02, 0xA4, 0x5B, 0xC2, 0x3D] 3

theorem unlock_sound_level1 :
    ∃ earlier asked later seed given now,
      UnlockedBy (securityStart constantEntropy {} none unprovisioned 0 ()) seedAsked keySent
        securityLevel1 earlier asked later seed given now :=
  have hasked : ∀ call ∈ seedAsked ++ [keySent], Asked call := by
    simp [seedAsked, keySent, askAt, Asked]
  (unlock_sound (securityStart_started unprovisioned 0 ()) hasked).1 seedAsked keySent []
    securityLevel1 rfl ⟨by decide +kernel, by decide +kernel, by decide⟩

end UdsIsoTp.App
