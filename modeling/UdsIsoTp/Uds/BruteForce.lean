import UdsIsoTp.Uds.Beside
import UdsIsoTp.Uds.GateCalls

/-!
# Guessing keys

A server from its init on, with any callbacks and any storage for the gate, and a log of every
call of `security_seed` and `security_key` with the verdict. The gate counts what the log says
(`Counting`): the wrong keys since the last right one or the last lockout that ended, never more
than the maximum, and none while it is locked out.

A change of session begins with the gate's tick, and so it may be the call that finds a lockout
over (`session_ends_lockout`).
-/

namespace UdsIsoTp.Uds

variable {ω : Type}

/-! ## The log -/

/-- The callbacks that a server under attack makes. -/
inductive AccessEvent where
  /-- `security_seed` was called. -/
  | seed (level : UInt8)
  /-- `security_key` was called, and what it said. -/
  | key (level : UInt8) (verdict : UdsCallbackResult)
  deriving DecidableEq

/-- A world with a record of these callbacks. -/
abbrev Watched (ω : Type) := ω × List AccessEvent

/-- The callbacks, with the calls of the two that judge access recorded. -/
def watchCallbacks (c : UdsCallbacks ω) : UdsCallbacks (Watched ω) :=
  { besideCallbacks c with
    securitySeed := c.securitySeed.map fun f w level n =>
      besideReply (f w.1 level n) (w.2 ++ [.seed level])
    securityKey := c.securityKey.map fun f w level data =>
      besideVerdict (f w.1 level data) (w.2 ++ [.key level (f w.1 level data).1]) }

/-- The storage of the gate, beside the record. -/
def watchPersist (f : ω → UInt8 → UInt32 → Bool × ω) :
    Watched ω → UInt8 → UInt32 → Bool × Watched ω :=
  fun w attempts remaining => besideVerdict (f w.1 attempts remaining) w.2

/-- Whatever the two callbacks of SecurityAccess do, the others do not touch what stands beside
their world. -/
theorem beside_calls {τ : Type} (c : UdsCallbacks ω)
    (seed : Option (ω × τ → UInt8 → UInt16 → Reply (ω × τ)))
    (key : Option (ω × τ → UInt8 → List UInt8 → UdsCallbackResult × ω × τ))
    (persistFn : Option (ω → UInt8 → UInt32 → Bool × ω)) :
    UnseenCalls (Prod.snd : ω × τ → τ)
      { besideCallbacks c with securitySeed := seed, securityKey := key }
      (persistFn.map fun f w attempts remaining =>
        besideVerdict (f w.1 attempts remaining) w.2) := by
  refine { beside_services c ?_ with accepted := ?_, executed := ?_ }
  all_goals
    intro f hf
    obtain ⟨f', rfl⟩ := exists_of_mem_map hf
    intros
    rfl

/-- No other callback writes the log. -/
theorem watch_unseen (c : UdsCallbacks ω) (persistFn : Option (ω → UInt8 → UInt32 → Bool × ω)) :
    UnseenCalls (Prod.snd : Watched ω → List AccessEvent) (watchCallbacks c)
      (persistFn.map watchPersist) :=
  beside_calls c _ _ persistFn

/-- A server from its init on. -/
def watchedStart (c : UdsCallbacks ω) (persistFn : Option (ω → UInt8 → UInt32 → Bool × ω))
    (start : UInt32) (w : ω) : UdsServer (Watched ω) × Watched ω :=
  (udsServerSetSecurityPersistence (udsServerInit (watchCallbacks c) start)
    (persistFn.map watchPersist), w, [])

/-- The keys that were judged wrong. -/
def wrongKeys (log : List AccessEvent) : Nat :=
  log.countP fun event => match event with
    | .key _ .invalidKey => true
    | _ => false

/-- The call has a key judged right. -/
def TakesKey (s : UdsServer (Watched ω) × Watched ω) (call : ServerCall (Watched ω)) : Prop :=
  ∃ level, (serverStep s call).2.2 = s.2.2 ++ [.key level .ok]

/-- The call finds the lockout over. -/
def EndsLockout (s : UdsServer (Watched ω) × Watched ω) (call : ServerCall (Watched ω)) : Prop :=
  s.1.securityGate.lockoutActive = true ∧
    (serverStep s call).1.securityGate.lockoutActive = false

/-! ## The invariant -/

/-- What a run keeps: the callbacks watched, and the record in step with the gate. -/
structure Counting (c : UdsCallbacks ω) (persistFn : Option (ω → UInt8 → UInt32 → Bool × ω))
    (s : UdsServer (Watched ω) × Watched ω) : Prop where
  callbacks : s.1.callbacks = watchCallbacks c
  persist : s.1.securityGate.persistFn = persistFn.map watchPersist
  maxAttempts : s.1.securityGate.maxAttempts = 3
  lockoutMs : s.1.securityGate.lockoutMs = 10000
  attempts : s.1.securityGate.failedAttempts ≤ 3
  unlocked : s.1.securityGate.lockoutActive = false → s.1.securityGate.failedAttempts < 3
  locked : s.1.securityGate.lockoutActive = true → s.1.securityGate.seedValid = false

/-- What a call does to the attempts and to the log. -/
inductive AccessMove (call : ServerCall (Watched ω)) (s s' : UdsServer (Watched ω) × Watched ω) :
    Prop
  | none (log : s'.2.2 = s.2.2)
      (lapse : Lapse call.time (gateLock s.1.securityGate) (gateLock s'.1.securityGate))
      (seed : s'.1.securityGate.seedValid = true → s.1.securityGate.seedValid = true)
  | seed (level : UInt8) (log : s'.2.2 = s.2.2 ++ [.seed level])
      (lapse : Lapse call.time (gateLock s.1.securityGate) (gateLock s'.1.securityGate))
      (unlocked : s'.1.securityGate.lockoutActive = false)
  /-- A wrong key is the last one before a lockout if it is one too many. -/
  | wrong (level : UInt8) (log : s'.2.2 = s.2.2 ++ [.key level .invalidKey])
      (unlocked : s.1.securityGate.lockoutActive = false)
      (lock : ∃ active until_, gateLock s'.1.securityGate =
        { gateLock s.1.securityGate with
          failedAttempts := s.1.securityGate.failedAttempts + 1
          lockoutActive := active
          lockoutUntilMs := until_ } ∧
        (active = false → ¬s.1.securityGate.maxAttempts ≤ s.1.securityGate.failedAttempts + 1))
      (seed : s'.1.securityGate.seedValid = false)
  | refused (level : UInt8) (verdict : UdsCallbackResult)
      (log : s'.2.2 = s.2.2 ++ [.key level verdict]) (notWrong : verdict ≠ .invalidKey)
      (unlocked : s.1.securityGate.lockoutActive = false)
      (lock : gateLock s'.1.securityGate = gateLock s.1.securityGate)
  | right (level : UInt8) (log : s'.2.2 = s.2.2 ++ [.key level .ok])
      (unlocked : s.1.securityGate.lockoutActive = false)
      (lock : gateLock s'.1.securityGate =
        { gateLock s.1.securityGate with failedAttempts := 0 })

theorem watched_seed {c : UdsCallbacks ω} {seed : Watched ω → UInt8 → UInt16 → Reply (Watched ω)}
    (h : (watchCallbacks c).securitySeed = some seed) (w : Watched ω) (level : UInt8)
    (n : UInt16) : (seed w level n).world.2 = w.2 ++ [.seed level] := by
  obtain ⟨f, -, rfl⟩ := Option.map_eq_some_iff.mp h
  rfl

theorem watched_key {c : UdsCallbacks ω}
    {key : Watched ω → UInt8 → List UInt8 → UdsCallbackResult × Watched ω}
    (h : (watchCallbacks c).securityKey = some key) {w w' : Watched ω} {level : UInt8}
    {data : List UInt8} {verdict : UdsCallbackResult} (hcalled : key w level data = (verdict, w')) :
    w'.2 = w.2 ++ [.key level verdict] := by
  obtain ⟨f, -, rfl⟩ := Option.map_eq_some_iff.mp h
  cases hcalled
  rfl

/-- A wrong key counts, and is one too many unless it leaves the gate open. -/
theorem gateRecordFailure_counted (gate : UdsSecurityGate ω) (now : UInt32) (w : ω)
    (hinactive : gate.lockoutActive = false) (hpos : gate.lockoutMs ≠ 0) :
    ∃ active until_, gateLock (gateRecordFailure gate now w).1 =
      { gateLock gate with
        failedAttempts := gate.failedAttempts + 1
        lockoutActive := active
        lockoutUntilMs := until_ } ∧
      (active = false → ¬gate.maxAttempts ≤ gate.failedAttempts + 1) := by
  rw [(gateRecordFailure_lock gate now w hinactive hpos).2]
  generalize (if gate.maxAttempts ≤ gate.failedAttempts + 1 then storedLockout now gate.lockoutMs
    else 0) = remaining
  split
  next => exact ⟨true, _, rfl, nofun⟩
  next hfew => exact ⟨gate.lockoutActive, gate.lockoutUntilMs, rfl, fun _ hmany => hfew (.inl hmany)⟩

theorem gateRecordFailure_seed (gate : UdsSecurityGate ω) (now : UInt32) (w : ω) :
    (gateRecordFailure gate now w).1.seedValid = false := by
  unfold gateRecordFailure
  dsimp only
  split_ifs <;> rfl

section Move

variable {c : UdsCallbacks ω} {persistFn : Option (ω → UInt8 → UInt32 → Bool × ω)}
  {s : UdsServer (Watched ω) × Watched ω}

theorem Counting.unseen (h : Counting c persistFn s) :
    UnseenCalls (Prod.snd : Watched ω → List AccessEvent) s.1.callbacks
      s.1.securityGate.persistFn := by
  rw [h.callbacks, h.persist]
  exact watch_unseen c persistFn

/-- A seed that outlives the tick means that there was no lockout, and that the tick leaves the
count. -/
theorem Counting.seeded (h : Counting c persistFn s) (now : UInt32) (w : Watched ω)
    (hvalid : (gateTick s.1.securityGate now w).1.seedValid = true) :
    s.1.securityGate.lockoutActive = false ∧
      gateLock (gateTick s.1.securityGate now w).1 = gateLock s.1.securityGate := by
  have hbefore := (gateTick_seed s.1.securityGate now w).1.seedValid hvalid
  have hunlocked : s.1.securityGate.lockoutActive = false := by
    by_contra hactive
    have hnone := h.locked (by simpa using hactive)
    exact absurd (hnone.symm.trans hbefore) (by decide)
  have hnot : ¬(gateLock s.1.securityGate).lockoutActive = true := by
    show ¬s.1.securityGate.lockoutActive = true
    simp [hunlocked]
  refine ⟨hunlocked, ?_⟩
  cases gateTick_lapse s.1.securityGate now w with
  | none same => exact same
  | ended now called active => exact absurd active hnot
  | renewed now called active => exact absurd active hnot

theorem Counting.access (h : Counting c persistFn s) {request : List UInt8} {response : Buf}
    {responseLen capacity : UInt16} {mode : UdsAddressMode} {now : UInt32} {out : Served (Watched ω)}
    (heffect : AccessEffect (atHandler ⟨s.1, response, responseLen, s.2⟩ mode now) request capacity
      now out) :
    AccessMove (.handle request response responseLen capacity mode now) s
      (out.2.server, out.2.world) := by
  have hpersist : ∀ f ∈ s.1.securityGate.persistFn, ∀ (w : Watched ω) attempts remaining,
      (f w attempts remaining).2.2 = w.2 := h.unseen.persist
  have hlog : (gateTick s.1.securityGate now s.2).2.2 = s.2.2 := gateTick_unseen hpersist now s.2
  have hlapse := gateTick_lapse s.1.securityGate now s.2
  have hseed := (gateTick_seed s.1.securityGate now s.2).1.seedValid
  have hunlocked := gateTick_unlocked s.1.securityGate now s.2 (by simp [h.lockoutMs])
    (by simp [h.lockoutMs])
  have hseeded := h.seeded now s.2
  -- the tick leaves the function alone that the failures are stored with
  have hpersist' : ∀ f ∈ (gateTick s.1.securityGate now s.2).1.persistFn,
      ∀ (w : Watched ω) attempts remaining, (f w attempts remaining).2.2 = w.2 := by
    rw [(gateTick_fields s.1.securityGate now s.2).1]
    exact hpersist
  have hseedLog {level : UInt8} {seed : Watched ω → UInt8 → UInt16 → Reply (Watched ω)}
      {reply : Reply (Watched ω)} (callback : s.1.callbacks.securitySeed = some seed)
      (called : seedReply seed (atHandler ⟨s.1, response, responseLen, s.2⟩ mode now) capacity now
        level = reply) : reply.world.2 = s.2.2 ++ [.seed level] := by
    rw [h.callbacks] at callback
    rw [← called, ← hlog]
    exact watched_seed callback ..
  have hkeyLog {level : UInt8} {verdict : UdsCallbackResult} {w : Watched ω}
      {key : Watched ω → UInt8 → List UInt8 → UdsCallbackResult × Watched ω}
      (callback : s.1.callbacks.securityKey = some key)
      (called : keyVerdict key (atHandler ⟨s.1, response, responseLen, s.2⟩ mode now) request now
        level = (verdict, w)) : w.2 = s.2.2 ++ [.key level verdict] := by
    rw [h.callbacks] at callback
    rw [← hlog]
    exact watched_key callback called
  cases heffect with
  | closed left =>
    rw [left]
    exact .none rfl (.none rfl) id
  | ticked left =>
    rw [left]
    exact .none hlog hlapse hseed
  | seedRefused level admitted seed callback reply called refused left =>
    rw [left]
    exact .seed level (hseedLog callback called) hlapse (hunlocked admitted.ready)
  | seedZero level admitted seed callback reply called unlocked left =>
    rw [left]
    exact .seed level (hseedLog callback called) hlapse (hunlocked admitted.ready)
  | seedGranted level admitted seed callback length reply called result locked left =>
    rw [left]
    exact .seed level (hseedLog callback called) hlapse (hunlocked admitted.ready)
  | keyWrong level admitted key callback awaited w called left =>
    -- a seed is held, so the tick has found no lockout to end
    obtain ⟨hopen, hlock⟩ := hseeded awaited.seedValid
    rw [left]
    refine .wrong level ?_ hopen ?_ ?_
    · exact (gateRecordFailure_unseen hpersist' now w).trans (hkeyLog callback called)
    · have hgate : (gateTick s.1.securityGate now s.2).1.failedAttempts
          = s.1.securityGate.failedAttempts := congrArg GateLock.failedAttempts hlock
      have hmax : (gateTick s.1.securityGate now s.2).1.maxAttempts
          = s.1.securityGate.maxAttempts := congrArg GateLock.maxAttempts hlock
      have hcounted := gateRecordFailure_counted (gateTick s.1.securityGate now s.2).1 now w
        ((congrArg GateLock.lockoutActive hlock).trans hopen)
        (by rw [show (gateTick s.1.securityGate now s.2).1.lockoutMs = s.1.securityGate.lockoutMs
          from congrArg GateLock.lockoutMs hlock, h.lockoutMs]; decide)
      rw [hlock, hgate, hmax] at hcounted
      exact hcounted
    · exact gateRecordFailure_seed _ now w
  | keyRefused level admitted key callback awaited result w called wrong right left =>
    obtain ⟨hopen, hlock⟩ := hseeded awaited.seedValid
    rw [left]
    exact .refused level result (hkeyLog callback called) wrong hopen hlock
  | keyRight level admitted key callback length awaited w called left =>
    obtain ⟨hopen, hlock⟩ := hseeded awaited.seedValid
    rw [left]
    refine .right level ?_ hopen ?_
    · exact (gateRecordSuccess_unseen hpersist' level w).trans (hkeyLog callback called)
    · show gateLock (gateRecordSuccess (gateTick s.1.securityGate now s.2).1 level w).1 = _
      rw [(gateRecordSuccess_lock _ w level).2, hlock]

/-- No lapse begins a lockout. -/
theorem Lapse.active {time : Option UInt32} {lock lock' : GateLock ω} (h : Lapse time lock lock')
    (hactive : lock'.lockoutActive = true) : lock.lockoutActive = true := by
  cases h with
  | none same => exact same ▸ hactive
  | ended now called active up left => exact active
  | renewed now called active up left => exact active

theorem Counting.move (h : Counting c persistFn s) {call : ServerCall (Watched ω)}
    (hrunning : call.Running) : AccessMove call s (serverStep s call) := by
  cases serverStep_move h.unseen hrunning with
  | aside world lapse lessened => exact .none world lapse lessened.seedValid
  | access request response responseLen capacity mode now called sid effect =>
    rw [called]
    exact h.access effect

/-- The call is wired as before, and what the gate goes by is the same. -/
theorem Counting.of_lock (h : Counting c persistFn s) {s' : UdsServer (Watched ω) × Watched ω}
    (hcallbacks : s'.1.callbacks = s.1.callbacks) {failed : UInt8} {active : Bool} {until_ : UInt32}
    (hlock : gateLock s'.1.securityGate =
      { gateLock s.1.securityGate with
        failedAttempts := failed
        lockoutActive := active
        lockoutUntilMs := until_ })
    (hattempts : failed ≤ 3) (hunlocked : active = false → failed < 3)
    (hlocked : active = true → s'.1.securityGate.seedValid = false) : Counting c persistFn s' := by
  have hfailed : s'.1.securityGate.failedAttempts = failed := congrArg GateLock.failedAttempts hlock
  have hactive : s'.1.securityGate.lockoutActive = active := congrArg GateLock.lockoutActive hlock
  refine ⟨hcallbacks.trans h.callbacks, ?_, ?_, ?_, ?_, ?_, ?_⟩
  · exact (congrArg GateLock.persistFn hlock).trans h.persist
  · exact (congrArg GateLock.maxAttempts hlock).trans h.maxAttempts
  · exact (congrArg GateLock.lockoutMs hlock).trans h.lockoutMs
  · rw [hfailed]
    exact hattempts
  · rw [hfailed, hactive]
    exact hunlocked
  · rw [hactive]
    exact hlocked

theorem Counting.step (h : Counting c persistFn s) {call : ServerCall (Watched ω)}
    (hrunning : call.Running) : Counting c persistFn (serverStep s call) := by
  have hcallbacks := serverStep_callbacks s call
  have hmove := h.move hrunning
  generalize serverStep s call = s' at hcallbacks hmove ⊢
  -- time alone, with or without a seed asked for, keeps the count
  have hlapsed : Lapse call.time (gateLock s.1.securityGate) (gateLock s'.1.securityGate) →
      (s'.1.securityGate.lockoutActive = true → s'.1.securityGate.seedValid = false) →
      Counting c persistFn s' := by
    intro hlapse hlocked
    cases hlapse with
    | none same =>
      have hactive : s'.1.securityGate.lockoutActive = s.1.securityGate.lockoutActive :=
        congrArg GateLock.lockoutActive same
      refine h.of_lock hcallbacks same h.attempts h.unlocked fun hlock => hlocked ?_
      exact hactive.trans hlock
    | ended now called active up left =>
      exact h.of_lock hcallbacks left (by decide) (fun _ => by decide) nofun
    | renewed now called active up left =>
      have hactive : s'.1.securityGate.lockoutActive = s.1.securityGate.lockoutActive :=
        congrArg GateLock.lockoutActive left
      refine h.of_lock hcallbacks left h.attempts h.unlocked fun hlock => hlocked ?_
      exact hactive.trans hlock
  cases hmove with
  | none log lapse seed =>
    refine hlapsed lapse fun hlock => ?_
    by_contra hvalid
    have hnone := h.locked (lapse.active hlock)
    exact absurd (hnone.symm.trans (seed (by simpa using hvalid))) (by decide)
  | seed level log lapse unlocked =>
    exact hlapsed lapse fun hlock => absurd (unlocked.symm.trans hlock) (by decide)
  -- the count goes up, and at its bound the gate locks
  | wrong level log unlocked lock seed =>
    obtain ⟨active, until_, hlock, hlast⟩ := lock
    have hfew := h.unlocked unlocked
    refine h.of_lock hcallbacks hlock ?_ ?_ fun _ => seed
    · rw [UInt8.le_iff_toNat_le, UInt8.toNat_add]
      rw [UInt8.lt_iff_toNat_lt] at hfew
      simp at hfew ⊢
      omega
    · intro hopen
      have hlast := hlast hopen
      rw [h.maxAttempts] at hlast
      exact UInt8.not_le.mp hlast
  | refused level verdict log notWrong unlocked lock =>
    refine hlapsed (.none lock) fun hlock => ?_
    have hactive : s'.1.securityGate.lockoutActive = s.1.securityGate.lockoutActive :=
      congrArg GateLock.lockoutActive lock
    exact absurd ((hactive.trans unlocked).symm.trans hlock) (by decide)
  | right level log unlocked lock =>
    refine h.of_lock hcallbacks lock (by decide) (fun _ => by decide) fun hlock => ?_
    exact absurd (unlocked.symm.trans hlock) (by decide)

/-! ## What a call does to the count -/

theorem wrongKeys_seed (log : List AccessEvent) (level : UInt8) :
    wrongKeys (log ++ [.seed level]) = wrongKeys log := by
  unfold wrongKeys
  rw [List.countP_append]
  rfl

theorem wrongKeys_wrong (log : List AccessEvent) (level : UInt8) :
    wrongKeys (log ++ [.key level .invalidKey]) = wrongKeys log + 1 := by
  unfold wrongKeys
  rw [List.countP_append]
  rfl

theorem wrongKeys_other (log : List AccessEvent) (level : UInt8) {verdict : UdsCallbackResult}
    (h : verdict ≠ .invalidKey) : wrongKeys (log ++ [.key level verdict]) = wrongKeys log := by
  unfold wrongKeys
  rw [List.countP_append]
  cases verdict <;> first | rfl | exact absurd rfl h

/-- Between the events the attempts go up with the wrong keys. -/
theorem Counting.counted (h : Counting c persistFn s) {call : ServerCall (Watched ω)}
    (hrunning : call.Running) (hkey : ¬TakesKey s call) (hlockout : ¬EndsLockout s call) :
    wrongKeys (serverStep s call).2.2 + s.1.securityGate.failedAttempts.toNat =
      wrongKeys s.2.2 + (serverStep s call).1.securityGate.failedAttempts.toNat := by
  have hmove := h.move hrunning
  unfold TakesKey at hkey
  unfold EndsLockout at hlockout
  generalize serverStep s call = s' at hmove hkey hlockout ⊢
  have hlapsed (hlapse : Lapse call.time (gateLock s.1.securityGate) (gateLock s'.1.securityGate)) :
      s'.1.securityGate.failedAttempts = s.1.securityGate.failedAttempts := by
    cases hlapse with
    | none same => exact congrArg GateLock.failedAttempts same
    | ended now called active up left =>
      exact absurd ⟨active, congrArg GateLock.lockoutActive left⟩ hlockout
    | renewed now called active up left => exact congrArg GateLock.failedAttempts left
  cases hmove with
  | none log lapse seed => rw [log, hlapsed lapse]
  | seed level log lapse unlocked => rw [log, hlapsed lapse, wrongKeys_seed]
  | wrong level log unlocked lock seed =>
    obtain ⟨active, until_, hlock, -⟩ := lock
    have hfailed : s'.1.securityGate.failedAttempts = s.1.securityGate.failedAttempts + 1 :=
      congrArg GateLock.failedAttempts hlock
    have hfew := UInt8.lt_iff_toNat_lt.mp (h.unlocked unlocked)
    rw [log, wrongKeys_wrong, hfailed, UInt8.toNat_add]
    simp at hfew ⊢
    omega
  | refused level verdict log notWrong unlocked lock =>
    have hfailed : s'.1.securityGate.failedAttempts = s.1.securityGate.failedAttempts :=
      congrArg GateLock.failedAttempts lock
    rw [log, hfailed, wrongKeys_other _ _ notWrong]
  | right level log unlocked lock => exact absurd ⟨level, log⟩ hkey

/-- The call that finds a lockout over judges no key, and the lockout's time is up. -/
theorem Counting.ends (h : Counting c persistFn s) {call : ServerCall (Watched ω)}
    (hrunning : call.Running) (hlockout : EndsLockout s call) :
    (∃ now, call.time = some now ∧ expired now s.1.securityGate.lockoutUntilMs = true) ∧
      wrongKeys (serverStep s call).2.2 = wrongKeys s.2.2 := by
  obtain ⟨hactive, hended⟩ := hlockout
  have hmove := h.move hrunning
  generalize serverStep s call = s' at hmove hended ⊢
  have hlapsed (hlapse : Lapse call.time (gateLock s.1.securityGate) (gateLock s'.1.securityGate)) :
      ∃ now, call.time = some now ∧ expired now s.1.securityGate.lockoutUntilMs = true := by
    cases hlapse with
    | none same =>
      have hsame : s'.1.securityGate.lockoutActive = s.1.securityGate.lockoutActive :=
        congrArg GateLock.lockoutActive same
      exact absurd (hsame.symm.trans hended) (by simp [hactive])
    | ended now called active up left => exact ⟨now, called, up⟩
    | renewed now called active up left => exact ⟨now, called, up⟩
  have hnot {P : Prop} (hopen : s.1.securityGate.lockoutActive = false) : P :=
    absurd (hopen.symm.trans hactive) (by decide)
  cases hmove with
  | none log lapse seed => exact ⟨hlapsed lapse, by rw [log]⟩
  | seed level log lapse unlocked => exact ⟨hlapsed lapse, by rw [log, wrongKeys_seed]⟩
  | wrong level log unlocked lock seed => exact hnot unlocked
  | refused level verdict log notWrong unlocked lock => exact hnot unlocked
  | right level log unlocked lock => exact hnot unlocked

/-- Nothing else takes attempts back. -/
theorem Counting.cleared (h : Counting c persistFn s) {call : ServerCall (Watched ω)}
    (hrunning : call.Running)
    (hfewer : (serverStep s call).1.securityGate.failedAttempts < s.1.securityGate.failedAttempts) :
    TakesKey s call ∨ EndsLockout s call := by
  by_contra hneither
  obtain ⟨hkey, hlockout⟩ := not_or.mp hneither
  have hcounted := h.counted hrunning hkey hlockout
  have hmore : wrongKeys s.2.2 ≤ wrongKeys (serverStep s call).2.2 := by
    have hmove := h.move hrunning
    generalize serverStep s call = s' at hmove ⊢
    have hgrown (events : List AccessEvent) (hlog : s'.2.2 = s.2.2 ++ events) :
        wrongKeys s.2.2 ≤ wrongKeys s'.2.2 := by
      unfold wrongKeys
      rw [hlog, List.countP_append]
      exact Nat.le_add_right ..
    cases hmove with
    | none log lapse seed => rw [log]
    | seed level log lapse unlocked => exact hgrown _ log
    | wrong level log unlocked lock seed => exact hgrown _ log
    | refused level verdict log notWrong unlocked lock => exact hgrown _ log
    | right level log unlocked lock => exact hgrown _ log
  rw [UInt8.lt_iff_toNat_lt] at hfewer
  omega

/-- While the lockout's time is not up, no seed is made and no key judged. -/
theorem Counting.silent (h : Counting c persistFn s) {call : ServerCall (Watched ω)}
    (hrunning : call.Running) (hactive : s.1.securityGate.lockoutActive = true) {now : UInt32}
    (htime : call.time = some now) (hahead : expired now s.1.securityGate.lockoutUntilMs = false) :
    (serverStep s call).2.2 = s.2.2 := by
  have hmove := h.move hrunning
  generalize serverStep s call = s' at hmove ⊢
  have hnot {P : Prop} (hopen : s.1.securityGate.lockoutActive = false) : P :=
    absurd (hopen.symm.trans hactive) (by decide)
  cases hmove with
  | none log lapse seed => exact log
  | seed level log lapse unlocked =>
    cases lapse with
    | none same =>
      have hsame : s'.1.securityGate.lockoutActive = s.1.securityGate.lockoutActive :=
        congrArg GateLock.lockoutActive same
      exact hnot (hsame.symm.trans unlocked)
    | ended now' called active up left =>
      obtain rfl : now = now' := Option.some.inj (htime.symm.trans called)
      exact absurd (hahead.symm.trans up) (by decide)
    | renewed now' called active up left =>
      obtain rfl : now = now' := Option.some.inj (htime.symm.trans called)
      exact absurd (hahead.symm.trans up) (by decide)
  | wrong level log unlocked lock seed => exact hnot unlocked
  | refused level verdict log notWrong unlocked lock => exact hnot unlocked
  | right level log unlocked lock => exact hnot unlocked

end Move

/-! ## Runs -/

theorem counting_start (c : UdsCallbacks ω) (persistFn : Option (ω → UInt8 → UInt32 → Bool × ω))
    (start : UInt32) (w : ω) : Counting c persistFn (watchedStart c persistFn start w) :=
  ⟨rfl, rfl, rfl, rfl, by show (0 : UInt8) ≤ 3; decide, fun _ => by show (0 : UInt8) < 3; decide,
    nofun⟩

theorem Counting.between {c : UdsCallbacks ω}
    {persistFn : Option (ω → UInt8 → UInt32 → Bool × ω)} {between : List (ServerCall (Watched ω))} :
    ∀ {s : UdsServer (Watched ω) × Watched ω}, Counting c persistFn s →
      Along serverStep (fun s call => call.Running ∧ ¬TakesKey s call ∧ ¬EndsLockout s call) s
        between →
      Counting c persistFn (run serverStep s between) ∧
        wrongKeys (run serverStep s between).2.2 + s.1.securityGate.failedAttempts.toNat =
          wrongKeys s.2.2
            + (run serverStep s between).1.securityGate.failedAttempts.toNat := by
  induction between with
  | nil => exact fun h _ => ⟨h, rfl⟩
  | cons call rest ih =>
    rintro s h ⟨⟨hrunning, hkey, hlockout⟩, hrest⟩
    obtain ⟨hend, hcount⟩ := ih (h.step hrunning) hrest
    have hcounted := h.counted hrunning hkey hlockout
    refine ⟨hend, ?_⟩
    rw [run_cons]
    omega

/-- **Guessing.** Whatever is asked of a server after its init, and whatever its callbacks and its
storage answer: in calls of which none has a key judged right and none finds a lockout over, at
most `max_attempts` keys are judged wrong. A call that finds a lockout over judges no key. The
attempts only go down in a call of these two kinds, and while a lockout's time is not up, neither
callback is called. -/
theorem guessing_bounded (c : UdsCallbacks ω)
    (persistFn : Option (ω → UInt8 → UInt32 → Bool × ω)) (start : UInt32) (w : ω)
    (calls : List (ServerCall (Watched ω))) (hrunning : ∀ call ∈ calls, call.Running) :
    let s := run serverStep (watchedStart c persistFn start w) calls
    let gate := s.1.securityGate
    (∀ between, Along serverStep
        (fun s call => call.Running ∧ ¬TakesKey s call ∧ ¬EndsLockout s call) s between →
      wrongKeys (run serverStep s between).2.2 ≤ wrongKeys s.2.2 + gate.maxAttempts.toNat) ∧
    ∀ call : ServerCall (Watched ω), call.Running →
      (EndsLockout s call →
        (∃ now, call.time = some now ∧ expired now gate.lockoutUntilMs = true) ∧
          wrongKeys (serverStep s call).2.2 = wrongKeys s.2.2) ∧
      ((serverStep s call).1.securityGate.failedAttempts < gate.failedAttempts →
        TakesKey s call ∨ EndsLockout s call) ∧
      (gate.lockoutActive = true → ∀ now, call.time = some now →
        expired now gate.lockoutUntilMs = false → (serverStep s call).2.2 = s.2.2) := by
  intro s gate
  have hcounting : Counting c persistFn s :=
    Along.inv (I := Counting c persistFn) (fun _ _ h hcall => h.step hcall)
      (counting_start c persistFn start w) (along_of_forall hrunning _)
  refine ⟨fun between hbetween => ?_, fun call hcall =>
    ⟨hcounting.ends hcall, hcounting.cleared hcall, fun hactive _ => hcounting.silent hcall hactive⟩⟩
  obtain ⟨hend, hcount⟩ := hcounting.between hbetween
  have hfew := UInt8.le_iff_toNat_le.mp hend.attempts
  have hmax : gate.maxAttempts = 3 := hcounting.maxAttempts
  rw [hmax]
  simp at hfew ⊢
  omega

/-- Callbacks that give a seed and take no key. -/
def stubborn : UdsCallbacks Unit where
  securitySeed := some fun w _ _ => ⟨.ok, [0x5A], 1, w⟩
  securityKey := some fun w _ _ => (.invalidKey, w)

/-- A request at some time. -/
def ask (request : List UInt8) (now : UInt32) : ServerCall (Watched Unit) :=
  .handle request (fun _ => 0) 0 64 .physical now

/-- A seed and a wrong key for it, three times, in the extended session. -/
def threeGuesses : List (ServerCall (Watched Unit)) :=
  [ask [0x10, 0x03] 1, ask [0x27, 0x01] 2, ask [0x27, 0x02, 0xFF] 3, ask [0x27, 0x01] 4,
    ask [0x27, 0x02, 0xFF] 5, ask [0x27, 0x01] 6, ask [0x27, 0x02, 0xFF] 7]

/-- A fourth seed is not made. -/
theorem guessing_bounded_stubborn :
    let s := run serverStep (watchedStart stubborn none 0 ()) threeGuesses
    (serverStep s (ask [0x27, 0x01] 8)).2.2 = s.2.2 :=
  ((guessing_bounded stubborn none 0 () threeGuesses
    (by simp [threeGuesses, ask, ServerCall.Running])).2 (ask [0x27, 0x01] 8) trivial).2.2
      (by decide +kernel) 8 rfl (by decide +kernel)

/-- The lockout of three wrong keys is over, and the change of session that finds it so clears the
attempts. -/
theorem session_ends_lockout :
    let s := run serverStep (watchedStart stubborn none 0 ()) threeGuesses
    s.1.securityGate.failedAttempts = 3 ∧
      (serverStep s (.requestSession sessionExtended 10007)).1.securityGate.failedAttempts = 0 := by
  decide +kernel

end UdsIsoTp.Uds
