import UdsIsoTp.Lib.Run
import UdsIsoTp.Uds.Effects

/-!
# Privileges and sessions

What a tester has gained (an unlocked level, an outstanding seed, a download) is
worth something only in the session it was gained in. `Privilege` ties the three to
the session; every operation of the server keeps it, so it holds in every state that
the server can reach.

A request keeps it for one of two reasons: the service it asks for is only admitted in
a session that may have the privilege (`programming_of_download`,
`securitySessionAllowed`), or it ends the session and the privileges with it.
-/

namespace UdsIsoTp.Uds

variable {ω : Type}

/-! ## Calls -/

/-- The operations of the server, with what their callers pass. -/
inductive ServerCall (ω : Type) where
  | handle (request : List UInt8) (response : Buf) (responseLen capacity : UInt16)
      (mode : UdsAddressMode) (now : UInt32)
  | tick (now : UInt32)
  | requestSession (requested : UInt8) (now : UInt32)
  | resetSecurity
  | applyReset (reason : UdsResetReason) (now : UInt32)
  | restoreSecurityState (failedAttempts : UInt8) (lockoutRemainingMs now : UInt32)
  | setTiming (s3TimeoutMs initialDelayMs lockoutMs seedTimeoutMs : UInt32) (maxAttempts : UInt8)
  | setSecurityPersistence (persistFn : Option (ω → UInt8 → UInt32 → Bool × ω))
  | completeReset
  | clearReset

/-- One call, on the server and the world. -/
def serverStep (s : UdsServer ω × ω) : ServerCall ω → UdsServer ω × ω
  | .handle request response responseLen capacity mode now =>
    let out := udsServerHandleAddressed ⟨s.1, response, responseLen, s.2⟩ request capacity mode now
    (out.2.server, out.2.world)
  | .tick now => (udsServerTick s.1 now s.2).2
  | .requestSession requested now => (udsServerRequestSession s.1 requested now s.2).2
  | .resetSecurity => (udsServerResetSecurity s.1, s.2)
  | .applyReset reason now => (udsServerApplyReset s.1 reason now, s.2)
  | .restoreSecurityState failedAttempts lockoutRemainingMs now =>
    (udsServerRestoreSecurityState s.1 failedAttempts lockoutRemainingMs now, s.2)
  | .setTiming s3TimeoutMs initialDelayMs lockoutMs seedTimeoutMs maxAttempts =>
    (udsServerSetTiming s.1 s3TimeoutMs initialDelayMs lockoutMs seedTimeoutMs maxAttempts, s.2)
  | .setSecurityPersistence persistFn => (udsServerSetSecurityPersistence s.1 persistFn, s.2)
  | .completeReset => ((udsServerCompleteReset s.1).2, s.2)
  | .clearReset => (udsServerClearReset s.1, s.2)

/-! ## The invariant -/

/-- What the server holds, it holds in a session that may have it. -/
structure Privilege (server : UdsServer ω) : Prop where
  access : server.securityGate.activeLevel ≠ 0 ∨ server.securityGate.seedValid = true →
    server.session = sessionProgramming ∨ server.session = sessionExtended
  download : server.downloadActive = true →
    server.session = sessionProgramming ∧ 3 ≤ server.maxDownloadBlockLength
  notSafety : server.session ≠ sessionSafety

/-- The programming session is entered from the extended one. -/
def EntersFromExtended (before after : UdsServer ω) : Prop :=
  after.session = sessionProgramming → before.session ≠ sessionProgramming →
    before.session = sessionExtended

/-- What one operation owes to the next: the invariant, and how it got where it is. -/
def Keeps (before after : UdsServer ω) : Prop := Privilege after ∧ EntersFromExtended before after

/-- An operation that leaves the session and gives nothing away. -/
theorem keeps_of_weaker {before after : UdsServer ω} (h : Privilege before)
    (hsession : after.session = before.session)
    (hlevel : after.securityGate.activeLevel ≠ 0 → before.securityGate.activeLevel ≠ 0)
    (hseed : after.securityGate.seedValid = true → before.securityGate.seedValid = true)
    (hdownload : after.downloadActive = true → before.downloadActive = true ∧
      after.maxDownloadBlockLength = before.maxDownloadBlockLength) : Keeps before after := by
  refine ⟨⟨?_, ?_, ?_⟩, ?_⟩
  · intro hgained
    rw [hsession]
    exact h.access (hgained.imp hlevel hseed)
  · intro hactive
    obtain ⟨hbefore, hmax⟩ := hdownload hactive
    rw [hsession, hmax]
    exact h.download hbefore
  · rw [hsession]
    exact h.notSafety
  · intro hafter hbefore
    rw [hsession] at hafter
    exact absurd hafter hbefore

/-- An operation that ends in the default session, locked and without a download. -/
theorem keeps_of_default {before after : UdsServer ω} (hsession : after.session = sessionDefault)
    (hlevel : after.securityGate.activeLevel = 0) (hseed : after.securityGate.seedValid = false)
    (hdownload : after.downloadActive = false) : Keeps before after := by
  refine ⟨⟨?_, ?_, ?_⟩, ?_⟩
  · intro hgained
    rw [hlevel, hseed] at hgained
    simp at hgained
  · intro hactive
    rw [hdownload] at hactive
    exact Bool.noConfusion hactive
  · rw [hsession]
    decide
  · intro hafter
    rw [hsession] at hafter
    exact absurd hafter (by decide)

/-! ## Sessions -/

theorem transition_notSafety {current requested : UInt8} (hcurrent : current ≠ sessionSafety)
    (h : udsSessionTransitionAllowed current requested = true) : requested ≠ sessionSafety := by
  intro hsafety
  subst hsafety
  unfold udsSessionTransitionAllowed at h
  rw [if_neg (show ¬current = sessionSafety from hcurrent)] at h
  split_ifs at h <;> exact absurd h (by decide)

theorem transition_programming {current : UInt8}
    (h : udsSessionTransitionAllowed current sessionProgramming = true)
    (hother : current ≠ sessionProgramming) : current = sessionExtended := by
  by_contra hextended
  unfold udsSessionTransitionAllowed at h
  rw [if_neg hother, if_neg hextended] at h
  split_ifs at h <;> exact absurd h (by decide)

theorem keeps_of_session {before after : UdsServer ω} {requested : UInt8} (h : Privilege before)
    (hchanged : SessionChanged before requested after) : Keeps before after := by
  refine ⟨⟨?_, ?_, ?_⟩, ?_⟩
  · intro hgained
    rw [hchanged.activeLevel, hchanged.seedValid] at hgained
    simp at hgained
  · intro hactive
    rw [hchanged.downloadActive] at hactive
    exact Bool.noConfusion hactive
  · rw [hchanged.session]
    exact transition_notSafety h.notSafety hchanged.allowed
  · intro hafter hbefore
    rw [hchanged.session] at hafter
    subst hafter
    exact transition_programming hchanged.allowed hbefore

/-! ## Services -/

/-- The row of RequestDownload, whatever follows the service identifier. -/
theorem udsServiceAttribute_download (subservice : UInt8) :
    udsServiceAttribute 0x34 subservice
      = attributeRow 0x34 sessionMaskProgramming addressPhysical := by
  unfold udsServiceAttribute
  by_cases hany : anySubfunction = subservice
  · subst hany
    rfl
  · simp [serviceAttributes, findAttribute, attributeRow, hany]

theorem sessionMask_programming {session : UInt8}
    (h : sessionMaskProgramming &&& sessionMask session ≠ 0) : session = sessionProgramming := by
  unfold sessionMask at h
  split_ifs at h with _ hprogramming
  · exact absurd rfl h
  · exact hprogramming
  · exact absurd rfl h
  · exact absurd rfl h
  · exact absurd rfl h

/-- A download is only admitted in the programming session. -/
theorem programming_of_download {server : UdsServer ω} {request : List UInt8}
    {mode : UdsAddressMode} (hsid : byteAt request 0 = 0x34)
    (h : checkServiceAttributes server request mode = 0) :
    server.session = sessionProgramming := by
  unfold checkServiceAttributes at h
  rw [hsid, udsServiceAttribute_download] at h
  dsimp only at h
  rw [if_neg (show ¬(attributeRow 0x34 sessionMaskProgramming addressPhysical).sid = 0 by decide)]
    at h
  split at h
  next => exact absurd h (by decide)
  next =>
    split at h
    next => exact absurd h (by decide)
    next hmask => exact sessionMask_programming hmask

theorem securitySessionAllowed_cases {session : UInt8} (h : securitySessionAllowed session) :
    session = sessionProgramming ∨ session = sessionExtended := by
  unfold securitySessionAllowed at h
  simpa using h

theorem handled_keeps {β : Type} {proj : ω → β} {x : Exchange ω} {request : List UInt8}
    {capacity : UInt16} {mode : UdsAddressMode} {now : UInt32} {out : Served ω}
    (h : Privilege x.server) (hadmitted : checkServiceAttributes x.server request mode = 0)
    (hout : Handled proj (atHandler x mode now) request capacity now out) :
    Keeps x.server out.2.server := by
  have hentered : Privilege (atHandler x mode now).server := ⟨h.access, h.download, h.notSafety⟩
  suffices hkeeps : Keeps (atHandler x mode now).server out.2.server from hkeeps
  cases hout with
  | quiet server | dropped b f callback room server =>
    rw [server]
    exact keeps_of_weaker hentered rfl id id fun hactive => ⟨hactive, rfl⟩
  | session requested ok server =>
    rw [server]
    exact keeps_of_session hentered (udsServerRequestSession_ok ok)
  | reset b f callback request_eq range ok server =>
    rw [server]
    exact keeps_of_weaker hentered rfl id id fun hactive => ⟨hactive, rfl⟩
  | ticked server =>
    rw [server]
    obtain ⟨-, hlevel, hseed⟩ := gateTick_fields (atHandler x mode now).server.securityGate now
      (atHandler x mode now).world
    refine keeps_of_weaker hentered rfl ?_ hseed fun hactive => ⟨hactive, rfl⟩
    intro hgained
    exact hlevel ▸ hgained
  | access gate session persist server =>
    rw [server]
    refine ⟨⟨fun _ => securitySessionAllowed_cases session, hentered.download, hentered.notSafety⟩, ?_⟩
    intro hafter hbefore
    exact absurd hafter hbefore
  | dtcSetting enabled server =>
    rw [server]
    exact keeps_of_weaker hentered rfl id id fun hactive => ⟨hactive, rfl⟩
  | download maxBlockLength sid length server =>
    rw [server]
    -- the row of a download lets it through in the programming session only
    have hprogramming := programming_of_download sid hadmitted
    refine ⟨⟨hentered.access, fun _ => ⟨hprogramming, length⟩, hentered.notSafety⟩, ?_⟩
    intro _ hbefore
    exact absurd hprogramming hbefore
  | block sid server =>
    rw [server]
    exact keeps_of_weaker hentered rfl id id fun hactive => ⟨hactive, rfl⟩
  | exit sid server =>
    rw [server]
    exact keeps_of_weaker hentered rfl id id fun hactive => Bool.noConfusion hactive

/-! ## Steps and runs -/

theorem serverStep_keeps (s : UdsServer ω × ω) (call : ServerCall ω) (h : Privilege s.1) :
    Keeps s.1 (serverStep s call).1 := by
  cases call with
  | handle request response responseLen capacity mode now =>
    obtain hout | ⟨hserver, -⟩ | ⟨hadmitted, hout⟩ :=
      handleAddressed_cases (x := ⟨s.1, response, responseLen, s.2⟩) (unseen_blind _ _) request
        capacity mode now
    · simp only [serverStep, hout]
      exact keeps_of_weaker h rfl id id fun hactive => ⟨hactive, rfl⟩
    · simp only [serverStep, hserver]
      exact keeps_of_weaker h rfl id id fun hactive => ⟨hactive, rfl⟩
    · exact handled_keeps h hadmitted hout
  | tick now =>
    obtain ⟨-, hlevel, hseed⟩ := gateTick_fields s.1.securityGate now s.2
    simp only [serverStep, udsServerTick]
    split_ifs
    · refine keeps_of_weaker h rfl ?_ hseed fun hactive => ⟨hactive, rfl⟩
      intro hgained
      exact hlevel ▸ hgained
    · exact keeps_of_default rfl rfl rfl rfl
    · refine keeps_of_weaker h rfl ?_ hseed fun hactive => ⟨hactive, rfl⟩
      intro hgained
      exact hlevel ▸ hgained
  | requestSession requested now =>
    show Keeps s.1 (udsServerRequestSession s.1 requested now s.2).2.1
    by_cases hok : (udsServerRequestSession s.1 requested now s.2).1 = .ok
    · exact keeps_of_session h (udsServerRequestSession_ok hok)
    · rw [udsServerRequestSession_refused hok]
      exact keeps_of_weaker h rfl id id fun hactive => ⟨hactive, rfl⟩
  | resetSecurity =>
    refine keeps_of_weaker h rfl ?_ ?_ fun hactive => ⟨hactive, rfl⟩
    · intro hgained
      exact absurd rfl hgained
    · intro hgained
      exact Bool.noConfusion hgained
  | applyReset reason now => exact keeps_of_default rfl rfl rfl rfl
  | restoreSecurityState failedAttempts lockoutRemainingMs now =>
    -- what is restored are attempts and a lockout, never a level or a seed
    have hgate : (gateRestoreState s.1.securityGate failedAttempts lockoutRemainingMs now).activeLevel
        = s.1.securityGate.activeLevel ∧
        (gateRestoreState s.1.securityGate failedAttempts lockoutRemainingMs now).seedValid
        = s.1.securityGate.seedValid := by
      unfold gateRestoreState
      dsimp only
      split_ifs <;> exact ⟨rfl, rfl⟩
    refine keeps_of_weaker h rfl ?_ ?_ fun hactive => ⟨hactive, rfl⟩
    · intro hgained
      exact hgate.1 ▸ hgained
    · intro hgained
      exact hgate.2 ▸ hgained
  | setTiming s3TimeoutMs initialDelayMs lockoutMs seedTimeoutMs maxAttempts =>
    exact keeps_of_weaker h rfl id id fun hactive => ⟨hactive, rfl⟩
  | setSecurityPersistence persistFn =>
    exact keeps_of_weaker h rfl id id fun hactive => ⟨hactive, rfl⟩
  | completeReset =>
    simp only [serverStep, udsServerCompleteReset]
    split_ifs <;> exact keeps_of_weaker h rfl id id fun hactive => ⟨hactive, rfl⟩
  | clearReset => exact keeps_of_weaker h rfl id id fun hactive => ⟨hactive, rfl⟩

theorem privilege_init (callbacks : UdsCallbacks ω) (now : UInt32) :
    Privilege (udsServerInit callbacks now) := by
  refine ⟨?_, ?_, by show sessionDefault ≠ sessionSafety; decide⟩
  · intro hgained
    simp [udsServerInit, gateSetTiming, gateInit] at hgained
  · intro hactive
    exact Bool.noConfusion hactive

/-- **Privileges.** In every state that the server reaches, an unlocked level or an
outstanding seed means the programming or the extended session, a download means the
programming session and a block length that TransferData can take two from, and the
session is never the safety session; and a step into the programming session starts in
the extended one. -/
theorem server_privilege (callbacks : UdsCallbacks ω) (start : UInt32) (w : ω)
    (calls : List (ServerCall ω)) :
    Privilege (run serverStep (udsServerInit callbacks start, w) calls).1 ∧
      ∀ call, EntersFromExtended (run serverStep (udsServerInit callbacks start, w) calls).1
        (serverStep (run serverStep (udsServerInit callbacks start, w) calls) call).1 := by
  have hrun : Privilege (run serverStep (udsServerInit callbacks start, w) calls).1 := by
    refine run_inv (I := fun s : UdsServer ω × ω => Privilege s.1) ?_ (privilege_init ..) calls
    intro s call h
    exact (serverStep_keeps s call h).1
  exact ⟨hrun, fun call => (serverStep_keeps _ call hrun).2⟩

end UdsIsoTp.Uds
