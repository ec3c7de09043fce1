import UdsIsoTp.Crypto.Cmac
import UdsIsoTp.Lib.Run
import UdsIsoTp.Uds.Types
import Mathlib.Tactic.NormNum

/-!
# Challenge and proof

`uds_auth_app.c`: the Authentication service hands out a challenge and accepts the tag of it as a
proof. A challenge is made from the one before by adding to each of its bytes a number of that byte's
own, without a carry from one byte to the next, so that after 256 challenges the first comes again.

`challenges_fresh_iff`: over a run from the initialisation the challenges are distinct, and a proof is
of the last one only, if and only if no more than 256 were asked for.
-/

namespace UdsIsoTp.App

open UdsIsoTp.Crypto UdsIsoTp.Uds

/-- `s_auth_master_key` -/
def authMasterKey : Block :=
  ⟨[0x2B, 0x7E, 0x15, 0x16, 0x28, 0xAE, 0xD2, 0xA6, 0xAB, 0xF7, 0x15, 0x88, 0x09, 0xCF, 0x4F, 0x3C],
    rfl⟩

/-- `UDS_AUTH_SUBFUNCTION_DEAUTHENTICATE` -/
def authSubfunctionDeauthenticate : UInt8 := 0x00
/-- `UDS_AUTH_SUBFUNCTION_REQUEST_CHALLENGE` -/
def authSubfunctionRequestChallenge : UInt8 := 0x05
/-- `UDS_AUTH_SUBFUNCTION_VERIFY_PROOF_UNIDIRECTIONAL` -/
def authSubfunctionVerifyProofUnidirectional : UInt8 := 0x06
/-- `UDS_AUTH_SUBFUNCTION_AUTHENTICATION_CONFIG` -/
def authSubfunctionAuthenticationConfig : UInt8 := 0x08

/-- The variables of `uds_auth_app.c`. -/
structure UdsAuthApp where
  activeChallenge : Block
  challengeValid : Bool
  isAuthenticated : Bool

/-- A fixed challenge that counts for nothing, and nobody authenticated. -/
def udsAuthAppInit : UdsAuthApp where
  activeChallenge := .replicate 16 0x5A
  challengeValid := false
  isAuthenticated := false

/-- The authentication and the challenge are void. -/
def udsAuthAppDeauthenticate (app : UdsAuthApp) : UdsAuthApp :=
  { app with isAuthenticated := false, challengeValid := false }

/-- `handle_auth_deauth`: takes the rights back, also when the response has no room. -/
def handleAuthDeauth (app : UdsAuthApp) (subfunction : UInt8) (capacity : UInt16) :
    Reply UdsAuthApp :=
  let app := udsAuthAppDeauthenticate app
  if capacity < 3 then ⟨.responseTooLong, [], 0, app⟩
  else ⟨.ok, [0x69, subfunction, 0x00], 3, app⟩

/-- The loop of `handle_auth_challenge`. -/
def nextChallenge (challenge : Block) : Block :=
  .ofFn fun i => challenge.get i + (UInt8.ofNat i * 7 + 0x13)

/-- `handle_auth_challenge`: hands a new challenge out. -/
def handleAuthChallenge (app : UdsAuthApp) (subfunction : UInt8) (capacity : UInt16) :
    Reply UdsAuthApp :=
  if capacity < 2 + 16 then ⟨.responseTooLong, [], 0, app⟩
  else
    let app := { app with
      activeChallenge := nextChallenge app.activeChallenge
      challengeValid := true }
    ⟨.ok, [0x69, subfunction] ++ app.activeChallenge.toList, 2 + 16, app⟩

/-- `handle_auth_verify_proof`: compares the proof with the CMAC of the challenge. -/
def handleAuthVerifyProof (app : UdsAuthApp) (subfunction : UInt8) (request : List UInt8)
    (capacity : UInt16) : Reply UdsAuthApp :=
  if request.length < 2 + 16 ∨ ¬app.challengeValid then ⟨.sequenceError, [], 0, app⟩
  else
    match udsSecurityCmacDeriveKey authMasterKey app.activeChallenge with
    | none => ⟨.error, [], 0, app⟩
    | some expectedMac =>
      if ¬udsSecurityCmacConstantTimeEqual (blockAt request 2) expectedMac then
        ⟨.invalidKey, [], 0, { app with isAuthenticated := false }⟩
      else
        let app := { app with isAuthenticated := true, challengeValid := false }
        if capacity < 3 then ⟨.responseTooLong, [], 0, app⟩
        else ⟨.ok, [0x69, subfunction, 0x00], 3, app⟩

/-- `handle_auth_config` -/
def handleAuthConfig (app : UdsAuthApp) (subfunction : UInt8) (capacity : UInt16) :
    Reply UdsAuthApp :=
  if capacity < 4 then ⟨.responseTooLong, [], 0, app⟩
  else ⟨.ok, [0x69, subfunction, 0x01, 0x01], 4, app⟩

/-- The service 0x29: tells the sub-functions apart. -/
def udsAuthAppServiceHandler : ServiceHandler UdsAuthApp := fun app request capacity =>
  if request.length < 2 then ⟨.outOfRange, [], 0, app⟩
  else
    let subfunction := byteAt request 1 &&& 0x7F
    if subfunction = authSubfunctionDeauthenticate then handleAuthDeauth app subfunction capacity
    else if subfunction = authSubfunctionRequestChallenge then
      handleAuthChallenge app subfunction capacity
    else if subfunction = authSubfunctionVerifyProofUnidirectional then
      handleAuthVerifyProof app subfunction request capacity
    else if subfunction = authSubfunctionAuthenticationConfig then
      handleAuthConfig app subfunction capacity
    else ⟨.subfunctionNotSupported, [], 0, app⟩

/-! ## Runs -/

/-- What may be called after the initialisation. -/
inductive AuthCall where
  | request (bytes : List UInt8) (capacity : UInt16)
  | deauthenticate

/-- One call. -/
def authStep (app : UdsAuthApp) : AuthCall → UdsAuthApp
  | .request bytes capacity => (udsAuthAppServiceHandler app bytes capacity).world
  | .deauthenticate => udsAuthAppDeauthenticate app

/-- The call asks for a challenge and leaves room for it. -/
def AuthCall.asksChallenge : AuthCall → Bool
  | .request bytes capacity => decide (2 ≤ bytes.length ∧
      byteAt bytes 1 &&& 0x7F = authSubfunctionRequestChallenge ∧ 2 + 16 ≤ capacity)
  | .deauthenticate => false

/-- The challenge in the response to the call. -/
def issuedChallenge (app : UdsAuthApp) : AuthCall → Option Block
  | .request bytes capacity =>
    let reply := udsAuthAppServiceHandler app bytes capacity
    if reply.result = .ok ∧ byteAt reply.data 1 = authSubfunctionRequestChallenge then
      some (blockAt reply.data 2)
    else none
  | .deauthenticate => none

/-- The proof that the call is accepted with: it uses the challenge up and authenticates. -/
def acceptedProof (app : UdsAuthApp) : AuthCall → Option Block
  | .request bytes capacity =>
    let after := (udsAuthAppServiceHandler app bytes capacity).world
    if app.challengeValid ∧ after.isAuthenticated ∧ ¬after.challengeValid then
      some (blockAt bytes 2)
    else none
  | .deauthenticate => none

/-- The challenges issued in a run, in order. -/
def issued (calls : List AuthCall) : List Block :=
  observed authStep issuedChallenge udsAuthAppInit calls

/-- The challenges of a run are not replayable: no two of them are the same, and a proof that is
accepted is a proof for none but the last. -/
structure NotReplayable (calls : List AuthCall) : Prop where
  distinct : (issued calls).Nodup
  fresh : ∀ earlier call later, calls = earlier ++ call :: later →
    ∀ proof ∈ acceptedProof (run authStep udsAuthAppInit earlier) call,
    ∀ i challenge, (issued earlier)[i]? = some challenge →
      udsSecurityCmacDeriveKey authMasterKey challenge = some proof → i + 1 = (issued earlier).length

/-! ## The challenges by number -/

/-- The challenge after `n` others. -/
def challengeNumber (n : Nat) : Block := nextChallenge^[n] udsAuthAppInit.activeChallenge

theorem challengeNumber_succ (n : Nat) :
    challengeNumber (n + 1) = nextChallenge (challengeNumber n) :=
  Function.iterate_succ_apply' ..

/-- A byte of a challenge has been added to once for each. -/
theorem challengeNumber_get (n : Nat) (i : Fin 16) :
    (challengeNumber n).get i = 0x5A + UInt8.ofNat n * (UInt8.ofNat i * 7 + 0x13) := by
  induction n with
  | zero =>
    rw [challengeNumber, Function.iterate_zero_apply, udsAuthAppInit, List.Vector.get_replicate]
    simp
  | succ n ih =>
    rw [challengeNumber_succ, nextChallenge, List.Vector.get_ofFn, ih, UInt8.ofNat_add]
    generalize UInt8.ofNat i * 7 + 0x13 = increment
    grind

/-- The number added to the first byte is odd, so that byte alone tells 256 challenges apart. -/
theorem challengeNumber_inj {m n : Nat} :
    challengeNumber m = challengeNumber n ↔ m % 256 = n % 256 := by
  have hbyte : UInt8.ofNat m = UInt8.ofNat n ↔ m % 256 = n % 256 := by
    rw [← UInt8.toNat_inj, UInt8.toNat_ofNat', UInt8.toNat_ofNat']
  rw [← hbyte]
  constructor
  · intro h
    have hfirst := congrArg (List.Vector.get · 0) h
    simp only [challengeNumber_get] at hfirst
    have hsame : UInt8.ofNat m * 0x13 = UInt8.ofNat n * 0x13 := by simpa using hfirst
    have hcancel : ∀ b : UInt8, b * 0x13 * 27 = b := by
      intro b
      rw [UInt8.mul_assoc]
      exact UInt8.mul_one b
    rw [← hcancel (UInt8.ofNat m), hsame, hcancel]
  · intro h
    refine List.Vector.ext fun i => ?_
    rw [challengeNumber_get, challengeNumber_get, h]

/-! ## What a request does to the challenge -/

/-- The ways a request can end. -/
inductive AuthOutcome (app : UdsAuthApp) (bytes : List UInt8) (capacity : UInt16)
    (reply : Reply UdsAuthApp) : Prop
  | challenged (asked : (AuthCall.request bytes capacity).asksChallenge = true)
      (result : reply.result = .ok)
      (data : reply.data = [0x69, 0x05] ++ (nextChallenge app.activeChallenge).toList)
      (challenge : reply.world.activeChallenge = nextChallenge app.activeChallenge)
      (valid : reply.world.challengeValid = true)
  | proved (asked : (AuthCall.request bytes capacity).asksChallenge = false)
      (other : reply.result = .ok → byteAt reply.data 1 ≠ 0x05)
      (challenge : reply.world.activeChallenge = app.activeChallenge)
      (used : reply.world.challengeValid = false) (valid : app.challengeValid = true)
      (proof : udsSecurityCmacDeriveKey authMasterKey app.activeChallenge
        = some (blockAt bytes 2))
  | unproved (asked : (AuthCall.request bytes capacity).asksChallenge = false)
      (other : reply.result = .ok → byteAt reply.data 1 ≠ 0x05)
      (challenge : reply.world.activeChallenge = app.activeChallenge)
      (valid : reply.world.challengeValid = true → app.challengeValid = true)
      (proof : reply.world.isAuthenticated = false ∨ reply.world = app)

section Outcomes

variable {app : UdsAuthApp} {bytes : List UInt8} {capacity : UInt16}

theorem AuthOutcome.of_same {reply : Reply UdsAuthApp}
    (asked : (AuthCall.request bytes capacity).asksChallenge = false)
    (other : reply.result = .ok → byteAt reply.data 1 ≠ 0x05) (world : reply.world = app) :
    AuthOutcome app bytes capacity reply :=
  .unproved asked other (by rw [world]) (by rw [world]; exact id) (.inr world)

theorem handleAuthVerifyProof_outcome
    (asked : (AuthCall.request bytes capacity).asksChallenge = false) :
    AuthOutcome app bytes capacity (handleAuthVerifyProof app 0x06 bytes capacity) := by
  unfold handleAuthVerifyProof
  split
  next => exact .of_same asked UdsCallbackResult.noConfusion rfl
  next hready =>
    have hvalid : app.challengeValid = true := by
      by_contra hinvalid
      exact hready (.inr hinvalid)
    rw [udsSecurityCmacDeriveKey_eq]
    dsimp only
    split
    next => exact .unproved asked UdsCallbackResult.noConfusion rfl id (.inl rfl)
    next hproof =>
      have hproof := udsSecurityCmacConstantTimeEqual_iff.mp (not_not.mp hproof)
      have hderived := (udsSecurityCmacDeriveKey_eq authMasterKey app.activeChallenge).trans
        (congrArg some hproof.symm)
      split
      next => exact .proved asked UdsCallbackResult.noConfusion rfl rfl hvalid hderived
      next => exact .proved asked (fun _ => (by decide : (0x06 : UInt8) ≠ 0x05)) rfl rfl hvalid hderived

theorem udsAuthAppServiceHandler_outcome (app : UdsAuthApp) (bytes : List UInt8)
    (capacity : UInt16) :
    AuthOutcome app bytes capacity (udsAuthAppServiceHandler app bytes capacity) := by
  unfold udsAuthAppServiceHandler
  split
  next hshort =>
    exact .of_same (by simp [AuthCall.asksChallenge, hshort]) UdsCallbackResult.noConfusion rfl
  next hlen =>
    dsimp only
    -- One case per subfunction; only the challenge counts as asking for one.
    split
    next hsub =>
      have hasked : (AuthCall.request bytes capacity).asksChallenge = false := by
        simp [AuthCall.asksChallenge, hsub, authSubfunctionDeauthenticate,
          authSubfunctionRequestChallenge]
      unfold handleAuthDeauth
      dsimp only
      rw [hsub]
      split
      next => exact .unproved hasked UdsCallbackResult.noConfusion rfl Bool.noConfusion (.inl rfl)
      next =>
        exact .unproved hasked (fun _ => (by decide : (0x00 : UInt8) ≠ 0x05)) rfl Bool.noConfusion
          (.inl rfl)
    next =>
      split
      next hsub =>
        unfold handleAuthChallenge
        rw [hsub]
        split
        next hroom =>
          have hroom : ¬(18 : UInt16) ≤ capacity := UInt16.not_le.mpr hroom
          exact .of_same (by simp [AuthCall.asksChallenge, hroom]) UdsCallbackResult.noConfusion rfl
        next hroom =>
          have hroom : (18 : UInt16) ≤ capacity := UInt16.not_lt.mp hroom
          refine .challenged ?_ rfl rfl rfl rfl
          simp [AuthCall.asksChallenge, hsub, hroom, Nat.not_lt.mp hlen]
      next hother =>
        have hasked : (AuthCall.request bytes capacity).asksChallenge = false := by
          simp [AuthCall.asksChallenge, hother]
        split
        next hsub =>
          rw [hsub]
          exact handleAuthVerifyProof_outcome hasked
        next =>
          split
          next hsub =>
            unfold handleAuthConfig
            rw [hsub]
            split
            next => exact .of_same hasked UdsCallbackResult.noConfusion rfl
            next => exact .of_same hasked (fun _ => (by decide : (0x08 : UInt8) ≠ 0x05)) rfl
          next => exact .of_same hasked UdsCallbackResult.noConfusion rfl

end Outcomes

/-- One call, seen through the challenge. -/
structure AuthEffect (app : UdsAuthApp) (call : AuthCall) : Prop where
  issued : issuedChallenge app call
    = if call.asksChallenge then some (nextChallenge app.activeChallenge) else none
  challenge : (authStep app call).activeChallenge
    = if call.asksChallenge then nextChallenge app.activeChallenge else app.activeChallenge
  valid : (authStep app call).challengeValid = true → call.asksChallenge ∨ app.challengeValid = true
  accepted : ∀ proof ∈ acceptedProof app call, app.challengeValid = true ∧
    udsSecurityCmacDeriveKey authMasterKey app.activeChallenge = some proof

theorem authStep_effect (app : UdsAuthApp) (call : AuthCall) : AuthEffect app call := by
  cases call with
  | deauthenticate =>
    exact ⟨rfl, rfl, Bool.noConfusion, fun proof hproof => absurd hproof (Option.not_mem_none proof)⟩
  | request bytes capacity =>
    have hother {reply : Reply UdsAuthApp} (h : reply.result = .ok → byteAt reply.data 1 ≠ 0x05) :
        ¬(reply.result = .ok ∧ byteAt reply.data 1 = authSubfunctionRequestChallenge) :=
      fun hboth => h hboth.1 hboth.2
    -- an accepted proof is in the request, and the challenge is used up by it
    have haccepted {proof : Block} (h : proof ∈ acceptedProof app (.request bytes capacity)) :
        (app.challengeValid = true ∧
          (udsAuthAppServiceHandler app bytes capacity).world.isAuthenticated = true ∧
          ¬(udsAuthAppServiceHandler app bytes capacity).world.challengeValid = true) ∧
          proof = blockAt bytes 2 := by
      unfold acceptedProof at h
      dsimp only at h
      split at h
      next hused => exact ⟨hused, (Option.mem_some_iff.mp h).symm⟩
      next => exact absurd h (Option.not_mem_none proof)
    cases udsAuthAppServiceHandler_outcome app bytes capacity with
    | challenged asked result data challenge valid =>
      refine ⟨?_, ?_, fun _ => .inl asked, fun proof hproof => ?_⟩
      · have hdata : byteAt (udsAuthAppServiceHandler app bytes capacity).data 1
            = authSubfunctionRequestChallenge := by
          rw [data]
          rfl
        have hheader : blockAt ([0x69, 0x05] ++ (nextChallenge app.activeChallenge).toList) 2
            = nextChallenge app.activeChallenge := blockAt_append _ _ rfl
        rw [asked, issuedChallenge, if_pos ⟨result, hdata⟩, data,
          hheader, if_pos rfl]
      · rw [asked]
        exact challenge
      · exact absurd valid (haccepted hproof).1.2.2
    | proved asked other challenge used valid proof =>
      refine ⟨?_, ?_, fun _ => .inr valid, fun proof' hproof => ⟨valid, ?_⟩⟩
      · rw [asked]
        exact if_neg (hother other)
      · rw [asked]
        exact challenge
      · rw [(haccepted hproof).2]
        exact proof
    | unproved asked other challenge valid proof =>
      refine ⟨?_, ?_, fun h => .inr (valid h), fun proof' hproof => ?_⟩
      · rw [asked]
        exact if_neg (hother other)
      · rw [asked]
        exact challenge
      · obtain ⟨hvalid, hauthenticated, hused⟩ := (haccepted hproof).1
        rcases proof with hlost | hsame
        · exact absurd hauthenticated (by rw [hlost]; exact Bool.false_ne_true)
        · exact absurd hvalid (hsame ▸ hused)

/-! ## Every run -/

/-- How many challenges a run asks for, with room for the response. -/
def challengeRequests (calls : List AuthCall) : Nat := calls.countP AuthCall.asksChallenge

/-- What a run has done to the challenge: the challenges by number. -/
structure Numbered (calls : List AuthCall) (app : UdsAuthApp) : Prop where
  issued : issued calls = (List.range (challengeRequests calls)).map fun n => challengeNumber (n + 1)
  challenge : app.activeChallenge = challengeNumber (challengeRequests calls)
  valid : app.challengeValid = true → 0 < challengeRequests calls

theorem numbered_step {calls : List AuthCall} (call : AuthCall)
    (h : Numbered calls (run authStep udsAuthAppInit calls)) :
    Numbered (calls ++ [call]) (authStep (run authStep udsAuthAppInit calls) call) := by
  have heffect := authStep_effect (run authStep udsAuthAppInit calls) call
  have hissued : issued (calls ++ [call])
      = issued calls ++ (issuedChallenge (run authStep udsAuthAppInit calls) call).toList :=
    observed_concat ..
  have hcount : challengeRequests (calls ++ [call])
      = challengeRequests calls + if call.asksChallenge then 1 else 0 := by
    simp [challengeRequests, List.countP_append, List.countP_singleton]
  refine ⟨?_, ?_, fun hvalid => ?_⟩
  · rw [hissued, heffect.issued, h.issued, h.challenge, hcount]
    split
    next => simp [List.range_succ, challengeNumber_succ]
    next => simp
  · rw [heffect.challenge, h.challenge, hcount]
    split
    next => exact (challengeNumber_succ _).symm
    next => rfl
  · rw [hcount]
    rcases heffect.valid hvalid with hasked | hvalid
    · rw [hasked]
      exact Nat.succ_pos _
    · exact Nat.add_pos_left (h.valid hvalid) _

theorem numbered_run (calls : List AuthCall) :
    Numbered calls (run authStep udsAuthAppInit calls) :=
  Along.history (I := Numbered) ⟨rfl, rfl, Bool.noConfusion⟩ (fun _ call h _ => numbered_step call h)
    (along_true calls udsAuthAppInit)

theorem length_issued (calls : List AuthCall) : (issued calls).length = challengeRequests calls := by
  rw [(numbered_run calls).issued, List.length_map, List.length_range]

/-- The challenges are distinct as long as their numbers are below a full turn of a byte. -/
theorem issued_nodup_iff (calls : List AuthCall) :
    (issued calls).Nodup ↔ challengeRequests calls ≤ 256 := by
  rw [(numbered_run calls).issued, List.nodup_map_iff_inj_on List.nodup_range]
  simp only [challengeNumber_inj, List.mem_range]
  constructor
  · intro hinj
    by_contra hmany
    -- the first challenge and the one 256 after it
    exact absurd (hinj 0 (by omega) 256 (by omega) rfl) (by decide)
  · intro hfew m hm n hn heq
    omega

/-- A proof that is accepted is one of the last challenge alone, within a turn. -/
theorem accepted_fresh {calls : List AuthCall} {call : AuthCall} {proof challenge : Block} {i : Nat}
    (hfew : challengeRequests calls ≤ 256)
    (haccepted : proof ∈ acceptedProof (run authStep udsAuthAppInit calls) call)
    (hissued : (issued calls)[i]? = some challenge)
    (hproof : udsSecurityCmacDeriveKey authMasterKey challenge = some proof) :
    i + 1 = (issued calls).length := by
  have hrun := numbered_run calls
  obtain ⟨hvalid, hactive⟩ := (authStep_effect _ call).accepted proof haccepted
  rw [← hproof, udsSecurityCmacDeriveKey_eq, udsSecurityCmacDeriveKey_eq, Option.some_inj] at hactive
  have hsame := aesCmac128_injective authMasterKey hactive
  have hi : i < (issued calls).length := (List.getElem?_eq_some_iff.mp hissued).1
  rw [length_issued] at hi ⊢
  rw [hrun.issued, List.getElem?_map, List.getElem?_range hi, Option.map_some, Option.some_inj]
    at hissued
  rw [hrun.challenge, ← hissued, challengeNumber_inj] at hsame
  have hpos := hrun.valid hvalid
  omega

theorem challengeRequests_append (earlier later : List AuthCall) :
    challengeRequests (earlier ++ later) = challengeRequests earlier + challengeRequests later :=
  List.countP_append ..

/-- Challenges are not replayable in a run exactly if it asks for no more than 256. -/
theorem challenges_fresh_iff (calls : List AuthCall) :
    NotReplayable calls ↔ challengeRequests calls ≤ 256 := by
  constructor
  · intro h
    exact (issued_nodup_iff calls).mp h.distinct
  · intro hfew
    refine ⟨(issued_nodup_iff calls).mpr hfew, ?_⟩
    rintro earlier call later rfl proof haccepted i challenge hissued hproof
    rw [challengeRequests_append] at hfew
    exact accepted_fresh (Nat.le_of_add_right_le hfew) haccepted hissued hproof

/-- A challenge asked for 257 times: the last one is the first again. -/
theorem challenge_comes_again :
    challengeRequests (List.replicate 257 (.request [0x29, 0x05] 256)) ≤ 2 ^ 32 ∧
      ¬NotReplayable (List.replicate 257 (.request [0x29, 0x05] 256)) := by
  have hcount : challengeRequests (List.replicate 257 (.request [0x29, 0x05] 256)) = 257 := by
    rw [challengeRequests, List.countP_replicate]
    rfl
  rw [hcount]
  refine ⟨by decide, fun h => ?_⟩
  have hfew := (issued_nodup_iff _).mp h.distinct
  rw [hcount] at hfew
  exact absurd hfew (by decide)

end UdsIsoTp.App
