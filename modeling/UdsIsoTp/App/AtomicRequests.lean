import UdsIsoTp.App.AuthApp
import UdsIsoTp.App.IoControlApp
import UdsIsoTp.App.LinkControlApp

/-!
# Requests that are refused

The handlers for actuators, for the link and for the proof of the tester's key look for the room
for their response when they have carried the request out, so that `UDS_RESULT_RESPONSE_TOO_LONG`
says of a request that was carried out that it was not. `handle_auth_challenge` looks first.
-/

namespace UdsIsoTp.App

open UdsIsoTp.Crypto UdsIsoTp.Uds

/-- The request has the proof of the challenge that was handed out. -/
structure ProofAccepted (app : UdsAuthApp) (request : List UInt8) : Prop where
  length : 2 + 16 ≤ request.length
  challenged : app.challengeValid = true
  proof : udsSecurityCmacDeriveKey authMasterKey app.activeChallenge = some (blockAt request 2)

section Proof

variable {app : UdsAuthApp} {request : List UInt8} {capacity : UInt16}

/-- A refusal of a proof has left the tester as it was exactly if there is room for the response
to an accepted one. -/
theorem handleAuthVerifyProof_atomic_iff (subfunction : UInt8) :
    Atomic app (handleAuthVerifyProof app subfunction request capacity)
      ↔ (ProofAccepted app request → 3 ≤ capacity) := by
  unfold handleAuthVerifyProof
  split
  next hunready =>
    refine iff_of_true (atomic_unchanged rfl) fun h => ?_
    rcases hunready with hshort | hnone
    · exact absurd h.length (Nat.not_le.mpr hshort)
    · exact absurd h.challenged hnone
  next hready =>
    rw [not_or, Nat.not_lt, not_not] at hready
    rw [udsSecurityCmacDeriveKey_eq]
    dsimp only
    split
    next hwrong =>
      have hother : UdsCallbackResult.invalidKey ∉ refusals := by decide
      refine iff_of_true (fun h => absurd h hother) fun h => ?_
      rw [udsSecurityCmacConstantTimeEqual_iff] at hwrong
      have hproof := h.proof
      rw [udsSecurityCmacDeriveKey_eq] at hproof
      exact absurd (Option.some.inj hproof).symm hwrong
    next hright =>
      have hproof := udsSecurityCmacConstantTimeEqual_iff.mp (not_not.mp hright)
      have haccepted : ProofAccepted app request :=
        ⟨hready.1, hready.2, (udsSecurityCmacDeriveKey_eq _ _).trans (congrArg some hproof.symm)⟩
      split
      next hroom =>
        have hrefusal : UdsCallbackResult.responseTooLong ∈ refusals := by decide
        refine iff_of_false (fun h => ?_) fun h => UInt16.not_le.mpr hroom (h haccepted)
        -- the challenge was valid, and has been used up
        have hused := congrArg UdsAuthApp.challengeValid (h hrefusal)
        exact absurd (hused.trans hready.2) Bool.false_ne_true
      next hroom =>
        have hother : UdsCallbackResult.ok ∉ refusals := by decide
        exact iff_of_true (fun h => absurd h hother) fun _ => UInt16.not_lt.mp hroom

theorem udsAuthAppServiceHandler_proof
    (hsub : byteAt request 1 &&& 0x7F = authSubfunctionVerifyProofUnidirectional) :
    udsAuthAppServiceHandler app request capacity
      = handleAuthVerifyProof app authSubfunctionVerifyProofUnidirectional request capacity := by
  have hlength : ¬request.length < 2 := by
    intro hshort
    have hmissing : byteAt request 1 = 0 := List.getD_eq_default _ _ (Nat.le_of_lt_succ hshort)
    rw [hmissing] at hsub
    exact absurd hsub (by decide)
  unfold udsAuthAppServiceHandler
  rw [if_neg hlength, hsub]
  rfl

end Proof

/-- What the tester is told was refused has changed nothing, exactly if there was room for the
response or nothing would have changed with it. -/
theorem requests_atomic_iff (actuators : UdsIoControlApp) (link : UdsLinkControlApp)
    (tester : UdsAuthApp) (did : UInt16) (parameter request : List UInt8) (capacity : UInt16) :
    (Atomic actuators (udsIoControlAppHandler actuators did parameter capacity)
      ↔ IoRoom actuators did parameter capacity) ∧
    (Atomic link (udsLinkControlAppHandler link request capacity)
      ↔ LinkRoom link request capacity) ∧
    (byteAt request 1 &&& 0x7F = authSubfunctionVerifyProofUnidirectional →
      (Atomic tester (udsAuthAppServiceHandler tester request capacity)
        ↔ (ProofAccepted tester request → 3 ≤ capacity))) := by
  refine ⟨udsIoControlAppHandler_atomic_iff did, udsLinkControlAppHandler_atomic_iff, ?_⟩
  intro hsub
  rw [udsAuthAppServiceHandler_proof hsub]
  exact handleAuthVerifyProof_atomic_iff _

/-- The door is moved to 80 for a tester who is told that nothing was. -/
theorem requests_not_atomic :
    ¬((∀ app did parameter capacity,
        Atomic app (udsIoControlAppHandler app did parameter capacity)) ∧
      (∀ app request capacity, Atomic app (udsLinkControlAppHandler app request capacity)) ∧
      (∀ app request capacity,
        byteAt request 1 &&& 0x7F = authSubfunctionVerifyProofUnidirectional →
        Atomic app (udsAuthAppServiceHandler app request capacity))) := by
  rintro ⟨hio, -, -⟩
  have hsame := hio udsIoControlAppInit 0x9B00 [0x03, 80] 1 (by decide)
  exact absurd (congrArg UdsIoControlApp.airInletPos hsame) (by decide)

end UdsIsoTp.App
