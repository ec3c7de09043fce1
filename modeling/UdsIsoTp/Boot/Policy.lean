import UdsIsoTp.Boot.ActiveSlot
import UdsIsoTp.Boot.HeaderCrc
import UdsIsoTp.Crypto.Cmac

/-!
# Integrity policies

The part of `boot_verify.c` that the bootloader leaves alone: an image is checked under a policy
that the application picks, by its checksum, its digest or its signature, and by the digest where it
has picked none. Nothing is accepted under the signature policy without a registered verifier, and
what is accepted there is an image that was signed (`signature_policy_authentic`).
-/

namespace UdsIsoTp.Boot

open Digest

/-- `BootSignatureVerifierFn` -/
abbrev BootSignatureVerifier := List UInt8 → List UInt8 → Bool

/-- A policy's check is told the registered verifier; a null pointer is `none`. -/
structure BootIntegrityPolicy where
  name : String
  verify : Option
    (Option BootSignatureVerifier → Option FirmwareMetadata → Option (List UInt8) → Bool)

/-- The variables of `boot_verify.c`. -/
structure BootVerify where
  sigVerifier : Option BootSignatureVerifier
  activePolicy : Option BootIntegrityPolicy

/-- The statics as the program starts: no policy chosen, no verifier. -/
def bootVerifyStart : BootVerify := ⟨none, none⟩

/-! ## Checks -/

/-- `constant_time_equal`: looks at every byte before it decides. -/
def constantTimeEqual (a b : List UInt8) (len : Nat) : Bool :=
  (List.range len).foldl (fun diff i => diff ||| (a.getD i 0 ^^^ b.getD i 0)) 0 == 0

/-- What the three checks have in common: a header, and an image that is not empty. -/
def verifyPresent (check : FirmwareMetadata → List UInt8 → Bool) (hdr : Option FirmwareMetadata)
    (image : Option (List UInt8)) : Bool :=
  match hdr, image with
  | some hdr, some image => if image.length = 0 then false else check hdr image
  | _, _ => false

/-- `verify_crc32_impl` -/
def verifyCrc32Impl (_ : Option BootSignatureVerifier) : Option FirmwareMetadata →
    Option (List UInt8) → Bool :=
  verifyPresent fun hdr image => bootCalcCrc32 image == hdr.crc32

/-- `verify_sha256_impl` -/
def verifySha256Impl (_ : Option BootSignatureVerifier) : Option FirmwareMetadata →
    Option (List UInt8) → Bool :=
  verifyPresent fun hdr image => constantTimeEqual (sha256Hash image) hdr.sha256 32

/-- `verify_signature_impl`: the hash must be right too, and without a verifier nothing is. -/
def verifySignatureImpl (sigVerifier : Option BootSignatureVerifier) : Option FirmwareMetadata →
    Option (List UInt8) → Bool :=
  verifyPresent fun hdr image =>
    if ¬verifySha256Impl sigVerifier (some hdr) (some image) then false
    else
      match sigVerifier with
      | none => false
      | some verifier => verifier (bootManifestDigest hdr) hdr.signature

/-! ## Policies -/

/-- `boot_verify_policy_crc32` -/
def bootVerifyPolicyCrc32 : BootIntegrityPolicy :=
  ⟨"CRC32 (Accidental corruption detection only - no security)", some verifyCrc32Impl⟩

/-- `boot_verify_policy_sha256` -/
def bootVerifyPolicySha256 : BootIntegrityPolicy :=
  ⟨"SHA-256 (Cryptographic integrity check)", some verifySha256Impl⟩

/-- `boot_verify_policy_signature` -/
def bootVerifyPolicySignature : BootIntegrityPolicy :=
  ⟨"Cryptographic Signature (Authenticity and integrity)", some verifySignatureImpl⟩

/-- Chooses the policy; none brings the default back. -/
def bootVerifySetPolicy (s : BootVerify) (policy : Option BootIntegrityPolicy) : BootVerify :=
  { s with activePolicy := policy }

/-- The policy chosen, SHA-256 when none is. -/
def bootVerifyGetPolicy (s : BootVerify) : BootIntegrityPolicy :=
  s.activePolicy.getD bootVerifyPolicySha256

/-- Chooses the verifier. -/
def bootVerifySetSignatureVerifier (s : BootVerify) (verifier : Option BootSignatureVerifier) :
    BootVerify :=
  { s with sigVerifier := verifier }

/-- Verifies an image by the policy that is chosen. -/
def bootVerifyImage (s : BootVerify) (hdr : Option FirmwareMetadata)
    (image : Option (List UInt8)) : Bool :=
  match (bootVerifyGetPolicy s).verify with
  | none => false
  | some verify => verify s.sigVerifier hdr image

/-- What the application sets up. -/
inductive PolicyCall where
  | setPolicy (policy : Option BootIntegrityPolicy)
  | setSignatureVerifier (verifier : Option BootSignatureVerifier)

/-- One call. -/
def policyStep (s : BootVerify) : PolicyCall → BootVerify
  | .setPolicy policy => bootVerifySetPolicy s policy
  | .setSignatureVerifier verifier => bootVerifySetSignatureVerifier s verifier

/-! ## What a check accepts -/

section Accepted

variable {hdr : FirmwareMetadata} {image : List UInt8} {sigVerifier : Option BootSignatureVerifier}

theorem length_sha256Hash (data : List UInt8) : (sha256Hash data).length = 32 := by
  unfold sha256Hash Sha256.final
  simp only [List.length_append]
  rfl

/-- Every byte is compared, and every difference shows. -/
theorem constantTimeEqual_iff {a b : List UInt8} {len : Nat} (ha : a.length = len)
    (hb : b.length = len) : constantTimeEqual a b len = true ↔ a = b := by
  unfold constantTimeEqual
  rw [beq_iff_eq, Crypto.foldl_or_eq_zero]
  constructor
  · rintro ⟨-, hsame⟩
    refine List.ext_getElem (ha.trans hb.symm) fun i hi hi' => ?_
    have hbyte := UInt8.xor_eq_zero_iff.mp (hsame i (List.mem_range.mpr (ha ▸ hi)))
    rwa [List.getD_eq_getElem _ _ hi, List.getD_eq_getElem _ _ hi'] at hbyte
  · rintro rfl
    exact ⟨rfl, fun i _ => UInt8.xor_self⟩

theorem verifySha256Impl_iff (hsized : hdr.Sized) :
    verifySha256Impl sigVerifier (some hdr) (some image) = true ↔
      image ≠ [] ∧ sha256Hash image = hdr.sha256 := by
  unfold verifySha256Impl verifyPresent
  dsimp only
  split
  next hempty =>
    exact iff_of_false Bool.false_ne_true fun h => h.1 (List.length_eq_zero_iff.mp hempty)
  next hsome =>
    rw [constantTimeEqual_iff (length_sha256Hash image) hsized.sha256]
    exact ⟨fun h => ⟨fun hempty => hsome (congrArg List.length hempty), h⟩, fun h => h.2⟩

theorem verifySignatureImpl_iff (hsized : hdr.Sized) :
    verifySignatureImpl sigVerifier (some hdr) (some image) = true ↔
      (image ≠ [] ∧ sha256Hash image = hdr.sha256) ∧ ∃ verifier, sigVerifier = some verifier ∧
        verifier (bootManifestDigest hdr) hdr.signature = true := by
  unfold verifySignatureImpl verifyPresent
  dsimp only
  split
  next hempty =>
    exact iff_of_false Bool.false_ne_true fun h => h.1.1 (List.length_eq_zero_iff.mp hempty)
  next =>
    split
    next hdigest =>
      exact iff_of_false Bool.false_ne_true fun h =>
        hdigest ((verifySha256Impl_iff hsized).mpr h.1)
    next hdigest =>
      have hsame := (verifySha256Impl_iff hsized).mp (not_not.mp hdigest)
      -- without a verifier the policy accepts nothing
      cases sigVerifier with
      | none =>
        refine iff_of_false Bool.false_ne_true ?_
        rintro ⟨-, verifier, hnone, -⟩
        cases hnone
      | some verifier =>
        refine ⟨fun h => ⟨hsame, verifier, rfl, h⟩, ?_⟩
        rintro ⟨-, verifier', hregistered, h⟩
        cases hregistered
        exact h

end Accepted

/-! ## Runs -/

/-- The verifier in force is one that was registered. -/
theorem run_registered (calls : List PolicyCall) {verifier : BootSignatureVerifier}
    (h : (run policyStep bootVerifyStart calls).sigVerifier = some verifier) :
    .setSignatureVerifier (some verifier) ∈ calls := by
  induction calls using List.reverseRecOn with
  | nil => cases h
  | append_singleton calls call ih =>
    rw [run_concat] at h
    cases call with
    | setPolicy policy => exact List.mem_append_left _ (ih h)
    | setSignatureVerifier registered =>
      obtain rfl : registered = some verifier := h
      exact List.mem_append_right _ (List.mem_singleton_self _)

/-- **Authentic images.** Whatever was set up before, while the signature policy is in force an
image is accepted only if it is one that was signed, unless two messages at hand collide. -/
theorem signature_policy_authentic (calls : List PolicyCall) {signed : SignedImage → Prop}
    (hunforged : ∀ verifier, .setSignatureVerifier (some verifier) ∈ calls →
      Unforged sha256Hash verifier (Manifests signed))
    (hpolicy : (run policyStep bootVerifyStart calls).activePolicy = some bootVerifyPolicySignature)
    {hdr : FirmwareMetadata} (hsized : hdr.Sized) {image : List UInt8}
    (haccepted : bootVerifyImage (run policyStep bootVerifyStart calls) (some hdr) (some image)
      = true) :
    ∃ m, signed m ∧ (SameManifest hdr m.header ∧ image = m.payload ∨
      Collides sha256Hash (manifest hdr) (manifest m.header) ∨
      Collides sha256Hash image m.payload) := by
  unfold bootVerifyImage bootVerifyGetPolicy at haccepted
  rw [hpolicy] at haccepted
  obtain ⟨⟨-, hdigest⟩, verifier, hregistered, hsigned⟩ :=
    (verifySignatureImpl_iff hsized).mp haccepted
  rw [bootManifestDigest_eq] at hsigned
  obtain ⟨message, ⟨m, hm, rfl⟩, hsame | hcollides⟩ :=
    (hunforged verifier (run_registered calls hregistered)).message hsigned
  · have hfields := manifest_inj hsame
    rcases eq_or_collides (hdigest.trans (hfields.sha256.trans m.hashed)) with heq | hcollides
    · exact ⟨m, hm, .inl ⟨hfields, heq⟩⟩
    · exact ⟨m, hm, .inr (.inr hcollides)⟩
  · exact ⟨m, hm, .inr (.inl hcollides)⟩

/-- The checksum policy is left for the signature policy. -/
def policyCalls : List PolicyCall :=
  [.setPolicy (some bootVerifyPolicyCrc32), .setSignatureVerifier (some takesFive),
    .setPolicy (some bootVerifyPolicySignature)]

set_option maxRecDepth 20000 in
theorem signature_policy_authentic_five :
    ∃ m, m = signedFive ∧ (SameManifest signedFive.header m.header ∧
        signedFive.payload = m.payload ∨
      Collides sha256Hash (manifest signedFive.header) (manifest m.header) ∨
      Collides sha256Hash signedFive.payload m.payload) := by
  have hunforged : ∀ verifier, .setSignatureVerifier (some verifier) ∈ policyCalls →
      Unforged sha256Hash verifier (Manifests (· = signedFive)) := by
    intro verifier hmem digest signature haccepted
    obtain rfl : verifier = takesFive := by simpa [policyCalls] using hmem
    exact ⟨_, ⟨signedFive, rfl, rfl⟩, (beq_iff_eq.mp haccepted).symm⟩
  exact signature_policy_authentic policyCalls hunforged rfl ⟨rfl, rfl, rfl⟩
    (by decide +kernel : bootVerifyImage (run policyStep bootVerifyStart policyCalls)
      (some signedFive.header) (some signedFive.payload) = true)

end UdsIsoTp.Boot
