import UdsIsoTp.Crypto.Cmac
import UdsIsoTp.Uds.Types

/-!
# Seeds and keys

`uds_security_app.c`: the two callbacks of SecurityAccess. A seed is drawn for a level and kept
until a key for that level is judged; a key is right if it is the one derived from the kept seed,
for level 1 by a mask, for level 2 by the provider of the integrator or the tag under the
provisioned key.

The variables of the file are `UdsSecurityApp`. Entropy and provider are calls to the outside, on
a world `η`; a source of entropy that fails writes nothing. `udsSecurityAppSeed_cases` and
`udsSecurityAppKey_cases` say all that the callbacks do to the kept seeds.
-/

namespace UdsIsoTp.App

open UdsIsoTp.Crypto UdsIsoTp.Uds

variable {η : Type}

/-- The level that is unlocked by a masked seed. -/
def securityLevel1 : UInt8 := 1
/-- The level that is unlocked by a CMAC. -/
def securityLevel2 : UInt8 := 2

/-- `UDS_SECURITY_APP_LEVEL1_SEED_LEN` bytes; so is a key. -/
abbrev Level1Seed := List.Vector UInt8 4

/-- A source of random bytes: those that were asked for, if it has them. -/
abbrev UdsEntropySource (η : Type) := η → (length : Nat) → Option (List.Vector UInt8 length) × η

/-- `UdsSecurityKeyProviderFn` -/
abbrev UdsSecurityKeyProvider (η : Type) := η → UInt8 → Block → Option Block × η

/-- The statics of `uds_security_app.c`. -/
structure UdsSecurityApp (η : Type) where
  provisionedMasterKey : Block
  hasProvisionedKey : Bool
  customKeyProvider : Option (UdsSecurityKeyProvider η)
  customEntropySource : Option (UdsEntropySource η)
  level1ActiveSeed : Level1Seed
  level1SeedValid : Bool
  level2ActiveSeed : Block
  level2SeedValid : Bool

/-- No key, no provider and no seed. -/
def udsSecurityAppInit (app : UdsSecurityApp η) : UdsSecurityApp η :=
  { app with
    level1SeedValid := false
    level2SeedValid := false
    hasProvisionedKey := false
    customKeyProvider := none
    customEntropySource := none
    level1ActiveSeed := .replicate 4 0
    level2ActiveSeed := zeroBlock }

/-- Whether a key can be computed at all. -/
def udsSecurityAppIsProvisioned (app : UdsSecurityApp η) : Bool :=
  app.hasProvisionedKey || app.customKeyProvider.isSome

/-- `csprng_generate_bytes`; `trng` is `uds_platform_trng_get_random`. -/
def csprngGenerateBytes (trng : UdsEntropySource η) (app : UdsSecurityApp η) (w : η)
    (length : Nat) : Option (List.Vector UInt8 length) × η :=
  match app.customEntropySource with
  | none => trng w length
  | some source =>
    match source w length with
    | (some bytes, w) => (some bytes, w)
    | (none, w) => trng w length

/-- The mask of level 1. -/
def level1Mask : Level1Seed := ⟨[0xA5, 0x5A, 0xC3, 0x3C], rfl⟩

/-- The seed under the mask. -/
def udsSecurityAppCalculateKeyLevel1 (seed : Level1Seed) : Level1Seed :=
  .ofFn fun i => seed.get i ^^^ level1Mask.get i

/-- The provider's key, or else the CMAC under the provisioned key. -/
def udsSecurityAppCalculateKeyLevel2 (app : UdsSecurityApp η) (w : η) (seed : Block) :
    Option Block × η :=
  match app.customKeyProvider with
  | some provider => provider w securityLevel2 seed
  | none =>
    if ¬app.hasProvisionedKey then (none, w)
    else (udsSecurityCmacDeriveKey app.provisionedMasterKey seed, w)

/-- A seed of level 1 is not zero. -/
def nonzeroLevel1 (seed : Level1Seed) : Level1Seed :=
  if seed = .replicate 4 0 then .cons 0xA5 (.cons 0x5A seed.tail.tail) else seed

/-- A seed of zeros gets its first byte set. -/
def nonzeroLevel2 (seed : Block) : Block :=
  if seed = zeroBlock then .cons 0xA5 seed.tail else seed

/-- The callback that hands out a seed. -/
def udsSecurityAppSeed (trng : UdsEntropySource η) (app : UdsSecurityApp η) (w : η)
    (level : UInt8) (capacity : UInt16) : Reply (η × UdsSecurityApp η) :=
  if level = securityLevel1 then
    if capacity < 4 then ⟨.responseTooLong, [], 0, w, app⟩
    else
      match csprngGenerateBytes trng app w 4 with
      | (none, w) => ⟨.error, [], 0, w, app⟩
      | (some bytes, w) =>
        let seed := nonzeroLevel1 bytes
        ⟨.ok, seed.toList, 4, w, { app with level1ActiveSeed := seed, level1SeedValid := true }⟩
  else if level = securityLevel2 then
    if ¬udsSecurityAppIsProvisioned app then ⟨.denied, [], 0, w, app⟩
    else if capacity < 16 then ⟨.responseTooLong, [], 0, w, app⟩
    else
      match csprngGenerateBytes trng app w 16 with
      | (none, w) => ⟨.error, [], 0, w, app⟩
      | (some bytes, w) =>
        let seed := nonzeroLevel2 bytes
        ⟨.ok, seed.toList, 16, w, { app with level2ActiveSeed := seed, level2SeedValid := true }⟩
  else ⟨.outOfRange, [], 0, w, app⟩

/-- `constant_time_equal_4` -/
def constantTimeEqual4 (left right : Level1Seed) : Bool :=
  (List.finRange 4).foldl
    (fun difference i => difference ||| (left.get i ^^^ right.get i)) 0 == 0

/-- The bytes of a key, as far as the array they are read into goes. -/
def keyAt (key : List UInt8) (n : Nat) : List.Vector UInt8 n := .ofFn fun i => key.getD i 0

/-- The callback that judges a key. -/
def udsSecurityAppKey (app : UdsSecurityApp η) (w : η) (level : UInt8) (key : List UInt8) :
    UdsCallbackResult × η × UdsSecurityApp η :=
  if level = securityLevel1 then
    -- the seed is used up by whatever comes of this key
    let used := { app with level1SeedValid := false }
    if key.length ≠ 4 ∨ ¬app.level1SeedValid then (.invalidKey, w, used)
    else
      let expectedKey := udsSecurityAppCalculateKeyLevel1 app.level1ActiveSeed
      if ¬constantTimeEqual4 (keyAt key 4) expectedKey then (.invalidKey, w, used)
      else (.ok, w, used)
  else if level = securityLevel2 then
    let used := { app with level2SeedValid := false }
    if key.length ≠ 16 ∨ ¬app.level2SeedValid then (.invalidKey, w, used)
    else
      match udsSecurityAppCalculateKeyLevel2 app w app.level2ActiveSeed with
      | (none, w) => (.error, w, used)
      | (some expectedKey, w) =>
        if ¬udsSecurityCmacConstantTimeEqual (keyAt key 16) expectedKey then (.invalidKey, w, used)
        else (.ok, w, used)
  else (.outOfRange, w, app)

/-! ## The kept seeds -/

/-- The seed of the level. -/
def UdsSecurityApp.seed (app : UdsSecurityApp η) (level : UInt8) : List UInt8 :=
  if level = securityLevel1 then app.level1ActiveSeed.toList
  else if level = securityLevel2 then app.level2ActiveSeed.toList
  else []

/-- Whether the seed of the level still waits for a key. -/
def UdsSecurityApp.seedValid (app : UdsSecurityApp η) (level : UInt8) : Bool :=
  if level = securityLevel1 then app.level1SeedValid
  else if level = securityLevel2 then app.level2SeedValid
  else false

/-- The key is the one that the level derives from the seed. -/
inductive LevelKey (app : UdsSecurityApp η) (w : η) : UInt8 → List UInt8 → List UInt8 → Prop
  | level1 (seed : Level1Seed) :
      LevelKey app w securityLevel1 seed.toList (udsSecurityAppCalculateKeyLevel1 seed).toList
  | level2 (seed key : Block)
      (derived : (udsSecurityAppCalculateKeyLevel2 app w seed).1 = some key) :
      LevelKey app w securityLevel2 seed.toList key.toList

/-- Of the kept seeds only that of the level is another one. -/
structure OnlyLevel (level : UInt8) (app app' : UdsSecurityApp η) : Prop where
  seed : ∀ level', level' ≠ level → app'.seed level' = app.seed level'
  seedValid : ∀ level', level' ≠ level → app'.seedValid level' = app.seedValid level'

theorem onlyLevel1 (app : UdsSecurityApp η) (seed : Level1Seed) (valid : Bool) :
    OnlyLevel securityLevel1 app
      { app with level1ActiveSeed := seed, level1SeedValid := valid } := by
  constructor <;> intro level' hlevel
  · unfold UdsSecurityApp.seed
    rw [if_neg hlevel, if_neg hlevel]
  · unfold UdsSecurityApp.seedValid
    rw [if_neg hlevel, if_neg hlevel]

theorem onlyLevel2 (app : UdsSecurityApp η) (seed : Block) (valid : Bool) :
    OnlyLevel securityLevel2 app
      { app with level2ActiveSeed := seed, level2SeedValid := valid } := by
  constructor <;> intro level' hlevel
  · unfold UdsSecurityApp.seed
    rw [if_neg hlevel, if_neg hlevel]
  · unfold UdsSecurityApp.seedValid
    rw [if_neg hlevel, if_neg hlevel]

/-! ## The seed callback -/

theorem exists_ne_zero {n : Nat} {seed : List.Vector UInt8 n} (h : seed ≠ .replicate n 0) :
    ∃ b ∈ seed.toList, b ≠ 0 := by
  by_contra hzero
  refine h (List.Vector.toList_injective ?_)
  show seed.toList = List.replicate n 0
  refine List.eq_replicate_iff.mpr ⟨seed.toList_length, fun b hb => ?_⟩
  by_contra hne
  exact hzero ⟨b, hb, hne⟩

theorem nonzeroLevel1_ne (seed : Level1Seed) : ∃ b ∈ (nonzeroLevel1 seed).toList, b ≠ 0 := by
  unfold nonzeroLevel1
  split
  next hzero =>
    subst hzero
    exact ⟨0xA5, by decide, by decide⟩
  next hne => exact exists_ne_zero hne

theorem nonzeroLevel2_ne (seed : Block) : ∃ b ∈ (nonzeroLevel2 seed).toList, b ≠ 0 := by
  unfold nonzeroLevel2
  split
  next hzero =>
    subst hzero
    exact ⟨0xA5, by decide, by decide⟩
  next hne => exact exists_ne_zero hne

/-- A seed has been drawn and kept, and it fits the room there was for it. -/
structure SeedKept (level : UInt8) (capacity : UInt16) (app : UdsSecurityApp η)
    (reply : Reply (η × UdsSecurityApp η)) : Prop where
  known : level = securityLevel1 ∨ level = securityLevel2
  seed : reply.world.2.seed level = reply.data
  seedValid : reply.world.2.seedValid level = true
  others : OnlyLevel level app reply.world.2
  length : reply.length.toNat = reply.data.length
  fits : reply.length ≤ capacity
  short : reply.data.length ≤ 16
  nonzero : ∃ b ∈ reply.data, b ≠ 0

theorem udsSecurityAppSeed_cases (trng : UdsEntropySource η) (app : UdsSecurityApp η) (w : η)
    (level : UInt8) (capacity : UInt16) :
    ((udsSecurityAppSeed trng app w level capacity).result ≠ .ok ∧
        (udsSecurityAppSeed trng app w level capacity).world.2 = app) ∨
      ((udsSecurityAppSeed trng app w level capacity).result = .ok ∧
        SeedKept level capacity app (udsSecurityAppSeed trng app w level capacity)) := by
  unfold udsSecurityAppSeed
  split
  next hlevel =>
    subst hlevel
    split
    next => exact .inl ⟨by simp, rfl⟩
    next hroom =>
      split
      next => exact .inl ⟨by simp, rfl⟩
      next bytes w' hdrawn =>
        refine .inr ⟨rfl, .inl rfl, rfl, rfl, onlyLevel1 .., ?_, UInt16.not_lt.mp hroom, ?_,
          nonzeroLevel1_ne bytes⟩
        · exact (List.Vector.toList_length (nonzeroLevel1 bytes)).symm
        · exact (List.Vector.toList_length (nonzeroLevel1 bytes)).trans_le (by decide)
  next =>
    split
    next hlevel =>
      subst hlevel
      split
      next => exact .inl ⟨by simp, rfl⟩
      next =>
        split
        next => exact .inl ⟨by simp, rfl⟩
        next hroom =>
          split
          next => exact .inl ⟨by simp, rfl⟩
          next bytes w' hdrawn =>
            refine .inr ⟨rfl, .inr rfl, rfl, rfl, onlyLevel2 .., ?_, UInt16.not_lt.mp hroom, ?_,
              nonzeroLevel2_ne bytes⟩
            · exact (List.Vector.toList_length (nonzeroLevel2 bytes)).symm
            · exact (List.Vector.toList_length (nonzeroLevel2 bytes)).le
    next => exact .inl ⟨by simp, rfl⟩

/-! ## The key callback -/

theorem constantTimeEqual4_iff {left right : Level1Seed} :
    constantTimeEqual4 left right = true ↔ left = right :=
  beq_iff_eq.trans difference_eq_zero_iff

theorem keyAt_toList {key : List UInt8} {n : Nat} (h : key.length = n) :
    (keyAt key n).toList = key := by
  subst h
  refine List.ext_getElem (List.Vector.toList_length _) fun i hi hi' => ?_
  simp only [keyAt, List.Vector.toList_ofFn, List.getElem_ofFn]
  exact List.getD_eq_getElem _ _ hi'

/-- The seed of the level is used up, and a key that is right is the one derived from it. -/
structure SeedUsed (app : UdsSecurityApp η) (w : η) (level : UInt8) (key : List UInt8)
    (verdict : UdsCallbackResult × η × UdsSecurityApp η) : Prop where
  seedValid : verdict.2.2.seedValid level = false
  others : OnlyLevel level app verdict.2.2
  right : verdict.1 = .ok → app.seedValid level = true ∧ LevelKey app w level (app.seed level) key

theorem udsSecurityAppKey_cases (app : UdsSecurityApp η) (w : η) (level : UInt8)
    (key : List UInt8) :
    (level ≠ securityLevel1 ∧ level ≠ securityLevel2 ∧
        udsSecurityAppKey app w level key = (.outOfRange, w, app)) ∨
      SeedUsed app w level key (udsSecurityAppKey app w level key) := by
  unfold udsSecurityAppKey
  split
  next hlevel =>
    subst hlevel
    right
    -- The seed is used up before the key is looked at, whatever the answer.
    have hused := onlyLevel1 app app.level1ActiveSeed false
    dsimp only
    split
    next => exact ⟨rfl, hused, fun hok => UdsCallbackResult.noConfusion hok⟩
    next hkept =>
      obtain ⟨hlength, hvalid⟩ := not_or.mp hkept
      split
      next => exact ⟨rfl, hused, fun hok => UdsCallbackResult.noConfusion hok⟩
      next hequal =>
        refine ⟨rfl, hused, fun _ => ⟨not_not.mp hvalid, ?_⟩⟩
        have hequal := constantTimeEqual4_iff.mp (not_not.mp hequal)
        rw [← keyAt_toList (not_not.mp hlength : key.length = 4), hequal]
        exact .level1 app.level1ActiveSeed
  next hnot1 =>
    split
    next hlevel =>
      subst hlevel
      right
      have hused := onlyLevel2 app app.level2ActiveSeed false
      dsimp only
      split
      next => exact ⟨rfl, hused, fun hok => UdsCallbackResult.noConfusion hok⟩
      next hkept =>
        obtain ⟨hlength, hvalid⟩ := not_or.mp hkept
        split
        next => exact ⟨rfl, hused, fun hok => UdsCallbackResult.noConfusion hok⟩
        next expectedKey w' hderived =>
          split
          next => exact ⟨rfl, hused, fun hok => UdsCallbackResult.noConfusion hok⟩
          next hequal =>
            refine ⟨rfl, hused, fun _ => ⟨not_not.mp hvalid, ?_⟩⟩
            have hequal := udsSecurityCmacConstantTimeEqual_iff.mp (not_not.mp hequal)
            rw [← keyAt_toList (not_not.mp hlength : key.length = 16), hequal]
            exact .level2 app.level2ActiveSeed expectedKey (congrArg Prod.fst hderived)
    next hnot2 => exact .inl ⟨hnot1, hnot2, rfl⟩

end UdsIsoTp.App
