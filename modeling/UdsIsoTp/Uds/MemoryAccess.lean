import UdsIsoTp.Uds.Memory

/-!
# What the memory services touch

An access is made in a region that `validateMemoryAccess` grants (`Granted`), it reads or writes
its range and nothing else, and without one nothing is touched (`access_permitted`). Two checks of
room are weaker than they look. The one of a read is made on the low 16 bits of the length
(`read_fits_iff`), and the one of a write comes after the bytes have been written
(`write_atomic_iff`).
-/

namespace UdsIsoTp.Uds

variable {ω : Type}

/-- The whole range lies in the region. -/
structure UdsMemoryRegion.Holds (reg : UdsMemoryRegion ω) (address size : UInt32) : Prop where
  above : reg.startAddress.toNat ≤ address.toNat
  below : address.toNat + size.toNat ≤ reg.startAddress.toNat + reg.size.toNat

/-- The range may be touched, in this region. -/
structure Granted (config : UdsMemoryConfig ω) (sid : UInt8) (maxSize flagReq flagSec : UInt32)
    (w : Mapped ω) (address size : UInt32) (reg : UdsMemoryRegion ω) : Prop where
  /-- No region before this one in the table holds the range. -/
  first : ∃ before after, config.regions = some (before ++ reg :: after) ∧
    ∀ other ∈ before, ¬other.Holds address size
  holds : reg.Holds address size
  noWrap : address.toNat + size.toNat ≤ 2 ^ 32
  flag : reg.flags &&& flagReq ≠ 0
  programming : reg.flags &&& MemoryFlag.progOnly ≠ 0 →
    ∃ server, config.server = some server ∧ server.session = sessionProgramming
  unlocked : reg.flags &&& flagSec ≠ 0 →
    ∃ server, config.server = some server ∧ server.securityGate.activeLevel ≠ 0
  sizeLimit : maxSize = 0 ∨ size ≤ maxSize
  condition : ∀ check, config.conditionCheck = some check → (check w sid address size).1 = true

/-! ## Granting -/

theorem findRegion_some {config : UdsMemoryConfig ω} {address size : UInt32}
    {reg : UdsMemoryRegion ω} (h : findRegion config address size = some reg) :
    (∃ before after, config.regions = some (before ++ reg :: after) ∧
        ∀ other ∈ before, ¬other.Holds address size) ∧
      reg.Holds address size ∧ address.toNat + size.toNat ≤ 2 ^ 32 := by
  unfold findRegion at h
  split at h
  next => exact absurd h (by simp)
  next regions hregions =>
    split at h
    next => exact absurd h (by simp)
    next =>
      dsimp only at h
      split at h
      next => exact absurd h (by simp)
      next hwrap =>
        obtain ⟨hreg, before, after, rfl, hbefore⟩ := List.find?_eq_some_iff_append.mp h
        simp only [Bool.and_eq_true, decide_eq_true_eq] at hreg
        refine ⟨⟨before, after, hregions, fun other hother hholds => ?_⟩,
          ⟨UInt32.le_iff_toNat_le.mp hreg.1, hreg.2⟩, Nat.not_lt.mp hwrap⟩
        -- a region that held the range would have been found
        have hpassed := hbefore other hother
        rw [decide_eq_true (UInt32.le_iff_toNat_le.mpr hholds.above),
          decide_eq_true hholds.below] at hpassed
        exact absurd hpassed (by decide)

theorem udsServerSession_programming {server : Option (UdsServer ω)}
    (h : udsServerSession server = sessionProgramming) :
    ∃ s, server = some s ∧ s.session = sessionProgramming := by
  cases server with
  | none => exact absurd h (show sessionDefault ≠ sessionProgramming by decide)
  | some s => exact ⟨s, rfl, h⟩

theorem udsServerSecurityLevel_ne {server : Option (UdsServer ω)}
    (h : udsServerSecurityLevel server ≠ 0) :
    ∃ s, server = some s ∧ s.securityGate.activeLevel ≠ 0 := by
  cases server with
  | none => exact absurd rfl h
  | some s => exact ⟨s, rfl, h⟩

section Validate

variable {mgr : Option (UdsMemoryManager ω)} {sid : UInt8}
  {address size maxSize flagReq flagSec : UInt32} {w : Mapped ω}

/-- Validation changes nothing but what the condition's check does. -/
theorem validate_world (mgr : Option (UdsMemoryManager ω)) (sid : UInt8)
    (address size maxSize flagReq flagSec : UInt32) (w : Mapped ω) :
    (validateMemoryAccess mgr sid address size maxSize flagReq flagSec w).2 = w ∨
    ∃ m, mgr = some m ∧ (validateMemoryAccess mgr sid address size maxSize flagReq flagSec w).2
      = (checkCondition m.config sid address size w).2 := by
  unfold validateMemoryAccess
  cases mgr with
  | none => exact .inl rfl
  | some m =>
    dsimp only
    split
    next => exact .inl rfl
    next =>
      split
      next => exact .inl rfl
      next =>
        refine .inr ⟨m, rfl, ?_⟩
        split
        next => rfl
        next =>
          split
          next => rfl
          next => split_ifs <;> rfl

theorem validate_granted {reg : UdsMemoryRegion ω} {w' : Mapped ω}
    (h : validateMemoryAccess mgr sid address size maxSize flagReq flagSec w = (.ok reg, w')) :
    ∃ m, mgr = some m ∧ Granted m.config sid maxSize flagReq flagSec w address size reg ∧
      w' = (checkCondition m.config sid address size w).2 := by
  unfold validateMemoryAccess at h
  cases mgr with
  | none => exact absurd h (by simp)
  | some m =>
    refine ⟨m, rfl, ?_⟩
    dsimp only at h
    split at h
    next => exact absurd h (by simp)
    next =>
      split at h
      next => exact absurd h (by simp)
      next hlimit =>
        split at h
        next => exact absurd h (by simp)
        next hallowed =>
          split at h
          next => exact absurd h (by simp)
          next found hfound =>
            split at h
            next => exact absurd h (by simp)
            next hflag =>
              split at h
              next => exact absurd h (by simp)
              next hsession =>
                split at h
                next => exact absurd h (by simp)
                next hlevel =>
                  -- No check has refused, so each of them states what it let through.
                  obtain ⟨rfl, hworld⟩ : found = reg ∧ _ = w' := by simpa using h
                  obtain ⟨hfirst, hholds, hwrap⟩ := findRegion_some hfound
                  refine ⟨⟨hfirst, hholds, hwrap, hflag, fun hprog => ?_, fun hsecure => ?_, ?_,
                    fun check hcheck => ?_⟩, hworld.symm⟩
                  · exact udsServerSession_programming (not_not.mp fun h => hsession ⟨hprog, h⟩)
                  · exact udsServerSecurityLevel_ne fun h => hlevel ⟨hsecure, h⟩
                  · by_cases hzero : maxSize = 0
                    · exact .inl hzero
                    · have hpos : 0 < maxSize := UInt32.pos_iff_ne_zero.mpr hzero
                      exact .inr (UInt32.not_lt.mp fun h => hlimit ⟨hpos, h⟩)
                  · have hmet := not_not.mp hallowed
                    unfold checkCondition at hmet
                    rw [hcheck] at hmet
                    exact hmet

theorem validate_refused {result : UdsCallbackResult} {w' : Mapped ω}
    (h : validateMemoryAccess mgr sid address size maxSize flagReq flagSec w
      = (.error result, w')) : result ≠ .ok := by
  rintro rfl
  unfold validateMemoryAccess at h
  cases mgr with
  | none => simp at h
  | some m =>
    dsimp only at h
    split at h
    next => simp at h
    next =>
      split at h
      next => simp at h
      next =>
        split at h
        next => simp at h
        next =>
          split at h
          next => simp at h
          next => split_ifs at h <;> simp at h

end Validate

/-! ## Handlers -/

/-- The request is well formed, and validation grants it the region. -/
structure MemoryAccepted (context active : Option (UdsMemoryManager ω)) (isWrite : Bool)
    (request : List UInt8) (w : Mapped ω) (r : MemoryRequest) (reg : UdsMemoryRegion ω)
    (w' : Mapped ω) : Prop where
  parsed : parseMemoryRequest request isWrite = .ok r
  valid : validateMemoryAccess (resolveManager context active) (if isWrite then 0x3D else 0x23)
    r.address r.size
    (if isWrite then maxWriteSize (resolveManager context active)
      else maxReadSize (resolveManager context active))
    (if isWrite then MemoryFlag.write else MemoryFlag.read)
    (if isWrite then MemoryFlag.secureWrite else MemoryFlag.secureRead) w = (.ok reg, w')

/-- Nothing has touched the world, or only the condition's check of a request. -/
def OnlyChecked (context active : Option (UdsMemoryManager ω)) (isWrite : Bool)
    (request : List UInt8) (w w' : Mapped ω) : Prop :=
  w' = w ∨ ∃ m r, resolveManager context active = some m ∧
    parseMemoryRequest request isWrite = .ok r ∧
    w' = (checkCondition m.config (if isWrite then 0x3D else 0x23) r.address r.size w).2

section Handlers

variable {context active : Option (UdsMemoryManager ω)} {request : List UInt8}
  {response : Buf} {responseLen capacity : UInt16} {w : Mapped ω}

theorem validate_onlyChecked {isWrite : Bool} {r : MemoryRequest} {maxSize flagReq flagSec : UInt32}
    {w' : Mapped ω} {verdict : Except UdsCallbackResult (UdsMemoryRegion ω)}
    (hparse : parseMemoryRequest request isWrite = .ok r)
    (hvalid : validateMemoryAccess (resolveManager context active)
      (if isWrite then 0x3D else 0x23) r.address r.size maxSize flagReq flagSec w = (verdict, w')) :
    OnlyChecked context active isWrite request w w' := by
  obtain hsame | ⟨m, hm, hchecked⟩ := validate_world (resolveManager context active)
    (if isWrite then 0x3D else 0x23) r.address r.size maxSize flagReq flagSec w
  · rw [hvalid] at hsame
    exact .inl hsame
  · rw [hvalid] at hchecked
    exact .inr ⟨m, r, hm, hparse, hchecked⟩

/-- A request that is not well formed is not accepted. -/
theorem not_accepted_of_malformed {isWrite : Bool} {result : UdsCallbackResult}
    (hparse : parseMemoryRequest request isWrite = .error result) (r : MemoryRequest)
    (reg : UdsMemoryRegion ω) (w' : Mapped ω) :
    ¬MemoryAccepted context active isWrite request w r reg w' := by
  intro haccepted
  have hr := haccepted.parsed
  rw [hparse] at hr
  simp at hr

/-- Neither is one that validation refuses. -/
theorem not_accepted_of_refused {isWrite : Bool} {r : MemoryRequest} {result : UdsCallbackResult}
    {w' : Mapped ω} (hparse : parseMemoryRequest request isWrite = .ok r)
    (hvalid : validateMemoryAccess (resolveManager context active) (if isWrite then 0x3D else 0x23)
      r.address r.size
      (if isWrite then maxWriteSize (resolveManager context active)
        else maxReadSize (resolveManager context active))
      (if isWrite then MemoryFlag.write else MemoryFlag.read)
      (if isWrite then MemoryFlag.secureWrite else MemoryFlag.secureRead) w = (.error result, w'))
    (r' : MemoryRequest) (reg : UdsMemoryRegion ω) (v : Mapped ω) :
    ¬MemoryAccepted context active isWrite request w r' reg v := by
  intro haccepted
  obtain rfl : r = r' := Except.ok.inj (hparse.symm.trans haccepted.parsed)
  exact absurd (hvalid.symm.trans haccepted.valid) (by simp)

/-- What a read that is refused has done. -/
structure ReadRefused (context active : Option (UdsMemoryManager ω)) (request : List UInt8)
    (response : Buf) (w : Mapped ω) (out : MemoryServed ω) : Prop where
  access : out.access = none
  response : out.response = response
  world : OnlyChecked context active false request w out.world

/-- What a read of the region has done. -/
structure ReadMade (r : MemoryRequest) (reg : UdsMemoryRegion ω) (response : Buf) (w : Mapped ω)
    (out : MemoryServed ω) : Prop where
  access : out.access
    = some ⟨reg, r.address, r.size, (readRegion reg r.address r.size response w).1⟩
  world : out.world = (readRegion reg r.address r.size response w).2.2
  response : ∀ i, i ≠ 0 →
    out.response i = (readRegion reg r.address r.size response w).2.1 i
  length : out.result = .ok → out.responseLen = (1 + r.size).toUInt16

/-- A read is refused, or it is accepted and made. -/
theorem udsMemoryReadHandler_cases (context active : Option (UdsMemoryManager ω))
    (request : List UInt8) (response : Buf) (responseLen capacity : UInt16) (w : Mapped ω) :
    let out := udsMemoryReadHandler context active request response responseLen capacity w
    (ReadRefused context active request response w out ∧
        ((∃ r, parseMemoryRequest request false = .ok r) → out.result ≠ .ok) ∧
        ∀ r reg w', MemoryAccepted context active false request w r reg w' →
          capacity < (1 + r.size).toUInt16) ∨
      ∃ r reg w', MemoryAccepted context active false request w r reg w' ∧
        ¬capacity < (1 + r.size).toUInt16 ∧ ReadMade r reg response w' out := by
  unfold udsMemoryReadHandler
  split
  next result hparse =>
    refine .inl ⟨⟨rfl, rfl, .inl rfl⟩, fun ⟨r, hr⟩ => ?_, fun r reg w' haccepted => ?_⟩
    · rw [hparse] at hr
      simp at hr
    · exact absurd haccepted (not_accepted_of_malformed hparse r reg w')
  next headerLen address size hparse =>
    dsimp only
    split
    next result w' hvalid =>
      refine .inl ⟨⟨rfl, rfl, validate_onlyChecked hparse hvalid⟩,
        fun _ => validate_refused hvalid, fun r reg v haccepted => ?_⟩
      exact absurd haccepted (not_accepted_of_refused hparse hvalid r reg v)
    next reg w' hvalid =>
      have haccepted : MemoryAccepted context active false request w ⟨headerLen, address, size⟩
        reg w' := ⟨hparse, hvalid⟩
      split
      next hroom =>
        refine .inl ⟨⟨rfl, rfl, validate_onlyChecked hparse hvalid⟩, fun _ => by simp,
          fun r reg v haccepted => ?_⟩
        obtain rfl : _ = r := Except.ok.inj (hparse.symm.trans haccepted.parsed)
        exact hroom
      next hroom =>
        refine .inr ⟨_, reg, w', haccepted, hroom, ?_⟩
        split
        next hfailed => exact ⟨rfl, rfl, fun _ _ => rfl, fun hok => absurd hok hfailed⟩
        next => exact ⟨rfl, rfl, fun _ hi => Buf.write_of_ne hi, fun _ => rfl⟩

/-- A write is refused without an access, or it is accepted and made. Without an access only the
condition's check has touched the world. -/
theorem udsMemoryWriteHandler_cases (context active : Option (UdsMemoryManager ω))
    (request : List UInt8) (response : Buf) (responseLen capacity : UInt16) (w : Mapped ω) :
    ((udsMemoryWriteHandler context active request response responseLen capacity w).access = none ∧
        OnlyChecked context active true request w
          (udsMemoryWriteHandler context active request response responseLen capacity w).world ∧
        ∀ r reg w', ¬MemoryAccepted context active true request w r reg w') ∨
      ∃ r reg w', MemoryAccepted context active true request w r reg w' ∧
        (udsMemoryWriteHandler context active request response responseLen capacity w).access
          = some ⟨reg, r.address, r.size,
            (writeRegion reg r.address r.size (request.drop r.headerLen) w').1⟩ ∧
        (udsMemoryWriteHandler context active request response responseLen capacity w).world
          = (writeRegion reg r.address r.size (request.drop r.headerLen) w').2 ∧
        ((udsMemoryWriteHandler context active request response responseLen capacity w).result = .ok ↔
          (writeRegion reg r.address r.size (request.drop r.headerLen) w').1 = .ok ∧
            r.headerLen ≤ capacity.toNat) := by
  unfold udsMemoryWriteHandler
  split
  next result hparse => exact .inl ⟨rfl, .inl rfl, not_accepted_of_malformed hparse⟩
  next headerLen address size hparse =>
    dsimp only
    split
    next result w' hvalid =>
      exact .inl ⟨rfl, validate_onlyChecked hparse hvalid, not_accepted_of_refused hparse hvalid⟩
    next reg w' hvalid =>
      refine .inr ⟨_, reg, w', ⟨hparse, hvalid⟩, ?_⟩
      split
      next hfailed => exact ⟨rfl, rfl, fun hok => absurd hok hfailed, fun hok => absurd hok.1 hfailed⟩
      next hok =>
        split
        next hroom =>
          exact ⟨rfl, rfl, fun h => UdsCallbackResult.noConfusion h,
            fun h => absurd h.2 (Nat.not_le.mpr hroom)⟩
        next hroom => exact ⟨rfl, rfl, fun _ => ⟨not_not.mp hok, Nat.not_lt.mp hroom⟩, fun _ => rfl⟩

theorem MemoryAccepted.unique {isWrite : Bool} {r r' : MemoryRequest}
    {reg reg' : UdsMemoryRegion ω} {v v' : Mapped ω}
    (h : MemoryAccepted context active isWrite request w r reg v)
    (h' : MemoryAccepted context active isWrite request w r' reg' v') :
    r = r' ∧ reg = reg' ∧ v = v' := by
  obtain rfl : r = r' := Except.ok.inj (h.parsed.symm.trans h'.parsed)
  have hvalid := h.valid.symm.trans h'.valid
  simp only [Prod.mk.injEq, Except.ok.injEq] at hvalid
  exact ⟨rfl, hvalid⟩

/-! ## Room -/

/-- The length of the response to a read of this size fits, but only in 16 bits. -/
def LengthWraps (size : UInt32) (capacity : UInt16) : Prop :=
  65535 ≤ size.toNat ∧ (1 + size.toNat) % 65536 ≤ capacity.toNat

theorem responseLength_toNat (size : UInt32) :
    (1 + size).toUInt16.toNat = (1 + size.toNat) % 65536 := by
  simp

/-- **Room for a read.** The access is as long as the room behind the service identifier allows,
and a positive response as long as it says, exactly if no length that wraps is let through. -/
theorem read_fits_iff (context active : Option (UdsMemoryManager ω)) (request : List UInt8)
    (response : Buf) (responseLen capacity : UInt16) (w : Mapped ω) :
    let out := udsMemoryReadHandler context active request response responseLen capacity w
    ((∀ access, out.access = some access → access.size.toNat + 1 ≤ capacity.toNat) ∧
        ∀ r, parseMemoryRequest request false = .ok r → out.result = .ok →
          out.responseLen.toNat = 1 + r.size.toNat) ↔
      ∀ r reg w', MemoryAccepted context active false request w r reg w' →
        ¬LengthWraps r.size capacity := by
  intro out
  obtain ⟨⟨hnone, -, -⟩, hrefused, htight⟩ |
      ⟨r, reg, w', haccepted, hroom, haccess, -, -, hlength⟩ :=
    udsMemoryReadHandler_cases context active request response responseLen capacity w
  · refine iff_of_true ⟨fun access h => ?_, fun r hr hok => ?_⟩ fun r reg w' haccepted hwraps => ?_
    · exact absurd (hnone.symm.trans h) (by simp)
    · exact absurd hok (hrefused ⟨r, hr⟩)
    · have hshort := UInt16.lt_iff_toNat_lt.mp (htight r reg w' haccepted)
      rw [responseLength_toNat] at hshort
      exact absurd hwraps.2 (Nat.not_le.mpr hshort)
  · have hroom := UInt16.le_iff_toNat_le.mp (UInt16.not_lt.mp hroom)
    rw [responseLength_toNat] at hroom
    have hcap := capacity.toNat_lt
    constructor
    · rintro ⟨hfits, -⟩ r' reg' v' haccepted' ⟨hlong, -⟩
      obtain ⟨rfl, -, -⟩ := haccepted.unique haccepted'
      have hfit := hfits _ haccess
      dsimp only at hfit
      omega
    · intro hwraps
      have hshort : r.size.toNat < 65535 := by
        by_contra hlong
        exact hwraps r reg w' haccepted ⟨by omega, hroom⟩
      rw [Nat.mod_eq_of_lt (by omega)] at hroom
      refine ⟨fun access h => ?_, fun r' hr hok => ?_⟩
      · obtain rfl := Option.some.inj (haccess.symm.trans h)
        dsimp only
        omega
      · obtain rfl : r = r' := Except.ok.inj (haccepted.parsed.symm.trans hr)
        show (udsMemoryReadHandler context active request response responseLen capacity
          w).responseLen.toNat = 1 + r.size.toNat
        rw [hlength hok, responseLength_toNat, Nat.mod_eq_of_lt (by omega)]

/-- A manager with one region of memory, without drivers. -/
def ramManager (size flags : UInt32) : UdsMemoryManager Unit where
  config :=
    { regions := some [⟨0, size, flags, none, none⟩]
      maxReadSize := 0
      maxWriteSize := 0
      conditionCheck := none
      server := none }

/-- 65535 bytes are read into a buffer of 4095. -/
theorem read_overruns :
    ∃ access, (udsMemoryReadHandler (some (ramManager 0x10000 MemoryFlag.read)) none
        [0x23, 0x21, 0x00, 0xFF, 0xFF] (fun _ => 0) 0 4095 ((), fun _ => 0)).access = some access ∧
      ¬access.size.toNat + 1 ≤ (4095 : UInt16).toNat :=
  ⟨⟨⟨0, 0x10000, MemoryFlag.read, none, none⟩, 0, 0xFFFF, .ok⟩, rfl, by decide⟩

/-! ## Atomicity -/

/-- **Atomic writes.** A write that fails for another reason than its driver has touched nothing,
exactly if no write that is accepted and succeeds lacks the room for its response. -/
theorem write_atomic_iff (context active : Option (UdsMemoryManager ω)) (request : List UInt8)
    (response : Buf) (responseLen capacity : UInt16) (w : Mapped ω) :
    let out := udsMemoryWriteHandler context active request response responseLen capacity w
    (out.result ≠ .ok →
        (out.access = none → OnlyChecked context active true request w out.world) ∧
        ∀ access, out.access = some access →
          access.region.write.isSome = true ∧ access.result ≠ .ok) ↔
      ∀ r reg w', MemoryAccepted context active true request w r reg w' →
        (writeRegion reg r.address r.size (request.drop r.headerLen) w').1 = .ok →
          r.headerLen ≤ capacity.toNat := by
  intro out
  obtain ⟨hnone, hchecked, hrefused⟩ | ⟨r, reg, w', haccepted, haccess, -, hresult⟩ :=
    udsMemoryWriteHandler_cases context active request response responseLen capacity w
  · refine iff_of_true (fun _ => ⟨fun _ => hchecked, fun access h => ?_⟩) fun r reg w' haccepted => ?_
    · exact absurd (hnone.symm.trans h) (by simp)
    · exact absurd haccepted (hrefused r reg w')
  · constructor
    · intro hatomic r' reg' v' haccepted' hok
      obtain ⟨rfl, rfl, rfl⟩ := haccepted.unique haccepted'
      by_contra hroom
      exact ((hatomic (fun h => hroom (hresult.mp h).2)).2 _ haccess).2 hok
    · intro hroom hfailed
      refine ⟨fun hnone => absurd (haccess.symm.trans hnone) (by simp), fun access h => ?_⟩
      obtain rfl := Option.some.inj (haccess.symm.trans h)
      have hdriver : (writeRegion reg r.address r.size (request.drop r.headerLen) w').1 ≠ .ok :=
        fun hok => hfailed (hresult.mpr ⟨hok, hroom r reg w' haccepted hok⟩)
      refine ⟨?_, hdriver⟩
      -- a copy does not fail
      unfold writeRegion at hdriver
      split at hdriver
      next write hwrite => exact Option.isSome_iff_exists.mpr ⟨write, hwrite⟩
      next => exact absurd rfl hdriver

/-- One byte is written, and then there is no room to say so. -/
theorem write_not_atomic :
    let out := udsMemoryWriteHandler (some (ramManager 0x10 MemoryFlag.write)) none
      [0x3D, 0x11, 0x04, 0x01, 0xAA] (fun _ => 0) 0 3 ((), fun _ => 0)
    out.result = .responseTooLong ∧ out.world.2 0x04 = 0xAA := by
  decide +kernel

/-! ## Access control -/

/-- The address is one of the region's. -/
def UdsMemoryRegion.Has (reg : UdsMemoryRegion ω) (a : UInt32) : Prop :=
  reg.startAddress.toNat ≤ a.toNat ∧ a.toNat < reg.startAddress.toNat + reg.size.toNat

theorem Granted.byte {config : UdsMemoryConfig ω} {sid : UInt8}
    {maxSize flagReq flagSec address size : UInt32} {reg : UdsMemoryRegion ω}
    (h : Granted config sid maxSize flagReq flagSec w address size reg) {i : Nat}
    (hi : i < size.toNat) : reg.Has (address + UInt32.ofNat i) := by
  have hwrap := h.noWrap
  have habove := h.holds.above
  have hbelow := h.holds.below
  have hsum : (address + UInt32.ofNat i).toNat = address.toNat + i := by
    have hsize := size.toNat_lt
    have hindex : i < UInt32.size := hi.trans hsize
    have hsmall : address.toNat + i < 2 ^ 32 := by omega
    rw [UInt32.toNat_add, UInt32.toNat_ofNat_of_lt' hindex, Nat.mod_eq_of_lt hsmall]
  unfold UdsMemoryRegion.Has
  omega

/-- A copy writes inside its range only. -/
theorem Granted.stored {config : UdsMemoryConfig ω} {sid : UInt8}
    {maxSize flagReq flagSec address size : UInt32} {reg : UdsMemoryRegion ω}
    (h : Granted config sid maxSize flagReq flagSec w address size reg) {memory : Memory}
    {data : Buf} {a : UInt32} (ha : memory.store address data size a ≠ memory a) : reg.Has a := by
  unfold Memory.store at ha
  split at ha
  next hinside =>
    have hbyte := h.byte (UInt32.lt_iff_toNat_lt.mp hinside)
    have hsum : address + UInt32.ofNat (a - address).toNat = a := by
      rw [UInt32.ofNat_toNat]
      grind
    rwa [hsum] at hbyte
  next => exact absurd rfl ha

end Handlers

/-- The access is granted, and every byte of it lies in its region. -/
structure Permitted (config : UdsMemoryConfig ω) (isWrite : Bool) (w : Mapped ω)
    (access : MemoryAccess ω) : Prop where
  granted : Granted config (if isWrite then 0x3D else 0x23)
    (if isWrite then config.maxWriteSize else config.maxReadSize)
    (if isWrite then MemoryFlag.write else MemoryFlag.read)
    (if isWrite then MemoryFlag.secureWrite else MemoryFlag.secureRead) w
    access.address access.size access.region
  bytes : ∀ i < access.size.toNat, access.region.Has (access.address + UInt32.ofNat i)

/-- The read has read its range and nothing else, from the world that the condition's check has
left. -/
structure ReadsRange (response : Buf) (w : Mapped ω) (out : MemoryServed ω)
    (access : MemoryAccess ω) : Prop where
  /-- A copy brings the bytes of the range, and leaves the world and the rest of the buffer. -/
  copied : access.region.read = none → out.world = w ∧ ∀ i, i ≠ 0 → out.response i =
    if i ≤ access.size.toNat then w.2 (access.address + UInt32.ofNat (i - 1)) else response i
  /-- A driver is asked for the range, once, and what it answers is copied. -/
  driven : ∀ read, access.region.read = some read → ∃ data,
    read w access.address access.size = (access.result, data, out.world) ∧ ∀ i, i ≠ 0 →
      out.response i = response.copy 1 (Buf.ofList data) 0 data.length i

/-- The write has written its range and nothing else, in the world that the condition's check has
left. -/
structure WritesRange (w : Mapped ω) (out : MemoryServed ω) (access : MemoryAccess ω) : Prop where
  /-- A copy changes bytes of the range only, which the region has. -/
  copied : access.region.write = none → out.world.1 = w.1 ∧
    ∀ a, out.world.2 a ≠ w.2 a → access.region.Has a ∧ a - access.address < access.size
  /-- A driver is given the range, once, and no more bytes than it has. -/
  driven : ∀ write, access.region.write = some write → ∃ data : List UInt8,
    data.length ≤ access.size.toNat ∧
      write w access.address data = (access.result, out.world)

section Access

variable {context active : Option (UdsMemoryManager ω)} {request : List UInt8}
  {response : Buf} {w : Mapped ω} {r : MemoryRequest} {reg : UdsMemoryRegion ω}

theorem MemoryAccepted.permitted {isWrite : Bool} {w' : Mapped ω}
    (h : MemoryAccepted context active isWrite request w r reg w') :
    ∃ m, resolveManager context active = some m ∧
      (∀ result, Permitted m.config isWrite w ⟨reg, r.address, r.size, result⟩) ∧
      w' = (checkCondition m.config (if isWrite then 0x3D else 0x23) r.address r.size w).2 := by
  obtain ⟨m, hm, hgranted, hchecked⟩ := validate_granted h.valid
  rw [hm] at hgranted
  exact ⟨m, hm, fun result => ⟨hgranted, fun i hi => hgranted.byte hi⟩, hchecked⟩

theorem ReadMade.range {out : MemoryServed ω} (h : ReadMade r reg response w out) :
    ReadsRange response w out
      ⟨reg, r.address, r.size, (readRegion reg r.address r.size response w).1⟩ := by
  have hworld := h.world
  have hresponse := h.response
  constructor
  · intro hcopy
    have hcopy : reg.read = none := hcopy
    unfold readRegion at hworld hresponse
    rw [hcopy] at hworld hresponse
    refine ⟨hworld, fun i hi => ?_⟩
    rw [hresponse i hi]
    dsimp only
    split
    next hinside =>
      obtain ⟨j, rfl⟩ := Nat.exists_eq_add_of_le (Nat.one_le_iff_ne_zero.mpr hi)
      rw [Buf.copy_inside (by omega), Nat.zero_add, Nat.add_sub_cancel_left]
      rfl
    next houtside => exact Buf.copy_outside (.inr (by omega))
  · intro read hread
    have hread : reg.read = some read := hread
    unfold readRegion at hworld hresponse ⊢
    rw [hread] at hworld hresponse ⊢
    exact ⟨_, Prod.ext rfl (Prod.ext rfl hworld.symm), hresponse⟩

theorem writeRegion_range {config : UdsMemoryConfig ω} {sid : UInt8}
    {maxSize flagReq flagSec : UInt32} {before : Mapped ω}
    (hgranted : Granted config sid maxSize flagReq flagSec before r.address r.size reg)
    (data : List UInt8) {out : MemoryServed ω}
    (hworld : out.world = (writeRegion reg r.address r.size data w).2) :
    WritesRange w out ⟨reg, r.address, r.size, (writeRegion reg r.address r.size data w).1⟩ := by
  constructor
  · intro hcopy
    have hcopy : reg.write = none := hcopy
    unfold writeRegion at hworld
    rw [hcopy] at hworld
    rw [hworld]
    exact ⟨rfl, fun a ha => ⟨hgranted.stored ha, not_not.mp fun hout => ha (if_neg hout)⟩⟩
  · intro write hwrite
    have hwrite : reg.write = some write := hwrite
    unfold writeRegion at hworld ⊢
    rw [hwrite] at hworld ⊢
    exact ⟨_, List.length_take_le .., Prod.ext rfl hworld.symm⟩

end Access

/-- **Access control.** Every access is granted: the range lies in the first region that holds it,
without a wrap, in a session and at a level that the region asks for, within the limit and under
the condition. An access reads or writes the bytes of its range and no others, and without one
nothing is read or written. -/
theorem access_permitted (context active : Option (UdsMemoryManager ω)) (request : List UInt8)
    (response : Buf) (responseLen capacity : UInt16) (w : Mapped ω) :
    let read := udsMemoryReadHandler context active request response responseLen capacity w
    let write := udsMemoryWriteHandler context active request response responseLen capacity w
    ((read.access = none → read.response = response ∧
          OnlyChecked context active false request w read.world) ∧
        ∀ access, read.access = some access → ∃ m, resolveManager context active = some m ∧
          Permitted m.config false w access ∧
          ReadsRange response (checkCondition m.config 0x23 access.address access.size w).2 read
            access) ∧
      (write.access = none → OnlyChecked context active true request w write.world) ∧
      ∀ access, write.access = some access → ∃ m, resolveManager context active = some m ∧
        Permitted m.config true w access ∧
        WritesRange (checkCondition m.config 0x3D access.address access.size w).2 write access := by
  intro read write
  constructor
  · obtain ⟨hrefused, -⟩ | ⟨r, reg, w', haccepted, -, hmade⟩ :=
      udsMemoryReadHandler_cases context active request response responseLen capacity w
    · exact ⟨fun _ => ⟨hrefused.response, hrefused.world⟩, fun access haccess =>
        absurd (hrefused.access.symm.trans haccess) (by simp)⟩
    · refine ⟨fun hnone => absurd (hmade.access.symm.trans hnone) (by simp),
        fun access haccess => ?_⟩
      obtain rfl := Option.some.inj (hmade.access.symm.trans haccess)
      obtain ⟨m, hm, hpermitted, rfl⟩ := haccepted.permitted
      exact ⟨m, hm, hpermitted _, hmade.range⟩
  · obtain ⟨hnone, hchecked, -⟩ | ⟨r, reg, w', haccepted, hmade, hworld, -⟩ :=
      udsMemoryWriteHandler_cases context active request response responseLen capacity w
    · exact ⟨fun _ => hchecked, fun access haccess =>
        absurd (hnone.symm.trans haccess) (by simp)⟩
    · refine ⟨fun hnone => absurd (hmade.symm.trans hnone) (by simp), fun access haccess => ?_⟩
      obtain rfl := Option.some.inj (hmade.symm.trans haccess)
      obtain ⟨m, hm, hpermitted, rfl⟩ := haccepted.permitted
      exact ⟨m, hm, hpermitted _, writeRegion_range (hpermitted .ok).granted _ hworld⟩

/-- A byte of the region is read, and one is written. -/
theorem access_permitted_ram :
    (∃ m, resolveManager (some (ramManager 0x10 0x03)) none = some m ∧
      Permitted m.config false ((), fun _ => 0) ⟨⟨0, 0x10, 0x03, none, none⟩, 0x04, 1, .ok⟩) ∧
    ∃ m, resolveManager (some (ramManager 0x10 0x03)) none = some m ∧
      Permitted m.config true ((), fun _ => 0) ⟨⟨0, 0x10, 0x03, none, none⟩, 0x04, 1, .ok⟩ := by
  obtain ⟨m, hm, hread, -⟩ := (access_permitted (some (ramManager 0x10 0x03)) none
    [0x23, 0x11, 0x04, 0x01] (fun _ => 0) 0 4095 ((), fun _ => 0)).1.2
      ⟨⟨0, 0x10, 0x03, none, none⟩, 0x04, 1, .ok⟩ rfl
  obtain ⟨m', hm', hwrite, -⟩ := (access_permitted (some (ramManager 0x10 0x03)) none
    [0x3D, 0x11, 0x04, 0x01, 0xAA] (fun _ => 0) 0 4095 ((), fun _ => 0)).2.2
      ⟨⟨0, 0x10, 0x03, none, none⟩, 0x04, 1, .ok⟩ rfl
  exact ⟨⟨m, hm, hread⟩, m', hm', hwrite⟩

end UdsIsoTp.Uds
