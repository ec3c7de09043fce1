import UdsIsoTp.Lib.Overlay
import UdsIsoTp.Uds.MemoryAccess

/-!
# The memory of the application

`uds_memory_app.c`: three arrays behind the memory services, each at its own addresses. The
calibration is open to everyone, the configuration only to a tester that has unlocked the server,
and the flash only in the programming session, for a write unlocked as well.

Whether a call is let through is a matter of its request and of the server, not of what was written
before (`MemoryCall.lands`). So over any run each byte is the one that was put there last, and a
read answers with exactly these (`memory_app_runs`).

The handlers take the context for the manager unless it is null, and here it is null, as in the
tests of the services. `uds_app.c` gives the server its CAN transport for a context.
-/

namespace UdsIsoTp.App

open UdsIsoTp.Uds

/-- The arrays of `uds_memory_app.c`. -/
structure UdsMemoryApp where
  calibrationRam : Buf
  nvmConfig : Buf
  flashSim : Buf

/-- What the drivers work on. -/
abbrev MemoryWorld := Mapped UdsMemoryApp

/-- The three arrays that stand for the ECU's memory. -/
inductive AppArray where
  | calibrationRam
  | nvmConfig
  | flashSim
  deriving DecidableEq, Repr

namespace AppArray

/-- The address of the array's first byte. -/
def base : AppArray → UInt32
  | calibrationRam => 0x20004000
  | nvmConfig => 0x20005000
  | flashSim => 0x08040000

/-- The flash region is as long as the array, not as `UDS_MEMORY_APP_FLASH_APP_SIZE`. -/
def size : AppArray → UInt32
  | calibrationRam => 0x1000
  | nvmConfig => 0x400
  | flashSim => 2048

/-- The bytes of the array. -/
def get : AppArray → UdsMemoryApp → Buf
  | calibrationRam, app => app.calibrationRam
  | nvmConfig, app => app.nvmConfig
  | flashSim, app => app.flashSim

/-- Puts bytes in the array's place. -/
def set : AppArray → UdsMemoryApp → Buf → UdsMemoryApp
  | calibrationRam, app, bytes => { app with calibrationRam := bytes }
  | nvmConfig, app, bytes => { app with nvmConfig := bytes }
  | flashSim, app, bytes => { app with flashSim := bytes }

end AppArray

/-! ## Drivers -/

/-- The read driver of an array; the bound is compared with a sum in 32 bits. -/
def readArray (k : AppArray) (w : MemoryWorld) (address length : UInt32) :
    UdsCallbackResult × List UInt8 × MemoryWorld :=
  let offset := address - k.base
  if k.size < offset + length then (.outOfRange, [], w)
  else (.ok, (k.get w.1).slice offset.toNat length.toNat, w)

/-- A driver's write: past the end of the array it refuses. -/
def writeArray (k : AppArray) (w : MemoryWorld) (address : UInt32) (data : List UInt8) :
    UdsCallbackResult × MemoryWorld :=
  let offset := address - k.base
  if k.size < offset + UInt32.ofNat data.length then (.outOfRange, w)
  else (.ok, k.set w.1 ((k.get w.1).copy offset.toNat (Buf.ofList data) 0 data.length), w.2)

/-- `calibration_read` -/
def calibrationRead := readArray .calibrationRam
/-- `calibration_write` -/
def calibrationWrite := writeArray .calibrationRam
/-- `nvm_read` -/
def nvmRead := readArray .nvmConfig
/-- `nvm_write` -/
def nvmWrite := writeArray .nvmConfig
/-- `flash_read` -/
def flashRead := readArray .flashSim
/-- `flash_write` -/
def flashWrite := writeArray .flashSim

namespace AppArray

/-- The row of the array in `s_app_memory_regions`. -/
def region : AppArray → UdsMemoryRegion UdsMemoryApp
  | calibrationRam =>
    { startAddress := calibrationRam.base
      size := calibrationRam.size
      flags := MemoryFlag.read ||| MemoryFlag.write
      read := some calibrationRead
      write := some calibrationWrite }
  | nvmConfig =>
    { startAddress := nvmConfig.base
      size := nvmConfig.size
      flags := MemoryFlag.read ||| MemoryFlag.write ||| MemoryFlag.secureRead |||
        MemoryFlag.secureWrite
      read := some nvmRead
      write := some nvmWrite }
  | flashSim =>
    { startAddress := flashSim.base
      size := flashSim.size
      flags := MemoryFlag.read ||| MemoryFlag.write ||| MemoryFlag.progOnly |||
        MemoryFlag.secureWrite
      read := some flashRead
      write := some flashWrite }

end AppArray

/-- All three. -/
def appArrays : List AppArray := [.calibrationRam, .nvmConfig, .flashSim]

/-- The table of regions, one for each array. -/
def appMemoryRegions : List (UdsMemoryRegion UdsMemoryApp) := appArrays.map AppArray.region

/-- Each array filled with a byte of its own. -/
def udsMemoryAppInit : UdsMemoryApp where
  calibrationRam := fun _ => 0x55
  nvmConfig := fun _ => 0xAA
  flashSim := fun _ => 0xFF

/-- `s_app_memory_mgr`, with the server that `uds_memory_app_set_server` gave it. -/
def appMemoryManager (server : Option (UdsServer MemoryWorld)) : UdsMemoryManager UdsMemoryApp where
  config :=
    { regions := some appMemoryRegions
      maxReadSize := 4096
      maxWriteSize := 4096
      conditionCheck := none
      server := server }

/-! ## Calls -/

/-- A request to one of the two handlers. -/
structure MemoryCall where
  isWrite : Bool
  server : Option (UdsServer MemoryWorld)
  request : List UInt8
  response : Buf
  responseLen : UInt16
  capacity : UInt16

/-- Serves the request with the manager of the application. -/
def MemoryCall.serve (call : MemoryCall) (w : MemoryWorld) : MemoryServed UdsMemoryApp :=
  let mgr := some (appMemoryManager call.server)
  if call.isWrite then
    udsMemoryWriteHandler none mgr call.request call.response call.responseLen call.capacity w
  else udsMemoryReadHandler none mgr call.request call.response call.responseLen call.capacity w

/-- One request, with what it leaves behind. -/
def memoryStep (w : MemoryWorld) (call : MemoryCall) : MemoryWorld := (call.serve w).world

/-! ## What the memory is for -/

/-- The range lies in the array. -/
def AppArray.Holds (k : AppArray) (r : MemoryRequest) : Prop :=
  k.base ≤ r.address ∧ r.address.toNat + r.size.toNat ≤ k.base.toNat + k.size.toNat

instance (k : AppArray) (r : MemoryRequest) : Decidable (k.Holds r) :=
  inferInstanceAs (Decidable (_ ∧ _))

/-- The array may be read, or written, on this server. -/
def AppArray.Permits (k : AppArray) (isWrite : Bool) (server : Option (UdsServer MemoryWorld)) :
    Prop :=
  (k = .flashSim → udsServerSession server = sessionProgramming) ∧
    (k = .nvmConfig ∨ k = .flashSim ∧ isWrite = true → udsServerSecurityLevel server ≠ 0)

instance (k : AppArray) (isWrite : Bool) (server : Option (UdsServer MemoryWorld)) :
    Decidable (k.Permits isWrite server) :=
  inferInstanceAs (Decidable (_ ∧ _))

/-- The range that the call touches, and the array it lies in. -/
def MemoryCall.lands (call : MemoryCall) : Option (AppArray × MemoryRequest) :=
  match parseMemoryRequest call.request call.isWrite with
  | .error _ => none
  | .ok r =>
    match appArrays.find? fun k => k.Holds r with
    | none => none
    | some k => if k.Permits call.isWrite call.server then some (k, r) else none

/-- What the call writes, if it is a write that lands. -/
def MemoryCall.puts (call : MemoryCall) : Patch UInt32 UInt8 := fun a =>
  match call.lands with
  | none => none
  | some (_, r) =>
    if call.isWrite = true ∧ a - r.address < r.size then
      some (byteAt call.request (r.headerLen + (a - r.address).toNat))
    else none

/-- The byte at an address of one of the arrays. -/
def UdsMemoryApp.byteOf (app : UdsMemoryApp) (a : UInt32) : UInt8 :=
  match appArrays.find? fun k => a - k.base < k.size with
  | none => 0
  | some k => k.get app (a - k.base).toNat

/-- The positive response: to a read the bytes, to a write the request up to its data. -/
def MemoryCall.answer (call : MemoryCall) (bytes : UInt32 → UInt8) (r : MemoryRequest) :
    List UInt8 :=
  if call.isWrite then 0x7D :: (call.request.drop 1).take (r.headerLen - 1)
  else 0x63 :: (List.range r.size.toNat).map fun i => bytes (r.address + UInt32.ofNat i)

section Lands

variable {k : AppArray} {r : MemoryRequest} {call : MemoryCall}

theorem AppArray.region_start (k : AppArray) : k.region.startAddress = k.base := by cases k <;> rfl

theorem AppArray.region_size (k : AppArray) : k.region.size = k.size := by cases k <;> rfl

theorem AppArray.size_le (k : AppArray) : k.size.toNat ≤ 4096 := by cases k <;> decide

theorem AppArray.end_le (k : AppArray) : k.base.toNat + k.size.toNat ≤ 0x100000000 := by
  cases k <;> decide

theorem findRegion_app (server : Option (UdsServer MemoryWorld)) (hsize : r.size ≠ 0) :
    findRegion (appMemoryManager server).config r.address r.size
      = (appArrays.find? fun k => k.Holds r).map AppArray.region := by
  have hfind : findRegion (appMemoryManager server).config r.address r.size
      = if 0x100000000 < r.address.toNat + r.size.toNat then none
        else appMemoryRegions.find? fun reg => decide (reg.startAddress ≤ r.address) &&
          decide (r.address.toNat + r.size.toNat ≤ reg.startAddress.toNat + reg.size.toNat) :=
    if_neg hsize
  rw [hfind]
  split
  next hwrap =>
    -- no array reaches the end of the addresses
    have hnone : (appArrays.find? fun k => decide (k.Holds r)) = none := by
      refine List.find?_eq_none.mpr fun k _ hholds => ?_
      have hbelow := (of_decide_eq_true hholds).2
      have hend := k.end_le
      omega
    rw [hnone]
    rfl
  next =>
    rw [appMemoryRegions, List.find?_map]
    congr 2
    funext k
    show (decide (k.region.startAddress ≤ r.address) &&
      decide (r.address.toNat + r.size.toNat ≤ k.region.startAddress.toNat + k.region.size.toNat))
        = decide (k.Holds r)
    rw [AppArray.region_start, AppArray.region_size]
    exact (Bool.decide_and _ _).symm

/-- A request that is accepted has a size, and a write carries all its data. -/
theorem parse_ok {request : List UInt8} {isWrite : Bool}
    (h : parseMemoryRequest request isWrite = .ok r) :
    r.size ≠ 0 ∧ 2 ≤ r.headerLen ∧
      (isWrite = true → r.headerLen + r.size.toNat ≤ request.length) := by
  unfold parseMemoryRequest at h
  by_cases hmin : request.length < (if isWrite then 5 else 4)
  · rw [if_pos hmin] at h
    cases h
  · rw [if_neg hmin] at h
    split at h
    next => cases h
    next addrLen sizeLen _ =>
      dsimp only at h
      generalize hform : (if isWrite then _ else _ : Bool) = malformed at h
      cases malformed with
      | true => cases h
      | false =>
        rw [if_neg Bool.false_ne_true] at h
        by_cases hsize : readBeU32 request (2 + addrLen) sizeLen = 0
        · rw [if_pos hsize] at h
          cases h
        · rw [if_neg hsize] at h
          cases h
          refine ⟨hsize, Nat.le_add_right_of_le (Nat.le_add_right 2 addrLen), ?_⟩
          rintro rfl
          simp only [if_true, Bool.or_eq_false_iff, decide_eq_false_iff_not, bne_eq_false_iff_eq,
            Nat.not_le] at hform
          -- the sum of the lengths is taken in 32 bits, where it can only have lost a multiple
          have hsum := congrArg UInt32.toNat hform.2
          rw [UInt32.toNat_add, UInt32.toNat_ofNat', UInt32.toNat_ofNat'] at hsum
          have hlong := (readBeU32 request (2 + addrLen) sizeLen).toNat_lt
          dsimp only
          omega

theorem parse_error {request : List UInt8} {isWrite : Bool} {result : UdsCallbackResult}
    (h : parseMemoryRequest request isWrite = .error result) : result ≠ .ok := by
  rintro rfl
  unfold parseMemoryRequest at h
  by_cases hmin : request.length < (if isWrite then 5 else 4)
  · rw [if_pos hmin] at h
    cases h
  · rw [if_neg hmin] at h
    split at h
    next => cases h
    next =>
      dsimp only at h
      generalize (if isWrite then _ else _ : Bool) = malformed at h
      cases malformed with
      | true => cases h
      | false =>
        rw [if_neg Bool.false_ne_true] at h
        split at h <;> cases h

theorem lands_some (h : call.lands = some (k, r)) :
    parseMemoryRequest call.request call.isWrite = .ok r ∧
      k.Holds r ∧ k.Permits call.isWrite call.server := by
  unfold MemoryCall.lands at h
  split at h
  next => cases h
  next r' hparse =>
    split at h
    next => cases h
    next k' hfind =>
      split at h
      next hpermits =>
        cases h
        exact ⟨hparse, by simpa using List.find?_some hfind, hpermits⟩
      next => cases h

/-- The flag that the access needs, and the one that asks for an unlocked server. -/
def AppArray.flagReq (isWrite : Bool) : UInt32 :=
  if isWrite then MemoryFlag.write else MemoryFlag.read

/-- The flag that makes the access ask for an unlocked server. -/
def AppArray.flagSec (isWrite : Bool) : UInt32 :=
  if isWrite then MemoryFlag.secureWrite else MemoryFlag.secureRead

theorem AppArray.permits_iff (k : AppArray) (isWrite : Bool)
    (server : Option (UdsServer MemoryWorld)) :
    k.Permits isWrite server ↔
      ¬(k.region.flags &&& MemoryFlag.progOnly ≠ 0 ∧
        udsServerSession server ≠ sessionProgramming) ∧
      ¬(k.region.flags &&& flagSec isWrite ≠ 0 ∧ udsServerSecurityLevel server = 0) := by
  have hflags : (k.region.flags &&& MemoryFlag.progOnly ≠ 0 ↔ k = .flashSim) ∧
      (k.region.flags &&& flagSec isWrite ≠ 0 ↔
        k = .nvmConfig ∨ k = .flashSim ∧ isWrite = true) := by
    cases k <;> cases isWrite <;> decide
  unfold AppArray.Permits
  rw [hflags.1, hflags.2]
  simp only [not_and, not_not, ne_eq]

theorem AppArray.flagged (k : AppArray) (isWrite : Bool) :
    ¬k.region.flags &&& flagReq isWrite = 0 := by
  cases k <;> cases isWrite <;> decide

/-- A call that lands is let through to its array, and no other is. -/
theorem validate_app (call : MemoryCall) {mgr : Option (UdsMemoryManager UdsMemoryApp)}
    (hmgr : mgr = some (appMemoryManager call.server))
    (hparse : parseMemoryRequest call.request call.isWrite = .ok r) (sid : UInt8)
    {maxSize flagReq flagSec : UInt32} (hmax : maxSize = 4096)
    (hreq : flagReq = AppArray.flagReq call.isWrite)
    (hsec : flagSec = AppArray.flagSec call.isWrite) (w : MemoryWorld) :
    (∃ k, call.lands = some (k, r) ∧
        validateMemoryAccess mgr sid r.address r.size maxSize flagReq flagSec w
          = (.ok k.region, w)) ∨
      call.lands = none ∧ ∃ result, result ≠ .ok ∧
        validateMemoryAccess mgr sid r.address r.size maxSize flagReq flagSec w
          = (.error result, w) := by
  subst hmgr hmax hreq hsec
  have hregion := findRegion_app call.server (parse_ok hparse |>.1)
  unfold MemoryCall.lands validateMemoryAccess
  rw [hparse]
  dsimp only
  rw [hregion,
    if_neg (show ¬(appMemoryManager call.server).config.regions.isNone from Bool.noConfusion)]
  cases hfind : appArrays.find? fun k => k.Holds r with
  | none =>
    refine .inr ⟨rfl, .outOfRange, UdsCallbackResult.noConfusion, ?_⟩
    split <;> rfl
  | some k =>
    have hholds : k.Holds r := by simpa using List.find?_some hfind
    have hlimit : ¬(0 < (4096 : UInt32) ∧ 4096 < r.size) := by
      rintro ⟨-, hlong⟩
      have hlong := UInt32.lt_iff_toNat_lt.mp hlong
      have hbelow := hholds.2
      have hsize := k.size_le
      have habove := UInt32.le_iff_toNat_le.mp hholds.1
      have hconst : (4096 : UInt32).toNat = 4096 := rfl
      omega
    rw [if_neg hlimit]
    show _ ∨ _ ∧ ∃ result, _
    dsimp only [checkCondition, appMemoryManager, Option.map_some]
    rw [if_neg (k.flagged call.isWrite)]
    -- what the array permits is what the two checks of its flags let through
    by_cases hpermits : k.Permits call.isWrite call.server
    · obtain ⟨hsession, hlevel⟩ := (k.permits_iff call.isWrite call.server).mp hpermits
      simp only [if_pos hpermits, not_true_eq_false, if_false, hsession, hlevel]
      exact .inl ⟨k, rfl, rfl⟩
    · simp only [if_neg hpermits, not_true_eq_false, if_false]
      refine .inr ⟨trivial, ?_⟩
      rw [k.permits_iff, not_and_or, not_not, not_not] at hpermits
      by_cases hsession : k.region.flags &&& MemoryFlag.progOnly ≠ 0 ∧
          udsServerSession call.server ≠ sessionProgramming
      · exact ⟨.denied, UdsCallbackResult.noConfusion, if_pos hsession⟩
      · exact ⟨.securityDenied, UdsCallbackResult.noConfusion,
          (if_neg hsession).trans (if_pos (hpermits.resolve_left hsession))⟩

end Lands

/-! ## The arrays as one memory -/

section Bytes

variable {j k : AppArray} {r : MemoryRequest} {app : UdsMemoryApp} {a : UInt32}

@[simp] theorem AppArray.get_set (k : AppArray) (app : UdsMemoryApp) (bytes : Buf) :
    k.get (k.set app bytes) = bytes := by cases k <;> rfl

theorem AppArray.get_set_of_ne (h : j ≠ k) (app : UdsMemoryApp) (bytes : Buf) :
    j.get (k.set app bytes) = j.get app := by
  cases j <;> cases k <;> first | rfl | exact absurd rfl h

/-- The arrays do not overlap. -/
theorem AppArray.unique (hj : a - j.base < j.size) (hk : a - k.base < k.size) : j = k := by
  rw [UInt32.lt_iff_toNat_lt, UInt32.toNat_sub] at hj hk
  have ha := a.toNat_lt
  cases j <;> cases k <;> first
    | rfl
    | simp only [AppArray.base, AppArray.size, UInt32.reduceToNat] at hj hk
      omega

theorem byteOf_eq (h : a - k.base < k.size) (app : UdsMemoryApp) :
    app.byteOf a = k.get app (a - k.base).toNat := by
  unfold UdsMemoryApp.byteOf
  split
  next hnone =>
    have hmem : k ∈ appArrays := by cases k <;> decide
    exact absurd (decide_eq_true h) (List.find?_eq_none.mp hnone k hmem)
  next j hfind =>
    obtain rfl : j = k := AppArray.unique (by simpa using List.find?_some hfind) h
    rfl

theorem byteOf_set (k : AppArray) (app : UdsMemoryApp) (bytes : Buf) (a : UInt32) :
    (k.set app bytes).byteOf a
      = if a - k.base < k.size then bytes (a - k.base).toNat else app.byteOf a := by
  split
  next h => rw [byteOf_eq h, AppArray.get_set]
  next h =>
    unfold UdsMemoryApp.byteOf
    split
    next => rfl
    next j hfind =>
      have hj : a - j.base < j.size := by simpa using List.find?_some hfind
      rw [AppArray.get_set_of_ne]
      rintro rfl
      exact h hj

theorem AppArray.Holds.offset (h : k.Holds r) :
    (r.address - k.base).toNat + r.size.toNat ≤ k.size.toNat := by
  have hoffset := UInt32.toNat_sub_of_le r.address k.base h.1
  have hbelow := h.2
  have habove := UInt32.le_iff_toNat_le.mp h.1
  omega

/-- The drivers' own bound lets the range through. -/
theorem AppArray.Holds.inside (h : k.Holds r) : ¬k.size < r.address - k.base + r.size := by
  have hoffset := h.offset
  have hsize := k.size_le
  rw [UInt32.lt_iff_toNat_lt, UInt32.toNat_add]
  omega

theorem AppArray.Holds.has (h : k.Holds r) {a : UInt32} (ha : a - r.address < r.size) :
    a - k.base < k.size ∧
      (a - k.base).toNat = (r.address - k.base).toNat + (a - r.address).toNat := by
  have hoffset := h.offset
  have hsize := k.size_le
  rw [UInt32.lt_iff_toNat_lt] at ha ⊢
  -- the offset in the array is the one of the range and the one in the range
  have hsum : a - k.base = (r.address - k.base) + (a - r.address) := by grind
  have hnat : (a - k.base).toNat = (r.address - k.base).toNat + (a - r.address).toNat := by
    rw [hsum, UInt32.toNat_add, Nat.mod_eq_of_lt (by omega)]
  exact ⟨by omega, hnat⟩

/-- What lies between the offsets lies in the range. -/
theorem range_of_offset (hlow : (r.address - k.base).toNat ≤ (a - k.base).toNat)
    (hhigh : (a - k.base).toNat < (r.address - k.base).toNat + r.size.toNat) :
    a - r.address < r.size := by
  have hsub : a - r.address = (a - k.base) - (r.address - k.base) := by grind
  rw [UInt32.lt_iff_toNat_lt, hsub, UInt32.toNat_sub_of_le _ _ (UInt32.le_iff_toNat_le.mpr hlow)]
  omega

end Bytes

/-! ## One call -/

section Serve

variable {k : AppArray} {r : MemoryRequest} {call : MemoryCall}

theorem readArray_holds (h : k.Holds r) (w : MemoryWorld) :
    readArray k w r.address r.size
      = (.ok, (k.get w.1).slice (r.address - k.base).toNat r.size.toNat, w) :=
  if_neg h.inside

theorem writeArray_holds (h : k.Holds r) (w : MemoryWorld) {data : List UInt8}
    (hlen : data.length = r.size.toNat) :
    writeArray k w r.address data = (.ok, k.set w.1 ((k.get w.1).copy (r.address - k.base).toNat
      (Buf.ofList data) 0 r.size.toNat), w.2) := by
  unfold writeArray
  rw [hlen, UInt32.ofNat_toNat]
  exact if_neg h.inside

theorem readRegion_app (h : k.Holds r) (response : Buf) (w : MemoryWorld) :
    readRegion k.region r.address r.size response w
      = (.ok, response.copy 1 (k.get w.1) (r.address - k.base).toNat r.size.toNat, w) := by
  have hread : k.region.read = some (readArray k) := by cases k <;> rfl
  unfold readRegion
  rw [hread]
  dsimp only
  rw [readArray_holds h]
  dsimp only
  rw [Buf.length_slice, Buf.copy_ofList_slice _ _ (Nat.le_refl _)]

theorem writeRegion_app (h : k.Holds r) (w : MemoryWorld) {data : List UInt8}
    (hlen : r.size.toNat ≤ data.length) :
    writeRegion k.region r.address r.size data w
      = (.ok, k.set w.1 ((k.get w.1).copy (r.address - k.base).toNat
        (Buf.ofList (data.take r.size.toNat)) 0 r.size.toNat), w.2) := by
  have hwrite : k.region.write = some (writeArray k) := by cases k <;> rfl
  unfold writeRegion
  rw [hwrite]
  exact writeArray_holds h w (List.length_take_of_le hlen)

/-- The bytes of the range, as the array has them. -/
theorem slice_byteOf (h : k.Holds r) (app : UdsMemoryApp) :
    (k.get app).slice (r.address - k.base).toNat r.size.toNat
      = (List.range r.size.toNat).map fun i => app.byteOf (r.address + UInt32.ofNat i) := by
  refine List.map_congr_left fun i hi => ?_
  have hsize := r.size.toNat_lt
  have hi := List.mem_range.mp hi
  have hnat : (UInt32.ofNat i).toNat = i := UInt32.toNat_ofNat_of_lt' (hi.trans hsize)
  have hrange : r.address + UInt32.ofNat i - r.address = UInt32.ofNat i := by grind
  have hinside : r.address + UInt32.ofNat i - r.address < r.size := by
    rw [hrange, UInt32.lt_iff_toNat_lt, hnat]
    exact hi
  obtain ⟨hhas, hoffset⟩ := h.has hinside
  rw [byteOf_eq hhas, hoffset, hrange, hnat]

/-- What a call that lands leaves behind. -/
structure Landed (call : MemoryCall) (w : MemoryWorld) (k : AppArray) (r : MemoryRequest)
    (out : MemoryServed UdsMemoryApp) : Prop where
  lands : call.lands = some (k, r)
  world : out.world = if call.isWrite then
      (k.set w.1 ((k.get w.1).copy (r.address - k.base).toNat
        (Buf.ofList ((call.request.drop r.headerLen).take r.size.toNat)) 0 r.size.toNat), w.2)
    else w
  answered : out.result = .ok ↔ (call.answer w.1.byteOf r).length ≤ call.capacity.toNat
  response : out.result = .ok →
    out.response.slice 0 out.responseLen.toNat = call.answer w.1.byteOf r

/-- What a call that does not land leaves behind. -/
structure Refused (call : MemoryCall) (w : MemoryWorld) (out : MemoryServed UdsMemoryApp) :
    Prop where
  lands : call.lands = none
  world : out.world = w
  refused : out.result ≠ .ok

theorem read_cases (hread : call.isWrite = false) (w : MemoryWorld) :
    Refused call w (call.serve w) ∨ ∃ k r, Landed call w k r (call.serve w) := by
  unfold MemoryCall.serve
  rw [hread, if_neg Bool.false_ne_true]
  unfold udsMemoryReadHandler
  cases hparse : parseMemoryRequest call.request false with
  | error result =>
    have hlands : call.lands = none := by
      unfold MemoryCall.lands
      rw [hread, hparse]
    exact .inl ⟨hlands, rfl, parse_error hparse⟩
  | ok r =>
    -- validation asks what the table of regions asks
    have hvalid := validate_app call
      (show resolveManager none (some (appMemoryManager call.server)) = _ from rfl)
      (hread.symm ▸ hparse) 0x23
      (show maxReadSize (resolveManager none (some (appMemoryManager call.server))) = _ from rfl)
      (show MemoryFlag.read = _ by rw [hread]; rfl)
      (show MemoryFlag.secureRead = _ by rw [hread]; rfl) w
    dsimp only
    obtain ⟨k, hlands, hvalid⟩ | ⟨hlands, result, hresult, hvalid⟩ := hvalid
    · rw [hvalid]
      dsimp only
      obtain ⟨-, hholds, -⟩ := lands_some hlands
      have hsize := hholds.offset
      have hlimit := k.size_le
      -- no region is long enough for the length to wrap
      have hlength : (1 + r.size).toUInt16.toNat = r.size.toNat + 1 := by
        rw [responseLength_toNat, Nat.mod_eq_of_lt (by omega), Nat.add_comm]
      have hanswer : call.answer w.1.byteOf r
          = 0x63 :: (k.get w.1).slice (r.address - k.base).toNat r.size.toNat := by
        unfold MemoryCall.answer
        rw [hread, if_neg Bool.false_ne_true, slice_byteOf hholds]
      rw [readRegion_app hholds]
      refine .inr ⟨k, r, ?_⟩
      split
      next hroom =>
        rw [UInt16.lt_iff_toNat_lt, hlength] at hroom
        refine ⟨hlands, (by rw [hread, if_neg Bool.false_ne_true]),
          iff_of_false UdsCallbackResult.noConfusion ?_, fun h => UdsCallbackResult.noConfusion h⟩
        rw [hanswer, List.length_cons, Buf.length_slice]
        omega
      next hroom =>
        rw [UInt16.lt_iff_toNat_lt, hlength] at hroom
        dsimp only
        rw [if_neg (not_not_intro rfl)]
        refine ⟨hlands, (by rw [hread, if_neg Bool.false_ne_true]), iff_of_true rfl ?_,
          fun _ => ?_⟩
        · rw [hanswer, List.length_cons, Buf.length_slice]
          omega
        · dsimp only
          rw [hlength, hanswer, Buf.slice_succ, Buf.write_same]
          congr 1
          refine (Buf.slice_congr fun i hi => ?_).trans (Buf.slice_copy_self call.response _ 1 _ _)
          exact Buf.write_of_ne (by omega)
    · rw [hvalid]
      exact .inl ⟨hlands, rfl, hresult⟩

theorem write_cases (hwrite : call.isWrite = true) (w : MemoryWorld) :
    Refused call w (call.serve w) ∨ ∃ k r, Landed call w k r (call.serve w) := by
  unfold MemoryCall.serve
  rw [hwrite, if_pos rfl]
  unfold udsMemoryWriteHandler
  cases hparse : parseMemoryRequest call.request true with
  | error result =>
    have hlands : call.lands = none := by
      unfold MemoryCall.lands
      rw [hwrite, hparse]
    exact .inl ⟨hlands, rfl, parse_error hparse⟩
  | ok r =>
    obtain ⟨-, hheader, hdata⟩ := parse_ok hparse
    have hdata := hdata rfl
    have hvalid := validate_app call
      (show resolveManager none (some (appMemoryManager call.server)) = _ from rfl)
      (hwrite.symm ▸ hparse) 0x3D
      (show maxWriteSize (resolveManager none (some (appMemoryManager call.server))) = _ from rfl)
      (show MemoryFlag.write = _ by rw [hwrite]; rfl)
      (show MemoryFlag.secureWrite = _ by rw [hwrite]; rfl) w
    dsimp only
    obtain ⟨k, hlands, hvalid⟩ | ⟨hlands, result, hresult, hvalid⟩ := hvalid
    · obtain ⟨-, hholds, -⟩ := lands_some hlands
      have hanswer : call.answer w.1.byteOf r
          = 0x7D :: (call.request.drop 1).take (r.headerLen - 1) := by
        unfold MemoryCall.answer
        rw [hwrite, if_pos rfl]
      have hlength : (call.answer w.1.byteOf r).length = r.headerLen := by
        rw [hanswer, List.length_cons, List.length_take, List.length_drop]
        omega
      rw [hvalid]
      dsimp only
      rw [writeRegion_app hholds w (by rw [List.length_drop]; omega)]
      dsimp only
      rw [if_neg (not_not_intro rfl)]
      refine .inr ⟨k, r, ?_⟩
      -- the bytes are written by now, whether there is room to say so or not
      split
      next hroom =>
        exact ⟨hlands, (by rw [hwrite, if_pos rfl]),
          iff_of_false UdsCallbackResult.noConfusion (by rw [hlength]; omega),
          fun h => UdsCallbackResult.noConfusion h⟩
      next hroom =>
        refine ⟨hlands, (by rw [hwrite, if_pos rfl]),
          iff_of_true rfl (by rw [hlength]; omega), fun _ => ?_⟩
        have hcapacity := call.capacity.toNat_lt
        have hnat : (UInt16.ofNat r.headerLen).toNat = r.headerLen - 1 + 1 := by
          rw [UInt16.toNat_ofNat_of_lt' (show r.headerLen < 65536 by omega)]
          omega
        dsimp only
        rw [hnat, hanswer, Buf.slice_succ, Buf.copy_outside (by omega), Buf.write_same,
          Buf.slice_copy_self, Buf.slice_ofList_of_le (by omega)]
    · rw [hvalid]
      exact .inl ⟨hlands, rfl, hresult⟩

theorem serve_cases (call : MemoryCall) (w : MemoryWorld) :
    Refused call w (call.serve w) ∨ ∃ k r, Landed call w k r (call.serve w) := by
  cases hwrite : call.isWrite with
  | true => exact write_cases hwrite w
  | false => exact read_cases hwrite w

end Serve

/-! ## Runs -/

/-- A call lays what it writes over the memory. -/
theorem byteOf_step (w : MemoryWorld) (call : MemoryCall) (a : UInt32) :
    (memoryStep w call).1.byteOf a = (call.puts a).getD (w.1.byteOf a) := by
  unfold memoryStep MemoryCall.puts
  obtain h | ⟨k, r, h⟩ := serve_cases call w
  · rw [h.world, h.lands]
    rfl
  · rw [h.world, h.lands]
    dsimp only
    cases hwrite : call.isWrite with
    | false =>
      rw [if_neg Bool.false_ne_true, if_neg fun hw => Bool.false_ne_true hw.1]
      rfl
    | true =>
      obtain ⟨hparse, hholds, -⟩ := lands_some h.lands
      obtain ⟨-, -, hdata⟩ := parse_ok hparse
      have hdata := hdata hwrite
      rw [if_pos rfl, byteOf_set]
      by_cases hrange : a - r.address < r.size
      · obtain ⟨hhas, hoffset⟩ := hholds.has hrange
        have hlt := UInt32.lt_iff_toNat_lt.mp hrange
        rw [if_pos hhas, if_pos ⟨rfl, hrange⟩, hoffset, Buf.copy_inside hlt, Nat.zero_add]
        simp [Buf.ofList, byteAt, List.getD_eq_getElem?_getD, hlt]
      · -- a byte of the array beside the range is not copied over
        rw [if_neg (show ¬(true = true ∧ a - r.address < r.size) from fun hw => hrange hw.2)]
        split
        next hhas =>
          rw [byteOf_eq hhas]
          refine Buf.copy_outside ?_
          by_contra hinside
          have hlow : (r.address - k.base).toNat ≤ (a - k.base).toNat := by omega
          exact hrange (range_of_offset hlow (by omega))
        next => rfl

theorem memoryStep_outside (w : MemoryWorld) (call : MemoryCall) : (memoryStep w call).2 = w.2 := by
  unfold memoryStep
  obtain h | ⟨k, r, h⟩ := serve_cases call w
  · rw [h.world]
  · rw [h.world]
    split <;> rfl

/-- The byte that was put at the address last, or else the one the array was filled with. -/
def heldByte (calls : List MemoryCall) (a : UInt32) : UInt8 :=
  (lastPut (calls.map MemoryCall.puts) a).getD (udsMemoryAppInit.byteOf a)

/-- **The memory as it was written.** After any run of calls each byte of the arrays is the one
that was put there last, and nothing beside the arrays has changed. And the next call is answered
positively exactly if it lands and has the room, a read with the bytes that are held. -/
theorem memory_app_runs (memory : Memory) (calls : List MemoryCall) (call : MemoryCall) :
    let w := run memoryStep (udsMemoryAppInit, memory) calls
    (∀ a, w.1.byteOf a = heldByte calls a) ∧ w.2 = memory ∧
      ((call.serve w).result = .ok ↔ ∃ k r, call.lands = some (k, r) ∧
        (call.answer (heldByte calls) r).length ≤ call.capacity.toNat) ∧
      ∀ k r, call.lands = some (k, r) → (call.serve w).result = .ok →
        (call.serve w).response.slice 0 (call.serve w).responseLen.toNat
          = call.answer (heldByte calls) r := by
  intro w
  have hbytes : w.1.byteOf = heldByte calls :=
    funext (look_run (fun w => w.1.byteOf) (I := fun _ => True) (fun _ _ _ => trivial)
      (fun w call a _ => byteOf_step w call a) (s := (udsMemoryAppInit, memory)) trivial calls)
  have hmemory : w.2 = memory :=
    run_inv (fun w call h => (memoryStep_outside w call).trans h) rfl calls
  refine ⟨congrFun hbytes, hmemory, ?_⟩
  obtain h | ⟨k, r, h⟩ := serve_cases call w
  · refine ⟨iff_of_false h.refused ?_, fun k r hlands => ?_⟩
    · rintro ⟨k, r, hlands, -⟩
      exact absurd (h.lands.symm.trans hlands) (by simp)
    · exact absurd (h.lands.symm.trans hlands) (by simp)
  · have hunique : ∀ {k' r'}, call.lands = some (k', r') → r' = r := fun hlands =>
      (Prod.mk.inj (Option.some.inj (hlands.symm.trans h.lands))).2
    rw [← hbytes]
    refine ⟨h.answered.trans ⟨fun hroom => ⟨k, r, h.lands, hroom⟩, ?_⟩, ?_⟩
    · rintro ⟨k', r', hlands, hroom⟩
      exact hunique hlands ▸ hroom
    · rintro k' r' hlands hok
      exact hunique hlands ▸ h.response hok

/-- Four bytes of calibration are written from `0x20004000` on. -/
example : heldByte [⟨true, none, [0x3D, 0x14, 0x20, 0x00, 0x40, 0x00, 0x04, 0x12, 0x34, 0x56,
    0x78], fun _ => 0, 0, 256⟩] 0x20004001 = 0x34 := by decide

end UdsIsoTp.App
