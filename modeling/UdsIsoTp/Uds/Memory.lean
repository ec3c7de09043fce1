import UdsIsoTp.Uds.Types

/-!
# Memory services

`uds_memory.c`: ReadMemoryByAddress and WriteMemoryByAddress over a table of regions.

A region is served by its own driver or, without one, by a direct copy; `Memory` is what such
a copy reads and writes, and the drivers may do the same. What a handler leaves behind says
which access it made, if it made one (`MemoryAccess`): where, how much, in which region, and
what the driver said.
-/

namespace UdsIsoTp.Uds

variable {ω : Type}

/-- The bytes behind the addresses. -/
abbrev Memory := UInt32 → UInt8

/-- The world of the drivers, with the memory beside it. -/
abbrev Mapped (ω : Type) := ω × Memory

/-- `(const void *)(uintptr_t)address` -/
def Memory.from (memory : Memory) (address : UInt32) : Buf :=
  fun i => memory (address + UInt32.ofNat i)

/-- `memcpy((void *)(uintptr_t)address, data, size)` -/
def Memory.store (memory : Memory) (address : UInt32) (data : Buf) (size : UInt32) : Memory :=
  fun a => if a - address < size then data (a - address).toNat else memory a

namespace MemoryFlag

/-- `UDS_MEMORY_FLAG_READ` -/
def read : UInt32 := 0x01
/-- `UDS_MEMORY_FLAG_WRITE` -/
def write : UInt32 := 0x02
/-- `UDS_MEMORY_FLAG_SECURE_READ` -/
def secureRead : UInt32 := 0x04
/-- `UDS_MEMORY_FLAG_SECURE_WRITE` -/
def secureWrite : UInt32 := 0x08
/-- `UDS_MEMORY_FLAG_PROG_ONLY` -/
def progOnly : UInt32 := 0x10

end MemoryFlag

/-- A stretch of memory, what may be done with it, and its drivers. -/
structure UdsMemoryRegion (ω : Type) where
  startAddress : UInt32
  size : UInt32
  flags : UInt32
  /-- `read(driver_ctx, address, data, length)`, which answers with the bytes it put at `data`. -/
  read : Option (Mapped ω → UInt32 → UInt32 → UdsCallbackResult × List UInt8 × Mapped ω)
  /-- `write(driver_ctx, address, data, length)` -/
  write : Option (Mapped ω → UInt32 → List UInt8 → UdsCallbackResult × Mapped ω)

/-- The regions, how much one request may ask for, and who else has a say. -/
structure UdsMemoryConfig (ω : Type) where
  regions : Option (List (UdsMemoryRegion ω))
  maxReadSize : UInt32
  maxWriteSize : UInt32
  conditionCheck : Option (Mapped ω → UInt8 → UInt32 → UInt32 → Bool × Mapped ω)
  server : Option (UdsServer (Mapped ω))

/-- `uds_memory_manager_t` -/
structure UdsMemoryManager (ω : Type) where
  config : UdsMemoryConfig ω

/-- The context, or else the manager that was initialised last. -/
def resolveManager (context active : Option (UdsMemoryManager ω)) : Option (UdsMemoryManager ω) :=
  context.or active

/-! ## Requests -/

/-- The lengths of the address and of the size. -/
def udsMemoryDecodeAlfid (alfid : UInt8) : Option (Nat × Nat) :=
  let a := alfid &&& 0x0F
  let s := (alfid >>> 4) &&& 0x0F
  if a < 1 ∨ 4 < a ∨ s < 1 ∨ 4 < s then none else some (a.toNat, s.toNat)

/-- What the header of a request says. -/
structure MemoryRequest where
  headerLen : Nat
  address : UInt32
  size : UInt32
  deriving DecidableEq

/-- Reads the header; a write must also bring as many bytes as it announces. -/
def parseMemoryRequest (request : List UInt8) (isWrite : Bool) :
    Except UdsCallbackResult MemoryRequest :=
  if request.length < (if isWrite then 5 else 4) then .error .invalidFormat
  else
    match udsMemoryDecodeAlfid (byteAt request 1) with
    | none => .error .outOfRange
    | some (addrLen, sizeLen) =>
      let headerLen := 2 + addrLen + sizeLen
      let address := readBeU32 request 2 addrLen
      let size := readBeU32 request (2 + addrLen) sizeLen
      -- a write carries its data, and the sum of the lengths is taken in 32 bits
      let malformed := if isWrite then
          decide (request.length ≤ headerLen) ||
            UInt32.ofNat headerLen + size != UInt32.ofNat request.length
        else request.length != headerLen
      if malformed then .error .invalidFormat
      else if size = 0 then .error .outOfRange
      else .ok ⟨headerLen, address, size⟩

/-! ## Access -/

/-- The first region that the range lies in. -/
def findRegion (config : UdsMemoryConfig ω) (address size : UInt32) :
    Option (UdsMemoryRegion ω) :=
  match config.regions with
  | none => none
  | some regions =>
    if size = 0 then none
    else
      -- both ends are 64-bit, where no sum of two 32-bit numbers wraps
      let endAddr := address.toNat + size.toNat
      if 0x100000000 < endAddr then none
      else
        regions.find? fun reg => decide (reg.startAddress ≤ address) &&
          decide (endAddr ≤ reg.startAddress.toNat + reg.size.toNat)

/-- The session of the server, the default one when there is no server. -/
def udsServerSession (server : Option (UdsServer ω)) : UInt8 :=
  match server with
  | some server => server.session
  | none => sessionDefault

/-- The unlocked level, 0 when there is no server. -/
def udsServerSecurityLevel (server : Option (UdsServer ω)) : UInt8 :=
  match server with
  | some server => server.securityGate.activeLevel
  | none => 0

/-- `condition_check`, which without one is met. -/
def checkCondition (config : UdsMemoryConfig ω) (sid : UInt8) (address size : UInt32)
    (w : Mapped ω) : Bool × Mapped ω :=
  match config.conditionCheck with
  | some check => check w sid address size
  | none => (true, w)

/-- `validate_memory_access`: the size and the owner's condition check come before the region, whose
flags may ask for a session and an unlocked server. -/
def validateMemoryAccess (mgr : Option (UdsMemoryManager ω)) (sid : UInt8)
    (address size maxSize flagReq flagSec : UInt32) (w : Mapped ω) :
    Except UdsCallbackResult (UdsMemoryRegion ω) × Mapped ω :=
  match mgr with
  | none => (.error .outOfRange, w)
  | some mgr =>
    if mgr.config.regions.isNone then (.error .outOfRange, w)
    else if 0 < maxSize ∧ maxSize < size then (.error .outOfRange, w)
    else
      let (allowed, w) := checkCondition mgr.config sid address size w
      if ¬allowed then (.error .denied, w)
      else
        match findRegion mgr.config address size with
        | none => (.error .outOfRange, w)
        | some reg =>
          if reg.flags &&& flagReq = 0 then (.error .outOfRange, w)
          else if reg.flags &&& MemoryFlag.progOnly ≠ 0 ∧
              udsServerSession mgr.config.server ≠ sessionProgramming then (.error .denied, w)
          else if reg.flags &&& flagSec ≠ 0 ∧
              udsServerSecurityLevel mgr.config.server = 0 then (.error .securityDenied, w)
          else (.ok reg, w)

/-- An access to memory that a handler made, and what the driver said; a copy always succeeds. -/
structure MemoryAccess (ω : Type) where
  region : UdsMemoryRegion ω
  address : UInt32
  size : UInt32
  result : UdsCallbackResult

/-- What a request has left behind, and the one driver call it has made. -/
structure MemoryServed (ω : Type) where
  result : UdsCallbackResult
  response : Buf
  responseLen : UInt16
  world : Mapped ω
  access : Option (MemoryAccess ω)

/-- The most a read may ask for, 0 without a manager. -/
def maxReadSize (mgr : Option (UdsMemoryManager ω)) : UInt32 :=
  match mgr with
  | some mgr => mgr.config.maxReadSize
  | none => 0

/-- The most a write may bring, 0 without a manager. -/
def maxWriteSize (mgr : Option (UdsMemoryManager ω)) : UInt32 :=
  match mgr with
  | some mgr => mgr.config.maxWriteSize
  | none => 0

/-- `reg->read`, or the copy in its place, into what `response[1]` points to. -/
def readRegion (reg : UdsMemoryRegion ω) (address size : UInt32) (response : Buf)
    (w : Mapped ω) : UdsCallbackResult × Buf × Mapped ω :=
  match reg.read with
  | some read =>
    let (result, data, w) := read w address size
    (result, response.copy 1 (Buf.ofList data) 0 data.length, w)
  | none => (.ok, response.copy 1 (w.2.from address) 0 size.toNat, w)

/-- `reg->write`, or the copy in its place. -/
def writeRegion (reg : UdsMemoryRegion ω) (address size : UInt32) (data : List UInt8)
    (w : Mapped ω) : UdsCallbackResult × Mapped ω :=
  match reg.write with
  | some write => write w address (data.take size.toNat)
  | none => (.ok, w.1, w.2.store address (Buf.ofList data) size)

/-! ## Handlers -/

/-- The service 0x23. -/
def udsMemoryReadHandler (context active : Option (UdsMemoryManager ω)) (request : List UInt8)
    (response : Buf) (responseLen capacity : UInt16) (w : Mapped ω) : MemoryServed ω :=
  match parseMemoryRequest request false with
  | .error result => ⟨result, response, responseLen, w, none⟩
  | .ok ⟨_, address, size⟩ =>
    let mgr := resolveManager context active
    match validateMemoryAccess mgr 0x23 address size (maxReadSize mgr) MemoryFlag.read
        MemoryFlag.secureRead w with
    | (.error result, w) => ⟨result, response, responseLen, w, none⟩
    | (.ok reg, w) =>
      if capacity < (1 + size).toUInt16 then ⟨.responseTooLong, response, responseLen, w, none⟩
      else
        let (result, response, w) := readRegion reg address size response w
        let access := some ⟨reg, address, size, result⟩
        if result ≠ .ok then ⟨result, response, responseLen, w, access⟩
        else ⟨.ok, response.write 0 0x63, (1 + size).toUInt16, w, access⟩

/-- The service 0x3D. -/
def udsMemoryWriteHandler (context active : Option (UdsMemoryManager ω)) (request : List UInt8)
    (response : Buf) (responseLen capacity : UInt16) (w : Mapped ω) : MemoryServed ω :=
  match parseMemoryRequest request true with
  | .error result => ⟨result, response, responseLen, w, none⟩
  | .ok ⟨headerLen, address, size⟩ =>
    let mgr := resolveManager context active
    match validateMemoryAccess mgr 0x3D address size (maxWriteSize mgr) MemoryFlag.write
        MemoryFlag.secureWrite w with
    | (.error result, w) => ⟨result, response, responseLen, w, none⟩
    | (.ok reg, w) =>
      let (result, w) := writeRegion reg address size (request.drop headerLen) w
      let access := some ⟨reg, address, size, result⟩
      if result ≠ .ok then ⟨result, response, responseLen, w, access⟩
      -- only now, with the bytes written, is the room for the response looked at
      else if capacity.toNat < headerLen then
        ⟨.responseTooLong, response, responseLen, w, access⟩
      else
        ⟨.ok, (response.write 0 0x7D).copy 1 (Buf.ofList request) 1 (headerLen - 1),
          UInt16.ofNat headerLen, w, access⟩

end UdsIsoTp.Uds
