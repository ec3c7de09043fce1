import UdsIsoTp.Lib.Buffer

/-!
# The flash state machine

`uds_flash_fsm.c`: writes of up to 256 bytes and erasures of ranges, requested at once and carried
out by `Flash_MainFunction`, one driver call at a time. The module's one context is passed in and
handed back; `ω` is what stands behind the driver's two functions. Without a driver function the
step counts as done.
-/

namespace UdsIsoTp.Flash

variable {ω : Type}

/-- Where the state machine stands. -/
inductive FlashState where
  | idle
  | write
  | writeDone
  | writeFail
  | erase
  | eraseDone
  | eraseFail
  deriving DecidableEq, Repr

/-- `FLASH_FSM_CHUNK_SIZE` -/
def flashFsmChunkSize : UInt16 := 256

/-- `FlashIf_WriteFn`: `true` for a write that has succeeded. -/
abbrev FlashWriteFn (ω : Type) := ω → UInt32 → List UInt8 → Bool × ω

/-- `FlashIf_EraseFn` -/
abbrev FlashEraseFn (ω : Type) := ω → UInt32 → Bool × ω

/-- The statics of `uds_flash_fsm.c`. -/
structure FlashContext (ω : Type) where
  state : FlashState
  writeData : Buf
  writeLength : UInt16
  startAddr : UInt32
  totalSize : UInt32
  curAddr : UInt32
  writtenSize : UInt32
  eraseAddr : UInt32
  rangeEraseStart : UInt32
  rangeEraseEnd : UInt32
  rangeEraseCur : UInt32
  rangeEraseSectorSize : UInt32
  writeFn : Option (FlashWriteFn ω)
  eraseFn : Option (FlashEraseFn ω)

/-- `Flash_Init`: idle, and no drivers. -/
def flashInit : FlashContext ω where
  state := .idle
  writeData := fun _ => 0
  writeLength := 0
  startAddr := 0
  totalSize := 0
  curAddr := 0
  writtenSize := 0
  eraseAddr := 0
  rangeEraseStart := 0
  rangeEraseEnd := 0
  rangeEraseCur := 0
  rangeEraseSectorSize := 0
  writeFn := none
  eraseFn := none

/-- `Flash_SetHardwareInterface` -/
def flashSetHardwareInterface (ctx : FlashContext ω) (writeFn : Option (FlashWriteFn ω))
    (eraseFn : Option (FlashEraseFn ω)) : FlashContext ω :=
  { ctx with
    writeFn := writeFn
    eraseFn := eraseFn }

/-- `Flash_ContextClear`: as at the start, except for the drivers. -/
def flashContextClear (ctx : FlashContext ω) : FlashContext ω :=
  { (flashInit : FlashContext ω) with
    writeFn := ctx.writeFn
    eraseFn := ctx.eraseFn }

/-- `Flash_SetWriteInfo`: where the next writes go, and how much they may be. -/
def flashSetWriteInfo (ctx : FlashContext ω) (memoryAddr memorySize : UInt32) : FlashContext ω :=
  { flashContextClear ctx with
    startAddr := memoryAddr
    curAddr := memoryAddr
    totalSize := memorySize
    writtenSize := 0 }

/-- `Flash_RequestWrite`; no payload is a `NULL` pointer. -/
def flashRequestWrite (ctx : FlashContext ω) (payload : Option Buf) (length : UInt16) :
    Bool × FlashContext ω :=
  match payload with
  | none => (false, ctx)
  | some payload =>
    if length = 0 ∨ flashFsmChunkSize < length then (false, ctx)
    else if ctx.state ≠ .idle ∧ ctx.state ≠ .writeDone then (false, ctx)
    else
      (true, { ctx with
        writeData := ctx.writeData.copy 0 payload 0 length.toNat
        writeLength := length
        state := .write })

/-- The states in which an erasure may be requested. -/
def FlashState.admitsErase (state : FlashState) : Bool :=
  state == .idle || state == .eraseDone || state == .writeDone

/-- `Flash_RequestErase`, of the one sector at the address. -/
def flashRequestErase (ctx : FlashContext ω) (addr : UInt32) : Bool × FlashContext ω :=
  if ¬ctx.state.admitsErase then (false, ctx)
  else
    (true, { ctx with
      eraseAddr := addr
      rangeEraseStart := addr
      rangeEraseEnd := addr + 1
      rangeEraseCur := addr
      rangeEraseSectorSize := 1
      state := .erase })

/-- `Flash_RequestRangeErase`; the end of the range is a 32-bit sum. -/
def flashRequestRangeErase (ctx : FlashContext ω) (startAddr length sectorSize : UInt32) :
    Bool × FlashContext ω :=
  if length = 0 ∨ sectorSize = 0 then (false, ctx)
  else if ¬ctx.state.admitsErase then (false, ctx)
  else
    (true, { ctx with
      eraseAddr := startAddr
      rangeEraseStart := startAddr
      rangeEraseEnd := startAddr + length
      rangeEraseCur := startAddr
      rangeEraseSectorSize := sectorSize
      state := .erase })

/-- `Flash_StateClear` -/
def flashStateClear (ctx : FlashContext ω) : FlashContext ω := { ctx with state := .idle }

/-- `Flash_MainFunction`: one driver call, when one is due. -/
def flashMainFunction (ctx : FlashContext ω) (w : ω) : FlashContext ω × ω :=
  match ctx.state with
  | .idle => (ctx, w)
  | .writeDone => (ctx, w)
  | .writeFail => (ctx, w)
  | .eraseDone => (ctx, w)
  | .eraseFail => (ctx, w)
  | .write =>
    let (ok, w) := match ctx.writeFn with
      | some write => write w ctx.curAddr (ctx.writeData.slice 0 ctx.writeLength.toNat)
      | none => (true, w)
    if ok then
      ({ ctx with
        curAddr := ctx.curAddr + ctx.writeLength.toUInt32
        writtenSize := ctx.writtenSize + ctx.writeLength.toUInt32
        state := .writeDone }, w)
    else ({ ctx with state := .writeFail }, w)
  | .erase =>
    let (ok, w) := match ctx.eraseFn with
      | some erase => erase w ctx.rangeEraseCur
      | none => (true, w)
    if ¬ok then ({ ctx with state := .eraseFail }, w)
    else
      let cur := ctx.rangeEraseCur + ctx.rangeEraseSectorSize
      ({ ctx with
        rangeEraseCur := cur
        state := if ctx.rangeEraseEnd ≤ cur then .eraseDone else .erase }, w)

/-! ## Drivers that note down what they are asked to do -/

/-- What happens to the flash, in the order it happens. -/
inductive FlashEvent where
  /-- A write information was set. -/
  | begun (addr : UInt32)
  /-- A write request was accepted. -/
  | accepted (data : List UInt8)
  /-- The driver was asked to write. -/
  | wrote (addr : UInt32) (data : List UInt8) (ok : Bool)
  /-- The driver was asked to erase. -/
  | erased (addr : UInt32) (ok : Bool)
  deriving DecidableEq

/-- The world of the drivers, with the events beside it. -/
abbrev Logged (ω : Type) := ω × List FlashEvent

/-- The driver, with each of its calls noted. -/
def notedWrite (write : FlashWriteFn ω) : FlashWriteFn (Logged ω) := fun w addr data =>
  let (ok, left) := write w.1 addr data
  (ok, left, w.2 ++ [.wrote addr data ok])

/-- The driver, with each of its calls noted. -/
def notedErase (erase : FlashEraseFn ω) : FlashEraseFn (Logged ω) := fun w addr =>
  let (ok, left) := erase w.1 addr
  (ok, left, w.2 ++ [.erased addr ok])

end UdsIsoTp.Flash
