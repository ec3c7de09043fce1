import UdsIsoTp.Flash.ParamStore
import UdsIsoTp.Lib.Bytes

/-!
# The anti-rollback floor

`boot_floor.c`: the lowest firmware version that may still be installed, kept as a record in
a parameter store of its own. The floor is closed (`UINT32_MAX`) until a record, or the
absence of any, says otherwise.
-/

namespace UdsIsoTp.Flash

variable {ω : Type}

/-- `FLOOR_MAGIC` -/
def floorMagic : UInt32 := 0x464C5231

/-- What the store keeps of the floor. -/
structure FloorRecord where
  magic : UInt32
  floor : UInt32
  check : UInt32
  reserved : UInt32

/-- `sizeof(FloorRecord)` -/
def floorRecordSize : UInt16 := 16

/-- `floor_check` -/
def floorCheck (r : FloorRecord) : UInt32 := ~~~(r.magic ^^^ r.floor)

/-- The record as its bytes lie in memory. -/
def FloorRecord.encode (r : FloorRecord) : List UInt8 :=
  putU32Le r.magic ++ putU32Le r.floor ++ putU32Le r.check ++ putU32Le r.reserved

/-- Reads the fields off the bytes. -/
def FloorRecord.decode (bytes : List UInt8) : FloorRecord where
  magic := getU32Le bytes 0
  floor := getU32Le bytes 4
  check := getU32Le bytes 8
  reserved := getU32Le bytes 12

/-- The record of a floor. -/
def floorRecord (floor : UInt32) : FloorRecord :=
  let r : FloorRecord := ⟨floorMagic, floor, 0, 0⟩
  { r with check := floorCheck r }

/-- `UINT32_MAX` -/
def floorClosed : UInt32 := 0xFFFFFFFF

/-- A floor is `ready` when it has a store. -/
structure UdsBootFloor (ω : Type) where
  store : Option (UdsParamStore ω)
  floor : UInt32

/-- The floor that a record says, if it is one. -/
def floorOf (r : FloorRecord) : UInt32 :=
  if r.magic ≠ floorMagic ∨ r.check ≠ floorCheck r then floorClosed else r.floor

/-- `boot_floor_init`, and what it returns. -/
def bootFloorInit (port : UdsFlashPort ω) (flashBase : UInt32) (sectorCount : UInt8) (w : ω) :
    Bool × UdsBootFloor ω × ω :=
  if sectorCount < 2 then (false, ⟨none, floorClosed⟩, w)
  else
    match udsParamInit port flashBase sectorCount floorRecordSize w with
    | (none, w) => (false, ⟨none, floorClosed⟩, w)
    | (some store, w) =>
      if ¬store.hasActiveSlot then (true, ⟨some store, 0⟩, w)
      else
        match udsParamLoad store [] w with
        | (.ok, data, w) => (true, ⟨some store, floorOf (FloorRecord.decode data)⟩, w)
        | (_, _, w) => (true, ⟨some store, floorClosed⟩, w)

/-- `boot_floor_get` -/
def bootFloorGet (bf : UdsBootFloor ω) : UInt32 := bf.floor

/-- `boot_floor_raise`: never down, and the new floor counts only when it is stored. -/
def bootFloorRaise (bf : UdsBootFloor ω) (newFloor : UInt32) (w : ω) :
    Bool × UdsBootFloor ω × ω :=
  match bf.store with
  | none => (false, bf, w)
  | some store =>
    if newFloor ≤ bf.floor then (true, bf, w)
    else
      let (status, store, w) := udsParamSave store (Buf.ofList (floorRecord newFloor).encode) w
      let bf := { bf with store := some store }
      if status ≠ .ok then (false, bf, w)
      else
        let (status, back, w) := udsParamLoad store [] w
        if status ≠ .ok ∨ (FloorRecord.decode back).floor ≠ newFloor then (false, bf, w)
        else (true, { bf with floor := newFloor }, w)

end UdsIsoTp.Flash
