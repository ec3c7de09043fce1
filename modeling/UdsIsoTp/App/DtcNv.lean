import UdsIsoTp.App.DtcTable
import UdsIsoTp.Flash.ParamStore
import UdsIsoTp.Lib.Codec

/-!
# Saving the table of trouble codes

`uds_dtc_app_save_to_nvm` writes the records that the table shows into a block, with the
first eight of their snapshots, and saves it in a parameter store;
`uds_dtc_app_load_from_nvm` goes through the entries of the block one by one. A code that the
table does not know becomes a new record.

`nvBlockCodec` is the layout of `UdsDtcNvBlock` with the padding that its alignment asks
for. The store and the flash behind it are the world of these functions; the storage of the
application only has a pointer to the store.
-/

namespace UdsIsoTp.App

open UdsIsoTp.Flash

variable {ω : Type}

/-! ## The block -/

/-- `UDS_DTC_NV_MAX_SNAPSHOTS` -/
def dtcNvMaxSnapshots : Nat := 8

/-- `UDS_DTC_NV_MAGIC` -/
def dtcNvMagic : UInt16 := 0xD7C1

/-- `UDS_DTC_NV_VERSION` -/
def dtcNvVersion : UInt8 := 1

/-- An element of `records`. -/
structure UdsDtcNvRecord where
  dtcNumber : UInt32
  statusByte : UInt8
  severity : UInt8
  functionalUnit : UInt8
  faultCounter : Int8
  occurrenceCounter : UInt8
  pendingCounter : UInt8
  agingCounter : UInt8
  agedCounter : UInt8
  active : Bool

/-- A snapshot as the store has it. -/
structure UdsDtcNvSnapshot where
  dtcNumber : UInt32
  recordNum : UInt8
  length : UInt8
  data : Vector UInt8 dtcAppSnapshotSize

/-- Everything the store has of the table, arrays at their full length. -/
structure UdsDtcNvBlock where
  magic : UInt16
  version : UInt8
  recordCount : UInt8
  snapshotCount : UInt8
  records : Vector UdsDtcNvRecord dtcAppMaxRecords
  snapshots : Vector UdsDtcNvSnapshot dtcNvMaxSnapshots

/-- Three bytes of padding bring the next record to a multiple of four. -/
def nvRecordCodec : Codec UdsDtcNvRecord :=
  ((Codec.u32.seq <| .seq .u8 <| .seq .u8 <| .seq .u8 <| .seq .i8 <| .seq .u8 <| .seq .u8 <|
    .seq .u8 <| .seq .u8 <| .bool).padded 3).via
    (fun (number, status, severity, unit, fault, occurrence, pending, aging, aged, active) =>
      ⟨number, status, severity, unit, fault, occurrence, pending, aging, aged, active⟩)
    (fun r => (r.dtcNumber, r.statusByte, r.severity, r.functionalUnit, r.faultCounter,
      r.occurrenceCounter, r.pendingCounter, r.agingCounter, r.agedCounter, r.active))
    fun _ => rfl

/-- `_pad` is before the data, and another byte of padding behind them. -/
def nvSnapshotCodec : Codec UdsDtcNvSnapshot :=
  ((Codec.u32.seq <| .seq .u8 <| .seq (Codec.padded .u8 1) <|
    .array .u8 dtcAppSnapshotSize).padded 1).via
    (fun (number, recordNum, length, data) => ⟨number, recordNum, length, data⟩)
    (fun s => (s.dtcNumber, s.recordNum, s.length, s.data)) fun _ => rfl

/-- The block as a run of bytes, with the padding the compiler puts in. -/
def nvBlockCodec : Codec UdsDtcNvBlock :=
  (Codec.u16.seq <| .seq .u8 <| .seq .u8 <| .seq (Codec.padded .u8 3) <|
    .seq (.array nvRecordCodec dtcAppMaxRecords) <|
    .array nvSnapshotCodec dtcNvMaxSnapshots).via
    (fun (magic, version, records, snapshots, recordArray, snapshotArray) =>
      ⟨magic, version, records, snapshots, recordArray, snapshotArray⟩)
    (fun b => (b.magic, b.version, b.recordCount, b.snapshotCount, b.records, b.snapshots))
    fun _ => rfl

/-- `sizeof(UdsDtcNvBlock)` -/
def nvBlockSize : UInt16 := 1480

theorem nvBlockCodec_width : nvBlockCodec.width = nvBlockSize.toNat := rfl

/-! ## Saving -/

/-- An array that begins with the elements of `l`. -/
def arrayOf {α : Type} {n : Nat} (l : List α) (zero : α) : Vector α n :=
  Vector.ofFn fun i => l.getD i zero

/-- What the store keeps of a record. -/
def nvRecordOf (rec : UdsDtcAppRecord) : UdsDtcNvRecord where
  dtcNumber := rec.dtcNumber
  statusByte := rec.statusByte
  severity := rec.severity
  functionalUnit := rec.functionalUnit
  faultCounter := rec.faultCounter
  occurrenceCounter := rec.occurrenceCounter
  pendingCounter := rec.pendingCounter
  agingCounter := rec.agingCounter
  agedCounter := rec.agedCounter
  active := rec.active

/-- What the store keeps of a record's snapshot; its length is cut to eight bits. -/
def nvSnapshotOf (rec : UdsDtcAppRecord) : UdsDtcNvSnapshot where
  dtcNumber := rec.dtcNumber
  recordNum := rec.snapshotRecordNum
  length := UInt8.ofNat rec.snapshotData.length
  data := arrayOf rec.snapshotData 0

/-- The elements of the block that are written so far. -/
structure NvContents where
  records : List UdsDtcNvRecord
  snapshots : List UdsDtcNvSnapshot

/-- A record with a snapshot to be saved. -/
def ShowsSnapshot (rec : UdsDtcAppRecord) : Prop := rec.hasSnapshot ∧ rec.snapshotData ≠ []

instance (rec : UdsDtcAppRecord) : Decidable (ShowsSnapshot rec) :=
  inferInstanceAs (Decidable (_ ∧ _))

/-- The body of the loop in `uds_dtc_app_save_to_nvm`. -/
def saveRecord (contents : NvContents) (rec : UdsDtcAppRecord) : NvContents where
  records := contents.records ++ [nvRecordOf rec]
  snapshots :=
    if ShowsSnapshot rec ∧ contents.snapshots.length < dtcNvMaxSnapshots then
      contents.snapshots ++ [nvSnapshotOf rec]
    else contents.snapshots

/-- The block that a save writes. -/
def nvBlockOf (app : UdsDtcAppStorage) : UdsDtcNvBlock :=
  let contents := (allRecords app).foldl saveRecord ⟨[], []⟩
  { magic := dtcNvMagic
    version := dtcNvVersion
    recordCount := UInt8.ofNat (getTotalRecordCount app)
    snapshotCount := UInt8.ofNat contents.snapshots.length
    records := arrayOf contents.records ⟨0, 0, 0, 0, 0, 0, 0, 0, 0, false⟩
    snapshots := arrayOf contents.snapshots ⟨0, 0, 0, arrayOf [] 0⟩ }

/-- `uds_dtc_app_save_to_nvm` -/
def udsDtcAppSaveToNvm (app : UdsDtcAppStorage) (w : UdsParamStore ω × ω) :
    Bool × UdsParamStore ω × ω :=
  if ¬app.nvmAttached then (false, w)
  else
    let (status, w) := udsParamSave w.1 (Buf.ofList (nvBlockCodec.encode (nvBlockOf app))) w.2
    (status = .ok, w)

/-! ## Loading -/

/-- The fields of a status that the block has. -/
def restoreStatus (r : UdsDtcNvRecord) (ram : UdsDtcRamStatus) : UdsDtcRamStatus :=
  { ram with
    statusByte := r.statusByte
    faultCounter := r.faultCounter
    occurrenceCounter := r.occurrenceCounter
    pendingCounter := r.pendingCounter
    agingCounter := r.agingCounter
    agedCounter := r.agedCounter
    active := r.active }

/-- A new record takes memory that has been zero since `uds_dtc_app_init`. -/
def restoreRecord (app : UdsDtcAppStorage) (r : UdsDtcNvRecord) : UdsDtcAppStorage :=
  match findDtcIndex app r.dtcNumber with
  | some idx => setRamStatus app idx (restoreStatus r)
  | none =>
    if app.dynamicRecords.length < dtcDynamicMax then
      { app with
        dynamicRecords := app.dynamicRecords
          ++ [⟨r.dtcNumber, r.severity, r.functionalUnit, restoreStatus r zeroStatus⟩] }
    else app

/-- Puts a snapshot into a status. -/
def setSnapshot (recordNum : UInt8) (data : List UInt8) (ram : UdsDtcRamStatus) :
    UdsDtcRamStatus :=
  { ram with hasSnapshot := true, snapshotRecordNum := recordNum, snapshotData := data }

/-- Brings a snapshot back to the DTC it was taken of. -/
def restoreSnapshot (app : UdsDtcAppStorage) (s : UdsDtcNvSnapshot) : UdsDtcAppStorage :=
  match findDtcIndex app s.dtcNumber with
  | some idx =>
    setRamStatus app idx (setSnapshot s.recordNum (s.data.toList.take s.length.toNat))
  | none => app

/-- Brings the records back, then the snapshots. -/
def restoreBlock (app : UdsDtcAppStorage) (block : UdsDtcNvBlock) : UdsDtcAppStorage :=
  (block.snapshots.toList.take block.snapshotCount.toNat).foldl restoreSnapshot
    ((block.records.toList.take block.recordCount.toNat).foldl restoreRecord app)

/-- `uds_dtc_app_load_from_nvm` -/
def udsDtcAppLoadFromNvm (app : UdsDtcAppStorage) (w : UdsParamStore ω × ω) :
    Bool × UdsDtcAppStorage × UdsParamStore ω × ω :=
  if ¬app.nvmAttached then (false, app, w)
  else
    match udsParamLoad w.1 [] w.2 with
    | (.ok, data, flash) =>
      let block := nvBlockCodec.decode data
      if block.magic ≠ dtcNvMagic ∨ block.version ≠ dtcNvVersion then (false, app, w.1, flash)
      else (true, restoreBlock app block, w.1, flash)
    | (_, _, flash) => (false, app, w.1, flash)

/-- `uds_dtc_app_attach_nvm`; without a store the pointer is `NULL`. -/
def udsDtcAppAttachNvm (app : UdsDtcAppStorage) (store : Bool) (w : UdsParamStore ω × ω) :
    UdsDtcAppStorage × UdsParamStore ω × ω :=
  let app := { app with nvmAttached := store }
  if store then (udsDtcAppLoadFromNvm app w).2 else (app, w)

end UdsIsoTp.App
