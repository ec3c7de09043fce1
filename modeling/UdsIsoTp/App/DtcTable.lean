import UdsIsoTp.Lib.Keyed

/-!
# The table of trouble codes

`uds_dtc_app.c`: the application keeps a status for each of the 69 trouble codes that are
defined in ROM, and up to eleven records more for codes that are not. A code is looked up by
its number, and `get_dtc_record` shows a record in the same way wherever it is kept; where
the RAM has no snapshot or no extended data for a code in ROM, it shows the default.

`DtcEntry` is a record with what stands behind it, and `entries` is the table as one list of
them, in the order of the indices.
-/

namespace UdsIsoTp.App

open Keyed

/-- `UDS_DTC_STATIC_COUNT` -/
def dtcStaticCount : Nat := 69

/-- `UDS_DTC_APP_MAX_RECORDS` -/
def dtcAppMaxRecords : Nat := 80

/-- `UDS_DTC_DYNAMIC_MAX` -/
def dtcDynamicMax : Nat := dtcAppMaxRecords - dtcStaticCount

/-- `UDS_DTC_APP_SNAPSHOT_SIZE` -/
def dtcAppSnapshotSize : Nat := 16

/-- `UDS_DTC_STATUS_CLEARED` -/
def dtcStatusCleared : UInt8 := 0x50

/-! ## The definitions in ROM -/

/-- A DTC that is fixed in the program, with the values it starts from. -/
structure UdsDtcRomDef where
  dtcNumber : UInt32
  severity : UInt8
  functionalUnit : UInt8
  defaultStatus : UInt8
  defaultFaultCounter : Int8
  defaultOccurrenceCounter : UInt8
  defaultAgingCounter : UInt8
  defaultActive : Bool
  snapshotData : List UInt8
  extendedData : List UInt8

/-- A row of the manufacturer's codes: no fault and no data. -/
def oemDtc (dtcNumber : UInt32) (severity : UInt8) : UdsDtcRomDef where
  dtcNumber := dtcNumber
  severity := severity
  functionalUnit := 0x01
  defaultStatus := dtcStatusCleared
  defaultFaultCounter := 0
  defaultOccurrenceCounter := 0
  defaultAgingCounter := 0
  defaultActive := false
  snapshotData := []
  extendedData := []

/-- The numbers of the manufacturer, which have no snapshot. -/
def oemDtcDefs : List UdsDtcRomDef :=
  [oemDtc 0xF00614 0x80, oemDtc 0xF00615 0xA0, oemDtc 0xD00616 0x80, oemDtc 0xD00617 0xA0,
    oemDtc 0xD00618 0x80, oemDtc 0xD00619 0xA0, oemDtc 0xD00620 0x80, oemDtc 0xD00621 0xA0,
    oemDtc 0xD00622 0x80, oemDtc 0xD00623 0xA0, oemDtc 0xD00624 0x80, oemDtc 0xD00625 0xA0,
    oemDtc 0xD00626 0x80, oemDtc 0xD00627 0xA0, oemDtc 0xD00628 0x80, oemDtc 0xD00629 0xA0,
    oemDtc 0xD00630 0x80, oemDtc 0xD00631 0xA0, oemDtc 0xD00632 0x80, oemDtc 0xD00633 0xA0,
    oemDtc 0xD00634 0x80, oemDtc 0xD00635 0xA0, oemDtc 0xD00636 0x80, oemDtc 0xD00637 0xA0,
    oemDtc 0xD00638 0x80, oemDtc 0xD00639 0xA0, oemDtc 0xD00640 0x80, oemDtc 0xD00641 0xA0,
    oemDtc 0xD00642 0x80, oemDtc 0xD00643 0xA0, oemDtc 0xD00644 0x80, oemDtc 0xD00645 0xA0,
    oemDtc 0xD00646 0x80, oemDtc 0xD00647 0xA0, oemDtc 0xD00648 0x80, oemDtc 0xD00649 0xA0,
    oemDtc 0xD00650 0x80, oemDtc 0xD00651 0xA0, oemDtc 0xD00652 0x80, oemDtc 0xD00653 0xA0,
    oemDtc 0xD00654 0x80, oemDtc 0xD00655 0xA0, oemDtc 0xD00656 0x80, oemDtc 0xD00657 0xA0,
    oemDtc 0xD00658 0x80, oemDtc 0xD00659 0xA0, oemDtc 0xD00660 0x80, oemDtc 0xD00661 0xA0,
    oemDtc 0xD00662 0x80, oemDtc 0xD00663 0xA0, oemDtc 0xD00664 0x80, oemDtc 0xD00665 0xA0,
    oemDtc 0xD00666 0x80, oemDtc 0xD00667 0xA0, oemDtc 0xD00668 0x80, oemDtc 0xD00669 0x80,
    oemDtc 0xD00670 0xA0, oemDtc 0xD00671 0x80, oemDtc 0xD00672 0xA0, oemDtc 0xD00673 0x80,
    oemDtc 0xD00674 0xA0, oemDtc 0xD00675 0x80, oemDtc 0xD00676 0xA0, oemDtc 0xD00677 0x80,
    oemDtc 0xD00678 0xA0, oemDtc 0xD00679 0x80]

/-- P0100, U0100 and B0001. -/
def baselineDtcDefs : List UdsDtcRomDef :=
  [⟨0x010000, 0x40, 0x01, 0x2F, 127, 5, 0x28, true, [0x0C, 0x00, 0x32, 0x88], [0x05, 0x28]⟩,
    ⟨0xC10000, 0x80, 0x02, 0x08, 50, 1, 0x28, true, [0x00, 0x00], [0x01, 0x28]⟩,
    ⟨0x800100, 0xA0, 0x03, 0x01, 10, 2, 0x28, true, [0x12, 0x34], [0x02, 0x28]⟩]

/-- `s_rom_dtc_defs` -/
def romDtcDefs : List UdsDtcRomDef := oemDtcDefs ++ baselineDtcDefs

/-! ## The records -/

/-- The two data fields are the bytes in use, as many as the lengths beside them say. -/
structure UdsDtcRamStatus where
  statusByte : UInt8
  faultCounter : Int8
  occurrenceCounter : UInt8
  pendingCounter : UInt8
  agingCounter : UInt8
  agedCounter : UInt8
  active : Bool
  hasSnapshot : Bool
  snapshotRecordNum : UInt8
  snapshotData : List UInt8
  extendedData : List UInt8

/-- A DTC that was registered at run time. -/
structure UdsDtcDynamicRecord where
  dtcNumber : UInt32
  severity : UInt8
  functionalUnit : UInt8
  status : UdsDtcRamStatus

/-- What `get_dtc_record` shows. -/
structure UdsDtcAppRecord where
  dtcNumber : UInt32
  statusByte : UInt8
  severity : UInt8
  functionalUnit : UInt8
  faultCounter : Int8
  occurrenceCounter : UInt8
  pendingCounter : UInt8
  agingCounter : UInt8
  agedCounter : UInt8
  snapshotData : List UInt8
  extendedData : List UInt8
  active : Bool
  hasSnapshot : Bool
  snapshotRecordNum : UInt8
  deriving DecidableEq

/-- `s_dtc_storage`; `dynamicRecords` holds the `dynamic_count` records in use, and
`nvmAttached` says whether `nvm_store` points to the store. -/
structure UdsDtcAppStorage where
  staticStatus : List UdsDtcRamStatus
  dynamicRecords : List UdsDtcDynamicRecord
  dtcSettingEnabled : Bool
  nvmAttached : Bool

/-- Memory that has been set to zero. -/
def zeroStatus : UdsDtcRamStatus := ⟨0, 0, 0, 0, 0, 0, false, false, 0, [], []⟩

/-- The status that `uds_dtc_app_init` gives a code in ROM. -/
def initialStatus (rom : UdsDtcRomDef) : UdsDtcRamStatus where
  statusByte := rom.defaultStatus
  faultCounter := rom.defaultFaultCounter
  occurrenceCounter := rom.defaultOccurrenceCounter
  pendingCounter := 0
  agingCounter := rom.defaultAgingCounter
  agedCounter := 0
  active := rom.defaultActive
  hasSnapshot := rom.snapshotData ≠ []
  snapshotRecordNum := 0x01
  snapshotData := rom.snapshotData
  extendedData := rom.extendedData

/-- The fixed DTCs at their defaults, and no others. -/
def udsDtcAppInit : UdsDtcAppStorage where
  staticStatus := romDtcDefs.map initialStatus
  dynamicRecords := []
  dtcSettingEnabled := true
  nvmAttached := false

/-! ## Looking at the table -/

/-- A fixed DTC as the report routines see it. -/
def staticRecord (rom : UdsDtcRomDef) (ram : UdsDtcRamStatus) : UdsDtcAppRecord where
  dtcNumber := rom.dtcNumber
  severity := rom.severity
  functionalUnit := rom.functionalUnit
  statusByte := ram.statusByte
  faultCounter := ram.faultCounter
  occurrenceCounter := ram.occurrenceCounter
  pendingCounter := ram.pendingCounter
  agingCounter := ram.agingCounter
  agedCounter := ram.agedCounter
  active := ram.active
  hasSnapshot := if ram.hasSnapshot then true else rom.snapshotData ≠ []
  snapshotRecordNum := if ram.hasSnapshot then ram.snapshotRecordNum else 0x01
  snapshotData := if ram.hasSnapshot then ram.snapshotData else rom.snapshotData
  extendedData := if ram.extendedData ≠ [] then ram.extendedData else rom.extendedData

/-- A registered DTC as the report routines see it. -/
def dynamicRecord (dyn : UdsDtcDynamicRecord) : UdsDtcAppRecord where
  dtcNumber := dyn.dtcNumber
  severity := dyn.severity
  functionalUnit := dyn.functionalUnit
  statusByte := dyn.status.statusByte
  faultCounter := dyn.status.faultCounter
  occurrenceCounter := dyn.status.occurrenceCounter
  pendingCounter := dyn.status.pendingCounter
  agingCounter := dyn.status.agingCounter
  agedCounter := dyn.status.agedCounter
  active := dyn.status.active
  hasSnapshot := dyn.status.hasSnapshot
  snapshotRecordNum := dyn.status.snapshotRecordNum
  snapshotData := dyn.status.snapshotData
  extendedData := dyn.status.extendedData

section Table

variable (app : UdsDtcAppStorage)

/-- `get_total_record_count` -/
def getTotalRecordCount : Nat := dtcStaticCount + app.dynamicRecords.length

/-- `get_dtc_record`: the fixed ones come first. -/
def getDtcRecord (index : Nat) : Option UdsDtcAppRecord :=
  if index < dtcStaticCount then do
    let rom ← romDtcDefs[index]?
    let ram ← app.staticStatus[index]?
    some (staticRecord rom ram)
  else app.dynamicRecords[index - dtcStaticCount]?.map dynamicRecord

/-- `find_dtc_index`: the codes in ROM first, then the other records. -/
def findDtcIndex (dtc : UInt32) : Option Nat :=
  match romDtcDefs.findIdx? fun rom => rom.dtcNumber = dtc with
  | some i => some i
  | none => (app.dynamicRecords.findIdx? fun dyn => dyn.dtcNumber = dtc).map (dtcStaticCount + ·)

/-- What is written through the pointer that `get_dtc_ram_status` gives for an index. -/
def setRamStatus (index : Nat) (f : UdsDtcRamStatus → UdsDtcRamStatus) : UdsDtcAppStorage :=
  if index < dtcStaticCount then { app with staticStatus := app.staticStatus.modify index f }
  else
    { app with
      dynamicRecords := app.dynamicRecords.modify (index - dtcStaticCount)
        fun dyn => { dyn with status := f dyn.status } }

/-- All records, in the order of the indices. -/
def allRecords : List UdsDtcAppRecord :=
  (List.range (getTotalRecordCount app)).filterMap (getDtcRecord app)

/-- The record of a number. -/
def recordOf (dtc : UInt32) : Option UdsDtcAppRecord :=
  (findDtcIndex app dtc).bind (getDtcRecord app)

end Table

/-! ## The table as a list -/

/-- A record, with its definition if that is in ROM. -/
inductive DtcEntry where
  | rom (definition : UdsDtcRomDef) (ram : UdsDtcRamStatus)
  | dynamic (dyn : UdsDtcDynamicRecord)

namespace DtcEntry

/-- The number the entry is found by. -/
def number : DtcEntry → UInt32
  | .rom definition _ => definition.dtcNumber
  | .dynamic dyn => dyn.dtcNumber

/-- The part of the entry that changes. -/
def status : DtcEntry → UdsDtcRamStatus
  | .rom _ ram => ram
  | .dynamic dyn => dyn.status

/-- The entry with its changing part replaced. -/
def mapStatus (f : UdsDtcRamStatus → UdsDtcRamStatus) : DtcEntry → DtcEntry
  | .rom definition ram => .rom definition (f ram)
  | .dynamic dyn => .dynamic { dyn with status := f dyn.status }

/-- The entry as the report routines see it. -/
def view : DtcEntry → UdsDtcAppRecord
  | .rom definition ram => staticRecord definition ram
  | .dynamic dyn => dynamicRecord dyn

@[simp] theorem number_mapStatus (f : UdsDtcRamStatus → UdsDtcRamStatus) (e : DtcEntry) :
    (e.mapStatus f).number = e.number := by
  cases e <;> rfl

@[simp] theorem status_mapStatus (f : UdsDtcRamStatus → UdsDtcRamStatus) (e : DtcEntry) :
    (e.mapStatus f).status = f e.status := by
  cases e <;> rfl

@[simp] theorem view_dtcNumber (e : DtcEntry) : e.view.dtcNumber = e.number := by
  cases e <;> rfl

end DtcEntry

/-- The whole table, the fixed entries first. -/
def entries (app : UdsDtcAppStorage) : List DtcEntry :=
  List.zipWith .rom romDtcDefs app.staticStatus ++ app.dynamicRecords.map .dynamic

/-- The entry of a number. -/
def dtcEntryOf (app : UdsDtcAppStorage) (dtc : UInt32) : Option DtcEntry :=
  lookup DtcEntry.number (entries app) dtc

section Entries

variable {app : UdsDtcAppStorage}

theorem romDtcDefs_length : romDtcDefs.length = dtcStaticCount := rfl

theorem length_static (hstatic : app.staticStatus.length = dtcStaticCount) :
    (List.zipWith DtcEntry.rom romDtcDefs app.staticStatus).length = dtcStaticCount := by
  rw [List.length_zipWith, hstatic, romDtcDefs_length, Nat.min_self]

theorem length_entries (hstatic : app.staticStatus.length = dtcStaticCount) :
    (entries app).length = getTotalRecordCount app := by
  unfold entries getTotalRecordCount
  rw [List.length_append, length_static hstatic, List.length_map]

theorem getDtcRecord_eq (hstatic : app.staticStatus.length = dtcStaticCount) (i : Nat) :
    getDtcRecord app i = (entries app)[i]?.map DtcEntry.view := by
  unfold getDtcRecord entries
  by_cases hi : i < dtcStaticCount
  · rw [if_pos hi, List.getElem?_append_left (by rwa [length_static hstatic]),
      List.getElem?_zipWith]
    cases romDtcDefs[i]? <;> cases app.staticStatus[i]? <;> rfl
  · rw [if_neg hi, List.getElem?_append_right (by rw [length_static hstatic]; omega),
      length_static hstatic, List.getElem?_map, Option.map_map]
    rfl

theorem mem_static {e : DtcEntry}
    (h : e ∈ List.zipWith DtcEntry.rom romDtcDefs app.staticStatus) :
    ∃ rom ∈ romDtcDefs, ∃ ram, e = .rom rom ram := by
  rw [← List.map_uncurry_zip_eq_zipWith] at h
  obtain ⟨pair, hpair, rfl⟩ := List.mem_map.mp h
  exact ⟨pair.1, (List.of_mem_zip hpair).1, pair.2, rfl⟩

theorem mem_entries {e : DtcEntry} (h : e ∈ entries app) :
    (∃ rom ∈ romDtcDefs, ∃ ram, e = .rom rom ram) ∨
      ∃ dyn ∈ app.dynamicRecords, e = .dynamic dyn := by
  obtain h | h := List.mem_append.mp h
  · exact .inl (mem_static h)
  · obtain ⟨dyn, hdyn, rfl⟩ := List.mem_map.mp h
    exact .inr ⟨dyn, hdyn, rfl⟩

theorem static_numbers (hstatic : app.staticStatus.length = dtcStaticCount) :
    (List.zipWith DtcEntry.rom romDtcDefs app.staticStatus).map DtcEntry.number
      = romDtcDefs.map UdsDtcRomDef.dtcNumber := by
  refine List.ext_getElem (by simp [hstatic, romDtcDefs_length]) fun i _ _ => ?_
  rw [List.getElem_map, List.getElem_zipWith, List.getElem_map]
  rfl

theorem numbers_eq (hstatic : app.staticStatus.length = dtcStaticCount) :
    (entries app).map DtcEntry.number = romDtcDefs.map UdsDtcRomDef.dtcNumber
      ++ app.dynamicRecords.map UdsDtcDynamicRecord.dtcNumber := by
  unfold entries
  rw [List.map_append, static_numbers hstatic, List.map_map]
  rfl

theorem findDtcIndex_eq (hstatic : app.staticStatus.length = dtcStaticCount) (dtc : UInt32) :
    findDtcIndex app dtc = index DtcEntry.number (entries app) dtc := by
  rw [index_keys, numbers_eq hstatic, List.findIdx?_append, List.findIdx?_map, List.findIdx?_map,
    List.length_map, romDtcDefs_length]
  show findDtcIndex app dtc = (romDtcDefs.findIdx? fun rom => rom.dtcNumber = dtc).or
    ((app.dynamicRecords.findIdx? fun dyn => dyn.dtcNumber = dtc).map (· + dtcStaticCount))
  unfold findDtcIndex
  cases romDtcDefs.findIdx? fun rom => rom.dtcNumber = dtc with
  | none => simp only [Option.none_or, Nat.add_comm]
  | some i => rfl

theorem entries_setRamStatus (hstatic : app.staticStatus.length = dtcStaticCount) (i : Nat)
    (f : UdsDtcRamStatus → UdsDtcRamStatus) :
    entries (setRamStatus app i f) = (entries app).modify i (DtcEntry.mapStatus f) := by
  refine List.ext_getElem? fun j => ?_
  rw [List.getElem?_modify]
  unfold setRamStatus entries
  by_cases hi : i < dtcStaticCount
  · rw [if_pos hi]
    by_cases hj : j < dtcStaticCount
    · rw [List.getElem?_append_left (by rwa [length_static (by simp [hstatic])]),
        List.getElem?_append_left (by rwa [length_static hstatic]), List.getElem?_zipWith,
        List.getElem?_zipWith, List.getElem?_modify]
      cases romDtcDefs[j]? <;> cases app.staticStatus[j]? <;> by_cases hij : i = j <;>
        simp [hij, DtcEntry.mapStatus]
    · rw [List.getElem?_append_right (by rw [length_static (by simp [hstatic])]; omega),
        List.getElem?_append_right (by rw [length_static hstatic]; omega),
        length_static (by simp [hstatic]), length_static hstatic]
      simp [show i ≠ j by omega]
  · rw [if_neg hi]
    by_cases hj : j < dtcStaticCount
    · rw [List.getElem?_append_left (by rwa [length_static hstatic]),
        List.getElem?_append_left (by rwa [length_static hstatic])]
      simp [show i ≠ j by omega]
    · rw [List.getElem?_append_right (by rw [length_static hstatic]; omega),
        List.getElem?_append_right (by rw [length_static hstatic]; omega),
        length_static hstatic, List.getElem?_map, List.getElem?_map, List.getElem?_modify]
      cases app.dynamicRecords[j - dtcStaticCount]? <;> by_cases hij : i = j <;>
        simp [hij, show i - dtcStaticCount = j - dtcStaticCount ↔ i = j by omega,
          DtcEntry.mapStatus]

theorem recordOf_eq (hstatic : app.staticStatus.length = dtcStaticCount) (dtc : UInt32) :
    recordOf app dtc = (dtcEntryOf app dtc).map DtcEntry.view := by
  unfold recordOf dtcEntryOf
  rw [findDtcIndex_eq hstatic]
  cases hindex : index DtcEntry.number (entries app) dtc with
  | none =>
    rw [index_none.mp hindex]
    rfl
  | some i =>
    rw [Option.bind_some, getDtcRecord_eq hstatic, getElem?_index hindex]

theorem allRecords_eq (hstatic : app.staticStatus.length = dtcStaticCount) :
    allRecords app = (entries app).map DtcEntry.view := by
  unfold allRecords
  rw [← length_entries hstatic, funext (getDtcRecord_eq hstatic), ← List.map_filterMap,
    filterMap_getElem?_range]

theorem allRecords_numbers (hstatic : app.staticStatus.length = dtcStaticCount) :
    (allRecords app).map UdsDtcAppRecord.dtcNumber = (entries app).map DtcEntry.number := by
  rw [allRecords_eq hstatic, List.map_map]
  exact List.map_congr_left fun e _ => e.view_dtcNumber

end Entries

end UdsIsoTp.App
