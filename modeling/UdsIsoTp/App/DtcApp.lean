import UdsIsoTp.App.DtcNv
import UdsIsoTp.Uds.Types

/-!
# Faults and their records

The functions of `uds_dtc_app.c` that change the table of trouble codes: a fault is set,
reported to the debouncing or cleared, and a record is given a snapshot or extended data.
Each of them looks the code up, writes to the status of its record and saves the table; what
the save returns is ignored.
-/

namespace UdsIsoTp.App

open UdsIsoTp.Flash UdsIsoTp.Uds

variable {ω : Type}

/-- `UDS_DTC_STATUS_TEST_FAILED` -/
def dtcStatusTestFailed : UInt8 := 0x01

/-- `UDS_DTC_STATUS_PENDING` -/
def dtcStatusPending : UInt8 := 0x04

/-- `UDS_DTC_STATUS_CONFIRMED` -/
def dtcStatusConfirmed : UInt8 := 0x08

/-- `failed_mask`: failed, in this cycle and since the last clear, pending and confirmed. -/
def dtcFailedMask : UInt8 := 0x01 ||| 0x02 ||| 0x04 ||| 0x08 ||| 0x20

/-- `completed_mask`: not completed since the last clear, nor in this cycle. -/
def dtcCompletedMask : UInt8 := 0x10 ||| 0x40

/-- A snapshot as the application takes it: the time, and how the vehicle stood. -/
structure ObdGlobalSnapshotFormat where
  voltage : UInt8
  globalPowerMode : UInt8
  second : UInt8
  minute : UInt8
  hour : UInt8
  day : UInt8
  month : UInt8
  year : UInt8

/-- The eight bytes of it, as the structure lies in memory. -/
def ObdGlobalSnapshotFormat.bytes (snap : ObdGlobalSnapshotFormat) : List UInt8 :=
  [snap.voltage, snap.globalPowerMode, snap.second, snap.minute, snap.hour, snap.day,
    snap.month, snap.year]

/-- The counters of a DTC. -/
structure ObdExtendedDataFormat where
  faultOccurCounter : UInt8
  faultPendingCounter : UInt8
  agedCounter : UInt8
  ageingCounter : UInt8

/-- `init_default_snapshot` -/
def defaultSnapshot : ObdGlobalSnapshotFormat where
  voltage := 120
  globalPowerMode := 0x03
  second := 0
  minute := 0
  hour := 12
  day := 1
  month := 1
  year := 24

/-! ## What happens to a status -/

/-- A counter that stops at its largest value. -/
def countUp (counter : UInt8) : UInt8 := if counter < 255 then counter + 1 else counter

/-- A fault without a snapshot gets the default one. -/
def ensureSnapshot (ram : UdsDtcRamStatus) : UdsDtcRamStatus :=
  if ¬ram.hasSnapshot then setSnapshot 0x01 defaultSnapshot.bytes ram else ram

/-- The status that `uds_dtc_app_set_fault` gives a record. -/
def faultStatus (status : UInt8) (counter : Int8) (ram : UdsDtcRamStatus) : UdsDtcRamStatus :=
  let ram := { ram with active := true, statusByte := status, faultCounter := counter }
  let ram :=
    if status &&& dtcStatusTestFailed ≠ 0 then
      { ram with occurrenceCounter := countUp ram.occurrenceCounter, agingCounter := 0 }
    else ram
  let ram :=
    if status &&& dtcStatusPending ≠ 0 then
      { ram with pendingCounter := countUp ram.pendingCounter }
    else ram
  ensureSnapshot ram

/-- The record that `uds_dtc_app_set_fault` makes for a code it does not find. -/
def faultRecord (dtc : UInt32) (status severity : UInt8) (counter : Int8) :
    UdsDtcDynamicRecord where
  dtcNumber := dtc
  severity := severity
  functionalUnit := 0x01
  status :=
    setSnapshot 0x01 defaultSnapshot.bytes
      { zeroStatus with
        statusByte := status
        faultCounter := counter
        occurrenceCounter := if status &&& dtcStatusTestFailed ≠ 0 then 1 else 0
        pendingCounter := if status &&& dtcStatusPending ≠ 0 then 1 else 0
        active := true }

/-- `clear_single_ram_record`. The number of the snapshot and the extended data stay. -/
def clearSingleRamRecord (ram : UdsDtcRamStatus) : UdsDtcRamStatus :=
  { ram with
    active := false
    statusByte := dtcStatusCleared
    faultCounter := 0
    occurrenceCounter := 0
    pendingCounter := 0
    agingCounter := 0
    agedCounter := 0
    hasSnapshot := false
    snapshotData := [] }

/-- `debounce_fault_failed`: sixteen up, and at the top the DTC is confirmed. -/
def debounceFaultFailed (ram : UdsDtcRamStatus) : UdsDtcRamStatus :=
  let ram :=
    { ram with
      faultCounter := if ram.faultCounter ≤ 127 - 16 then ram.faultCounter + 16 else 127 }
  let ram :=
    if 0 < ram.faultCounter then
      { ram with
        statusByte := ram.statusByte ||| dtcStatusPending
        pendingCounter := countUp ram.pendingCounter }
    else ram
  if 127 ≤ ram.faultCounter then
    ensureSnapshot
      { ram with
        faultCounter := 127
        active := true
        statusByte := (ram.statusByte ||| dtcFailedMask) &&& ~~~dtcCompletedMask
        occurrenceCounter := countUp ram.occurrenceCounter
        agingCounter := 0 }
  else ram

/-- `debounce_fault_passed`: sixteen down, and at the bottom the fault is over. -/
def debounceFaultPassed (ram : UdsDtcRamStatus) : UdsDtcRamStatus :=
  let ram :=
    { ram with
      faultCounter := if -128 + 16 ≤ ram.faultCounter then ram.faultCounter - 16 else -128 }
  if ram.faultCounter ≤ -128 then
    let ram :=
      { ram with
        faultCounter := -128
        statusByte := ram.statusByte &&& ~~~dtcStatusTestFailed &&& ~~~dtcCompletedMask
        agingCounter := countUp ram.agingCounter }
    if 40 ≤ ram.agingCounter then
      { ram with
        statusByte := ram.statusByte &&& ~~~dtcStatusConfirmed
        agedCounter := countUp ram.agedCounter }
    else ram
  else ram

/-- What `uds_dtc_app_set_extended_data` writes. -/
def extendStatus (ext : ObdExtendedDataFormat) (ram : UdsDtcRamStatus) : UdsDtcRamStatus :=
  { ram with
    occurrenceCounter := ext.faultOccurCounter
    pendingCounter := ext.faultPendingCounter
    agedCounter := ext.agedCounter
    agingCounter := ext.ageingCounter
    extendedData := [ext.faultOccurCounter, ext.faultPendingCounter, ext.agedCounter,
      ext.ageingCounter] }

/-! ## The functions -/

/-- The table with what a save of it leaves behind. -/
def savedWith (app : UdsDtcAppStorage) (w : UdsParamStore ω × ω) :
    UdsDtcAppStorage × UdsParamStore ω × ω :=
  (app, (udsDtcAppSaveToNvm app w).2)

section Functions

variable (app : UdsDtcAppStorage) (w : UdsParamStore ω × ω)

/-- The record of a code is changed and the table saved; without the record, `false`. -/
def updateRecord (dtc : UInt32) (f : UdsDtcRamStatus → UdsDtcRamStatus) :
    Bool × UdsDtcAppStorage × UdsParamStore ω × ω :=
  match findDtcIndex app dtc with
  | some idx => (true, savedWith (setRamStatus app idx f) w)
  | none => (false, app, w)

/-- `uds_dtc_app_set_fault` -/
def udsDtcAppSetFault (dtc : UInt32) (status severity : UInt8) (counter : Int8) :
    Bool × UdsDtcAppStorage × UdsParamStore ω × ω :=
  if ¬app.dtcSettingEnabled then (true, app, w)
  else
    match findDtcIndex app dtc with
    | some idx => (true, savedWith (setRamStatus app idx (faultStatus status counter)) w)
    | none =>
      if app.dynamicRecords.length < dtcDynamicMax then
        (true, savedWith
          { app with
            dynamicRecords := app.dynamicRecords
              ++ [faultRecord dtc status severity counter] } w)
      else (false, app, w)

/-- `uds_dtc_app_report_event` -/
def udsDtcAppReportEvent (dtc : UInt32) (failed : Bool) :
    Bool × UdsDtcAppStorage × UdsParamStore ω × ω :=
  if ¬app.dtcSettingEnabled then (true, app, w)
  else updateRecord app w dtc (if failed then debounceFaultFailed else debounceFaultPassed)

/-- `uds_dtc_app_clear_fault` -/
def udsDtcAppClearFault (dtc : UInt32) : Bool × UdsDtcAppStorage × UdsParamStore ω × ω :=
  updateRecord app w dtc clearSingleRamRecord

/-- `uds_dtc_app_set_snapshot`; the length is that of the data. -/
def udsDtcAppSetSnapshot (dtc : UInt32) (recordNum : UInt8) (data : List UInt8) :
    Bool × UdsDtcAppStorage × UdsParamStore ω × ω :=
  if data = [] ∨ dtcAppSnapshotSize < data.length then (false, app, w)
  else updateRecord app w dtc (setSnapshot recordNum data)

/-- `uds_dtc_app_set_global_snapshot` -/
def udsDtcAppSetGlobalSnapshot (dtc : UInt32) (snapshot : ObdGlobalSnapshotFormat) :
    Bool × UdsDtcAppStorage × UdsParamStore ω × ω :=
  updateRecord app w dtc (setSnapshot 0x01 snapshot.bytes)

/-- `uds_dtc_app_set_extended_data` -/
def udsDtcAppSetExtendedData (dtc : UInt32) (extData : ObdExtendedDataFormat) :
    Bool × UdsDtcAppStorage × UdsParamStore ω × ω :=
  updateRecord app w dtc (extendStatus extData)

/-- `dtc_matches_group_mask`: the quarter of the numbers a group stands for. -/
def dtcMatchesGroupMask (dtc groupHigh : UInt32) : Bool :=
  (groupHigh = 0x000000 && dtc < 0x400000)
    || (groupHigh = 0x400000 && (0x400000 ≤ dtc && dtc < 0x800000))
    || (groupHigh = 0x800000 && (0x800000 ≤ dtc && dtc < 0xC00000))
    || (groupHigh = 0xC00000 && 0xC00000 ≤ dtc)

/-- The loops of `uds_dtc_app_clear`: every record with such a number is cleared. -/
def clearWhere (selected : UInt32 → Bool) : UdsDtcAppStorage :=
  (List.range (getTotalRecordCount app)).foldl
    (fun app i =>
      match getDtcRecord app i with
      | some rec => if selected rec.dtcNumber then setRamStatus app i clearSingleRamRecord else app
      | none => app)
    app

/-- `uds_dtc_app_clear` -/
def udsDtcAppClear (groupOfDtc : UInt32) :
    UdsCallbackResult × UdsDtcAppStorage × UdsParamStore ω × ω :=
  let groupHigh := groupOfDtc &&& 0xFF0000
  let isGroupMask := groupOfDtc &&& 0x00FFFF = 0 ∨ groupOfDtc &&& 0x00FFFF = 0x00FF00
  let matching := fun dtc => dtcMatchesGroupMask dtc groupHigh
  if groupOfDtc = 0xFFFFFF then (.ok, savedWith (clearWhere app fun _ => true) w)
  else if isGroupMask ∧ (allRecords app).any fun rec => matching rec.dtcNumber then
    (.ok, savedWith (clearWhere app matching) w)
  else
    match findDtcIndex app groupOfDtc with
    | some idx => (.ok, savedWith (setRamStatus app idx clearSingleRamRecord) w)
    | none => (.outOfRange, app, w)

/-- `uds_dtc_app_control_setting` -/
def udsDtcAppControlSetting (subfunction : UInt8) : UdsCallbackResult × UdsDtcAppStorage :=
  if subfunction = 0x01 then (.ok, { app with dtcSettingEnabled := true })
  else if subfunction = 0x02 then (.ok, { app with dtcSettingEnabled := false })
  else (.subfunctionNotSupported, app)

end Functions

end UdsIsoTp.App
