import UdsIsoTp.App.DtcApp
import UdsIsoTp.Lib.Writer

/-!
# Reports of trouble codes

`uds_dtc_app_report` of `uds_dtc_app.c`: a table gives every sub-function its handler and the
length its request has at least, and a handler goes through the records and appends what it
says of each. The response of a report that succeeds is all that was written; one that does
not fit is given up where it is.

Every loop is over `allRecords`, which is what `get_dtc_record` shows for the indices below
`get_total_record_count`. A request byte behind a check of the length is `getD` with the
value that the other branch has.
-/

namespace UdsIsoTp.App

open UdsIsoTp.Uds Writer

/-- `status_availability_mask`, which nothing writes after `uds_dtc_app_init`. -/
def statusAvailabilityMask : UInt8 := 0xFF

/-- The identifier of a snapshot of eight bytes. -/
def dtcDidGlobalSnapshot : UInt16 := 0x0100

/-- The identifier of a shorter snapshot, the battery voltage. -/
def dtcDidVbat : UInt16 := 0xDF00

/-! ## Appending -/

section Append

variable (capacity : UInt16)

/-- `append_byte`: fails when the response is full. -/
def appendByte (val : UInt8) : Writer UInt8 := append capacity.toNat val

/-- `append_bytes`: all of them, or nothing when they do not fit. -/
def appendBytes (src : List UInt8) : Writer UInt8 := appendAll capacity.toNat src

/-- `append_dtc`: the three bytes of the number and the status. -/
def appendDtc (rec : UdsDtcAppRecord) : Writer UInt8 :=
  andAlso (appendByte capacity (rec.dtcNumber >>> 16).toUInt8) <|
  andAlso (appendByte capacity (rec.dtcNumber >>> 8).toUInt8) <|
  andAlso (appendByte capacity rec.dtcNumber.toUInt8) <|
  appendByte capacity rec.statusByte

/-- A code with its severity and functional unit before it. -/
def appendSeverityDtc (rec : UdsDtcAppRecord) : Writer UInt8 :=
  andAlso (appendByte capacity rec.severity) <|
  andAlso (appendByte capacity rec.functionalUnit) <|
  appendDtc capacity rec

/-- `s_default_obd_snapshot` -/
def defaultObdSnapshot : List UInt8 :=
  [0x01, (dtcDidGlobalSnapshot >>> 8).toUInt8, dtcDidGlobalSnapshot.toUInt8, 120, 0x03, 0x00, 0x00,
    0x12, 0x01, 0x01, 24]

/-- Eight bytes are the size of `OBD_Global_Snapshot_Format`. -/
def appendSnapshotPayload (rec : UdsDtcAppRecord) : Writer UInt8 :=
  if 0 < rec.snapshotData.length then
    let did := if rec.snapshotData.length = 8 then dtcDidGlobalSnapshot else dtcDidVbat
    andAlso (appendBytes capacity [0x01, (did >>> 8).toUInt8, did.toUInt8]) <|
    appendBytes capacity rec.snapshotData
  else appendBytes capacity defaultObdSnapshot

/-- `match_rec`: the record has a snapshot of the number, or the number stands for any. -/
def matchesSnapshot (rec : UdsDtcAppRecord) (reqRecordNum : UInt8) : Bool :=
  reqRecordNum == 0xFF || reqRecordNum == 0x00 || reqRecordNum == 0x01 ||
    (rec.hasSnapshot && reqRecordNum == rec.snapshotRecordNum)

/-- `out_rec_num` -/
def outRecNum (reqRecordNum : UInt8) : UInt8 := if reqRecordNum = 0xFF then 0x01 else reqRecordNum

/-- The snapshot of a record, when the record is active and has the one asked for. -/
def appendMatchingSnapshot (rec : UdsDtcAppRecord) (reqRecordNum : UInt8) : Writer UInt8 :=
  onlyIf (rec.active && matchesSnapshot rec reqRecordNum) <|
  andAlso (appendByte capacity (outRecNum reqRecordNum)) <|
  appendSnapshotPayload capacity rec

/-- `k_ext_map`, with the counters that its offsets point to. -/
def extMap (rec : UdsDtcAppRecord) : List (UInt8 × UInt8) :=
  [(0x01, rec.occurrenceCounter), (0x02, rec.pendingCounter), (0x03, rec.agingCounter),
    (0x04, rec.agedCounter)]

/-- The pieces of extended data the record number selects: all, or one. -/
def appendSingleExtendedData (rec : UdsDtcAppRecord) (reqRecNum : UInt8) : Writer UInt8 :=
  appendEach
    (fun ext => onlyIf (reqRecNum == 0xFF || reqRecNum == 0x00 || reqRecNum == ext.1) <|
      andAlso (appendByte capacity ext.1) (appendByte capacity ext.2))
    (extMap rec)

end Append

/-! ## The handlers -/

/-- The table, the sub-function, the request, the capacity, and the response so far. -/
abbrev DtcSubfnHandler :=
  UdsDtcAppStorage → UInt8 → List UInt8 → UInt16 → List UInt8 → UdsCallbackResult × List UInt8

/-- What a handler returns when a writer has said its last. -/
def written (out : Bool × List UInt8) : UdsCallbackResult × List UInt8 :=
  (if out.1 then .ok else .responseTooLong, out.2)

/-- `request[2]` to `request[4]` -/
def targetDtc (request : List UInt8) : UInt32 :=
  ((request.getD 2 0).toUInt32 <<< 16) ||| ((request.getD 3 0).toUInt32 <<< 8) |||
    (request.getD 4 0).toUInt32

/-- The sub-functions 0x01, 0x07, 0x11 and 0x12: how many records have a bit of the mask. -/
def dtcReportCountByMask : DtcSubfnHandler := fun app _ request capacity response =>
  let statusMask := request.getD 2 0xFF
  let count : UInt16 := (allRecords app).foldl
    (fun count rec => if rec.active ∧ rec.statusByte &&& statusMask ≠ 0 then count + 1 else count)
    0
  written (appendBytes capacity
    [statusAvailabilityMask, 0x01, (count >>> 8).toUInt8, count.toUInt8] response)

/-- `include`; `UDS_DTC_19_0A_ONLY_ACTIVE_DTCS` is 0. -/
def listIncludes (subfunction statusMask : UInt8) (rec : UdsDtcAppRecord) : Bool :=
  if subfunction = 0x0A then true
  else if rec.active then
    if subfunction = 0x15 then rec.statusByte &&& dtcStatusConfirmed ≠ 0
    else rec.statusByte &&& statusMask ≠ 0
  else false

/-- The records a sub-function lists under its mask, each with its status. -/
def dtcReportListByMask : DtcSubfnHandler := fun app subfunction request capacity response =>
  let statusMask := request.getD 2 0xFF
  written (andAlso (appendByte capacity statusAvailabilityMask)
    (appendEach
      (fun rec => onlyIf (listIncludes subfunction statusMask rec) (appendDtc capacity rec))
      (allRecords app)) response)

/-- The sub-function 0x03: every active record, with the snapshot number 1. -/
def dtcReportSnapshotIdentification : DtcSubfnHandler := fun app _ _ capacity response =>
  written (appendEach
    (fun rec => onlyIf rec.active <|
      andAlso (appendDtc capacity rec) (appendByte capacity 0x01))
    (allRecords app) response)

/-- The records by code, which two handlers append with what they show of each: all active
ones for `0xFFFFFF`, else the one of the code. -/
def reportByDtc (app : UdsDtcAppStorage) (request : List UInt8) (capacity : UInt16)
    (details : UdsDtcAppRecord → UInt8 → Writer UInt8) (response : List UInt8) :
    UdsCallbackResult × List UInt8 :=
  let reqRecordNum := request.getD 5 0xFF
  if targetDtc request = 0xFFFFFF then
    written (appendEach
      (fun rec => onlyIf rec.active <|
        andAlso (appendDtc capacity rec) (details rec reqRecordNum))
      (allRecords app) response)
  else
    match recordOf app (targetDtc request) with
    | none => (.outOfRange, response)
    | some rec => written (andAlso (appendDtc capacity rec) (details rec reqRecordNum) response)

/-- `mem_selection`, which the sub-functions for user defined memory have in front. -/
def withMemSelection (selects : Bool) (request : List UInt8) (capacity : UInt16)
    (rest : List UInt8 → UdsCallbackResult × List UInt8) (response : List UInt8) :
    UdsCallbackResult × List UInt8 :=
  let out := onlyIf selects (appendByte capacity (request.getD 6 0x00)) response
  if out.1 then rest out.2 else (.responseTooLong, out.2)

/-- The sub-functions 0x04 and 0x18: the snapshots of one DTC, or of all. -/
def dtcReportSnapshotByDtc : DtcSubfnHandler := fun app subfunction request capacity response =>
  if request.length < 5 then (.error, response)
  else
    withMemSelection (subfunction = 0x18) request capacity
      (reportByDtc app request capacity (appendMatchingSnapshot capacity)) response

/-- The sub-function 0x05: the records that have the snapshot asked for. -/
def dtcReportSnapshotByRecordNumber : DtcSubfnHandler := fun app _ request capacity response =>
  let reqRecordNum := request.getD 2 0x01
  written (appendEach
    (fun rec => onlyIf (rec.active && matchesSnapshot rec reqRecordNum) <|
      andAlso (appendDtc capacity rec) <|
      andAlso (appendByte capacity (outRecNum reqRecordNum)) <|
      appendSnapshotPayload capacity rec)
    (allRecords app) response)

/-- The sub-functions 0x06, 0x10 and 0x19: the extended data of one DTC, or of all. -/
def dtcReportExtendedByDtc : DtcSubfnHandler := fun app subfunction request capacity response =>
  if request.length < 5 then (.error, response)
  else
    withMemSelection (subfunction = 0x19) request capacity
      (reportByDtc app request capacity fun rec reqRecNum =>
        onlyIf rec.active (appendSingleExtendedData capacity rec reqRecNum)) response

/-- The sub-function 0x08: the records under a mask, each with its severity. -/
def dtcReportSeverityRecord : DtcSubfnHandler := fun app _ request capacity response =>
  let statusMask := request.getD 2 0xFF
  written (andAlso (appendByte capacity statusAvailabilityMask)
    (appendEach
      (fun rec => onlyIf (rec.active && decide (rec.statusByte &&& statusMask ≠ 0)) <|
        appendSeverityDtc capacity rec)
      (allRecords app)) response)

/-- The sub-function 0x09: the severity of one DTC. -/
def dtcReportSeverityInfoByDtc : DtcSubfnHandler := fun app _ request capacity response =>
  if request.length < 5 then (.error, response)
  else
    match recordOf app (targetDtc request) with
    | none => (.outOfRange, response)
    | some rec =>
      written (andAlso (appendByte capacity statusAvailabilityMask) (appendSeverityDtc capacity rec)
        response)

/-- The sub-function 0x14: every active record with its fault counter. -/
def dtcReportFaultDetectionCounter : DtcSubfnHandler := fun app _ _ capacity response =>
  written (appendEach
    (fun (rec : UdsDtcAppRecord) => onlyIf rec.active <|
      appendBytes capacity [(rec.dtcNumber >>> 16).toUInt8, (rec.dtcNumber >>> 8).toUInt8,
        rec.dtcNumber.toUInt8, rec.faultCounter.toUInt8])
    (allRecords app) response)

/-- `val`; every other number stands for the occurrences. -/
def extDataOf (rec : UdsDtcAppRecord) (recNum : UInt8) : UInt8 :=
  if recNum = 0x02 then rec.pendingCounter
  else if recNum = 0x03 then rec.agingCounter
  else if recNum = 0x04 then rec.agedCounter
  else rec.occurrenceCounter

/-- The sub-function 0x16: one piece of extended data of every active record. -/
def dtcReportExtDataByRecordNumber : DtcSubfnHandler := fun app _ request capacity response =>
  let recNum := request.getD 2 0x01
  written (andAlso (appendByte capacity recNum)
    (appendEach
      (fun rec => onlyIf rec.active <|
        andAlso (appendDtc capacity rec) <|
        andAlso (appendByte capacity recNum) (appendByte capacity (extDataOf rec recNum)))
      (allRecords app)) response)

/-- The sub-function 0x17: the records of a user defined memory, under a mask. -/
def dtcReportUserDefMemoryByMask : DtcSubfnHandler := fun app _ request capacity response =>
  let statusMask := request.getD 2 0xFF
  let memSelection := request.getD 3 0x00
  written (andAlso (appendByte capacity memSelection) (andAlso
    (appendByte capacity statusAvailabilityMask)
    (appendEach
      (fun rec => onlyIf (rec.active && decide (rec.statusByte &&& statusMask ≠ 0)) <|
        appendDtc capacity rec)
      (allRecords app))) response)

/-- The sub-function 0x42: the records under a status mask and a severity mask. -/
def dtcReportSeverityMaskRecord : DtcSubfnHandler := fun app _ request capacity response =>
  let groupId := request.getD 2 0x00
  let reqStatusMask := request.getD 3 0xFF
  let reqSeverityMask := request.getD 4 0xFF
  written (andAlso (appendByte capacity groupId) (andAlso
    (appendByte capacity statusAvailabilityMask)
    (appendEach
      (fun rec => onlyIf (rec.active && decide (rec.statusByte &&& reqStatusMask ≠ 0) &&
          decide (rec.severity &&& reqSeverityMask ≠ 0)) <|
        appendSeverityDtc capacity rec)
      (allRecords app))) response)

/-- The sub-function 0x55: the confirmed records with their severity. -/
def dtcReportWwhObdByMask : DtcSubfnHandler := fun app _ request capacity response =>
  let groupId := request.getD 2 0x00
  written (andAlso (appendByte capacity groupId) (andAlso
    (appendByte capacity statusAvailabilityMask)
    (appendEach
      (fun rec => onlyIf (rec.active && decide (rec.statusByte &&& dtcStatusConfirmed ≠ 0)) <|
        appendSeverityDtc capacity rec)
      (allRecords app))) response)

/-! ## The report -/

/-- A row of the table: a sub-function, how long a request for it is at least, who serves it. -/
structure DtcSubfnEntry where
  subfunction : UInt8
  minRequestLength : UInt8
  handler : DtcSubfnHandler

/-- `k_dtc_subfns` -/
def dtcSubfns : List DtcSubfnEntry :=
  [⟨0x01, 2, dtcReportCountByMask⟩,
    ⟨0x02, 2, dtcReportListByMask⟩,
    ⟨0x03, 2, dtcReportSnapshotIdentification⟩,
    ⟨0x04, 5, dtcReportSnapshotByDtc⟩,
    ⟨0x05, 2, dtcReportSnapshotByRecordNumber⟩,
    ⟨0x06, 5, dtcReportExtendedByDtc⟩,
    ⟨0x07, 2, dtcReportCountByMask⟩,
    ⟨0x08, 2, dtcReportSeverityRecord⟩,
    ⟨0x09, 5, dtcReportSeverityInfoByDtc⟩,
    ⟨0x0A, 2, dtcReportListByMask⟩,
    ⟨0x0B, 2, dtcReportListByMask⟩,
    ⟨0x0C, 2, dtcReportListByMask⟩,
    ⟨0x0D, 2, dtcReportListByMask⟩,
    ⟨0x0E, 2, dtcReportListByMask⟩,
    ⟨0x0F, 2, dtcReportListByMask⟩,
    ⟨0x10, 5, dtcReportExtendedByDtc⟩,
    ⟨0x11, 2, dtcReportCountByMask⟩,
    ⟨0x12, 2, dtcReportCountByMask⟩,
    ⟨0x13, 2, dtcReportListByMask⟩,
    ⟨0x14, 2, dtcReportFaultDetectionCounter⟩,
    ⟨0x15, 2, dtcReportListByMask⟩,
    ⟨0x16, 2, dtcReportExtDataByRecordNumber⟩,
    ⟨0x17, 2, dtcReportUserDefMemoryByMask⟩,
    ⟨0x18, 5, dtcReportSnapshotByDtc⟩,
    ⟨0x19, 5, dtcReportExtendedByDtc⟩,
    ⟨0x42, 2, dtcReportSeverityMaskRecord⟩,
    ⟨0x55, 2, dtcReportWwhObdByMask⟩]

/-- `uds_dtc_app_report`: the result and what was written. Its length is reported with
`UDS_RESULT_OK` only. -/
def udsDtcAppReport (app : UdsDtcAppStorage) (subfunction : UInt8) (request : List UInt8)
    (responseCapacity : UInt16) : UdsCallbackResult × List UInt8 :=
  if responseCapacity < 2 ∨ request.length = 0 then (.error, [])
  else
    match dtcSubfns.find? fun entry => entry.subfunction = subfunction with
    | none => (.outOfRange, [])
    | some entry =>
      if request.length < entry.minRequestLength.toNat then (.error, [])
      else
        let out := appendByte responseCapacity subfunction []
        if out.1 then entry.handler app subfunction request responseCapacity out.2
        else (.error, out.2)

end UdsIsoTp.App
