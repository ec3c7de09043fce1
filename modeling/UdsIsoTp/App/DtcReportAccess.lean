import UdsIsoTp.App.DtcAccess
import UdsIsoTp.App.DtcReport

/-!
# Arrays of a report

`uds_dtc_app_report` and its handlers, access by access: every byte of the request is read
from the request, every record from the table, and a snapshot from its array. For a table
within its arrays each handler reads nothing outside, whatever the request and the capacity
are, as it looks at the length before it reads (`udsDtcAppReportWithin_eq`).
-/

namespace UdsIsoTp.App

open UdsIsoTp.Flash UdsIsoTp.Uds CheckedWriter

/-! ## Reading -/

/-- `(request_length >= i + 1) ? request[i] : otherwise` -/
def requestByte (request : List UInt8) (i : Nat) (otherwise : UInt8) : Option UInt8 :=
  if i + 1 ≤ request.length then request[i]? else some otherwise

/-- `request[2]` to `request[4]` -/
def targetDtcWithin (request : List UInt8) : Option UInt32 := do
  let high ← request[2]?
  let mid ← request[3]?
  let low ← request[4]?
  some ((high.toUInt32 <<< 16) ||| (mid.toUInt32 <<< 8) ||| low.toUInt32)

/-- The loop of a handler over the records. -/
def eachRecord (app : UdsDtcAppStorage) (w : UdsDtcAppRecord → CheckedWriter UInt8) :
    CheckedWriter UInt8 :=
  appendEach (fun i => reading (recordAt app i) w) (List.range (recordCountByte app).toNat)

/-- What a handler returns when a writer has said its last. -/
def writtenWithin (w : CheckedWriter UInt8) (response : List UInt8) :
    Option (UdsCallbackResult × List UInt8) :=
  (w response).map written

section Payload

variable (capacity : UInt16)

/-- `append_snapshot_payload` with the copy out of the record checked. -/
def appendSnapshotPayloadWithin (rec : UdsDtcAppRecord) : CheckedWriter UInt8 :=
  if 0 < rec.snapshotData.length then
    let did := if rec.snapshotData.length = 8 then dtcDidGlobalSnapshot else dtcDidVbat
    andAlso (plain (appendBytes capacity [0x01, (did >>> 8).toUInt8, did.toUInt8])) <|
    reading (snapshotRead rec) fun data => plain (appendBytes capacity data)
  else plain (appendBytes capacity defaultObdSnapshot)

/-- The snapshot of a record, written by checked reads. -/
def appendMatchingSnapshotWithin (rec : UdsDtcAppRecord) (reqRecordNum : UInt8) :
    CheckedWriter UInt8 :=
  onlyIf (rec.active && matchesSnapshot rec reqRecordNum) <|
  andAlso (plain (appendByte capacity (outRecNum reqRecordNum))) <|
  appendSnapshotPayloadWithin capacity rec

end Payload

/-! ## The handlers -/

/-- A handler that has no value when it reads outside what it was given. -/
abbrev CheckedDtcHandler :=
  UdsDtcAppStorage → UInt8 → List UInt8 → UInt16 → List UInt8 →
    Option (UdsCallbackResult × List UInt8)

/-- `dtc_report_count_by_mask`, each record and the mask read under a check. -/
def dtcReportCountByMaskWithin : CheckedDtcHandler := fun app _ request capacity response => do
  let statusMask ← requestByte request 2 0xFF
  let count ← foldRead (recordAt app) (recordCountByte app).toNat
    (fun (count : UInt16) rec =>
      some (if rec.active ∧ rec.statusByte &&& statusMask ≠ 0 then count + 1 else count)) 0
  writtenWithin (plain (appendBytes capacity
    [statusAvailabilityMask, 0x01, (count >>> 8).toUInt8, count.toUInt8])) response

/-- `dtc_report_list_by_mask` with its reads checked. -/
def dtcReportListByMaskWithin : CheckedDtcHandler :=
  fun app subfunction request capacity response => do
    let statusMask ← requestByte request 2 0xFF
    writtenWithin (andAlso (plain (appendByte capacity statusAvailabilityMask))
      (eachRecord app fun rec =>
        onlyIf (listIncludes subfunction statusMask rec) (plain (appendDtc capacity rec)))) response

/-- `dtc_report_snapshot_identification` with its reads checked. -/
def dtcReportSnapshotIdentificationWithin : CheckedDtcHandler := fun app _ _ capacity response =>
  writtenWithin (eachRecord app fun rec => onlyIf rec.active <|
    andAlso (plain (appendDtc capacity rec)) (plain (appendByte capacity 0x01))) response

/-- The frame of the reports about one DTC, or all, with its reads checked. -/
def reportByDtcWithin (app : UdsDtcAppStorage) (request : List UInt8) (capacity : UInt16)
    (details : UdsDtcAppRecord → UInt8 → CheckedWriter UInt8) (response : List UInt8) :
    Option (UdsCallbackResult × List UInt8) := do
  let target ← targetDtcWithin request
  let reqRecordNum ← requestByte request 5 0xFF
  if target = 0xFFFFFF then
    writtenWithin (eachRecord app fun rec => onlyIf rec.active <|
      andAlso (plain (appendDtc capacity rec)) (details rec reqRecordNum)) response
  else
    match ← findDtcIndexWithin app target with
    | none => some (.outOfRange, response)
    | some idx =>
      let rec ← (getDtcRecordWithin app (UInt8.ofNat idx)).join
      writtenWithin (andAlso (plain (appendDtc capacity rec)) (details rec reqRecordNum)) response

/-- The memory selection at the front, when the sub-function has one. -/
def withMemSelectionWithin (selects : Bool) (request : List UInt8) (capacity : UInt16)
    (rest : List UInt8 → Option (UdsCallbackResult × List UInt8)) (response : List UInt8) :
    Option (UdsCallbackResult × List UInt8) := do
  let memSelection ← requestByte request 6 0x00
  let out ← onlyIf selects (plain (appendByte capacity memSelection)) response
  if out.1 then rest out.2 else some (.responseTooLong, out.2)

/-- `dtc_report_snapshot_by_dtc` with its reads checked. -/
def dtcReportSnapshotByDtcWithin : CheckedDtcHandler :=
  fun app subfunction request capacity response =>
    if request.length < 5 then some (.error, response)
    else
      withMemSelectionWithin (subfunction = 0x18) request capacity
        (reportByDtcWithin app request capacity (appendMatchingSnapshotWithin capacity)) response

/-- `dtc_report_snapshot_by_record_number` with its reads checked. -/
def dtcReportSnapshotByRecordNumberWithin : CheckedDtcHandler :=
  fun app _ request capacity response => do
    let reqRecordNum ← requestByte request 2 0x01
    writtenWithin (eachRecord app fun rec =>
      onlyIf (rec.active && matchesSnapshot rec reqRecordNum) <|
        andAlso (plain (appendDtc capacity rec)) <|
        andAlso (plain (appendByte capacity (outRecNum reqRecordNum))) <|
        appendSnapshotPayloadWithin capacity rec) response

/-- `dtc_report_extended_by_dtc` with its reads checked. -/
def dtcReportExtendedByDtcWithin : CheckedDtcHandler :=
  fun app subfunction request capacity response =>
    if request.length < 5 then some (.error, response)
    else
      withMemSelectionWithin (subfunction = 0x19) request capacity
        (reportByDtcWithin app request capacity fun rec reqRecNum =>
          onlyIf rec.active (plain (appendSingleExtendedData capacity rec reqRecNum))) response

/-- `dtc_report_severity_record` with its reads checked. -/
def dtcReportSeverityRecordWithin : CheckedDtcHandler :=
  fun app _ request capacity response => do
    let statusMask ← requestByte request 2 0xFF
    writtenWithin (andAlso (plain (appendByte capacity statusAvailabilityMask))
      (eachRecord app fun rec =>
        onlyIf (rec.active && decide (rec.statusByte &&& statusMask ≠ 0)) <|
          plain (appendSeverityDtc capacity rec))) response

/-- `dtc_report_severity_info_by_dtc` with its reads checked. -/
def dtcReportSeverityInfoByDtcWithin : CheckedDtcHandler :=
  fun app _ request capacity response =>
    if request.length < 5 then some (.error, response)
    else do
      let target ← targetDtcWithin request
      match ← findDtcIndexWithin app target with
      | none => some (.outOfRange, response)
      | some idx =>
        let rec ← (getDtcRecordWithin app (UInt8.ofNat idx)).join
        writtenWithin (andAlso (plain (appendByte capacity statusAvailabilityMask))
          (plain (appendSeverityDtc capacity rec))) response

/-- `dtc_report_fault_detection_counter` with its reads checked. -/
def dtcReportFaultDetectionCounterWithin : CheckedDtcHandler := fun app _ _ capacity response =>
  writtenWithin (eachRecord app fun rec => onlyIf rec.active <|
    plain (appendBytes capacity [(rec.dtcNumber >>> 16).toUInt8, (rec.dtcNumber >>> 8).toUInt8,
      rec.dtcNumber.toUInt8, rec.faultCounter.toUInt8])) response

/-- `dtc_report_ext_data_by_record_number` with its reads checked. -/
def dtcReportExtDataByRecordNumberWithin : CheckedDtcHandler :=
  fun app _ request capacity response => do
    let recNum ← requestByte request 2 0x01
    writtenWithin (andAlso (plain (appendByte capacity recNum))
      (eachRecord app fun rec => onlyIf rec.active <|
        andAlso (plain (appendDtc capacity rec)) <|
        andAlso (plain (appendByte capacity recNum))
          (plain (appendByte capacity (extDataOf rec recNum))))) response

/-- `dtc_report_user_def_memory_by_mask` with its reads checked. -/
def dtcReportUserDefMemoryByMaskWithin : CheckedDtcHandler :=
  fun app _ request capacity response => do
    let statusMask ← requestByte request 2 0xFF
    let memSelection ← requestByte request 3 0x00
    writtenWithin (andAlso (plain (appendByte capacity memSelection)) (andAlso
      (plain (appendByte capacity statusAvailabilityMask))
      (eachRecord app fun rec =>
        onlyIf (rec.active && decide (rec.statusByte &&& statusMask ≠ 0)) <|
          plain (appendDtc capacity rec)))) response

/-- `dtc_report_severity_mask_record` with its reads checked. -/
def dtcReportSeverityMaskRecordWithin : CheckedDtcHandler :=
  fun app _ request capacity response => do
    let groupId ← requestByte request 2 0x00
    let reqStatusMask ← requestByte request 3 0xFF
    let reqSeverityMask ← requestByte request 4 0xFF
    writtenWithin (andAlso (plain (appendByte capacity groupId)) (andAlso
      (plain (appendByte capacity statusAvailabilityMask))
      (eachRecord app fun rec =>
        onlyIf (rec.active && decide (rec.statusByte &&& reqStatusMask ≠ 0) &&
            decide (rec.severity &&& reqSeverityMask ≠ 0)) <|
          plain (appendSeverityDtc capacity rec)))) response

/-- `dtc_report_wwh_obd_by_mask` with its reads checked. -/
def dtcReportWwhObdByMaskWithin : CheckedDtcHandler := fun app _ request capacity response => do
  let groupId ← requestByte request 2 0x00
  writtenWithin (andAlso (plain (appendByte capacity groupId)) (andAlso
    (plain (appendByte capacity statusAvailabilityMask))
    (eachRecord app fun rec =>
      onlyIf (rec.active && decide (rec.statusByte &&& dtcStatusConfirmed ≠ 0)) <|
        plain (appendSeverityDtc capacity rec)))) response

/-! ## The report -/

/-- A row of the table, its handler a checked one. -/
structure CheckedDtcEntry where
  subfunction : UInt8
  minRequestLength : UInt8
  handler : CheckedDtcHandler

/-- `k_dtc_subfns` -/
def dtcSubfnsWithin : List CheckedDtcEntry :=
  [⟨0x01, 2, dtcReportCountByMaskWithin⟩,
    ⟨0x02, 2, dtcReportListByMaskWithin⟩,
    ⟨0x03, 2, dtcReportSnapshotIdentificationWithin⟩,
    ⟨0x04, 5, dtcReportSnapshotByDtcWithin⟩,
    ⟨0x05, 2, dtcReportSnapshotByRecordNumberWithin⟩,
    ⟨0x06, 5, dtcReportExtendedByDtcWithin⟩,
    ⟨0x07, 2, dtcReportCountByMaskWithin⟩,
    ⟨0x08, 2, dtcReportSeverityRecordWithin⟩,
    ⟨0x09, 5, dtcReportSeverityInfoByDtcWithin⟩,
    ⟨0x0A, 2, dtcReportListByMaskWithin⟩,
    ⟨0x0B, 2, dtcReportListByMaskWithin⟩,
    ⟨0x0C, 2, dtcReportListByMaskWithin⟩,
    ⟨0x0D, 2, dtcReportListByMaskWithin⟩,
    ⟨0x0E, 2, dtcReportListByMaskWithin⟩,
    ⟨0x0F, 2, dtcReportListByMaskWithin⟩,
    ⟨0x10, 5, dtcReportExtendedByDtcWithin⟩,
    ⟨0x11, 2, dtcReportCountByMaskWithin⟩,
    ⟨0x12, 2, dtcReportCountByMaskWithin⟩,
    ⟨0x13, 2, dtcReportListByMaskWithin⟩,
    ⟨0x14, 2, dtcReportFaultDetectionCounterWithin⟩,
    ⟨0x15, 2, dtcReportListByMaskWithin⟩,
    ⟨0x16, 2, dtcReportExtDataByRecordNumberWithin⟩,
    ⟨0x17, 2, dtcReportUserDefMemoryByMaskWithin⟩,
    ⟨0x18, 5, dtcReportSnapshotByDtcWithin⟩,
    ⟨0x19, 5, dtcReportExtendedByDtcWithin⟩,
    ⟨0x42, 2, dtcReportSeverityMaskRecordWithin⟩,
    ⟨0x55, 2, dtcReportWwhObdByMaskWithin⟩]

/-- `uds_dtc_app_report` over the checked handlers. -/
def udsDtcAppReportWithin (app : UdsDtcAppStorage) (subfunction : UInt8) (request : List UInt8)
    (responseCapacity : UInt16) : Option (UdsCallbackResult × List UInt8) :=
  if responseCapacity < 2 ∨ request.length = 0 then some (.error, [])
  else
    match dtcSubfnsWithin.find? fun entry => entry.subfunction = subfunction with
    | none => some (.outOfRange, [])
    | some entry =>
      if request.length < entry.minRequestLength.toNat then some (.error, [])
      else
        let out := appendByte responseCapacity subfunction []
        if out.1 then entry.handler app subfunction request responseCapacity out.2
        else some (.error, out.2)

/-! ## Nothing is read outside -/

theorem requestByte_eq (request : List UInt8) (i : Nat) (otherwise : UInt8) :
    requestByte request i otherwise = some (request.getD i otherwise) := by
  unfold requestByte
  split
  next hlength =>
    rw [List.getElem?_eq_getElem hlength, List.getD_eq_getElem _ _ hlength]
  next hshort => rw [List.getD_eq_default _ _ (by omega)]

theorem targetDtcWithin_eq {request : List UInt8} (h : 5 ≤ request.length) :
    targetDtcWithin request = some (targetDtc request) := by
  have hbyte : ∀ i < 5, request[i]? = some (request.getD i 0) := by
    intro i hi
    have hlt : i < request.length := by omega
    rw [List.getElem?_eq_getElem hlt, List.getD_eq_getElem _ _ hlt]
  unfold targetDtcWithin
  rw [hbyte 2 (by decide), hbyte 3 (by decide), hbyte 4 (by decide)]
  rfl

section Agrees

variable {app : UdsDtcAppStorage}

theorem eachRecord_agrees (h : DtcValid app) {cw : UdsDtcAppRecord → CheckedWriter UInt8}
    {w : UdsDtcAppRecord → Writer UInt8} (hw : ∀ rec ∈ allRecords app, Agrees (cw rec) (w rec)) :
    Agrees (eachRecord app cw) (Writer.appendEach w (allRecords app)) := by
  have hsized := h.table.sized
  have hlength := length_allRecords_eq hsized
  unfold eachRecord
  rw [recordCountByte_toNat hsized]
  exact Agrees.appendEach hlength.symm (fun i hi => recordAt_eq hsized hi) hw

theorem writtenWithin_eq {cw : CheckedWriter UInt8} {w : Writer UInt8} (h : Agrees cw w)
    (response : List UInt8) : writtenWithin cw response = some (written (w response)) := by
  unfold writtenWithin
  rw [h response]
  rfl

theorem snapshotPayload_agrees (h : DtcValid app) (capacity : UInt16) {rec : UdsDtcAppRecord}
    (hrec : rec ∈ allRecords app) :
    Agrees (appendSnapshotPayloadWithin capacity rec) (appendSnapshotPayload capacity rec) := by
  have hread : snapshotRead rec = some rec.snapshotData := if_pos (record_snapshot_le h hrec)
  unfold appendSnapshotPayloadWithin appendSnapshotPayload
  split
  next => exact (plain_agrees _).andAlso ((plain_agrees _).reading hread)
  next => exact plain_agrees _

theorem matchingSnapshot_agrees (h : DtcValid app) (capacity : UInt16) (reqRecordNum : UInt8)
    {rec : UdsDtcAppRecord} (hrec : rec ∈ allRecords app) :
    Agrees (appendMatchingSnapshotWithin capacity rec reqRecordNum)
      (appendMatchingSnapshot capacity rec reqRecordNum) :=
  ((plain_agrees _).andAlso (snapshotPayload_agrees h capacity hrec)).onlyIf _

/-- The handler reads nothing outside, and does what the plain one does. -/
def HandlerAgrees (app : UdsDtcAppStorage) (checked : CheckedDtcHandler)
    (handler : DtcSubfnHandler) : Prop :=
  ∀ subfunction request capacity response,
    checked app subfunction request capacity response
      = some (handler app subfunction request capacity response)

theorem countByMask_agrees (h : DtcValid app) :
    HandlerAgrees app dtcReportCountByMaskWithin dtcReportCountByMask := by
  intro subfunction request capacity response
  have hsized := h.table.sized
  have hlength := length_allRecords_eq hsized
  unfold dtcReportCountByMaskWithin
  rw [requestByte_eq, recordCountByte_toNat hsized, Option.bind_eq_bind, Option.bind_some,
    foldRead_eq (Nat.le_of_eq hlength.symm) fun i hi => recordAt_eq hsized hi, ← hlength,
    List.take_length, (foldlM_eq_some (fun _ => True) (fun _ _ _ _ => ⟨rfl, trivial⟩) trivial).1]
  exact writtenWithin_eq (plain_agrees _) response

theorem listByMask_agrees (h : DtcValid app) :
    HandlerAgrees app dtcReportListByMaskWithin dtcReportListByMask := by
  intro subfunction request capacity response
  unfold dtcReportListByMaskWithin
  rw [requestByte_eq]
  exact writtenWithin_eq ((plain_agrees _).andAlso <| eachRecord_agrees h fun rec _ =>
    (plain_agrees _).onlyIf _) response

theorem snapshotIdentification_agrees (h : DtcValid app) :
    HandlerAgrees app dtcReportSnapshotIdentificationWithin dtcReportSnapshotIdentification := by
  intro subfunction request capacity response
  exact writtenWithin_eq (eachRecord_agrees h fun rec _ =>
    ((plain_agrees _).andAlso (plain_agrees _)).onlyIf _) response

theorem reportByDtc_agrees (h : DtcValid app) {request : List UInt8}
    (hlength : 5 ≤ request.length) (capacity : UInt16)
    {checked : UdsDtcAppRecord → UInt8 → CheckedWriter UInt8}
    {details : UdsDtcAppRecord → UInt8 → Writer UInt8}
    (hdetails : ∀ rec ∈ allRecords app, ∀ recNum, Agrees (checked rec recNum) (details rec recNum))
    (response : List UInt8) :
    reportByDtcWithin app request capacity checked response
      = some (reportByDtc app request capacity details response) := by
  have hsized := h.table.sized
  unfold reportByDtcWithin reportByDtc
  rw [targetDtcWithin_eq hlength, requestByte_eq]
  simp only [Option.bind_eq_bind, Option.bind_some]
  rw [findDtcIndexWithin_eq hsized]
  by_cases hall : targetDtc request = 0xFFFFFF
  · rw [if_pos hall, if_pos hall]
    exact writtenWithin_eq (eachRecord_agrees h fun rec hrec =>
      ((plain_agrees _).andAlso (hdetails rec hrec _)).onlyIf _) response
  · rw [if_neg hall, if_neg hall]
    cases hfound : findDtcIndex app (targetDtc request) with
    | none =>
      unfold recordOf
      rw [hfound]
      rfl
    | some idx =>
      obtain ⟨rec, hrec, hmem⟩ := found_record hsized hfound
      rw [Option.bind_some]
      dsimp only
      rw [foundRecord_eq hsized hfound, hrec]
      exact writtenWithin_eq ((plain_agrees _).andAlso (hdetails rec hmem _)) response

theorem withMemSelection_agrees (selects : Bool) (request : List UInt8) (capacity : UInt16)
    {checked : List UInt8 → Option (UdsCallbackResult × List UInt8)}
    {rest : List UInt8 → UdsCallbackResult × List UInt8}
    (hrest : ∀ response, checked response = some (rest response)) (response : List UInt8) :
    withMemSelectionWithin selects request capacity checked response
      = some (withMemSelection selects request capacity rest response) := by
  have hselection := (plain_agrees (appendByte capacity (request.getD 6 0x00))).onlyIf selects
  unfold withMemSelectionWithin withMemSelection
  rw [requestByte_eq]
  simp only [Option.bind_eq_bind, Option.bind_some]
  rw [hselection response, Option.bind_some, hrest]
  split
  next => rfl
  next => rfl

theorem snapshotByDtc_agrees (h : DtcValid app) :
    HandlerAgrees app dtcReportSnapshotByDtcWithin dtcReportSnapshotByDtc := by
  intro subfunction request capacity response
  unfold dtcReportSnapshotByDtcWithin dtcReportSnapshotByDtc
  split
  next => rfl
  next hlength =>
    exact withMemSelection_agrees _ request capacity (reportByDtc_agrees h (Nat.not_lt.mp hlength)
      capacity fun rec hrec recNum => matchingSnapshot_agrees h capacity recNum hrec) response

theorem snapshotByRecordNumber_agrees (h : DtcValid app) :
    HandlerAgrees app dtcReportSnapshotByRecordNumberWithin dtcReportSnapshotByRecordNumber := by
  intro subfunction request capacity response
  unfold dtcReportSnapshotByRecordNumberWithin
  rw [requestByte_eq]
  exact writtenWithin_eq (eachRecord_agrees h fun rec hrec =>
    ((plain_agrees _).andAlso <| (plain_agrees _).andAlso <|
      snapshotPayload_agrees h capacity hrec).onlyIf _) response

theorem extendedByDtc_agrees (h : DtcValid app) :
    HandlerAgrees app dtcReportExtendedByDtcWithin dtcReportExtendedByDtc := by
  intro subfunction request capacity response
  unfold dtcReportExtendedByDtcWithin dtcReportExtendedByDtc
  split
  next => rfl
  next hlength =>
    exact withMemSelection_agrees _ request capacity (reportByDtc_agrees h (Nat.not_lt.mp hlength)
      capacity fun rec _ recNum => (plain_agrees _).onlyIf _) response

theorem severityRecord_agrees (h : DtcValid app) :
    HandlerAgrees app dtcReportSeverityRecordWithin dtcReportSeverityRecord := by
  intro subfunction request capacity response
  unfold dtcReportSeverityRecordWithin
  rw [requestByte_eq]
  exact writtenWithin_eq ((plain_agrees _).andAlso <| eachRecord_agrees h fun rec _ =>
    (plain_agrees _).onlyIf _) response

theorem severityInfoByDtc_agrees (h : DtcValid app) :
    HandlerAgrees app dtcReportSeverityInfoByDtcWithin dtcReportSeverityInfoByDtc := by
  intro subfunction request capacity response
  have hsized := h.table.sized
  unfold dtcReportSeverityInfoByDtcWithin dtcReportSeverityInfoByDtc
  split
  next => rfl
  next hlength =>
    rw [targetDtcWithin_eq (Nat.not_lt.mp hlength), Option.bind_eq_bind, Option.bind_some,
      findDtcIndexWithin_eq hsized, Option.bind_eq_bind, Option.bind_some]
    cases hfound : findDtcIndex app (targetDtc request) with
    | none =>
      unfold recordOf
      rw [hfound]
      rfl
    | some idx =>
      obtain ⟨rec, hrec, -⟩ := found_record hsized hfound
      dsimp only
      rw [foundRecord_eq hsized hfound, hrec]
      exact writtenWithin_eq ((plain_agrees _).andAlso (plain_agrees _)) response

theorem faultDetectionCounter_agrees (h : DtcValid app) :
    HandlerAgrees app dtcReportFaultDetectionCounterWithin dtcReportFaultDetectionCounter := by
  intro subfunction request capacity response
  exact writtenWithin_eq (eachRecord_agrees h fun rec _ => (plain_agrees _).onlyIf _) response

theorem extDataByRecordNumber_agrees (h : DtcValid app) :
    HandlerAgrees app dtcReportExtDataByRecordNumberWithin dtcReportExtDataByRecordNumber := by
  intro subfunction request capacity response
  unfold dtcReportExtDataByRecordNumberWithin
  rw [requestByte_eq]
  exact writtenWithin_eq ((plain_agrees _).andAlso <| eachRecord_agrees h fun rec _ =>
    ((plain_agrees _).andAlso <| (plain_agrees _).andAlso (plain_agrees _)).onlyIf _) response

theorem userDefMemoryByMask_agrees (h : DtcValid app) :
    HandlerAgrees app dtcReportUserDefMemoryByMaskWithin dtcReportUserDefMemoryByMask := by
  intro subfunction request capacity response
  unfold dtcReportUserDefMemoryByMaskWithin
  rw [requestByte_eq, requestByte_eq]
  exact writtenWithin_eq ((plain_agrees _).andAlso <| (plain_agrees _).andAlso <|
    eachRecord_agrees h fun rec _ => (plain_agrees _).onlyIf _) response

theorem severityMaskRecord_agrees (h : DtcValid app) :
    HandlerAgrees app dtcReportSeverityMaskRecordWithin dtcReportSeverityMaskRecord := by
  intro subfunction request capacity response
  unfold dtcReportSeverityMaskRecordWithin
  rw [requestByte_eq, requestByte_eq, requestByte_eq]
  exact writtenWithin_eq ((plain_agrees _).andAlso <| (plain_agrees _).andAlso <|
    eachRecord_agrees h fun rec _ => (plain_agrees _).onlyIf _) response

theorem wwhObdByMask_agrees (h : DtcValid app) :
    HandlerAgrees app dtcReportWwhObdByMaskWithin dtcReportWwhObdByMask := by
  intro subfunction request capacity response
  unfold dtcReportWwhObdByMaskWithin
  rw [requestByte_eq]
  exact writtenWithin_eq ((plain_agrees _).andAlso <| (plain_agrees _).andAlso <|
    eachRecord_agrees h fun rec _ => (plain_agrees _).onlyIf _) response

/-! ## The report agrees -/

/-- Two rows of the tables, of one sub-function. -/
structure EntryAgrees (app : UdsDtcAppStorage) (checked : CheckedDtcEntry)
    (entry : DtcSubfnEntry) : Prop where
  subfunction : checked.subfunction = entry.subfunction
  minRequestLength : checked.minRequestLength = entry.minRequestLength
  handler : HandlerAgrees app checked.handler entry.handler

theorem entries_agree (h : DtcValid app) :
    List.Forall₂ (EntryAgrees app) dtcSubfnsWithin dtcSubfns :=
  .cons ⟨rfl, rfl, countByMask_agrees h⟩ <|
  .cons ⟨rfl, rfl, listByMask_agrees h⟩ <|
  .cons ⟨rfl, rfl, snapshotIdentification_agrees h⟩ <|
  .cons ⟨rfl, rfl, snapshotByDtc_agrees h⟩ <|
  .cons ⟨rfl, rfl, snapshotByRecordNumber_agrees h⟩ <|
  .cons ⟨rfl, rfl, extendedByDtc_agrees h⟩ <|
  .cons ⟨rfl, rfl, countByMask_agrees h⟩ <|
  .cons ⟨rfl, rfl, severityRecord_agrees h⟩ <|
  .cons ⟨rfl, rfl, severityInfoByDtc_agrees h⟩ <|
  .cons ⟨rfl, rfl, listByMask_agrees h⟩ <|
  .cons ⟨rfl, rfl, listByMask_agrees h⟩ <|
  .cons ⟨rfl, rfl, listByMask_agrees h⟩ <|
  .cons ⟨rfl, rfl, listByMask_agrees h⟩ <|
  .cons ⟨rfl, rfl, listByMask_agrees h⟩ <|
  .cons ⟨rfl, rfl, listByMask_agrees h⟩ <|
  .cons ⟨rfl, rfl, extendedByDtc_agrees h⟩ <|
  .cons ⟨rfl, rfl, countByMask_agrees h⟩ <|
  .cons ⟨rfl, rfl, countByMask_agrees h⟩ <|
  .cons ⟨rfl, rfl, listByMask_agrees h⟩ <|
  .cons ⟨rfl, rfl, faultDetectionCounter_agrees h⟩ <|
  .cons ⟨rfl, rfl, listByMask_agrees h⟩ <|
  .cons ⟨rfl, rfl, extDataByRecordNumber_agrees h⟩ <|
  .cons ⟨rfl, rfl, userDefMemoryByMask_agrees h⟩ <|
  .cons ⟨rfl, rfl, snapshotByDtc_agrees h⟩ <|
  .cons ⟨rfl, rfl, extendedByDtc_agrees h⟩ <|
  .cons ⟨rfl, rfl, severityMaskRecord_agrees h⟩ <|
  .cons ⟨rfl, rfl, wwhObdByMask_agrees h⟩ .nil

/-- Both searches end at the same row. -/
theorem find_agrees {checked : List CheckedDtcEntry} {entries : List DtcSubfnEntry}
    (h : List.Forall₂ (EntryAgrees app) checked entries) (subfunction : UInt8) :
    Option.Rel (EntryAgrees app) (checked.find? fun entry => entry.subfunction = subfunction)
      (entries.find? fun entry => entry.subfunction = subfunction) := by
  induction h with
  | nil => exact .none
  | @cons c e checked entries hentry _ ih =>
    rw [List.find?_cons, List.find?_cons, hentry.subfunction]
    split
    next => exact .some hentry
    next => exact ih

/-- The report of a table in order reads nothing outside, whatever is asked. -/
theorem udsDtcAppReportWithin_eq (h : DtcValid app) (subfunction : UInt8) (request : List UInt8)
    (responseCapacity : UInt16) :
    udsDtcAppReportWithin app subfunction request responseCapacity
      = some (udsDtcAppReport app subfunction request responseCapacity) := by
  unfold udsDtcAppReportWithin udsDtcAppReport
  split
  next => rfl
  next =>
    have hfind := find_agrees (entries_agree h) subfunction
    generalize dtcSubfnsWithin.find? (fun entry => entry.subfunction = subfunction) = checked,
      dtcSubfns.find? (fun entry => entry.subfunction = subfunction) = entry at hfind
    cases hfind with
    | none => rfl
    | @some checked entry hentry =>
      dsimp only
      rw [hentry.minRequestLength]
      split
      next => rfl
      next =>
        split
        next => exact hentry.handler subfunction request responseCapacity _
        next => rfl

end Agrees

/-! ## The store of trouble codes -/

/-- No access of the functions is outside an array, and no number of records is cut off. -/
structure AccessesFit (ω : Type) (app : UdsDtcAppStorage) : Prop where
  count : (recordCountByte app).toNat = getTotalRecordCount app
  savedCount : (nvBlockOf app).recordCount.toNat = getTotalRecordCount app
  record : ∀ index, getDtcRecordWithin app index = some (getDtcRecord app index.toNat)
  find : ∀ dtc, findDtcIndexWithin app dtc = some (findDtcIndex app dtc)
  globalSnapshot : ∀ dtc,
    udsDtcAppGetGlobalSnapshotWithin app dtc = some (udsDtcAppGetGlobalSnapshot app dtc)
  extendedData : ∀ dtc,
    udsDtcAppGetExtendedDataWithin app dtc = some (udsDtcAppGetExtendedData app dtc)
  save : ∀ w : UdsParamStore ω × ω,
    udsDtcAppSaveToNvmWithin app w = some (udsDtcAppSaveToNvm app w)
  load : ∀ (saved : UdsDtcAppStorage) (w : UdsParamStore ω × ω), DtcReachable ω saved →
    (udsParamLoad w.1 [] w.2).2.1 = nvBlockCodec.encode (nvBlockOf saved) →
    udsDtcAppLoadFromNvmWithin app w = some (udsDtcAppLoadFromNvm app w)
  report : ∀ subfunction request responseCapacity,
    udsDtcAppReportWithin app subfunction request responseCapacity
      = some (udsDtcAppReport app subfunction request responseCapacity)

/-- Whatever has happened to the table since `uds_dtc_app_init`: no two of its codes have one
number, its arrays and their data are not exceeded, and so none of its functions accesses
anything outside. -/
theorem dtc_store_sound (ω : Type) (app : UdsDtcAppStorage) (h : DtcReachable ω app) :
    (romDtcDefs.map UdsDtcRomDef.dtcNumber
      ++ app.dynamicRecords.map UdsDtcDynamicRecord.dtcNumber).Nodup ∧
    app.staticStatus.length = dtcStaticCount ∧
    app.dynamicRecords.length ≤ dtcDynamicMax ∧
    (∀ ram ∈ storedStatuses app, ram.snapshotData.length ≤ dtcAppSnapshotSize ∧
      ram.extendedData.length ≤ dtcAppExtendedSize) ∧
    AccessesFit ω app := by
  have hbounded := h.bounded
  have hvalid := hbounded.valid
  have hsized := hvalid.table.sized
  refine ⟨?_, hvalid.static, hvalid.dynamic, fun ram hram => ?_, ?_⟩
  · rw [← numbers_eq hvalid.static]
    exact hvalid.distinct
  · rw [storedStatuses_eq hvalid.static] at hram
    obtain ⟨e, he, rfl⟩ := List.mem_map.mp hram
    exact ⟨(hvalid.fits e he).length, hbounded.extended e he⟩
  · exact
      { count := recordCountByte_toNat hsized
        savedCount := recordCountByte_toNat hsized
        record := getDtcRecordWithin_eq hsized
        find := findDtcIndexWithin_eq hsized
        globalSnapshot := udsDtcAppGetGlobalSnapshotWithin_eq hvalid
        extendedData := udsDtcAppGetExtendedDataWithin_eq hsized
        save := udsDtcAppSaveToNvmWithin_eq hvalid
        load := fun saved w hsaved =>
          udsDtcAppLoadFromNvmWithin_saved hvalid.table hsaved.bounded.valid w
        report := udsDtcAppReportWithin_eq hvalid }

/-- A fault of a code that is not in ROM, and its block loaded into a table with another one. -/
theorem dtc_store_sound_loaded :
    let world := (dtcStart dtcFlash dtcFlash_accepted).world
    let saved := (udsDtcAppSetFault udsDtcAppInit world 0x123456 0x2F 0x20 100).2.1
    let app := (udsDtcAppSetFault udsDtcAppInit world 0x654321 0x08 0x40 50).2.1
    AccessesFit NorFlash saved ∧ app.dynamicRecords.length ≤ dtcDynamicMax ∧
      restoreBlockWithin app (nvBlockOf saved) = some (restoreBlock app (nvBlockOf saved)) := by
  intro world saved app
  have hsaved : DtcReachable NorFlash saved := .setFault .init world 0x123456 0x2F 0x20 100
  have happ : DtcReachable NorFlash app := .setFault .init world 0x654321 0x08 0x40 50
  exact ⟨(dtc_store_sound NorFlash saved hsaved).2.2.2.2, (dtc_store_sound NorFlash app happ).2.2.1,
    restoreBlockWithin_saved happ.bounded.valid.table hsaved.bounded.valid⟩

end UdsIsoTp.App
