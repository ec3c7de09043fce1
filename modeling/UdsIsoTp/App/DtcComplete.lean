import UdsIsoTp.App.DtcSeverity
import UdsIsoTp.App.DtcReportAccess

/-!
# Complete reports

What each sub-function has to say of a table, without regard to any capacity: all the entries
of its list, and for each of them all its details (`reportContents`). A handler `Answers` with
such contents if it succeeds with all of them where they fit and does not succeed elsewhere;
where there is nothing to report, as the code asked for is not in the table, it does not
succeed at all.

The requests are those that `uds_dtc_request_length_valid` lets through. The shortest of them
is long enough for its handler (`lengths_agree`).
-/

namespace UdsIsoTp.App

open UdsIsoTp.Flash UdsIsoTp.Uds Writer

/-! ## What is to be reported -/

/-- The active records. -/
def activeRecords (app : UdsDtcAppStorage) : List UdsDtcAppRecord :=
  (allRecords app).filter UdsDtcAppRecord.active

/-- The snapshot of a record, or the default one. -/
def snapshotPayload (rec : UdsDtcAppRecord) : List UInt8 :=
  if rec.snapshotData = [] then defaultObdSnapshot
  else if rec.snapshotData.length = 8 then 0x01 :: 0x01 :: 0x00 :: rec.snapshotData
  else 0x01 :: 0xDF :: 0x00 :: rec.snapshotData

/-- What a report says of a record's snapshot, nothing when it has not the one asked for. -/
def snapshotDetails (rec : UdsDtcAppRecord) (reqRecordNum : UInt8) : List UInt8 :=
  if rec.active && matchesSnapshot rec reqRecordNum then
    outRecNum reqRecordNum :: snapshotPayload rec
  else []

/-- The counters of the number, or all four. -/
def extendedDetails (rec : UdsDtcAppRecord) (reqRecNum : UInt8) : List UInt8 :=
  if rec.active then
    ((extMap rec).filter fun ext =>
      reqRecNum == 0xFF || reqRecNum == 0x00 || reqRecNum == ext.1).flatMap
      fun ext => [ext.1, ext.2]
  else []

/-- What is reported by code: all active records for `0xFFFFFF`, else the one of the code. -/
def byDtc (app : UdsDtcAppStorage) (request : List UInt8)
    (details : UdsDtcAppRecord → UInt8 → List UInt8) : Option (List UInt8) :=
  if targetDtc request = 0xFFFFFF then
    some ((activeRecords app).flatMap fun rec =>
      dtcBytes rec ++ details rec (request.getD 5 0xFF))
  else (recordOf app (targetDtc request)).map fun rec =>
    dtcBytes rec ++ details rec (request.getD 5 0xFF)

section Contents

variable (app : UdsDtcAppStorage) (request : List UInt8)

/-- The whole report of the number of records under a mask. -/
def countContents : Option (List UInt8) :=
  some (statusAvailabilityMask :: 0x01 ::
    toBytesBe 2 (selectedRecords app (request.getD 2 0xFF)).length)

/-- A list of codes with their statuses. -/
def listContents (subfunction : UInt8) : Option (List UInt8) :=
  some (statusAvailabilityMask ::
    ((allRecords app).filter (listIncludes subfunction (request.getD 2 0xFF))).flatMap dtcBytes)

/-- The whole report of the snapshots there are. -/
def identificationContents : Option (List UInt8) :=
  some ((activeRecords app).flatMap fun rec => dtcBytes rec ++ [0x01])

/-- The whole report of the snapshots of a DTC, after the memory selection. -/
def snapshotByDtcContents (memSelection : List UInt8) : Option (List UInt8) :=
  (byDtc app request snapshotDetails).map (memSelection ++ ·)

/-- The whole report of the snapshots with one record number. -/
def snapshotByRecordContents : Option (List UInt8) :=
  some (((allRecords app).filter fun rec =>
    rec.active && matchesSnapshot rec (request.getD 2 0x01)).flatMap fun rec =>
      dtcBytes rec ++ outRecNum (request.getD 2 0x01) :: snapshotPayload rec)

/-- The whole report of the extended data of a DTC. -/
def extendedByDtcContents (memSelection : List UInt8) : Option (List UInt8) :=
  (byDtc app request extendedDetails).map (memSelection ++ ·)

/-- The whole report of the severities under a status mask. -/
def severityContents : Option (List UInt8) :=
  some (statusAvailabilityMask ::
    (selectedRecords app (request.getD 2 0xFF)).flatMap severityDtcBytes)

/-- The whole report of the severity of one DTC. -/
def severityInfoContents : Option (List UInt8) :=
  (recordOf app (targetDtc request)).map fun rec => statusAvailabilityMask :: severityDtcBytes rec

/-- The whole report of the fault counters. -/
def faultCounterContents : Option (List UInt8) :=
  some ((activeRecords app).flatMap fun rec =>
    toBytesBe 3 rec.dtcNumber.toNat ++ [rec.faultCounter.toUInt8])

/-- The whole report of one piece of extended data. -/
def extDataByRecordContents : Option (List UInt8) :=
  some (request.getD 2 0x01 :: (activeRecords app).flatMap fun rec =>
    dtcBytes rec ++ [request.getD 2 0x01, extDataOf rec (request.getD 2 0x01)])

/-- The whole report of a user defined memory. -/
def userDefMemoryContents : Option (List UInt8) :=
  some (request.getD 3 0x00 :: statusAvailabilityMask ::
    (selectedRecords app (request.getD 2 0xFF)).flatMap dtcBytes)

/-- The whole report under a severity mask and a status mask. -/
def severityMaskContents : Option (List UInt8) :=
  some (request.getD 2 0x00 :: statusAvailabilityMask ::
    (severityRecords app (request.getD 4 0xFF) (request.getD 3 0xFF)).flatMap severityDtcBytes)

/-- The whole report of the confirmed records. -/
def wwhObdContents : Option (List UInt8) :=
  some (request.getD 2 0x00 :: statusAvailabilityMask ::
    (selectedRecords app dtcStatusConfirmed).flatMap severityDtcBytes)

/-- What a sub-function has to say; nothing of a code that is not in the table. -/
def reportContents (subfunction : UInt8) : Option (List UInt8) :=
  if subfunction ∈ [0x01, 0x07, 0x11, 0x12] then countContents app request
  else if subfunction ∈ [0x02, 0x0A, 0x0B, 0x0C, 0x0D, 0x0E, 0x0F, 0x13, 0x15] then
    listContents app request subfunction
  else if subfunction = 0x03 then identificationContents app
  else if subfunction = 0x04 then snapshotByDtcContents app request []
  else if subfunction = 0x05 then snapshotByRecordContents app request
  else if subfunction = 0x06 ∨ subfunction = 0x10 then extendedByDtcContents app request []
  else if subfunction = 0x08 then severityContents app request
  else if subfunction = 0x09 then severityInfoContents app request
  else if subfunction = 0x14 then faultCounterContents app
  else if subfunction = 0x16 then extDataByRecordContents app request
  else if subfunction = 0x17 then userDefMemoryContents app request
  else if subfunction = 0x18 then snapshotByDtcContents app request [request.getD 6 0x00]
  else if subfunction = 0x19 then extendedByDtcContents app request [request.getD 6 0x00]
  else if subfunction = 0x42 then severityMaskContents app request
  else if subfunction = 0x55 then wwhObdContents app request
  else none

/-- The complete response, with the sub-function in front. -/
def completeReport (subfunction : UInt8) : Option (List UInt8) :=
  (reportContents app request subfunction).map (subfunction :: ·)

end Contents

/-! ## What the writers append -/

section Writers

variable (capacity : UInt16)

theorem snapshotPayload_appends (rec : UdsDtcAppRecord) :
    Appends capacity.toNat (appendSnapshotPayload capacity rec) (snapshotPayload rec) := by
  unfold appendSnapshotPayload snapshotPayload
  by_cases hnone : rec.snapshotData = []
  · rw [if_pos hnone, hnone]
    exact appendAll_appends ..
  · rw [if_neg hnone, if_pos (List.length_pos_iff.mpr hnone)]
    split
    next => exact (appendAll_appends ..).andAlso (appendAll_appends ..)
    next => exact (appendAll_appends ..).andAlso (appendAll_appends ..)

theorem matchingSnapshot_appends (rec : UdsDtcAppRecord) (reqRecordNum : UInt8) :
    Appends capacity.toNat (appendMatchingSnapshot capacity rec reqRecordNum)
      (snapshotDetails rec reqRecordNum) :=
  ((append_appends ..).andAlso (snapshotPayload_appends capacity rec)).onlyIf _

theorem extendedData_appends (rec : UdsDtcAppRecord) (reqRecNum : UInt8) :
    Appends capacity.toNat (onlyIf rec.active (appendSingleExtendedData capacity rec reqRecNum))
      (extendedDetails rec reqRecNum) := by
  have heach := appendEach_appends (fun ext : UInt8 × UInt8 =>
    ((append_appends capacity.toNat ext.1).andAlso
      (append_appends capacity.toNat ext.2)).onlyIf
        (reqRecNum == 0xFF || reqRecNum == 0x00 || reqRecNum == ext.1)) (extMap rec)
  rw [flatMap_if] at heach
  exact heach.onlyIf rec.active

end Writers

/-! ## Handlers that answer -/

/-- The handler succeeds with the contents where they fit, and not elsewhere. -/
structure Answers (capacity : Nat) (handle : List UInt8 → UdsCallbackResult × List UInt8)
    (contents : Option (List UInt8)) : Prop where
  bounded : ∀ response, response.length ≤ capacity → (handle response).2.length ≤ capacity
  fits : ∀ bytes, contents = some bytes → ∀ response,
    response.length + bytes.length ≤ capacity → handle response = (.ok, response ++ bytes)
  refused : ∀ response, response.length ≤ capacity →
    (∀ bytes, contents = some bytes → capacity < response.length + bytes.length) →
    (handle response).1 ≠ .ok

theorem written_answers {capacity : Nat} {w : Writer UInt8} {bytes : List UInt8}
    (h : Appends capacity w bytes) :
    Answers capacity (fun response => written (w response)) (some bytes) where
  bounded := h.bounded
  fits := by
    intro bytes' hbytes response hfits
    rw [← Option.some.inj hbytes] at hfits ⊢
    rw [h.fits response hfits]
    rfl
  refused := by
    intro response hresponse hfull
    unfold written
    rw [h.full response hresponse (hfull bytes rfl), if_neg Bool.false_ne_true]
    exact UdsCallbackResult.noConfusion

/-- Nothing can be said of a code that is not in the table. -/
theorem outOfRange_answers (capacity : Nat) :
    Answers capacity (fun response => (.outOfRange, response)) none where
  bounded _ hresponse := hresponse
  fits bytes hbytes := absurd hbytes.symm (Option.some_ne_none bytes)
  refused _ _ _ := UdsCallbackResult.noConfusion

section Handlers

variable {app : UdsDtcAppStorage} (request : List UInt8) (capacity : UInt16)

theorem reportByDtc_answers {w : UdsDtcAppRecord → UInt8 → Writer UInt8}
    {details : UdsDtcAppRecord → UInt8 → List UInt8}
    (hdetails : ∀ rec recNum, Appends capacity.toNat (w rec recNum) (details rec recNum)) :
    Answers capacity.toNat (reportByDtc app request capacity w) (byDtc app request details) := by
  have hentry : ∀ rec, Appends capacity.toNat
      (andAlso (appendDtc capacity rec) (w rec (request.getD 5 0xFF)))
      (dtcBytes rec ++ details rec (request.getD 5 0xFF)) :=
    fun rec => (appendDtc_appends capacity rec).andAlso (hdetails rec _)
  unfold byDtc
  by_cases hall : targetDtc request = 0xFFFFFF
  · have hhandle : reportByDtc app request capacity w = fun response => written (appendEach
        (fun rec => onlyIf rec.active <|
          andAlso (appendDtc capacity rec) (w rec (request.getD 5 0xFF)))
        (allRecords app) response) := funext fun response => if_pos hall
    rw [if_pos hall, hhandle]
    exact written_answers (records_append hentry UdsDtcAppRecord.active (allRecords app))
  · rw [if_neg hall]
    cases hrecord : recordOf app (targetDtc request) with
    | none =>
      have hhandle : reportByDtc app request capacity w
          = fun response => (.outOfRange, response) := by
        funext response
        unfold reportByDtc
        rw [hrecord]
        exact if_neg hall
      rw [hhandle]
      exact outOfRange_answers _
    | some rec =>
      have hhandle : reportByDtc app request capacity w = fun response =>
          written (andAlso (appendDtc capacity rec) (w rec (request.getD 5 0xFF)) response) := by
        funext response
        unfold reportByDtc
        rw [hrecord]
        exact if_neg hall
      rw [hhandle]
      exact written_answers (hentry rec)

/-- The byte in front of what the other part of the handler answers. -/
theorem withMemSelection_answers (selects : Bool)
    {rest : List UInt8 → UdsCallbackResult × List UInt8} {contents : Option (List UInt8)}
    (hrest : Answers capacity.toNat rest contents) :
    Answers capacity.toNat (withMemSelection selects request capacity rest)
      (contents.map ((if selects then [request.getD 6 0x00] else []) ++ ·)) := by
  have hfirst := (append_appends capacity.toNat (request.getD 6 0x00)).onlyIf selects
  have hstep : ∀ response, withMemSelection selects request capacity rest response
      = if (onlyIf selects (appendByte capacity (request.getD 6 0x00)) response).1 then
          rest (onlyIf selects (appendByte capacity (request.getD 6 0x00)) response).2
        else (.responseTooLong,
          (onlyIf selects (appendByte capacity (request.getD 6 0x00)) response).2) :=
    fun _ => rfl
  refine ⟨fun response hresponse => ?_, fun bytes hbytes response hfits => ?_,
    fun response hresponse hfull => ?_⟩
  · have hbounded := hfirst.bounded response hresponse
    rw [hstep]
    split
    next => exact hrest.bounded _ hbounded
    next => exact hbounded
  · obtain ⟨tail, htail, rfl⟩ := Option.map_eq_some_iff.mp hbytes
    rw [List.length_append] at hfits
    have hwritten := hfirst.fits response (by omega)
    rw [hstep]
    unfold appendByte
    rw [hwritten]
    dsimp only
    rw [if_pos rfl, hrest.fits tail htail _ (by rw [List.length_append]; omega),
      List.append_assoc]
  · rw [hstep]
    by_cases hroom : response.length + (if selects then [request.getD 6 0x00] else []).length
        ≤ capacity.toNat
    · -- the byte fits, so it is the rest that does not
      unfold appendByte
      rw [hfirst.fits response hroom]
      dsimp only
      rw [if_pos rfl]
      refine hrest.refused _ (by rw [List.length_append]; exact hroom) fun tail htail => ?_
      have hlong := hfull _ (by rw [htail]; rfl)
      rw [List.length_append] at hlong ⊢
      omega
    · unfold appendByte
      rw [hfirst.full response hresponse (Nat.lt_of_not_le hroom), if_neg Bool.false_ne_true]
      exact UdsCallbackResult.noConfusion

theorem countByMask_answers (h : TableSized app) (subfunction : UInt8) :
    Answers capacity.toNat (dtcReportCountByMask app subfunction request capacity)
      (countContents app request) := by
  rw [funext (countByMask_written h subfunction request capacity)]
  exact written_answers (appendAll_appends ..)

theorem listByMask_answers (subfunction : UInt8) :
    Answers capacity.toNat (dtcReportListByMask app subfunction request capacity)
      (listContents app request subfunction) :=
  written_answers ((append_appends ..).andAlso
    (records_append (appendDtc_appends capacity) _ (allRecords app)))

theorem snapshotIdentification_answers (subfunction : UInt8) :
    Answers capacity.toNat (dtcReportSnapshotIdentification app subfunction request capacity)
      (identificationContents app) :=
  written_answers (records_append (fun rec => (appendDtc_appends capacity rec).andAlso
    (append_appends capacity.toNat 0x01)) UdsDtcAppRecord.active (allRecords app))

theorem snapshotByDtc_answers (hlength : 5 ≤ request.length) (subfunction : UInt8) :
    Answers capacity.toNat (dtcReportSnapshotByDtc app subfunction request capacity)
      (snapshotByDtcContents app request
        (if decide (subfunction = 0x18) then [request.getD 6 0x00] else [])) := by
  have hhandle : dtcReportSnapshotByDtc app subfunction request capacity
      = withMemSelection (subfunction = 0x18) request capacity
        (reportByDtc app request capacity (appendMatchingSnapshot capacity)) :=
    funext fun response => if_neg (Nat.not_lt.mpr hlength)
  rw [hhandle]
  exact withMemSelection_answers request capacity _
    (reportByDtc_answers request capacity (matchingSnapshot_appends capacity))

theorem snapshotByRecordNumber_answers (subfunction : UInt8) :
    Answers capacity.toNat (dtcReportSnapshotByRecordNumber app subfunction request capacity)
      (snapshotByRecordContents app request) :=
  written_answers (records_append (fun rec => (appendDtc_appends capacity rec).andAlso <|
    (append_appends ..).andAlso (snapshotPayload_appends capacity rec)) _ (allRecords app))

theorem extendedByDtc_answers (hlength : 5 ≤ request.length) (subfunction : UInt8) :
    Answers capacity.toNat (dtcReportExtendedByDtc app subfunction request capacity)
      (extendedByDtcContents app request
        (if decide (subfunction = 0x19) then [request.getD 6 0x00] else [])) := by
  have hhandle : dtcReportExtendedByDtc app subfunction request capacity
      = withMemSelection (subfunction = 0x19) request capacity
        (reportByDtc app request capacity fun rec reqRecNum =>
          onlyIf rec.active (appendSingleExtendedData capacity rec reqRecNum)) :=
    funext fun response => if_neg (Nat.not_lt.mpr hlength)
  rw [hhandle]
  exact withMemSelection_answers request capacity _
    (reportByDtc_answers request capacity (extendedData_appends capacity))

theorem severityRecord_answers (subfunction : UInt8) :
    Answers capacity.toNat (dtcReportSeverityRecord app subfunction request capacity)
      (severityContents app request) :=
  written_answers (list_appends (appendSeverityDtc_appends capacity) app _)

theorem severityInfoByDtc_answers (hlength : 5 ≤ request.length) (subfunction : UInt8) :
    Answers capacity.toNat (dtcReportSeverityInfoByDtc app subfunction request capacity)
      (severityInfoContents app request) := by
  unfold severityInfoContents
  cases hrecord : recordOf app (targetDtc request) with
  | none =>
    have hhandle : dtcReportSeverityInfoByDtc app subfunction request capacity
        = fun response => (.outOfRange, response) := by
      funext response
      unfold dtcReportSeverityInfoByDtc
      rw [if_neg (Nat.not_lt.mpr hlength), hrecord]
    rw [hhandle]
    exact outOfRange_answers _
  | some rec =>
    have hhandle : dtcReportSeverityInfoByDtc app subfunction request capacity
        = fun response => written (andAlso (appendByte capacity statusAvailabilityMask)
          (appendSeverityDtc capacity rec) response) := by
      funext response
      unfold dtcReportSeverityInfoByDtc
      rw [if_neg (Nat.not_lt.mpr hlength), hrecord]
    rw [hhandle]
    exact written_answers ((append_appends ..).andAlso (appendSeverityDtc_appends capacity rec))

theorem faultDetectionCounter_answers (subfunction : UInt8) :
    Answers capacity.toNat (dtcReportFaultDetectionCounter app subfunction request capacity)
      (faultCounterContents app) := by
  refine written_answers (records_append (fun rec => ?_) UdsDtcAppRecord.active (allRecords app))
  rw [← number_bytes]
  exact appendAll_appends ..

theorem extDataByRecordNumber_answers (subfunction : UInt8) :
    Answers capacity.toNat (dtcReportExtDataByRecordNumber app subfunction request capacity)
      (extDataByRecordContents app request) :=
  written_answers ((append_appends ..).andAlso (records_append (fun rec =>
    (appendDtc_appends capacity rec).andAlso <| (append_appends ..).andAlso
      (append_appends capacity.toNat (extDataOf rec (request.getD 2 0x01))))
    UdsDtcAppRecord.active (allRecords app)))

theorem userDefMemoryByMask_answers (subfunction : UInt8) :
    Answers capacity.toNat (dtcReportUserDefMemoryByMask app subfunction request capacity)
      (userDefMemoryContents app request) :=
  written_answers ((append_appends ..).andAlso <|
    list_appends (appendDtc_appends capacity) app (request.getD 2 0xFF))

theorem severityMaskRecord_answers (subfunction : UInt8) :
    Answers capacity.toNat (dtcReportSeverityMaskRecord app subfunction request capacity)
      (severityMaskContents app request) :=
  written_answers ((append_appends ..).andAlso <| (append_appends ..).andAlso <|
    records_append (appendSeverityDtc_appends capacity)
      (SeveritySelected (request.getD 4 0xFF) (request.getD 3 0xFF)) (allRecords app))

theorem wwhObdByMask_answers (subfunction : UInt8) :
    Answers capacity.toNat (dtcReportWwhObdByMask app subfunction request capacity)
      (wwhObdContents app request) :=
  written_answers ((append_appends ..).andAlso <|
    list_appends (appendSeverityDtc_appends capacity) app dtcStatusConfirmed)

end Handlers

/-! ## The rows of the table -/

/-- The row's handler has what its sub-function has to say. -/
def EntryAnswers (app : UdsDtcAppStorage) (entry : DtcSubfnEntry) : Prop :=
  ∀ (request : List UInt8) (capacity : UInt16), entry.minRequestLength.toNat ≤ request.length →
    Answers capacity.toNat (entry.handler app entry.subfunction request capacity)
      (reportContents app request entry.subfunction)

theorem entries_answer {app : UdsDtcAppStorage} (h : TableSized app) :
    ∀ entry ∈ dtcSubfns, EntryAnswers app entry := by
  have hcount : ∀ subfunction ∈ [0x01, 0x07, 0x11, 0x12],
      EntryAnswers app ⟨subfunction, 2, dtcReportCountByMask⟩ := by
    intro subfunction hmem request capacity _
    unfold reportContents
    rw [if_pos hmem]
    exact countByMask_answers request capacity h subfunction
  have hlist : ∀ subfunction ∈ [0x02, 0x0A, 0x0B, 0x0C, 0x0D, 0x0E, 0x0F, 0x13, 0x15],
      subfunction ∉ [0x01, 0x07, 0x11, 0x12] →
      EntryAnswers app ⟨subfunction, 2, dtcReportListByMask⟩ := by
    intro subfunction hmem hother request capacity _
    unfold reportContents
    rw [if_neg hother, if_pos hmem]
    exact listByMask_answers request capacity subfunction
  unfold dtcSubfns
  simp only [List.forall_mem_cons]
  exact ⟨hcount 0x01 (by decide), hlist 0x02 (by decide) (by decide),
    fun request capacity _ => snapshotIdentification_answers request capacity 0x03,
    fun request capacity hlength => snapshotByDtc_answers request capacity hlength 0x04,
    fun request capacity _ => snapshotByRecordNumber_answers request capacity 0x05,
    fun request capacity hlength => extendedByDtc_answers request capacity hlength 0x06,
    hcount 0x07 (by decide),
    fun request capacity _ => severityRecord_answers request capacity 0x08,
    fun request capacity hlength => severityInfoByDtc_answers request capacity hlength 0x09,
    hlist 0x0A (by decide) (by decide), hlist 0x0B (by decide) (by decide),
    hlist 0x0C (by decide) (by decide), hlist 0x0D (by decide) (by decide),
    hlist 0x0E (by decide) (by decide), hlist 0x0F (by decide) (by decide),
    fun request capacity hlength => extendedByDtc_answers request capacity hlength 0x10,
    hcount 0x11 (by decide), hcount 0x12 (by decide), hlist 0x13 (by decide) (by decide),
    fun request capacity _ => faultDetectionCounter_answers request capacity 0x14,
    hlist 0x15 (by decide) (by decide),
    fun request capacity _ => extDataByRecordNumber_answers request capacity 0x16,
    fun request capacity _ => userDefMemoryByMask_answers request capacity 0x17,
    fun request capacity hlength => snapshotByDtc_answers request capacity hlength 0x18,
    fun request capacity hlength => extendedByDtc_answers request capacity hlength 0x19,
    fun request capacity _ => severityMaskRecord_answers request capacity 0x42,
    fun request capacity _ => wwhObdByMask_answers request capacity 0x55,
    fun _ hnil => absurd hnil List.not_mem_nil⟩

/-- A sub-function that is let through has its row, and the handler's least length with it. -/
theorem lengths_agree : ∀ row ∈ dtcSubfnTable,
    ((dtcSubfns.find? fun entry => entry.subfunction = row.subfunction).any
      fun entry => decide (entry.minRequestLength.toNat ≤ row.minLen)) = true := by
  decide

theorem entry_of_valid {subfunction : UInt8} {n : Nat}
    (hvalid : udsDtcRequestLengthValid subfunction n = true) :
    ∃ entry ∈ dtcSubfns, dtcSubfns.find? (fun entry => entry.subfunction = subfunction)
      = some entry ∧ entry.subfunction = subfunction ∧ entry.minRequestLength.toNat ≤ n ∧ 0 < n := by
  unfold udsDtcRequestLengthValid at hvalid
  cases hmeta : udsDtcFindMeta subfunction with
  | none =>
    rw [hmeta] at hvalid
    exact Bool.noConfusion hvalid
  | some row =>
    rw [hmeta] at hvalid
    obtain ⟨hmin, -⟩ := Bool.and_eq_true_iff.mp hvalid
    have hmin := of_decide_eq_true hmin
    unfold udsDtcFindMeta at hmeta
    have hrow : row.subfunction = subfunction := by simpa using List.find?_some hmeta
    have hmem := List.mem_of_find?_eq_some hmeta
    obtain ⟨entry, hentry, hle⟩ := (Option.any_eq_true _ _).mp (lengths_agree row hmem)
    have hle := of_decide_eq_true hle
    rw [hrow] at hentry
    have hpos : 2 ≤ row.minLen :=
      (show ∀ row ∈ dtcSubfnTable, 2 ≤ row.minLen by decide) row hmem
    exact ⟨entry, List.mem_of_find?_eq_some hentry, hentry,
      by simpa using List.find?_some hentry, hle.trans hmin, by omega⟩

/-! ## The report -/

/-- The report of a request that is let through is the sub-function and then its handler. -/
theorem report_answers {app : UdsDtcAppStorage} (h : TableSized app) {subfunction : UInt8}
    {request : List UInt8} (hvalid : udsDtcRequestLengthValid subfunction request.length = true)
    {capacity : UInt16} (htwo : 2 ≤ capacity.toNat) :
    ∃ handle, Answers capacity.toNat handle (reportContents app request subfunction) ∧
      udsDtcAppReport app subfunction request capacity = handle [subfunction] := by
  obtain ⟨entry, hmem, hfind, hsub, hlength, hpos⟩ := entry_of_valid hvalid
  have hanswers := entries_answer h entry hmem request capacity hlength
  rw [hsub] at hanswers
  refine ⟨_, hanswers, ?_⟩
  have htaken : ¬(capacity < 2 ∨ request.length = 0) :=
    not_or.mpr ⟨Nat.not_lt.mpr htwo, Nat.pos_iff_ne_zero.mp hpos⟩
  have hfirst : appendByte capacity subfunction [] = (true, [subfunction]) :=
    (append_appends capacity.toNat subfunction).fits []
      (by rw [List.length_nil, List.length_singleton]; omega)
  unfold udsDtcAppReport
  rw [if_neg htaken, hfind]
  dsimp only
  rw [if_neg (Nat.not_lt.mpr hlength), hfirst, if_pos rfl]

/-- For every table that can be reached, every request that is let through and every capacity:
the report reads nothing outside its arrays and its request, and it writes no more than the
capacity. It succeeds only with the complete report, which it gives wherever that fits. -/
theorem dtc_report_complete (ω : Type) (app : UdsDtcAppStorage) (h : DtcReachable ω app)
    (subfunction : UInt8) (request : List UInt8)
    (hvalid : udsDtcRequestLengthValid subfunction request.length = true) (capacity : UInt16) :
    let report := udsDtcAppReport app subfunction request capacity
    udsDtcAppReportWithin app subfunction request capacity = some report ∧
      report.2.length ≤ capacity.toNat ∧
      (report.1 = .ok → completeReport app request subfunction = some report.2) ∧
      ∀ bytes, completeReport app request subfunction = some bytes →
        (capacity.toNat < bytes.length → report.1 ≠ .ok) ∧
        (2 ≤ capacity.toNat → bytes.length ≤ capacity.toNat → report = (.ok, bytes)) := by
  intro report
  have hbounded := h.bounded
  have hwithin := udsDtcAppReportWithin_eq hbounded.valid subfunction request capacity
  by_cases htwo : 2 ≤ capacity.toNat
  · obtain ⟨handle, hanswers, hreport⟩ :=
      report_answers hbounded.valid.table.sized hvalid htwo
    have hreport : report = handle [subfunction] := hreport
    have hroom : [subfunction].length ≤ capacity.toNat := by
      rw [List.length_singleton]
      omega
    refine ⟨hwithin, hreport ▸ hanswers.bounded _ hroom, fun hok => ?_, fun bytes hbytes => ?_⟩
    · by_contra hother
      -- whatever there is to report does not fit, as it would have been reported
      refine hanswers.refused [subfunction] hroom (fun bytes hbytes => ?_) (hreport ▸ hok)
      by_contra hfits
      have hfull := hanswers.fits bytes hbytes [subfunction] (Nat.le_of_not_lt hfits)
      refine hother ?_
      unfold completeReport
      rw [hbytes, hreport, hfull]
      rfl
    · obtain ⟨contents, hcontents, rfl⟩ := Option.map_eq_some_iff.mp hbytes
      constructor
      · intro hlong
        rw [hreport]
        refine hanswers.refused [subfunction] hroom fun bytes hbytes => ?_
        rw [← Option.some.inj (hcontents.symm.trans hbytes), List.length_singleton, Nat.add_comm]
        exact hlong
      · intro _ hfits
        rw [hreport]
        refine hanswers.fits contents hcontents [subfunction] ?_
        rw [List.length_singleton, Nat.add_comm]
        exact hfits
  · -- less than two bytes are refused
    have hreport : report = (.error, []) := if_pos (.inl (Nat.lt_of_not_le htwo))
    rw [hreport]
    refine ⟨hreport ▸ hwithin, Nat.zero_le _, fun hok => UdsCallbackResult.noConfusion hok,
      fun bytes _ => ⟨fun _ => UdsCallbackResult.noConfusion, fun hcap => absurd hcap htwo⟩⟩

/-- The three active codes of the table at the start, in a response that has room for all of
them, and in one that lacks a byte. -/
theorem dtc_report_complete_init :
    udsDtcAppReport udsDtcAppInit 0x02 [0x19, 0x02, 0xFF] 14
        = (.ok, [0x02, 0xFF, 0x01, 0x00, 0x00, 0x2F, 0xC1, 0x00, 0x00, 0x08,
          0x80, 0x01, 0x00, 0x01]) ∧
      (udsDtcAppReport udsDtcAppInit 0x02 [0x19, 0x02, 0xFF] 13).1 ≠ .ok := by
  have hbytes : completeReport udsDtcAppInit [0x19, 0x02, 0xFF] 0x02
      = some [0x02, 0xFF, 0x01, 0x00, 0x00, 0x2F, 0xC1, 0x00, 0x00, 0x08,
        0x80, 0x01, 0x00, 0x01] := by
    decide +kernel
  obtain ⟨-, -, -, hroom⟩ := dtc_report_complete Unit udsDtcAppInit .init 0x02 [0x19, 0x02, 0xFF]
    rfl 14
  obtain ⟨-, -, -, hshort⟩ := dtc_report_complete Unit udsDtcAppInit .init 0x02 [0x19, 0x02, 0xFF]
    rfl 13
  exact ⟨(hroom _ hbytes).2 (by decide) (by decide), (hshort _ hbytes).1 (by decide)⟩

end UdsIsoTp.App
