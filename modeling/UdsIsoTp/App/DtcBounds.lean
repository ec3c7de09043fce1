import UdsIsoTp.App.DtcEdits

/-!
# Tables that the application can reach

`DtcReachable` is what comes of `uds_dtc_app_init` and any functions after it, in any order
and on any store, as long as a load finds a block that a save has written, of this table or
of another one that can be reached. All of these tables are in order, and the data of every
record are within their arrays (`DtcBounded`).
-/

namespace UdsIsoTp.App

open UdsIsoTp.Flash UdsIsoTp.Uds Keyed

/-- `UDS_DTC_APP_EXTENDED_SIZE` -/
def dtcAppExtendedSize : Nat := 8

/-! ## The two arrays -/

/-- The statuses in the two arrays. -/
def storedStatuses (app : UdsDtcAppStorage) : List UdsDtcRamStatus :=
  app.staticStatus ++ app.dynamicRecords.map UdsDtcDynamicRecord.status

theorem storedStatuses_eq {app : UdsDtcAppStorage}
    (hstatic : app.staticStatus.length = dtcStaticCount) :
    storedStatuses app = (entries app).map DtcEntry.status := by
  have hrom : (List.zipWith DtcEntry.rom romDtcDefs app.staticStatus).map DtcEntry.status
      = app.staticStatus := by
    refine List.ext_getElem (by simp [hstatic, romDtcDefs_length]) fun i _ _ => ?_
    rw [List.getElem_map, List.getElem_zipWith]
    rfl
  unfold storedStatuses entries
  rw [List.map_append, List.map_map, hrom]
  rfl

/-! ## What can be reached -/

/-- The tables that the operations lead to. -/
inductive DtcReachable (ω : Type) : UdsDtcAppStorage → Prop
  | init : DtcReachable ω udsDtcAppInit
  | setFault {app : UdsDtcAppStorage} (h : DtcReachable ω app) (w : UdsParamStore ω × ω)
      (dtc : UInt32) (status severity : UInt8) (counter : Int8) :
      DtcReachable ω (udsDtcAppSetFault app w dtc status severity counter).2.1
  | reportEvent {app : UdsDtcAppStorage} (h : DtcReachable ω app) (w : UdsParamStore ω × ω)
      (dtc : UInt32) (failed : Bool) : DtcReachable ω (udsDtcAppReportEvent app w dtc failed).2.1
  | clear {app : UdsDtcAppStorage} (h : DtcReachable ω app) (w : UdsParamStore ω × ω)
      (groupOfDtc : UInt32) : DtcReachable ω (udsDtcAppClear app w groupOfDtc).2.1
  | clearFault {app : UdsDtcAppStorage} (h : DtcReachable ω app) (w : UdsParamStore ω × ω)
      (dtc : UInt32) : DtcReachable ω (udsDtcAppClearFault app w dtc).2.1
  | setSnapshot {app : UdsDtcAppStorage} (h : DtcReachable ω app) (w : UdsParamStore ω × ω)
      (dtc : UInt32) (recordNum : UInt8) (data : List UInt8) :
      DtcReachable ω (udsDtcAppSetSnapshot app w dtc recordNum data).2.1
  | setGlobalSnapshot {app : UdsDtcAppStorage} (h : DtcReachable ω app)
      (w : UdsParamStore ω × ω) (dtc : UInt32) (snapshot : ObdGlobalSnapshotFormat) :
      DtcReachable ω (udsDtcAppSetGlobalSnapshot app w dtc snapshot).2.1
  | setExtendedData {app : UdsDtcAppStorage} (h : DtcReachable ω app) (w : UdsParamStore ω × ω)
      (dtc : UInt32) (extData : ObdExtendedDataFormat) :
      DtcReachable ω (udsDtcAppSetExtendedData app w dtc extData).2.1
  | controlSetting {app : UdsDtcAppStorage} (h : DtcReachable ω app) (subfunction : UInt8) :
      DtcReachable ω (udsDtcAppControlSetting app subfunction).2
  /-- The pointer that `uds_dtc_app_attach_nvm` sets, before it loads. -/
  | pointed {app : UdsDtcAppStorage} (h : DtcReachable ω app) (store : Bool) :
      DtcReachable ω { app with nvmAttached := store }
  /-- A load that finds the block of `saved`; one that finds none changes nothing. -/
  | loadFromNvm {app saved : UdsDtcAppStorage} (h : DtcReachable ω app)
      (hsaved : DtcReachable ω saved) (w : UdsParamStore ω × ω)
      (hblock : (udsParamLoad w.1 [] w.2).2.1 = nvBlockCodec.encode (nvBlockOf saved)) :
      DtcReachable ω (udsDtcAppLoadFromNvm app w).2.1

/-! ## Extended data -/

/-- The extended data of every status are within their array. -/
def ExtendedFits (app : UdsDtcAppStorage) : Prop :=
  ∀ e ∈ entries app, e.status.extendedData.length ≤ dtcAppExtendedSize

theorem ensureSnapshot_extendedData (ram : UdsDtcRamStatus) :
    (ensureSnapshot ram).extendedData = ram.extendedData := by
  unfold ensureSnapshot
  split
  next => rfl
  next => rfl

theorem faultStatus_extendedData (status : UInt8) (counter : Int8) (ram : UdsDtcRamStatus) :
    (faultStatus status counter ram).extendedData = ram.extendedData := by
  unfold faultStatus
  extract_lets set counted pending
  have hcounted : counted.extendedData = ram.extendedData := by
    unfold counted
    split
    next => rfl
    next => rfl
  have hpending : pending.extendedData = counted.extendedData := by
    unfold pending
    split
    next => rfl
    next => rfl
  exact (ensureSnapshot_extendedData pending).trans (hpending.trans hcounted)

theorem debounceFaultFailed_extendedData (ram : UdsDtcRamStatus) :
    (debounceFaultFailed ram).extendedData = ram.extendedData := by
  unfold debounceFaultFailed
  extract_lets counted pending
  have hpending : pending.extendedData = ram.extendedData := by
    unfold pending
    split
    next => rfl
    next => rfl
  split
  next => exact (ensureSnapshot_extendedData _).trans hpending
  next => exact hpending

theorem debounceFaultPassed_extendedData (ram : UdsDtcRamStatus) :
    (debounceFaultPassed ram).extendedData = ram.extendedData := by
  unfold debounceFaultPassed
  extract_lets counted passed
  split
  next =>
    split
    next => rfl
    next => rfl
  next => rfl

/-- Only `uds_dtc_app_set_extended_data` writes extended data, and it writes four bytes. -/
theorem StatusUpdate.extended_fits {f : UdsDtcRamStatus → UdsDtcRamStatus} (hf : StatusUpdate f)
    {ram : UdsDtcRamStatus} (h : ram.extendedData.length ≤ dtcAppExtendedSize) :
    (f ram).extendedData.length ≤ dtcAppExtendedSize := by
  cases hf with
  | fault status counter => rwa [faultStatus_extendedData]
  | failed => rwa [debounceFaultFailed_extendedData]
  | passed => rwa [debounceFaultPassed_extendedData]
  | cleared => exact h
  | snapshot recordNum data => exact h
  | extended ext =>
    show 4 ≤ dtcAppExtendedSize
    decide
  | restored r => exact h

theorem NewRecord.extended_fits {dyn : UdsDtcDynamicRecord} (hdyn : NewRecord dyn) :
    dyn.status.extendedData.length ≤ dtcAppExtendedSize := by
  cases hdyn with
  | fault dtc status severity counter => exact Nat.zero_le _
  | restored r => exact Nat.zero_le _

/-! ## Tables within their arrays -/

/-- A valid table whose extended data fit. -/
structure DtcBounded (app : UdsDtcAppStorage) : Prop where
  valid : DtcValid app
  extended : ExtendedFits app

theorem DtcEdit.extended {app app' : UdsDtcAppStorage} (h : DtcEdit app app')
    (hstart : TableSound app ∧ ExtendedFits app) : TableSound app' ∧ ExtendedFits app' := by
  refine ⟨h.sound hstart.1, ?_⟩
  cases h with
  | status i hf =>
    intro e he
    rw [entries_setRamStatus hstart.1.static] at he
    rcases mem_modify he with he | ⟨before, hbefore, rfl⟩
    · exact hstart.2 e he
    · rw [DtcEntry.status_mapStatus]
      exact hf.extended_fits (hstart.2 before hbefore)
  | @added dyn hdyn hnew hroom =>
    intro e he
    rw [entries_append, List.mem_append, List.mem_singleton] at he
    rcases he with he | rfl
    · exact hstart.2 e he
    · exact hdyn.extended_fits
  | switched => exact hstart.2

/-- A function that leaves the table in order leaves it within its arrays. -/
theorem DtcBounded.edits {app app' : UdsDtcAppStorage} (h : DtcBounded app)
    (hedits : DtcEdits app app') (hvalid : DtcValid app') : DtcBounded app' :=
  ⟨hvalid, (edits_keep (fun _ _ hedit => hedit.extended) hedits ⟨h.valid.table, h.extended⟩).2⟩

theorem romDtcDefs_extended :
    ∀ rom ∈ romDtcDefs, rom.extendedData.length ≤ dtcAppExtendedSize := by
  decide +kernel

theorem udsDtcAppInit_bounded : DtcBounded udsDtcAppInit := by
  refine ⟨udsDtcAppInit_valid, fun e he => ?_⟩
  rw [entries_init] at he
  obtain ⟨rom, hrom, rfl⟩ := List.mem_map.mp he
  exact romDtcDefs_extended rom hrom

/-- A load of what a table in order has saved. -/
theorem udsDtcAppLoadFromNvm_valid {ω : Type} {app saved : UdsDtcAppStorage} (h : DtcValid app)
    (hsaved : DtcValid saved) (w : UdsParamStore ω × ω)
    (hblock : (udsParamLoad w.1 [] w.2).2.1 = nvBlockCodec.encode (nvBlockOf saved)) :
    DtcValid (udsDtcAppLoadFromNvm app w).2.1 := by
  unfold udsDtcAppLoadFromNvm
  split
  next => exact h
  next =>
    split
    next data flash hload =>
      rw [hload] at hblock
      dsimp only at hblock ⊢
      rw [hblock, nvBlockCodec.decode_encode_self, if_neg (nvBlockOf_accepted saved)]
      exact restoreBlock_valid hsaved h
    next => exact h

/-- Every table that can be reached is in order and within its arrays. -/
theorem DtcReachable.bounded {ω : Type} {app : UdsDtcAppStorage} (h : DtcReachable ω app) :
    DtcBounded app := by
  induction h with
  | init => exact udsDtcAppInit_bounded
  | setFault _ w dtc status severity counter ih =>
    exact ih.edits (udsDtcAppSetFault_edits _ w dtc status severity counter)
      (udsDtcAppSetFault_changed ih.valid w dtc status severity counter).valid
  | reportEvent _ w dtc failed ih =>
    exact ih.edits (udsDtcAppReportEvent_edits _ w dtc failed)
      (udsDtcAppReportEvent_changed ih.valid w dtc failed).valid
  | clear _ w groupOfDtc ih =>
    exact ih.edits (udsDtcAppClear_edits _ w groupOfDtc)
      (udsDtcAppClear_changed ih.valid w groupOfDtc).valid
  | clearFault _ w dtc ih =>
    exact ih.edits (updateRecord_edits _ w dtc .cleared)
      (udsDtcAppClearFault_changed ih.valid w dtc).valid
  | setSnapshot _ w dtc recordNum data ih =>
    exact ih.edits (udsDtcAppSetSnapshot_edits _ w dtc recordNum data)
      (udsDtcAppSetSnapshot_changed ih.valid w dtc recordNum data).valid
  | setGlobalSnapshot _ w dtc snapshot ih =>
    exact ih.edits (updateRecord_edits _ w dtc (.snapshot 0x01 snapshot.bytes))
      (udsDtcAppSetGlobalSnapshot_changed ih.valid w dtc snapshot).valid
  | setExtendedData _ w dtc extData ih =>
    exact ih.edits (updateRecord_edits _ w dtc (.extended extData))
      (udsDtcAppSetExtendedData_changed ih.valid w dtc extData).valid
  | controlSetting _ subfunction ih =>
    exact ih.edits (udsDtcAppControlSetting_edits _ subfunction)
      (udsDtcAppControlSetting_valid ih.valid subfunction)
  | @pointed app _ store ih =>
    exact ih.edits (.single (.switched app.dtcSettingEnabled store)) (ih.valid.congr rfl rfl)
  | loadFromNvm _ _ w hblock ih ihsaved =>
    exact ih.edits (udsDtcAppLoadFromNvm_edits _ w)
      (udsDtcAppLoadFromNvm_valid ih.valid ihsaved.valid w hblock)

end UdsIsoTp.App
