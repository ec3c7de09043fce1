import UdsIsoTp.App.DtcApp
import UdsIsoTp.Lib.Run

/-!
# Tables that the application can have

The codes in ROM have their status, no number has two records, and there are at most eleven
records more (`TableSound`). `DtcValid` is what holds besides as long as no foreign block is
loaded: a snapshot is there exactly when it has bytes, at most sixteen of them. Every function
keeps both, as each of them changes the status of records or adds a record for a code it has
not found.
-/

namespace UdsIsoTp.App

open UdsIsoTp.Flash UdsIsoTp.Uds Keyed

variable {ω : Type}

/-- The snapshot of a status is as its flag says, and in its array. -/
structure StatusFits (ram : UdsDtcRamStatus) : Prop where
  shown : ram.hasSnapshot = true ↔ ram.snapshotData ≠ []
  length : ram.snapshotData.length ≤ dtcAppSnapshotSize

/-- The records are in their arrays. -/
structure TableSized (app : UdsDtcAppStorage) : Prop where
  static : app.staticStatus.length = dtcStaticCount
  dynamic : app.dynamicRecords.length ≤ dtcDynamicMax

/-- The table has its fixed entries, not too many others, and no number twice. -/
structure TableSound (app : UdsDtcAppStorage) : Prop where
  static : app.staticStatus.length = dtcStaticCount
  dynamic : app.dynamicRecords.length ≤ dtcDynamicMax
  distinct : ((entries app).map DtcEntry.number).Nodup

/-- A sound table, each of whose statuses fits its fields. -/
structure DtcValid (app : UdsDtcAppStorage) : Prop where
  static : app.staticStatus.length = dtcStaticCount
  dynamic : app.dynamicRecords.length ≤ dtcDynamicMax
  distinct : ((entries app).map DtcEntry.number).Nodup
  fits : ∀ e ∈ entries app, StatusFits e.status

/-! ## The start -/

/-- No number is fixed twice. -/
theorem romDtcDefs_distinct : (romDtcDefs.map UdsDtcRomDef.dtcNumber).Nodup := by
  decide +kernel

/-- The snapshots of the fixed DTCs fit their buffer. -/
theorem romDtcDefs_fit : ∀ rom ∈ romDtcDefs, rom.snapshotData.length ≤ dtcAppSnapshotSize := by
  decide +kernel

theorem entries_init :
    entries udsDtcAppInit = romDtcDefs.map fun rom => .rom rom (initialStatus rom) := by
  unfold entries udsDtcAppInit
  rw [List.zipWith_map_right, List.zipWith_self]
  exact List.append_nil _

/-- The table is valid from the start. -/
theorem udsDtcAppInit_valid : DtcValid udsDtcAppInit where
  static := by
    show (romDtcDefs.map initialStatus).length = dtcStaticCount
    rw [List.length_map, romDtcDefs_length]
  dynamic := Nat.zero_le _
  distinct := by
    rw [entries_init, List.map_map]
    exact romDtcDefs_distinct
  fits e he := by
    rw [entries_init] at he
    obtain ⟨rom, hrom, rfl⟩ := List.mem_map.mp he
    exact ⟨by simp [DtcEntry.status, initialStatus], romDtcDefs_fit rom hrom⟩

/-! ## Changes of the table -/

section Changes

variable {app : UdsDtcAppStorage}

theorem setRamStatus_static (app : UdsDtcAppStorage) (i : Nat)
    (f : UdsDtcRamStatus → UdsDtcRamStatus) :
    (setRamStatus app i f).staticStatus.length = app.staticStatus.length := by
  unfold setRamStatus
  split
  · exact List.length_modify ..
  · rfl

theorem setRamStatus_dynamic (app : UdsDtcAppStorage) (i : Nat)
    (f : UdsDtcRamStatus → UdsDtcRamStatus) :
    (setRamStatus app i f).dynamicRecords.length = app.dynamicRecords.length := by
  unfold setRamStatus
  split
  · rfl
  · exact List.length_modify ..

/-- What the search misses is not in the table. -/
theorem findDtcIndex_none (hstatic : app.staticStatus.length = dtcStaticCount) {dtc : UInt32} :
    findDtcIndex app dtc = none ↔ dtcEntryOf app dtc = none := by
  rw [findDtcIndex_eq hstatic]
  exact index_none

/-- A registered DTC comes last. -/
theorem entries_append (app : UdsDtcAppStorage) (dyn : UdsDtcDynamicRecord) :
    entries { app with dynamicRecords := app.dynamicRecords ++ [dyn] }
      = entries app ++ [.dynamic dyn] := by
  simp [entries]

theorem entries_congr {app' : UdsDtcAppStorage} (hstatic : app'.staticStatus = app.staticStatus)
    (hdynamic : app'.dynamicRecords = app.dynamicRecords) : entries app' = entries app := by
  unfold entries
  rw [hstatic, hdynamic]

/-- A change of one status moves no record. -/
theorem TableSound.setRamStatus (h : TableSound app) (i : Nat)
    (f : UdsDtcRamStatus → UdsDtcRamStatus) : TableSound (setRamStatus app i f) where
  static := (setRamStatus_static app i f).trans h.static
  dynamic := by
    rw [setRamStatus_dynamic]
    exact h.dynamic
  distinct := by
    rw [entries_setRamStatus h.static, map_key_modify (DtcEntry.number_mapStatus f)]
    exact h.distinct

/-- A new record for a code that is not in the table. -/
theorem TableSound.append (h : TableSound app) {dyn : UdsDtcDynamicRecord}
    (hnew : findDtcIndex app dyn.dtcNumber = none)
    (hroom : app.dynamicRecords.length < dtcDynamicMax) :
    TableSound { app with dynamicRecords := app.dynamicRecords ++ [dyn] } where
  static := h.static
  dynamic := by
    show (app.dynamicRecords ++ [dyn]).length ≤ dtcDynamicMax
    rw [List.length_append]
    exact hroom
  distinct := by
    rw [entries_append, List.map_append, List.nodup_append]
    refine ⟨h.distinct, List.nodup_singleton _, fun a ha b hb hab => ?_⟩
    rw [List.map_singleton, List.mem_singleton] at hb
    rw [hab, hb] at ha
    exact lookup_none.mp ((findDtcIndex_none h.static).mp hnew) ha

/-- The table is what it is about, not the switches beside it. -/
theorem TableSound.congr {app' : UdsDtcAppStorage} (h : TableSound app)
    (hstatic : app'.staticStatus = app.staticStatus)
    (hdynamic : app'.dynamicRecords = app.dynamicRecords) : TableSound app' :=
  ⟨hstatic ▸ h.static, hdynamic ▸ h.dynamic, entries_congr hstatic hdynamic ▸ h.distinct⟩

theorem TableSound.sized (h : TableSound app) : TableSized app := ⟨h.static, h.dynamic⟩

/-- There are no more than 80 records. -/
theorem TableSized.count (h : TableSized app) : (allRecords app).length ≤ dtcAppMaxRecords := by
  rw [allRecords_eq h.static, List.length_map, length_entries h.static]
  exact Nat.add_le_add_left h.dynamic dtcStaticCount

theorem DtcValid.table (h : DtcValid app) : TableSound app := ⟨h.static, h.dynamic, h.distinct⟩

theorem TableSound.valid (h : TableSound app) (hfits : ∀ e ∈ entries app, StatusFits e.status) :
    DtcValid app :=
  ⟨h.static, h.dynamic, h.distinct, hfits⟩

/-- A change of one status that keeps the snapshot in order. -/
theorem DtcValid.setRamStatus (h : DtcValid app) (i : Nat)
    {f : UdsDtcRamStatus → UdsDtcRamStatus} (hf : ∀ ram, StatusFits ram → StatusFits (f ram)) :
    DtcValid (setRamStatus app i f) := by
  refine (h.table.setRamStatus i f).valid fun e he => ?_
  rw [entries_setRamStatus h.static] at he
  obtain he | ⟨before, hbefore, rfl⟩ := mem_modify he
  · exact h.fits e he
  · rw [DtcEntry.status_mapStatus]
    exact hf _ (h.fits before hbefore)

/-- A new DTC may be registered while there is room. -/
theorem DtcValid.append (h : DtcValid app) {dyn : UdsDtcDynamicRecord}
    (hnew : findDtcIndex app dyn.dtcNumber = none)
    (hroom : app.dynamicRecords.length < dtcDynamicMax) (hfits : StatusFits dyn.status) :
    DtcValid { app with dynamicRecords := app.dynamicRecords ++ [dyn] } := by
  refine (h.table.append hnew hroom).valid fun e he => ?_
  rw [entries_append, List.mem_append, List.mem_singleton] at he
  obtain he | rfl := he
  · exact h.fits e he
  · exact hfits

theorem DtcValid.congr {app' : UdsDtcAppStorage} (h : DtcValid app)
    (hstatic : app'.staticStatus = app.staticStatus)
    (hdynamic : app'.dynamicRecords = app.dynamicRecords) : DtcValid app' :=
  (h.table.congr hstatic hdynamic).valid (entries_congr hstatic hdynamic ▸ h.fits)

end Changes

/-! ## What the functions do to a status -/

/-- A snapshot that is not empty and not too long fits. -/
theorem setSnapshot_fits (recordNum : UInt8) {data : List UInt8} (hdata : data ≠ [])
    (hlength : data.length ≤ dtcAppSnapshotSize) (ram : UdsDtcRamStatus) :
    StatusFits (setSnapshot recordNum data ram) :=
  ⟨⟨fun _ => hdata, fun _ => rfl⟩, hlength⟩

theorem globalSnapshot_fits (snapshot : ObdGlobalSnapshotFormat) (ram : UdsDtcRamStatus) :
    StatusFits (setSnapshot 0x01 snapshot.bytes ram) := by
  refine setSnapshot_fits 0x01 (List.cons_ne_nil _ _) ?_ ram
  show 8 ≤ dtcAppSnapshotSize
  decide

/-- A cleared record has no snapshot that would have to fit. -/
theorem clearSingleRamRecord_fits (ram : UdsDtcRamStatus) :
    StatusFits (clearSingleRamRecord ram) :=
  ⟨⟨fun h => Bool.noConfusion h, fun h => absurd rfl h⟩, Nat.zero_le _⟩

/-- Only the flag and the bytes of the snapshot matter. -/
theorem StatusFits.congr {ram ram' : UdsDtcRamStatus} (h : StatusFits ram)
    (hshown : ram'.hasSnapshot = ram.hasSnapshot)
    (hdata : ram'.snapshotData = ram.snapshotData) : StatusFits ram' := by
  refine ⟨?_, ?_⟩
  · rw [hshown, hdata]
    exact h.shown
  · rw [hdata]
    exact h.length

theorem ensureSnapshot_fits {ram : UdsDtcRamStatus} (h : StatusFits ram) :
    StatusFits (ensureSnapshot ram) := by
  unfold ensureSnapshot
  split
  · exact globalSnapshot_fits defaultSnapshot ram
  · exact h

/-- A fault may leave a snapshot behind, and it fits. -/
theorem faultStatus_fits (status : UInt8) (counter : Int8) {ram : UdsDtcRamStatus}
    (h : StatusFits ram) : StatusFits (faultStatus status counter ram) := by
  unfold faultStatus
  extract_lets set counted pending
  have hset : StatusFits set := h.congr rfl rfl
  have hcounted : StatusFits counted := by
    unfold counted
    split
    · exact hset.congr rfl rfl
    · exact hset
  have hpending : StatusFits pending := by
    unfold pending
    split
    · exact hcounted.congr rfl rfl
    · exact hcounted
  exact ensureSnapshot_fits hpending

theorem faultRecord_fits (dtc : UInt32) (status severity : UInt8) (counter : Int8) :
    StatusFits (faultRecord dtc status severity counter).status :=
  globalSnapshot_fits defaultSnapshot _

/-- The same of a failed test. -/
theorem debounceFaultFailed_fits {ram : UdsDtcRamStatus} (h : StatusFits ram) :
    StatusFits (debounceFaultFailed ram) := by
  unfold debounceFaultFailed
  extract_lets counted pending
  have hcounted : StatusFits counted := h.congr rfl rfl
  have hpending : StatusFits pending := by
    unfold pending
    split
    · exact hcounted.congr rfl rfl
    · exact hcounted
  split
  · exact ensureSnapshot_fits (hpending.congr rfl rfl)
  · exact hpending

/-- And of a passed one. -/
theorem debounceFaultPassed_fits {ram : UdsDtcRamStatus} (h : StatusFits ram) :
    StatusFits (debounceFaultPassed ram) := by
  unfold debounceFaultPassed
  extract_lets counted passed
  have hcounted : StatusFits counted := h.congr rfl rfl
  have hpassed : StatusFits passed := hcounted.congr rfl rfl
  split
  · split
    · exact hpassed.congr rfl rfl
    · exact hpassed
  · exact hcounted

/-! ## The functions -/

/-- A table in order, in the world as it was or as a save of this table leaves it. -/
structure Changed (w : UdsParamStore ω × ω) (out : UdsDtcAppStorage × UdsParamStore ω × ω) :
    Prop where
  valid : DtcValid out.1
  world : out.2 = w ∨ out.2 = (udsDtcAppSaveToNvm out.1 w).2

section Functions

variable {app : UdsDtcAppStorage}

theorem DtcValid.unchanged (h : DtcValid app) (w : UdsParamStore ω × ω) : Changed w (app, w) :=
  ⟨h, .inl rfl⟩

/-- A save changes the flash only. -/
theorem DtcValid.savedWith (h : DtcValid app) (w : UdsParamStore ω × ω) :
    Changed w (savedWith app w) :=
  ⟨h, .inr rfl⟩

/-- A record may be updated by whatever keeps its status fitting. -/
theorem updateRecord_changed (h : DtcValid app) (w : UdsParamStore ω × ω) (dtc : UInt32)
    {f : UdsDtcRamStatus → UdsDtcRamStatus} (hf : ∀ ram, StatusFits ram → StatusFits (f ram)) :
    Changed w (updateRecord app w dtc f).2 := by
  unfold updateRecord
  split
  next idx _ => exact (h.setRamStatus idx hf).savedWith w
  next => exact h.unchanged w

/-- The operations of the table, one after the other. -/
theorem udsDtcAppSetFault_changed (h : DtcValid app) (w : UdsParamStore ω × ω) (dtc : UInt32)
    (status severity : UInt8) (counter : Int8) :
    Changed w (udsDtcAppSetFault app w dtc status severity counter).2 := by
  unfold udsDtcAppSetFault
  split
  · exact h.unchanged w
  · split
    next idx _ =>
      exact (h.setRamStatus idx fun _ => faultStatus_fits status counter).savedWith w
    next hnew =>
      split
      next hroom =>
        exact (h.append hnew hroom (faultRecord_fits dtc status severity counter)).savedWith w
      next => exact h.unchanged w

theorem udsDtcAppReportEvent_changed (h : DtcValid app) (w : UdsParamStore ω × ω)
    (dtc : UInt32) (failed : Bool) : Changed w (udsDtcAppReportEvent app w dtc failed).2 := by
  unfold udsDtcAppReportEvent
  split
  · exact h.unchanged w
  · refine updateRecord_changed h w dtc fun ram hram => ?_
    cases failed with
    | true => exact debounceFaultFailed_fits hram
    | false => exact debounceFaultPassed_fits hram

/-- Clearing records keeps the table valid. -/
theorem clearWhere_valid (h : DtcValid app) (selected : UInt32 → Bool) :
    DtcValid (clearWhere app selected) := by
  unfold clearWhere
  refine List.foldlRecOn (motive := DtcValid) _ _ h fun app h i _ => ?_
  split
  · split
    · exact h.setRamStatus i fun ram _ => clearSingleRamRecord_fits ram
    · exact h
  · exact h

theorem udsDtcAppClear_changed (h : DtcValid app) (w : UdsParamStore ω × ω)
    (groupOfDtc : UInt32) : Changed w (udsDtcAppClear app w groupOfDtc).2 := by
  unfold udsDtcAppClear
  dsimp only
  split
  · exact (clearWhere_valid h fun _ => true).savedWith w
  · split
    · exact (clearWhere_valid h _).savedWith w
    · split
      next idx _ =>
        exact (h.setRamStatus idx fun ram _ => clearSingleRamRecord_fits ram).savedWith w
      next => exact h.unchanged w

theorem udsDtcAppSetSnapshot_changed (h : DtcValid app) (w : UdsParamStore ω × ω)
    (dtc : UInt32) (recordNum : UInt8) (data : List UInt8) :
    Changed w (udsDtcAppSetSnapshot app w dtc recordNum data).2 := by
  unfold udsDtcAppSetSnapshot
  split
  · exact h.unchanged w
  next hdata =>
    rw [not_or] at hdata
    exact updateRecord_changed h w dtc fun ram _ =>
      setSnapshot_fits recordNum hdata.1 (Nat.le_of_not_lt hdata.2) ram

theorem udsDtcAppSetGlobalSnapshot_changed (h : DtcValid app) (w : UdsParamStore ω × ω)
    (dtc : UInt32) (snapshot : ObdGlobalSnapshotFormat) :
    Changed w (udsDtcAppSetGlobalSnapshot app w dtc snapshot).2 :=
  updateRecord_changed h w dtc fun ram _ => globalSnapshot_fits snapshot ram

theorem udsDtcAppSetExtendedData_changed (h : DtcValid app) (w : UdsParamStore ω × ω)
    (dtc : UInt32) (extData : ObdExtendedDataFormat) :
    Changed w (udsDtcAppSetExtendedData app w dtc extData).2 :=
  updateRecord_changed h w dtc fun _ hram => hram.congr rfl rfl

theorem udsDtcAppClearFault_changed (h : DtcValid app) (w : UdsParamStore ω × ω)
    (dtc : UInt32) : Changed w (udsDtcAppClearFault app w dtc).2 :=
  updateRecord_changed h w dtc fun ram _ => clearSingleRamRecord_fits ram

theorem udsDtcAppControlSetting_valid (h : DtcValid app) (subfunction : UInt8) :
    DtcValid (udsDtcAppControlSetting app subfunction).2 := by
  unfold udsDtcAppControlSetting
  split
  · exact h.congr rfl rfl
  · split
    · exact h.congr rfl rfl
    · exact h

end Functions

end UdsIsoTp.App
