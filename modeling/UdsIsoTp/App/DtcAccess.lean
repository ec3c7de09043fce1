import UdsIsoTp.App.DtcBounds
import UdsIsoTp.Lib.Checked

/-!
# Arrays of the table

The functions of `uds_dtc_app.c` that look at the table, save it and load it, access by
access: `none` is an access outside an array, or a use of a record that `get_dtc_record` has
not filled in. The index and the number of records are bytes here, as they are in the source.

For a table within its arrays each of these functions is the plain one. A load depends on the
block as well: `restoreBlockWithin_eq` says what becomes of a block whose counts are in order.
-/

namespace UdsIsoTp.App

open UdsIsoTp.Flash UdsIsoTp.Uds Keyed

variable {ω : Type}

/-! ## Looking at the table -/

section Look

variable (app : UdsDtcAppStorage)

/-- What `get_total_record_count` returns. -/
def recordCountByte : UInt8 := UInt8.ofNat (getTotalRecordCount app)

/-- An element of `dynamic_records`. -/
def dynamicRead (d : Nat) : Option UdsDtcDynamicRecord :=
  if d < dtcDynamicMax then app.dynamicRecords[d]? else none

/-- `get_dtc_record` with its reads checked. -/
def getDtcRecordWithin (index : UInt8) : Option (Option UdsDtcAppRecord) :=
  if index.toNat < dtcStaticCount then do
    let rom ← romDtcDefs[index.toNat]?
    let ram ← app.staticStatus[index.toNat]?
    some (some (staticRecord rom ram))
  else if index.toNat - dtcStaticCount < app.dynamicRecords.length then do
    let dyn ← dynamicRead app (index.toNat - dtcStaticCount)
    some (some (dynamicRecord dyn))
  else some none

/-- `(void)get_dtc_record(i, &rec)`, for what is done with the record then. -/
def recordAt (i : Nat) : Option UdsDtcAppRecord := (getDtcRecordWithin app (UInt8.ofNat i)).join

/-- The second loop of `find_dtc_index`. -/
def findDynamicWithin (dtc : UInt32) : List Nat → Option (Option Nat)
  | [] => some none
  | d :: rest => do
    let dyn ← dynamicRead app d
    if dyn.dtcNumber = dtc then some (some (dtcStaticCount + d)) else findDynamicWithin dtc rest

/-- `find_dtc_index` with its reads checked. -/
def findDtcIndexWithin (dtc : UInt32) : Option (Option Nat) :=
  match romDtcDefs.findIdx? fun rom => rom.dtcNumber = dtc with
  | some i => some (some i)
  | none => findDynamicWithin app dtc (List.range app.dynamicRecords.length)

/-- What is written through the pointer of `get_dtc_ram_status`, if that is not `NULL`. -/
def setRamStatusWithin (index : UInt8) (f : UdsDtcRamStatus → UdsDtcRamStatus) :
    Option UdsDtcAppStorage :=
  if index.toNat < dtcStaticCount then do
    let _ ← app.staticStatus[index.toNat]?
    some (setRamStatus app index.toNat f)
  else if index.toNat - dtcStaticCount < app.dynamicRecords.length then do
    let _ ← dynamicRead app (index.toNat - dtcStaticCount)
    some (setRamStatus app index.toNat f)
  else some app

/-- `uds_dtc_app_get_global_snapshot`: the bytes of the structure, or `none` for `false`. -/
def udsDtcAppGetGlobalSnapshot (dtc : UInt32) : Option (List UInt8) := do
  let rec ← recordOf app dtc
  if rec.hasSnapshot ∧ rec.snapshotData.length = 8 then some rec.snapshotData else none

/-- A snapshot of the record is in an array of 16 bytes, or in one in ROM of its own size. -/
def snapshotRead (rec : UdsDtcAppRecord) : Option (List UInt8) :=
  if rec.snapshotData.length ≤ dtcAppSnapshotSize then some rec.snapshotData else none

/-- The global snapshot of a DTC, read under a check. -/
def udsDtcAppGetGlobalSnapshotWithin (dtc : UInt32) : Option (Option (List UInt8)) := do
  match ← findDtcIndexWithin app dtc with
  | none => some none
  | some idx =>
    match ← getDtcRecordWithin app (UInt8.ofNat idx) with
    | none => some none
    | some rec =>
      if rec.hasSnapshot ∧ rec.snapshotData.length = 8 then (snapshotRead rec).map some
      else some none

/-- `uds_dtc_app_get_extended_data` -/
def udsDtcAppGetExtendedData (dtc : UInt32) : Option ObdExtendedDataFormat := do
  let rec ← recordOf app dtc
  some ⟨rec.occurrenceCounter, rec.pendingCounter, rec.agedCounter, rec.agingCounter⟩

/-- The extended data of a DTC, read under a check. -/
def udsDtcAppGetExtendedDataWithin (dtc : UInt32) : Option (Option ObdExtendedDataFormat) := do
  match ← findDtcIndexWithin app dtc with
  | none => some none
  | some idx =>
    match ← getDtcRecordWithin app (UInt8.ofNat idx) with
    | none => some none
    | some rec =>
      some (some ⟨rec.occurrenceCounter, rec.pendingCounter, rec.agedCounter, rec.agingCounter⟩)

end Look

section LookAgrees

variable {app : UdsDtcAppStorage}

theorem TableSized.total_lt (h : TableSized app) : getTotalRecordCount app < 256 := by
  have hdynamic := h.dynamic
  unfold dtcDynamicMax dtcAppMaxRecords dtcStaticCount at hdynamic
  unfold getTotalRecordCount dtcStaticCount
  omega

/-- The number of records is a byte. -/
theorem recordCountByte_toNat (h : TableSized app) :
    (recordCountByte app).toNat = getTotalRecordCount app :=
  UInt8.toNat_ofNat_of_lt h.total_lt

theorem dynamicRead_eq (h : TableSized app) {d : Nat} (hd : d < app.dynamicRecords.length) :
    dynamicRead app d = app.dynamicRecords[d]? :=
  if_pos (Nat.lt_of_lt_of_le hd h.dynamic)

theorem getDtcRecordWithin_eq (h : TableSized app) (index : UInt8) :
    getDtcRecordWithin app index = some (getDtcRecord app index.toNat) := by
  unfold getDtcRecordWithin getDtcRecord
  by_cases hstatic : index.toNat < dtcStaticCount
  · rw [if_pos hstatic, if_pos hstatic, List.getElem?_eq_getElem (romDtcDefs_length ▸ hstatic),
      List.getElem?_eq_getElem (h.static ▸ hstatic)]
    rfl
  · rw [if_neg hstatic, if_neg hstatic]
    by_cases hdynamic : index.toNat - dtcStaticCount < app.dynamicRecords.length
    · rw [if_pos hdynamic, dynamicRead_eq h hdynamic, List.getElem?_eq_getElem hdynamic]
      rfl
    · rw [if_neg hdynamic, List.getElem?_eq_none (Nat.le_of_not_lt hdynamic)]
      rfl

theorem recordAt_eq (h : TableSized app) {i : Nat} (hi : i < getTotalRecordCount app) :
    recordAt app i = (allRecords app)[i]? := by
  have hbyte : (UInt8.ofNat i).toNat = i := UInt8.toNat_ofNat_of_lt (hi.trans h.total_lt)
  unfold recordAt
  rw [getDtcRecordWithin_eq h, hbyte, Option.join_some, getDtcRecord_eq h.static,
    allRecords_eq h.static, List.getElem?_map]

theorem length_allRecords_eq (h : TableSized app) :
    (allRecords app).length = getTotalRecordCount app := by
  rw [allRecords_eq h.static, List.length_map, length_entries h.static]

/-- The loop goes through the records from one index on. -/
theorem findDynamicWithin_eq (dtc : UInt32) (l : List UdsDtcDynamicRecord) (k : Nat)
    (hread : ∀ i < l.length, dynamicRead app (k + i) = l[i]?) :
    findDynamicWithin app dtc (List.range' k l.length)
      = some ((l.findIdx? fun dyn => dyn.dtcNumber = dtc).map (dtcStaticCount + k + ·)) := by
  induction l generalizing k with
  | nil => rfl
  | cons dyn l ih =>
    have hfirst : dynamicRead app k = some dyn := hread 0 (Nat.succ_pos _)
    rw [List.length_cons, List.range'_succ, findDynamicWithin, hfirst, List.findIdx?_cons]
    show (if dyn.dtcNumber = dtc then some (some (dtcStaticCount + k))
      else findDynamicWithin app dtc (List.range' (k + 1) l.length)) = _
    by_cases hfound : dyn.dtcNumber = dtc
    · rw [if_pos hfound, if_pos (decide_eq_true hfound)]
      rfl
    · rw [if_neg hfound, if_neg (by simpa using hfound), ih (k + 1) fun i hi => ?_]
      · rw [Option.map_map]
        refine congrArg (fun f => some (Option.map f _)) (funext fun i => ?_)
        show dtcStaticCount + (k + 1) + i = dtcStaticCount + k + (i + 1)
        omega
      · rw [Nat.add_assoc, Nat.add_comm 1 i]
        exact hread (i + 1) (Nat.succ_lt_succ hi)

theorem findDtcIndexWithin_eq (h : TableSized app) (dtc : UInt32) :
    findDtcIndexWithin app dtc = some (findDtcIndex app dtc) := by
  unfold findDtcIndexWithin findDtcIndex
  cases romDtcDefs.findIdx? fun rom => rom.dtcNumber = dtc with
  | some i => rfl
  | none =>
    show findDynamicWithin app dtc (List.range app.dynamicRecords.length) = _
    rw [List.range_eq_range', findDynamicWithin_eq dtc app.dynamicRecords 0 fun i hi => by
      rw [Nat.zero_add, dynamicRead_eq h hi]]
    rfl

/-- An index that was found fits a byte. -/
theorem findDtcIndex_lt (h : TableSized app) {dtc : UInt32} {idx : Nat}
    (hfound : findDtcIndex app dtc = some idx) : idx < getTotalRecordCount app := by
  rw [findDtcIndex_eq h.static] at hfound
  unfold index at hfound
  obtain ⟨hlt, -⟩ := List.findIdx?_eq_some_iff_getElem.mp hfound
  rwa [length_entries h.static] at hlt

theorem foundIndex_toNat (h : TableSized app) {dtc : UInt32} {idx : Nat}
    (hfound : findDtcIndex app dtc = some idx) : (UInt8.ofNat idx).toNat = idx :=
  UInt8.toNat_ofNat_of_lt ((findDtcIndex_lt h hfound).trans h.total_lt)

/-- The record of an index that was found. -/
theorem foundRecord_eq (h : TableSized app) {dtc : UInt32} {idx : Nat}
    (hfound : findDtcIndex app dtc = some idx) :
    getDtcRecordWithin app (UInt8.ofNat idx) = some (recordOf app dtc) := by
  unfold recordOf
  rw [getDtcRecordWithin_eq h, foundIndex_toNat h hfound, hfound]
  rfl

/-- A code that is found has its record in the table. -/
theorem found_record (h : TableSized app) {dtc : UInt32} {idx : Nat}
    (hfound : findDtcIndex app dtc = some idx) :
    ∃ rec, recordOf app dtc = some rec ∧ rec ∈ allRecords app := by
  have hlt := findDtcIndex_lt h hfound
  rw [← length_allRecords_eq h] at hlt
  have hrecord : recordOf app dtc = (allRecords app)[idx]? := by
    unfold recordOf
    rw [hfound, Option.bind_some, getDtcRecord_eq h.static, allRecords_eq h.static,
      List.getElem?_map]
  exact ⟨_, hrecord.trans (List.getElem?_eq_getElem hlt), List.getElem_mem hlt⟩

theorem setRamStatusWithin_eq (h : TableSized app) {dtc : UInt32} {idx : Nat}
    (hfound : findDtcIndex app dtc = some idx) (f : UdsDtcRamStatus → UdsDtcRamStatus) :
    setRamStatusWithin app (UInt8.ofNat idx) f = some (setRamStatus app idx f) := by
  have hlt := findDtcIndex_lt h hfound
  unfold getTotalRecordCount at hlt
  unfold setRamStatusWithin
  rw [foundIndex_toNat h hfound]
  by_cases hstatic : idx < dtcStaticCount
  · rw [if_pos hstatic, List.getElem?_eq_getElem (h.static ▸ hstatic)]
    rfl
  · have hdynamic : idx - dtcStaticCount < app.dynamicRecords.length := by omega
    rw [if_neg hstatic, if_pos hdynamic, dynamicRead_eq h hdynamic,
      List.getElem?_eq_getElem hdynamic]
    rfl

theorem udsDtcAppGetGlobalSnapshotWithin_eq (h : DtcValid app) (dtc : UInt32) :
    udsDtcAppGetGlobalSnapshotWithin app dtc = some (udsDtcAppGetGlobalSnapshot app dtc) := by
  have hsized := h.table.sized
  unfold udsDtcAppGetGlobalSnapshotWithin udsDtcAppGetGlobalSnapshot
  rw [findDtcIndexWithin_eq hsized]
  cases hfound : findDtcIndex app dtc with
  | none =>
    unfold recordOf
    rw [hfound]
    rfl
  | some idx =>
    show (getDtcRecordWithin app (UInt8.ofNat idx)).bind _ = _
    rw [foundRecord_eq hsized hfound, Option.bind_some]
    cases recordOf app dtc with
    | none => rfl
    | some rec =>
      show (if rec.hasSnapshot = true ∧ rec.snapshotData.length = 8 then
        (snapshotRead rec).map some else some none) = some (if _ then _ else _)
      by_cases hshown : rec.hasSnapshot = true ∧ rec.snapshotData.length = 8
      · have hread : snapshotRead rec = some rec.snapshotData :=
          if_pos (hshown.2 ▸ show 8 ≤ dtcAppSnapshotSize by decide)
        rw [if_pos hshown, if_pos hshown, hread]
        rfl
      · rw [if_neg hshown, if_neg hshown]

theorem udsDtcAppGetExtendedDataWithin_eq (h : TableSized app) (dtc : UInt32) :
    udsDtcAppGetExtendedDataWithin app dtc = some (udsDtcAppGetExtendedData app dtc) := by
  unfold udsDtcAppGetExtendedDataWithin udsDtcAppGetExtendedData
  rw [findDtcIndexWithin_eq h]
  cases hfound : findDtcIndex app dtc with
  | none =>
    unfold recordOf
    rw [hfound]
    rfl
  | some idx =>
    show (getDtcRecordWithin app (UInt8.ofNat idx)).bind _ = _
    rw [foundRecord_eq h hfound, Option.bind_some]
    cases recordOf app dtc with
    | none => rfl
    | some rec => rfl

end LookAgrees

/-! ## Saving -/

/-- The record goes to the index of as many as there are, and a snapshot with it. -/
def saveRecordWithin (contents : NvContents) (rec : UdsDtcAppRecord) : Option NvContents :=
  if dtcAppMaxRecords ≤ contents.records.length then none
  else if ShowsSnapshot rec ∧ contents.snapshots.length < dtcNvMaxSnapshots then do
    let _ ← snapshotRead rec
    some (saveRecord contents rec)
  else some (saveRecord contents rec)

/-- The block of `uds_dtc_app_save_to_nvm`. -/
def nvBlockWithin (app : UdsDtcAppStorage) : Option UdsDtcNvBlock := do
  let contents ← foldRead (recordAt app) (recordCountByte app).toNat saveRecordWithin ⟨[], []⟩
  some
    { magic := dtcNvMagic
      version := dtcNvVersion
      recordCount := recordCountByte app
      snapshotCount := UInt8.ofNat contents.snapshots.length
      records := arrayOf contents.records ⟨0, 0, 0, 0, 0, 0, 0, 0, 0, false⟩
      snapshots := arrayOf contents.snapshots ⟨0, 0, 0, arrayOf [] 0⟩ }

/-- `uds_dtc_app_save_to_nvm` with its copies checked. -/
def udsDtcAppSaveToNvmWithin (app : UdsDtcAppStorage) (w : UdsParamStore ω × ω) :
    Option (Bool × UdsParamStore ω × ω) :=
  if ¬app.nvmAttached then some (false, w)
  else do
    let block ← nvBlockWithin app
    let (status, w) := udsParamSave w.1 (Buf.ofList (nvBlockCodec.encode block)) w.2
    some (status = .ok, w)

section SaveAgrees

variable {app : UdsDtcAppStorage}

theorem saveRecords_within {recs : List UdsDtcAppRecord} {contents : NvContents}
    (hroom : contents.records.length + recs.length ≤ dtcAppMaxRecords)
    (hfits : ∀ rec ∈ recs, rec.snapshotData.length ≤ dtcAppSnapshotSize) :
    recs.foldlM saveRecordWithin contents = some (recs.foldl saveRecord contents) := by
  induction recs generalizing contents with
  | nil => rfl
  | cons rec recs ih =>
    rw [List.length_cons] at hroom
    have hread : snapshotRead rec = some rec.snapshotData :=
      if_pos (hfits rec List.mem_cons_self)
    have hstep : saveRecordWithin contents rec = some (saveRecord contents rec) := by
      unfold saveRecordWithin
      rw [if_neg (by omega), hread]
      exact ite_self _
    have hlength : (saveRecord contents rec).records.length = contents.records.length + 1 := by
      show (contents.records ++ [nvRecordOf rec]).length = _
      rw [List.length_append, List.length_singleton]
    rw [List.foldlM_cons, hstep]
    exact ih (by omega) fun r hr => hfits r (List.mem_cons_of_mem rec hr)

/-- Every record of a table in order has its snapshot in an array of 16 bytes. -/
theorem record_snapshot_le (h : DtcValid app) {rec : UdsDtcAppRecord}
    (hrec : rec ∈ allRecords app) : rec.snapshotData.length ≤ dtcAppSnapshotSize := by
  obtain ⟨e, he, rfl⟩ := mem_allRecords h hrec
  exact view_snapshot_length h he

theorem nvBlockWithin_eq (h : DtcValid app) : nvBlockWithin app = some (nvBlockOf app) := by
  have hsized := h.table.sized
  have hlength := length_allRecords_eq hsized
  have hcontents : foldRead (recordAt app) (recordCountByte app).toNat saveRecordWithin ⟨[], []⟩
      = some ((allRecords app).foldl saveRecord ⟨[], []⟩) := by
    rw [recordCountByte_toNat hsized, foldRead_eq (Nat.le_of_eq hlength.symm)
      fun i hi => recordAt_eq hsized hi, ← hlength, List.take_length]
    refine saveRecords_within ?_ fun rec hrec => record_snapshot_le h hrec
    show 0 + _ ≤ _
    rw [Nat.zero_add]
    exact hsized.count
  unfold nvBlockWithin
  rw [hcontents]
  rfl

theorem udsDtcAppSaveToNvmWithin_eq (h : DtcValid app) (w : UdsParamStore ω × ω) :
    udsDtcAppSaveToNvmWithin app w = some (udsDtcAppSaveToNvm app w) := by
  unfold udsDtcAppSaveToNvmWithin udsDtcAppSaveToNvm
  rw [nvBlockWithin_eq h]
  split
  next => rfl
  next => rfl

end SaveAgrees

/-! ## Loading -/

/-- `dynamic_count` is below the size of the array where a record is added. -/
def restoreRecordWithin (app : UdsDtcAppStorage) (r : UdsDtcNvRecord) :
    Option UdsDtcAppStorage := do
  match ← findDtcIndexWithin app r.dtcNumber with
  | some idx => setRamStatusWithin app (UInt8.ofNat idx) (restoreStatus r)
  | none =>
    if app.dynamicRecords.length < dtcDynamicMax then
      some { app with
        dynamicRecords := app.dynamicRecords
          ++ [⟨r.dtcNumber, r.severity, r.functionalUnit, restoreStatus r zeroStatus⟩] }
    else some app

/-- Both arrays of the copy have 16 bytes. -/
def restoreSnapshotWithin (app : UdsDtcAppStorage) (s : UdsDtcNvSnapshot) :
    Option UdsDtcAppStorage := do
  match ← findDtcIndexWithin app s.dtcNumber with
  | some idx =>
    if s.length.toNat ≤ dtcAppSnapshotSize then
      setRamStatusWithin app (UInt8.ofNat idx)
        (setSnapshot s.recordNum (s.data.toList.take s.length.toNat))
    else none
  | none => some app

/-- The records and the snapshots of a block, each read under a check. -/
def restoreBlockWithin (app : UdsDtcAppStorage) (block : UdsDtcNvBlock) :
    Option UdsDtcAppStorage := do
  let app ← foldRead (fun j => block.records[j]?) block.recordCount.toNat restoreRecordWithin app
  foldRead (fun s => block.snapshots[s]?) block.snapshotCount.toNat restoreSnapshotWithin app

/-- `uds_dtc_app_load_from_nvm` with its copies checked. -/
def udsDtcAppLoadFromNvmWithin (app : UdsDtcAppStorage) (w : UdsParamStore ω × ω) :
    Option (Bool × UdsDtcAppStorage × UdsParamStore ω × ω) :=
  if ¬app.nvmAttached then some (false, app, w)
  else
    match udsParamLoad w.1 [] w.2 with
    | (.ok, data, flash) => do
      let block := nvBlockCodec.decode data
      if block.magic ≠ dtcNvMagic ∨ block.version ≠ dtcNvVersion then
        some (false, app, w.1, flash)
      else
        let app ← restoreBlockWithin app block
        some (true, app, w.1, flash)
    | (_, _, flash) => some (false, app, w.1, flash)

section LoadAgrees

variable {app : UdsDtcAppStorage}

theorem restoreRecordWithin_eq (h : TableSized app) (r : UdsDtcNvRecord) :
    restoreRecordWithin app r = some (restoreRecord app r) := by
  unfold restoreRecordWithin restoreRecord
  rw [findDtcIndexWithin_eq h]
  cases hfound : findDtcIndex app r.dtcNumber with
  | some idx => exact setRamStatusWithin_eq h hfound (restoreStatus r)
  | none =>
    show (if _ then some _ else some _) = some (if _ then _ else _)
    split
    next => rfl
    next => rfl

/-- The snapshot is of no code in the table, or not too long. -/
def SnapshotFits (app : UdsDtcAppStorage) (s : UdsDtcNvSnapshot) : Prop :=
  findDtcIndex app s.dtcNumber = none ∨ s.length.toNat ≤ dtcAppSnapshotSize

theorem restoreSnapshotWithin_fits (h : TableSized app) {s : UdsDtcNvSnapshot}
    (hfits : SnapshotFits app s) :
    restoreSnapshotWithin app s = some (restoreSnapshot app s) := by
  unfold restoreSnapshotWithin restoreSnapshot
  rw [findDtcIndexWithin_eq h]
  cases hfound : findDtcIndex app s.dtcNumber with
  | some idx =>
    rcases hfits with hnone | hlength
    · exact absurd (hfound.symm.trans hnone) (Option.some_ne_none idx)
    · show (if _ then _ else none) = _
      rw [if_pos hlength]
      exact setRamStatusWithin_eq h hfound _
  | none => rfl

theorem restoreSnapshotWithin_none (h : TableSized app) {s : UdsDtcNvSnapshot}
    (hfits : ¬SnapshotFits app s) : restoreSnapshotWithin app s = none := by
  obtain ⟨hfound, hlength⟩ := not_or.mp hfits
  unfold restoreSnapshotWithin
  rw [findDtcIndexWithin_eq h]
  cases hindex : findDtcIndex app s.dtcNumber with
  | some idx => exact if_neg hlength
  | none => exact absurd hindex hfound

/-- The records of a block whose count is in order are read, and the snapshots are next. -/
theorem restoreBlockWithin_records (h : TableSound app) {block : UdsDtcNvBlock}
    (hcount : block.recordCount.toNat ≤ dtcAppMaxRecords) :
    restoreBlockWithin app block
      = foldRead (fun s => block.snapshots[s]?) block.snapshotCount.toNat restoreSnapshotWithin
        ((block.records.toList.take block.recordCount.toNat).foldl restoreRecord app) := by
  have hlength : block.recordCount.toNat ≤ block.records.toList.length := by
    rwa [Vector.length_toList]
  have hrecords := (foldlM_eq_some TableSound
    (fun app happ r (_ : r ∈ block.records.toList.take block.recordCount.toNat) =>
      ⟨restoreRecordWithin_eq happ.sized r,
        (restoreRecord_edits app r).sound happ⟩) h).1
  unfold restoreBlockWithin
  rw [foldRead_eq hlength fun j _ => Vector.getElem?_toList.symm, hrecords]
  rfl

/-- A snapshot changes no number. -/
theorem findDtcIndex_restoreSnapshot (h : TableSound app) (s : UdsDtcNvSnapshot) (dtc : UInt32) :
    findDtcIndex (restoreSnapshot app s) dtc = findDtcIndex app dtc := by
  unfold restoreSnapshot
  split
  next idx _ =>
    rw [findDtcIndex_eq (h.setRamStatus idx _).static, findDtcIndex_eq h.static, index_keys,
      index_keys, entries_setRamStatus h.static, map_key_modify (DtcEntry.number_mapStatus _)]
  next => rfl

theorem SnapshotFits.restored (h : TableSound app) {s : UdsDtcNvSnapshot}
    (hs : SnapshotFits app s) (t : UdsDtcNvSnapshot) :
    SnapshotFits (restoreSnapshot app t) s := by
  unfold SnapshotFits at hs ⊢
  rwa [findDtcIndex_restoreSnapshot h]

theorem restoreSnapshots_within {l : List UdsDtcNvSnapshot} (h : TableSound app)
    (hfits : ∀ s ∈ l, SnapshotFits app s) :
    l.foldlM restoreSnapshotWithin app = some (l.foldl restoreSnapshot app) :=
  (foldlM_eq_some (fun loaded => TableSound loaded ∧ ∀ s ∈ l, SnapshotFits loaded s)
    (fun loaded hloaded s hs =>
      ⟨restoreSnapshotWithin_fits hloaded.1.sized (hloaded.2 s hs),
        (restoreSnapshot_edits loaded s).sound hloaded.1,
        fun t ht => (hloaded.2 t ht).restored hloaded.1 s⟩) ⟨h, hfits⟩).1

theorem records_sound (h : TableSound app) (rs : List UdsDtcNvRecord) :
    TableSound (rs.foldl restoreRecord app) :=
  (foldl_edits app restoreRecord_edits rs).sound h

/-- A block with both counts and all lengths in order. -/
theorem restoreBlockWithin_eq (h : TableSound app) {block : UdsDtcNvBlock}
    (hrecords : block.recordCount.toNat ≤ dtcAppMaxRecords)
    (hsnapshots : block.snapshotCount.toNat ≤ dtcNvMaxSnapshots)
    (hfits : ∀ s ∈ block.snapshots.toList.take block.snapshotCount.toNat, SnapshotFits
      ((block.records.toList.take block.recordCount.toNat).foldl restoreRecord app) s) :
    restoreBlockWithin app block = some (restoreBlock app block) := by
  have hlength : block.snapshotCount.toNat ≤ block.snapshots.toList.length := by
    rwa [Vector.length_toList]
  rw [restoreBlockWithin_records h hrecords,
    foldRead_eq hlength fun s _ => Vector.getElem?_toList.symm]
  exact restoreSnapshots_within (records_sound h _) hfits

/-- A block that a table in order has saved. -/
theorem restoreBlockWithin_saved (h : TableSound app) {saved : UdsDtcAppStorage}
    (hsaved : DtcValid saved) :
    restoreBlockWithin app (nvBlockOf saved) = some (restoreBlock app (nvBlockOf saved)) := by
  have hrecords : (nvBlockOf saved).recordCount.toNat = getTotalRecordCount saved :=
    recordCountByte_toNat hsaved.table.sized
  have hsnapshots : (nvBlockOf saved).snapshotCount.toNat ≤ dtcNvMaxSnapshots := by
    have hkept : (keptSnapshots saved).length ≤ dtcNvMaxSnapshots := List.length_take_le ..
    have hbyte : (UInt8.ofNat (keptSnapshots saved).length).toNat = (keptSnapshots saved).length :=
      UInt8.toNat_ofNat_of_lt (Nat.lt_of_le_of_lt hkept (by decide))
    show (UInt8.ofNat ((allRecords saved).foldl saveRecord ⟨[], []⟩).snapshots.length).toNat ≤ _
    rw [contents_eq]
    show (UInt8.ofNat ((keptSnapshots saved).map nvSnapshotOf).length).toNat ≤ _
    rw [List.length_map, hbyte]
    exact hkept
  refine restoreBlockWithin_eq h (hrecords ▸ hsaved.total_le) hsnapshots fun s hs => .inr ?_
  rw [nvBlockOf_snapshots] at hs
  obtain ⟨rec, hrec, rfl⟩ := List.mem_map.mp hs
  have hle := record_snapshot_le hsaved ((kept_sublist saved).subset hrec)
  have hbyte : (UInt8.ofNat rec.snapshotData.length).toNat = rec.snapshotData.length :=
    UInt8.toNat_ofNat_of_lt (Nat.lt_of_le_of_lt hle (by decide))
  show (UInt8.ofNat rec.snapshotData.length).toNat ≤ dtcAppSnapshotSize
  rwa [hbyte]

theorem udsDtcAppLoadFromNvmWithin_saved (h : TableSound app) {saved : UdsDtcAppStorage}
    (hsaved : DtcValid saved) (w : UdsParamStore ω × ω)
    (hblock : (udsParamLoad w.1 [] w.2).2.1 = nvBlockCodec.encode (nvBlockOf saved)) :
    udsDtcAppLoadFromNvmWithin app w = some (udsDtcAppLoadFromNvm app w) := by
  unfold udsDtcAppLoadFromNvmWithin udsDtcAppLoadFromNvm
  split
  next => rfl
  next =>
    generalize udsParamLoad w.1 [] w.2 = loaded at hblock ⊢
    obtain ⟨status, data, flash⟩ := loaded
    dsimp only at hblock
    cases status with
    | ok =>
      dsimp only
      rw [hblock, nvBlockCodec.decode_encode_self, if_neg (nvBlockOf_accepted saved),
        if_neg (nvBlockOf_accepted saved), restoreBlockWithin_saved h hsaved]
      rfl
    | err => rfl
    | invalidParam => rfl

end LoadAgrees

end UdsIsoTp.App
