import UdsIsoTp.App.DtcValid
import UdsIsoTp.Flash.Newest

/-!
# What a saved table gives back

A block holds the records of the table with distinct numbers, so loading it into a fresh
table makes each entry from the one record of its number, and then from its snapshot if the
block has that (`restored_entry`). `Restored` says which part of a record comes back: all of
it except the extended data, which the block has no field for, and the snapshots after the
first eight.
-/

namespace UdsIsoTp.App

open UdsIsoTp.Flash UdsIsoTp.Uds Keyed

variable {ω : Type}

/-! ## The entry that one element makes -/

section Entry

variable {app : UdsDtcAppStorage}

theorem dtcEntryOf_setRamStatus (hstatic : app.staticStatus.length = dtcStaticCount)
    {dtc : UInt32} {i : Nat} (hindex : findDtcIndex app dtc = some i)
    (f : UdsDtcRamStatus → UdsDtcRamStatus) (k : UInt32) :
    dtcEntryOf (setRamStatus app i f) k
      = if k = dtc then (dtcEntryOf app dtc).map (DtcEntry.mapStatus f) else dtcEntryOf app k := by
  rw [findDtcIndex_eq hstatic] at hindex
  unfold dtcEntryOf
  rw [entries_setRamStatus hstatic]
  exact lookup_modify hindex (DtcEntry.number_mapStatus f) k

theorem dtcEntryOf_append (app : UdsDtcAppStorage) (dyn : UdsDtcDynamicRecord)
    (hnew : dtcEntryOf app dyn.dtcNumber = none) (k : UInt32) :
    dtcEntryOf { app with dynamicRecords := app.dynamicRecords ++ [dyn] } k
      = if k = dyn.dtcNumber then some (.dynamic dyn) else dtcEntryOf app k := by
  unfold dtcEntryOf at hnew ⊢
  rw [entries_append, lookup_append, lookup_cons, lookup_nil]
  by_cases hk : k = dyn.dtcNumber
  · rw [if_pos hk, hk, hnew, if_pos (show (DtcEntry.dynamic dyn).number = dyn.dtcNumber from rfl)]
    rfl
  · rw [if_neg hk, if_neg fun h => hk h.symm, Option.or_none]

/-- The entry that a record of the block makes: the status of an entry that is there, or a
new record. -/
def restoreEntry (r : UdsDtcNvRecord) : Option DtcEntry → Option DtcEntry
  | some e => some (e.mapStatus (restoreStatus r))
  | none => some (.dynamic
      ⟨r.dtcNumber, r.severity, r.functionalUnit, restoreStatus r zeroStatus⟩)

/-- The entry with its snapshot brought back. -/
def restoreEntrySnapshot (s : UdsDtcNvSnapshot) (e : Option DtcEntry) : Option DtcEntry :=
  e.map (DtcEntry.mapStatus (setSnapshot s.recordNum (s.data.toList.take s.length.toNat)))

/-- The records that a load of `rest` will add. -/
def newRecords (app : UdsDtcAppStorage) (rest : List UdsDtcNvRecord) : List UdsDtcNvRecord :=
  rest.filter fun r => (dtcEntryOf app r.dtcNumber).isNone

/-- The table has room for what `rest` will add. -/
structure RoomFor (app : UdsDtcAppStorage) (rest : List UdsDtcNvRecord) : Prop where
  static : app.staticStatus.length = dtcStaticCount
  distinct : (rest.map UdsDtcNvRecord.dtcNumber).Nodup
  room : app.dynamicRecords.length + (newRecords app rest).length ≤ dtcDynamicMax

theorem newRecords_congr (app : UdsDtcAppStorage) {app' : UdsDtcAppStorage}
    {rest : List UdsDtcNvRecord}
    (h : ∀ r ∈ rest, (dtcEntryOf app' r.dtcNumber).isNone = (dtcEntryOf app r.dtcNumber).isNone) :
    newRecords app' rest = newRecords app rest :=
  List.filter_congr h

theorem restoreRecord_entry {r : UdsDtcNvRecord} {rest : List UdsDtcNvRecord}
    (h : RoomFor app (r :: rest)) :
    RoomFor (restoreRecord app r) rest ∧ ∀ k, dtcEntryOf (restoreRecord app r) k
      = if k = r.dtcNumber then restoreEntry r (dtcEntryOf app k) else dtcEntryOf app k := by
  obtain ⟨hnotin, hrest⟩ := List.nodup_cons.mp h.distinct
  have hother : ∀ r' ∈ rest, r'.dtcNumber ≠ r.dtcNumber := fun r' hr' heq =>
    hnotin (heq ▸ List.mem_map_of_mem hr')
  have hroom := h.room
  unfold restoreRecord
  cases hindex : findDtcIndex app r.dtcNumber with
  | some i =>
    obtain ⟨e, he⟩ : ∃ e, dtcEntryOf app r.dtcNumber = some e :=
      index_lookup ((findDtcIndex_eq h.static r.dtcNumber).symm.trans hindex)
    have hentry := dtcEntryOf_setRamStatus h.static hindex (restoreStatus r)
    refine ⟨⟨(setRamStatus_static ..).trans h.static, hrest, ?_⟩, fun k => ?_⟩
    · dsimp only
      rw [setRamStatus_dynamic, newRecords_congr app fun r' hr' => by
        rw [hentry, if_neg (hother r' hr')]]
      unfold newRecords at hroom ⊢
      rwa [List.filter_cons_of_neg (by simp [he])] at hroom
    · dsimp only
      rw [hentry]
      by_cases hk : k = r.dtcNumber
      · rw [if_pos hk, if_pos hk, hk, he]
        rfl
      · rw [if_neg hk, if_neg hk]
  | none =>
    -- An unknown number takes a new record, for which `RoomFor` keeps a place.
    have hnone : dtcEntryOf app r.dtcNumber = none := (findDtcIndex_none h.static).mp hindex
    unfold newRecords at hroom
    rw [List.filter_cons_of_pos (by simp [hnone]), List.length_cons] at hroom
    dsimp only
    rw [if_pos (by omega)]
    have hentry := dtcEntryOf_append app
      ⟨r.dtcNumber, r.severity, r.functionalUnit, restoreStatus r zeroStatus⟩ hnone
    refine ⟨⟨h.static, hrest, ?_⟩, fun k => ?_⟩
    · rw [newRecords_congr app fun r' hr' => by rw [hentry, if_neg (hother r' hr')]]
      show (app.dynamicRecords ++ [_]).length + _ ≤ _
      rw [List.length_append, List.length_singleton]
      unfold newRecords
      omega
    · rw [hentry]
      by_cases hk : k = r.dtcNumber
      · rw [if_pos hk, if_pos hk, hk, hnone]
        rfl
      · rw [if_neg hk, if_neg hk]

theorem restoreSnapshot_entry (hstatic : app.staticStatus.length = dtcStaticCount)
    (s : UdsDtcNvSnapshot) :
    (restoreSnapshot app s).staticStatus.length = dtcStaticCount ∧
      ∀ k, dtcEntryOf (restoreSnapshot app s) k
        = if k = s.dtcNumber then restoreEntrySnapshot s (dtcEntryOf app k)
          else dtcEntryOf app k := by
  unfold restoreSnapshot
  cases hindex : findDtcIndex app s.dtcNumber with
  | some i =>
    refine ⟨(setRamStatus_static ..).trans hstatic, fun k => ?_⟩
    dsimp only
    rw [dtcEntryOf_setRamStatus hstatic hindex]
    by_cases hk : k = s.dtcNumber
    · rw [if_pos hk, if_pos hk, hk]
      rfl
    · rw [if_neg hk, if_neg hk]
  | none =>
    refine ⟨hstatic, fun k => ?_⟩
    by_cases hk : k = s.dtcNumber
    · rw [if_pos hk, hk, (findDtcIndex_none hstatic).mp hindex]
      rfl
    · rw [if_neg hk]

end Entry

/-! ## The elements of the block -/

/-- What was put into the array is found at its front. -/
theorem take_arrayOf {α : Type} {n : Nat} {l : List α} (zero : α) (h : l.length ≤ n) :
    (arrayOf l zero : Vector α n).toList.take l.length = l := by
  refine List.ext_getElem (by simpa using h) fun i hi hl => ?_
  rw [List.getElem_take, Vector.getElem_toList]
  show (Vector.ofFn fun i : Fin n => l.getD i zero)[i] = l[i]
  rw [Vector.getElem_ofFn, List.getD_eq_getElem _ _ hl]

/-- The records of which the block has the snapshot. -/
def keptSnapshots (app : UdsDtcAppStorage) : List UdsDtcAppRecord :=
  ((allRecords app).filter fun rec => ShowsSnapshot rec).take dtcNvMaxSnapshots

/-- The loop of a save: every record, and the snapshots as long as there is room. -/
theorem foldl_saveRecord (recs : List UdsDtcAppRecord) (contents : NvContents) :
    recs.foldl saveRecord contents
      = ⟨contents.records ++ recs.map nvRecordOf,
        contents.snapshots ++ ((recs.filter fun rec => ShowsSnapshot rec).take
          (dtcNvMaxSnapshots - contents.snapshots.length)).map nvSnapshotOf⟩ := by
  induction recs generalizing contents with
  | nil => simp
  | cons rec recs ih =>
    rw [List.foldl_cons, ih]
    unfold saveRecord
    by_cases hshows : ShowsSnapshot rec
    · rw [List.filter_cons_of_pos (by simpa using hshows)]
      by_cases hroom : contents.snapshots.length < dtcNvMaxSnapshots
      · have hleft : dtcNvMaxSnapshots - contents.snapshots.length
            = dtcNvMaxSnapshots - (contents.snapshots.length + 1) + 1 := by omega
        simp [if_pos (And.intro hshows hroom), hleft]
      · have hfull : dtcNvMaxSnapshots - contents.snapshots.length = 0 := by omega
        simp [if_neg fun h : _ ∧ _ => hroom h.2, hfull]
    · rw [List.filter_cons_of_neg (by simpa using hshows)]
      simp [if_neg fun h : _ ∧ _ => hshows h.1]

/-- What a save writes. -/
theorem contents_eq (app : UdsDtcAppStorage) :
    (allRecords app).foldl saveRecord ⟨[], []⟩
      = ⟨(allRecords app).map nvRecordOf, (keptSnapshots app).map nvSnapshotOf⟩ :=
  foldl_saveRecord (allRecords app) ⟨[], []⟩

section Block

variable {app : UdsDtcAppStorage}

/-- A valid table fits the block. -/
theorem DtcValid.total_le (h : DtcValid app) : getTotalRecordCount app ≤ dtcAppMaxRecords := by
  have hdynamic : app.dynamicRecords.length ≤ dtcAppMaxRecords - dtcStaticCount := h.dynamic
  have hmax : dtcStaticCount ≤ dtcAppMaxRecords := by decide
  unfold getTotalRecordCount
  omega

/-- Every index of a valid table has a record. -/
theorem DtcValid.length_allRecords (h : DtcValid app) :
    (allRecords app).length = getTotalRecordCount app := by
  rw [allRecords_eq h.static, List.length_map, length_entries h.static]

/-- The records that a load goes through. -/
theorem nvBlockOf_records (h : DtcValid app) :
    (nvBlockOf app).records.toList.take (nvBlockOf app).recordCount.toNat
      = (allRecords app).map nvRecordOf := by
  have hle := h.total_le
  have hcount : (nvBlockOf app).recordCount.toNat = ((allRecords app).map nvRecordOf).length := by
    rw [List.length_map, h.length_allRecords]
    exact UInt8.toNat_ofNat_of_lt (Nat.lt_of_le_of_lt hle (by decide))
  rw [hcount]
  unfold nvBlockOf
  rw [contents_eq]
  refine take_arrayOf _ ?_
  rw [List.length_map, h.length_allRecords]
  exact hle

/-- The snapshots that a load goes through. -/
theorem nvBlockOf_snapshots (app : UdsDtcAppStorage) :
    (nvBlockOf app).snapshots.toList.take (nvBlockOf app).snapshotCount.toNat
      = (keptSnapshots app).map nvSnapshotOf := by
  have hle : ((keptSnapshots app).map nvSnapshotOf).length ≤ dtcNvMaxSnapshots := by
    rw [List.length_map]
    exact List.length_take_le ..
  have hcount : (nvBlockOf app).snapshotCount.toNat
      = ((keptSnapshots app).map nvSnapshotOf).length := by
    unfold nvBlockOf
    rw [contents_eq]
    exact UInt8.toNat_ofNat_of_lt (Nat.lt_of_le_of_lt hle (by decide))
  rw [hcount]
  unfold nvBlockOf
  rw [contents_eq]
  exact take_arrayOf _ hle

/-- A load of what a save wrote. -/
theorem restoreBlock_nvBlockOf (h : DtcValid app) (fresh : UdsDtcAppStorage) :
    restoreBlock fresh (nvBlockOf app)
      = ((keptSnapshots app).map nvSnapshotOf).foldl restoreSnapshot
        (((allRecords app).map nvRecordOf).foldl restoreRecord fresh) := by
  unfold restoreBlock
  rw [nvBlockOf_records h, nvBlockOf_snapshots]

/-! ## Loading a fresh table -/

/-- A table as `uds_dtc_app_init` leaves it, but for the pointer to the store. -/
def freshTable : UdsDtcAppStorage := { udsDtcAppInit with nvmAttached := true }

/-- The table that a load starts from is valid. -/
theorem freshTable_valid : DtcValid freshTable := udsDtcAppInit_valid.congr rfl rfl

/-- It has the fixed entries only. -/
theorem dtcEntryOf_fresh (k : UInt32) :
    dtcEntryOf freshTable k = (lookup UdsDtcRomDef.dtcNumber romDtcDefs k).map
      fun rom => .rom rom (initialStatus rom) := by
  show lookup DtcEntry.number (entries udsDtcAppInit) k = _
  rw [entries_init]
  exact lookup_map fun _ => rfl

/-- The entry of a number with its definition, as `uds_dtc_app_init` leaves it. -/
def freshEntry : DtcEntry → Option DtcEntry
  | .rom rom _ => some (.rom rom (initialStatus rom))
  | .dynamic _ => none

/-- A number is in ROM for the fresh table exactly when it is for this one. -/
theorem dtcEntryOf_fresh_mem (h : DtcValid app) {e : DtcEntry} (he : e ∈ entries app) :
    dtcEntryOf freshTable e.number = freshEntry e := by
  rw [dtcEntryOf_fresh]
  obtain ⟨rom, hrom, ram, rfl⟩ | ⟨dyn, hdyn, rfl⟩ := mem_entries he
  · have hfound : lookup UdsDtcRomDef.dtcNumber romDtcDefs rom.dtcNumber = some rom :=
      lookup_of_mem romDtcDefs_distinct hrom
    show (lookup UdsDtcRomDef.dtcNumber romDtcDefs rom.dtcNumber).map _ = _
    rw [hfound]
    rfl
  · have hdistinct := h.distinct
    rw [numbers_eq h.static, List.nodup_append] at hdistinct
    have hnotin : dyn.dtcNumber ∉ romDtcDefs.map UdsDtcRomDef.dtcNumber := fun hrom =>
      hdistinct.2.2 _ hrom _ (List.mem_map_of_mem hdyn) rfl
    show (lookup UdsDtcRomDef.dtcNumber romDtcDefs dyn.dtcNumber).map _ = _
    rw [lookup_none.mpr hnotin]
    rfl

theorem dtcEntryOf_fresh_none (h : DtcValid app) {k : UInt32} (hk : dtcEntryOf app k = none) :
    dtcEntryOf freshTable k = none := by
  have hnotin := lookup_none.mp hk
  rw [numbers_eq h.static, List.mem_append, not_or] at hnotin
  rw [dtcEntryOf_fresh, lookup_none.mpr hnotin.1]
  rfl

/-- Only the records that are not in ROM are new to a fresh table. -/
theorem roomFor_fresh (h : DtcValid app) :
    RoomFor freshTable ((allRecords app).map nvRecordOf) where
  static := freshTable_valid.static
  distinct := by
    rw [List.map_map]
    exact (allRecords_numbers h.static).symm ▸ h.distinct
  room := by
    have hold : (List.zipWith DtcEntry.rom romDtcDefs app.staticStatus).filter
        ((fun r => (dtcEntryOf freshTable r.dtcNumber).isNone) ∘ nvRecordOf ∘ DtcEntry.view)
        = [] := by
      refine List.filter_eq_nil_iff.mpr fun e he => ?_
      show ¬(dtcEntryOf freshTable e.view.dtcNumber).isNone = true
      rw [e.view_dtcNumber, dtcEntryOf_fresh_mem h (List.mem_append_left _ he)]
      obtain ⟨rom, -, ram, rfl⟩ := mem_static he
      exact Bool.false_ne_true
    have hnew : (newRecords freshTable ((allRecords app).map nvRecordOf)).length
        ≤ app.dynamicRecords.length := by
      unfold newRecords
      rw [allRecords_eq h.static, List.map_map, List.filter_map, List.length_map]
      unfold entries
      rw [List.filter_append, hold, List.nil_append]
      exact (List.length_filter_le ..).trans (Nat.le_of_eq (List.length_map ..))
    show 0 + _ ≤ dtcDynamicMax
    rw [Nat.zero_add]
    exact hnew.trans h.dynamic

/-! ## The restored entries -/

/-- An entry as the records of the block restore it. -/
def restoredEntry : DtcEntry → DtcEntry
  | .rom rom ram =>
    .rom rom (restoreStatus (nvRecordOf (staticRecord rom ram)) (initialStatus rom))
  | .dynamic dyn =>
    .dynamic { dyn with status := restoreStatus (nvRecordOf (dynamicRecord dyn)) zeroStatus }

/-- A record is brought back to the entry it was taken of. -/
theorem restoreEntry_fresh (e : DtcEntry) :
    restoreEntry (nvRecordOf e.view) (freshEntry e) = some (restoredEntry e) := by
  cases e <;> rfl

/-- After the records every entry is back, without its snapshot. -/
theorem records_restored (h : DtcValid app) (k : UInt32) :
    dtcEntryOf (((allRecords app).map nvRecordOf).foldl restoreRecord freshTable) k
      = (dtcEntryOf app k).map restoredEntry := by
  have hroom := roomFor_fresh h
  rw [look_foldl dtcEntryOf UdsDtcNvRecord.dtcNumber restoreEntry RoomFor
    (fun _ _ _ => restoreRecord_entry) hroom.distinct hroom k, allRecords_eq h.static,
    List.map_map, lookup_map fun e => e.view_dtcNumber]
  show ((dtcEntryOf app k).map _).elim _ _ = _
  cases hk : dtcEntryOf app k with
  | none => exact dtcEntryOf_fresh_none h hk
  | some e =>
    obtain ⟨he, rfl⟩ := lookup_some hk
    show restoreEntry (nvRecordOf e.view) (dtcEntryOf freshTable e.number) = _
    rw [dtcEntryOf_fresh_mem h he]
    exact restoreEntry_fresh e

/-! ## The restored snapshots -/

/-- No snapshot of a valid table is too long for the block. -/
theorem view_snapshot_length (h : DtcValid app) {e : DtcEntry} (he : e ∈ entries app) :
    e.view.snapshotData.length ≤ dtcAppSnapshotSize := by
  have hfits := (h.fits e he).length
  obtain ⟨rom, hrom, ram, rfl⟩ | ⟨dyn, -, rfl⟩ := mem_entries he
  · show (if ram.hasSnapshot then ram.snapshotData else rom.snapshotData).length ≤ _
    split
    · exact hfits
    · exact romDtcDefs_fit rom hrom
  · exact hfits

/-- Every record is the view of an entry. -/
theorem mem_allRecords (h : DtcValid app) {rec : UdsDtcAppRecord} (hrec : rec ∈ allRecords app) :
    ∃ e ∈ entries app, e.view = rec := by
  rw [allRecords_eq h.static] at hrec
  exact List.mem_map.mp hrec

/-- The snapshots kept are those of records in the order of the table. -/
theorem kept_sublist (app : UdsDtcAppStorage) : (keptSnapshots app).Sublist (allRecords app) :=
  (List.take_sublist ..).trans List.filter_sublist

/-- No two of them are of one DTC. -/
theorem kept_distinct (h : DtcValid app) :
    ((keptSnapshots app).map UdsDtcAppRecord.dtcNumber).Nodup :=
  ((kept_sublist app).map _).nodup ((allRecords_numbers h.static).symm ▸ h.distinct)

theorem kept_shows {rec : UdsDtcAppRecord} (h : rec ∈ keptSnapshots app) : ShowsSnapshot rec := by
  simpa using List.of_mem_filter (List.mem_of_mem_take h)

/-- A snapshot of the block has the bytes of the record. -/
theorem nvSnapshotOf_bytes (h : DtcValid app) {rec : UdsDtcAppRecord}
    (hrec : rec ∈ allRecords app) :
    (nvSnapshotOf rec).data.toList.take (nvSnapshotOf rec).length.toNat = rec.snapshotData := by
  obtain ⟨e, he, rfl⟩ := mem_allRecords h hrec
  have hle := view_snapshot_length h he
  have hlength : (nvSnapshotOf e.view).length.toNat = e.view.snapshotData.length :=
    UInt8.toNat_ofNat_of_lt (Nat.lt_of_le_of_lt hle (by decide))
  rw [hlength]
  exact take_arrayOf 0 hle

/-- A snapshot is found by the number of its DTC. -/
theorem kept_lookup (h : DtcValid app) {e : DtcEntry} (he : e ∈ entries app) :
    lookup UdsDtcAppRecord.dtcNumber (keptSnapshots app) e.number
      = if e.view ∈ keptSnapshots app then some e.view else none := by
  rw [← e.view_dtcNumber]
  split
  next hkept => exact lookup_of_mem (kept_distinct h) hkept
  next hlost =>
    refine lookup_none.mpr fun hmem => ?_
    obtain ⟨rec, hrec, hnumber⟩ := List.mem_map.mp hmem
    obtain ⟨e', he', rfl⟩ := mem_allRecords h ((kept_sublist app).subset hrec)
    rw [e'.view_dtcNumber, e.view_dtcNumber] at hnumber
    exact hlost (List.inj_on_of_nodup_map h.distinct he' he hnumber ▸ hrec)

/-- After the snapshots the entries that had one kept have it back. -/
theorem snapshots_restored (h : DtcValid app) {loaded : UdsDtcAppStorage}
    (hstatic : loaded.staticStatus.length = dtcStaticCount) (k : UInt32) :
    dtcEntryOf (((keptSnapshots app).map nvSnapshotOf).foldl restoreSnapshot loaded) k
      = (lookup UdsDtcAppRecord.dtcNumber (keptSnapshots app) k).elim (dtcEntryOf loaded k)
        fun rec => restoreEntrySnapshot (nvSnapshotOf rec) (dtcEntryOf loaded k) := by
  have hdistinct :
      (((keptSnapshots app).map nvSnapshotOf).map UdsDtcNvSnapshot.dtcNumber).Nodup := by
    rw [List.map_map]
    exact kept_distinct h
  have hfound : lookup UdsDtcNvSnapshot.dtcNumber ((keptSnapshots app).map nvSnapshotOf) k
      = (lookup UdsDtcAppRecord.dtcNumber (keptSnapshots app) k).map nvSnapshotOf :=
    lookup_map fun _ => rfl
  rw [look_foldl dtcEntryOf UdsDtcNvSnapshot.dtcNumber restoreEntrySnapshot
    (fun app _ => app.staticStatus.length = dtcStaticCount)
    (fun app s _ hstatic => restoreSnapshot_entry hstatic s) hdistinct hstatic k, hfound]
  cases lookup UdsDtcAppRecord.dtcNumber (keptSnapshots app) k <;> rfl

/-! ## A restored table is in order -/

/-- A record keeps the table valid. -/
theorem restoreRecord_valid (h : DtcValid app) (r : UdsDtcNvRecord) :
    DtcValid (restoreRecord app r) := by
  unfold restoreRecord
  split
  next i _ => exact h.setRamStatus i fun _ hram => hram.congr rfl rfl
  next hnew =>
    split
    next hroom =>
      exact h.append hnew hroom
        ⟨⟨fun h => Bool.noConfusion h, fun h => absurd rfl h⟩, Nat.zero_le _⟩
    next => exact h

/-- So does a snapshot that fits. -/
theorem restoreSnapshot_valid (h : DtcValid app) {s : UdsDtcNvSnapshot}
    (hdata : s.data.toList.take s.length.toNat ≠ [])
    (hlength : (s.data.toList.take s.length.toNat).length ≤ dtcAppSnapshotSize) :
    DtcValid (restoreSnapshot app s) := by
  unfold restoreSnapshot
  split
  next i _ => exact h.setRamStatus i fun ram _ => setSnapshot_fits s.recordNum hdata hlength ram
  next => exact h

theorem records_valid {table : UdsDtcAppStorage} (h : DtcValid table) (rs : List UdsDtcNvRecord) :
    DtcValid (rs.foldl restoreRecord table) :=
  List.foldlRecOn (motive := DtcValid) _ _ h fun _ h r _ => restoreRecord_valid h r

/-- A block of a table in order can be loaded into any table in order. -/
theorem restoreBlock_valid (h : DtcValid app) {table : UdsDtcAppStorage}
    (htable : DtcValid table) :
    DtcValid (restoreBlock table (nvBlockOf app)) := by
  rw [restoreBlock_nvBlockOf h]
  refine List.foldlRecOn (motive := DtcValid) _ _ (records_valid htable _)
    fun loaded hloaded s hs => ?_
  obtain ⟨rec, hrec, rfl⟩ := List.mem_map.mp hs
  have hall := (kept_sublist app).subset hrec
  have hbytes := nvSnapshotOf_bytes h hall
  obtain ⟨e, he, rfl⟩ := mem_allRecords h hall
  exact restoreSnapshot_valid hloaded (hbytes ▸ (kept_shows hrec).2)
    (hbytes ▸ view_snapshot_length h he)

/-! ## The record of a number -/

/-- An entry as the block restores it. -/
def reloadedEntry (app : UdsDtcAppStorage) (e : DtcEntry) : DtcEntry :=
  if e.view ∈ keptSnapshots app then
    (restoredEntry e).mapStatus (setSnapshot e.view.snapshotRecordNum e.view.snapshotData)
  else restoredEntry e

theorem reloaded_entry (h : DtcValid app) (k : UInt32) :
    dtcEntryOf (restoreBlock freshTable (nvBlockOf app)) k
      = (dtcEntryOf app k).map (reloadedEntry app) := by
  rw [restoreBlock_nvBlockOf h,
    snapshots_restored h (records_valid freshTable_valid _).static, records_restored h]
  cases hk : dtcEntryOf app k with
  | none => cases lookup UdsDtcAppRecord.dtcNumber (keptSnapshots app) k <;> rfl
  | some e =>
    obtain ⟨he, rfl⟩ := lookup_some hk
    rw [kept_lookup h he]
    show _ = some (reloadedEntry app e)
    unfold reloadedEntry
    by_cases hkept : e.view ∈ keptSnapshots app
    · rw [if_pos hkept, if_pos hkept]
      show restoreEntrySnapshot (nvSnapshotOf e.view) (some (restoredEntry e)) = _
      unfold restoreEntrySnapshot
      rw [nvSnapshotOf_bytes h ((kept_sublist app).subset hkept)]
      rfl
    · rw [if_neg hkept, if_neg hkept]
      rfl

end Block

/-! ## What comes back of a record -/

/-- The number of the snapshot and its bytes, if there is one. -/
def UdsDtcAppRecord.snapshot (rec : UdsDtcAppRecord) : Option (UInt8 × List UInt8) :=
  if rec.hasSnapshot then some (rec.snapshotRecordNum, rec.snapshotData) else none

/-- The snapshot that a number has after `uds_dtc_app_init`. -/
def initialSnapshot (dtc : UInt32) : Option (UInt8 × List UInt8) :=
  (recordOf udsDtcAppInit dtc).bind UdsDtcAppRecord.snapshot

/-- The extended data that a number has after `uds_dtc_app_init`. -/
def initialExtendedData (dtc : UInt32) : List UInt8 :=
  (recordOf udsDtcAppInit dtc).elim [] UdsDtcAppRecord.extendedData

/-- `after` is what comes back of the record `before` of the saved table. -/
structure Restored (app : UdsDtcAppStorage) (before after : UdsDtcAppRecord) : Prop where
  dtcNumber : after.dtcNumber = before.dtcNumber
  statusByte : after.statusByte = before.statusByte
  severity : after.severity = before.severity
  functionalUnit : after.functionalUnit = before.functionalUnit
  faultCounter : after.faultCounter = before.faultCounter
  occurrenceCounter : after.occurrenceCounter = before.occurrenceCounter
  pendingCounter : after.pendingCounter = before.pendingCounter
  agingCounter : after.agingCounter = before.agingCounter
  agedCounter : after.agedCounter = before.agedCounter
  active : after.active = before.active
  snapshot : after.snapshot
    = if before ∈ keptSnapshots app then before.snapshot else initialSnapshot before.dtcNumber
  noSnapshot : before.snapshot = none → after.snapshot = none
  extendedData : after.extendedData = initialExtendedData before.dtcNumber

section Reload

variable {app : UdsDtcAppStorage}

theorem recordOf_init (h : DtcValid app) {e : DtcEntry} (he : e ∈ entries app) :
    recordOf udsDtcAppInit e.view.dtcNumber = (freshEntry e).map DtcEntry.view := by
  rw [recordOf_eq udsDtcAppInit_valid.static, e.view_dtcNumber, ← dtcEntryOf_fresh_mem h he]
  rfl

theorem restoredEntry_snapshot (h : DtcValid app) {e : DtcEntry} (he : e ∈ entries app) :
    (restoredEntry e).view.snapshot = initialSnapshot e.view.dtcNumber := by
  unfold initialSnapshot
  rw [recordOf_init h he]
  cases e <;> rfl

theorem restoredEntry_extendedData (h : DtcValid app) {e : DtcEntry} (he : e ∈ entries app) :
    (restoredEntry e).view.extendedData = initialExtendedData e.view.dtcNumber := by
  unfold initialExtendedData
  rw [recordOf_init h he]
  cases e <;> rfl

/-- A record without a snapshot has none in ROM either. -/
theorem restoredEntry_noSnapshot {e : DtcEntry} (hnone : e.view.snapshot = none) :
    (restoredEntry e).view.snapshot = none := by
  cases e with
  | rom rom ram =>
    have hdata : rom.snapshotData = [] := by
      by_contra hdata
      simp [UdsDtcAppRecord.snapshot, DtcEntry.view, staticRecord, hdata] at hnone
    simp [UdsDtcAppRecord.snapshot, DtcEntry.view, staticRecord, restoredEntry, restoreStatus,
      initialStatus, hdata]
  | dynamic dyn => rfl

theorem kept_snapshot {rec : UdsDtcAppRecord} (h : rec ∈ keptSnapshots app) :
    rec.snapshot = some (rec.snapshotRecordNum, rec.snapshotData) :=
  if_pos (kept_shows h).1

/-- What has come back is what was saved. -/
theorem reloadedEntry_restored (h : DtcValid app) {e : DtcEntry} (he : e ∈ entries app) :
    Restored app e.view (reloadedEntry app e).view := by
  have hsnapshot := restoredEntry_snapshot h he
  have hextended := restoredEntry_extendedData h he
  unfold reloadedEntry
  by_cases hkept : e.view ∈ keptSnapshots app
  · have hshown := kept_snapshot hkept
    rw [if_pos hkept]
    cases e with
    | rom rom ram =>
      exact ⟨rfl, rfl, rfl, rfl, rfl, rfl, rfl, rfl, rfl, rfl, by rw [if_pos hkept, hshown]; rfl,
        fun hnone => absurd (hshown.symm.trans hnone) (by simp), hextended⟩
    | dynamic dyn =>
      exact ⟨rfl, rfl, rfl, rfl, rfl, rfl, rfl, rfl, rfl, rfl, by rw [if_pos hkept, hshown]; rfl,
        fun hnone => absurd (hshown.symm.trans hnone) (by simp), hextended⟩
  · rw [if_neg hkept]
    have hgone : (restoredEntry e).view.snapshot = if e.view ∈ keptSnapshots app then
        e.view.snapshot else initialSnapshot e.view.dtcNumber := by
      rw [if_neg hkept, hsnapshot]
    cases e with
    | rom rom ram =>
      exact ⟨rfl, rfl, rfl, rfl, rfl, rfl, rfl, rfl, rfl, rfl, hgone, restoredEntry_noSnapshot,
        hextended⟩
    | dynamic dyn =>
      exact ⟨rfl, rfl, rfl, rfl, rfl, rfl, rfl, rfl, rfl, rfl, hgone, restoredEntry_noSnapshot,
        hextended⟩

/-- Every record of the table comes back, and no other. -/
theorem reloaded_record (h : DtcValid app) (dtc : UInt32) :
    Option.Rel (Restored app) (recordOf app dtc)
      (recordOf (restoreBlock freshTable (nvBlockOf app)) dtc) := by
  rw [recordOf_eq h.static, recordOf_eq (restoreBlock_valid h freshTable_valid).static,
    reloaded_entry h]
  cases hfound : dtcEntryOf app dtc with
  | none => exact .none
  | some e => exact .some (reloadedEntry_restored h (lookup_some hfound).1)

end Reload

end UdsIsoTp.App
