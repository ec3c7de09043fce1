import UdsIsoTp.App.DtcReportAccess

/-!
# Foreign blocks

`uds_dtc_app_load_from_nvm` takes a block with the right magic and version for what it is: the
two counts drive its loops, and the length of a snapshot its copy, and none of them is checked
as `uds_dtc_app_set_snapshot` checks its length. So a load stays within its arrays exactly for
the blocks that `BlockFits` describes. A snapshot is copied only for a number that the table
knows by then, which is one that it knew before or one of the new numbers of the records, as
many as there is room for (`loadedNumbers`).
-/

namespace UdsIsoTp.App

open UdsIsoTp.Flash UdsIsoTp.Uds Keyed

variable {ω : Type}

/-! ## The numbers that a load makes known -/

/-- The numbers of the table. -/
def tableNumbers (app : UdsDtcAppStorage) : List UInt32 :=
  romDtcDefs.map UdsDtcRomDef.dtcNumber ++ app.dynamicRecords.map UdsDtcDynamicRecord.dtcNumber

/-- Those of the numbers that are not known, each of them once. -/
def newNumbers (known : List UInt32) : List UInt32 → List UInt32
  | [] => []
  | number :: rest =>
    if number ∈ known then newNumbers known rest else number :: newNumbers (number :: known) rest

/-- The records of the block that its count announces. -/
def blockRecords (block : UdsDtcNvBlock) : List UdsDtcNvRecord :=
  block.records.toList.take block.recordCount.toNat

/-- The snapshots that the block says it has. -/
def blockSnapshots (block : UdsDtcNvBlock) : List UdsDtcNvSnapshot :=
  block.snapshots.toList.take block.snapshotCount.toNat

/-- The numbers of the table, and of the records for which it has room. -/
def loadedNumbers (app : UdsDtcAppStorage) (block : UdsDtcNvBlock) : List UInt32 :=
  tableNumbers app ++ (newNumbers (tableNumbers app)
    ((blockRecords block).map UdsDtcNvRecord.dtcNumber)).take
      (dtcDynamicMax - app.dynamicRecords.length)

/-- Both counts are within their arrays, and so is every snapshot of a code that is known. -/
structure BlockFits (app : UdsDtcAppStorage) (block : UdsDtcNvBlock) : Prop where
  records : block.recordCount.toNat ≤ dtcAppMaxRecords
  snapshots : block.snapshotCount.toNat ≤ dtcNvMaxSnapshots
  lengths : ∀ s ∈ blockSnapshots block, s.dtcNumber ∈ loadedNumbers app block →
    s.length.toNat ≤ dtcAppSnapshotSize

theorem newNumbers_congr {known known' : List UInt32} (h : ∀ n, n ∈ known ↔ n ∈ known')
    (numbers : List UInt32) : newNumbers known numbers = newNumbers known' numbers := by
  induction numbers generalizing known known' with
  | nil => rfl
  | cons number rest ih =>
    have hcons : ∀ n, n ∈ number :: known ↔ n ∈ number :: known' := fun n => by
      rw [List.mem_cons, List.mem_cons, h n]
    unfold newNumbers
    rw [ih h, ih hcons]
    exact if_congr (h number) rfl rfl

section Numbers

variable {app : UdsDtcAppStorage}

theorem findDtcIndex_none_iff (hstatic : app.staticStatus.length = dtcStaticCount)
    (dtc : UInt32) : findDtcIndex app dtc = none ↔ dtc ∉ tableNumbers app := by
  rw [findDtcIndex_none hstatic]
  unfold dtcEntryOf tableNumbers
  rw [lookup_none, numbers_eq hstatic]

theorem tableNumbers_setRamStatus (h : TableSound app) (i : Nat)
    (f : UdsDtcRamStatus → UdsDtcRamStatus) :
    tableNumbers (setRamStatus app i f) = tableNumbers app := by
  have hbefore := numbers_eq h.static
  have hafter := numbers_eq (h.setRamStatus i f).static
  rw [entries_setRamStatus h.static, map_key_modify (DtcEntry.number_mapStatus f), hbefore]
    at hafter
  exact hafter.symm

theorem tableNumbers_append (app : UdsDtcAppStorage) (dyn : UdsDtcDynamicRecord) :
    tableNumbers { app with dynamicRecords := app.dynamicRecords ++ [dyn] }
      = tableNumbers app ++ [dyn.dtcNumber] := by
  unfold tableNumbers
  rw [List.map_append, List.map_singleton, List.append_assoc]

/-- The numbers that are known after the records. -/
theorem mem_tableNumbers_records (h : TableSound app) (rs : List UdsDtcNvRecord) (n : UInt32) :
    n ∈ tableNumbers (rs.foldl restoreRecord app) ↔ n ∈ tableNumbers app ++
      (newNumbers (tableNumbers app) (rs.map UdsDtcNvRecord.dtcNumber)).take
        (dtcDynamicMax - app.dynamicRecords.length) := by
  induction rs generalizing app with
  | nil =>
    rw [List.map_nil, newNumbers, List.take_nil, List.append_nil]
    rfl
  | cons r rs ih =>
    have hnext : TableSound (restoreRecord app r) :=
      (restoreRecord_edits app r).sound h
    rw [List.foldl_cons, ih hnext, List.map_cons, newNumbers]
    cases hfound : findDtcIndex app r.dtcNumber with
    | some idx =>
      -- the number is known, and the record changes a status
      have hrecord : restoreRecord app r = setRamStatus app idx (restoreStatus r) := by
        unfold restoreRecord
        rw [hfound]
      have hknown : r.dtcNumber ∈ tableNumbers app := by
        by_contra hnew
        have hnone := (findDtcIndex_none_iff h.static _).mpr hnew
        exact Option.some_ne_none idx (hfound.symm.trans hnone)
      rw [if_pos hknown, hrecord, tableNumbers_setRamStatus h, setRamStatus_dynamic]
    | none =>
      have hnew : r.dtcNumber ∉ tableNumbers app := (findDtcIndex_none_iff h.static _).mp hfound
      rw [if_neg hnew]
      by_cases hroom : app.dynamicRecords.length < dtcDynamicMax
      · -- a new record takes the number, and there is room for one less
        have hrecord : restoreRecord app r = { app with
            dynamicRecords := app.dynamicRecords
              ++ [⟨r.dtcNumber, r.severity, r.functionalUnit, restoreStatus r zeroStatus⟩] } := by
          unfold restoreRecord
          rw [hfound]
          exact if_pos hroom
        have hlength : (restoreRecord app r).dynamicRecords.length
            = app.dynamicRecords.length + 1 := by
          rw [hrecord, List.length_append, List.length_singleton]
        have hnumbers : tableNumbers (restoreRecord app r) = tableNumbers app ++ [r.dtcNumber] := by
          rw [hrecord, tableNumbers_append]
        have hleft : dtcDynamicMax - app.dynamicRecords.length
            = dtcDynamicMax - (app.dynamicRecords.length + 1) + 1 := by omega
        have hknown : ∀ n, n ∈ tableNumbers app ++ [r.dtcNumber] ↔
            n ∈ r.dtcNumber :: tableNumbers app := fun n => by
          rw [List.mem_append, List.mem_singleton, List.mem_cons, or_comm]
        rw [hlength, hleft, List.take_succ_cons, hnumbers, newNumbers_congr hknown]
        simp only [List.mem_append, List.mem_cons, List.not_mem_nil, or_false, or_assoc]
      · have hrecord : restoreRecord app r = app := by
          unfold restoreRecord
          rw [hfound]
          exact if_neg hroom
        rw [hrecord, show dtcDynamicMax - app.dynamicRecords.length = 0 by omega, List.take_zero,
          List.take_zero]

/-- A snapshot of the block fits the table that the records have made, or it does not. -/
theorem snapshotFits_iff (h : TableSound app) (block : UdsDtcNvBlock) (s : UdsDtcNvSnapshot) :
    SnapshotFits ((blockRecords block).foldl restoreRecord app) s ↔
      (s.dtcNumber ∈ loadedNumbers app block → s.length.toNat ≤ dtcAppSnapshotSize) := by
  have hnumbers := mem_tableNumbers_records h (blockRecords block) s.dtcNumber
  unfold SnapshotFits loadedNumbers
  rw [findDtcIndex_none_iff (records_sound h (blockRecords block)).static, hnumbers,
    or_iff_not_imp_left, not_not]

end Numbers

/-! ## Blocks that do not fit -/

section Unfit

variable {app : UdsDtcAppStorage}

theorem restoreSnapshots_none {l : List UdsDtcNvSnapshot} (h : TableSound app)
    {s : UdsDtcNvSnapshot} (hs : s ∈ l) (hfits : ¬SnapshotFits app s) :
    l.foldlM restoreSnapshotWithin app = none := by
  induction l generalizing app with
  | nil => exact absurd hs List.not_mem_nil
  | cons t l ih =>
    rw [List.foldlM_cons]
    by_cases ht : SnapshotFits app t
    · -- `t` is copied, and it is one of those behind it that does not fit
      have hrest : s ∈ l := by
        rcases List.mem_cons.mp hs with rfl | hrest
        · exact absurd ht hfits
        · exact hrest
      have hstill : ¬SnapshotFits (restoreSnapshot app t) s := by
        unfold SnapshotFits at hfits ⊢
        rwa [findDtcIndex_restoreSnapshot h]
      rw [restoreSnapshotWithin_fits h.sized ht]
      exact ih ((restoreSnapshot_edits app t).sound h) hrest hstill
    · rw [restoreSnapshotWithin_none h.sized ht]
      rfl

theorem restoreBlockWithin_none (h : TableSound app) {block : UdsDtcNvBlock}
    (hfits : ¬BlockFits app block) : restoreBlockWithin app block = none := by
  by_cases hrecords : block.recordCount.toNat ≤ dtcAppMaxRecords
  · rw [restoreBlockWithin_records h hrecords]
    by_cases hsnapshots : block.snapshotCount.toNat ≤ dtcNvMaxSnapshots
    · have hlength : block.snapshotCount.toNat ≤ block.snapshots.toList.length := by
        rwa [Vector.length_toList]
      rw [foldRead_eq hlength fun s _ => Vector.getElem?_toList.symm]
      by_contra hvalue
      refine hfits ⟨hrecords, hsnapshots, fun s hs => (snapshotFits_iff h block s).mp ?_⟩
      by_contra hunfit
      exact hvalue (restoreSnapshots_none (records_sound h _) hs hunfit)
    · exact foldRead_none (Nat.lt_of_not_le hsnapshots) rfl _
  · have hread : foldRead (fun j => block.records[j]?) block.recordCount.toNat
        restoreRecordWithin app = none :=
      foldRead_none (Nat.lt_of_not_le hrecords) rfl app
    unfold restoreBlockWithin
    rw [hread]
    rfl

/-! ## What a block leaves that fits -/

/-- The snapshot of every status is within its array. -/
def SnapshotsShort (app : UdsDtcAppStorage) : Prop :=
  ∀ ram ∈ storedStatuses app, ram.snapshotData.length ≤ dtcAppSnapshotSize

theorem SnapshotsShort.setRamStatus (h : TableSound app) (hshort : SnapshotsShort app) (i : Nat)
    {f : UdsDtcRamStatus → UdsDtcRamStatus}
    (hf : ∀ ram, ram.snapshotData.length ≤ dtcAppSnapshotSize →
      (f ram).snapshotData.length ≤ dtcAppSnapshotSize) :
    SnapshotsShort (setRamStatus app i f) := by
  intro ram hram
  rw [storedStatuses_eq (h.setRamStatus i f).static, entries_setRamStatus h.static] at hram
  obtain ⟨e, he, rfl⟩ := List.mem_map.mp hram
  unfold SnapshotsShort at hshort
  rw [storedStatuses_eq h.static] at hshort
  rcases mem_modify he with he | ⟨before, hbefore, rfl⟩
  · exact hshort _ (List.mem_map_of_mem he)
  · rw [DtcEntry.status_mapStatus]
    exact hf _ (hshort _ (List.mem_map_of_mem hbefore))

theorem restoreRecord_short (h : TableSound app) (hshort : SnapshotsShort app)
    (r : UdsDtcNvRecord) : SnapshotsShort (restoreRecord app r) := by
  unfold restoreRecord
  split
  next idx _ => exact hshort.setRamStatus h idx fun ram hram => hram
  next =>
    split
    next =>
      intro ram hram
      unfold storedStatuses at hram
      rw [List.map_append, ← List.append_assoc, List.mem_append] at hram
      rcases hram with hold | hnew
      · exact hshort ram hold
      · rw [List.map_singleton, List.mem_singleton] at hnew
        rw [hnew]
        exact Nat.zero_le _
    next => exact hshort

theorem restoreSnapshot_short (h : TableSound app) (hshort : SnapshotsShort app)
    (s : UdsDtcNvSnapshot) : SnapshotsShort (restoreSnapshot app s) := by
  unfold restoreSnapshot
  split
  next idx _ =>
    refine hshort.setRamStatus h idx fun ram _ => ?_
    show (s.data.toList.take s.length.toNat).length ≤ dtcAppSnapshotSize
    refine (List.length_take_le' ..).trans ?_
    rw [Vector.length_toList]
  next => exact hshort

theorem restoreBlock_short (h : TableSound app) (hshort : SnapshotsShort app)
    (block : UdsDtcNvBlock) : SnapshotsShort (restoreBlock app block) := by
  have hrecords := List.foldlRecOn
    (motive := fun loaded => TableSound loaded ∧ SnapshotsShort loaded)
    (blockRecords block) restoreRecord ⟨h, hshort⟩ fun loaded hloaded r _ =>
      ⟨(restoreRecord_edits loaded r).sound hloaded.1,
        restoreRecord_short hloaded.1 hloaded.2 r⟩
  exact (List.foldlRecOn (motive := fun loaded => TableSound loaded ∧ SnapshotsShort loaded)
    (blockSnapshots block) restoreSnapshot hrecords fun loaded hloaded s _ =>
      ⟨(restoreSnapshot_edits loaded s).sound hloaded.1,
        restoreSnapshot_short hloaded.1 hloaded.2 s⟩).2

end Unfit

/-! ## Loading any block -/

/-- The load accesses nothing outside its arrays, and what it leaves is within them. -/
def LoadSafe (app : UdsDtcAppStorage) (w : UdsParamStore ω × ω) : Prop :=
  ∃ out, udsDtcAppLoadFromNvmWithin app w = some out ∧
    out.2.1.dynamicRecords.length ≤ dtcDynamicMax ∧ SnapshotsShort out.2.1

/-- The load of a block with the right magic and version. -/
theorem loadWithin_block {app : UdsDtcAppStorage} (hattached : app.nvmAttached = true)
    {w : UdsParamStore ω × ω} {data : List UInt8} {flash : ω}
    (hload : udsParamLoad w.1 [] w.2 = (.ok, data, flash))
    (hmagic : (nvBlockCodec.decode data).magic = dtcNvMagic)
    (hversion : (nvBlockCodec.decode data).version = dtcNvVersion) :
    udsDtcAppLoadFromNvmWithin app w
      = (restoreBlockWithin app (nvBlockCodec.decode data)).map
          fun app => (true, app, w.1, flash) := by
  have hright : ¬((nvBlockCodec.decode data).magic ≠ dtcNvMagic ∨
      (nvBlockCodec.decode data).version ≠ dtcNvVersion) :=
    not_or.mpr ⟨not_not.mpr hmagic, not_not.mpr hversion⟩
  unfold udsDtcAppLoadFromNvmWithin
  rw [if_neg (not_not.mpr hattached), hload]
  dsimp only
  rw [if_neg hright]
  cases restoreBlockWithin app (nvBlockCodec.decode data) <;> rfl

/-- For every table within its arrays and every block that the store has, with the right magic
and version: the load is safe exactly if the block fits. -/
theorem load_safe_iff (app : UdsDtcAppStorage) (hsound : TableSound app)
    (hshort : SnapshotsShort app) (hattached : app.nvmAttached = true)
    (w : UdsParamStore ω × ω) (data : List UInt8) (flash : ω)
    (hload : udsParamLoad w.1 [] w.2 = (.ok, data, flash))
    (hmagic : (nvBlockCodec.decode data).magic = dtcNvMagic)
    (hversion : (nvBlockCodec.decode data).version = dtcNvVersion) :
    LoadSafe app w ↔ BlockFits app (nvBlockCodec.decode data) := by
  have hresult := loadWithin_block hattached hload hmagic hversion
  unfold LoadSafe
  rw [hresult]
  constructor
  · rintro ⟨out, hout, -⟩
    by_contra hfits
    rw [restoreBlockWithin_none hsound hfits] at hout
    exact absurd hout.symm (Option.some_ne_none out)
  · intro hfits
    have hvalue : restoreBlockWithin app (nvBlockCodec.decode data)
        = some (restoreBlock app (nvBlockCodec.decode data)) :=
      restoreBlockWithin_eq hsound hfits.records hfits.snapshots fun s hs =>
        (snapshotFits_iff hsound _ s).mpr (hfits.lengths s hs)
    have hafter : TableSound (restoreBlock app (nvBlockCodec.decode data)) :=
      (restoreBlock_edits app _).sound hsound
    rw [hvalue]
    exact ⟨_, rfl, hafter.dynamic, restoreBlock_short hsound hshort _⟩

/-! ## A block in a flash -/

/-- The store and the flash after a save of any block. -/
def flashWith (block : UdsDtcNvBlock) : UdsParamStore NorFlash × NorFlash :=
  let w := (dtcStart dtcFlash dtcFlash_accepted).world
  (udsParamSave w.1 (Buf.ofList (nvBlockCodec.encode block)) w.2).2

theorem flashWith_loads (block : UdsDtcNvBlock) :
    udsParamLoad (flashWith block).1 [] (flashWith block).2
      = (.ok, nvBlockCodec.encode block, (flashWith block).2) := by
  obtain ⟨hsound, n, hkept⟩ := run_kept (g := dtcFlash) (by decide) (by decide)
    dtcFlash_accepted []
  have hworld : StoreKept hsound n (dtcStart dtcFlash dtcFlash_accepted).world := hkept.world
  obtain ⟨-, hstore, hclean, -, hdata⟩ := save_clean (dtcStore dtcFlash).onNor hworld.clean
    hworld.powered (Buf.ofList (nvBlockCodec.encode block))
  rw [← hworld.store] at hstore hclean hdata
  have hslice : (Buf.ofList (nvBlockCodec.encode block)).slice 0 (dtcStore dtcFlash).layout.dataSize
      = nvBlockCodec.encode block := by
    show (Buf.ofList (nvBlockCodec.encode block)).slice 0 nvBlockSize.toNat = _
    rw [← nvBlockCodec_width, ← nvBlockCodec.length_encode block]
    exact Buf.slice_ofList _
  have hflash : (flashWith block).1 = resumedAt (dtcStore dtcFlash).layout hsound (n + 1) := hstore
  have hclean : Clean hsound (norErased dtcFlash.erased) (n + 1) (flashWith block).2.mem := hclean
  rw [hflash, load_resumedAt hsound (dtcStore dtcFlash).onNor.healthy hclean.logged []]
  exact congrArg (fun data => (UdsParamStatus.ok, data, (flashWith block).2))
    (hdata.trans hslice)

/-- A block with no record and one snapshot of P0100, which claims to have 200 bytes. -/
def longSnapshot : UdsDtcNvBlock where
  magic := dtcNvMagic
  version := dtcNvVersion
  recordCount := 0
  snapshotCount := 1
  records := arrayOf [] ⟨0, 0, 0, 0, 0, 0, 0, 0, 0, false⟩
  snapshots := arrayOf [⟨0x010000, 0x01, 200, arrayOf [] 0⟩] ⟨0, 0, 0, arrayOf [] 0⟩

theorem longSnapshot_unfit : ¬BlockFits freshTable longSnapshot := by
  intro hfits
  have hknown : (0x010000 : UInt32) ∈ loadedNumbers freshTable longSnapshot :=
    List.mem_append_left _ (by decide +kernel)
  have hlength := hfits.lengths ⟨0x010000, 0x01, 200, arrayOf [] 0⟩
    (List.mem_of_getElem? (i := 0) rfl) hknown
  exact absurd hlength (by decide)

/-- The same block with a length that the array has room for. -/
def shortSnapshot : UdsDtcNvBlock :=
  { longSnapshot with
    snapshots := arrayOf [⟨0x010000, 0x01, 16, arrayOf [] 0⟩] ⟨0, 0, 0, arrayOf [] 0⟩ }

/-- A block whose checksum, magic and version are right, and whose load copies 200 bytes. -/
theorem load_unsafe : ¬LoadSafe freshTable (flashWith longSnapshot) := by
  rintro ⟨out, hout, -⟩
  have hdecode : nvBlockCodec.decode (nvBlockCodec.encode longSnapshot) = longSnapshot :=
    nvBlockCodec.decode_encode_self longSnapshot
  have hresult : udsDtcAppLoadFromNvmWithin freshTable (flashWith longSnapshot) = _ :=
    loadWithin_block rfl (flashWith_loads longSnapshot) (hdecode ▸ rfl) (hdecode ▸ rfl)
  rw [hdecode, restoreBlockWithin_none freshTable_valid.table longSnapshot_unfit] at hresult
  exact absurd (hout.symm.trans hresult) (Option.some_ne_none out)

theorem load_safe_iff_short :
    LoadSafe freshTable (flashWith shortSnapshot) ↔
      BlockFits freshTable (nvBlockCodec.decode (nvBlockCodec.encode shortSnapshot)) := by
  have hdecode : nvBlockCodec.decode (nvBlockCodec.encode shortSnapshot) = shortSnapshot :=
    nvBlockCodec.decode_encode_self shortSnapshot
  have hshort : SnapshotsShort freshTable := fun ram hram => by
    rw [storedStatuses_eq freshTable_valid.static] at hram
    obtain ⟨e, he, rfl⟩ := List.mem_map.mp hram
    exact (freshTable_valid.fits e he).length
  exact load_safe_iff freshTable freshTable_valid.table hshort rfl (flashWith shortSnapshot)
    (nvBlockCodec.encode shortSnapshot) (flashWith shortSnapshot).2 (flashWith_loads shortSnapshot)
    (hdecode ▸ rfl) (hdecode ▸ rfl)

end UdsIsoTp.App
