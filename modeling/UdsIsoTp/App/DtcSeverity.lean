import UdsIsoTp.App.DtcCounts
import UdsIsoTp.Uds.Services

/-!
# Severity masks

Three sub-functions have a severity mask in their request. 0x42 has it behind the status mask
and reports the records that meet both (`severityMask_reports`). 0x07 and 0x08 have it in
front: their handlers, which 0x07 shares with sub-functions that have no such mask, take
`request[2]` for the status mask and look at no other byte. So they report by severity where
it makes no difference (`MasksAgree`).
-/

namespace UdsIsoTp.App

open UdsIsoTp.Uds Writer

/-! ## The records that are asked for -/

/-- The record is active, and severity and status each have a bit of their mask. -/
def SeveritySelected (severityMask statusMask : UInt8) (rec : UdsDtcAppRecord) : Bool :=
  rec.active && decide (rec.statusByte &&& statusMask ≠ 0) &&
    decide (rec.severity &&& severityMask ≠ 0)

/-- The records that both masks select. -/
def severityRecords (app : UdsDtcAppStorage) (severityMask statusMask : UInt8) :
    List UdsDtcAppRecord :=
  (allRecords app).filter (SeveritySelected severityMask statusMask)

theorem severitySelected_iff {severityMask statusMask : UInt8} {rec : UdsDtcAppRecord} :
    SeveritySelected severityMask statusMask rec = true ↔ rec.active = true ∧
      rec.statusByte &&& statusMask ≠ 0 ∧ rec.severity &&& severityMask ≠ 0 := by
  unfold SeveritySelected
  rw [Bool.and_eq_true, Bool.and_eq_true, decide_eq_true_iff, decide_eq_true_iff, and_assoc]

/-- What 0x42 answers: the records that meet both masks. -/
theorem severityMask_reports (app : UdsDtcAppStorage) (groupId statusMask severityMask : UInt8) :
    Reports app 0x42 [0x19, 0x42, groupId, statusMask, severityMask]
      (0x42 :: groupId :: statusAvailabilityMask ::
        (severityRecords app severityMask statusMask).flatMap severityDtcBytes) := by
  refine reports_of_writer ⟨0x42, 2, dtcReportSeverityMaskRecord⟩ rfl
    (show 2 ≤ 5 by decide) (Nat.succ_ne_zero _)
    (w := fun capacity => andAlso (appendByte capacity groupId) (andAlso
      (appendByte capacity statusAvailabilityMask)
      (appendEach (fun rec => onlyIf (SeveritySelected severityMask statusMask rec)
        (appendSeverityDtc capacity rec)) (allRecords app))))
    (fun capacity response => rfl) (fun capacity => ?_) (List.cons_ne_nil _ _)
  exact (append_appends ..).andAlso <| (append_appends ..).andAlso <|
    records_append (appendSeverityDtc_appends capacity) _ (allRecords app)

/-- The number of 0x07 and the list of 0x08 are of the records that meet both masks. -/
structure SeverityReports (app : UdsDtcAppStorage) (severityMask statusMask : UInt8) : Prop where
  number : Reports app 0x07 [0x19, 0x07, severityMask, statusMask]
    (0x07 :: statusAvailabilityMask :: 0x01 ::
      toBytesBe 2 (severityRecords app severityMask statusMask).length)
  list : Reports app 0x08 [0x19, 0x08, severityMask, statusMask]
    (0x08 :: statusAvailabilityMask ::
      (severityRecords app severityMask statusMask).flatMap severityDtcBytes)

/-- No active record tells the two masks from the first one taken for the status. -/
def MasksAgree (app : UdsDtcAppStorage) (severityMask statusMask : UInt8) : Prop :=
  ∀ rec ∈ allRecords app, rec.active = true →
    (rec.statusByte &&& severityMask ≠ 0 ↔
      rec.statusByte &&& statusMask ≠ 0 ∧ rec.severity &&& severityMask ≠ 0)

/-! ## What a list shows of its records -/

theorem length_severityDtcBytes (rec : UdsDtcAppRecord) : (severityDtcBytes rec).length = 6 :=
  length_listEntry 0x08 rec

/-- Entries of one size are told apart in what they are written one after the other. -/
theorem map_of_flatMap {α β : Type} {entry : α → List β} {size : Nat} (hsize : 0 < size)
    (hlength : ∀ a, (entry a).length = size) {l l' : List α}
    (h : l.flatMap entry = l'.flatMap entry) : l.map entry = l'.map entry := by
  have hempty : ∀ (a : α) (rest : List α), (a :: rest).flatMap entry ≠ [] := by
    intro a rest hnil
    rw [List.flatMap_cons] at hnil
    have hentry := hlength a
    rw [(List.append_eq_nil_iff.mp hnil).1, List.length_nil] at hentry
    omega
  induction l generalizing l' with
  | nil =>
    cases l' with
    | nil => rfl
    | cons a rest => exact absurd h.symm (hempty a rest)
  | cons a l ih =>
    cases l' with
    | nil => exact absurd h (hempty a l)
    | cons a' l' =>
      rw [List.flatMap_cons, List.flatMap_cons] at h
      obtain ⟨hfirst, hrest⟩ := List.append_inj h ((hlength a).trans (hlength a').symm)
      rw [List.map_cons, List.map_cons, hfirst, ih hrest]

/-- Severity and status can be read off an entry. -/
theorem severityDtcBytes_inj {rec rec' : UdsDtcAppRecord}
    (h : severityDtcBytes rec = severityDtcBytes rec') :
    rec.severity = rec'.severity ∧ rec.statusByte = rec'.statusByte := by
  obtain ⟨hseverity, hrest⟩ := List.cons.inj h
  obtain ⟨-, hdtc⟩ := List.cons.inj hrest
  have hnumber : (toBytesBe 3 rec.dtcNumber.toNat).length
      = (toBytesBe 3 rec'.dtcNumber.toNat).length := by
    rw [length_toBytesBe, length_toBytesBe]
  exact ⟨hseverity, (List.cons.inj (List.append_inj hdtc hnumber).2).1⟩

/-- A report has one answer. -/
theorem Reports.unique {app : UdsDtcAppStorage} {subfunction : UInt8}
    {request bytes bytes' : List UInt8} (h : Reports app subfunction request bytes)
    (h' : Reports app subfunction request bytes') (hlength : bytes.length < 65536)
    (hlength' : bytes'.length < 65536) : bytes = bytes' := by
  have hall : (0xFFFF : UInt16).toNat = 65535 := rfl
  have hreport := (h 0xFFFF).1 (by omega)
  rw [(h' 0xFFFF).1 (by omega)] at hreport
  exact (Prod.mk.inj hreport).2.symm

/-! ## When the masks do what they are for -/

section Masks

variable {app : UdsDtcAppStorage} {severityMask statusMask : UInt8}

theorem masksAgree_filter (h : MasksAgree app severityMask statusMask) :
    selectedRecords app severityMask = severityRecords app severityMask statusMask := by
  unfold selectedRecords severityRecords
  refine List.filter_congr fun rec hrec => Bool.eq_iff_iff.mpr ?_
  rw [selected_iff, severitySelected_iff]
  exact and_congr_right fun hactive => h rec hrec hactive

/-- Where two lists of entries are the same, so is what was asked of the records. -/
theorem masksAgree_of_entries
    (h : (selectedRecords app severityMask).map severityDtcBytes
      = (severityRecords app severityMask statusMask).map severityDtcBytes) :
    MasksAgree app severityMask statusMask := by
  intro rec hrec hactive
  constructor
  · intro hstatus
    have hselected : rec ∈ selectedRecords app severityMask :=
      List.mem_filter.mpr ⟨hrec, selected_iff.mpr ⟨hactive, hstatus⟩⟩
    have hentry := List.mem_map_of_mem (f := severityDtcBytes) hselected
    rw [h] at hentry
    -- an entry like that of `rec` is in the other list, and it has the same severity and status
    obtain ⟨rec', hrec', hbytes⟩ := List.mem_map.mp hentry
    obtain ⟨hseverity, hbyte⟩ := severityDtcBytes_inj hbytes
    rw [← hseverity, ← hbyte]
    exact (severitySelected_iff.mp (List.mem_filter.mp hrec').2).2
  · intro hmasks
    have hselected : rec ∈ severityRecords app severityMask statusMask :=
      List.mem_filter.mpr ⟨hrec, severitySelected_iff.mpr ⟨hactive, hmasks⟩⟩
    have hentry := List.mem_map_of_mem (f := severityDtcBytes) hselected
    rw [← h] at hentry
    obtain ⟨rec', hrec', hbytes⟩ := List.mem_map.mp hentry
    obtain ⟨-, hbyte⟩ := severityDtcBytes_inj hbytes
    rw [← hbyte]
    exact (selected_iff.mp (List.mem_filter.mp hrec').2).2

/-- A list of records is shorter than what a capacity can be. -/
theorem length_severityList (h : TableSized app) (p : UdsDtcAppRecord → Bool)
    (subfunction : UInt8) :
    (subfunction :: statusAvailabilityMask ::
      ((allRecords app).filter p).flatMap severityDtcBytes).length < 65536 := by
  have hfilter := List.length_filter_le p (allRecords app)
  have hcount := h.count
  have hlength : (((allRecords app).filter p).flatMap severityDtcBytes).length
      = ((allRecords app).filter p).length * 6 := by
    rw [List.length_flatMap, List.map_congr_left fun rec _ => length_severityDtcBytes rec,
      List.map_const', List.sum_replicate_nat]
  unfold dtcAppMaxRecords at hcount
  rw [List.length_cons, List.length_cons, hlength]
  omega

/-- For every table, and every request of four bytes, which the server lets through: the two
sub-functions report by severity and status, as 0x42 does, exactly where no active record of the
table makes a difference. -/
theorem severity_masks_iff (h : TableSized app) (severityMask statusMask : UInt8) :
    udsDtcRequestLengthValid 0x07 4 = true ∧ udsDtcRequestLengthValid 0x08 4 = true ∧
      (∀ groupId, Reports app 0x42 [0x19, 0x42, groupId, statusMask, severityMask]
        (0x42 :: groupId :: statusAvailabilityMask ::
          (severityRecords app severityMask statusMask).flatMap severityDtcBytes)) ∧
      (SeverityReports app severityMask statusMask ↔ MasksAgree app severityMask statusMask) := by
  have hlist : Reports app 0x08 [0x19, 0x08, severityMask, statusMask]
      (0x08 :: statusAvailabilityMask ::
        (selectedRecords app severityMask).flatMap severityDtcBytes) :=
    severity_reports rfl 0x19 [severityMask, statusMask]
  refine ⟨rfl, rfl, fun groupId => severityMask_reports app groupId statusMask severityMask,
    fun hreports => ?_, fun hagree => ?_⟩
  · -- the bytes that the code lists are those of the records that were asked for
    have hbytes := hlist.unique hreports.list (length_severityList h _ _)
      (length_severityList h _ _)
    have hentries := (List.cons.inj (List.cons.inj hbytes).2).2
    exact masksAgree_of_entries
      (map_of_flatMap (by decide) length_severityDtcBytes hentries)
  · have hnumber : Reports app 0x07 [0x19, 0x07, severityMask, statusMask]
        (0x07 :: statusAvailabilityMask :: 0x01 ::
          toBytesBe 2 (selectedRecords app severityMask).length) :=
      number_reports h rfl 0x19 [severityMask, statusMask]
    have hrecords := masksAgree_filter hagree
    constructor
    · rw [← hrecords]
      exact hnumber
    · rw [← hrecords]
      exact hlist

end Masks

/-! ## The table at the start -/

/-- The severity of P0100 has the bit and its status has not, so no record is reported. -/
theorem severity_mask_ignored : ¬SeverityReports udsDtcAppInit 0x40 0xFF := by
  intro hreports
  have hcode : udsDtcAppReport udsDtcAppInit 0x07 [0x19, 0x07, 0x40, 0xFF] 5
      = (.ok, [0x07, 0xFF, 0x01, 0x00, 0x00]) := by
    decide +kernel
  have hcount : (severityRecords udsDtcAppInit 0x40 0xFF).length = 1 := by decide +kernel
  have hnumber := (hreports.number 5).1
  rw [hcount, hcode] at hnumber
  exact absurd (Prod.mk.inj (hnumber (by decide))).2 (by decide)

/-- A mask of all bits selects every active record there is. -/
theorem severity_masks_iff_init :
    udsDtcRequestLengthValid 0x07 4 = true ∧ udsDtcRequestLengthValid 0x08 4 = true ∧
      (∀ groupId, Reports udsDtcAppInit 0x42 [0x19, 0x42, groupId, 0xFF, 0xFF]
        (0x42 :: groupId :: statusAvailabilityMask ::
          (severityRecords udsDtcAppInit 0xFF 0xFF).flatMap severityDtcBytes)) ∧
      (SeverityReports udsDtcAppInit 0xFF 0xFF ↔ MasksAgree udsDtcAppInit 0xFF 0xFF) :=
  severity_masks_iff udsDtcAppInit_valid.table.sized 0xFF 0xFF

end UdsIsoTp.App
