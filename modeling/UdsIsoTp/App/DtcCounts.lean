import UdsIsoTp.App.DtcReach
import UdsIsoTp.App.DtcReport
import UdsIsoTp.Lib.BigEndian

/-!
# Numbers of trouble codes and lists of them

A tester asks how many codes match a status mask, and then for the list. The number comes
from one loop and the list from another, or from a third where the severity goes with it;
all three select the active records that have a bit of the mask (`Selected`), so the number
is the length of the list.

`Reports` says what a request is answered with, for every capacity at once: these bytes
where they fit, and no success where they do not.
-/

namespace UdsIsoTp.App

open UdsIsoTp.Flash UdsIsoTp.Uds Writer

/-! ## What the writers append -/

/-- A code and its status. A code has 24 bits; of a longer number the last three bytes show. -/
def dtcBytes (rec : UdsDtcAppRecord) : List UInt8 :=
  toBytesBe 3 rec.dtcNumber.toNat ++ [rec.statusByte]

/-- A record with its severity in front. -/
def severityDtcBytes (rec : UdsDtcAppRecord) : List UInt8 :=
  rec.severity :: rec.functionalUnit :: dtcBytes rec

theorem number_bytes (number : UInt32) :
    [(number >>> 16).toUInt8, (number >>> 8).toUInt8, number.toUInt8]
      = toBytesBe 3 number.toNat := by
  have hhigh : (number >>> 16).toUInt8 = UInt8.ofNat (number.toNat / 256 / 256) := by
    refine UInt8.toNat_inj.mp ?_
    rw [UInt32.toNat_toUInt8, UInt32.toNat_shiftRight]
    show number.toNat >>> 16 % 256 = number.toNat / 256 / 256 % 256
    rw [Nat.shiftRight_eq_div_pow, Nat.div_div_eq_div_mul]
  have hmid : (number >>> 8).toUInt8 = UInt8.ofNat (number.toNat / 256) := by
    refine UInt8.toNat_inj.mp ?_
    rw [UInt32.toNat_toUInt8, UInt32.toNat_shiftRight]
    show number.toNat >>> 8 % 256 = number.toNat / 256 % 256
    rw [Nat.shiftRight_eq_div_pow]
  have hlow : number.toUInt8 = UInt8.ofNat number.toNat := rfl
  rw [hhigh, hmid, hlow]
  rfl

theorem appendDtc_appends (capacity : UInt16) (rec : UdsDtcAppRecord) :
    Appends capacity.toNat (appendDtc capacity rec) (dtcBytes rec) := by
  unfold dtcBytes
  rw [← number_bytes]
  exact (append_appends ..).andAlso <| (append_appends ..).andAlso <|
    (append_appends ..).andAlso <| append_appends ..

theorem appendSeverityDtc_appends (capacity : UInt16) (rec : UdsDtcAppRecord) :
    Appends capacity.toNat (appendSeverityDtc capacity rec) (severityDtcBytes rec) :=
  (append_appends ..).andAlso <| (append_appends ..).andAlso <| appendDtc_appends capacity rec

/-- A loop over the records that appends those which meet a condition. -/
theorem records_append {capacity : UInt16} {w : UdsDtcAppRecord → Writer UInt8}
    {bytes : UdsDtcAppRecord → List UInt8} (h : ∀ rec, Appends capacity.toNat (w rec) (bytes rec))
    (p : UdsDtcAppRecord → Bool) (records : List UdsDtcAppRecord) :
    Appends capacity.toNat (appendEach (fun rec => onlyIf (p rec) (w rec)) records)
      ((records.filter p).flatMap bytes) := by
  rw [← flatMap_if]
  exact appendEach_appends (fun rec => (h rec).onlyIf (p rec)) records

/-! ## What a request is answered with -/

/-- The report succeeds with these bytes where they fit, and nowhere else. -/
def Reports (app : UdsDtcAppStorage) (subfunction : UInt8) (request bytes : List UInt8) : Prop :=
  ∀ capacity : UInt16,
    (bytes.length ≤ capacity.toNat →
      udsDtcAppReport app subfunction request capacity = (.ok, bytes)) ∧
    (capacity.toNat < bytes.length → (udsDtcAppReport app subfunction request capacity).1 ≠ .ok)

/-- A handler that is one writer reports what the writer appends to the sub-function. -/
theorem reports_of_writer (entry : DtcSubfnEntry) {app : UdsDtcAppStorage}
    {request bytes : List UInt8} {w : UInt16 → Writer UInt8}
    (hentry : dtcSubfns.find? (fun e => e.subfunction = entry.subfunction) = some entry)
    (hlength : entry.minRequestLength.toNat ≤ request.length) (hrequest : request.length ≠ 0)
    (hhandler : ∀ capacity response,
      entry.handler app entry.subfunction request capacity response
        = written (w capacity response))
    (hwrites : ∀ capacity, Appends capacity.toNat (w capacity) bytes) (hsome : bytes ≠ []) :
    Reports app entry.subfunction request (entry.subfunction :: bytes) := by
  intro capacity
  have hpos := List.length_pos_iff.mpr hsome
  rw [List.length_cons]
  by_cases htwo : capacity.toNat < 2
  · -- less than two bytes are refused, and no report of a handler has less
    have herror : udsDtcAppReport app entry.subfunction request capacity = (.error, []) :=
      if_pos (.inl htwo)
    refine ⟨fun hfits => ?_, fun _ => ?_⟩
    · omega
    · rw [herror]
      exact UdsCallbackResult.noConfusion
  · have hfirst : appendByte capacity entry.subfunction [] = (true, [entry.subfunction]) :=
      (append_appends capacity.toNat entry.subfunction).fits [] (by simp; omega)
    -- the sub-function goes first, and the handler writes behind it
    have hreport : udsDtcAppReport app entry.subfunction request capacity
        = written (w capacity [entry.subfunction]) := by
      unfold udsDtcAppReport
      have htaken : ¬(capacity < 2 ∨ request.length = 0) := not_or.mpr ⟨htwo, hrequest⟩
      rw [if_neg htaken, hentry]
      dsimp only
      rw [if_neg (Nat.not_lt.mpr hlength), hfirst, if_pos rfl, hhandler]
    rw [hreport]
    have hroom : [entry.subfunction].length ≤ capacity.toNat := by
      rw [List.length_singleton]
      omega
    refine ⟨fun hfits => ?_, fun hfull => ?_⟩
    · rw [(hwrites capacity).fits _ (by rw [List.length_singleton]; omega)]
      rfl
    · have hfailed := (hwrites capacity).full _ hroom (by rw [List.length_singleton]; omega)
      unfold written
      rw [hfailed, if_neg Bool.false_ne_true]
      exact UdsCallbackResult.noConfusion

/-! ## Counting -/

/-- The record is active and has a bit of the mask. -/
def Selected (statusMask : UInt8) (rec : UdsDtcAppRecord) : Bool :=
  rec.active && decide (rec.statusByte &&& statusMask ≠ 0)

/-- The records that a mask selects, in the order of the table. -/
def selectedRecords (app : UdsDtcAppStorage) (statusMask : UInt8) : List UdsDtcAppRecord :=
  (allRecords app).filter (Selected statusMask)

theorem selected_iff {statusMask : UInt8} {rec : UdsDtcAppRecord} :
    Selected statusMask rec = true ↔ rec.active = true ∧ rec.statusByte &&& statusMask ≠ 0 := by
  unfold Selected
  rw [Bool.and_eq_true, decide_eq_true_iff]

/-- A counter that goes up for the elements that meet a condition. -/
theorem foldl_count {α : Type} (p : α → Bool) (l : List α) (n : UInt16) :
    l.foldl (fun count a => if p a then count + 1 else count) n
      = n + UInt16.ofNat (l.filter p).length := by
  induction l generalizing n with
  | nil => exact (UInt16.add_zero n).symm
  | cons a l ih =>
    rw [List.foldl_cons, ih]
    cases hp : p a with
    | true =>
      rw [if_pos rfl, List.filter_cons_of_pos hp, List.length_cons, Nat.add_comm,
        UInt16.ofNat_add, UInt16.add_assoc]
      rfl
    | false =>
      rw [if_neg Bool.false_ne_true,
        List.filter_cons_of_neg (by rw [hp]; exact Bool.false_ne_true)]

/-- A mask selects no more records than 16 bits count. -/
theorem selected_lt {app : UdsDtcAppStorage} (h : TableSized app) (statusMask : UInt8) :
    (selectedRecords app statusMask).length < 256 ^ 2 := by
  have hfilter := List.length_filter_le (Selected statusMask) (allRecords app)
  have hcount := h.count
  unfold dtcAppMaxRecords at hcount
  unfold selectedRecords
  omega

/-- The two bytes of a number, as the handler takes them from its counter. -/
theorem count_bytes {n : Nat} (hn : n < 256 ^ 2) :
    [(UInt16.ofNat n >>> 8).toUInt8, (UInt16.ofNat n).toUInt8] = toBytesBe 2 n := by
  have hcount : (UInt16.ofNat n).toNat = n := UInt16.toNat_ofNat_of_lt' hn
  have hhigh : (UInt16.ofNat n >>> 8).toUInt8 = UInt8.ofNat (n / 256) := by
    refine UInt8.toNat_inj.mp ?_
    rw [UInt16.toNat_toUInt8, UInt16.toNat_shiftRight, hcount]
    show n >>> 8 % 256 = n / 256 % 256
    rw [Nat.shiftRight_eq_div_pow]
  have hlow : (UInt16.ofNat n).toUInt8 = UInt8.ofNat n := by
    refine UInt8.toNat_inj.mp ?_
    rw [UInt16.toNat_toUInt8, hcount]
    rfl
  rw [hhigh, hlow]
  rfl

/-- The handler of the numbers. -/
theorem countByMask_written {app : UdsDtcAppStorage} (h : TableSized app) (subfunction : UInt8)
    (request : List UInt8) (capacity : UInt16) (response : List UInt8) :
    dtcReportCountByMask app subfunction request capacity response
      = written (appendBytes capacity (statusAvailabilityMask :: 0x01 ::
          toBytesBe 2 (selectedRecords app (request.getD 2 0xFF)).length) response) := by
  have hcount := foldl_count (Selected (request.getD 2 0xFF)) (allRecords app) 0
  rw [UInt16.zero_add] at hcount
  have hbytes := count_bytes (selected_lt h (request.getD 2 0xFF))
  have hloop : (allRecords app).foldl
      (fun (count : UInt16) rec =>
        if rec.active ∧ rec.statusByte &&& request.getD 2 0xFF ≠ 0 then count + 1 else count) 0
      = UInt16.ofNat (selectedRecords app (request.getD 2 0xFF)).length := by
    unfold selectedRecords
    rw [← hcount]
    congr 1
    funext count rec
    exact if_congr selected_iff.symm rfl rfl
  unfold dtcReportCountByMask
  dsimp only
  rw [hloop, ← hbytes]

/-! ## Listing -/

/-- What the list of a sub-function has for a record. -/
def listEntry (subfunction : UInt8) (rec : UdsDtcAppRecord) : List UInt8 :=
  if subfunction = 0x08 then severityDtcBytes rec else dtcBytes rec

/-- How many bytes an entry of the list takes. -/
def entrySize (subfunction : UInt8) : Nat := if subfunction = 0x08 then 6 else 4

theorem length_listEntry (subfunction : UInt8) (rec : UdsDtcAppRecord) :
    (listEntry subfunction rec).length = entrySize subfunction := by
  have hdtc : (dtcBytes rec).length = 4 := by
    unfold dtcBytes
    rw [List.length_append, length_toBytesBe, List.length_singleton]
  unfold listEntry entrySize
  split
  next =>
    unfold severityDtcBytes
    rw [List.length_cons, List.length_cons, hdtc]
  next => exact hdtc

/-- Apart from the two sub-functions that have their own filter, a list by mask has the
records that the mask selects. -/
theorem listIncludes_eq {subfunction : UInt8} (hall : subfunction ≠ 0x0A)
    (hconfirmed : subfunction ≠ 0x15) (statusMask : UInt8) :
    listIncludes subfunction statusMask = Selected statusMask := by
  funext rec
  unfold listIncludes Selected
  rw [if_neg hall, if_neg hconfirmed]
  cases rec.active with
  | true => rfl
  | false => rfl

/-- The two handlers of the lists write the availability mask, and then an entry for every
record that the mask selects. -/
theorem list_appends {entry : UdsDtcAppRecord → List UInt8} {w : UdsDtcAppRecord → Writer UInt8}
    {capacity : UInt16} (hentry : ∀ rec, Appends capacity.toNat (w rec) (entry rec))
    (app : UdsDtcAppStorage) (statusMask : UInt8) :
    Appends capacity.toNat
      (andAlso (appendByte capacity statusAvailabilityMask)
        (appendEach (fun rec => onlyIf (Selected statusMask rec) (w rec)) (allRecords app)))
      (statusAvailabilityMask :: (selectedRecords app statusMask).flatMap entry) :=
  (append_appends ..).andAlso (records_append hentry (Selected statusMask) (allRecords app))

/-! ## Numbers and their lists -/

/-- The sub-functions that give a number, each with the one that gives the list. -/
def numberAndList : List (UInt8 × UInt8) := [(0x01, 0x02), (0x07, 0x08), (0x12, 0x13)]

section Answers

variable {app : UdsDtcAppStorage} {subfunction : UInt8}

/-- The request's mask; a request of two bytes asks for every status. -/
theorem getD_mask (sid : UInt8) (params : List UInt8) :
    (sid :: subfunction :: params).getD 2 0xFF = params.getD 0 0xFF := rfl

theorem number_reports (h : TableSized app)
    (hentry : dtcSubfns.find? (fun e => e.subfunction = subfunction)
      = some ⟨subfunction, 2, dtcReportCountByMask⟩) (sid : UInt8) (params : List UInt8) :
    Reports app subfunction (sid :: subfunction :: params)
      (subfunction :: statusAvailabilityMask :: 0x01 ::
        toBytesBe 2 (selectedRecords app (params.getD 0 0xFF)).length) := by
  refine reports_of_writer ⟨subfunction, 2, dtcReportCountByMask⟩
    hentry (Nat.le_add_left 2 _) (Nat.succ_ne_zero _) (fun capacity response => ?_)
    (fun capacity => appendAll_appends _ _) (List.cons_ne_nil _ _)
  exact countByMask_written h subfunction _ capacity response

theorem list_reports
    (hentry : dtcSubfns.find? (fun e => e.subfunction = subfunction)
      = some ⟨subfunction, 2, dtcReportListByMask⟩)
    (hall : subfunction ≠ 0x0A) (hconfirmed : subfunction ≠ 0x15) (sid : UInt8)
    (params : List UInt8) :
    Reports app subfunction (sid :: subfunction :: params)
      (subfunction :: statusAvailabilityMask ::
        (selectedRecords app (params.getD 0 0xFF)).flatMap dtcBytes) := by
  refine reports_of_writer ⟨subfunction, 2, dtcReportListByMask⟩
    hentry (Nat.le_add_left 2 _) (Nat.succ_ne_zero _) (fun capacity response => ?_)
    (fun capacity => list_appends (appendDtc_appends capacity) app _) (List.cons_ne_nil _ _)
  show dtcReportListByMask app subfunction (sid :: subfunction :: params) capacity response = _
  unfold dtcReportListByMask
  dsimp only
  rw [listIncludes_eq hall hconfirmed, getD_mask]

theorem severity_reports
    (hentry : dtcSubfns.find? (fun e => e.subfunction = subfunction)
      = some ⟨subfunction, 2, dtcReportSeverityRecord⟩) (sid : UInt8) (params : List UInt8) :
    Reports app subfunction (sid :: subfunction :: params)
      (subfunction :: statusAvailabilityMask ::
        (selectedRecords app (params.getD 0 0xFF)).flatMap severityDtcBytes) := by
  refine reports_of_writer ⟨subfunction, 2, dtcReportSeverityRecord⟩
    hentry (Nat.le_add_left 2 _) (Nat.succ_ne_zero _) (fun capacity response => ?_)
    (fun capacity => list_appends (appendSeverityDtc_appends capacity) app _)
    (List.cons_ne_nil _ _)
  rfl

end Answers

/-- The number is the length of the list: whatever has happened to the table, the two
reports go through the same records, each an active record of the table and no code twice. -/
theorem dtc_count_matches_list (world : UdsParamStore NorFlash × NorFlash)
    (calls : List DtcCall) (pair : UInt8 × UInt8) (hpair : pair ∈ numberAndList) (sid : UInt8)
    (params : List UInt8) :
    let app := (run dtcStep ⟨udsDtcAppInit, world⟩ calls).app
    let listed := selectedRecords app (params.getD 0 0xFF)
    Reports app pair.1 (sid :: pair.1 :: params)
        (pair.1 :: statusAvailabilityMask :: 0x01 :: toBytesBe 2 listed.length) ∧
      ofBytesBe (toBytesBe 2 listed.length) = listed.length ∧
      Reports app pair.2 (sid :: pair.2 :: params)
        (pair.2 :: statusAvailabilityMask :: listed.flatMap (listEntry pair.2)) ∧
      (∀ rec ∈ listed, (listEntry pair.2 rec).length = entrySize pair.2) ∧
      (∀ rec ∈ listed, rec.active = true ∧ recordOf app rec.dtcNumber = some rec) ∧
      (listed.map UdsDtcAppRecord.dtcNumber).Nodup := by
  intro app listed
  have hsound : TableSound app := dtcRun_sound world calls
  have hsublist : List.Sublist listed (allRecords app) := List.filter_sublist
  have hfits : ofBytesBe (toBytesBe 2 listed.length) = listed.length :=
    ofBytesBe_toBytesBe (selected_lt hsound.sized _)
  have hrecords : ∀ rec ∈ listed, rec.active = true ∧ recordOf app rec.dtcNumber = some rec := by
    intro rec hrec
    have hselected := (List.mem_filter.mp hrec).2
    exact ⟨(selected_iff.mp hselected).1, hsound.stored (hsublist.subset hrec)⟩
  have hnumbers : (listed.map UdsDtcAppRecord.dtcNumber).Nodup :=
    hsound.numbers.sublist (hsublist.map _)
  have hsizes : ∀ rec ∈ listed, (listEntry pair.2 rec).length = entrySize pair.2 :=
    fun rec _ => length_listEntry pair.2 rec
  -- The list of 0x08 comes from a handler of its own; the other two share one.
  have hreports : Reports app pair.1 (sid :: pair.1 :: params)
        (pair.1 :: statusAvailabilityMask :: 0x01 :: toBytesBe 2 listed.length) ∧
      Reports app pair.2 (sid :: pair.2 :: params)
        (pair.2 :: statusAvailabilityMask :: listed.flatMap (listEntry pair.2)) := by
    rcases List.mem_cons.mp hpair with rfl | hpair
    · exact ⟨number_reports hsound.sized rfl sid params,
        list_reports rfl (by decide) (by decide) sid params⟩
    rcases List.mem_cons.mp hpair with rfl | hpair
    · exact ⟨number_reports hsound.sized rfl sid params, severity_reports rfl sid params⟩
    rcases List.mem_singleton.mp hpair with rfl
    exact ⟨number_reports hsound.sized rfl sid params,
      list_reports rfl (by decide) (by decide) sid params⟩
  exact ⟨hreports.1, hfits, hreports.2, hsizes, hrecords, hnumbers⟩

/-- Two codes are confirmed from the start; of the two faults one is cleared. -/
theorem dtc_count_matches_list_severity :
    let app := (run dtcStep (dtcStart dtcFlash dtcFlash_accepted) twoFaults).app
    Reports app 0x07 [0x19, 0x07, 0x08] [0x07, 0xFF, 0x01, 0x00, 0x03] ∧
      Reports app 0x08 [0x19, 0x08, 0x08]
        [0x08, 0xFF, 0x80, 0x01, 0xD0, 0x06, 0x18, 0x29, 0x40, 0x01, 0x01, 0x00, 0x00, 0x2F,
          0x80, 0x02, 0xC1, 0x00, 0x00, 0x08] := by
  intro app
  have hcount : (selectedRecords app 0x08).length = 3 := by decide +kernel
  have hlist : (selectedRecords app 0x08).flatMap (listEntry 0x08)
      = [0x80, 0x01, 0xD0, 0x06, 0x18, 0x29, 0x40, 0x01, 0x01, 0x00, 0x00, 0x2F,
        0x80, 0x02, 0xC1, 0x00, 0x00, 0x08] := by
    decide +kernel
  obtain ⟨hnumber, -, hlisted, -⟩ := dtc_count_matches_list
    (dtcStart dtcFlash dtcFlash_accepted).world twoFaults (0x07, 0x08) (by decide) 0x19 [0x08]
  constructor
  · have hbytes : toBytesBe 2 (selectedRecords app 0x08).length = [0x00, 0x03] := by
      rw [hcount]
      rfl
    rw [← hbytes]
    exact hnumber
  · rw [← hlist]
    exact hlisted

end UdsIsoTp.App
