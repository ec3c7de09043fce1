import UdsIsoTp.App.DtcClear

/-!
# Debouncing

A report moves the fault counter of its code by sixteen, up for a failure and down for a
pass, and the counter stops at 127 and -128. What the status says of the code depends on the
reports since its record was last cleared, and of these only on the extreme that the counter
was at last (`DebounceLaws`): between the extremes nothing changes but the pending bit.
-/

namespace UdsIsoTp.App

open UdsIsoTp.Flash UdsIsoTp.Uds Keyed

variable {ω : Type}

/-! ## The counter in whole numbers -/

/-- The counter after one more report. -/
def nextCounter (counter : Int) (failed : Bool) : Int :=
  if failed then min 127 (counter + 16) else max (-128) (counter - 16)

/-- The counter is at one of its ends. -/
def isExtreme (counter : Int) : Bool := counter = 127 || counter = -128

/-- The counter after the reports, from zero. -/
def counterAfter (reports : List Bool) : Int := run nextCounter 0 reports

/-- The extremes that the counter has been at, one for each report that took it there. -/
def extremesReached (reports : List Bool) : List Int :=
  observed nextCounter (fun counter failed =>
    (some (nextCounter counter failed)).filter isExtreme) 0 reports

/-- What the record of a code owes to the reports since it was cleared. -/
structure DebounceLaws (reports : List Bool) (ram : UdsDtcRamStatus) : Prop where
  /-- The sums of eight bits are those of whole numbers. -/
  counter : ram.faultCounter.toInt = counterAfter reports
  failed : ram.statusByte &&& dtcStatusTestFailed ≠ 0 ↔
    (extremesReached reports).getLast? = some 127
  confirmed : ram.statusByte &&& dtcStatusTestFailed ≠ 0 →
    ram.statusByte &&& dtcStatusConfirmed ≠ 0
  completed : extremesReached reports ≠ [] → ram.statusByte &&& dtcCompletedMask = 0

/-- Nothing counted and nothing but "not completed" in the status. -/
structure RecordCleared (ram : UdsDtcRamStatus) : Prop where
  counter : ram.faultCounter = 0
  status : ram.statusByte = dtcStatusCleared

theorem clearSingleRamRecord_cleared (ram : UdsDtcRamStatus) :
    RecordCleared (clearSingleRamRecord ram) := ⟨rfl, rfl⟩

theorem counterAfter_concat (reports : List Bool) (failed : Bool) :
    counterAfter (reports ++ [failed]) = nextCounter (counterAfter reports) failed :=
  run_concat ..

theorem extremesReached_concat (reports : List Bool) (failed : Bool) :
    extremesReached (reports ++ [failed]) = extremesReached reports ++
      if isExtreme (counterAfter (reports ++ [failed])) then
        [counterAfter (reports ++ [failed])] else [] := by
  unfold extremesReached
  rw [observed_concat, counterAfter_concat]
  show _ ++ Option.toList ((some (nextCounter (counterAfter reports) failed)).filter isExtreme) = _
  rw [Option.filter_some]
  by_cases hextreme : isExtreme (nextCounter (counterAfter reports) failed) = true
  · rw [if_pos hextreme, if_pos hextreme]
    rfl
  · rw [if_neg hextreme, if_neg hextreme]
    rfl

/-! ## One report -/

theorem uint8_or_and (s a b : UInt8) : (s ||| a) &&& b = (s &&& b) ||| (a &&& b) := by
  refine UInt8.toNat_inj.mp ?_
  rw [UInt8.toNat_and, UInt8.toNat_or, UInt8.toNat_or, UInt8.toNat_and, UInt8.toNat_and,
    Nat.and_or_distrib_right]

/-- Bits that are set elsewhere. -/
theorem or_and_of_disjoint {a b : UInt8} (h : a &&& b = 0) (s : UInt8) :
    (s ||| a) &&& b = s &&& b := by
  rw [uint8_or_and, h, UInt8.or_zero]

/-- Bits that are cleared elsewhere. -/
theorem and_not_and {a b : UInt8} (h : ~~~a &&& b = b) (s : UInt8) :
    s &&& ~~~a &&& b = s &&& b := by
  rw [UInt8.and_assoc, h]

theorem or_and_ne_zero {a b : UInt8} (h : a &&& b ≠ 0) (s : UInt8) : (s ||| a) &&& b ≠ 0 := by
  rw [uint8_or_and]
  intro hzero
  exact h (UInt8.or_eq_zero_iff.mp hzero).2

section Report

/-- The counter of eight bits that a failure leaves. -/
def failedCounter (counter : Int8) : Int8 := if counter ≤ 127 - 16 then counter + 16 else 127

/-- The counter of eight bits that a pass leaves. -/
def passedCounter (counter : Int8) : Int8 := if -128 + 16 ≤ counter then counter - 16 else -128

theorem failedCounter_toInt (counter : Int8) :
    (failedCounter counter).toInt = nextCounter counter.toInt true := by
  have hlow := counter.le_toInt
  have hhigh := counter.toInt_lt
  show _ = min 127 (counter.toInt + 16)
  unfold failedCounter
  split
  next h =>
    have hroom : counter.toInt ≤ 111 := Int8.le_iff_toInt_le.mp h
    rw [Int8.toInt_add]
    show (counter.toInt + 16).bmod 256 = _
    rw [Int.bmod_eq_of_le (by omega) (by omega)]
    omega
  next h =>
    have hroom : ¬counter.toInt ≤ 111 := fun hle => h (Int8.le_iff_toInt_le.mpr hle)
    show (127 : Int) = _
    omega

theorem passedCounter_toInt (counter : Int8) :
    (passedCounter counter).toInt = nextCounter counter.toInt false := by
  have hlow := counter.le_toInt
  have hhigh := counter.toInt_lt
  show _ = max (-128) (counter.toInt - 16)
  unfold passedCounter
  split
  next h =>
    have hroom : -112 ≤ counter.toInt := Int8.le_iff_toInt_le.mp h
    rw [Int8.toInt_sub]
    show (counter.toInt - 16).bmod 256 = _
    rw [Int.bmod_eq_of_le (by omega) (by omega)]
    omega
  next h =>
    have hroom : ¬(-112 ≤ counter.toInt) := fun hle => h (Int8.le_iff_toInt_le.mpr hle)
    show (-128 : Int) = _
    omega

variable {ram : UdsDtcRamStatus}

theorem ensureSnapshot_counter (ram : UdsDtcRamStatus) :
    (ensureSnapshot ram).faultCounter = ram.faultCounter := by
  unfold ensureSnapshot
  split
  next => rfl
  next => rfl

theorem ensureSnapshot_statusByte (ram : UdsDtcRamStatus) :
    (ensureSnapshot ram).statusByte = ram.statusByte := by
  unfold ensureSnapshot
  split
  next => rfl
  next => rfl

/-- Below its extreme a failure changes no bit but the pending one. -/
theorem failed_between (h : ¬127 ≤ failedCounter ram.faultCounter) :
    (debounceFaultFailed ram).faultCounter = failedCounter ram.faultCounter ∧
      ((debounceFaultFailed ram).statusByte = ram.statusByte ∨
        (debounceFaultFailed ram).statusByte = ram.statusByte ||| dtcStatusPending) := by
  unfold debounceFaultFailed
  extract_lets counted pending
  have hpending : pending.faultCounter = failedCounter ram.faultCounter ∧
      (pending.statusByte = ram.statusByte ∨
        pending.statusByte = ram.statusByte ||| dtcStatusPending) := by
    unfold pending
    split
    next => exact ⟨rfl, .inr rfl⟩
    next => exact ⟨rfl, .inl rfl⟩
  rw [if_neg (hpending.1 ▸ h)]
  exact hpending

/-- At its extreme a failure sets the failed bits and clears the two others. -/
theorem failed_extreme (h : 127 ≤ failedCounter ram.faultCounter) :
    (debounceFaultFailed ram).faultCounter = 127 ∧
      (debounceFaultFailed ram).statusByte
        = (ram.statusByte ||| dtcStatusPending ||| dtcFailedMask) &&& ~~~dtcCompletedMask := by
  unfold debounceFaultFailed
  extract_lets counted pending
  have hpositive : 0 < counted.faultCounter := Int8.lt_of_lt_of_le (by decide) h
  have hpending : pending.faultCounter = failedCounter ram.faultCounter ∧
      pending.statusByte = ram.statusByte ||| dtcStatusPending := by
    unfold pending
    rw [if_pos hpositive]
    exact ⟨rfl, rfl⟩
  rw [if_pos (hpending.1 ▸ h), ensureSnapshot_counter, ensureSnapshot_statusByte]
  exact ⟨rfl, congrArg (fun s => (s ||| dtcFailedMask) &&& ~~~dtcCompletedMask) hpending.2⟩

/-- Above its extreme a pass changes no bit. -/
theorem passed_between (h : ¬passedCounter ram.faultCounter ≤ -128) :
    (debounceFaultPassed ram).faultCounter = passedCounter ram.faultCounter ∧
      (debounceFaultPassed ram).statusByte = ram.statusByte := by
  unfold debounceFaultPassed
  extract_lets counted passed
  have hcounted : ¬counted.faultCounter ≤ -128 := h
  rw [if_neg hcounted]
  exact ⟨rfl, rfl⟩

/-- At its extreme a pass clears the failed bit and the two others, and with the fault aged the
confirmed bit too. -/
theorem passed_extreme (h : passedCounter ram.faultCounter ≤ -128) :
    let byte := ram.statusByte &&& ~~~dtcStatusTestFailed &&& ~~~dtcCompletedMask
    (debounceFaultPassed ram).faultCounter = -128 ∧
      ((debounceFaultPassed ram).statusByte = byte ∨
        (debounceFaultPassed ram).statusByte = byte &&& ~~~dtcStatusConfirmed) := by
  intro byte
  unfold debounceFaultPassed
  extract_lets counted passed
  have hcounted : counted.faultCounter ≤ -128 := h
  rw [if_pos hcounted]
  split
  next => exact ⟨rfl, .inr rfl⟩
  next => exact ⟨rfl, .inl rfl⟩

end Report

/-! ## The laws -/

/-- The bits that a pass clears at its extreme. -/
theorem passed_bits (s mask : UInt8)
    (h : ~~~dtcStatusTestFailed &&& mask = 0 ∨ ~~~dtcCompletedMask &&& mask = 0) :
    s &&& ~~~dtcStatusTestFailed &&& ~~~dtcCompletedMask &&& mask = 0 := by
  rcases h with htest | hcompleted
  · rw [UInt8.and_assoc, UInt8.and_assoc, UInt8.and_comm (~~~dtcCompletedMask), ← UInt8.and_assoc
      (~~~dtcStatusTestFailed), htest, UInt8.zero_and, UInt8.and_zero]
  · rw [UInt8.and_assoc, hcompleted, UInt8.and_zero]

section Laws

variable {ram ram' : UdsDtcRamStatus} {reports : List Bool} {failed : Bool}

theorem DebounceLaws.cleared (h : RecordCleared ram) : DebounceLaws [] ram := by
  obtain ⟨hcounter, hstatus⟩ := h
  constructor
  case counter => exact congrArg Int8.toInt hcounter
  case failed =>
    rw [hstatus]
    decide
  case confirmed =>
    rw [hstatus]
    decide
  case completed => exact fun hne => absurd rfl hne

theorem isExtreme_between {counter : Int} (hlow : -128 < counter) (hhigh : counter < 127) :
    isExtreme counter = false := by
  unfold isExtreme
  rw [Bool.or_eq_false_iff]
  exact ⟨decide_eq_false (by omega), decide_eq_false (by omega)⟩

/-- A report that ends at no extreme keeps the bits of the laws. -/
theorem DebounceLaws.between (h : DebounceLaws reports ram)
    (hcounter : ram'.faultCounter.toInt = nextCounter ram.faultCounter.toInt failed)
    (hextreme : isExtreme ram'.faultCounter.toInt = false)
    (hbits : ∀ mask, dtcStatusPending &&& mask = 0 →
      ram'.statusByte &&& mask = ram.statusByte &&& mask) :
    DebounceLaws (reports ++ [failed]) ram' := by
  rw [h.counter, ← counterAfter_concat] at hcounter
  have hreached : extremesReached (reports ++ [failed]) = extremesReached reports := by
    rw [extremesReached_concat, ← hcounter, hextreme]
    exact List.append_nil _
  constructor
  case counter => exact hcounter
  case failed =>
    rw [hreached, hbits _ (by decide)]
    exact h.failed
  case confirmed =>
    rw [hbits _ (by decide), hbits _ (by decide)]
    exact h.confirmed
  case completed =>
    rw [hreached, hbits _ (by decide)]
    exact h.completed

/-- A report that ends at an extreme settles them. -/
theorem DebounceLaws.extreme (h : DebounceLaws reports ram)
    (hcounter : ram'.faultCounter.toInt = nextCounter ram.faultCounter.toInt failed)
    (hextreme : isExtreme ram'.faultCounter.toInt = true)
    (hfailed : ram'.statusByte &&& dtcStatusTestFailed ≠ 0 ↔ ram'.faultCounter.toInt = 127)
    (hconfirmed : ram'.statusByte &&& dtcStatusTestFailed ≠ 0 →
      ram'.statusByte &&& dtcStatusConfirmed ≠ 0)
    (hcompleted : ram'.statusByte &&& dtcCompletedMask = 0) :
    DebounceLaws (reports ++ [failed]) ram' := by
  rw [h.counter, ← counterAfter_concat] at hcounter
  have hreached : extremesReached (reports ++ [failed])
      = extremesReached reports ++ [ram'.faultCounter.toInt] := by
    rw [extremesReached_concat, ← hcounter, if_pos hextreme]
  constructor
  case counter => exact hcounter
  case failed =>
    rw [hreached, List.getLast?_concat, hfailed]
    exact ⟨congrArg some, Option.some.inj⟩
  case confirmed => exact hconfirmed
  case completed => exact fun _ => hcompleted

theorem DebounceLaws.failed_step (h : DebounceLaws reports ram) :
    DebounceLaws (reports ++ [true]) (debounceFaultFailed ram) := by
  have hcounter := failedCounter_toInt ram.faultCounter
  have hlow := ram.faultCounter.le_toInt
  -- the counter has come to its upper extreme, or only the pending bit can have changed
  by_cases hat : 127 ≤ failedCounter ram.faultCounter
  · obtain ⟨hlast, hstatus⟩ := failed_extreme hat
    have hone : failedCounter ram.faultCounter = 127 :=
      Int8.le_antisymm (Int8.le_iff_toInt_le.mpr (by
        have := (failedCounter ram.faultCounter).toInt_lt
        show _ ≤ (127 : Int)
        omega)) hat
    have hset : (debounceFaultFailed ram).statusByte &&& dtcStatusTestFailed ≠ 0 := by
      rw [hstatus, and_not_and (by decide)]
      exact or_and_ne_zero (by decide) _
    -- a failure sets the confirmed bit together with the failed one
    refine h.extreme ?_ ?_ ?_ ?_ ?_
    · rw [hlast, ← hone]
      exact hcounter
    · rw [hlast]
      rfl
    · rw [hlast]
      exact iff_of_true hset rfl
    · intro _
      rw [hstatus, and_not_and (by decide)]
      exact or_and_ne_zero (by decide) _
    · rw [hstatus, UInt8.and_assoc]
      exact UInt8.and_zero
  · obtain ⟨hlast, hstatus⟩ := failed_between hat
    refine h.between ?_ ?_ ?_
    · rw [hlast]
      exact hcounter
    · have hbelow : ¬(127 : Int) ≤ (failedCounter ram.faultCounter).toInt :=
        fun hle => hat (Int8.le_iff_toInt_le.mpr hle)
      have habove : (-128 : Int) < (failedCounter ram.faultCounter).toInt := by
        rw [hcounter]
        show _ < min 127 (ram.faultCounter.toInt + 16)
        omega
      rw [hlast]
      exact isExtreme_between habove (Int.not_le.mp hbelow)
    · intro mask hmask
      rcases hstatus with hsame | hpending
      · rw [hsame]
      · rw [hpending, or_and_of_disjoint hmask]

theorem DebounceLaws.passed_step (h : DebounceLaws reports ram) :
    DebounceLaws (reports ++ [false]) (debounceFaultPassed ram) := by
  have hcounter := passedCounter_toInt ram.faultCounter
  have hhigh := ram.faultCounter.toInt_lt
  -- the counter has come to its lower extreme, or no bit has changed
  by_cases hat : passedCounter ram.faultCounter ≤ -128
  · obtain ⟨hlast, hstatus⟩ := passed_extreme hat
    have hone : passedCounter ram.faultCounter = -128 :=
      Int8.le_antisymm hat (Int8.le_iff_toInt_le.mpr (passedCounter ram.faultCounter).le_toInt)
    have htest := passed_bits ram.statusByte dtcStatusTestFailed (.inl (by decide))
    have hmask := passed_bits ram.statusByte dtcCompletedMask (.inr (by decide))
    have hclear : (debounceFaultPassed ram).statusByte &&& dtcStatusTestFailed = 0 ∧
        (debounceFaultPassed ram).statusByte &&& dtcCompletedMask = 0 := by
      rcases hstatus with hbyte | hbyte
      · rw [hbyte]
        exact ⟨htest, hmask⟩
      · -- the confirmed bit is neither of them
        rw [hbyte]
        exact ⟨(and_not_and (by decide) _).trans htest, (and_not_and (by decide) _).trans hmask⟩
    refine h.extreme ?_ ?_ ?_ ?_ ?_
    · rw [hlast, ← hone]
      exact hcounter
    · rw [hlast]
      rfl
    · rw [hlast]
      exact iff_of_false (fun hset => hset hclear.1) (by decide)
    · exact fun hset => absurd hclear.1 hset
    · exact hclear.2
  · obtain ⟨hlast, hstatus⟩ := passed_between hat
    refine h.between ?_ ?_ ?_
    · rw [hlast]
      exact hcounter
    · have habove : ¬(passedCounter ram.faultCounter).toInt ≤ -128 :=
        fun hle => hat (Int8.le_iff_toInt_le.mpr hle)
      have hbelow : (passedCounter ram.faultCounter).toInt < 127 := by
        rw [hcounter]
        show max (-128) (ram.faultCounter.toInt - 16) < _
        omega
      rw [hlast]
      exact isExtreme_between (Int.not_le.mp habove) hbelow
    · intro mask _
      rw [hstatus]

end Laws

/-! ## Runs -/

/-- What moves the counter. -/
inductive DebounceCall where
  | reportEvent (dtc : UInt32) (failed : Bool)
  | clear (groupOfDtc : UInt32)

/-- The table, with the store and the world behind it. -/
def debounceStep (s : UdsDtcAppStorage × UdsParamStore ω × ω) :
    DebounceCall → UdsDtcAppStorage × UdsParamStore ω × ω
  | .reportEvent dtc failed => (udsDtcAppReportEvent s.1 s.2 dtc failed).2
  | .clear groupOfDtc => (udsDtcAppClear s.1 s.2 groupOfDtc).2

/-- The reports of the code since its record was last cleared. -/
def sinceClear (app : UdsDtcAppStorage) (dtc : UInt32) : List DebounceCall → List Bool :=
  run (fun reports call =>
    match call with
    | .reportEvent reported failed => if reported = dtc then reports ++ [failed] else reports
    | .clear group => if Designated app group dtc then [] else reports) []

/-- The status of a code's record. -/
def statusOf (app : UdsDtcAppStorage) (dtc : UInt32) : Option UdsDtcRamStatus :=
  (dtcEntryOf app dtc).map DtcEntry.status

section Runs

variable {app : UdsDtcAppStorage}

theorem designated_congr {app' : UdsDtcAppStorage} (h : tableNumbers app' = tableNumbers app)
    (group dtc : UInt32) : Designated app' group dtc ↔ Designated app group dtc := by
  unfold Designated
  rw [h]

theorem map_status_mapStatus (f : UdsDtcRamStatus → UdsDtcRamStatus) (e : Option DtcEntry) :
    (e.map (DtcEntry.mapStatus f)).map DtcEntry.status = (e.map DtcEntry.status).map f := by
  rw [Option.map_map, Option.map_map]
  refine congrArg (Option.map · e) (funext fun entry => ?_)
  exact entry.status_mapStatus f

/-- A report changes the record of its code. -/
theorem statusOf_reportEvent (h : TableSound app) (henabled : app.dtcSettingEnabled = true)
    (w : UdsParamStore ω × ω) (reported dtc : UInt32) (failed : Bool) :
    statusOf (udsDtcAppReportEvent app w reported failed).2.1 dtc
      = if reported = dtc then
          (statusOf app dtc).map (if failed then debounceFaultFailed else debounceFaultPassed)
        else statusOf app dtc := by
  unfold udsDtcAppReportEvent updateRecord
  rw [if_neg (not_not.mpr henabled)]
  cases hfound : findDtcIndex app reported with
  | some idx =>
    show (dtcEntryOf (setRamStatus app idx _) dtc).map _ = _
    rw [dtcEntryOf_setRamStatus h.static hfound]
    by_cases heq : reported = dtc
    · rw [if_pos heq.symm, if_pos heq, map_status_mapStatus, heq]
      rfl
    · rw [if_neg fun h => heq h.symm, if_neg heq]
      rfl
  | none =>
    by_cases heq : reported = dtc
    · have hnone : dtcEntryOf app dtc = none := heq ▸ (findDtcIndex_none h.static).mp hfound
      rw [if_pos heq]
      unfold statusOf
      rw [hnone]
      rfl
    · rw [if_neg heq]

/-- A clear resets the record, if its group designates the code. -/
theorem statusOf_clear (h : TableSound app) (w : UdsParamStore ω × ω) (group dtc : UInt32) :
    statusOf (udsDtcAppClear app w group).2.1 dtc
      = if Designated app group dtc then (statusOf app dtc).map clearSingleRamRecord
        else statusOf app dtc := by
  unfold statusOf dtcEntryOf
  rw [(clearsDesignated h w group).records, lookup_map (resetIf_number _)]
  cases hfound : lookup DtcEntry.number (entries app) dtc with
  | none => exact (ite_self _).symm
  | some e =>
    have hnumber : e.number = dtc := (lookup_some hfound).2
    unfold resetIf
    show some (DtcEntry.status (if _ then _ else _)) = _
    rw [hnumber]
    by_cases hdesignated : Designated app group dtc
    · rw [if_pos hdesignated, if_pos hdesignated]
      exact congrArg some (e.status_mapStatus _)
    · rw [if_neg hdesignated, if_neg hdesignated]
      rfl

/-! ## What stays as it is -/

/-- Neither a report nor a clear adds a record or changes the setting. -/
structure SameCodes (app app' : UdsDtcAppStorage) : Prop where
  sound : TableSound app'
  setting : app'.dtcSettingEnabled = app.dtcSettingEnabled
  numbers : tableNumbers app' = tableNumbers app

theorem reportEvent_sameCodes (h : TableSound app) (w : UdsParamStore ω × ω) (dtc : UInt32)
    (failed : Bool) : SameCodes app (udsDtcAppReportEvent app w dtc failed).2.1 := by
  have hsound : TableSound (udsDtcAppReportEvent app w dtc failed).2.1 :=
    (udsDtcAppReportEvent_edits app w dtc failed).sound h
  refine ⟨hsound, ?_, ?_⟩
  · unfold udsDtcAppReportEvent updateRecord
    split
    next => rfl
    next =>
      split
      next => exact setRamStatus_dtcSettingEnabled ..
      next => rfl
  · unfold udsDtcAppReportEvent updateRecord
    split
    next => rfl
    next =>
      split
      next => exact tableNumbers_setRamStatus h ..
      next => rfl

theorem clear_sameCodes (h : TableSound app) (w : UdsParamStore ω × ω) (group : UInt32) :
    SameCodes app (udsDtcAppClear app w group).2.1 := by
  have hsound : TableSound (udsDtcAppClear app w group).2.1 :=
    (udsDtcAppClear_edits app w group).sound h
  have hcleared := clearsDesignated h w group
  refine ⟨hsound, hcleared.setting, ?_⟩
  have hkey : DtcEntry.number ∘ resetIf (Designated app group) = DtcEntry.number :=
    funext fun e => resetIf_number _ e
  have hnumbers := numbers_eq hsound.static
  rw [hcleared.records, List.map_map, hkey, numbers_eq h.static] at hnumbers
  exact hnumbers.symm

end Runs

/-! ## The laws along a run -/

section Laws

variable {app : UdsDtcAppStorage} {dtc : UInt32}

theorem sinceClear_reportEvent (calls : List DebounceCall) (reported : UInt32) (failed : Bool) :
    sinceClear app dtc (calls ++ [.reportEvent reported failed])
      = if reported = dtc then sinceClear app dtc calls ++ [failed]
        else sinceClear app dtc calls :=
  run_concat ..

theorem sinceClear_clear (calls : List DebounceCall) (group : UInt32) :
    sinceClear app dtc (calls ++ [.clear group])
      = if Designated app group dtc then [] else sinceClear app dtc calls :=
  run_concat ..

/-- The laws hold of the record after the calls, and the table has the codes that it had. -/
structure LawfulAfter (app : UdsDtcAppStorage) (dtc : UInt32) (calls : List DebounceCall)
    (s : UdsDtcAppStorage × UdsParamStore ω × ω) : Prop where
  codes : SameCodes app s.1
  lawful : ∃ ram, statusOf s.1 dtc = some ram ∧ DebounceLaws (sinceClear app dtc calls) ram

theorem SameCodes.trans {app' app'' : UdsDtcAppStorage} (h : SameCodes app app')
    (h' : SameCodes app' app'') : SameCodes app app'' :=
  ⟨h'.sound, h'.setting.trans h.setting, h'.numbers.trans h.numbers⟩

theorem LawfulAfter.step {calls : List DebounceCall}
    {s : UdsDtcAppStorage × UdsParamStore ω × ω} (henabled : app.dtcSettingEnabled = true)
    (h : LawfulAfter app dtc calls s) (call : DebounceCall) :
    LawfulAfter app dtc (calls ++ [call]) (debounceStep s call) := by
  obtain ⟨hcodes, ram, hram, hlaws⟩ := h
  cases call with
  | reportEvent reported failed =>
    -- a report on another code leaves the record and its reports alone
    have hnext := statusOf_reportEvent hcodes.sound (hcodes.setting.trans henabled) s.2 reported
      dtc failed
    refine ⟨hcodes.trans (reportEvent_sameCodes hcodes.sound s.2 reported failed), ?_⟩
    rw [sinceClear_reportEvent]
    by_cases heq : reported = dtc
    · rw [if_pos heq, hram] at hnext
      rw [if_pos heq]
      cases failed with
      | true => exact ⟨_, hnext, hlaws.failed_step⟩
      | false => exact ⟨_, hnext, hlaws.passed_step⟩
    · rw [if_neg heq, hram] at hnext
      rw [if_neg heq]
      exact ⟨ram, hnext, hlaws⟩
  | clear group =>
    -- which codes a group designates depends on the table's numbers, and no call changes these
    have hnext := statusOf_clear hcodes.sound s.2 group dtc
    refine ⟨hcodes.trans (clear_sameCodes hcodes.sound s.2 group), ?_⟩
    rw [sinceClear_clear]
    have hsame := designated_congr hcodes.numbers group dtc
    by_cases hdesignated : Designated app group dtc
    · rw [if_pos (hsame.mpr hdesignated), hram] at hnext
      rw [if_pos hdesignated]
      exact ⟨_, hnext, .cleared (clearSingleRamRecord_cleared ram)⟩
    · rw [if_neg fun h => hdesignated (hsame.mp h), hram] at hnext
      rw [if_neg hdesignated]
      exact ⟨ram, hnext, hlaws⟩

/-- Whatever is reported and cleared, a record that starts cleared obeys the laws after every
call. -/
theorem debounce_laws (h : DtcReachable ω app) (henabled : app.dtcSettingEnabled = true)
    {ram : UdsDtcRamStatus} (hram : statusOf app dtc = some ram) (hcleared : RecordCleared ram)
    (w : UdsParamStore ω × ω) (calls : List DebounceCall) :
    ∃ ram', statusOf (run debounceStep (app, w) calls).1 dtc = some ram' ∧
      DebounceLaws (sinceClear app dtc calls) ram' := by
  have hstart : LawfulAfter app dtc [] (app, w) :=
    ⟨⟨h.bounded.valid.table, rfl, rfl⟩, ram, hram, .cleared hcleared⟩
  have hrun : LawfulAfter app dtc calls (run debounceStep (app, w) calls) :=
    (along_true calls (app, w)).history hstart fun _ call hlawful _ =>
      hlawful.step henabled call
  exact hrun.lawful

theorem debounce_laws_init :
    let world := (dtcStart dtcFlash dtcFlash_accepted).world
    let calls := [.reportEvent 0xF00614 true, .clear 0xC00000, .reportEvent 0xF00614 false]
    ∃ ram, statusOf (run debounceStep (udsDtcAppInit, world) calls).1 0xF00614 = some ram ∧
      DebounceLaws (sinceClear udsDtcAppInit 0xF00614 calls) ram := by
  intro world calls
  have hstart : statusOf udsDtcAppInit 0xF00614 = some (initialStatus (oemDtc 0xF00614 0x80)) := rfl
  exact debounce_laws .init rfl hstart ⟨rfl, rfl⟩ world calls

end Laws

end UdsIsoTp.App
