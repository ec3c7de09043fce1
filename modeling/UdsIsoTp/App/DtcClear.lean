import UdsIsoTp.App.DtcForeign

/-!
# Clearing

`uds_dtc_app_clear` takes a group: all codes, one of the four ranges of codes, or a single
code. A number can be both, as the number that stands for a range may be a code of the table;
then it is the range if that has members, and else the code (`Designated`). Exactly the
designated records are reset, and a group that designates none changes nothing.
-/

namespace UdsIsoTp.App

open UdsIsoTp.Flash UdsIsoTp.Uds Keyed

variable {ω : Type}

/-! ## What a group designates -/

/-- The four ranges of numbers. -/
inductive DtcRange where
  | powertrain
  | chassis
  | body
  | network

namespace DtcRange

/-- The number lies in the range. -/
def contains : DtcRange → UInt32 → Bool
  | .powertrain, dtc => dtc < 0x400000
  | .chassis, dtc => 0x400000 ≤ dtc && dtc < 0x800000
  | .body, dtc => 0x800000 ≤ dtc && dtc < 0xC00000
  | .network, dtc => 0xC00000 ≤ dtc

/-- The two groups that stand for a range. -/
def groups : DtcRange → UInt32 × UInt32
  | .powertrain => (0x000000, 0x00FF00)
  | .chassis => (0x400000, 0x40FF00)
  | .body => (0x800000, 0x80FF00)
  | .network => (0xC00000, 0xC0FF00)

/-- All four. -/
def all : List DtcRange := [.powertrain, .chassis, .body, .network]

theorem mem_all (range : DtcRange) : range ∈ all := by
  cases range <;> simp [all]

end DtcRange

/-- The group stands for a range that contains the number. The group of a request has 24 bits;
of one that has more, the low 24 name the range. -/
def inGroup (group dtc : UInt32) : Bool :=
  DtcRange.all.any fun range =>
    (group &&& 0xFFFFFF == range.groups.1 || group &&& 0xFFFFFF == range.groups.2)
      && range.contains dtc

/-- The record of the number is to be reset: all are, or those of a range with members, or the
one of the group's own number. -/
def Designated (app : UdsDtcAppStorage) (group dtc : UInt32) : Prop :=
  group = 0xFFFFFF ∨
    if (tableNumbers app).any (inGroup group) then inGroup group dtc = true else dtc = group

instance (app : UdsDtcAppStorage) (group dtc : UInt32) : Decidable (Designated app group dtc) :=
  inferInstanceAs (Decidable (_ ∨ _))

/-- The entry, reset if its number is one of those. -/
def resetIf (p : UInt32 → Prop) [DecidablePred p] (e : DtcEntry) : DtcEntry :=
  if p e.number then e.mapStatus clearSingleRamRecord else e

theorem resetIf_number (p : UInt32 → Prop) [DecidablePred p] (e : DtcEntry) :
    (resetIf p e).number = e.number := by
  unfold resetIf
  split
  next => exact e.number_mapStatus _
  next => rfl

/-! ## Groups in the code -/

theorem inGroup_iff {group dtc : UInt32} :
    inGroup group dtc = true ↔ ∃ range : DtcRange,
      (group &&& 0xFFFFFF = range.groups.1 ∨ group &&& 0xFFFFFF = range.groups.2) ∧
        range.contains dtc = true := by
  unfold inGroup
  rw [List.any_eq_true]
  constructor
  · rintro ⟨range, -, h⟩
    rw [Bool.and_eq_true, Bool.or_eq_true, beq_iff_eq, beq_iff_eq] at h
    exact ⟨range, h⟩
  · rintro ⟨range, h⟩
    refine ⟨range, range.mem_all, ?_⟩
    rwa [Bool.and_eq_true, Bool.or_eq_true, beq_iff_eq, beq_iff_eq]

theorem dtcMatchesGroupMask_iff {dtc groupHigh : UInt32} :
    dtcMatchesGroupMask dtc groupHigh = true ↔ ∃ range : DtcRange,
      groupHigh = range.groups.1 ∧ range.contains dtc = true := by
  unfold dtcMatchesGroupMask
  simp only [Bool.or_eq_true, Bool.and_eq_true (decide _), decide_eq_true_iff]
  constructor
  · rintro (((h | h) | h) | h)
    · exact ⟨.powertrain, h.1, decide_eq_true h.2⟩
    · exact ⟨.chassis, h.1, by simpa [DtcRange.contains] using h.2⟩
    · exact ⟨.body, h.1, by simpa [DtcRange.contains] using h.2⟩
    · exact ⟨.network, h.1, decide_eq_true h.2⟩
  · rintro ⟨range, hhigh, hdtc⟩
    cases range with
    | powertrain => exact .inl (.inl (.inl ⟨hhigh, of_decide_eq_true hdtc⟩))
    | chassis => exact .inl (.inl (.inr ⟨hhigh, by simpa [DtcRange.contains] using hdtc⟩))
    | body => exact .inl (.inr ⟨hhigh, by simpa [DtcRange.contains] using hdtc⟩)
    | network => exact .inr ⟨hhigh, of_decide_eq_true hdtc⟩

/-- The 24 bits are put together from the parts that the code looks at. -/
theorem group_parts (group : UInt32) :
    group &&& 0xFFFFFF = (group &&& 0xFF0000) ||| (group &&& 0x00FFFF) := by
  refine UInt32.toNat_inj.mp ?_
  rw [UInt32.toNat_or, UInt32.toNat_and, UInt32.toNat_and, UInt32.toNat_and,
    ← Nat.and_or_distrib_left]
  rfl

theorem group_low (group : UInt32) :
    group &&& 0x00FFFF = (group &&& 0xFFFFFF) &&& 0x00FFFF := by
  rw [UInt32.and_assoc]
  rfl

theorem group_high (group : UInt32) :
    group &&& 0xFF0000 = (group &&& 0xFFFFFF) &&& 0xFF0000 := by
  rw [UInt32.and_assoc]
  rfl

/-- The two groups of a range are those with its first byte that the code takes for masks. -/
theorem groups_iff (group : UInt32) (range : DtcRange) :
    (group &&& 0xFFFFFF = range.groups.1 ∨ group &&& 0xFFFFFF = range.groups.2) ↔
      (group &&& 0x00FFFF = 0 ∨ group &&& 0x00FFFF = 0x00FF00) ∧
        group &&& 0xFF0000 = range.groups.1 := by
  have hparts := group_parts group
  constructor
  · rw [group_low, group_high]
    rintro (hgroup | hgroup)
    · rw [hgroup]
      cases range <;> exact ⟨.inl (by decide), by decide⟩
    · rw [hgroup]
      cases range <;> exact ⟨.inr (by decide), by decide⟩
  · rintro ⟨hlow | hlow, hhigh⟩
    · rw [hlow, hhigh] at hparts
      refine .inl (hparts.trans ?_)
      cases range <;> decide
    · rw [hlow, hhigh] at hparts
      refine .inr (hparts.trans ?_)
      cases range <;> decide

/-- What the code asks of a number, where the group may be a mask. -/
theorem matching_iff (group dtc : UInt32) :
    inGroup group dtc = true ↔
      (group &&& 0x00FFFF = 0 ∨ group &&& 0x00FFFF = 0x00FF00) ∧
        dtcMatchesGroupMask dtc (group &&& 0xFF0000) = true := by
  rw [inGroup_iff, dtcMatchesGroupMask_iff]
  constructor
  · rintro ⟨range, hnames, hdtc⟩
    obtain ⟨hmask, hhigh⟩ := (groups_iff group range).mp hnames
    exact ⟨hmask, range, hhigh, hdtc⟩
  · rintro ⟨hmask, range, hhigh, hdtc⟩
    exact ⟨range, (groups_iff group range).mpr ⟨hmask, hhigh⟩, hdtc⟩

/-! ## The loops -/

section Loops

variable {app : UdsDtcAppStorage}

/-- The body of the loops. -/
def clearStep (selected : UInt32 → Bool) (app : UdsDtcAppStorage) (i : Nat) : UdsDtcAppStorage :=
  match getDtcRecord app i with
  | some rec => if selected rec.dtcNumber then setRamStatus app i clearSingleRamRecord else app
  | none => app

/-- A step resets the entry at its index, if its number is selected, and no other. -/
theorem clearStep_entry (h : TableSound app) (selected : UInt32 → Bool) (i j : Nat) :
    (entries (clearStep selected app i))[j]?
      = if i = j then (entries app)[j]?.map (resetIf fun dtc => selected dtc = true)
        else (entries app)[j]? := by
  unfold clearStep
  rw [getDtcRecord_eq h.static]
  cases hentry : (entries app)[i]? with
  | none =>
    by_cases hij : i = j
    · rw [if_pos hij, ← hij, hentry]
      exact hentry
    · rw [if_neg hij]
      rfl
  | some e =>
    -- the loop asks the record that it has read, which has the entry's number
    show (entries (if selected e.view.dtcNumber = true then _ else app))[j]? = _
    rw [e.view_dtcNumber]
    by_cases hselected : selected e.number = true
    · rw [if_pos hselected, entries_setRamStatus h.static, List.getElem?_modify]
      by_cases hij : i = j
      · have hreset : resetIf (fun dtc => selected dtc = true) e
            = e.mapStatus clearSingleRamRecord := if_pos hselected
        rw [if_pos hij, ← hij, hentry]
        show some (if i = i then e.mapStatus clearSingleRamRecord else e) = some _
        rw [if_pos rfl, hreset]
      · have hsame : (fun a : DtcEntry => if i = j then a.mapStatus clearSingleRamRecord else a)
            = id := funext fun a => if_neg hij
        rw [if_neg hij, hsame]
        exact Option.map_id' ..
    · rw [if_neg hselected]
      by_cases hij : i = j
      · have hkept : resetIf (fun dtc => selected dtc = true) e = e := if_neg hselected
        rw [if_pos hij, ← hij, hentry]
        exact congrArg some hkept.symm
      · rw [if_neg hij]

theorem clearStep_sound (h : TableSound app) (selected : UInt32 → Bool) (i : Nat) :
    TableSound (clearStep selected app i) := by
  unfold clearStep
  split
  next =>
    split
    next => exact h.setRamStatus i _
    next => exact h
  next => exact h

/-- The loop has reset the selected entries below its index. -/
theorem clearLoop_entry (h : TableSound app) (selected : UInt32 → Bool) (n j : Nat) :
    TableSound ((List.range n).foldl (clearStep selected) app) ∧
      (entries ((List.range n).foldl (clearStep selected) app))[j]?
        = if j < n then (entries app)[j]?.map (resetIf fun dtc => selected dtc = true)
          else (entries app)[j]? := by
  induction n with
  | zero => exact ⟨h, (if_neg (Nat.not_lt_zero j)).symm⟩
  | succ n ih =>
    rw [List.range_succ, List.foldl_append]
    refine ⟨clearStep_sound ih.1 selected n, ?_⟩
    show (entries (clearStep selected _ n))[j]? = _
    rw [clearStep_entry ih.1, ih.2]
    by_cases hnj : n = j
    · rw [if_pos hnj, if_neg (by omega), if_pos (by omega)]
    · rw [if_neg hnj]
      exact if_congr (by omega) rfl rfl

theorem clearWhere_entries (h : TableSound app) (selected : UInt32 → Bool) :
    entries (clearWhere app selected)
      = (entries app).map (resetIf fun dtc => selected dtc = true) := by
  refine List.ext_getElem? fun j => ?_
  have hloop : clearWhere app selected
      = (List.range (getTotalRecordCount app)).foldl (clearStep selected) app := rfl
  rw [hloop, (clearLoop_entry h selected _ j).2, List.getElem?_map, ← length_entries h.static]
  by_cases hj : j < (entries app).length
  · rw [if_pos hj]
  · rw [if_neg hj, List.getElem?_eq_none (Nat.le_of_not_lt hj)]
    rfl

end Loops

/-! ## What the function does -/

section Clear

variable {app : UdsDtcAppStorage}

theorem setRamStatus_dtcSettingEnabled (app : UdsDtcAppStorage) (i : Nat)
    (f : UdsDtcRamStatus → UdsDtcRamStatus) :
    (setRamStatus app i f).dtcSettingEnabled = app.dtcSettingEnabled := by
  unfold setRamStatus
  split
  next => rfl
  next => rfl

theorem setRamStatus_nvmAttached (app : UdsDtcAppStorage) (i : Nat)
    (f : UdsDtcRamStatus → UdsDtcRamStatus) :
    (setRamStatus app i f).nvmAttached = app.nvmAttached := by
  unfold setRamStatus
  split
  next => rfl
  next => rfl

theorem clearWhere_switches (app : UdsDtcAppStorage) (selected : UInt32 → Bool) :
    (clearWhere app selected).dtcSettingEnabled = app.dtcSettingEnabled ∧
      (clearWhere app selected).nvmAttached = app.nvmAttached := by
  unfold clearWhere
  refine List.foldlRecOn _ _ (motive := fun out : UdsDtcAppStorage =>
    out.dtcSettingEnabled = app.dtcSettingEnabled ∧ out.nvmAttached = app.nvmAttached)
    ⟨rfl, rfl⟩ fun out hout i _ => ?_
  split
  next =>
    split
    next =>
      rw [setRamStatus_dtcSettingEnabled, setRamStatus_nvmAttached]
      exact hout
    next => exact hout
  next => exact hout

/-- The question that the loop over a range asks is whether the range has members. -/
theorem any_matching_iff (h : TableSound app) (group : UInt32) :
    ((group &&& 0x00FFFF = 0 ∨ group &&& 0x00FFFF = 0x00FF00) ∧
        ((allRecords app).any fun rec => dtcMatchesGroupMask rec.dtcNumber (group &&& 0xFF0000))
          = true) ↔
      (tableNumbers app).any (inGroup group) = true := by
  have hnumbers : tableNumbers app = (allRecords app).map UdsDtcAppRecord.dtcNumber := by
    rw [allRecords_numbers h.static, numbers_eq h.static]
    rfl
  rw [hnumbers, List.any_map, List.any_eq_true, List.any_eq_true]
  constructor
  · rintro ⟨hmask, rec, hrec, hmatch⟩
    exact ⟨rec, hrec, (matching_iff group _).mpr ⟨hmask, hmatch⟩⟩
  · rintro ⟨rec, hrec, hin⟩
    obtain ⟨hmask, hmatch⟩ := (matching_iff group _).mp hin
    exact ⟨hmask, rec, hrec, hmatch⟩

theorem map_resetIf_congr {p q : UInt32 → Prop} [DecidablePred p] [DecidablePred q]
    (h : ∀ dtc, p dtc ↔ q dtc) (l : List DtcEntry) : l.map (resetIf p) = l.map (resetIf q) :=
  List.map_congr_left fun e _ => if_congr (h e.number) rfl rfl

theorem mem_tableNumbers_iff (h : TableSound app) (n : UInt32) :
    n ∈ tableNumbers app ↔ ∃ e ∈ entries app, e.number = n := by
  unfold tableNumbers
  rw [← numbers_eq h.static, List.mem_map]

/-- What a call is to leave behind. -/
structure ClearsDesignated (app : UdsDtcAppStorage) (w : UdsParamStore ω × ω) (group : UInt32)
    (out : UdsCallbackResult × UdsDtcAppStorage × UdsParamStore ω × ω) : Prop where
  /-- The records are those from before, the designated ones reset. -/
  records : entries out.2.1 = (entries app).map (resetIf (Designated app group))
  setting : out.2.1.dtcSettingEnabled = app.dtcSettingEnabled
  attached : out.2.1.nvmAttached = app.nvmAttached
  accepted : out.1 = .ok ↔ group = 0xFFFFFF ∨ ∃ e ∈ entries app, Designated app group e.number
  refused : out.1 ≠ .ok → out = (.outOfRange, app, w)

theorem designated_range {group : UInt32} (hall : group ≠ 0xFFFFFF)
    (hmembers : (tableNumbers app).any (inGroup group) = true) (dtc : UInt32) :
    Designated app group dtc ↔ inGroup group dtc = true := by
  unfold Designated
  rw [if_pos hmembers]
  exact or_iff_right hall

theorem designated_code {group : UInt32} (hall : group ≠ 0xFFFFFF)
    (hnone : ¬(tableNumbers app).any (inGroup group) = true) (dtc : UInt32) :
    Designated app group dtc ↔ dtc = group := by
  unfold Designated
  rw [if_neg hnone]
  exact or_iff_right hall

/-- The record of a code that is in the table is reset. -/
theorem clearCode_records (h : TableSound app) {group : UInt32} {idx : Nat}
    (hidx : findDtcIndex app group = some idx) :
    entries (setRamStatus app idx clearSingleRamRecord)
      = (entries app).map (resetIf fun dtc => dtc = group) := by
  rw [findDtcIndex_eq h.static] at hidx
  rw [entries_setRamStatus h.static, modify_index h.distinct hidx]
  rfl

/-- All records. -/
theorem clearsAll (h : TableSound app) (w : UdsParamStore ω × ω) :
    ClearsDesignated app w 0xFFFFFF (udsDtcAppClear app w 0xFFFFFF) := by
  have hcall : udsDtcAppClear app w 0xFFFFFF
      = (.ok, savedWith (clearWhere app fun _ => true) w) := rfl
  rw [hcall]
  obtain ⟨hsetting, hattached⟩ := clearWhere_switches app fun _ => true
  constructor
  case records =>
    show entries (clearWhere app fun _ => true) = _
    rw [clearWhere_entries h]
    exact map_resetIf_congr (fun dtc => iff_of_true rfl (.inl rfl)) _
  case setting => exact hsetting
  case attached => exact hattached
  case accepted => exact iff_of_true rfl (.inl rfl)
  case refused => exact fun hrefused => absurd rfl hrefused

/-- The members of a range. -/
theorem clearsRange (h : TableSound app) (w : UdsParamStore ω × ω) {group : UInt32}
    (hall : group ≠ 0xFFFFFF) (hmembers : (tableNumbers app).any (inGroup group) = true) :
    ClearsDesignated app w group (udsDtcAppClear app w group) := by
  have hasked := (any_matching_iff h group).mpr hmembers
  have hcall : udsDtcAppClear app w group
      = (.ok, savedWith (clearWhere app fun dtc =>
          dtcMatchesGroupMask dtc (group &&& 0xFF0000)) w) := by
    unfold udsDtcAppClear
    rw [if_neg hall]
    exact if_pos hasked
  rw [hcall]
  obtain ⟨hsetting, hattached⟩ := clearWhere_switches app fun dtc =>
    dtcMatchesGroupMask dtc (group &&& 0xFF0000)
  constructor
  case records =>
    show entries (clearWhere app _) = _
    rw [clearWhere_entries h]
    refine map_resetIf_congr (fun dtc => ?_) _
    rw [designated_range hall hmembers, matching_iff]
    exact (and_iff_right hasked.1).symm
  case setting => exact hsetting
  case attached => exact hattached
  case accepted =>
    refine iff_of_true rfl (.inr ?_)
    obtain ⟨n, hn, hin⟩ := List.any_eq_true.mp hmembers
    obtain ⟨e, he, rfl⟩ := (mem_tableNumbers_iff h n).mp hn
    exact ⟨e, he, (designated_range hall hmembers _).mpr hin⟩
  case refused => exact fun hrefused => absurd rfl hrefused

/-- A single code, in the table or not. -/
theorem clearsCode (h : TableSound app) (w : UdsParamStore ω × ω) {group : UInt32}
    (hall : group ≠ 0xFFFFFF) (hnone : ¬(tableNumbers app).any (inGroup group) = true) :
    ClearsDesignated app w group (udsDtcAppClear app w group) := by
  have hunasked := fun hasked => hnone ((any_matching_iff h group).mp hasked)
  have hrecords := map_resetIf_congr (designated_code hall hnone) (entries app)
  cases hfound : findDtcIndex app group with
  | some idx =>
    have hcall : udsDtcAppClear app w group
        = (.ok, savedWith (setRamStatus app idx clearSingleRamRecord) w) := by
      unfold udsDtcAppClear
      rw [if_neg hall]
      refine (if_neg hunasked).trans ?_
      rw [hfound]
    rw [hcall]
    have hknown : group ∈ tableNumbers app := by
      by_contra hnew
      have hmissing := (findDtcIndex_none_iff h.static group).mpr hnew
      exact Option.some_ne_none idx (hfound.symm.trans hmissing)
    constructor
    case records => exact (clearCode_records h hfound).trans hrecords.symm
    case setting => exact setRamStatus_dtcSettingEnabled ..
    case attached => exact setRamStatus_nvmAttached ..
    case accepted =>
      refine iff_of_true rfl (.inr ?_)
      obtain ⟨e, he, hnumber⟩ := (mem_tableNumbers_iff h group).mp hknown
      exact ⟨e, he, (designated_code hall hnone _).mpr hnumber⟩
    case refused => exact fun hrefused => absurd rfl hrefused
  | none =>
    have hcall : udsDtcAppClear app w group = (.outOfRange, app, w) := by
      unfold udsDtcAppClear
      rw [if_neg hall]
      refine (if_neg hunasked).trans ?_
      rw [hfound]
    rw [hcall]
    -- no entry has the number, so none would be reset
    have hunknown : ¬∃ e ∈ entries app, e.number = group := by
      rw [← mem_tableNumbers_iff h]
      exact (findDtcIndex_none_iff h.static group).mp hfound
    constructor
    case records =>
      rw [hrecords]
      refine (List.map_id' _).symm.trans (List.map_congr_left fun e he => ?_)
      exact (if_neg fun hnumber => hunknown ⟨e, he, hnumber⟩).symm
    case setting => rfl
    case attached => rfl
    case accepted =>
      refine iff_of_false UdsCallbackResult.noConfusion ?_
      rintro (heq | ⟨e, he, hdesignated⟩)
      · exact hall heq
      · exact hunknown ⟨e, he, (designated_code hall hnone _).mp hdesignated⟩
    case refused => exact fun _ => rfl

theorem clearsDesignated (h : TableSound app) (w : UdsParamStore ω × ω) (group : UInt32) :
    ClearsDesignated app w group (udsDtcAppClear app w group) := by
  by_cases hall : group = 0xFFFFFF
  · subst hall
    exact clearsAll h w
  · by_cases hmembers : (tableNumbers app).any (inGroup group) = true
    · exact clearsRange h w hall hmembers
    · exact clearsCode h w hall hmembers

/-- Whatever the table and the group: the designated records are reset and nothing else is
changed, and a group that designates no record is refused. -/
theorem clear_exact (h : DtcReachable ω app) (w : UdsParamStore ω × ω) (group : UInt32) :
    ClearsDesignated app w group (udsDtcAppClear app w group) :=
  clearsDesignated h.bounded.valid.table w group

theorem clear_exact_init :
    let world := (dtcStart dtcFlash dtcFlash_accepted).world
    ClearsDesignated udsDtcAppInit world 0x00FF00 (udsDtcAppClear udsDtcAppInit world 0x00FF00) :=
  clear_exact .init _ _

-- `0xC10000` is a code, and has a mask's low bytes; `0xC00000` is a range.
example : Designated udsDtcAppInit 0xC10000 0xC10000 ∧ ¬Designated udsDtcAppInit 0xC10000 0xD00616 ∧
    Designated udsDtcAppInit 0xC00000 0xD00616 := by
  decide +kernel

end Clear

end UdsIsoTp.App
