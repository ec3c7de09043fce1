import Mathlib.Logic.Function.Iterate
import UdsIsoTp.Flash.FlashFsm

/-!
# How far a range erasure goes

The cursor and the end of a range are 32-bit numbers, and the erasure is done once the cursor has
reached the end. That is after the last sector of the range only if neither of them has wrapped
before (`eraseCovers_iff`). An end that has wrapped stops the erasure after one sector, and a
cursor that has wrapped over the end goes on from the bottom of the address space.
-/

namespace UdsIsoTp.Flash

variable {ω : Type}

/-- The number of sectors in a range. -/
def eraseCount (length sectorSize : Nat) : Nat := (length + sectorSize - 1) / sectorSize

/-- They are those that begin before its end. -/
theorem lt_eraseCount_iff {length sectorSize k : Nat} (h : 0 < sectorSize) :
    k < eraseCount length sectorSize ↔ k * sectorSize < length := by
  unfold eraseCount
  rw [Nat.lt_iff_add_one_le, Nat.le_div_iff_mul_le h, Nat.succ_mul]
  omega

/-- The last of them reaches up to the range's end, or over it. -/
theorem exists_last_sector {length sectorSize : Nat} (hlength : 0 < length)
    (hstep : 0 < sectorSize) :
    ∃ last, eraseCount length sectorSize = last + 1 ∧ last * sectorSize < length ∧
      length ≤ last * sectorSize + sectorSize := by
  have hpos : 0 < eraseCount length sectorSize :=
    (lt_eraseCount_iff hstep).mpr (by rwa [Nat.zero_mul])
  obtain ⟨last, hlast⟩ := Nat.exists_eq_add_one.mpr hpos
  have hbegins := (lt_eraseCount_iff hstep).mp (Nat.lt_of_lt_of_eq (Nat.lt_succ_self last) hlast.symm)
  have hends := mt (lt_eraseCount_iff hstep).mpr
    (Nat.not_lt.mpr (Nat.le_of_eq hlast) : ¬last + 1 < eraseCount length sectorSize)
  rw [Nat.succ_mul, Nat.not_lt] at hends
  exact ⟨last, hlast, hbegins, hends⟩

/-- So many calls of `Flash_MainFunction`. -/
def mainTimes (n : Nat) (s : FlashContext ω × ω) : FlashContext ω × ω :=
  (fun s => flashMainFunction s.1 s.2)^[n] s

/-- Calls of `Flash_MainFunction` get the range erased: the driver is asked for the beginning of
each of its sectors, in their order and each once, and then the erasure is done. -/
def EraseCovers (ctx : FlashContext (Logged ω)) (w : Logged ω)
    (startAddr length sectorSize : UInt32) : Prop :=
  ∃ (n : Nat) (addresses : List UInt32), (mainTimes n (ctx, w)).1.state = .eraseDone ∧
    (mainTimes n (ctx, w)).2.2 = w.2 ++ addresses.map (FlashEvent.erased · true) ∧
    addresses.map UInt32.toNat = (List.range (eraseCount length.toNat sectorSize.toNat)).map
      fun k => startAddr.toNat + k * sectorSize.toNat

/-- A range erasure that was accepted a moment ago, with a driver that never fails. -/
structure RangeAccepted (ctx : FlashContext (Logged ω)) (erase : FlashEraseFn ω)
    (startAddr length sectorSize : UInt32) : Prop where
  driver : ctx.eraseFn = some (notedErase erase)
  healthy : ∀ w addr, (erase w addr).1 = true
  state : ctx.state = .erase
  stop : ctx.rangeEraseEnd = startAddr + length
  cur : ctx.rangeEraseCur = startAddr
  step : ctx.rangeEraseSectorSize = sectorSize
  length_pos : length ≠ 0
  step_pos : sectorSize ≠ 0

theorem rangeAccepted_of_request {ctx ctx' : FlashContext (Logged ω)} {erase : FlashEraseFn ω}
    {startAddr length sectorSize : UInt32} (hdriver : ctx.eraseFn = some (notedErase erase))
    (hhealthy : ∀ w addr, (erase w addr).1 = true)
    (h : flashRequestRangeErase ctx startAddr length sectorSize = (true, ctx')) :
    RangeAccepted ctx' erase startAddr length sectorSize := by
  unfold flashRequestRangeErase at h
  split at h
  next => cases h
  next hpos =>
    split at h
    next => cases h
    next =>
      injection h with _ h
      subst h
      exact ⟨hdriver, hhealthy, rfl, rfl, rfl, rfl, fun h => hpos (.inl h), fun h => hpos (.inr h)⟩

/-! ## Steps -/

/-- The cursor after `k` sectors. -/
def cursor (startAddr sectorSize : UInt32) (k : Nat) : UInt32 :=
  startAddr + UInt32.ofNat k * sectorSize

theorem cursor_succ (startAddr sectorSize : UInt32) (k : Nat) :
    cursor startAddr sectorSize (k + 1) = cursor startAddr sectorSize k + sectorSize := by
  unfold cursor
  rw [UInt32.ofNat_add, UInt32.add_mul, ← UInt32.add_assoc]
  exact congrArg _ (UInt32.one_mul sectorSize)

theorem toNat_cursor (startAddr sectorSize : UInt32) (k : Nat) :
    (cursor startAddr sectorSize k).toNat
      = (startAddr.toNat + k * sectorSize.toNat) % 2 ^ 32 := by
  unfold cursor
  rw [UInt32.toNat_add, UInt32.toNat_mul, UInt32.toNat_ofNat', Nat.add_mod_mod, Nat.add_mod,
    Nat.mod_mul_mod, ← Nat.add_mod]

/-- The cursor has reached the end. -/
def Stops (startAddr length sectorSize : UInt32) (k : Nat) : Prop :=
  startAddr + length ≤ cursor startAddr sectorSize k

theorem stops_iff {startAddr length sectorSize : UInt32} {k : Nat} :
    Stops startAddr length sectorSize k ↔
      (startAddr.toNat + length.toNat) % 2 ^ 32
        ≤ (startAddr.toNat + k * sectorSize.toNat) % 2 ^ 32 := by
  unfold Stops
  rw [UInt32.le_iff_toNat_le, UInt32.toNat_add, toNat_cursor]

instance (startAddr length sectorSize : UInt32) (k : Nat) :
    Decidable (Stops startAddr length sectorSize k) :=
  inferInstanceAs (Decidable (_ ≤ _))

/-- The first `k` sectors from the start on, modulo 2^32. -/
def sectors (startAddr sectorSize : UInt32) (k : Nat) : List UInt32 :=
  (List.range k).map (cursor startAddr sectorSize)

theorem sectors_succ (startAddr sectorSize : UInt32) (k : Nat) :
    sectors startAddr sectorSize (k + 1)
      = sectors startAddr sectorSize k ++ [cursor startAddr sectorSize k] := by
  unfold sectors
  rw [List.range_succ, List.map_append]
  rfl

section Erasing

variable {ctx : FlashContext (Logged ω)} {erase : FlashEraseFn ω}
  {startAddr length sectorSize : UInt32}

/-- After `k` sectors, in the state `state`. -/
structure ErasedTo (ctx : FlashContext (Logged ω)) (erase : FlashEraseFn ω) (w : Logged ω)
    (startAddr length sectorSize : UInt32) (k : Nat) (state : FlashState)
    (s : FlashContext (Logged ω) × Logged ω) : Prop where
  driver : s.1.eraseFn = some (notedErase erase)
  state : s.1.state = state
  stop : s.1.rangeEraseEnd = startAddr + length
  cur : s.1.rangeEraseCur = cursor startAddr sectorSize k
  step : s.1.rangeEraseSectorSize = sectorSize
  log : s.2.2 = w.2 ++ (sectors startAddr sectorSize k).map (FlashEvent.erased · true)

/-- One more sector. -/
theorem ErasedTo.next {w : Logged ω} {k : Nat} {s : FlashContext (Logged ω) × Logged ω}
    (hhealthy : ∀ w addr, (erase w addr).1 = true)
    (h : ErasedTo ctx erase w startAddr length sectorSize k .erase s) :
    ErasedTo ctx erase w startAddr length sectorSize (k + 1)
      (if Stops startAddr length sectorSize (k + 1) then .eraseDone else .erase)
      (flashMainFunction s.1 s.2) := by
  obtain ⟨c, v⟩ := s
  have hcur := h.cur
  have hstep := h.step
  have hstop := h.stop
  have hlog := h.log
  have hstate := h.state
  have hdriver := h.driver
  dsimp only at hcur hstep hstop hlog hstate hdriver
  have hok := hhealthy v.1 c.rangeEraseCur
  have hnext : c.rangeEraseCur + c.rangeEraseSectorSize = cursor startAddr sectorSize (k + 1) := by
    rw [cursor_succ, hcur, hstep]
  have hmain : flashMainFunction c v = ({ c with
      rangeEraseCur := cursor startAddr sectorSize (k + 1)
      state := if Stops startAddr length sectorSize (k + 1) then .eraseDone else .erase },
      (erase v.1 c.rangeEraseCur).2, v.2 ++ [.erased c.rangeEraseCur true]) := by
    unfold flashMainFunction
    rw [hstate, hdriver]
    dsimp only [notedErase]
    rw [hok, if_neg (fun h => h rfl), hnext, hstop]
    rfl
  rw [hmain]
  refine ⟨hdriver, rfl, hstop, rfl, hstep, ?_⟩
  show v.2 ++ [.erased c.rangeEraseCur true] = _
  rw [hlog, hcur, sectors_succ, List.map_append, List.append_assoc]
  rfl

/-- A steady state stays as it is. -/
theorem flashMainFunction_done {c : FlashContext ω} {w : ω} (h : c.state = .eraseDone) :
    flashMainFunction c w = (c, w) := by
  unfold flashMainFunction
  rw [h]

theorem mainTimes_succ (n : Nat) (s : FlashContext ω × ω) :
    mainTimes (n + 1) s
      = flashMainFunction (mainTimes n s).1 (mainTimes n s).2 :=
  Function.iterate_succ_apply' ..

/-- As long as the cursor has not reached the end, one sector a call. -/
theorem erased_while (h : RangeAccepted ctx erase startAddr length sectorSize) (w : Logged ω)
    {n : Nat} (hgoing : ∀ k, 1 ≤ k → k ≤ n → ¬Stops startAddr length sectorSize k) :
    ErasedTo ctx erase w startAddr length sectorSize n .erase (mainTimes n (ctx, w)) := by
  induction n with
  | zero =>
    refine ⟨h.driver, h.state, h.stop, ?_, h.step, (List.append_nil _).symm⟩
    show ctx.rangeEraseCur = startAddr + 0 * sectorSize
    rw [h.cur, UInt32.zero_mul, UInt32.add_zero]
  | succ n ih =>
    -- one call, one sector, and none of the sectors so far was the last
    have hnext := (ih fun k hpos hk => hgoing k hpos (Nat.le_succ_of_le hk)).next h.healthy
    rw [if_neg (hgoing (n + 1) (Nat.succ_pos n) (Nat.le_refl _)), ← mainTimes_succ] at hnext
    exact hnext

/-- Once it has, nothing more. -/
theorem erased_until (h : RangeAccepted ctx erase startAddr length sectorSize) (w : Logged ω)
    {k n : Nat} (hstops : Stops startAddr length sectorSize (k + 1))
    (hgoing : ∀ i, 1 ≤ i → i ≤ k → ¬Stops startAddr length sectorSize i) (hn : k + 1 ≤ n) :
    ErasedTo ctx erase w startAddr length sectorSize (k + 1) .eraseDone
      (mainTimes n (ctx, w)) := by
  induction n, hn using Nat.le_induction with
  | base =>
    have hnext := (erased_while h w hgoing).next h.healthy
    rw [if_pos hstops, ← mainTimes_succ] at hnext
    exact hnext
  | succ n _ ih =>
    rw [mainTimes_succ, flashMainFunction_done ih.state]
    exact ih

/-! ## The range -/

/-- The erasure stops first after the last sector of the range, and no sector begins behind the
end of the address space. -/
def StopsRight (startAddr length sectorSize : UInt32) : Prop :=
  let count := eraseCount length.toNat sectorSize.toNat
  Stops startAddr length sectorSize count ∧
    (∀ k, 1 ≤ k → k < count → ¬Stops startAddr length sectorSize k) ∧
    ∀ k < count, startAddr.toNat + k * sectorSize.toNat < 2 ^ 32

theorem eraseCount_pos (h : RangeAccepted ctx erase startAddr length sectorSize) :
    0 < eraseCount length.toNat sectorSize.toNat := by
  have hlength : length.toNat ≠ 0 := fun hzero => h.length_pos (UInt32.toNat_inj.mp hzero)
  have hstep : sectorSize.toNat ≠ 0 := fun hzero => h.step_pos (UInt32.toNat_inj.mp hzero)
  rw [lt_eraseCount_iff (Nat.pos_of_ne_zero hstep)]
  omega

theorem sectors_toNat {k : Nat}
    (h : ∀ i < k, startAddr.toNat + i * sectorSize.toNat < 2 ^ 32) :
    (sectors startAddr sectorSize k).map UInt32.toNat
      = (List.range k).map fun i => startAddr.toNat + i * sectorSize.toNat := by
  unfold sectors
  rw [List.map_map]
  refine List.map_congr_left fun i hi => ?_
  show (cursor startAddr sectorSize i).toNat = _
  rw [toNat_cursor, Nat.mod_eq_of_lt (h i (List.mem_range.mp hi))]

theorem eraseCovers_of_stopsRight (h : RangeAccepted ctx erase startAddr length sectorSize)
    (w : Logged ω) (hright : StopsRight startAddr length sectorSize) :
    EraseCovers ctx w startAddr length sectorSize := by
  obtain ⟨hstops, hgoing, hfits⟩ := hright
  have hpos := eraseCount_pos h
  generalize hcount : eraseCount length.toNat sectorSize.toNat = count at *
  obtain ⟨k, rfl⟩ := Nat.exists_eq_add_one.mpr hpos
  have hdone := erased_until h w hstops (fun i hi hle => hgoing i hi (Nat.lt_succ_of_le hle))
    (Nat.le_refl _)
  refine ⟨k + 1, sectors startAddr sectorSize (k + 1), hdone.state, hdone.log, ?_⟩
  rw [hcount]
  exact sectors_toNat hfits

theorem stopsRight_of_eraseCovers (h : RangeAccepted ctx erase startAddr length sectorSize)
    (w : Logged ω) (hcovers : EraseCovers ctx w startAddr length sectorSize) :
    StopsRight startAddr length sectorSize := by
  obtain ⟨n, addresses, hstate, hlog, haddresses⟩ := hcovers
  by_cases hstops : ∃ k, (1 ≤ k ∧ k ≤ n) ∧ Stops startAddr length sectorSize k
  case neg =>
    -- the cursor never reaches the end, so the erasure is still going on
    have hgoing := (erased_while h w fun k hpos hk hstop => hstops ⟨k, ⟨hpos, hk⟩, hstop⟩).state
    rw [hstate] at hgoing
    cases hgoing
  case pos =>
    -- the first time the cursor is at the end or behind, the erasure is done
    have hfirst := Nat.find_spec hstops
    have hbefore : ∀ i, 1 ≤ i → i < Nat.find hstops → ¬Stops startAddr length sectorSize i :=
      fun i hpos hlt hstop =>
        Nat.find_min hstops hlt ⟨⟨hpos, Nat.le_trans (Nat.le_of_lt hlt) hfirst.1.2⟩, hstop⟩
    generalize Nat.find hstops = first at hfirst hbefore
    obtain ⟨⟨hpos, hle⟩, hstop⟩ := hfirst
    obtain ⟨k, rfl⟩ := Nat.exists_eq_add_one.mpr hpos
    have hdone := erased_until h w hstop (fun i hi hk => hbefore i hi (Nat.lt_succ_of_le hk)) hle
    -- the log has those sectors, so they are as many as the range has, and begin where its do
    have hsectors : addresses = sectors startAddr sectorSize (k + 1) := by
      have hmap := List.append_cancel_left (hlog.symm.trans hdone.log)
      refine List.map_injective_iff.mpr ?_ hmap
      intro a b heq
      injection heq
    have hcount : k + 1 = eraseCount length.toNat sectorSize.toNat := by
      have hlength := congrArg List.length haddresses
      rw [hsectors] at hlength
      simpa [sectors] using hlength
    refine ⟨hcount ▸ hstop, fun i hi hlt => hbefore i hi (hcount ▸ hlt), fun i hi => ?_⟩
    rw [← hcount] at hi haddresses
    have hat := congrArg (fun l : List Nat => l[i]?) haddresses
    rw [hsectors] at hat
    simp only [sectors, List.map_map, List.getElem?_map, List.getElem?_range hi, Option.map_some,
      Option.some.injEq, Function.comp_apply] at hat
    rw [← hat]
    exact UInt32.toNat_lt _

/-- The condition on the numbers alone: nothing wraps up to the first sector's beginning behind the
range, or the range is within one sector and its end has wrapped with the sector's. -/
theorem stopsRight_iff (hlength : length ≠ 0) (hstep : sectorSize ≠ 0) :
    StopsRight startAddr length sectorSize ↔
      startAddr.toNat + eraseCount length.toNat sectorSize.toNat * sectorSize.toNat < 2 ^ 32 ∨
      2 ^ 32 ≤ startAddr.toNat + length.toNat ∧ length.toNat ≤ sectorSize.toNat := by
  have hstart := startAddr.toNat_lt
  have hlengthLt := length.toNat_lt
  have hstepLt := sectorSize.toNat_lt
  have hstepPos : 0 < sectorSize.toNat :=
    Nat.pos_of_ne_zero fun hzero => hstep (UInt32.toNat_inj.mp hzero)
  have hlengthPos : 0 < length.toNat :=
    Nat.pos_of_ne_zero fun hzero => hlength (UInt32.toNat_inj.mp hzero)
  have hcount : ∀ k, k < eraseCount length.toNat sectorSize.toNat ↔
      k * sectorSize.toNat < length.toNat := fun k => lt_eraseCount_iff hstepPos
  obtain ⟨m, hm, hlast, hbehind⟩ := exists_last_sector hlengthPos hstepPos
  unfold StopsRight
  dsimp only
  simp only [stops_iff]
  rw [hm] at hcount ⊢
  -- from here on it is arithmetic of whole numbers
  generalize startAddr.toNat = s at *
  generalize length.toNat = l at *
  generalize sectorSize.toNat = z at *
  rw [Nat.succ_mul]
  constructor
  · rintro ⟨hstop, hgoing, hfits⟩
    have hfit := hfits m (Nat.lt_succ_self m)
    by_contra hnot
    rcases Nat.eq_zero_or_pos m with rfl | hm
    · omega
    · -- of more than one sector, the first does not end the erasure
      have hone := hgoing 1 (Nat.le_refl 1) (by omega)
      have hle : z ≤ m * z := Nat.le_mul_of_pos_left z hm
      rw [Nat.one_mul] at hone
      omega
  -- no sum wraps, or the end does and the first sector is the only one
  · rintro (hwithin | ⟨hwrap, hsingle⟩)
    · refine ⟨by omega, fun k _ hk => ?_, fun k hk => ?_⟩
      · have hbefore := (hcount k).mp hk
        omega
      · have hbefore := (hcount k).mp hk
        omega
    · have hm : m = 0 := by
        by_contra hm
        have hle : z ≤ m * z := Nat.le_mul_of_pos_left z (Nat.pos_of_ne_zero hm)
        omega
      subst hm
      refine ⟨by omega, fun k hpos hk => by omega, fun k hk => ?_⟩
      have hzero : k = 0 := by omega
      rw [hzero]
      omega

/-- A range erasure that is accepted, with a driver that never fails, covers its range if and only
if it stops right. -/
theorem eraseCovers_iff (ctx : FlashContext (Logged ω)) {ctx' : FlashContext (Logged ω)}
    {erase : FlashEraseFn ω} (hdriver : ctx.eraseFn = some (notedErase erase))
    (hhealthy : ∀ w addr, (erase w addr).1 = true) (startAddr length sectorSize : UInt32)
    (haccepted : flashRequestRangeErase ctx startAddr length sectorSize = (true, ctx'))
    (w : Logged ω) :
    EraseCovers ctx' w startAddr length sectorSize ↔
      startAddr.toNat + eraseCount length.toNat sectorSize.toNat * sectorSize.toNat < 2 ^ 32 ∨
      2 ^ 32 ≤ startAddr.toNat + length.toNat ∧ length.toNat ≤ sectorSize.toNat := by
  have h := rangeAccepted_of_request hdriver hhealthy haccepted
  rw [← stopsRight_iff h.length_pos h.step_pos]
  exact ⟨stopsRight_of_eraseCovers h w, eraseCovers_of_stopsRight h w⟩

end Erasing

/-- A driver that erases whatever it is asked to. -/
def eagerErase : FlashEraseFn Unit := fun _ _ => (true, ())

/-- The module with that driver. -/
def eagerContext : FlashContext (Logged Unit) :=
  flashSetHardwareInterface flashInit none (some (notedErase eagerErase))

/-- Two kilobytes in the middle of the flash. -/
theorem eraseCovers_two_kilobytes :
    EraseCovers (flashRequestRangeErase eagerContext 0x08010000 0x1000 0x800).2 ((), [])
      0x08010000 0x1000 0x800 := by
  have haccepted : flashRequestRangeErase eagerContext 0x08010000 0x1000 0x800
      = (true, (flashRequestRangeErase eagerContext 0x08010000 0x1000 0x800).2) := rfl
  exact (eraseCovers_iff eagerContext rfl (fun _ _ => rfl) _ _ _ haccepted ((), [])).mpr
    (.inl (by decide))

/-- The last 64 kilobytes of the address space, in sectors of four. Their end is zero, so the
erasure counts as done after the first sector. -/
theorem last_sectors_not_erased :
    (mainTimes 1 ((flashRequestRangeErase eagerContext 0xFFFF0000 0x10000 0x1000).2, ((), []))).1.state
        = .eraseDone ∧
    ¬EraseCovers (flashRequestRangeErase eagerContext 0xFFFF0000 0x10000 0x1000).2 ((), [])
      0xFFFF0000 0x10000 0x1000 := by
  refine ⟨rfl, fun hcovers => ?_⟩
  have haccepted : RangeAccepted (flashRequestRangeErase eagerContext 0xFFFF0000 0x10000 0x1000).2
      eagerErase 0xFFFF0000 0x10000 0x1000 :=
    ⟨rfl, fun _ _ => rfl, rfl, rfl, rfl, rfl, by decide, by decide⟩
  have hright := (stopsRight_iff haccepted.length_pos haccepted.step_pos).mp
    (stopsRight_of_eraseCovers haccepted ((), []) hcovers)
  exact absurd hright (by decide)

end UdsIsoTp.Flash
