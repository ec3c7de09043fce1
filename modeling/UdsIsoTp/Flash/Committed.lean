import UdsIsoTp.Flash.Recovery
import UdsIsoTp.Flash.StoreGuard

/-!
# The committed record

On a flash that rejects writes to what is not erased, power is lost between two operations of
a save. What the save has done by then, it has not done to the active slot (`SavedTo.newest`),
and an init finds either the record there or, once the header of the new one is written, the
new one.

Behind a cut save the next slot may hold payload, but no header: the header goes last, and
when it is there the slot is the active one of the next init. So the flash stays `Headless`
ahead of the log, and half a save is never taken for a record.

This needs a store that can count its slots. Where the number of slots of a sector is cut to
zero, an init does not look at any (`record_lost`).
-/

namespace UdsIsoTp.Flash

/-! ## A save and its operations -/

section Save

variable {L : UdsParamStore NorFlash} {erased : UInt8} {hsound : Sound L} {n : Nat} {mem : Buf}

/-- A log, and no header behind it in the sector. -/
structure Headless (hsound : Sound L) (erased : UInt8) (n : Nat) (mem : Buf) : Prop where
  logged : hsound.ring.Logged serial (slotSeq L mem) n
  heads : HeadBytes L erased mem
  behind : ¬hsound.ring.Enters n → BlankBehind hsound erased n mem
  header : ¬hsound.ring.Enters n →
    Blank erased mem (slotStart L (hsound.ring.home n)) L.headerSize

theorem Clean.headless (h : Clean hsound erased n mem) : Headless hsound erased n mem := by
  have hslot := hsound.slot
  exact ⟨h.logged, h.heads, h.behind, fun hstays i hi => h.ground hstays i (by omega)⟩

variable {data : Buf} {w : NorFlash} {out : UdsParamStatus × UdsParamStore NorFlash × NorFlash}
  {j k h : Nat}

/-- A save that has not come to its header leaves the log alone. -/
theorem SavedTo.headless (htwo : 2 ≤ L.sectorCount) (H : SavedTo hsound erased n data w out j k 0)
    (hbefore : Headless hsound erased n w.mem) : Headless hsound erased n out.2.2.mem := by
  have hmem := H.mem
  rw [Buf.copy_zero] at hmem
  have hheader : 16 ≤ L.headerSize := hsound.header
  have herasing : ¬hsound.ring.Enters n →
      erasing L erased w.mem (hsound.ring.home n) j = w.mem := by
    intro hstays
    rw [H.stays hstays]
    exact Buf.copy_zero ..
  -- without a header written its bytes are as the erase has left them
  have hkept : ∀ i < L.headerSize, out.2.2.mem (slotStart L (hsound.ring.home n) + i)
      = erasing L erased w.mem (hsound.ring.home n) j (slotStart L (hsound.ring.home n) + i) := by
    intro i hi
    rw [hmem]
    exact Buf.copy_outside (by omega)
  have hblank : ¬hsound.ring.Enters n →
      Blank erased out.2.2.mem (slotStart L (hsound.ring.home n)) L.headerSize := by
    intro hstays i hi
    rw [hkept i hi, herasing hstays]
    exact hbefore.header hstays i hi
  -- and a slot without its magic number has no sequence number
  have hnone : Blank erased out.2.2.mem (slotStart L (hsound.ring.home n)) L.headerSize →
      slotSeq L out.2.2.mem (hsound.ring.home n) = none :=
    fun hheadless => slotSeq_none (not_accepted_erased (hheadless 0 (by omega))
      (hheadless 1 (by omega)))
  refine ⟨hbefore.logged.scrub htwo fun r _ => ?_, H.headBytes hbefore.heads,
    fun hstays => H.behind (hbefore.behind hstays), hblank⟩
  by_cases hr : r = hsound.ring.home n
  · subst hr
    by_cases henters : hsound.ring.Enters n
    · rcases Nat.eq_zero_or_pos k with rfl | hpos
      · -- nothing is written, and the erase has taken the slot or has not
        rw [Buf.copy_zero] at hmem
        rcases erasing_beside (j := j) hbefore.heads
          (rfl : hsound.ring.home n / L.slotsPerSector = _) with hgone | hsame
        · exact .inr ⟨henters, rfl, by rw [hmem]; exact hgone⟩
        · rw [hmem]
          exact .inl (hsame.seq hsound)
      · refine .inr ⟨henters, rfl, hnone fun i hi => ?_⟩
        have hslot := hsound.slot
        rw [hkept i hi, H.erased_full (.inl hpos) henters]
        exact erasing_blank hsound rfl i (by omega)
    · left
      rw [hnone (hblank henters), hbefore.logged.next_empty henters]
  · exact H.other_seq hbefore.heads hr

/-- A save that has written its header has its record in the log. -/
theorem SavedTo.committed_clean (H : SavedTo hsound erased n data w out j k h)
    (hwritten : slotHeaderSize ≤ h) (hbefore : Headless hsound erased n w.mem) :
    Clean hsound erased (n + 1) out.2.2.mem ∧
      slotData L out.2.2.mem (hsound.ring.home n) = data.slice 0 L.dataSize := by
  have hpos : 0 < h := Nat.lt_of_lt_of_le (by decide) hwritten
  obtain ⟨hitem, hdata⟩ := H.target_written hwritten
  have hlogged := H.commit hbefore.logged (fun _ _ => rfl) hpos hitem
  exact ⟨.of_behind hlogged (H.headBytes hbefore.heads) (H.behind_written hpos hbefore.behind),
    hdata⟩

/-- With power all the way, a save that writes its header succeeds. -/
theorem SavedTo.powered_ok (H : SavedTo hsound erased n data w out j k h)
    (hwritten : slotHeaderSize ≤ h) (hbefore : Headless hsound erased n w.mem)
    (hpower : w.cut = none) : out.1 = .ok := by
  obtain ⟨-, hok⟩ := H.powered hpower
  by_cases henters : hsound.ring.Enters n
  · exact hok (.inl henters)
  · refine hok (.inr fun i hi => ?_)
    have hground := H.ground
    rw [H.committed (Nat.lt_of_lt_of_le (by decide) hwritten), H.stays henters] at hground
    unfold erasing at hground
    rw [Buf.copy_zero] at hground
    by_cases hhead : i < L.headerSize
    · exact hbefore.header henters i hhead
    · have hbyte := hground (i - L.headerSize) (by omega)
      rwa [show slotStart L (hsound.ring.home n) + L.headerSize + (i - L.headerSize)
        = slotStart L (hsound.ring.home n) + i by omega] at hbyte

/-- Whatever operations of a save are done, the record is in the log or the log is as it was. -/
theorem save_headless (htwo : 2 ≤ L.sectorCount) (hnor : OnNor L erased) (hwhole : w.Whole)
    (hbefore : Headless hsound erased n w.mem) (data : Buf) :
    let out := udsParamSave (resumedAt L hsound n) data w
    (out.1 = .err ∧ out.2.1 = resumedAt L hsound n ∧ Headless hsound erased n out.2.2.mem ∨
      (out.1 = .ok ∧ out.2.1 = resumedAt L hsound (n + 1) ∨ w.cut ≠ none) ∧
        Clean hsound erased (n + 1) out.2.2.mem ∧
        slotData L out.2.2.mem (hsound.ring.home n) = data.slice 0 L.dataSize) ∧
    ∀ m, n = m + 1 → SameSlot L w.mem out.2.2.mem (hsound.ring.home m) := by
  intro out
  obtain ⟨j, k, h, H⟩ := save_outcome hsound hnor n data w
  have H : SavedTo hsound erased n data w out j k h := H
  refine ⟨?_, fun m hm => by subst hm; exact H.newest htwo⟩
  obtain ⟨-, rfl | hwritten⟩ := H.whole hwhole
  · left
    obtain ⟨-, -, -, hfull⟩ | ⟨herr, hstore⟩ := H.result
    · have hheader : 16 ≤ L.headerSize := hsound.header
      omega
    · exact ⟨herr, hstore, H.headless htwo hbefore⟩
  · right
    refine ⟨?_, H.committed_clean hwritten hbefore⟩
    by_cases hpower : w.cut = none
    · have hok := H.powered_ok hwritten hbefore hpower
      obtain ⟨-, hstore, -⟩ | ⟨herr, -⟩ := H.result
      · exact .inl ⟨hok, hstore⟩
      · rw [hok] at herr
        exact absurd herr (by decide)
    · exact .inr hpower

end Save

/-! ## Runs -/

/-- Power is lost between two operations of a save. -/
def StoreCall.Whole : StoreCall → Prop
  | .save _ => True
  | .cutSave _ _ bytes => bytes = 0
  | .reinit => True

section Surviving

variable {g : NorStore}

/-- The store is behind the `n` items that the flash holds, and no header is behind them. -/
structure Surviving (hsound : Sound g.layout) (n : Nat) (s : StoreRun) : Prop where
  store : s.store = some (resumedAt g.layout hsound n)
  headless : Headless hsound (norErased g.erased) n s.flash.mem

/-- The flash after so many operations of a save, with the power back. -/
def StoreRun.cutAfter (s : StoreRun) (data : Buf) (operations : Nat) : NorFlash :=
  ⟨(s.save data (some (operations, 0))).2.flash.mem, none⟩

theorem init_surviving {hsound : Sound g.layout} {w₀ : NorFlash} (haccepted : (g.init w₀).1 ≠ none)
    {n : Nat} {s : StoreRun} (h : Headless hsound (norErased g.erased) n s.flash.mem) :
    Surviving hsound n (s.reinit g) := by
  have hinit : g.init { s.flash with cut := none }
      = (some (resumedAt g.layout hsound n), { s.flash with cut := none }) :=
    init_resumedAt hsound g.onNor.healthy haccepted h.logged
  unfold StoreRun.reinit
  rw [hinit]
  exact ⟨rfl, h⟩

/-- After so many operations of a save, the flash holds the log or the log and the record. -/
theorem Surviving.cutAfter (htwo : 2 ≤ g.sectorCount.toNat) {hsound : Sound g.layout} {n : Nat}
    {s : StoreRun} (h : Surviving hsound n s) (data : Buf) (operations : Nat) :
    (Headless hsound (norErased g.erased) n (s.cutAfter data operations).mem ∨
      Clean hsound (norErased g.erased) (n + 1) (s.cutAfter data operations).mem ∧
        slotData g.layout (s.cutAfter data operations).mem (hsound.ring.home n)
          = data.slice 0 g.layout.dataSize) ∧
    ∀ m, n = m + 1 →
      SameSlot g.layout s.flash.mem (s.cutAfter data operations).mem (hsound.ring.home m) := by
  have hsaved := save_headless (w := { s.flash with cut := some (operations, 0) }) htwo g.onNor
    (fun cut hcut => by rw [← Option.some.inj hcut]) h.headless data
  have hflash : (s.cutAfter data operations).mem = (udsParamSave (resumedAt g.layout hsound n) data
      { s.flash with cut := some (operations, 0) }).2.2.mem := by
    unfold StoreRun.cutAfter StoreRun.save
    rw [h.store]
  rw [hflash]
  exact ⟨hsaved.1.imp (fun hkept => hkept.2.2) (fun hcommitted => hcommitted.2), hsaved.2⟩

theorem storeStep_surviving (htwo : 2 ≤ g.sectorCount.toNat) {hsound : Sound g.layout}
    {w₀ : NorFlash} (haccepted : (g.init w₀).1 ≠ none) {s : StoreRun} (call : StoreCall)
    (hcall : call.Whole) (h : ∃ n, Surviving hsound n s) :
    ∃ n, Surviving hsound n (storeStep g s call) := by
  obtain ⟨n, h⟩ := h
  cases call with
  | save data =>
    have hsaved := save_headless (w := { s.flash with cut := none }) htwo g.onNor
      (fun cut hcut => absurd hcut (by simp)) h.headless data
    unfold storeStep StoreRun.save
    rw [h.store]
    dsimp only at hsaved ⊢
    obtain ⟨⟨-, hstore, hkept⟩ | ⟨⟨-, hstore⟩ | hcut, hclean, -⟩, -⟩ := hsaved
    · exact ⟨n, congrArg some hstore, hkept⟩
    · exact ⟨n + 1, congrArg some hstore, hclean.headless⟩
    · exact absurd rfl hcut
  | cutSave data operations bytes =>
    have hbytes : bytes = 0 := hcall
    rw [hbytes]
    obtain ⟨hkept | ⟨hclean, -⟩, -⟩ := h.cutAfter htwo data operations
    · exact ⟨n, init_surviving haccepted hkept⟩
    · exact ⟨n + 1, init_surviving haccepted hclean.headless⟩
  | reinit => exact ⟨n, init_surviving haccepted h.headless⟩

end Surviving

/-! ## The theorem -/

/-- An init on this flash comes up with this slot, and a load gives this data. -/
def ComesUp (g : NorStore) (flash : NorFlash) (slot : Nat × Nat) (data : List UInt8) : Prop :=
  ∃ found, g.init flash = (some found, flash) ∧ found.hasActiveSlot = true ∧
    (found.activeSector, found.activeSlot) = slot ∧
    ∀ before, udsParamLoad found before flash = (.ok, data, flash)

/-- So many operations into a save, the active slot is as it was, and an init comes up with its
record or, in the slot that the save has taken, with that of the save. -/
structure SurvivesSave (g : NorStore) (s : StoreRun) (store : UdsParamStore NorFlash) (data : Buf)
    (operations : Nat) : Prop where
  untouched : SameSlot g.layout s.flash.mem (s.cutAfter data operations).mem
    (store.activeSector * store.slotsPerSector + store.activeSlot)
  recovered :
    (∃ d, (∀ before, udsParamLoad store before s.flash = (.ok, d, s.flash)) ∧
      ComesUp g (s.cutAfter data operations) (store.activeSector, store.activeSlot) d) ∨
    ∃ slot, (prepareNextSlot store ⟨s.flash.mem, none⟩).1 = some slot ∧
      ComesUp g (s.cutAfter data operations) slot (data.slice 0 store.dataSize)

/-- On sectors whose slots the store can count: whatever saves there have been, whichever of
them were cut, a save that is cut after any of its operations has not touched the active slot,
and an init then finds the old record or the new one. -/
theorem save_keeps_record (g : NorStore)
    (hfits : Fits g.port g.flashBase g.sectorCount g.dataSize)
    (haccepted : (g.init g.delivered).1 ≠ none)
    (hcountable : Countable g.port g.flashBase g.sectorCount g.dataSize) (calls : List StoreCall)
    (hcalls : ∀ call ∈ calls, call.Whole) (store : UdsParamStore NorFlash)
    (hstore : (run (storeStep g) (storeStart g) calls).store = some store)
    (hactive : store.hasActiveSlot = true) (data : Buf) (operations : Nat) :
    SurvivesSave g (run (storeStep g) (storeStart g) calls) store data operations := by
  have hdata : g.dataSize ≠ 0 := (udsParamInit_accepted haccepted g.delivered).1
  have hsound : Sound g.layout := layOut_sound hfits hcountable hdata
  have hstart : Surviving hsound 0 (storeStart g) :=
    init_surviving haccepted (delivered_clean.headless)
  -- the invariant of the history, which counts the saves
  obtain ⟨n, h⟩ := Along.inv (I := fun s => ∃ n, Surviving hsound n s)
    (fun s call h hcall => storeStep_surviving hfits.two_le haccepted call hcall h) ⟨0, hstart⟩
    (along_of_forall hcalls _)
  generalize run (storeStep g) (storeStart g) calls = s at h hstore
  obtain rfl : resumedAt g.layout hsound n = store := Option.some.inj (h.store.symm.trans hstore)
  cases n with
  | zero => exact absurd hactive (by simp [resumedAt])
  | succ m =>
    obtain ⟨hflash, hsame⟩ := h.cutAfter hfits.two_le data operations
    have hsame := hsame m rfl
    have hhome : (resumedAt g.layout hsound (m + 1)).activeSector
          * (resumedAt g.layout hsound (m + 1)).slotsPerSector
        + (resumedAt g.layout hsound (m + 1)).activeSlot = hsound.ring.home m :=
      Nat.div_add_mod' ..
    refine ⟨hhome ▸ hsame, ?_⟩
    obtain hkept | ⟨hclean, hnew⟩ := hflash
    -- the new header is not there yet: the next init finds the record of before
    · left
      refine ⟨_, load_resumedAt hsound g.onNor.healthy h.headless.logged, _,
        init_resumedAt hsound g.onNor.healthy haccepted hkept.logged, rfl, rfl, fun before => ?_⟩
      rw [← hsame.data hsound]
      exact load_resumedAt hsound g.onNor.healthy hkept.logged before
    -- the new header is there, and the data it speaks for too
    · right
      refine ⟨_, prepare_powered hsound g.onNor (m + 1) rfl, _,
        init_resumedAt hsound g.onNor.healthy haccepted hclean.logged, rfl, rfl, fun before => ?_⟩
      have hnew : slotData g.layout (s.cutAfter data operations).mem (hsound.ring.home (m + 1))
        = data.slice 0 (resumedAt g.layout hsound (m + 1)).dataSize := hnew
      rw [← hnew]
      exact load_resumedAt hsound g.onNor.healthy hclean.logged before

/-- A second save has been cut before its header; a third gets as far. -/
theorem save_keeps_record_small :
    ∃ store, (run (storeStep smallStore) (storeStart smallStore)
        [.save fives, .cutSave fives 1 0]).store = some store ∧ store.hasActiveSlot = true ∧
      SurvivesSave smallStore (run (storeStep smallStore) (storeStart smallStore)
        [.save fives, .cutSave fives 1 0]) store fives 1 := by
  have hsaved : (run (storeStep smallStore) (storeStart smallStore)
      [.save fives, .cutSave fives 1 0]).store.map (·.hasActiveSlot) = some true := by
    decide +kernel
  obtain ⟨store, hstore, hactive⟩ := Option.map_eq_some_iff.mp hsaved
  refine ⟨store, hstore, hactive, save_keeps_record smallStore ⟨by decide, by decide, by decide⟩
    (by decide +kernel) ⟨by decide, by decide⟩ _ (fun call hcall => ?_) store hstore hactive _ _⟩
  rcases List.mem_cons.mp hcall with rfl | hcall
  · trivial
  · rw [List.mem_singleton.mp hcall]
    rfl

/-- Two sectors of 65536 slots each. -/
def wideSectors : NorStore := { smallStore with sectorSize := 0x200000 }

/-- The slots of its sectors count as none, and an init does not find the record. -/
theorem record_lost :
    ∃ store, (run (storeStep wideSectors) (storeStart wideSectors) [.save fives]).store = some store ∧
      store.hasActiveSlot = true ∧
      ¬SurvivesSave wideSectors (run (storeStep wideSectors) (storeStart wideSectors) [.save fives])
        store fives 0 := by
  have hsaved : (run (storeStep wideSectors) (storeStart wideSectors)
      [.save fives]).store.map (·.hasActiveSlot) = some true := by decide +kernel
  have hlost : (wideSectors.init ((run (storeStep wideSectors) (storeStart wideSectors)
      [.save fives]).cutAfter fives 0)).1.map (·.hasActiveSlot) = some false := by decide +kernel
  have hnever : ∀ slot d, ¬ComesUp wideSectors ((run (storeStep wideSectors)
      (storeStart wideSectors) [.save fives]).cutAfter fives 0) slot d := by
    rintro slot d ⟨found, hinit, hactive, -⟩
    rw [hinit] at hlost
    exact Bool.noConfusion (hactive.symm.trans (Option.some.inj hlost))
  obtain ⟨store, hstore, hactive⟩ := Option.map_eq_some_iff.mp hsaved
  refine ⟨store, hstore, hactive, fun h => ?_⟩
  obtain ⟨d, -, hup⟩ | ⟨slot, -, hup⟩ := h.recovered
  · exact hnever _ _ hup
  · exact hnever _ _ hup

end UdsIsoTp.Flash
