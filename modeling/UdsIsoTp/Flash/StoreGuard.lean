import UdsIsoTp.Flash.StoreSlots

/-!
# A store that survives its own failures

`Clean` is a flash that holds a log and, behind it in the sector, nothing. A save on a healthy
port finds its slot blank, succeeds and leaves the flash clean (`save_clean`).

After saves that failed, what the store takes for its next slot may hold half an item, or even
a whole one that only an init will see. `Guarded` says what cannot have happened: the slot is
blank, or its payload has begun and the flash will refuse another. That rests on records whose
first bytes differ, so that they cannot be taken for erased ones.
-/

namespace UdsIsoTp.Flash

section Guard

variable {L : UdsParamStore NorFlash} {erased : UInt8} {hsound : Sound L} {n : Nat}
  {mem mem' : Buf} {P : List UInt8 → Prop} {data : Buf}

/-- Behind the slot of item `n`, its sector is blank. -/
def BlankBehind (hsound : Sound L) (erased : UInt8) (n : Nat) (mem : Buf) : Prop :=
  ∀ r < hsound.ring.size, hsound.ring.home n < r → hsound.ring.Beside n r →
    SlotBlank L erased mem r

/-- The flash between two saves. -/
structure Clean (hsound : Sound L) (erased : UInt8) (n : Nat) (mem : Buf) : Prop where
  logged : hsound.ring.Logged serial (slotSeq L mem) n
  heads : HeadBytes L erased mem
  behind : ¬hsound.ring.Enters n → BlankBehind hsound erased n mem
  ground : ¬hsound.ring.Enters n → SlotBlank L erased mem (hsound.ring.home n)

/-- The slot holds the first piece of a payload, so that nothing can be written to it. -/
def Stuck (L : UdsParamStore NorFlash) (erased : UInt8) (mem : Buf) (r : Nat) : Prop :=
  ¬Blank erased mem (slotStart L r + L.headerSize) (min L.payloadSizeAligned 64)

/-- The flash during a save, wherever the power goes. -/
structure Guarded (hsound : Sound L) (erased : UInt8) (P : List UInt8 → Prop) (n : Nat)
    (mem : Buf) : Prop where
  base : hsound.ring.Logged serial (behindNext hsound n mem) n
  heads : HeadBytes L erased mem
  target : hsound.ring.Logged serial (slotSeq L mem) n ∨
    hsound.ring.Logged serial (slotSeq L mem) (n + 1) ∧
      P (slotData L mem (hsound.ring.home n)) ∧ BlankBehind hsound erased n mem
  behind : ¬hsound.ring.Enters n → BlankBehind hsound erased n mem
  ground : ¬hsound.ring.Enters n → SlotBlank L erased mem (hsound.ring.home n) ∨
    Stuck L erased mem (hsound.ring.home n)

theorem Clean.guarded (htwo : 2 ≤ L.sectorCount) (h : Clean hsound erased n mem) :
    Guarded hsound erased P n mem :=
  ⟨h.logged.mask htwo, h.heads, .inl h.logged, h.behind, fun hstays => .inl (h.ground hstays)⟩

/-- What has been found does not depend on what might have been. -/
theorem Guarded.any {Q : List UInt8 → Prop} (h : Guarded hsound erased P n mem)
    (hlogged : hsound.ring.Logged serial (slotSeq L mem) n) : Guarded hsound erased Q n mem :=
  ⟨h.base, h.heads, .inl hlogged, h.behind, h.ground⟩

/-- A flash with an item more is clean if the rest of the sector is blank. -/
theorem Clean.of_behind (hlogged : hsound.ring.Logged serial (slotSeq L mem) (n + 1))
    (hheads : HeadBytes L erased mem) (hbehind : BlankBehind hsound erased n mem) :
    Clean hsound erased (n + 1) mem := by
  have hnext : ∀ r < hsound.ring.size, ¬hsound.ring.Enters (n + 1) →
      hsound.ring.home (n + 1) ≤ r → hsound.ring.Beside (n + 1) r → SlotBlank L erased mem r := by
    intro r hr hstays hle hbeside
    obtain ⟨-, hmod, -⟩ | ⟨-, hmod, hdiv⟩ := nextSlot_home hsound n
    · exact absurd hmod hstays
    · refine hbehind r hr ?_ (hbeside.trans hdiv)
      rcases hsound.ring.home_succ n with ⟨-, hhome, -⟩ | ⟨-, hhome, -⟩
      · rw [hhome, Nat.zero_mod] at hmod
        omega
      · omega
  exact ⟨hlogged, hheads, fun hstays r hr hlt => hnext r hr hstays (Nat.le_of_lt hlt),
    fun hstays => hnext _ (hsound.ring.home_lt _) hstays (Nat.le_refl _) rfl⟩

/-! ## Saves -/

/-- The newest item is not touched by the save of the next. -/
theorem SavedTo.newest {j k h m : Nat} {w : NorFlash}
    {out : UdsParamStatus × UdsParamStore NorFlash × NorFlash}
    (htwo : 2 ≤ L.sectorCount) (H : SavedTo hsound erased (m + 1) data w out j k h) :
    SameSlot L w.mem out.2.2.mem (hsound.ring.home m) := by
  refine H.far ?_ ?_
  · have hsize := hsound.ring.size_ge htwo
    have hpos : 0 < hsound.ring.perSector := hsound.pos
    rcases hsound.ring.home_succ m with ⟨hend, hhome, -⟩ | ⟨-, hhome, -⟩ <;> omega
  · rintro ⟨henters, hbeside⟩
    exact SectorRing.not_beside_home htwo henters hbeside

/-- A save onto a slot that has begun is rejected. -/
theorem save_rejected (hnor : OnNor L erased) {w : NorFlash} (hstays : ¬hsound.ring.Enters n)
    (hstuck : Stuck L erased w.mem (hsound.ring.home n)) :
    udsParamSave (resumedAt L hsound n) data w = (.err, resumedAt L hsound n, w) := by
  have hbyte := resumedAt_erasedByte hsound hnor n
  obtain ⟨sectorSize, granule, raw, hport, rfl, -⟩ := hnor.port
  have hstore : (resumedAt L hsound n).port = norPort sectorSize granule raw := by
    rw [resumedAt_port, hport]
  have hpayload := hsound.payload
  have hdata := hsound.data_pos
  have hwrite : writeSlot (resumedAt L hsound n) data (hsound.ring.home n / L.slotsPerSector)
      (hsound.ring.home n % L.slotsPerSector) w = (false, w) := by
    have hpieces := writePadded_rejected hstore hbyte
      (hsound.slot_fits (hsound.ring.home_lt n)) data L.dataSize w (by omega) hstuck
    rw [writeSlot_resumedAt hsound hnor, hpieces]
    rfl
  unfold udsParamSave
  rw [if_neg (by simp), prepareNextSlot_resumedAt, if_neg hstays]
  dsimp only
  rw [hwrite]
  rfl

/-- Blank slots behind the save stay blank. -/
theorem SavedTo.behind {j k h : Nat} {w : NorFlash}
    {out : UdsParamStatus × UdsParamStore NorFlash × NorFlash}
    (H : SavedTo hsound erased n data w out j k h) (hbehind : BlankBehind hsound erased n w.mem) :
    BlankBehind hsound erased n out.2.2.mem := by
  intro r hr hlt hbeside i hi
  rw [H.other (Nat.ne_of_gt hlt) i hi]
  by_cases hin : sectorStart L (hsound.ring.home n) ≤ slotStart L r + i ∧
      slotStart L r + i < sectorStart L (hsound.ring.home n) + j
  · obtain ⟨d, hd⟩ := Nat.exists_eq_add_of_le hin.1
    unfold erasing
    rw [hd]
    exact Buf.copy_inside (by omega)
  · unfold erasing
    rw [Buf.copy_outside (by omega)]
    exact hbehind r hr hlt hbeside i hi

/-- A save that has got to the header has the rest of its sector blank. -/
theorem SavedTo.behind_written {j k h : Nat} {w : NorFlash}
    {out : UdsParamStatus × UdsParamStore NorFlash × NorFlash}
    (H : SavedTo hsound erased n data w out j k h) (hwritten : 0 < h)
    (hbehind : ¬hsound.ring.Enters n → BlankBehind hsound erased n w.mem) :
    BlankBehind hsound erased n out.2.2.mem := by
  by_cases henters : hsound.ring.Enters n
  · intro r _ hlt hbeside
    exact H.beside_blank (H.erased_full (.inr hwritten) henters) (Nat.ne_of_gt hlt) hbeside
  · exact H.behind (hbehind henters)

/-- A save onto a blank slot leaves it blank or stuck. -/
theorem SavedTo.blank_or_stuck {j k h : Nat} {w : NorFlash}
    {out : UdsParamStatus × UdsParamStore NorFlash × NorFlash}
    (H : SavedTo hsound erased n data w out j k h) (hstays : ¬hsound.ring.Enters n)
    (hblank : SlotBlank L erased w.mem (hsound.ring.home n)) (htwo : 2 ≤ L.dataSize)
    (hmarked : data 0 ≠ data 1) :
    SlotBlank L erased out.2.2.mem (hsound.ring.home n) ∨
      Stuck L erased out.2.2.mem (hsound.ring.home n) := by
  have hpayload := hsound.payload
  have hslot := hsound.slot
  have hh := H.header_le
  have herasing : erasing L erased w.mem (hsound.ring.home n) j = w.mem := by
    rw [H.stays hstays]
    exact Buf.copy_zero ..
  have hbytes : ∀ i < k, out.2.2.mem (slotStart L (hsound.ring.home n) + L.headerSize + i)
      = padded erased data L.dataSize i := by
    intro i hi
    rw [H.mem, Buf.copy_outside (by omega), Buf.copy_inside hi, Nat.zero_add]
  by_cases hstuck : Stuck L erased out.2.2.mem (hsound.ring.home n)
  · exact .inr hstuck
  -- the first piece still reads as erased, so at most one byte has been written
  have hfirst := not_not.mp hstuck
  have hread : ∀ i < k, i < 2 → data i = erased := by
    intro i hi htwo'
    have hbyte := hbytes i hi
    rw [hfirst i (by omega)] at hbyte
    exact ((if_pos (by omega)).symm.trans hbyte.symm : data i = erased)
  have hk : k < 2 := by
    by_contra hk
    exact hmarked ((hread 0 (by omega) (by omega)).trans (hread 1 (by omega) (by omega)).symm)
  have hnone : h = 0 := by
    by_contra hne
    have := H.committed (Nat.pos_of_ne_zero hne)
    omega
  left
  intro i hi
  by_cases hin : L.headerSize ≤ i ∧ i < L.headerSize + k
  · obtain ⟨d, rfl⟩ := Nat.exists_eq_add_of_le hin.1
    rw [← Nat.add_assoc, hbytes d (by omega)]
    exact (if_pos (by omega)).trans (hread d (by omega) (by omega))
  · rw [H.mem, hnone, Buf.copy_zero, Buf.copy_outside (by omega), herasing]
    exact hblank i hi

/-- A save from a guarded flash succeeds and leaves it clean, or fails and leaves it guarded. -/
theorem save_guarded (hsectors : 2 ≤ L.sectorCount) (hnor : OnNor L erased)
    (hP : P (data.slice 0 L.dataSize))
    (htwo : 2 ≤ L.dataSize) (hmarked : data 0 ≠ data 1) (hclear : ¬Confusable L erased data)
    {w : NorFlash} (hguarded : Guarded hsound erased P n w.mem) :
    let out := udsParamSave (resumedAt L hsound n) data w
    (out.1 = .ok ∧ out.2.1 = resumedAt L hsound (n + 1) ∧ Clean hsound erased (n + 1) out.2.2.mem ∧
        slotData L out.2.2.mem (hsound.ring.home n) = data.slice 0 L.dataSize ∨
      out.1 = .err ∧ out.2.1 = resumedAt L hsound n ∧ Guarded hsound erased P n out.2.2.mem) ∧
    ∀ m, n = m + 1 →
      slotData L out.2.2.mem (hsound.ring.home m) = slotData L w.mem (hsound.ring.home m) := by
  intro out
  -- a save begins in a sector that it erases, or on a blank slot
  by_cases hfree : hsound.ring.Enters n ∨ SlotBlank L erased w.mem (hsound.ring.home n)
  · obtain ⟨j, k, h, H⟩ := save_outcome hsound hnor n data w
    have H : SavedTo hsound erased n data w out j k h := H
    have hslot := hsound.slot
    have hheader := hsound.header
    have hready : ¬hsound.ring.Enters n →
        Blank erased w.mem (slotStart L (hsound.ring.home n)) slotHeaderSize :=
      fun hstays i hi => hfree.resolve_left hstays i (by omega)
    have hheads := H.headBytes hguarded.heads
    have hbehind : ¬hsound.ring.Enters n → BlankBehind hsound erased n out.2.2.mem :=
      fun hstays => H.behind (hguarded.behind hstays)
    have hground : ¬hsound.ring.Enters n → SlotBlank L erased out.2.2.mem (hsound.ring.home n) ∨
        Stuck L erased out.2.2.mem (hsound.ring.home n) :=
      fun hstays => H.blank_or_stuck hstays (hfree.resolve_left hstays) htwo hmarked
    have hbase := H.rest hsectors hguarded.base hguarded.heads
    refine ⟨?_, fun m hm => by subst hm; exact (H.newest hsectors).data hsound⟩
    have houtcome := H.outcome hsectors hguarded.base hguarded.heads hready fun _ => hclear
    obtain ⟨hok, hstore, -, -⟩ | ⟨herr, hstore⟩ := H.result
    · obtain ⟨hnot, -⟩ | ⟨hnot, -⟩ | ⟨hpos, hlogged, hdata⟩ := houtcome
      · exact absurd hok hnot
      · exact absurd hok hnot
      · exact .inl ⟨hok, hstore,
          .of_behind hlogged hheads (H.behind_written hpos hguarded.behind), hdata⟩
    · refine .inr ⟨herr, hstore, hbase, hheads, ?_, hbehind, hground⟩
      obtain ⟨-, hlogged⟩ | ⟨-, henters, hmem, hsame⟩ | ⟨hpos, hlogged, hdata⟩ := houtcome
      · exact .inl hlogged
      · -- nothing but a part of an erase, which has not reached the slot
        obtain hold | ⟨hahead, hPold, hblank⟩ := hguarded.target
        · refine .inl (hold.scrub hsectors fun r _ => ?_)
          by_cases hr : r = hsound.ring.home n
          · rw [hr]
            exact .inl (hsame.seq hsound)
          · exact H.other_seq hguarded.heads hr
        · refine .inr ⟨?_, ?_, H.behind hblank⟩
          · have hitem : slotSeq L out.2.2.mem (hsound.ring.home n) = some (serial n) :=
              (hsame.seq hsound).trans hahead.1
            refine hbase.commit hitem (fun r hr hne hent hbeside => ?_) fun r _ hne _ => ?_
            · refine (H.behind hblank r hr ?_ hbeside).seq hsound
              have hdm := Nat.div_add_mod r L.slotsPerSector
              have hdm' := Nat.div_add_mod (hsound.ring.home n) L.slotsPerSector
              rw [show r / L.slotsPerSector = hsound.ring.home n / L.slotsPerSector from hbeside]
                at hdm
              have hent : hsound.ring.home n % L.slotsPerSector = 0 := hent
              omega
            · exact (if_neg hne).symm
          · rw [hsame.data hsound]
            exact hPold
      · exact .inr ⟨hlogged, hdata ▸ hP, H.behind_written hpos hguarded.behind⟩
  · obtain ⟨hstays, hnotblank⟩ := not_or.mp hfree
    -- on any other slot its first write is refused, and nothing changes
    have hrejected : out = (.err, resumedAt L hsound n, w) :=
      save_rejected hnor hstays ((hguarded.ground hstays).resolve_left hnotblank)
    rw [hrejected]
    exact ⟨.inr ⟨rfl, rfl, hguarded⟩, fun m _ => rfl⟩

/-- On a healthy port a save onto a clean flash succeeds and leaves it clean. -/
theorem save_clean (hnor : OnNor L erased) {w : NorFlash} (hclean : Clean hsound erased n w.mem)
    (hpower : w.cut = none) (data : Buf) :
    let out := udsParamSave (resumedAt L hsound n) data w
    out.1 = .ok ∧ out.2.1 = resumedAt L hsound (n + 1) ∧ Clean hsound erased (n + 1) out.2.2.mem ∧
      out.2.2.cut = none ∧
      slotData L out.2.2.mem (hsound.ring.home n) = data.slice 0 L.dataSize := by
  intro out
  obtain ⟨j, k, h, H⟩ := save_outcome hsound hnor n data w
  have H : SavedTo hsound erased n data w out j k h := H
  have hslot := hsound.slot
  obtain ⟨hcut, hok⟩ := H.powered hpower
  have hok : out.1 = .ok := by
    by_cases henters : hsound.ring.Enters n
    · exact hok (.inl henters)
    · exact hok (.inr fun i hi => hclean.ground henters i (by omega))
  obtain ⟨hitem, hdata, hpos⟩ := H.target_ok hok
  obtain ⟨-, hstore, -⟩ | ⟨herr, -⟩ := H.result
  · have hlogged := H.commit hclean.logged (fun _ _ => rfl) hpos hitem
    exact ⟨hok, hstore, .of_behind hlogged (H.headBytes hclean.heads)
      (H.behind_written hpos hclean.behind), hcut, hdata⟩
  · rw [hok] at herr
    exact absurd herr (by decide)

/-- A flash that has just been delivered is clean. -/
theorem delivered_clean : Clean hsound erased 0 fun _ => erased := by
  refine ⟨fun r _ => slotSeq_none (not_accepted_erased rfl rfl),
    fun _ => .inl rfl, fun _ _ _ _ _ _ _ => rfl, fun _ _ _ => rfl⟩

end Guard

end UdsIsoTp.Flash
