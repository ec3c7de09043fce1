import UdsIsoTp.Flash.Addressed
import UdsIsoTp.Flash.StoreBoot
import UdsIsoTp.Flash.StoreGuard

/-!
# The newest record wins

Saves that complete, one after the other around the ring, with inits in between, wherever in the
32-bit address space the sectors lie, across its end too. Fewer than 32767 slots of 16 bits are
less than the address space (`NorStore.sectors_fit`), so counted from its base the store is one
that does not come around (`Counterpart`). There the slots always hold a short run of the items
saved, the sequence numbers of which compare like the items (`Kept`); so an init finds the slot
of the last save and gives back the store as that save has left it, and the number it goes on
with is newer than any in the flash.

One sector is enough here: the save that enters it erases the newest record, but it also
puts a newer one there.
-/

namespace UdsIsoTp.Flash

/-- The slots that the sectors have room for. -/
def NorStore.totalSlots (g : NorStore) : Nat :=
  g.sectorCount.toNat *
    (g.sectorSize.toNat / slotBytes (portGranule g.port).toNat g.dataSize.toNat)

/-! ## Geometry -/

/-- A sector has room for one slot at least, and its slots are counted in 16 bits. -/
theorem NorStore.slots_counted {g : NorStore}
    (hbytes : slotBytes (portGranule g.port).toNat g.dataSize.toNat < 65536)
    (haccepted : (g.init g.delivered).1 ≠ none) (hslots : g.totalSlots < 32767) :
    0 < slotBytes (portGranule g.port).toNat g.dataSize.toNat ∧ 0 < g.layout.slotsPerSector ∧
      g.layout.slotsPerSector
        = g.sectorSize.toNat / slotBytes (portGranule g.port).toNat g.dataSize.toNat := by
  have husable : Usable g.port g.flashBase g.sectorCount g.dataSize := udsParamInit_usable.mp haccepted
  have hsectors : 0 < g.sectorCount.toNat :=
    Nat.pos_of_ne_zero fun hzero => husable.args (.inl (UInt8.toNat_inj.mp hzero))
  obtain ⟨hslot, -, hparts⟩ := slotSizeFor_eq hbytes
  have hroom : slotSizeFor (portGranule g.port).toNat g.dataSize.toNat ≤ g.sectorSize.toNat :=
    husable.room
  have hheader : 16 ≤ headerSizeFor (portGranule g.port).toNat := by
    rw [headerSizeFor_eq]
    refine Nat.le_trans ?_ (le_alignUp (portGranule_pos g.port))
    split
    · exact Nat.le_refl _
    · next hge => exact Nat.le_of_not_lt hge
  rw [hslot] at hroom
  have hpos : 0 < g.sectorSize.toNat / slotBytes (portGranule g.port).toNat g.dataSize.toNat :=
    Nat.div_pos hroom (by omega)
  have hle := Nat.le_mul_of_pos_left
    (g.sectorSize.toNat / slotBytes (portGranule g.port).toNat g.dataSize.toNat) hsectors
  unfold NorStore.totalSlots at hslots
  -- so the count of a sector's slots is not cut to 16 bits
  have hcount : g.layout.slotsPerSector
      = g.sectorSize.toNat / slotBytes (portGranule g.port).toNat g.dataSize.toNat := by
    show g.sectorSize.toNat / slotSizeFor (portGranule g.port).toNat g.dataSize.toNat % 65536 = _
    rw [hslot]
    exact Nat.mod_eq_of_lt (by omega)
  exact ⟨by omega, Nat.lt_of_lt_of_eq hpos hcount.symm, hcount⟩

theorem NorStore.layout_sound {g : NorStore}
    (hbytes : slotBytes (portGranule g.port).toNat g.dataSize.toNat < 65536)
    (hregion : g.flashBase.toNat + g.sectorCount.toNat * g.sectorSize.toNat ≤ 2 ^ 32)
    (haccepted : (g.init g.delivered).1 ≠ none) (hslots : g.totalSlots < 32767) :
    Sound g.layout ∧ g.layout.sectorCount * g.layout.slotsPerSector < 32767 := by
  obtain ⟨-, hpos, hcount⟩ := NorStore.slots_counted hbytes haccepted hslots
  have husable : Usable g.port g.flashBase g.sectorCount g.dataSize := udsParamInit_usable.mp haccepted
  have hsectors : 0 < g.sectorCount.toNat :=
    Nat.pos_of_ne_zero fun hzero => husable.args (.inl (UInt8.toNat_inj.mp hzero))
  have hdata : g.dataSize ≠ 0 := fun hzero => husable.args (.inr hzero)
  have hnear : g.sectorCount.toNat * g.layout.slotsPerSector < 32767 := by
    rw [hcount]
    exact hslots
  have hle := Nat.le_mul_of_pos_left g.layout.slotsPerSector hsectors
  have hcountable : Countable g.port g.flashBase g.sectorCount g.dataSize :=
    ⟨hpos, Nat.le_trans (Nat.le_of_lt hnear) (by decide)⟩
  exact ⟨layOut_sound_of hbytes hregion hsectors hcountable (Nat.lt_of_le_of_lt hle hnear) hdata,
    hnear⟩

/-- The sectors end less than a slot behind their last one, so that few of them do not come around
the address space. -/
theorem NorStore.sectors_fit {g : NorStore}
    (hbytes : slotBytes (portGranule g.port).toNat g.dataSize.toNat < 65536)
    (haccepted : (g.init g.delivered).1 ≠ none) (hslots : g.totalSlots < 32767) :
    g.sectorCount.toNat * g.sectorSize.toNat ≤ 2 ^ 32 := by
  obtain ⟨hpos, -, -⟩ := NorStore.slots_counted hbytes haccepted hslots
  unfold NorStore.totalSlots at hslots
  generalize slotBytes (portGranule g.port).toNat g.dataSize.toNat = bytes at *
  have hsector : g.sectorSize.toNat ≤ (g.sectorSize.toNat / bytes + 1) * bytes := by
    rw [Nat.mul_comm]
    exact Nat.le_of_lt (Nat.lt_mul_div_succ g.sectorSize.toNat hpos)
  have hsectors := g.sectorCount.toNat_lt
  calc g.sectorCount.toNat * g.sectorSize.toNat
      ≤ g.sectorCount.toNat * ((g.sectorSize.toNat / bytes + 1) * bytes) :=
        Nat.mul_le_mul_left _ hsector
    _ = (g.sectorCount.toNat * (g.sectorSize.toNat / bytes) + g.sectorCount.toNat) * bytes := by
        ring
    _ ≤ (32767 + 256) * 65536 := Nat.mul_le_mul (by omega) (by omega)
    _ ≤ 2 ^ 32 := by decide

/-! ## Saves that complete -/

/-- A history of saves on a flash with 32-bit addresses. -/
structure SaveRun where
  flash : FlashBytes
  store : Option (UdsParamStore FlashBytes)
  /-- A save has not returned `UDS_PARAM_OK`. -/
  failed : Bool
  /-- The data of the last save, if that returned `UDS_PARAM_OK`. -/
  last : Option (List UInt8)
  /-- The sector and the slot that the last save has taken. -/
  written : Option (Nat × Nat)

/-- What can happen in a history. -/
inductive SaveCall where
  | save (data : Buf)
  | reinit

/-- The store looks at the flash again. -/
def SaveRun.reinit (g : NorStore) (s : SaveRun) : SaveRun :=
  let (store, flash) := g.addressedInit s.flash
  { s with store := store, flash := flash }

/-- One call. -/
def saveStep (g : NorStore) (s : SaveRun) : SaveCall → SaveRun
  | .save data =>
    match s.store with
    | none => { s with failed := true, last := none, written := none }
    | some store =>
      let (status, after, flash) := udsParamSave store data s.flash
      { flash := flash
        store := some after
        failed := s.failed || status ≠ .ok
        last := if status = .ok then some (data.slice 0 store.dataSize) else none
        written := (prepareNextSlot store s.flash).1 }
  | .reinit => s.reinit g

/-- The flash as it is delivered. -/
def NorStore.deliveredBytes (g : NorStore) : FlashBytes := fun _ => norErased g.erased

/-- The flash as delivered, with the store come up. -/
def saveStart (g : NorStore) : SaveRun :=
  { flash := g.deliveredBytes, store := none, failed := false, last := none,
    written := none : SaveRun }.reinit g

/-! ## The invariant -/

section Kept

variable {g : NorStore}

/-- The store is behind the `n` items of a clean flash, the newest of them that of the last
save; `w` is the flash from its base on. -/
structure Kept (hsound : Sound g.atZero.layout) (n : Nat) (s : SaveRun) (w : NorFlash) : Prop where
  store : ∃ store, s.store = some store ∧
    Counterpart g store (resumedAt g.atZero.layout hsound n)
  unrolled : Unrolled g.flashBase s.flash w
  clean : Clean hsound (norErased g.erased) n w.mem
  succeeded : s.failed = false
  newest : ∀ d, s.last = some d → ∃ m, n = m + 1 ∧
    slotData g.atZero.layout w.mem (hsound.ring.home m) = d ∧
    s.written = some (hsound.ring.home m / g.atZero.layout.slotsPerSector,
      hsound.ring.home m % g.atZero.layout.slotsPerSector)

variable {hsound : Sound g.atZero.layout} {n : Nat} {s : SaveRun} {w : NorFlash}

/-- What init accepts, it accepts at any base. -/
theorem atZero_accepted (husable : Usable g.addressed g.flashBase g.sectorCount g.dataSize) :
    (g.atZero.init g.delivered).1 ≠ none :=
  udsParamInit_usable.mpr ⟨husable.args, husable.sector, husable.granule, husable.room⟩

theorem resumedAt_fitting (hsound : Sound g.atZero.layout)
    (husable : Usable g.addressed g.flashBase g.sectorCount g.dataSize) (hclean : Clean hsound
      (norErased g.erased) n w.mem) : Fitting g.atZero (resumedAt g.atZero.layout hsound n) := by
  have hinit : g.atZero.init w = (some (resumedAt g.atZero.layout hsound n), w) :=
    init_resumedAt hsound g.atZero.onNor.healthy (atZero_accepted husable) hclean.logged
  exact init_fitting hsound (congrArg Prod.fst hinit)

theorem Kept.save (husable : Usable g.addressed g.flashBase g.sectorCount g.dataSize)
    (h : Kept hsound n s w) (data : Buf) :
    ∃ w, Kept hsound (n + 1) (saveStep g s (.save data)) w := by
  obtain ⟨store, hstore, hcounterpart⟩ := h.store
  have hfit := resumedAt_fitting hsound husable h.clean
  have hdataSize : store.dataSize = g.dataSize.toNat :=
    (congrArg UdsParamStore.dataSize hcounterpart.same).trans (resumedAt_dataSize hsound n)
  obtain ⟨hok, hresumed, hclean, -, hdata⟩ := save_clean g.atZero.onNor h.clean h.unrolled.1 data
  obtain ⟨hstatus, hafter, hflash⟩ := hcounterpart.save hsound hfit h.unrolled data
  rw [hok] at hstatus
  rw [hresumed] at hafter
  have htaken := hcounterpart.prepare hsound hfit h.unrolled
  rw [prepare_powered hsound g.atZero.onNor n h.unrolled.1] at htaken
  unfold saveStep
  rw [hstore]
  refine ⟨_, ⟨_, rfl, hafter⟩, hflash, hclean, ?_, fun d hd => ⟨n, rfl, ?_, htaken⟩⟩
  · show (s.failed || decide ((udsParamSave store data s.flash).1 ≠ .ok)) = false
    rw [hstatus, h.succeeded]
    rfl
  · change (if (udsParamSave store data s.flash).1 = .ok then some (data.slice 0 store.dataSize)
      else none) = some d at hd
    rw [if_pos hstatus, hdataSize] at hd
    exact hdata.trans (Option.some.inj hd)

theorem Kept.init (husable : Usable g.addressed g.flashBase g.sectorCount g.dataSize)
    {mem : FlashBytes} (hunrolled : Unrolled g.flashBase mem w)
    (hclean : Clean hsound (norErased g.erased) n w.mem) :
    ∃ store, g.addressedInit mem = (some store, mem) ∧
      Counterpart g store (resumedAt g.atZero.layout hsound n) := by
  have hinit : g.atZero.init w = (some (resumedAt g.atZero.layout hsound n), w) :=
    init_resumedAt hsound g.atZero.onNor.healthy (atZero_accepted husable) hclean.logged
  obtain ⟨store, hstore, hcounterpart⟩ :=
    init_counterpart hsound hunrolled (congrArg Prod.fst hinit)
  exact ⟨store, Prod.ext hstore (udsParamInit_pure (fun _ _ _ => rfl) ..), hcounterpart⟩

theorem Kept.reinit (husable : Usable g.addressed g.flashBase g.sectorCount g.dataSize)
    (h : Kept hsound n s w) : Kept hsound n (saveStep g s .reinit) w := by
  obtain ⟨store, hinit, hcounterpart⟩ := Kept.init husable h.unrolled h.clean
  unfold saveStep SaveRun.reinit
  rw [hinit]
  exact ⟨⟨store, rfl, hcounterpart⟩, h.unrolled, h.clean, h.succeeded, h.newest⟩

theorem saveStart_kept (hsound : Sound g.atZero.layout)
    (husable : Usable g.addressed g.flashBase g.sectorCount g.dataSize) :
    Kept hsound 0 (saveStart g) g.delivered := by
  have hclean : Clean hsound (norErased g.erased) 0 g.delivered.mem := delivered_clean
  have hunrolled : Unrolled g.flashBase g.deliveredBytes g.delivered := ⟨rfl, fun _ _ => rfl⟩
  obtain ⟨store, hinit, hcounterpart⟩ := Kept.init husable hunrolled hclean
  unfold saveStart SaveRun.reinit
  rw [hinit]
  exact ⟨⟨store, rfl, hcounterpart⟩, hunrolled, hclean, rfl, fun d hd => absurd hd (by simp)⟩

/-- The next number is newer than any in the flash. -/
theorem Kept.newer (h : Kept hsound n s w)
    (hnear : g.atZero.layout.sectorCount * g.atZero.layout.slotsPerSector < 32767) {r : Nat}
    (hr : r < g.atZero.layout.sectorCount * g.atZero.layout.slotsPerSector) {seq : UInt16}
    (hseq : slotSeq g.atZero.layout w.mem r = some seq) : Newer (serial n) seq := by
  obtain ⟨k, d, rfl, rfl, hpos, hle⟩ := h.clean.logged.behind hr hseq
  have hle : d ≤ g.atZero.layout.sectorCount * g.atZero.layout.slotsPerSector := hle
  exact newer_serial hpos (by omega)

/-- What is read as a header has the number of its slot. -/
theorem readSlotHeader_seq {L : UdsParamStore NorFlash} (hsound : Sound L) {mem : NorFlash → Buf}
    (hport : Healthy L.port mem) {sector slot : Nat} (hsector : sector < L.sectorCount)
    (hslot : slot < L.slotsPerSector) {hdr : UdsParamSlotHeader}
    (hread : (readSlotHeader L sector slot w).1 = some hdr) :
    ∃ r < L.sectorCount * L.slotsPerSector, slotSeq L (mem w) r = some hdr.seq := by
  have hmul := Nat.mul_le_mul_right L.slotsPerSector (Nat.succ_le_of_lt hsector)
  rw [Nat.succ_mul] at hmul
  have hr : sector * L.slotsPerSector + slot < L.sectorCount * L.slotsPerSector :=
    Nat.lt_of_lt_of_le (Nat.add_lt_add_left hslot _) hmul
  have hheader := readSlotHeader_healthy hsound hport hr w
  rw [Nat.mul_comm, Nat.mul_add_div hsound.pos, Nat.div_eq_of_lt hslot, Nat.add_zero,
    Nat.mul_add_mod, Nat.mod_eq_of_lt hslot] at hheader
  rw [hheader] at hread
  refine ⟨_, hr, ?_⟩
  unfold slotSeq seqAt
  rw [Nat.mul_comm sector]
  split at hread
  next haccepted =>
    rw [if_pos haccepted]
    exact congrArg (Option.map (·.seq)) hread
  next => exact absurd hread (by simp)

end Kept

/-! ## The theorem -/

/-- An init comes up with this store, and it has the last save. -/
structure Restores (g : NorStore) (s : SaveRun) (store : UdsParamStore FlashBytes) : Prop where
  init : g.addressedInit s.flash = (some store, s.flash)
  active : ∀ d, s.last = some d →
    store.hasActiveSlot = true ∧ s.written = some (store.activeSector, store.activeSlot)
  load : ∀ d, s.last = some d → ∀ before, udsParamLoad store before s.flash = (.ok, d, s.flash)
  newer : ∀ data, ∀ sector < store.sectorCount, ∀ slot < store.slotsPerSector, ∀ hdr,
    (readSlotHeader store sector slot s.flash).1 = some hdr →
      Newer (saveHeader store data).seq hdr.seq

/-- For every geometry that init accepts, with slots of 16 bits and fewer than 32767 of them:
however many saves have completed, an init comes up with the slot of the last one, a load gives
the data of the last one, and the next save has a sequence number that is newer than all those
in the flash. -/
theorem newest_wins (g : NorStore)
    (hbytes : slotBytes (portGranule g.port).toNat g.dataSize.toNat < 65536)
    (haccepted : (g.addressedInit g.deliveredBytes).1 ≠ none) (hslots : g.totalSlots < 32767)
    (calls : List SaveCall) :
    let s := run (saveStep g) (saveStart g) calls
    s.failed = false ∧ ∃ store, Restores g s store := by
  have husable : Usable g.addressed g.flashBase g.sectorCount g.dataSize :=
    udsParamInit_usable.mp haccepted
  -- counted from the base, the sectors fit the address space
  have hregion : 0 + g.sectorCount.toNat * g.sectorSize.toNat ≤ 2 ^ 32 := by
    rw [Nat.zero_add]
    exact NorStore.sectors_fit (g := g.atZero) hbytes (atZero_accepted husable) hslots
  obtain ⟨hsound, hnear⟩ :=
    NorStore.layout_sound (g := g.atZero) hbytes hregion (atZero_accepted husable) hslots
  -- the invariant over the run, with a flat flash beside the real one
  obtain ⟨n, w, hkept⟩ : ∃ n w, Kept hsound n (run (saveStep g) (saveStart g) calls) w := by
    refine run_inv (I := fun s => ∃ n w, Kept hsound n s w) (fun s call h => ?_)
      ⟨0, _, saveStart_kept hsound husable⟩ calls
    obtain ⟨n, w, h⟩ := h
    cases call with
    | save data => exact ⟨n + 1, h.save husable data⟩
    | reinit => exact ⟨n, w, h.reinit husable⟩
  intro s
  obtain ⟨store, hinit, hcounterpart⟩ := Kept.init husable hkept.unrolled hkept.clean
  have hfit := resumedAt_fitting hsound husable hkept.clean
  have hsame := hcounterpart.same
  refine ⟨hkept.succeeded, store, hinit, fun d hd => ?_, fun d hd before => ?_,
    fun data sector hsector slot hslot hdr hread => ?_⟩
  · obtain ⟨m, rfl, -, hwritten⟩ := hkept.newest d hd
    have hactive : store.hasActiveSlot = true := congrArg UdsParamStore.hasActiveSlot hsame
    have hsector : store.activeSector = hsound.ring.home m / g.atZero.layout.slotsPerSector :=
      congrArg UdsParamStore.activeSector hsame
    have hslot : store.activeSlot = hsound.ring.home m % g.atZero.layout.slotsPerSector :=
      congrArg UdsParamStore.activeSlot hsame
    refine ⟨hactive, ?_⟩
    rw [hsector, hslot]
    exact hwritten
  · obtain ⟨m, rfl, hdata, -⟩ := hkept.newest d hd
    rw [hcounterpart.load hsound hfit hkept.unrolled before,
      load_resumedAt hsound g.atZero.onNor.healthy hkept.clean.logged before, hdata]
  -- a header that can be read has a number of the log
  · have hnext : store.nextSeq = serial n :=
      (congrArg UdsParamStore.nextSeq hsame).trans (resumedAt_nextSeq hsound n)
    have hslotsSame := resumedAt_sameSlots hsound n
    have hport : Healthy (resumedAt g.atZero.layout hsound n).port NorFlash.mem := by
      rw [resumedAt_port]
      exact g.atZero.onNor.healthy
    have hsectors : store.sectorCount = (resumedAt g.atZero.layout hsound n).sectorCount :=
      congrArg UdsParamStore.sectorCount hsame
    have hcount : store.slotsPerSector = (resumedAt g.atZero.layout hsound n).slotsPerSector :=
      congrArg UdsParamStore.slotsPerSector hsame
    rw [hsectors] at hsector
    rw [hcount] at hslot
    rw [hcounterpart.header hsound hfit hkept.unrolled hsector hslot] at hread
    obtain ⟨r, hr, hseq⟩ :=
      readSlotHeader_seq (hslotsSame.sound hsound) hport hsector hslot hread
    rw [hslotsSame.slotSeq] at hseq
    show Newer store.nextSeq hdr.seq
    rw [hnext]
    rw [hslotsSame.sectorCount, hslotsSame.slotsPerSector] at hr
    exact hkept.newer hnear hr hseq

/-- A single sector of 64 bytes with two slots, the first before the end of the address space and
the second behind it. -/
def loneSector : NorStore := { smallStore with flashBase := 0xFFFFFFE0, sectorCount := 1 }

/-- The third save erases the sector. -/
theorem newest_wins_lone :
    (run (saveStep loneSector) (saveStart loneSector)
        [.save fives, .save fives, .reinit, .save fives]).failed = false ∧
      ∃ store, Restores loneSector (run (saveStep loneSector) (saveStart loneSector)
        [.save fives, .save fives, .reinit, .save fives]) store :=
  newest_wins loneSector (by decide) (by decide +kernel) (by decide)
    [.save fives, .save fives, .reinit, .save fives]

end UdsIsoTp.Flash
