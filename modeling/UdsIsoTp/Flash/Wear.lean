import UdsIsoTp.Flash.Committed
import UdsIsoTp.Flash.PortSim
import UdsIsoTp.Lib.RingWear

/-!
# No sector wears out before the others

The store is there to spread the erases. A port that counts them (`tallied`) shows what a run of
saves costs: a save erases the sector of its slot when it is the first there, and nothing else
(`save_tally`), so the erases follow the log around the ring.

Only a power loss upsets this: the save that it cut is made again, and may erase its sector
again. `Levelled` says that the difference between two sectors is one, and one more for each save
that was cut.
-/

namespace UdsIsoTp.Flash

variable {ω : Type}

/-! ## Counting erases -/

/-- The port, and how often each address has been erased. -/
def UdsFlashPort.tallied (port : UdsFlashPort ω) : UdsFlashPort (ω × (Nat → Nat)) where
  erase w addr :=
    let (done, left) := port.erase w.1 addr
    (done, left, Function.update w.2 addr (w.2 addr + 1))
  read w addr length :=
    let (bytes, left) := port.read w.1 addr length
    (bytes, left, w.2)
  write w addr data :=
    let (done, left) := port.write w.1 addr data
    (done, left, w.2)
  sectorSize := port.sectorSize
  programGranule := port.programGranule
  erasedByte := port.erasedByte

/-- Counting changes nothing. -/
theorem tallied_sim (port : UdsFlashPort ω) (sectorSize : Nat) :
    PortSim (fun w w' => w = w'.1) (fun _ _ => True) sectorSize port port.tallied where
  erase := by
    rintro w ⟨_, erases⟩ addr rfl -
    exact ⟨rfl, rfl⟩
  read := by
    rintro w ⟨_, erases⟩ addr length rfl -
    exact ⟨rfl, rfl⟩
  write := by
    rintro w ⟨_, erases⟩ addr data rfl -
    exact ⟨rfl, rfl⟩

variable {L : UdsParamStore ω}

theorem Sound.reaches (h : Sound L) : Reaches L fun _ _ => True where
  slot := fun _ _ _ _ => trivial
  sector := fun _ => trivial
  base := trivial
  header := h.header
  data_pos := h.data_pos
  payload := h.payload
  room := h.slot
  sectors_pos := h.sectors_pos
  pos := h.pos

theorem Sound.on {ω' : Type} (h : Sound L) (port : UdsFlashPort ω') : Sound (L.on port) where
  data_pos := h.data_pos
  data_lt := h.data_lt
  header := h.header
  payload := h.payload
  slot := h.slot
  slots := h.slots
  region := h.region
  sectors_pos := h.sectors_pos
  pos := h.pos
  near := h.near
  near_sector := h.near_sector

theorem resumedAt_on {ω' : Type} (hsound : Sound L) (port : UdsFlashPort ω') (n : Nat) :
    (resumedAt L hsound n).on port = resumedAt (L.on port) (hsound.on port) n := by
  cases n <;> rfl

theorem slotSeq_on {ω' : Type} (port : UdsFlashPort ω') (mem : Buf) :
    slotSeq (L.on port) mem = slotSeq L mem := by
  funext r
  exact if_congr ⟨fun h => ⟨h.magic, h.dataSize, h.crc⟩, fun h => ⟨h.magic, h.dataSize, h.crc⟩⟩
    rfl rfl

theorem resumedAt_reaches (hsound : Sound L) (n : Nat) :
    Reaches (resumedAt L hsound n) fun _ _ => True := by
  have h := hsound.reaches
  cases n <;> exact ⟨h.slot, h.sector, h.base, h.header, h.data_pos, h.payload, h.room,
    h.sectors_pos, h.pos⟩

theorem resumedAt_placed (hsound : Sound L) (n : Nat) : Placed (resumedAt L hsound n) := by
  cases n with
  | zero => exact ⟨hsound.sectors_pos, hsound.pos⟩
  | succ m =>
    refine ⟨Nat.div_lt_of_lt_mul ?_, Nat.mod_lt _ hsound.pos⟩
    rw [Nat.mul_comm]
    exact hsound.ring.home_lt m

/-- A padded write erases nothing. -/
theorem writePaddedChunked_tally {store : UdsParamStore (ω × (Nat → Nat))} {port : UdsFlashPort ω}
    (hport : store.port = port.tallied) (addr : Nat) (src : Buf) (srcSize total written : Nat)
    (w : ω × (Nat → Nat)) :
    (writePaddedChunked store addr src srcSize total written w).2.2 = w.2 := by
  induction hleft : total - written using Nat.strong_induction_on generalizing written w with
  | _ left ih =>
    unfold writePaddedChunked
    by_cases hmore : written < total
    · rw [dif_pos hmore, hport]
      dsimp only
      split
      next => rfl
      next => exact ih _ (by omega) _ _ rfl
    · rw [dif_neg hmore]

theorem writeSlot_tally {store : UdsParamStore (ω × (Nat → Nat))} {port : UdsFlashPort ω}
    (hport : store.port = port.tallied) (data : Buf) (sector slot : Nat) (w : ω × (Nat → Nat)) :
    (writeSlot store data sector slot w).2.2 = w.2 := by
  unfold writeSlot
  dsimp only
  split
  next => exact writePaddedChunked_tally hport ..
  next => rw [writePaddedChunked_tally hport, writePaddedChunked_tally hport]

/-- One more erase at the address. -/
def bump (erases : Nat → Nat) (addr : Nat) : Nat → Nat :=
  Function.update erases addr (erases addr + 1)

/-- A save erases the sector that it enters, if it enters one. -/
theorem save_tally {port : UdsFlashPort ω} (hsound : Sound L) (n : Nat) (data : Buf)
    (w : ω × (Nat → Nat)) :
    (udsParamSave ((resumedAt L hsound n).on port.tallied) data w).2.2.2
      = if hsound.ring.Enters n then bump w.2 (sectorStart L (hsound.ring.home n)) else w.2 := by
  have hprepared : (prepareNextSlot ((resumedAt L hsound n).on port.tallied) w).2.2
      = if hsound.ring.Enters n then bump w.2 (sectorStart L (hsound.ring.home n)) else w.2 := by
    rw [resumedAt_on, prepareNextSlot_resumedAt]
    change (if hsound.ring.Enters n then _ else _ : Option (Nat × Nat) × ω × (Nat → Nat)).2.2 = _
    split
    next => rfl
    next => rfl
  unfold udsParamSave
  rw [if_neg (by cases n <;> simp [resumedAt, UdsParamStore.on]), ← hprepared]
  split
  next left hslot => rw [hslot]
  next sector slot left hslot =>
    dsimp only
    rw [hslot]
    split
    next => exact writeSlot_tally rfl ..
    next => exact writeSlot_tally rfl ..

/-! ## Runs -/

/-- `uds_param_write_count` -/
def udsParamWriteCount (store : UdsParamStore ω) : UInt16 :=
  if ¬store.hasActiveSlot ∨ store.nextSeq = 0 then 0 else store.nextSeq - 1

/-- The store counts its items modulo 65535. -/
theorem writeCount_resumedAt (hsound : Sound L) (n : Nat) :
    (udsParamWriteCount (resumedAt L hsound n)).toNat = n % 65535 := by
  cases n with
  | zero => rfl
  | succ m =>
    have hserial := toNat_serial (m + 1)
    have hmod : (m + 1) % 65535 < 65535 := Nat.mod_lt _ (by decide)
    have hpos : serial (m + 1) ≠ 0 := fun hzero => by
      rw [hzero] at hserial
      exact absurd hserial.symm (Nat.succ_ne_zero _)
    unfold udsParamWriteCount
    rw [if_neg (by simpa [resumedAt] using hpos), show (resumedAt L hsound (m + 1)).nextSeq
      = serial (m + 1) from rfl, UInt16.toNat_sub_of_le _ _ (UInt16.le_iff_toNat_le.mpr ?_), hserial]
    · rfl
    · rw [hserial]
      exact Nat.succ_le_succ (Nat.zero_le _)

/-- A history that counts how often each address was erased. -/
structure WearRun where
  flash : NorFlash
  erases : Nat → Nat
  store : Option (UdsParamStore (NorFlash × (Nat → Nat)))

/-- Power comes back, and the store looks at the flash again. -/
def WearRun.reinit (g : NorStore) (s : WearRun) : WearRun :=
  let (store, flash, erases) := udsParamInit g.port.tallied g.flashBase g.sectorCount g.dataSize
    ({ s.flash with cut := none }, s.erases)
  ⟨flash, erases, store⟩

/-- A save with this power. -/
def WearRun.save (s : WearRun) (data : Buf) (cut : Option (Nat × Nat)) : WearRun :=
  match s.store with
  | none => s
  | some store =>
    let (_, store, flash, erases) := udsParamSave store data ({ s.flash with cut := cut }, s.erases)
    ⟨flash, erases, some store⟩

/-- One call. -/
def wearStep (g : NorStore) (s : WearRun) : StoreCall → WearRun
  | .save data => s.save data none
  | .cutSave data operations bytes => (s.save data (some (operations, bytes))).reinit g
  | .reinit => s.reinit g

/-- The flash as delivered, with the store come up. -/
def wearStart (g : NorStore) : WearRun := WearRun.reinit g ⟨g.delivered, fun _ => 0, none⟩

/-- Where sector `s` begins. -/
def NorStore.sectorAt (g : NorStore) (s : Nat) : Nat :=
  g.flashBase.toNat + s * g.sectorSize.toNat

/-- The calls that save, and those of them that are cut. -/
def saves (calls : List StoreCall) : Nat :=
  calls.countP fun call => match call with | .reinit => false | _ => true

/-- How many saves were cut short. -/
def cuts (calls : List StoreCall) : Nat :=
  calls.countP fun call => match call with | .cutSave .. => true | _ => false

section Worn

variable {g : NorStore} {hsound : Sound g.layout}

/-- Each sector has been erased when one of `n` items entered it, or for a save that was cut. -/
structure Spread (hsound : Sound g.layout) (n lost : Nat) (erases : Nat → Nat) : Prop where
  low : ∀ r < g.sectorCount.toNat, hsound.ring.entered r n ≤ erases (g.sectorAt r)
  high : ∀ r < g.sectorCount.toNat, erases (g.sectorAt r) ≤ hsound.ring.entered r n + lost
  elsewhere : ∀ a, erases a ≠ 0 → ∃ r < g.sectorCount.toNat, a = g.sectorAt r

/-- The erases once item `n` is written. -/
def erasesFor (hsound : Sound g.layout) (n : Nat) (erases : Nat → Nat) : Nat → Nat :=
  if hsound.ring.Enters n then bump erases (sectorStart g.layout (hsound.ring.home n)) else erases

theorem sectorAt_inj (hsound : Sound g.layout) {r s : Nat} (h : g.sectorAt r = g.sectorAt s) :
    r = s := by
  have hheader : 16 ≤ g.layout.headerSize := hsound.header
  have hslot := hsound.slot
  have hfirst := Nat.mul_le_mul_right g.layout.slotSize hsound.pos
  have hslots : g.layout.slotsPerSector * g.layout.slotSize ≤ g.sectorSize.toNat := hsound.slots
  rw [Nat.succ_mul, Nat.zero_mul, Nat.zero_add] at hfirst
  unfold NorStore.sectorAt at h
  exact Nat.eq_of_mul_eq_mul_right (show 0 < g.sectorSize.toNat by omega) (Nat.add_left_cancel h)

theorem erasesFor_sector (hsound : Sound g.layout) (n r : Nat) (erases : Nat → Nat) :
    erasesFor hsound n erases (g.sectorAt r)
      = erases (g.sectorAt r) + if hsound.ring.EntersSector r n then 1 else 0 := by
  have hstart : sectorStart g.layout (hsound.ring.home n)
    = g.sectorAt (hsound.ring.home n / hsound.ring.perSector) := rfl
  unfold erasesFor
  rw [hstart]
  by_cases henters : hsound.ring.Enters n
  · rw [if_pos henters]
    unfold bump
    by_cases hr : hsound.ring.home n / hsound.ring.perSector = r
    · rw [if_pos ⟨henters, hr⟩, hr, Function.update_self]
    · rw [if_neg fun h => hr h.2,
        Function.update_of_ne fun h => hr (sectorAt_inj hsound h).symm, Nat.add_zero]
  · rw [if_neg henters, if_neg fun h => henters h.1, Nat.add_zero]

theorem Spread.elsewhere_for {n lost : Nat} {erases : Nat → Nat} (h : Spread hsound n lost erases) :
    ∀ a, erasesFor hsound n erases a ≠ 0 → ∃ r < g.sectorCount.toNat, a = g.sectorAt r := by
  intro a ha
  unfold erasesFor at ha
  split at ha
  next =>
    by_cases hhere : a = sectorStart g.layout (hsound.ring.home n)
    · refine ⟨hsound.ring.home n / g.layout.slotsPerSector, Nat.div_lt_of_lt_mul ?_, hhere⟩
      rw [Nat.mul_comm]
      exact hsound.ring.home_lt n
    · unfold bump at ha
      rw [Function.update_of_ne hhere] at ha
      exact h.elsewhere a ha
  next => exact h.elsewhere a ha

/-- The erase of an item that has joined the log is one that all sectors have in turn. -/
theorem Spread.joined {n lost : Nat} {erases : Nat → Nat} (h : Spread hsound n lost erases) :
    Spread hsound (n + 1) lost (erasesFor hsound n erases) := by
  refine ⟨fun r hr => ?_, fun r hr => ?_, h.elsewhere_for⟩
  · have hlow := h.low r hr
    rw [erasesFor_sector, SectorRing.entered_succ]
    omega
  · have hhigh := h.high r hr
    rw [erasesFor_sector, SectorRing.entered_succ]
    omega

/-- That of a save which was cut may have to be made again. -/
theorem Spread.cut {n lost : Nat} {erases : Nat → Nat} (h : Spread hsound n lost erases) :
    Spread hsound n (lost + 1) (erasesFor hsound n erases) := by
  refine ⟨fun r hr => ?_, fun r hr => ?_, h.elsewhere_for⟩
  · have hlow := h.low r hr
    rw [erasesFor_sector]
    omega
  · have hhigh := h.high r hr
    rw [erasesFor_sector]
    split <;> omega

theorem Spread.more {n lost : Nat} {erases : Nat → Nat} (h : Spread hsound n lost erases) :
    Spread hsound n (lost + 1) erases :=
  ⟨h.low, fun r hr => Nat.le_succ_of_le (h.high r hr), h.elsewhere⟩

/-- The store is behind its `n` items of at most `saved`, and the sectors have been erased for
them and for the saves that were cut. -/
structure Worn (hsound : Sound g.layout) (n saved lost : Nat) (s : WearRun) : Prop where
  store : s.store = some ((resumedAt g.layout hsound n).on g.port.tallied)
  headless : Headless hsound (norErased g.erased) n s.flash.mem
  whole : lost = 0 → Clean hsound (norErased g.erased) n s.flash.mem ∧ n = saved
  within : n ≤ saved
  spread : Spread hsound n lost s.erases

/-- A save with this power, on the flash alone and on the one that counts. -/
theorem WearRun.save_eq {n saved lost : Nat} {s : WearRun} (h : Worn hsound n saved lost s)
    (data : Buf) (cut : Option (Nat × Nat)) :
    let out := udsParamSave (resumedAt g.layout hsound n) data { s.flash with cut := cut }
    s.save data cut = ⟨out.2.2, erasesFor hsound n s.erases, some (out.2.1.on g.port.tallied)⟩ := by
  intro out
  have hport : (resumedAt g.layout hsound n).port = g.port := resumedAt_port ..
  have hsim := tallied_sim g.port (resumedAt g.layout hsound n).sectorSize
  rw [← hport] at hsim
  obtain ⟨-, hstore, hflash⟩ := udsParamSave_sim hsim (resumedAt_reaches hsound n)
    (resumedAt_placed hsound n) data
    (rfl : ((({ s.flash with cut := cut }, s.erases) : NorFlash × (Nat → Nat))).1
      = { s.flash with cut := cut })
  rw [hport] at hstore hflash
  have htally : (udsParamSave ((resumedAt g.layout hsound n).on g.port.tallied) data
      ({ s.flash with cut := cut }, s.erases)).2.2.2 = erasesFor hsound n s.erases :=
    save_tally hsound n data _
  unfold WearRun.save
  rw [h.store]
  dsimp only
  rw [hstore, htally, ← hflash]

theorem WearRun.reinit_worn {w₀ : NorFlash} (haccepted : (g.init w₀).1 ≠ none) {n saved lost : Nat}
    {s : WearRun} (hheadless : Headless hsound (norErased g.erased) n s.flash.mem)
    (hwhole : lost = 0 → Clean hsound (norErased g.erased) n s.flash.mem ∧ n = saved)
    (hwithin : n ≤ saved) (hspread : Spread hsound n lost s.erases) :
    Worn hsound n saved lost (s.reinit g) := by
  have husable := udsParamInit_usable.mp haccepted
  have hlogged : hsound.ring.Logged serial
      (slotSeq (g.layout.on g.port.tallied) s.flash.mem) n := by
    rw [slotSeq_on]
    exact hheadless.logged
  have htallied : udsParamInit g.port.tallied g.flashBase g.sectorCount g.dataSize
        ({ s.flash with cut := none }, s.erases)
      = (some ((resumedAt g.layout hsound n).on g.port.tallied),
        ({ s.flash with cut := none }, s.erases)) := by
    rw [resumedAt_on]
    have hhealthy : Healthy g.port.tallied fun w => w.1.mem := ⟨fun _ _ _ => rfl⟩
    have hinit : (udsParamInit g.port.tallied g.flashBase g.sectorCount g.dataSize
        (w₀, s.erases)).1 ≠ none :=
      udsParamInit_usable.mpr ⟨husable.args, husable.sector, husable.granule, husable.room⟩
    exact init_resumedAt (hsound.on g.port.tallied) hhealthy hinit hlogged
  unfold WearRun.reinit
  rw [htallied]
  exact ⟨rfl, hheadless, hwhole, hwithin, hspread⟩

/-- What a save makes of the log, with power or without. -/
theorem save_worn (htwo : 2 ≤ g.sectorCount.toNat) {n : Nat} {w : NorFlash} (hwhole : w.Whole)
    (hheadless : Headless hsound (norErased g.erased) n w.mem) (data : Buf) :
    let out := udsParamSave (resumedAt g.layout hsound n) data w
    (out.2.1 = resumedAt g.layout hsound n ∧ Headless hsound (norErased g.erased) n out.2.2.mem ∧
        (w.cut = none → ¬hsound.ring.Enters n ∧ ¬Clean hsound (norErased g.erased) n w.mem)) ∨
      (w.cut = none → out.2.1 = resumedAt g.layout hsound (n + 1)) ∧
        Clean hsound (norErased g.erased) (n + 1) out.2.2.mem := by
  intro out
  obtain ⟨⟨herr, hstore, hkept⟩ | ⟨hresult, hclean, -⟩, -⟩ :=
    save_headless htwo g.onNor hwhole hheadless data
  · refine .inl ⟨hstore, hkept, fun hpower => ⟨fun henters => ?_, fun hclean => ?_⟩⟩
    · -- an erased sector takes the save
      obtain ⟨j, k, h, H⟩ := save_outcome hsound g.onNor n data w
      have hok := (H.powered hpower).2 (.inl henters)
      rw [hok] at herr
      exact absurd herr (by decide)
    · have hok := (save_clean g.onNor hclean hpower data).1
      rw [hok] at herr
      exact absurd herr (by decide)
  · exact .inr ⟨fun hpower => (hresult.resolve_right (not_not.mpr hpower)).2, hclean⟩

theorem wearStep_worn (htwo : 2 ≤ g.sectorCount.toNat) {w₀ : NorFlash}
    (haccepted : (g.init w₀).1 ≠ none) {s : WearRun} {n saved lost : Nat} (call : StoreCall)
    (hcall : call.Whole) (h : Worn hsound n saved lost s) :
    ∃ n', Worn hsound n' (saved + saves [call]) (lost + cuts [call]) (wearStep g s call) := by
  cases call with
  | save data =>
    have hsaved := save_worn (w := { s.flash with cut := none }) htwo
      (fun cut hcut => absurd hcut (by simp)) h.headless data
    show ∃ n', Worn hsound n' (saved + 1) lost (s.save data none)
    rw [WearRun.save_eq h]
    dsimp only at hsaved ⊢
    obtain ⟨hstore, hkept, hrefused⟩ | ⟨hstore, hclean⟩ := hsaved
    · -- a save that fails with power has not entered a sector, and there has been a cut before it
      obtain ⟨hstays, hdirty⟩ := hrefused rfl
      refine ⟨n, by rw [hstore], hkept, fun hlost => absurd (h.whole hlost).1 hdirty,
        Nat.le_succ_of_le h.within, ?_⟩
      unfold erasesFor
      rw [if_neg hstays]
      exact h.spread
    · exact ⟨n + 1, by rw [hstore rfl], hclean.headless,
        fun hlost => ⟨hclean, congrArg Nat.succ (h.whole hlost).2⟩, Nat.succ_le_succ h.within,
        h.spread.joined⟩
  | cutSave data operations bytes =>
    have hbytes : bytes = 0 := hcall
    have hsaved := save_worn (w := { s.flash with cut := some (operations, bytes) }) htwo
      (fun cut hcut => by rw [← Option.some.inj hcut, hbytes]) h.headless data
    show ∃ n', Worn hsound n' (saved + 1) (lost + 1)
      ((s.save data (some (operations, bytes))).reinit g)
    rw [WearRun.save_eq h]
    dsimp only at hsaved ⊢
    obtain ⟨-, hkept, -⟩ | ⟨-, hclean⟩ := hsaved
    · exact ⟨n, WearRun.reinit_worn haccepted hkept (fun hlost => absurd hlost (Nat.succ_ne_zero _))
        (Nat.le_succ_of_le h.within) h.spread.cut⟩
    · exact ⟨n + 1, WearRun.reinit_worn haccepted hclean.headless
        (fun hlost => absurd hlost (Nat.succ_ne_zero _)) (Nat.succ_le_succ h.within)
        h.spread.joined.more⟩
  | reinit =>
    exact ⟨n, WearRun.reinit_worn haccepted h.headless h.whole h.within h.spread⟩

theorem wearStart_worn {w₀ : NorFlash} (haccepted : (g.init w₀).1 ≠ none) :
    Worn hsound 0 0 0 (wearStart g) := by
  refine WearRun.reinit_worn haccepted delivered_clean.headless (fun _ => ⟨delivered_clean, rfl⟩)
    (Nat.le_refl _) ⟨fun r _ => ?_, fun r _ => Nat.zero_le _, fun a ha => absurd rfl ha⟩
  rw [SectorRing.entered_zero]

theorem saves_concat (calls : List StoreCall) (call : StoreCall) :
    saves (calls ++ [call]) = saves calls + saves [call] := List.countP_append

theorem cuts_concat (calls : List StoreCall) (call : StoreCall) :
    cuts (calls ++ [call]) = cuts calls + cuts [call] := List.countP_append

theorem wearRun_worn (htwo : 2 ≤ g.sectorCount.toNat) {w₀ : NorFlash}
    (haccepted : (g.init w₀).1 ≠ none) {calls : List StoreCall}
    (hcalls : ∀ call ∈ calls, call.Whole) :
    ∃ n, Worn hsound n (saves calls) (cuts calls) (run (wearStep g) (wearStart g) calls) := by
  refine Along.history (I := fun calls s => ∃ n, Worn hsound n (saves calls) (cuts calls) s)
    ⟨0, wearStart_worn haccepted⟩ (fun calls call hworn hcall => ?_)
    (along_of_forall hcalls (wearStart g))
  obtain ⟨n, h⟩ := hworn
  rw [saves_concat, cuts_concat]
  exact wearStep_worn htwo haccepted call hcall h

end Worn

/-! ## The theorem -/

/-- The erases of a store that has been saved to so often, with so many of the saves cut. -/
structure Levelled (g : NorStore) (saved lost : Nat) (s : WearRun) : Prop where
  /-- Only the sectors of the store are erased. -/
  elsewhere : ∀ a, s.erases a ≠ 0 → ∃ r < g.sectorCount.toNat, a = g.sectorAt r
  /-- Any two of them equally often, up to one and the saves that were cut. -/
  apart : ∀ r < g.sectorCount.toNat, ∀ r' < g.sectorCount.toNat,
    s.erases (g.sectorAt r) ≤ s.erases (g.sectorAt r') + 1 + lost
  /-- And none more than once for as many saves as the store has slots. -/
  laps : ∀ r < g.sectorCount.toNat, s.erases (g.sectorAt r)
    ≤ saved / (g.sectorCount.toNat * g.layout.slotsPerSector) + 1 + lost
  /-- Without a power loss the store counts its saves, modulo 65535. -/
  counted : lost = 0 → ∃ store, s.store = some store ∧
    (udsParamWriteCount store).toNat = saved % 65535

/-- Whatever saves there have been and whichever of them were cut between two operations of the
flash, the sectors of the store have been erased equally often, up to one and the cut saves. -/
theorem wear_levelled (g : NorStore) (hfits : Fits g.port g.flashBase g.sectorCount g.dataSize)
    (haccepted : (g.init g.delivered).1 ≠ none)
    (hcountable : Countable g.port g.flashBase g.sectorCount g.dataSize) (calls : List StoreCall)
    (hcalls : ∀ call ∈ calls, call.Whole) :
    Levelled g (saves calls) (cuts calls) (run (wearStep g) (wearStart g) calls) := by
  have hdata : g.dataSize ≠ 0 := (udsParamInit_accepted haccepted g.delivered).1
  have hsound : Sound g.layout := layOut_sound hfits hcountable hdata
  obtain ⟨n, h⟩ : ∃ n, Worn hsound n (saves calls) (cuts calls)
      (run (wearStep g) (wearStart g) calls) := wearRun_worn hfits.two_le haccepted hcalls
  refine ⟨h.spread.elsewhere, fun r hr r' hr' => ?_, fun r hr => ?_, fun hlost => ?_⟩
  · have hhigh := h.spread.high r hr
    have hlow := h.spread.low r' hr'
    have hlevel := hsound.ring.entered_le_entered hr hr' n
    omega
  · have hhigh := h.spread.high r hr
    have hlaps := hsound.ring.entered_le (s := r) hr n
    have hmore := Nat.div_le_div_right (c := hsound.ring.size) h.within
    change n / hsound.ring.size ≤ saves calls / (g.sectorCount.toNat * g.layout.slotsPerSector)
      at hmore
    omega
  · refine ⟨_, h.store, ?_⟩
    rw [← (h.whole hlost).2, ← writeCount_resumedAt hsound n]
    rfl

/-- Three saves, the second of them cut before its header, and an init. -/
theorem wear_levelled_small :
    Levelled smallStore 3 1 (run (wearStep smallStore) (wearStart smallStore)
      [.save fives, .cutSave fives 1 0, .reinit, .save fives]) :=
  wear_levelled smallStore ⟨by decide, by decide, by decide⟩ (by decide +kernel)
    ⟨by decide, by decide⟩ [.save fives, .cutSave fives 1 0, .reinit, .save fives]
    (by simp [StoreCall.Whole])

end UdsIsoTp.Flash
