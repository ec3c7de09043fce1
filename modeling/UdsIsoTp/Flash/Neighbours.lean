import UdsIsoTp.Flash.PortSim
import UdsIsoTp.Flash.Recovery
import UdsIsoTp.Lib.TwoRuns

/-!
# Stores on one flash

The security state, the version floor and the trouble codes are kept in stores of their own, on
one flash. A store reads and writes inside its own sectors (`layout_reaches`): two flashes that
agree there are the same to it (`nor_sim`), and it leaves the rest as it was (`nor_frame`).

So any number of stores whose sectors lie apart are alone, each of them, whatever the order of
their calls and whichever of them loses the power (`stores_apart`): the others are to a store
the inits that follow a power loss, and nothing else.
-/

namespace UdsIsoTp.Flash

/-! ## One store -/

/-- The same power, and the same bytes from `lo` up to `hi`. -/
def SameRegion (lo hi : Nat) (w w' : NorFlash) : Prop :=
  w.cut = w'.cut ∧ ∀ a, lo ≤ a → a < hi → w.mem a = w'.mem a

/-- A flash whose bytes outside are those of `mem`. -/
def SameOutside (lo hi : Nat) (mem : Buf) (w w' : NorFlash) : Prop :=
  w = w' ∧ ∀ a, a < lo ∨ hi ≤ a → w.mem a = mem a

/-- The bytes lie inside the range. -/
def Within (lo hi addr length : Nat) : Prop := lo ≤ addr ∧ addr + length ≤ hi

theorem NorFlash.spend_congr {w w' : NorFlash} (h : w.cut = w'.cut) (length : Nat) :
    w.spend length = w'.spend length := by
  unfold NorFlash.spend
  rw [h]

section Nor

variable {sectorSize : UInt32} {granule erased : UInt8} {lo hi : Nat}

/-- Copying the same bytes keeps two memories the same. -/
theorem SameRegion.copy {w w' : NorFlash} (h : SameRegion lo hi w w') (addr : Nat) (src : Buf)
    (bytes : Nat) (cut : Option (Nat × Nat)) :
    SameRegion lo hi ⟨w.mem.copy addr src 0 bytes, cut⟩ ⟨w'.mem.copy addr src 0 bytes, cut⟩ := by
  refine ⟨rfl, fun a hlo hhi => ?_⟩
  show w.mem.copy addr src 0 bytes a = w'.mem.copy addr src 0 bytes a
  unfold Buf.copy
  split
  next => rfl
  next => exact h.2 a hlo hhi

/-- Two flashes that agree on a region are the same inside it. -/
theorem nor_sim :
    PortSim (SameRegion lo hi) (Within lo hi) sectorSize.toNat
      (norPort sectorSize granule erased) (norPort sectorSize granule erased) where
  erase := by
    intro w w' addr h _
    have hspend := NorFlash.spend_congr h.1 sectorSize.toNat
    refine ⟨congrArg (·.2.1) hspend, ?_⟩
    show SameRegion lo hi
      ⟨w.mem.copy addr _ 0 (w.spend sectorSize.toNat).1, (w.spend sectorSize.toNat).2.2⟩
      ⟨w'.mem.copy addr _ 0 (w'.spend sectorSize.toNat).1, (w'.spend sectorSize.toNat).2.2⟩
    rw [hspend]
    exact h.copy addr _ _ _
  read := by
    intro w w' addr length h hin
    refine ⟨congrArg some (Buf.slice_congr fun i hi' => ?_), h⟩
    have hlo := hin.1
    have hhi := hin.2
    exact h.2 _ (by omega) (by omega)
  write := by
    intro w w' addr data h hin
    have hlo := hin.1
    have hhi := hin.2
    have hblank : Blank (norErased erased) w.mem addr data.length ↔
        Blank (norErased erased) w'.mem addr data.length := by
      refine forall_congr' fun i => forall_congr' fun hi' => ?_
      rw [h.2 (addr + i) (by omega) (by omega)]
    have hspend := NorFlash.spend_congr h.1 data.length
    show SameOutcome _ (norWrite _ w addr data) (norWrite _ w' addr data)
    unfold norWrite
    by_cases hready : Blank (norErased erased) w.mem addr data.length
    · rw [if_pos hready, if_pos (hblank.mp hready), hspend]
      exact ⟨rfl, h.copy addr _ _ _⟩
    · rw [if_neg hready, if_neg fun hready' => hready (hblank.mpr hready')]
      exact ⟨rfl, h⟩

/-- What happens inside a region leaves the rest as it was. -/
theorem nor_frame (mem : Buf) :
    PortSim (SameOutside lo hi mem) (Within lo hi) sectorSize.toNat
      (norPort sectorSize granule erased) (norPort sectorSize granule erased) where
  erase := by
    rintro w _ addr ⟨rfl, h⟩ hin
    have hlo := hin.1
    have hhi := hin.2
    have hle := w.spend_le sectorSize.toNat
    refine ⟨rfl, rfl, fun a ha => ?_⟩
    rw [← h a ha]
    show w.mem.copy addr (fun _ => norErased erased) 0 (w.spend sectorSize.toNat).1 a = w.mem a
    exact Buf.copy_outside (by omega)
  read := fun h _ => ⟨by rw [h.1], h⟩
  write := by
    rintro w _ addr data ⟨rfl, h⟩ hin
    have hlo := hin.1
    have hhi := hin.2
    have hle := w.spend_le data.length
    refine ⟨rfl, rfl, fun a ha => ?_⟩
    rw [← h a ha]
    show (norWrite _ w addr data).2.mem a = _
    unfold norWrite
    split
    next => exact Buf.copy_outside (by omega)
    next => rfl

end Nor

/-- A flash with power keeps it. -/
theorem nor_powered {g : NorStore} {inside : Nat → Nat → Prop} :
    PortSim (fun w w' : NorFlash => w = w' ∧ w.cut = none) inside g.sectorSize.toNat g.port
      g.port where
  erase := by
    rintro w _ addr ⟨rfl, h⟩ -
    exact ⟨rfl, rfl, congrArg (·.2.2) (NorFlash.spend_powered h g.sectorSize.toNat)⟩
  read := fun h _ => ⟨by rw [h.1], h⟩
  write := by
    rintro w _ addr data ⟨rfl, h⟩ -
    refine ⟨rfl, rfl, ?_⟩
    show (norWrite _ w addr data).2.cut = none
    unfold norWrite
    split
    next => exact congrArg (·.2.2) (NorFlash.spend_powered h data.length)
    next => exact h

/-- The sectors of a store. -/
def NorStore.Inside (g : NorStore) : Nat → Nat → Prop :=
  Within g.flashBase.toNat (g.flashBase.toNat + g.sectorCount.toNat * g.sectorSize.toNat)

/-- A store stays in its sectors. -/
theorem layout_reaches {g : NorStore} (hsound : Sound g.layout) : Reaches g.layout g.Inside := by
  have hheader : 16 ≤ g.layout.headerSize := hsound.header
  have hroom := hsound.slot
  have hregion : g.flashBase.toNat + g.sectorCount.toNat * g.sectorSize.toNat ≤ 2 ^ 32 :=
    hsound.region
  have hsector : ∀ {sector}, sector < g.sectorCount.toNat →
      sector * g.sectorSize.toNat + g.sectorSize.toNat
        ≤ g.sectorCount.toNat * g.sectorSize.toNat := by
    intro sector hlt
    have hmul := Nat.mul_le_mul_right g.sectorSize.toNat (Nat.succ_le_of_lt hlt)
    rwa [Nat.succ_mul] at hmul
  have hslot : ∀ {slot}, slot < g.layout.slotsPerSector →
      slot * g.layout.slotSize + g.layout.slotSize ≤ g.sectorSize.toNat := by
    intro slot hlt
    have hmul := Nat.mul_le_mul_right g.layout.slotSize (Nat.succ_le_of_lt hlt)
    rw [Nat.succ_mul] at hmul
    exact Nat.le_trans hmul hsound.slots
  have hpos := hslot hsound.pos
  refine ⟨fun {sector slot offset length} hs hin hlen hle => ?_, fun {sector} hs => ?_, ?_,
    hsound.header, hsound.data_pos, hsound.payload, hsound.slot, hsound.sectors_pos, hsound.pos⟩
  · have hsector := hsector hs
    have hslot := hslot hin
    show Within _ _ (((g.flashBase.toNat + sector * g.sectorSize.toNat + slot * g.layout.slotSize)
      % 2 ^ 32 + offset) % 2 ^ 32) length
    rw [Nat.mod_add_mod, Nat.mod_eq_of_lt (by omega)]
    exact ⟨by omega, by omega⟩
  · have hsector := hsector hs
    show Within _ _ ((g.flashBase.toNat + sector * g.sectorSize.toNat) % 2 ^ 32)
      g.sectorSize.toNat
    rw [Nat.mod_eq_of_lt (by omega)]
    exact ⟨by omega, by omega⟩
  · have hfirst := hsector hsound.sectors_pos
    exact ⟨Nat.le_refl _, by
      show g.flashBase.toNat + g.sectorSize.toNat ≤ _
      omega⟩

/-- The store in memory is one of this geometry. -/
structure Fitting (g : NorStore) (store : UdsParamStore NorFlash) : Prop where
  port : store.port = g.port
  sectorSize : store.sectorSize = g.sectorSize.toNat
  reaches : Reaches store g.Inside
  placed : Placed store

section One

variable {g : NorStore} {store : UdsParamStore NorFlash}

theorem init_fitting (hsound : Sound g.layout) {w : NorFlash} (h : (g.init w).1 = some store) :
    Fitting g store := by
  have hreach := layout_reaches hsound
  obtain ⟨best, rfl, hplaced⟩ := udsParamInit_placed hreach h
  refine ⟨?_, ?_, ?_, hplaced⟩
  · cases best <;> rfl
  · cases best <;> rfl
  · cases best <;> exact ⟨hreach.slot, hreach.sector, hreach.base, hreach.header, hreach.data_pos,
      hreach.payload, hreach.room, hreach.sectors_pos, hreach.pos⟩

theorem Fitting.save (h : Fitting g store) (data : Buf) (w : NorFlash) :
    Fitting g (udsParamSave store data w).2.1 := by
  obtain ⟨hport, hsize, hreaches, hplaced⟩ := udsParamSave_placed h.reaches h.placed data w
  exact ⟨hport.trans h.port, hsize.trans h.sectorSize, hreaches, hplaced⟩

/-- What two flashes have in common, inside the store, they have after a save. -/
theorem Fitting.save_sim {R : NorFlash → NorFlash → Prop} (h : Fitting g store)
    (hsim : PortSim R g.Inside g.sectorSize.toNat g.port g.port) (data : Buf) (w w' : NorFlash)
    (hR : R w w') :
    (udsParamSave store data w').1 = (udsParamSave store data w).1 ∧
      (udsParamSave store data w').2.1 = (udsParamSave store data w).2.1 ∧
      R (udsParamSave store data w).2.2 (udsParamSave store data w').2.2 := by
  have hsim' : PortSim R g.Inside store.sectorSize store.port store.port := by
    rw [h.port, h.sectorSize]
    exact hsim
  have hsame := udsParamSave_sim hsim' h.reaches h.placed data hR
  have hport := (udsParamSave_placed h.reaches h.placed data w).1
  have hstore : (udsParamSave store data w).2.1.on store.port = (udsParamSave store data w).2.1 := by
    rw [← hport]
    rfl
  rw [hstore] at hsame
  exact hsame

/-- A healthy flash is as it was after an init. -/
theorem init_flash (g : NorStore) (w : NorFlash) : (g.init w).2 = w :=
  udsParamInit_pure (fun _ _ _ => rfl) g.flashBase g.sectorCount g.dataSize w

theorem init_same (hsound : Sound g.layout) {lo hi : Nat}
    (hlo : lo = g.flashBase.toNat)
    (hhi : hi = g.flashBase.toNat + g.sectorCount.toNat * g.sectorSize.toNat) {w w' : NorFlash}
    (h : SameRegion lo hi w w') : (g.init w').1 = (g.init w).1 := by
  subst hlo hhi
  have hkind : SameKind g.port g.port := ⟨rfl, rfl, rfl⟩
  obtain ⟨hstore, -⟩ := udsParamInit_sim hkind nor_sim (layout_reaches hsound) h
  refine hstore.trans ?_
  change (g.init w).1.map _ = _
  cases hinit : (g.init w).1 with
  | none => rfl
  | some store =>
    have hport := (init_fitting hsound hinit).port
    show some (store.on g.port) = some store
    rw [← hport]
    rfl

end One

/-! ## Stores side by side -/

/-- The flash that the stores share. -/
structure NorChip where
  sectorSize : UInt32
  granule : UInt8
  erased : UInt8

/-- The part of a flash that is given to a store, and the size of its records. -/
structure StoreExtent where
  flashBase : UInt32
  sectorCount : UInt8
  dataSize : UInt16

/-- The store of one extent on the chip. -/
def NorChip.store (chip : NorChip) (extent : StoreExtent) : NorStore where
  sectorSize := chip.sectorSize
  granule := chip.granule
  erased := chip.erased
  flashBase := extent.flashBase
  sectorCount := extent.sectorCount
  dataSize := extent.dataSize

/-- One flash, and what is in memory of each store. -/
structure SharedRun (ι : Type) where
  flash : NorFlash
  store : ι → Option (UdsParamStore NorFlash)
  failed : ι → Bool
  last : ι → Option (List UInt8)

/-- What can happen on the chip: one store saves, or all come up again. -/
inductive SharedCall (ι : Type) where
  | save (i : ι) (data : Buf)
  /-- A save with power for so many operations and bytes of the next one; all stores come up
  again. -/
  | cutSave (i : ι) (data : Buf) (operations bytes : Nat)
  | reinit

section Shared

variable {ι : Type} [DecidableEq ι]

/-- The run as store `i` sees it. -/
def SharedRun.view (s : SharedRun ι) (i : ι) : StoreRun where
  flash := s.flash
  store := s.store i
  failed := s.failed i
  last := s.last i

/-- What store `i` has done. -/
def SharedRun.put (s : SharedRun ι) (i : ι) (r : StoreRun) : SharedRun ι where
  flash := r.flash
  store := Function.update s.store i r.store
  failed := Function.update s.failed i r.failed
  last := Function.update s.last i r.last

/-- Every store is initialised; an init does not change the flash (`init_flash`). -/
def SharedRun.reinit (g : ι → NorStore) (s : SharedRun ι) : SharedRun ι :=
  { s with
    flash := { s.flash with cut := none }
    store := fun i => ((g i).init { s.flash with cut := none }).1 }

/-- One call. -/
def sharedStep (g : ι → NorStore) (s : SharedRun ι) : SharedCall ι → SharedRun ι
  | .save i data => s.put i (storeStep (g i) (s.view i) (.save data))
  | .cutSave i data operations bytes =>
    (s.put i ((s.view i).save data (some (operations, bytes))).2).reinit g
  | .reinit => s.reinit g

/-- The chip as delivered, with every store come up. -/
def sharedStart (chip : NorChip) (extent : ι → StoreExtent) : SharedRun ι :=
  { flash := ⟨fun _ => norErased chip.erased, none⟩, store := fun _ => none,
    failed := fun _ => false, last := fun _ => none : SharedRun ι }.reinit
    fun i => chip.store (extent i)

/-- What a call is to store `i`. -/
def ownCalls (i : ι) : SharedCall ι → List StoreCall
  | .save j data => if j = i then [.save data] else []
  | .cutSave j data operations bytes =>
    if j = i then [.cutSave data operations bytes] else [.reinit]
  | .reinit => [.reinit]

@[simp] theorem view_put (s : SharedRun ι) (i : ι) (r : StoreRun) : (s.put i r).view i = r := by
  unfold SharedRun.put SharedRun.view
  simp only [Function.update_self]

theorem view_put_of_ne (s : SharedRun ι) {i j : ι} (h : i ≠ j) (r : StoreRun) :
    (s.put j r).view i = { s.view i with flash := r.flash } := by
  unfold SharedRun.put SharedRun.view
  simp only [Function.update_of_ne h]

omit [DecidableEq ι] in
theorem view_reinit (g : ι → NorStore) (i : ι) (s : SharedRun ι) :
    (s.reinit g).view i = (s.view i).reinit (g i) := by
  have hflash := init_flash (g i) { s.flash with cut := none }
  unfold StoreRun.reinit SharedRun.reinit SharedRun.view
  dsimp only
  rw [hflash]

/-! ## A store alone -/

/-- The two runs are the same to this store. -/
structure Alone (g : NorStore) (s t : StoreRun) : Prop where
  store : s.store = t.store
  failed : s.failed = t.failed
  last : s.last = t.last
  flash : SameRegion g.flashBase.toNat
    (g.flashBase.toNat + g.sectorCount.toNat * g.sectorSize.toNat) s.flash t.flash

/-- With power, and a store of this geometry. -/
structure Steady (g : NorStore) (s : StoreRun) : Prop where
  powered : s.flash.cut = none
  store : ∀ store, s.store = some store → Fitting g store

variable {g : NorStore} {s t : StoreRun}

theorem Alone.save (h : Alone g s t) (hsteady : Steady g s) (data : Buf)
    (cut : Option (Nat × Nat)) :
    (s.save data cut).1 = (t.save data cut).1 ∧ Alone g (s.save data cut).2 (t.save data cut).2 := by
  unfold StoreRun.save
  rw [← h.store]
  cases hstore : s.store with
  | none => exact ⟨rfl, ⟨rfl, h.failed, rfl, h.flash⟩⟩
  | some store =>
    obtain ⟨hstatus, hsame, hflash⟩ := (hsteady.store store hstore).save_sim nor_sim data
      { s.flash with cut := cut } { t.flash with cut := cut } ⟨rfl, h.flash.2⟩
    dsimp only
    rw [hstatus, hsame]
    exact ⟨rfl, ⟨rfl, h.failed, rfl, hflash⟩⟩

/-- An init does not look at the power, nor at what was in memory. -/
theorem alone_reinit (hsound : Sound g.layout) (hfailed : s.failed = t.failed)
    (hlast : s.last = t.last)
    (hmem : ∀ a, g.flashBase.toNat ≤ a →
      a < g.flashBase.toNat + g.sectorCount.toNat * g.sectorSize.toNat →
      s.flash.mem a = t.flash.mem a) :
    Alone g (s.reinit g) (t.reinit g) := by
  have hflash : SameRegion g.flashBase.toNat
      (g.flashBase.toNat + g.sectorCount.toNat * g.sectorSize.toNat)
      { s.flash with cut := none } { t.flash with cut := none } := ⟨rfl, hmem⟩
  unfold StoreRun.reinit
  dsimp only
  rw [init_flash, init_flash]
  exact ⟨(init_same hsound rfl rfl hflash).symm, hfailed, hlast, hflash⟩

theorem StoreRun.reinit_steady (hsound : Sound g.layout) (s : StoreRun) :
    Steady g (s.reinit g) := by
  unfold StoreRun.reinit
  dsimp only
  rw [init_flash]
  exact ⟨rfl, fun store hstore => init_fitting hsound hstore⟩

/-- A save with power leaves it on. -/
theorem StoreRun.save_steady (h : Steady g s) (data : Buf) : Steady g (s.save data none).2 := by
  unfold StoreRun.save
  cases hstore : s.store with
  | none => exact ⟨h.powered, fun store hsome => absurd hsome (by simp)⟩
  | some store =>
    have hfit := h.store store hstore
    obtain ⟨-, -, -, hpowered⟩ := hfit.save_sim (nor_powered (g := g)) data
      { s.flash with cut := none } { s.flash with cut := none } ⟨rfl, rfl⟩
    refine ⟨hpowered, fun store' hsome => ?_⟩
    obtain rfl := Option.some.inj hsome
    exact hfit.save data _

/-- What another store has done is nothing to this one, but for the power. -/
theorem Alone.other {g' : NorStore} {w : NorFlash} (h : Alone g s t)
    (hapart : g.flashBase.toNat + g.sectorCount.toNat * g.sectorSize.toNat ≤ g'.flashBase.toNat ∨
      g'.flashBase.toNat + g'.sectorCount.toNat * g'.sectorSize.toNat ≤ g.flashBase.toNat)
    (hframe : ∀ a, a < g'.flashBase.toNat ∨
      g'.flashBase.toNat + g'.sectorCount.toNat * g'.sectorSize.toNat ≤ a →
      w.mem a = s.flash.mem a) (hcut : w.cut = t.flash.cut) :
    Alone g { s with flash := w } t := by
  refine ⟨h.store, h.failed, h.last, hcut, fun a hlo hhi => ?_⟩
  rw [← h.flash.2 a hlo hhi]
  exact hframe a (by omega)

/-- A save leaves the flash outside of its store as it was. -/
theorem StoreRun.save_frame (hsteady : Steady g s) (data : Buf) (cut : Option (Nat × Nat)) (a : Nat)
    (ha : a < g.flashBase.toNat ∨
      g.flashBase.toNat + g.sectorCount.toNat * g.sectorSize.toNat ≤ a) :
    (s.save data cut).2.flash.mem a = s.flash.mem a := by
  unfold StoreRun.save
  cases hstore : s.store with
  | none => rfl
  | some store =>
    obtain ⟨-, -, -, hframe⟩ := (hsteady.store store hstore).save_sim (nor_frame s.flash.mem) data
      { s.flash with cut := cut } { s.flash with cut := cut }
      ⟨rfl, fun _ _ => rfl⟩
    exact hframe a ha

/-! ## The theorem -/

/-- The stores of a flash: each of them is one that opens, and their sectors lie apart. -/
structure Apart (g : ι → NorStore) : Prop where
  sound : ∀ i, Sound (g i).layout
  apart : ∀ i j, i ≠ j →
    (g i).flashBase.toNat + (g i).sectorCount.toNat * (g i).sectorSize.toNat
        ≤ (g j).flashBase.toNat ∨
      (g j).flashBase.toNat + (g j).sectorCount.toNat * (g j).sectorSize.toNat
        ≤ (g i).flashBase.toNat

/-- Store `i` is as it would be alone, and all stores are up. -/
structure Together (g : ι → NorStore) (i : ι) (s : SharedRun ι) (t : StoreRun) : Prop where
  alone : Alone (g i) (s.view i) t
  steady : ∀ j, Steady (g j) (s.view j)

theorem SharedRun.put_steady {g : ι → NorStore} {s : SharedRun ι} {i : ι} {r : StoreRun}
    (h : ∀ j, Steady (g j) (s.view j)) (hr : Steady (g i) r) (j : ι) :
    Steady (g j) ((s.put i r).view j) := by
  by_cases hj : j = i
  · rw [hj, view_put]
    exact hr
  · rw [view_put_of_ne s hj]
    exact ⟨hr.powered, (h j).store⟩

theorem sharedStep_together {g : ι → NorStore} (hapart : Apart g) {i : ι} {s : SharedRun ι}
    {t : StoreRun} (call : SharedCall ι) (h : Together g i s t) :
    Together g i (sharedStep g s call) (run (storeStep (g i)) t (ownCalls i call)) := by
  have hsteady := h.steady
  -- when all come up again, each looks at its own sectors
  have hreinit : ∀ {s : SharedRun ι} {t : StoreRun}, Alone (g i) (s.view i) t →
      Together g i (s.reinit g) (t.reinit (g i)) := by
    intro s t halone
    refine ⟨?_, fun j => ?_⟩
    · rw [view_reinit]
      exact alone_reinit (hapart.sound i) halone.failed halone.last halone.flash.2
    · rw [view_reinit]
      exact StoreRun.reinit_steady (hapart.sound j) _
  cases call with
  | save j data =>
    have hsaved : Steady (g j) (storeStep (g j) (s.view j) (.save data)) := by
      have h := StoreRun.save_steady (hsteady j) data
      exact ⟨h.powered, h.store⟩
    refine ⟨?_, SharedRun.put_steady hsteady hsaved⟩
    show Alone (g i) ((s.put j (storeStep (g j) (s.view j) (.save data))).view i)
      (run (storeStep (g i)) t (if j = i then [.save data] else []))
    by_cases hj : j = i
    · subst hj
      obtain ⟨hstatus, halone⟩ := h.alone.save (hsteady j) data none
      rw [if_pos rfl, view_put, run_cons, run_nil]
      unfold storeStep
      dsimp only
      rw [hstatus]
      exact ⟨halone.store, congrArg (· || _) halone.failed, halone.last, halone.flash⟩
    -- another store's save stays clear of this one's sectors
    · rw [if_neg hj, run_nil, view_put_of_ne s (Ne.symm hj)]
      refine h.alone.other (hapart.apart i j (Ne.symm hj))
        (StoreRun.save_frame (hsteady j) data none) (hsaved.powered.trans ?_)
      rw [← h.alone.flash.1]
      exact (hsteady i).powered.symm
  | cutSave j data operations bytes =>
    show Together g i ((s.put j ((s.view j).save data (some (operations, bytes))).2).reinit g)
      (run (storeStep (g i)) t
        (if j = i then [.cutSave data operations bytes] else [.reinit]))
    by_cases hj : j = i
    · subst hj
      rw [if_pos rfl]
      refine hreinit (t := (t.save data (some (operations, bytes))).2) ?_
      rw [view_put]
      exact (h.alone.save (hsteady j) data _).2
    · rw [if_neg hj]
      refine ⟨?_, fun k => ?_⟩
      · -- only the power is not that of the run alone, and the init brings it back
        rw [view_reinit, view_put_of_ne s (Ne.symm hj)]
        refine alone_reinit (hapart.sound i) h.alone.failed h.alone.last fun a hlo hhi => ?_
        rw [← h.alone.flash.2 a hlo hhi]
        refine StoreRun.save_frame (hsteady j) data _ a ?_
        have hbetween := hapart.apart i j (Ne.symm hj)
        omega
      · rw [view_reinit]
        exact StoreRun.reinit_steady (hapart.sound k) _
  | reinit => exact hreinit h.alone

variable {chip : NorChip} {extent : ι → StoreExtent}

omit [DecidableEq ι] in
theorem sharedStart_together (hapart : Apart fun i => chip.store (extent i)) (i : ι) :
    Together (fun i => chip.store (extent i)) i (sharedStart chip extent)
      (storeStart (chip.store (extent i))) := by
  refine ⟨?_, fun j => ?_⟩
  · unfold sharedStart
    rw [view_reinit]
    exact alone_reinit (hapart.sound i) rfl rfl fun _ _ _ => rfl
  · unfold sharedStart
    rw [view_reinit]
    exact StoreRun.reinit_steady (hapart.sound j) _

theorem sharedRun_together (hapart : Apart fun i => chip.store (extent i)) (i : ι)
    (calls : List (SharedCall ι)) :
    Together (fun i => chip.store (extent i)) i
      (run (sharedStep fun i => chip.store (extent i)) (sharedStart chip extent) calls)
      (run (storeStep (chip.store (extent i))) (storeStart (chip.store (extent i)))
        (calls.flatMap (ownCalls i))) := by
  induction calls using List.reverseRecOn with
  | nil => exact sharedStart_together hapart i
  | append_singleton calls call ih =>
    rw [run_concat, List.flatMap_append, run_append, List.flatMap_singleton]
    exact sharedStep_together hapart call ih

/-- A store with the same record inside loads it. -/
theorem Alone.load {g : NorStore} {s t : StoreRun} (h : Alone g s t) (hsteady : Steady g s)
    (before : List UInt8) : s.load before = t.load before := by
  unfold StoreRun.load
  rw [← h.store]
  cases hstore : s.store with
  | none => rfl
  | some store =>
    have hfit := hsteady.store store hstore
    have hsim : PortSim (SameRegion g.flashBase.toNat
        (g.flashBase.toNat + g.sectorCount.toNat * g.sectorSize.toNat)) g.Inside store.sectorSize
        store.port store.port := by
      rw [hfit.port, hfit.sectorSize]
      exact nor_sim
    obtain ⟨hstatus, hdata, -⟩ := udsParamLoad_sim hsim hfit.reaches hfit.placed before h.flash
    exact Prod.ext hstatus hdata

/-- Stores whose sectors lie apart on one flash do not touch each other: whatever the order of
their saves, with the power lost anywhere in any of them, each store is in memory and in its
sectors as if it had been alone with its own saves and the inits. -/
theorem stores_apart (chip : NorChip) (extent : ι → StoreExtent)
    (hapart : Apart fun i => chip.store (extent i)) (calls : List (SharedCall ι)) (i : ι) :
    let s := (run (sharedStep fun i => chip.store (extent i)) (sharedStart chip extent)
      calls).view i
    let alone := run (storeStep (chip.store (extent i))) (storeStart (chip.store (extent i)))
      (calls.flatMap (ownCalls i))
    Alone (chip.store (extent i)) s alone ∧ ∀ before, s.load before = alone.load before := by
  intro s alone
  have h := sharedRun_together hapart i calls
  exact ⟨h.alone, fun before => h.alone.load (h.steady i) before⟩

/-- Two stores of two sectors each, one behind the other. -/
def pairExtent (i : Bool) : StoreExtent := ⟨if i then 128 else 0, 2, 4⟩

theorem pair_apart : Apart fun i => (NorChip.mk 64 2 0xFF).store (pairExtent i) := by
  have hfits : ∀ i, Fits ((NorChip.mk 64 2 0xFF).store (pairExtent i)).port
      (pairExtent i).flashBase (pairExtent i).sectorCount (pairExtent i).dataSize := by
    intro i
    cases i <;> exact ⟨by decide, by decide, by decide⟩
  have hcountable : ∀ i, Countable ((NorChip.mk 64 2 0xFF).store (pairExtent i)).port
      (pairExtent i).flashBase (pairExtent i).sectorCount (pairExtent i).dataSize := by
    intro i
    cases i <;> exact ⟨by decide, by decide⟩
  refine ⟨fun i => layOut_sound (hfits i) (hcountable i) (by cases i <;> decide), fun i j hne => ?_⟩
  cases i <;> cases j
  · exact absurd rfl hne
  · exact .inl (by decide)
  · exact .inr (by decide)
  · exact absurd rfl hne

/-- The power is lost in the middle of a payload of the first store. -/
theorem stores_apart_pair :
    Alone ((NorChip.mk 64 2 0xFF).store (pairExtent true))
      ((run (sharedStep fun i => (NorChip.mk 64 2 0xFF).store (pairExtent i))
        (sharedStart (NorChip.mk 64 2 0xFF) pairExtent)
        [.save true fives, .cutSave false fives 1 2, .save false fives]).view true)
      (run (storeStep ((NorChip.mk 64 2 0xFF).store (pairExtent true)))
        (storeStart ((NorChip.mk 64 2 0xFF).store (pairExtent true))) [.save fives, .reinit]) :=
  (stores_apart (NorChip.mk 64 2 0xFF) pairExtent pair_apart
    [.save true fives, .cutSave false fives 1 2, .save false fives] true).1

end Shared

end UdsIsoTp.Flash
