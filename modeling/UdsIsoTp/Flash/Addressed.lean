import UdsIsoTp.Flash.Neighbours
import UdsIsoTp.Flash.Rebase

/-!
# Flash at 32-bit addresses

The addresses of a port are of type `uint32_t`, so address 0 comes behind the last one, and a
store may have its sectors across that end. `addressedPort` is a healthy NOR flash at such
addresses. Counted from the base of a store it is the flash of `norPort` from address 0 on
(`addressed_sim`), so an init and a save there come to what they come to on that flash
(`Counterpart.init`, `Counterpart.save`).
-/

namespace UdsIsoTp.Flash

/-- The bytes at the addresses of a flash. -/
abbrev FlashBytes := UInt32 → UInt8

/-- The bytes from `base` on, around the end of the address space. -/
def FlashBytes.from (mem : FlashBytes) (base : UInt32) : Buf :=
  fun i => mem (base + UInt32.ofNat i)

/-- The `length` bytes from `addr` on become those of `data`. -/
def FlashBytes.put (mem : FlashBytes) (addr : UInt32) (data : Buf) (length : Nat) : FlashBytes :=
  fun a => if (a - addr).toNat < length then data (a - addr).toNat else mem a

/-- A healthy flash that rejects a write to bytes that are not all erased. -/
def addressedPort (sectorSize : UInt32) (granule erased : UInt8) : UdsFlashPort FlashBytes where
  erase := fun mem addr =>
    (true, mem.put (UInt32.ofNat addr) (fun _ => norErased erased) sectorSize.toNat)
  read := fun mem addr length => (some ((mem.from 0).slice addr length), mem)
  write := fun mem addr data =>
    if Blank (norErased erased) (mem.from 0) addr data.length then
      (true, mem.put (UInt32.ofNat addr) (Buf.ofList data) data.length)
    else (false, mem)
  sectorSize := fun _ => sectorSize
  programGranule := granule
  erasedByte := erased

/-! ## Counted from a base -/

section Sim

variable {base sectorSize : UInt32} {granule erased : UInt8}

/-- The flat flash has power, and the bytes that the other has from `base` on. -/
def Unrolled (base : UInt32) (mem : FlashBytes) (w : NorFlash) : Prop :=
  w.cut = none ∧ ∀ i < 2 ^ 32, w.mem i = mem.from base i

theorem from_zero_counted (mem : FlashBytes) (base : UInt32) (addr i : Nat) :
    mem.from 0 ((base.toNat + addr) % 2 ^ 32 + i) = mem.from base (addr + i) := by
  unfold FlashBytes.from
  rw [UInt32.zero_add, UInt32.ofNat_add, UInt32.ofNat_mod_size, UInt32.ofNat_add,
    UInt32.ofNat_toNat, UInt32.add_assoc, ← UInt32.ofNat_add]

/-- What is put at an address is put behind the base as often as the address is. -/
theorem from_put (mem : FlashBytes) (data : Buf) {addr length i : Nat}
    (hin : addr + length ≤ 2 ^ 32) (hi : i < 2 ^ 32) :
    (mem.put (UInt32.ofNat ((base.toNat + addr) % 2 ^ 32)) data length).from base i
      = (mem.from base).copy addr data 0 length i := by
  have hdistance : base + UInt32.ofNat i - UInt32.ofNat ((base.toNat + addr) % 2 ^ 32)
      = UInt32.ofNat i - UInt32.ofNat addr := by
    rw [UInt32.ofNat_mod_size, UInt32.ofNat_add, UInt32.ofNat_toNat]
    grind
  have hsub : (UInt32.ofNat i - UInt32.ofNat addr).toNat
      = (2 ^ 32 - addr % 2 ^ 32 + i % 2 ^ 32) % 2 ^ 32 := by
    rw [UInt32.toNat_sub]
    simp
  show (if (base + UInt32.ofNat i - UInt32.ofNat ((base.toNat + addr) % 2 ^ 32)).toNat < length then
      data (base + UInt32.ofNat i - UInt32.ofNat ((base.toNat + addr) % 2 ^ 32)).toNat
    else mem (base + UInt32.ofNat i)) = _
  rw [hdistance, hsub]
  unfold Buf.copy
  by_cases hinside : addr ≤ i ∧ i < addr + length
  · rw [if_pos hinside, show (2 ^ 32 - addr % 2 ^ 32 + i % 2 ^ 32) % 2 ^ 32 = i - addr by omega,
      if_pos (by omega), Nat.zero_add]
  · rw [if_neg hinside]
    exact if_neg (by omega)

theorem Unrolled.put {mem : FlashBytes} {w : NorFlash} (h : Unrolled base mem w) (data : Buf)
    {addr length : Nat} (hin : addr + length ≤ 2 ^ 32) :
    Unrolled base (mem.put (UInt32.ofNat ((base.toNat + addr) % 2 ^ 32)) data length)
      ⟨w.mem.copy addr data 0 length, none⟩ := by
  refine ⟨rfl, fun i hi => ?_⟩
  rw [from_put mem data hin hi]
  show (if addr ≤ i ∧ i < addr + length then data (0 + (i - addr)) else w.mem i)
    = if addr ≤ i ∧ i < addr + length then data (0 + (i - addr)) else mem.from base i
  split
  next => rfl
  next => exact h.2 i hi

theorem addressed_sim :
    PortSim (Unrolled base) (Within 0 (2 ^ 32)) sectorSize.toNat
      ((addressedPort sectorSize granule erased).countedFrom base)
      (norPort sectorSize granule erased) where
  erase := by
    intro mem w addr h hin
    show SameOutcome _ (true, mem.put (UInt32.ofNat ((base.toNat + addr) % 2 ^ 32))
      (fun _ => norErased erased) sectorSize.toNat)
      (norErase sectorSize.toNat (norErased erased) w addr)
    unfold norErase
    rw [NorFlash.spend_powered h.1]
    exact ⟨rfl, h.put _ hin.2⟩
  read := by
    intro mem w addr length h hin
    have hend := hin.2
    refine ⟨congrArg some (Buf.slice_congr fun i hi => ?_), h⟩
    rw [from_zero_counted, h.2 _ (by omega)]
  write := by
    intro mem w addr data h hin
    have hend := hin.2
    have hblank : Blank (norErased erased) (mem.from 0) ((base.toNat + addr) % 2 ^ 32) data.length ↔
        Blank (norErased erased) w.mem addr data.length := by
      refine forall_congr' fun i => forall_congr' fun hi => ?_
      rw [from_zero_counted, h.2 _ (by omega)]
    show SameOutcome _ (if Blank (norErased erased) (mem.from 0) ((base.toNat + addr) % 2 ^ 32)
        data.length then (true, mem.put (UInt32.ofNat ((base.toNat + addr) % 2 ^ 32))
          (Buf.ofList data) data.length) else (false, mem)) (norWrite (norErased erased) w addr data)
    unfold norWrite
    by_cases hready : Blank (norErased erased) w.mem addr data.length
    · rw [if_pos (hblank.mpr hready), if_pos hready, NorFlash.spend_powered h.1]
      exact ⟨rfl, h.put _ hin.2⟩
    · rw [if_neg fun hready' => hready (hblank.mp hready'), if_neg hready]
      exact ⟨rfl, h⟩

end Sim

/-! ## The store on the flat flash -/

section Flat

variable {g : NorStore}

/-- The port of this geometry, at 32-bit addresses. -/
def NorStore.addressed (g : NorStore) : UdsFlashPort FlashBytes :=
  addressedPort g.sectorSize g.granule g.erased

/-- The geometry from address 0 on. -/
def NorStore.atZero (g : NorStore) : NorStore := { g with flashBase := 0 }

/-- `uds_param_init` on the flash with 32-bit addresses. -/
def NorStore.addressedInit (g : NorStore) (mem : FlashBytes) :
    Option (UdsParamStore FlashBytes) × FlashBytes :=
  udsParamInit g.addressed g.flashBase g.sectorCount g.dataSize mem

/-- The store is this one, counted from its base. -/
structure Counterpart (g : NorStore) (store : UdsParamStore FlashBytes)
    (flat : UdsParamStore NorFlash) : Prop where
  port : store.port = g.addressed
  base : store.flashBase = g.flashBase.toNat
  same : (store.counted g.flashBase).on g.port = flat

theorem PortSim.mono {ω ω' : Type} {R : ω → ω' → Prop} {inside inside' : Nat → Nat → Prop}
    {sectorSize : Nat} {port : UdsFlashPort ω} {port' : UdsFlashPort ω'}
    (hsim : PortSim R inside sectorSize port port')
    (hsub : ∀ addr length, inside' addr length → inside addr length) :
    PortSim R inside' sectorSize port port' :=
  ⟨fun h hin => hsim.erase h (hsub _ _ hin), fun h hin => hsim.read h (hsub _ _ hin),
    fun h hin => hsim.write h (hsub _ _ hin)⟩

/-- What is reached does not depend on the port. -/
theorem Reaches.of_on {ω ω' : Type} {store : UdsParamStore ω} {port : UdsFlashPort ω'}
    {inside : Nat → Nat → Prop} (h : Reaches (store.on port) inside) : Reaches store inside :=
  ⟨h.slot, h.sector, h.base, h.header, h.data_pos, h.payload, h.room, h.sectors_pos, h.pos⟩

theorem sectors_sim (hsound : Sound g.atZero.layout) :
    PortSim (Unrolled g.flashBase) g.atZero.Inside g.sectorSize.toNat
      (g.addressed.countedFrom g.flashBase) g.port := by
  refine addressed_sim.mono fun addr length hin => ⟨Nat.zero_le _, ?_⟩
  have hregion : 0 + g.sectorCount.toNat * g.sectorSize.toNat ≤ 2 ^ 32 := hsound.region
  have hend : addr + length ≤ 0 + g.sectorCount.toNat * g.sectorSize.toNat := hin.2
  omega

/-- An init comes up with the counterpart of what it comes up with on the flat flash. -/
theorem init_counterpart (hsound : Sound g.atZero.layout) {mem : FlashBytes} {w : NorFlash}
    (h : Unrolled g.flashBase mem w) {flat : UdsParamStore NorFlash}
    (hflat : (g.atZero.init w).1 = some flat) :
    ∃ store, (g.addressedInit mem).1 = some store ∧ Counterpart g store flat := by
  have hkind : SameKind (g.addressed.countedFrom g.flashBase) g.port := ⟨rfl, rfl, rfl⟩
  have hreach : Reaches (layOut (g.addressed.countedFrom g.flashBase) 0 g.sectorCount g.dataSize)
      g.atZero.Inside := by
    have hflat := layout_reaches hsound
    rw [show g.atZero.layout = layOut g.port 0 g.sectorCount g.dataSize from rfl,
      hkind.layOut] at hflat
    exact hflat.of_on
  obtain ⟨hsame, -⟩ := udsParamInit_sim hkind (sectors_sim hsound) hreach h
  rw [show udsParamInit g.port 0 g.sectorCount g.dataSize w = g.atZero.init w from rfl, hflat,
    udsParamInit_counted] at hsame
  obtain ⟨store, hstore, rfl⟩ := Option.map_eq_some_iff.mp hsame.symm
  obtain ⟨store, hinit, rfl⟩ := Option.map_eq_some_iff.mp hstore
  have haccepted : (g.addressedInit mem).1 ≠ none := by
    rw [show (g.addressedInit mem).1 = some store from hinit]
    exact Option.some_ne_none _
  have hlaid := (udsParamInit_accepted haccepted mem).2
  rw [Prod.ext_iff, hinit] at hlaid
  obtain rfl := Option.some.inj hlaid.1
  refine ⟨_, hinit, ?_, ?_, rfl⟩
  · cases (scanSlots (layOut g.addressed g.flashBase g.sectorCount g.dataSize) mem).1 <;> rfl
  · cases (scanSlots (layOut g.addressed g.flashBase g.sectorCount g.dataSize) mem).1 <;> rfl

section Counterpart

variable {store : UdsParamStore FlashBytes} {flat : UdsParamStore NorFlash}
  {mem : FlashBytes} {w : NorFlash}

/-- Counted from its base, the store does what its counterpart does. -/
theorem Counterpart.sim (hsound : Sound g.atZero.layout) (h : Counterpart g store flat)
    (hfit : Fitting g.atZero flat) :
    PortSim (Unrolled g.flashBase) g.atZero.Inside (store.counted g.flashBase).sectorSize
        (store.counted g.flashBase).port g.port ∧
      Reaches (store.counted g.flashBase) g.atZero.Inside ∧ Placed (store.counted g.flashBase) := by
  obtain ⟨hport, -, rfl⟩ := h
  have hsize : (store.counted g.flashBase).sectorSize = g.sectorSize.toNat := hfit.sectorSize
  refine ⟨?_, hfit.reaches.of_on, hfit.placed.sector, hfit.placed.slot⟩
  rw [hsize, show (store.counted g.flashBase).port = store.port.countedFrom g.flashBase from rfl,
    hport]
  exact sectors_sim hsound

/-- A save comes to what it comes to on the flat flash. -/
theorem Counterpart.save (hsound : Sound g.atZero.layout) (h : Counterpart g store flat)
    (hfit : Fitting g.atZero flat) (hsame : Unrolled g.flashBase mem w) (data : Buf) :
    (udsParamSave store data mem).1 = (udsParamSave flat data w).1 ∧
      Counterpart g (udsParamSave store data mem).2.1 (udsParamSave flat data w).2.1 ∧
      Unrolled g.flashBase (udsParamSave store data mem).2.2 (udsParamSave flat data w).2.2 := by
  obtain ⟨hsim, hreach, hplaced⟩ := h.sim hsound hfit
  obtain ⟨hport, hbase, rfl⟩ := h
  obtain ⟨hstatus, hstore, hflash⟩ := udsParamSave_sim hsim hreach hplaced data hsame
  rw [udsParamSave_counted hbase] at hstatus hstore hflash
  have hkept : (udsParamSave store data mem).2.1.port = store.port ∧
      (udsParamSave store data mem).2.1.flashBase = store.flashBase := udsParamSave_base data mem
  exact ⟨hstatus.symm, ⟨hkept.1.trans hport, hkept.2.trans hbase, hstore.symm⟩, hflash⟩

/-- So does the choice of its slot. -/
theorem Counterpart.prepare (hsound : Sound g.atZero.layout) (h : Counterpart g store flat)
    (hfit : Fitting g.atZero flat) (hsame : Unrolled g.flashBase mem w) :
    (prepareNextSlot store mem).1 = (prepareNextSlot flat w).1 := by
  obtain ⟨hsim, hreach, -⟩ := h.sim hsound hfit
  obtain ⟨-, hbase, rfl⟩ := h
  have hslot := (prepareNextSlot_sim hsim hreach hsame).1
  rwa [prepareNextSlot_counted hbase] at hslot

/-- A load gives the same data, and leaves the flash. -/
theorem Counterpart.load (hsound : Sound g.atZero.layout) (h : Counterpart g store flat)
    (hfit : Fitting g.atZero flat) (hsame : Unrolled g.flashBase mem w) (data : List UInt8) :
    udsParamLoad store data mem
      = ((udsParamLoad flat data w).1, (udsParamLoad flat data w).2.1, mem) := by
  obtain ⟨hsim, hreach, hplaced⟩ := h.sim hsound hfit
  obtain ⟨hport, hbase, rfl⟩ := h
  obtain ⟨hstatus, hdata, -⟩ := udsParamLoad_sim hsim hreach hplaced data hsame
  rw [udsParamLoad_counted hbase] at hstatus hdata
  have hpure : PureReads store.port := hport ▸ fun _ _ _ => rfl
  exact Prod.ext hstatus (Prod.ext hdata (udsParamLoad_pure hpure data mem))

/-- A slot of the store is accepted where it is on the flat flash. -/
theorem Counterpart.header (hsound : Sound g.atZero.layout) (h : Counterpart g store flat)
    (hfit : Fitting g.atZero flat) (hsame : Unrolled g.flashBase mem w) {sector slot : Nat}
    (hsector : sector < flat.sectorCount) (hslot : slot < flat.slotsPerSector) :
    (readSlotHeader store sector slot mem).1 = (readSlotHeader flat sector slot w).1 := by
  obtain ⟨hsim, hreach, -⟩ := h.sim hsound hfit
  obtain ⟨-, hbase, rfl⟩ := h
  have hheader := (readSlotHeader_sim hsim hreach hsector hslot hsame).1
  rwa [readSlotHeader_counted hbase] at hheader

end Counterpart

end Flat

end UdsIsoTp.Flash
