import UdsIsoTp.Lib.Run
import UdsIsoTp.Flash.StoreSlots

/-!
# Saving after a power loss

A store on a NOR flash is saved to over and over; any save may be cut, and the store is then
initialised again. Each init takes the log up where it ends, with the item of the cut save
behind it or without (`Tracked`).

What the store does not do is look at the slot it is about to write. After a cut the slot may
hold half a save, the flash then refuses to write there, and no later save gets past it
(`retry_rejected`). As long as no save comes upon such a slot, every save succeeds and is
found again (`saves_recovered`).
-/

namespace UdsIsoTp.Flash

/-! ## Runs -/

/-- A flash and a store on it: what does not change over a history. -/
structure NorStore where
  sectorSize : UInt32
  granule : UInt8
  erased : UInt8
  flashBase : UInt32
  sectorCount : UInt8
  dataSize : UInt16

namespace NorStore

variable (g : NorStore)

/-- The drivers of the flash. -/
def port : UdsFlashPort NorFlash := norPort g.sectorSize g.granule g.erased

/-- `uds_param_init` on the flash. -/
def init (w : NorFlash) : Option (UdsParamStore NorFlash) × NorFlash :=
  udsParamInit g.port g.flashBase g.sectorCount g.dataSize w

/-- The store before it has looked at the flash. -/
def layout : UdsParamStore NorFlash := layOut g.port g.flashBase g.sectorCount g.dataSize

/-- The flash as it is delivered. -/
def delivered : NorFlash := ⟨fun _ => norErased g.erased, none⟩

/-- A geometry with records of this size. -/
def withData (dataSize : UInt16) : NorStore := { g with dataSize := dataSize }

end NorStore

/-- A history as far as it has come. -/
structure StoreRun where
  flash : NorFlash
  store : Option (UdsParamStore NorFlash)
  /-- A save on the healthy port has not returned `UDS_PARAM_OK`. -/
  failed : Bool
  /-- The data of the last save, if that returned `UDS_PARAM_OK`. -/
  last : Option (List UInt8)

/-- What can happen in a history. -/
inductive StoreCall where
  | save (data : Buf)
  /-- A save with power for so many operations and bytes of the next one, and an init. -/
  | cutSave (data : Buf) (operations bytes : Nat)
  | reinit

/-- Power comes back, and the store looks at the flash again. -/
def StoreRun.reinit (g : NorStore) (s : StoreRun) : StoreRun :=
  let (store, flash) := g.init { s.flash with cut := none }
  { s with store := store, flash := flash }

/-- A save with this power. -/
def StoreRun.save (s : StoreRun) (data : Buf) (cut : Option (Nat × Nat)) :
    UdsParamStatus × StoreRun :=
  match s.store with
  | none => (.invalidParam, { s with last := none })
  | some store =>
    let (status, store, flash) := udsParamSave store data { s.flash with cut := cut }
    (status, { s with
      flash := flash
      store := some store
      last := if status = .ok then some (data.slice 0 store.dataSize) else none })

/-- One call. -/
def storeStep (g : NorStore) (s : StoreRun) : StoreCall → StoreRun
  | .save data =>
    let (status, s) := s.save data none
    { s with failed := s.failed || status ≠ .ok }
  | .cutSave data operations bytes => (s.save data (some (operations, bytes))).2.reinit g
  | .reinit => s.reinit g

/-- A store that has just been initialised on a flash that has just been delivered. -/
def storeStart (g : NorStore) : StoreRun :=
  { flash := g.delivered, store := none, failed := false, last := none : StoreRun }.reinit g

/-- What the store gives back. -/
def StoreRun.load (s : StoreRun) (data : List UInt8) : UdsParamStatus × List UInt8 :=
  match s.store with
  | none => (.invalidParam, data)
  | some store =>
    ((udsParamLoad store data s.flash).1, (udsParamLoad store data s.flash).2.1)

/-- The slot that a save takes without erasing its sector is blank. -/
def SlotReady (s : StoreRun) : Prop :=
  ∀ store ∈ s.store, store.hasActiveSlot = true → store.activeSlot + 1 < store.slotsPerSector →
    Blank store.erasedByte s.flash.mem (slotAddr store store.activeSector (store.activeSlot + 1))
      (store.headerSize + store.payloadSizeAligned)

instance (s : StoreRun) : Decidable (SlotReady s) :=
  inferInstanceAs (Decidable (∀ store ∈ s.store, _))

/-- No save comes upon half a save, and none is cut whose size and checksum erased bytes make
up. -/
def SavesReady (g : NorStore) (s : StoreRun) : StoreCall → Prop
  | .save _ => SlotReady s
  | .cutSave data _ _ => SlotReady s ∧ ¬Confusable g.layout (norErased g.erased) data
  | .reinit => True

/-! ## The invariant -/

section Tracked

variable {g : NorStore}

theorem NorStore.onNor (g : NorStore) : OnNor g.layout (norErased g.erased) :=
  ⟨⟨g.sectorSize, g.granule, g.erased, rfl, rfl, rfl⟩, rfl⟩

/-- The store is behind the `n` items that the flash holds, and the last save is the newest. -/
structure Tracked (hsound : Sound g.layout) (n : Nat) (s : StoreRun) : Prop where
  store : s.store = some (resumedAt g.layout hsound n)
  logged : hsound.ring.Logged serial (slotSeq g.layout s.flash.mem) n
  heads : HeadBytes g.layout (norErased g.erased) s.flash.mem
  succeeded : s.failed = false
  newest : ∀ d, s.last = some d → ∃ m, n = m + 1 ∧
    slotData g.layout s.flash.mem (hsound.ring.home m) = d

theorem reinit_tracked (hsound : Sound g.layout) {w₀ : NorFlash} (haccepted : (g.init w₀).1 ≠ none)
    {n : Nat} {s : StoreRun}
    (hlogged : hsound.ring.Logged serial (slotSeq g.layout s.flash.mem) n)
    (hheads : HeadBytes g.layout (norErased g.erased) s.flash.mem) (hfailed : s.failed = false)
    (hnewest : ∀ d, s.last = some d → ∃ m, n = m + 1 ∧
      slotData g.layout s.flash.mem (hsound.ring.home m) = d) :
    Tracked hsound n (s.reinit g) := by
  have hinit : g.init { s.flash with cut := none }
      = (some (resumedAt g.layout hsound n), { s.flash with cut := none }) :=
    init_resumedAt hsound g.onNor.healthy haccepted hlogged
  unfold StoreRun.reinit
  rw [hinit]
  exact ⟨rfl, hlogged, hheads, hfailed, hnewest⟩

/-- What `SlotReady` says of a store behind its items. -/
theorem SlotReady.blank {hsound : Sound g.layout} {n : Nat} {s : StoreRun}
    (h : Tracked hsound n s) (hready : SlotReady s) (hstays : ¬hsound.ring.Enters n) :
    Blank (norErased g.erased) s.flash.mem (slotStart g.layout (hsound.ring.home n))
      (g.layout.headerSize + g.layout.payloadSizeAligned) := by
  cases n with
  | zero => exact absurd (show hsound.ring.Enters 0 from by
      unfold SectorRing.Enters SectorRing.home
      rw [Nat.zero_mod, Nat.zero_mod]) hstays
  | succ m =>
    obtain ⟨-, hmod, -⟩ | ⟨hroom, hmod, hdiv⟩ := nextSlot_home hsound m
    · exact absurd hmod hstays
    · have hblank := hready _ h.store rfl (Nat.lt_of_not_le hroom)
      have haddr : slotAddr (resumedAt g.layout hsound (m + 1))
          (hsound.ring.home m / g.layout.slotsPerSector)
          (hsound.ring.home m % g.layout.slotsPerSector + 1)
            = slotStart g.layout (hsound.ring.home (m + 1)) := by
        rw [← hsound.slotAddr_eq (hsound.ring.home_lt (m + 1)), hmod, hdiv]
        rfl
      rw [← haddr]
      exact hblank

/-- A save onto a blank slot leaves the store or the flash behind the item, or neither. -/
theorem save_tracked (htwo : 2 ≤ g.sectorCount.toNat) (hsound : Sound g.layout) {n : Nat}
    {s : StoreRun} (h : Tracked hsound n s)
    (hready : SlotReady s) (data : Buf) (cut : Option (Nat × Nat))
    (hclear : cut ≠ none → ¬Confusable g.layout (norErased g.erased) data) :
    (cut = none → (s.save data cut).1 = .ok) ∧
      ((s.save data cut).1 = .ok ∧ Tracked hsound (n + 1) (s.save data cut).2 ∨
        (s.save data cut).1 ≠ .ok ∧ (s.save data cut).2.last = none ∧
          (s.save data cut).2.failed = false ∧
          HeadBytes g.layout (norErased g.erased) (s.save data cut).2.flash.mem ∧
          (hsound.ring.Logged serial (slotSeq g.layout (s.save data cut).2.flash.mem) n ∨
            hsound.ring.Logged serial (slotSeq g.layout (s.save data cut).2.flash.mem)
              (n + 1))) := by
  obtain ⟨j, k, l, hsaved⟩ := save_outcome hsound g.onNor n data { s.flash with cut := cut }
  have hsave : s.save data cut =
      ((udsParamSave (resumedAt g.layout hsound n) data { s.flash with cut := cut }).1, { s with
        flash := (udsParamSave (resumedAt g.layout hsound n) data
          { s.flash with cut := cut }).2.2
        store := some (udsParamSave (resumedAt g.layout hsound n) data
          { s.flash with cut := cut }).2.1
        last := if (udsParamSave (resumedAt g.layout hsound n) data
            { s.flash with cut := cut }).1 = .ok then
          some (data.slice 0 (udsParamSave (resumedAt g.layout hsound n) data
            { s.flash with cut := cut }).2.1.dataSize) else none }) := by
    unfold StoreRun.save
    rw [h.store]
  rw [hsave]
  generalize udsParamSave (resumedAt g.layout hsound n) data { s.flash with cut := cut } = out
    at hsaved
  have hpowered : cut = none → out.1 = .ok := by
    intro hcut
    obtain ⟨-, hok⟩ := hsaved.powered hcut
    by_cases henters : hsound.ring.Enters n
    · exact hok (.inl henters)
    · exact hok (.inr (hready.blank h henters))
  have hlogged := hsaved.logged htwo h.logged h.heads
    (fun hstays => (hready.blank h hstays).mono 0 _ (by
      have := hsound.header
      omega))
    (fun hfailed => hclear fun hcut => hfailed (hpowered hcut))
  have hheads := hsaved.headBytes h.heads
  refine ⟨hpowered, ?_⟩
  dsimp only
  -- a save that fails leaves the flash behind the item or before it
  by_cases hok : out.1 = .ok
  · left
    obtain ⟨-, hstore, -⟩ | ⟨herr, -⟩ := hsaved.result
    · obtain ⟨hnot, -⟩ | ⟨hlogged, hdata⟩ := hlogged
      · exact absurd hok hnot
      · refine ⟨hok, congrArg some hstore, hlogged, hheads, h.succeeded, fun d hd => ?_⟩
        rw [if_pos hok, hstore] at hd
        exact ⟨n, rfl, hdata.trans (Option.some.inj hd)⟩
    · rw [hok] at herr
      exact absurd herr (by decide)
  · right
    refine ⟨hok, if_neg hok, h.succeeded, hheads, ?_⟩
    obtain ⟨-, hlogged⟩ | ⟨hlogged, -⟩ := hlogged
    · exact .inl hlogged
    · exact .inr hlogged

theorem storeStep_tracked (htwo : 2 ≤ g.sectorCount.toNat) (hsound : Sound g.layout) {w₀ : NorFlash}
    (haccepted : (g.init w₀).1 ≠ none) {s : StoreRun} (call : StoreCall)
    (hready : SavesReady g s call) (h : ∃ n, Tracked hsound n s) :
    ∃ n, Tracked hsound n (storeStep g s call) := by
  obtain ⟨n, h⟩ := h
  cases call with
  | save data =>
    obtain ⟨hok, hsaved⟩ := save_tracked htwo hsound h hready data none (fun hne => absurd rfl hne)
    obtain ⟨-, hnext⟩ | ⟨hfailed, -⟩ := hsaved
    · refine ⟨n + 1, hnext.store, hnext.logged, hnext.heads, ?_, hnext.newest⟩
      show ((s.save data none).2.failed || decide ((s.save data none).1 ≠ .ok)) = false
      rw [hnext.succeeded, hok rfl]
      rfl
    · exact absurd (hok rfl) hfailed
  | cutSave data operations bytes =>
    obtain ⟨hblank, hclear⟩ := hready
    obtain ⟨-, hsaved⟩ := save_tracked htwo hsound h hblank data (some (operations, bytes))
      (fun _ => hclear)
    obtain ⟨-, hnext⟩ | ⟨-, hlast, hfailed, hheads, hlogged⟩ := hsaved
    · exact ⟨n + 1, reinit_tracked hsound haccepted hnext.logged hnext.heads hnext.succeeded
        hnext.newest⟩
    · have hnone : ∀ d m, (s.save data (some (operations, bytes))).2.last = some d → ∃ m',
          m = m' + 1 ∧ slotData g.layout (s.save data (some (operations, bytes))).2.flash.mem
            (hsound.ring.home m') = d := by
        intro d m hd
        rw [hlast] at hd
        exact absurd hd (by simp)
      rcases hlogged with hlogged | hlogged
      · exact ⟨n, reinit_tracked hsound haccepted hlogged hheads hfailed fun d => hnone d _⟩
      · exact ⟨n + 1, reinit_tracked hsound haccepted hlogged hheads hfailed fun d => hnone d _⟩
  | reinit =>
    exact ⟨n, reinit_tracked hsound haccepted h.logged h.heads h.succeeded h.newest⟩

end Tracked

/-! ## The theorem -/

/-- For every geometry that init accepts, with slots of 16 bits and at least two sectors: as
long as the store can count its slots, no save comes upon a slot that an earlier one has left
half written, and no save is cut whose size and checksum read as erased bytes, every save on
the healthy port returns `UDS_PARAM_OK`, and what it saved is what is loaded until the next
one, however often the store is initialised. -/
theorem saves_recovered (g : NorStore) (hfits : Fits g.port g.flashBase g.sectorCount g.dataSize)
    (haccepted : (g.init g.delivered).1 ≠ none)
    (hcountable : Countable g.port g.flashBase g.sectorCount g.dataSize) (calls : List StoreCall)
    (hready : Along (storeStep g) (SavesReady g) (storeStart g) calls) :
    (run (storeStep g) (storeStart g) calls).failed = false ∧
      ∀ d, (run (storeStep g) (storeStart g) calls).last = some d → ∀ before,
        (run (storeStep g) (storeStart g) calls).load before = (.ok, d) := by
  have hdata : g.dataSize ≠ 0 := (udsParamInit_accepted haccepted g.delivered).1
  have hsound : Sound g.layout := layOut_sound hfits hcountable hdata
  have hstart : Tracked hsound 0 (storeStart g) := by
    refine reinit_tracked hsound haccepted (fun r _ => ?_) (fun r => .inl rfl) rfl nofun
    exact slotSeq_none (not_accepted_erased rfl rfl)
  obtain ⟨n, htracked⟩ := Along.inv (I := fun s => ∃ n, Tracked hsound n s)
    (fun s call h hcall => storeStep_tracked hfits.two_le hsound haccepted call hcall h)
    ⟨0, hstart⟩ hready
  refine ⟨htracked.succeeded, fun d hd before => ?_⟩
  obtain ⟨m, rfl, hdata⟩ := htracked.newest d hd
  have hload := load_resumedAt hsound g.onNor.healthy htracked.logged before
  unfold StoreRun.load
  rw [htracked.store]
  dsimp only
  rw [hload, ← hdata]

/-! ### Half a save -/

/-- Two sectors of 64 bytes, with two slots each. -/
def smallStore : NorStore where
  sectorSize := 64
  granule := 2
  erased := 0xFF
  flashBase := 0
  sectorCount := 2
  dataSize := 4

/-- Bytes of 0x55. -/
def fives : Buf := fun _ => 0x55

/-- A save that loses power two bytes into its payload is in the way of every later one. -/
theorem retry_rejected :
    (run (storeStep smallStore) (storeStart smallStore)
        [.save fives, .cutSave fives 0 2]).failed = false ∧
      (run (storeStep smallStore) (storeStart smallStore)
        [.save fives, .cutSave fives 0 2, .save fives]).failed = true := by
  constructor <;> decide +kernel

/-- The same with the power lost before the first byte. -/
theorem retry_recovered :
    (run (storeStep smallStore) (storeStart smallStore)
        [.save fives, .cutSave fives 0 0, .save fives]).failed = false ∧
      ∀ d, (run (storeStep smallStore) (storeStart smallStore)
        [.save fives, .cutSave fives 0 0, .save fives]).last = some d → ∀ before,
        (run (storeStep smallStore) (storeStart smallStore)
          [.save fives, .cutSave fives 0 0, .save fives]).load before = (.ok, d) := by
  refine saves_recovered smallStore ⟨by decide, by decide, by decide⟩ (by decide +kernel)
    ⟨by decide, by decide⟩ _ ⟨?_, ⟨?_, fun h => absurd h.1 (by decide)⟩, ?_, trivial⟩
  · show SlotReady _
    decide +kernel
  · decide +kernel
  · show SlotReady _
    decide +kernel

end UdsIsoTp.Flash
