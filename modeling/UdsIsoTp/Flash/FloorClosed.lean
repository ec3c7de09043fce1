import UdsIsoTp.Flash.FloorDurable
import UdsIsoTp.Flash.StoreBoot

/-!
# A floor that is read with difficulty

On a healthy port every raise succeeds, and the floor is that of the newest record
(`FloorClean`). At a later boot reads may fail and bytes may have changed. An init that finds a
record it cannot make sense of keeps the floor closed, but only if its slot gets through the scan.
One that finds no slot takes that for a first boot, and one that passes over the newest slot takes
the floor of an older one (`floor_opened`). As long as the scan takes the newest slot for the
newest, the floor is the highest that was stored, or closed (`floor_fails_closed`).
-/

namespace UdsIsoTp.Flash

section Clean

variable {g : NorStore}

/-- A floor on a clean flash whose newest record is its own. -/
structure FloorClean (hsound : Sound g.floorLayout) (n : Nat) (bf : UdsBootFloor NorFlash)
    (w : NorFlash) : Prop where
  store : bf.store = some (resumedAt g.floorLayout hsound n)
  clean : Clean hsound (norErased g.erased) n w.mem
  newest : ∀ m, n = m + 1 →
    slotData g.floorLayout w.mem (hsound.ring.home m) = (floorRecord bf.floor).encode
  empty : n = 0 → bf.floor = 0
  powered : w.cut = none

variable {hsound : Sound g.floorLayout} {n : Nat} {bf : UdsBootFloor NorFlash} {w : NorFlash}

/-- An init finds the floor as it was. -/
theorem FloorClean.init (h : FloorClean hsound n bf w)
    (hopens : Opens g.port g.flashBase g.sectorCount floorRecordSize) :
    bootFloorInit g.port g.flashBase g.sectorCount w = (true, bf, w) := by
  rw [bootFloorInit_resumedAt hsound hopens h.clean.logged, ← h.store]
  unfold recordedFloor
  cases n with
  | zero =>
    dsimp only
    rw [← h.empty rfl]
  | succ m =>
    dsimp only
    rw [h.newest m rfl, decode_encode, floorOf_floorRecord]

theorem floorClean_delivered (hsound : Sound g.floorLayout) :
    FloorClean hsound 0 ⟨some (resumedAt g.floorLayout hsound 0), 0⟩ g.delivered :=
  ⟨rfl, delivered_clean, nofun, fun _ => rfl, rfl⟩

/-- A raise succeeds. -/
theorem FloorClean.raise (h : FloorClean hsound n bf w) (version : UInt32) :
    ∃ n bf' w', bootFloorRaise bf version w = (true, bf', w') ∧
      bf'.floor = (if bf.floor < version then version else bf.floor) ∧
      FloorClean hsound n bf' w' := by
  by_cases hlow : version ≤ bf.floor
  · refine ⟨n, bf, w, ?_, (if_neg (UInt32.not_lt.mpr hlow)).symm, h⟩
    unfold bootFloorRaise
    rw [h.store]
    exact if_pos hlow
  obtain ⟨hok, hstore, hclean, hcut, hdata⟩ := save_clean g.onNorFloor h.clean h.powered
    (Buf.ofList (floorRecord version).encode)
  rw [floorRecord_slice] at hdata
  have hraise := bootFloorRaise_stored hsound h.store hlow (w := w)
    (Prod.ext hok (Prod.ext hstore rfl)) hclean.logged hdata
  refine ⟨n + 1, _, _, hraise, (if_pos (UInt32.not_le.mp hlow)).symm, rfl, hclean, ?_, nofun, hcut⟩
  rintro _ ⟨⟩
  exact hdata

end Clean

/-! ## Runs on a healthy port -/

/-- No raise is cut. -/
def FloorCall.Powered : FloorCall → Prop
  | .init => True
  | .raise _ cut => cut = none

section Powered

variable {g : NorStore}

/-- A floor that is not open yet, or is that of the newest record and all that was confirmed. -/
def FloorPowered (g : NorStore) (s : FloorRun) : Prop :=
  Unopened g s ∨ Opens g.port g.flashBase g.sectorCount floorRecordSize ∧
    s.confirmed = s.floor.floor ∧
    ∃ hsound : Sound g.floorLayout, ∃ n, FloorClean hsound n s.floor s.flash

theorem floorStep_powered
    (hsound : Opens g.port g.flashBase g.sectorCount floorRecordSize → Sound g.floorLayout)
    {s : FloorRun} {call : FloorCall} (hpowered : call.Powered) (h : FloorPowered g s) :
    FloorPowered g (floorStep g s call) := by
  obtain h | ⟨hopens, hconfirmed, hsound, n, h⟩ := h
  · cases call with
    | raise version cut => exact .inl (h.raise version cut)
    | init =>
      by_cases hopens : Opens g.port g.flashBase g.sectorCount floorRecordSize
      · have hinit := (floorClean_delivered (hsound hopens)).init hopens
        have hflash : g.delivered = ⟨s.flash.mem, none⟩ := by
          rw [h.mem]
          rfl
        rw [hflash] at hinit
        rw [floorStep_init hinit, ← hflash]
        exact .inr ⟨hopens, h.confirmed, hsound hopens, 0, floorClean_delivered _⟩
      · exact .inl (h.closed hopens).1
  · have hflash : s.flash = ⟨s.flash.mem, none⟩ := by
      rw [← h.powered]
    cases call with
    | init =>
      have hinit := h.init hopens
      rw [hflash] at hinit
      rw [floorStep_init hinit, ← hflash]
      exact .inr ⟨hopens, hconfirmed, hsound, n, h⟩
    | raise version cut =>
      obtain rfl : cut = none := hpowered
      obtain ⟨n', bf, w, hraise, hfloor, hclean⟩ := h.raise version
      rw [hflash] at hraise
      rw [floorStep_raise hraise]
      refine .inr ⟨hopens, ?_, hsound, n', hclean⟩
      dsimp only
      rw [hfloor, hconfirmed]
      exact if_congr (and_iff_right rfl) rfl rfl

theorem floor_powered
    (hsound : Opens g.port g.flashBase g.sectorCount floorRecordSize → Sound g.floorLayout)
    {calls : List FloorCall}
    (hpowered : Along (floorStep g) (fun _ call => call.Powered) (floorStart g) calls) :
    FloorPowered g (run (floorStep g) (floorStart g) calls) :=
  Along.inv (I := FloorPowered g) (fun _ _ h hcall => floorStep_powered hsound hcall h)
    (.inl (unopened_start g)) hpowered

end Powered

/-! ## Boots -/

/-- The floor that a boot's record makes. -/
def BootRecord.floor : BootRecord → UInt32
  | .absent => 0
  | .unreadable => floorClosed
  | .loaded data => floorOf (FloorRecord.decode data)

section Boots

variable {ω : Type} {port : UdsFlashPort ω} {flashBase : UInt32} {sectorCount : UInt8}

/-- An init makes its floor of what the boot comes up with. -/
theorem bootFloorInit_record (hopens : Opens port flashBase sectorCount floorRecordSize)
    (hsound : Sound (layOut port flashBase sectorCount floorRecordSize)) {mem : ω → Buf}
    (hport : Truthful port mem) (w : ω) :
    bootFloorGet (bootFloorInit port flashBase sectorCount w).2.1
      = (bootRecord (layOut port flashBase sectorCount floorRecordSize) (mem w) w).floor := by
  obtain ⟨store, hinit, hup⟩ := init_cameUp hsound hport
    ((udsParamInit_usable (w := w)).mpr hopens.usable) w
  unfold bootFloorInit
  rw [if_neg (UInt8.not_lt.mpr hopens.two_le), hinit]
  dsimp only
  generalize bootRecord _ (mem w) w = record at hup ⊢
  generalize scanEnd _ w = w' at hup ⊢
  cases record with
  | absent =>
    rw [if_pos (by simp [show store.hasActiveSlot = false from hup])]
    rfl
  | unreadable =>
    obtain ⟨hactive, data, w'', hload⟩ := hup.unreadable
    rw [if_neg (by simp [hactive]), hload]
    rfl
  | loaded data =>
    obtain ⟨hactive, w'', hload⟩ := hup.loaded
    rw [if_neg (by simp [hactive]), hload]
    rfl

/-- A record that closes the floor: it does not check, or says so. -/
def ClosesFloor (data : List UInt8) : Prop :=
  floorOf (FloorRecord.decode data) = floorClosed

instance (data : List UInt8) : Decidable (ClosesFloor data) :=
  inferInstanceAs (Decidable (_ = _))

/-- The floor is the highest that was stored, or closed, and 0 only if nothing was stored. -/
def FloorFailsClosed (highest floor : UInt32) : Prop :=
  (floor = highest ∨ floor = floorClosed) ∧ (floor = 0 → highest = 0)

theorem floorFailsClosed_closed (highest : UInt32) : FloorFailsClosed highest floorClosed :=
  ⟨.inr rfl, fun h => absurd h (by decide)⟩

theorem floorFailsClosed_highest (highest : UInt32) : FloorFailsClosed highest highest :=
  ⟨.inl rfl, id⟩

/-- A floor that starts open is right only if nothing was stored. -/
theorem floorFailsClosed_zero (highest : UInt32) : FloorFailsClosed highest 0 ↔ highest = 0 := by
  refine ⟨fun h => h.2 rfl, ?_⟩
  rintro rfl
  exact floorFailsClosed_highest 0

end Boots

section Newest

variable {g : NorStore} {ω : Type} {port : UdsFlashPort ω} {mem : Buf} {w : ω}

/-- While the newest record stands, what the boot comes up with is right. -/
theorem FloorPowered.stands {s : FloorRun} (h : FloorPowered g s)
    (hsame : SameSectors g.port port g.flashBase)
    (hstands : NewestStands ClosesFloor s.floor.store s.flash.mem
      (layOut port g.flashBase g.sectorCount floorRecordSize) mem w) :
    FloorFailsClosed s.confirmed
      (bootRecord (layOut port g.flashBase g.sectorCount floorRecordSize) mem w).floor := by
  have hslots : SameSlots g.floorLayout (layOut port g.flashBase g.sectorCount floorRecordSize) :=
    hsame.layOut g.sectorCount floorRecordSize
  obtain h | ⟨-, hconfirmed, hsound, n, h⟩ := h
  · rw [h.store] at hstands
    rw [bootRecord_absent hstands]
    exact (floorFailsClosed_zero s.confirmed).mpr h.confirmed
  · rw [h.store] at hstands
    have hup := bootRecord_stands hsound hslots hstands
    cases n with
    | zero =>
      rw [show bootRecord _ mem w = .absent from hup, hconfirmed]
      exact (floorFailsClosed_zero s.floor.floor).mpr (h.empty rfl)
    | succ m =>
      obtain hunread | ⟨data, hloaded, hnewest | hcloses⟩ := hup
      · rw [hunread]
        exact floorFailsClosed_closed s.confirmed
      · have hfloor : (BootRecord.loaded data).floor = s.confirmed := by
          unfold BootRecord.floor
          dsimp only at hnewest ⊢
          rw [hnewest, h.newest m rfl, decode_encode, floorOf_floorRecord, hconfirmed]
        rw [hloaded, hfloor]
        exact floorFailsClosed_highest s.confirmed
      · rw [hloaded, show (BootRecord.loaded data).floor = floorClosed from hcloses]
        exact floorFailsClosed_closed s.confirmed

end Newest

/-- Raises on a healthy port, and then a boot through a port whose reads may fail, on a flash
whose bytes may be others: as long as the scan takes the newest slot for the newest, the floor is
the highest that was stored, or closed, whatever has become of the record in it. If no slot gets
through the scan, that is so only if nothing was stored. -/
theorem floor_fails_closed (g : NorStore)
    (hregion : g.flashBase.toNat + g.sectorCount.toNat * g.sectorSize.toNat ≤ 2 ^ 32)
    (hcountable : Opens g.port g.flashBase g.sectorCount floorRecordSize →
      Countable g.port g.flashBase g.sectorCount floorRecordSize) (calls : List FloorCall)
    (hpowered : Along (floorStep g) (fun _ call => call.Powered) (floorStart g) calls)
    {ω : Type} (port : UdsFlashPort ω) (hsame : SameSectors g.port port g.flashBase)
    {mem : ω → Buf} (hport : Truthful port mem) (w : ω) :
    let s := run (floorStep g) (floorStart g) calls
    let floor := bootFloorGet (bootFloorInit port g.flashBase g.sectorCount w).2.1
    let store := layOut port g.flashBase g.sectorCount floorRecordSize
    ((Opens port g.flashBase g.sectorCount floorRecordSize →
        NewestStands ClosesFloor s.floor.store s.flash.mem store (mem w) w) →
        FloorFailsClosed s.confirmed floor) ∧
      (Opens port g.flashBase g.sectorCount floorRecordSize → NothingSeen store w →
        (FloorFailsClosed s.confirmed floor ↔ s.confirmed = 0)) := by
  have hsound : Opens g.port g.flashBase g.sectorCount floorRecordSize → Sound g.floorLayout :=
    fun hopens => floorLayout_sound hregion hopens.two_le (hcountable hopens)
  have hopened : Opens port g.flashBase g.sectorCount floorRecordSize →
      Opens g.port g.flashBase g.sectorCount floorRecordSize :=
    fun hopens => ⟨hopens.two_le, hsame.usable hopens.usable⟩
  have hslots := hsame.layOut g.sectorCount floorRecordSize
  have hkept := floor_powered hsound hpowered
  intro s floor store
  have hfloor : Opens port g.flashBase g.sectorCount floorRecordSize →
      floor = (bootRecord store (mem w) w).floor :=
    fun hopens => bootFloorInit_record hopens (hslots.sound (hsound (hopened hopens))) hport w
  refine ⟨fun hstands => ?_, fun hopens hnothing => ?_⟩
  · by_cases hopens : Opens port g.flashBase g.sectorCount floorRecordSize
    · rw [hfloor hopens]
      exact hkept.stands hsame (hstands hopens)
    · have hclosed : floor = floorClosed :=
        congrArg (fun out => bootFloorGet out.2.1) (bootFloorInit_closed hopens w)
      rw [hclosed]
      exact floorFailsClosed_closed s.confirmed
  · rw [hfloor hopens, bootRecord_absent hnothing]
    exact floorFailsClosed_zero s.confirmed

/-- One record, and a boot that cannot read its header. -/
theorem floor_opened :
    let s := run (floorStep smallStore) (floorStart smallStore) [.init, .raise 5 none]
    s.confirmed = 5 ∧ Truthful (blindPort smallStore.port) NorFlash.mem ∧
      bootFloorGet (bootFloorInit (blindPort smallStore.port) 0 2 s.flash).2.1 = 0 :=
  ⟨by decide +kernel, blindPort_truthful (smallStore.withData 16).onNor.healthy, by decide +kernel⟩

/-- Two records, and a boot that cannot read the header of the older. -/
theorem floor_fails_closed_small :
    let s := run (floorStep smallStore) (floorStart smallStore) [.init, .raise 5 none, .raise 7 none]
    FloorFailsClosed s.confirmed
      (bootFloorGet (bootFloorInit (blindPort smallStore.port) 0 2 s.flash).2.1) :=
  (floor_fails_closed smallStore (by decide) (fun _ => ⟨by decide, by decide⟩)
    [.init, .raise 5 none, .raise 7 none] ⟨trivial, rfl, rfl, trivial⟩ (blindPort smallStore.port)
    ⟨rfl, rfl⟩ (blindPort_truthful (smallStore.withData 16).onNor.healthy) _).1
    fun _ => by decide +kernel

end UdsIsoTp.Flash
