import UdsIsoTp.Flash.BootFloor
import UdsIsoTp.Flash.Recovery
import UdsIsoTp.Flash.StoreGuard

/-!
# The floor holds

On a NOR flash whose reads are healthy, any raise may be cut or fail at any operation, and the
floor may be opened again at any time. A raise that returned true has its record behind it in
the store, and the records only go up: what an init finds is the newest of them, or the one of
a raise that failed at the very end (`FloorHeld`).

The store has to see its slots for that: with 65536 slots in a sector it counts none
(`floor_forgotten`).
-/

namespace UdsIsoTp.Flash

/-! ## Records -/

theorem decode_encode (r : FloorRecord) : FloorRecord.decode r.encode = r := by
  have hmagic : getU32Le r.encode 0 = r.magic := by
    have h := getU32Le_append [] (putU32Le r.floor ++ (putU32Le r.check ++ putU32Le r.reserved))
      r.magic (i := 0) rfl
    simpa [FloorRecord.encode] using h
  have hfloor : getU32Le r.encode 4 = r.floor := by
    have h := getU32Le_append (putU32Le r.magic) (putU32Le r.check ++ putU32Le r.reserved)
      r.floor (i := 4) rfl
    simpa [FloorRecord.encode] using h
  have hcheck : getU32Le r.encode 8 = r.check := by
    have h := getU32Le_append (putU32Le r.magic ++ putU32Le r.floor) (putU32Le r.reserved)
      r.check (i := 8) rfl
    simpa [FloorRecord.encode] using h
  have hreserved : getU32Le r.encode 12 = r.reserved := by
    have h := getU32Le_append (putU32Le r.magic ++ putU32Le r.floor ++ putU32Le r.check) []
      r.reserved (i := 12) rfl
    simpa [FloorRecord.encode] using h
  unfold FloorRecord.decode
  rw [hmagic, hfloor, hcheck, hreserved]

theorem floorOf_floorRecord (floor : UInt32) : floorOf (floorRecord floor) = floor :=
  if_neg fun h => h.elim (fun hmagic => hmagic rfl) fun hcheck => hcheck rfl

/-- A record of 16 bytes leaves a slot far below 16 bits. -/
theorem slotBytes_record {ω : Type} (port : UdsFlashPort ω) :
    slotBytes (portGranule port).toNat 16 < 65536 :=
  slotBytes_lt port (by decide)

/-- A record of 16 bytes is no run of erased bytes. -/
theorem not_confusable {L : UdsParamStore NorFlash} (hsize : L.dataSize = 16) (erased : UInt8)
    (data : Buf) : ¬Confusable L erased data := by
  rintro ⟨hdata, -⟩
  have hlt := erased.toNat_lt
  rw [hsize] at hdata
  unfold le16 at hdata
  rw [UInt16.toNat_ofNat_of_lt' (by rw [UInt16.size]; omega)] at hdata
  omega

/-! ## Runs -/

/-- The floor and its flash, and what has been confirmed. -/
structure FloorRun where
  flash : NorFlash
  floor : UdsBootFloor NorFlash
  /-- The highest version for which a raise has returned true. -/
  confirmed : UInt32

/-- What can happen in a history. -/
inductive FloorCall where
  | init
  /-- A raise with power for so many operations and bytes of the next one, or for all. -/
  | raise (version : UInt32) (cut : Option (Nat × Nat))

/-- One call. -/
def floorStep (g : NorStore) (s : FloorRun) : FloorCall → FloorRun
  | .init =>
    let (_, floor, flash) :=
      bootFloorInit g.port g.flashBase g.sectorCount { s.flash with cut := none }
    { s with floor := floor, flash := flash }
  | .raise version cut =>
    let (raised, floor, flash) := bootFloorRaise s.floor version { s.flash with cut := cut }
    { flash := flash
      floor := floor
      confirmed := if raised ∧ s.confirmed < version then version else s.confirmed }

/-- A floor that has not been initialised, on a flash that has just been delivered. -/
def floorStart (g : NorStore) : FloorRun := ⟨g.delivered, ⟨none, 0⟩, 0⟩

/-- A raise never lowers the floor. -/
theorem raise_mono {ω : Type} (bf : UdsBootFloor ω) (version : UInt32) (w : ω) :
    bootFloorGet bf ≤ bootFloorGet (bootFloorRaise bf version w).2.1 := by
  unfold bootFloorGet bootFloorRaise
  split
  next => exact UInt32.le_refl _
  next =>
    split
    next => exact UInt32.le_refl _
    next hhigher =>
      dsimp only
      split
      next => exact UInt32.le_refl _
      next =>
        split
        next => exact UInt32.le_refl _
        next => exact UInt32.le_of_lt (UInt32.not_le.mp hhigher)

/-! ## The invariant -/

section Held

variable {g : NorStore}

/-- The record of a floor that is no lower. -/
def RecordFrom (floor : UInt32) (data : List UInt8) : Prop :=
  ∃ version, data = (floorRecord version).encode ∧ floor ≤ version

/-- The layout of the floor's store. -/
def NorStore.floorLayout (g : NorStore) : UdsParamStore NorFlash :=
  (g.withData floorRecordSize).layout

theorem NorStore.onNorFloor (g : NorStore) : OnNor g.floorLayout (norErased g.erased) :=
  (g.withData floorRecordSize).onNor

theorem floorLayout_sound
    (hregion : g.flashBase.toNat + g.sectorCount.toNat * g.sectorSize.toNat ≤ 2 ^ 32)
    (hsectors : 2 ≤ g.sectorCount)
    (hcountable : Countable g.port g.flashBase g.sectorCount floorRecordSize) :
    Sound g.floorLayout :=
  layOut_sound ⟨slotBytes_record g.port, hregion, hsectors⟩ hcountable
    (show floorRecordSize ≠ 0 by decide)

/-- The floor is that of the newest record, and nothing in the flash goes below it. -/
structure FloorHeld (hsound : Sound g.floorLayout) (n : Nat) (s : FloorRun) : Prop where
  store : s.floor.store = some (resumedAt g.floorLayout hsound n)
  guarded : Guarded hsound (norErased g.erased) (RecordFrom s.floor.floor) n s.flash.mem
  newest : ∀ m, n = m + 1 → RecordFrom s.floor.floor
    (slotData g.floorLayout s.flash.mem (hsound.ring.home m))
  empty : n = 0 → s.floor.floor = 0
  confirmed : s.confirmed ≤ s.floor.floor

/-- The floor that an init reads from the record. -/
theorem RecordFrom.floorOf {floor : UInt32} {data : List UInt8} (h : RecordFrom floor data) :
    data = (floorRecord (floorOf (FloorRecord.decode data))).encode ∧
      floor ≤ Flash.floorOf (FloorRecord.decode data) := by
  obtain ⟨version, rfl, hle⟩ := h
  rw [decode_encode, floorOf_floorRecord]
  exact ⟨rfl, hle⟩

/-- The floor that the newest of `n` records says. -/
def recordedFloor (hsound : Sound g.floorLayout) (mem : Buf) : Nat → UInt32
  | 0 => 0
  | m + 1 => floorOf (FloorRecord.decode (slotData g.floorLayout mem (hsound.ring.home m)))

/-- An init on a flash with `n` records takes its floor from the newest. -/
theorem bootFloorInit_resumedAt (hsound : Sound g.floorLayout)
    (hopens : Opens g.port g.flashBase g.sectorCount floorRecordSize) {n : Nat} {w : NorFlash}
    (hlogged : hsound.ring.Logged serial (slotSeq g.floorLayout w.mem) n) :
    bootFloorInit g.port g.flashBase g.sectorCount w =
      (true, ⟨some (resumedAt g.floorLayout hsound n), recordedFloor hsound w.mem n⟩, w) := by
  have hinit : udsParamInit g.port g.flashBase g.sectorCount floorRecordSize w
      = (some (resumedAt g.floorLayout hsound n), w) :=
    init_resumedAt hsound g.onNorFloor.healthy ((udsParamInit_usable (w := w)).mpr hopens.usable)
      hlogged
  unfold bootFloorInit
  rw [if_neg (UInt8.not_lt.mpr hopens.two_le), hinit]
  cases n with
  | zero => rfl
  | succ m =>
    have hload := load_resumedAt hsound g.onNorFloor.healthy hlogged []
    dsimp only
    rw [if_neg (by simp [resumedAt]), hload]
    rfl

/-- An init that finds `n` records, none of which goes below the floor there was. -/
theorem init_found (hsound : Sound g.floorLayout)
    (hopens : Opens g.port g.flashBase g.sectorCount floorRecordSize) {n : Nat} {s : FloorRun}
    {P : List UInt8 → Prop} (hguarded : Guarded hsound (norErased g.erased) P n s.flash.mem)
    (hlogged : hsound.ring.Logged serial (slotSeq g.floorLayout s.flash.mem) n)
    (hnewest : ∀ m, n = m + 1 → RecordFrom s.floor.floor
      (slotData g.floorLayout s.flash.mem (hsound.ring.home m)))
    (hempty : n = 0 → s.floor.floor = 0) (hconfirmed : s.confirmed ≤ s.floor.floor) :
    FloorHeld hsound n (floorStep g s .init) ∧
      s.floor.floor ≤ (floorStep g s .init).floor.floor := by
  have hinit := bootFloorInit_resumedAt hsound hopens
    (w := { s.flash with cut := none }) hlogged
  unfold floorStep
  rw [hinit]
  cases n with
  | zero =>
    rw [hempty rfl] at hconfirmed ⊢
    exact ⟨⟨rfl, hguarded.any hlogged, nofun, fun _ => rfl, hconfirmed⟩, UInt32.le_refl _⟩
  | succ m =>
    obtain ⟨hdata, hle⟩ := (hnewest m rfl).floorOf
    refine ⟨⟨rfl, hguarded.any hlogged, ?_, nofun, UInt32.le_trans hconfirmed hle⟩, hle⟩
    rintro _ ⟨⟩
    exact ⟨_, hdata, UInt32.le_refl _⟩

theorem init_held (hsound : Sound g.floorLayout)
    (hopens : Opens g.port g.flashBase g.sectorCount floorRecordSize) {n : Nat} {s : FloorRun}
    (h : FloorHeld hsound n s) :
    (∃ n, FloorHeld hsound n (floorStep g s .init)) ∧
      s.floor.floor ≤ (floorStep g s .init).floor.floor := by
  obtain hlogged | ⟨hlogged, hahead, hbehind⟩ := h.guarded.target
  · have hfound := init_found hsound hopens h.guarded hlogged h.newest h.empty
      h.confirmed
    exact ⟨⟨n, hfound.1⟩, hfound.2⟩
  · -- the record of a raise that failed only after its header
    have hclean := Clean.of_behind hlogged h.guarded.heads hbehind
    have hfound := init_found hsound hopens (hclean.guarded (P := fun _ => False) hopens.two_le)
      hlogged (by rintro _ ⟨⟩; exact hahead) nofun h.confirmed
    exact ⟨⟨n + 1, hfound.1⟩, hfound.2⟩

/-! ## A raise -/

theorem floorRecord_slice (version : UInt32) :
    (Buf.ofList (floorRecord version).encode).slice 0 g.floorLayout.dataSize
      = (floorRecord version).encode := Buf.slice_ofList (floorRecord version).encode

/-- The magic number begins with two different bytes. -/
theorem floorRecord_marked (version : UInt32) :
    Buf.ofList (floorRecord version).encode 0 ≠ Buf.ofList (floorRecord version).encode 1 := by
  have hmagic : floorMagic.toUInt8 ≠ (floorMagic >>> 8).toUInt8 := by decide
  exact hmagic

/-- A raise whose save succeeds reads its record back. -/
theorem bootFloorRaise_stored (hsound : Sound g.floorLayout) {n : Nat} {bf : UdsBootFloor NorFlash}
    (hstore : bf.store = some (resumedAt g.floorLayout hsound n)) {version : UInt32}
    (hhigher : ¬version ≤ bf.floor) {w flash : NorFlash}
    (hsave : udsParamSave (resumedAt g.floorLayout hsound n)
      (Buf.ofList (floorRecord version).encode) w
        = (.ok, resumedAt g.floorLayout hsound (n + 1), flash))
    (hlogged : hsound.ring.Logged serial (slotSeq g.floorLayout flash.mem) (n + 1))
    (hdata : slotData g.floorLayout flash.mem (hsound.ring.home n) = (floorRecord version).encode) :
    bootFloorRaise bf version w
      = (true, ⟨some (resumedAt g.floorLayout hsound (n + 1)), version⟩, flash) := by
  unfold bootFloorRaise
  rw [hstore]
  dsimp only
  rw [if_neg hhigher, hsave]
  dsimp only
  rw [if_neg (by decide), load_resumedAt hsound g.onNorFloor.healthy hlogged [], hdata,
    decode_encode]
  exact if_neg (by simp [floorRecord])

theorem floorStep_raise {s : FloorRun} {version : UInt32} {cut : Option (Nat × Nat)}
    {raised : Bool} {floor : UdsBootFloor NorFlash} {flash : NorFlash}
    (hraise : bootFloorRaise s.floor version ⟨s.flash.mem, cut⟩ = (raised, floor, flash)) :
    floorStep g s (.raise version cut) = ⟨flash, floor,
      if raised ∧ s.confirmed < version then version else s.confirmed⟩ := by
  unfold floorStep
  dsimp only
  rw [hraise]

/-- A raise that has nothing to store leaves the flash, one that stores leaves a record more,
and one that fails leaves the floor. -/
theorem raise_held (hsound : Sound g.floorLayout) (htwo : 2 ≤ g.floorLayout.sectorCount) {n : Nat}
    {s : FloorRun} (h : FloorHeld hsound n s) (version : UInt32) (cut : Option (Nat × Nat)) :
    ∃ n, FloorHeld hsound n (floorStep g s (.raise version cut)) := by
  -- A version that the floor covers is confirmed without a save.
  by_cases hlow : version ≤ s.floor.floor
  · have hraise : bootFloorRaise s.floor version ⟨s.flash.mem, cut⟩
        = (true, s.floor, ⟨s.flash.mem, cut⟩) := by
      unfold bootFloorRaise
      rw [h.store]
      exact if_pos hlow
    rw [floorStep_raise hraise]
    refine ⟨n, h.store, h.guarded, h.newest, h.empty, ?_⟩
    show (if (true = true ∧ s.confirmed < version) then version else s.confirmed) ≤ s.floor.floor
    split
    · exact hlow
    · exact h.confirmed
  have hhigher : s.floor.floor ≤ version := UInt32.le_of_lt (UInt32.not_le.mp hlow)
  have hrecord : RecordFrom s.floor.floor
      ((Buf.ofList (floorRecord version).encode).slice 0 g.floorLayout.dataSize) := by
    rw [floorRecord_slice]
    exact ⟨version, rfl, hhigher⟩
  obtain ⟨hsaved, hold⟩ := save_guarded (w := ⟨s.flash.mem, cut⟩) htwo g.onNorFloor hrecord
    (show 2 ≤ floorRecordSize.toNat by decide) (floorRecord_marked version) (not_confusable rfl _ _)
    h.guarded
  rw [floorRecord_slice] at hsaved
  generalize hsave : udsParamSave (resumedAt g.floorLayout hsound n)
    (Buf.ofList (floorRecord version).encode) ⟨s.flash.mem, cut⟩ = out at hsaved hold
  obtain ⟨status, store, flash⟩ := out
  dsimp only at hsaved hold
  obtain ⟨rfl, rfl, hclean, hdata⟩ | ⟨rfl, rfl, hguarded⟩ := hsaved
  · -- The save went through: its record is now the newest item.
    rw [floorStep_raise (bootFloorRaise_stored hsound h.store hlow hsave hclean.logged hdata)]
    refine ⟨n + 1, rfl, hclean.guarded htwo, ?_, nofun, ?_⟩
    · rintro _ ⟨⟩
      exact ⟨version, hdata, UInt32.le_refl _⟩
    · dsimp only
      split
      · exact UInt32.le_refl _
      · exact UInt32.le_trans h.confirmed hhigher
  · -- The save was cut short or failed: the floor and the items it stands on are as before.
    have hraise : bootFloorRaise s.floor version ⟨s.flash.mem, cut⟩
        = (false, ⟨some (resumedAt g.floorLayout hsound n), s.floor.floor⟩, flash) := by
      unfold bootFloorRaise
      rw [h.store]
      dsimp only
      rw [if_neg hlow, hsave]
      exact if_pos (by simp)
    rw [floorStep_raise hraise]
    refine ⟨n, rfl, hguarded, fun m hm => ?_, h.empty, h.confirmed⟩
    show RecordFrom s.floor.floor (slotData g.floorLayout flash.mem (hsound.ring.home m))
    rw [hold m hm]
    exact h.newest m hm

/-! ## The run -/

/-- A floor without a store has confirmed nothing. It is one that no init has been tried on, or
that none opens. -/
structure Unopened (g : NorStore) (s : FloorRun) : Prop where
  store : s.floor.store = none
  mem : s.flash.mem = g.delivered.mem
  confirmed : s.confirmed = 0
  floor : s.floor.floor = 0 ∨ s.floor.floor = floorClosed ∧
    ¬Opens g.port g.flashBase g.sectorCount floorRecordSize

/-- What holds between the calls. -/
def FloorKept (g : NorStore) (s : FloorRun) : Prop :=
  Unopened g s ∨ Opens g.port g.flashBase g.sectorCount floorRecordSize ∧
    ∃ hsound : Sound g.floorLayout, ∃ n, FloorHeld hsound n s

theorem le_floorClosed (version : UInt32) : version ≤ floorClosed := by
  have hlt := version.toNat_lt
  rw [UInt32.le_iff_toNat_le]
  exact Nat.le_of_lt_succ hlt

/-- What an init does not open it closes. -/
theorem bootFloorInit_closed {ω : Type} {port : UdsFlashPort ω} {flashBase : UInt32}
    {sectorCount : UInt8} (hopens : ¬Opens port flashBase sectorCount floorRecordSize) (w : ω) :
    bootFloorInit port flashBase sectorCount w = (false, ⟨none, floorClosed⟩, w) := by
  unfold bootFloorInit
  by_cases hsectors : sectorCount < 2
  · exact if_pos hsectors
  · rw [if_neg hsectors, udsParamInit_closed hopens hsectors]

theorem floorStep_init {s : FloorRun} {opened : Bool} {floor : UdsBootFloor NorFlash}
    {flash : NorFlash}
    (hinit : bootFloorInit g.port g.flashBase g.sectorCount ⟨s.flash.mem, none⟩
      = (opened, floor, flash)) :
    floorStep g s .init = ⟨flash, floor, s.confirmed⟩ := by
  unfold floorStep
  dsimp only
  rw [hinit]

theorem Unopened.closed {s : FloorRun} (h : Unopened g s)
    (hopens : ¬Opens g.port g.flashBase g.sectorCount floorRecordSize) :
    Unopened g (floorStep g s .init) ∧ (floorStep g s .init).floor.floor = floorClosed := by
  rw [floorStep_init (bootFloorInit_closed hopens _)]
  exact ⟨⟨rfl, h.mem, h.confirmed, .inr ⟨rfl, hopens⟩⟩, rfl⟩

theorem Unopened.init {s : FloorRun} (h : Unopened g s)
    (hsound : Opens g.port g.flashBase g.sectorCount floorRecordSize → Sound g.floorLayout) :
    FloorKept g (floorStep g s .init) ∧
      s.floor.floor ≤ (floorStep g s .init).floor.floor := by
  by_cases hopens : Opens g.port g.flashBase g.sectorCount floorRecordSize
  · have hsound := hsound hopens
    have hclean : Clean hsound (norErased g.erased) 0 s.flash.mem := h.mem ▸ delivered_clean
    have hfloor : s.floor.floor = 0 := h.floor.resolve_right fun hclosed => hclosed.2 hopens
    have hfound := init_found hsound hopens (hclean.guarded (P := fun _ => False) hopens.two_le)
      hclean.logged nofun (fun _ => hfloor) (by
        rw [h.confirmed]
        exact UInt32.zero_le)
    exact ⟨.inr ⟨hopens, hsound, 0, hfound.1⟩, hfound.2⟩
  · obtain ⟨hclosed, hfloor⟩ := h.closed hopens
    rw [hfloor]
    exact ⟨.inl hclosed, le_floorClosed _⟩

theorem Unopened.raise {s : FloorRun} (h : Unopened g s) (version : UInt32)
    (cut : Option (Nat × Nat)) : Unopened g (floorStep g s (.raise version cut)) := by
  unfold floorStep bootFloorRaise
  rw [h.store]
  exact ⟨h.store, h.mem, h.confirmed, h.floor⟩

theorem unopened_start (g : NorStore) : Unopened g (floorStart g) := ⟨rfl, rfl, rfl, .inl rfl⟩

theorem floorStep_kept
    (hsound : Opens g.port g.flashBase g.sectorCount floorRecordSize → Sound g.floorLayout)
    {s : FloorRun} (call : FloorCall) (h : FloorKept g s) :
    FloorKept g (floorStep g s call) ∧ s.floor.floor ≤ (floorStep g s call).floor.floor := by
  obtain h | ⟨hopens, hsound, n, h⟩ := h
  · cases call with
    | init => exact h.init hsound
    | raise version cut => exact ⟨.inl (h.raise version cut), raise_mono _ _ _⟩
  · cases call with
    | init =>
      have hheld := init_held hsound hopens h
      exact ⟨.inr ⟨hopens, hsound, hheld.1⟩, hheld.2⟩
    | raise version cut =>
      exact ⟨.inr ⟨hopens, hsound, raise_held hsound hopens.two_le h version cut⟩, raise_mono _ _ _⟩

theorem FloorKept.confirmed_le {s : FloorRun} (h : FloorKept g s) :
    s.confirmed ≤ bootFloorGet s.floor := by
  obtain h | ⟨-, hsound, n, h⟩ := h
  · rw [h.confirmed]
    exact UInt32.zero_le
  · exact h.confirmed

end Held

/-- On sectors whose slots the store can count, whatever raises and inits there have been, and
wherever the raises were cut: the floor is at least every version for which a raise has returned
true, and no call lowers it. -/
theorem floor_durable (g : NorStore)
    (hregion : g.flashBase.toNat + g.sectorCount.toNat * g.sectorSize.toNat ≤ 2 ^ 32)
    (hcountable : Opens g.port g.flashBase g.sectorCount floorRecordSize →
      Countable g.port g.flashBase g.sectorCount floorRecordSize) (calls : List FloorCall) :
    let s := run (floorStep g) (floorStart g) calls
    s.confirmed ≤ bootFloorGet s.floor ∧
      ∀ call, bootFloorGet s.floor ≤ bootFloorGet (floorStep g s call).floor := by
  have hsound : Opens g.port g.flashBase g.sectorCount floorRecordSize → Sound g.floorLayout :=
    fun hopens => floorLayout_sound hregion hopens.two_le (hcountable hopens)
  have hkept : FloorKept g (run (floorStep g) (floorStart g) calls) :=
    run_inv (I := FloorKept g) (fun s call h => (floorStep_kept hsound call h).1)
      (.inl (unopened_start g)) calls
  intro s
  exact ⟨hkept.confirmed_le, fun call => (floorStep_kept hsound call hkept).2⟩

/-- Two sectors of 64 bytes hold two records each. -/
theorem floor_durable_small :
    let s := run (floorStep smallStore) (floorStart smallStore)
      [.init, .raise 5 none, .raise 7 (some (0, 3)), .init]
    s.confirmed ≤ bootFloorGet s.floor ∧
      ∀ call, bootFloorGet s.floor ≤ bootFloorGet (floorStep smallStore s call).floor :=
  floor_durable smallStore (by decide) (fun _ => ⟨by decide, by decide⟩) _

/-- Two sectors of 2 MiB: 65536 slots in each, of which the store counts none. -/
def wideStore : NorStore where
  sectorSize := 0x200000
  granule := 2
  erased := 0xFF
  flashBase := 0
  sectorCount := 2
  dataSize := 16

/-- A raise that has returned true, and an init that finds nothing. -/
theorem floor_forgotten :
    (run (floorStep wideStore) (floorStart wideStore) [.init, .raise 5 none]).confirmed = 5 ∧
      bootFloorGet (run (floorStep wideStore) (floorStart wideStore)
        [.init, .raise 5 none, .init]).floor = 0 := by
  constructor <;> decide +kernel

end UdsIsoTp.Flash
