import UdsIsoTp.Flash.StoreLog
import UdsIsoTp.Lib.Grid

/-!
# The geometries that an init lets through

The sizes of an init are rounded up and added in 16 bits. What comes of that is the size that was
meant, cut to 16 bits (`slotSizeFor_eq_mod`), so a slot that is too large for them turns into a
small one, or into one of no size at all, by which the sector's size is then divided.
`udsParamInitDividing` is the init with its divisions looked at one by one, `SoundGeometry` what
a store that it lets through should be like, and `init_geometry_iff` says for which arguments it
is: those of `AdmitsSound`.
-/

namespace UdsIsoTp.Flash

variable {ω : Type}

/-! ## Divisions -/

/-- `n / d`, or nothing for a division by zero. -/
def divided (n d : Nat) : Option Nat := if d = 0 then none else some (n / d)

theorem divided_pos {n d : Nat} (hd : d ≠ 0) : divided n d = some (n / d) := if_neg hd

/-- `uds_param_init`, division by division; `none` is a division by zero. -/
def udsParamInitDividing (port : UdsFlashPort ω) (flashBase : UInt32) (sectorCount : UInt8)
    (dataSize : UInt16) (w : ω) : Option (Option (UdsParamStore ω) × ω) :=
  let secSize := (port.sectorSize flashBase).toNat
  let granule := (portGranule port).toNat
  let minHdr := if granule < slotHeaderSize then slotHeaderSize else granule
  if sectorCount = 0 ∨ dataSize = 0 then some (none, w)
  else if port.sectorSize flashBase = 0 then some (none, w)
  else if portGranule port &&& (portGranule port - 1) ≠ 0 then some (none, w)
  else do
    let headerUnits ← divided (minHdr + granule - 1) granule
    let payloadUnits ← divided (dataSize.toNat + granule - 1) granule
    let headerSize := headerUnits * granule % 65536
    let payloadAligned := payloadUnits * granule % 65536
    let slotSize := (headerSize + payloadAligned) % 65536
    let paragraphs ← divided (slotSize + 15) 16
    let slotSize :=
      if slotSize % 16 ≠ 0 ∧ granule < 16 then paragraphs * 16 % 65536 else slotSize
    if secSize < slotSize then some (none, w)
    else do
      let slotsPerSector ← divided secSize slotSize
      let (store, w) := scanForActiveSlot
        { layOut port flashBase sectorCount dataSize with
          slotSize := slotSize
          headerSize := headerSize
          payloadSizeAligned := payloadAligned
          slotsPerSector := slotsPerSector % 65536 } w
      some (some { store with initialized := true }, w)

section Init

variable {port : UdsFlashPort ω} {flashBase : UInt32} {sectorCount : UInt8} {dataSize : UInt16}

/-- Past the checks of the arguments, the one division that can go wrong is by a slot's size. -/
theorem udsParamInitDividing_checked (hargs : ¬(sectorCount = 0 ∨ dataSize = 0))
    (hsector : port.sectorSize flashBase ≠ 0)
    (hgranule : portGranule port &&& (portGranule port - 1) = 0) (w : ω) :
    udsParamInitDividing port flashBase sectorCount dataSize w =
      if (port.sectorSize flashBase).toNat
          < slotSizeFor (portGranule port).toNat dataSize.toNat then some (none, w)
      else (divided (port.sectorSize flashBase).toNat
          (slotSizeFor (portGranule port).toNat dataSize.toNat)).map fun _ =>
        udsParamInit port flashBase sectorCount dataSize w := by
  have hpos : (portGranule port).toNat ≠ 0 := Nat.ne_of_gt (portGranule_pos port)
  unfold udsParamInitDividing
  dsimp only
  rw [if_neg hargs, if_neg hsector, if_neg (not_not.mpr hgranule), divided_pos hpos,
    divided_pos hpos]
  let scan (n : Nat) := scanForActiveSlot
    { layOut port flashBase sectorCount dataSize with slotsPerSector := n % 65536 } w
  show (if (port.sectorSize flashBase).toNat
        < slotSizeFor (portGranule port).toNat dataSize.toNat then some (none, w)
      else (divided (port.sectorSize flashBase).toNat
          (slotSizeFor (portGranule port).toNat dataSize.toNat)).bind fun n =>
        some (some { (scan n).1 with initialized := true }, (scan n).2)) = _
  by_cases hroom : (port.sectorSize flashBase).toNat
      < slotSizeFor (portGranule port).toNat dataSize.toNat
  · rw [if_pos hroom, if_pos hroom]
  · have haccepted : (udsParamInit port flashBase sectorCount dataSize w).1 ≠ none :=
      udsParamInit_usable.mpr ⟨hargs, hsector, hgranule, Nat.not_lt.mp hroom⟩
    rw [if_neg hroom, if_neg hroom, (udsParamInit_accepted haccepted w).2]
    by_cases hzero : slotSizeFor (portGranule port).toNat dataSize.toNat = 0
    · rw [hzero]
      rfl
    · rw [divided_pos hzero]
      rfl

theorem udsParamInitDividing_rejected
    (h : ¬Usable port flashBase sectorCount dataSize) (w : ω) :
    udsParamInitDividing port flashBase sectorCount dataSize w = some (none, w) := by
  by_cases hargs : sectorCount = 0 ∨ dataSize = 0
  · exact if_pos hargs
  by_cases hsector : port.sectorSize flashBase = 0
  · unfold udsParamInitDividing
    dsimp only
    rw [if_neg hargs, if_pos hsector]
  by_cases hgranule : portGranule port &&& (portGranule port - 1) = 0
  · rw [udsParamInitDividing_checked hargs hsector hgranule, if_pos]
    exact Nat.not_le.mp fun hroom => h ⟨hargs, hsector, hgranule, hroom⟩
  · unfold udsParamInitDividing
    dsimp only
    rw [if_neg hargs, if_neg hsector, if_pos hgranule]

/-- The one division that can go wrong is by the size of a slot. -/
theorem udsParamInitDividing_usable
    (h : Usable port flashBase sectorCount dataSize) (w : ω) :
    udsParamInitDividing port flashBase sectorCount dataSize w =
      (divided (port.sectorSize flashBase).toNat
        (slotSizeFor (portGranule port).toNat dataSize.toNat)).map fun _ =>
          udsParamInit port flashBase sectorCount dataSize w := by
  rw [udsParamInitDividing_checked h.args h.sector h.granule, if_neg (Nat.not_lt.mpr h.room)]

/-! ## The size of a slot -/

/-- What is computed in 16 bits is the size that was meant, cut to 16 bits. -/
theorem slotSizeFor_eq_mod (granule dataSize : Nat) :
    slotSizeFor granule dataSize = slotBytes granule dataSize % 65536 := by
  have hsum : (headerSizeFor granule + payloadSizeFor granule dataSize) % 65536
      = (headerSizeFor granule + alignUp dataSize granule) % 65536 := Nat.add_mod_mod ..
  unfold slotSizeFor slotBytes
  dsimp only
  rw [hsum]
  generalize headerSizeFor granule + alignUp dataSize granule = bytes
  -- sixteen divides the modulus, so rounding and cutting commute
  have hmod : bytes % 65536 % 16 = bytes % 16 := Nat.mod_mod_of_dvd bytes (by decide)
  rw [hmod]
  split
  next => omega
  next => rfl

/-- Rounding adds little. -/
theorem slotBytes_le (port : UdsFlashPort ω) (dataSize : Nat) :
    slotBytes (portGranule port).toNat dataSize
      ≤ headerSizeFor (portGranule port).toNat + dataSize + 512 := by
  have hgranule := (portGranule port).toNat_lt
  have hpayload := alignUp_le dataSize (portGranule port).toNat
  unfold slotBytes
  dsimp only
  split <;> omega

theorem headerSizeFor_pos (granule : UInt8) (h : 0 < granule.toNat) :
    slotHeaderSize ≤ headerSizeFor granule.toNat := by
  rw [headerSizeFor_eq]
  refine Nat.le_trans ?_ (le_alignUp h)
  split <;> omega

/-- A slot that does not fit in 16 bits is taken for one that its header alone would not fit. -/
theorem slotSizeFor_wrapped (port : UdsFlashPort ω) {dataSize : UInt16}
    (h : 65536 ≤ slotBytes (portGranule port).toNat dataSize.toNat) :
    slotSizeFor (portGranule port).toNat dataSize.toNat + 65536
        = slotBytes (portGranule port).toNat dataSize.toNat ∧
      slotSizeFor (portGranule port).toNat dataSize.toNat
        < headerSizeFor (portGranule port).toNat + dataSize.toNat := by
  have hle := slotBytes_le port dataSize.toNat
  have hdata := dataSize.toNat_lt
  have hheader : headerSizeFor (portGranule port).toNat < 512 := by
    have hgranule := (portGranule port).toNat_lt
    rw [headerSizeFor_eq]
    refine Nat.lt_of_le_of_lt (alignUp_le ..) ?_
    unfold slotHeaderSize
    split <;> omega
  rw [slotSizeFor_eq_mod]
  omega

/-! ## What a store should be like -/

/-- Header and data fit in a slot and slots in a sector, the slots of a sector are counted right,
and each has its own addresses in its own sector. Addresses are taken in 32 bits. -/
structure SoundGeometry (store : UdsParamStore ω) : Prop where
  room : store.headerSize + store.dataSize ≤ store.slotSize
  slot : store.slotSize ≤ store.sectorSize
  slots_pos : 1 ≤ store.slotsPerSector
  slots : store.slotsPerSector = store.sectorSize / store.slotSize
  inside : ∀ sector < store.sectorCount, ∀ slot < store.slotsPerSector, ∀ i < store.slotSize,
    ∃ j < store.sectorSize, (slotAddr store sector slot + i) % 2 ^ 32
      = (store.flashBase + sector * store.sectorSize + j) % 2 ^ 32
  apart : ∀ sector < store.sectorCount, ∀ slot < store.slotsPerSector,
    ∀ sector' < store.sectorCount, ∀ slot' < store.slotsPerSector,
    (sector, slot) ≠ (sector', slot') → ∀ i < store.slotSize, ∀ j < store.slotSize,
      (slotAddr store sector slot + i) % 2 ^ 32 ≠ (slotAddr store sector' slot' + j) % 2 ^ 32

/-- The arguments are refused, or the slot that was meant fits in 16 bits and then either the
sector is too small for it, or its slots are counted in 16 bits and all of them fit around the
address space. A slot that does not fit in 16 bits is harmless where the sector is smaller than
what is left of it. -/
def AdmitsSound (port : UdsFlashPort ω) (flashBase : UInt32) (sectorCount : UInt8)
    (dataSize : UInt16) : Prop :=
  let secSize := (port.sectorSize flashBase).toNat
  let bytes := slotBytes (portGranule port).toNat dataSize.toNat
  (sectorCount = 0 ∨ dataSize = 0 ∨ port.sectorSize flashBase = 0 ∨
      portGranule port &&& (portGranule port - 1) ≠ 0) ∨
    (bytes < 65536 ∧ (secSize < bytes ∨ (secSize / bytes < 65536 ∧
      (sectorCount.toNat - 1) * secSize + secSize / bytes * bytes ≤ 2 ^ 32))) ∨
    (65536 ≤ bytes ∧ secSize < bytes - 65536)

/-- The scan does not move the slots. -/
theorem soundGeometry_scanned (L : UdsParamStore ω) (best : Option FoundSlot) :
    SoundGeometry { activate L best with initialized := true } ↔ SoundGeometry L := by
  cases best with
  | none =>
    exact ⟨fun h => ⟨h.room, h.slot, h.slots_pos, h.slots, h.inside, h.apart⟩,
      fun h => ⟨h.room, h.slot, h.slots_pos, h.slots, h.inside, h.apart⟩⟩
  | some found =>
    exact ⟨fun h => ⟨h.room, h.slot, h.slots_pos, h.slots, h.inside, h.apart⟩,
      fun h => ⟨h.room, h.slot, h.slots_pos, h.slots, h.inside, h.apart⟩⟩

/-- A geometry whose slots are counted right, as rows of cells. -/
def slotGrid (L : UdsParamStore ω) (hsectors : 0 < L.sectorCount) (hslot : 0 < L.slotSize)
    (hroom : L.slotSize ≤ L.sectorSize) : Grid where
  rows := L.sectorCount
  columns := L.sectorSize / L.slotSize
  width := L.slotSize
  stride := L.sectorSize
  rows_pos := hsectors
  columns_pos := Nat.div_pos hroom hslot
  width_pos := hslot
  fits := Nat.div_mul_le_self ..
  full := by
    rw [Nat.mul_comm]
    exact Nat.lt_mul_div_succ _ hslot

/-- Addresses keep apart if the cells do, wherever the flash begins. -/
theorem soundGeometry_iff {L : UdsParamStore ω} (hsectors : 0 < L.sectorCount)
    (hslot : 0 < L.slotSize) (hroom : L.slotSize ≤ L.sectorSize) (hwidth : L.slotSize ≤ 2 ^ 32)
    (hheader : L.headerSize + L.dataSize ≤ L.slotSize)
    (hslots : L.slotsPerSector = L.sectorSize / L.slotSize % 65536) :
    SoundGeometry L ↔ L.sectorSize / L.slotSize < 65536 ∧
      (L.sectorCount - 1) * L.sectorSize + L.sectorSize / L.slotSize * L.slotSize ≤ 2 ^ 32 := by
  -- Two addresses meet exactly when their offsets in the region do.
  have haddr : ∀ sector slot i, (slotAddr L sector slot + i) % 2 ^ 32
      = (L.flashBase + ((slotGrid L hsectors hslot hroom).start sector slot + i)) % 2 ^ 32 := by
    intro sector slot i
    unfold slotAddr
    rw [Nat.mod_add_mod, Nat.add_assoc L.flashBase, Nat.add_assoc L.flashBase]
    rfl
  have hmeet : ∀ x y, (L.flashBase + x) % 2 ^ 32 = (L.flashBase + y) % 2 ^ 32 ↔
      x % 2 ^ 32 = y % 2 ^ 32 := fun x y =>
    ⟨Nat.ModEq.add_left_cancel' L.flashBase, Nat.ModEq.add_left L.flashBase⟩
  have happart := Grid.apart_iff (g := slotGrid L hsectors hslot hroom) hwidth
  constructor
  · intro h
    have hcount : L.sectorSize / L.slotSize < 65536 := by
      rw [← h.slots, hslots]
      exact Nat.mod_lt _ (by decide)
    refine ⟨hcount, happart.mp ?_⟩
    intro r hr c hc r' hr' c' hc' hne i hi j hj hsame
    refine h.apart r hr c (h.slots ▸ hc) r' hr' c' (h.slots ▸ hc') hne i hi j hj ?_
    rw [haddr, haddr, hmeet]
    exact hsame
  · rintro ⟨hcount, hspan⟩
    rw [Nat.mod_eq_of_lt hcount] at hslots
    have hgrid := happart.mpr hspan
    have hcolumn : ∀ {c}, c < L.slotsPerSector → c < (slotGrid L hsectors hslot hroom).columns :=
      fun hc => Nat.lt_of_lt_of_eq hc hslots
    refine ⟨hheader, hroom, hslots ▸ Nat.div_pos hroom hslot, hslots, ?_, ?_⟩
    · intro sector _ slot hslot' i hi
      refine ⟨slot * L.slotSize + i,
        Grid.within_row (g := slotGrid L hsectors hslot hroom) (hcolumn hslot') hi, ?_⟩
      rw [haddr, Nat.add_assoc L.flashBase]
      unfold Grid.start
      rw [Nat.add_assoc]
      rfl
    · intro r hr c hc r' hr' c' hc' hne i hi j hj hsame
      rw [haddr, haddr, hmeet] at hsame
      exact hgrid r hr c (hcolumn hc) r' hr' c' (hcolumn hc') hne i hi j hj hsame

/-- Arguments that the init refuses admit nothing. -/
theorem admitsSound_of_not_usable (husable : ¬Usable port flashBase sectorCount dataSize) :
    AdmitsSound port flashBase sectorCount dataSize := by
  by_cases hargs : sectorCount = 0 ∨ dataSize = 0
  · exact .inl (hargs.imp_right .inl)
  by_cases hsector : port.sectorSize flashBase = 0
  · exact .inl (.inr (.inr (.inl hsector)))
  by_cases hgranule : portGranule port &&& (portGranule port - 1) = 0
  case neg => exact .inl (.inr (.inr (.inr hgranule)))
  have hroom := Nat.not_le.mp fun hroom => husable ⟨hargs, hsector, hgranule, hroom⟩
  by_cases hbytes : slotBytes (portGranule port).toNat dataSize.toNat < 65536
  · rw [(slotSizeFor_eq hbytes).1] at hroom
    exact .inr (.inl ⟨hbytes, .inl hroom⟩)
  · have hwrapped := (slotSizeFor_wrapped port (Nat.not_lt.mp hbytes)).1
    exact .inr (.inr ⟨Nat.not_lt.mp hbytes, by omega⟩)

theorem Usable.not_refused (h : Usable port flashBase sectorCount dataSize) :
    ¬(sectorCount = 0 ∨ dataSize = 0 ∨ port.sectorSize flashBase = 0 ∨
      portGranule port &&& (portGranule port - 1) ≠ 0) := by
  rintro (hcount | hdata | hsector | hgranule)
  · exact h.args (.inl hcount)
  · exact h.args (.inr hdata)
  · exact h.sector hsector
  · exact hgranule h.granule

/-- A slot of some size is divided by, and the store is the one that is laid out. -/
theorem Usable.divided_sound_iff (h : Usable port flashBase sectorCount dataSize)
    (hsome : slotSizeFor (portGranule port).toNat dataSize.toNat ≠ 0) (w : ω) :
    (∃ out, udsParamInitDividing port flashBase sectorCount dataSize w = some out ∧
      ∀ store, out.1 = some store → SoundGeometry store) ↔
    SoundGeometry (layOut port flashBase sectorCount dataSize) := by
  have hopened : (udsParamInit port flashBase sectorCount dataSize w).1 ≠ none :=
    udsParamInit_usable.mpr h
  rw [udsParamInitDividing_usable h, divided_pos hsome, (udsParamInit_accepted hopened w).2]
  constructor
  · rintro ⟨out, hout, hsound⟩
    obtain rfl := Option.some.inj hout
    exact (soundGeometry_scanned _ _).mp (hsound _ rfl)
  · intro hlaid
    refine ⟨_, rfl, fun store hstore => ?_⟩
    obtain rfl := Option.some.inj hstore
    exact (soundGeometry_scanned _ _).mpr hlaid

/-- With the sizes that were meant, the layout is sound if the slots of a sector are counted right
and all slots fit around the address space. -/
theorem Usable.layOut_sound_iff (h : Usable port flashBase sectorCount dataSize)
    (hbytes : slotBytes (portGranule port).toNat dataSize.toNat < 65536) :
    SoundGeometry (layOut port flashBase sectorCount dataSize) ↔
      (port.sectorSize flashBase).toNat / slotBytes (portGranule port).toNat dataSize.toNat
          < 65536 ∧
        (sectorCount.toNat - 1) * (port.sectorSize flashBase).toNat
          + (port.sectorSize flashBase).toNat
              / slotBytes (portGranule port).toNat dataSize.toNat
            * slotBytes (portGranule port).toNat dataSize.toNat ≤ 2 ^ 32 := by
  obtain ⟨hslot, hpayload, hparts⟩ := slotSizeFor_eq hbytes
  have hheader := headerSizeFor_pos _ (portGranule_pos port)
  have hdata := le_alignUp (portGranule_pos port) (n := dataSize.toNat)
  unfold slotHeaderSize at hheader
  have hsectors : 0 < sectorCount.toNat := Nat.pos_of_ne_zero fun hzero =>
    h.args (.inl (UInt8.toNat_inj.mp hzero))
  have hiff := soundGeometry_iff (L := layOut port flashBase sectorCount dataSize) hsectors
    (show 0 < slotSizeFor _ _ by omega) h.room (show slotSizeFor _ _ ≤ 2 ^ 32 by omega)
    (show headerSizeFor _ + dataSize.toNat ≤ slotSizeFor _ _ by omega) rfl
  rw [show (layOut port flashBase sectorCount dataSize).slotSize
    = slotBytes (portGranule port).toNat dataSize.toNat from hslot] at hiff
  exact hiff

/-- The init divides by no zero, and a store that it lets through has a sound geometry, if and
only if its arguments are those of `AdmitsSound`. -/
theorem init_geometry_iff (port : UdsFlashPort ω) (flashBase : UInt32) (sectorCount : UInt8)
    (dataSize : UInt16) (w : ω) :
    (∃ out, udsParamInitDividing port flashBase sectorCount dataSize w = some out ∧
      ∀ store, out.1 = some store → SoundGeometry store) ↔
    AdmitsSound port flashBase sectorCount dataSize := by
  by_cases husable : Usable port flashBase sectorCount dataSize
  case neg =>
    exact ⟨fun _ => admitsSound_of_not_usable husable,
      fun _ => ⟨_, udsParamInitDividing_rejected husable w, by simp⟩⟩
  have hroom := husable.room
  by_cases hbytes : slotBytes (portGranule port).toNat dataSize.toNat < 65536
  · -- the sizes are those that were meant
    obtain ⟨hslot, -, hparts⟩ := slotSizeFor_eq hbytes
    have hheader := headerSizeFor_pos _ (portGranule_pos port)
    unfold slotHeaderSize at hheader
    rw [husable.divided_sound_iff (by omega) w, husable.layOut_sound_iff hbytes]
    constructor
    · exact fun h => .inr (.inl ⟨hbytes, .inr h⟩)
    · rintro (h | ⟨-, h | h⟩ | ⟨h, -⟩)
      · exact absurd h husable.not_refused
      · omega
      · exact h
      · omega
  · -- what is left of the slot lets the checks pass, and is no room for the header and the data
    obtain ⟨hwrapped, hshort⟩ := slotSizeFor_wrapped port (Nat.not_lt.mp hbytes)
    constructor
    · intro h
      by_cases hzero : slotSizeFor (portGranule port).toNat dataSize.toNat = 0
      · obtain ⟨out, hout, -⟩ := h
        rw [udsParamInitDividing_usable husable, hzero] at hout
        cases hout
      · have hlaid := ((husable.divided_sound_iff hzero w).mp h).room
        exact absurd hlaid (Nat.not_le.mpr hshort)
    · rintro (h | ⟨h, -⟩ | ⟨-, h⟩)
      · exact absurd h husable.not_refused
      · exact absurd h hbytes
      · omega

/-- A port with sectors of two kilobytes and the default granule. -/
def twoKilobytes : UdsFlashPort Unit where
  erase _ _ := (true, ())
  read _ _ length := (some (List.replicate length 0xFF), ())
  write _ _ _ := (true, ())
  sectorSize _ := 2048
  programGranule := 0
  erasedByte := 0xFF

/-- Data of 65,520 bytes make a slot of 65,536, and the sector is divided by zero. With 65,535 the
slot has 16 bytes, which the header fills, and the store is let through. -/
theorem oversized_data_admitted :
    udsParamInitDividing twoKilobytes 0 2 65520 () = none ∧
    ∃ store, udsParamInit twoKilobytes 0 2 65535 () = (some store, ()) ∧ ¬SoundGeometry store := by
  have hdivided : Usable twoKilobytes 0 2 65520 :=
    ⟨by decide, by decide, by decide, by decide +kernel⟩
  have hadmitted : Usable twoKilobytes 0 2 65535 :=
    ⟨by decide, by decide, by decide, by decide +kernel⟩
  have hinit := udsParamInit_accepted ((udsParamInit_usable (w := ())).mpr hadmitted) ()
  refine ⟨?_, _, hinit.2, ?_⟩
  · rw [udsParamInitDividing_usable hdivided]
    rfl
  · intro hsound
    have hroom := ((soundGeometry_scanned _ _).mp hsound).room
    exact absurd hroom (by decide +kernel)

end Init

end UdsIsoTp.Flash
