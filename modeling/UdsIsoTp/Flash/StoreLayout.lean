import UdsIsoTp.Flash.ParamStore
import UdsIsoTp.Lib.SectorRing

/-!
# The slots of a store

A store whose geometry is `Sound` has its slots side by side in the sectors of a ring, none
over another. What the scan makes of a slot depends on the bytes of that slot alone:
`slotSeq` is the sequence number under which it is accepted, if it is, and `slotData` the
data behind the header.
-/

namespace UdsIsoTp.Flash

variable {ω : Type}

/-! ## Geometry -/

/-- The slots lie in their sectors, the sectors in the address space, and sequence numbers
tell the newer of any two slots. -/
structure Sound (store : UdsParamStore ω) : Prop where
  data_pos : 0 < store.dataSize
  data_lt : store.dataSize < 65536
  header : slotHeaderSize ≤ store.headerSize
  payload : store.dataSize ≤ store.payloadSizeAligned
  slot : store.headerSize + store.payloadSizeAligned ≤ store.slotSize
  slots : store.slotsPerSector * store.slotSize ≤ store.sectorSize
  region : store.flashBase + store.sectorCount * store.sectorSize ≤ 2 ^ 32
  sectors_pos : 0 < store.sectorCount
  pos : 0 < store.slotsPerSector
  near : store.sectorCount * store.slotsPerSector ≤ 32768
  near_sector : store.slotsPerSector < 32767

/-- The slots of a sound layout, in the order they are used. -/
def Sound.ring {store : UdsParamStore ω} (h : Sound store) : SectorRing :=
  ⟨store.sectorCount, store.slotsPerSector, h.sectors_pos, h.pos⟩

/-- Where slot `r` of the ring begins. -/
def slotStart (store : UdsParamStore ω) (r : Nat) : Nat :=
  store.flashBase + r / store.slotsPerSector * store.sectorSize
    + r % store.slotsPerSector * store.slotSize

/-- Where its sector does. -/
def sectorStart (store : UdsParamStore ω) (r : Nat) : Nat :=
  store.flashBase + r / store.slotsPerSector * store.sectorSize

variable {store : UdsParamStore ω} {r s : Nat}

/-- A slot ends inside its sector. -/
theorem Sound.slot_within (h : Sound store) (r : Nat) :
    slotStart store r + store.slotSize ≤ sectorStart store r + store.sectorSize := by
  have hlt : r % store.slotsPerSector + 1 ≤ store.slotsPerSector := Nat.mod_lt _ h.pos
  have hmul := Nat.mul_le_mul_right store.slotSize hlt
  have hslots := h.slots
  rw [Nat.add_mul, Nat.one_mul] at hmul
  unfold slotStart sectorStart
  omega

/-- A sector ends inside the address space. -/
theorem Sound.sector_within (h : Sound store) (hr : r < h.ring.size) :
    sectorStart store r + store.sectorSize ≤ 2 ^ 32 := by
  have hlt : r / store.slotsPerSector + 1 ≤ store.sectorCount :=
    Nat.div_lt_of_lt_mul (by rw [Nat.mul_comm]; exact hr)
  have hmul := Nat.mul_le_mul_right store.sectorSize hlt
  have hregion := h.region
  rw [Nat.add_mul, Nat.one_mul] at hmul
  unfold sectorStart
  omega

/-- A slot lies in the address space, its payload included. -/
theorem Sound.slot_fits (h : Sound store) (hr : r < h.ring.size) :
    slotStart store r + store.headerSize + store.payloadSizeAligned ≤ 2 ^ 32 := by
  have hwithin := h.slot_within r
  have hsector := h.sector_within hr
  have hslot := h.slot
  omega

theorem sectorStart_le (store : UdsParamStore ω) (r : Nat) :
    sectorStart store r ≤ slotStart store r := Nat.le_add_right ..

/-- So no address of a slot is cut. -/
theorem Sound.slotAddr_eq (h : Sound store) (hr : r < h.ring.size) :
    slotAddr store (r / store.slotsPerSector) (r % store.slotsPerSector) = slotStart store r := by
  have hfits := h.slot_fits hr
  have hheader : 16 ≤ store.headerSize := h.header
  exact Nat.mod_eq_of_lt (show slotStart store r < 2 ^ 32 by omega)

/-- The slots of two sectors lie apart. -/
theorem sectors_apart (hlt : r / store.slotsPerSector < s / store.slotsPerSector) :
    sectorStart store r + store.sectorSize ≤ sectorStart store s := by
  have hmul := Nat.mul_le_mul_right store.sectorSize (Nat.succ_le_of_lt hlt)
  rw [Nat.succ_mul] at hmul
  unfold sectorStart
  omega

/-- No two slots overlap. -/
theorem Sound.slots_apart (h : Sound store) (hne : r ≠ s) :
    slotStart store r + store.slotSize ≤ slotStart store s ∨
      slotStart store s + store.slotSize ≤ slotStart store r := by
  have hr := h.slot_within r
  have hs := h.slot_within s
  have hr' := sectorStart_le store r
  have hs' := sectorStart_le store s
  rcases Nat.lt_trichotomy (r / store.slotsPerSector) (s / store.slotsPerSector) with hlt | heq | hlt
  · have := sectors_apart hlt
    omega
  · have hmod : r % store.slotsPerSector ≠ s % store.slotsPerSector := by
      intro hmod
      apply hne
      rw [← Nat.div_add_mod r store.slotsPerSector, ← Nat.div_add_mod s store.slotsPerSector,
        heq, hmod]
    unfold slotStart
    rw [heq]
    rcases Nat.lt_or_gt_of_ne hmod with hlt | hlt
    · have hmul := Nat.mul_le_mul_right store.slotSize (Nat.succ_le_of_lt hlt)
      rw [Nat.succ_mul] at hmul
      omega
    · have hmul := Nat.mul_le_mul_right store.slotSize (Nat.succ_le_of_lt hlt)
      rw [Nat.succ_mul] at hmul
      omega
  · have := sectors_apart hlt
    omega

/-! ## Headers -/

theorem le16_inj {low high low' high' : UInt8} (h : le16 low high = le16 low' high') :
    low = low' ∧ high = high' := by
  have hnat := congrArg UInt16.toNat h
  unfold le16 at hnat
  have hl := low.toNat_lt
  have hh := high.toNat_lt
  have hl' := low'.toNat_lt
  have hh' := high'.toNat_lt
  rw [UInt16.toNat_ofNat_of_lt' (by rw [UInt16.size]; omega),
    UInt16.toNat_ofNat_of_lt' (by rw [UInt16.size]; omega)] at hnat
  exact ⟨UInt8.toNat_inj.mp (by omega), UInt8.toNat_inj.mp (by omega)⟩

/-- The two bytes of a number make it again. -/
theorem le16_bytes (value : UInt16) : le16 (lowByte value) (highByte value) = value := by
  have hlt := value.toNat_lt
  apply UInt16.toNat_inj.mp
  unfold le16 lowByte highByte
  rw [UInt8.toNat_ofNat_of_lt' (by rw [UInt8.size]; omega),
    UInt8.toNat_ofNat_of_lt' (by rw [UInt8.size]; omega),
    UInt16.toNat_ofNat_of_lt' (by rw [UInt16.size]; omega)]
  omega

/-- The header that the bytes at an address make. -/
def headerAt (mem : Buf) (addr : Nat) : UdsParamSlotHeader :=
  decodeHeader (mem.slice addr slotHeaderSize)

theorem headerAt_magic (mem : Buf) (addr : Nat) :
    (headerAt mem addr).magic = le16 (mem addr) (mem (addr + 1)) := rfl

theorem headerAt_seq (mem : Buf) (addr : Nat) :
    (headerAt mem addr).seq = le16 (mem (addr + 2)) (mem (addr + 3)) := rfl

theorem headerAt_dataSize (mem : Buf) (addr : Nat) :
    (headerAt mem addr).dataSize = le16 (mem (addr + 4)) (mem (addr + 5)) := rfl

theorem headerAt_crc (mem : Buf) (addr : Nat) :
    (headerAt mem addr).crc = le16 (mem (addr + 6)) (mem (addr + 7)) := rfl

/-! ## What the scan makes of a slot -/

/-- The data behind the header. -/
def dataAt (store : UdsParamStore ω) (mem : Buf) (addr : Nat) : List UInt8 :=
  mem.slice (addr + store.headerSize) store.dataSize

/-- What makes a slot count: the magic number, the length, and the CRC of the data. -/
structure Accepted (store : UdsParamStore ω) (mem : Buf) (addr : Nat) : Prop where
  magic : (headerAt mem addr).magic = paramMagic
  dataSize : (headerAt mem addr).dataSize.toNat = store.dataSize
  crc : udsCrc16Ccitt (dataAt store mem addr) = (headerAt mem addr).crc

instance (store : UdsParamStore ω) (mem : Buf) (addr : Nat) :
    Decidable (Accepted store mem addr) :=
  decidable_of_iff ((headerAt mem addr).magic = paramMagic ∧
      (headerAt mem addr).dataSize.toNat = store.dataSize ∧
      udsCrc16Ccitt (dataAt store mem addr) = (headerAt mem addr).crc)
    ⟨fun h => ⟨h.1, h.2.1, h.2.2⟩, fun h => ⟨h.magic, h.dataSize, h.crc⟩⟩

/-- The sequence number of a slot that counts. -/
def seqAt (store : UdsParamStore ω) (mem : Buf) (addr : Nat) : Option UInt16 :=
  if Accepted store mem addr then some (headerAt mem addr).seq else none

/-- The sequence number of slot `r`. -/
def slotSeq (store : UdsParamStore ω) (mem : Buf) (r : Nat) : Option UInt16 :=
  seqAt store mem (slotStart store r)

/-- Only an accepted slot has a number. -/
theorem slotSeq_accepted {mem : Buf} {seq : UInt16} (h : slotSeq store mem r = some seq) :
    Accepted store mem (slotStart store r) := by
  unfold slotSeq seqAt at h
  by_contra hnot
  rw [if_neg hnot] at h
  exact absurd h (by simp)

/-- The data of slot `r`. -/
def slotData (store : UdsParamStore ω) (mem : Buf) (r : Nat) : List UInt8 :=
  dataAt store mem (slotStart store r)

/-- Two memories hold the same bytes in the slot. -/
def SameSlot (store : UdsParamStore ω) (mem mem' : Buf) (r : Nat) : Prop :=
  ∀ i < store.slotSize, mem' (slotStart store r + i) = mem (slotStart store r + i)

variable {mem mem' : Buf} {addr : Nat}

/-- The first two bytes of an accepted slot. -/
theorem Accepted.bytes (h : Accepted store mem addr) :
    mem addr = 0xDE ∧ mem (addr + 1) = 0xC0 :=
  le16_inj (h.magic : le16 (mem addr) (mem (addr + 1)) = le16 0xDE 0xC0)

/-- The header is a matter of the slot's bytes. -/
theorem SameSlot.header (hsound : Sound store) (h : SameSlot store mem mem' r) :
    headerAt mem' (slotStart store r) = headerAt mem (slotStart store r) := by
  have hheader : 16 ≤ store.headerSize := hsound.header
  have hslot := hsound.slot
  exact congrArg decodeHeader (Buf.slice_congr fun i (hi : i < 16) => h i (by omega))

/-- So are the data. -/
theorem SameSlot.data (hsound : Sound store) (h : SameSlot store mem mem' r) :
    slotData store mem' r = slotData store mem r := by
  have hslot := hsound.slot
  have hpayload := hsound.payload
  refine Buf.slice_congr fun i hi => ?_
  rw [Nat.add_assoc]
  exact h _ (by omega)

/-- And so is its number. -/
theorem SameSlot.seq (hsound : Sound store) (h : SameSlot store mem mem' r) :
    slotSeq store mem' r = slotSeq store mem r := by
  have hdata : dataAt store mem' _ = dataAt store mem _ := h.data hsound
  have haccepted : Accepted store mem' (slotStart store r) ↔
      Accepted store mem (slotStart store r) := by
    constructor
    · rintro ⟨hmagic, hsize, hcrc⟩
      rw [h.header hsound] at hmagic hsize hcrc
      rw [hdata] at hcrc
      exact ⟨hmagic, hsize, hcrc⟩
    · rintro ⟨hmagic, hsize, hcrc⟩
      rw [← h.header hsound] at hmagic hsize hcrc
      rw [← hdata] at hcrc
      exact ⟨hmagic, hsize, hcrc⟩
  unfold slotSeq seqAt
  rw [h.header hsound]
  exact if_congr haccepted rfl rfl

end UdsIsoTp.Flash
