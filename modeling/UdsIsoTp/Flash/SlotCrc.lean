import UdsIsoTp.Flash.StoreScan

/-!
# The checksum of a slot, piece by piece

`verify_slot_crc` reads the data of a slot in pieces of 32 bytes and counts what is left of them
in 16 bits. `slotCrcTurn` is one turn of its loop on the variables of the source. On any port the
loop returns, with the verdict of `verifySlotCrc` (`slotCrcTurns_eq`); on a flash whose reads
return what is in it, the verdict is whether the checksum that saving and loading take of the
data in one go is the one expected (`chunked_crc_exact`).
-/

namespace UdsIsoTp.Flash

variable {ω : Type}

/-! ## The loop -/

/-- The variables of `verify_slot_crc`. -/
structure SlotCrcLoop (ω : Type) where
  addr : UInt32
  crc : UInt16
  remaining : UInt16
  world : ω

/-- `chunk_len` -/
def chunkLen (remaining : UInt16) : UInt16 := if 32 < remaining then 32 else remaining

/-- One turn of the loop: what the function returns, or the variables for the next turn. -/
def slotCrcTurn (port : UdsFlashPort ω) (expectedCrc : UInt16) (s : SlotCrcLoop ω) :
    (Bool × ω) ⊕ SlotCrcLoop ω :=
  if 0 < s.remaining then
    match port.read s.world s.addr.toNat (chunkLen s.remaining).toNat with
    | (none, w) => .inl (false, w)
    | (some chunk, w) => .inr {
        addr := s.addr + (chunkLen s.remaining).toUInt32
        crc := udsCrc16CcittUpdate s.crc chunk
        remaining := s.remaining - chunkLen s.remaining
        world := w }
  else .inl (s.crc == expectedCrc, s.world)

/-- What the function has returned after so many turns, if it has. -/
def slotCrcTurns (port : UdsFlashPort ω) (expectedCrc : UInt16) :
    Nat → SlotCrcLoop ω → Option (Bool × ω)
  | 0, _ => none
  | turns + 1, s =>
    match slotCrcTurn port expectedCrc s with
    | .inl out => some out
    | .inr s => slotCrcTurns port expectedCrc turns s

/-- The variables before the first turn. -/
def slotCrcStart (store : UdsParamStore ω) (sector slot : Nat) (w : ω) : SlotCrcLoop ω where
  addr := UInt32.ofNat (slotAddr store sector slot + store.headerSize)
  crc := 0xFFFF
  remaining := UInt16.ofNat store.dataSize
  world := w

theorem chunkLen_toNat (remaining : UInt16) :
    (chunkLen remaining).toNat = min remaining.toNat 32 := by
  unfold chunkLen
  split
  next hlong =>
    have hlong : 32 < remaining.toNat := hlong
    exact (Nat.min_eq_right (Nat.le_of_lt hlong)).symm
  next hshort =>
    have hshort : ¬32 < remaining.toNat := hshort
    exact (Nat.min_eq_left (Nat.le_of_not_lt hshort)).symm

/-- The loop returns, and what it returns is the verdict on the checksum of `crcChunks`. -/
theorem slotCrcTurns_crcChunks (store : UdsParamStore ω) (expectedCrc : UInt16) {turns : Nat}
    {s : SlotCrcLoop ω} (hturns : s.remaining.toNat ≤ 32 * turns) :
    slotCrcTurns store.port expectedCrc (turns + 1) s
      = some ((crcChunks store s.remaining.toNat s.addr.toNat s.crc s.world).1 == some expectedCrc,
        (crcChunks store s.remaining.toNat s.addr.toNat s.crc s.world).2) := by
  induction turns generalizing s with
  | zero =>
    have hnone : s.remaining.toNat = 0 := Nat.le_zero.mp hturns
    have hdone : ¬0 < s.remaining := fun h => Nat.lt_irrefl 0 (Nat.lt_of_lt_of_eq h hnone)
    unfold slotCrcTurns slotCrcTurn crcChunks
    rw [if_neg hdone, hnone, dif_neg (Nat.lt_irrefl 0)]
    rfl
  | succ turns ih =>
    unfold slotCrcTurns slotCrcTurn crcChunks
    by_cases hmore : 0 < s.remaining
    · have hmore' : 0 < s.remaining.toNat := hmore
      have hlen := chunkLen_toNat s.remaining
      rw [if_pos hmore, dif_pos hmore', ← hlen]
      generalize store.port.read s.world s.addr.toNat (chunkLen s.remaining).toNat = out
      obtain ⟨_ | chunk, w⟩ := out
      · rfl
      · have hle : chunkLen s.remaining ≤ s.remaining := by
          show (chunkLen s.remaining).toNat ≤ s.remaining.toNat
          omega
        have hleft : (s.remaining - chunkLen s.remaining).toNat
            = s.remaining.toNat - (chunkLen s.remaining).toNat := UInt16.toNat_sub_of_le _ _ hle
        have hnext : (s.addr + (chunkLen s.remaining).toUInt32).toNat
            = (s.addr.toNat + (chunkLen s.remaining).toNat) % 2 ^ 32 := UInt32.toNat_add ..
        dsimp only
        rw [ih (by dsimp only; omega)]
        dsimp only
        rw [hleft, hnext]
    · have hdone : ¬0 < s.remaining.toNat := hmore
      rw [if_neg hmore, dif_neg hdone]
      rfl

/-- On any port, after one turn a piece and one more. -/
theorem slotCrcTurns_eq (store : UdsParamStore ω) (hsize : store.dataSize ≤ 65535)
    (sector slot : Nat) (expectedCrc : UInt16) (w : ω) :
    slotCrcTurns store.port expectedCrc ((store.dataSize + 31) / 32 + 1)
        (slotCrcStart store sector slot w)
      = some (verifySlotCrc store sector slot expectedCrc w) := by
  have hremaining : (slotCrcStart store sector slot w).remaining.toNat = store.dataSize :=
    UInt16.toNat_ofNat_of_lt' (Nat.lt_succ_of_le hsize)
  have haddr : (slotCrcStart store sector slot w).addr.toNat
      = (slotAddr store sector slot + store.headerSize) % 2 ^ 32 := UInt32.toNat_ofNat ..
  rw [slotCrcTurns_crcChunks store expectedCrc (by omega), hremaining, haddr]
  rfl

/-! ## On a flash -/

/-- The bytes from an address on, in an address space of 32 bits. -/
def flashBytes (mem : Buf) (addr length : Nat) : List UInt8 :=
  (List.range length).map fun i => mem ((addr + i) % 2 ^ 32)

/-- Reads change nothing and return what is in the flash. -/
structure Addressed (port : UdsFlashPort ω) (mem : ω → Buf) : Prop where
  reads : ∀ w addr length, port.read w addr length = (some (flashBytes (mem w) addr length), w)

theorem flashBytes_append (mem : Buf) (addr n m : Nat) :
    flashBytes mem addr (n + m)
      = flashBytes mem addr n ++ flashBytes mem ((addr + n) % 2 ^ 32) m := by
  unfold flashBytes
  rw [List.range_add, List.map_append, List.map_map]
  refine congrArg _ (List.map_congr_left fun i _ => congrArg mem ?_)
  show (addr + (n + i)) % 2 ^ 32 = ((addr + n) % 2 ^ 32 + i) % 2 ^ 32
  rw [Nat.mod_add_mod, Nat.add_assoc]

theorem flashBytes_mod (mem : Buf) (addr length : Nat) :
    flashBytes mem (addr % 2 ^ 32) length = flashBytes mem addr length := by
  unfold flashBytes
  refine List.map_congr_left fun i _ => congrArg mem ?_
  exact Nat.mod_add_mod ..

variable {store : UdsParamStore ω} {mem : ω → Buf}

/-- The pieces make up the whole. -/
theorem crcChunks_addressed (hport : Addressed store.port mem) (remaining addr : Nat)
    (crc : UInt16) (w : ω) :
    crcChunks store remaining addr crc w
      = (some (udsCrc16CcittUpdate crc (flashBytes (mem w) addr remaining)), w) := by
  induction remaining using Nat.strong_induction_on generalizing addr crc with
  | _ remaining ih =>
  unfold crcChunks
  split
  next hmore =>
    generalize hlength : min remaining 32 = length
    rw [hport.reads]
    dsimp only
    rw [ih (remaining - length) (by omega), ← crcUpdate_append, ← flashBytes_append,
      Nat.add_sub_cancel' (by omega)]
  next hend =>
    obtain rfl : remaining = 0 := by omega
    rfl

theorem verifySlotCrc_addressed (hport : Addressed store.port mem) (sector slot : Nat)
    (expectedCrc : UInt16) (w : ω) :
    verifySlotCrc store sector slot expectedCrc w
      = (udsCrc16Ccitt (flashBytes (mem w)
          (slotAddr store sector slot + store.headerSize) store.dataSize) == expectedCrc, w) := by
  unfold verifySlotCrc
  rw [crcChunks_addressed hport, flashBytes_mod]
  rfl

/-- The data of a slot. -/
def slotPayload (store : UdsParamStore ω) (mem : Buf) (sector slot : Nat) : List UInt8 :=
  flashBytes mem (slotAddr store sector slot + store.headerSize) store.dataSize

/-- The header of a slot. -/
def slotHeader (store : UdsParamStore ω) (mem : Buf) (sector slot : Nat) : UdsParamSlotHeader :=
  decodeHeader (flashBytes mem (slotAddr store sector slot) slotHeaderSize)

/-- Loading succeeds exactly if the checksum of all the data is that of the header. -/
theorem load_ok_iff (hport : Addressed store.port mem) (hinit : store.initialized = true)
    (hactive : store.hasActiveSlot = true) (data : List UInt8) (w : ω) :
    (udsParamLoad store data w).1 = .ok ↔
      udsCrc16Ccitt (slotPayload store (mem w) store.activeSector store.activeSlot)
        = (slotHeader store (mem w) store.activeSector store.activeSlot).crc := by
  unfold udsParamLoad
  rw [if_neg (not_not.mpr hinit), if_neg (not_not.mpr hactive)]
  dsimp only
  rw [hport.reads]
  dsimp only
  rw [hport.reads, flashBytes_mod]
  show (if (slotHeader store (mem w) store.activeSector store.activeSlot).crc
      ≠ udsCrc16Ccitt (slotPayload store (mem w) store.activeSector store.activeSlot)
      then (UdsParamStatus.err, slotPayload store (mem w) store.activeSector store.activeSlot, w)
      else (.ok, slotPayload store (mem w) store.activeSector store.activeSlot, w)).1 = .ok ↔ _
  split
  next hdiffer => exact ⟨fun h => UdsParamStatus.noConfusion h, fun h => absurd h.symm hdiffer⟩
  next hsame => exact ⟨fun _ => (not_not.mp hsame).symm, fun _ => rfl⟩

/-- **Piece by piece and in one go.** The loop returns, for data of up to 65535 bytes on any port.
On a flash it accepts a slot exactly if the checksum of all the data in it is the one expected.
So it accepts the active slot, under the checksum of its header, exactly if loading does, and
under the checksum that saving writes with some data it accepts a slot with those data. -/
theorem chunked_crc_exact (store : UdsParamStore ω) (hsize : store.dataSize ≤ 65535) :
    (∀ sector slot expectedCrc w, ∃ turns,
      slotCrcTurns store.port expectedCrc turns (slotCrcStart store sector slot w)
        = some (verifySlotCrc store sector slot expectedCrc w)) ∧
      ∀ mem, Addressed store.port mem → ∀ w,
        (∀ sector slot expectedCrc, (verifySlotCrc store sector slot expectedCrc w).2 = w ∧
          ((verifySlotCrc store sector slot expectedCrc w).1 = true ↔
            udsCrc16Ccitt (slotPayload store (mem w) sector slot) = expectedCrc)) ∧
        (store.initialized = true → store.hasActiveSlot = true → ∀ data,
          ((verifySlotCrc store store.activeSector store.activeSlot
              (slotHeader store (mem w) store.activeSector store.activeSlot).crc w).1 = true ↔
            (udsParamLoad store data w).1 = .ok)) ∧
        ∀ sector slot (data : Buf),
          slotPayload store (mem w) sector slot = data.slice 0 store.dataSize →
          (verifySlotCrc store sector slot (saveHeader store data).crc w).1 = true := by
  refine ⟨fun sector slot expectedCrc w =>
    ⟨(store.dataSize + 31) / 32 + 1, slotCrcTurns_eq store hsize ..⟩, ?_⟩
  intro mem hport w
  have haccepts : ∀ sector slot expectedCrc,
      (verifySlotCrc store sector slot expectedCrc w).1 = true ↔
        udsCrc16Ccitt (slotPayload store (mem w) sector slot) = expectedCrc := by
    intro sector slot expectedCrc
    rw [verifySlotCrc_addressed hport]
    exact beq_iff_eq
  refine ⟨fun sector slot expectedCrc => ⟨?_, haccepts ..⟩, fun hinit hactive data => ?_,
    fun sector slot data hdata => ?_⟩
  · rw [verifySlotCrc_addressed hport]
  · rw [haccepts, load_ok_iff hport hinit hactive]
  · rw [haccepts, hdata]
    rfl

/-- A flash that is only read. -/
def readPort : UdsFlashPort Buf where
  erase := fun mem _ => (false, mem)
  read := fun mem addr length => (some (flashBytes mem addr length), mem)
  write := fun mem _ _ => (false, mem)
  sectorSize := fun _ => 2048
  programGranule := 8
  erasedByte := 0xFF

/-- Forty bytes take two pieces. -/
theorem chunked_crc_exact_forty :
    (verifySlotCrc (layOut readPort 0x08000000 2 40) 0 0
      (udsCrc16Ccitt (List.replicate 40 0xA5)) fun _ => 0xA5).1 = true :=
  (((chunked_crc_exact (layOut readPort 0x08000000 2 40) (by decide)).2 id ⟨fun _ _ _ => rfl⟩
    fun _ => 0xA5).1 0 0 _).2.mpr (congrArg udsCrc16Ccitt List.map_const')

end UdsIsoTp.Flash
