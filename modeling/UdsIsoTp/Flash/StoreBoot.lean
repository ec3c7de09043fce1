import UdsIsoTp.Flash.NorFlash
import UdsIsoTp.Flash.StoreLog

/-!
# Booting from a store that cannot be read

At a boot any read may fail, and the bytes may not be those that were saved. What the init and
the load then come up with is `bootRecord`: no slot at all, a slot that cannot be loaded, or
the data of a slot. The slot is the newest of those that the scan accepts (`settled`); a slot
that it cannot read it passes over.

The newest item is what a boot comes up with as long as its slot is accepted and every other
one that is accepted is older (`bootRecord_newest`). A boot that accepts no slot cannot tell
that from a first boot (`bootRecord_absent`).
-/

namespace UdsIsoTp.Flash

variable {ω : Type}

/-! ## What a boot comes up with -/

/-- The flash after the scan. -/
def scanEnd (store : UdsParamStore ω) (w : ω) : ω :=
  scanWorld store w (store.sectorCount * store.slotsPerSector)

/-- The slot that the scan settles on. -/
def settled (store : UdsParamStore ω) (w : ω) : Option Nat :=
  (latest Newer (seenAt store w) (store.sectorCount * store.slotsPerSector)).map Prod.snd

/-- Both reads of a load come back. -/
def LoadReads (store : UdsParamStore ω) (r : Nat) (w : ω) : Prop :=
  let (data, w) := store.port.read w (slotStart store r + store.headerSize) store.dataSize
  data ≠ none ∧ (store.port.read w (slotStart store r) slotHeaderSize).1 ≠ none

instance (store : UdsParamStore ω) (r : Nat) (w : ω) : Decidable (LoadReads store r w) :=
  inferInstanceAs (Decidable (_ ∧ _))

/-- What an init has found of the record. -/
inductive BootRecord where
  | absent
  | unreadable
  | loaded (data : List UInt8)
  deriving DecidableEq

/-- The record that a boot comes up with, from memory `mem`. -/
def bootRecord (store : UdsParamStore ω) (mem : Buf) (w : ω) : BootRecord :=
  match settled store w with
  | none => .absent
  | some r =>
    if LoadReads store r (scanEnd store w) then .loaded (slotData store mem r) else .unreadable

section Boot

variable {L : UdsParamStore ω} {mem : ω → Buf}

/-- The store once its scan has settled on slot `r`. -/
def settledStore (L : UdsParamStore ω) (seq : UInt16) (r : Nat) : UdsParamStore ω :=
  { activate L (some (foundAt L (seq, r))) with initialized := true }

/-- A load of a slot that is accepted gives its data, if its reads come back. -/
theorem load_settled (hsound : Sound L) (hport : Truthful L.port mem) {r : Nat}
    (hr : r < hsound.ring.size) (seq : UInt16) {w : ω}
    (haccepted : Accepted L (mem w) (slotStart L r)) (data : List UInt8) :
    (LoadReads L r w → (udsParamLoad (settledStore L seq r) data w).1 = .ok ∧
        (udsParamLoad (settledStore L seq r) data w).2.1 = slotData L (mem w) r) ∧
      (¬LoadReads L r w → (udsParamLoad (settledStore L seq r) data w).1 = .err) := by
  have hwithin := hsound.payload_within hr
  have hpos := hsound.data_pos
  have haddr : slotAddr (settledStore L seq r) (settledStore L seq r).activeSector
      (settledStore L seq r).activeSlot = slotStart L r := hsound.slotAddr_eq hr
  have hinitialized : ¬¬(settledStore L seq r).initialized = true := fun h => h rfl
  have hactive : ¬¬(settledStore L seq r).hasActiveSlot = true := fun h => h rfl
  unfold udsParamLoad
  rw [if_neg hinitialized, if_neg hactive]
  dsimp only
  rw [haddr, show (settledStore L seq r).port = L.port from rfl,
    show (settledStore L seq r).headerSize = L.headerSize from rfl,
    show (settledStore L seq r).dataSize = L.dataSize from rfl,
    Nat.mod_eq_of_lt (by omega)]
  unfold LoadReads
  have hkept := hport.kept w (slotStart L r + L.headerSize) L.dataSize
  have htold := hport.told w (slotStart L r + L.headerSize) L.dataSize
  generalize L.port.read w (slotStart L r + L.headerSize) L.dataSize = answer at hkept htold ⊢
  obtain ⟨payload | payload, w'⟩ := answer
  · exact ⟨fun h => absurd rfl h.1, fun _ => rfl⟩
  obtain rfl := htold payload rfl
  have htold := hport.told w' (slotStart L r) slotHeaderSize
  dsimp only
  generalize L.port.read w' (slotStart L r) slotHeaderSize = answer at htold ⊢
  obtain ⟨header | header, w''⟩ := answer
  · exact ⟨fun h => absurd rfl h.2, fun _ => rfl⟩
  obtain rfl := htold header rfl
  -- the first read has left the memory alone, so the header is still the accepted one
  have hcrc : (headerAt (mem w') (slotStart L r)).crc = udsCrc16Ccitt (slotData L (mem w) r) := by
    rw [show mem w' = mem w from hkept]
    exact haccepted.crc.symm
  have hok : (if (decodeHeader ((mem w').slice (slotStart L r) slotHeaderSize)).crc
      ≠ udsCrc16Ccitt (slotData L (mem w) r) then (UdsParamStatus.err, slotData L (mem w) r, w'')
      else (.ok, slotData L (mem w) r, w'')) = (.ok, slotData L (mem w) r, w'') :=
    if_neg (not_not.mpr hcrc)
  refine ⟨fun _ => ?_, fun h => absurd ⟨Option.some_ne_none _, Option.some_ne_none _⟩ h⟩
  exact ⟨congrArg Prod.fst hok, congrArg (·.2.1) hok⟩

/-- A store that has come up with this record. -/
def CameUp (store : UdsParamStore ω) (w : ω) : BootRecord → Prop
  | .absent => store.hasActiveSlot = false
  | .unreadable => store.hasActiveSlot = true ∧ (udsParamLoad store [] w).1 = .err
  | .loaded data => store.hasActiveSlot = true ∧ (udsParamLoad store [] w).1 = .ok ∧
      (udsParamLoad store [] w).2.1 = data

theorem CameUp.unreadable {store : UdsParamStore ω} {w : ω} (h : CameUp store w .unreadable) :
    store.hasActiveSlot = true ∧ ∃ data w', udsParamLoad store [] w = (.err, data, w') :=
  ⟨h.1, _, _, Prod.ext h.2 rfl⟩

theorem CameUp.loaded {store : UdsParamStore ω} {w : ω} {data : List UInt8}
    (h : CameUp store w (.loaded data)) :
    store.hasActiveSlot = true ∧ ∃ w', udsParamLoad store [] w = (.ok, data, w') :=
  ⟨h.1, _, Prod.ext h.2.1 (Prod.ext h.2.2 rfl)⟩

theorem scanEnd_mem (hsound : Sound L) (hport : Truthful L.port mem) (w : ω) :
    mem (scanEnd L w) = mem w := scanWorld_truthful hsound hport w (Nat.le_refl hsound.ring.size)

/-- An init comes up with the boot's record. -/
theorem init_cameUp {port : UdsFlashPort ω} {flashBase : UInt32} {sectorCount : UInt8}
    {dataSize : UInt16} (hsound : Sound (layOut port flashBase sectorCount dataSize))
    (hport : Truthful port mem) {w₀ : ω}
    (haccepted : (udsParamInit port flashBase sectorCount dataSize w₀).1 ≠ none) (w : ω) :
    ∃ store, udsParamInit port flashBase sectorCount dataSize w
        = (some store, scanEnd (layOut port flashBase sectorCount dataSize) w) ∧
      CameUp store (scanEnd (layOut port flashBase sectorCount dataSize) w)
        (bootRecord (layOut port flashBase sectorCount dataSize) (mem w) w) := by
  generalize hL : layOut port flashBase sectorCount dataSize = L at hsound
  have hinit := (udsParamInit_accepted haccepted w).2
  rw [hL, scanSlots_eq] at hinit
  have hport : Truthful L.port mem := hL ▸ hport
  refine ⟨_, hinit, ?_⟩
  unfold bootRecord
  cases hsettled : settled L w with
  | none =>
    have hlatest := Option.map_eq_none_iff.mp hsettled
    unfold scanned
    rw [hlatest]
    rw [← hL]
    rfl
  | some r =>
    obtain ⟨⟨seq, r⟩, hlatest, rfl⟩ := Option.map_eq_some_iff.mp hsettled
    obtain ⟨hr, hseen⟩ := latest_mem hlatest
    have hslot := seenAt_truthful hsound hport w hr hseen
    have haccepted : Accepted L (mem (scanEnd L w)) (slotStart L r) := by
      rw [scanEnd_mem hsound hport]
      exact slotSeq_accepted hslot
    obtain ⟨hok, herr⟩ := load_settled hsound hport hr seq haccepted []
    unfold scanned
    rw [hlatest]
    dsimp only
    split
    next hreads =>
      obtain ⟨hstatus, hdata⟩ := hok hreads
      rw [scanEnd_mem hsound hport] at hdata
      exact ⟨rfl, hstatus, hdata⟩
    next hreads => exact ⟨rfl, herr hreads⟩

/-! ## The newest item -/

/-- The scan accepts no slot. -/
def NothingSeen (store : UdsParamStore ω) (w : ω) : Prop :=
  ∀ r < store.sectorCount * store.slotsPerSector, seenAt store w r = none

instance (store : UdsParamStore ω) (w : ω) : Decidable (NothingSeen store w) :=
  inferInstanceAs (Decidable (∀ r < _, _))

/-- A boot that sees no slot comes up with none. -/
theorem bootRecord_absent {w : ω} (hnothing : NothingSeen L w) (memory : Buf) :
    bootRecord L memory w = .absent := by
  unfold bootRecord settled
  rw [latest_none hnothing]
  rfl

/-- The slot is accepted, and every other slot that is has an older number. -/
def NewestSeen (store : UdsParamStore ω) (w : ω) (r : Nat) : Prop :=
  ∃ seq ∈ seenAt store w r, ∀ r' < store.sectorCount * store.slotsPerSector, r' ≠ r →
    ∀ seq' ∈ seenAt store w r', Newer seq seq'

instance (store : UdsParamStore ω) (w : ω) (r : Nat) : Decidable (NewestSeen store w r) :=
  -- a slot has one number at most, so not all of them need be compared
  haveI (seq : UInt16) (r' : Nat) : Decidable (∀ seq' ∈ seenAt store w r', Newer seq seq') :=
    Option.decidableForallMem _
  inferInstanceAs (Decidable (∃ seq ∈ seenAt store w r,
    ∀ r' < _, r' ≠ r → ∀ seq' ∈ seenAt store w r', Newer seq seq'))

/-- A boot settles on a slot that it sees for the newest. -/
theorem bootRecord_newest {w : ω} {r : Nat} (hr : r < L.sectorCount * L.slotsPerSector)
    (hnewest : NewestSeen L w r) (memory : Buf) :
    bootRecord L memory w =
      if LoadReads L r (scanEnd L w) then .loaded (slotData L memory r) else .unreadable := by
  obtain ⟨seq, hseen, holder⟩ := hnewest
  have hsettled : settled L w = some r := by
    unfold settled
    rw [latest_newest hr hseen fun r' hr' hne seq' hseen' =>
      ⟨holder r' hr' hne seq' hseen', (holder r' hr' hne seq' hseen').asymm⟩]
    rfl
  unfold bootRecord
  rw [hsettled]

end Boot

/-! ## One geometry behind two ports -/

section Same

variable {ω' : Type}

/-- The stores have their slots in the same places. -/
structure SameSlots (store : UdsParamStore ω) (store' : UdsParamStore ω') : Prop where
  flashBase : store'.flashBase = store.flashBase
  sectorSize : store'.sectorSize = store.sectorSize
  sectorCount : store'.sectorCount = store.sectorCount
  dataSize : store'.dataSize = store.dataSize
  slotSize : store'.slotSize = store.slotSize
  slotsPerSector : store'.slotsPerSector = store.slotsPerSector
  headerSize : store'.headerSize = store.headerSize
  payloadSizeAligned : store'.payloadSizeAligned = store.payloadSizeAligned

variable {store : UdsParamStore ω} {store' : UdsParamStore ω'}

theorem SameSlots.sound (h : SameSlots store store') (hsound : Sound store) : Sound store' := by
  constructor
  · exact h.dataSize ▸ hsound.data_pos
  · exact h.dataSize ▸ hsound.data_lt
  · exact h.headerSize ▸ hsound.header
  · rw [h.dataSize, h.payloadSizeAligned]
    exact hsound.payload
  · rw [h.headerSize, h.payloadSizeAligned, h.slotSize]
    exact hsound.slot
  · rw [h.slotsPerSector, h.slotSize, h.sectorSize]
    exact hsound.slots
  · rw [h.flashBase, h.sectorCount, h.sectorSize]
    exact hsound.region
  · exact h.sectorCount ▸ hsound.sectors_pos
  · exact h.slotsPerSector ▸ hsound.pos
  · rw [h.sectorCount, h.slotsPerSector]
    exact hsound.near
  · exact h.slotsPerSector ▸ hsound.near_sector

theorem SameSlots.slotStart (h : SameSlots store store') (r : Nat) :
    Flash.slotStart store' r = Flash.slotStart store r := by
  unfold Flash.slotStart
  rw [h.flashBase, h.slotsPerSector, h.sectorSize, h.slotSize]

theorem SameSlots.slotData (h : SameSlots store store') (mem : Buf) (r : Nat) :
    Flash.slotData store' mem r = Flash.slotData store mem r := by
  unfold Flash.slotData dataAt
  rw [h.slotStart, h.headerSize, h.dataSize]

theorem SameSlots.slotSeq (h : SameSlots store store') (mem : Buf) (r : Nat) :
    Flash.slotSeq store' mem r = Flash.slotSeq store mem r := by
  have haccepted : Accepted store' mem (Flash.slotStart store r) ↔
      Accepted store mem (Flash.slotStart store r) := by
    have hdata := h.slotData mem r
    unfold Flash.slotData at hdata
    rw [h.slotStart] at hdata
    constructor
    · rintro ⟨hmagic, hsize, hcrc⟩
      exact ⟨hmagic, hsize.trans h.dataSize, hdata ▸ hcrc⟩
    · rintro ⟨hmagic, hsize, hcrc⟩
      exact ⟨hmagic, hsize.trans h.dataSize.symm, hdata.symm ▸ hcrc⟩
  unfold Flash.slotSeq seqAt
  rw [h.slotStart]
  exact if_congr haccepted rfl rfl

/-- A store behind its items has its slots where it had them before. -/
theorem resumedAt_sameSlots (hsound : Sound store) (n : Nat) :
    SameSlots store (resumedAt store hsound n) := by
  cases n <;> exact ⟨rfl, rfl, rfl, rfl, rfl, rfl, rfl, rfl⟩

/-- The port has the sectors and the granule of the other. -/
structure SameSectors (port : UdsFlashPort ω) (port' : UdsFlashPort ω') (flashBase : UInt32) :
    Prop where
  sectorSize : port'.sectorSize flashBase = port.sectorSize flashBase
  granule : port'.programGranule = port.programGranule

variable {port : UdsFlashPort ω} {port' : UdsFlashPort ω'} {flashBase : UInt32}

theorem SameSectors.portGranule (h : SameSectors port port' flashBase) :
    Flash.portGranule port' = Flash.portGranule port := by
  unfold Flash.portGranule
  rw [h.granule]

theorem SameSectors.layOut (h : SameSectors port port' flashBase) (sectorCount : UInt8)
    (dataSize : UInt16) : SameSlots (Flash.layOut port flashBase sectorCount dataSize)
      (Flash.layOut port' flashBase sectorCount dataSize) := by
  unfold Flash.layOut
  rw [h.portGranule, h.sectorSize]
  constructor <;> rfl

theorem SameSectors.usable (h : SameSectors port port' flashBase) {sectorCount : UInt8}
    {dataSize : UInt16} (husable : Usable port' flashBase sectorCount dataSize) :
    Usable port flashBase sectorCount dataSize := by
  obtain ⟨hargs, hsector, hgranule, hroom⟩ := husable
  rw [h.portGranule] at hgranule hroom
  rw [h.sectorSize] at hsector hroom
  exact ⟨hargs, hsector, hgranule, hroom⟩

end Same

/-! ## The newest item stands -/

section Stands

/-- The slot that a store has for the newest. -/
def newestSlot (store : UdsParamStore ω) : Nat :=
  store.activeSector * store.slotsPerSector + store.activeSlot

theorem newestSlot_resumedAt {saved : UdsParamStore ω} (hsound : Sound saved) (m : Nat) :
    newestSlot (resumedAt saved hsound (m + 1)) = hsound.ring.home m :=
  Nat.div_add_mod' ..

/-- The boot sees the slot that the store has for the newest for the newest, and its data are as
they were, or are refused, or cannot be read when they are loaded; if the store has none, the
boot sees none. -/
def NewestStands (refused : List UInt8 → Prop) (saved : Option (UdsParamStore NorFlash))
    (flash : Buf) (store : UdsParamStore ω) (mem : Buf) (w : ω) : Prop :=
  match saved with
  | none => NothingSeen store w
  | some saved =>
    if saved.hasActiveSlot then
      NewestSeen store w (newestSlot saved) ∧
        (slotData saved mem (newestSlot saved) = slotData saved flash (newestSlot saved) ∨
          refused (slotData saved mem (newestSlot saved)) ∨
          ¬LoadReads store (newestSlot saved) (scanEnd store w))
    else NothingSeen store w

instance (refused : List UInt8 → Prop) [DecidablePred refused]
    (saved : Option (UdsParamStore NorFlash)) (flash : Buf) (store : UdsParamStore ω) (mem : Buf)
    (w : ω) : Decidable (NewestStands refused saved flash store mem w) :=
  match saved with
  | none => inferInstanceAs (Decidable (NothingSeen _ _))
  | some saved => inferInstanceAs (Decidable (if saved.hasActiveSlot then
      NewestSeen store w (newestSlot saved) ∧ (_ = _ ∨ refused _ ∨ ¬LoadReads _ _ _)
    else NothingSeen _ _))

/-- What a boot comes up with while the newest of `n` items stands. -/
def ComesUpWith (refused : List UInt8 → Prop) (data : Nat → List UInt8) (record : BootRecord) :
    Nat → Prop
  | 0 => record = .absent
  | m + 1 => record = .unreadable ∨ ∃ loaded, record = .loaded loaded ∧
      (loaded = data m ∨ refused loaded)

theorem bootRecord_stands {refused : List UInt8 → Prop} {saved : UdsParamStore NorFlash}
    {L : UdsParamStore ω} {flash mem : Buf} (hsound : Sound saved) (hsame : SameSlots saved L)
    {n : Nat} {w : ω}
    (hstands : NewestStands refused (some (resumedAt saved hsound n)) flash L mem w) :
    ComesUpWith refused (fun m => slotData saved flash (hsound.ring.home m))
      (bootRecord L mem w) n := by
  cases n with
  | zero => exact bootRecord_absent hstands mem
  | succ m =>
    obtain ⟨hseen, hdata⟩ := hstands
    rw [newestSlot_resumedAt] at hseen hdata
    have hr : hsound.ring.home m < L.sectorCount * L.slotsPerSector := by
      rw [hsame.sectorCount, hsame.slotsPerSector]
      exact hsound.ring.home_lt m
    have hrecord := bootRecord_newest hr hseen mem
    rw [hsame.slotData] at hrecord
    by_cases hreads : LoadReads L (hsound.ring.home m) (scanEnd L w)
    · rw [if_pos hreads] at hrecord
      refine .inr ⟨_, hrecord, ?_⟩
      obtain hkept | hrefused | hunread := hdata
      · exact .inl hkept
      · exact .inr hrefused
      · exact absurd hreads hunread
    · rw [if_neg hreads] at hrecord
      exact .inl hrecord

end Stands

/-- A port that cannot read what begins at address 0. -/
def blindPort (port : UdsFlashPort ω) : UdsFlashPort ω :=
  { port with read := fun w addr length => if addr = 0 then (none, w) else port.read w addr length }

theorem blindPort_truthful {port : UdsFlashPort ω} {mem : ω → Buf} (hport : Healthy port mem) :
    Truthful (blindPort port) mem := by
  constructor
  · intro w addr length
    show mem (if addr = 0 then (none, w) else port.read w addr length).2 = mem w
    rw [hport.reads]
    split <;> rfl
  · intro w addr length bytes h
    change (if addr = 0 then (none, w) else port.read w addr length).1 = some bytes at h
    rw [hport.reads] at h
    split at h
    next => exact absurd h (by simp)
    next => exact (Option.some.inj h).symm

end UdsIsoTp.Flash
