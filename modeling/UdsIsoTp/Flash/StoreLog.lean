import UdsIsoTp.Flash.StoreScan

/-!
# The store as a log

A store with `n` items behind it is `resumedAt` that item: the active slot is that of the
newest item, and the next sequence number its successor's. An init on a healthy port reaches
that state from what the slots hold (`init_resumedAt`), a load gives the newest item, and a
save takes the slot of item `n`, erasing its sector first when it is the first there
(`prepareNextSlot_resumedAt`).
-/

namespace UdsIsoTp.Flash

variable {ω : Type}

/-! ## Geometry -/

/-- The bytes of a slot, before they are cut to 16 bits. -/
def slotBytes (granule dataSize : Nat) : Nat :=
  let bytes := headerSizeFor granule + alignUp dataSize granule
  if bytes % 16 ≠ 0 ∧ granule < 16 then (bytes + 15) / 16 * 16 else bytes

theorem le_alignUp {n granule : Nat} (h : 0 < granule) : n ≤ alignUp n granule := by
  unfold alignUp
  have hmod := Nat.div_add_mod (n + granule - 1) granule
  have hlt := Nat.mod_lt (n + granule - 1) h
  rw [Nat.mul_comm] at hmod
  omega

theorem alignUp_le (n granule : Nat) : alignUp n granule ≤ n + granule - 1 :=
  Nat.div_mul_le_self ..

theorem portGranule_pos (port : UdsFlashPort ω) : 0 < (portGranule port).toNat := by
  unfold portGranule
  split
  next => decide
  next h => exact Nat.pos_of_ne_zero fun hzero => h (UInt8.toNat_inj.mp hzero)

theorem headerSizeFor_eq (granule : UInt8) :
    headerSizeFor granule.toNat =
      alignUp (if granule.toNat < slotHeaderSize then slotHeaderSize else granule.toNat)
        granule.toNat := by
  have hlt := granule.toNat_lt
  have hle := alignUp_le (if granule.toNat < slotHeaderSize then slotHeaderSize else granule.toNat)
    granule.toNat
  refine Nat.mod_eq_of_lt ?_
  split at hle
  next h =>
    rw [if_pos h]
    unfold slotHeaderSize at hle ⊢
    omega
  next h =>
    rw [if_neg h]
    omega

/-- The slot of some kilobytes of data is far below 16 bits. -/
theorem slotBytes_lt (port : UdsFlashPort ω) {dataSize : Nat} (h : dataSize ≤ 60000) :
    slotBytes (portGranule port).toNat dataSize < 65536 := by
  have hlt := (portGranule port).toNat_lt
  have hheader := alignUp_le
    (if (portGranule port).toNat < slotHeaderSize then slotHeaderSize else (portGranule port).toNat)
    (portGranule port).toNat
  have hpayload := alignUp_le dataSize (portGranule port).toNat
  rw [← headerSizeFor_eq] at hheader
  have hsize : (if (portGranule port).toNat < slotHeaderSize then slotHeaderSize
      else (portGranule port).toNat) ≤ 256 := by
    unfold slotHeaderSize
    split <;> omega
  unfold slotBytes
  dsimp only
  split <;> omega

/-- A slot that fits in 16 bits has the size that was meant. -/
theorem slotSizeFor_eq {granule dataSize : Nat} (h : slotBytes granule dataSize < 65536) :
    slotSizeFor granule dataSize = slotBytes granule dataSize ∧
      payloadSizeFor granule dataSize = alignUp dataSize granule ∧
      headerSizeFor granule + alignUp dataSize granule ≤ slotBytes granule dataSize := by
  have hle : headerSizeFor granule + alignUp dataSize granule ≤ slotBytes granule dataSize := by
    unfold slotBytes
    dsimp only
    split <;> omega
  have hpayload : payloadSizeFor granule dataSize = alignUp dataSize granule :=
    Nat.mod_eq_of_lt (by omega)
  refine ⟨?_, hpayload, hle⟩
  unfold slotSizeFor
  rw [hpayload, Nat.mod_eq_of_lt (by omega)]
  unfold slotBytes at h ⊢
  dsimp only at h ⊢
  split
  next hround =>
    rw [if_pos hround] at h
    exact Nat.mod_eq_of_lt h
  next => rfl

/-- What a geometry needs beyond what init checks: slots of 16 bits, sectors in the address
space, and no more slots than sequence numbers can tell apart. -/
structure Fits (port : UdsFlashPort ω) (flashBase : UInt32) (sectorCount : UInt8)
    (dataSize : UInt16) : Prop where
  slot : slotBytes (portGranule port).toNat dataSize.toNat < 65536
  region : flashBase.toNat + sectorCount.toNat * (port.sectorSize flashBase).toNat ≤ 2 ^ 32
  two_le : 2 ≤ sectorCount.toNat

/-- The slots of a sector are counted in 16 bits, and those of the store compared in 16. -/
structure Countable (port : UdsFlashPort ω) (flashBase : UInt32) (sectorCount : UInt8)
    (dataSize : UInt16) : Prop where
  pos : 0 < (layOut port flashBase sectorCount dataSize).slotsPerSector
  near : sectorCount.toNat * (layOut port flashBase sectorCount dataSize).slotsPerSector ≤ 32768

section Init

variable {port : UdsFlashPort ω} {flashBase : UInt32} {sectorCount : UInt8} {dataSize : UInt16}

theorem layOut_sound_of (hbytes : slotBytes (portGranule port).toNat dataSize.toNat < 65536)
    (hregion : flashBase.toNat + sectorCount.toNat * (port.sectorSize flashBase).toNat ≤ 2 ^ 32)
    (hsectors : 0 < sectorCount.toNat)
    (hcountable : Countable port flashBase sectorCount dataSize)
    (hsector : (layOut port flashBase sectorCount dataSize).slotsPerSector < 32767)
    (hdata : dataSize ≠ 0) :
    Sound (layOut port flashBase sectorCount dataSize) := by
  obtain ⟨hslot, hpayload, hparts⟩ := slotSizeFor_eq hbytes
  have hgranule := portGranule_pos port
  refine ⟨?_, dataSize.toNat_lt, ?_, ?_, ?_, ?_, hregion, hsectors, hcountable.pos,
    hcountable.near, hsector⟩
  · exact Nat.pos_of_ne_zero fun hzero => hdata (UInt16.toNat_inj.mp hzero)
  · show slotHeaderSize ≤ headerSizeFor (portGranule port).toNat
    rw [headerSizeFor_eq]
    refine Nat.le_trans ?_ (le_alignUp hgranule)
    split <;> omega
  · show dataSize.toNat ≤ payloadSizeFor (portGranule port).toNat dataSize.toNat
    rw [hpayload]
    exact le_alignUp hgranule
  · show headerSizeFor (portGranule port).toNat
        + payloadSizeFor (portGranule port).toNat dataSize.toNat
      ≤ slotSizeFor (portGranule port).toNat dataSize.toNat
    rw [hpayload, hslot]
    exact hparts
  · exact Nat.le_trans (Nat.mul_le_mul_right _ (Nat.mod_le ..)) (Nat.div_mul_le_self ..)

theorem layOut_sound (hfits : Fits port flashBase sectorCount dataSize)
    (hcountable : Countable port flashBase sectorCount dataSize) (hdata : dataSize ≠ 0) :
    Sound (layOut port flashBase sectorCount dataSize) := by
  have htwo := hfits.two_le
  have hnear := hcountable.near
  have hmul := Nat.mul_le_mul_right (layOut port flashBase sectorCount dataSize).slotsPerSector htwo
  exact layOut_sound_of hfits.slot hfits.region (by omega) hcountable (by omega) hdata

/-- What init asks of a geometry. -/
structure Usable (port : UdsFlashPort ω) (flashBase : UInt32) (sectorCount : UInt8)
    (dataSize : UInt16) : Prop where
  args : ¬(sectorCount = 0 ∨ dataSize = 0)
  sector : port.sectorSize flashBase ≠ 0
  granule : portGranule port &&& (portGranule port - 1) = 0
  room : slotSizeFor (portGranule port).toNat dataSize.toNat ≤ (port.sectorSize flashBase).toNat

/-- A geometry that init accepts, on the two sectors that every user of a store asks for. -/
structure Opens (port : UdsFlashPort ω) (flashBase : UInt32) (sectorCount : UInt8)
    (dataSize : UInt16) : Prop where
  two_le : 2 ≤ sectorCount
  usable : Usable port flashBase sectorCount dataSize

theorem udsParamInit_usable {w : ω} :
    (udsParamInit port flashBase sectorCount dataSize w).1 ≠ none ↔
      Usable port flashBase sectorCount dataSize := by
  unfold udsParamInit
  split
  next hargs => exact ⟨fun h => absurd rfl h, fun h => absurd hargs h.args⟩
  next hargs =>
    split
    next hsector => exact ⟨fun h => absurd rfl h, fun h => absurd hsector h.sector⟩
    next hsector =>
      split
      next hgranule => exact ⟨fun h => absurd rfl h, fun h => absurd h.granule hgranule⟩
      next hgranule =>
        split
        next hroom => exact ⟨fun h => absurd rfl h, fun h => absurd h.room (Nat.not_le.mpr hroom)⟩
        next hroom =>
          exact ⟨fun _ => ⟨hargs, hsector, not_not.mp hgranule, Nat.not_lt.mp hroom⟩,
            fun _ => by simp⟩

/-- A geometry that init accepts is laid out and scanned. -/
theorem udsParamInit_accepted {w : ω}
    (h : (udsParamInit port flashBase sectorCount dataSize w).1 ≠ none) (w' : ω) :
    dataSize ≠ 0 ∧ udsParamInit port flashBase sectorCount dataSize w' =
      (some { activate (layOut port flashBase sectorCount dataSize)
          (scanSlots (layOut port flashBase sectorCount dataSize) w').1 with initialized := true },
        (scanSlots (layOut port flashBase sectorCount dataSize) w').2) := by
  have husable := udsParamInit_usable.mp h
  refine ⟨fun hzero => husable.args (.inr hzero), ?_⟩
  unfold udsParamInit
  rw [if_neg husable.args, if_neg husable.sector, if_neg (not_not.mpr husable.granule),
    if_neg (Nat.not_lt.mpr husable.room)]
  rfl

/-- One that it does not accept is not looked at. -/
theorem udsParamInit_rejected {w : ω}
    (h : (udsParamInit port flashBase sectorCount dataSize w).1 = none) (w' : ω) :
    udsParamInit port flashBase sectorCount dataSize w' = (none, w') := by
  unfold udsParamInit at h ⊢
  split at h
  next hargs => rw [if_pos hargs]
  next hargs =>
    rw [if_neg hargs]
    split at h
    next hsector => rw [if_pos hsector]
    next hsector =>
      rw [if_neg hsector]
      split at h
      next hgranule => rw [if_pos hgranule]
      next hgranule =>
        rw [if_neg hgranule]
        split at h
        next hroom => rw [if_pos hroom]
        next => exact absurd h (by simp)

theorem udsParamInit_closed (hopens : ¬Opens port flashBase sectorCount dataSize)
    (hsectors : ¬sectorCount < 2) (w : ω) :
    udsParamInit port flashBase sectorCount dataSize w = (none, w) := by
  refine udsParamInit_rejected (w := w) ?_ w
  by_contra haccepted
  exact hopens ⟨UInt8.not_lt.mp hsectors, udsParamInit_usable.mp haccepted⟩

end Init

/-! ## A store behind its items -/

section Resumed

variable {L : UdsParamStore ω}

/-- The store of this layout once it has `n` items behind it. -/
def resumedAt (L : UdsParamStore ω) (hsound : Sound L) : Nat → UdsParamStore ω
  | 0 => { L with
    activeSector := 0
    activeSlot := 0
    nextSeq := 1
    hasActiveSlot := false
    initialized := true }
  | m + 1 => { L with
    activeSector := hsound.ring.home m / L.slotsPerSector
    activeSlot := hsound.ring.home m % L.slotsPerSector
    nextSeq := serial (m + 1)
    hasActiveSlot := true
    initialized := true }

@[simp] theorem resumedAt_port (hsound : Sound L) (n : Nat) :
    (resumedAt L hsound n).port = L.port := by cases n <;> rfl

theorem resumedAt_headerSize (hsound : Sound L) (n : Nat) :
    (resumedAt L hsound n).headerSize = L.headerSize := by cases n <;> rfl

theorem resumedAt_dataSize (hsound : Sound L) (n : Nat) :
    (resumedAt L hsound n).dataSize = L.dataSize := by cases n <;> rfl

theorem resumedAt_payloadSizeAligned (hsound : Sound L) (n : Nat) :
    (resumedAt L hsound n).payloadSizeAligned = L.payloadSizeAligned := by cases n <;> rfl

@[simp] theorem resumedAt_initialized (hsound : Sound L) (n : Nat) :
    (resumedAt L hsound n).initialized = true := by cases n <;> rfl

theorem resumedAt_nextSeq (hsound : Sound L) (n : Nat) :
    (resumedAt L hsound n).nextSeq = serial n := by cases n <;> rfl

/-- The slot of the newest of `n` items. -/
def newest (L : UdsParamStore ω) (hsound : Sound L) : Nat → Option FoundSlot
  | 0 => none
  | m + 1 => some (foundAt L (serial m, hsound.ring.home m))

/-- On a healthy port the scan finds the newest item. -/
theorem scanSlots_logged (hsound : Sound L) {mem : ω → Buf} (hport : Healthy L.port mem) {n : Nat}
    {w : ω} (hlogged : hsound.ring.Logged serial (slotSeq L (mem w)) n) :
    scanSlots L w = (newest L hsound n, w) := by
  have hseen : latest Newer (seenAt L w) hsound.ring.size
      = latest Newer (slotSeq L (mem w)) hsound.ring.size :=
    latest_congr fun r hr => seenAt_healthy hsound hport w hr
  rw [scanSlots_eq]
  refine Prod.ext ?_ (scanWorld_healthy hsound hport w (Nat.le_refl _))
  show (latest Newer (seenAt L w) hsound.ring.size).map (foundAt L) = newest L hsound n
  rw [hseen]
  cases n with
  | zero =>
    rw [latest_none hlogged]
    rfl
  | succ m =>
    have hnear : hsound.ring.size ≤ 32768 := hsound.near
    have hsector : hsound.ring.perSector < 32767 := hsound.near_sector
    rw [SectorRing.latest_logged hlogged (fun k d hpos hle => newer_serial hpos (by omega))
      (fun k d hpos hlt => not_newer_serial hpos (by omega))]
    rfl

/-- An init takes up the log where it ends. -/
theorem init_resumedAt {port : UdsFlashPort ω} {flashBase : UInt32} {sectorCount : UInt8}
    {dataSize : UInt16} (hsound : Sound (layOut port flashBase sectorCount dataSize))
    {mem : ω → Buf} (hport : Healthy port mem) {w₀ : ω}
    (haccepted : (udsParamInit port flashBase sectorCount dataSize w₀).1 ≠ none) {n : Nat} {w : ω}
    (hlogged : hsound.ring.Logged serial
      (slotSeq (layOut port flashBase sectorCount dataSize) (mem w)) n) :
    udsParamInit port flashBase sectorCount dataSize w
      = (some (resumedAt (layOut port flashBase sectorCount dataSize) hsound n), w) := by
  rw [(udsParamInit_accepted haccepted w).2, scanSlots_logged hsound hport hlogged]
  cases n with
  | zero => rfl
  | succ m =>
    have hnext : seqAfter (serial m) = serial (m + 1) := (serial_succ m).symm
    dsimp only [newest, activate, foundAt, resumedAt]
    rw [hnext]

/-- A load gives the newest item. -/
theorem load_resumedAt (hsound : Sound L) {mem : ω → Buf} (hport : Healthy L.port mem) {m : Nat}
    {w : ω} (hlogged : hsound.ring.Logged serial (slotSeq L (mem w)) (m + 1))
    (data : List UInt8) :
    udsParamLoad (resumedAt L hsound (m + 1)) data w
      = (.ok, slotData L (mem w) (hsound.ring.home m), w) := by
  have hr := hsound.ring.home_lt m
  have hwithin := hsound.payload_within hr
  have hdata := hsound.data_pos
  have haccepted : Accepted L (mem w) (slotStart L (hsound.ring.home m)) :=
    slotSeq_accepted hlogged.1
  have haddr : slotAddr (resumedAt L hsound (m + 1)) (hsound.ring.home m / L.slotsPerSector)
      (hsound.ring.home m % L.slotsPerSector) = slotStart L (hsound.ring.home m) :=
    hsound.slotAddr_eq hr
  have hcrc : (headerAt (mem w) (slotStart L (hsound.ring.home m))).crc
      = udsCrc16Ccitt (slotData L (mem w) (hsound.ring.home m)) := haccepted.crc.symm
  unfold udsParamLoad
  rw [if_neg (by simp), if_neg (by simp [resumedAt])]
  dsimp only
  rw [resumedAt_port, show (resumedAt L hsound (m + 1)).activeSector
    = hsound.ring.home m / L.slotsPerSector from rfl, show (resumedAt L hsound (m + 1)).activeSlot
    = hsound.ring.home m % L.slotsPerSector from rfl, haddr, hport.reads]
  dsimp only
  rw [hport.reads]
  have hslot : (mem w).slice ((slotStart L (hsound.ring.home m) + L.headerSize) % 2 ^ 32) L.dataSize
      = slotData L (mem w) (hsound.ring.home m) := by
    rw [Nat.mod_eq_of_lt (by omega)]
    rfl
  show (if (headerAt (mem w) (slotStart L (hsound.ring.home m))).crc ≠ udsCrc16Ccitt
      ((mem w).slice ((slotStart L (hsound.ring.home m) + L.headerSize) % 2 ^ 32) L.dataSize)
    then _ else (UdsParamStatus.ok,
      (mem w).slice ((slotStart L (hsound.ring.home m) + L.headerSize) % 2 ^ 32) L.dataSize, w)) = _
  rw [hslot]
  exact if_neg (not_not.mpr hcrc)

/-- Before the first item there is nothing to load. -/
theorem load_resumedAt_zero (hsound : Sound L) (data : List UInt8) (w : ω) :
    udsParamLoad (resumedAt L hsound 0) data w = (.err, data, w) := by
  unfold udsParamLoad
  rw [if_neg (by simp)]
  rfl

/-- The slot after that of item `m`, as the store counts it. -/
theorem nextSlot_home (hsound : Sound L) (m : Nat) :
    L.slotsPerSector ≤ hsound.ring.home m % L.slotsPerSector + 1 ∧
        hsound.ring.home (m + 1) % L.slotsPerSector = 0 ∧
        hsound.ring.home (m + 1) / L.slotsPerSector
          = (hsound.ring.home m / L.slotsPerSector + 1) % L.sectorCount ∨
      ¬L.slotsPerSector ≤ hsound.ring.home m % L.slotsPerSector + 1 ∧
        hsound.ring.home (m + 1) % L.slotsPerSector
          = hsound.ring.home m % L.slotsPerSector + 1 ∧
        hsound.ring.home (m + 1) / L.slotsPerSector = hsound.ring.home m / L.slotsPerSector := by
  have hpos := hsound.pos
  have hlt : hsound.ring.home (m + 1) < L.sectorCount * L.slotsPerSector :=
    hsound.ring.home_lt (m + 1)
  rcases hsound.ring.home_succ m with ⟨hend, hhome, -⟩ | ⟨-, hhome, -⟩
  · -- the ring has come around
    have hend : hsound.ring.home m + 1 = L.sectorCount * L.slotsPerSector := hend
    left
    rcases mod_succ (hsound.ring.home m) hpos with ⟨hlast, -⟩ | ⟨-, hmod⟩
    · have hdvd : L.slotsPerSector ∣ hsound.ring.home m + 1 := ⟨L.sectorCount, by
        rw [hend, Nat.mul_comm]⟩
      have hdiv := Nat.succ_div_of_dvd hdvd
      rw [hend, Nat.mul_div_cancel _ hpos] at hdiv
      refine ⟨by omega, by rw [hhome, Nat.zero_mod], ?_⟩
      rw [hhome, Nat.zero_div, ← hdiv, Nat.mod_self]
    · rw [hend, Nat.mul_mod_left] at hmod
      omega
  · rw [hhome] at hlt ⊢
    rcases mod_succ (hsound.ring.home m) hpos with ⟨hlast, hmod⟩ | ⟨hmore, hmod⟩
    · left
      have hdiv := Nat.succ_div_of_dvd (Nat.dvd_of_mod_eq_zero hmod)
      have hsector : (hsound.ring.home m + 1) / L.slotsPerSector < L.sectorCount :=
        Nat.div_lt_of_lt_mul (by rwa [Nat.mul_comm])
      refine ⟨by omega, hmod, ?_⟩
      rw [← hdiv, Nat.mod_eq_of_lt hsector]
    · right
      refine ⟨by omega, hmod, Nat.succ_div_of_not_dvd fun hdvd => ?_⟩
      rw [Nat.mod_eq_zero_of_dvd hdvd] at hmod
      omega

/-- A save takes the slot of the next item, and erases its sector if it is the first there. -/
theorem prepareNextSlot_resumedAt (hsound : Sound L) (n : Nat) (w : ω) :
    prepareNextSlot (resumedAt L hsound n) w =
      if hsound.ring.Enters n then
        (if (L.port.erase w (sectorStart L (hsound.ring.home n))).1 then
            some (hsound.ring.home n / L.slotsPerSector, hsound.ring.home n % L.slotsPerSector)
          else none,
          (L.port.erase w (sectorStart L (hsound.ring.home n))).2)
      else
        (some (hsound.ring.home n / L.slotsPerSector, hsound.ring.home n % L.slotsPerSector), w) := by
  have hadopt : ∀ (sector slot : Nat), (if ¬(L.port.erase w
      (sectorStart L (hsound.ring.home n))).1 then
        (none, (L.port.erase w (sectorStart L (hsound.ring.home n))).2)
      else (some (sector, slot), (L.port.erase w (sectorStart L (hsound.ring.home n))).2)) =
      (if (L.port.erase w (sectorStart L (hsound.ring.home n))).1 then some (sector, slot)
        else none, (L.port.erase w (sectorStart L (hsound.ring.home n))).2) := by
    intro sector slot
    -- The source tests for the failure, the statement for the success.
    by_cases herased : (L.port.erase w (sectorStart L (hsound.ring.home n))).1 = true
    · rw [if_neg (not_not.mpr herased), if_pos herased]
    · rw [if_pos herased, if_neg herased]
  unfold prepareNextSlot
  cases n with
  | zero =>
    -- An empty store starts in its first sector.
    have hhome : hsound.ring.home 0 = 0 := Nat.zero_mod _
    have henters : hsound.ring.Enters 0 := by
      unfold SectorRing.Enters
      rw [hhome, Nat.zero_mod]
    have hstart : L.flashBase = sectorStart L (hsound.ring.home 0) := by
      unfold sectorStart
      rw [hhome, Nat.zero_div, Nat.zero_mul, Nat.add_zero]
    rw [if_neg (by simp [resumedAt]), if_pos henters, ← hadopt, ← hstart, hhome, Nat.zero_div,
      Nat.zero_mod]
    rfl
  | succ m =>
    rw [if_pos (by simp [resumedAt])]
    show (if L.slotsPerSector ≤ hsound.ring.home m % L.slotsPerSector + 1 then _ else _) = _
    rcases nextSlot_home hsound m with ⟨hfull, hmod, hdiv⟩ | ⟨hroom, hmod, hdiv⟩
    · -- The region lies below the end of the address space, so the sum does not wrap.
      have hstart : (L.flashBase + (hsound.ring.home m / L.slotsPerSector + 1) % L.sectorCount
          * L.sectorSize) % 2 ^ 32 = sectorStart L (hsound.ring.home (m + 1)) := by
        have hwithin := hsound.slot_within (hsound.ring.home (m + 1))
        have hsector := hsound.sector_within (hsound.ring.home_lt (m + 1))
        have hheader : 16 ≤ L.headerSize := hsound.header
        have hslot := hsound.slot
        have hle := sectorStart_le L (hsound.ring.home (m + 1))
        rw [← hdiv]
        exact Nat.mod_eq_of_lt (show sectorStart L (hsound.ring.home (m + 1)) < 2 ^ 32 by omega)
      rw [if_pos hfull, if_pos (show hsound.ring.Enters (m + 1) from hmod), hmod, hdiv, ← hadopt,
        ← hstart]
      rfl
    · have hstay : ¬hsound.ring.Enters (m + 1) := by
        intro henters
        have henters : hsound.ring.home (m + 1) % L.slotsPerSector = 0 := henters
        omega
      rw [if_neg hroom, if_neg hstay, hmod, hdiv]
      rfl

end Resumed

end UdsIsoTp.Flash
