import Mathlib.Data.List.Nodup
import Mathlib.Data.Nat.ModEq
import UdsIsoTp.Flash.NorFlash
import UdsIsoTp.Flash.StoreLog

/-!
# How a save writes

A port that notes down its writes shows what a save asks of the flash, whatever the port answers
and wherever the save is given up. The pieces of a padded write lie one behind the other, each on
the granule and a multiple of it long (`Pieces`), and a save makes two such rows of pieces in one
slot: the payload, and then, with all of the payload written, the header (`Disciplined`).
-/

namespace UdsIsoTp.Flash

variable {ω : Type}

/-! ## Writes -/

/-- A call of `port->write`. -/
structure FlashWrite where
  address : Nat
  data : List UInt8

/-- The addresses that a write programs. -/
def FlashWrite.cells (x : FlashWrite) : List Nat :=
  (List.range x.data.length).map fun i => (x.address + i) % 2 ^ 32

/-- The port with its writes noted down, in order. -/
def UdsFlashPort.noted (port : UdsFlashPort ω) : UdsFlashPort (ω × List FlashWrite) where
  erase w addr :=
    let (done, left) := port.erase w.1 addr
    (done, left, w.2)
  read w addr length :=
    let (bytes, left) := port.read w.1 addr length
    (bytes, left, w.2)
  write w addr data :=
    let (done, left) := port.write w.1 addr data
    (done, left, w.2 ++ [⟨addr, data⟩])
  sectorSize := port.sectorSize
  programGranule := port.programGranule
  erasedByte := port.erasedByte

/-- Writes one behind the other, on the granule, over the offsets from `start` to `stop` behind
`addr`. -/
inductive Pieces (granule addr stop : Nat) : Nat → List FlashWrite → Prop
  | done (start : Nat) (h : start = stop) : Pieces granule addr stop start []
  | piece (start : Nat) (x : FlashWrite) (rest : List FlashWrite)
      (at_start : x.address = (addr + start) % 2 ^ 32)
      (address : granule ∣ x.address) (length : granule ∣ x.data.length)
      (more : Pieces granule addr stop (start + x.data.length) rest) :
      Pieces granule addr stop start (x :: rest)

/-- The addresses of `count` offsets behind `addr`. -/
def cellsFrom (addr start count : Nat) : List Nat :=
  (List.range' start count).map fun i => (addr + i) % 2 ^ 32

theorem FlashWrite.cells_eq {x : FlashWrite} {addr start : Nat}
    (h : x.address = (addr + start) % 2 ^ 32) :
    x.cells = cellsFrom addr start x.data.length := by
  unfold FlashWrite.cells cellsFrom
  rw [h, List.range'_eq_map_range, List.map_map]
  refine List.map_congr_left fun i _ => ?_
  show ((addr + start) % 2 ^ 32 + i) % 2 ^ 32 = (addr + (start + i)) % 2 ^ 32
  rw [Nat.mod_add_mod, Nat.add_assoc]

variable {granule addr start stop : Nat} {writes : List FlashWrite}

theorem Pieces.le (h : Pieces granule addr stop start writes) : start ≤ stop := by
  induction h with
  | done start h => exact Nat.le_of_eq h
  | piece start x rest _ _ _ _ ih => omega

/-- The pieces program the row of addresses that they cover, in order. -/
theorem Pieces.cells (h : Pieces granule addr stop start writes) :
    writes.flatMap FlashWrite.cells = cellsFrom addr start (stop - start) := by
  induction h with
  | done start h =>
    rw [h, Nat.sub_self]
    rfl
  | piece start x rest at_start _ _ more ih =>
    have hle := more.le
    rw [List.flatMap_cons, ih, FlashWrite.cells_eq at_start]
    unfold cellsFrom
    rw [← List.map_append, List.range'_append_1,
      show x.data.length + (stop - (start + x.data.length)) = stop - start by omega]

theorem Pieces.aligned (h : Pieces granule addr stop start writes) :
    ∀ x ∈ writes, granule ∣ x.address ∧ granule ∣ x.data.length := by
  induction h with
  | done => simp
  | piece start x rest _ address length _ ih =>
    intro y hy
    rcases List.mem_cons.mp hy with rfl | hy
    · exact ⟨address, length⟩
    · exact ih y hy

/-! ## A padded write -/

theorem length_paddedChunk (erased : UInt8) (src : Buf) (srcSize written length : Nat) :
    (paddedChunk erased src srcSize written length).length = length := by
  rw [paddedChunk_eq, Buf.length_slice]

/-- A padded write on a port that notes it: pieces from where it starts, and to the end if all of
them were taken. -/
theorem writePaddedChunked_pieces {store : UdsParamStore (ω × List FlashWrite)}
    {port : UdsFlashPort ω} (hport : store.port = port.noted) {granule addr total : Nat}
    (hgranule : granule ∣ 64) (haddr : granule ∣ addr) (htotal : granule ∣ total) (src : Buf)
    (srcSize written : Nat) (hwritten : granule ∣ written) (hle : written ≤ total)
    (w : ω × List FlashWrite) :
    ∃ writes stop, Pieces granule addr stop written writes ∧ stop ≤ total ∧
      (writePaddedChunked store addr src srcSize total written w).2.2 = w.2 ++ writes ∧
      ((writePaddedChunked store addr src srcSize total written w).1 = true → stop = total) := by
  have hword : granule ∣ 2 ^ 32 := Nat.dvd_trans hgranule (by decide)
  -- on what is left to write
  induction hleft : total - written using Nat.strong_induction_on generalizing written w with
  | _ left ih =>
    by_cases hmore : written < total
    · -- a chunk is full or reaches the end, which is as aligned as the chunk
      have hlength : granule ∣ min (total - written) 64 := by
        rcases Nat.le_total (total - written) 64 with h | h
        · rw [Nat.min_eq_left h]
          exact Nat.dvd_sub htotal hwritten
        · rw [Nat.min_eq_right h]
          exact hgranule
      generalize hn : min (total - written) 64 = n at hlength
      let x : FlashWrite :=
        ⟨(addr + written) % 2 ^ 32, paddedChunk store.erasedByte src srcSize written n⟩
      have hx : x.data.length = n := length_paddedChunk ..
      have haddress : granule ∣ x.address :=
        (Nat.dvd_mod_iff hword).mpr (Nat.dvd_add haddr hwritten)
      generalize hanswer : port.write w.1 x.address x.data = answer
      have hstep : writePaddedChunked store addr src srcSize total written w =
          if ¬answer.1 then (false, (answer.2, w.2 ++ [x]))
          else writePaddedChunked store addr src srcSize total (written + n)
            (answer.2, w.2 ++ [x]) := by
        conv_lhs => unfold writePaddedChunked
        rw [dif_pos hmore, hn, hport, ← hanswer]
        rfl
      rw [hstep]
      by_cases hdone : answer.1 = true
      · rw [if_neg (not_not.mpr hdone)]
        obtain ⟨rest, stop, hpieces, hstop, hlog, hend⟩ := ih (total - (written + n)) (by omega)
          (written + n) (Nat.dvd_add hwritten hlength) (by omega)
          (answer.2, w.2 ++ [x]) rfl
        refine ⟨x :: rest, stop,
          .piece written x rest rfl haddress (hx.symm ▸ hlength) (hx.symm ▸ hpieces), hstop, ?_, hend⟩
        exact hlog.trans (List.append_cons w.2 x rest).symm
      · -- a piece that is refused is the last one
        rw [if_pos hdone]
        exact ⟨[x], written + n,
          .piece written x [] rfl haddress (hx.symm ▸ hlength) (.done _ (congrArg (written + ·) hx)),
          by omega, rfl, fun h => Bool.noConfusion h⟩
    · have hend : written = total := Nat.le_antisymm hle (Nat.not_lt.mp hmore)
      unfold writePaddedChunked
      rw [dif_neg hmore]
      exact ⟨[], written, .done written rfl, hle, (List.append_nil _).symm, fun _ => hend⟩

/-! ## A save -/

/-- The granule divides all that a save adds up, and header and payload fit in the slot. -/
structure Aligned (store : UdsParamStore ω) : Prop where
  chunk : store.programGranule ∣ 64
  base : store.programGranule ∣ store.flashBase
  sector : store.programGranule ∣ store.sectorSize
  slot : store.programGranule ∣ store.slotSize
  header : store.programGranule ∣ store.headerSize
  payload : store.programGranule ∣ store.payloadSizeAligned
  room : store.headerSize + store.payloadSizeAligned ≤ store.slotSize
  slot_lt : store.slotSize < 65536

/-- How a save writes a slot: on the granule and in multiples of it, inside the slot, the payload
area first and the header only when all of that area is written, and no cell twice. -/
structure Disciplined (store : UdsParamStore ω) (sector slot : Nat)
    (payload header : List FlashWrite) : Prop where
  aligned : ∀ x ∈ payload ++ header,
    store.programGranule ∣ x.address ∧ store.programGranule ∣ x.data.length
  inside : ∀ a ∈ (payload ++ header).flatMap FlashWrite.cells,
    a ∈ cellsFrom (slotAddr store sector slot) 0 store.slotSize
  in_payload : ∀ a ∈ payload.flatMap FlashWrite.cells,
    a ∈ cellsFrom (slotAddr store sector slot) store.headerSize store.payloadSizeAligned
  in_header : ∀ a ∈ header.flatMap FlashWrite.cells,
    a ∈ cellsFrom (slotAddr store sector slot) 0 store.headerSize
  header_last : header ≠ [] → payload.flatMap FlashWrite.cells
    = cellsFrom (slotAddr store sector slot) store.headerSize store.payloadSizeAligned
  once : ((payload ++ header).flatMap FlashWrite.cells).Nodup

theorem mem_cellsFrom {addr start count a : Nat} :
    a ∈ cellsFrom addr start count ↔
      ∃ i, start ≤ i ∧ i < start + count ∧ (addr + i) % 2 ^ 32 = a := by
  unfold cellsFrom
  simp only [List.mem_map, List.mem_range'_1, and_assoc]

theorem cellsFrom_shift (addr start count : Nat) :
    cellsFrom ((addr + start) % 2 ^ 32) 0 count = cellsFrom addr start count := by
  unfold cellsFrom
  rw [List.range'_eq_map_range, List.range'_eq_map_range, List.map_map, List.map_map]
  refine List.map_congr_left fun i _ => ?_
  show ((addr + start) % 2 ^ 32 + (0 + i)) % 2 ^ 32 = (addr + (start + i)) % 2 ^ 32
  rw [Nat.mod_add_mod, Nat.zero_add, Nat.add_assoc]

/-- Offsets of less than the address space tell addresses apart. -/
theorem offset_inj {addr i j : Nat} (hi : i < 2 ^ 32) (hj : j < 2 ^ 32)
    (h : (addr + i) % 2 ^ 32 = (addr + j) % 2 ^ 32) : i = j := by
  have hmod : i % 2 ^ 32 = j % 2 ^ 32 := Nat.ModEq.add_left_cancel' addr h
  rwa [Nat.mod_eq_of_lt hi, Nat.mod_eq_of_lt hj] at hmod

theorem nodup_cellsFrom {addr start count : Nat} (h : start + count ≤ 2 ^ 32) :
    (cellsFrom addr start count).Nodup := by
  refine List.Nodup.map_on ?_ List.nodup_range'
  intro i hi j hj heq
  rw [List.mem_range'_1] at hi hj
  exact offset_inj (by omega) (by omega) heq

theorem cellsFrom_subset {addr start count start' count' : Nat} (hstart : start' ≤ start)
    (hend : start + count ≤ start' + count') :
    ∀ a ∈ cellsFrom addr start count, a ∈ cellsFrom addr start' count' := by
  intro a ha
  obtain ⟨i, hle, hi, rfl⟩ := mem_cellsFrom.mp ha
  exact mem_cellsFrom.mpr ⟨i, by omega, by omega, rfl⟩

/-- A row that ends where another begins, or before, shares no cell with it. -/
theorem cellsFrom_disjoint {addr start count start' count' : Nat} (h : start + count ≤ start')
    (hend : start' + count' ≤ 2 ^ 32) :
    List.Disjoint (cellsFrom addr start' count') (cellsFrom addr start count) := by
  intro a ha ha'
  obtain ⟨i, hle, hi, rfl⟩ := mem_cellsFrom.mp ha
  obtain ⟨j, -, hj, heq⟩ := mem_cellsFrom.mp ha'
  have hij := offset_inj (by omega) (by omega) heq
  omega

section Save

variable {store : UdsParamStore (ω × List FlashWrite)} {port : UdsFlashPort ω}

/-- Two rows of pieces, one behind the header and one over it, make a disciplined save. -/
theorem disciplined_of_pieces (haligned : Aligned store) {sector slot : Nat}
    {payload header : List FlashWrite} {written headerWritten : Nat}
    (hpayload : Pieces store.programGranule
      ((slotAddr store sector slot + store.headerSize) % 2 ^ 32) written 0 payload)
    (hwritten : written ≤ store.payloadSizeAligned)
    (hheader : Pieces store.programGranule (slotAddr store sector slot) headerWritten 0 header)
    (hheaderWritten : headerWritten ≤ store.headerSize)
    (hlast : header ≠ [] → written = store.payloadSizeAligned) :
    Disciplined store sector slot payload header := by
  have hroom := haligned.room
  have hlt := haligned.slot_lt
  have hcells := hpayload.cells
  rw [Nat.sub_zero, cellsFrom_shift] at hcells
  have hheaderCells := hheader.cells
  rw [Nat.sub_zero] at hheaderCells
  have hinPayload : ∀ a ∈ payload.flatMap FlashWrite.cells,
      a ∈ cellsFrom (slotAddr store sector slot) store.headerSize store.payloadSizeAligned := by
    rw [hcells]
    exact cellsFrom_subset (Nat.le_refl _) (Nat.add_le_add_left hwritten _)
  have hinHeader : ∀ a ∈ header.flatMap FlashWrite.cells,
      a ∈ cellsFrom (slotAddr store sector slot) 0 store.headerSize := by
    rw [hheaderCells]
    exact cellsFrom_subset (Nat.le_refl _) (Nat.add_le_add_left hheaderWritten _)
  refine ⟨?_, ?_, hinPayload, hinHeader, ?_, ?_⟩
  · intro x hx
    rcases List.mem_append.mp hx with hx | hx
    · exact hpayload.aligned x hx
    · exact hheader.aligned x hx
  · intro a ha
    rw [List.flatMap_append, List.mem_append] at ha
    rcases ha with ha | ha
    · exact cellsFrom_subset (Nat.zero_le _) (by omega) a (hinPayload a ha)
    · exact cellsFrom_subset (Nat.le_refl _) (by omega) a (hinHeader a ha)
  · intro hne
    rw [hcells, hlast hne]
  · rw [List.flatMap_append, hcells, hheaderCells]
    -- the header ends where the payload area begins
    exact List.Nodup.append (nodup_cellsFrom (by omega)) (nodup_cellsFrom (by omega))
      (cellsFrom_disjoint (by omega) (by omega))

theorem slotAddr_aligned (haligned : Aligned store) (sector slot : Nat) :
    store.programGranule ∣ slotAddr store sector slot := by
  have hword : store.programGranule ∣ 2 ^ 32 := Nat.dvd_trans haligned.chunk (by decide)
  refine (Nat.dvd_mod_iff hword).mpr (Nat.dvd_add (Nat.dvd_add haligned.base ?_) ?_)
  · exact Nat.dvd_mul_left_of_dvd haligned.sector sector
  · exact Nat.dvd_mul_left_of_dvd haligned.slot slot

/-- Choosing the slot erases, and writes nothing. -/
theorem prepareNextSlot_noted (hport : store.port = port.noted) (w : ω × List FlashWrite) :
    (prepareNextSlot store w).2.2 = w.2 := by
  unfold prepareNextSlot
  rw [hport]
  split
  next =>
    split
    next =>
      dsimp only
      split <;> rfl
    next => rfl
  next =>
    dsimp only
    split <;> rfl

theorem writeSlot_noted (hport : store.port = port.noted) (haligned : Aligned store)
    (data : Buf) (sector slot : Nat) (w : ω × List FlashWrite) :
    ∃ payload header, (writeSlot store data sector slot w).2.2 = w.2 ++ (payload ++ header) ∧
      Disciplined store sector slot payload header := by
  have haddr := slotAddr_aligned haligned sector slot
  have hword : store.programGranule ∣ 2 ^ 32 := Nat.dvd_trans haligned.chunk (by decide)
  obtain ⟨payload, written, hpayload, hwritten, hlog, hend⟩ := writePaddedChunked_pieces hport
    haligned.chunk ((Nat.dvd_mod_iff hword).mpr (Nat.dvd_add haddr haligned.header))
    haligned.payload data store.dataSize 0 (Nat.dvd_zero _) (Nat.zero_le _) w
  unfold writeSlot
  dsimp only
  generalize writePaddedChunked store ((slotAddr store sector slot + store.headerSize) % 2 ^ 32) data
    store.dataSize store.payloadSizeAligned 0 w = first at hlog hend
  obtain ⟨done, w'⟩ := first
  by_cases hdone : done = true
  case neg =>
    -- given up in the payload: there is no header
    refine ⟨payload, [], ?_, disciplined_of_pieces haligned hpayload hwritten (.done 0 rfl)
      (Nat.zero_le _) fun h => absurd rfl h⟩
    rw [List.append_nil, if_pos hdone]
    exact hlog
  case pos =>
    obtain ⟨header, headerWritten, hheader, hheaderWritten, hlog', -⟩ := writePaddedChunked_pieces
      hport haligned.chunk haddr haligned.header
      (Buf.ofList (encodeHeader store.erasedByte (saveHeader store data))) slotHeaderSize 0
      (Nat.dvd_zero _) (Nat.zero_le _) w'
    refine ⟨payload, header, ?_, disciplined_of_pieces haligned hpayload hwritten hheader
      hheaderWritten fun _ => hend hdone⟩
    rw [if_neg (not_not.mpr hdone), hlog', ← List.append_assoc]
    exact congrArg (· ++ header) hlog

/-- The writes of a save, in the slot that it has chosen. -/
theorem save_noted (hport : store.port = port.noted) (haligned : Aligned store) (data : Buf)
    (w : ω × List FlashWrite) :
    ∃ sector slot payload header,
      (udsParamSave store data w).2.2.2 = w.2 ++ (payload ++ header) ∧
      Disciplined store sector slot payload header ∧
      (payload ++ header ≠ [] → (prepareNextSlot store w).1 = some (sector, slot)) := by
  have hnone : Disciplined store 0 0 [] [] :=
    disciplined_of_pieces haligned (.done 0 rfl) (Nat.zero_le _) (.done 0 rfl) (Nat.zero_le _)
      fun h => absurd rfl h
  have hprepared := prepareNextSlot_noted hport w
  unfold udsParamSave
  split
  next => exact ⟨0, 0, [], [], (List.append_nil _).symm, hnone, fun h => absurd rfl h⟩
  next =>
    generalize prepareNextSlot store w = prepared at hprepared
    obtain ⟨_ | ⟨sector, slot⟩, w'⟩ := prepared
    · refine ⟨0, 0, [], [], ?_, hnone, fun h => absurd rfl h⟩
      exact hprepared.trans (List.append_nil _).symm
    · obtain ⟨payload, header, hlog, hdisciplined⟩ :=
        writeSlot_noted hport haligned data sector slot w'
      refine ⟨sector, slot, payload, header, ?_, hdisciplined, fun _ => rfl⟩
      rw [show w'.2 = w.2 from hprepared] at hlog
      dsimp only
      split
      next => exact hlog
      next => exact hlog

end Save

/-! ## Every save of an initialised store -/

/-- The stores that an init has let through, after whatever saves and erasures, with the flash in
any state at each of them. -/
inductive Initialised (port : UdsFlashPort ω) (flashBase : UInt32) (sectorCount : UInt8)
    (dataSize : UInt16) : UdsParamStore ω → Prop
  | init (w : ω) (store : UdsParamStore ω)
      (h : (udsParamInit port flashBase sectorCount dataSize w).1 = some store) :
      Initialised port flashBase sectorCount dataSize store
  | save (store : UdsParamStore ω) (h : Initialised port flashBase sectorCount dataSize store)
      (data : Buf) (w : ω) :
      Initialised port flashBase sectorCount dataSize (udsParamSave store data w).2.1
  | eraseAll (store : UdsParamStore ω) (h : Initialised port flashBase sectorCount dataSize store)
      (w : ω) : Initialised port flashBase sectorCount dataSize (udsParamEraseAll store w).2.1

/-- Apart from the slot that is active, the store is as it was laid out. -/
def LaidOut (L store : UdsParamStore ω) : Prop :=
  ∃ sector slot seq active, store =
    { L with
      activeSector := sector
      activeSlot := slot
      nextSeq := seq
      initialized := true
      hasActiveSlot := active }

theorem initialised_laidOut {port : UdsFlashPort ω} {flashBase : UInt32} {sectorCount : UInt8}
    {dataSize : UInt16} {store : UdsParamStore ω}
    (h : Initialised port flashBase sectorCount dataSize store) :
    LaidOut (layOut port flashBase sectorCount dataSize) store := by
  induction h with
  | init w store h =>
    have haccepted : (udsParamInit port flashBase sectorCount dataSize w).1 ≠ none := by
      rw [h]
      exact Option.some_ne_none store
    rw [(udsParamInit_accepted haccepted w).2] at h
    obtain rfl := Option.some.inj h
    cases (scanSlots (layOut port flashBase sectorCount dataSize) w).1 with
    | none => exact ⟨_, _, _, _, rfl⟩
    | some best => exact ⟨_, _, _, _, rfl⟩
  | save store _ data w ih =>
    obtain ⟨sector, slot, seq, active, rfl⟩ := ih
    unfold udsParamSave
    split
    next => exact ⟨_, _, _, _, rfl⟩
    next =>
      split
      next => exact ⟨_, _, _, _, rfl⟩
      next =>
        dsimp only
        split
        next => exact ⟨_, _, _, _, rfl⟩
        next => exact ⟨_, _, _, _, rfl⟩
  | eraseAll store _ w ih =>
    obtain ⟨sector, slot, seq, active, rfl⟩ := ih
    unfold udsParamEraseAll
    split
    next => exact ⟨_, _, _, _, rfl⟩
    next =>
      dsimp only
      split
      next => exact ⟨_, _, _, _, rfl⟩
      next => exact ⟨_, _, _, _, rfl⟩

/-- The granules that the port's documentation lists. -/
def documentedGranules : List Nat := [2, 4, 8, 16, 32, 64]

theorem alignUp_dvd (n granule : Nat) : granule ∣ alignUp n granule := Nat.dvd_mul_left ..

/-- They divide a chunk of a padded write, and those below it a paragraph. -/
theorem documentedGranules_dvd {granule : Nat} (h : granule ∈ documentedGranules) :
    granule ∣ 64 ∧ (granule < 16 → granule ∣ 16) := by
  unfold documentedGranules at h
  simp only [List.mem_cons, List.not_mem_nil, or_false] at h
  rcases h with rfl | rfl | rfl | rfl | rfl | rfl <;> decide

theorem headerSizeFor_dvd (granule : UInt8) : granule.toNat ∣ headerSizeFor granule.toNat := by
  rw [headerSizeFor_eq]
  exact alignUp_dvd ..

/-- A slot is rounded up to paragraphs only where the granule divides them. -/
theorem slotBytes_dvd {granule : UInt8} (h : granule.toNat ∈ documentedGranules)
    (dataSize : Nat) : granule.toNat ∣ slotBytes granule.toNat dataSize := by
  unfold slotBytes
  dsimp only
  split
  next hfine => exact Nat.dvd_mul_left_of_dvd ((documentedGranules_dvd h).2 hfine.2) _
  next => exact Nat.dvd_add (headerSizeFor_dvd granule) (alignUp_dvd dataSize granule.toNat)

theorem LaidOut.aligned {port : UdsFlashPort ω} {flashBase : UInt32} {sectorCount : UInt8}
    {dataSize : UInt16} {store : UdsParamStore ω}
    (h : LaidOut (layOut port flashBase sectorCount dataSize) store)
    (hgranule : (portGranule port).toNat ∈ documentedGranules)
    (hbase : (portGranule port).toNat ∣ flashBase.toNat)
    (hsector : (portGranule port).toNat ∣ (port.sectorSize flashBase).toNat)
    (hslot : slotBytes (portGranule port).toNat dataSize.toNat < 65536) : Aligned store := by
  obtain ⟨sector, slot, seq, active, rfl⟩ := h
  obtain ⟨hsize, hpayload, hroom⟩ := slotSizeFor_eq hslot
  refine ⟨(documentedGranules_dvd hgranule).1, hbase, hsector, ?_, headerSizeFor_dvd _, ?_, ?_, ?_⟩
  · show _ ∣ slotSizeFor _ _
    rw [hsize]
    exact slotBytes_dvd hgranule dataSize.toNat
  · show _ ∣ payloadSizeFor _ _
    rw [hpayload]
    exact alignUp_dvd ..
  · show headerSizeFor _ + payloadSizeFor _ _ ≤ slotSizeFor _ _
    rw [hsize, hpayload]
    exact hroom
  · show slotSizeFor _ _ < 65536
    rw [hsize]
    exact hslot

/-- Whatever a save of an initialised store writes, it writes disciplined, in the slot that it has
chosen. -/
theorem save_disciplined (port : UdsFlashPort ω) {flashBase : UInt32} {sectorCount : UInt8}
    {dataSize : UInt16} (hgranule : (portGranule port).toNat ∈ documentedGranules)
    (hbase : (portGranule port).toNat ∣ flashBase.toNat)
    (hsector : (portGranule port).toNat ∣ (port.sectorSize flashBase).toNat)
    (hslot : slotBytes (portGranule port).toNat dataSize.toNat < 65536)
    {store : UdsParamStore (ω × List FlashWrite)}
    (hstore : Initialised port.noted flashBase sectorCount dataSize store) (data : Buf)
    (w : ω × List FlashWrite) :
    store.programGranule = (portGranule port).toNat ∧
    ∃ sector slot payload header,
      (udsParamSave store data w).2.2.2 = w.2 ++ (payload ++ header) ∧
      Disciplined store sector slot payload header ∧
      (payload ++ header ≠ [] → (prepareNextSlot store w).1 = some (sector, slot)) := by
  have hlaid := initialised_laidOut hstore
  have haligned : Aligned store := hlaid.aligned hgranule hbase hsector hslot
  obtain ⟨sector, slot, seq, active, rfl⟩ := hlaid
  exact ⟨rfl, save_noted rfl haligned data w⟩

/-- A port of two-kilobyte sectors and a granule of eight. -/
def eightByteGranule : UdsFlashPort Unit where
  erase _ _ := (true, ())
  read _ _ length := (some (List.replicate length 0xFF), ())
  write _ _ _ := (true, ())
  sectorSize _ := 2048
  programGranule := 8
  erasedByte := 0xFF

/-- Twenty bytes of data. -/
theorem save_disciplined_twenty :
    ∃ (store : UdsParamStore (Unit × List FlashWrite)) (sector slot : Nat)
      (payload header : List FlashWrite),
      (udsParamSave store (fun _ => 0x5A) ((), [])).2.2.2 = payload ++ header ∧
      Disciplined store sector slot payload header := by
  have husable : Usable eightByteGranule.noted 0x08010000 2 20 :=
    ⟨by decide, by decide, by decide, by decide +kernel⟩
  have hinit := udsParamInit_accepted ((udsParamInit_usable (w := ((), []))).mpr husable) ((), [])
  obtain ⟨-, sector, slot, payload, header, hlog, hdisciplined, -⟩ :=
    save_disciplined eightByteGranule (by decide) (by decide) (by decide) (by decide +kernel)
      (.init _ _ (congrArg Prod.fst hinit.2)) (fun _ => 0x5A) ((), [])
  exact ⟨_, sector, slot, payload, header, hlog, hdisciplined⟩

end UdsIsoTp.Flash
