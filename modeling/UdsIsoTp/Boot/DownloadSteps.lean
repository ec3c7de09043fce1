import UdsIsoTp.Boot.Download

/-!
# What the download engine's operations do

One lemma an operation, whatever the callbacks do: a begin is accepted after all checks or
changes nothing, a write programs a block that fits or leaves the download alone, and the
others never touch the metadata of a download under way (`Quiet`).
-/

namespace UdsIsoTp.Boot

variable {ω : Type}

/-- The operations of the download. -/
inductive DownloadCall where
  | begin (address length now : UInt32)
  | pollErase (now : UInt32)
  | write (block : UInt8) (data : Option Buf) (length : UInt16) (now : UInt32)
  | finish (expectedCrc32 : UInt32) (hasExpectedCrc32 : Bool) (now : UInt32)
  | tick (now : UInt32)
  | abort

/-- A begin is in force and its region not complete. -/
def Active (d : UdsDownload ω) : Prop := d.state = .erasing ∨ d.state = .receiving

/-- A download that goes on only as it was. -/
structure Quiet (d d' : UdsDownload ω) : Prop where
  memory : d'.memory = d.memory
  callbacks : d'.callbacks = d.callbacks
  active : Active d' → Active d ∧ d'.metadata = d.metadata

theorem Quiet.refl (d : UdsDownload ω) : Quiet d d := ⟨rfl, rfl, fun h => ⟨h, rfl⟩⟩

theorem Quiet.of_inactive {d d' : UdsDownload ω} (hmemory : d'.memory = d.memory)
    (hcallbacks : d'.callbacks = d.callbacks) (h : ¬Active d') : Quiet d d' :=
  ⟨hmemory, hcallbacks, fun hactive => absurd hactive h⟩

theorem not_active {d : UdsDownload ω} (herasing : d.state ≠ .erasing)
    (hreceiving : d.state ≠ .receiving) : ¬Active d := fun h => h.elim herasing hreceiving

theorem abort_quiet (d : UdsDownload ω) (w : ω) : Quiet d (udsDownloadAbort d w).1 :=
  .of_inactive rfl rfl (not_active (by simp [udsDownloadAbort]) (by simp [udsDownloadAbort]))

theorem pollErase_quiet (d : UdsDownload ω) (now : UInt32) (w : ω) :
    Quiet d (udsDownloadPollErase d now w).2.1 := by
  unfold udsDownloadPollErase
  split
  next => exact .refl d
  next =>
    split
    next => exact .refl d
    next hstate =>
      split
      next => exact abort_quiet ..
      next =>
        dsimp only
        split
        next => exact ⟨rfl, rfl, fun _ => ⟨.inl (not_not.mp hstate), rfl⟩⟩
        next => exact .refl d

theorem finish_quiet (d : UdsDownload ω) (expected : UInt32) (has : Bool) (now : UInt32) (w : ω) :
    Quiet d (udsDownloadFinish d expected has now w).2.1 := by
  unfold udsDownloadFinish
  split
  next => exact .refl d
  next =>
    split
    next => exact .refl d
    next =>
      split
      next => exact abort_quiet ..
      next =>
        dsimp only
        have habort : ∀ (metadata : UdsDownloadMetadata) (w' : ω),
            Quiet d (udsDownloadAbort { d with state := .verifying, metadata := metadata } w').1 :=
          fun metadata w' => .of_inactive rfl rfl (not_active nofun nofun)
        split
        next => exact habort ..
        next =>
          split
          next => exact habort ..
          next => exact .of_inactive rfl rfl (not_active nofun nofun)

theorem tick_quiet (d : UdsDownload ω) (now : UInt32) (w : ω) :
    Quiet d (udsDownloadTick d now w).2.1 := by
  unfold udsDownloadTick
  split
  next => exact .refl d
  next =>
    split
    next => exact abort_quiet ..
    next => exact .refl d

/-- A begin is accepted after all checks, or changes nothing. -/
theorem udsDownloadBegin_cases (d : UdsDownload ω) (address length now : UInt32) (w : ω) :
    ((udsDownloadBegin d address length now w).1 ≠ .ok ∧
        (udsDownloadBegin d address length now w).2.1 = d ∨
      (udsDownloadBegin d address length now w).1 = .ok ∧
        validateDownloadRegion d.memory address length = true ∧ d.memory.eraseAlignment ≠ 0 ∧
        d.memory.programAlignment ≠ 0 ∧
        (udsDownloadBegin d address length now w).2.1 = beginDownload d address length now) ∧
    ((udsDownloadBegin d address length now w).1 ≠ .ok ∧
        (udsDownloadBegin d address length now w).2.2 = w ∨
      ∃ f, d.callbacks.eraseStart = some f ∧
        (udsDownloadBegin d address length now w).1 = (f w address length).1 ∧
        (udsDownloadBegin d address length now w).2.2 = (f w address length).2) := by
  unfold udsDownloadBegin
  split
  next => exact ⟨.inl ⟨by simp, rfl⟩, .inl ⟨by simp, rfl⟩⟩
  next eraseStart herase =>
    dsimp only
    split
    next => exact ⟨.inl ⟨by simp, rfl⟩, .inl ⟨by simp, rfl⟩⟩
    next =>
      split
      next => exact ⟨.inl ⟨by simp, rfl⟩, .inl ⟨by simp, rfl⟩⟩
      next hvalid =>
        split
        next => exact ⟨.inl ⟨by simp, rfl⟩, .inl ⟨by simp, rfl⟩⟩
        next haligned =>
          split
          next => exact ⟨.inl ⟨by simp, rfl⟩, .inl ⟨by simp, rfl⟩⟩
          next =>
            split
            next hresult => exact ⟨.inl ⟨hresult, rfl⟩, .inr ⟨_, herase, rfl, rfl⟩⟩
            next hresult =>
              have herasing := not_not.mp (not_or.mp haligned).1
              have hprogram := not_not.mp (not_or.mp (not_or.mp haligned).2).2
              unfold aligned at herasing hprogram
              simp only [Bool.decide_and, Bool.and_eq_true, decide_eq_true_eq]
                at herasing hprogram
              exact ⟨.inr ⟨rfl, not_not.mp hvalid, herasing.1, hprogram.1, rfl⟩,
                .inr ⟨_, herase, (not_not.mp hresult).symm, rfl⟩⟩

/-! ## Writes -/

/-- The arithmetic of a download under way does not wrap. -/
structure Sized (d : UdsDownload ω) : Prop where
  received : d.metadata.receivedLength ≤ d.metadata.imageLength
  sum : d.metadata.imageAddress.toNat + d.metadata.imageLength.toNat < 2 ^ 32
  programAlignment : d.memory.programAlignment ≠ 0

/-- A write that gets as far as the program callback. -/
structure BlockTaken (d : UdsDownload ω) (block : UInt8) (length : UInt16) (now : UInt32) :
    Prop where
  state : d.state = .receiving
  bounds : length ≠ 0 ∧ length ≤ maxChunkLength
  inTime : expired now d.deadlineMs = false
  inSequence : block = d.expectedBlock
  fits : length.toUInt32 ≤ d.metadata.imageLength - d.metadata.receivedLength
  aligned : d.metadata.receivedLength % d.memory.programAlignment = 0 ∧
    length.toUInt32 % d.memory.programAlignment = 0

/-- Where a block goes. -/
def blockAddress (d : UdsDownload ω) : UInt32 :=
  d.metadata.imageAddress + d.metadata.receivedLength

/-- A write programs the block that comes next, or leaves the download alone. -/
theorem udsDownloadWrite_cases (d : UdsDownload ω) (block : UInt8) (data : Option Buf)
    (length : UInt16) (now : UInt32) (w : ω) :
    (Quiet d (udsDownloadWrite d block data length now w).2.1 ∧
      ((udsDownloadWrite d block data length now w).2.2 = w ∨
        (udsDownloadWrite d block data length now w).2.2 = notify d.callbacks.abort w)) ∨
    ∃ program buf, d.callbacks.program = some program ∧ data = some buf ∧
      BlockTaken d block length now ∧
      ((program w (blockAddress d) (buf.slice 0 length.toNat)).1 ≠ .ok ∧
          (udsDownloadWrite d block data length now w).2
            = (d, (program w (blockAddress d) (buf.slice 0 length.toNat)).2) ∨
        (program w (blockAddress d) (buf.slice 0 length.toNat)).1 = .ok ∧
          (udsDownloadWrite d block data length now w).2
            = (blockProgrammed d (buf.slice 0 length.toNat) length now,
              notify d.callbacks.watchdogKick
                (program w (blockAddress d) (buf.slice 0 length.toNat)).2)) := by
  unfold udsDownloadWrite
  split
  next program data hprogram =>
    split
    next => exact .inl ⟨.refl d, .inl rfl⟩
    next hready =>
      split
      next => exact .inl ⟨abort_quiet .., .inr rfl⟩
      next hexpired =>
        split
        next => exact .inl ⟨.refl d, .inl rfl⟩
        next hblock =>
          split
          next => exact .inl ⟨.refl d, .inl rfl⟩
          next hfits =>
            split
            next => exact .inl ⟨.refl d, .inl rfl⟩
            next haligned =>
              -- Every check has passed; what is left is the result of the programming.
              right
              refine ⟨program, data, hprogram, rfl, ?_, ?_⟩
              · obtain ⟨hzero, hready⟩ := not_or.mp hready
                obtain ⟨hlong, hstate⟩ := not_or.mp hready
                obtain ⟨hdone, hlength⟩ := not_or.mp haligned
                exact ⟨not_not.mp hstate, ⟨hzero, UInt16.not_lt.mp hlong⟩,
                  eq_false_of_ne_true hexpired, not_not.mp hblock, UInt32.not_lt.mp hfits,
                  not_not.mp hdone, not_not.mp hlength⟩
              · dsimp only
                split
                next hresult => exact .inl ⟨hresult, rfl⟩
                next hresult => exact .inr ⟨not_not.mp hresult, rfl⟩
  next => exact .inl ⟨.refl d, .inl rfl⟩

/-- A block that is taken fits. -/
theorem BlockTaken.room {d : UdsDownload ω} {block : UInt8} {length : UInt16} {now : UInt32}
    (h : BlockTaken d block length now)
    (hinside : d.metadata.receivedLength ≤ d.metadata.imageLength) :
    d.metadata.receivedLength.toNat + length.toNat ≤ d.metadata.imageLength.toNat ∧
      (d.metadata.receivedLength + length.toUInt32).toNat
        = d.metadata.receivedLength.toNat + length.toNat := by
  have hroom := UInt32.le_iff_toNat_le.mp h.fits
  have hreceived := UInt32.le_iff_toNat_le.mp hinside
  have hlt := d.metadata.imageLength.toNat_lt
  rw [UInt32.toNat_sub_of_le _ _ hinside, UInt16.toNat_toUInt32] at hroom
  refine ⟨by omega, ?_⟩
  rw [UInt32.toNat_add, UInt16.toNat_toUInt32, Nat.mod_eq_of_lt (by omega)]

/-- A block that is taken goes right behind the bytes before it, and fits. -/
theorem BlockTaken.exact {d : UdsDownload ω} {block : UInt8} {length : UInt16} {now : UInt32}
    (h : BlockTaken d block length now) (hsized : Sized d) :
    d.metadata.receivedLength.toNat + length.toNat ≤ d.metadata.imageLength.toNat ∧
      (blockAddress d).toNat
        = d.metadata.imageAddress.toNat + d.metadata.receivedLength.toNat ∧
      (d.metadata.receivedLength + length.toUInt32).toNat
        = d.metadata.receivedLength.toNat + length.toNat := by
  obtain ⟨hroom, hreceived⟩ := h.room hsized.received
  have hsum := hsized.sum
  refine ⟨hroom, ?_, hreceived⟩
  unfold blockAddress
  rw [UInt32.toNat_add, Nat.mod_eq_of_lt (by omega)]

/-- So the arithmetic stays exact. -/
theorem Sized.programmed {d : UdsDownload ω} {block : UInt8} {length : UInt16} {now : UInt32}
    (hsized : Sized d) (h : BlockTaken d block length now) (bytes : List UInt8) :
    Sized (blockProgrammed d bytes length now) := by
  obtain ⟨hroom, -, hreceived⟩ := h.exact hsized
  refine ⟨?_, hsized.sum, hsized.programAlignment⟩
  show d.metadata.receivedLength + length.toUInt32 ≤ d.metadata.imageLength
  rw [UInt32.le_iff_toNat_le]
  omega

end UdsIsoTp.Boot
