import UdsIsoTp.Lib.Run
import UdsIsoTp.Boot.DownloadSteps
import UdsIsoTp.Boot.Verify

/-!
# What a complete download has received

An observer of the calls writes down every begin and every block that was accepted
(`downloadMark`). `Streamed` ties the engine's counters to the blocks since the last begin:
how many bytes there are, which number the next block has, what the streamed checksum is.
Only an accepted begin and an accepted block move the counters (`CountersKept`), so the tie
holds through failures, retries, timeouts and aborts, and `udsDownloadFinish_complete` says
what a finish asks on top of it.
-/

namespace UdsIsoTp.Boot

variable {ω : Type}

/-! ## Calls and what is seen of them -/

/-- One call, with what it answers. -/
def callDownload (s : UdsDownload ω × ω) : DownloadCall → UdsDownloadResult × UdsDownload ω × ω
  | .begin address length now => udsDownloadBegin s.1 address length now s.2
  | .pollErase now => udsDownloadPollErase s.1 now s.2
  | .write block data length now => udsDownloadWrite s.1 block data length now s.2
  | .finish expected has now => udsDownloadFinish s.1 expected has now s.2
  | .tick now => udsDownloadTick s.1 now s.2
  | .abort => (.ok, udsDownloadAbort s.1 s.2)

/-- One call, with what it leaves behind. -/
def advanceDownload (s : UdsDownload ω × ω) (call : DownloadCall) : UdsDownload ω × ω :=
  (callDownload s call).2

/-- What a download has accepted: its beginning, or a block. -/
inductive DownloadMark where
  | began (imageLength : UInt32)
  | took (block : UInt8) (bytes : List UInt8)

/-- The begins and the blocks that are answered with `ok`. -/
def downloadMark (s : UdsDownload ω × ω) (call : DownloadCall) : Option DownloadMark :=
  if (callDownload s call).1 = .ok then
    match call with
    | .begin _ length _ => some (.began length)
    | .write block (some data) length _ => some (.took block (data.slice 0 length.toNat))
    | _ => none
  else none

/-- The last accepted begin and the blocks accepted since, in order. -/
structure Intake where
  imageLength : UInt32
  blocks : List (UInt8 × List UInt8)

/-- All the bytes of the download, in order. -/
def Intake.bytes (i : Intake) : List UInt8 := i.blocks.flatMap (·.2)

/-- What a mark adds to the download in force. -/
def Intake.note : Option Intake → DownloadMark → Option Intake
  | _, .began length => some ⟨length, []⟩
  | some i, .took block bytes => some { i with blocks := i.blocks ++ [(block, bytes)] }
  | none, .took _ _ => none

/-- The download in force after these marks. -/
def intake (marks : List DownloadMark) : Option Intake := marks.foldl Intake.note none

/-- The number of the block with this many before it: 1, 2, …, 255, 0, 1, … -/
def blockNumber (k : Nat) : UInt8 := UInt8.ofNat (k + 1)

/-- The blocks carry the numbers of their places. -/
def InBlockOrder (i : Intake) : Prop :=
  i.blocks.map (·.1) = (List.range i.blocks.length).map blockNumber

/-! ## What each call does -/

/-- No begin and no block has moved the counters. -/
structure CountersKept (d d' : UdsDownload ω) : Prop where
  callbacks : d'.callbacks = d.callbacks
  imageLength : d'.metadata.imageLength = d.metadata.imageLength
  receivedLength : d'.metadata.receivedLength = d.metadata.receivedLength
  expectedBlock : d'.expectedBlock = d.expectedBlock
  crc32 : d'.crc32 = d.crc32
  active : Active d' → Active d

/-- A call that does not complete the download either. -/
structure Passive (d d' : UdsDownload ω) : Prop extends CountersKept d d' where
  complete : d'.state = .complete → d.state = .complete

theorem Passive.refl (d : UdsDownload ω) : Passive d d := ⟨⟨rfl, rfl, rfl, rfl, rfl, id⟩, id⟩

theorem abort_passive (d : UdsDownload ω) (w : ω) : Passive d (udsDownloadAbort d w).1 :=
  ⟨⟨rfl, rfl, rfl, rfl, rfl, fun h => ((abort_quiet d w).active h).1⟩, fun h => by cases h⟩

theorem pollErase_passive (d : UdsDownload ω) (now : UInt32) (w : ω) :
    Passive d (udsDownloadPollErase d now w).2.1 := by
  unfold udsDownloadPollErase
  split
  next => exact .refl d
  next =>
    split
    next => exact .refl d
    next hstate =>
      split
      next => exact abort_passive ..
      next =>
        dsimp only
        split
        next => exact ⟨⟨rfl, rfl, rfl, rfl, rfl, fun _ => .inl (not_not.mp hstate)⟩,
          fun h => by cases h⟩
        next => exact .refl d

theorem tick_passive (d : UdsDownload ω) (now : UInt32) (w : ω) :
    Passive d (udsDownloadTick d now w).2.1 := by
  unfold udsDownloadTick
  split
  next => exact .refl d
  next =>
    split
    next => exact abort_passive ..
    next => exact .refl d

theorem finish_kept (d : UdsDownload ω) (expected : UInt32) (has : Bool) (now : UInt32) (w : ω) :
    CountersKept d (udsDownloadFinish d expected has now w).2.1 := by
  refine ⟨?_, ?_, ?_, ?_, ?_, fun h => ((finish_quiet d expected has now w).active h).1⟩ <;>
  · unfold udsDownloadFinish
    split
    next => rfl
    next =>
      split
      next => rfl
      next =>
        split
        next => rfl
        next =>
          dsimp only
          split
          next => rfl
          next => split <;> rfl

/-- A write is refused, and moves no counter, or takes the block that comes next. -/
theorem write_outcome (d : UdsDownload ω) (block : UInt8) (data : Option Buf) (length : UInt16)
    (now : UInt32) (w : ω) :
    (udsDownloadWrite d block data length now w).1 ≠ .ok ∧
        Passive d (udsDownloadWrite d block data length now w).2.1 ∨
      (udsDownloadWrite d block data length now w).1 = .ok ∧
        ∃ buf, data = some buf ∧ BlockTaken d block length now ∧
          (udsDownloadWrite d block data length now w).2.1
            = blockProgrammed d (buf.slice 0 length.toNat) length now := by
  unfold udsDownloadWrite
  split
  next program data hprogram =>
    split
    next => exact .inl ⟨by simp, .refl d⟩
    next hready =>
      split
      next => exact .inl ⟨by simp, abort_passive ..⟩
      next hexpired =>
        split
        next => exact .inl ⟨by simp, .refl d⟩
        next hblock =>
          split
          next => exact .inl ⟨by simp, .refl d⟩
          next hfits =>
            split
            next => exact .inl ⟨by simp, .refl d⟩
            next haligned =>
              dsimp only
              split
              next => exact .inl ⟨by simp, .refl d⟩
              next =>
                obtain ⟨hzero, hready⟩ := not_or.mp hready
                obtain ⟨hlong, hstate⟩ := not_or.mp hready
                obtain ⟨hdone, hlength⟩ := not_or.mp haligned
                exact .inr ⟨rfl, data, rfl, ⟨not_not.mp hstate, ⟨hzero, UInt16.not_lt.mp hlong⟩,
                  eq_false_of_ne_true hexpired, not_not.mp hblock, UInt32.not_lt.mp hfits,
                  not_not.mp hdone, not_not.mp hlength⟩, rfl⟩
  next => exact .inl ⟨by simp, .refl d⟩

/-- What a finish that completes the download has found. -/
structure FinishPassed (d : UdsDownload ω) (expected : UInt32) (has : Bool) (w : ω) : Prop where
  state : d.state = .receiving
  length : d.metadata.receivedLength = d.metadata.imageLength
  crc : has = true → d.crc32 ^^^ 0xFFFFFFFF = expected
  verified : ∃ verifyImage, d.callbacks.verifyImage = some verifyImage ∧
    (verifyImage w { d.metadata with crcValid := true } expected has).1 = .ok

theorem finish_passed {d : UdsDownload ω} {expected : UInt32} {has : Bool} {now : UInt32} {w : ω}
    (h : (udsDownloadFinish d expected has now w).2.1.state = .complete)
    (hbefore : d.state ≠ .complete) : FinishPassed d expected has w := by
  unfold udsDownloadFinish at h
  split at h
  next => exact absurd h hbefore
  next verifyImage hverify =>
    split at h
    next => exact absurd h hbefore
    next hready =>
      split at h
      next => cases h
      next =>
        dsimp only at h
        split at h
        next => cases h
        next hcrc =>
          split at h
          next => cases h
          next hresult =>
            obtain ⟨hstate, hlength⟩ := not_or.mp hready
            replace hcrc := not_not.mp hcrc
            rw [hcrc] at hresult
            refine ⟨not_not.mp hstate, not_not.mp hlength, ?_, verifyImage, hverify,
              not_not.mp hresult⟩
            intro hhas
            rw [hhas] at hcrc
            simpa using hcrc

/-- Nothing but a finish completes a download. -/
theorem completes_at_finish {s : UdsDownload ω × ω} {call : DownloadCall}
    (h : (callDownload s call).2.1.state = .complete) (hbefore : s.1.state ≠ .complete) :
    ∃ expected has now, call = .finish expected has now := by
  cases call with
  | finish expected has now => exact ⟨expected, has, now, rfl⟩
  | begin address length now =>
    rcases (udsDownloadBegin_cases s.1 address length now s.2).1 with
      ⟨-, hsame⟩ | ⟨-, -, -, -, hbegun⟩
    · exact absurd (hsame ▸ h) hbefore
    · have hstate := hbegun ▸ h
      cases hstate
  | write block data length now =>
    rcases write_outcome s.1 block data length now s.2 with ⟨-, hpassive⟩ | ⟨-, buf, -, htaken, hnew⟩
    · exact absurd (hpassive.complete h) hbefore
    · have hstate : s.1.state = .complete := by
        have h' := hnew ▸ h
        exact h'
      exact absurd hstate hbefore
  | pollErase now => exact absurd ((pollErase_passive ..).complete h) hbefore
  | tick now => exact absurd ((tick_passive ..).complete h) hbefore
  | abort => cases h

theorem mark_refused {s : UdsDownload ω × ω} {call : DownloadCall}
    (h : (callDownload s call).1 ≠ .ok) : downloadMark s call = none := if_neg h

/-- A call moves no counter, or is a begin or a block that was accepted. -/
theorem callDownload_cases (s : UdsDownload ω × ω) (call : DownloadCall) :
    CountersKept s.1 (advanceDownload s call).1 ∧ downloadMark s call = none ∨
      (∃ address length now, length ≠ 0 ∧
        (advanceDownload s call).1 = beginDownload s.1 address length now ∧
        downloadMark s call = some (.began length)) ∨
      ∃ block buf length now, BlockTaken s.1 block length now ∧
        (advanceDownload s call).1 = blockProgrammed s.1 (Buf.slice buf 0 length.toNat) length now ∧
        downloadMark s call = some (.took block (buf.slice 0 length.toNat)) := by
  cases call with
  | begin address length now =>
    rcases (udsDownloadBegin_cases s.1 address length now s.2).1 with
      ⟨hresult, hsame⟩ | ⟨hresult, hvalid, -, -, hbegun⟩
    · refine .inl ⟨?_, mark_refused hresult⟩
      show CountersKept s.1 (udsDownloadBegin s.1 address length now s.2).2.1
      rw [hsame]
      exact (Passive.refl s.1).toCountersKept
    · refine .inr (.inl ⟨address, length, now, ?_, hbegun, if_pos hresult⟩)
      rintro rfl
      simp [validateDownloadRegion] at hvalid
  | write block data length now =>
    rcases write_outcome s.1 block data length now s.2 with
      ⟨hresult, hpassive⟩ | ⟨hresult, buf, rfl, htaken, hnew⟩
    · exact .inl ⟨hpassive.toCountersKept, mark_refused hresult⟩
    · exact .inr (.inr ⟨block, buf, length, now, htaken, hnew, if_pos hresult⟩)
  | pollErase now => exact .inl ⟨(pollErase_passive ..).toCountersKept, ite_self _⟩
  | finish expected has now => exact .inl ⟨finish_kept .., ite_self _⟩
  | tick now => exact .inl ⟨(tick_passive ..).toCountersKept, ite_self _⟩
  | abort => exact .inl ⟨(abort_passive ..).toCountersKept, ite_self _⟩

/-! ## The tie between the counters and the blocks -/

/-- The counters tell of the blocks since the last begin. -/
structure Streamed (d : UdsDownload ω) (i : Intake) : Prop where
  imageLength : d.metadata.imageLength = i.imageLength
  nonempty : i.imageLength ≠ 0
  received : d.metadata.receivedLength.toNat = i.bytes.length
  inside : d.metadata.receivedLength ≤ d.metadata.imageLength
  inOrder : InBlockOrder i
  expectedBlock : d.expectedBlock = blockNumber i.blocks.length
  crc32 : d.crc32 = crc32Update 0xFFFFFFFF i.bytes

theorem Streamed.kept {d d' : UdsDownload ω} {i : Intake} (h : Streamed d i)
    (hkept : CountersKept d d') : Streamed d' i := by
  obtain ⟨-, himage, hreceived, hblock, hcrc⟩ := hkept
  obtain ⟨imageLength, nonempty, received, inside, inOrder, expectedBlock, crc32⟩ := h
  rw [← himage] at imageLength inside
  rw [← hreceived] at received inside
  exact ⟨imageLength, nonempty, received, inside, inOrder, hblock.trans expectedBlock,
    hcrc.trans crc32⟩

theorem streamed_begin (d : UdsDownload ω) (address : UInt32) {length : UInt32} (now : UInt32)
    (hlength : length ≠ 0) : Streamed (beginDownload d address length now) ⟨length, []⟩ :=
  ⟨rfl, hlength, rfl, UInt32.zero_le, rfl, rfl, rfl⟩

theorem blockNumber_succ (k : Nat) : blockNumber k + 1 = blockNumber (k + 1) := by
  unfold blockNumber
  rw [UInt8.ofNat_add (k + 1)]
  rfl

theorem crc32Update_append (crc : UInt32) (xs ys : List UInt8) :
    crc32Update crc (xs ++ ys) = crc32Update (crc32Update crc xs) ys := List.foldl_append ..

theorem intake_bytes_concat (i : Intake) (block : UInt8) (bytes : List UInt8) :
    Intake.bytes { i with blocks := i.blocks ++ [(block, bytes)] } = i.bytes ++ bytes := by
  simp [Intake.bytes]

/-- The next block, under its number. -/
theorem InBlockOrder.concat {i : Intake} (h : InBlockOrder i) (bytes : List UInt8) :
    InBlockOrder { i with blocks := i.blocks ++ [(blockNumber i.blocks.length, bytes)] } := by
  unfold InBlockOrder at h ⊢
  simp [h, List.range_succ]

theorem Streamed.programmed {d : UdsDownload ω} {i : Intake} (h : Streamed d i) {block : UInt8}
    {length : UInt16} {now : UInt32} (htaken : BlockTaken d block length now)
    {bytes : List UInt8} (hbytes : bytes.length = length.toNat) :
    Streamed (blockProgrammed d bytes length now)
      { i with blocks := i.blocks ++ [(block, bytes)] } := by
  obtain ⟨hroom, hsum⟩ := htaken.room h.inside
  obtain rfl : block = blockNumber i.blocks.length := htaken.inSequence.trans h.expectedBlock
  refine ⟨h.imageLength, h.nonempty, ?_, ?_, h.inOrder.concat bytes, ?_, ?_⟩
  · rw [intake_bytes_concat, List.length_append, hbytes, ← h.received]
    exact hsum
  · show d.metadata.receivedLength + length.toUInt32 ≤ d.metadata.imageLength
    rw [UInt32.le_iff_toNat_le, hsum]
    exact hroom
  · show d.expectedBlock + 1 = _
    rw [h.expectedBlock, blockNumber_succ, List.length_append]
    rfl
  · show crc32Update d.crc32 bytes = _
    rw [h.crc32, intake_bytes_concat, crc32Update_append]

/-! ## Runs -/

theorem intake_began (marks : List DownloadMark) (length : UInt32) :
    intake (marks ++ [.began length]) = some ⟨length, []⟩ := by
  unfold intake
  rw [List.foldl_append]
  cases marks.foldl Intake.note none <;> rfl

theorem intake_took {marks : List DownloadMark} {i : Intake} (h : intake marks = some i)
    (block : UInt8) (bytes : List UInt8) :
    intake (marks ++ [.took block bytes])
      = some { i with blocks := i.blocks ++ [(block, bytes)] } := by
  unfold intake at h ⊢
  rw [List.foldl_append, h]
  rfl

/-- What the engine knows of the calls that led to it. -/
structure Tracked (callbacks : UdsDownloadCallbacks ω) (marks : List DownloadMark)
    (d : UdsDownload ω) : Prop where
  callbacks : d.callbacks = callbacks
  begun : Active d → ∃ i, intake marks = some i
  streamed : ∀ i, intake marks = some i → Streamed d i

theorem tracked_init (memory : UdsDownloadMemoryMap) (callbacks : UdsDownloadCallbacks ω) :
    Tracked callbacks [] (udsDownloadInit memory callbacks) :=
  ⟨rfl, fun h => by cases h <;> contradiction, fun i h => by cases h⟩

theorem tracked_step {callbacks : UdsDownloadCallbacks ω} {marks : List DownloadMark}
    {s : UdsDownload ω × ω} (h : Tracked callbacks marks s.1) (call : DownloadCall) :
    Tracked callbacks (marks ++ (downloadMark s call).toList) (advanceDownload s call).1 := by
  rcases callDownload_cases s call with ⟨hkept, hmark⟩ | ⟨address, length, now, hlength, hnew, hmark⟩ |
    ⟨block, buf, length, now, htaken, hnew, hmark⟩
  · rw [hmark, Option.toList_none, List.append_nil]
    exact ⟨hkept.callbacks.trans h.callbacks, fun hactive => h.begun (hkept.active hactive),
      fun i hi => (h.streamed i hi).kept hkept⟩
  · rw [hmark, hnew, Option.toList_some]
    refine ⟨h.callbacks, fun _ => ⟨_, intake_began marks length⟩, ?_⟩
    intro i hi
    obtain rfl := Option.some.inj ((intake_began marks length).symm.trans hi)
    exact streamed_begin s.1 address now hlength
  · rw [hmark, hnew, Option.toList_some]
    obtain ⟨i, hi⟩ := h.begun (.inr htaken.state)
    have hmarks := intake_took hi block (buf.slice 0 length.toNat)
    refine ⟨h.callbacks, fun _ => ⟨_, hmarks⟩, ?_⟩
    intro i' hi'
    obtain rfl := Option.some.inj (hmarks.symm.trans hi')
    exact (h.streamed i hi).programmed htaken (Buf.length_slice ..)

/-- The run of the calls, from the engine as it is initialised. -/
def downloadAfter (memory : UdsDownloadMemoryMap) (callbacks : UdsDownloadCallbacks ω) (w : ω)
    (calls : List DownloadCall) : UdsDownload ω × ω :=
  run advanceDownload (udsDownloadInit memory callbacks, w) calls

/-- What is seen of it. -/
def downloadMarks (memory : UdsDownloadMemoryMap) (callbacks : UdsDownloadCallbacks ω) (w : ω)
    (calls : List DownloadCall) : List DownloadMark :=
  observed advanceDownload downloadMark (udsDownloadInit memory callbacks, w) calls

theorem tracked_run (memory : UdsDownloadMemoryMap) (callbacks : UdsDownloadCallbacks ω) (w : ω)
    (calls : List DownloadCall) :
    Tracked callbacks (downloadMarks memory callbacks w calls)
      (downloadAfter memory callbacks w calls).1 := by
  have h0 := tracked_init memory callbacks
  refine Along.history (I := fun calls (s : UdsDownload ω × ω) =>
    Tracked callbacks (downloadMarks memory callbacks w calls) s.1) (by exact h0) ?_
    (along_true calls (udsDownloadInit memory callbacks, w))
  intro calls call h _
  show Tracked callbacks (observed _ _ _ _) _
  rw [observed_concat]
  exact tracked_step h call

/-- What is true of an image that has been received in full and found good. -/
structure Honest (d : UdsDownload ω) (i : Intake) (expected : UInt32) (has : Bool)
    (verifyImage : ω → UdsDownloadMetadata → UInt32 → Bool → UdsDownloadResult × ω) (w : ω) :
    Prop where
  length : i.bytes.length = i.imageLength.toNat
  inOrder : InBlockOrder i
  checksum : d.crc32 ^^^ 0xFFFFFFFF = bootCalcCrc32 i.bytes
  agreed : has = true → bootCalcCrc32 i.bytes = expected
  imageLength : d.metadata.imageLength = i.imageLength
  verified : (verifyImage w { d.metadata with crcValid := true } expected has).1 = .ok

/-- The streamed checksum of an image that is not empty is its checksum. -/
theorem Streamed.checksum {d : UdsDownload ω} {i : Intake} (h : Streamed d i)
    (hnonempty : i.bytes ≠ []) : d.crc32 ^^^ 0xFFFFFFFF = bootCalcCrc32 i.bytes := by
  have hlength : i.bytes.length ≠ 0 := fun hzero => hnonempty (List.eq_nil_of_length_eq_zero hzero)
  unfold bootCalcCrc32
  rw [if_neg hlength, h.crc32]
  generalize crc32Update 0xFFFFFFFF i.bytes = crc
  rw [← UInt32.xor_neg_one]
  rfl

theorem FinishPassed.honest {d : UdsDownload ω} {i : Intake} {expected : UInt32} {has : Bool}
    {w : ω} (h : FinishPassed d expected has w) (hstreamed : Streamed d i) :
    ∃ verifyImage, d.callbacks.verifyImage = some verifyImage ∧
      Honest d i expected has verifyImage w := by
  obtain ⟨-, hfull, hcrc, verifyImage, hsome, hverified⟩ := h
  have hlength : i.bytes.length = i.imageLength.toNat := by
    rw [← hstreamed.received, hfull, hstreamed.imageLength]
  have hnonempty : i.bytes ≠ [] := by
    intro hempty
    rw [hempty] at hlength
    exact hstreamed.nonempty (UInt32.toNat_inj.mp hlength.symm)
  have hchecksum := hstreamed.checksum hnonempty
  exact ⟨verifyImage, hsome, hlength, hstreamed.inOrder, hchecksum,
    fun hhas => hchecksum.symm.trans (hcrc hhas), hstreamed.imageLength, hverified⟩

/-- A call that completes a download is a finish of an image that has been received in full, in
block order, with its checksum, and verified; a block that is not accepted moves no counter. -/
theorem completion_honest (memory : UdsDownloadMemoryMap) (callbacks : UdsDownloadCallbacks ω)
    (w : ω) (calls : List DownloadCall) :
    let s := downloadAfter memory callbacks w calls
    (∀ call, s.1.state ≠ .complete → (callDownload s call).2.1.state = .complete →
      ∃ expected has now verifyImage i, call = .finish expected has now ∧
        callbacks.verifyImage = some verifyImage ∧
        intake (downloadMarks memory callbacks w calls) = some i ∧
        Honest s.1 i expected has verifyImage s.2) ∧
      ∀ block data length now,
        let (result, d, _) := udsDownloadWrite s.1 block data length now s.2
        result ≠ .ok → d.metadata.receivedLength = s.1.metadata.receivedLength ∧
          d.expectedBlock = s.1.expectedBlock ∧ d.crc32 = s.1.crc32 := by
  intro s
  constructor
  · intro call hbefore hcomplete
    obtain ⟨expected, has, now, rfl⟩ := completes_at_finish hcomplete hbefore
    have hpassed := finish_passed hcomplete hbefore
    have htracked := tracked_run memory callbacks w calls
    obtain ⟨i, hi⟩ := htracked.begun (.inr hpassed.state)
    obtain ⟨verifyImage, hverify, hhonest⟩ := hpassed.honest (htracked.streamed i hi)
    rw [htracked.callbacks] at hverify
    exact ⟨expected, has, now, verifyImage, i, rfl, hverify, hi, hhonest⟩
  · intro block data length now hresult
    rcases write_outcome s.1 block data length now s.2 with ⟨-, hpassive⟩ | ⟨hok, -⟩
    · exact ⟨hpassive.receivedLength, hpassive.expectedBlock, hpassive.crc32⟩
    · exact absurd hok hresult

/-- A flash that does everything it is asked. -/
def willingCallbacks : UdsDownloadCallbacks Unit where
  eraseStart := some fun w _ _ => (.ok, w)
  erasePoll := some fun w => (.ok, w)
  program := some fun w _ _ => (.ok, w)
  verifyImage := some fun w _ _ _ => (.ok, w)
  abort := none
  watchdogKick := none

-- Two blocks, the second sent twice; the checksum is the one of all four bytes.
example :
    (downloadAfter ⟨⟨0, 4096⟩, ⟨0, 0⟩, ⟨0, 0⟩, ⟨0, 0⟩, ⟨0, 0⟩, 2, 2, 256, true⟩ willingCallbacks ()
      [.begin 0 4 0, .pollErase 0, .write 1 (some (Buf.ofList [1, 2])) 2 0,
        .write 2 (some (Buf.ofList [3, 4])) 2 0, .write 2 (some (Buf.ofList [3, 4])) 2 0,
        .finish 0xB63CFBCD true 0]).1.state = .complete := by
  decide +kernel

end UdsIsoTp.Boot
