import UdsIsoTp.Lib.Log
import UdsIsoTp.Lib.Run
import UdsIsoTp.Boot.DownloadSteps

/-!
# Where a download writes

Every call of the program callback lies in the region that the last accepted begin named,
right behind the bytes programmed since (`Confined`). That region is checked against the
memory map once, and `validateDownloadRegion_within` says what the check is worth: the
region keeps clear of the protected ones, but it lies inside the staging region only if its
address is not above the staging region's end. Above it, `end_exclusive - address` wraps and
passes for a large room.
-/

namespace UdsIsoTp.Boot

variable {ω : Type}

/-! ## Calls and events -/

/-- What a download has done that its driver could feel. -/
inductive DownloadEvent where
  /-- A begin was accepted. -/
  | accepted (address length : UInt32)
  /-- The program callback was called for this many bytes, and did it or not. -/
  | programmed (address : UInt32) (length : Nat) (done : Bool)
  deriving DecidableEq

/-- A world with the log of what has happened in it. -/
abbrev Recorded (ω : Type) := ω × List DownloadEvent

/-- An answer that leaves the log alone. -/
def aside {α : Type} (answer : α × ω) (log : List DownloadEvent) : α × Recorded ω :=
  (answer.1, answer.2, log)

/-- The callbacks, with a log of what is programmed. -/
def recordProgram (c : UdsDownloadCallbacks ω) : UdsDownloadCallbacks (Recorded ω) where
  eraseStart := c.eraseStart.map fun f w address length => aside (f w.1 address length) w.2
  erasePoll := c.erasePoll.map fun f w => aside (f w.1) w.2
  program := c.program.map fun f w address data =>
    ((f w.1 address data).1, (f w.1 address data).2,
      w.2 ++ [.programmed address data.length ((f w.1 address data).1 == .ok)])
  verifyImage := c.verifyImage.map fun f w metadata expected has =>
    aside (f w.1 metadata expected has) w.2
  abort := c.abort.map fun f w => (f w.1, w.2)
  watchdogKick := c.watchdogKick.map fun f w => (f w.1, w.2)

/-- One call, with what is recorded of it. -/
def downloadStep (s : UdsDownload (Recorded ω) × Recorded ω) :
    DownloadCall → UdsDownload (Recorded ω) × Recorded ω
  | .begin address length now =>
    let (result, d, w) := udsDownloadBegin s.1 address length now s.2
    (d, if result = .ok then (w.1, w.2 ++ [.accepted address length]) else w)
  | .pollErase now => (udsDownloadPollErase s.1 now s.2).2
  | .write block data length now => (udsDownloadWrite s.1 block data length now s.2).2
  | .finish expected has now => (udsDownloadFinish s.1 expected has now s.2).2
  | .tick now => (udsDownloadTick s.1 now s.2).2
  | .abort => udsDownloadAbort s.1 s.2

/-- A download that has just been initialised, with an empty record. -/
def downloadStart (memory : UdsDownloadMemoryMap) (callbacks : UdsDownloadCallbacks ω) (w : ω) :
    UdsDownload (Recorded ω) × Recorded ω :=
  (udsDownloadInit memory (recordProgram callbacks), w, [])

/-! ## What is promised -/

/-- The addresses from `address` on lie in the region. -/
def RangeWithin (address length : Nat) (region : UdsDownloadRegion) : Prop :=
  region.start.toNat ≤ address ∧ address + length ≤ region.endExclusive.toNat

/-- None of them does. -/
def RangeApart (address length : Nat) (region : UdsDownloadRegion) : Prop :=
  address + length ≤ region.start.toNat ∨ region.endExclusive.toNat ≤ address

/-- A range that may be programmed. -/
structure Permitted (map : UdsDownloadMemoryMap) (address length : Nat) : Prop where
  staging : RangeWithin address length map.stagingImage
  bootloader : RangeApart address length map.bootloader
  activeApplication : RangeApart address length map.activeApplication
  persistentStorage : RangeApart address length map.persistentStorage
  diagnosticStorage : RangeApart address length map.diagnosticStorage

/-- The begin in force: its region, and the bytes programmed since. -/
structure InForce where
  address : Nat
  length : Nat
  written : Nat

/-- What an event changes of the range in force. -/
def InForce.note : Option InForce → DownloadEvent → Option InForce
  | _, .accepted address length => some ⟨address.toNat, length.toNat, 0⟩
  | some r, .programmed _ length true => some { r with written := r.written + length }
  | r, _ => r

/-- The range in force after the events of a record. -/
def inForce (log : List DownloadEvent) : Option InForce := log.foldl InForce.note none

/-- The 32-bit arithmetic of an accepted begin is exact, and no remainder is taken by zero. -/
structure BeginExact (map : UdsDownloadMemoryMap) (address length : UInt32) : Prop where
  sum : address.toNat + length.toNat < 2 ^ 32
  room : address ≤ map.stagingImage.endExclusive
  eraseAlignment : map.eraseAlignment ≠ 0
  programAlignment : map.programAlignment ≠ 0

/-- So is that of a write: `image_length - received_length` and the remainders always,
the address and `received_length + length` once the length has been checked. -/
structure WriteExact (d : UdsDownload ω) (length : UInt16) : Prop where
  rest : d.metadata.receivedLength ≤ d.metadata.imageLength
  programAlignment : d.memory.programAlignment ≠ 0
  address : d.metadata.imageAddress.toNat + d.metadata.receivedLength.toNat < 2 ^ 32
  sum : length.toUInt32 ≤ d.metadata.imageLength - d.metadata.receivedLength →
    d.metadata.receivedLength.toNat + length.toNat < 2 ^ 32

/-- What an event owes to the map and to the events before it. -/
def Confined (map : UdsDownloadMemoryMap) (before : List DownloadEvent) : DownloadEvent → Prop
  | .accepted address length =>
    Permitted map address.toNat length.toNat ∧ BeginExact map address length
  | .programmed address length _ =>
    ∃ r, inForce before = some r ∧ address.toNat = r.address + r.written ∧
      address.toNat + length ≤ r.address + r.length ∧ Permitted map address.toNat length

/-- A begin whose region passes the checks does not name an address above the staging
region. -/
def StartsBelow (map : UdsDownloadMemoryMap) : DownloadCall → Prop
  | .begin address length _ =>
    validateDownloadRegion map address length = true → address ≤ map.stagingImage.endExclusive
  | _ => True

/-- The regions of a map end no earlier than they start. -/
structure RegionsOrdered (map : UdsDownloadMemoryMap) : Prop where
  stagingImage : map.stagingImage.start ≤ map.stagingImage.endExclusive
  bootloader : map.bootloader.start ≤ map.bootloader.endExclusive
  activeApplication : map.activeApplication.start ≤ map.activeApplication.endExclusive
  persistentStorage : map.persistentStorage.start ≤ map.persistentStorage.endExclusive
  diagnosticStorage : map.diagnosticStorage.start ≤ map.diagnosticStorage.endExclusive

/-! ## The checks -/

theorem rangeApart_of_overlaps {address length : UInt32} {region : UdsDownloadRegion}
    (hsum : address.toNat + length.toNat < 2 ^ 32)
    (h : overlaps ⟨address, address + length⟩ region = false) :
    RangeApart address.toNat length.toNat region := by
  have hend : (address + length).toNat = address.toNat + length.toNat := by
    rw [UInt32.toNat_add, Nat.mod_eq_of_lt hsum]
  unfold overlaps at h
  simp only [decide_eq_false_iff_not, not_and_or, UInt32.lt_iff_toNat_lt, hend, not_lt] at h
  exact h.symm

/-- What the check of a region is worth. -/
theorem validateDownloadRegion_within {map : UdsDownloadMemoryMap} {address length : UInt32}
    (h : validateDownloadRegion map address length = true)
    (hbelow : address ≤ map.stagingImage.endExclusive) :
    address.toNat + length.toNat < 2 ^ 32 ∧ Permitted map address.toNat length.toNat := by
  unfold validateDownloadRegion at h
  dsimp only at h
  split at h
  next => exact Bool.noConfusion h
  next hlength =>
    split at h
    next => exact Bool.noConfusion h
    next hinside =>
      replace hinside := not_not.mp hinside
      obtain ⟨hzero, hwrap⟩ := not_or.mp hlength
      have hsum : address.toNat + length.toNat < 2 ^ 32 := by
        by_contra hover
        apply hwrap
        rw [UInt32.lt_iff_toNat_lt, UInt32.toNat_add]
        have := address.toNat_lt
        have := length.toNat_lt
        omega
      simp only [Bool.and_eq_true, Bool.not_eq_true'] at h
      obtain ⟨⟨⟨hboot, hactive⟩, hpersistent⟩, hdiagnostic⟩ := h
      refine ⟨hsum, ?_, rangeApart_of_overlaps hsum hboot, rangeApart_of_overlaps hsum hactive,
        rangeApart_of_overlaps hsum hpersistent, rangeApart_of_overlaps hsum hdiagnostic⟩
      unfold rangeInside at hinside
      split at hinside
      next => exact Bool.noConfusion hinside
      next hstart =>
        obtain ⟨-, hstart⟩ := not_or.mp hstart
        obtain ⟨hstart, -⟩ := not_or.mp hstart
        have hroom := of_decide_eq_true hinside
        rw [UInt32.le_iff_toNat_le, UInt32.toNat_sub_of_le _ _ hbelow] at hroom
        rw [UInt32.le_iff_toNat_le] at hbelow
        exact ⟨UInt32.not_lt.mp hstart, by omega⟩

/-- Part of a range that may be programmed may be programmed. -/
theorem Permitted.part {map : UdsDownloadMemoryMap} {address length a n : Nat}
    (h : Permitted map address length) (hlow : address ≤ a) (hhigh : a + n ≤ address + length) :
    Permitted map a n := by
  obtain ⟨hstaging, hboot, hactive, hpersistent, hdiagnostic⟩ := h
  unfold RangeWithin at hstaging
  unfold RangeApart at hboot hactive hpersistent hdiagnostic
  refine ⟨?_, ?_, ?_, ?_, ?_⟩
  · unfold RangeWithin
    omega
  all_goals
    unfold RangeApart
    omega

/-! ## The log -/

theorem inForce_accepted (log : List DownloadEvent) (address length : UInt32) :
    inForce (log ++ [.accepted address length]) = some ⟨address.toNat, length.toNat, 0⟩ := by
  unfold inForce
  rw [List.foldl_append]
  cases log.foldl InForce.note none <;> rfl

theorem inForce_programmed {log : List DownloadEvent} {r : InForce} (h : inForce log = some r)
    (address : UInt32) (length : Nat) (done : Bool) :
    inForce (log ++ [.programmed address length done])
      = some (if done then { r with written := r.written + length } else r) := by
  unfold inForce at h ⊢
  rw [List.foldl_append, h]
  cases done <;> rfl

theorem notify_log (callback : Option (ω → ω)) (w : Recorded ω) :
    (notify (callback.map fun f w => (f w.1, w.2)) w).2 = w.2 := by
  cases callback <;> rfl

/-! ## The invariant -/

/-- The download and the log tell the same of the region in force. -/
structure Underway (d : UdsDownload (Recorded ω)) (log : List DownloadEvent) : Prop where
  force : inForce log = some ⟨d.metadata.imageAddress.toNat, d.metadata.imageLength.toNat,
    d.metadata.receivedLength.toNat⟩
  permitted : Permitted d.memory d.metadata.imageAddress.toNat d.metadata.imageLength.toNat
  sized : Sized d

/-- What a run keeps: the map, the drivers, the record, and what a download under way still owes. -/
structure Confines (map : UdsDownloadMemoryMap) (callbacks : UdsDownloadCallbacks ω)
    (s : UdsDownload (Recorded ω) × Recorded ω) : Prop where
  memory : s.1.memory = map
  callbacks : s.1.callbacks = recordProgram callbacks
  log : EachAfter (Confined map) s.2.2
  underway : Active s.1 → Underway s.1 s.2.2

section Steps

variable {map : UdsDownloadMemoryMap} {callbacks : UdsDownloadCallbacks ω}
  {d : UdsDownload (Recorded ω)} {w : Recorded ω}

/-- A call that programs nothing. -/
theorem Confines.quiet {d' : UdsDownload (Recorded ω)} {w' : Recorded ω}
    (h : Confines map callbacks (d, w)) (hquiet : Quiet d d') (hlog : w'.2 = w.2) :
    Confines map callbacks (d', w') := by
  refine ⟨hquiet.memory.trans h.memory, hquiet.callbacks.trans h.callbacks, ?_, ?_⟩
  · show EachAfter (Confined map) w'.2
    rw [hlog]
    exact h.log
  · intro hactive
    obtain ⟨hbefore, hmetadata⟩ := hquiet.active hactive
    obtain ⟨force, permitted, received, sum, programAlignment⟩ := h.underway hbefore
    rw [show (d', w').2.2 = w.2 from hlog]
    rw [← hmetadata] at force received sum permitted
    rw [← hquiet.memory] at permitted programAlignment
    exact ⟨force, permitted, received, sum, programAlignment⟩

theorem abort_log (h : Confines map callbacks (d, w)) : (udsDownloadAbort d w).2.2 = w.2 := by
  unfold udsDownloadAbort
  rw [show d.callbacks = _ from h.callbacks]
  exact notify_log ..

theorem kick_log (h : Confines map callbacks (d, w)) (w' : Recorded ω) :
    (notify d.callbacks.watchdogKick w').2 = w'.2 := by
  rw [show d.callbacks = _ from h.callbacks]
  exact notify_log ..

theorem begin_log (h : Confines map callbacks (d, w)) (address length now : UInt32) :
    (udsDownloadBegin d address length now w).2.2.2 = w.2 := by
  rcases (udsDownloadBegin_cases d address length now w).2 with ⟨-, hsame⟩ | ⟨f, hf, -, hsame⟩
  · rw [hsame]
  · rw [show d.callbacks = _ from h.callbacks] at hf
    obtain ⟨g, -, rfl⟩ := Option.map_eq_some_iff.mp hf
    rw [hsame]
    rfl

theorem pollErase_log (h : Confines map callbacks (d, w)) (now : UInt32) :
    (udsDownloadPollErase d now w).2.2.2 = w.2 := by
  unfold udsDownloadPollErase
  split
  next => rfl
  next erasePoll hpoll =>
    have hlog : (erasePoll (notify d.callbacks.watchdogKick w)).2.2 = w.2 := by
      rw [show d.callbacks = _ from h.callbacks] at hpoll
      obtain ⟨g, -, rfl⟩ := Option.map_eq_some_iff.mp hpoll
      exact kick_log h w
    split
    next => rfl
    next =>
      split
      next => exact abort_log h
      next =>
        dsimp only
        split
        next => exact hlog
        next => exact hlog

theorem finish_log (h : Confines map callbacks (d, w)) (expected : UInt32) (has : Bool)
    (now : UInt32) : (udsDownloadFinish d expected has now w).2.2.2 = w.2 := by
  have habort : ∀ w' : Recorded ω, (notify d.callbacks.abort w').2 = w'.2 := by
    intro w'
    rw [show d.callbacks = _ from h.callbacks]
    exact notify_log ..
  unfold udsDownloadFinish
  split
  next => rfl
  next verifyImage hverify =>
    have hlog : ∀ metadata, (verifyImage w metadata expected has).2.2 = w.2 := by
      intro metadata
      rw [show d.callbacks = _ from h.callbacks] at hverify
      obtain ⟨g, -, rfl⟩ := Option.map_eq_some_iff.mp hverify
      rfl
    split
    next => rfl
    next =>
      split
      next => exact abort_log h
      next =>
        dsimp only
        split
        next => exact habort w
        next =>
          split
          next => exact (habort _).trans (hlog _)
          next => exact hlog _

theorem tick_log (h : Confines map callbacks (d, w)) (now : UInt32) :
    (udsDownloadTick d now w).2.2.2 = w.2 := by
  unfold udsDownloadTick
  split
  next => rfl
  next =>
    split
    next => exact abort_log h
    next => exact kick_log h w

theorem confines_begin (h : Confines map callbacks (d, w)) (address length now : UInt32)
    (hbelow : StartsBelow map (.begin address length now)) :
    Confines map callbacks (downloadStep (d, w) (.begin address length now)) := by
  have hmemory : d.memory = map := h.memory
  have hout := (udsDownloadBegin_cases d address length now w).1
  have hlog := begin_log h address length now
  unfold downloadStep
  dsimp only
  generalize udsDownloadBegin d address length now w = out at hout hlog ⊢
  rcases hout with ⟨hresult, hd⟩ | ⟨hresult, hvalid, herase, hprogram, hd⟩
  · rw [if_neg hresult, hd]
    exact h.quiet (.refl d) hlog
  · rw [hmemory] at hvalid herase hprogram
    obtain ⟨hsum, hpermitted⟩ := validateDownloadRegion_within hvalid (hbelow hvalid)
    rw [if_pos hresult, hd, hlog]
    refine ⟨hmemory, h.callbacks, eachAfter_concat.mpr ⟨h.log, hpermitted, ?_⟩, fun _ => ?_⟩
    · exact ⟨hsum, hbelow hvalid, herase, hprogram⟩
    · refine ⟨inForce_accepted .., ?_, UInt32.zero_le, hsum, ?_⟩
      · show Permitted d.memory _ _
        rw [hmemory]
        exact hpermitted
      · show d.memory.programAlignment ≠ 0
        rw [hmemory]
        exact hprogram

/-- The entry that a write adds to the log. -/
def blockEvent (d : UdsDownload (Recorded ω)) (bytes : List UInt8) (done : Bool) : DownloadEvent :=
  .programmed (blockAddress d) bytes.length done

theorem block_confined (h : Confines map callbacks (d, w)) {block : UInt8} {length : UInt16}
    {now : UInt32} (htaken : BlockTaken d block length now) {bytes : List UInt8}
    (hbytes : bytes.length = length.toNat) (done : Bool) :
    EachAfter (Confined map) (w.2 ++ [blockEvent d bytes done]) := by
  have hunderway : Underway d w.2 := h.underway (.inr htaken.state)
  obtain ⟨hroom, haddress, -⟩ := htaken.exact hunderway.sized
  have hpermitted := hunderway.permitted
  rw [show d.memory = map from h.memory] at hpermitted
  refine eachAfter_concat.mpr ⟨h.log, _, hunderway.force, haddress, ?_, ?_⟩
  · show _ ≤ d.metadata.imageAddress.toNat + d.metadata.imageLength.toNat
    omega
  · exact hpermitted.part (by omega) (by omega)

/-- A block that could not be programmed leaves the download where it was. -/
theorem block_failed (h : Underway d w.2) (bytes : List UInt8) :
    Underway d (w.2 ++ [blockEvent d bytes false]) :=
  ⟨inForce_programmed h.force .., h.permitted, h.sized⟩

theorem block_done (h : Underway d w.2) {block : UInt8} {length : UInt16} {now : UInt32}
    (htaken : BlockTaken d block length now) {bytes : List UInt8}
    (hbytes : bytes.length = length.toNat) :
    Underway (blockProgrammed d bytes length now) (w.2 ++ [blockEvent d bytes true]) := by
  obtain ⟨-, -, hreceived⟩ := htaken.exact h.sized
  refine ⟨?_, h.permitted, h.sized.programmed htaken bytes⟩
  refine (inForce_programmed h.force ..).trans ?_
  show some _ = some (InForce.mk _ _ (d.metadata.receivedLength + length.toUInt32).toNat)
  rw [hreceived, if_pos rfl, hbytes]
  rfl

theorem confines_write (h : Confines map callbacks (d, w)) (block : UInt8) (data : Option Buf)
    (length : UInt16) (now : UInt32) :
    Confines map callbacks (udsDownloadWrite d block data length now w).2 := by
  obtain ⟨hquiet, hworld⟩ | ⟨program, buf, hprogram, -, htaken, hout⟩ :=
    udsDownloadWrite_cases d block data length now w
  · refine h.quiet hquiet ?_
    rcases hworld with hsame | habort
    · rw [hsame]
    · rw [habort]
      exact abort_log h
  · have hcallbacks : d.callbacks = _ := h.callbacks
    have hunderway : Underway d w.2 := h.underway (.inr htaken.state)
    have hbytes := Buf.length_slice buf 0 length.toNat
    rw [hcallbacks] at hprogram
    obtain ⟨g, -, rfl⟩ := Option.map_eq_some_iff.mp hprogram
    dsimp only at hout
    rcases hout with ⟨hresult, hout⟩ | ⟨hresult, hout⟩
    · rw [hout, beq_false_of_ne hresult]
      exact ⟨h.memory, hcallbacks, block_confined h htaken hbytes false,
        fun _ => block_failed hunderway _⟩
    · have hkick := kick_log h
      rw [hout, hresult]
      refine ⟨h.memory, hcallbacks, ?_, fun _ => ?_⟩
      · rw [hkick]
        exact block_confined h htaken hbytes true
      · rw [hkick]
        exact block_done hunderway htaken hbytes

end Steps

/-! ## Runs -/

theorem confines_step {map : UdsDownloadMemoryMap} {callbacks : UdsDownloadCallbacks ω}
    (s : UdsDownload (Recorded ω) × Recorded ω) (call : DownloadCall)
    (h : Confines map callbacks s) (hbelow : StartsBelow map call) :
    Confines map callbacks (downloadStep s call) := by
  cases call with
  | begin address length now => exact confines_begin h address length now hbelow
  | pollErase now => exact h.quiet (pollErase_quiet ..) (pollErase_log h now)
  | write block data length now => exact confines_write h block data length now
  | finish expected has now => exact h.quiet (finish_quiet ..) (finish_log h expected has now)
  | tick now => exact h.quiet (tick_quiet ..) (tick_log h now)
  | abort => exact h.quiet (abort_quiet s.1 s.2) (abort_log h)

theorem confines_start (map : UdsDownloadMemoryMap) (callbacks : UdsDownloadCallbacks ω) (w : ω) :
    Confines map callbacks (downloadStart map callbacks w) := by
  refine ⟨rfl, rfl, eachAfter_nil, fun hactive => ?_⟩
  rcases hactive with h | h <;> exact UdsDownloadState.noConfusion h

/-- **Confinement.** In a run in which no begin names an address above the staging region and
passes the checks all the same, every block is programmed inside the region of the begin in
force, right behind what has been programmed since, hence inside the staging region and clear
of the protected ones; and the 32-bit arithmetic of every accepted begin and of every write is
exact. -/
theorem download_confined (map : UdsDownloadMemoryMap) (callbacks : UdsDownloadCallbacks ω) (w : ω)
    (calls : List DownloadCall)
    (h : Along downloadStep (fun _ call => StartsBelow map call) (downloadStart map callbacks w)
      calls) :
    EachAfter (Confined map) (run downloadStep (downloadStart map callbacks w) calls).2.2 ∧
      ((run downloadStep (downloadStart map callbacks w) calls).1.state = .receiving →
        ∀ length, WriteExact (run downloadStep (downloadStart map callbacks w) calls).1 length) := by
  have hrun := h.inv confines_step (confines_start map callbacks w)
  refine ⟨hrun.log, fun hstate length => ?_⟩
  obtain ⟨-, -, hsized⟩ := hrun.underway (.inr hstate)
  have hreceived := UInt32.le_iff_toNat_le.mp hsized.received
  have hsum := hsized.sum
  refine ⟨hsized.received, hsized.programAlignment, by omega, fun hroom => ?_⟩
  rw [UInt32.le_iff_toNat_le, UInt32.toNat_sub_of_le _ _ hsized.received,
    UInt16.toNat_toUInt32] at hroom
  omega

/-! ### A map with room above the staging region -/

/-- 4 KiB of staging region between the bootloader and the rest. -/
def smallMap : UdsDownloadMemoryMap where
  stagingImage := ⟨0x1000, 0x2000⟩
  bootloader := ⟨0, 0x1000⟩
  activeApplication := ⟨0x8000, 0xC000⟩
  persistentStorage := ⟨0xC000, 0xD000⟩
  diagnosticStorage := ⟨0xD000, 0xE000⟩
  eraseAlignment := 8
  programAlignment := 8
  maxBlockLength := 256
  activationSupported := true

/-- A flash that does what it is told. -/
def obedientFlash : UdsDownloadCallbacks Unit where
  eraseStart := some fun _ _ _ => (.ok, ())
  erasePoll := some fun _ => (.ok, ())
  program := some fun _ _ _ => (.ok, ())
  verifyImage := some fun _ _ _ _ => (.ok, ())
  abort := none
  watchdogKick := none

/-- A download of one block. -/
def oneBlock (address : UInt32) : List DownloadCall :=
  [.begin address 0x100 0, .pollErase 0, .write 1 (some fun _ => 0) 8 0]

theorem download_confined_small :
    (run downloadStep (downloadStart smallMap obedientFlash ()) (oneBlock 0x1000)).2.2
        = [.accepted 0x1000 0x100, .programmed 0x1000 8 true] ∧
      EachAfter (Confined smallMap)
        (run downloadStep (downloadStart smallMap obedientFlash ()) (oneBlock 0x1000)).2.2 := by
  refine ⟨by decide +kernel, (download_confined smallMap obedientFlash () _ ?_).1⟩
  exact ⟨fun _ => by decide, trivial, trivial, trivial⟩

/-- A begin above the staging region is accepted, and the block goes there. -/
theorem download_escapes : RegionsOrdered smallMap ∧
    ¬EachAfter (Confined smallMap)
      (run downloadStep (downloadStart smallMap obedientFlash ()) (oneBlock 0x3000)).2.2 := by
  refine ⟨⟨by decide, by decide, by decide, by decide, by decide⟩, fun h => ?_⟩
  have hlog : (run downloadStep (downloadStart smallMap obedientFlash ()) (oneBlock 0x3000)).2.2
      = [.accepted 0x3000 0x100, .programmed 0x3000 8 true] := by decide +kernel
  obtain ⟨r, -, -, -, hpermitted⟩ := h [.accepted 0x3000 0x100] _ [] hlog
  exact absurd hpermitted.staging.2 (by decide)

end UdsIsoTp.Boot
