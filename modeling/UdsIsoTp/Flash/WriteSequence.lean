import UdsIsoTp.Flash.FlashFsm
import UdsIsoTp.Lib.Log
import UdsIsoTp.Lib.Run

/-!
# The order of flash writes

Whatever is asked of the flash state machine and whatever its drivers answer, the driver is asked
to write right after a request was accepted, and to write what that request brought
(`WriteFollowsRequest`). So a request is written once at most, and the writes come in the order of
the requests. Those that succeed lie end to end, from the address of the last write information to
the machine's current address (`Contiguous`); one that fails moves nothing (`write_sequence`).
-/

namespace UdsIsoTp.Flash

variable {ω : Type}

/-- The operations of the state machine. -/
inductive FlashCall where
  | setWriteInfo (memoryAddr memorySize : UInt32)
  | requestWrite (payload : Option Buf) (length : UInt16)
  | requestErase (addr : UInt32)
  | requestRangeErase (startAddr length sectorSize : UInt32)
  | stateClear
  | mainFunction

/-- The bytes of a write request. -/
def requested (payload : Option Buf) (length : UInt16) : List UInt8 :=
  match payload with
  | some payload => payload.slice 0 length.toNat
  | none => []

/-- A call, and a note of what began with it or was accepted. -/
def flashStep (s : FlashContext (Logged ω) × Logged ω) :
    FlashCall → FlashContext (Logged ω) × Logged ω
  | .setWriteInfo memoryAddr memorySize =>
    (flashSetWriteInfo s.1 memoryAddr memorySize, s.2.1, s.2.2 ++ [.begun memoryAddr])
  | .requestWrite payload length =>
    let (ok, ctx) := flashRequestWrite s.1 payload length
    (ctx, s.2.1, if ok then s.2.2 ++ [.accepted (requested payload length)] else s.2.2)
  | .requestErase addr => ((flashRequestErase s.1 addr).2, s.2)
  | .requestRangeErase startAddr length sectorSize =>
    ((flashRequestRangeErase s.1 startAddr length sectorSize).2, s.2)
  | .stateClear => (flashStateClear s.1, s.2)
  | .mainFunction => flashMainFunction s.1 s.2

/-- The module once it is initialised and has its drivers. -/
def poweredUp (write : FlashWriteFn ω) (erase : Option (FlashEraseFn ω)) (w : ω) :
    FlashContext (Logged ω) × Logged ω :=
  (flashSetHardwareInterface flashInit (some (notedWrite write)) (erase.map notedErase), w, [])

/-! ## Logs -/

/-- The address of the last write information, and what has happened since. -/
def lastBegun (log : List FlashEvent) : UInt32 × List FlashEvent :=
  log.foldl (fun s e => match e with
    | .begun addr => (addr, [])
    | e => (s.1, s.2 ++ [e])) (0, [])

/-- The writes that succeeded. -/
def succeeded (log : List FlashEvent) : List (UInt32 × List UInt8) :=
  log.filterMap fun
    | .wrote addr data true => some (addr, data)
    | _ => none

/-- The bytes of the accepted requests. -/
def requests (log : List FlashEvent) : List (List UInt8) :=
  log.filterMap fun
    | .accepted data => some data
    | _ => none

/-- Writes that lie end to end, modulo 2^32. -/
def Contiguous : UInt32 → List (UInt32 × List UInt8) → UInt32 → Prop
  | start, [], stop => start = stop
  | start, x :: rest, stop => x.1 = start ∧ Contiguous (start + UInt32.ofNat x.2.length) rest stop

/-- The driver is asked to write what was accepted just before. -/
def WriteFollowsRequest (before : List FlashEvent) : FlashEvent → Prop
  | .wrote _ data _ => ∃ earlier, before = earlier ++ [.accepted data]
  | _ => True

theorem contiguous_concat {start stop : UInt32} {l : List (UInt32 × List UInt8)}
    {x : UInt32 × List UInt8} (h : Contiguous start l x.1)
    (hstop : stop = x.1 + UInt32.ofNat x.2.length) : Contiguous start (l ++ [x]) stop := by
  induction l generalizing start with
  | nil =>
    have hstart : start = x.1 := h
    refine ⟨hstart.symm, ?_⟩
    rw [hstart, hstop]
    rfl
  | cons y l ih => exact ⟨h.1, ih h.2⟩

section Concat

variable (log : List FlashEvent)

theorem lastBegun_concat (e : FlashEvent) :
    lastBegun (log ++ [e]) = match e with
      | .begun addr => (addr, [])
      | e => ((lastBegun log).1, (lastBegun log).2 ++ [e]) := by
  rw [lastBegun, List.foldl_append]
  rfl

theorem succeeded_concat (e : FlashEvent) :
    succeeded (log ++ [e]) = succeeded log ++ match e with
      | .wrote addr data true => [(addr, data)]
      | _ => [] := by
  rw [succeeded, List.filterMap_append]
  congr 1
  rcases e with _ | _ | ⟨_, _, _ | _⟩ | _ <;> rfl

theorem requests_concat (e : FlashEvent) :
    requests (log ++ [e]) = requests log ++ match e with
      | .accepted data => [data]
      | _ => [] := by
  rw [requests, List.filterMap_append]
  congr 1
  cases e <;> rfl

end Concat

/-- Writes that follow their requests carry the bytes of these in order, each at most once. -/
theorem carried_in_order {log : List FlashEvent} (h : EachAfter WriteFollowsRequest log) :
    List.Sublist ((succeeded (lastBegun log).2).map Prod.snd) (requests (lastBegun log).2) := by
  -- on the length, as a write is taken together with the request before it
  induction hlength : log.length using Nat.strong_induction_on generalizing log with
  | _ n ih =>
    rcases List.eq_nil_or_concat log with rfl | ⟨log, e, rfl⟩
    · exact .slnil
    · rw [List.concat_eq_append] at h hlength ⊢
      obtain ⟨hlog, hfollows⟩ := eachAfter_concat.mp h
      rw [List.length_append, List.length_singleton] at hlength
      rw [lastBegun_concat]
      cases e with
      | begun addr => exact .slnil
      | accepted data =>
        dsimp only
        rw [succeeded_concat, requests_concat, List.append_nil]
        exact (ih _ (by omega) hlog rfl).trans (List.sublist_append_left ..)
      | erased addr ok =>
        dsimp only
        rw [succeeded_concat, requests_concat, List.append_nil, List.append_nil]
        exact ih _ (by omega) hlog rfl
      | wrote addr data ok =>
        -- the request is the event before, and what came before it is a shorter log
        obtain ⟨earlier, rfl⟩ := hfollows
        have hearlier := ih earlier.length
          (by rw [← hlength, List.length_append]; omega) (eachAfter_concat.mp hlog).1 rfl
        dsimp only
        rw [lastBegun_concat, succeeded_concat, requests_concat, succeeded_concat,
          requests_concat, List.append_nil, List.append_nil, List.map_append]
        refine hearlier.append ?_
        cases ok
        · exact List.nil_sublist _
        · exact .refl _

/-! ## The run -/

/-- What holds of the machine after the events `log`. -/
structure Sequenced (write : FlashWriteFn ω) (erase : Option (FlashEraseFn ω))
    (s : FlashContext (Logged ω) × Logged ω) : Prop where
  writer : s.1.writeFn = some (notedWrite write)
  eraser : s.1.eraseFn = erase.map notedErase
  follows : EachAfter WriteFollowsRequest s.2.2
  /-- A write is pending only right after its request. -/
  pending : s.1.state = .write → ∃ earlier,
    s.2.2 = earlier ++ [.accepted (s.1.writeData.slice 0 s.1.writeLength.toNat)]
  start : s.1.startAddr = (lastBegun s.2.2).1
  contiguous : Contiguous (lastBegun s.2.2).1 (succeeded (lastBegun s.2.2).2) s.1.curAddr

variable {write : FlashWriteFn ω} {erase : Option (FlashEraseFn ω)}
  {s : FlashContext (Logged ω) × Logged ω}

theorem poweredUp_sequenced (write : FlashWriteFn ω) (erase : Option (FlashEraseFn ω)) (w : ω) :
    Sequenced write erase (poweredUp write erase w) :=
  ⟨rfl, rfl, eachAfter_nil, fun h => FlashState.noConfusion h, rfl, rfl⟩

/-- An event that is neither a write nor the beginning of one leaves the coverage. -/
theorem Sequenced.keep (h : Sequenced write erase s) {ctx : FlashContext (Logged ω)} {w : ω}
    {e : FlashEvent} (hwriter : ctx.writeFn = s.1.writeFn) (heraser : ctx.eraseFn = s.1.eraseFn)
    (hstart : ctx.startAddr = s.1.startAddr) (hcur : ctx.curAddr = s.1.curAddr)
    (hevent : WriteFollowsRequest s.2.2 e)
    (hbegun : lastBegun (s.2.2 ++ [e]) = ((lastBegun s.2.2).1, (lastBegun s.2.2).2 ++ [e]))
    (hsucceeded : succeeded ((lastBegun s.2.2).2 ++ [e]) = succeeded (lastBegun s.2.2).2)
    (hpending : ctx.state = .write → ∃ earlier,
      s.2.2 ++ [e] = earlier ++ [.accepted (ctx.writeData.slice 0 ctx.writeLength.toNat)]) :
    Sequenced write erase (ctx, w, s.2.2 ++ [e]) := by
  refine ⟨hwriter.trans h.writer, heraser.trans h.eraser, eachAfter_concat.mpr ⟨h.follows, hevent⟩,
    hpending, ?_, ?_⟩
  · show ctx.startAddr = (lastBegun (s.2.2 ++ [e])).1
    rw [hstart, hbegun, h.start]
  · show Contiguous (lastBegun (s.2.2 ++ [e])).1 (succeeded (lastBegun (s.2.2 ++ [e])).2) ctx.curAddr
    rw [hbegun, hsucceeded, hcur]
    exact h.contiguous

/-- A call that is not noted keeps what it does not touch. -/
theorem Sequenced.quiet (h : Sequenced write erase s) {ctx : FlashContext (Logged ω)}
    (hwriter : ctx.writeFn = s.1.writeFn) (heraser : ctx.eraseFn = s.1.eraseFn)
    (hstart : ctx.startAddr = s.1.startAddr) (hcur : ctx.curAddr = s.1.curAddr)
    (hstate : ctx.state = .write → ctx = s.1) : Sequenced write erase (ctx, s.2) := by
  refine ⟨hwriter.trans h.writer, heraser.trans h.eraser, h.follows, fun hwrite => ?_,
    hstart.trans h.start, ?_⟩
  · have hsame := hstate hwrite
    subst hsame
    exact h.pending hwrite
  · show Contiguous _ _ ctx.curAddr
    rw [hcur]
    exact h.contiguous

theorem sequenced_setWriteInfo (h : Sequenced write erase s) (memoryAddr memorySize : UInt32) :
    Sequenced write erase (flashStep s (.setWriteInfo memoryAddr memorySize)) := by
  have hbegun : lastBegun (s.2.2 ++ [.begun memoryAddr]) = (memoryAddr, []) := lastBegun_concat ..
  refine ⟨h.writer, h.eraser, eachAfter_concat.mpr ⟨h.follows, trivial⟩,
    fun hwrite => FlashState.noConfusion hwrite, ?_, ?_⟩
  · show memoryAddr = (lastBegun (s.2.2 ++ [.begun memoryAddr])).1
    rw [hbegun]
  · show Contiguous (lastBegun (s.2.2 ++ [.begun memoryAddr])).1 _ memoryAddr
    rw [show (lastBegun (flashStep s (.setWriteInfo memoryAddr memorySize)).2.2) = (memoryAddr, [])
      from hbegun, hbegun]
    rfl

theorem sequenced_requestWrite (h : Sequenced write erase s) (payload : Option Buf)
    (length : UInt16) : Sequenced write erase (flashStep s (.requestWrite payload length)) := by
  unfold flashStep flashRequestWrite
  cases payload with
  | none => exact h.quiet rfl rfl rfl rfl fun _ => rfl
  | some payload =>
    dsimp only
    split
    next => exact h.quiet rfl rfl rfl rfl fun _ => rfl
    next =>
      split
      next => exact h.quiet rfl rfl rfl rfl fun _ => rfl
      next =>
        refine h.keep rfl rfl rfl rfl trivial (lastBegun_concat ..) ?_ fun _ => ⟨s.2.2, ?_⟩
        · exact (succeeded_concat ..).trans (List.append_nil _)
        · -- what is staged is what was requested
          show s.2.2 ++ [.accepted (payload.slice 0 length.toNat)] = _
          rw [Buf.slice_copy_self]

theorem sequenced_requestErase (h : Sequenced write erase s) (addr : UInt32) :
    Sequenced write erase (flashStep s (.requestErase addr)) := by
  unfold flashStep flashRequestErase
  dsimp only
  split
  next => exact h.quiet rfl rfl rfl rfl fun _ => rfl
  next => exact h.quiet rfl rfl rfl rfl fun hwrite => FlashState.noConfusion hwrite

theorem sequenced_requestRangeErase (h : Sequenced write erase s)
    (startAddr length sectorSize : UInt32) :
    Sequenced write erase (flashStep s (.requestRangeErase startAddr length sectorSize)) := by
  unfold flashStep flashRequestRangeErase
  dsimp only
  split
  next => exact h.quiet rfl rfl rfl rfl fun _ => rfl
  next =>
    split
    next => exact h.quiet rfl rfl rfl rfl fun _ => rfl
    next => exact h.quiet rfl rfl rfl rfl fun hwrite => FlashState.noConfusion hwrite

/-- One write: what is pending goes to the driver. -/
theorem flashMainFunction_write (hwriter : s.1.writeFn = some (notedWrite write))
    (hstate : s.1.state = .write) {data : List UInt8}
    (hdata : s.1.writeData.slice 0 s.1.writeLength.toNat = data) {ok : Bool} {w : ω}
    (hanswer : write s.2.1 s.1.curAddr data = (ok, w)) :
    flashMainFunction s.1 s.2 = ((if ok then { s.1 with
        curAddr := s.1.curAddr + s.1.writeLength.toUInt32
        writtenSize := s.1.writtenSize + s.1.writeLength.toUInt32
        state := .writeDone } else { s.1 with state := .writeFail }),
      w, s.2.2 ++ [.wrote s.1.curAddr data ok]) := by
  unfold flashMainFunction
  rw [hstate, hwriter, hdata]
  dsimp only [notedWrite]
  rw [hanswer, ← hwriter]
  cases ok <;> rfl

/-- What an erasure does to the machine, for the driver's answer `ok`. -/
def eraseStep (ctx : FlashContext ω) (ok : Bool) : FlashContext ω :=
  if ¬ok then { ctx with state := .eraseFail }
  else
    { ctx with
      rangeEraseCur := ctx.rangeEraseCur + ctx.rangeEraseSectorSize
      state := if ctx.rangeEraseEnd ≤ ctx.rangeEraseCur + ctx.rangeEraseSectorSize then .eraseDone
        else .erase }

theorem eraseStep_state (ctx : FlashContext ω) (ok : Bool) : (eraseStep ctx ok).state ≠ .write := by
  unfold eraseStep
  cases ok
  · exact fun h => FlashState.noConfusion h
  · show (if _ then FlashState.eraseDone else .erase) ≠ .write
    split
    next => exact fun h => FlashState.noConfusion h
    next => exact fun h => FlashState.noConfusion h

/-- What the driver says to an erasure. -/
def eraseAnswer (ctx : FlashContext ω) (w : ω) : Bool × ω :=
  match ctx.eraseFn with
  | some erase => erase w ctx.rangeEraseCur
  | none => (true, w)

theorem flashMainFunction_erase {ctx : FlashContext ω} (hstate : ctx.state = .erase) (w : ω) :
    flashMainFunction ctx w = (eraseStep ctx (eraseAnswer ctx w).1, (eraseAnswer ctx w).2) := by
  unfold flashMainFunction eraseStep
  rw [hstate]
  show (if ¬(eraseAnswer ctx w).1 then _ else _) = (if ¬(eraseAnswer ctx w).1 then _ else _, _)
  by_cases hok : (eraseAnswer ctx w).1 = true
  · rw [if_neg (not_not.mpr hok), if_neg (not_not.mpr hok)]
    rfl
  · rw [if_pos hok, if_pos hok]
    rfl

/-- One erasure: it is noted, if there is a driver to ask. -/
theorem eraseAnswer_noted (heraser : s.1.eraseFn = erase.map notedErase) :
    (eraseAnswer s.1 s.2).2 = s.2 ∨ (eraseAnswer s.1 s.2).2.2
      = s.2.2 ++ [.erased s.1.rangeEraseCur (eraseAnswer s.1 s.2).1] := by
  unfold eraseAnswer
  rw [heraser]
  cases erase with
  | none => exact .inl rfl
  | some erase => exact .inr rfl

theorem sequenced_write (h : Sequenced write erase s) (hstate : s.1.state = .write) :
    Sequenced write erase (flashMainFunction s.1 s.2) := by
  obtain ⟨earlier, hlog⟩ := h.pending hstate
  generalize hdata : s.1.writeData.slice 0 s.1.writeLength.toNat = data at hlog
  rcases hanswer : write s.2.1 s.1.curAddr data with ⟨ok, w⟩
  have hfollows : WriteFollowsRequest s.2.2 (.wrote s.1.curAddr data ok) := ⟨earlier, hlog⟩
  rw [flashMainFunction_write h.writer hstate hdata hanswer]
  cases ok with
  | false =>
    refine h.keep rfl rfl rfl rfl hfollows (lastBegun_concat ..) ?_
      fun hwrite => FlashState.noConfusion hwrite
    exact (succeeded_concat ..).trans (List.append_nil _)
  | true =>
    -- the piece begins at the current address and moves it on by its own length
    have hlength : UInt32.ofNat data.length = s.1.writeLength.toUInt32 := by
      rw [← hdata, Buf.length_slice]
      exact UInt32.toNat_inj.mp (by simp)
    refine ⟨h.writer, h.eraser, eachAfter_concat.mpr ⟨h.follows, hfollows⟩,
      fun hwrite => FlashState.noConfusion hwrite, ?_, ?_⟩
    · show s.1.startAddr = (lastBegun (s.2.2 ++ [.wrote s.1.curAddr data true])).1
      rw [lastBegun_concat, h.start]
    · show Contiguous (lastBegun (s.2.2 ++ [.wrote s.1.curAddr data true])).1 _
        (s.1.curAddr + s.1.writeLength.toUInt32)
      show Contiguous _ (succeeded (lastBegun (s.2.2 ++ [.wrote s.1.curAddr data true])).2) _
      rw [lastBegun_concat]
      dsimp only
      rw [succeeded_concat]
      exact contiguous_concat (x := (s.1.curAddr, data)) h.contiguous (by rw [hlength])

theorem sequenced_mainFunction (h : Sequenced write erase s) :
    Sequenced write erase (flashStep s .mainFunction) := by
  show Sequenced write erase (flashMainFunction s.1 s.2)
  by_cases hwrite : s.1.state = .write
  · exact sequenced_write h hwrite
  by_cases herase : s.1.state = .erase
  case neg =>
    -- in all the other states the call does nothing
    have hsteady : flashMainFunction s.1 s.2 = s := by
      unfold flashMainFunction
      rcases hstate : s.1.state with _ | _ | _ | _ | _ | _ | _ <;>
        first | rfl | exact absurd hstate hwrite | exact absurd hstate herase
    rw [hsteady]
    exact h
  case pos =>
    have hnoted := eraseAnswer_noted h.eraser
    rw [flashMainFunction_erase herase]
    generalize eraseAnswer s.1 s.2 = answer at hnoted
    obtain ⟨ok, left, log⟩ := answer
    rcases hnoted with hlog | hlog
    · have hsame : (left, log) = s.2 := hlog
      rw [hsame]
      refine h.quiet ?_ ?_ ?_ ?_ fun hstate => absurd hstate (eraseStep_state s.1 ok)
      all_goals cases ok <;> rfl
    · obtain rfl : log = s.2.2 ++ [.erased s.1.rangeEraseCur ok] := hlog
      refine h.keep ?_ ?_ ?_ ?_ trivial (lastBegun_concat ..)
        ((succeeded_concat ..).trans (List.append_nil _))
        fun hstate => absurd hstate (eraseStep_state s.1 ok)
      all_goals cases ok <;> rfl

theorem sequenced_step (h : Sequenced write erase s) (call : FlashCall) :
    Sequenced write erase (flashStep s call) := by
  cases call with
  | setWriteInfo memoryAddr memorySize => exact sequenced_setWriteInfo h memoryAddr memorySize
  | requestWrite payload length => exact sequenced_requestWrite h payload length
  | requestErase addr => exact sequenced_requestErase h addr
  | requestRangeErase startAddr length sectorSize =>
    exact sequenced_requestRangeErase h startAddr length sectorSize
  | stateClear => exact h.quiet rfl rfl rfl rfl fun hwrite => FlashState.noConfusion hwrite
  | mainFunction => exact sequenced_mainFunction h

/-- A call that has a write fail. -/
def Fails (write : FlashWriteFn ω) (s : FlashContext (Logged ω) × Logged ω) : Prop :=
  s.1.state = .write ∧
    (write s.2.1 s.1.curAddr (s.1.writeData.slice 0 s.1.writeLength.toNat)).1 = false

theorem failed_write_stays (h : Sequenced write erase s) (hfails : Fails write s) :
    (flashMainFunction s.1 s.2).1 = { s.1 with state := .writeFail } := by
  rcases hanswer : write s.2.1 s.1.curAddr (s.1.writeData.slice 0 s.1.writeLength.toNat)
    with ⟨ok, w⟩
  have hok := hfails.2
  rw [hanswer] at hok
  obtain rfl : ok = false := hok
  rw [flashMainFunction_write h.writer hfails.1 rfl hanswer]
  rfl

/-- After any calls, whatever the drivers have answered: each write that the driver was asked for
follows the acceptance of its request; since the last write information the writes that succeeded
lie end to end from its address to the current one, and carry what was requested, in order; and a
write that fails leaves all as it is but the state. -/
theorem write_sequence (write : FlashWriteFn ω) (erase : Option (FlashEraseFn ω)) (w : ω)
    (calls : List FlashCall) :
    let s := run flashStep (poweredUp write erase w) calls
    let since := lastBegun s.2.2
    EachAfter WriteFollowsRequest s.2.2 ∧
    s.1.startAddr = since.1 ∧ Contiguous s.1.startAddr (succeeded since.2) s.1.curAddr ∧
    List.Sublist ((succeeded since.2).map Prod.snd) (requests since.2) ∧
    (Fails write s → (flashStep s .mainFunction).1 = { s.1 with state := .writeFail }) := by
  have h : Sequenced write erase (run flashStep (poweredUp write erase w) calls) :=
    run_inv (I := Sequenced write erase) (fun _ call hs => sequenced_step hs call)
      (poweredUp_sequenced write erase w) calls
  refine ⟨h.follows, h.start, ?_, carried_in_order h.follows, failed_write_stays h⟩
  rw [h.start]
  exact h.contiguous

end UdsIsoTp.Flash
