import UdsIsoTp.IsoTp.Tx
import UdsIsoTp.Lib.Log
import UdsIsoTp.Lib.Run

/-!
# The transmitter is safe against any peer

Whatever flow control frames arrive and whenever the caller polls, the transmitter
sends only what it was told to send, at the pace it was granted.

The statement is about the log of a run: the clear-to-sends and WAITs that were
accepted and the consecutive frames that were handed out, in order. `Allowed` says
when an event may follow what is already in the log; `TxInv` ties the log to the
transmitter's counters and deadlines, and `txStep_inv` keeps it through the effects
of the three calls. Times are natural numbers here, the code sees them modulo 2^32.
-/

namespace UdsIsoTp.IsoTp

variable {ω : Type}

/-- What a run shows: the accepted flow control frames and the consecutive frames. -/
inductive TxEvent where
  | cts (blockSize stMin : UInt8)
  | wait
  | consecutive (frame : IsoTpCanFrame) (time : Nat)

/-- The event is a request to wait. -/
def TxEvent.isWait : TxEvent → Bool
  | .wait => true
  | _ => false

/-- The frame that the event puts on the bus. -/
def TxEvent.frame? : TxEvent → Option IsoTpCanFrame
  | .consecutive frame _ => some frame
  | _ => none

/-- The consecutive frames of a log. -/
def consecutiveFrames (log : List TxEvent) : List IsoTpCanFrame := log.filterMap TxEvent.frame?

/-- The data of a first frame followed by that of the consecutive frames. -/
def sentBytes (first : List UInt8) (log : List TxEvent) : List UInt8 :=
  first ++ (consecutiveFrames log).flatMap cfData

/-- The separation time a flow control frame asks for, in microseconds: 0 to 127 ms,
or 100 to 900 µs; every other value asks for the longest. -/
def stMinMicros (value : UInt8) : Nat :=
  if value.toNat ≤ 0x7F then 1000 * value.toNat
  else if 0xF1 ≤ value.toNat ∧ value.toNat ≤ 0xF9 then 100 * (value.toNat - 0xF0)
  else 127000

/-- A tick of the clock that paces, in microseconds. -/
def tickMicros (config : IsoTpConfig ω) : Nat := if config.clockUs.isSome then 1 else 1000

/-- The consecutive frames belong to the block that the clear-to-send opened, and the
next one, at `time`, keeps to its size and its separation time. -/
structure InBlock (config : IsoTpConfig ω) (blockSize stMin : UInt8) (block : List TxEvent)
    (time : Nat) : Prop where
  consecutive : ∀ e ∈ block, e.frame?.isSome
  room : blockSize ≠ 0 → block.length < blockSize.toNat
  separated : ∀ frame previous, block.getLast? = some (.consecutive frame previous) →
    previous * tickMicros config + stMinMicros stMin ≤ time * tickMicros config

/-- The event may follow the log. -/
def Allowed (config : IsoTpConfig ω) (log : List TxEvent) : TxEvent → Prop
  | .cts _ _ => True
  | .wait => trailing TxEvent.isWait log < config.maxWaitFrames.toNat
  | .consecutive frame time =>
    frame.highNibble = 2 ∧ frame.lowNibble = ((consecutiveFrames log).length + 1) % 16 ∧
    ∃ before blockSize stMin block, log = before ++ .cts blockSize stMin :: block ∧
      InBlock config blockSize stMin block time

/-! ## Runs -/

/-- A transmitter with the times of the last call and the log of its run. -/
structure TxRun (ω : Type) where
  tx : IsoTpTx ω
  ms : Nat
  us : Nat
  log : List TxEvent

/-- A call on the transmitter at time `ms`, made when the world is `w`. -/
inductive TxCall (ω : Type) where
  | feed (frame : IsoTpCanFrame) (ms : Nat) (w : ω)
  | next (frame : IsoTpCanFrame) (ms : Nat) (w : ω)
  | tick (ms : Nat)

/-- The event of an accepted flow control frame. -/
def flowEvent (frame : IsoTpCanFrame) : TxEvent :=
  if frame.lowNibble = IsoTpFlowStatus.wait.value then .wait
  else .cts (frame.data 1) (frame.data 2)

/-- The time on the clock that paces. -/
def pacingTime (config : IsoTpConfig ω) (ms us : Nat) : Nat :=
  if config.clockUs.isSome then us else ms

/-- One call, with what is recorded of it. -/
def txStep (us : ω → Nat) (s : TxRun ω) : TxCall ω → TxRun ω
  | .feed frame ms w =>
    let out := isotpTxFeedFlowControl s.tx frame (tick32 ms) w
    { tx := out.2.1
      ms := ms
      us := us out.2.2
      log := if out.1 = .ok then s.log ++ [flowEvent frame] else s.log }
  | .next frame ms w =>
    let out := isotpTxNext s.tx (tick32 ms) frame w
    { tx := out.1.tx
      ms := ms
      us := us out.2
      log := if out.1.status = .txFrameReady then
          s.log ++ [.consecutive out.1.frame (pacingTime s.tx.config ms (us out.2))]
        else s.log }
  | .tick ms => { s with tx := (isotpTxTick s.tx (tick32 ms)).2, ms := ms }

/-- Neither clock runs backwards between calls. -/
def OnTime (us : ω → Nat) (s : TxRun ω) : TxCall ω → Prop
  | .feed _ ms w => s.ms ≤ ms ∧ s.us ≤ us w
  | .next _ ms w => s.ms ≤ ms ∧ s.us ≤ us w
  | .tick ms => s.ms ≤ ms

/-- A microsecond clock, when there is one, reads a time that does not run backwards. -/
def ClockReads (config : IsoTpConfig ω) (us : ω → Nat) : Prop :=
  ∀ clockUs, config.clockUs = some clockUs →
    ∀ w, (clockUs w).1 = tick32 (us (clockUs w).2) ∧ us w ≤ us (clockUs w).2

/-! ## Pacing -/

theorem toNat_stMinUs (value : UInt8) : (stMinUs value).toNat = stMinMicros value := by
  have hv := value.toNat_lt
  unfold stMinUs stMinMicros
  simp only [UInt8.le_iff_toNat_le, UInt8.toNat_ofNat]
  split
  next hlow =>
    simp only [UInt32.toNat_mul, UInt8.toNat_toUInt32, UInt32.toNat_ofNat]
    omega
  next hlow =>
    split
    next hmid =>
      simp only [UInt32.toNat_mul, UInt32.toNat_sub, UInt8.toNat_toUInt32, UInt32.toNat_ofNat]
      omega
    next => rfl

/-- The millisecond clock rounds a separation time up. -/
theorem stMinMicros_le_stMinMs (value : UInt8) :
    stMinMicros value ≤ 1000 * (stMinMs value).toNat := by
  have hv := value.toNat_lt
  unfold stMinMs stMinMicros
  simp only [UInt8.le_iff_toNat_le, UInt8.toNat_ofNat]
  split
  next hlow => simp
  next hlow =>
    split
    next hmid =>
      simp
      omega
    next => simp

theorem stMinMicros_le (value : UInt8) : stMinMicros value ≤ 127000 := by
  have hv := value.toNat_lt
  unfold stMinMicros
  split
  next => omega
  next => split <;> omega

theorem stMinMs_le (value : UInt8) : (stMinMs value).toNat ≤ 127 := by
  unfold stMinMs
  simp only [UInt8.le_iff_toNat_le, UInt8.toNat_ofNat]
  split
  next hlow => simpa using hlow
  next => split <;> simp

/-- The pacing deadline was set when a frame went out at `time`. -/
structure Armed (s : TxRun ω) (time : Nat) : Prop where
  past : time ≤ pacingTime s.tx.config s.ms s.us
  ms : s.tx.config.clockUs = none →
    s.tx.nextFrameMs = tick32 time + stMinMs s.tx.remoteStMin
  us : s.tx.config.clockUs.isSome → s.tx.nextFrameUs = tick32 time + s.tx.remoteStMinUs

theorem eq_tick32_toNat (x : UInt32) : x = tick32 x.toNat := by
  apply UInt32.toNat_inj.mp
  rw [toNat_tick32]
  exact (Nat.mod_eq_of_lt x.toNat_lt).symm

/-- When pacing has expired, the separation time has passed since the last frame. -/
theorem separated_of_paced {us : ω → Nat} {s : TxRun ω} {ms time : Nat} {w w₁ : ω}
    (hclock : ClockReads s.tx.config us) (hst : s.tx.remoteStMinUs = stMinUs s.tx.remoteStMin)
    (harmed : Armed s time) (hms : s.ms ≤ ms) (hus : s.us ≤ us w)
    (hpaced : txPacingExpired s.tx (tick32 ms) w = (true, w₁)) :
    time * tickMicros s.tx.config + stMinMicros s.tx.remoteStMin
      ≤ pacingTime s.tx.config ms (us w₁) * tickMicros s.tx.config := by
  have hpast := harmed.past
  unfold txPacingExpired at hpaced
  cases hc : s.tx.config.clockUs with
  | none =>
    simp only [hc] at hpaced
    obtain ⟨hexp, -⟩ := Prod.mk.inj hpaced
    have hround := stMinMicros_le_stMinMs s.tx.remoteStMin
    have hbound := stMinMs_le s.tx.remoteStMin
    simp only [pacingTime, tickMicros, hc, Option.isSome_none, Bool.false_eq_true,
      if_false] at hpast ⊢
    rw [harmed.ms hc, eq_tick32_toNat (stMinMs s.tx.remoteStMin)] at hexp
    have hle := le_of_expired (Nat.le_trans hpast hms) (by omega) hexp
    omega
  | some clockUs =>
    simp only [hc] at hpaced
    obtain ⟨hexp, rfl⟩ := Prod.mk.inj hpaced
    obtain ⟨hread, hmono⟩ := hclock clockUs hc w
    have hbound := stMinMicros_le s.tx.remoteStMin
    have hmicros := toNat_stMinUs s.tx.remoteStMin
    simp only [pacingTime, tickMicros, hc, Option.isSome_some, if_true, Nat.mul_one] at hpast ⊢
    rw [hread, harmed.us (by rw [hc]; rfl), hst,
      eq_tick32_toNat (stMinUs s.tx.remoteStMin)] at hexp
    have hle := le_of_expired (by omega) (by omega) hexp
    omega

/-- The clock has not run backwards across a pacing check. -/
theorem us_le_pacing {us : ω → Nat} {tx : IsoTpTx ω} (hclock : ClockReads tx.config us)
    (now : UInt32) (w : ω) : us w ≤ us (txPacingExpired tx now w).2 := by
  unfold txPacingExpired
  split
  next clockUs hc => exact (hclock clockUs hc w).2
  next => exact Nat.le_refl _

/-! ## The invariant -/

/-- The open block of a transmitter that sends. -/
def Sending (s : TxRun ω) : Prop :=
  ∃ before block, s.log = before ++ .cts s.tx.remoteBlockSize s.tx.remoteStMin :: block ∧
    (∀ e ∈ block, e.frame?.isSome) ∧
    (s.tx.remoteBlockSize ≠ 0 → s.tx.blockCount = block.length ∧
      (block.length < s.tx.remoteBlockSize.toNat ∨ s.tx.payloadLen ≤ s.tx.offset)) ∧
    ∀ frame time, block.getLast? = some (.consecutive frame time) → Armed s time

/-- What the fields of a busy transmitter say about the log behind it. -/
structure TxBusy (config : IsoTpConfig ω) (payload first : List UInt8) (s : TxRun ω) : Prop where
  config_eq : s.tx.config = config
  buffer : s.tx.buffer.slice 0 payload.length = payload
  payloadLen : s.tx.payloadLen = payload.length
  offset : s.tx.offset ≤ payload.length
  sequence : s.tx.nextSequence = ((consecutiveFrames s.log).length + 1) % 16
  waits : trailing TxEvent.isWait s.log ≤ s.tx.waitFrames
  sent : (sentBytes first s.log).take payload.length = payload.take s.tx.offset
  full : s.tx.offset < payload.length → (sentBytes first s.log).length = s.tx.offset
  stMin : s.tx.state = .sendConsecutive → s.tx.remoteStMinUs = stMinUs s.tx.remoteStMin
  sending : s.tx.state = .sendConsecutive → Sending s

/-- What a run keeps: every event allowed, the pieces a prefix of the payload, and where a busy
sender stands. -/
structure TxInv (config : IsoTpConfig ω) (payload first : List UInt8) (s : TxRun ω) : Prop where
  allowed : EachAfter (Allowed config) s.log
  pieces : (sentBytes first s.log).take payload.length <+: payload
  busy : s.tx.state ≠ .idle → TxBusy config payload first s

section steps

variable {config : IsoTpConfig ω} {payload first : List UInt8} {s : TxRun ω}

/-- A call that shows nothing and ends the transfer leaves the log as good as it was. -/
theorem TxInv.of_idle (h : TxInv config payload first s) {tx : IsoTpTx ω} {ms us : Nat}
    (hidle : tx.state = .idle) :
    TxInv config payload first { tx := tx, ms := ms, us := us, log := s.log } where
  allowed := h.allowed
  pieces := h.pieces
  busy hbusy := absurd hidle hbusy

/-- Time alone changes nothing. -/
theorem TxInv.of_later (h : TxInv config payload first s) {ms us : Nat} (hms : s.ms ≤ ms)
    (hus : s.us ≤ us) :
    TxInv config payload first { tx := s.tx, ms := ms, us := us, log := s.log } where
  allowed := h.allowed
  pieces := h.pieces
  busy hbusy :=
    have hb := h.busy hbusy
    { hb with
      sending := fun hstate => by
        obtain ⟨before, block, heq, hall, hcount, hlast⟩ := hb.sending hstate
        refine ⟨before, block, heq, hall, hcount, fun frame time hl => ?_⟩
        have harmed := hlast frame time hl
        refine ⟨Nat.le_trans harmed.past ?_, harmed.ms, harmed.us⟩
        unfold pacingTime
        split <;> assumption }

theorem consecutiveFrames_concat_none {log : List TxEvent} {e : TxEvent} (h : e.frame? = none) :
    consecutiveFrames (log ++ [e]) = consecutiveFrames log := by
  simp [consecutiveFrames, h]

theorem consecutiveFrames_concat (log : List TxEvent) (frame : IsoTpCanFrame) (time : Nat) :
    consecutiveFrames (log ++ [.consecutive frame time]) = consecutiveFrames log ++ [frame] := by
  simp [consecutiveFrames, TxEvent.frame?]

theorem sentBytes_concat_none {log : List TxEvent} {e : TxEvent} (h : e.frame? = none) :
    sentBytes first (log ++ [e]) = sentBytes first log := by
  rw [sentBytes, consecutiveFrames_concat_none h]
  rfl

theorem sentBytes_concat (log : List TxEvent) (frame : IsoTpCanFrame) (time : Nat) :
    sentBytes first (log ++ [.consecutive frame time]) = sentBytes first log ++ cfData frame := by
  simp [sentBytes, consecutiveFrames_concat]

/-- An accepted WAIT. -/
theorem TxInv.waited (h : TxInv config payload first s) {frame : IsoTpCanFrame} {ms us : Nat}
    {deadlineMs : UInt32} (hstate : AwaitsFlow s.tx)
    (hflow : frame.lowNibble = IsoTpFlowStatus.wait.value)
    (hfew : s.tx.waitFrames < s.tx.config.maxWaitFrames.toNat) :
    TxInv config payload first
      { tx := { s.tx with waitFrames := s.tx.waitFrames + 1, deadlineMs := deadlineMs }
        ms := ms
        us := us
        log := s.log ++ [flowEvent frame] } := by
  have hevent : flowEvent frame = .wait := if_pos hflow
  have hb := h.busy (by rcases hstate with hs | hs <;> rw [hs] <;> simp)
  have hnot : s.tx.state ≠ .sendConsecutive := by
    rcases hstate with hs | hs <;> rw [hs] <;> simp
  have hwaits := hb.waits
  rw [hevent]
  refine ⟨eachAfter_concat.mpr ⟨h.allowed, ?_⟩, ?_, fun _ => ?_⟩
  · show trailing TxEvent.isWait s.log < config.maxWaitFrames.toNat
    rw [← hb.config_eq]
    omega
  · rw [sentBytes_concat_none rfl]
    exact h.pieces
  · refine ⟨hb.config_eq, hb.buffer, hb.payloadLen, hb.offset, ?_, ?_, ?_, ?_,
      fun hs => absurd hs hnot, fun hs => absurd hs hnot⟩
    · rw [consecutiveFrames_concat_none rfl]
      exact hb.sequence
    · rw [trailing_concat_of_pos rfl]
      exact Nat.succ_le_succ hwaits
    · rw [sentBytes_concat_none rfl]
      exact hb.sent
    · rw [sentBytes_concat_none rfl]
      exact hb.full

/-- An accepted clear-to-send opens a block. -/
theorem TxInv.granted (h : TxInv config payload first s) {frame : IsoTpCanFrame} {ms us : Nat}
    {now nextFrameUs : UInt32} (hstate : AwaitsFlow s.tx)
    (hflow : frame.lowNibble = IsoTpFlowStatus.cts.value) :
    TxInv config payload first
      { tx := txGrant s.tx frame now nextFrameUs
        ms := ms
        us := us
        log := s.log ++ [flowEvent frame] } := by
  have hevent : flowEvent frame = .cts (frame.data 1) (frame.data 2) :=
    if_neg (by rw [hflow]; decide)
  have hb := h.busy (by rcases hstate with hs | hs <;> rw [hs] <;> simp)
  rw [hevent]
  refine ⟨eachAfter_concat.mpr ⟨h.allowed, trivial⟩, ?_, fun _ => ?_⟩
  · rw [sentBytes_concat_none rfl]
    exact h.pieces
  · refine ⟨hb.config_eq, hb.buffer, hb.payloadLen, hb.offset, ?_, ?_, ?_, ?_, fun _ => rfl,
      fun _ => ⟨s.log, [], rfl, by simp, fun hbs => ⟨rfl, .inl ?_⟩, by simp⟩⟩
    · rw [consecutiveFrames_concat_none rfl]
      exact hb.sequence
    · rw [trailing_concat_of_neg rfl]
      exact Nat.zero_le _
    · rw [sentBytes_concat_none rfl]
      exact hb.sent
    · rw [sentBytes_concat_none rfl]
      exact hb.full
    · have hpos : (frame.data 1).toNat ≠ 0 := fun h0 => hbs (UInt8.toNat_inj.mp h0)
      exact Nat.pos_of_ne_zero hpos

/-! ### A consecutive frame -/

/-- The bytes sent so far, after one more consecutive frame. -/
theorem sent_consecutive (hvalid : validTxConfig s.tx.config = true)
    (hb : TxBusy config payload first s) (hmore : s.tx.offset < payload.length) (time : Nat) :
    let log := s.log ++ [.consecutive (txConsecutiveFrame s.tx (txCopy s.tx)) time]
    (sentBytes first log).take payload.length = payload.take (s.tx.offset + txCopy s.tx) ∧
      (s.tx.offset + txCopy s.tx < payload.length →
        (sentBytes first log).length = s.tx.offset + txCopy s.tx) := by
  intro log
  have hdl := txDl_bounds hvalid
  have hcopy : txCopy s.tx = min (payload.length - s.tx.offset) (s.tx.config.txDl - 1) := by
    rw [txCopy, hb.payloadLen]
  obtain ⟨hlen, hdata⟩ := consecutiveFrame_data s.tx hvalid
    (show txCopy s.tx ≤ s.tx.config.txDl - 1 by omega)
  have hfull := hb.full hmore
  have hso : sentBytes first s.log = payload.take s.tx.offset := by
    rw [← hb.sent, List.take_of_length_le (by omega)]
  have hlog : sentBytes first log
      = payload.take s.tx.offset ++ cfData (txConsecutiveFrame s.tx (txCopy s.tx)) := by
    rw [sentBytes_concat, hso]
  have hbytes : s.tx.buffer.slice s.tx.offset (txCopy s.tx)
      = (payload.drop s.tx.offset).take (txCopy s.tx) := by
    conv_rhs => rw [← hb.buffer]
    rw [Buf.drop_slice, Buf.take_slice, Nat.zero_add, Nat.min_eq_left (by omega)]
  have htake : (cfData (txConsecutiveFrame s.tx (txCopy s.tx))).take
      (payload.length - s.tx.offset) = (payload.drop s.tx.offset).take (txCopy s.tx) := by
    rw [← hbytes, ← hdata, List.take_eq_take_iff, hlen]
    omega
  refine ⟨?_, fun hlt => ?_⟩
  · rw [hlog, List.take_append, List.length_take, Nat.min_eq_left hb.offset, htake,
      List.take_of_length_le (by simp), List.take_add]
  · rw [hlog, List.length_append, List.length_take, hlen]
    omega

/-- A consecutive frame that is due continues the open block. -/
theorem Sending.inBlock {us : ω → Nat} {ms : Nat} {w w₁ w₂ : ω}
    (hclock : ClockReads s.tx.config us) (hb : TxBusy config payload first s)
    (hstate : s.tx.state = .sendConsecutive) (hmore : s.tx.offset < s.tx.payloadLen)
    (hms : s.ms ≤ ms) (hus : s.us ≤ us w)
    (hpaced : txPacingExpired s.tx (tick32 ms) w = (true, w₁)) (hus₂ : us w₁ ≤ us w₂) :
    ∃ before blockSize stMin block, s.log = before ++ .cts blockSize stMin :: block ∧
      InBlock s.tx.config blockSize stMin block (pacingTime s.tx.config ms (us w₂)) := by
  obtain ⟨before, block, heq, hall, hcount, hlast⟩ := hb.sending hstate
  refine ⟨before, _, _, block, heq, hall, fun hbs => ?_, fun frame time hl => ?_⟩
  · rcases (hcount hbs).2 with hroom | hdone
    · exact hroom
    · omega
  · have hsep := separated_of_paced hclock (hb.stMin hstate) (hlast frame time hl) hms hus hpaced
    refine Nat.le_trans hsep (Nat.mul_le_mul_right _ ?_)
    unfold pacingTime
    split
    · exact hus₂
    · exact Nat.le_refl _

/-- The block goes on after the frame, unless the frame has filled it. -/
theorem Sending.sent {ms us : Nat} {nextFrameUs : UInt32}
    (hb : TxBusy config payload first s) (hstate : s.tx.state = .sendConsecutive)
    (hmore : s.tx.offset < s.tx.payloadLen) (hnotfull : ¬BlockFull s.tx (txCopy s.tx))
    (hus : s.tx.config.clockUs.isSome → nextFrameUs = tick32 us + s.tx.remoteStMinUs) :
    Sending
      { tx := txAdvance s.tx (tick32 ms) (txCopy s.tx) nextFrameUs
        ms := ms
        us := us
        log := s.log ++ [.consecutive (txConsecutiveFrame s.tx (txCopy s.tx))
          (pacingTime s.tx.config ms us)] } := by
  obtain ⟨before, block, heq, hall, hcount, -⟩ := hb.sending hstate
  have hbyte := s.tx.remoteBlockSize.toNat_lt
  refine ⟨before, block ++ [.consecutive (txConsecutiveFrame s.tx (txCopy s.tx))
    (pacingTime s.tx.config ms us)], ?_, ?_, fun hbs => ?_, fun frame time hl => ?_⟩
  · show s.log ++ _ = _
    rw [heq]
    simp [txAdvance]
  · intro e he
    rcases List.mem_append.mp he with h | h
    · exact hall e h
    · rw [List.mem_singleton.mp h]
      rfl
  · obtain ⟨hblock, hroom⟩ := hcount hbs
    have hroom' : block.length < s.tx.remoteBlockSize.toNat := by omega
    -- The count is a byte, and a block is too short for it to wrap.
    have hmod : (s.tx.blockCount + 1) % 256 = block.length + 1 := by
      rw [hblock]
      exact Nat.mod_eq_of_lt (by omega)
    refine ⟨?_, ?_⟩
    · show (if BlockFull s.tx (txCopy s.tx) then 0 else (s.tx.blockCount + 1) % 256) = _
      rw [if_neg hnotfull, hmod, List.length_append]
      rfl
    · show _ ∨ s.tx.payloadLen ≤ s.tx.offset + txCopy s.tx
      by_contra hno
      refine hnotfull ⟨hbs, ?_, ?_⟩
      all_goals
        simp only [List.length_append, List.length_singleton, txAdvance, not_or] at hno
        omega
  · rw [List.getLast?_concat, Option.some.injEq, TxEvent.consecutive.injEq] at hl
    obtain ⟨-, rfl⟩ := hl
    refine ⟨Nat.le_refl _, fun hnone => ?_, fun hsome => ?_⟩
    · have hnone' : s.tx.config.clockUs = none := hnone
      simp only [pacingTime, hnone', Option.isSome_none, Bool.false_eq_true, if_false]
      rfl
    · have hsome' : s.tx.config.clockUs.isSome = true := hsome
      simp only [pacingTime, hsome', if_true]
      exact hus hsome'

/-- A consecutive frame. -/
theorem TxInv.sent {us : ω → Nat} {ms : Nat} {w w₁ w₂ : ω} {nextFrameUs : UInt32}
    (hvalid : validTxConfig config = true) (hclock : ClockReads config us)
    (h : TxInv config payload first s) (hstate : s.tx.state = .sendConsecutive)
    (hmore : s.tx.offset < s.tx.payloadLen) (hms : s.ms ≤ ms) (hus : s.us ≤ us w)
    (hpaced : txPacingExpired s.tx (tick32 ms) w = (true, w₁))
    (hsome : ∀ clockUs, s.tx.config.clockUs = some clockUs →
      nextFrameUs = (clockUs w₁).1 + s.tx.remoteStMinUs ∧ w₂ = (clockUs w₁).2)
    (hnone : s.tx.config.clockUs = none → w₂ = w₁) :
    TxInv config payload first
      { tx := txAdvance s.tx (tick32 ms) (txCopy s.tx) nextFrameUs
        ms := ms
        us := us w₂
        log := s.log ++ [.consecutive (txConsecutiveFrame s.tx (txCopy s.tx))
          (pacingTime s.tx.config ms (us w₂))] } := by
  have hb := h.busy (by rw [hstate]; simp)
  have hmore' : s.tx.offset < payload.length := by rw [← hb.payloadLen]; exact hmore
  have hvalid' : validTxConfig s.tx.config = true := by rw [hb.config_eq]; exact hvalid
  have hclock' : ClockReads s.tx.config us := by rw [hb.config_eq]; exact hclock
  -- the clock is read once more for the next frame, and does not go back
  have hus₂ : us w₁ ≤ us w₂ := by
    cases hc : s.tx.config.clockUs with
    | none => rw [hnone hc]
    | some clockUs =>
      rw [(hsome clockUs hc).2]
      exact (hclock' clockUs hc w₁).2
  obtain ⟨hsent, hfull⟩ :=
    sent_consecutive hvalid' hb hmore' (pacingTime s.tx.config ms (us w₂))
  have hseq : s.tx.nextSequence < 16 := by
    rw [hb.sequence]
    exact Nat.mod_lt _ (by omega)
  obtain ⟨hhigh, hlow⟩ := consecutiveFrame_nibbles s.tx (txCopy s.tx) hseq
  refine ⟨eachAfter_concat.mpr ⟨h.allowed, hhigh, hlow.trans hb.sequence, ?_⟩, ?_, fun _ => ?_⟩
  · have hblock := Sending.inBlock hclock' hb hstate hmore hms hus hpaced hus₂
    rw [hb.config_eq] at hblock
    rw [hb.config_eq]
    exact hblock
  · rw [hsent]
    exact List.take_prefix ..
  · refine ⟨hb.config_eq, hb.buffer, hb.payloadLen, ?_, ?_, ?_, hsent, hfull, fun _ =>
      hb.stMin hstate, fun hs => ?_⟩
    · show s.tx.offset + txCopy s.tx ≤ payload.length
      rw [txCopy, hb.payloadLen]
      omega
    · show (s.tx.nextSequence + 1) % 16 = _
      rw [consecutiveFrames_concat, hb.sequence, List.length_append]
      simp only [List.length_singleton]
      omega
    · rw [trailing_concat_of_neg rfl]
      exact Nat.zero_le _
    · -- still sending, so the frame has not filled the block
      have hnotfull : ¬BlockFull s.tx (txCopy s.tx) := by
        intro hfull'
        have hwait : (txAdvance s.tx (tick32 ms) (txCopy s.tx) nextFrameUs).state
            = .waitBlockFlowControl := if_pos hfull'
        rw [hwait] at hs
        exact absurd hs (by simp)
      refine Sending.sent hb hstate hmore hnotfull fun hc => ?_
      obtain ⟨clockUs, hclockUs⟩ := Option.isSome_iff_exists.mp hc
      obtain ⟨hnext, hw₂⟩ := hsome clockUs hclockUs
      rw [hnext, (hclock' clockUs hclockUs w₁).1, hw₂]

/-- Every call made in time keeps the invariant. -/
theorem txStep_inv {us : ω → Nat} (hvalid : validTxConfig config = true)
    (hclock : ClockReads config us) {call : TxCall ω} (h : TxInv config payload first s)
    (htime : OnTime us s call) : TxInv config payload first (txStep us s call) := by
  cases call with
  | feed frame ms w =>
    obtain ⟨hms, hus⟩ := htime
    have heffect := feedFlowControl_effect s.tx frame (tick32 ms) w
    unfold txStep
    dsimp only
    generalize isotpTxFeedFlowControl s.tx frame (tick32 ms) w = out at heffect ⊢
    cases heffect with
    | refused hstatus =>
      rw [if_neg hstatus]
      exact h.of_later hms hus
    | aborted hstatus =>
      rw [if_neg hstatus]
      exact h.of_idle rfl
    | waited hstate hflow hfew =>
      rw [if_pos rfl]
      exact h.waited hstate hflow hfew
    | granted hstate hflow =>
      rw [if_pos rfl]
      exact h.granted hstate hflow
  | next frame ms w =>
    obtain ⟨hms, hus⟩ := htime
    have heffect := next_effect s.tx (tick32 ms) frame w
    unfold txStep
    dsimp only
    generalize isotpTxNext s.tx (tick32 ms) frame w = out at heffect ⊢
    cases heffect with
    | @kept w' hw =>
      -- Nothing is sent, but the clock may have been read and moved on.
      rw [if_neg (by simp)]
      by_cases hidle : s.tx.state = .idle
      · exact h.of_idle hidle
      · have hconfig := (h.busy hidle).config_eq
        refine h.of_later hms (Nat.le_trans hus ?_)
        rcases hw with rfl | rfl
        · exact Nat.le_refl _
        · exact us_le_pacing (by rw [hconfig]; exact hclock) _ _
    | ended hstatus =>
      rw [if_neg (by rcases hstatus with rfl | rfl <;> simp)]
      exact h.of_idle rfl
    | sent hstate hmore hpaced hsome hnone =>
      rw [if_pos rfl]
      exact h.sent hvalid hclock hstate hmore hms hus hpaced hsome hnone
  | tick ms =>
    unfold txStep isotpTxTick
    dsimp only
    split
    next hidle => exact h.of_idle hidle
    next =>
      split
      next => exact h.of_idle rfl
      next => exact h.of_later htime (Nat.le_refl _)

/-- A multi-frame transfer begins with the invariant. -/
theorem Started.inv {tx : IsoTpTx ω} {out : TxOut ω} (h : Started tx payload out) (ms us : Nat) :
    TxInv tx.config payload (ffData out.frame (ffHeader payload.length))
      { tx := out.tx, ms := ms, us := us, log := [] } := by
  have hoffset : out.tx.offset ≤ payload.length := Nat.le_of_lt h.more
  have hsent : sentBytes (ffData out.frame (ffHeader payload.length)) []
      = payload.take out.tx.offset := by
    rw [sentBytes, h.first]
    simp [consecutiveFrames]
  refine ⟨eachAfter_nil, ?_, fun _ => ⟨h.config, h.buffer, h.payloadLen, hoffset,
    h.nextSequence, Nat.zero_le _, ?_, fun _ => ?_, fun hs => ?_, fun hs => ?_⟩⟩
  · rw [hsent, List.take_take]
    exact List.take_prefix ..
  · rw [hsent, List.take_take, Nat.min_eq_right hoffset]
  · rw [hsent, List.length_take, Nat.min_eq_left hoffset]
  · exact absurd (h.state.symm.trans hs) (by simp)
  · exact absurd (h.state.symm.trans hs) (by simp)

/-- When every WAIT the configuration allows has been spent, one more ends the transfer. -/
theorem TxInv.wait_aborts (h : TxInv config payload first s) {frame : IsoTpCanFrame}
    (hspent : trailing TxEvent.isWait s.log = config.maxWaitFrames.toNat)
    (hok : txValidateFcFrame s.tx frame = .ok)
    (hwait : frame.lowNibble = IsoTpFlowStatus.wait.value) (now : UInt32) (w : ω) :
    isotpTxFeedFlowControl s.tx frame now w = (.errFlowControl, isotpTxReset s.tx, w) := by
  have hstate := txValidateFcFrame_ok hok
  have hb := h.busy (by rcases hstate with hs | hs <;> rw [hs] <;> simp)
  have hwaits := hb.waits
  have hmax : s.tx.config.maxWaitFrames.toNat ≤ s.tx.waitFrames := by
    rw [hb.config_eq]
    omega
  simp [isotpTxFeedFlowControl, hok, hwait, hmax, IsoTpFlowStatus.value, validStMin]

end steps

/-- **Sender safety.** After `isotp_tx_start` of a multi-frame payload, for every
sequence of calls in time order: every consecutive frame belongs to the block of an
accepted clear-to-send, carries the next sequence number, and keeps to the block's size
and separation time; no more WAITs in a row are accepted than the configuration allows,
and the next one ends the transfer; and the bytes sent are a prefix of the payload. -/
theorem sender_safe (us : ω → Nat) (tx : IsoTpTx ω) (payload : List UInt8) (start : Nat)
    (frame : IsoTpCanFrame) (hclock : ClockReads tx.config us)
    (hready : (isotpTxStart tx payload (tick32 start) frame).status = .txFrameReady)
    (hmulti : (isotpTxStart tx payload (tick32 start) frame).tx.state ≠ .idle)
    (calls : List (TxCall ω)) :
    let out := isotpTxStart tx payload (tick32 start) frame
    let s₀ : TxRun ω := { tx := out.tx, ms := start, us := 0, log := [] }
    Along (txStep us) (OnTime us) s₀ calls →
      let s := run (txStep us) s₀ calls
      EachAfter (Allowed tx.config) s.log ∧
      (sentBytes (ffData out.frame (ffHeader payload.length)) s.log).take payload.length
        <+: payload ∧
      ∀ frame now w, trailing TxEvent.isWait s.log = tx.config.maxWaitFrames.toNat →
        txValidateFcFrame s.tx frame = .ok → frame.lowNibble = IsoTpFlowStatus.wait.value →
        isotpTxFeedFlowControl s.tx frame now w = (.errFlowControl, isotpTxReset s.tx, w) := by
  intro out s₀ hcalls s
  have hstarted := start_multi hready hmulti
  have hinv : TxInv tx.config payload (ffData out.frame (ffHeader payload.length)) s :=
    Along.inv (fun s call h htime => txStep_inv hstarted.valid hclock h htime)
      (hstarted.inv start 0) hcalls
  exact ⟨hinv.allowed, hinv.pieces,
    fun frame now w hspent hok hwait => hinv.wait_aborts hspent hok hwait now w⟩

/-- A transmitter paced by a microsecond clock whose world is its reading. -/
def pacedTx : IsoTpTx Nat :=
  isotpTxInit
    { config := isotpConfigClassicCan, requestId := 0, responseId := 0, buffer := fun _ => 0
      payloadLen := 0, offset := 0, nextSequence := 0, blockCount := 0, remoteBlockSize := 0
      remoteStMin := 0, remoteStMinUs := 0, deadlineMs := 0, nextFrameMs := 0, nextFrameUs := 0
      state := .idle, waitFrames := 0 }
    (some { (isotpConfigClassicCan : IsoTpConfig Nat) with clockUs := some fun t => (tick32 t, t) })
    0x700 0x708

/-- A frame to fill in. -/
def blankFrame : IsoTpCanFrame := clearFrame 0 pacedTx.config

/-- A clear-to-send for blocks of one frame, a poll, a poll 100 µs later and another
clear-to-send. -/
def pacedCalls : List (TxCall Nat) :=
  let cts := { blankFrame with canId := 0x700, data := Buf.ofList [0x30, 1, 0xF1] }
  [.feed cts 5 0, .next blankFrame 5 0, .tick 6, .next blankFrame 6 100, .feed cts 6 120]

theorem sender_safe_paced :
    let out := isotpTxStart pacedTx (List.replicate 20 7) (tick32 5) blankFrame
    let s := run (txStep id) { tx := out.tx, ms := 5, us := 0, log := [] } pacedCalls
    EachAfter (Allowed pacedTx.config) s.log ∧ s.log.length = 3 := by
  have hclock : ClockReads pacedTx.config id := by
    intro clockUs hc w
    cases hc
    exact ⟨rfl, Nat.le_refl _⟩
  have hcalls : Along (txStep id) (OnTime id)
      { tx := (isotpTxStart pacedTx (List.replicate 20 7) (tick32 5) blankFrame).tx
        ms := 5, us := 0, log := [] } pacedCalls := by
    simp only [pacedCalls, Along, OnTime]
    decide
  exact ⟨(sender_safe id pacedTx (List.replicate 20 7) 5 blankFrame hclock (by decide)
    (by decide) pacedCalls hcalls).1, by decide⟩

end UdsIsoTp.IsoTp
