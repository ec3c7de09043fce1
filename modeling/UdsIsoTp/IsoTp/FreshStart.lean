import UdsIsoTp.IsoTp.FirstFrame
import UdsIsoTp.Lib.TwoRuns

/-!
# What a new transmission inherits

`isotp_tx_start` takes a transmitter in any state. It sets the length, the offset and the
counters of a transfer and leaves the rest: the parameters of the last block, the pacing
times, and the number of WAITs counted so far.

`SameTx` says which fields the later calls read, state by state. Two transmitters that
agree on these behave alike for ever (`senderStep_alike`), and a new transfer agrees with
one on a fresh transmitter, the parameters and times being overwritten before they are
read. All but the WAITs: the count of an abandoned transfer is carried over to the next.
-/

namespace UdsIsoTp.IsoTp

variable {ω : Type}

/-- A call on the transmitter once a transfer has begun. -/
inductive SenderCall where
  | feed (frame : IsoTpCanFrame) (now : UInt32)
  | next (now : UInt32) (frame : IsoTpCanFrame)
  | tick (now : UInt32)

/-- One call, on the sender and the world. -/
def senderStep (s : IsoTpTx ω × ω) : SenderCall → IsoTpTx ω × ω
  | .feed frame now => (isotpTxFeedFlowControl s.1 frame now s.2).2
  | .next now frame => ((isotpTxNext s.1 now frame s.2).1.tx, (isotpTxNext s.1 now frame s.2).2)
  | .tick now => ((isotpTxTick s.1 now).2, s.2)

/-- What the caller gets: the result, and the frame when there is one to send. -/
def senderShows (s : IsoTpTx ω × ω) : SenderCall → Option (IsoTpStatus × Option IsoTpCanFrame)
  | .feed frame now => some ((isotpTxFeedFlowControl s.1 frame now s.2).1, none)
  | .next now frame =>
    let out := (isotpTxNext s.1 now frame s.2).1
    some (out.status, if out.status = .txFrameReady then some out.frame else none)
  | .tick now => some ((isotpTxTick s.1 now).1, none)

/-! ## What later calls read -/

/-- The fields of a transfer. WAITs that are not allowed at all need no count. -/
structure SameTransfer (tx tx' : IsoTpTx ω) : Prop where
  payloadLen : tx.payloadLen = tx'.payloadLen
  offset : tx.offset = tx'.offset
  nextSequence : tx.nextSequence = tx'.nextSequence
  deadlineMs : tx.deadlineMs = tx'.deadlineMs
  buffer : ∀ i < tx.payloadLen, tx.buffer i = tx'.buffer i
  waits : tx.waitFrames = tx'.waitFrames ∨ tx.config.maxWaitFrames = 0

/-- The fields of a block, which every clear-to-send writes. -/
structure SameBlock (tx tx' : IsoTpTx ω) : Prop where
  blockCount : tx.blockCount = tx'.blockCount
  remoteBlockSize : tx.remoteBlockSize = tx'.remoteBlockSize
  remoteStMin : tx.remoteStMin = tx'.remoteStMin
  remoteStMinUs : tx.remoteStMinUs = tx'.remoteStMinUs
  nextFrameMs : tx.nextFrameMs = tx'.nextFrameMs
  nextFrameUs : tx.config.clockUs.isSome = true → tx.nextFrameUs = tx'.nextFrameUs

/-- The two transmitters agree on all that is read in their state. -/
structure SameTx (tx tx' : IsoTpTx ω) : Prop where
  config : tx.config = tx'.config
  requestId : tx.requestId = tx'.requestId
  responseId : tx.responseId = tx'.responseId
  state : tx.state = tx'.state
  transfer : tx.state ≠ .idle → SameTransfer tx tx'
  block : tx.state = .sendConsecutive → SameBlock tx tx'

/-! ## One call -/

/-- A clock that is not there is not read. -/
theorem unclocked {tx : IsoTpTx ω} {us us' : UInt32} (hread : tx.config.clockUs = none)
    (hsome : tx.config.clockUs.isSome = true) : us = us' := by
  rw [hread] at hsome
  exact Bool.noConfusion hsome

section Calls

variable {tx tx' : IsoTpTx ω} (h : SameTx tx tx')

include h

theorem SameTx.reset : SameTx (isotpTxReset tx) (isotpTxReset tx') :=
  ⟨h.config, h.requestId, h.responseId, rfl, fun hbusy => absurd rfl hbusy,
    fun hsends => IsoTpTxState.noConfusion hsends⟩

/-- A clear-to-send writes all that a block needs. -/
theorem SameTx.grant (hbusy : tx.state ≠ .idle) (frame : IsoTpCanFrame) (now : UInt32)
    {us us' : UInt32} (hus : tx.config.clockUs.isSome = true → us = us') :
    SameTx (txGrant tx frame now us) (txGrant tx' frame now us') := by
  have htransfer := h.transfer hbusy
  have hdeadline : deadline now tx.config.txTimeoutMs = deadline now tx'.config.txTimeoutMs := by
    rw [h.config]
  refine ⟨h.config, h.requestId, h.responseId, rfl, fun _ => ?_, fun _ => ?_⟩
  · exact { htransfer with deadlineMs := hdeadline, waits := .inl rfl }
  · exact ⟨rfl, rfl, rfl, rfl, rfl, hus⟩

theorem validate_alike (frame : IsoTpCanFrame) :
    txValidateFcFrame tx frame = txValidateFcFrame tx' frame := by
  unfold txValidateFcFrame
  rw [h.config, h.requestId, h.state]

/-- The limit of waits is reached on both sides or on none, and short of it as many are left. -/
theorem SameTx.waits_alike (hbusy : tx.state ≠ .idle) :
    (tx'.config.maxWaitFrames.toNat ≤ tx'.waitFrames ↔
        tx.config.maxWaitFrames.toNat ≤ tx.waitFrames) ∧
      (¬tx.config.maxWaitFrames.toNat ≤ tx.waitFrames → tx.waitFrames = tx'.waitFrames) := by
  rw [← h.config]
  rcases (h.transfer hbusy).waits with hsame | hnone
  · rw [← hsame]
    exact ⟨Iff.rfl, fun _ => rfl⟩
  · -- without a limit every wait is one too many
    rw [hnone]
    exact ⟨⟨fun _ => Nat.zero_le _, fun _ => Nat.zero_le _⟩,
      fun hmany => absurd (Nat.zero_le _) hmany⟩

/-- The peer's frame is answered alike. -/
theorem feedFlowControl_same (frame : IsoTpCanFrame) (now : UInt32) (w : ω) :
    (isotpTxFeedFlowControl tx frame now w).1 = (isotpTxFeedFlowControl tx' frame now w).1 ∧
      SameTx (isotpTxFeedFlowControl tx frame now w).2.1
        (isotpTxFeedFlowControl tx' frame now w).2.1 ∧
      (isotpTxFeedFlowControl tx frame now w).2.2
        = (isotpTxFeedFlowControl tx' frame now w).2.2 := by
  unfold isotpTxFeedFlowControl
  rw [← validate_alike h]
  dsimp only
  by_cases hbad : txValidateFcFrame tx frame ≠ .ok
  · rw [if_pos hbad, if_pos hbad]
    exact ⟨rfl, h, rfl⟩
  rw [if_neg hbad, if_neg hbad]
  have hbusy : tx.state ≠ .idle := by
    rcases txValidateFcFrame_ok (of_not_not hbad) with hfirst | hblock
    · rw [hfirst]
      exact IsoTpTxState.noConfusion
    · rw [hblock]
      exact IsoTpTxState.noConfusion
  have htransfer := h.transfer hbusy
  -- an overflow, and a status or a separation time that is reserved, end the transfer
  split
  next => exact ⟨rfl, h.reset, rfl⟩
  split
  next => exact ⟨rfl, h.reset, rfl⟩
  split
  next =>
    obtain ⟨hlimit, hcount⟩ := h.waits_alike hbusy
    by_cases hmany : tx.config.maxWaitFrames.toNat ≤ tx.waitFrames
    · rw [if_pos hmany, if_pos (hlimit.mpr hmany)]
      exact ⟨rfl, h.reset, rfl⟩
    · have hsame := hcount hmany
      rw [if_neg hmany, if_neg (mt hlimit.mp hmany)]
      refine ⟨rfl, { h with transfer := fun _ => ?_, block := fun hsends => ?_ }, rfl⟩
      · exact { htransfer with
          deadlineMs := by rw [h.config]
          waits := .inl (by rw [hsame]) }
      · exact { h.block hsends with }
  next =>
    rw [← h.config]
    cases hread : tx.config.clockUs with
    | none =>
      exact ⟨rfl, h.grant hbusy frame now (unclocked hread), rfl⟩
    | some clockUs => exact ⟨rfl, h.grant hbusy frame now fun _ => rfl, rfl⟩

theorem pacing_alike (hsends : tx.state = .sendConsecutive) (now : UInt32) (w : ω) :
    txPacingExpired tx now w = txPacingExpired tx' now w := by
  have hblock := h.block hsends
  unfold txPacingExpired
  rw [← h.config]
  cases hread : tx.config.clockUs with
  | none => rw [hblock.nextFrameMs]
  | some clockUs => rw [hblock.nextFrameUs (by rw [hread]; rfl)]

/-- The frame is built from the bytes of the payload and from nothing behind them. -/
theorem consecutiveFrame_alike (hbusy : tx.state ≠ .idle) :
    txCopy tx = txCopy tx' ∧
      txConsecutiveFrame tx (txCopy tx) = txConsecutiveFrame tx' (txCopy tx) := by
  have htransfer := h.transfer hbusy
  have hcopy : txCopy tx ≤ tx.payloadLen - tx.offset := Nat.min_le_left ..
  have hbytes (b : Buf) : b.copy 1 tx.buffer tx.offset (txCopy tx)
      = b.copy 1 tx'.buffer tx.offset (txCopy tx) :=
    Buf.copy_congr fun i hi => htransfer.buffer (tx.offset + i) (by omega)
  constructor
  · unfold txCopy
    rw [htransfer.payloadLen, htransfer.offset, h.config]
  · unfold txConsecutiveFrame
    dsimp only
    rw [← htransfer.nextSequence, ← htransfer.offset, ← h.responseId, ← h.config, hbytes]

theorem SameTx.advance (hsends : tx.state = .sendConsecutive) (now : UInt32) (copy : Nat)
    {us us' : UInt32} (hus : tx.config.clockUs.isSome = true → us = us') :
    SameTx (txAdvance tx now copy us) (txAdvance tx' now copy us') := by
  have htransfer := h.transfer (by rw [hsends]; exact IsoTpTxState.noConfusion)
  have hblock := h.block hsends
  have hfull : BlockFull tx copy ↔ BlockFull tx' copy := by
    unfold BlockFull
    rw [hblock.remoteBlockSize, hblock.blockCount, htransfer.offset, htransfer.payloadLen]
  have hdeadline : deadline now tx.config.txTimeoutMs = deadline now tx'.config.txTimeoutMs := by
    rw [h.config]
  refine ⟨h.config, h.requestId, h.responseId, ?_, fun _ => ?_, fun _ => ?_⟩
  · unfold txAdvance
    simp only [hfull, h.state]
  · exact ⟨htransfer.payloadLen, congrArg (· + copy) htransfer.offset,
      congrArg (fun n => (n + 1) % 16) htransfer.nextSequence, hdeadline, htransfer.buffer,
      htransfer.waits⟩
  · refine ⟨?_, hblock.remoteBlockSize, hblock.remoteStMin, hblock.remoteStMinUs,
      congrArg (fun st => now + stMinMs st) hblock.remoteStMin, hus⟩
    unfold txAdvance
    simp only [hfull, hblock.blockCount]

/-- The next frame is the same one. -/
theorem next_same (now : UInt32) (frame : IsoTpCanFrame) (w : ω) :
    (isotpTxNext tx now frame w).1.status = (isotpTxNext tx' now frame w).1.status ∧
      (isotpTxNext tx now frame w).1.frame = (isotpTxNext tx' now frame w).1.frame ∧
      SameTx (isotpTxNext tx now frame w).1.tx (isotpTxNext tx' now frame w).1.tx ∧
      (isotpTxNext tx now frame w).2 = (isotpTxNext tx' now frame w).2 := by
  unfold isotpTxNext
  rw [← h.state]
  by_cases hwaits : tx.state = .idle ∨ tx.state = .waitFirstFlowControl ∨
      tx.state = .waitBlockFlowControl
  · rw [if_pos hwaits, if_pos hwaits]
    exact ⟨rfl, rfl, h, rfl⟩
  rw [if_neg hwaits, if_neg hwaits]
  have hsends : tx.state = .sendConsecutive := by
    cases hstate : tx.state with
    | sendConsecutive => rfl
    | idle => exact absurd (.inl hstate) hwaits
    | waitFirstFlowControl => exact absurd (.inr (.inl hstate)) hwaits
    | waitBlockFlowControl => exact absurd (.inr (.inr hstate)) hwaits
  have hbusy : tx.state ≠ .idle := fun hidle => hwaits (.inl hidle)
  have htransfer := h.transfer hbusy
  rw [← htransfer.deadlineMs, ← pacing_alike h hsends]
  split
  next => exact ⟨rfl, rfl, h.reset, rfl⟩
  dsimp only
  split
  next => exact ⟨rfl, rfl, h, rfl⟩
  rw [← htransfer.payloadLen, ← htransfer.offset]
  split
  next => exact ⟨rfl, rfl, h.reset, rfl⟩
  obtain ⟨hcopy, hframe⟩ := consecutiveFrame_alike h hbusy
  rw [← hcopy, ← hframe, ← h.config, ← (h.block hsends).remoteStMinUs]
  cases hread : tx.config.clockUs with
  | none =>
    exact ⟨rfl, rfl, h.advance hsends now _ (unclocked hread), rfl⟩
  | some clockUs => exact ⟨rfl, rfl, h.advance hsends now _ fun _ => rfl, rfl⟩

theorem tick_same (now : UInt32) :
    (isotpTxTick tx now).1 = (isotpTxTick tx' now).1 ∧
      SameTx (isotpTxTick tx now).2 (isotpTxTick tx' now).2 := by
  unfold isotpTxTick
  rw [← h.state]
  by_cases hidle : tx.state = .idle
  · rw [if_pos hidle, if_pos hidle]
    exact ⟨rfl, h⟩
  rw [if_neg hidle, if_neg hidle, ← (h.transfer hidle).deadlineMs]
  split
  next => exact ⟨rfl, h.reset⟩
  next => exact ⟨rfl, h⟩

end Calls

/-! ## Any later calls -/

/-- The two senders, each with its world. -/
def SameSender (s s' : IsoTpTx ω × ω) : Prop := SameTx s.1 s'.1 ∧ s.2 = s'.2

theorem senderStep_alike (s s' : IsoTpTx ω × ω) (call : SenderCall) (h : SameSender s s') :
    SameSender (senderStep s call) (senderStep s' call) := by
  obtain ⟨tx, w⟩ := s
  obtain ⟨tx', w'⟩ := s'
  obtain ⟨htx, rfl⟩ := h
  cases call with
  | feed frame now => exact (feedFlowControl_same htx frame now w).2
  | next now frame => exact (next_same htx now frame w).2.2
  | tick now => exact ⟨(tick_same htx now).2, rfl⟩

theorem senderShows_alike (s s' : IsoTpTx ω × ω) (call : SenderCall) (h : SameSender s s') :
    senderShows s call = senderShows s' call := by
  obtain ⟨tx, w⟩ := s
  obtain ⟨tx', w'⟩ := s'
  obtain ⟨htx, rfl⟩ := h
  cases call with
  | feed frame now =>
    unfold senderShows
    dsimp only
    rw [(feedFlowControl_same htx frame now w).1]
  | next now frame =>
    obtain ⟨hstatus, hframe, -⟩ := next_same htx now frame w
    unfold senderShows
    dsimp only
    rw [hstatus, hframe]
  | tick now =>
    unfold senderShows
    dsimp only
    rw [(tick_same htx now).1]

/-- What the caller gets in all the later calls. -/
def continues (tx : IsoTpTx ω) (w : ω) (calls : List SenderCall) :
    List (IsoTpStatus × Option IsoTpCanFrame) :=
  observed senderStep senderShows (tx, w) calls

theorem continues_alike {tx tx' : IsoTpTx ω} (h : SameTx tx tx') (w : ω)
    (calls : List SenderCall) : continues tx w calls = continues tx' w calls :=
  observed_related senderStep_alike senderShows_alike (s := (tx, w)) (t := (tx', w)) ⟨h, rfl⟩ calls

/-! ## The start -/

/-- `isotp_tx_start` takes no such payload, or none at all. -/
def Refused (config : IsoTpConfig ω) (payload : List UInt8) : Prop :=
  payload.length = 0 ∨ ¬validTxConfig config = true ∨ maxPayload < payload.length

/-- The payload leaves in a single frame. -/
def FitsOneFrame (config : IsoTpConfig ω) (payload : List UInt8) : Prop :=
  payload.length ≤ 7 ∨
    (config.canFd = true ∧ payload.length ≤ singleCapacity config ∧ payload.length ≤ 255)

section Start

variable {tx : IsoTpTx ω} {payload : List UInt8} (now : UInt32) (frame : IsoTpCanFrame)

theorem start_refused (h : Refused tx.config payload) :
    ∃ status, ∀ tx' : IsoTpTx ω, tx'.config = tx.config →
      isotpTxStart tx' payload now frame = ⟨status, tx', frame⟩ := by
  by_cases hargument : payload.length = 0 ∨ ¬validTxConfig tx.config = true
  · refine ⟨.errArgument, fun tx' hconfig => ?_⟩
    unfold isotpTxStart
    rw [hconfig, if_pos hargument]
  · have hlong : maxPayload < payload.length := by
      rcases h with hempty | hconfig | hlong
      · exact absurd (.inl hempty) hargument
      · exact absurd (.inr hconfig) hargument
      · exact hlong
    refine ⟨.errOverflow, fun tx' hconfig => ?_⟩
    unfold isotpTxStart
    rw [hconfig, if_neg hargument, if_pos hlong]

/-- The frame of a payload that leaves in one. -/
def soleFrame (tx : IsoTpTx ω) (payload : List UInt8) : IsoTpCanFrame :=
  if payload.length ≤ 7 then txShortFrame tx payload else txEscapedFrame tx payload

theorem txBuildSf_fits (h : FitsOneFrame tx.config payload) :
    txBuildSf tx payload = some (isotpTxReset tx, soleFrame tx payload) := by
  unfold txBuildSf soleFrame
  dsimp only
  by_cases hshort : payload.length ≤ 7
  · rw [if_pos hshort, if_pos hshort]
  · rw [if_neg hshort, if_pos (h.resolve_left hshort), if_neg hshort]

theorem txBuildSf_long (h : ¬FitsOneFrame tx.config payload) : txBuildSf tx payload = none := by
  obtain ⟨hlong, hescaped⟩ := not_or.mp h
  unfold txBuildSf
  dsimp only
  rw [if_neg hlong, if_neg hescaped]

theorem start_single (tx : IsoTpTx ω) (htaken : ¬Refused tx.config payload)
    (h : FitsOneFrame tx.config payload) :
    isotpTxStart tx payload now frame = ⟨.txFrameReady, isotpTxReset (txLoad tx payload now),
      soleFrame (txLoad tx payload now) payload⟩ := by
  obtain ⟨hsome, hvalid, hfits⟩ := not_or.mp htaken |>.imp_right not_or.mp
  have hload : FitsOneFrame (txLoad tx payload now).config payload := h
  unfold isotpTxStart
  rw [if_neg (not_or.mpr ⟨hsome, hvalid⟩), if_neg hfits]
  dsimp only
  rw [txBuildSf_fits hload]

theorem start_several (tx : IsoTpTx ω) (htaken : ¬Refused tx.config payload)
    (h : ¬FitsOneFrame tx.config payload) :
    isotpTxStart tx payload now frame =
      ⟨.txFrameReady, (txBuildFirstFrame (txLoad tx payload now) payload).1,
        (txBuildFirstFrame (txLoad tx payload now) payload).2⟩ := by
  obtain ⟨hsome, hvalid, hfits⟩ := not_or.mp htaken |>.imp_right not_or.mp
  have hload : ¬FitsOneFrame (txLoad tx payload now).config payload := h
  unfold isotpTxStart
  rw [if_neg (not_or.mpr ⟨hsome, hvalid⟩), if_neg hfits]
  dsimp only
  rw [txBuildSf_long hload]

end Start

/-- The transmitter's memory, initialised with the configuration and the identifiers of `tx`. -/
abbrev freshLike (tx raw : IsoTpTx ω) : IsoTpTx ω :=
  isotpTxInit raw (some tx.config) tx.requestId tx.responseId

/-- The call and all that follow it go as they would on a fresh transmitter. -/
def StartsFresh (tx : IsoTpTx ω) (payload : List UInt8) (now : UInt32) (frame : IsoTpCanFrame)
    (w : ω) : Prop :=
  ∀ raw : IsoTpTx ω,
    let out := isotpTxStart tx payload now frame
    let fresh := isotpTxStart (freshLike tx raw) payload now frame
    out.status = fresh.status ∧ out.frame = fresh.frame ∧
      ∀ calls, continues out.tx w calls = continues fresh.tx w calls

/-- There is nothing to inherit: a payload that is refused leaves an idle transmitter, one
frame is the whole transfer, or no WAIT has been counted or will be. -/
def NothingToInherit (tx : IsoTpTx ω) (payload : List UInt8) : Prop :=
  (Refused tx.config payload → tx.state = .idle) ∧
    (¬Refused tx.config payload →
      FitsOneFrame tx.config payload ∨ tx.waitFrames = 0 ∨ tx.config.maxWaitFrames = 0)

/-- Two transfers of one payload that count the same WAITs. -/
theorem firstFrame_same {tx raw : IsoTpTx ω} {payload : List UInt8} {now : UInt32}
    (hwaits : tx.waitFrames = 0 ∨ tx.config.maxWaitFrames = 0) :
    SameTx (txBuildFirstFrame (txLoad tx payload now) payload).1
      (txBuildFirstFrame (txLoad (freshLike tx raw) payload now) payload).1 := by
  refine ⟨rfl, rfl, rfl, rfl, fun _ => ?_, fun hsends => IsoTpTxState.noConfusion hsends⟩
  refine ⟨rfl, rfl, rfl, rfl, fun i hi => ?_, hwaits⟩
  have hloaded (b : Buf) : b.copy 0 (Buf.ofList payload) 0 payload.length (0 + i)
      = Buf.ofList payload (0 + i) := Buf.copy_inside hi
  rw [Nat.zero_add] at hloaded
  exact (hloaded tx.buffer).trans (hloaded raw.buffer).symm

theorem startsFresh_of_nothing {tx : IsoTpTx ω} {payload : List UInt8} (now : UInt32)
    (frame : IsoTpCanFrame) (w : ω) (h : NothingToInherit tx payload) :
    StartsFresh tx payload now frame w := by
  intro raw out fresh
  by_cases hrefused : Refused tx.config payload
  · -- nothing is written, and an idle transmitter is as good as a fresh one
    obtain ⟨status, hstart⟩ := start_refused now frame hrefused
    have hidle := h.1 hrefused
    have hsame : SameTx tx (freshLike tx raw) :=
      ⟨rfl, rfl, rfl, hidle, fun hbusy => absurd hidle hbusy,
        fun hsends => IsoTpTxState.noConfusion (hidle.symm.trans hsends)⟩
    have hout : out = ⟨status, tx, frame⟩ := hstart tx rfl
    have hfresh : fresh = ⟨status, freshLike tx raw, frame⟩ := hstart (freshLike tx raw) rfl
    rw [hout, hfresh]
    exact ⟨rfl, rfl, continues_alike hsame w⟩
  by_cases hone : FitsOneFrame tx.config payload
  · -- the transfer is over with its one frame
    have hout : out = _ := start_single now frame tx hrefused hone
    have hfresh : fresh = _ := start_single now frame (freshLike tx raw) hrefused hone
    have hsame : SameTx (isotpTxReset (txLoad tx payload now))
        (isotpTxReset (txLoad (freshLike tx raw) payload now)) :=
      ⟨rfl, rfl, rfl, rfl, fun hbusy => absurd rfl hbusy,
        fun hsends => IsoTpTxState.noConfusion hsends⟩
    rw [hout, hfresh]
    exact ⟨rfl, rfl, continues_alike hsame w⟩
  · -- all but the count of WAITs is written anew
    have hout : out = _ := start_several now frame tx hrefused hone
    have hfresh : fresh = _ := start_several now frame (freshLike tx raw) hrefused hone
    have hwaits := (h.2 hrefused).resolve_left hone
    rw [hout, hfresh]
    exact ⟨rfl, rfl, continues_alike (firstFrame_same hwaits) w⟩

/-! ## What is inherited otherwise -/

/-- A WAIT from the peer. -/
def waitFrame (requestId : UInt32) : IsoTpCanFrame where
  canId := requestId
  dlc := 8
  isFd := false
  bitRateSwitch := false
  data := fun _ => 0x31

theorem continues_feed (tx : IsoTpTx ω) (w : ω) (frame : IsoTpCanFrame) (now : UInt32)
    (calls : List SenderCall) :
    continues tx w (.feed frame now :: calls)
      = ((isotpTxFeedFlowControl tx frame now w).1, none) ::
        continues (isotpTxFeedFlowControl tx frame now w).2.1
          (isotpTxFeedFlowControl tx frame now w).2.2 calls := rfl

/-- The transmitter after one more WAIT. -/
def countWait (tx : IsoTpTx ω) (now : UInt32) : IsoTpTx ω :=
  { tx with
    waitFrames := (tx.waitFrames + 1) % 256
    deadlineMs := deadline now tx.config.txTimeoutMs }

/-- Before the first block a WAIT is counted while there is room, and else ends the transfer. -/
theorem feed_wait {tx : IsoTpTx ω} (hstate : tx.state = .waitFirstFlowControl) (now : UInt32)
    (w : ω) :
    isotpTxFeedFlowControl tx (waitFrame tx.requestId) now w
      = if tx.config.maxWaitFrames.toNat ≤ tx.waitFrames then
          (.errFlowControl, isotpTxReset tx, w)
        else (.ok, countWait tx now, w) := by
  have hvalid : frameValid tx.config (waitFrame tx.requestId) = true := rfl
  have hflow : (waitFrame tx.requestId).lowNibble = IsoTpFlowStatus.wait.value :=
    lowNibble_pci 3 (by omega) 1 (by omega)
  have htype : (waitFrame tx.requestId).highNibble = 3 :=
    highNibble_pci 3 (by omega) 1 (by omega)
  have hok : txValidateFcFrame tx (waitFrame tx.requestId) = .ok := by
    unfold txValidateFcFrame
    rw [hvalid, htype, hstate]
    simp [waitFrame]
  unfold isotpTxFeedFlowControl
  simp [hok, hflow, IsoTpFlowStatus.value, validStMin, countWait]

/-- Until the count is full the WAITs are accepted. -/
theorem waits_accepted (tx : IsoTpTx ω) (hstate : tx.state = .waitFirstFlowControl)
    (now : UInt32) (w : ω) (n : Nat)
    (hroom : tx.waitFrames + n ≤ tx.config.maxWaitFrames.toNat) :
    continues tx w (List.replicate n (.feed (waitFrame tx.requestId) now))
      = List.replicate n (.ok, none) := by
  induction n generalizing tx with
  | zero => rfl
  | succ n ih =>
    have hmax := tx.config.maxWaitFrames.toNat_lt
    have hfeed := feed_wait hstate now w
    rw [if_neg (by omega)] at hfeed
    have hcount : (countWait tx now).waitFrames + n ≤ tx.config.maxWaitFrames.toNat := by
      show (tx.waitFrames + 1) % 256 + n ≤ _
      omega
    have hrest := ih (countWait tx now) hstate hcount
    rw [List.replicate_succ, List.replicate_succ, continues_feed, hfeed, ← hrest]
    rfl

/-- When there are more of them, one is not. -/
theorem waits_refused (tx : IsoTpTx ω) (hstate : tx.state = .waitFirstFlowControl)
    (now : UInt32) (w : ω) (n : Nat) (hn : 0 < n)
    (hmany : tx.config.maxWaitFrames.toNat < tx.waitFrames + n) :
    (.errFlowControl, none)
      ∈ continues tx w (List.replicate n (.feed (waitFrame tx.requestId) now)) := by
  induction n generalizing tx with
  | zero => omega
  | succ n ih =>
    have hfeed := feed_wait hstate now w
    rw [List.replicate_succ, continues_feed]
    by_cases hfull : tx.config.maxWaitFrames.toNat ≤ tx.waitFrames
    · rw [if_pos hfull] at hfeed
      rw [hfeed]
      exact List.mem_cons_self
    · have hmax := tx.config.maxWaitFrames.toNat_lt
      have hcount : tx.config.maxWaitFrames.toNat < (countWait tx now).waitFrames + n := by
        show _ < (tx.waitFrames + 1) % 256 + n
        omega
      rw [if_neg hfull] at hfeed
      rw [hfeed]
      exact List.mem_cons_of_mem _ (ih (countWait tx now) hstate (by omega) hcount)

/-- A transfer under way is told from none by its deadline. -/
theorem tick_tells {tx : IsoTpTx ω} (hbusy : tx.state ≠ .idle) (raw : IsoTpTx ω) (w : ω) :
    continues tx w [.tick tx.deadlineMs] ≠ continues (freshLike tx raw) w [.tick tx.deadlineMs] := by
  have htimeout : isotpTxTick tx tx.deadlineMs = (.errTimeout, isotpTxReset tx) := by
    unfold isotpTxTick
    rw [if_neg hbusy, if_pos (expired_self _)]
  have hidle : isotpTxTick (freshLike tx raw) tx.deadlineMs = (.ok, freshLike tx raw) := rfl
  have htick (tx : IsoTpTx ω) (now : UInt32) :
      continues tx w [.tick now] = [((isotpTxTick tx now).1, none)] := rfl
  rw [htick, htick, htimeout, hidle]
  intro hsame
  exact IsoTpStatus.noConfusion (congrArg Prod.fst (List.cons.inj hsame).1)

/-- A count carried over is told from none by as many WAITs as are allowed. -/
theorem waits_tell {tx raw : IsoTpTx ω} {payload : List UInt8} {now : UInt32}
    (hcounted : tx.waitFrames ≠ 0) (hallowed : tx.config.maxWaitFrames ≠ 0) (w : ω) :
    ∃ calls, continues (txBuildFirstFrame (txLoad tx payload now) payload).1 w calls
      ≠ continues (txBuildFirstFrame (txLoad (freshLike tx raw) payload now) payload).1 w calls := by
  have hmax : tx.config.maxWaitFrames.toNat ≠ 0 := fun hzero =>
    hallowed (UInt8.toNat_inj.mp hzero)
  refine ⟨List.replicate tx.config.maxWaitFrames.toNat (.feed (waitFrame tx.requestId) now), ?_⟩
  have hfresh := waits_accepted
    (txBuildFirstFrame (txLoad (freshLike tx raw) payload now) payload).1 rfl now w
    tx.config.maxWaitFrames.toNat (Nat.le_of_eq (Nat.zero_add _))
  have hcarried := waits_refused (txBuildFirstFrame (txLoad tx payload now) payload).1 rfl
    now w tx.config.maxWaitFrames.toNat (by omega)
    (show tx.config.maxWaitFrames.toNat < tx.waitFrames + tx.config.maxWaitFrames.toNat by omega)
  intro hsame
  have hok := List.eq_of_mem_replicate (hfresh ▸ hsame ▸ hcarried)
  exact IsoTpStatus.noConfusion (congrArg Prod.fst hok)

/-- **A new transmission starts fresh exactly when it inherits nothing.** The start and every
later sequence of calls give the results and the frames they would give on a freshly
initialised transmitter, if and only if the payload is refused by an idle transmitter, leaves
in one frame, or begins a transfer while no WAIT is counted or none is allowed. -/
theorem starts_fresh_iff (tx : IsoTpTx ω) (payload : List UInt8) (now : UInt32)
    (frame : IsoTpCanFrame) (w : ω) :
    StartsFresh tx payload now frame w ↔ NothingToInherit tx payload := by
  constructor
  · intro h
    obtain ⟨-, -, hcontinues⟩ := h tx
    constructor
    · -- a refused payload leaves the transfer that is under way, and that one times out
      intro hrefused
      by_contra hbusy
      obtain ⟨status, hstart⟩ := start_refused now frame hrefused
      rw [hstart tx rfl, hstart (freshLike tx tx) rfl] at hcontinues
      exact tick_tells hbusy tx w (hcontinues _)
    · -- the peer can send just as many WAITs as are allowed
      intro htaken
      by_contra hinherits
      obtain ⟨hseveral, hcounted, hallowed⟩ := not_or.mp hinherits |>.imp_right not_or.mp
      rw [start_several now frame tx htaken hseveral,
        start_several now frame (freshLike tx tx) htaken hseveral] at hcontinues
      obtain ⟨calls, htell⟩ := waits_tell hcounted hallowed w
      exact htell (hcontinues calls)
  · exact startsFresh_of_nothing now frame w

/-- A transmitter in the middle of a transfer, after one WAIT. -/
def waitingTx : IsoTpTx Unit :=
  let started := isotpTxStart (isotpTxInit rawTx (some isotpConfigClassicCan) 0x708 0x700)
    (List.replicate 20 7) 0 pollingFrame
  (isotpTxFeedFlowControl started.tx (waitFrame 0x708) 0 ()).2.1

/-- The next transfer is aborted by the third WAIT, where a fresh one allows three. -/
theorem wait_count_carried_over :
    ¬StartsFresh waitingTx (List.replicate 20 7) 0 pollingFrame () := by
  intro h
  obtain ⟨-, -, hcontinues⟩ := h rawTx
  have hwaits := hcontinues (List.replicate 3 (.feed (waitFrame 0x708) 0))
  have hstatuses := congrArg (List.map Prod.fst) hwaits
  exact absurd hstatuses (by decide)

end UdsIsoTp.IsoTp
