import UdsIsoTp.IsoTp.FirstFrame
import UdsIsoTp.IsoTp.LossyLink
import UdsIsoTp.IsoTp.TxSafety
import UdsIsoTp.Lib.Watchdog

/-!
# Nobody holds a transfer open

Both machines of `isotp.c` put their deadlines off while the other side keeps them busy: a
transmitter for each WAIT, each clear-to-send and each frame, a receiver for each frame. The
WAITs are counted and the frames come to an end, so that this is bounded by the payload and the
configuration, whatever the other side does (`transmission_ends`, `reception_ends`).

Times are natural numbers here, the code sees them modulo 2^32.
-/

namespace UdsIsoTp.IsoTp

variable {ω : Type}

/-- A deadline that lies behind by less than half the range is reported as reached. -/
theorem expired_of_le {t d : Nat} (hle : d ≤ t) (hd : t < d + 2 ^ 31) :
    expired (tick32 t) (tick32 d) = true := by
  have ht := toNat_tick32 t
  have hd' := toNat_tick32 d
  simp only [expired, UInt32.toNat_sub, ht, hd', decide_eq_true_eq]
  omega

theorem deadline_tick32 (t : Nat) (timeout : UInt32) :
    deadline (tick32 t) timeout = tick32 (t + timeout.toNat) := by
  rw [tick32_add, ← eq_tick32_toNat]
  rfl

/-! ## The transmitter -/

/-- When the call is made, in milliseconds that do not wrap. -/
def TxCall.time : TxCall ω → Nat
  | .feed _ ms _ | .next _ ms _ | .tick ms => ms

/-- `isotp_tx_tick` looks at the deadline in every state. -/
def TxCall.polls : TxCall ω → Bool
  | .tick _ => true
  | .feed _ _ _ | .next _ _ _ => false

/-- One call, on the sender. -/
def txCall (tx : IsoTpTx ω) : TxCall ω → IsoTpTx ω
  | .feed frame ms w => (isotpTxFeedFlowControl tx frame (tick32 ms) w).2.1
  | .next frame ms w => (isotpTxNext tx (tick32 ms) frame w).1.tx
  | .tick ms => (isotpTxTick tx (tick32 ms)).2

/-- The times that the deadline can still be put off before the next frame. -/
def waitsLeft (tx : IsoTpTx ω) : Nat :=
  if tx.state = .sendConsecutive then 0 else tx.config.maxWaitFrames.toNat - tx.waitFrames + 1

/-- The times that the deadline can still be put off. -/
def txRank (tx : IsoTpTx ω) : Nat :=
  (outgoing tx).length * (tx.config.maxWaitFrames.toNat + 2) + waitsLeft tx

/-- The deadline of a transmitter with this configuration is at `d`. -/
def TxArmed (config : IsoTpConfig ω) (tx : IsoTpTx ω) (d : Nat) : Prop :=
  tx.config = config ∧ tx.deadlineMs = tick32 d

section Transmitter

variable {config : IsoTpConfig ω} {tx : IsoTpTx ω} {d patience : Nat}

theorem feedFlowControl_puts (frame : IsoTpCanFrame) (ms : Nat) (w : ω)
    (hbusy : (isotpTxFeedFlowControl tx frame (tick32 ms) w).2.1.state ≠ .idle)
    (harmed : TxArmed config tx d) :
    (isotpTxFeedFlowControl tx frame (tick32 ms) w).2.1 = tx ∨
      (TxArmed config (isotpTxFeedFlowControl tx frame (tick32 ms) w).2.1
          (ms + config.txTimeoutMs.toNat) ∧
        txRank (isotpTxFeedFlowControl tx frame (tick32 ms) w).2.1 < txRank tx) := by
  obtain ⟨rfl, -⟩ := harmed
  have heffect := feedFlowControl_effect tx frame (tick32 ms) w
  have hframes := @feed_outgoing ω tx (tick32 ms) w frame
  generalize isotpTxFeedFlowControl tx frame (tick32 ms) w = out at heffect hframes hbusy ⊢
  have hwaits : AwaitsFlow tx → waitsLeft tx = tx.config.maxWaitFrames.toNat - tx.waitFrames + 1 := by
    intro hstate
    unfold waitsLeft
    rcases hstate with h | h <;> rw [if_neg (by rw [h]; decide)]
  cases heffect with
  | refused hstatus => exact .inl rfl
  | aborted hstatus => exact absurd rfl hbusy
  | waited hstate hflow hfew =>
    refine .inr ⟨⟨rfl, deadline_tick32 ..⟩, ?_⟩
    unfold txRank
    rw [hframes (by simp) (by simp), hwaits hstate]
    have hnow : ¬tx.state = .sendConsecutive := by rcases hstate with h | h <;> rw [h] <;> decide
    unfold waitsLeft
    dsimp only
    rw [if_neg hnow]
    omega
  | granted hstate hflow hclock hnoclock =>
    refine .inr ⟨⟨rfl, deadline_tick32 ..⟩, ?_⟩
    unfold txRank
    rw [hframes (by simp) (by simp), hwaits hstate]
    exact Nat.lt_add_of_pos_right (Nat.succ_pos _)

theorem next_puts (hvalid : validTxConfig config = true) (frame : IsoTpCanFrame) (ms : Nat) (w : ω)
    (hbusy : (isotpTxNext tx (tick32 ms) frame w).1.tx.state ≠ .idle)
    (harmed : TxArmed config tx d) :
    (isotpTxNext tx (tick32 ms) frame w).1.tx = tx ∨
      (TxArmed config (isotpTxNext tx (tick32 ms) frame w).1.tx (ms + config.txTimeoutMs.toNat) ∧
        txRank (isotpTxNext tx (tick32 ms) frame w).1.tx < txRank tx) := by
  obtain ⟨rfl, -⟩ := harmed
  have heffect := next_effect tx (tick32 ms) frame w
  have hframes : (isotpTxNext tx (tick32 ms) frame w).1.status = .txFrameReady →
      outgoing tx = (isotpTxNext tx (tick32 ms) frame w).1.frame ::
        outgoing (isotpTxNext tx (tick32 ms) frame w).1.tx := next_outgoing tx frame hvalid
  generalize isotpTxNext tx (tick32 ms) frame w = out at heffect hframes hbusy ⊢
  cases heffect with
  | kept hw => exact .inl rfl
  | ended hstatus hw => exact absurd rfl hbusy
  | @sent nextFrameUs w₁ w₂ hstate hmore hpaced hclock hnoclock =>
    refine .inr ⟨⟨rfl, deadline_tick32 ..⟩, ?_⟩
    have hwaits : waitsLeft (txAdvance tx (tick32 ms) (txCopy tx) nextFrameUs)
        ≤ tx.config.maxWaitFrames.toNat + 1 := by
      unfold waitsLeft
      split
      next => exact Nat.zero_le _
      next => exact Nat.succ_le_succ (Nat.sub_le ..)
    have hone := congrArg List.length (hframes rfl)
    dsimp only at hone ⊢
    unfold txRank
    rw [hone, List.length_cons, Nat.succ_mul]
    change _ + waitsLeft _ < _
    change _ * (tx.config.maxWaitFrames.toNat + 2) + _ < _
    omega

/-- Each frame of a transfer, and each WAIT before it, puts the deadline off once. -/
theorem tx_watchdog (hvalid : validTxConfig config = true) (hshort : patience < 2 ^ 31) :
    Watchdog txCall (fun _ _ => True) TxCall.time TxCall.polls (fun tx => tx.state ≠ .idle)
      (TxArmed config) txRank config.txTimeoutMs.toNat patience where
  idle {tx call} _ hidle hbusy := by
    refine hidle ?_
    cases call with
    | feed frame ms w => exact (feedFlowControl_goesOn tx frame (tick32 ms) w).busy hbusy
    | next frame ms w =>
      by_cases hready : (isotpTxNext tx (tick32 ms) frame w).1.status = .txFrameReady
      · exact (next_busy hready).1
      · exact (next_goesOn hready).busy hbusy
    | tick ms => exact (tick_goesOn tx (tick32 ms)).busy hbusy
  -- a call leaves a busy sender alone, or gives it a new deadline and less to do
  step {tx call d} _ hbusy harmed hsoon := by
    cases call with
    | feed frame ms w =>
      rcases feedFlowControl_puts frame ms w hbusy harmed with hsame | ⟨hput, hrank⟩
      · rw [show txCall tx (.feed frame ms w) = tx from hsame]
        exact .inl ⟨harmed, Nat.le_refl _, fun h => Bool.noConfusion h⟩
      · exact .inr ⟨_, hput, Nat.le_add_right .., Nat.le_refl _, hrank⟩
    | next frame ms w =>
      rcases next_puts hvalid frame ms w hbusy harmed with hsame | ⟨hput, hrank⟩
      · rw [show txCall tx (.next frame ms w) = tx from hsame]
        exact .inl ⟨harmed, Nat.le_refl _, fun h => Bool.noConfusion h⟩
      · exact .inr ⟨_, hput, Nat.le_add_right .., Nat.le_refl _, hrank⟩
    | tick ms =>
      change (isotpTxTick tx (tick32 ms)).2.state ≠ .idle at hbusy
      have hkept : (isotpTxTick tx (tick32 ms)).2 = tx ∧ expired (tick32 ms) tx.deadlineMs = false := by
        unfold isotpTxTick at hbusy ⊢
        split at hbusy
        next hidle => exact absurd hidle hbusy
        next hrunning =>
          rw [if_neg hrunning]
          split at hbusy
          next => exact absurd rfl hbusy
          next hearly =>
            rw [if_neg hearly]
            exact ⟨rfl, Bool.eq_false_of_not_eq_true hearly⟩
      obtain ⟨hsame, hearly⟩ := hkept
      rw [show txCall tx (.tick ms) = tx from hsame]
      refine .inl ⟨harmed, Nat.le_refl _, fun _ => ?_⟩
      -- a tick at the deadline would have ended it
      by_contra hlate
      have hbehind : d ≤ ms := Nat.not_lt.mp hlate
      have hsoon : ms ≤ d + patience := hsoon
      rw [harmed.2, expired_of_le hbehind (by omega)] at hearly
      exact Bool.noConfusion hearly

/-- Each frame of a multi-frame transfer puts the deadline off once, and so do as many WAITs
as are taken before it, with the clear-to-send. -/
theorem txRank_start {payload : List UInt8} {now : UInt32} {frame : IsoTpCanFrame}
    (h : (isotpTxStart tx payload now frame).status = .txFrameReady) :
    txRank (isotpTxStart tx payload now frame).tx + 1
      ≤ (segment tx payload).length * (tx.config.maxWaitFrames.toNat + 2) := by
  have hwaits : waitsLeft (isotpTxStart tx payload now frame).tx
      ≤ tx.config.maxWaitFrames.toNat + 1 := by
    unfold waitsLeft
    rw [start_config h]
    split
    next => exact Nat.zero_le _
    next => exact Nat.succ_le_succ (Nat.sub_le ..)
  unfold txRank
  rw [← start_outgoing h, List.length_cons, Nat.succ_mul, start_config h]
  omega

theorem start_armed {payload : List UInt8} {start : Nat} {frame : IsoTpCanFrame}
    (h : (isotpTxStart tx payload (tick32 start) frame).status = .txFrameReady)
    (hbusy : (isotpTxStart tx payload (tick32 start) frame).tx.state ≠ .idle) :
    TxArmed tx.config (isotpTxStart tx payload (tick32 start) frame).tx
      (start + tx.config.txTimeoutMs.toNat) := by
  refine ⟨start_config h, ?_⟩
  obtain ⟨-, -, ⟨sf, hsf, hout⟩ | ⟨-, hout⟩⟩ := start_ready h
  · rw [hout] at hbusy
    exact absurd (congrArg IsoTpTx.state (txBuildSf_some hsf)) hbusy
  · rw [hout]
    exact deadline_tick32 ..

/-- **No peer keeps a transmission open**: after the first frame of a payload, each frame of it
gives the peer as many timeouts as the configuration takes WAITs, and two more. -/
theorem transmission_ends (tx : IsoTpTx ω) (payload : List UInt8) (start : Nat)
    (frame : IsoTpCanFrame) (calls : List (TxCall ω)) (patience : Nat)
    (haccepted : (isotpTxStart tx payload (tick32 start) frame).status = .txFrameReady)
    (hshort : patience < 2 ^ 31)
    (hcalls : Punctual TxCall.time TxCall.polls patience start start calls)
    (hlate : start + (segment tx payload).length * (tx.config.maxWaitFrames.toNat + 2)
      * (tx.config.txTimeoutMs.toNat + patience) < lastTime TxCall.time start calls) :
    (run txCall (isotpTxStart tx payload (tick32 start) frame).tx calls).state = .idle := by
  have hvalid := (start_ready haccepted).1
  have hwatch := tx_watchdog hvalid hshort
  by_cases hbusy : (isotpTxStart tx payload (tick32 start) frame).tx.state = .idle
  · -- a single frame
    exact not_not.mp (hwatch.stays (not_not.mpr hbusy) (along_true calls _))
  · have hrank := Nat.mul_le_mul_right (tx.config.txTimeoutMs.toNat + patience)
      (txRank_start haccepted)
    refine not_not.mp (hwatch.over (start_armed haccepted hbusy) hcalls (along_true calls _) ?_)
    omega

end Transmitter

/-- A configuration with short timeouts. -/
def hastyConfig : IsoTpConfig Unit :=
  { isotpConfigClassicCan with txTimeoutMs := 2, rxTimeoutMs := 2, maxWaitFrames := 1 }

/-- The flow control that asks a sender to wait. -/
def holdFrame : IsoTpCanFrame :=
  { clearFrame 0x700 hastyConfig with data := Buf.ofList [0x31, 0, 0] }

theorem segment_eight :
    (segment (isotpTxInit rawTx (some hastyConfig) 0x700 0x708) (List.replicate 8 7)).length = 2 := by
  unfold segment
  change (restFrames (txBuildFirstFrame _ (List.replicate 8 7)).1).length + 1 = 2
  rw [restFrames, dif_pos (by decide), restFrames_done (by decide)]
  rfl

/-- A peer that only answers with WAITs. -/
theorem transmission_ends_waiting :
    (run txCall (isotpTxStart (isotpTxInit rawTx (some hastyConfig) 0x700 0x708)
        (List.replicate 8 7) (tick32 10) holdFrame).tx
      (.feed holdFrame 11 () :: (List.range' 11 20).map .tick)).state = .idle :=
  transmission_ends _ _ 10 holdFrame _ 1 (by decide) (by decide)
    (by simp [Punctual, List.range', TxCall.time, TxCall.polls])
    (by rw [segment_eight]; decide)

/-! ## The receiver -/

/-- A call on the receiver at time `ms`. -/
inductive TimedRxCall where
  | feed (frame : IsoTpCanFrame) (ms : Nat) (event : IsoTpRxEvent)
  | tick (ms : Nat)
  | reset (ms : Nat)

/-- When the call is made, in milliseconds that do not wrap. -/
def TimedRxCall.time : TimedRxCall → Nat
  | .feed _ ms _ | .tick ms | .reset ms => ms

/-- The call gives the receiver a chance to notice its deadline. -/
def TimedRxCall.polls : TimedRxCall → Bool
  | .tick _ => true
  | .feed _ _ _ | .reset _ => false

/-- One call, on the receiver. -/
def rxCall (rx : IsoTpRx ω) : TimedRxCall → IsoTpRx ω
  | .feed frame ms event => (isotpRxFeed rx frame (tick32 ms) event).rx
  | .tick ms => (isotpRxTick rx (tick32 ms)).2
  | .reset _ => isotpRxReset rx

/-- The call does not begin another message. -/
def KeepsOn (rx : IsoTpRx ω) : TimedRxCall → Prop
  | .feed frame ms event =>
    frame.highNibble = 1 → (isotpRxFeed rx frame (tick32 ms) event).status ≠ .needFlowControl
  | .tick _ | .reset _ => True

/-- The consecutive frames that the message under way still needs, on classic CAN. -/
def framesLeft (rx : IsoTpRx ω) : Nat := (rx.expectedLen - rx.receivedLen + 6) / 7

/-- The receiver has these settings and this deadline. -/
def RxArmed (config : IsoTpConfig ω) (rx : IsoTpRx ω) (d : Nat) : Prop :=
  rx.config = config ∧ rx.deadlineMs = tick32 d

section Receiver

variable {config : IsoTpConfig ω} {rx : IsoTpRx ω} {frame : IsoTpCanFrame} {ms d patience : Nat}

/-- What a frame does to a message that is under way on classic CAN: nothing, or it ends it, or
it begins another one, or it is the next full frame. -/
inductive ClassicEffect (rx : IsoTpRx ω) (frame : IsoTpCanFrame) (now : UInt32) :
    RxOut ω → Prop
  | kept {out : RxOut ω} (hrx : out.rx = rx) : ClassicEffect rx frame now out
  | ended {out : RxOut ω} (hrx : out.rx.active = false) : ClassicEffect rx frame now out
  | another {out : RxOut ω} (htype : frame.highNibble = 1) (hstatus : out.status = .needFlowControl) :
      ClassicEffect rx frame now out
  | full {out : RxOut ω} (hconfig : out.rx.config = rx.config)
      (hdeadline : out.rx.deadlineMs = deadline now rx.config.rxTimeoutMs)
      (hframes : framesLeft out.rx < framesLeft rx) : ClassicEffect rx frame now out

theorem rxSingle_classic (now : UInt32) (event : IsoTpRxEvent) :
    ClassicEffect rx frame now (rxSingle rx frame event) := by
  unfold rxSingle
  split
  next => exact .kept rfl
  next =>
    split
    next => exact .kept rfl
    next =>
      split
      next => exact .kept rfl
      next => exact .ended rfl

theorem rxFirst_classic (htype : frame.highNibble = 1) (now : UInt32) (event : IsoTpRxEvent) :
    ClassicEffect rx frame now (rxFirst rx frame now event) := by
  unfold rxFirst
  split
  next => exact .kept rfl
  next =>
    split
    next => exact .kept rfl
    next =>
      split
      next => exact .kept rfl
      next =>
        split
        next => exact .kept rfl
        next =>
          split
          next => exact .ended rfl
          next =>
            dsimp only
            split
            next hinactive => exact .ended (by simpa using hinactive)
            next => exact .another htype rfl

theorem rxConsecutive_classic (hclassic : rx.config.canFd = false) (now : UInt32)
    (event : IsoTpRxEvent) :
    ClassicEffect rx frame now (rxConsecutive rx frame now event) := by
  unfold rxConsecutive
  split
  next => exact .kept rfl
  next =>
    split
    next => exact .kept rfl
    next =>
      split
      next => exact .ended rfl
      next =>
        split
        next => exact .ended rfl
        next hfull =>
          dsimp only
          split
          next => exact .ended rfl
          next hmore =>
            -- a frame that is not the last carries seven bytes
            have hleft : (rx.expectedLen - (rx.receivedLen + min (frame.dlc - 1)
                (rx.expectedLen - rx.receivedLen)) + 6) / 7
                < (rx.expectedLen - rx.receivedLen + 6) / 7 := by
              have hdlc : ¬(frame.dlc - 1 < rx.expectedLen - rx.receivedLen ∧ frame.dlc < 8) :=
                fun h => hfull ⟨by rw [hclassic]; decide, h.1, h.2⟩
              omega
            split
            next => exact .full rfl rfl hleft
            next => exact .full rfl rfl hleft

theorem rxDispatch_classic (hclassic : rx.config.canFd = false) (frame : IsoTpCanFrame)
    (now : UInt32) (event : IsoTpRxEvent) :
    ClassicEffect rx frame now (rxDispatch rx frame now event) := by
  unfold rxDispatch
  split
  next => exact rxSingle_classic now event
  next htype => exact rxFirst_classic htype now event
  next => exact rxConsecutive_classic hclassic now event
  next =>
    split
    next => exact .kept rfl
    next => split <;> exact .kept rfl

theorem feed_classic (hclassic : rx.config.canFd = false) (frame : IsoTpCanFrame) (now : UInt32)
    (event : IsoTpRxEvent) :
    ClassicEffect rx frame now (isotpRxFeed rx frame now event) := by
  unfold isotpRxFeed
  split
  next => exact .kept rfl
  next =>
    split
    next => exact .kept rfl
    next =>
      dsimp only
      split
      next =>
        -- in full duplex a single or a first frame ends what was under way
        have hreset : (isotpRxReset rx).config.canFd = false := hclassic
        cases rxDispatch_classic hreset frame now
          { clearEvent event with unexpectedNPdu := true } with
        | kept hrx => exact .ended (congrArg IsoTpRx.active hrx)
        | ended hrx => exact .ended hrx
        | another htype hstatus => exact .another htype hstatus
        | full _ _ hframes => exact absurd hframes (by simp [framesLeft, isotpRxReset])
      next =>
        cases rxDispatch_classic hclassic frame now (clearEvent event) with
        | kept hrx => exact .kept hrx
        | ended hrx => exact .ended hrx
        | another htype hstatus => exact .another htype hstatus
        | full hconfig hdeadline hframes => exact .full hconfig hdeadline hframes

/-- Each consecutive frame of the message puts the deadline off once. -/
theorem rx_watchdog (hclassic : config.canFd = false) (hshort : patience < 2 ^ 31) :
    Watchdog rxCall KeepsOn TimedRxCall.time TimedRxCall.polls (fun rx : IsoTpRx ω => rx.active)
      (RxArmed config) framesLeft config.rxTimeoutMs.toNat patience where
  idle {rx call} hok hidle := by
    -- no frame but a first one makes an idle receiver active
    cases call with
    | feed frame ms event =>
      change ¬(isotpRxFeed rx frame (tick32 ms) event).rx.active = true
      have heffect := feed_effect rx frame (tick32 ms) event
      change frame.highNibble = 1 → _ at hok
      generalize isotpRxFeed rx frame (tick32 ms) event = out at heffect hok ⊢
      cases heffect with
      | ignored hrx => rwa [hrx]
      | abandoned hactive => simp [hactive]
      | single _ _ _ _ hactive => simp [hactive]
      | first _ htype _ _ _ _ _ _ _ hactive _ hstatus =>
        rw [hactive, decide_eq_true_eq]
        intro hmore
        exact hok htype (hstatus.trans (if_pos hmore))
      | consecutive _ _ hwas => exact absurd hwas hidle
    | tick ms =>
      change ¬(isotpRxTick rx (tick32 ms)).2.active = true
      unfold isotpRxTick
      rwa [if_pos hidle]
    | reset ms => exact Bool.false_ne_true
  step {rx call d} hok hbusy harmed hsoon := by
    -- a busy one is done, has a new deadline, or is before the old one
    obtain ⟨rfl, hdeadline⟩ := harmed
    cases call with
    | feed frame ms event =>
      cases feed_classic hclassic frame (tick32 ms) event with
      | kept hrx =>
        rw [show rxCall rx (.feed frame ms event) = rx from hrx]
        exact .inl ⟨⟨rfl, hdeadline⟩, Nat.le_refl _, fun h => Bool.noConfusion h⟩
      | ended hrx => exact absurd hbusy (by simp [rxCall, hrx])
      | another htype hstatus => exact absurd hstatus (hok htype)
      | full hconfig hput hframes =>
        rw [deadline_tick32] at hput
        exact .inr ⟨_, ⟨hconfig, hput⟩, Nat.le_add_right .., Nat.le_refl _, hframes⟩
    | tick ms =>
      have hbusy : (isotpRxTick rx (tick32 ms)).2.active = true := hbusy
      have hsoon : ms ≤ d + patience := hsoon
      have hkept : (isotpRxTick rx (tick32 ms)).2 = rx ∧ expired (tick32 ms) rx.deadlineMs = false := by
        unfold isotpRxTick at hbusy ⊢
        split at hbusy
        next hidle => exact absurd hbusy hidle
        next hrunning =>
          rw [if_neg hrunning]
          split at hbusy
          next => exact absurd hbusy (by simp [isotpRxReset])
          next hearly =>
            rw [if_neg hearly]
            exact ⟨rfl, Bool.eq_false_of_not_eq_true hearly⟩
      obtain ⟨hsame, hearly⟩ := hkept
      rw [show rxCall rx (.tick ms) = rx from hsame]
      refine .inl ⟨⟨rfl, hdeadline⟩, Nat.le_refl _, fun _ => Nat.lt_of_not_le fun hlate => ?_⟩
      have hlate : d ≤ ms := hlate
      rw [hdeadline, expired_of_le hlate (by omega)] at hearly
      exact Bool.noConfusion hearly
    | reset ms => exact absurd hbusy Bool.false_ne_true

theorem frameValid_classic (hclassic : config.canFd = false)
    (h : frameValid config frame = true) : ¬frame.isFd = true ∧ frame.dlc ≤ 8 := by
  unfold frameValid at h
  split at h
  next => exact absurd h (by decide)
  next =>
    split at h
    next hfd => exact ⟨hfd, of_decide_eq_true h⟩
    next =>
      rw [if_pos (.inl (by rw [hclassic]; decide))] at h
      exact absurd h (by decide)

theorem rxFirst_begun {now : UInt32} {event : IsoTpRxEvent} {n header : Nat}
    (hclassic : rx.config.canFd = false)
    (h : (rxFirst rx frame now event).status = .needFlowControl)
    (hlength : (decodeFf frame).1 = some (n, header)) :
    (rxFirst rx frame now event).rx.config = rx.config ∧
      (rxFirst rx frame now event).rx.deadlineMs = deadline now rx.config.rxTimeoutMs ∧
      (rxFirst rx frame now event).rx.expectedLen = n ∧
      (rxFirst rx frame now event).rx.receivedLen = min (frame.dlc - header) n ∧ 8 ≤ frame.dlc := by
  unfold rxFirst at h ⊢
  split at h
  next => exact absurd h (by simp)
  next hdlc =>
    rw [if_neg hdlc]
    split at h
    next => exact absurd h (by simp)
    next hfull =>
      rw [if_neg hfull]
      have hdlc : 8 ≤ frame.dlc := by
        by_contra hshort
        exact hfull ⟨by rw [hclassic]; decide, by omega⟩
      split at h
      next => exact absurd h (by simp)
      next found =>
        rw [found] at hlength
        obtain ⟨rfl, rfl⟩ := Prod.mk.inj (Option.some.inj hlength)
        split at h
        next => exact absurd h (by simp)
        next hlong =>
          dsimp only
          rw [if_neg hlong]
          split at h
          next => exact absurd h (by simp)
          next hmax =>
            rw [if_neg hmax]
            dsimp only at h ⊢
            split at h
            next => exact absurd h (by simp)
            next hactive =>
              rw [if_neg hactive]
              exact ⟨rfl, rfl, rfl, rfl, hdlc⟩

theorem first_armed {event : IsoTpRxEvent} {start n header : Nat}
    (hclassic : rx.config.canFd = false) (htype : frame.highNibble = 1)
    (haccepted : (isotpRxFeed rx frame (tick32 start) event).status = .needFlowControl)
    (hlength : (decodeFf frame).1 = some (n, header)) :
    RxArmed rx.config (isotpRxFeed rx frame (tick32 start) event).rx
        (start + rx.config.rxTimeoutMs.toNat) ∧
      framesLeft (isotpRxFeed rx frame (tick32 start) event).rx = n / 7 := by
  have hlong := (feed_accepted htype (.inl haccepted)).2 hlength
  have hdispatch : ∀ (rx : IsoTpRx ω) event,
      rxDispatch rx frame (tick32 start) event = rxFirst rx frame (tick32 start) event := by
    intro rx event
    simp only [rxDispatch, htype]
  unfold isotpRxFeed at haccepted ⊢
  split at haccepted
  next => exact absurd haccepted (by simp)
  next hvalid =>
    rw [if_neg hvalid]
    split at haccepted
    next => exact absurd haccepted (by simp)
    next hid =>
      rw [if_neg hid]
      obtain ⟨hfd, hdlc⟩ := frameValid_classic hclassic (not_not.mp hvalid)
      have hheader : (decodeFf frame).1
          = some (frame.lowNibble <<< 8 ||| (frame.data 1).toNat, 2) := by
        unfold decodeFf
        rw [if_pos (.inl hfd)]
      rw [hheader] at hlength
      obtain ⟨-, rfl⟩ := Prod.mk.inj (Option.some.inj hlength)
      -- the same whether the frame interrupts a reception or not
      have hbegun : ∀ (rx' : IsoTpRx ω) event, rx'.config = rx.config →
          (rxFirst rx' frame (tick32 start) event).status = .needFlowControl →
          RxArmed rx.config (rxFirst rx' frame (tick32 start) event).rx
              (start + rx.config.rxTimeoutMs.toNat) ∧
            framesLeft (rxFirst rx' frame (tick32 start) event).rx = n / 7 := by
        intro rx' event hsame hstatus
        obtain ⟨hconfig, hdeadline, hexpected, hreceived, hfull⟩ :=
          rxFirst_begun (by rw [hsame]; exact hclassic) hstatus (hheader.trans hlength)
        refine ⟨⟨hconfig.trans hsame, ?_⟩, ?_⟩
        · rw [hdeadline, deadline_tick32, hsame]
        · unfold framesLeft
          rw [hexpected, hreceived]
          omega
      dsimp only at haccepted ⊢
      split at haccepted
      next hunexpected =>
        rw [if_pos hunexpected]
        rw [hdispatch] at haccepted ⊢
        exact hbegun _ _ rfl haccepted
      next hexpected =>
        rw [if_neg hexpected]
        rw [hdispatch] at haccepted ⊢
        exact hbegun _ _ rfl haccepted

/-- **No peer keeps a reception open** on classic CAN, unless it begins another message: the
frames that its length leaves to send have one timeout each, and so has the first frame. -/
theorem reception_ends (rx : IsoTpRx ω) (frame : IsoTpCanFrame) (event : IsoTpRxEvent)
    (start n header : Nat) (calls : List TimedRxCall) (patience : Nat)
    (hclassic : rx.config.canFd = false) (htype : frame.highNibble = 1)
    (haccepted : (isotpRxFeed rx frame (tick32 start) event).status = .needFlowControl)
    (hlength : (decodeFf frame).1 = some (n, header)) (hshort : patience < 2 ^ 31)
    (hcalls : Punctual TimedRxCall.time TimedRxCall.polls patience start start calls)
    (hok : Along rxCall KeepsOn (isotpRxFeed rx frame (tick32 start) event).rx calls)
    (hlate : start + (n / 7 + 1) * (rx.config.rxTimeoutMs.toNat + patience)
      < lastTime TimedRxCall.time start calls) :
    (run rxCall (isotpRxFeed rx frame (tick32 start) event).rx calls).active = false := by
  obtain ⟨harmed, hframes⟩ := first_armed hclassic htype haccepted hlength
  have hwatch := rx_watchdog hclassic hshort
  rw [← hframes] at hlate
  exact Bool.eq_false_of_not_eq_true (hwatch.over harmed hcalls hok hlate)

end Receiver

/-- The first frame of eight bytes. -/
def eightFrame : IsoTpCanFrame :=
  { clearFrame 0x700 hastyConfig with data := Buf.ofList [0x10, 8, 1, 2, 3, 4, 5, 6] }

/-- A peer that sends a first frame, and then a single frame for somebody else. -/
theorem reception_ends_silent :
    (run rxCall (isotpRxFeed (isotpRxInit rawRx (some hastyConfig) 0x700 0x708) eightFrame
        (tick32 10) ⟨none, 0, false, false, eightFrame⟩).rx
      (.feed { eightFrame with canId := 0x123 } 11 ⟨none, 0, false, false, eightFrame⟩ ::
        (List.range' 11 8).map .tick)).active = false :=
  reception_ends _ eightFrame _ 10 8 2 _ 1 (by decide) (by decide) (by decide) (by decide)
    (by decide) (by simp [Punctual, List.range', TimedRxCall.time, TimedRxCall.polls])
    (by simp [Along, KeepsOn, List.range']; decide) (by decide)

end UdsIsoTp.IsoTp
