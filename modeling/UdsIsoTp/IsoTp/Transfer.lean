import UdsIsoTp.IsoTp.Link
import UdsIsoTp.Lib.Fair

/-!
# A transfer from end to end

Whatever the payload, the frame sizes, the block size and the padding, on a link that
loses nothing the payload arrives once, whole, and nobody complains.

`Sim` relates a state of the link to a position in the counting game of
`Segmentation`, and `sim_step` shows that every call made before its deadline is a move
of the game, or none. The game says the rest. A payload that fits one frame needs no
game; `Single` is its invariant.
-/

namespace UdsIsoTp.IsoTp

variable {ω : Type} {sc rc : IsoTpConfig ω} {down up : UInt32} {payload : List UInt8} {p : Plan}

/-- The receiver after its first `n` frames. -/
def RxAt (rc : IsoTpConfig ω) (payload : List UInt8) (p : Plan) : Nat → IsoTpRx ω → Prop
  | 0, rx => rx.active = false
  | n + 1, rx => if p.covered n < payload.length then RxBusy rc payload p n rx
      else rx.active = false

/-- What has been delivered after the first `n` frames. -/
def deliveredAt (payload : List UInt8) (p : Plan) : Nat → List (List UInt8)
  | 0 => []
  | n + 1 => if p.covered n < payload.length then [] else [payload]

/-- The link is at this position of the game. -/
structure Sim (sc rc : IsoTpConfig ω) (down up : UInt32) (payload : List UInt8) (p : Plan)
    (q : Progress) (s : Link ω) : Prop where
  placed : q.WellPlaced p
  ok : s.failed = false
  carries : Carries rc down payload p q.taken s.toReceiver
  inFlight : s.toReceiver.length + q.taken = q.sent + 1
  cts : ∀ frame ∈ s.toSender, CtsPdu sc rc up frame
  answers : s.toSender.length + q.granted = p.grants q.taken
  txEnd : TxEnd sc down up s.sender
  state : s.sender.state = q.state
  tx : q.state ≠ .idle → TxBusyAt rc payload p q s.sender
  rxEnd : RxEnd rc down up s.receiver
  rx : RxAt rc payload p q.taken s.receiver
  delivered : s.delivered = deliveredAt payload p q.taken

/-- The move of the game that a call makes. -/
def moveOf (s : Link ω) : LinkCall ω → Option Move
  | .deliver _ _ => some .deliver
  | .answer _ _ => some .answer
  | .next now _ _ => if expired now s.sender.nextFrameMs then some .next else none
  | .tickSender _ => none
  | .tickReceiver _ => none

/-- How far the transfer is after a move, if there is one. -/
def Progress.follow (p : Plan) (q : Progress) : Option Move → Progress
  | some m => q.move p m
  | none => q

/-- One more answer for each full block that is not the last. -/
theorem grants_succ (hbs : p.blockSize = rc.blockSize.toNat) {n : Nat}
    (hmore : p.covered n < p.length) :
    p.grants (n + 2) = p.grants (n + 1) +
      if p.covered (n + 1) < p.length ∧ rc.blockSize ≠ 0 ∧ (n + 1) % rc.blockSize.toNat = 0
      then 1 else 0 := by
  rw [grants_of_more hmore]
  rcases Nat.lt_or_ge (p.covered (n + 1)) p.length with hmore' | hdone
  · rw [grants_of_more hmore', Nat.succ_div, hbs]
    by_cases hzero : rc.blockSize = 0
    · have h0 : rc.blockSize.toNat = 0 := by rw [hzero]; rfl
      rw [if_neg (by rw [h0]; simp), if_neg (by simp [hzero]), Nat.add_zero, Nat.add_zero]
    · by_cases hdvd : rc.blockSize.toNat ∣ n + 1
      · rw [if_pos hdvd, if_pos ⟨hmore', hzero, Nat.mod_eq_zero_of_dvd hdvd⟩, Nat.add_assoc]
      · rw [if_neg hdvd, if_neg (fun h => hdvd (Nat.dvd_of_mod_eq_zero h.2.2))]
        rfl
  · rw [grants_of_done hdone, if_neg (by omega)]
    rfl

/-- The receiver takes the first frame. -/
theorem sim_first {q : Progress} {s : Link ω} {frame : IsoTpCanFrame}
    {rest : List IsoTpCanFrame} (now : UInt32) (event : IsoTpRxEvent)
    (hcompat : Compatible sc rc) (hplan : PlanOf sc rc payload p) (hlong : 7 < payload.length)
    (hfits : payload.length ≤ maxPayload) (h : Sim sc rc down up payload p q s)
    (hqueue : s.toReceiver = frame :: rest) (htaken : q.taken = 0) :
    Sim sc rc down up payload p { q with taken := 1 } (linkStep s (.deliver now event)) := by
  have hle : q.taken ≤ q.sent := by
    have := h.inFlight
    simp [hqueue] at this
    omega
  have hplaced : ({ q with taken := 1 } : Progress).WellPlaced p := by
    have := move_wellPlaced h.placed .deliver
    simp only [Progress.move, if_pos hle] at this
    rwa [htaken] at this
  obtain ⟨hframe, hrest⟩ : Pdu rc down payload p 0 frame ∧ Carries rc down payload p 1 rest := by
    have := h.carries
    rwa [hqueue, htaken] at this
  have hrx : s.receiver.active = false := by
    have := h.rx
    rwa [htaken] at this
  -- The idle receiver takes the length from the frame and answers with a grant.
  obtain ⟨hstatus, hend, hbusy, hflow, hcts⟩ :=
    feed_first now event hcompat.toMatched h.rxEnd hrx hplan.length hlong hfits hframe
  have hfirst : p.covered 0 < payload.length := by
    have := p.first_lt
    have := hplan.length
    simp only [Plan.covered]
    omega
  simp only [linkStep, hqueue, hstatus, hflow, if_true]
  refine ⟨hplaced, by simp [h.ok, IsoTpStatus.isError], hrest, ?_, ?_, ?_, h.txEnd, h.state,
    fun hidle => ?_, hend, ?_, ?_⟩
  · have := h.inFlight
    simp [hqueue] at this
    dsimp only
    omega
  · intro f hf
    rcases List.mem_append.mp hf with hf | hf
    · exact h.cts f hf
    · rw [List.mem_singleton.mp hf]
      exact hcts
  · have := h.answers
    have hone : p.grants 1 = 1 := by
      rw [grants_of_more (by rw [hplan.length]; exact hfirst)]
      simp
    simp only [htaken, Plan.grants] at this
    simp only [List.length_append, List.length_singleton, hone]
    omega
  · have hb := h.tx hidle
    exact ⟨hb.bytes, hb.payloadLen, hb.offset, hb.nextSequence, hb.remoteBlockSize, hb.blockCount⟩
  · simp only [RxAt, if_pos hfirst]
    exact hbusy
  · simp only [deliveredAt, if_pos hfirst, h.delivered, htaken]
    rfl

/-- The receiver takes a consecutive frame. -/
theorem sim_consecutive {q : Progress} {s : Link ω} {frame : IsoTpCanFrame}
    {rest : List IsoTpCanFrame} {n : Nat} (now : UInt32) (event : IsoTpRxEvent)
    (hcompat : Compatible sc rc) (hplan : PlanOf sc rc payload p)
    (h : Sim sc rc down up payload p q s)
    (hqueue : s.toReceiver = frame :: rest) (htaken : q.taken = n + 1) :
    Sim sc rc down up payload p { q with taken := n + 2 } (linkStep s (.deliver now event)) := by
  have hle : q.taken ≤ q.sent := by
    have := h.inFlight
    simp [hqueue] at this
    omega
  have hplaced : ({ q with taken := n + 2 } : Progress).WellPlaced p := by
    have := move_wellPlaced h.placed .deliver
    simp only [Progress.move, if_pos hle] at this
    rwa [htaken] at this
  have hmore : p.covered n < payload.length := by
    rw [← hplan.length]
    exact covered_lt_of_sent h.placed.needed (by omega)
  obtain ⟨hframe, hrest⟩ : NextPdu rc down payload p n frame ∧
      Carries rc down payload p (n + 2) rest := by
    have := h.carries
    rwa [hqueue, htaken] at this
  have hrx : RxBusy rc payload p n s.receiver := by
    have := h.rx
    rwa [htaken, RxAt, if_pos hmore] at this
  have hdelivered : s.delivered = [] := by
    have := h.delivered
    rwa [htaken, deliveredAt, if_pos hmore] at this
  have hinFlight : rest.length + (n + 2) = q.sent + 1 := by
    have := h.inFlight
    simp [hqueue] at this
    omega
  have hanswers : s.toSender.length + q.granted = p.grants (n + 1) := by
    rw [h.answers, htaken]
  -- the answers in flight are counted against the grants of the plan
  have hgrants := grants_succ hplan.blockSize
    (show p.covered n < p.length by rw [hplan.length]; exact hmore)
  have htx : ∀ hidle : q.state ≠ .idle,
      TxBusyAt rc payload p { q with taken := n + 2 } s.sender := fun hidle =>
    have hb := h.tx hidle
    ⟨hb.bytes, hb.payloadLen, hb.offset, hb.nextSequence, hb.remoteBlockSize, hb.blockCount⟩
  obtain ⟨hend, hout⟩ := feed_next now event hcompat.toMatched h.rxEnd hmore hrx hframe
  simp only [linkStep, hqueue]
  -- the frame is the last one, or it ends a block and is answered, or neither
  by_cases hall : payload.length ≤ p.covered (n + 1)
  · rw [if_pos hall] at hout
    obtain ⟨hstatus, hactive, hbytes, hflow⟩ := hout
    rw [if_neg (by rw [hplan.length]; omega)] at hgrants
    simp only [hstatus, hflow, if_true, Bool.false_eq_true, if_false, hbytes]
    refine ⟨hplaced, by simp [h.ok, IsoTpStatus.isError], hrest, hinFlight, h.cts, ?_, h.txEnd,
      h.state, htx, hend, ?_, ?_⟩
    · show s.toSender.length + q.granted = p.grants (n + 2)
      omega
    · simp only [RxAt, if_neg (Nat.not_lt.mpr hall)]
      exact hactive
    · simp only [deliveredAt, if_neg (Nat.not_lt.mpr hall), hdelivered]
      rfl
  · rw [if_neg hall] at hout
    have hmore' : p.covered (n + 1) < payload.length := Nat.lt_of_not_le hall
    obtain ⟨hbusy, hout⟩ := hout
    have hrx' : RxAt rc payload p (n + 2) (isotpRxFeed s.receiver frame now event).rx := by
      simp only [RxAt, if_pos hmore']
      exact hbusy
    have hdelivered' : s.delivered = deliveredAt payload p (n + 2) := by
      simp only [deliveredAt, if_pos hmore']
      exact hdelivered
    by_cases hblock : rc.blockSize ≠ 0 ∧ (n + 1) % rc.blockSize.toNat = 0
    · rw [if_pos hblock] at hout
      obtain ⟨hstatus, hflow, hcts⟩ := hout
      rw [if_pos ⟨by rw [hplan.length]; exact hmore', hblock⟩] at hgrants
      simp only [hstatus, hflow, if_true, reduceCtorEq, if_false]
      refine ⟨hplaced, by simp [h.ok, IsoTpStatus.isError], hrest, hinFlight, ?_, ?_, h.txEnd,
        h.state, htx, hend, hrx', hdelivered'⟩
      · intro f hf
        rcases List.mem_append.mp hf with hf | hf
        · exact h.cts f hf
        · rw [List.mem_singleton.mp hf]
          exact hcts
      · rw [List.length_append, List.length_singleton]
        dsimp only
        omega
    · rw [if_neg hblock] at hout
      obtain ⟨hstatus, hflow⟩ := hout
      rw [if_neg (fun hno => hblock hno.2)] at hgrants
      simp only [hstatus, hflow, Bool.false_eq_true, reduceCtorEq, if_false]
      refine ⟨hplaced, by simp [h.ok, IsoTpStatus.isError], hrest, hinFlight, h.cts, ?_, h.txEnd,
        h.state, htx, hend, hrx', hdelivered'⟩
      show s.toSender.length + q.granted = p.grants (n + 2)
      omega

theorem sim_deliver {q : Progress} {s : Link ω} (now : UInt32) (event : IsoTpRxEvent)
    (hcompat : Compatible sc rc) (hplan : PlanOf sc rc payload p) (hlong : 7 < payload.length)
    (hfits : payload.length ≤ maxPayload) (h : Sim sc rc down up payload p q s) :
    Sim sc rc down up payload p (q.move p .deliver) (linkStep s (.deliver now event)) := by
  have hinFlight := h.inFlight
  cases hqueue : s.toReceiver with
  | nil =>
    have hnone : ¬q.taken ≤ q.sent := by
      simp [hqueue] at hinFlight
      omega
    simp only [Progress.move, if_neg hnone, linkStep, hqueue]
    exact h
  | cons frame rest =>
    have hle : q.taken ≤ q.sent := by
      simp [hqueue] at hinFlight
      omega
    simp only [Progress.move, if_pos hle]
    cases htaken : q.taken with
    | zero => exact sim_first now event hcompat hplan hlong hfits h hqueue htaken
    | succ n => exact sim_consecutive now event hcompat hplan h hqueue htaken

/-- The sender takes a clear-to-send. -/
theorem sim_answer {q : Progress} {s : Link ω} (now : UInt32) (w : ω)
    (hcompat : Compatible sc rc) (h : Sim sc rc down up payload p q s) :
    Sim sc rc down up payload p (q.move p .answer) (linkStep s (.answer now w)) := by
  have hplaced := move_wellPlaced h.placed .answer
  have hanswers := h.answers
  cases hqueue : s.toSender with
  | nil =>
    have hnone : ¬q.granted < p.grants q.taken := by
      simp [hqueue] at hanswers
      omega
    simp only [Progress.move, if_neg hnone, linkStep, hqueue]
    exact h
  | cons frame rest =>
    have hgrant : q.granted < p.grants q.taken := by
      simp [hqueue] at hanswers
      omega
    have hawaits := awaits_of_grant h.placed hgrant
    have hbusy := h.tx (by rcases hawaits with hs | hs <;> rw [hs] <;> simp)
    have hcts := h.cts frame (by rw [hqueue]; simp)
    have hflow := feedFlowControl_cts now w hcompat h.txEnd
      (by unfold AwaitsFlow; rw [h.state]; exact hawaits) hcts
    simp only [Progress.move, if_pos hgrant, linkStep, hqueue, hflow] at hplaced ⊢
    refine ⟨hplaced, by simp [h.ok, IsoTpStatus.isError], h.carries, h.inFlight, ?_, ?_,
      ⟨h.txEnd.config, h.txEnd.requestId, h.txEnd.responseId⟩, rfl, fun _ => ?_, h.rxEnd, h.rx,
      h.delivered⟩
    · intro f hf
      exact h.cts f (by rw [hqueue]; exact List.mem_cons_of_mem _ hf)
    · simp only [hqueue, List.length_cons] at hanswers
      dsimp only
      omega
    · refine ⟨hbusy.bytes, hbusy.payloadLen, hbusy.offset, hbusy.nextSequence,
        fun _ => hcts.blockSize, fun _ _ => ?_⟩
      -- the block begins where the last one ended
      have hphase := h.placed.phase
      simp only [Nat.add_sub_cancel]
      rcases hawaits with hs | hs
      · rw [hs] at hphase
        obtain ⟨hsent, hgranted⟩ := hphase
        simp [txGrant, hsent, hgranted]
      · rw [hs] at hphase
        obtain ⟨-, hsent, -⟩ := hphase
        simp [txGrant, hsent]

/-- The sender hands out the next consecutive frame. -/
theorem sim_sent {q : Progress} {s : Link ω} (now : UInt32) (hcompat : Compatible sc rc)
    (hplan : PlanOf sc rc payload p) (h : Sim sc rc down up payload p q s)
    (hs : q.state = .sendConsecutive) (hmore : p.covered q.sent < payload.length) :
    Sim sc rc down up payload p
      { q with
        sent := q.sent + 1
        state := if p.BlockEnds (q.sent + 1) q.granted then .waitBlockFlowControl
          else .sendConsecutive }
      { s with
        sender := txAdvance s.sender now (txCopy s.sender) s.sender.nextFrameUs
        toReceiver := s.toReceiver ++ [txConsecutiveFrame s.sender (txCopy s.sender)] } := by
  have hbusy := h.tx (by rw [hs]; simp)
  have hplaced := move_wellPlaced h.placed .next
  have hlength := hplan.length
  simp only [Progress.move, if_pos hs, if_neg (show ¬p.length ≤ p.covered q.sent by omega)]
    at hplaced
  have hsucc := covered_succ p q.sent
  have hoffset : s.sender.offset = p.covered q.sent := by rw [hbusy.offset]; omega
  have hcopy : txCopy s.sender = min p.chunk (payload.length - p.covered q.sent) := by
    rw [txCopy, hbusy.payloadLen, hoffset, h.txEnd.config, ← hplan.chunk, Nat.min_comm]
  have hblock := hbusy.remoteBlockSize hs
  have hgranted : p.InGrant q.sent q.granted := by
    have hphase := h.placed.phase
    rwa [hs] at hphase
  have hpos : rc.blockSize ≠ 0 → p.blockSize ≠ 0 := fun hbs h0 => hbs
    (UInt8.toNat_inj.mp (by rw [← hplan.blockSize, h0]; rfl))
  have hbyte := rc.blockSize.toNat_lt
  have hbs := hplan.blockSize
  have hgrant : (q.granted - 1) * p.blockSize + p.blockSize = q.granted * p.blockSize := by
    rw [← Nat.succ_mul, Nat.succ_eq_add_one, Nat.sub_add_cancel hgranted.pos]
  -- the code's block counter and the plan's agree on where the block ends
  have hcount : rc.blockSize ≠ 0 → (s.sender.blockCount + 1) % 256 = s.sender.blockCount + 1 := by
    intro hne
    have hbc := hbusy.blockCount hs hne
    have hopen := hgranted.still_open (hpos hne)
    exact Nat.mod_eq_of_lt (by omega)
  have hends : BlockFull s.sender (txCopy s.sender) ↔ p.BlockEnds (q.sent + 1) q.granted := by
    unfold BlockFull Plan.BlockEnds
    rw [hblock, hbusy.payloadLen, hoffset, hcopy]
    constructor
    · rintro ⟨hne, hge, hlt⟩
      have hbc := hbusy.blockCount hs hne
      have hopen := hgranted.still_open (hpos hne)
      rw [hcount hne] at hge
      exact ⟨hpos hne, by omega, by omega⟩
    · rintro ⟨hne, heq, hlt⟩
      have hne' : rc.blockSize ≠ 0 := by
        rintro h0
        rw [h0] at hbs
        exact hne hbs
      have hbc := hbusy.blockCount hs hne'
      rw [hcount hne']
      exact ⟨hne', by omega, by omega⟩
  have hstate : (txAdvance s.sender now (txCopy s.sender) s.sender.nextFrameUs).state
      = if p.BlockEnds (q.sent + 1) q.granted then .waitBlockFlowControl
        else .sendConsecutive := by
    simp only [txAdvance, hends, h.state, hs]
  refine ⟨hplaced, h.ok, ?_, ?_, h.cts, h.answers,
    ⟨h.txEnd.config, h.txEnd.requestId, h.txEnd.responseId⟩, hstate, fun _ => ?_, h.rxEnd, h.rx,
    h.delivered⟩
  · refine carries_concat rc down payload p h.carries ?_
    have hinFlight := h.inFlight
    rw [show q.taken + s.toReceiver.length = q.sent + 1 by omega]
    exact nextFrame_pdu hcompat.toMatched hplan h.txEnd hbusy hmore
  · have hinFlight := h.inFlight
    rw [List.length_append, List.length_singleton]
    dsimp only
    omega
  · refine ⟨hbusy.bytes, hbusy.payloadLen, ?_, ?_, fun _ => hblock, fun hs' hne => ?_⟩
    · show s.sender.offset + txCopy s.sender = min payload.length (p.covered (q.sent + 1))
      omega
    · show (s.sender.nextSequence + 1) % 16 = (q.sent + 1 + 1) % 16
      rw [hbusy.nextSequence]
      omega
    · have hnot : ¬p.BlockEnds (q.sent + 1) q.granted := by
        intro hfull
        dsimp only at hs'
        rw [if_pos hfull] at hs'
        exact absurd hs' (by simp)
      have hbc := hbusy.blockCount hs hne
      show (if BlockFull s.sender (txCopy s.sender) then 0 else (s.sender.blockCount + 1) % 256)
        + (q.granted - 1) * p.blockSize = q.sent + 1
      rw [if_neg (fun hfull => hnot (hends.mp hfull)), hcount hne]
      omega

/-- The sender is polled. -/
theorem sim_next {q : Progress} {s : Link ω} (now : UInt32) (frame : IsoTpCanFrame) (w : ω)
    (hcompat : Compatible sc rc) (hplan : PlanOf sc rc payload p)
    (h : Sim sc rc down up payload p q s) (htime : InTime s (.next now frame w)) :
    Sim sc rc down up payload p (q.follow p (moveOf s (.next now frame w)))
      (linkStep s (.next now frame w)) := by
  have hlength := hplan.length
  by_cases hs : q.state = .sendConsecutive
  · have hstate : s.sender.state = .sendConsecutive := h.state.trans hs
    have hbusy := h.tx (by rw [hs]; simp)
    have hout := next_of_sending frame w hstate
      (by rw [h.txEnd.config]; exact hcompat.senderClock) (htime (by rw [hstate]; simp))
    simp only [linkStep, moveOf, hout]
    cases hpaced : expired now s.sender.nextFrameMs with
    | false =>
      simp only [Bool.false_eq_true, if_false, reduceCtorEq, IsoTpStatus.isError, Bool.or_false]
      exact h
    | true =>
      simp only [if_true, Progress.follow, Progress.move, if_pos hs]
      rw [hbusy.payloadLen, hbusy.offset]
      -- either everything was sent and the sender ends, or one more frame goes out
      by_cases hdone : p.length ≤ p.covered q.sent
      · have hplaced := move_wellPlaced h.placed .next
        simp only [Progress.move, if_pos hs, if_pos hdone] at hplaced
        have hall : payload.length ≤ min payload.length (p.covered q.sent) := by omega
        simp only [if_pos hdone, if_pos hall, reduceCtorEq, if_false, IsoTpStatus.isError,
          Bool.or_false]
        exact ⟨hplaced, h.ok, h.carries, h.inFlight, h.cts, h.answers,
          ⟨h.txEnd.config, h.txEnd.requestId, h.txEnd.responseId⟩, rfl,
          fun hidle => absurd rfl hidle, h.rxEnd, h.rx, h.delivered⟩
      · have hmore : ¬payload.length ≤ min payload.length (p.covered q.sent) := by omega
        simp only [if_neg hdone, if_neg hmore, if_true, IsoTpStatus.isError, Bool.or_false]
        exact sim_sent now hcompat hplan h hs (by omega)
  -- a sender that waits for a flow control does nothing
  · have hout := next_of_not_sending s.sender now frame w (by rw [h.state]; exact hs)
    have hfollow : q.follow p (moveOf s (.next now frame w)) = q := by
      unfold moveOf
      dsimp only
      split
      · exact if_neg hs
      · rfl
    rw [hfollow]
    simp only [linkStep, hout, reduceCtorEq, if_false, IsoTpStatus.isError, Bool.or_false]
    exact h

/-- **Every call is a move of the game, or none.** -/
theorem sim_step {q : Progress} {s : Link ω} {call : LinkCall ω} (hcompat : Compatible sc rc)
    (hplan : PlanOf sc rc payload p) (hlong : 7 < payload.length)
    (hfits : payload.length ≤ maxPayload) (h : Sim sc rc down up payload p q s)
    (htime : InTime s call) :
    Sim sc rc down up payload p (q.follow p (moveOf s call)) (linkStep s call) := by
  cases call with
  | deliver now event => exact sim_deliver now event hcompat hplan hlong hfits h
  | answer now w => exact sim_answer now w hcompat h
  | next now frame w => exact sim_next now frame w hcompat hplan h htime
  | tickSender now =>
    have hout : isotpTxTick s.sender now = (.ok, s.sender) := by
      unfold isotpTxTick
      by_cases hidle : s.sender.state = .idle
      · rw [if_pos hidle]
      · rw [if_neg hidle, if_neg (by rw [htime hidle]; simp)]
    simp only [linkStep, hout, IsoTpStatus.isError, Bool.or_false]
    exact h
  | tickReceiver now =>
    have hout : isotpRxTick s.receiver now = (.ok, s.receiver) := by
      unfold isotpRxTick
      by_cases hactive : s.receiver.active = true
      · rw [if_neg (by simp [hactive]), if_neg (by rw [htime hactive]; simp)]
      · rw [if_pos (by simpa using hactive)]
    simp only [linkStep, hout, IsoTpStatus.isError, Bool.or_false]
    exact h

/-! ## How a transfer begins -/

theorem start_accepted {tx : IsoTpTx ω} (now : UInt32) (frame : IsoTpCanFrame)
    (hvalid : validTxConfig tx.config = true) (hpos : 1 ≤ payload.length)
    (hfits : payload.length ≤ maxPayload) :
    (isotpTxStart tx payload now frame).status = .txFrameReady := by
  have hargs : ¬(payload.length = 0 ∨ ¬validTxConfig tx.config = true) := by
    rintro (h | h)
    · omega
    · exact h hvalid
  unfold isotpTxStart
  rw [if_neg hargs, if_neg (Nat.not_lt.mpr hfits)]
  dsimp only
  split <;> rfl

/-- The plan of a transfer that needs more than one frame. -/
def planFor (sc rc : IsoTpConfig ω) (payload : List UInt8)
    (hfirst : sc.txDl - ffHeader payload.length < payload.length) (hdl : 8 ≤ sc.txDl) : Plan where
  length := payload.length
  first := sc.txDl - ffHeader payload.length
  chunk := sc.txDl - 1
  blockSize := rc.blockSize.toNat
  first_lt := hfirst
  chunk_pos := by omega

theorem sim_start {tx : IsoTpTx ω} {rx : IsoTpRx ω} {out : TxOut ω} {now : UInt32}
    (hcompat : Compatible sc rc) (hplan : PlanOf sc rc payload p) (htx : TxEnd sc down up tx)
    (hrx : RxEnd rc down up rx) (hidle : rx.active = false)
    (hclassic : sc.canFd = false → payload.length ≤ 4095) (hstarted : Started tx payload out)
    (hout : out = ⟨.txFrameReady, (txBuildFirstFrame (txLoad tx payload now) payload).1,
      (txBuildFirstFrame (txLoad tx payload now) payload).2⟩) :
    Sim sc rc down up payload p .start
      { sender := out.tx, receiver := rx, toReceiver := [out.frame], toSender := []
        delivered := [], failed := false } := by
  have htx' : TxEnd sc down up (txLoad tx payload now) :=
    ⟨htx.config, htx.requestId, htx.responseId⟩
  have hfirst : FirstPdu rc down payload p out.frame := by
    rw [hout]
    exact firstFrame_pdu hcompat.toMatched hplan htx' hstarted.long hstarted.fits hclassic
  refine ⟨start_wellPlaced p, rfl, ⟨hfirst, trivial⟩, rfl, by simp, rfl, ?_, hstarted.state,
    fun _ => ⟨hstarted.buffer, hstarted.payloadLen, ?_, hstarted.nextSequence, ?_, ?_⟩, hrx,
    hidle, rfl⟩
  · rw [hout]
    exact ⟨htx.config, htx.requestId, htx.responseId⟩
  · have hlt := p.first_lt
    have hlength := hplan.length
    rw [hstarted.offset, htx.config, ← hplan.first]
    simp only [Progress.start, Plan.covered]
    omega
  · intro hs
    exact absurd hs (by simp [Progress.start])
  · intro hs
    exact absurd hs (by simp [Progress.start])

/-! ## A payload in one frame -/

/-- The one frame is under way, or has been delivered. -/
structure Single (rc : IsoTpConfig ω) (down up : UInt32) (payload : List UInt8)
    (s : Link ω) : Prop where
  ok : s.failed = false
  idle : s.sender.state = .idle
  rxEnd : RxEnd rc down up s.receiver
  inactive : s.receiver.active = false
  toSender : s.toSender = []
  frame : (∃ frame, s.toReceiver = [frame] ∧ SinglePdu rc down payload frame ∧ s.delivered = []) ∨
    (s.toReceiver = [] ∧ s.delivered = [payload])

theorem single_step {s : Link ω} {call : LinkCall ω} (hfits : payload.length ≤ maxPayload)
    (h : Single rc down up payload s) : Single rc down up payload (linkStep s call) := by
  cases call with
  | deliver now event =>
    rcases h.frame with ⟨frame, hqueue, hframe, hnone⟩ | ⟨hqueue, hdone⟩
    · obtain ⟨hstatus, hend, hinactive, hbytes, hflow⟩ :=
        feed_single now event h.rxEnd h.inactive hfits hframe
      simp only [linkStep, hqueue, hstatus, hflow, hbytes, if_true, Bool.false_eq_true, if_false]
      exact ⟨by simp [h.ok, IsoTpStatus.isError], h.idle, hend, hinactive, h.toSender,
        .inr ⟨rfl, by rw [hnone]; rfl⟩⟩
    · simp only [linkStep, hqueue]
      exact h
  | answer now w =>
    simp only [linkStep, h.toSender]
    exact h
  | next now frame w =>
    have hout := next_of_not_sending s.sender now frame w (by rw [h.idle]; simp)
    simp only [linkStep, hout, reduceCtorEq, if_false, IsoTpStatus.isError, Bool.or_false]
    exact h
  | tickSender now =>
    have hout : isotpTxTick s.sender now = (.ok, s.sender) := if_pos h.idle
    simp only [linkStep, hout, IsoTpStatus.isError, Bool.or_false]
    exact h
  | tickReceiver now =>
    have hout : isotpRxTick s.receiver now = (.ok, s.receiver) := if_pos (by simp [h.inactive])
    simp only [linkStep, hout, IsoTpStatus.isError, Bool.or_false]
    exact h

theorem single_delivered {s : Link ω} (hfits : payload.length ≤ maxPayload)
    (h : Single rc down up payload s) (now : UInt32) (event : IsoTpRxEvent) :
    (linkStep s (.deliver now event)).delivered = [payload] := by
  rcases h.frame with ⟨frame, hqueue, hframe, hnone⟩ | ⟨hqueue, hdone⟩
  · obtain ⟨hstatus, -, -, hbytes, -⟩ :=
      feed_single now event h.rxEnd h.inactive hfits hframe
    simp only [linkStep, hqueue, hstatus, hbytes, if_true, hnone]
    rfl
  · simp only [linkStep, hqueue]
    exact hdone

theorem single_stays {s : Link ω} {call : LinkCall ω} (h : Single rc down up payload s)
    (hdone : s.delivered = [payload]) : (linkStep s call).delivered = [payload] := by
  have hqueue : s.toReceiver = [] := by
    rcases h.frame with ⟨-, -, -, hnone⟩ | ⟨hqueue, -⟩
    · rw [hnone] at hdone
      exact absurd hdone (by simp)
    · exact hqueue
  cases call with
  | deliver now event =>
    simp only [linkStep, hqueue]
    exact hdone
  | answer now w =>
    simp only [linkStep, h.toSender]
    exact hdone
  | next now frame w => exact hdone
  | tickSender now => exact hdone
  | tickReceiver now => exact hdone

/-! ## Every fair run finishes -/

/-- The schedule keeps delivering and polling, the polls at times when pacing has expired. -/
structure FairSchedule (s₀ : Link ω) (schedule : ℕ → LinkCall ω) : Prop where
  deliver : ∀ n, ∃ m, n ≤ m ∧ ∃ now event, schedule m = .deliver now event
  answer : ∀ n, ∃ m, n ≤ m ∧ ∃ now w, schedule m = .answer now w
  next : ∀ n, ∃ m, n ≤ m ∧ ∃ now frame w, schedule m = .next now frame w ∧
    ((states linkStep s₀ schedule m).sender.state = .sendConsecutive →
      expired now (states linkStep s₀ schedule m).sender.nextFrameMs = true)

/-- The positions of the game along a run. -/
def positions (p : Plan) (s₀ : Link ω) (schedule : ℕ → LinkCall ω) : ℕ → Progress
  | 0 => .start
  | n + 1 => (positions p s₀ schedule n).follow p
      (moveOf (states linkStep s₀ schedule n) (schedule n))

theorem sim_run {s₀ : Link ω} {schedule : ℕ → LinkCall ω} (hcompat : Compatible sc rc)
    (hplan : PlanOf sc rc payload p) (hlong : 7 < payload.length)
    (hfits : payload.length ≤ maxPayload) (h0 : Sim sc rc down up payload p .start s₀)
    (htime : ∀ n, InTime (states linkStep s₀ schedule n) (schedule n)) (n : ℕ) :
    Sim sc rc down up payload p (positions p s₀ schedule n) (states linkStep s₀ schedule n) := by
  induction n with
  | zero => exact h0
  | succ n ih => exact sim_step hcompat hplan hlong hfits ih (htime n)

/-- A fair schedule brings every unfinished position on. -/
theorem positions_advance {s₀ : Link ω} {schedule : ℕ → LinkCall ω}
    (hfair : FairSchedule s₀ schedule)
    (hsim : ∀ n, Sim sc rc down up payload p (positions p s₀ schedule n)
      (states linkStep s₀ schedule n)) (n : ℕ)
    (hunfinished : ¬(positions p s₀ schedule n).Final) :
    ∃ m, n ≤ m ∧ (positions p s₀ schedule m = positions p s₀ schedule n →
      (positions p s₀ schedule n).rank < (positions p s₀ schedule (m + 1)).rank) := by
  have hplaced := (hsim n).placed
  by_cases hdeliver : (positions p s₀ schedule n).taken ≤ (positions p s₀ schedule n).sent
  · obtain ⟨m, hm, now, event, hcall⟩ := hfair.deliver n
    refine ⟨m, hm, fun heq => ?_⟩
    simp only [positions, hcall, heq]
    exact move_advances (m := .deliver) hplaced hdeliver
  · by_cases hanswer : (positions p s₀ schedule n).granted
        < p.grants (positions p s₀ schedule n).taken
    · obtain ⟨m, hm, now, w, hcall⟩ := hfair.answer n
      refine ⟨m, hm, fun heq => ?_⟩
      simp only [positions, hcall, heq]
      exact move_advances (m := .answer) hplaced hanswer
    · by_cases hnext : (positions p s₀ schedule n).state = .sendConsecutive
      · obtain ⟨m, hm, now, frame, w, hcall, hpaced⟩ := hfair.next n
        refine ⟨m, hm, fun heq => ?_⟩
        have hexpired := hpaced (by rw [(hsim m).state, heq]; exact hnext)
        simp only [positions, hcall, moveOf, hexpired, if_true, heq]
        exact move_advances (m := .next) hplaced hnext
      · exact absurd (stuck_final hplaced (Nat.lt_of_not_le hdeliver) (Nat.le_of_not_lt hanswer)
          hnext) hunfinished

/-- What a run of the link comes to. -/
structure Completes (payload : List UInt8) (run : ℕ → Link ω) : Prop where
  safe : ∀ n, (run n).failed = false ∧ ((run n).delivered = [] ∨ (run n).delivered = [payload])
  done : ∃ N, ∀ n, N ≤ n → (run n).sender.state = .idle ∧ (run n).delivered = [payload]

theorem deliveredAt_cases (payload : List UInt8) (p : Plan) (n : Nat) :
    deliveredAt payload p n = [] ∨ deliveredAt payload p n = [payload] := by
  cases n with
  | zero => exact .inl rfl
  | succ n =>
    simp only [deliveredAt]
    split
    · exact .inl rfl
    · exact .inr rfl

/-- A simulated run under a fair schedule completes. -/
theorem sim_completes {s₀ : Link ω} {schedule : ℕ → LinkCall ω} (hplan : PlanOf sc rc payload p)
    (hfair : FairSchedule s₀ schedule)
    (hsim : ∀ n, Sim sc rc down up payload p (positions p s₀ schedule n)
      (states linkStep s₀ schedule n)) :
    Completes payload (states linkStep s₀ schedule) := by
  have hstep : ∀ n, positions p s₀ schedule (n + 1) = positions p s₀ schedule n ∨
      (positions p s₀ schedule n).rank < (positions p s₀ schedule (n + 1)).rank := by
    intro n
    simp only [positions]
    cases moveOf (states linkStep s₀ schedule n) (schedule n) with
    | none => exact .inl rfl
    | some m => exact move_rank (hsim n).placed m
  have hstay : ∀ n, (positions p s₀ schedule n).Final →
      positions p s₀ schedule (n + 1) = positions p s₀ schedule n := by
    intro n hfinal
    simp only [positions]
    cases moveOf (states linkStep s₀ schedule n) (schedule n) with
    | none => rfl
    | some m => exact move_final (hsim n).placed hfinal m
  obtain ⟨N, hfinal⟩ := reaches_final (fun n => rank_le (hsim n).placed) hstep
    (positions_advance hfair hsim)
  refine ⟨fun n => ⟨(hsim n).ok, ?_⟩, N, fun n hn => ?_⟩
  · rw [(hsim n).delivered]
    exact deliveredAt_cases ..
  · obtain ⟨hidle, htaken⟩ := final_from hstay hfinal hn
    have hphase := (hsim n).placed.phase
    rw [hidle] at hphase
    refine ⟨(hsim n).state.trans hidle, ?_⟩
    rw [(hsim n).delivered, htaken, deliveredAt, if_neg]
    rw [← hplan.length]
    exact Nat.not_lt.mpr hphase.2

/-- A payload in one frame is delivered by the first delivery. -/
theorem single_completes {s₀ : Link ω} {schedule : ℕ → LinkCall ω}
    (hfits : payload.length ≤ maxPayload) (hfair : FairSchedule s₀ schedule)
    (h0 : Single rc down up payload s₀) : Completes payload (states linkStep s₀ schedule) := by
  have hsingle : ∀ n, Single rc down up payload (states linkStep s₀ schedule n) := by
    intro n
    induction n with
    | zero => exact h0
    | succ n ih => exact single_step hfits ih
  obtain ⟨m, -, now, event, hcall⟩ := hfair.deliver 0
  refine ⟨fun n => ⟨(hsingle n).ok, ?_⟩, m + 1, fun n hn => ⟨(hsingle n).idle, ?_⟩⟩
  · rcases (hsingle n).frame with ⟨-, -, -, hnone⟩ | ⟨-, hdone⟩
    · exact .inl hnone
    · exact .inr hdone
  · induction hn with
    | refl =>
      simp only [states, hcall]
      exact single_delivered hfits (hsingle m) now event
    | step _ ih => exact single_stays (hsingle _) ih

/-- **End-to-end transfer.** Between fresh ends that fit together, whenever no deadline
is reached and every frame in flight is eventually fed: neither side ever reports an
error, the payload is reported at most once and never anything else, and in the end it
has been reported and the sender is idle. -/
theorem transfer_completes (tx₀ : IsoTpTx ω) (rx₀ : IsoTpRx ω) (sc rc : IsoTpConfig ω)
    (down up : UInt32) (payload : List UInt8) (now : UInt32) (frame : IsoTpCanFrame)
    (schedule : ℕ → LinkCall ω) (hcompat : Compatible sc rc) (hpos : 1 ≤ payload.length)
    (hfits : payload.length ≤ if sc.canFd then maxPayload else 4095)
    (htime : ∀ n, InTime
      (states linkStep (linkStart tx₀ rx₀ sc rc down up payload now frame) schedule n) (schedule n))
    (hfair : FairSchedule (linkStart tx₀ rx₀ sc rc down up payload now frame) schedule) :
    Completes payload
      (states linkStep (linkStart tx₀ rx₀ sc rc down up payload now frame) schedule) := by
  have hmax : payload.length ≤ maxPayload := by
    unfold maxPayload at hfits ⊢
    split at hfits <;> omega
  have hclassic : sc.canFd = false → payload.length ≤ 4095 := by
    intro hc
    rwa [if_neg (by rw [hc]; simp)] at hfits
  have hvalid : validTxConfig (isotpTxInit tx₀ (some sc) up down).config = true := hcompat.sender
  have htx : TxEnd sc down up (isotpTxInit tx₀ (some sc) up down) := ⟨rfl, rfl, rfl⟩
  have hrx : RxEnd rc down up (isotpRxInit rx₀ (some rc) down up) := ⟨rfl, rfl, rfl⟩
  have hready := start_accepted now frame hvalid hpos hmax
  obtain ⟨-, -, ⟨sf, hsf, hout⟩ | ⟨hsf, hout⟩⟩ := start_ready hready
  · have hsingle : Single rc down up payload
        (linkStart tx₀ rx₀ sc rc down up payload now frame) := by
      simp only [linkStart, hout, if_true]
      exact ⟨rfl, congrArg IsoTpTx.state (txBuildSf_some hsf), hrx, rfl, rfl,
        .inl ⟨_, rfl, txBuildSf_pdu hcompat.toMatched (by exact ⟨rfl, rfl, rfl⟩) hpos hsf, rfl⟩⟩
    exact single_completes hmax hfair hsingle
  · have hstarted := started_firstFrame hvalid hmax hsf
    have hfirst : sc.txDl - ffHeader payload.length < payload.length := by
      have := hstarted.more
      rwa [hstarted.offset] at this
    have hplan : PlanOf sc rc payload
        (planFor sc rc payload hfirst (txDl_bounds hcompat.sender).1) := ⟨rfl, rfl, rfl, rfl⟩
    have h0 : Sim sc rc down up payload
        (planFor sc rc payload hfirst (txDl_bounds hcompat.sender).1) .start
        (linkStart tx₀ rx₀ sc rc down up payload now frame) := by
      simp only [linkStart, hout, if_true]
      exact sim_start hcompat hplan htx hrx rfl hclassic hstarted rfl
    exact sim_completes hplan hfair (sim_run hcompat hplan hstarted.long hmax h0 htime)

/-! ### A run that never stops polling -/

/-- Nothing in flight and nothing left to send. -/
structure Settled (s : Link ω) : Prop where
  idle : s.sender.state = .idle
  toReceiver : s.toReceiver = []
  toSender : s.toSender = []

theorem settled_step {s : Link ω} (h : Settled s) (call : LinkCall ω) :
    Settled (linkStep s call) := by
  cases call with
  | deliver now event =>
    simp only [linkStep, h.toReceiver]
    exact h
  | answer now w =>
    simp only [linkStep, h.toSender]
    exact h
  | next now frame w =>
    have hout := next_of_not_sending s.sender now frame w (by rw [h.idle]; simp)
    simp only [linkStep, hout, reduceCtorEq, if_false]
    exact ⟨h.idle, h.toReceiver, h.toSender⟩
  | tickSender now =>
    have hout : isotpTxTick s.sender now = (.ok, s.sender) := if_pos h.idle
    simp only [linkStep, hout]
    exact ⟨h.idle, h.toReceiver, h.toSender⟩
  | tickReceiver now => exact ⟨h.idle, h.toReceiver, h.toSender⟩

/-- A frame to fill in. -/
def pollingFrame : IsoTpCanFrame := clearFrame 0 (isotpConfigClassicCan (ω := Unit))

/-- Deliver, answer and poll in turn, all at time 0. -/
def pollingSchedule (n : ℕ) : LinkCall Unit :=
  if n % 3 = 0 then .deliver 0 ⟨none, 0, false, false, pollingFrame⟩
  else if n % 3 = 1 then .answer 0 ()
  else .next 0 pollingFrame ()

/-- 20 bytes between two ends with the default configuration. -/
def pollingStart : Link Unit :=
  linkStart
    { config := isotpConfigClassicCan, requestId := 0, responseId := 0, buffer := fun _ => 0
      payloadLen := 0, offset := 0, nextSequence := 0, blockCount := 0, remoteBlockSize := 0
      remoteStMin := 0, remoteStMinUs := 0, deadlineMs := 0, nextFrameMs := 0, nextFrameUs := 0
      state := .idle, waitFrames := 0 }
    { config := isotpConfigClassicCan, requestId := 0, responseId := 0, buffer := fun _ => 0
      expectedLen := 0, receivedLen := 0, nextSequence := 0, blockCount := 0, deadlineMs := 0
      active := false }
    isotpConfigClassicCan isotpConfigClassicCan 0x708 0x700 (List.replicate 20 7) 0 pollingFrame

/-- Before the run settles no deadline has passed and every poll finds pacing expired. -/
theorem polling_punctual (n : ℕ) :
    (states linkStep pollingStart pollingSchedule n).sender.state ≠ .idle →
      expired 0 (states linkStep pollingStart pollingSchedule n).sender.deadlineMs = false ∧
      expired 0 (states linkStep pollingStart pollingSchedule n).sender.nextFrameMs = true := by
  have hsettled : ∀ d, Settled (states linkStep pollingStart pollingSchedule (9 + d)) := by
    intro d
    induction d with
    | zero => exact ⟨by decide, rfl, rfl⟩
    | succ d ih => exact settled_step ih _
  have hearly : ∀ n < 9, (states linkStep pollingStart pollingSchedule n).sender.state ≠ .idle →
      expired 0 (states linkStep pollingStart pollingSchedule n).sender.deadlineMs = false ∧
      expired 0 (states linkStep pollingStart pollingSchedule n).sender.nextFrameMs = true := by
    decide
  rcases Nat.lt_or_ge n 9 with h | h
  · exact hearly n h
  · obtain ⟨d, rfl⟩ := Nat.exists_eq_add_of_le h
    exact fun hbusy => absurd (hsettled d).idle hbusy

theorem polling_fair : FairSchedule pollingStart pollingSchedule where
  deliver n := ⟨3 * n, by omega, 0, _, if_pos (by omega)⟩
  answer n := ⟨3 * n + 1, by omega, 0, (), (if_neg (by omega)).trans (if_pos (by omega))⟩
  next n := by
    refine ⟨3 * n + 2, by omega, 0, pollingFrame, (),
      (if_neg (by omega)).trans (if_neg (by omega)), fun hs => ?_⟩
    exact (polling_punctual _ (by rw [hs]; simp)).2

theorem transfer_completes_polling :
    Completes (List.replicate 20 7) (states linkStep pollingStart pollingSchedule) := by
  refine transfer_completes _ _ isotpConfigClassicCan isotpConfigClassicCan 0x708 0x700 _ 0
    pollingFrame pollingSchedule ⟨⟨by decide, by decide, rfl, by decide, by decide⟩, rfl⟩
    (by decide) (by decide) (fun n => ?_) polling_fair
  unfold pollingSchedule
  split
  · trivial
  · split
    · trivial
    · exact fun hbusy => (polling_punctual n hbusy).1

end UdsIsoTp.IsoTp
