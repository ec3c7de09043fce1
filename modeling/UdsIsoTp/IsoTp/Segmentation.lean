import UdsIsoTp.IsoTp.Tx
import UdsIsoTp.Lib.Wrap
import Mathlib.Algebra.Order.Group.Nat

/-!
# A multi-frame transfer as a counting game

What a sender and a receiver do to each other in a multi-frame transfer depends only
on a few numbers: how many consecutive frames have been sent, how many frames the
receiver has taken, how many clear-to-sends have come back. This module is that
game, with no bytes and no clocks: `Plan` fixes the numbers of one transfer,
`Progress` is a position in it and `Progress.move` a step.

`WellPlaced` is the invariant that keeps the two sides' block counters in agreement;
`move_wellPlaced` keeps it, `stuck_final` says that a position without moves is the
end, and `rank` that there is no way round in circles.
-/

namespace UdsIsoTp.IsoTp

/-- The numbers of a transfer: payload bytes, those of the first frame and of a full
consecutive frame, and the receiver's block size. -/
structure Plan where
  length : Nat
  first : Nat
  chunk : Nat
  blockSize : Nat
  first_lt : first < length
  chunk_pos : 0 < chunk

/-- The bytes the first frame and `n` consecutive frames have room for. -/
def Plan.covered (p : Plan) (n : Nat) : Nat := p.first + n * p.chunk

/-- The clear-to-sends that the receiver sends for its first frames: one for the
first frame, and one for each full block unless it is the last. -/
def Plan.grants (p : Plan) : Nat → Nat
  | 0 => 0
  | n + 1 => if p.covered n < p.length then 1 + n / p.blockSize else 1 + (n - 1) / p.blockSize

/-- A position: consecutive frames sent, frames taken by the receiver, clear-to-sends
taken by the sender, and what the sender waits for. -/
structure Progress where
  sent : Nat
  taken : Nat
  granted : Nat
  state : IsoTpTxState

/-- What can happen in a transfer. -/
inductive Move where
  | deliver
  | answer
  | next

variable {p : Plan} {q : Progress}

/-- The block is full and another consecutive frame is needed. -/
abbrev Plan.BlockEnds (p : Plan) (sent granted : Nat) : Prop :=
  p.blockSize ≠ 0 ∧ sent = granted * p.blockSize ∧ p.covered sent < p.length

/-- How far the transfer is after a move. -/
def Progress.move (p : Plan) (q : Progress) : Move → Progress
  | .deliver => if q.taken ≤ q.sent then { q with taken := q.taken + 1 } else q
  | .answer =>
    if q.granted < p.grants q.taken then
      { q with granted := q.granted + 1, state := .sendConsecutive }
    else q
  | .next =>
    if q.state = .sendConsecutive then
      if p.length ≤ p.covered q.sent then { q with state := .idle }
      else
        { q with
          sent := q.sent + 1
          state := if p.BlockEnds (q.sent + 1) q.granted then .waitBlockFlowControl
            else .sendConsecutive }
    else q

/-- The consecutive frames sent lie in the blocks granted, the last of them still open. -/
structure Plan.InGrant (p : Plan) (sent granted : Nat) : Prop where
  pos : 1 ≤ granted
  lower : (granted - 1) * p.blockSize ≤ sent
  upper : p.blockSize ≠ 0 → sent ≤ granted * p.blockSize
  still_open : p.blockSize ≠ 0 → sent < granted * p.blockSize ∨ p.length ≤ p.covered sent

/-- What holds between the sender's state and the counters. -/
def Plan.Phase (p : Plan) (sent granted : Nat) : IsoTpTxState → Prop
  | .waitFirstFlowControl => sent = 0 ∧ granted = 0
  | .waitBlockFlowControl => p.BlockEnds sent granted
  | .sendConsecutive => p.InGrant sent granted
  | .idle => p.InGrant sent granted ∧ p.length ≤ p.covered sent

/-- The two ends are where they can be. -/
structure Progress.WellPlaced (p : Plan) (q : Progress) : Prop where
  taken_le : q.taken ≤ q.sent + 1
  needed : q.sent = 0 ∨ p.covered (q.sent - 1) < p.length
  granted_le : q.granted ≤ p.grants q.taken
  phase : p.Phase q.sent q.granted q.state

/-- The position a transfer begins in: the first frame is under way. -/
def Progress.start : Progress := ⟨0, 0, 0, .waitFirstFlowControl⟩

theorem start_wellPlaced (p : Plan) : Progress.start.WellPlaced p :=
  ⟨Nat.zero_le _, .inl rfl, Nat.le_refl _, rfl, rfl⟩

/-- The end: everything sent has been taken, and the sender is done. -/
def Progress.Final (q : Progress) : Prop := q.state = .idle ∧ q.taken = q.sent + 1

theorem covered_succ (p : Plan) (n : Nat) : p.covered (n + 1) = p.covered n + p.chunk := by
  simp only [Plan.covered, Nat.succ_mul, Nat.add_assoc]

theorem covered_mono (p : Plan) {m n : Nat} (h : m ≤ n) : p.covered m ≤ p.covered n :=
  Nat.add_le_add_left (Nat.mul_le_mul_right _ h) _

/-- A frame that was needed was preceded by frames that were. -/
theorem covered_lt_of_sent {n : Nat} (hneeded : q.sent = 0 ∨ p.covered (q.sent - 1) < p.length)
    (hn : n < q.sent) : p.covered n < p.length := by
  rcases hneeded with h | h
  · omega
  · exact Nat.lt_of_le_of_lt (covered_mono p (by omega)) h

theorem grants_of_more {n : Nat} (h : p.covered n < p.length) :
    p.grants (n + 1) = 1 + n / p.blockSize := if_pos h

theorem grants_of_done {n : Nat} (h : p.length ≤ p.covered n) :
    p.grants (n + 1) = 1 + (n - 1) / p.blockSize := if_neg (Nat.not_lt.mpr h)

/-- A receiver never grants more than the open block. -/
theorem grants_le_of_inGrant (h : p.InGrant q.sent q.granted) (htaken : q.taken ≤ q.sent + 1) :
    p.grants q.taken ≤ q.granted := by
  have hgranted := h.pos
  cases htk : q.taken with
  | zero => exact Nat.zero_le _
  | succ n =>
    rcases Nat.lt_or_ge (p.covered n) p.length with hmore | hdone
    · rw [grants_of_more hmore]
      rcases Nat.eq_zero_or_pos p.blockSize with hbs | hpos
      · rw [hbs, Nat.div_zero]
        exact hgranted
      · have hlt : n < q.granted * p.blockSize := by
          rcases h.still_open (by omega) with hopen | hall
          · omega
          · have hne : n ≠ q.sent := by
              rintro rfl
              omega
            have := h.upper (by omega)
            omega
        have := (Nat.div_lt_iff_lt_mul hpos).mpr hlt
        omega
    · rw [grants_of_done hdone]
      rcases Nat.eq_zero_or_pos p.blockSize with hbs | hpos
      · rw [hbs, Nat.div_zero]
        exact hgranted
      · have hn : n ≠ 0 := by
          rintro rfl
          have hfirst := p.first_lt
          simp only [Plan.covered, Nat.zero_mul, Nat.add_zero] at hdone
          omega
        have hlt : n - 1 < q.granted * p.blockSize := by
          have := h.upper (by omega)
          omega
        have := (Nat.div_lt_iff_lt_mul hpos).mpr hlt
        omega

/-- A clear-to-send on its way finds a sender that waits for it. -/
theorem awaits_of_grant (h : q.WellPlaced p) (hgrant : q.granted < p.grants q.taken) :
    q.state = .waitFirstFlowControl ∨ q.state = .waitBlockFlowControl := by
  have hphase := h.phase
  cases hs : q.state with
  | waitFirstFlowControl => exact .inl rfl
  | waitBlockFlowControl => exact .inr rfl
  | sendConsecutive =>
    rw [hs] at hphase
    have := grants_le_of_inGrant hphase h.taken_le
    omega
  | idle =>
    rw [hs] at hphase
    have := grants_le_of_inGrant hphase.1 h.taken_le
    omega

theorem grants_mono (p : Plan) (n : Nat) : p.grants n ≤ p.grants (n + 1) := by
  cases n with
  | zero => exact Nat.zero_le _
  | succ n =>
    have hdiv : n / p.blockSize ≤ (n + 1) / p.blockSize := Nat.div_le_div_right (by omega)
    have hdiv' : (n - 1) / p.blockSize ≤ n / p.blockSize := Nat.div_le_div_right (by omega)
    have hcov := covered_mono p (Nat.le_add_right n 1)
    rcases Nat.lt_or_ge (p.covered n) p.length with hmore | hdone
    · rw [grants_of_more hmore]
      rcases Nat.lt_or_ge (p.covered (n + 1)) p.length with hmore' | hdone'
      · rw [grants_of_more hmore']
        omega
      · rw [grants_of_done hdone']
        simp
    · rw [grants_of_done hdone, grants_of_done (by omega)]
      simp only [Nat.add_sub_cancel]
      omega

/-! ## The invariant -/

theorem deliver_wellPlaced (h : q.WellPlaced p) : (q.move p .deliver).WellPlaced p := by
  simp only [Progress.move]
  split
  next hle =>
    exact ⟨Nat.succ_le_succ hle, h.needed, Nat.le_trans h.granted_le (grants_mono p q.taken),
      h.phase⟩
  next => exact h

theorem answer_wellPlaced (h : q.WellPlaced p) : (q.move p .answer).WellPlaced p := by
  simp only [Progress.move]
  split
  next hgrant =>
    refine ⟨h.taken_le, h.needed, hgrant, ?_⟩
    have hphase := h.phase
    rcases awaits_of_grant h hgrant with hs | hs
    · rw [hs] at hphase
      obtain ⟨hsent, hgranted⟩ := hphase
      refine ⟨by simp, by simp [hgranted], fun _ => by simp [hsent], fun hbs => .inl ?_⟩
      simp only [hsent, hgranted, Nat.zero_add, Nat.one_mul]
      omega
    · rw [hs] at hphase
      obtain ⟨hbs, hsent, -⟩ := hphase
      have hstep : (q.granted + 1) * p.blockSize = q.sent + p.blockSize := by
        rw [Nat.succ_mul, hsent]
      refine ⟨by simp, ?_, fun _ => ?_, fun _ => .inl ?_⟩
      · simp only [Nat.add_sub_cancel]
        omega
      · simp only [hstep]
        omega
      · simp only [hstep]
        omega
  next => exact h

theorem next_wellPlaced (h : q.WellPlaced p) : (q.move p .next).WellPlaced p := by
  simp only [Progress.move]
  split
  next hs =>
    have hin : p.InGrant q.sent q.granted := by
      have hphase := h.phase
      rw [hs] at hphase
      exact hphase
    split
    next hdone =>
      exact ⟨h.taken_le, h.needed, h.granted_le, ⟨hin.pos, hin.lower, hin.upper,
        hin.still_open⟩, hdone⟩
    next hmore =>
      have hmore' := Nat.lt_of_not_le hmore
      refine ⟨Nat.le_succ_of_le h.taken_le, .inr hmore', h.granted_le, ?_⟩
      have hopen : p.blockSize ≠ 0 → q.sent < q.granted * p.blockSize := by
        intro hbs
        rcases hin.still_open hbs with hopen | hdone
        · exact hopen
        · omega
      by_cases hends : p.BlockEnds (q.sent + 1) q.granted
      · rw [if_pos hends]
        exact hends
      · rw [if_neg hends]
        refine ⟨hin.pos, Nat.le_succ_of_le hin.lower, fun hbs => hopen hbs, fun hbs => ?_⟩
        have hlt := hopen hbs
        by_contra hno
        simp only [not_or] at hno
        exact hends ⟨hbs, by omega, by omega⟩
  next => exact h

/-- Every move keeps the counters of the two sides in agreement. -/
theorem move_wellPlaced (h : q.WellPlaced p) (m : Move) : (q.move p m).WellPlaced p := by
  cases m with
  | deliver => exact deliver_wellPlaced h
  | answer => exact answer_wellPlaced h
  | next => exact next_wellPlaced h

/-! ## Progress -/

/-- A position from which no move leads on is the end. -/
theorem stuck_final (h : q.WellPlaced p) (hdeliver : q.sent < q.taken)
    (hanswer : p.grants q.taken ≤ q.granted) (hnext : q.state ≠ .sendConsecutive) :
    q.Final := by
  have htaken := h.taken_le
  have htk : q.taken = q.sent + 1 := by omega
  refine ⟨?_, htk⟩
  have hphase := h.phase
  cases hs : q.state with
  | waitFirstFlowControl =>
    rw [hs] at hphase
    have hone : 1 ≤ p.grants (q.sent + 1) := by
      simp only [Plan.grants]
      split <;> exact Nat.le_add_right ..
    rw [htk, hphase.2] at hanswer
    omega
  | waitBlockFlowControl =>
    rw [hs] at hphase
    obtain ⟨hbs, hsent, hmore⟩ := hphase
    rw [htk, grants_of_more hmore, hsent, Nat.mul_div_cancel _ (Nat.pos_of_ne_zero hbs)] at hanswer
    omega
  | sendConsecutive => exact absurd hs hnext
  | idle => rfl

/-- At the end no move changes anything. -/
theorem move_final (h : q.WellPlaced p) (hfinal : q.Final) (m : Move) : q.move p m = q := by
  obtain ⟨hs, htk⟩ := hfinal
  cases m with
  | deliver => exact if_neg (by omega)
  | answer =>
    refine if_neg fun hgrant => ?_
    rcases awaits_of_grant h hgrant with hw | hw <;> rw [hs] at hw <;> exact absurd hw (by simp)
  | next => exact if_neg (by rw [hs]; simp)

/-- How far the game has come. -/
def Progress.rank (q : Progress) : Nat :=
  q.sent + q.taken + q.granted + if q.state = .idle then 1 else 0

/-- A move leaves the position or brings it on. -/
theorem move_rank (h : q.WellPlaced p) (m : Move) :
    q.move p m = q ∨ q.rank < (q.move p m).rank := by
  cases m with
  | deliver =>
    simp only [Progress.move]
    split
    next => exact .inr (by simp only [Progress.rank]; omega)
    next => exact .inl rfl
  | answer =>
    simp only [Progress.move]
    split
    next hgrant =>
      right
      have hidle : q.state ≠ .idle := by
        rcases awaits_of_grant h hgrant with hs | hs <;> rw [hs] <;> simp
      simp only [Progress.rank, if_neg hidle]
      omega
    next => exact .inl rfl
  | next =>
    simp only [Progress.move]
    split
    next hs =>
      right
      split
      next => simp [Progress.rank, hs]
      next =>
        have hbusy : (if p.BlockEnds (q.sent + 1) q.granted then
            IsoTpTxState.waitBlockFlowControl else .sendConsecutive) ≠ .idle := by
          split <;> simp
        have hnow : q.state ≠ .idle := by rw [hs]; simp
        simp only [Progress.rank, if_neg hbusy, if_neg hnow]
        omega
    next => exact .inl rfl

/-- A move that can be made brings the position on. -/
theorem move_advances {m : Move} (h : q.WellPlaced p)
    (hcan : match m with
      | .deliver => q.taken ≤ q.sent
      | .answer => q.granted < p.grants q.taken
      | .next => q.state = .sendConsecutive) :
    q.rank < (q.move p m).rank := by
  refine (move_rank h m).resolve_left fun heq => ?_
  cases m with
  | deliver =>
    have := congrArg Progress.taken heq
    simp only [Progress.move, if_pos hcan] at this
    omega
  | answer =>
    have := congrArg Progress.granted heq
    simp only [Progress.move, if_pos hcan] at this
    omega
  | next =>
    simp only [Progress.move, if_pos hcan] at heq
    split at heq
    · have := congrArg Progress.state heq
      rw [hcan] at this
      exact absurd this (by simp)
    · have := congrArg Progress.sent heq
      simp at this

theorem sent_le (h : q.WellPlaced p) : q.sent ≤ p.length := by
  rcases h.needed with h0 | hlt
  · omega
  · have hchunk : q.sent - 1 ≤ (q.sent - 1) * p.chunk := Nat.le_mul_of_pos_right _ p.chunk_pos
    unfold Plan.covered at hlt
    omega

/-- The game is bounded by the payload. -/
theorem rank_le (h : q.WellPlaced p) : q.rank ≤ 4 * p.length + 5 := by
  have hsent := sent_le h
  have htaken := h.taken_le
  have hgranted := h.granted_le
  have hgrants : p.grants q.taken ≤ 1 + q.taken := by
    cases q.taken with
    | zero => exact Nat.zero_le _
    | succ n =>
      have hdiv := Nat.div_le_self n p.blockSize
      have hdiv' := Nat.div_le_self (n - 1) p.blockSize
      simp only [Plan.grants]
      split <;> omega
  unfold Progress.rank
  split <;> omega

end UdsIsoTp.IsoTp
