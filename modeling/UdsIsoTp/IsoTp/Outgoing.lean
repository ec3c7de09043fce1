import UdsIsoTp.IsoTp.Tx

/-!
# The frames a payload leaves as

`segment` is the list of all frames of a transfer, as the functions of the transmitter
build them, and `outgoing` the part that a transmitter in the middle of one still has
to make. What happens between two calls, the pacing and the flow control, changes
neither: a call that hands out a frame takes the first one off the list, and every
other call that is no failure leaves the list alone (`next_outgoing`, `feed_outgoing`,
`tick_outgoing`).

`segment_conveys` says that the frames of a transfer carry the payload, all of it and
in order.
-/

namespace UdsIsoTp.IsoTp

variable {ω : Type} {tx tx' : IsoTpTx ω} {now : UInt32} {w : ω}

/-- The transmitter past its next consecutive frame. -/
def txSkip (tx : IsoTpTx ω) : IsoTpTx ω :=
  { tx with offset := tx.offset + txCopy tx, nextSequence := (tx.nextSequence + 1) % 16 }

/-- The consecutive frames that are left. -/
def restFrames (tx : IsoTpTx ω) : List IsoTpCanFrame :=
  if _h : 0 < txCopy tx then txConsecutiveFrame tx (txCopy tx) :: restFrames (txSkip tx) else []
termination_by tx.payloadLen - tx.offset
decreasing_by
  unfold txSkip txCopy at *
  dsimp only
  omega

/-- The frames that the transmitter still has to make. -/
def outgoing (tx : IsoTpTx ω) : List IsoTpCanFrame :=
  if tx.state = .idle then [] else restFrames tx

/-- All frames of a transfer that begins with this transmitter. -/
def segment (tx : IsoTpTx ω) (payload : List UInt8) : List IsoTpCanFrame :=
  match txBuildSf (txLoad tx payload 0) payload with
  | some (_, frame) => [frame]
  | none =>
    (txBuildFirstFrame (txLoad tx payload 0) payload).2 ::
      restFrames (txBuildFirstFrame (txLoad tx payload 0) payload).1

/-! ## What the frames depend on -/

/-- The two transmitters are at the same point of the same transfer. -/
structure SameFrames (tx tx' : IsoTpTx ω) : Prop where
  config : tx'.config = tx.config
  responseId : tx'.responseId = tx.responseId
  payloadLen : tx'.payloadLen = tx.payloadLen
  offset : tx'.offset = tx.offset
  nextSequence : tx'.nextSequence = tx.nextSequence
  bytes : ∀ i < tx.payloadLen, tx'.buffer i = tx.buffer i

theorem SameFrames.copy (h : SameFrames tx tx') : txCopy tx' = txCopy tx := by
  unfold txCopy
  rw [h.config, h.payloadLen, h.offset]

theorem SameFrames.skip (h : SameFrames tx tx') : SameFrames (txSkip tx) (txSkip tx') := by
  refine ⟨h.config, h.responseId, h.payloadLen, ?_, ?_, h.bytes⟩
  · show tx'.offset + txCopy tx' = tx.offset + txCopy tx
    rw [h.offset, h.copy]
  · show (tx'.nextSequence + 1) % 16 = (tx.nextSequence + 1) % 16
    rw [h.nextSequence]

theorem SameFrames.frame (h : SameFrames tx tx') :
    txConsecutiveFrame tx' (txCopy tx) = txConsecutiveFrame tx (txCopy tx) := by
  unfold txConsecutiveFrame
  rw [h.responseId, h.config, h.nextSequence, h.offset]
  dsimp only
  congr 1
  funext i
  unfold Buf.copy
  split
  next hin =>
    apply h.bytes
    unfold txCopy at hin
    omega
  next => rfl

/-- The frames that are left are those of the same point of the same transfer. -/
theorem restFrames_congr (tx tx' : IsoTpTx ω) (h : SameFrames tx tx') :
    restFrames tx' = restFrames tx := by
  unfold restFrames
  rw [h.copy]
  split
  next hmore => rw [h.frame, restFrames_congr (txSkip tx) (txSkip tx') h.skip]
  next => rfl
termination_by tx.payloadLen - tx.offset
decreasing_by
  unfold txSkip txCopy at *
  dsimp only
  omega

theorem load_bytes (tx tx' : IsoTpTx ω) (payload : List UInt8) (now : UInt32) {i : Nat}
    (hi : i < payload.length) :
    (txLoad tx' payload now).buffer i = (txLoad tx payload 0).buffer i := by
  have h := (load_slice tx' payload now).trans (load_slice tx payload 0).symm
  simpa using Buf.eq_of_slice_eq h hi

theorem txBuildSf_congr (hconfig : tx'.config = tx.config) (hid : tx'.responseId = tx.responseId)
    (payload : List UInt8) :
    (txBuildSf tx' payload).map Prod.snd = (txBuildSf tx payload).map Prod.snd := by
  unfold txBuildSf
  dsimp only
  rw [hconfig]
  split
  next =>
    unfold txShortFrame
    rw [hconfig, hid]
    rfl
  next =>
    split
    next =>
      unfold txEscapedFrame
      rw [hconfig, hid]
      rfl
    next => rfl

/-- Only the configuration and the identifier of a transmitter decide how it segments. -/
theorem segment_congr (hconfig : tx'.config = tx.config) (hid : tx'.responseId = tx.responseId)
    (payload : List UInt8) : segment tx' payload = segment tx payload := by
  have hsf : (txBuildSf (txLoad tx' payload 0) payload).map Prod.snd
      = (txBuildSf (txLoad tx payload 0) payload).map Prod.snd :=
    @txBuildSf_congr ω (txLoad tx payload 0) (txLoad tx' payload 0) hconfig hid payload
  have hff : (txBuildFirstFrame (txLoad tx' payload 0) payload).2
      = (txBuildFirstFrame (txLoad tx payload 0) payload).2 := by
    simp only [txBuildFirstFrame, txLoad, hconfig, hid]
  have hrest : SameFrames (txBuildFirstFrame (txLoad tx payload 0) payload).1
      (txBuildFirstFrame (txLoad tx' payload 0) payload).1 := by
    refine ⟨hconfig, hid, rfl, ?_, rfl, fun _ hi => load_bytes tx tx' payload 0 hi⟩
    show min (tx'.config.txDl - _) _ = min (tx.config.txDl - _) _
    rw [hconfig]
  unfold segment
  cases hold : txBuildSf (txLoad tx payload 0) payload with
  | some out =>
    cases hnew : txBuildSf (txLoad tx' payload 0) payload with
    | some out' =>
      rw [hold, hnew] at hsf
      exact congrArg (fun frame => [frame]) (Option.some.inj hsf)
    | none =>
      rw [hold, hnew] at hsf
      exact absurd hsf (by simp)
  | none =>
    cases hnew : txBuildSf (txLoad tx' payload 0) payload with
    | some out' =>
      rw [hold, hnew] at hsf
      exact absurd hsf (by simp)
    | none =>
      show _ :: _ = _ :: _
      rw [hff, restFrames_congr _ _ hrest]

/-! ## What the calls do to them -/

/-- A transfer that begins has all its frames before it. -/
theorem start_outgoing {payload : List UInt8} {frame : IsoTpCanFrame}
    (h : (isotpTxStart tx payload now frame).status = .txFrameReady) :
    (isotpTxStart tx payload now frame).frame :: outgoing (isotpTxStart tx payload now frame).tx
      = segment tx payload := by
  have hsame : (txBuildSf (txLoad tx payload now) payload).map Prod.snd
      = (txBuildSf (txLoad tx payload 0) payload).map Prod.snd := txBuildSf_congr rfl rfl payload
  obtain ⟨-, -, ⟨sf, hsf, hout⟩ | ⟨hsf, hout⟩⟩ := start_ready h
  · rw [hout]
    unfold segment outgoing
    rw [hsf] at hsame
    cases hold : txBuildSf (txLoad tx payload 0) payload with
    | some out =>
      rw [hold] at hsame
      show sf.2 :: (if sf.1.state = .idle then [] else restFrames sf.1) = [out.2]
      have hidle : sf.1.state = .idle := congrArg IsoTpTx.state (txBuildSf_some hsf)
      rw [if_pos hidle]
      exact congrArg (fun frame => [frame]) (Option.some.inj hsame)
    | none =>
      rw [hold] at hsame
      exact absurd hsame (by simp)
  · rw [hout]
    unfold segment outgoing
    rw [hsf] at hsame
    cases hold : txBuildSf (txLoad tx payload 0) payload with
    | some out =>
      rw [hold] at hsame
      exact absurd hsame (by simp)
    | none =>
      have hrest : SameFrames (txBuildFirstFrame (txLoad tx payload 0) payload).1
          (txBuildFirstFrame (txLoad tx payload now) payload).1 :=
        ⟨rfl, rfl, rfl, rfl, rfl, fun i hi => load_bytes tx tx payload now hi⟩
      show _ :: restFrames _ = _ :: restFrames _
      rw [restFrames_congr _ _ hrest]
      rfl

theorem restFrames_done (h : tx.payloadLen ≤ tx.offset) : restFrames tx = [] := by
  unfold restFrames
  apply dif_neg
  unfold txCopy
  omega

/-- A transfer that is complete has no frame left. -/
theorem next_complete {frame : IsoTpCanFrame}
    (h : (isotpTxNext tx now frame w).1.status = .complete) :
    outgoing tx = [] ∧ (isotpTxNext tx now frame w).1.tx.state = .idle := by
  unfold isotpTxNext at h ⊢
  split at h
  next => exact absurd h (by simp)
  next hstate =>
    split at h
    next => exact absurd h (by simp)
    next hdeadline =>
      dsimp only at h
      split at h
      next => exact absurd h (by simp)
      next hpaced =>
        split at h
        next hdone =>
          rw [if_neg hstate, if_neg hdeadline]
          dsimp only
          rw [if_neg hpaced, if_pos hdone]
          refine ⟨?_, rfl⟩
          unfold outgoing
          rw [restFrames_done hdone]
          split <;> rfl
        next => split at h <;> exact absurd h (by simp)

/-- The next frame is the first of those that are left. -/
theorem next_outgoing (tx : IsoTpTx ω) (frame : IsoTpCanFrame)
    (hvalid : validTxConfig tx.config = true)
    (h : (isotpTxNext tx now frame w).1.status = .txFrameReady) :
    outgoing tx = (isotpTxNext tx now frame w).1.frame ::
      outgoing (isotpTxNext tx now frame w).1.tx := by
  have hdl := txDl_bounds hvalid
  have heffect := next_effect tx now frame w
  generalize isotpTxNext tx now frame w = out at heffect h ⊢
  cases heffect with
  | kept hw => exact absurd h (by simp)
  | ended hstatus hw =>
    dsimp only at h
    rw [h] at hstatus
    exact absurd hstatus (by decide)
  | @sent nextFrameUs w₁ w₂ hstate hmore hpaced hclock hnoclock =>
    have hactive : ¬tx.state = .idle := by
      rw [hstate]
      decide
    have hadvanced : ¬(txAdvance tx now (txCopy tx) nextFrameUs).state = .idle := by
      show ¬(if BlockFull tx (txCopy tx) then IsoTpTxState.waitBlockFlowControl else tx.state)
        = .idle
      split
      next => decide
      next => exact hactive
    have hsame : SameFrames (txSkip tx) (txAdvance tx now (txCopy tx) nextFrameUs) :=
      ⟨rfl, rfl, rfl, rfl, rfl, fun _ _ => rfl⟩
    have hcopy : 0 < txCopy tx := by
      unfold txCopy
      omega
    unfold outgoing
    rw [if_neg hactive, if_neg hadvanced, restFrames_congr _ _ hsame]
    conv => lhs; unfold restFrames
    exact dif_pos hcopy

/-- Without a frame and without a failure nothing moves. -/
theorem next_kept {frame : IsoTpCanFrame}
    (h : (isotpTxNext tx now frame w).1.status = .ok) :
    (isotpTxNext tx now frame w).1.tx = tx ∧ (isotpTxNext tx now frame w).1.frame = frame := by
  have heffect := next_effect tx now frame w
  generalize isotpTxNext tx now frame w = out at heffect h ⊢
  cases heffect with
  | kept hw => exact ⟨rfl, rfl⟩
  | ended hstatus hw =>
    dsimp only at h
    rw [h] at hstatus
    exact absurd hstatus (by decide)
  | sent hstate hmore hpaced hclock hnoclock => exact absurd h (by simp)

theorem next_status (tx : IsoTpTx ω) (now : UInt32) (frame : IsoTpCanFrame) (w : ω) :
    (isotpTxNext tx now frame w).1.status = .ok ∨
      (isotpTxNext tx now frame w).1.status = .txFrameReady ∨
      (isotpTxNext tx now frame w).1.status = .complete ∨
      (isotpTxNext tx now frame w).1.status = .errTimeout := by
  have heffect := next_effect tx now frame w
  generalize isotpTxNext tx now frame w = out at heffect ⊢
  cases heffect with
  | kept hw => exact .inl rfl
  | ended hstatus hw => exact .inr (.inr hstatus.symm)
  | sent hstate hmore hpaced hclock hnoclock => exact .inr (.inl rfl)

/-- Flow control that does not abort the transfer leaves its frames alone. -/
theorem feed_outgoing {frame : IsoTpCanFrame}
    (hcontrol : (isotpTxFeedFlowControl tx frame now w).1 ≠ .errFlowControl)
    (hoverflow : (isotpTxFeedFlowControl tx frame now w).1 ≠ .errFlowOverflow) :
    outgoing (isotpTxFeedFlowControl tx frame now w).2.1 = outgoing tx := by
  have hgrant : ∀ us, AwaitsFlow tx → outgoing (txGrant tx frame now us) = outgoing tx := by
    intro us hawaits
    have hsame : SameFrames tx (txGrant tx frame now us) :=
      ⟨rfl, rfl, rfl, rfl, rfl, fun _ _ => rfl⟩
    have hactive : ¬tx.state = .idle := by
      rcases hawaits with h | h <;> rw [h] <;> decide
    unfold outgoing
    rw [if_neg hactive, restFrames_congr _ _ hsame]
    exact if_neg (by simp [txGrant])
  unfold isotpTxFeedFlowControl at hcontrol hoverflow ⊢
  dsimp only at hcontrol hoverflow ⊢
  -- The branches that abort the message are those the two hypotheses exclude.
  split at hcontrol
  next hbad => rw [if_pos hbad]
  next hok =>
    have hawaits := txValidateFcFrame_ok (not_not.mp hok)
    rw [if_neg hok] at hoverflow ⊢
    split at hoverflow
    next => exact absurd rfl hoverflow
    next hno =>
      rw [if_neg hno] at hcontrol ⊢
      split at hcontrol
      next => exact absurd rfl hcontrol
      next hknown =>
        rw [if_neg hknown]
        split at hcontrol
        next hwait =>
          rw [if_pos hwait]
          split at hcontrol
          next => exact absurd rfl hcontrol
          next hfew =>
            rw [if_neg hfew]
            have hsame : SameFrames tx { tx with
                waitFrames := (tx.waitFrames + 1) % 256
                deadlineMs := deadline now tx.config.txTimeoutMs } :=
              ⟨rfl, rfl, rfl, rfl, rfl, fun _ _ => rfl⟩
            unfold outgoing
            dsimp only
            rw [restFrames_congr _ _ hsame]
        next hwait =>
          rw [if_neg hwait]
          split
          next => exact hgrant _ hawaits
          next => exact hgrant _ hawaits

theorem tick_outgoing (h : (isotpTxTick tx now).1 ≠ .errTimeout) : (isotpTxTick tx now).2 = tx := by
  unfold isotpTxTick at h ⊢
  split
  next => rfl
  next hbusy =>
    rw [if_neg hbusy] at h
    split
    next hdue =>
      rw [if_pos hdue] at h
      exact absurd rfl h
    next => rfl

/-! ## What the frames carry -/

/-- The frames carry the payload: one frame behind a header of one or two bytes that ends
with the length, or a first frame and then the data of consecutive frames, of which the
last may be padded. -/
inductive Conveys (payload : List UInt8) : List IsoTpCanFrame → Prop
  | single {frame : IsoTpCanFrame} (header : Nat) (header_le : header < 2)
      (length : frame.data header = UInt8.ofNat payload.length)
      (bytes : frame.data.slice (header + 1) payload.length = payload) : Conveys payload [frame]
  | several {first : IsoTpCanFrame} {rest : List IsoTpCanFrame}
      (bytes : (ffData first (ffHeader payload.length) ++ rest.flatMap cfData).take payload.length
        = payload) : Conveys payload (first :: rest)

/-- The consecutive frames carry the bytes behind the offset. -/
theorem restFrames_convey (tx : IsoTpTx ω) (hvalid : validTxConfig tx.config = true) :
    ((restFrames tx).flatMap cfData).take (tx.payloadLen - tx.offset)
      = tx.buffer.slice tx.offset (tx.payloadLen - tx.offset) := by
  have hdl := txDl_bounds hvalid
  unfold restFrames
  split
  next hmore =>
    obtain ⟨hlength, hbytes⟩ := consecutiveFrame_data tx hvalid (Nat.min_le_right
      (tx.payloadLen - tx.offset) (tx.config.txDl - 1))
    change (cfData (txConsecutiveFrame tx (txCopy tx))).length = _ at hlength
    change (cfData (txConsecutiveFrame tx (txCopy tx))).take (txCopy tx) = _ at hbytes
    rw [List.flatMap_cons, List.take_append]
    rcases Nat.lt_or_ge (tx.config.txDl - 1) (tx.payloadLen - tx.offset) with hlong | hlast
    · -- a full frame, and more behind it
      have hcopy : txCopy tx = tx.config.txDl - 1 := Nat.min_eq_right (Nat.le_of_lt hlong)
      have hskip := restFrames_convey (txSkip tx) hvalid
      have hoffset : (txSkip tx).offset = tx.offset + (tx.config.txDl - 1) :=
        congrArg (tx.offset + ·) hcopy
      have hrest : (txSkip tx).payloadLen - (txSkip tx).offset
          = tx.payloadLen - tx.offset - (tx.config.txDl - 1) := by
        rw [hoffset]
        exact Nat.sub_add_eq ..
      rw [hrest, hoffset] at hskip
      have hfull : (cfData (txConsecutiveFrame tx (txCopy tx))).take (tx.payloadLen - tx.offset)
          = tx.buffer.slice tx.offset (tx.config.txDl - 1) := by
        rw [List.take_of_length_le (by omega), ← hbytes.trans (congrArg _ hcopy), hcopy,
          List.take_of_length_le (by rw [← hcopy]; omega)]
      rw [hfull, hlength, hskip]
      show _ ++ tx.buffer.slice _ _ = _
      rw [← Buf.slice_append]
      congr 1
      omega
    -- the last frame, which may be padded
    · have hcopy : txCopy tx = tx.payloadLen - tx.offset := Nat.min_eq_left hlast
      have hnone : tx.payloadLen - tx.offset
          - (cfData (txConsecutiveFrame tx (txCopy tx))).length = 0 := by omega
      rw [hnone, List.take_zero, List.append_nil, ← hcopy]
      exact hbytes
  next hnone =>
    have hdone : tx.payloadLen - tx.offset = 0 := by
      unfold txCopy at hnone
      omega
    rw [hdone]
    rfl
termination_by tx.payloadLen - tx.offset
decreasing_by
  unfold txSkip txCopy at *
  dsimp only
  omega

/-- **The frames of a transfer carry the payload**, whole and in order. -/
theorem segment_conveys (hvalid : validTxConfig tx.config = true) (payload : List UInt8) :
    Conveys payload (segment tx payload) := by
  have hload : validTxConfig (txLoad tx payload 0).config = true := hvalid
  unfold segment
  cases hsf : txBuildSf (txLoad tx payload 0) payload with
  | some out =>
    show Conveys payload [out.2]
    unfold txBuildSf at hsf
    dsimp only at hsf
    split at hsf
    next =>
      rw [← Option.some.inj hsf]
      refine .single 0 (by omega) ?_ ?_
      · unfold txShortFrame
        dsimp only
        rw [Buf.copy_outside (by omega), Buf.write_same]
      · exact (Buf.slice_copy_self ..).trans (Buf.slice_ofList payload)
    next =>
      split at hsf
      next =>
        rw [← Option.some.inj hsf]
        refine .single 1 (by omega) ?_ ?_
        · unfold txEscapedFrame
          dsimp only
          rw [Buf.copy_outside (by omega), Buf.write_same]
        · exact (Buf.slice_copy_self ..).trans (Buf.slice_ofList payload)
      next => exact absurd hsf (by simp)
  | none =>
    -- The first frame carries a prefix, and the frames behind it the rest.
    obtain ⟨hoffset, hmore, hfirst⟩ := firstFrame_carries hload hsf
    refine .several ?_
    have hrest := restFrames_convey (txBuildFirstFrame (txLoad tx payload 0) payload).1 hvalid
    generalize hff : (txBuildFirstFrame (txLoad tx payload 0) payload).1.offset = first at *
    have hlen : (txBuildFirstFrame (txLoad tx payload 0) payload).1.payloadLen = payload.length :=
      rfl
    have htake : (payload.take first).length = first := by
      rw [List.length_take]
      omega
    have hslice : (txBuildFirstFrame (txLoad tx payload 0) payload).1.buffer.slice first
        (payload.length - first) = payload.drop first := by
      have hdrop := congrArg (List.drop first) (load_slice tx payload 0)
      rw [Buf.drop_slice, Nat.zero_add] at hdrop
      exact hdrop
    rw [hfirst, List.take_append, htake, List.take_of_length_le (by omega)]
    rw [hlen] at hrest
    rw [hrest, hslice]
    exact List.take_append_drop first payload

end UdsIsoTp.IsoTp
