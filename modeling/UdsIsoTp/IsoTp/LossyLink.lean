import UdsIsoTp.IsoTp.Reassembly
import UdsIsoTp.IsoTp.Link
import UdsIsoTp.IsoTp.Outgoing

/-!
# A link that loses frames

`transfer_completes` is about a link that loses nothing and ends that are polled in time.
Here any frame may be lost on its way, in both directions, the ends are polled at any times
and so may give up, and the sender hears flow control that nobody has sent. Then a transfer
need not complete, but it is all or nothing: what the receiver reports is the payload, once,
and only if none of its frames was lost (`transfer_whole_or_nothing`).

The sequence numbers alone do not say so, as they are the same again after sixteen frames.
They need not: what has reached the receiver is a sublist of the frames of the transfer
(`Partial`), and a proper one has too few bytes for the length announced
(`delivered_segmented`).
-/

namespace UdsIsoTp.IsoTp

variable {ω : Type}

/-! ## Frames that a receiver can tell apart -/

/-- The frames of one transfer, as a receiver decodes them: a single frame, or a first frame
and consecutive frames, all of which are needed. There are none when the sender refuses the
payload, and the last case is a first frame whose length no receiver takes. -/
inductive Segmented (payload : List UInt8) : List IsoTpCanFrame → Prop
  | nothing : Segmented payload []
  | single {frame : IsoTpCanFrame} {header : Nat} (type : frame.highNibble = 0)
      (decoded : (decodeSf frame).1 = some (payload.length, header))
      (bytes : frame.data.slice header payload.length = payload) : Segmented payload [frame]
  | several {first : IsoTpCanFrame} {rest : List IsoTpCanFrame} {header chunk : Nat}
      (type : first.highNibble = 1) (decoded : (decodeFf first).1 = some (payload.length, header))
      (next : ∀ frame ∈ rest, frame.highNibble = 2 ∧ (cfData frame).length = chunk)
      (needed : (ffData first header).length + (rest.length - 1) * chunk < payload.length)
      (bytes : (ffData first header ++ rest.flatMap cfData).take payload.length = payload) :
      Segmented payload (first :: rest)
  | refused {first : IsoTpCanFrame} {rest : List IsoTpCanFrame} {length header : Nat}
      (type : first.highNibble = 1) (decoded : (decodeFf first).1 = some (length, header))
      (short : length ≤ 7) (next : ∀ frame ∈ rest, frame.highNibble = 2) :
      Segmented payload (first :: rest)

/-- The frames for the receiver that it was fed. -/
def fedFrames (id : UInt32) (calls : List RxCall) : List IsoTpCanFrame :=
  calls.filterMap fun
    | .feed frame _ _ => if frame.canId = id then some frame else none
    | .tick _ | .reset => none

theorem fedFrames_concat (id : UInt32) (calls : List RxCall) (call : RxCall) :
    fedFrames id (calls ++ [call]) = fedFrames id calls ++ fedFrames id [call] :=
  List.filterMap_append ..

theorem run_requestId (start : IsoTpRx ω) (calls : List RxCall) :
    (run rxStep start calls).requestId = start.requestId := by
  induction calls using List.reverseRecOn with
  | nil => rfl
  | append_singleton calls call ih =>
    rw [run_concat]
    cases call with
    | feed frame now event => exact (feed_requestId ..).trans ih
    | tick now =>
      refine Eq.trans ?_ ih
      show (isotpRxTick _ now).2.requestId = _
      unfold isotpRxTick
      split
      next => rfl
      next => split <;> rfl
    | reset => exact ih

theorem rxFirst_long {rx : IsoTpRx ω} {frame : IsoTpCanFrame} {now : UInt32}
    {event : IsoTpRxEvent} (h : (rxFirst rx frame now event).status = .needFlowControl ∨
      (rxFirst rx frame now event).status = .complete) {length header : Nat}
    (hff : (decodeFf frame).1 = some (length, header)) : 7 < length := by
  by_contra hshort
  have hbad : (rxFirst rx frame now event).status = .errFormat := by
    unfold rxFirst
    split
    next => rfl
    next =>
      split
      next => rfl
      next =>
        split
        next => rfl
        next found =>
          rw [found] at hff
          obtain ⟨rfl, -⟩ := Prod.mk.inj (Option.some.inj hff)
          rw [if_pos (Nat.not_lt.mp hshort)]
  rw [hbad] at h
  rcases h with h | h <;> exact absurd h (by decide)

/-- A first frame that is accepted is for the receiver, and announces more than fits in a
single frame. -/
theorem feed_accepted {rx : IsoTpRx ω} {frame : IsoTpCanFrame} {now : UInt32}
    {event : IsoTpRxEvent} (htype : frame.highNibble = 1)
    (h : (isotpRxFeed rx frame now event).status = .needFlowControl ∨
      (isotpRxFeed rx frame now event).status = .complete) :
    frame.canId = rx.requestId ∧
      ∀ {length header : Nat}, (decodeFf frame).1 = some (length, header) → 7 < length := by
  unfold isotpRxFeed at h
  split at h
  next => rcases h with h | h <;> exact absurd h (by simp)
  next =>
    split at h
    next => rcases h with h | h <;> exact absurd h (by simp)
    next hid =>
      refine ⟨not_not.mp hid, fun hff => ?_⟩
      dsimp only at h
      have hdispatch : ∀ (rx : IsoTpRx ω) event,
          rxDispatch rx frame now event = rxFirst rx frame now event := by
        intro rx event
        simp only [rxDispatch, htype]
      split at h
      next =>
        rw [hdispatch] at h
        exact rxFirst_long h hff
      next =>
        rw [hdispatch] at h
        exact rxFirst_long h hff

/-- The pieces of a message under way are those of frames that were fed, in their order. -/
theorem assembling_frames {start : IsoTpRx ω} {calls : List RxCall} {n : Nat}
    {pieces : List (List UInt8)} (h : Assembling start calls n pieces) :
    ∃ first header rest, first.highNibble = 1 ∧ (decodeFf first).1 = some (n, header) ∧ 7 < n ∧
      (∀ frame ∈ rest, frame.highNibble = 2) ∧
      pieces = ffData first header :: rest.map cfData ∧
      (first :: rest).Sublist (fedFrames start.requestId calls) := by
  induction h with
  | @first calls frame now event n header htype hff haccepted =>
    obtain ⟨hid, hlong⟩ := feed_accepted htype (.inl haccepted)
    rw [run_requestId] at hid
    refine ⟨frame, header, [], htype, hff, hlong hff, fun _ hmem => absurd hmem (by simp), rfl, ?_⟩
    rw [fedFrames_concat]
    have hone : fedFrames start.requestId [.feed frame now event] = [frame] := by
      simp [fedFrames, hid]
    rw [hone]
    exact List.sublist_append_right ..
  | @consecutive calls frame now event n pieces _ htype _ hid _ ih =>
    obtain ⟨first, header, rest, hfirst, hff, hlong, hnext, rfl, hsub⟩ := ih
    refine ⟨first, header, rest ++ [frame], hfirst, hff, hlong, fun g hmem => ?_, ?_, ?_⟩
    · rcases List.mem_append.mp hmem with hmem | hmem
      · exact hnext g hmem
      · rw [List.mem_singleton.mp hmem]
        exact htype
    · rw [List.map_append, List.map_singleton]
      rfl
    · have hone : fedFrames start.requestId [.feed frame now event] = [frame] := by
        simp [fedFrames, hid]
      rw [fedFrames_concat, hone, ← List.cons_append]
      exact hsub.append (List.Sublist.refl _)
  | @other calls call n pieces _ _ ih =>
    obtain ⟨first, header, rest, hfirst, hff, hlong, hnext, hpieces, hsub⟩ := ih
    refine ⟨first, header, rest, hfirst, hff, hlong, hnext, hpieces, hsub.trans ?_⟩
    rw [fedFrames_concat]
    exact List.sublist_append_left ..

/-! ## All of them or nothing -/

/-- A sublist that begins with the first frame, of which there is one. -/
theorem sublist_tail {first first' : IsoTpCanFrame} {rest rest' : List IsoTpCanFrame}
    (hfirst : first.highNibble = 1) (hrest : ∀ frame ∈ rest', frame.highNibble = 2)
    (h : (first :: rest).Sublist (first' :: rest')) : first = first' ∧ rest.Sublist rest' := by
  cases h with
  | cons _ h =>
    have htwo := hrest first (h.subset List.mem_cons_self)
    omega
  | cons_cons _ h => exact ⟨rfl, h⟩

/-- **A reception is complete with all frames of the transfer.** -/
theorem delivered_segmented {start : IsoTpRx ω} {calls : List RxCall} {frame : IsoTpCanFrame}
    {now : UInt32} {event : IsoTpRxEvent} {payload bytes : List UInt8}
    {frames : List IsoTpCanFrame} (hframes : Segmented payload frames)
    (hfed : (fedFrames start.requestId calls ++ [frame]).Sublist frames)
    (hcomplete : (isotpRxFeed (run rxStep start calls) frame now event).status = .complete)
    (h : Delivered start calls frame bytes) :
    bytes = payload ∧ fedFrames start.requestId calls ++ [frame] = frames := by
  have hmem : frame ∈ frames := hfed.subset (by simp)
  cases h with
  | @single length header htype hsf =>
    cases hframes with
    | nothing => exact absurd hmem (by simp)
    | single type decoded hbytes =>
      obtain rfl := List.mem_singleton.mp hmem
      rw [decoded] at hsf
      obtain ⟨rfl, rfl⟩ := Prod.mk.inj (Option.some.inj hsf)
      refine ⟨hbytes, hfed.eq_of_length_le ?_⟩
      rw [List.length_append]
      exact Nat.le_add_left ..
    | several type decoded next =>
      rcases List.mem_cons.mp hmem with rfl | hmem
      · omega
      · have htwo := (next frame hmem).1
        omega
    | refused type decoded short next =>
      rcases List.mem_cons.mp hmem with rfl | hmem
      · omega
      · have htwo := next frame hmem
        omega
  | @first n header htype hff hlen =>
    have hlong := (feed_accepted htype (.inr hcomplete)).2 hff
    cases hframes with
    | nothing => exact absurd hmem (by simp)
    | single type =>
      obtain rfl := List.mem_singleton.mp hmem
      omega
    | several type decoded next needed =>
      rcases List.mem_cons.mp hmem with rfl | hmem
      · rw [decoded] at hff
        obtain ⟨rfl, rfl⟩ := Prod.mk.inj (Option.some.inj hff)
        omega
      · have htwo := (next frame hmem).1
        omega
    | refused type decoded short next =>
      rcases List.mem_cons.mp hmem with rfl | hmem
      · rw [decoded] at hff
        obtain ⟨rfl, -⟩ := Prod.mk.inj (Option.some.inj hff)
        omega
      · have htwo := next frame hmem
        omega
  | @consecutive n pieces hasm htype hsequence hid hlen =>
    obtain ⟨first, header, rest, hfirst, hff, hlong, hnext, rfl, hsub⟩ := assembling_frames hasm
    have hall := (hsub.append (List.Sublist.refl [frame])).trans hfed
    rw [List.cons_append] at hall
    cases hframes with
    | nothing => exact absurd hmem (by simp)
    | single type =>
      obtain rfl := List.mem_singleton.mp hmem
      omega
    | @several first' rest' header' chunk type decoded next needed hbytes =>
      obtain ⟨rfl, htail⟩ := sublist_tail hfirst (fun g hg => (next g hg).1) hall
      rw [decoded] at hff
      obtain ⟨rfl, rfl⟩ := Prod.mk.inj (Option.some.inj hff)
      -- a proper sublist of the consecutive frames has too few bytes
      have hchunks : ((rest ++ [frame]).flatMap cfData).length = (rest.length + 1) * chunk := by
        rw [List.length_flatMap, List.map_congr_left (g := fun _ => chunk)
          fun g hg => (next g (htail.subset hg)).2]
        simp [Nat.succ_mul]
      have hpieces : (ffData first header' :: rest.map cfData ++ [cfData frame]).flatten
          = ffData first header' ++ (rest ++ [frame]).flatMap cfData := by
        simp [List.flatMap, List.flatten_cons]
      rw [hpieces] at hlen ⊢
      rw [List.length_append, hchunks] at hlen
      have hcount : rest'.length - 1 < rest.length + 1 := by
        apply Nat.lt_of_mul_lt_mul_right (a := chunk)
        omega
      have hwhole : rest ++ [frame] = rest' := by
        refine htail.eq_of_length_le ?_
        rw [List.length_append, List.length_singleton]
        omega
      refine ⟨?_, hfed.antisymm ?_⟩
      · rw [hwhole]
        exact hbytes
      · rw [← hwhole, ← List.cons_append]
        exact hsub.append (List.Sublist.refl _)
    | refused type decoded short next =>
      obtain ⟨rfl, htail⟩ := sublist_tail hfirst next hall
      rw [decoded] at hff
      obtain ⟨rfl, -⟩ := Prod.mk.inj (Option.some.inj hff)
      omega

/-! ## The frames of a transmitter -/

theorem restFrames_next (tx : IsoTpTx ω) (hvalid : validTxConfig tx.config = true)
    (hsequence : tx.nextSequence < 16) : ∀ frame ∈ restFrames tx,
      frame.canId = tx.responseId ∧ frame.highNibble = 2 ∧
        (cfData frame).length = tx.config.txDl - 1 := by
  induction tx using restFrames.induct with
  | case1 tx hmore ih =>
    intro frame hmem
    rw [restFrames, dif_pos hmore] at hmem
    rcases List.mem_cons.mp hmem with rfl | hmem
    · obtain ⟨hlength, -⟩ := consecutiveFrame_data tx hvalid (Nat.min_le_right
        (tx.payloadLen - tx.offset) (tx.config.txDl - 1))
      exact ⟨rfl, (consecutiveFrame_nibbles tx _ hsequence).1, hlength⟩
    · exact ih hvalid (Nat.mod_lt _ (by decide)) frame hmem
  | case2 tx hnone =>
    rw [restFrames, dif_neg hnone]
    exact fun _ hmem => absurd hmem (by simp)

theorem restFrames_ne_nil (tx : IsoTpTx ω) (hvalid : validTxConfig tx.config = true)
    (hmore : tx.offset < tx.payloadLen) : restFrames tx ≠ [] := by
  have hdl := txDl_bounds hvalid
  rw [restFrames, dif_pos (by unfold txCopy; omega)]
  exact List.cons_ne_nil _ _

/-- Without the last of them the frames are too few. -/
theorem restFrames_needed (tx : IsoTpTx ω) (hmore : tx.offset < tx.payloadLen) :
    tx.offset + ((restFrames tx).length - 1) * (tx.config.txDl - 1) < tx.payloadLen := by
  induction tx using restFrames.induct with
  | case1 tx hcopy ih =>
    rw [restFrames, dif_pos hcopy, List.length_cons, Nat.add_sub_cancel]
    rcases Nat.lt_or_ge (txSkip tx).offset (txSkip tx).payloadLen with hleft | hdone
    · -- this one is full, as there is more behind it
      have hrest := ih hleft
      have hfull : (txSkip tx).offset = tx.offset + (tx.config.txDl - 1) := by
        show tx.offset + txCopy tx = _
        change tx.offset + txCopy tx < tx.payloadLen at hleft
        unfold txCopy at hleft ⊢
        omega
      rw [hfull] at hrest
      cases hframes : restFrames (txSkip tx) with
      | nil => simpa using hmore
      | cons frame rest =>
        rw [hframes, List.length_cons, Nat.add_sub_cancel] at hrest
        rw [List.length_cons, Nat.succ_mul]
        change _ + rest.length * (tx.config.txDl - 1) < tx.payloadLen at hrest
        omega
    · rw [restFrames_done hdone]
      simpa using hmore
  | case2 tx hnone =>
    rw [restFrames, dif_neg hnone]
    simpa using hmore

/-- A single frame is decoded as one, whatever its sender would take itself. -/
theorem txBuildSf_decoded {tx tx' : IsoTpTx ω} {payload : List UInt8} {frame : IsoTpCanFrame}
    (hvalid : validTxConfig tx.config = true) (hpos : 1 ≤ payload.length)
    (h : txBuildSf tx payload = some (tx', frame)) :
    frame.canId = tx.responseId ∧ Segmented payload [frame] := by
  let config : IsoTpConfig ω := { tx.config with rxDl := tx.config.txDl }
  have hboth : validTxConfig config = true := by
    unfold validTxConfig at hvalid ⊢
    show (if tx.config.canFd then validFdDl tx.config.txDl && validFdDl tx.config.txDl
      else tx.config.txDl == 8 && tx.config.txDl == 8) = true
    split at hvalid
    next hfd => rw [if_pos hfd, Bool.and_self, (Bool.and_eq_true_iff.mp hvalid).1]
    next hclassic => rw [if_neg hclassic, Bool.and_self, (Bool.and_eq_true_iff.mp hvalid).1]
  have hmatched : Matched config config := ⟨hboth, hboth, rfl, le_refl _, le_refl _⟩
  have hend : TxEnd config tx.responseId tx.requestId { tx with config := config } :=
    ⟨rfl, rfl, rfl⟩
  have hbuilt : (txBuildSf { tx with config := config } payload).map Prod.snd = some frame := by
    refine Eq.trans ?_ (congrArg (Option.map Prod.snd) h)
    show (if payload.length ≤ 7 then _ else if tx.config.canFd ∧ payload.length
        ≤ singleCapacity tx.config ∧ payload.length ≤ 255 then _ else none).map Prod.snd
      = (if payload.length ≤ 7 then _ else if tx.config.canFd ∧ payload.length
        ≤ singleCapacity tx.config ∧ payload.length ≤ 255 then _ else none).map Prod.snd
    split
    next => rfl
    next => split <;> rfl
  obtain ⟨out, hsf, rfl⟩ := Option.map_eq_some_iff.mp hbuilt
  have hpdu := txBuildSf_pdu hmatched hend hpos hsf
  obtain ⟨header, hdecoded, -, hbytes⟩ := hpdu.decoded
  exact ⟨hpdu.id, .single hpdu.type hdecoded hbytes⟩

/-- A classic first frame has no room for a long length, and announces none. -/
theorem firstFrame_refused (tx : IsoTpTx ω) {payload : List UInt8} (hlong : 4095 < payload.length)
    (hclassic : tx.config.canFd = false) :
    (txBuildFirstFrame tx payload).2.highNibble = 1 ∧
      (decodeFf (txBuildFirstFrame tx payload).2).1 = some (0, 2) := by
  have hheader : ffHeader payload.length = 6 := if_neg (Nat.not_le.mpr hlong)
  have hb0 : (txBuildFirstFrame tx payload).2.data 0 = 0x10 := by
    simp only [txBuildFirstFrame, hheader, if_neg (Nat.not_le.mpr hlong)]
    rw [Buf.copy_outside (by omega)]
    simp only [Buf.write_apply]
    rfl
  have hb1 : (txBuildFirstFrame tx payload).2.data 1 = 0 := by
    simp only [txBuildFirstFrame, hheader, if_neg (Nat.not_le.mpr hlong)]
    rw [Buf.copy_outside (by omega)]
    simp only [Buf.write_apply]
    rfl
  have hfd : (txBuildFirstFrame tx payload).2.isFd = false := hclassic
  have hlow : (txBuildFirstFrame tx payload).2.lowNibble = 0 := by
    rw [IsoTpCanFrame.lowNibble, hb0]
    rfl
  refine ⟨by rw [IsoTpCanFrame.highNibble, hb0]; rfl, ?_⟩
  unfold decodeFf
  rw [if_pos (.inl (by rw [hfd]; decide)), hlow, hb1]
  rfl

/-- The frames of a transfer are for the other side, and it can tell them apart. -/
theorem segment_segmented (tx : IsoTpTx ω) {payload : List UInt8}
    (hvalid : validTxConfig tx.config = true) (hpos : 1 ≤ payload.length)
    (hfits : payload.length ≤ maxPayload) :
    (∀ frame ∈ segment tx payload, frame.canId = tx.responseId) ∧
      Segmented payload (segment tx payload) := by
  have hload : validTxConfig (txLoad tx payload 0).config = true := hvalid
  have hconvey := segment_conveys hvalid payload
  unfold segment at hconvey ⊢
  cases hsf : txBuildSf (txLoad tx payload 0) payload with
  | some out =>
    obtain ⟨hid, hsingle⟩ := txBuildSf_decoded hload hpos hsf
    refine ⟨fun frame hmem => ?_, hsingle⟩
    rw [List.mem_singleton.mp hmem]
    exact hid
  | none =>
    rw [hsf] at hconvey
    obtain ⟨hoffset, hmore, hfirst⟩ := firstFrame_carries hload hsf
    obtain ⟨hlong, -⟩ := txBuildSf_none hload hsf
    have hnext := restFrames_next (txBuildFirstFrame (txLoad tx payload 0) payload).1 hvalid
      (show 1 < 16 by decide)
    have hneeded := restFrames_needed (txBuildFirstFrame (txLoad tx payload 0) payload).1 hmore
    refine ⟨fun frame hmem => ?_, ?_⟩
    · rcases List.mem_cons.mp hmem with rfl | hmem
      · rfl
      · exact (hnext frame hmem).1
    by_cases hclassic : tx.config.canFd = false ∧ 4095 < payload.length
    · obtain ⟨htype, hff⟩ := firstFrame_refused (txLoad tx payload 0) hclassic.2 hclassic.1
      exact .refused htype hff (by decide) fun frame hmem => (hnext frame hmem).2.1
    · obtain ⟨htype, hff⟩ := firstFrame_decoded (txLoad tx payload 0) hload hlong hfits
        fun hc => Nat.not_lt.mp fun hlt => hclassic ⟨hc, hlt⟩
      refine .several htype hff (fun frame hmem => (hnext frame hmem).2) ?_ ?_
      · rw [hfirst, List.length_take, Nat.min_eq_left (Nat.le_of_lt hmore)]
        exact hneeded
      · generalize hrest : restFrames _ = rest at hconvey ⊢
        cases hconvey with
        | single => exact absurd hrest (restFrames_ne_nil _ hvalid hmore)
        | several bytes => exact bytes

/-! ## A receiver on the way through a transfer -/

section conveyed

variable {start rx : IsoTpRx ω} {frames ahead ahead' : List IsoTpCanFrame} {calls : List RxCall}
  {payload : List UInt8} {frame : IsoTpCanFrame} {now : UInt32} {event : IsoTpRxEvent}

/-- The frames that a receiver was fed, and those ahead of it, are frames of the transfer, in its
order. -/
structure Conveyed (start : IsoTpRx ω) (frames : List IsoTpCanFrame) (calls : List RxCall)
    (rx : IsoTpRx ω) (ahead : List IsoTpCanFrame) : Prop where
  receiver : rx = run rxStep start calls
  ahead : (fedFrames start.requestId calls ++ ahead).Sublist frames

/-- Frames ahead are lost. -/
theorem Conveyed.shrink (h : Conveyed start frames calls rx ahead)
    (hless : ahead'.Sublist ahead) : Conveyed start frames calls rx ahead' :=
  ⟨h.receiver, ((List.Sublist.refl _).append hless).trans h.ahead⟩

/-- A call that feeds no frame. -/
theorem Conveyed.unfed (h : Conveyed start frames calls rx ahead) {call : RxCall}
    (hcall : fedFrames start.requestId [call] = []) :
    Conveyed start frames (calls ++ [call]) (rxStep rx call) ahead := by
  refine ⟨?_, ?_⟩
  · rw [run_concat, ← h.receiver]
  · rw [fedFrames_concat, hcall, List.append_nil]
    exact h.ahead

theorem fedFrames_feed {id : UInt32} (hid : frame.canId = id) :
    fedFrames id (calls ++ [.feed frame now event]) = fedFrames id calls ++ [frame] := by
  rw [fedFrames_concat]
  simp [fedFrames, hid]

/-- The first of the frames ahead. -/
theorem Conveyed.feed (h : Conveyed start frames calls rx (frame :: ahead))
    (hid : frame.canId = start.requestId) :
    Conveyed start frames (calls ++ [.feed frame now event]) (isotpRxFeed rx frame now event).rx
      ahead := by
  refine ⟨?_, ?_⟩
  · rw [run_concat, ← h.receiver]
    rfl
  · rw [fedFrames_feed hid, List.append_assoc]
    exact h.ahead

theorem rxInv_of_inactive (hidle : start.active = false) (calls : List RxCall) :
    RxInv start calls (run rxStep start calls) :=
  Along.history (I := RxInv start) (.of_inactive rfl hidle) (fun _ _ h _ => rxStep_inv rfl h)
    (along_true calls _)

/-- The frame that completes the reception is the last of all, and the bytes are the payload. -/
theorem Conveyed.complete (h : Conveyed start frames calls rx (frame :: ahead))
    (hidle : start.active = false) (hframes : Segmented payload frames)
    (hcomplete : (isotpRxFeed rx frame now event).status = .complete) :
    (isotpRxFeed rx frame now event).event.bytes = payload ∧
      fedFrames start.requestId calls ++ [frame] = frames := by
  have hinv := rxInv_of_inactive hidle calls
  rw [← h.receiver] at hinv
  obtain ⟨buffer, hpayload, hdelivered⟩ := complete_delivered hinv hcomplete
  have hsub : (fedFrames start.requestId calls ++ [frame]).Sublist frames := by
    refine ((List.Sublist.refl _).append ?_).trans h.ahead
    exact (List.nil_sublist ahead).cons_cons frame
  rw [h.receiver] at hcomplete
  obtain ⟨hbytes, hall⟩ := delivered_segmented hframes hsub hcomplete hdelivered
  refine ⟨?_, hall⟩
  rw [← hbytes]
  simp [IsoTpRxEvent.bytes, hpayload]

/-- Nothing is ahead of a receiver that was fed everything. -/
theorem Conveyed.exhausted (h : Conveyed start frames calls rx (frame :: ahead))
    (hall : fedFrames start.requestId calls ++ [frame] = frames) : ahead = [] := by
  have hlength := h.ahead.length_le
  rw [← hall, List.length_append, List.length_append, List.length_cons, List.length_singleton]
    at hlength
  exact List.eq_nil_of_length_eq_zero (by omega)

end conveyed

/-! ## The link -/

/-- The link, and whether a frame was lost that was on its way to the receiver. -/
structure LossyLink (ω : Type) extends Link ω where
  lost : Bool

/-- What happens on a link that loses frames. -/
inductive LossyCall (ω : Type) where
  | call (call : LinkCall ω)
  /-- The frame at this place of those in flight is lost. -/
  | loseDown (i : Nat)
  | loseUp (i : Nat)
  /-- A frame reaches the sender that the receiver has not sent. -/
  | control (frame : IsoTpCanFrame) (now : UInt32) (w : ω)
  | resetSender
  | resetReceiver

/-- One call; a frame may be lost in either direction. -/
def lossyStep (s : LossyLink ω) : LossyCall ω → LossyLink ω
  | .call call => { s with toLink := linkStep s.toLink call }
  | .loseDown i =>
    { s with
      toReceiver := s.toReceiver.eraseIdx i
      lost := s.lost || decide (i < s.toReceiver.length) }
  | .loseUp i => { s with toSender := s.toSender.eraseIdx i }
  | .control frame now w => { s with sender := (isotpTxFeedFlowControl s.sender frame now w).2.1 }
  | .resetSender => { s with sender := isotpTxReset s.sender }
  | .resetReceiver => { s with receiver := isotpRxReset s.receiver }

/-- The link as it starts, with nothing lost. -/
def lossyStart (tx₀ : IsoTpTx ω) (rx₀ : IsoTpRx ω) (sc rc : IsoTpConfig ω) (down up : UInt32)
    (payload : List UInt8) (now : UInt32) (frame : IsoTpCanFrame) : LossyLink ω where
  toLink := linkStart tx₀ rx₀ sc rc down up payload now frame
  lost := false

/-! ## The sender -/

/-- The sender has the same frames before it as earlier, or has given up. -/
structure GoesOn (tx tx' : IsoTpTx ω) : Prop where
  config : tx'.config = tx.config
  busy : tx'.state ≠ .idle → tx.state ≠ .idle
  frames : outgoing tx' = outgoing tx ∨ outgoing tx' = []

theorem GoesOn.sublist {tx tx' : IsoTpTx ω} (h : GoesOn tx tx') :
    (outgoing tx').Sublist (outgoing tx) := by
  rcases h.frames with hsame | hnone
  · rw [hsame]
  · rw [hnone]
    exact List.nil_sublist _

theorem goesOn_refl (tx : IsoTpTx ω) : GoesOn tx tx := ⟨rfl, id, .inl rfl⟩

theorem goesOn_reset (tx : IsoTpTx ω) : GoesOn tx (isotpTxReset tx) :=
  ⟨rfl, fun h => absurd rfl h, .inr (if_pos rfl)⟩

theorem feedFlowControl_goesOn (tx : IsoTpTx ω) (frame : IsoTpCanFrame) (now : UInt32) (w : ω) :
    GoesOn tx (isotpTxFeedFlowControl tx frame now w).2.1 := by
  have heffect := feedFlowControl_effect tx frame now w
  have hsame := @feed_outgoing ω tx now w frame
  generalize isotpTxFeedFlowControl tx frame now w = out at heffect hsame ⊢
  cases heffect with
  | refused hstatus => exact goesOn_refl tx
  | aborted hstatus => exact goesOn_reset tx
  | waited hstate hflow hfew =>
    exact ⟨rfl, id, .inl (hsame (by simp) (by simp))⟩
  | granted hstate hflow hclock hnoclock =>
    have hbusy : tx.state ≠ .idle := by rcases hstate with h | h <;> rw [h] <;> decide
    exact ⟨rfl, fun _ => hbusy, .inl (hsame (by simp) (by simp))⟩

theorem tick_goesOn (tx : IsoTpTx ω) (now : UInt32) : GoesOn tx (isotpTxTick tx now).2 := by
  unfold isotpTxTick
  split
  next => exact goesOn_refl tx
  next =>
    split
    next => exact goesOn_reset tx
    next => exact goesOn_refl tx

/-- A poll that hands out no frame. -/
theorem next_goesOn {tx : IsoTpTx ω} {now : UInt32} {frame : IsoTpCanFrame} {w : ω}
    (h : (isotpTxNext tx now frame w).1.status ≠ .txFrameReady) :
    GoesOn tx (isotpTxNext tx now frame w).1.tx := by
  have heffect := next_effect tx now frame w
  generalize isotpTxNext tx now frame w = out at heffect h ⊢
  cases heffect with
  | kept hw => exact goesOn_refl tx
  | ended hstatus hw => exact goesOn_reset tx
  | sent => exact absurd rfl h

theorem next_busy {tx : IsoTpTx ω} {now : UInt32} {frame : IsoTpCanFrame} {w : ω}
    (h : (isotpTxNext tx now frame w).1.status = .txFrameReady) :
    tx.state ≠ .idle ∧ (isotpTxNext tx now frame w).1.tx.config = tx.config := by
  have heffect := next_effect tx now frame w
  generalize isotpTxNext tx now frame w = out at heffect h ⊢
  cases heffect with
  | kept hw => exact absurd h (by simp)
  | ended hstatus hw =>
    rcases hstatus with rfl | rfl <;> exact absurd h (by simp)
  | sent hstate => exact ⟨by rw [hstate]; decide, rfl⟩

/-! ## The invariant -/

variable {start : IsoTpRx ω} {frames : List IsoTpCanFrame} {payload : List UInt8}
  {calls : List RxCall} {s s' : LossyLink ω}

/-- The frames that the receiver was fed, those in flight and those that are still to come are
frames of the transfer, in its order, and fewer once one was lost. -/
structure Partial (start : IsoTpRx ω) (frames : List IsoTpCanFrame) (payload : List UInt8)
    (calls : List RxCall) (s : LossyLink ω) : Prop where
  conveyed : Conveyed start frames calls s.receiver (s.toReceiver ++ outgoing s.sender)
  ready : s.sender.state ≠ .idle → validTxConfig s.sender.config = true
  lost : s.lost = true →
    (fedFrames start.requestId calls ++ (s.toReceiver ++ outgoing s.sender)).length < frames.length
  delivered : s.delivered = [] ∨ (s.delivered = [payload] ∧ s.lost = false ∧
    s.toReceiver = [] ∧ outgoing s.sender = [])

/-- Whatever only takes frames away. -/
theorem Partial.shrink (h : Partial start frames payload calls s)
    (hreceiver : s'.receiver = s.receiver) (hdelivered : s'.delivered = s.delivered)
    (hready : s'.sender.state ≠ .idle → validTxConfig s'.sender.config = true)
    (hdown : s'.toReceiver.Sublist s.toReceiver)
    (hout : (outgoing s'.sender).Sublist (outgoing s.sender))
    (hlost : s'.lost = true → s.lost = true ∨ s'.toReceiver.length < s.toReceiver.length) :
    Partial start frames payload calls s' := by
  have hahead := (List.Sublist.refl (fedFrames start.requestId calls)).append (hdown.append hout)
  have hconveyed := h.conveyed.shrink (hdown.append hout)
  rw [← hreceiver] at hconveyed
  refine ⟨hconveyed, hready, fun hgone => ?_, ?_⟩
  · rcases hlost hgone with hbefore | hnow
    · exact hahead.length_le.trans_lt (h.lost hbefore)
    · have hall := h.conveyed.ahead.length_le
      have hless := hout.length_le
      simp only [List.length_append] at hall ⊢
      omega
  · rw [hdelivered]
    rcases h.delivered with hnone | ⟨hsome, hkept, hempty, hlast⟩
    · exact .inl hnone
    · rw [hempty] at hdown hlost
      rw [hlast] at hout
      refine .inr ⟨hsome, Bool.eq_false_of_not_eq_true fun hgone => ?_,
        List.sublist_nil.mp hdown, List.sublist_nil.mp hout⟩
      rcases hlost hgone with hbefore | hnow
      · rw [hkept] at hbefore
        exact absurd hbefore (by decide)
      · exact absurd hnow (by simp)

/-- A call that moves the sender alone. -/
theorem Partial.goesOn (h : Partial start frames payload calls s) {tx : IsoTpTx ω}
    (hsender : GoesOn s.sender tx) (hs : s'.sender = tx) (hreceiver : s'.receiver = s.receiver)
    (hdelivered : s'.delivered = s.delivered) (hdown : s'.toReceiver = s.toReceiver)
    (hlost : s'.lost = s.lost) : Partial start frames payload calls s' := by
  subst hs
  refine h.shrink hreceiver hdelivered (fun hbusy => ?_) (by rw [hdown]) hsender.sublist
    fun hgone => .inl (hlost ▸ hgone)
  rw [hsender.config]
  exact h.ready (hsender.busy hbusy)

/-- A call on the receiver that feeds it no frame. -/
theorem Partial.unfed (h : Partial start frames payload calls s) {call : RxCall}
    (hcall : fedFrames start.requestId [call] = []) :
    Partial start frames payload (calls ++ [call])
      { s with receiver := rxStep s.receiver call } := by
  have hfed : fedFrames start.requestId (calls ++ [call]) = fedFrames start.requestId calls := by
    rw [fedFrames_concat, hcall, List.append_nil]
  refine ⟨h.conveyed.unfed hcall, h.ready, ?_, h.delivered⟩
  rw [hfed]
  exact h.lost

/-- The sender hands out its next frame. -/
theorem Partial.next (h : Partial start frames payload calls s) {now : UInt32}
    {frame : IsoTpCanFrame} {w : ω}
    (hready : (isotpTxNext s.sender now frame w).1.status = .txFrameReady) :
    Partial start frames payload calls
      { s with
        sender := (isotpTxNext s.sender now frame w).1.tx
        toReceiver := s.toReceiver ++ [(isotpTxNext s.sender now frame w).1.frame] } := by
  obtain ⟨hbusy, hconfig⟩ := next_busy hready
  have hvalid := h.ready hbusy
  have hnext := next_outgoing s.sender frame hvalid hready
  have hahead : s.toReceiver ++ [(isotpTxNext s.sender now frame w).1.frame]
      ++ outgoing (isotpTxNext s.sender now frame w).1.tx = s.toReceiver ++ outgoing s.sender := by
    rw [hnext, List.append_assoc]
    rfl
  refine ⟨?_, fun _ => by rw [hconfig]; exact hvalid, ?_, ?_⟩
  · rw [hahead]
    exact h.conveyed
  · rw [hahead]
    exact h.lost
  · rcases h.delivered with hnone | ⟨-, -, -, hlast⟩
    · exact .inl hnone
    · rw [hlast] at hnext
      exact absurd hnext (by simp)

/-- A frame reaches the receiver: the last one of all completes the payload. -/
theorem Partial.deliver (h : Partial start frames payload calls s)
    (hidle : start.active = false) (hframes : Segmented payload frames)
    (hids : ∀ frame ∈ frames, frame.canId = start.requestId) {now : UInt32}
    {event : IsoTpRxEvent} {frame : IsoTpCanFrame} {rest : List IsoTpCanFrame}
    (harrives : s.toReceiver = frame :: rest) :
    Partial start frames payload (calls ++ [.feed frame now event])
      { s with toLink := linkStep s.toLink (.deliver now event) } := by
  have hconveyed := h.conveyed
  rw [harrives, List.cons_append] at hconveyed
  have hid : frame.canId = start.requestId := hids frame (hconveyed.ahead.subset (by simp))
  have hfed : fedFrames start.requestId (calls ++ [.feed frame now event])
      = fedFrames start.requestId calls ++ [frame] := fedFrames_feed hid
  have hahead : fedFrames start.requestId (calls ++ [.feed frame now event])
        ++ (rest ++ outgoing s.sender)
      = fedFrames start.requestId calls ++ (s.toReceiver ++ outgoing s.sender) := by
    rw [hfed, harrives]
    simp
  have hnone : s.delivered = [] := by
    rcases h.delivered with hnone | ⟨-, -, hempty, -⟩
    · exact hnone
    · rw [harrives] at hempty
      exact absurd hempty (by simp)
  simp only [linkStep, harrives]
  refine ⟨hconveyed.feed hid, h.ready, ?_, ?_⟩
  · rw [hahead]
    exact h.lost
  · by_cases hcomplete : (isotpRxFeed s.receiver frame now event).status = .complete
    · obtain ⟨hbytes, hall⟩ := hconveyed.complete hidle hframes hcomplete
      obtain ⟨hrest, hlast⟩ := List.append_eq_nil_iff.mp (hconveyed.exhausted hall)
      refine .inr ⟨?_, Bool.eq_false_of_not_eq_true fun hlost => ?_, hrest, hlast⟩
      · rw [if_pos hcomplete, hnone, hbytes]
        rfl
      · have hfew := h.lost hlost
        rw [← hahead, hfed, hall, List.length_append] at hfew
        omega
    · refine .inl ?_
      rw [if_neg hcomplete]
      exact hnone

theorem linkStep_partial (h : Partial start frames payload calls s)
    (hidle : start.active = false) (hframes : Segmented payload frames)
    (hids : ∀ frame ∈ frames, frame.canId = start.requestId) (call : LinkCall ω) :
    ∃ calls', Partial start frames payload calls' { s with toLink := linkStep s.toLink call } := by
  cases call with
  | deliver now event =>
    cases harrives : s.toReceiver with
    | nil =>
      refine ⟨calls, ?_⟩
      simp only [linkStep, harrives]
      exact h
    | cons frame rest => exact ⟨_, h.deliver hidle hframes hids harrives⟩
  | answer now w =>
    refine ⟨calls, ?_⟩
    simp only [linkStep]
    split
    next => exact h
    next frame rest _ =>
      exact h.goesOn (feedFlowControl_goesOn s.sender frame now w) rfl rfl rfl rfl rfl
  | next now frame w =>
    refine ⟨calls, ?_⟩
    simp only [linkStep]
    by_cases hready : (isotpTxNext s.sender now frame w).1.status = .txFrameReady
    · rw [if_pos hready]
      exact (h.next hready).goesOn (goesOn_refl _) rfl rfl rfl rfl rfl
    · rw [if_neg hready]
      exact h.goesOn (next_goesOn hready) rfl rfl rfl rfl rfl
  | tickSender now => exact ⟨calls, h.goesOn (tick_goesOn s.sender now) rfl rfl rfl rfl rfl⟩
  | tickReceiver now =>
    refine ⟨calls ++ [.tick now], ?_⟩
    have hunfed : fedFrames start.requestId [.tick now] = [] := rfl
    have hticked := h.unfed hunfed
    exact hticked.goesOn (goesOn_refl _) rfl rfl rfl rfl rfl

theorem lossyStep_partial (h : Partial start frames payload calls s)
    (hidle : start.active = false) (hframes : Segmented payload frames)
    (hids : ∀ frame ∈ frames, frame.canId = start.requestId) (call : LossyCall ω) :
    ∃ calls', Partial start frames payload calls' (lossyStep s call) := by
  cases call with
  | call call => exact linkStep_partial h hidle hframes hids call
  | loseDown i =>
    refine ⟨calls, h.shrink rfl rfl h.ready (List.eraseIdx_sublist ..) (List.Sublist.refl _)
      fun hgone => ?_⟩
    rcases Bool.or_eq_true_iff.mp hgone with hbefore | hnow
    · exact .inl hbefore
    · have hlt := of_decide_eq_true hnow
      refine .inr ?_
      show (s.toReceiver.eraseIdx i).length < s.toReceiver.length
      rw [List.length_eraseIdx_of_lt hlt]
      omega
  | loseUp i => exact ⟨calls, h.goesOn (goesOn_refl _) rfl rfl rfl rfl rfl⟩
  | control frame now w =>
    exact ⟨calls, h.goesOn (feedFlowControl_goesOn s.sender frame now w) rfl rfl rfl rfl rfl⟩
  | resetSender => exact ⟨calls, h.goesOn (goesOn_reset s.sender) rfl rfl rfl rfl rfl⟩
  | resetReceiver => exact ⟨calls ++ [.reset], h.unfed rfl⟩

theorem start_config {tx : IsoTpTx ω} {now : UInt32} {frame : IsoTpCanFrame}
    (h : (isotpTxStart tx payload now frame).status = .txFrameReady) :
    (isotpTxStart tx payload now frame).tx.config = tx.config := by
  obtain ⟨-, -, ⟨sf, hsf, hout⟩ | ⟨-, hout⟩⟩ := start_ready h
  · rw [hout]
    dsimp only
    rw [txBuildSf_some hsf]
    rfl
  · rw [hout]
    rfl

theorem start_pos {tx : IsoTpTx ω} {now : UInt32} {frame : IsoTpCanFrame}
    (h : (isotpTxStart tx payload now frame).status = .txFrameReady) : 1 ≤ payload.length := by
  by_contra hnone
  unfold isotpTxStart at h
  rw [if_pos (.inl (by omega))] at h
  exact absurd h (by simp)

theorem start_segmented {tx : IsoTpTx ω} {now : UInt32} {frame : IsoTpCanFrame}
    (h : (isotpTxStart tx payload now frame).status = .txFrameReady) :
    (∀ frame ∈ segment tx payload, frame.canId = tx.responseId) ∧
      Segmented payload (segment tx payload) := by
  obtain ⟨hvalid, hfits, -⟩ := start_ready h
  exact segment_segmented tx hvalid (start_pos h) hfits

/-- A payload that is refused leaves the transmitter as it was. -/
theorem start_unready {tx : IsoTpTx ω} {now : UInt32} {frame : IsoTpCanFrame}
    (h : (isotpTxStart tx payload now frame).status ≠ .txFrameReady) :
    (isotpTxStart tx payload now frame).tx = tx := by
  unfold isotpTxStart at h ⊢
  split
  next => rfl
  next hargs =>
    rw [if_neg hargs] at h
    split
    next => rfl
    next hfits =>
      rw [if_neg hfits] at h
      dsimp only at h ⊢
      cases hsf : txBuildSf (txLoad tx payload now) payload with
      | some sf =>
        rw [hsf] at h
        exact absurd rfl h
      | none =>
        rw [hsf] at h
        exact absurd rfl h

theorem lossyStart_partial (tx₀ : IsoTpTx ω) (rx₀ : IsoTpRx ω) (sc rc : IsoTpConfig ω)
    (down up : UInt32) (payload : List UInt8) (now : UInt32) (frame : IsoTpCanFrame) :
    ∃ frames, Segmented payload frames ∧ (∀ frame ∈ frames, frame.canId = down) ∧
      Partial (isotpRxInit rx₀ (some rc) down up) frames payload []
        (lossyStart tx₀ rx₀ sc rc down up payload now frame) := by
  have hidle : (isotpTxInit tx₀ (some sc) up down).state = .idle := rfl
  have hid : (isotpTxInit tx₀ (some sc) up down).responseId = down := rfl
  unfold lossyStart linkStart
  generalize isotpTxInit tx₀ (some sc) up down = tx at hidle hid
  by_cases hready : (isotpTxStart tx payload now frame).status = .txFrameReady
  · obtain ⟨hids, hframes⟩ := start_segmented hready
    rw [hid] at hids
    have hvalid : validTxConfig (isotpTxStart tx payload now frame).tx.config = true := by
      rw [start_config hready]
      exact (start_ready hready).1
    refine ⟨segment tx payload, hframes, hids, ⟨rfl, ?_⟩, fun _ => hvalid,
      fun h => absurd h (by simp), .inl rfl⟩
    dsimp only
    rw [if_pos hready, List.singleton_append, start_outgoing hready]
    exact List.Sublist.refl _
  · -- nothing is in flight, and nothing will be
    have hkept := start_unready hready
    refine ⟨[], .nothing, fun _ hmem => absurd hmem (by simp), ⟨rfl, ?_⟩, fun hbusy => ?_,
      fun h => absurd h (by simp), .inl rfl⟩
    · dsimp only
      rw [if_neg hready, hkept, outgoing, if_pos hidle]
      exact List.Sublist.refl _
    · dsimp only at hbusy
      rw [hkept] at hbusy
      exact absurd hidle hbusy

/-- **A transfer over a link that loses frames is all or nothing.** -/
theorem transfer_whole_or_nothing (tx₀ : IsoTpTx ω) (rx₀ : IsoTpRx ω) (sc rc : IsoTpConfig ω)
    (down up : UInt32) (payload : List UInt8) (now : UInt32) (frame : IsoTpCanFrame)
    (calls : List (LossyCall ω)) :
    let s := run lossyStep (lossyStart tx₀ rx₀ sc rc down up payload now frame) calls
    s.delivered = [] ∨ (s.delivered = [payload] ∧ s.lost = false) := by
  intro s
  obtain ⟨frames, hframes, hids, hstart⟩ :=
    lossyStart_partial tx₀ rx₀ sc rc down up payload now frame
  have hstep : ∀ (t : LossyLink ω) call,
      (∃ fed, Partial (isotpRxInit rx₀ (some rc) down up) frames payload fed t) →
      ∃ fed, Partial (isotpRxInit rx₀ (some rc) down up) frames payload fed (lossyStep t call) := by
    rintro t call ⟨fed, ht⟩
    exact lossyStep_partial ht rfl hframes hids call
  obtain ⟨fed, hs⟩ := run_inv hstep ⟨[], hstart⟩ calls
  rcases hs.delivered with hnone | ⟨hsome, hkept, -⟩
  · exact .inl hnone
  · exact .inr ⟨hsome, hkept⟩

end UdsIsoTp.IsoTp
