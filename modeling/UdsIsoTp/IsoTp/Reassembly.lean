import UdsIsoTp.IsoTp.Rx
import UdsIsoTp.Lib.Run

/-!
# Reassembly is sound against any peer

Whatever frames arrive, in whatever order and at whatever times, a message the
receiver reports is one that was sent: a single frame's data, or the data of one
first frame and of the consecutive frames accepted after it.

`Assembling` is that second sentence, read off the calls: it says of a sequence
of calls that a message of `n` announced bytes is under way and which pieces of
it have been accepted. It knows the receiver only through the statuses it
returned. `RxInv` ties it to the receiver's five fields; the step lemma
`rxStep_inv` goes through the five effects of `feed_effect`.
-/

namespace UdsIsoTp.IsoTp

variable {ω : Type}

/-- A call on the receiver. -/
inductive RxCall where
  | feed (frame : IsoTpCanFrame) (now : UInt32) (event : IsoTpRxEvent)
  | tick (now : UInt32)
  | reset

/-- One call, on the receiver. -/
def rxStep (rx : IsoTpRx ω) : RxCall → IsoTpRx ω
  | .feed frame now event => (isotpRxFeed rx frame now event).rx
  | .tick now => (isotpRxTick rx now).2
  | .reset => isotpRxReset rx

/-- The call neither delivers nor starts a message, is no accepted consecutive
frame, no sequence error, no reset and no timeout, and leaves the receiver as it was. -/
def Undisturbed (rx : IsoTpRx ω) : RxCall → Prop
  | .feed frame now event =>
    let out := isotpRxFeed rx frame now event
    out.rx = rx ∧ out.status ≠ .complete ∧ out.status ≠ .needFlowControl ∧
      out.status ≠ .errSequence ∧
      (out.status = .ok → frame.canId = rx.requestId → frame.highNibble ≠ 2)
  | .tick now => (isotpRxTick rx now).2 = rx ∧ (isotpRxTick rx now).1 ≠ .errTimeout
  | .reset => False

/-- After these calls a message of `n` bytes is under way, and these are the pieces
of it that have been accepted: the first frame's data and, with the sequence
numbers 1, 2, …, 15, 0, 1, …, the data of the consecutive frames after it. -/
inductive Assembling (start : IsoTpRx ω) : List RxCall → Nat → List (List UInt8) → Prop
  | first {calls frame now event n header}
      (htype : frame.highNibble = 1) (hff : (decodeFf frame).1 = some (n, header))
      (haccepted : (isotpRxFeed (run rxStep start calls) frame now event).status
        = .needFlowControl) :
      Assembling start (calls ++ [.feed frame now event]) n [ffData frame header]
  | consecutive {calls frame now event n pieces} (h : Assembling start calls n pieces)
      (htype : frame.highNibble = 2) (hsequence : frame.lowNibble = pieces.length % 16)
      (hid : frame.canId = start.requestId)
      (haccepted : (isotpRxFeed (run rxStep start calls) frame now event).status = .ok ∨
        (isotpRxFeed (run rxStep start calls) frame now event).status = .needFlowControl) :
      Assembling start (calls ++ [.feed frame now event]) n (pieces ++ [cfData frame])
  | other {calls call n pieces} (h : Assembling start calls n pieces)
      (hcall : Undisturbed (run rxStep start calls) call) :
      Assembling start (calls ++ [call]) n pieces

/-- What a completed reception may deliver, given the calls before it and the frame
that completed it. -/
inductive Delivered (start : IsoTpRx ω) (calls : List RxCall) (frame : IsoTpCanFrame) :
    List UInt8 → Prop
  | single {length header} (htype : frame.highNibble = 0)
      (hsf : (decodeSf frame).1 = some (length, header)) :
      Delivered start calls frame (frame.data.slice header length)
  | first {n header} (htype : frame.highNibble = 1)
      (hff : (decodeFf frame).1 = some (n, header)) (hlen : n ≤ (ffData frame header).length) :
      Delivered start calls frame ((ffData frame header).take n)
  | consecutive {n pieces} (h : Assembling start calls n pieces)
      (htype : frame.highNibble = 2) (hsequence : frame.lowNibble = pieces.length % 16)
      (hid : frame.canId = start.requestId)
      (hlen : n ≤ (pieces ++ [cfData frame]).flatten.length) :
      Delivered start calls frame ((pieces ++ [cfData frame]).flatten.take n)

/-! ## The invariant -/

/-- What the receiver's fields say about the calls behind it. -/
structure RxInv (start : IsoTpRx ω) (calls : List RxCall) (rx : IsoTpRx ω) : Prop where
  id : rx.requestId = start.requestId
  bounded : rx.active = true → rx.receivedLen < rx.expectedLen ∧ rx.expectedLen ≤ maxPayload
  assembling : rx.active = true → ∃ pieces, Assembling start calls rx.expectedLen pieces ∧
    rx.buffer.slice 0 rx.receivedLen = pieces.flatten ∧
    rx.nextSequence = pieces.length % 16

/-- No call changes the identifier the receiver listens to. -/
theorem rxDispatch_requestId (rx : IsoTpRx ω) (frame : IsoTpCanFrame) (now : UInt32)
    (event : IsoTpRxEvent) : (rxDispatch rx frame now event).rx.requestId = rx.requestId := by
  unfold rxDispatch rxSingle rxFirst rxConsecutive isotpRxReset
  repeat' first | rfl | dsimp only | split

theorem feed_requestId (rx : IsoTpRx ω) (frame : IsoTpCanFrame) (now : UInt32)
    (event : IsoTpRxEvent) : (isotpRxFeed rx frame now event).rx.requestId = rx.requestId := by
  unfold isotpRxFeed
  split
  next => rfl
  next =>
    split
    next => rfl
    next =>
      dsimp only
      split
      next => exact rxDispatch_requestId ..
      next => exact rxDispatch_requestId ..

/-- Nor its configuration. -/
theorem rxDispatch_config (rx : IsoTpRx ω) (frame : IsoTpCanFrame) (now : UInt32)
    (event : IsoTpRxEvent) : (rxDispatch rx frame now event).rx.config = rx.config := by
  unfold rxDispatch rxSingle rxFirst rxConsecutive isotpRxReset
  repeat' first | rfl | dsimp only | split

theorem feed_config (rx : IsoTpRx ω) (frame : IsoTpCanFrame) (now : UInt32)
    (event : IsoTpRxEvent) : (isotpRxFeed rx frame now event).rx.config = rx.config := by
  unfold isotpRxFeed
  split
  next => rfl
  next =>
    split
    next => rfl
    next =>
      dsimp only
      split
      next => exact rxDispatch_config ..
      next => exact rxDispatch_config ..

/-- An inactive receiver has nothing under way. -/
theorem RxInv.of_inactive {start : IsoTpRx ω} {calls : List RxCall} {rx : IsoTpRx ω}
    (hid : rx.requestId = start.requestId) (h : rx.active = false) : RxInv start calls rx where
  id := hid
  bounded hactive := by simp [h] at hactive
  assembling hactive := by simp [h] at hactive

/-- A call that leaves the receiver alone leaves the message under way. -/
theorem RxInv.other {start rx : IsoTpRx ω} {calls : List RxCall} {call : RxCall}
    (hrun : run rxStep start calls = rx) (hcall : Undisturbed rx call) (h : RxInv start calls rx) :
    RxInv start (calls ++ [call]) rx where
  id := h.id
  bounded := h.bounded
  assembling hactive := by
    obtain ⟨pieces, hasm, hbytes, hnext⟩ := h.assembling hactive
    exact ⟨pieces, .other hasm (by rw [hrun]; exact hcall), hbytes, hnext⟩

theorem feed_inv {start rx : IsoTpRx ω} {calls : List RxCall} {frame : IsoTpCanFrame}
    {now : UInt32} {event : IsoTpRxEvent} (hrun : run rxStep start calls = rx)
    (h : RxInv start calls rx) :
    RxInv start (calls ++ [.feed frame now event]) (isotpRxFeed rx frame now event).rx := by
  have hid : (isotpRxFeed rx frame now event).rx.requestId = start.requestId := by
    rw [feed_requestId, h.id]
  have heffect := feed_effect rx frame now event
  generalize hout : isotpRxFeed rx frame now event = out at hid heffect ⊢
  cases heffect with
  | ignored hrx hstatus hok =>
    rw [hrx]
    refine h.other hrun ?_
    simp only [Undisturbed, hout]
    exact ⟨hrx, hstatus.1, hstatus.2.1, hstatus.2.2, hok⟩
  | abandoned hactive => exact .of_inactive hid hactive
  | single _ _ _ _ hactive => exact .of_inactive hid hactive
  | @first length header _ htype hff hheader hlong hmax hexpected hreceived hsequence hactive
      hbytes hstatus =>
    refine ⟨hid, fun ha => ?_, fun ha => ⟨[ffData frame header], ?_, ?_, ?_⟩⟩
    · have hlt : out.rx.receivedLen < length := by simpa [hactive] using ha
      rw [hexpected]
      exact ⟨hlt, hmax⟩
    · have hlt : out.rx.receivedLen < length := by simpa [hactive] using ha
      rw [hexpected]
      exact .first htype hff (by rw [hrun, hout, hstatus, if_pos hlt])
    · have hlt : out.rx.receivedLen < length := by simpa [hactive] using ha
      -- the announced length exceeds the frame, so all of its data was taken
      have hall : out.rx.receivedLen = frame.dlc - header := by omega
      rw [hbytes, hall]
      simp [ffData]
    · rw [hsequence]
      rfl
  | consecutive hcan htype hwas hsequence hexpected hreceived hnext hbytes hactive hstatus =>
    obtain ⟨pieces, hasm, hpieces, hnumber⟩ := h.assembling hwas
    obtain ⟨hlt, hmax⟩ := h.bounded hwas
    refine ⟨hid, fun ha => ?_, fun ha => ⟨pieces ++ [cfData frame], ?_, ?_, ?_⟩⟩
    all_goals have hmore : out.rx.receivedLen < rx.expectedLen := by simpa [hactive] using ha
    · rw [hexpected]
      exact ⟨hmore, hmax⟩
    · rw [hexpected]
      refine .consecutive hasm htype (by rw [hsequence, hnumber]) (by rw [hcan, h.id]) ?_
      rw [hrun, hout]
      rcases hstatus with ⟨_, hdone⟩ | ⟨hgo, _⟩
      · omega
      · exact hgo
    · have hcopy : min (frame.dlc - 1) (rx.expectedLen - rx.receivedLen) = frame.dlc - 1 := by
        omega
      rw [hbytes, hpieces, hcopy]
      simp [cfData]
    · rw [hnext, hnumber]
      simp only [List.length_append, List.length_cons, List.length_nil]
      omega

theorem tick_inv {start rx : IsoTpRx ω} {calls : List RxCall} {now : UInt32}
    (hrun : run rxStep start calls = rx) (h : RxInv start calls rx) :
    RxInv start (calls ++ [.tick now]) (isotpRxTick rx now).2 := by
  by_cases htimeout : (isotpRxTick rx now).1 = .errTimeout
  · refine .of_inactive ?_ ?_
    all_goals
      unfold isotpRxTick at htimeout ⊢
      repeat' split at htimeout
    all_goals simp_all [isotpRxReset, h.id]
  · have hsame : (isotpRxTick rx now).2 = rx := by
      unfold isotpRxTick at htimeout ⊢
      repeat' split at htimeout
      all_goals simp_all
    rw [hsame]
    exact h.other hrun ⟨hsame, htimeout⟩

/-- Every call keeps the invariant. -/
theorem rxStep_inv {start rx : IsoTpRx ω} {calls : List RxCall} {call : RxCall}
    (hrun : run rxStep start calls = rx) (h : RxInv start calls rx) :
    RxInv start (calls ++ [call]) (rxStep rx call) := by
  cases call with
  | feed frame now event => exact feed_inv hrun h
  | tick now => exact tick_inv hrun h
  | reset => exact .of_inactive h.id rfl

/-- The invariant holds after every sequence of calls on an initialised receiver. -/
theorem rxInv_run (rx₀ : IsoTpRx ω) (config : Option (IsoTpConfig ω))
    (requestId responseId : UInt32) (calls : List RxCall) :
    RxInv (isotpRxInit rx₀ config requestId responseId) calls
      (run rxStep (isotpRxInit rx₀ config requestId responseId) calls) :=
  Along.history (I := RxInv (isotpRxInit rx₀ config requestId responseId))
    (.of_inactive rfl rfl) (fun _ _ h _ => rxStep_inv rfl h) (along_true calls _)

/-- What a completed reception delivers comes from the frames that were accepted. -/
theorem complete_delivered {start rx : IsoTpRx ω} {calls : List RxCall} {frame : IsoTpCanFrame}
    {now : UInt32} {event : IsoTpRxEvent} (h : RxInv start calls rx)
    (hstatus : (isotpRxFeed rx frame now event).status = .complete) :
    ∃ buffer, (isotpRxFeed rx frame now event).event.payload = some buffer ∧
      Delivered start calls frame
        (buffer.slice 0 (isotpRxFeed rx frame now event).event.length) := by
  have heffect := feed_effect rx frame now event
  generalize isotpRxFeed rx frame now event = out at hstatus heffect ⊢
  cases heffect with
  | ignored _ hnot => exact absurd hstatus hnot.1
  | abandoned _ hnot => exact absurd hstatus hnot
  | single _ htype hsf _ _ _ hpayload hlength hbytes =>
    refine ⟨_, hpayload, ?_⟩
    rw [hlength, hbytes]
    exact .single htype hsf
  | @first length header _ htype hff hheader _ _ hexpected hreceived _ _ hbytes hst hevent =>
    -- A first frame completes only the message that fits in it.
    have hdone : ¬out.rx.receivedLen < length := by
      intro hlt
      simp [hst, hlt] at hstatus
    obtain ⟨hpayload, hlength⟩ := hevent hdone
    have hall : out.rx.receivedLen = length := by omega
    refine ⟨_, hpayload, ?_⟩
    have hslice : out.rx.buffer.slice 0 length = (ffData frame header).take length := by
      rw [← hall, hbytes, ffData, Buf.take_slice, Nat.min_eq_left (by omega)]
    rw [hlength, hslice]
    exact .first htype hff (by simp only [ffData, Buf.length_slice]; omega)
  | consecutive hcan htype hwas hsequence hexpected hreceived hnext hbytes hactive hst hevent =>
    obtain ⟨pieces, hasm, hpieces, hnumber⟩ := h.assembling hwas
    obtain ⟨hlt, hmax⟩ := h.bounded hwas
    obtain ⟨hpayload, hlength⟩ := hevent hstatus
    have hdone : rx.expectedLen ≤ out.rx.receivedLen := by
      rcases hst with ⟨_, hdone⟩ | ⟨hgo, _⟩
      · exact hdone
      · rw [hstatus] at hgo
        simp at hgo
    have hpiecesLen : pieces.flatten.length = rx.receivedLen := by
      rw [← hpieces, Buf.length_slice]
    have hcfLen : (cfData frame).length = frame.dlc - 1 := Buf.length_slice ..
    refine ⟨_, hpayload, ?_⟩
    -- The buffer holds the pieces in order, and the copy of the last one stops at the length.
    have hslice : out.rx.buffer.slice 0 rx.expectedLen
        = (pieces ++ [cfData frame]).flatten.take rx.expectedLen := by
      have hall : out.rx.receivedLen = rx.expectedLen := by omega
      rw [← hall, hbytes, hpieces, hall, List.flatten_concat, List.take_append, hpiecesLen,
        List.take_of_length_le (by omega), cfData, Buf.take_slice, Nat.min_comm]
    rw [hlength, hslice]
    refine .consecutive hasm htype (by rw [hsequence, hnumber]) (by rw [hcan, h.id]) ?_
    rw [List.flatten_concat, List.length_append]
    omega

/-- **Reassembly soundness.** From any initialised receiver, after any calls: a
message under way fits the buffer and is not complete, the next call reads inside
the frame and writes inside the buffer, and if it reports a complete message then
that message is a single frame's data or was assembled from one first frame and the
consecutive frames accepted after it, cut to the announced length. -/
theorem reassembly_sound (rx₀ : IsoTpRx ω) (config : Option (IsoTpConfig ω))
    (requestId responseId : UInt32) (calls : List RxCall) :
    let start := isotpRxInit rx₀ config requestId responseId
    let rx := run rxStep start calls
    (rx.active = true → rx.receivedLen < rx.expectedLen ∧ rx.expectedLen ≤ maxPayload) ∧
    ∀ frame now event,
      Below frame.dlc (isotpRxFeed rx frame now event).reads ∧
      Below maxPayload (isotpRxFeed rx frame now event).writes ∧
      ((isotpRxFeed rx frame now event).status = .complete →
        ∃ buffer, (isotpRxFeed rx frame now event).event.payload = some buffer ∧
          Delivered start calls frame
            (buffer.slice 0 (isotpRxFeed rx frame now event).event.length)) := by
  intro start rx
  have hinv : RxInv start calls rx := rxInv_run rx₀ config requestId responseId calls
  refine ⟨hinv.bounded, fun frame now event => ?_⟩
  obtain ⟨hreads, hwrites⟩ := feed_indices frame now event hinv.bounded
  exact ⟨hreads, hwrites, complete_delivered hinv⟩

end UdsIsoTp.IsoTp
