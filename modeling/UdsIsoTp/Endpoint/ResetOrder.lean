import UdsIsoTp.Endpoint.Recorder
import UdsIsoTp.Endpoint.Stranded

/-!
# A reset is carried out after its answer

`ecu_reset_execute` is the last thing a tester may see of an ECU, so it must come at the
right time: once for a request that was accepted, and, unless the request asked for
silence, after the response has been confirmed on the bus.

The statement is about the log of a run. `ResetLog` ties the marker's place in the
endpoint to what the log already shows: a waiting response to the accepted request, a
frame in flight to its acceptance by the bus, a due reset to the confirmation.
-/

namespace UdsIsoTp.Endpoint

open UdsIsoTp.IsoTp UdsIsoTp.Uds

variable {ω : Type}

/-! ## What the log has to show -/

/-- The event neither carries a reset out nor cancels one. -/
def EndpointEvent.calm : EndpointEvent → Bool
  | .executed _ => false
  | .failed lost => !lost
  | _ => true

/-- The event is an offer to the bus. -/
def EndpointEvent.isSent : EndpointEvent → Bool
  | .sent _ _ => true
  | _ => false

/-- The event confirms the frame in flight. -/
def EndpointEvent.Confirms (x : EndpointEvent) : Prop := x = .completed true ∨ x = .reported

/-- The single frame `51 sub` of this endpoint. -/
structure IsResetResponse (config : UdsIsoTpEndpointConfig ω) (frame : IsoTpCanFrame)
    (sub : UInt8) : Prop where
  canId : frame.canId = config.responseId
  single : frame.highNibble = 0
  sid : frame.data 1 = 0x51
  sub : frame.data 2 = sub

/-- The log ends with the reset request `11 b`, its acceptance, and then `later`, in which
no reset is carried out and no frame is lost. -/
def Asked (log : List EndpointEvent) (b : UInt8) (later : List EndpointEvent) : Prop :=
  (∃ earlier, log = earlier ++ .request [0x11, b] :: .accepted (b &&& 0x7F) :: later) ∧
    ∀ x ∈ later, x.calm = true

/-- The response has been taken by the bus, and confirmed. -/
def Confirmed (config : UdsIsoTpEndpointConfig ω) (sub : UInt8) (later : List EndpointEvent) :
    Prop :=
  ∃ waiting frame during done rest,
    later = waiting ++ .sent frame true :: (during ++ done :: rest) ∧
      IsResetResponse config frame sub ∧ (∀ x ∈ during, x.isSent = false) ∧ done.Confirms

/-- A reset of this kind may be carried out: it was accepted, no reset was carried out
since and no frame was lost, and its response, if it has one, was confirmed. -/
def Earned (config : UdsIsoTpEndpointConfig ω) (log : List EndpointEvent) (sub : UInt8) : Prop :=
  ∃ b later, Asked log b later ∧ b &&& 0x7F = sub ∧
    (b &&& suppressPositiveResponse = 0 → Confirmed config sub later)

/-- An executed reset has been earned by what was recorded before it. -/
def ResetAllowed (config : UdsIsoTpEndpointConfig ω) (log : List EndpointEvent) :
    EndpointEvent → Prop
  | .executed sub => Earned config log sub
  | _ => True

/-! ## The log on the way there -/

/-- A reset was asked for, and its answer is not yet on the bus. -/
def Waiting (log : List EndpointEvent) (sub : UInt8) : Prop :=
  ∃ b later, Asked log b later ∧ b &&& 0x7F = sub

/-- The last frame of the answer has been handed to the bus, and nothing since. -/
def OnBus (config : UdsIsoTpEndpointConfig ω) (log : List EndpointEvent) (sub : UInt8) : Prop :=
  ∃ b waiting frame during, Asked log b (waiting ++ .sent frame true :: during) ∧
    b &&& 0x7F = sub ∧ IsResetResponse config frame sub ∧ ∀ x ∈ during, x.isSent = false

variable {config : UdsIsoTpEndpointConfig ω} {log : List EndpointEvent} {sub : UInt8}
  {x : EndpointEvent}

theorem Asked.append {b : UInt8} {later : List EndpointEvent} (h : Asked log b later)
    (hx : x.calm = true) : Asked (log ++ [x]) b (later ++ [x]) := by
  obtain ⟨⟨earlier, hlog⟩, hcalm⟩ := h
  refine ⟨⟨earlier, by rw [hlog]; simp⟩, ?_⟩
  intro y hy
  rcases List.mem_append.mp hy with hy | hy
  · exact hcalm y hy
  · rw [List.mem_singleton.mp hy]
    exact hx

theorem Waiting.append (h : Waiting log sub) (hx : x.calm = true) : Waiting (log ++ [x]) sub := by
  obtain ⟨b, later, hasked, hsub⟩ := h
  exact ⟨b, later ++ [x], hasked.append hx, hsub⟩

theorem OnBus.append (h : OnBus config log sub) (hx : x.calm = true) (hsent : x.isSent = false) :
    OnBus config (log ++ [x]) sub := by
  obtain ⟨b, waiting, frame, during, hasked, hsub, hframe, hduring⟩ := h
  refine ⟨b, waiting, frame, during ++ [x], ?_, hsub, hframe, ?_⟩
  · have happend := hasked.append hx
    rwa [List.append_assoc, List.cons_append] at happend
  · intro y hy
    rcases List.mem_append.mp hy with hy | hy
    · exact hduring y hy
    · rw [List.mem_singleton.mp hy]
      exact hsent

theorem Earned.append (h : Earned config log sub) (hx : x.calm = true) :
    Earned config (log ++ [x]) sub := by
  obtain ⟨b, later, hasked, hsub, hconfirmed⟩ := h
  refine ⟨b, later ++ [x], hasked.append hx, hsub, ?_⟩
  intro hspr
  obtain ⟨waiting, frame, during, done, rest, rfl, hframe, hduring, hdone⟩ := hconfirmed hspr
  exact ⟨waiting, frame, during, done, rest ++ [x], by simp, hframe, hduring, hdone⟩

/-- The bus takes the response. -/
theorem Waiting.sent {frame : IsoTpCanFrame} (h : Waiting log sub)
    (hframe : IsResetResponse config frame sub) :
    OnBus config (log ++ [.sent frame true]) sub := by
  obtain ⟨b, later, hasked, hsub⟩ := h
  exact ⟨b, later, frame, [], hasked.append rfl, hsub, hframe, by simp⟩

/-- The bus confirms it. -/
theorem OnBus.confirmed (h : OnBus config log sub) (hx : x.Confirms) :
    Earned config (log ++ [x]) sub := by
  have hcalm : x.calm = true := by
    rcases hx with rfl | rfl <;> rfl
  obtain ⟨b, waiting, frame, during, hasked, hsub, hframe, hduring⟩ := h
  refine ⟨b, _, hasked.append hcalm, hsub, fun _ => ?_⟩
  exact ⟨waiting, frame, during, x, [], by simp, hframe, hduring, hx⟩

/-! ## The invariant -/

/-- What a run keeps: every reset earned so far, and what each marker stands for. -/
structure ResetLog (config : UdsIsoTpEndpointConfig ω) (e : UdsIsoTpEndpoint (Recorded ω))
    (log : List EndpointEvent) : Prop where
  allowed : EachAfter (ResetAllowed config) log
  hooked : PendingMark e ∨ QueuedMark e → config.udsCallbacks.ecuReset.isSome = true
  waiting : PendingMark e ∨ QueuedMark e → Waiting log e.uds.pendingResetSubfunction
  pendingFrame : PendingMark e →
    IsResetResponse config e.pendingFrame e.uds.pendingResetSubfunction
  queuedBytes : QueuedMark e →
    e.queuedResponse 0 = 0x51 ∧ e.queuedResponse 1 = e.uds.pendingResetSubfunction
  flight : FlightMark e → OnBus config log e.uds.pendingResetSubfunction
  ready : e.uds.resetReady = true → Earned config log e.uds.pendingResetSubfunction

variable {e : UdsIsoTpEndpoint (Recorded ω)} {w : Recorded ω} {now : UInt32}

/-- An endpoint without marker owes the log no more than a reset that is due. -/
theorem ResetLog.of_unmarked (hallowed : EachAfter (ResetAllowed config) log)
    (hpending : ¬PendingMark e) (hflight : ¬FlightMark e) (hqueued : ¬QueuedMark e)
    (hready : e.uds.resetReady = true → Earned config log e.uds.pendingResetSubfunction) :
    ResetLog config e log := by
  have hneither : ¬(PendingMark e ∨ QueuedMark e) := by
    rintro (h | h)
    · exact hpending h
    · exact hqueued h
  exact ⟨hallowed, fun h => absurd h hneither, fun h => absurd h hneither,
    fun h => absurd h hpending, fun h => absurd h hqueued, fun h => absurd h hflight, hready⟩

/-- And nothing if there is none. -/
theorem ResetLog.of_none (hallowed : EachAfter (ResetAllowed config) log)
    (hpending : ¬PendingMark e) (hflight : ¬FlightMark e) (hqueued : ¬QueuedMark e)
    (hready : e.uds.resetReady = false) : ResetLog config e log := by
  refine .of_unmarked hallowed hpending hflight hqueued fun hset => ?_
  exact absurd (hready.symm.trans hset) Bool.false_ne_true

theorem allowed_append (h : EachAfter (ResetAllowed config) log) (hx : ∀ sub, x ≠ .executed sub) :
    EachAfter (ResetAllowed config) (log ++ [x]) := by
  refine eachAfter_concat.mpr ⟨h, ?_⟩
  cases x with
  | executed sub => exact absurd rfl (hx sub)
  | _ => trivial

/-- A calm event changes nothing; while the response is in flight no frame is offered. -/
theorem ResetLog.append (h : ResetLog config e log) (hx : x.calm = true)
    (hsent : FlightMark e → x.isSent = false) : ResetLog config e (log ++ [x]) := by
  refine ⟨allowed_append h.allowed ?_, h.hooked, fun hm => (h.waiting hm).append hx,
    h.pendingFrame, h.queuedBytes, fun hf => (h.flight hf).append hx (hsent hf),
    fun hr => (h.ready hr).append hx⟩
  rintro sub rfl
  exact Bool.noConfusion hx

/-- The transmitter's own business. -/
theorem ResetLog.of_tx {tx : IsoTpTx (Recorded ω)} {frame : IsoTpCanFrame}
    (h : ResetLog config e log) (hquiet : e.txPending = false) :
    ResetLog config { e with tx := tx, pendingFrame := frame } log := by
  refine ⟨h.allowed, h.hooked, h.waiting, ?_, h.queuedBytes, h.flight, h.ready⟩
  rintro ⟨hp, -⟩
  exact absurd (hquiet.symm.trans hp) Bool.false_ne_true

/-! ## Responses -/

theorem shortFrame_response {tx : IsoTpTx (Recorded ω)} {response : Buf} {length : UInt16}
    (hid : tx.responseId = config.responseId) (hlength : length = 2 ∨ length = 3)
    (hsid : response 0 = 0x51) (hsub : response 1 = sub) :
    IsResetResponse config (txShortFrame tx (response.slice 0 length.toNat)) sub := by
  have hlen : length.toNat = 2 ∨ length.toNat = 3 := by
    rcases hlength with rfl | rfl
    · exact .inl rfl
    · exact .inr rfl
  have hpos : 1 ≤ length.toNat ∧ 2 ≤ length.toNat := by omega
  have hdata : ∀ i, i < length.toNat →
      (txShortFrame tx (response.slice 0 length.toNat)).data (1 + i) = response i := by
    intro i hi
    unfold txShortFrame
    dsimp only
    rw [Buf.length_slice, Buf.copy_inside hi, Nat.zero_add,
      Buf.ofList_of_lt (by rw [Buf.length_slice]; exact hi), Buf.getElem_slice, Nat.zero_add]
  refine ⟨hid, ?_, ?_, ?_⟩
  · unfold IsoTpCanFrame.highNibble txShortFrame
    dsimp only
    rw [Buf.copy_outside (by omega), Buf.write_same, Buf.length_slice]
    rcases hlen with h | h <;> rw [h] <;> rfl
  · exact (hdata 0 (by omega)).trans hsid
  · exact (hdata 1 (by omega)).trans hsub

/-- A response without marker, in an endpoint that has none. -/
theorem startResponse_unmarked_log (hallowed : EachAfter (ResetAllowed config) log)
    (hpending : ¬PendingMark e) (hflight : ¬FlightMark e) (hqueued : ¬QueuedMark e)
    (hready : e.uds.resetReady = false) (response : Buf) (length : UInt16) :
    ResetLog config (startResponse e response length false now).2 log := by
  have heffect := startResponse_cases e response length false now
  generalize startResponse e response length false now = out at heffect ⊢
  cases heffect with
  | begun free ready =>
    refine .of_none hallowed ?_ hflight hqueued hready
    rintro ⟨-, hmark⟩
    exact Bool.noConfusion hmark
  | queued busy room =>
    refine .of_none hallowed hpending hflight ?_ hready
    rintro ⟨-, hmark⟩
    exact Bool.noConfusion hmark
  | full busy occupied => exact .of_none hallowed hpending hflight hqueued hready
  | refused free failed hstatus => exact .of_none hallowed hpending hflight hqueued hready

/-- The marked response of a reset that the log shows as accepted. -/
theorem startResponse_marked_log (hallowed : EachAfter (ResetAllowed config) log)
    (hpending : ¬PendingMark e) (hflight : ¬FlightMark e) (hqueued : ¬QueuedMark e)
    (hready : e.uds.resetReady = false) (hhook : config.udsCallbacks.ecuReset.isSome = true)
    (hwaiting : Waiting log e.uds.pendingResetSubfunction)
    (hid : e.tx.responseId = config.responseId) {response : Buf} {length : UInt16}
    (hlength : length = 2 ∨ length = 3) (hsid : response 0 = 0x51)
    (hsub : response 1 = e.uds.pendingResetSubfunction) :
    ResetLog config (startResponse e response length true now).2 log := by
  have hshort := slice_short response hlength
  have hnotReady : ∀ {p : Prop}, e.uds.resetReady = true → p := fun hset =>
    absurd (hready.symm.trans hset) Bool.false_ne_true
  have heffect := startResponse_cases e response length true now
  generalize startResponse e response length true now = out at heffect ⊢
  cases heffect with
  | begun free ready =>
    refine ⟨hallowed, fun _ => hhook, fun _ => hwaiting, fun _ => ?_, fun hq => absurd hq hqueued,
      fun hf => absurd hf hflight, fun hset => hnotReady hset⟩
    obtain ⟨hvalid, -, -⟩ := start_ready ready
    show IsResetResponse config
      (isotpTxStart e.tx (response.slice 0 length.toNat) now e.pendingFrame).frame _
    rw [start_short hvalid hshort.1 hshort.2]
    exact shortFrame_response hid hlength hsid hsub
  | queued busy room =>
    refine ⟨hallowed, fun _ => hhook, fun _ => hwaiting, fun hp => absurd hp hpending, fun _ => ?_,
      fun hf => absurd hf hflight, fun hset => hnotReady hset⟩
    have hlen : 1 < length.toNat := by
      rcases hlength with rfl | rfl <;> decide
    have hcopy : ∀ i, i < length.toNat →
        (e.queuedResponse.copy 0 response 0 length.toNat) (0 + i) = response (0 + i) :=
      fun i hi => Buf.copy_inside hi
    have h0 := hcopy 0 (by omega)
    have h1 := hcopy 1 hlen
    exact ⟨h0.trans hsid, h1.trans hsub⟩
  | full busy occupied => exact .of_none hallowed hpending hflight hqueued hready
  | refused free failed hstatus => exact .of_none hallowed hpending hflight hqueued hready

/-! ## Completion -/

/-- The frame in flight is confirmed: if it carried the marker, its reset is earned. -/
theorem completeInFlight_log (h : ResetLog config e log) (hmarkers : Markers e)
    (hx : x.Confirms) : ResetLog config (completeInFlight e w).1 (log ++ [x]) := by
  have hcalm : x.calm = true := by
    rcases hx with rfl | rfl <;> rfl
  have hsent : x.isSent = false := by
    rcases hx with rfl | rfl <;> rfl
  have happend := h.append hcalm fun _ => hsent
  unfold completeInFlight
  split
  next => exact happend
  next hin =>
    replace hin := not_not.mp hin
    have hnoFlight : ∀ {e' : UdsIsoTpEndpoint (Recorded ω)}, e'.txInFlight = false →
        ¬FlightMark e' := by
      rintro e' hidle ⟨hf, -⟩
      exact absurd (hidle.symm.trans hf) Bool.false_ne_true
    dsimp only
    split
    next hmark =>
      have hflight : FlightMark e := ⟨hin, hmark.2⟩
      obtain ⟨-, -, hqueued⟩ := hmarkers.flight hflight
      have hpending : ¬PendingMark e := by
        rintro ⟨hp, -⟩
        exact absurd ((hmarkers.exclusive hp).symm.trans hin) Bool.false_ne_true
      refine .of_unmarked happend.allowed hpending (hnoFlight rfl) hqueued fun _ => ?_
      obtain ⟨-, -, -, hsub⟩ := completeReset_flags e.uds
      show Earned config (log ++ [x]) (udsServerCompleteReset e.uds).2.pendingResetSubfunction
      rw [hsub]
      exact (h.flight hflight).confirmed hx
    next hmark =>
      exact ⟨happend.allowed, happend.hooked, happend.waiting, happend.pendingFrame,
        happend.queuedBytes, fun hf => absurd hf (hnoFlight rfl), happend.ready⟩

/-- The bus takes the pending frame. -/
theorem submitted_log (h : ResetLog config e log) (hmarkers : Markers e)
    (hpending : e.txPending = true) :
    ResetLog config (submitted e) (log ++ [.sent e.pendingFrame true]) := by
  have hidle := hmarkers.exclusive hpending
  have happend : ResetLog config e (log ++ [.sent e.pendingFrame true]) := by
    refine h.append rfl ?_
    rintro ⟨hf, -⟩
    exact absurd (hidle.symm.trans hf) Bool.false_ne_true
  have hnone : ¬PendingMark (submitted e) := by
    rintro ⟨hp, -⟩
    exact Bool.noConfusion hp
  refine ⟨happend.allowed, ?_, ?_, fun hp => absurd hp hnone, happend.queuedBytes, ?_,
    happend.ready⟩
  · rintro (hp | hq)
    · exact absurd hp hnone
    · exact happend.hooked (.inr hq)
  · rintro (hp | hq)
    · exact absurd hp hnone
    · exact happend.waiting (.inr hq)
  · rintro ⟨-, hmark⟩
    have hp : PendingMark e := ⟨hpending, hmark⟩
    exact (h.waiting (.inl hp)).sent (h.pendingFrame hp)

/-- A lost frame takes the reset with it. -/
theorem abortInFlight_log (h : ResetLog config e log) (hmarkers : Markers e)
    (hin : e.txInFlight = true) :
    ResetLog config (abortInFlight e) (log ++ [.failed true]) := by
  have hallowed := allowed_append h.allowed (x := .failed true) (by simp)
  unfold abortInFlight
  rw [if_neg (not_not.mpr hin)]
  refine .of_none hallowed ?_ ?_ ?_ rfl
  · rintro ⟨hp, -⟩
    exact absurd ((hmarkers.exclusive hp).symm.trans hin) Bool.false_ne_true
  · rintro ⟨hf, -⟩
    exact Bool.noConfusion hf
  · rintro ⟨hq, -⟩
    exact Bool.noConfusion hq

/-- The queue's response goes to the transmitter. -/
theorem processQueue_log (h : ResetLog config e log) (hsound : Sound (record config) e)
    (hfree : TxFree e) : ResetLog config (processQueue e now w).2.1 log := by
  by_cases hqueued : e.queuedResponsePending = true
  · rw [processQueue_queued hqueued]
    obtain ⟨hpending, hflight, hnone⟩ := TxFree.dequeued_unmarked hfree
    cases hmark : e.queuedResetCompletion with
    | true =>
      have hq : QueuedMark e := ⟨hqueued, hmark⟩
      obtain ⟨hawaits, hlength⟩ := hsound.markers.queued hq
      obtain ⟨hsid, hsub⟩ := h.queuedBytes hq
      exact startResponse_marked_log (e := dequeued e) h.allowed hpending hflight hnone
        hawaits.ready (h.hooked (.inr hq)) (h.waiting (.inr hq)) hsound.wired.responseId hlength
        hsid hsub
    | false =>
      have hstart := startResponse_cases (dequeued e) e.queuedResponse e.queuedResponseLength
        false now
      generalize startResponse (dequeued e) e.queuedResponse e.queuedResponseLength false now
        = out at hstart ⊢
      cases hstart with
      | begun free ready =>
        refine .of_unmarked h.allowed ?_ hflight hnone h.ready
        rintro ⟨-, hm⟩
        exact Bool.noConfusion hm
      | queued busy room => exact absurd hfree busy
      | full busy occupied => exact absurd hfree busy
      | refused free failed hstatus => exact .of_unmarked h.allowed hpending hflight hnone h.ready
  · rw [processQueue_empty hqueued]
    exact h

/-! ## Calls -/

/-- The state and its log stand in the relation. -/
def Logged (config : UdsIsoTpEndpointConfig ω) (e : UdsIsoTpEndpoint (Recorded ω))
    (w : Recorded ω) : Prop :=
  ResetLog config e w.2

/-- Without `tx_complete` the configuration has no `ecu_reset`, so a submitted frame carries no
mark, and its completion only ends the flight. -/
theorem completeInFlight_unconfirmed (hhook : config.udsCallbacks.ecuReset.isSome = true →
      config.txComplete.isSome = true) (hnone : config.txComplete = none)
    {log' : List EndpointEvent} (h : ResetLog config e log)
    (hsubmitted : ResetLog config (submitted e) log')
    (pending : e.txPending = true) (w : Recorded ω) :
    ResetLog config (completeInFlight (submitted e) w).1 log' := by
  have hflight : ¬FlightMark (submitted e) := by
    rintro ⟨-, hmark⟩
    have hreset := hhook (h.hooked (.inl ⟨pending, hmark⟩))
    rw [hnone] at hreset
    exact Bool.noConfusion hreset
  unfold completeInFlight
  rw [if_neg (show ¬¬(submitted e).txInFlight = true from not_not.mpr rfl)]
  dsimp only
  rw [if_neg fun hmark => hflight ⟨rfl, hmark.2⟩]
  refine ⟨hsubmitted.allowed, hsubmitted.hooked, hsubmitted.waiting, hsubmitted.pendingFrame,
    hsubmitted.queuedBytes, ?_, hsubmitted.ready⟩
  rintro ⟨hf, -⟩
  exact Bool.noConfusion hf

/-- A transfer that goes on has no marked frame, as only a response of one frame is marked. -/
theorem continueTransfer_log (h : ResetLog config e log) (hmarkers : Markers e)
    (active : e.tx.state ≠ .idle) (next : TxOut (Recorded ω)) :
    ResetLog config (continueTransfer e next) log := by
  have hmark := hmarkers.transfer active
  have hnone : ¬PendingMark (continueTransfer e next) := by
    rintro ⟨-, hm⟩
    exact absurd (hmark.symm.trans hm) Bool.false_ne_true
  refine ⟨h.allowed, ?_, ?_, fun hp => absurd hp hnone, h.queuedBytes, h.flight, h.ready⟩
  · rintro (hp | hq)
    · exact absurd hp hnone
    · exact h.hooked (.inr hq)
  · rintro (hp | hq)
    · exact absurd hp hnone
    · exact h.waiting (.inr hq)

theorem process_logged (hhook : config.udsCallbacks.ecuReset.isSome = true →
      config.txComplete.isSome = true)
    (h : Logged config e w) (hsound : Sound (record config) e) :
    Logged config (udsIsotpEndpointProcess e now w).2.1 (udsIsotpEndpointProcess e now w).2.2 := by
  have hconfig := hsound.wired.config_eq
  have hnotFlight : e.txInFlight = false → ∀ {p : Prop}, FlightMark e → p := by
    rintro hidle p ⟨hf, -⟩
    exact absurd (hidle.symm.trans hf) Bool.false_ne_true
  have heffect := process_cases e now w
  generalize udsIsotpEndpointProcess e now w = out at heffect ⊢
  unfold Logged at h ⊢
  cases heffect with
  | waiting inFlight asked =>
    rcases asked with ⟨-, rfl⟩ | ⟨txError, hook, hverdict⟩
    · exact h
    · rw [hconfig] at hook
      rw [record_txError hook hverdict]
      exact h.append rfl fun _ => rfl
  | aborted inFlight hook failed =>
    rw [hconfig] at hook
    rw [record_txError hook failed]
    exact abortInFlight_log h hsound.markers inFlight
  | controlRefused idle control sent =>
    rw [hconfig] at sent
    rw [record_sendFrame sent]
    exact h.append rfl (hnotFlight idle)
  | controlSent idle control sent =>
    rw [hconfig] at sent
    rw [record_sendFrame sent]
    have happend := h.append (x := .sent e.pendingControlFrame true) rfl (hnotFlight idle)
    exact ⟨happend.allowed, happend.hooked, happend.waiting, happend.pendingFrame,
      happend.queuedBytes, happend.flight, happend.ready⟩
  | refused idle pending sent =>
    rw [hconfig] at sent
    rw [record_sendFrame sent]
    exact h.append rfl (hnotFlight idle)
  | sent idle pending sent asked =>
    -- the log gets the frame and then the answer of the hook
    obtain ⟨txComplete, hook, hverdict⟩ := asked
    rw [hconfig] at sent hook
    have hworld := record_txComplete hook hverdict
    have hevent := submittedWorld_log (e := e) hconfig
    rw [hevent, record_sendFrame sent] at hworld
    rw [hworld]
    exact (submitted_log h hsound.markers pending).append rfl fun _ => rfl
  | completed idle pending sent asked =>
    rw [hconfig] at sent asked
    have hevent := submittedWorld_log (e := e) hconfig
    have hsubmitted := submitted_log h hsound.markers pending
    have hmarkers := submitted_markers hsound.markers pending
    rcases asked with ⟨hnone, hw⟩ | ⟨txComplete, hook, hverdict⟩
    · dsimp only
      rw [completeInFlight_world (submitted e) _ hconfig, hw, hevent, record_sendFrame sent]
      exact completeInFlight_unconfirmed hhook (Option.map_eq_none_iff.mp hnone) h hsubmitted
        pending _
    · have hworld := record_txComplete hook hverdict
      rw [hevent, record_sendFrame sent] at hworld
      dsimp only
      rw [completeInFlight_world (submitted e) _ hconfig, hworld]
      exact completeInFlight_log hsubmitted hmarkers (.inl rfl)
  | advanced idle quiet active ready =>
    dsimp only
    rw [record_next hsound.wired.tx]
    exact continueTransfer_log h hsound.markers active _
  | paused idle quiet active notReady notComplete =>
    dsimp only
    rw [record_next hsound.wired.tx]
    exact h.of_tx quiet
  | ended idle quiet active complete =>
    rw [processQueue_world, record_next hsound.wired.tx]
    exact processQueue_log (h.of_tx quiet) (hsound.of_tx (next_continues ..))
      ⟨quiet, idle, next_complete_idle complete⟩
  | queue idle quiet inactive =>
    rw [processQueue_world]
    exact processQueue_log h hsound ⟨quiet, idle, inactive⟩

/-- A reset that is accepted is in the log, and the configuration has the callback. -/
theorem accepts_logged {request : List UInt8} {b : UInt8}
    {f : Recorded ω → UInt8 → UdsCallbackResult × Recorded ω} (hsound : Sound (record config) e)
    (h : Accepts e w request b f) (hallowed : EachAfter (ResetAllowed config) w.2) :
    (f w (b &&& 0x7F)).2.2 = w.2 ++ [.accepted (b &&& 0x7F)] ∧
      EachAfter (ResetAllowed config) (w.2 ++ [.accepted (b &&& 0x7F)]) ∧
      config.udsCallbacks.ecuReset.isSome = true := by
  have hcallback := h.callback
  rw [hsound.wired.callbacks] at hcallback
  refine ⟨record_ecuReset hcallback h.ok, allowed_append hallowed (by simp), ?_⟩
  obtain ⟨f', hf', -⟩ := Option.map_eq_some_iff.mp hcallback
  rw [hf']
  rfl

/-- An answered request: the log gets the request, and its acceptance if it is a reset. -/
theorem answered_logged (hsound : Sound (record config) e) (h : Logged config e w)
    (hawake : responseResetPending e.uds = false) (request : List UInt8) (mode : UdsAddressMode)
    (now : UInt32) :
    Logged config (answered e request mode now (w.1, w.2 ++ [.request request])).2.1
      (answered e request mode now (w.1, w.2 ++ [.request request])).2.2 := by
  obtain ⟨hpending, hflight, hqueued⟩ := hsound.markers.none_awake hawake
  -- Of the callbacks only the reset writes to the log, so every other outcome leaves it alone.
  have hu : Unseen (Prod.snd : Recorded ω → List EndpointEvent) e.uds.callbacks
      e.uds.securityGate.persistFn := by
    rw [hsound.wired.callbacks, hsound.wired.persist]
    exact record_unseen config.udsCallbacks
  have hevent : ∀ event (w : Recorded ω), (resetEvent e.config event w).2 = w.2 := by
    intro event w
    rw [hsound.wired.config_eq]
    exact record_resetEvent event w
  have hrequest := allowed_append h.allowed (x := .request request) (by simp)
  have heffect := answered_cases (w := (w.1, w.2 ++ [EndpointEvent.request request]))
    (hsound.markers.awake hawake) hu hevent request mode now
  generalize answered e request mode now (w.1, w.2 ++ [EndpointEvent.request request]) = out
    at heffect ⊢
  unfold Logged
  cases heffect with
  | silent awake wiring world =>
    rw [world]
    exact .of_none hrequest hpending hflight hqueued awake.ready
  | @plain server response w' length awake wiring world =>
    rw [world]
    exact startResponse_unmarked_log (e := served e server response) hrequest hpending hflight
      hqueued awake.ready ..
  | @suppressed server response w' b f accepts wiring awaits spr world =>
    obtain ⟨hlog, hallowed, -⟩ := accepts_logged hsound accepts hrequest
    rw [world, hlog]
    rw [accepts.request_eq] at hallowed ⊢
    obtain ⟨-, -, -, hsub⟩ := completeReset_flags server
    refine .of_unmarked hallowed hpending hflight hqueued fun _ => ?_
    refine ⟨b, [], ⟨⟨w.2, by simp⟩, by simp⟩, ?_, fun hno => absurd hno spr⟩
    show b &&& 0x7F = (if e.uds.resetPending = true then server
      else (udsServerCompleteReset server).2).pendingResetSubfunction
    split
    · exact awaits.subfunction.symm
    · rw [hsub]
      exact awaits.subfunction.symm
  | @marked server response w' b f length accepts wiring awaits spr length_eq sid sub world =>
    obtain ⟨hlog, hallowed, hsome⟩ := accepts_logged hsound accepts hrequest
    rw [world, hlog]
    rw [accepts.request_eq] at hallowed ⊢
    show ResetLog config (startResponse (served e server response) response length
      (!e.uds.resetPending) now).2 _
    cases e.uds.resetPending with
    | true =>
      exact startResponse_unmarked_log (e := served e server response) hallowed hpending hflight
        hqueued awaits.ready ..
    | false =>
      refine startResponse_marked_log (e := served e server response) hallowed hpending hflight
        hqueued awaits.ready hsome ?_
        hsound.wired.responseId length_eq sid (sub.trans awaits.subfunction.symm)
      exact ⟨b, [], ⟨⟨w.2, by simp⟩, by simp⟩, awaits.subfunction.symm⟩

/-- A tick carries out the reset that is due, if any. -/
theorem tick_logged (h : Logged config e w) (hsound : Sound (record config) e) :
    Logged config (udsIsotpEndpointTick e now w).2.1 (udsIsotpEndpointTick e now w).2.2 := by
  have hcallbacks := hsound.wired.callbacks
  have hgate : (gateTick e.uds.securityGate now w).2.2 = w.2 :=
    gateTick_aside hsound.wired.persist now w
  have hevent : ∀ (executed : Bool) (w' : Recorded ω),
      (if executed then resetEvent e.config .executed w' else w').2 = w'.2 := by
    intro executed w'
    split
    next =>
      rw [hsound.wired.config_eq]
      exact record_resetEvent ..
    next => rfl
  show ResetLog config (udsIsotpEndpointTick e now w).2.1
    (if e.uds.resetPending && !(udsServerTick e.uds now w).2.1.resetPending then
      resetEvent e.config .executed (udsServerTick e.uds now w).2.2
      else (udsServerTick e.uds now w).2.2).2
  rw [hevent]
  by_cases hdue : e.uds.resetPending = true ∧ e.uds.resetReady = true
  -- the server is cleared, and the log gets the reset if there is a callback for it
  · obtain ⟨hpending, hflight, hqueued⟩ := hsound.markers.none_ready hdue.2
    have htick : udsServerTick e.uds now w = (.ok,
        udsServerClearReset { e.uds with securityGate := (gateTick e.uds.securityGate now w).1 },
        executeReset e.uds.callbacks e.uds.pendingResetSubfunction
          (gateTick e.uds.securityGate now w).2) := if_pos hdue
    have hclear : ∀ log', EachAfter (ResetAllowed config) log' →
        ResetLog config (udsIsotpEndpointTick e now w).2.1 log' := by
      intro log' hallowed
      refine .of_none hallowed hpending hflight hqueued ?_
      show (udsServerTick e.uds now w).2.1.resetReady = false
      rw [htick]
      rfl
    rw [htick, hcallbacks]
    rcases record_executeReset config e.uds.pendingResetSubfunction
      (gateTick e.uds.securityGate now w).2 with hnone | hexecuted
    · show ResetLog config _ (executeReset (recordCallbacks config.udsCallbacks) _ _).2
      rw [hnone, hgate]
      exact hclear _ h.allowed
    · show ResetLog config _ (executeReset (recordCallbacks config.udsCallbacks) _ _).2
      rw [hexecuted, hgate]
      exact hclear _ (eachAfter_concat.mpr ⟨h.allowed, h.ready hdue.2⟩)
  · have hkept : (udsServerTick e.uds now w).2.2.2 = w.2 ∧
        (udsServerTick e.uds now w).2.1.resetReady = e.uds.resetReady ∧
        (udsServerTick e.uds now w).2.1.pendingResetSubfunction
          = e.uds.pendingResetSubfunction := by
      unfold udsServerTick
      dsimp only
      rw [if_neg hdue]
      split <;> exact ⟨hgate, rfl, rfl⟩
    obtain ⟨hworld, hready, hsub⟩ := hkept
    rw [hworld]
    have hsub' : (udsIsotpEndpointTick e now w).2.1.uds.pendingResetSubfunction
        = e.uds.pendingResetSubfunction := hsub
    refine ⟨h.allowed, h.hooked, ?_, ?_, ?_, ?_, ?_⟩
    all_goals rw [hsub']
    · exact h.waiting
    · exact h.pendingFrame
    · exact h.queuedBytes
    · exact h.flight
    · intro hset
      exact h.ready (hready.symm.trans hset)

theorem receive_logged (h : Logged config e w) (hsound : Sound (record config) e)
    (frame : IsoTpCanFrame)
    (event : IsoTpRxEvent) :
    Logged config (recordStep (e, w) (.receive frame event now)).1
      (recordStep (e, w) (.receive frame event now)).2 := by
  show Logged config
    (udsIsotpEndpointReceive e frame event now (noted (e, w) (.receive frame event now))).2.1
    (udsIsotpEndpointReceive e frame event now (noted (e, w) (.receive frame event now))).2.2
  have hnone : requestOf e frame event now = none →
      noted (e, w) (.receive frame event now) = w := by
    intro hno
    simp only [noted, hno]
  have heffect := receive_cases e frame event now (noted (e, w) (.receive frame event now))
  generalize udsIsotpEndpointReceive e frame event now
    (noted (e, w) (.receive frame event now)) = out at heffect ⊢
  cases heffect with
  | dropped none =>
    rw [hnone none]
    exact h
  | flow none =>
    rw [hnone none]
    show ResetLog config _ (isotpTxFeedFlowControl e.tx frame now w).2.2.2
    rw [record_feed hsound.wired.tx]
    exact ⟨h.allowed, h.hooked, h.waiting, h.pendingFrame, h.queuedBytes, h.flight, h.ready⟩
  | part none =>
    rw [hnone none]
    exact ⟨h.allowed, h.hooked, h.waiting, h.pendingFrame, h.queuedBytes, h.flight, h.ready⟩
  | @request rx control controlPending request mode some awake =>
    have hnoted : noted (e, w) (.receive frame event now)
        = (w.1, w.2 ++ [.request request]) := by
      simp only [noted, some]
    rw [hnoted]
    have hreceived : Logged config (received e rx control controlPending) w :=
      ⟨h.allowed, h.hooked, h.waiting, h.pendingFrame, h.queuedBytes, h.flight, h.ready⟩
    exact answered_logged hsound.of_received hreceived awake request mode now

theorem recordStep_logged (hhook : config.udsCallbacks.ecuReset.isSome = true →
      config.txComplete.isSome = true)
    (s : UdsIsoTpEndpoint (Recorded ω) × Recorded ω) (call : EndpointCall)
    (h : Sound (record config) s.1 ∧ Logged config s.1 s.2) :
    Sound (record config) (recordStep s call).1 ∧
      Logged config (recordStep s call).1 (recordStep s call).2 := by
  obtain ⟨hsound, hlog⟩ := h
  refine ⟨endpointStep_sound (s.1, noted s call) call hsound, ?_⟩
  cases call with
  | receive frame event now => exact receive_logged hlog hsound frame event
  | process now => exact process_logged hhook hlog hsound
  | tick now => exact tick_logged hlog hsound
  | txComplete =>
    show ResetLog config (completeInFlight s.1 (s.2.1, s.2.2 ++ [.reported])).1
      (completeInFlight s.1 (s.2.1, s.2.2 ++ [.reported])).2.2
    rw [completeInFlight_world _ _ hsound.wired.config_eq]
    exact completeInFlight_log hlog hsound.markers (.inr rfl)

/-- **A reset comes after its answer.** In every run, whatever frames arrive and whatever
the callbacks answer: when a reset is carried out, the log shows the request for it that
`ecu_reset` accepted, no reset carried out and no frame lost since, and, unless the
request asked for silence, the frame `51 sub` taken by the bus and then confirmed, with
no other frame offered in between. -/
theorem reset_after_answer (e₀ e : UdsIsoTpEndpoint (Recorded ω))
    (config : UdsIsoTpEndpointConfig ω) (start : UInt32) (w : ω)
    (hinit : udsIsotpEndpointInit e₀ (record config) start = some e)
    (calls : List EndpointCall) :
    EachAfter (ResetAllowed config) (run recordStep (e, (w, [])) calls).2.2 := by
  have hhook : config.udsCallbacks.ecuReset.isSome = true → config.txComplete.isSome = true := by
    intro hreset
    by_contra hcomplete
    have hno : udsIsotpEndpointInit e₀ (record config) start = none := by
      refine if_pos (.inr ⟨?_, ?_⟩)
      · simpa [record, recordCallbacks] using hreset
      · simpa [record] using hcomplete
    rw [hno] at hinit
    exact absurd hinit (by simp)
  have h0 : Sound (record config) e ∧ Logged config e (w, []) := by
    have hsound := init_sound hinit
    refine ⟨hsound, .of_none eachAfter_nil ?_ ?_ ?_ ?_⟩
    all_goals
      unfold udsIsotpEndpointInit at hinit
      split at hinit
      next => exact absurd hinit (by simp)
      next =>
        rw [← Option.some.inj hinit]
        first
          | rfl
          | (rintro ⟨hset, -⟩
             exact Bool.noConfusion hset)
  exact (run_inv (I := fun s => Sound (record config) s.1 ∧ Logged config s.1 s.2)
    (fun s call h => recordStep_logged hhook s call h) (s := (e, (w, []))) h0 calls).2.allowed

/-- A reset on the bench, in the log of its run. -/
theorem reset_after_answer_bench :
    EachAfter (ResetAllowed benchConfig) (run recordStep (bench (record benchConfig), ((), []))
      [ask [0x11, 0x01], .process 0, .tick 0]).2.2 :=
  reset_after_answer (blankEndpoint (record benchConfig)) (bench (record benchConfig)) benchConfig
    0 () rfl _

end UdsIsoTp.Endpoint
