import UdsIsoTp.IsoTp.FirstFrame
import UdsIsoTp.IsoTp.Reassembly
import UdsIsoTp.Lib.TwoRuns

/-!
# Rejected frames

Between the frames of a message the bus brings others: malformed ones, frames of another
node, single and first frames that do not hold together, flow control that is not meant
for a receiver. A half-duplex receiver turns them away before it has written to any of its
fields, so that the message goes on as if they had not come.

Two errors are no such rejection. A first frame that announces more than the buffer holds
ends the message under way (`ISOTP_ERR_OVERFLOW`), and so may a consecutive frame.
-/

namespace UdsIsoTp.IsoTp

variable {ω : Type}

/-- The call turns its frame away. -/
def TurnedAway (rx : IsoTpRx ω) : RxCall → Prop
  | .feed frame now event =>
    let status := (isotpRxFeed rx frame now event).status
    status = .errArgument ∨ (status = .ok ∧ frame.canId ≠ rx.requestId) ∨
      (status.isError = true ∧ status ≠ .errOverflow ∧ frame.highNibble ≠ 2)
  | .tick _ => False
  | .reset => False

/-- The payload that a call reports. -/
def reports (rx : IsoTpRx ω) : RxCall → Option (List UInt8)
  | .feed frame now event =>
    let out := isotpRxFeed rx frame now event
    if out.status = .complete then some out.event.bytes else none
  | .tick _ => none
  | .reset => none

/-! ## One frame -/

theorem rxSingle_error {rx : IsoTpRx ω} {frame : IsoTpCanFrame} {event : IsoTpRxEvent}
    (h : (rxSingle rx frame event).status.isError = true) :
    (rxSingle rx frame event).rx = rx := by
  unfold rxSingle at h ⊢
  cases hsf : decodeSf frame with
  | mk found reads =>
    rw [hsf] at h
    cases found with
    | none => rfl
    | some sizes =>
      obtain ⟨length, header⟩ := sizes
      dsimp only at h ⊢
      by_cases hfit : frame.dlc - header < length
      · rw [if_pos hfit]
      rw [if_neg hfit] at h ⊢
      by_cases hmax : maxPayload < length
      · rw [if_pos hmax]
      · rw [if_neg hmax] at h
        exact Bool.noConfusion h

theorem rxFirst_error {rx : IsoTpRx ω} {frame : IsoTpCanFrame} {now : UInt32}
    {event : IsoTpRxEvent} (h : (rxFirst rx frame now event).status.isError = true)
    (hfits : (rxFirst rx frame now event).status ≠ .errOverflow) :
    (rxFirst rx frame now event).rx = rx := by
  unfold rxFirst at h hfits ⊢
  by_cases hdlc : frame.dlc < 2
  · rw [if_pos hdlc]
  rw [if_neg hdlc] at h hfits ⊢
  by_cases hclassic : ¬rx.config.canFd ∧ frame.dlc < 8
  · rw [if_pos hclassic]
  rw [if_neg hclassic] at h hfits ⊢
  cases hff : decodeFf frame with
  | mk found reads =>
    rw [hff] at h hfits
    cases found with
    | none => rfl
    | some sizes =>
      obtain ⟨length, header⟩ := sizes
      dsimp only at h hfits ⊢
      by_cases hshort : length ≤ 7
      · rw [if_pos hshort]
      rw [if_neg hshort] at h hfits ⊢
      by_cases hmax : maxPayload < length
      · -- the announced length is the one thing that is noticed too late
        rw [if_pos hmax] at hfits
        exact absurd rfl hfits
      · rw [if_neg hmax] at h
        by_cases hmore : ¬decide (min (frame.dlc - header) length < length) = true
        · rw [if_pos hmore] at h
          exact Bool.noConfusion h
        · rw [if_neg hmore] at h
          exact Bool.noConfusion h

theorem rxDispatch_error {rx : IsoTpRx ω} {frame : IsoTpCanFrame} {now : UInt32}
    {event : IsoTpRxEvent} (h : (rxDispatch rx frame now event).status.isError = true)
    (hfits : (rxDispatch rx frame now event).status ≠ .errOverflow)
    (htype : frame.highNibble ≠ 2) : (rxDispatch rx frame now event).rx = rx := by
  unfold rxDispatch at h hfits ⊢
  split
  next h0 =>
    rw [h0] at h
    exact rxSingle_error h
  next h1 =>
    rw [h1] at h hfits
    exact rxFirst_error h hfits
  next h2 => exact absurd h2 htype
  -- flow control and the reserved types
  next =>
    split
    next => rfl
    next =>
      split
      next => rfl
      next => rfl

/-- `ISOTP_ERR_ARGUMENT` is said of frames that no decoder has looked at. -/
theorem rxConsecutive_argument (rx : IsoTpRx ω) (frame : IsoTpCanFrame) (now : UInt32)
    (event : IsoTpRxEvent) : (rxConsecutive rx frame now event).status ≠ .errArgument := by
  unfold rxConsecutive
  intro h
  split at h
  next => exact IsoTpStatus.noConfusion h
  split at h
  next => exact IsoTpStatus.noConfusion h
  split at h
  next => exact IsoTpStatus.noConfusion h
  split at h
  next => exact IsoTpStatus.noConfusion h
  dsimp only at h
  split at h
  next => exact IsoTpStatus.noConfusion h
  split at h
  next => exact IsoTpStatus.noConfusion h
  next => exact IsoTpStatus.noConfusion h

/-- What a half-duplex receiver does with a valid frame of its own. -/
theorem feed_half {rx : IsoTpRx ω} {frame : IsoTpCanFrame} (now : UInt32) (event : IsoTpRxEvent)
    (hhalf : rx.config.fullDuplex = false) (hvalid : frameValid rx.config frame = true)
    (hid : frame.canId = rx.requestId) :
    (isotpRxFeed rx frame now event).status = (rxDispatch rx frame now (clearEvent event)).status ∧
      (isotpRxFeed rx frame now event).rx = (rxDispatch rx frame now (clearEvent event)).rx := by
  have hexpected : ¬isUnexpectedNPdu rx frame.highNibble = true := by
    unfold isUnexpectedNPdu
    rw [hhalf, Bool.and_false, Bool.false_and]
    exact Bool.false_ne_true
  unfold isotpRxFeed
  rw [if_neg (not_not.mpr hvalid), if_neg (not_not.mpr hid), if_neg hexpected]
  exact ⟨rfl, rfl⟩

/-- A frame that is turned away leaves the receiver as it was, buffer and all. -/
theorem turnedAway_intact {rx : IsoTpRx ω} {frame : IsoTpCanFrame} {now : UInt32}
    {event : IsoTpRxEvent} (hhalf : rx.config.fullDuplex = false)
    (h : TurnedAway rx (.feed frame now event)) : (isotpRxFeed rx frame now event).rx = rx := by
  by_cases hvalid : frameValid rx.config frame = true
  · by_cases hid : frame.canId = rx.requestId
    · obtain ⟨hstatus, hrx⟩ := feed_half now event hhalf hvalid hid
      rw [hrx]
      simp only [TurnedAway, hstatus] at h
      rcases h with hargument | ⟨-, hforeign⟩ | ⟨herror, hfits, htype⟩
      · -- of a valid frame only the single and the first one can be said to have a bad argument
        by_cases htype : frame.highNibble = 2
        · unfold rxDispatch at hargument
          rw [htype] at hargument
          exact absurd hargument (rxConsecutive_argument rx frame now _)
        · refine rxDispatch_error ?_ ?_ htype
          · rw [hargument]
            rfl
          · rw [hargument]
            exact IsoTpStatus.noConfusion
      · exact absurd hid hforeign
      · exact rxDispatch_error herror hfits htype
    · unfold isotpRxFeed
      rw [if_neg (not_not.mpr hvalid), if_pos hid]
  · unfold isotpRxFeed
    rw [if_pos hvalid]

/-! ## Whole runs -/

theorem rxStep_config (rx : IsoTpRx ω) (call : RxCall) : (rxStep rx call).config = rx.config := by
  cases call with
  | feed frame now event => exact feed_config rx frame now event
  | tick now =>
    show (isotpRxTick rx now).2.config = rx.config
    unfold isotpRxTick
    split
    next => rfl
    next =>
      split
      next => rfl
      next => rfl
  | reset => rfl

theorem turnedAway_step (rx : IsoTpRx ω) (call : RxCall) (hhalf : rx.config.fullDuplex = false)
    (h : TurnedAway rx call) : rxStep rx call = rx := by
  cases call with
  | feed frame now event => exact turnedAway_intact hhalf h
  | tick now => exact h.elim
  | reset => exact h.elim

/-- Nor does it report anything. -/
theorem turnedAway_reports (rx : IsoTpRx ω) (call : RxCall) (h : TurnedAway rx call) :
    reports rx call = none := by
  cases call with
  | feed frame now event =>
    have hstatus : (isotpRxFeed rx frame now event).status ≠ .complete := by
      intro hcomplete
      simp only [TurnedAway, hcomplete] at h
      rcases h with hargument | ⟨hok, -⟩ | ⟨herror, -⟩
      · exact IsoTpStatus.noConfusion hargument
      · exact IsoTpStatus.noConfusion hok
      · exact Bool.noConfusion herror
    exact if_neg hstatus
  | tick now => rfl
  | reset => rfl

/-- **Rejected frames leave reception intact.** In half-duplex mode, a frame that is turned
away leaves the receiver as it was, and the bytes received so far. Take any number of such
frames out of any run: it ends in the same state, and the payloads it reports are the same. -/
theorem rejected_intact (rx : IsoTpRx ω) (hhalf : rx.config.fullDuplex = false) :
    (∀ frame now event, TurnedAway rx (.feed frame now event) →
      (isotpRxFeed rx frame now event).rx = rx) ∧
    ∀ calls rest, Without rxStep TurnedAway rx calls rest →
      run rxStep rx calls = run rxStep rx rest ∧
        observed rxStep reports rx calls = observed rxStep reports rx rest := by
  have hinv (rx' : IsoTpRx ω) (call : RxCall) (h : rx'.config.fullDuplex = false) :
      (rxStep rx' call).config.fullDuplex = false := by
    rw [rxStep_config]
    exact h
  refine ⟨fun frame now event h => turnedAway_intact hhalf h, fun calls rest h => ⟨?_, ?_⟩⟩
  · exact without_run hinv turnedAway_step hhalf h
  · exact without_observed hinv turnedAway_step (fun rx' call _ => turnedAway_reports rx' call)
      hhalf h

/-- A classic frame of the given bytes. -/
def plainFrame (bytes : List UInt8) : IsoTpCanFrame where
  canId := 0x700
  dlc := bytes.length
  isFd := false
  bitRateSwitch := false
  data := Buf.ofList bytes

/-- A frame of these bytes comes in. -/
def plainFeed (bytes : List UInt8) : RxCall := .feed (plainFrame bytes) 0 rawEvent

/-- A receiver with the settings of classic CAN. -/
def plainRx : IsoTpRx Unit := isotpRxInit rawRx (some isotpConfigClassicCan) 0x700 0x708

/-- The two frames of a message of eight bytes. -/
def firstOfTwo : RxCall := plainFeed [0x10, 8, 1, 2, 3, 4, 5, 6]
/-- The last piece of a message in two frames. -/
def secondOfTwo : RxCall := plainFeed [0x21, 7, 8]

/-- A single frame of seven bytes that has but two. -/
def cutShort : RxCall := plainFeed [0x07, 9, 9]

/-- Between the two frames of a message, a single frame cut short. -/
theorem rejected_intact_cut_short :
    rxStep (rxStep plainRx firstOfTwo) cutShort = rxStep plainRx firstOfTwo ∧
      run rxStep plainRx [firstOfTwo, cutShort, secondOfTwo]
        = run rxStep plainRx [firstOfTwo, secondOfTwo] ∧
      observed rxStep reports plainRx [firstOfTwo, cutShort, secondOfTwo]
        = observed rxStep reports plainRx [firstOfTwo, secondOfTwo] ∧
      observed rxStep reports plainRx [firstOfTwo, secondOfTwo] = [[1, 2, 3, 4, 5, 6, 7, 8]] := by
  have haway : TurnedAway (rxStep plainRx firstOfTwo) cutShort :=
    .inr (.inr ⟨by decide, by decide, by decide⟩)
  have hruns := (rejected_intact plainRx rfl).2 _ _
    (.kept (a := firstOfTwo) (.skipped haway (.kept (a := secondOfTwo) .nil)))
  exact ⟨(rejected_intact (rxStep plainRx firstOfTwo) rfl).1 _ 0 rawEvent haway, hruns.1, hruns.2,
    by decide⟩

end UdsIsoTp.IsoTp
