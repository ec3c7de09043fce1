import UdsIsoTp.App.RxFifo
import UdsIsoTp.Endpoint.Leftovers
import UdsIsoTp.Lib.TwoRuns

/-!
# Stale bytes in the receive queue

The interrupt copies as many bytes into a slot as the frame has; what an earlier and
longer frame left behind them stays, and is copied out with the rest of the slot. So is
whatever the unused slots hold, if they are ever read.

Two applications are the same for the endpoint when they differ in such bytes alone
(`SameApp`), and every statement and every interrupt keeps them so. Whatever is put in
place of the stale bytes, at any time, the session goes on as it would have.
-/

namespace UdsIsoTp.App

open UdsIsoTp.IsoTp UdsIsoTp.Uds UdsIsoTp.Endpoint

variable {η : Type}

/-- The number of frames between the two indices. -/
def heldCount (q : RxQueue) : Nat := (q.head + rxFifoCapacity - q.tail) % rxFifoCapacity

/-- The slot holds a frame that has not been taken out. -/
def Occupied (q : RxQueue) (slot : Nat) : Prop :=
  ∃ k < heldCount q, slot = (q.tail + k) % rxFifoCapacity

/-- The two queues hold frames that say the same. -/
structure SameQueue (q q' : RxQueue) : Prop where
  head : q.head = q'.head
  tail : q.tail = q'.tail
  overflowCount : q.overflowCount = q'.overflowCount
  overflowFlag : q.overflowFlag = q'.overflowFlag
  tail_lt : q.tail < rxFifoCapacity
  held : ∃ n < rxFifoCapacity, q.head = (q.tail + n) % rxFifoCapacity ∧
    ∀ k < n, SameFrame (q.fifo ((q.tail + k) % rxFifoCapacity))
      (q'.fifo ((q.tail + k) % rxFifoCapacity))

/-- The two applications differ in stale bytes alone. -/
structure SameApp (s s' : RxApp η) : Prop where
  initialized : s.initialized = s'.initialized
  transport : s.transport = s'.transport
  primask : s.primask = s'.primask
  point : s.main.point = s'.main.point
  now : s.main.now = s'.main.now
  hasFrame : s.main.hasFrame = s'.main.hasFrame
  saved : s.main.primask = s'.main.primask
  frame : SameFrame s.main.frame s'.main.frame
  queue : SameQueue s.queue s'.queue
  nonempty : s.main.point = .found ∨ s.main.point = .copied → s.queue.head ≠ s.queue.tail
  app : s.app = s'.app

/-! ## The queue -/

section Queue

variable {q q' : RxQueue} (h : SameQueue q q')

/-- A filled slot says what the interrupt was given, whatever the slot held before. -/
theorem filledSlot_alike (slot slot' : IsoTpCanFrame) (canId : UInt32) (data : Buf)
    (dlc : UInt8) :
    SameFrame (filledSlot slot canId data dlc) (filledSlot slot' canId data dlc) := by
  refine ⟨rfl, rfl, rfl, fun i hi => ?_⟩
  have hi' : i < dlc.toNat := hi
  have hcopied (b : Buf) : b.copy 0 data 0 dlc.toNat (0 + i) = data (0 + i) :=
    Buf.copy_inside hi'
  rw [Nat.zero_add] at hcopied
  exact (hcopied slot.data).trans (hcopied slot'.data).symm

include h

theorem pushFrame_alike (canId : UInt32) (data : Buf) (dlc : UInt8) :
    SameQueue (pushFrame q canId data dlc) (pushFrame q' canId data dlc) := by
  obtain ⟨n, hn, hhead, hheld⟩ := h.held
  have hfull := ring_full_iff h.tail_lt hn
  rw [← hhead] at hfull
  unfold pushFrame
  rw [← h.head, ← h.tail]
  dsimp only
  by_cases hmeet : (q.head + 1) % rxFifoCapacity = q.tail
  · -- a full queue drops the frame, and counts it
    rw [if_pos hmeet, if_pos hmeet]
    exact ⟨rfl, rfl, congrArg (· + 1) h.overflowCount, rfl, h.tail_lt,
      ⟨n, hn, hhead, hheld⟩⟩
  · rw [if_neg hmeet, if_neg hmeet]
    have hroom : n + 1 < rxFifoCapacity := by
      have hne : n + 1 ≠ rxFifoCapacity := fun heq => hmeet (hfull.mpr heq)
      omega
    have hnext : (q.head + 1) % rxFifoCapacity = (q.tail + (n + 1)) % rxFifoCapacity := by
      rw [hhead, Nat.mod_add_mod, Nat.add_assoc]
    refine ⟨rfl, rfl, h.overflowCount, h.overflowFlag, h.tail_lt,
      ⟨n + 1, hroom, hnext, fun k hk => ?_⟩⟩
    dsimp only
    by_cases hnew : k = n
    · -- the slot the frame goes into
      rw [hnew, ← hhead, Function.update_self, Function.update_self]
      exact filledSlot_alike _ _ canId data dlc
    · have hother : (q.tail + k) % rxFifoCapacity ≠ q.head := by
        rw [hhead]
        exact ring_slot_ne (by omega) hn
      rw [Function.update_of_ne hother, Function.update_of_ne hother]
      exact hheld k (by omega)

/-- The oldest frame says the same in both. -/
theorem SameQueue.oldest (hne : q.head ≠ q.tail) :
    SameFrame (q.fifo q.tail) (q'.fifo q'.tail) := by
  obtain ⟨n, hn, hhead, hheld⟩ := h.held
  have hpos : 0 < n := by
    rcases Nat.eq_zero_or_pos n with rfl | hpos
    · exact absurd (hhead.trans (Nat.mod_eq_of_lt h.tail_lt)) hne
    · exact hpos
  have hslot := hheld 0 hpos
  rw [Nat.add_zero, Nat.mod_eq_of_lt h.tail_lt] at hslot
  rw [← h.tail]
  exact hslot

theorem SameQueue.advance (hne : q.head ≠ q.tail) :
    SameQueue { q with tail := (q.tail + 1) % rxFifoCapacity }
      { q' with tail := (q'.tail + 1) % rxFifoCapacity } := by
  obtain ⟨n, hn, hhead, hheld⟩ := h.held
  cases n with
  | zero => exact absurd (hhead.trans (Nat.mod_eq_of_lt h.tail_lt)) hne
  | succ n =>
    -- behind the oldest frame every other is one place nearer to the tail
    have hslot (k : Nat) : ((q.tail + 1) % rxFifoCapacity + k) % rxFifoCapacity
        = (q.tail + (k + 1)) % rxFifoCapacity := by
      rw [Nat.mod_add_mod, Nat.add_assoc, Nat.add_comm 1 k]
    refine ⟨h.head, by rw [h.tail], h.overflowCount, h.overflowFlag,
      Nat.mod_lt _ (Nat.succ_pos 7), ⟨n, by omega, ?_, fun k hk => ?_⟩⟩
    · dsimp only
      rw [hslot, hhead]
    · dsimp only
      rw [hslot]
      exact hheld (k + 1) (by omega)

end Queue

/-! ## The statements -/

section Steps

variable {s s' : RxApp η} (h : SameApp s s')

include h

theorem interrupt_alike (canId : UInt32) (data : Option Buf) (dlc : UInt8) :
    SameApp (udsAppRxFromIsr s canId data dlc) (udsAppRxFromIsr s' canId data dlc) := by
  cases data with
  | none => exact h
  | some data =>
    unfold udsAppRxFromIsr
    rw [← h.initialized]
    dsimp only
    split
    next => exact h
    next =>
      refine { h with
        initialized := rfl
        queue := pushFrame_alike h.queue canId data dlc
        nonempty := ?_ }
      intro hpoint
      have hne := h.nonempty hpoint
      unfold pushFrame
      dsimp only
      split
      next => exact hne
      next hroom => exact hroom

theorem enterProcess_alike (now : UInt32) :
    SameApp (enterProcess s now) (enterProcess s' now) := by
  unfold enterProcess
  rw [← h.initialized, ← h.transport]
  split
  next => exact h
  next =>
    refine { h with
      initialized := rfl
      transport := rfl
      point := rfl
      now := rfl
      hasFrame := rfl
      frame := .refl zeroFrame
      nonempty := ?_ }
    intro hpoint
    rcases hpoint with hp | hp
    · exact ProcessPoint.noConfusion hp
    · exact ProcessPoint.noConfusion hp

/-- A statement that leaves the queue alone goes on to `p`. -/
theorem SameApp.goTo {p : ProcessPoint} (hp : p ≠ .found ∧ p ≠ .copied) :
    SameApp { s with main := { s.main with point := p } }
      { s' with main := { s'.main with point := p } } := by
  refine { h with point := rfl, nonempty := ?_ }
  intro hpoint
  rcases hpoint with hfound | hcopied
  · exact absurd hfound hp.1
  · exact absurd hcopied hp.2

theorem mainStep_alike (hal : CanHal η) (event : IsoTpRxEvent) :
    SameApp (mainStep hal s event) (mainStep hal s' event) := by
  unfold mainStep
  rw [← h.point]
  cases hpoint : s.main.point with
  | outside => exact h
  | entered => exact { h.goTo (by simp) with saved := h.primask }
  | saved => exact { h.goTo (by simp) with primask := rfl }
  | masked =>
    dsimp only
    rw [← h.queue.head, ← h.queue.tail]
    by_cases hitems : s.queue.head ≠ s.queue.tail
    · rw [if_pos hitems]
      exact { h with point := rfl, nonempty := fun _ => hitems }
    · rw [if_neg hitems]
      exact h.goTo (by simp)
  | found =>
    -- the slot at the tail holds a frame as long as the queue has not been advanced
    have hne := h.nonempty (.inl hpoint)
    exact { h with point := rfl, frame := h.queue.oldest hne, nonempty := fun _ => hne }
  | copied =>
    have hne := h.nonempty (.inr hpoint)
    refine { h.goTo (by simp) with queue := h.queue.advance hne, nonempty := ?_ }
    intro hnext
    rcases hnext with hp | hp
    · exact ProcessPoint.noConfusion hp
    · exact ProcessPoint.noConfusion hp
  | advanced => exact { h.goTo (by simp) with hasFrame := rfl }
  | leaving => exact { h.goTo (by simp) with primask := h.saved }
  | restored => exact { h.goTo (by simp) with app := congrArg (pollComplete hal) h.app }
  | polled =>
    -- here the copy goes to the endpoint, which reads no more of it than it says
    refine { h.goTo (by simp) with app := ?_ }
    dsimp only
    rw [← h.hasFrame, ← h.app, ← h.now,
      receive_alike h.frame s.app.1 event event s.main.now s.app.2 fun _ => .inr rfl]
  | received =>
    refine { h.goTo (by simp) with app := ?_ }
    dsimp only
    rw [← h.app, ← h.now]
  | processed =>
    refine { h.goTo (by simp) with app := ?_ }
    dsimp only
    rw [← h.app, ← h.now]

end Steps

theorem rxAppStep_alike (hal : CanHal η) (s s' : RxApp η) (call : QueueCall)
    (h : SameApp s s') : SameApp (rxAppStep hal s call) (rxAppStep hal s' call) := by
  cases call with
  | interrupt canId data dlc => exact interrupt_alike h canId data dlc
  | process now => exact enterProcess_alike h now
  | statement event => exact mainStep_alike h hal event

/-! ## Whole runs -/

/-- An application whose queue has just been emptied differs from itself in nothing. -/
theorem udsAppInit_alike (hal : CanHal η) (callbacks : UdsCallbacks η) {s : RxApp η}
    (now : UInt32) (hpoint : s.main.point = .outside) :
    SameApp (udsAppInit hal callbacks s now) (udsAppInit hal callbacks s now) := by
  have hqueue : SameQueue (udsAppInit hal callbacks s now).queue
      (udsAppInit hal callbacks s now).queue :=
    ⟨rfl, rfl, rfl, rfl, Nat.succ_pos 7, ⟨0, Nat.succ_pos 7, rfl, fun k hk => by omega⟩⟩
  refine ⟨rfl, rfl, rfl, rfl, rfl, rfl, rfl, .refl _, hqueue, fun hfetching => ?_, rfl⟩
  have houtside : (udsAppInit hal callbacks s now).main.point = .outside := hpoint
  rw [houtside] at hfetching
  rcases hfetching with hp | hp
  · exact ProcessPoint.noConfusion hp
  · exact ProcessPoint.noConfusion hp

/-- Other bytes behind the frames in the queue, and anything in the free slots. -/
theorem SameApp.of_slots {s : RxApp η} (h : SameApp s s) {fifo : Nat → IsoTpCanFrame}
    (hheld : ∀ slot, Occupied s.queue slot → SameFrame (s.queue.fifo slot) (fifo slot)) :
    SameApp s { s with queue := { s.queue with fifo := fifo } } := by
  obtain ⟨n, hn, hhead, -⟩ := h.queue.held
  have htail := h.queue.tail_lt
  have hcount : heldCount s.queue = n := by
    unfold heldCount
    rw [hhead]
    unfold rxFifoCapacity at hn htail ⊢
    omega
  refine { h with
    queue := ⟨rfl, rfl, rfl, rfl, htail, ⟨n, hn, hhead, fun k hk => ?_⟩⟩ }
  exact hheld _ ⟨k, by rw [hcount]; exact hk, rfl⟩

/-- **Stale bytes are never read.** The endpoint receives two frames alike when they agree on
identifier, format, length and that many bytes. And if in some state of a run the slots are
filled with other bytes behind the frames that wait in them, and the free slots with
anything, then after any further calls the endpoint and the world are the same. -/
theorem stale_bytes_unread :
    (∀ (ω : Type) (e : UdsIsoTpEndpoint ω) (frame frame' : IsoTpCanFrame)
        (event : IsoTpRxEvent) (now : UInt32) (w : ω), SameFrame frame frame' →
      udsIsotpEndpointReceive e frame event now w
        = udsIsotpEndpointReceive e frame' event now w) ∧
    (∀ (η : Type) (hal : CanHal η) (callbacks : UdsCallbacks η) (s : RxApp η) (now : UInt32)
        (before : List QueueCall), s.main.point = .outside →
      let t := run (rxAppStep hal) (udsAppInit hal callbacks s now) before
      ∀ fifo : Nat → IsoTpCanFrame,
        (∀ slot, Occupied t.queue slot → SameFrame (t.queue.fifo slot) (fifo slot)) →
        ∀ calls, (run (rxAppStep hal) { t with queue := { t.queue with fifo := fifo } } calls).app
          = (run (rxAppStep hal) t calls).app) := by
  constructor
  · intro ω e frame frame' event now w hframe
    exact receive_alike hframe e event event now w fun _ => .inr rfl
  · intro η hal callbacks s now before hpoint t fifo hheld calls
    have hinit := udsAppInit_alike hal callbacks now hpoint
    have ht : SameApp t t := run_related (rxAppStep_alike hal) hinit before
    exact (run_related (rxAppStep_alike hal) (ht.of_slots hheld) calls).app.symm

/-- The frame with its stale bytes overwritten. -/
def overwritten (frame : IsoTpCanFrame) : IsoTpCanFrame :=
  { frame with data := fun i => if i < frame.dlc then frame.data i else 0xAA }

theorem overwritten_alike (frame : IsoTpCanFrame) : SameFrame frame (overwritten frame) :=
  ⟨rfl, rfl, rfl, fun _ hi => (if_pos hi).symm⟩

/-- One frame waits in the queue when the bytes behind it are overwritten. -/
theorem stale_bytes_unread_preempted :
    udsIsotpEndpointReceive (bench benchConfig) (benchFrame 0x7E0 [0x3E, 0x00]) benchEvent 0 ()
        = udsIsotpEndpointReceive (bench benchConfig)
            (overwritten (benchFrame 0x7E0 [0x3E, 0x00])) benchEvent 0 () ∧
      let t := run (rxAppStep fussyHal) (udsAppInit fussyHal {} rawApp 0) (preempted.take 3)
      (run (rxAppStep fussyHal)
          { t with queue := { t.queue with fifo := fun slot => overwritten (t.queue.fifo slot) } }
          (preempted.drop 3)).app
        = (run (rxAppStep fussyHal) t (preempted.drop 3)).app :=
  ⟨stale_bytes_unread.1 Unit _ _ _ benchEvent 0 () (overwritten_alike _),
    stale_bytes_unread.2 Nat fussyHal {} rawApp 0 (preempted.take 3) rfl _
      (fun _ _ => overwritten_alike _) (preempted.drop 3)⟩

end UdsIsoTp.App
