import UdsIsoTp.App.RefusedSend
import UdsIsoTp.Lib.Ring

/-!
# The receive queue of the application

`uds_app_rx_from_isr` puts received frames into a ring of eight slots; `uds_app_process`
takes one of them in each call and hands it to the endpoint. The first runs in the
interrupt, between any two statements of the second except where that has disabled the
interrupts.

So the main thread is a program counter with its local variables, one statement a step
(`mainStep`), and the interrupt is a step of its own that only a clear `PRIMASK` lets in
(`Allowed`). `QueueInv` is what holds between any two of these steps.
-/

namespace UdsIsoTp.App

open UdsIsoTp.IsoTp UdsIsoTp.Uds UdsIsoTp.Endpoint

variable {η : Type}

/-- `UDS_APP_RX_FIFO_CAPACITY` -/
def rxFifoCapacity : Nat := 8

/-- The id that requests to this ECU alone have. -/
def appRequestId : UInt32 := 0x7E0
/-- The id of requests to all. -/
def appFunctionalId : UInt32 := 0x7DF

/-- The statics that the interrupt and the main thread share. -/
structure RxQueue where
  fifo : Nat → IsoTpCanFrame
  head : Nat
  tail : Nat
  overflowCount : UInt32
  overflowFlag : Bool

/-- Where the main thread stands in `uds_app_process`. -/
inductive ProcessPoint where
  | outside
  | entered
  | saved
  | masked
  | found
  | copied
  | advanced
  | leaving
  | restored
  | polled
  | received
  | processed
  deriving DecidableEq, Repr

/-- The main thread, with the local variables of `uds_app_process`. -/
structure MainThread where
  point : ProcessPoint
  now : UInt32
  frame : IsoTpCanFrame
  hasFrame : Bool
  primask : Bool

/-- The application; `transport` says whether `s_transport` is set, `primask` is the register. -/
structure RxApp (η : Type) where
  initialized : Bool
  transport : Bool
  queue : RxQueue
  primask : Bool
  main : MainThread
  app : AppState η

/-- `IsoTpCanFrame frame = {0};` -/
def zeroFrame : IsoTpCanFrame := ⟨0, 0, false, false, fun _ => 0⟩

/-- The frame that a slot holds once the interrupt has filled it. -/
def filledSlot (slot : IsoTpCanFrame) (canId : UInt32) (data : Buf) (dlc : UInt8) :
    IsoTpCanFrame where
  canId := canId
  dlc := dlc.toNat
  isFd := false
  bitRateSwitch := false
  data := slot.data.copy 0 data 0 dlc.toNat

/-- A frame that the queue is there for. -/
def WellFormed (canId : UInt32) (dlc : UInt8) : Prop :=
  dlc ≠ 0 ∧ dlc ≤ 8 ∧ (canId = appRequestId ∨ canId = appFunctionalId)

instance (canId : UInt32) (dlc : UInt8) : Decidable (WellFormed canId dlc) :=
  inferInstanceAs (Decidable (_ ∧ _ ∧ _))

/-- `uds_app_rx_from_isr` on the shared statics, behind its checks. -/
def pushFrame (q : RxQueue) (canId : UInt32) (data : Buf) (dlc : UInt8) : RxQueue :=
  let nextHead := (q.head + 1) % rxFifoCapacity
  if nextHead = q.tail then
    { q with overflowCount := q.overflowCount + 1, overflowFlag := true }
  else
    { q with
      fifo := Function.update q.fifo q.head (filledSlot (q.fifo q.head) canId data dlc)
      head := nextHead }

/-- `uds_app_rx_from_isr`: queues a frame that is well formed. -/
def udsAppRxFromIsr (s : RxApp η) (canId : UInt32) (data : Option Buf) (dlc : UInt8) : RxApp η :=
  match data with
  | none => s
  | some data =>
    if ¬s.initialized ∨ ¬WellFormed canId dlc then s
    else { s with queue := pushFrame s.queue canId data dlc }

/-- The end of `uds_app_init`, with whatever callbacks the application has. -/
def udsAppInit (hal : CanHal η) (callbacks : UdsCallbacks η) (s : RxApp η) (now : UInt32) :
    RxApp η :=
  let endpoint := udsIsotpEndpointInit s.app.1 (udsAppConfig hal callbacks) now
  { s with
    initialized := endpoint.isSome
    transport := true
    queue := { s.queue with head := 0, tail := 0, overflowCount := 0, overflowFlag := false }
    app := (endpoint.getD s.app.1, s.app.2) }

/-- The call of `uds_app_process`, up to its first statement behind the checks. -/
def enterProcess (s : RxApp η) (now : UInt32) : RxApp η :=
  if ¬s.initialized ∨ ¬s.transport then s
  else
    { s with
      main := { s.main with point := .entered, now := now, frame := zeroFrame, hasFrame := false } }

/-- The next statement of `uds_app_process`; `event` is what the receiver's event holds when
the endpoint is given a frame. -/
def mainStep (hal : CanHal η) (s : RxApp η) (event : IsoTpRxEvent) : RxApp η :=
  match s.main.point with
  | .outside => s
  | .entered => { s with main := { s.main with primask := s.primask, point := .saved } }
  | .saved => { s with primask := true, main := { s.main with point := .masked } }
  | .masked =>
    { s with
      main := { s.main with
        point := if s.queue.head ≠ s.queue.tail then .found else .leaving } }
  | .found =>
    { s with main := { s.main with frame := s.queue.fifo s.queue.tail, point := .copied } }
  | .copied =>
    { s with
      queue := { s.queue with tail := (s.queue.tail + 1) % rxFifoCapacity }
      main := { s.main with point := .advanced } }
  | .advanced => { s with main := { s.main with hasFrame := true, point := .leaving } }
  | .leaving => { s with primask := s.main.primask, main := { s.main with point := .restored } }
  | .restored => { s with app := pollComplete hal s.app, main := { s.main with point := .polled } }
  | .polled =>
    { s with
      app := if s.main.hasFrame then
          (udsIsotpEndpointReceive s.app.1 s.main.frame event s.main.now s.app.2).2
        else s.app
      main := { s.main with point := .received } }
  | .received =>
    { s with
      app := (udsIsotpEndpointProcess s.app.1 s.main.now s.app.2).2
      main := { s.main with point := .processed } }
  | .processed =>
    { s with
      app := (udsIsotpEndpointTick s.app.1 s.main.now s.app.2).2
      main := { s.main with point := .outside } }

/-! ## Runs -/

/-- The interrupt, a call of `uds_app_process`, or its next statement. -/
inductive QueueCall where
  | interrupt (canId : UInt32) (data : Option Buf) (dlc : UInt8)
  | process (now : UInt32)
  | statement (event : IsoTpRxEvent)

/-- One event: an interrupt, a round of the main loop, or one of its statements. -/
def rxAppStep (hal : CanHal η) (s : RxApp η) : QueueCall → RxApp η
  | .interrupt canId data dlc => udsAppRxFromIsr s canId data dlc
  | .process now => enterProcess s now
  | .statement event => mainStep hal s event

/-- The interrupt waits while it is masked, and the main thread makes one call at a time. -/
def Allowed (s : RxApp η) : QueueCall → Prop
  | .interrupt _ _ _ => s.primask = false
  | .process _ => s.main.point = .outside
  | .statement _ => s.main.point ≠ .outside

/-- What of a frame the endpoint may rely on. -/
abbrev RxEntry := UInt32 × Nat × List UInt8

/-- The frame as the queue holds it. -/
def entryOf (frame : IsoTpCanFrame) : RxEntry :=
  (frame.canId, frame.dlc, frame.data.slice 0 frame.dlc)

/-- A call of the interrupt that passes its checks on the frame. -/
def offers (_ : RxApp η) : QueueCall → Option RxEntry
  | .interrupt canId (some data) dlc =>
    if WellFormed canId dlc then some (canId, dlc.toNat, data.slice 0 dlc.toNat) else none
  | _ => none

/-- A frame that the interrupt has put into the queue: its head has moved. -/
def accepts (s : RxApp η) : QueueCall → Option RxEntry
  | .interrupt canId (some data) dlc =>
    if (udsAppRxFromIsr s canId (some data) dlc).queue.head ≠ s.queue.head then
      some (canId, dlc.toNat, data.slice 0 dlc.toNat)
    else none
  | _ => none

/-- A frame that is handed to `uds_isotp_endpoint_receive`. -/
def hands (s : RxApp η) : QueueCall → Option RxEntry
  | .statement _ =>
    if s.main.point = .polled ∧ s.main.hasFrame then some (entryOf s.main.frame) else none
  | _ => none

/-- Behind the masked section, a call of `uds_app_process` is `udsAppProcess` on the frame it
has taken out. -/
theorem mainStep_process {hal : CanHal η} {s : RxApp η} (hpoint : s.main.point = .restored)
    (e₁ e₂ e₃ e₄ : IsoTpRxEvent) :
    (run (mainStep hal) s [e₁, e₂, e₃, e₄]).app = udsAppProcess hal s.app
      ⟨if s.main.hasFrame then some s.main.frame else none, e₂, s.main.now⟩ := by
  simp only [run_cons, run_nil, mainStep, hpoint, udsAppProcess, beforeProcess]
  cases s.main.hasFrame <;> rfl

/-! ## What holds between two steps -/

/-- The frame that has left the queue and not reached the endpoint. -/
def inHand (m : MainThread) : List RxEntry :=
  match m.point with
  | .advanced => [entryOf m.frame]
  | .leaving | .restored | .polled => if m.hasFrame then [entryOf m.frame] else []
  | _ => []

/-- The statements between `__disable_irq` and `__set_PRIMASK`. -/
def Masked (p : ProcessPoint) : Prop :=
  p = .masked ∨ p = .found ∨ p = .copied ∨ p = .advanced ∨ p = .leaving

/-- What the local variables of the main thread are worth. -/
structure Stage (s : RxApp η) : Prop where
  masked : s.primask = true ↔ Masked s.main.point
  saved : s.main.point = .saved ∨ Masked s.main.point → s.main.primask = false
  noFrame : s.main.point = .entered ∨ s.main.point = .saved ∨ s.main.point = .masked ∨
    s.main.point = .found ∨ s.main.point = .copied → s.main.hasFrame = false
  nonempty : s.main.point = .found ∨ s.main.point = .copied → s.queue.head ≠ s.queue.tail
  copied : s.main.point = .copied → s.main.frame = s.queue.fifo s.queue.tail

/-- The entries in the queue, when it holds `n`. -/
def heldEntries (q : RxQueue) (n : Nat) : List RxEntry :=
  (ringItems q.fifo rxFifoCapacity q.tail n).map entryOf

/-- The queue holds the accepted frames that were not taken out, and it counts the rest. -/
structure QueueInv (s : RxApp η) (offered accepted handed : List RxEntry) : Prop where
  initialized : s.initialized = true
  stage : Stage s
  tail_lt : s.queue.tail < rxFifoCapacity
  content : ∃ n < rxFifoCapacity, s.queue.head = (s.queue.tail + n) % rxFifoCapacity ∧
    accepted = handed ++ inHand s.main ++ heldEntries s.queue n
  count : UInt32.ofNat accepted.length + s.queue.overflowCount = UInt32.ofNat offered.length

section Steps

variable {hal : CanHal η} {s : RxApp η} {offered accepted handed : List RxEntry}

theorem entryOf_filledSlot (slot : IsoTpCanFrame) (canId : UInt32) (data : Buf) (dlc : UInt8) :
    entryOf (filledSlot slot canId data dlc) = (canId, dlc.toNat, data.slice 0 dlc.toNat) := by
  unfold entryOf filledSlot
  rw [Buf.slice_copy_self]

/-- The interrupt accepts a frame, or it counts it. -/
theorem pushFrame_cases (q : RxQueue) (htail : q.tail < rxFifoCapacity) {n : Nat}
    (hn : n < rxFifoCapacity) (hhead : q.head = (q.tail + n) % rxFifoCapacity) (canId : UInt32)
    (data : Buf) (dlc : UInt8) :
    (n + 1 = rxFifoCapacity ∧ pushFrame q canId data dlc
        = { q with overflowCount := q.overflowCount + 1, overflowFlag := true }) ∨
      (n + 1 < rxFifoCapacity ∧ (pushFrame q canId data dlc).head ≠ q.head ∧
        (pushFrame q canId data dlc).tail = q.tail ∧
        (pushFrame q canId data dlc).head = (q.tail + (n + 1)) % rxFifoCapacity ∧
        (pushFrame q canId data dlc).overflowCount = q.overflowCount ∧
        heldEntries (pushFrame q canId data dlc) (n + 1)
          = heldEntries q n ++ [(canId, dlc.toNat, data.slice 0 dlc.toNat)]) := by
  have hfull := ring_full_iff htail hn
  rw [← hhead] at hfull
  unfold pushFrame
  dsimp only
  by_cases hmeet : (q.head + 1) % rxFifoCapacity = q.tail
  · rw [if_pos hmeet]
    exact .inl ⟨hfull.mp hmeet, rfl⟩
  · have hroom : n + 1 < rxFifoCapacity := by
      have hne : n + 1 ≠ rxFifoCapacity := fun h => hmeet (hfull.mpr h)
      omega
    have hnext : (q.head + 1) % rxFifoCapacity = (q.tail + (n + 1)) % rxFifoCapacity := by
      rw [hhead, Nat.mod_add_mod, Nat.add_assoc]
    have hslot : (q.tail + n) % rxFifoCapacity ≠ (q.tail + (n + 1)) % rxFifoCapacity :=
      ring_slot_ne (Nat.lt_succ_self n) hroom
    rw [if_neg hmeet]
    refine .inr ⟨hroom, fun hsame => hslot ?_, rfl, hnext, rfl, ?_⟩
    · rw [← hhead, ← hnext]
      exact hsame.symm
    · unfold heldEntries
      dsimp only
      rw [hhead, ringItems_push _ hn, List.map_append, List.map_singleton, entryOf_filledSlot]

/-- The interrupt comes where the main thread relies on nothing in the queue. -/
theorem Stage.unmasked (h : Stage s) (hmask : s.primask = false) : ¬Masked s.main.point := by
  intro hmasked
  rw [h.masked.mpr hmasked] at hmask
  exact Bool.noConfusion hmask

theorem Stage.of_queue (h : Stage s) (hmask : s.primask = false) (q : RxQueue) :
    Stage { s with queue := q } := by
  have hnot := h.unmasked hmask
  refine ⟨h.masked, h.saved, h.noFrame, fun hpoint => ?_, fun hpoint => ?_⟩
  · exfalso
    apply hnot
    rcases hpoint with hp | hp
    · exact .inr (.inl hp)
    · exact .inr (.inr (.inl hp))
  · exact absurd (.inr (.inr (.inl hpoint))) hnot

theorem interrupt_inv (h : QueueInv s offered accepted handed) (hmask : s.primask = false)
    (canId : UInt32) (data : Option Buf) (dlc : UInt8) :
    QueueInv (udsAppRxFromIsr s canId data dlc)
      (offered ++ (offers s (.interrupt canId data dlc)).toList)
      (accepted ++ (accepts s (.interrupt canId data dlc)).toList) handed := by
  cases data with
  | none => simpa [offers, accepts, udsAppRxFromIsr] using h
  | some data =>
    by_cases hwell : WellFormed canId dlc
    · have hstep : udsAppRxFromIsr s canId (some data) dlc
          = { s with queue := pushFrame s.queue canId data dlc } :=
        if_neg (by simp [h.initialized, hwell])
      have hoffers : offers s (.interrupt canId (some data) dlc)
          = some (canId, dlc.toNat, data.slice 0 dlc.toNat) := if_pos hwell
      obtain ⟨n, hn, hhead, hcontent⟩ := h.content
      have hbefore := h.count
      obtain ⟨hfull, hpush⟩ | ⟨hroom, hmoved, htail, hnext, hcount, hheld⟩ :=
        pushFrame_cases s.queue h.tail_lt hn hhead canId data dlc
      · -- no slot is free
        have haccepts : accepts s (.interrupt canId (some data) dlc) = none := by
          simp [accepts, hstep, hpush]
        rw [hstep, hoffers, haccepts, hpush, Option.toList_none, List.append_nil]
        refine ⟨h.initialized, h.stage.of_queue hmask _, h.tail_lt, ⟨n, hn, hhead, hcontent⟩, ?_⟩
        rw [Option.toList_some, List.length_append, List.length_singleton, UInt32.ofNat_add,
          ← hbefore, UInt32.add_assoc]
        rfl
      -- a slot is free, and the frame goes into it
      · have haccepts : accepts s (.interrupt canId (some data) dlc)
            = some (canId, dlc.toNat, data.slice 0 dlc.toNat) := by
          simp [accepts, hstep, hmoved]
        rw [hstep, hoffers, haccepts]
        refine ⟨h.initialized, h.stage.of_queue hmask _, htail ▸ h.tail_lt,
          ⟨n + 1, hroom, htail ▸ hnext, ?_⟩, ?_⟩
        · rw [hheld, hcontent]
          simp only [Option.toList_some, List.append_assoc]
        · rw [Option.toList_some, List.length_append, List.length_append, List.length_singleton,
            UInt32.ofNat_add, UInt32.ofNat_add, ← hbefore, hcount, UInt32.add_assoc,
            UInt32.add_assoc, UInt32.add_comm s.queue.overflowCount]
    -- the frame is not well formed
    · have hstep : udsAppRxFromIsr s canId (some data) dlc = s := if_pos (.inr hwell)
      have hoffers : offers s (.interrupt canId (some data) dlc) = none := if_neg hwell
      have haccepts : accepts s (.interrupt canId (some data) dlc) = none := by
        simp [accepts, hstep]
      rw [hstep, hoffers, haccepts, Option.toList_none, List.append_nil, List.append_nil]
      exact h

theorem enterProcess_inv (h : QueueInv s offered accepted handed)
    (hpoint : s.main.point = .outside) (now : UInt32) :
    QueueInv (enterProcess s now) offered accepted handed := by
  unfold enterProcess
  split
  next => exact h
  next =>
    obtain ⟨n, hn, hhead, hcontent⟩ := h.content
    have hempty : inHand s.main = [] := by
      unfold inHand
      rw [hpoint]
    refine ⟨h.initialized, ?_, h.tail_lt, ⟨n, hn, hhead, ?_⟩, h.count⟩
    · have hmask := h.stage.masked
      rw [hpoint] at hmask
      exact ⟨by simpa [Masked] using hmask, by simp [Masked], fun _ => rfl, by simp, by simp⟩
    · rw [hcontent, hempty]
      rfl

/-- A statement that leaves the shared statics and the taken frames alone. -/
theorem QueueInv.of_same {s' : RxApp η} (h : QueueInv s offered accepted handed)
    (hready : s'.initialized = s.initialized) (hqueue : s'.queue = s.queue)
    (hhand : inHand s'.main = inHand s.main) (hstage : Stage s') :
    QueueInv s' offered accepted handed := by
  obtain ⟨n, hn, hhead, hcontent⟩ := h.content
  exact ⟨hready.trans h.initialized, hstage, hqueue ▸ h.tail_lt,
    ⟨n, hn, hqueue ▸ hhead, by rw [hhand, hqueue]; exact hcontent⟩, hqueue ▸ h.count⟩

/-- Taking a frame out moves it from the queue into the hand. -/
theorem advance_inv (h : QueueInv s offered accepted handed) (hpoint : s.main.point = .copied) :
    QueueInv { s with
      queue := { s.queue with tail := (s.queue.tail + 1) % rxFifoCapacity }
      main := { s.main with point := .advanced } } offered accepted handed := by
  obtain ⟨n, hn, hhead, hcontent⟩ := h.content
  have hne := h.stage.nonempty (.inr hpoint)
  have hframe := h.stage.copied hpoint
  have hnone : inHand s.main = [] := by
    unfold inHand
    rw [hpoint]
  cases n with
  | zero =>
    exfalso
    apply hne
    rw [hhead]
    exact (ring_empty_iff h.tail_lt hn).mpr rfl
  | succ n =>
    refine ⟨h.initialized, ?_, Nat.mod_lt _ (by decide), ⟨n, by omega, ?_, ?_⟩, h.count⟩
    · have hmask : s.primask = true := h.stage.masked.mpr (.inr (.inr (.inl hpoint)))
      have hsaved := h.stage.saved (.inr (.inr (.inr (.inl hpoint))))
      exact ⟨by simp [Masked, hmask], fun _ => hsaved, by simp, by simp, by simp⟩
    · show s.queue.head = ((s.queue.tail + 1) % rxFifoCapacity + n) % rxFifoCapacity
      rw [hhead, Nat.mod_add_mod, Nat.add_assoc, Nat.add_comm 1 n]
    · rw [hcontent, hnone]
      show handed ++ [] ++ heldEntries s.queue (n + 1) = handed ++ [entryOf s.main.frame] ++ _
      unfold heldEntries
      rw [ringItems_pop _ h.tail_lt, List.map_cons, hframe]
      simp

theorem mainStep_inv (h : QueueInv s offered accepted handed) (event : IsoTpRxEvent) :
    QueueInv (mainStep hal s event) offered accepted
      (handed ++ (hands s (.statement event)).toList) := by
  have hstage := h.stage
  by_cases hpolled : s.main.point = .polled
  · -- the frame in hand goes to the endpoint
    have hmask : s.primask = false := by
      have hiff := hstage.masked
      rw [hpolled] at hiff
      simpa [Masked] using hiff
    obtain ⟨n, hn, hhead, hcontent⟩ := h.content
    unfold mainStep hands
    rw [hpolled]
    refine ⟨h.initialized, ⟨by simp [Masked, hmask], by simp [Masked], by simp, by simp, by simp⟩,
      h.tail_lt, ⟨n, hn, hhead, ?_⟩, h.count⟩
    rw [hcontent]
    simp only [inHand, hpolled, true_and, List.append_nil]
    split <;> simp
  · have hnone : hands s (.statement event) = none := if_neg fun hboth => hpolled hboth.1
    rw [hnone, Option.toList_none, List.append_nil]
    have hmasked := hstage.masked
    have hsaved := hstage.saved
    have hnoFrame := hstage.noFrame
    unfold mainStep
    cases hpoint : s.main.point <;> rw [hpoint] at hmasked hsaved hnoFrame
    case outside => exact h
    case polled => exact absurd hpoint hpolled
    case copied => exact advance_inv h hpoint
    case entered =>
      have hclear : s.primask = false := by simpa [Masked] using hmasked
      refine h.of_same rfl rfl (by simp [inHand, hpoint]) ?_
      exact ⟨by simp [Masked, hclear], fun _ => hclear, fun _ => hnoFrame (by simp), by simp,
        by simp⟩
    case saved =>
      refine h.of_same rfl rfl (by simp [inHand, hpoint]) ?_
      exact ⟨by simp [Masked], fun _ => hsaved (by simp), fun _ => hnoFrame (by simp), by simp,
        by simp⟩
    case masked =>
      have hset : s.primask = true := hmasked.mpr (by simp [Masked])
      have hno : s.main.hasFrame = false := hnoFrame (by simp)
      have hlocal : s.main.primask = false := hsaved (by simp [Masked])
      dsimp only
      by_cases hitems : s.queue.head ≠ s.queue.tail
      · rw [if_pos hitems]
        refine h.of_same rfl rfl (by simp [inHand, hpoint]) ?_
        exact ⟨by simp [Masked, hset], fun _ => hlocal, fun _ => hno, fun _ => hitems, by simp⟩
      · rw [if_neg hitems]
        refine h.of_same rfl rfl (by simp [inHand, hpoint, hno]) ?_
        exact ⟨by simp [Masked, hset], fun _ => hlocal, by simp, by simp, by simp⟩
    case found =>
      have hset : s.primask = true := hmasked.mpr (by simp [Masked])
      refine h.of_same rfl rfl (by simp [inHand, hpoint]) ?_
      exact ⟨by simp [Masked, hset], fun _ => hsaved (by simp [Masked]),
        fun _ => hnoFrame (by simp), fun _ => hstage.nonempty (.inl hpoint), fun _ => rfl⟩
    case advanced =>
      have hset : s.primask = true := hmasked.mpr (by simp [Masked])
      refine h.of_same rfl rfl (by simp [inHand, hpoint, entryOf]) ?_
      exact ⟨by simp [Masked, hset], fun _ => hsaved (by simp [Masked]), by simp, by simp,
        by simp⟩
    case leaving =>
      have hlocal : s.main.primask = false := hsaved (by simp [Masked])
      refine h.of_same rfl rfl (by simp [inHand, hpoint, entryOf]) ?_
      exact ⟨by simp [Masked, hlocal], by simp [Masked], by simp, by simp, by simp⟩
    -- the rest of the call works on the endpoint alone
    all_goals
      have hclear : s.primask = false := by simpa [Masked] using hmasked
      refine h.of_same rfl rfl (by simp [inHand, hpoint, entryOf]) ?_
      exact ⟨by simp [Masked, hclear], by simp [Masked], by simp, by simp, by simp⟩

end Steps

/-! ## The whole run -/

theorem udsAppInit_inv (hal : CanHal η) (callbacks : UdsCallbacks η) (s : RxApp η) (now : UInt32)
    (hclear : s.primask = false) (hpoint : s.main.point = .outside) :
    QueueInv (udsAppInit hal callbacks s now) [] [] [] := by
  have hpoint' : (udsAppInit hal callbacks s now).main.point = .outside := hpoint
  have hclear' : (udsAppInit hal callbacks s now).primask = false := hclear
  have hready : (udsAppInit hal callbacks s now).initialized = true := by
    unfold udsAppInit udsIsotpEndpointInit udsAppConfig
    simp
  refine ⟨hready, ?_, Nat.succ_pos 7, ⟨0, by decide, rfl, ?_⟩, rfl⟩
  · constructor <;> simp [Masked, hpoint', hclear']
  · unfold inHand heldEntries
    rw [hpoint']
    rfl

/-- One step keeps the invariant, with what an observer sees of it. -/
theorem rxAppStep_inv {hal : CanHal η} {s : RxApp η} {offered accepted handed : List RxEntry}
    (h : QueueInv s offered accepted handed) (call : QueueCall) (hallowed : Allowed s call) :
    QueueInv (rxAppStep hal s call) (offered ++ (offers s call).toList)
      (accepted ++ (accepts s call).toList) (handed ++ (hands s call).toList) := by
  cases call with
  | interrupt canId data dlc =>
    have hnone : hands s (.interrupt canId data dlc) = none := rfl
    rw [hnone, Option.toList_none, List.append_nil]
    exact interrupt_inv h hallowed canId data dlc
  | process now =>
    have hnone : offers s (.process now) = none ∧ accepts s (.process now) = none ∧
        hands s (.process now) = none := ⟨rfl, rfl, rfl⟩
    rw [hnone.1, hnone.2.1, hnone.2.2, Option.toList_none, List.append_nil, List.append_nil,
      List.append_nil]
    exact enterProcess_inv h hallowed now
  | statement event =>
    have hnone : offers s (.statement event) = none ∧ accepts s (.statement event) = none :=
      ⟨rfl, rfl⟩
    rw [hnone.1, hnone.2, Option.toList_none, List.append_nil, List.append_nil]
    exact mainStep_inv h event

/-- For every interleaving of interrupts with the statements of `uds_app_process`: what the
endpoint is handed is a prefix of what the interrupt has accepted, in order; the rest is the
frame in hand and the at most seven frames in the queue; and the accepted frames and the counted
ones are all that were offered, modulo the width of the counter. What follows the masked section
is `udsAppProcess` on the frame in hand. -/
theorem rx_queue_ordered (hal : CanHal η) (callbacks : UdsCallbacks η) (s : RxApp η)
    (now : UInt32) (hclear : s.primask = false) (hpoint : s.main.point = .outside)
    (calls : List QueueCall)
    (hcalls : Along (rxAppStep hal) Allowed (udsAppInit hal callbacks s now) calls) :
    let s₀ := udsAppInit hal callbacks s now
    let offered := observed (rxAppStep hal) offers s₀ calls
    let accepted := observed (rxAppStep hal) accepts s₀ calls
    let handed := observed (rxAppStep hal) hands s₀ calls
    let final := run (rxAppStep hal) s₀ calls
    handed <+: accepted ∧
      (∃ n ≤ rxFifoCapacity - 1,
        final.queue.head = (final.queue.tail + n) % rxFifoCapacity ∧
        accepted = handed ++ inHand final.main ++ heldEntries final.queue n) ∧
      (accepted.length + final.queue.overflowCount.toNat) % 2 ^ 32 = offered.length % 2 ^ 32 ∧
      (final.main.point = .restored → ∀ e₁ e₂ e₃ e₄,
        (run (mainStep hal) final [e₁, e₂, e₃, e₄]).app = udsAppProcess hal final.app
          ⟨if final.main.hasFrame then some final.main.frame else none, e₂, final.main.now⟩) := by
  intro s₀ offered accepted handed final
  have hinv : QueueInv final offered accepted handed := by
    refine Along.history (I := fun calls t => QueueInv t (observed (rxAppStep hal) offers s₀ calls)
      (observed (rxAppStep hal) accepts s₀ calls) (observed (rxAppStep hal) hands s₀ calls))
      (udsAppInit_inv hal callbacks s now hclear hpoint) (fun calls call h hallowed => ?_) hcalls
    rw [observed_concat, observed_concat, observed_concat]
    exact rxAppStep_inv h call hallowed
  obtain ⟨n, hn, hhead, hcontent⟩ := hinv.content
  refine ⟨⟨inHand final.main ++ heldEntries final.queue n, ?_⟩,
    ⟨n, Nat.le_sub_one_of_lt hn, hhead, hcontent⟩, ?_, mainStep_process⟩
  · rw [hcontent, List.append_assoc]
  · have hcount := congrArg UInt32.toNat hinv.count
    rw [UInt32.toNat_add, UInt32.toNat_ofNat', UInt32.toNat_ofNat', Nat.mod_add_mod] at hcount
    exact hcount

/-- The application before `uds_app_init`. -/
def rawApp : RxApp Nat where
  initialized := false
  transport := false
  queue := ⟨fun _ => zeroFrame, 0, 0, 0, false⟩
  primask := false
  main := ⟨.outside, 0, zeroFrame, false, false⟩
  app := appBench fussyHal

/-- A frame while the main thread has entered `uds_app_process` and not yet masked the
interrupts, and one after it has taken the first out. -/
def preempted : List QueueCall :=
  [.process 0, .statement benchEvent, .interrupt 0x7E0 (some fun _ => 1) 2,
    .statement benchEvent, .statement benchEvent, .statement benchEvent, .statement benchEvent,
    .statement benchEvent, .statement benchEvent, .interrupt 0x7DF (some fun _ => 2) 3,
    .statement benchEvent, .statement benchEvent]

theorem preempted_allowed :
    Along (rxAppStep fussyHal) Allowed (udsAppInit fussyHal {} rawApp 0) preempted := by
  simp only [preempted, Along, Allowed]
  decide

theorem rx_queue_ordered_preempted :
    let s₀ := udsAppInit fussyHal {} rawApp 0
    let offered := observed (rxAppStep fussyHal) offers s₀ preempted
    let accepted := observed (rxAppStep fussyHal) accepts s₀ preempted
    let handed := observed (rxAppStep fussyHal) hands s₀ preempted
    let final := run (rxAppStep fussyHal) s₀ preempted
    handed <+: accepted ∧
      (∃ n ≤ rxFifoCapacity - 1,
        final.queue.head = (final.queue.tail + n) % rxFifoCapacity ∧
        accepted = handed ++ inHand final.main ++ heldEntries final.queue n) ∧
      (accepted.length + final.queue.overflowCount.toNat) % 2 ^ 32 = offered.length % 2 ^ 32 ∧
      (final.main.point = .restored → ∀ e₁ e₂ e₃ e₄,
        (run (mainStep fussyHal) final [e₁, e₂, e₃, e₄]).app = udsAppProcess fussyHal final.app
          ⟨if final.main.hasFrame then some final.main.frame else none, e₂, final.main.now⟩) :=
  rx_queue_ordered fussyHal {} rawApp 0 rfl rfl preempted preempted_allowed

end UdsIsoTp.App
