import UdsIsoTp.Lib.Buffer
import UdsIsoTp.Lib.Clock

/-!
# ISO-TP frames and configuration

The data types of `isotp.h` and the helpers the receiver and the transmitter of
`isotp.c` share.

Lengths (`uint8_t` data lengths, `uint32_t` payload lengths) are natural numbers:
every one of them is bounded by a check of the code before it is added to.
Counters that do wrap carry their `% 256` or `% 16`. Times are `UInt32`, bytes
`UInt8`. A function pointer that may be `NULL` is an `Option`; what stands behind
the context pointers is the type `ω`, and a callback takes it and hands it back.
-/

namespace UdsIsoTp.IsoTp

/-- `ISOTP_MAX_PAYLOAD` -/
def maxPayload : Nat := 16384

/-- `ISOTP_MAX_FRAME_DATA` -/
def maxFrameData : Nat := 64

/-- A frame on the bus, of eight bytes or of CAN FD. -/
structure IsoTpCanFrame where
  canId : UInt32
  dlc : Nat
  isFd : Bool
  bitRateSwitch : Bool
  data : Buf

/-- What a routine of the transport says. -/
inductive IsoTpStatus where
  | ok
  | complete
  | needFlowControl
  | txFrameReady
  | errArgument
  | errFormat
  | errSequence
  | errOverflow
  | errTimeout
  | errState
  | errFlowControl
  | errFlowOverflow
  deriving DecidableEq, Repr

/-- What a flow control asks of the sender. -/
inductive IsoTpFlowStatus where
  | cts
  | wait
  | overflow
  deriving DecidableEq, Repr

/-- The enumerator's value. -/
def IsoTpFlowStatus.value : IsoTpFlowStatus → Nat
  | .cts => 0
  | .wait => 1
  | .overflow => 2

/-- The settings of a receiver or a sender. -/
structure IsoTpConfig (ω : Type) where
  blockSize : UInt8
  stMin : UInt8
  rxTimeoutMs : UInt32
  txTimeoutMs : UInt32
  maxWaitFrames : UInt8
  txDl : Nat
  rxDl : Nat
  canFd : Bool
  bitRateSwitch : Bool
  paddingEnabled : Bool
  paddingValue : UInt8
  fullDuplex : Bool
  clockUs : Option (ω → UInt32 × ω)

variable {ω : Type}

/-- `deadline(now, timeout)` -/
def deadline (now timeout : UInt32) : UInt32 := now + timeout

/-- `valid_fd_dl`: the lengths a frame of CAN FD has. -/
def validFdDl (dl : Nat) : Bool :=
  dl == 8 || dl == 12 || dl == 16 || dl == 20 || dl == 24 || dl == 32 || dl == 48 || dl == 64

/-- Whether the lengths are ones the bus can carry. -/
def validTxConfig (config : IsoTpConfig ω) : Bool :=
  if config.canFd then validFdDl config.txDl && validFdDl config.rxDl
  else config.txDl == 8 && config.rxDl == 8

/-- The first entry of the table of CAN FD data lengths that holds `length` bytes. -/
def fdDlForLength (length : Nat) : Nat :=
  (([8, 12, 16, 20, 24, 32, 48, 64] : List Nat).find? fun value => length ≤ value).getD 64

/-- `frame_valid`: whether the frame is one the settings allow. -/
def frameValid (config : IsoTpConfig ω) (frame : IsoTpCanFrame) : Bool :=
  if frame.dlc = 0 ∨ maxFrameData < frame.dlc then false
  else if ¬frame.isFd then frame.dlc ≤ 8
  else if ¬config.canFd ∨ ¬validFdDl frame.dlc then false
  else if config.rxDl ≠ 0 ∧ config.rxDl < frame.dlc then false
  else true

/-- A frame to fill in, padded where the settings ask for it. -/
def clearFrame (id : UInt32) (config : IsoTpConfig ω) : IsoTpCanFrame where
  canId := id
  isFd := config.canFd
  bitRateSwitch := config.canFd && config.bitRateSwitch
  dlc := if config.canFd then config.txDl else 8
  data := fun _ => if config.paddingEnabled then config.paddingValue else 0

/-- The separation time in milliseconds, a reserved value taken as the longest. -/
def stMinMs (value : UInt8) : UInt32 :=
  if value ≤ 0x7F then value.toUInt32
  else if 0xF1 ≤ value ∧ value ≤ 0xF9 then 1
  else 127

/-- The separation time in microseconds. -/
def stMinUs (value : UInt8) : UInt32 :=
  if value ≤ 0x7F then value.toUInt32 * 1000
  else if 0xF1 ≤ value ∧ value ≤ 0xF9 then (value.toUInt32 - 0xF0) * 100
  else 127000

/-- `isotp_config_classic_can` -/
def isotpConfigClassicCan : IsoTpConfig ω where
  blockSize := 8
  stMin := 0
  rxTimeoutMs := 1000
  txTimeoutMs := 1000
  maxWaitFrames := 3
  txDl := 8
  rxDl := 8
  canFd := false
  bitRateSwitch := false
  paddingEnabled := false
  paddingValue := 0xCC
  fullDuplex := false
  clockUs := none

/-- `isotp_config_default` -/
def isotpConfigDefault : IsoTpConfig ω := isotpConfigClassicCan

/-- `frame->data[i] >> 4U` -/
def IsoTpCanFrame.highNibble (frame : IsoTpCanFrame) : Nat := (frame.data 0 >>> 4).toNat

/-- `frame->data[i] & 0x0FU` -/
def IsoTpCanFrame.lowNibble (frame : IsoTpCanFrame) : Nat := (frame.data 0 &&& 0x0F).toNat

/-- The data bytes of a consecutive frame. -/
def cfData (frame : IsoTpCanFrame) : List UInt8 := frame.data.slice 1 (frame.dlc - 1)

/-- The data bytes of a first frame whose header takes `header` bytes. -/
def ffData (frame : IsoTpCanFrame) (header : Nat) : List UInt8 :=
  frame.data.slice header (frame.dlc - header)

/-! ## What the helpers guarantee -/

theorem lowNibble_lt (frame : IsoTpCanFrame) : frame.lowNibble < 16 := by
  have h : (frame.data 0 &&& 0x0F).toNat = (frame.data 0).toNat &&& 15 := by simp
  have hle := Nat.and_le_right (n := (frame.data 0).toNat) (m := 15)
  simp only [IsoTpCanFrame.lowNibble, h]
  omega

/-- A protocol control byte `type << 4 | low` gives its nibbles back. -/
theorem highNibble_pci : ∀ t < 16, ∀ n < 16,
    (UInt8.ofNat ((t <<< 4) ||| n) >>> 4).toNat = t := by
  decide

theorem lowNibble_pci : ∀ t < 16, ∀ n < 16,
    (UInt8.ofNat ((t <<< 4) ||| n) &&& 0x0F).toNat = n := by
  decide

theorem validFdDl_cases {dl : Nat} (h : validFdDl dl = true) :
    dl = 8 ∨ dl = 12 ∨ dl = 16 ∨ dl = 20 ∨ dl = 24 ∨ dl = 32 ∨ dl = 48 ∨ dl = 64 := by
  simpa [validFdDl, or_assoc] using h

/-- A configuration the transmitter accepts sends frames of 8 to 64 bytes. -/
theorem txDl_bounds {config : IsoTpConfig ω} (h : validTxConfig config = true) :
    8 ≤ config.txDl ∧ config.txDl ≤ 64 := by
  unfold validTxConfig at h
  split at h
  next =>
    rcases validFdDl_cases (Bool.and_eq_true_iff.mp h).1 with
      h | h | h | h | h | h | h | h <;> omega
  next =>
    have h8 : config.txDl = 8 := by simpa using (Bool.and_eq_true_iff.mp h).1
    omega

/-- A valid frame carries between 1 and 64 bytes. -/
theorem dlc_bounds {config : IsoTpConfig ω} {frame : IsoTpCanFrame}
    (h : frameValid config frame = true) : 1 ≤ frame.dlc ∧ frame.dlc ≤ 64 := by
  unfold frameValid at h
  split at h
  next => exact Bool.noConfusion h
  next hdlc =>
    unfold maxFrameData at hdlc
    omega

/-- The table's answer is a CAN FD data length that holds the bytes, no longer
than any other that does. -/
theorem fdDlForLength_spec {length dl : Nat} (hdl : validFdDl dl = true) (hle : length ≤ dl) :
    validFdDl (fdDlForLength length) = true ∧ length ≤ fdDlForLength length ∧
      fdDlForLength length ≤ dl := by
  have hdl' := validFdDl_cases hdl
  have hmem : length ≤ 64 := by omega
  unfold fdDlForLength
  simp only [List.find?]
  split <;> rename_i h8
  · simp only [decide_eq_true_eq] at h8
    exact ⟨rfl, h8, by simp only [Option.getD_some]; omega⟩
  simp only [decide_eq_false_iff_not] at h8
  repeat' (split <;> rename_i h)
  all_goals
    simp only [decide_eq_true_eq, decide_eq_false_iff_not] at *
    refine ⟨by decide, ?_, ?_⟩
    all_goals first | omega | (simp only [Option.getD_some]; omega)

end UdsIsoTp.IsoTp
