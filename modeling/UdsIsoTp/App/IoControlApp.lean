import UdsIsoTp.App.LateRoom

/-!
# Control of actuators

`uds_io_control_app.c`: the tester takes the air inlet door, or the EGR valve and the idle air
control together, under its control, sets them or freezes them. A handler checks its request and
moves the actuator, and looks for the room for its response afterwards (`answerMoved`).

The commands are a type of their own, with what each of them asks of the actuator. A request is
accepted exactly if it is one of a command, and then does what the command asks.
-/

namespace UdsIsoTp.App

open UdsIsoTp.Uds

/-- `UDS_IOCP_RETURN_CONTROL_TO_ECU` -/
def iocpReturnControlToEcu : UInt8 := 0x00
/-- `UDS_IOCP_RESET_TO_DEFAULT` -/
def iocpResetToDefault : UInt8 := 0x01
/-- `UDS_IOCP_FREEZE_CURRENT_STATE` -/
def iocpFreezeCurrentState : UInt8 := 0x02
/-- `UDS_IOCP_SHORT_TERM_ADJUSTMENT` -/
def iocpShortTermAdjustment : UInt8 := 0x03

/-- `UDS_IO_DID_AIR_INLET_DOOR` -/
def ioDidAirInletDoor : UInt16 := 0x9B00
/-- `UDS_IO_DID_EGR_AND_IAC` -/
def ioDidEgrAndIac : UInt16 := 0x0155

/-- `UDS_IO_AIR_INLET_DEFAULT_POS` -/
def ioAirInletDefaultPos : UInt8 := 50
/-- `UDS_IO_EGR_DEFAULT_DUTY` -/
def ioEgrDefaultDuty : UInt8 := 20
/-- `UDS_IO_IAC_DEFAULT_STEPS` -/
def ioIacDefaultSteps : UInt8 := 80

/-- `UDS_IO_MASK_EGR_ENABLE` -/
def ioMaskEgrEnable : UInt8 := 0x01
/-- `UDS_IO_MASK_IAC_ENABLE` -/
def ioMaskIacEnable : UInt8 := 0x01

/-- The variables of `uds_io_control_app.c`. -/
structure UdsIoControlApp where
  airInletPos : UInt8
  airInletUnderControl : Bool
  airInletFrozen : Bool
  egrDuty : UInt8
  iacSteps : UInt8
  egrUnderControl : Bool
  iacUnderControl : Bool
  egrIacFrozen : Bool

/-- Every output at its default and under the control of the ECU. -/
def udsIoControlAppInit : UdsIoControlApp where
  airInletPos := ioAirInletDefaultPos
  airInletUnderControl := false
  airInletFrozen := false
  egrDuty := ioEgrDefaultDuty
  iacSteps := ioIacDefaultSteps
  egrUnderControl := false
  iacUnderControl := false
  egrIacFrozen := false

section Handlers

variable (app : UdsIoControlApp) (parameter : List UInt8)

/-- The switch of `handle_air_inlet_door`. -/
def moveAirInletDoor : UdsCallbackResult × UdsIoControlApp :=
  let controlParam := byteAt parameter 0
  if controlParam = iocpReturnControlToEcu then
    if parameter.length ≠ 1 then (.invalidFormat, app)
    else
      (.ok, { app with
        airInletPos := ioAirInletDefaultPos
        airInletUnderControl := false
        airInletFrozen := false })
  else if controlParam = iocpResetToDefault then
    if parameter.length ≠ 1 then (.invalidFormat, app)
    else
      (.ok, { app with
        airInletPos := ioAirInletDefaultPos
        airInletUnderControl := true
        airInletFrozen := false })
  else if controlParam = iocpFreezeCurrentState then
    if parameter.length ≠ 1 then (.invalidFormat, app)
    else (.ok, { app with airInletUnderControl := true, airInletFrozen := true })
  else if controlParam = iocpShortTermAdjustment then
    if parameter.length ≠ 2 then (.invalidFormat, app)
    else if 100 < byteAt parameter 1 then (.outOfRange, app)
    else
      (.ok, { app with
        airInletPos := byteAt parameter 1
        airInletUnderControl := true
        airInletFrozen := false })
  else (.subfunctionNotSupported, app)

/-- Moves the door and answers with the parameter and the position it now has. -/
def handleAirInletDoor (capacity : UInt16) : Reply UdsIoControlApp :=
  answerMoved (moveAirInletDoor app parameter) capacity 2
    fun app => [byteAt parameter 0, app.airInletPos]

/-- What `handle_egr_iac_return_control` and `handle_egr_iac_reset_default` have in common: both
actuators, or those of the masks, get their default. -/
def egrIacToDefault (underControl : Bool) : UdsCallbackResult × UdsIoControlApp :=
  if parameter.length = 1 then
    (.ok, { app with
      egrDuty := ioEgrDefaultDuty
      egrUnderControl := underControl
      iacSteps := ioIacDefaultSteps
      iacUnderControl := underControl
      egrIacFrozen := false })
  else if parameter.length = 3 then
    let app :=
      if byteAt parameter 1 &&& ioMaskEgrEnable ≠ 0 then
        { app with egrDuty := ioEgrDefaultDuty, egrUnderControl := underControl }
      else app
    let app :=
      if byteAt parameter 2 &&& ioMaskIacEnable ≠ 0 then
        { app with iacSteps := ioIacDefaultSteps, iacUnderControl := underControl }
      else app
    (.ok, { app with egrIacFrozen := false })
  else (.invalidFormat, app)

/-- `handle_egr_iac_return_control`: the tester gives the actuators back. -/
def handleEgrIacReturnControl : UdsCallbackResult × UdsIoControlApp :=
  egrIacToDefault app parameter false

/-- `handle_egr_iac_reset_default`: the tester keeps the control. -/
def handleEgrIacResetDefault : UdsCallbackResult × UdsIoControlApp :=
  egrIacToDefault app parameter true

/-- Sets the duty and the steps the tester asks for, both or those a mask selects. -/
def handleEgrIacShortTerm : UdsCallbackResult × UdsIoControlApp :=
  if parameter.length = 3 then
    if 100 < byteAt parameter 1 then (.outOfRange, app)
    else
      (.ok, { app with
        egrDuty := byteAt parameter 1
        egrUnderControl := true
        iacSteps := byteAt parameter 2
        iacUnderControl := true
        egrIacFrozen := false })
  else if parameter.length = 5 then
    let maskEgr := byteAt parameter 3
    let maskIac := byteAt parameter 4
    if maskEgr &&& ioMaskEgrEnable ≠ 0 ∧ 100 < byteAt parameter 1 then (.outOfRange, app)
    else
      let app :=
        if maskEgr &&& ioMaskEgrEnable ≠ 0 then
          { app with egrDuty := byteAt parameter 1, egrUnderControl := true }
        else app
      let app :=
        if maskIac &&& ioMaskIacEnable ≠ 0 then
          { app with iacSteps := byteAt parameter 2, iacUnderControl := true }
        else app
      (.ok, { app with egrIacFrozen := false })
  else (.invalidFormat, app)

/-- The switch of `handle_egr_iac`. -/
def moveEgrIac : UdsCallbackResult × UdsIoControlApp :=
  let controlParam := byteAt parameter 0
  if controlParam = iocpReturnControlToEcu then handleEgrIacReturnControl app parameter
  else if controlParam = iocpResetToDefault then handleEgrIacResetDefault app parameter
  else if controlParam = iocpFreezeCurrentState then
    if parameter.length ≠ 1 ∧ parameter.length ≠ 3 then (.invalidFormat, app)
    else (.ok, { app with egrIacFrozen := true })
  else if controlParam = iocpShortTermAdjustment then handleEgrIacShortTerm app parameter
  else (.subfunctionNotSupported, app)

/-- Moves the two outputs and answers with the parameter and the values they now have. -/
def handleEgrIac (capacity : UInt16) : Reply UdsIoControlApp :=
  answerMoved (moveEgrIac app parameter) capacity 3
    fun app => [byteAt parameter 0, app.egrDuty, app.iacSteps]

end Handlers

/-- `uds_io_control_app_handler`: tells the two identifiers apart. -/
def udsIoControlAppHandler (app : UdsIoControlApp) (did : UInt16) (parameter : List UInt8)
    (capacity : UInt16) : Reply UdsIoControlApp :=
  if parameter.length < 1 then ⟨.invalidFormat, [], 0, app⟩
  else if did = ioDidAirInletDoor then handleAirInletDoor app parameter capacity
  else if did = ioDidEgrAndIac then handleEgrIac app parameter capacity
  else ⟨.outOfRange, [], 0, app⟩

/-! ## The door's commands -/

/-- What the tester can ask of the door. -/
inductive DoorCommand where
  | returnControl
  | reset
  | freeze
  | adjust (position : UInt8) (h : position ≤ 100)

namespace DoorCommand

/-- The control parameter as the request carries it. -/
def bytes : DoorCommand → List UInt8
  | returnControl => [0x00]
  | reset => [0x01]
  | freeze => [0x02]
  | adjust position _ => [0x03, position]

/-- The door as the command would have it. -/
def apply (command : DoorCommand) (app : UdsIoControlApp) : UdsIoControlApp :=
  match command with
  | returnControl =>
    { app with
      airInletPos := ioAirInletDefaultPos, airInletUnderControl := false, airInletFrozen := false }
  | reset =>
    { app with
      airInletPos := ioAirInletDefaultPos, airInletUnderControl := true, airInletFrozen := false }
  | freeze => { app with airInletUnderControl := true, airInletFrozen := true }
  | adjust position _ =>
    { app with airInletPos := position, airInletUnderControl := true, airInletFrozen := false }

/-- The door is already as the command would have it. -/
def Holds (app : UdsIoControlApp) : DoorCommand → Prop
  | returnControl => app.airInletPos = ioAirInletDefaultPos ∧ app.airInletUnderControl = false ∧
      app.airInletFrozen = false
  | reset => app.airInletPos = ioAirInletDefaultPos ∧ app.airInletUnderControl = true ∧
      app.airInletFrozen = false
  | freeze => app.airInletUnderControl = true ∧ app.airInletFrozen = true
  | adjust position _ => app.airInletPos = position ∧ app.airInletUnderControl = true ∧
      app.airInletFrozen = false

theorem apply_eq_iff (command : DoorCommand) (app : UdsIoControlApp) :
    command.apply app = app ↔ command.Holds app := by
  cases app
  cases command <;> simp [apply, Holds, eq_comm]

end DoorCommand

section Door

variable {app : UdsIoControlApp} {parameter : List UInt8}

theorem list_one {param : UInt8} (hparam : byteAt parameter 0 = param)
    (h : parameter.length = 1) : parameter = [param] := by
  obtain ⟨a, rfl⟩ := List.length_eq_one_iff.mp h
  exact congrArg List.singleton hparam

theorem list_two {param : UInt8} (hparam : byteAt parameter 0 = param)
    (h : parameter.length = 2) : parameter = [param, byteAt parameter 1] := by
  obtain ⟨a, b, rfl⟩ := List.length_eq_two.mp h
  exact congrArg (· :: [b]) hparam

/-- A request of a command does what the command asks. -/
theorem moveAirInletDoor_bytes (command : DoorCommand) :
    moveAirInletDoor app command.bytes = (.ok, command.apply app) := by
  cases command with
  | returnControl => rfl
  | reset => rfl
  | freeze => rfl
  | adjust position h => exact if_neg (UInt8.not_lt.mpr h)

/-- A request is one of a command, or is refused and changes nothing. -/
theorem moveAirInletDoor_cases (app : UdsIoControlApp) (parameter : List UInt8) :
    (∃ command : DoorCommand, parameter = command.bytes) ∨
      (moveAirInletDoor app parameter).1 ≠ .ok ∧ (moveAirInletDoor app parameter).2 = app := by
  unfold moveAirInletDoor
  dsimp only
  split
  next hparam =>
    split
    next => exact .inr ⟨UdsCallbackResult.noConfusion, rfl⟩
    next hlen => exact .inl ⟨.returnControl, list_one hparam (not_not.mp hlen)⟩
  next =>
    split
    next hparam =>
      split
      next => exact .inr ⟨UdsCallbackResult.noConfusion, rfl⟩
      next hlen => exact .inl ⟨.reset, list_one hparam (not_not.mp hlen)⟩
    next =>
      split
      next hparam =>
        split
        next => exact .inr ⟨UdsCallbackResult.noConfusion, rfl⟩
        next hlen => exact .inl ⟨.freeze, list_one hparam (not_not.mp hlen)⟩
      next =>
        split
        next hparam =>
          split
          next => exact .inr ⟨UdsCallbackResult.noConfusion, rfl⟩
          next hlen =>
            split
            next => exact .inr ⟨UdsCallbackResult.noConfusion, rfl⟩
            next hrange =>
              have hbytes := list_two hparam (not_not.mp hlen)
              exact .inl ⟨.adjust (byteAt parameter 1) (UInt8.not_lt.mp hrange), hbytes⟩
        next => exact .inr ⟨UdsCallbackResult.noConfusion, rfl⟩

end Door

/-! ## The commands of the valve and the idle air control -/

/-- The masks of a request, one for each actuator; without them both are meant. -/
abbrev IoMasks := Option (UInt8 × UInt8)

namespace IoMasks

/-- The mask bytes at the end of a request, none when it has no mask. -/
def bytes : IoMasks → List UInt8
  | none => []
  | some (maskEgr, maskIac) => [maskEgr, maskIac]

/-- Whether the request reaches the EGR valve: without a mask it does. -/
def selectEgr : IoMasks → Bool
  | none => true
  | some (maskEgr, _) => maskEgr &&& ioMaskEgrEnable ≠ 0

/-- Whether the request reaches the idle air control. -/
def selectIac : IoMasks → Bool
  | none => true
  | some (_, maskIac) => maskIac &&& ioMaskIacEnable ≠ 0

end IoMasks

/-- What the tester can ask of the two. -/
inductive EgrIacCommand where
  | returnControl (masks : IoMasks)
  | reset (masks : IoMasks)
  | freeze (masks : IoMasks)
  | adjust (duty steps : UInt8) (masks : IoMasks) (h : masks.selectEgr = true → duty ≤ 100)

/-- The actuators of the masks are set. -/
def setSelected (app : UdsIoControlApp) (masks : IoMasks) (duty steps : UInt8)
    (underControl : Bool) : UdsIoControlApp :=
  { app with
    egrDuty := if masks.selectEgr then duty else app.egrDuty
    egrUnderControl := if masks.selectEgr then underControl else app.egrUnderControl
    iacSteps := if masks.selectIac then steps else app.iacSteps
    iacUnderControl := if masks.selectIac then underControl else app.iacUnderControl
    egrIacFrozen := false }

/-- The actuators of the masks are set already. -/
structure SelectedSet (app : UdsIoControlApp) (masks : IoMasks) (duty steps : UInt8)
    (underControl : Bool) : Prop where
  egr : masks.selectEgr = true → app.egrDuty = duty ∧ app.egrUnderControl = underControl
  iac : masks.selectIac = true → app.iacSteps = steps ∧ app.iacUnderControl = underControl
  free : app.egrIacFrozen = false

theorem setSelected_eq_iff (app : UdsIoControlApp) (masks : IoMasks) (duty steps : UInt8)
    (underControl : Bool) :
    setSelected app masks duty steps underControl = app
      ↔ SelectedSet app masks duty steps underControl := by
  cases app
  constructor
  · intro h
    simp only [setSelected, UdsIoControlApp.mk.injEq, true_and] at h
    obtain ⟨hduty, hsteps, hegr, hiac, hfree⟩ := h
    refine ⟨fun hselected => ?_, fun hselected => ?_, hfree.symm⟩
    · rw [if_pos hselected] at hduty hegr
      exact ⟨hduty.symm, hegr.symm⟩
    · rw [if_pos hselected] at hsteps hiac
      exact ⟨hsteps.symm, hiac.symm⟩
  · rintro ⟨hegr, hiac, hfree⟩
    simp only [setSelected, UdsIoControlApp.mk.injEq, true_and]
    refine ⟨ite_eq_right_iff.mpr fun h => (hegr h).1.symm,
      ite_eq_right_iff.mpr fun h => (hiac h).1.symm,
      ite_eq_right_iff.mpr fun h => (hegr h).2.symm,
      ite_eq_right_iff.mpr fun h => (hiac h).2.symm, hfree.symm⟩

namespace EgrIacCommand

/-- The control parameter as the request carries it, with its masks last. -/
def bytes : EgrIacCommand → List UInt8
  | returnControl masks => 0x00 :: masks.bytes
  | reset masks => 0x01 :: masks.bytes
  | freeze masks => 0x02 :: masks.bytes
  | adjust duty steps masks _ => 0x03 :: duty :: steps :: masks.bytes

/-- The actuators as the command would have them. -/
def apply (command : EgrIacCommand) (app : UdsIoControlApp) : UdsIoControlApp :=
  match command with
  | returnControl masks => setSelected app masks ioEgrDefaultDuty ioIacDefaultSteps false
  | reset masks => setSelected app masks ioEgrDefaultDuty ioIacDefaultSteps true
  | freeze _ => { app with egrIacFrozen := true }
  | adjust duty steps masks _ => setSelected app masks duty steps true

/-- The actuators are already as the command would have them. -/
def Holds (app : UdsIoControlApp) : EgrIacCommand → Prop
  | returnControl masks => SelectedSet app masks ioEgrDefaultDuty ioIacDefaultSteps false
  | reset masks => SelectedSet app masks ioEgrDefaultDuty ioIacDefaultSteps true
  | freeze _ => app.egrIacFrozen = true
  | adjust duty steps masks _ => SelectedSet app masks duty steps true

theorem apply_eq_iff (command : EgrIacCommand) (app : UdsIoControlApp) :
    command.apply app = app ↔ command.Holds app := by
  cases command with
  | returnControl masks => exact setSelected_eq_iff ..
  | reset masks => exact setSelected_eq_iff ..
  | freeze masks =>
    cases app
    simp [apply, Holds, eq_comm]
  | adjust duty steps masks h => exact setSelected_eq_iff ..

end EgrIacCommand

section EgrIac

variable {app : UdsIoControlApp} {parameter : List UInt8}

theorem egrIacToDefault_bytes (param : UInt8) (masks : IoMasks) (underControl : Bool) :
    egrIacToDefault app (param :: masks.bytes) underControl
      = (.ok, setSelected app masks ioEgrDefaultDuty ioIacDefaultSteps underControl) := by
  cases masks with
  | none => rfl
  | some mask =>
    obtain ⟨maskEgr, maskIac⟩ := mask
    show (UdsCallbackResult.ok, _) = (UdsCallbackResult.ok, _)
    by_cases hegr : maskEgr &&& ioMaskEgrEnable ≠ 0 <;>
      by_cases hiac : maskIac &&& ioMaskIacEnable ≠ 0 <;>
        simp [setSelected, IoMasks.selectEgr, IoMasks.selectIac, IoMasks.bytes, byteAt, hegr, hiac]

theorem handleEgrIacShortTerm_bytes {duty : UInt8} (steps : UInt8) {masks : IoMasks}
    (h : masks.selectEgr = true → duty ≤ 100) :
    handleEgrIacShortTerm app (iocpShortTermAdjustment :: duty :: steps :: masks.bytes)
      = (.ok, setSelected app masks duty steps true) := by
  cases masks with
  | none => exact if_neg (UInt8.not_lt.mpr (h rfl))
  | some mask =>
    obtain ⟨maskEgr, maskIac⟩ := mask
    have hrange : ¬(maskEgr &&& ioMaskEgrEnable ≠ 0 ∧ 100 < duty) := by
      rintro ⟨hselected, hlarge⟩
      exact UInt8.not_lt.mpr (h (decide_eq_true hselected)) hlarge
    refine (if_neg hrange).trans ?_
    by_cases hegr : maskEgr &&& ioMaskEgrEnable ≠ 0 <;>
      by_cases hiac : maskIac &&& ioMaskIacEnable ≠ 0 <;>
        simp [setSelected, IoMasks.selectEgr, IoMasks.selectIac, IoMasks.bytes, byteAt, hegr, hiac]

/-- A request of a command does what the command asks. -/
theorem moveEgrIac_bytes (command : EgrIacCommand) :
    moveEgrIac app command.bytes = (.ok, command.apply app) := by
  cases command with
  | returnControl masks => exact egrIacToDefault_bytes ..
  | reset masks => exact egrIacToDefault_bytes ..
  | freeze masks => cases masks <;> rfl
  | adjust duty steps masks h => exact handleEgrIacShortTerm_bytes steps h

theorem list_three {parameter : List UInt8} (h : parameter.length = 3) :
    parameter = [byteAt parameter 0, byteAt parameter 1, byteAt parameter 2] := by
  obtain ⟨a, b, c, rfl⟩ := List.length_eq_three.mp h
  rfl

theorem list_five {parameter : List UInt8} (h : parameter.length = 5) :
    parameter = [byteAt parameter 0, byteAt parameter 1, byteAt parameter 2, byteAt parameter 3,
      byteAt parameter 4] := by
  match parameter, h with
  | [a, b, c, d, e], _ => rfl

/-- After the control parameter there are masks, or nothing. -/
theorem masks_of_length (h : parameter.length = 1 ∨ parameter.length = 3) :
    ∃ masks : IoMasks, parameter = byteAt parameter 0 :: masks.bytes := by
  rcases h with hone | hthree
  · exact ⟨none, list_one rfl hone⟩
  · exact ⟨some (byteAt parameter 1, byteAt parameter 2), list_three hthree⟩

theorem egrIacToDefault_cases (app : UdsIoControlApp) (parameter : List UInt8)
    (underControl : Bool) :
    (∃ masks : IoMasks, parameter = byteAt parameter 0 :: masks.bytes) ∨
      (egrIacToDefault app parameter underControl).1 ≠ .ok ∧
        (egrIacToDefault app parameter underControl).2 = app := by
  unfold egrIacToDefault
  split
  next hlen => exact .inl (masks_of_length (.inl hlen))
  next =>
    split
    next hlen => exact .inl (masks_of_length (.inr hlen))
    next => exact .inr ⟨UdsCallbackResult.noConfusion, rfl⟩

theorem handleEgrIacShortTerm_cases (app : UdsIoControlApp) (parameter : List UInt8) :
    (∃ duty steps, ∃ masks : IoMasks, (masks.selectEgr = true → duty ≤ 100) ∧
        parameter = byteAt parameter 0 :: duty :: steps :: masks.bytes) ∨
      (handleEgrIacShortTerm app parameter).1 ≠ .ok ∧
        (handleEgrIacShortTerm app parameter).2 = app := by
  unfold handleEgrIacShortTerm
  split
  next hlen =>
    split
    next => exact .inr ⟨UdsCallbackResult.noConfusion, rfl⟩
    next hrange =>
      exact .inl ⟨byteAt parameter 1, byteAt parameter 2, none, fun _ => UInt8.not_lt.mp hrange,
        list_three hlen⟩
  next =>
    split
    next hlen =>
      dsimp only
      split
      next => exact .inr ⟨UdsCallbackResult.noConfusion, rfl⟩
      next hrange =>
        refine .inl ⟨byteAt parameter 1, byteAt parameter 2,
          some (byteAt parameter 3, byteAt parameter 4), fun hselected => ?_, list_five hlen⟩
        have hmask : byteAt parameter 3 &&& ioMaskEgrEnable ≠ 0 := of_decide_eq_true hselected
        exact UInt8.not_lt.mp fun hlarge => hrange ⟨hmask, hlarge⟩
    next => exact .inr ⟨UdsCallbackResult.noConfusion, rfl⟩

/-- A request is one of a command, or is refused and changes nothing. -/
theorem moveEgrIac_cases (app : UdsIoControlApp) (parameter : List UInt8) :
    (∃ command : EgrIacCommand, parameter = command.bytes) ∨
      (moveEgrIac app parameter).1 ≠ .ok ∧ (moveEgrIac app parameter).2 = app := by
  unfold moveEgrIac
  dsimp only
  split
  next hparam =>
    rcases egrIacToDefault_cases app parameter false with ⟨masks, hbytes⟩ | hrefused
    · rw [hparam] at hbytes
      exact .inl ⟨.returnControl masks, hbytes⟩
    · exact .inr hrefused
  next =>
    split
    next hparam =>
      rcases egrIacToDefault_cases app parameter true with ⟨masks, hbytes⟩ | hrefused
      · rw [hparam] at hbytes
        exact .inl ⟨.reset masks, hbytes⟩
      · exact .inr hrefused
    next =>
      split
      next hparam =>
        split
        next => exact .inr ⟨UdsCallbackResult.noConfusion, rfl⟩
        next hlen =>
          have hshape : parameter.length = 1 ∨ parameter.length = 3 := by omega
          obtain ⟨masks, hbytes⟩ := masks_of_length hshape
          rw [hparam] at hbytes
          exact .inl ⟨.freeze masks, hbytes⟩
      next =>
        split
        next hparam =>
          rcases handleEgrIacShortTerm_cases app parameter with
            ⟨duty, steps, masks, hrange, hbytes⟩ | hrefused
          · rw [hparam] at hbytes
            exact .inl ⟨.adjust duty steps masks hrange, hbytes⟩
          · exact .inr hrefused
        next => exact .inr ⟨UdsCallbackResult.noConfusion, rfl⟩

end EgrIac

/-! ## Refusals -/

/-- There is room for the response to a command, or the command asks for nothing new. -/
def IoRoom (app : UdsIoControlApp) (did : UInt16) (parameter : List UInt8) (capacity : UInt16) :
    Prop :=
  (did = ioDidAirInletDoor → ∀ command : DoorCommand, parameter = command.bytes →
      2 ≤ capacity ∨ command.Holds app) ∧
    (did = ioDidEgrAndIac → ∀ command : EgrIacCommand, parameter = command.bytes →
      3 ≤ capacity ∨ command.Holds app)

section Refusals

variable {app : UdsIoControlApp} {parameter : List UInt8} {capacity : UInt16}

/-- Commands are what a handler carries out, and it looks for room after that. -/
theorem commands_atomic_iff {κ : Type} {bytes : κ → List UInt8}
    {apply : κ → UdsIoControlApp → UdsIoControlApp} {Holds : UdsIoControlApp → κ → Prop}
    {move : UdsIoControlApp → List UInt8 → UdsCallbackResult × UdsIoControlApp}
    (hbytes : ∀ command, move app (bytes command) = (.ok, apply command app))
    (hcases : (∃ command, parameter = bytes command) ∨
      (move app parameter).1 ≠ .ok ∧ (move app parameter).2 = app)
    (hholds : ∀ command, apply command app = app ↔ Holds app command) (needed : UInt16)
    (data : UdsIoControlApp → List UInt8) :
    Atomic app (answerMoved (move app parameter) capacity needed data)
      ↔ ∀ command, parameter = bytes command → needed ≤ capacity ∨ Holds app command := by
  have hunmoved : (move app parameter).1 ≠ .ok → (move app parameter).2 = app := by
    intro hrefused
    rcases hcases with ⟨command, rfl⟩ | hsame
    · exact absurd (congrArg Prod.fst (hbytes command)) hrefused
    · exact hsame.2
  rw [answerMoved_atomic_iff hunmoved]
  constructor
  -- only a command is carried out, and what it asks for is there before exactly if it holds
  · rintro h command rfl
    rw [hbytes] at h
    exact (h rfl).imp_right (hholds command).mp
  · intro h hok
    rcases hcases with ⟨command, rfl⟩ | hsame
    · rw [hbytes]
      exact (h command rfl).imp_right (hholds command).mpr
    · exact absurd hok hsame.1

/-- A refusal has moved no actuator exactly if there is room, or nothing to be moved. -/
theorem udsIoControlAppHandler_atomic_iff (did : UInt16) :
    Atomic app (udsIoControlAppHandler app did parameter capacity)
      ↔ IoRoom app did parameter capacity := by
  unfold udsIoControlAppHandler IoRoom
  split
  next hempty =>
    -- a command has its control parameter
    have hnil : parameter = [] := List.length_eq_zero_iff.mp (by omega)
    subst hnil
    refine iff_of_true (atomic_unchanged rfl)
      ⟨fun _ command hbytes => ?_, fun _ command hbytes => ?_⟩
    · cases command <;> exact absurd hbytes (List.cons_ne_nil _ _).symm
    · cases command <;> exact absurd hbytes (List.cons_ne_nil _ _).symm
  next =>
    split
    next hdoor =>
      have hother : did ≠ ioDidEgrAndIac := by
        rw [hdoor]
        decide
      refine (commands_atomic_iff moveAirInletDoor_bytes (moveAirInletDoor_cases app parameter)
        (fun command => command.apply_eq_iff app) 2 _).trans ?_
      exact ⟨fun h => ⟨fun _ => h, fun heq => absurd heq hother⟩, fun h => h.1 hdoor⟩
    next hdoor =>
      split
      next hegr =>
        refine (commands_atomic_iff moveEgrIac_bytes (moveEgrIac_cases app parameter)
          (fun command => command.apply_eq_iff app) 3 _).trans ?_
        exact ⟨fun h => ⟨fun heq => absurd heq hdoor, fun _ => h⟩, fun h => h.2 hegr⟩
      next hegr =>
        exact iff_of_true (atomic_unchanged rfl)
          ⟨fun heq => absurd heq hdoor, fun heq => absurd heq hegr⟩

end Refusals

end UdsIsoTp.App
