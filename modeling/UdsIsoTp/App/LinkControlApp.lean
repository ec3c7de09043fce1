import UdsIsoTp.App.LateRoom

/-!
# Link control

`uds_link_control_app.c`: the tester names a baud rate, by a mode or in bits a second, which is
kept as the pending one, and then asks for the transition to it, which uses the verification up.
-/

namespace UdsIsoTp.App

open UdsIsoTp.Uds

/-- `UDS_LINK_CONTROL_VERIFY_FIXED` -/
def linkControlVerifyFixed : UInt8 := 0x01
/-- `UDS_LINK_CONTROL_VERIFY_SPECIFIC` -/
def linkControlVerifySpecific : UInt8 := 0x02
/-- `UDS_LINK_CONTROL_TRANSITION_MODE` -/
def linkControlTransitionMode : UInt8 := 0x03

/-- `UDS_LINK_DEFAULT_BAUDRATE` -/
def linkDefaultBaudrate : UInt32 := 500000

/-- The variables of `uds_link_control_app.c`. -/
structure UdsLinkControlApp where
  verified : Bool
  pendingBaudrate : UInt32
  activeBaudrate : UInt32

/-- `uds_link_control_app_init`, and `uds_link_control_app_reset`, which does the same. -/
def udsLinkControlAppInit : UdsLinkControlApp := ⟨false, linkDefaultBaudrate, linkDefaultBaudrate⟩

/-- `fixed_mode_to_baudrate` -/
def fixedModeToBaudrate (mode : UInt8) : Option UInt32 :=
  if mode = 0x01 then some 9600
  else if mode = 0x02 then some 19200
  else if mode = 0x03 then some 38400
  else if mode = 0x04 then some 57600
  else if mode = 0x05 then some 115200
  else if mode = 0x10 then some 125000
  else if mode = 0x11 then some 250000
  else if mode = 0x12 then some 500000
  else if mode = 0x13 then some 1000000
  else none

/-- `is_supported_specific_baudrate` -/
def isSupportedSpecificBaudrate (baudrate : UInt32) : Bool :=
  baudrate = 125000 || baudrate = 250000 || baudrate = 500000 || baudrate = 1000000

/-- The rate in the last three bytes of a request for a specific one. -/
def specificBaudrate (request : List UInt8) : UInt32 :=
  ((byteAt request 2).toUInt32 <<< 16) ||| ((byteAt request 3).toUInt32 <<< 8)
    ||| (byteAt request 4).toUInt32

section Handler

variable (app : UdsLinkControlApp) (request : List UInt8)

/-- The sub-function, without the bit that suppresses the response. -/
def linkSubfunction : UInt8 := byteAt request 1 &&& 0x7F

/-- The switch of `uds_link_control_app_handler`. -/
def moveLink : UdsCallbackResult × UdsLinkControlApp :=
  if linkSubfunction request = linkControlVerifyFixed then
    if request.length ≠ 3 then (.invalidFormat, app)
    else
      match fixedModeToBaudrate (byteAt request 2) with
      | none => (.outOfRange, app)
      | some targetBaud => (.ok, { app with pendingBaudrate := targetBaud, verified := true })
  else if linkSubfunction request = linkControlVerifySpecific then
    if request.length ≠ 5 then (.invalidFormat, app)
    else if ¬isSupportedSpecificBaudrate (specificBaudrate request) then (.outOfRange, app)
    else (.ok, { app with pendingBaudrate := specificBaudrate request, verified := true })
  else if linkSubfunction request = linkControlTransitionMode then
    if request.length ≠ 2 then (.invalidFormat, app)
    else if ¬app.verified then (.sequenceError, app)
    else (.ok, { app with activeBaudrate := app.pendingBaudrate, verified := false })
  else (.subfunctionNotSupported, app)

/-- `uds_link_control_app_handler` -/
def udsLinkControlAppHandler (capacity : UInt16) : Reply UdsLinkControlApp :=
  if request.length < 2 then ⟨.invalidFormat, [], 0, app⟩
  else answerMoved (moveLink app request) capacity 2 fun _ => [0xC7, linkSubfunction request]

end Handler

/-! ## What a request asks for -/

/-- The request names a rate that is supported. -/
inductive VerifiesRate (request : List UInt8) : UInt32 → Prop
  | fixed {baudrate : UInt32} (hsub : linkSubfunction request = linkControlVerifyFixed)
      (hlength : request.length = 3)
      (hrate : fixedModeToBaudrate (byteAt request 2) = some baudrate) :
      VerifiesRate request baudrate
  | specific (hsub : linkSubfunction request = linkControlVerifySpecific)
      (hlength : request.length = 5)
      (hrate : isSupportedSpecificBaudrate (specificBaudrate request) = true) :
      VerifiesRate request (specificBaudrate request)

/-- The request asks for the transition. -/
def AsksTransition (request : List UInt8) : Prop :=
  linkSubfunction request = linkControlTransitionMode ∧ request.length = 2

/-- There is room for the response, or the rate is verified already, or there is none for the
transition. -/
def LinkRoom (app : UdsLinkControlApp) (request : List UInt8) (capacity : UInt16) : Prop :=
  2 ≤ capacity ∨
    (∀ baudrate, VerifiesRate request baudrate →
      app.verified = true ∧ app.pendingBaudrate = baudrate) ∧
    (AsksTransition request → app.verified = false)

section Link

variable {app : UdsLinkControlApp} {request : List UInt8} {capacity : UInt16}

/-- The ways the switch can end. -/
inductive LinkMoved (app : UdsLinkControlApp) (request : List UInt8)
    (moved : UdsCallbackResult × UdsLinkControlApp) : Prop
  | refused (result : moved.1 ≠ .ok) (same : moved.2 = app)
      (rates : ∀ baudrate, ¬VerifiesRate request baudrate)
      (transition : AsksTransition request → app.verified = false)
  | pending (baudrate : UInt32) (asked : VerifiesRate request baudrate)
      (moves : moved = (.ok, { app with pendingBaudrate := baudrate, verified := true }))
  | switched (asked : AsksTransition request) (verified : app.verified = true)
      (moves : moved = (.ok, { app with activeBaudrate := app.pendingBaudrate, verified := false }))

theorem verifiesRate_fixed (hsub : linkSubfunction request = linkControlVerifyFixed)
    (baudrate : UInt32) : VerifiesRate request baudrate ↔
      request.length = 3 ∧ fixedModeToBaudrate (byteAt request 2) = some baudrate := by
  constructor
  · intro h
    cases h with
    | fixed _ hlength hrate => exact ⟨hlength, hrate⟩
    | specific hother _ _ => exact absurd (hsub.symm.trans hother) (by decide)
  · intro h
    exact .fixed hsub h.1 h.2

theorem verifiesRate_specific (hsub : linkSubfunction request = linkControlVerifySpecific)
    (baudrate : UInt32) : VerifiesRate request baudrate ↔ request.length = 5 ∧
      isSupportedSpecificBaudrate (specificBaudrate request) = true ∧
        specificBaudrate request = baudrate := by
  constructor
  · intro h
    cases h with
    | fixed hother _ _ => exact absurd (hsub.symm.trans hother) (by decide)
    | specific _ hlength hrate => exact ⟨hlength, hrate, rfl⟩
  · rintro ⟨hlength, hrate, rfl⟩
    exact .specific hsub hlength hrate

theorem VerifiesRate.subfunction {baudrate : UInt32} (h : VerifiesRate request baudrate) :
    linkSubfunction request = linkControlVerifyFixed ∨
      linkSubfunction request = linkControlVerifySpecific := by
  cases h with
  | fixed hsub _ _ => exact .inl hsub
  | specific hsub _ _ => exact .inr hsub

theorem VerifiesRate.unique {baudrate other : UInt32} (h : VerifiesRate request baudrate)
    (h' : VerifiesRate request other) : other = baudrate := by
  rcases h.subfunction with hsub | hsub
  · rw [verifiesRate_fixed hsub] at h h'
    exact Option.some.inj (h'.2.symm.trans h.2)
  · rw [verifiesRate_specific hsub] at h h'
    exact h'.2.2.symm.trans h.2.2

theorem VerifiesRate.not_transition {baudrate : UInt32} (h : VerifiesRate request baudrate) :
    ¬AsksTransition request := by
  rintro ⟨hsub', -⟩
  rcases h.subfunction with hsub | hsub
  · exact absurd (hsub.symm.trans hsub') (by decide)
  · exact absurd (hsub.symm.trans hsub') (by decide)

theorem moveLink_moved (app : UdsLinkControlApp) (request : List UInt8) :
    LinkMoved app request (moveLink app request) := by
  unfold moveLink
  -- The cases are the subfunctions; a request is never two of them at once.
  split
  next hsub =>
    have hother : AsksTransition request → app.verified = false := fun h =>
      absurd (hsub.symm.trans h.1) (by decide)
    split
    next hlength =>
      refine .refused UdsCallbackResult.noConfusion rfl (fun baudrate h => ?_) hother
      exact hlength ((verifiesRate_fixed hsub baudrate).mp h).1
    next hlength =>
      split
      next hnone =>
        refine .refused UdsCallbackResult.noConfusion rfl (fun baudrate h => ?_) hother
        have hrate := ((verifiesRate_fixed hsub baudrate).mp h).2
        exact Option.some_ne_none _ (hrate.symm.trans hnone)
      next baudrate hrate => exact .pending baudrate (.fixed hsub (not_not.mp hlength) hrate) rfl
  next hnotFixed =>
    split
    next hsub =>
      have hother : AsksTransition request → app.verified = false := fun h =>
        absurd (hsub.symm.trans h.1) (by decide)
      split
      next hlength =>
        refine .refused UdsCallbackResult.noConfusion rfl (fun baudrate h => ?_) hother
        exact hlength ((verifiesRate_specific hsub baudrate).mp h).1
      next hlength =>
        split
        next hrate =>
          refine .refused UdsCallbackResult.noConfusion rfl (fun baudrate h => ?_) hother
          exact hrate ((verifiesRate_specific hsub baudrate).mp h).2.1
        next hrate =>
          exact .pending _ (.specific hsub (not_not.mp hlength) (not_not.mp hrate)) rfl
    next hnotSpecific =>
      have hrates : ∀ baudrate, ¬VerifiesRate request baudrate := by
        intro baudrate h
        rcases h.subfunction with hfixed | hspecific
        · exact hnotFixed hfixed
        · exact hnotSpecific hspecific
      split
      next hsub =>
        split
        next hlength =>
          exact .refused UdsCallbackResult.noConfusion rfl hrates fun h => absurd h.2 hlength
        next hlength =>
          split
          next hverified =>
            exact .refused UdsCallbackResult.noConfusion rfl hrates fun _ =>
              Bool.eq_false_of_not_eq_true hverified
          next hverified => exact .switched ⟨hsub, not_not.mp hlength⟩ (not_not.mp hverified) rfl
      next hsub =>
        exact .refused UdsCallbackResult.noConfusion rfl hrates fun h => absurd h.1 hsub

/-- A refusal has changed no rate exactly if there is room, or nothing to be changed. -/
theorem udsLinkControlAppHandler_atomic_iff :
    Atomic app (udsLinkControlAppHandler app request capacity) ↔ LinkRoom app request capacity := by
  unfold udsLinkControlAppHandler LinkRoom
  split
  next hempty =>
    refine iff_of_true (atomic_unchanged rfl) (.inr ⟨fun baudrate h => ?_, fun h => ?_⟩)
    · cases h <;> omega
    · have htwo := h.2
      omega
  next =>
    cases moveLink_moved app request with
    | refused result same rates transition =>
      rw [answerMoved_atomic_iff (fun _ => same)]
      exact iff_of_true (fun hok => absurd hok result)
        (.inr ⟨fun baudrate h => absurd h (rates baudrate), transition⟩)
    | pending baudrate asked moves =>
      rw [moves, answerMoved_atomic_iff (fun h => absurd rfl h)]
      have hsame : ({ app with pendingBaudrate := baudrate, verified := true } = app) ↔
          app.verified = true ∧ app.pendingBaudrate = baudrate := by
        cases app
        simp [eq_comm]
      constructor
      · intro h
        refine (h rfl).imp_right fun heq => ⟨fun other hother => ?_, fun htransition =>
          absurd htransition asked.not_transition⟩
        rw [asked.unique hother]
        exact hsame.mp heq
      · intro h _
        exact h.imp_right fun hrate => hsame.mpr (hrate.1 baudrate asked)
    | switched asked verified moves =>
      rw [moves, answerMoved_atomic_iff (fun h => absurd rfl h)]
      constructor
      · intro h
        refine (h rfl).imp_right fun heq => ?_
        -- the transition uses the verification up
        have hused := congrArg UdsLinkControlApp.verified heq
        exact absurd (verified.symm.trans hused.symm) Bool.true_eq_false_eq_False
      · intro h _
        refine h.imp_right fun hnone => ?_
        exact absurd (verified.symm.trans (hnone.2 asked)) Bool.true_eq_false_eq_False

end Link

end UdsIsoTp.App
