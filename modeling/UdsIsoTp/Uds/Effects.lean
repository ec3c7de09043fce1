import Mathlib.Tactic.SplitIfs
import UdsIsoTp.Uds.Server

/-!
# What a request can do to the server

Most handlers leave the server alone and touch the world only through one callback
each. The rest change a few fields, each in one way. `Handled` lists these ways;
`handleAddressed_cases` says that there is no other, so that an invariant over the
server is a case split over `Handled` and never a walk through fourteen handlers.

The world is seen through a projection `proj` that no callback disturbs, the ECU reset
excepted when it is accepted: `Unseen` is that assumption.
-/

namespace UdsIsoTp.Uds

variable {ω β : Type} {proj : ω → β}

/-! ## Callbacks that a projection does not see -/

/-- `proj` is the same after every callback of the server but those of SecurityAccess, and but
for an accepted reset. -/
structure UnseenServices (proj : ω → β) (callbacks : UdsCallbacks ω)
    (persistFn : Option (ω → UInt8 → UInt32 → Bool × ω)) : Prop where
  readDid : ∀ f ∈ callbacks.readDid, ∀ w did n, proj (f w did n).world = proj w
  writeDid : ∀ f ∈ callbacks.writeDid, ∀ w did data, proj (f w did data).2 = proj w
  readDtc : ∀ f ∈ callbacks.readDtc, ∀ w sub data n, proj (f w sub data n).world = proj w
  dtcBackend : ∀ b ∈ callbacks.dtcBackend, ∀ f ∈ b.report, ∀ w sub data n,
    proj (f w sub data n).world = proj w
  communicationControl : ∀ f ∈ callbacks.communicationControl, ∀ w sub kind,
    proj (f w sub kind).2 = proj w
  ioControl : ∀ f ∈ callbacks.ioControl, ∀ w did data n, proj (f w did data n).world = proj w
  routineControl : ∀ f ∈ callbacks.routineControl, ∀ w sub id data n,
    proj (f w sub id data n).world = proj w
  requestDownload : ∀ f ∈ callbacks.requestDownload, ∀ w address length,
    proj (f w address length).2.2 = proj w
  transferData : ∀ f ∈ callbacks.transferData, ∀ w block data, proj (f w block data).2 = proj w
  requestTransferExit : ∀ f ∈ callbacks.requestTransferExit, ∀ w data n,
    proj (f w data n).world = proj w
  ecuReset : ∀ f ∈ callbacks.ecuReset, ∀ w sub, (f w sub).1 ≠ .ok → proj (f w sub).2 = proj w
  controlDtcSetting : ∀ f ∈ callbacks.controlDtcSetting, ∀ w sub, proj (f w sub).2 = proj w
  clearDtc : ∀ f ∈ callbacks.clearDtc, ∀ w group, proj (f w group).2 = proj w
  preflight : ∀ sid request w,
    proj (udsServiceBackendsPreflight callbacks.serviceBackends sid request w).2 = proj w
  backend : ∀ sid, ∀ f ∈ udsServiceBackendsHandler callbacks.serviceBackends sid,
    ∀ w request n, proj (f w request n).world = proj w
  persist : ∀ f ∈ persistFn, ∀ w attempts remaining, proj (f w attempts remaining).2 = proj w

/-- `proj` is the same after every callback of the server, but for an accepted reset. -/
structure Unseen (proj : ω → β) (callbacks : UdsCallbacks ω)
    (persistFn : Option (ω → UInt8 → UInt32 → Bool × ω)) : Prop
    extends UnseenServices proj callbacks persistFn where
  securitySeed : ∀ f ∈ callbacks.securitySeed, ∀ w level n, proj (f w level n).world = proj w
  securityKey : ∀ f ∈ callbacks.securityKey, ∀ w level data, proj (f w level data).2 = proj w

/-- The callbacks but those of a download. -/
def UdsCallbacks.withoutDownloads (callbacks : UdsCallbacks ω) : UdsCallbacks ω :=
  { callbacks with requestDownload := none, transferData := none, requestTransferExit := none }

theorem UnseenServices.withoutDownloads {callbacks : UdsCallbacks ω}
    {persistFn : Option (ω → UInt8 → UInt32 → Bool × ω)}
    (h : UnseenServices proj callbacks persistFn) :
    UnseenServices proj callbacks.withoutDownloads persistFn :=
  { h with
    requestDownload := fun f hf => absurd hf (Option.not_mem_none f)
    transferData := fun f hf => absurd hf (Option.not_mem_none f)
    requestTransferExit := fun f hf => absurd hf (Option.not_mem_none f) }

theorem Unseen.withoutDownloads {callbacks : UdsCallbacks ω}
    {persistFn : Option (ω → UInt8 → UInt32 → Bool × ω)} (h : Unseen proj callbacks persistFn) :
    Unseen proj callbacks.withoutDownloads persistFn :=
  ⟨h.toUnseenServices.withoutDownloads, h.securitySeed, h.securityKey⟩

/-- What is read off an unseen projection is unseen. -/
theorem UnseenServices.comp {γ : Type} {callbacks : UdsCallbacks ω}
    {persistFn : Option (ω → UInt8 → UInt32 → Bool × ω)} (g : β → γ)
    (h : UnseenServices proj callbacks persistFn) :
    UnseenServices (fun w => g (proj w)) callbacks persistFn where
  readDid f hf w did n := congrArg g (h.readDid f hf w did n)
  writeDid f hf w did data := congrArg g (h.writeDid f hf w did data)
  readDtc f hf w sub data n := congrArg g (h.readDtc f hf w sub data n)
  dtcBackend b hb f hf w sub data n := congrArg g (h.dtcBackend b hb f hf w sub data n)
  communicationControl f hf w sub kind := congrArg g (h.communicationControl f hf w sub kind)
  ioControl f hf w did data n := congrArg g (h.ioControl f hf w did data n)
  routineControl f hf w sub id data n := congrArg g (h.routineControl f hf w sub id data n)
  requestDownload f hf w address length := congrArg g (h.requestDownload f hf w address length)
  transferData f hf w block data := congrArg g (h.transferData f hf w block data)
  requestTransferExit f hf w data n := congrArg g (h.requestTransferExit f hf w data n)
  ecuReset f hf w sub hrefused := congrArg g (h.ecuReset f hf w sub hrefused)
  controlDtcSetting f hf w sub := congrArg g (h.controlDtcSetting f hf w sub)
  clearDtc f hf w group := congrArg g (h.clearDtc f hf w group)
  preflight sid request w := congrArg g (h.preflight sid request w)
  backend sid f hf w request n := congrArg g (h.backend sid f hf w request n)
  persist f hf w attempts remaining := congrArg g (h.persist f hf w attempts remaining)

theorem Unseen.comp {γ : Type} {callbacks : UdsCallbacks ω}
    {persistFn : Option (ω → UInt8 → UInt32 → Bool × ω)} (g : β → γ)
    (h : Unseen proj callbacks persistFn) : Unseen (fun w => g (proj w)) callbacks persistFn :=
  ⟨h.toUnseenServices.comp g, fun f hf w level n => congrArg g (h.securitySeed f hf w level n),
    fun f hf w level data => congrArg g (h.securityKey f hf w level data)⟩

/-- The projection that sees nothing. -/
theorem unseen_blind (callbacks : UdsCallbacks ω)
    (persistFn : Option (ω → UInt8 → UInt32 → Bool × ω)) :
    Unseen (fun _ : ω => ()) callbacks persistFn := by
  refine ⟨?_, ?_, ?_⟩
  · constructor <;> intros <;> rfl
  · intros
    rfl
  · intros
    rfl

/-! ## The security gate -/

section Gate

variable {gate : UdsSecurityGate ω}

@[simp] theorem gateInvalidateSeed_persistFn :
    (gateInvalidateSeed gate).persistFn = gate.persistFn := rfl

@[simp] theorem gateResetSession_persistFn :
    (gateResetSession gate).persistFn = gate.persistFn := rfl

theorem gatePersist_unseen
    (h : ∀ f ∈ gate.persistFn, ∀ w attempts remaining, proj (f w attempts remaining).2 = proj w)
    (attempts : UInt8) (remaining : UInt32) (w : ω) :
    proj (gatePersist gate attempts remaining w).2 = proj w := by
  unfold gatePersist
  split
  next f hf => exact h f hf w attempts remaining
  next => rfl

/-- A lockout that ends changes neither the level nor the seed. -/
theorem gateTickLockout_fields (gate : UdsSecurityGate ω) (now : UInt32) (w : ω) :
    (gateTickLockout gate now w).1.persistFn = gate.persistFn ∧
      (gateTickLockout gate now w).1.activeLevel = gate.activeLevel ∧
      (gateTickLockout gate now w).1.seedValid = gate.seedValid := by
  unfold gateTickLockout
  dsimp only
  split_ifs <;> exact ⟨rfl, rfl, rfl⟩

/-- The tick keeps the level, and a seed it leaves valid was valid before. -/
theorem gateTick_fields (gate : UdsSecurityGate ω) (now : UInt32) (w : ω) :
    (gateTick gate now w).1.persistFn = gate.persistFn ∧
      (gateTick gate now w).1.activeLevel = gate.activeLevel ∧
      ((gateTick gate now w).1.seedValid = true → gate.seedValid = true) := by
  unfold gateTick
  dsimp only
  split_ifs <;> simp [gateTickLockout_fields, gateInvalidateSeed]

theorem gateTickLockout_unseen
    (h : ∀ f ∈ gate.persistFn, ∀ w attempts remaining, proj (f w attempts remaining).2 = proj w)
    (now : UInt32) (w : ω) : proj (gateTickLockout gate now w).2 = proj w := by
  unfold gateTickLockout
  dsimp only
  split_ifs <;> first | exact gatePersist_unseen h .. | rfl

theorem gateTick_unseen
    (h : ∀ f ∈ gate.persistFn, ∀ w attempts remaining, proj (f w attempts remaining).2 = proj w)
    (now : UInt32) (w : ω) : proj (gateTick gate now w).2 = proj w := by
  unfold gateTick
  dsimp only
  split_ifs <;>
    · apply gateTickLockout_unseen
      exact h

theorem gateRecordFailure_persistFn (now : UInt32) (w : ω) :
    (gateRecordFailure gate now w).1.persistFn = gate.persistFn := by
  unfold gateRecordFailure
  dsimp only
  split_ifs <;> rfl

theorem gateRecordFailure_unseen
    (h : ∀ f ∈ gate.persistFn, ∀ w attempts remaining, proj (f w attempts remaining).2 = proj w)
    (now : UInt32) (w : ω) : proj (gateRecordFailure gate now w).2 = proj w := by
  unfold gateRecordFailure
  dsimp only
  split_ifs <;> exact gatePersist_unseen h ..

theorem gateRecordSuccess_unseen
    (h : ∀ f ∈ gate.persistFn, ∀ w attempts remaining, proj (f w attempts remaining).2 = proj w)
    (level : UInt8) (w : ω) : proj (gateRecordSuccess gate level w).2 = proj w :=
  gatePersist_unseen h ..

end Gate

/-! ## Responses -/

section Responses

variable (x : Exchange ω) (request : List UInt8) (capacity : UInt16)

@[simp] theorem negativeResponse_server (nrc : UInt8) :
    (negativeResponse x request nrc capacity).2.server = x.server := by
  unfold negativeResponse
  split_ifs <;> rfl

@[simp] theorem negativeResponse_world (nrc : UInt8) :
    (negativeResponse x request nrc capacity).2.world = x.world := by
  unfold negativeResponse
  split_ifs <;> rfl

@[simp] theorem callbackResult_server (result : UdsCallbackResult) :
    (callbackResult x result request capacity).2.server = x.server := by
  unfold callbackResult
  split_ifs <;> simp

@[simp] theorem callbackResult_world (result : UdsCallbackResult) :
    (callbackResult x result request capacity).2.world = x.world := by
  unfold callbackResult
  split_ifs <;> simp

end Responses

/-! ## What a handler does -/

/-- The server after a handler, and what `proj` sees of the world. -/
inductive Handled (proj : ω → β) (x : Exchange ω) (request : List UInt8) (capacity : UInt16)
    (now : UInt32) : Served ω → Prop
  /-- Nothing. -/
  | quiet {out : Served ω} (server : out.2.server = x.server)
      (world : proj out.2.world = proj x.world) : Handled proj x request capacity now out
  /-- A change of session. -/
  | session {out : Served ω} (requested : UInt8)
      (ok : (udsServerRequestSession x.server requested now x.world).1 = .ok)
      (server : out.2.server = (udsServerRequestSession x.server requested now x.world).2.1)
      (world : proj out.2.world = proj x.world) : Handled proj x request capacity now out
  /-- A reset that the callback accepted and that is now pending. -/
  | reset {out : Served ω} (b : UInt8) (f : ω → UInt8 → UdsCallbackResult × ω)
      (callback : x.server.callbacks.ecuReset = some f) (request_eq : request = [0x11, b])
      (range : ¬(b &&& 0x7F < resetTypeHard ∨
        resetTypeDisableRapidPowerShutdown < b &&& 0x7F))
      (ok : (f x.world (b &&& 0x7F)).1 = .ok)
      (server : out.2.server = acceptReset x.server (b &&& 0x7F))
      (world : out.2.world = (f x.world (b &&& 0x7F)).2)
      (answer : (b &&& suppressPositiveResponse ≠ 0 ∧ out.1 = .noResponse) ∨
        (b &&& suppressPositiveResponse = 0 ∧ out.1 = .ok ∧
          (out.2.responseLen = 2 ∨ out.2.responseLen = 3) ∧
          out.2.response 0 = 0x51 ∧ out.2.response 1 = b &&& 0x7F)) :
      Handled proj x request capacity now out
  /-- A reset that the callback accepted and that was then dropped for want of room. -/
  | dropped {out : Served ω} (b : UInt8) (f : ω → UInt8 → UdsCallbackResult × ω)
      (callback : x.server.callbacks.ecuReset = some f)
      (room : capacity < 3) (server : out.2.server = x.server)
      (ok : (f x.world (b &&& 0x7F)).1 = .ok)
      (world : out.2.world = (f x.world (b &&& 0x7F)).2) :
      Handled proj x request capacity now out
  /-- The gate's own tick. -/
  | ticked {out : Served ω}
      (server : out.2.server =
        { x.server with securityGate := (gateTick x.server.securityGate now x.world).1 })
      (world : proj out.2.world = proj x.world) (sid : byteAt request 0 = 0x27) :
      Handled proj x request capacity now out
  /-- A seed or a key, which only two sessions allow. -/
  | access {out : Served ω} (gate : UdsSecurityGate ω)
      (session : securitySessionAllowed x.server.session)
      (persist : gate.persistFn = x.server.securityGate.persistFn)
      (server : out.2.server = { x.server with securityGate := gate })
      (world : proj out.2.world = proj x.world) (sid : byteAt request 0 = 0x27) :
      Handled proj x request capacity now out
  | dtcSetting {out : Served ω} (enabled : Bool)
      (server : out.2.server = { x.server with dtcSettingEnabled := enabled })
      (world : proj out.2.world = proj x.world) : Handled proj x request capacity now out
  | download {out : Served ω} (maxBlockLength : UInt16) (sid : byteAt request 0 = 0x34)
      (length : 3 ≤ maxBlockLength)
      (server : out.2.server =
        { x.server with
          downloadActive := true
          nextDownloadBlock := 1
          maxDownloadBlockLength := maxBlockLength })
      (world : proj out.2.world = proj x.world) : Handled proj x request capacity now out
  | block {out : Served ω} (sid : byteAt request 0 = 0x36)
      (server : out.2.server =
        { x.server with nextDownloadBlock := x.server.nextDownloadBlock + 1 })
      (world : proj out.2.world = proj x.world) : Handled proj x request capacity now out
  | exit {out : Served ω} (sid : byteAt request 0 = 0x37)
      (server : out.2.server = { x.server with downloadActive := false })
      (world : proj out.2.world = proj x.world) : Handled proj x request capacity now out

/-- An exchange in which at most the gate has changed. -/
def GateOnly (proj : ω → β) (x : Exchange ω) (out : Served ω) : Prop :=
  ∃ gate, gate.persistFn = x.server.securityGate.persistFn ∧
    out.2.server = { x.server with securityGate := gate } ∧ proj out.2.world = proj x.world

section Handlers

variable {x : Exchange ω} {request : List UInt8} {capacity : UInt16} {now : UInt32}

theorem handled_negative (nrc : UInt8) :
    Handled proj x request capacity now (negativeResponse x request nrc capacity) :=
  .quiet (by simp) (by simp)

theorem udsServerRequestSession_refused {server : UdsServer ω} {requested : UInt8} {w : ω}
    (h : (udsServerRequestSession server requested now w).1 ≠ .ok) :
    (udsServerRequestSession server requested now w).2 = (server, w) := by
  unfold udsServerRequestSession at h ⊢
  split
  next => rfl
  next hsup =>
    split
    next => rfl
    next hallowed =>
      rw [if_neg hsup, if_neg hallowed] at h
      exact absurd rfl h

theorem udsServerRequestSession_unseen {server : UdsServer ω} {callbacks : UdsCallbacks ω}
    (hu : UnseenServices proj callbacks server.securityGate.persistFn) (requested : UInt8)
    (now : UInt32) (w : ω) :
    proj (udsServerRequestSession server requested now w).2.2 = proj w := by
  unfold udsServerRequestSession
  split
  next => rfl
  next =>
    split
    next => rfl
    next => exact gateTick_unseen hu.persist ..

variable (hu : UnseenServices proj x.server.callbacks.withoutDownloads
  x.server.securityGate.persistFn)
include hu

theorem serviceSessionControl_handled :
    Handled proj x request capacity now (serviceSessionControl x request capacity now) := by
  unfold serviceSessionControl
  dsimp only
  have hw := udsServerRequestSession_unseen hu (byteAt request 1 &&& 0x7F) now x.world
  split_ifs with hlen hsup hres hspr hcap
  · exact handled_negative ..
  · have hsame := udsServerRequestSession_refused hres
    exact .quiet (by simp [hsame]) (by simp [hsame])
  · exact .session _ (not_not.mp hres) rfl hw
  · exact .session _ (not_not.mp hres) (by simp) (by simpa using hw)
  · exact .session _ (not_not.mp hres) rfl hw
  · exact handled_negative ..

theorem serviceEcuReset_handled (hsid : byteAt request 0 = 0x11) :
    Handled proj x request capacity now (serviceEcuReset x request capacity) := by
  unfold serviceEcuReset
  split
  next => exact handled_negative ..
  next hlen =>
    have hreq : request = [0x11, byteAt request 1] := by
      match request, hlen, hsid with
      | [a, b], _, hsid => exact congrArg (fun c => [c, b]) hsid
      | [], hlen, _ | [_], hlen, _ | _ :: _ :: _ :: _, hlen, _ => simp at hlen
    dsimp only
    split
    next => exact handled_negative ..
    next f hf =>
      split_ifs with hrange hres hspr hrapid hcap₃ hcap₂
      · exact handled_negative ..
      · exact .quiet (by simp) (by simpa using hu.ecuReset f hf _ _ hres)
      · exact .reset _ f hf hreq hrange (not_not.mp hres) rfl rfl (.inl ⟨hspr, rfl⟩)
      · exact .dropped _ f hf hcap₃ (by simp) (not_not.mp hres) (by simp)
      · exact .reset _ f hf hreq hrange (not_not.mp hres) rfl rfl
          (.inr ⟨not_not.mp hspr, rfl, .inr rfl, by simp [Buf.write_apply], by
            simp [Buf.write_apply]⟩)
      · exact .dropped _ f hf (by
          rw [UInt16.lt_iff_toNat_lt] at *
          exact Nat.lt_of_lt_of_le hcap₂ (by decide)) (by simp) (not_not.mp hres) (by simp)
      · exact .reset _ f hf hreq hrange (not_not.mp hres) rfl rfl
          (.inr ⟨not_not.mp hspr, rfl, .inl rfl, by simp [Buf.write_apply], by simp⟩)

theorem serviceClearDtc_handled :
    Handled proj x request capacity now (serviceClearDtc x request capacity) := by
  unfold serviceClearDtc
  split
  next => exact handled_negative ..
  next =>
    split
    next => exact handled_negative ..
    next f hf =>
      have hw := hu.clearDtc f hf x.world (readBeU32 request 1 3)
      dsimp only
      split_ifs <;> exact .quiet (by simp) (by simp [hw])

omit hu in
theorem finishReadDtc_handled {y : Exchange ω} {reply : Reply ω} (hs : y.server = x.server)
    (hw : proj reply.world = proj x.world) :
    Handled proj x request capacity now (finishReadDtc y reply request capacity) := by
  unfold finishReadDtc
  dsimp only
  split_ifs <;> exact .quiet (by simp [hs]) (by simpa using hw)

theorem serviceReadDtc_handled :
    Handled proj x request capacity now (serviceReadDtc x request capacity) := by
  unfold serviceReadDtc
  dsimp only
  split
  next => exact handled_negative ..
  next =>
    split
    next => exact handled_negative ..
    next =>
      split
      next => exact handled_negative ..
      next =>
        split
        next => exact handled_negative ..
        next =>
          split
          next => exact handled_negative ..
          next =>
            split
            next backend hb =>
              split
              next => exact .quiet (by simp) (by simp)
              next =>
                split
                next => exact .quiet (by simp) (by simp)
                next f hf => exact finishReadDtc_handled rfl (hu.dtcBackend _ hb f hf ..)
            next =>
              split
              next => exact .quiet (by simp) (by simp)
              next f hf => exact finishReadDtc_handled rfl (hu.readDtc f hf ..)

theorem serviceDtcSetting_handled :
    Handled proj x request capacity now (serviceDtcSetting x request capacity) := by
  unfold serviceDtcSetting
  split
  next => exact handled_negative ..
  next f hf =>
    have hw := hu.controlDtcSetting f hf x.world (byteAt request 1 &&& 0x7F)
    dsimp only
    split_ifs with hlen hsub hres hspr hcap
    · exact handled_negative ..
    · exact handled_negative ..
    · exact .quiet (by simp) (by simpa using hw)
    · exact .dtcSetting (byteAt request 1 &&& 0x7F == 0x01) rfl hw
    · exact .dtcSetting (byteAt request 1 &&& 0x7F == 0x01) (by simp) (by simpa using hw)
    · exact .dtcSetting (byteAt request 1 &&& 0x7F == 0x01) rfl hw

omit hu in
/-- The loop over the identifiers: each round is one call of the callback. -/
theorem readDids_quiet {readDid : ω → UInt16 → UInt16 → Reply ω}
    (hr : ∀ w did n, proj (readDid w did n).world = proj w) (request dids : List UInt8)
    (capacity : UInt16) (y : Exchange ω) :
    (readDids readDid request capacity dids y).2.server = y.server ∧
      proj (readDids readDid request capacity dids y).2.world = proj y.world := by
  induction dids, y using readDids.induct readDid capacity with
  | case1 high low rest y hroom =>
    rw [readDids, if_pos hroom]
    simp
  | case2 high low rest y hroom at_ response z did reply hres =>
    rw [readDids, if_neg hroom, if_pos hres]
    exact ⟨by simp, by simp [hr]⟩
  | case3 high low rest y hroom at_ response z did reply z' hres hlen =>
    rw [readDids, if_neg hroom, if_neg hres, if_pos hlen]
    exact ⟨by simp, by simp [hr]⟩
  | case4 high low rest y hroom at_ response z did reply z' hres hlen ih =>
    rw [readDids, if_neg hroom, if_neg hres, if_neg hlen]
    exact ⟨ih.1, ih.2.trans (hr ..)⟩
  | case5 dids y hshort =>
    rw [readDids]
    · exact ⟨rfl, rfl⟩
    · exact hshort

theorem serviceReadData_handled :
    Handled proj x request capacity now (serviceReadData x request capacity) := by
  unfold serviceReadData
  split
  next => exact handled_negative ..
  next f hf =>
    split
    next => exact handled_negative ..
    next =>
      have hq := readDids_quiet (hu.readDid f hf) request (request.drop 1) capacity
        { x with response := x.response.write 0 0x62, responseLen := 1 }
      exact .quiet hq.1 hq.2

theorem serviceWriteData_handled :
    Handled proj x request capacity now (serviceWriteData x request capacity) := by
  unfold serviceWriteData
  split
  next => exact handled_negative ..
  next =>
    split
    next => exact handled_negative ..
    next f hf =>
      have hw := hu.writeDid f hf x.world (readU16 request 1) (request.drop 3)
      dsimp only
      split_ifs <;> exact .quiet (by simp) (by simp [hw])

omit hu in
theorem GateOnly.handled {y : Exchange ω} {out : Served ω} {gate : UdsSecurityGate ω}
    (h : GateOnly proj y out) (hsession : securitySessionAllowed x.server.session)
    (hy : y.server = { x.server with securityGate := gate })
    (hpersist : gate.persistFn = x.server.securityGate.persistFn)
    (hw : proj y.world = proj x.world) (hsid : byteAt request 0 = 0x27) :
    Handled proj x request capacity now out := by
  obtain ⟨gate', hpersist', hserver, hworld⟩ := h
  rw [hy] at hserver hpersist'
  exact .access gate' hsession (hpersist'.trans hpersist) hserver (hworld.trans hw) hsid

omit hu in
theorem serviceSecuritySeed_gate {securitySeed : ω → UInt8 → UInt16 → Reply ω}
    (hs : ∀ w level n, proj (securitySeed w level n).world = proj w) (subfunction level : UInt8) :
    GateOnly proj x
      (serviceSecuritySeed securitySeed x request capacity subfunction level now) := by
  unfold serviceSecuritySeed
  generalize (if 2 < capacity then capacity - 2 else 0) = room
  dsimp only
  split_ifs
  · exact ⟨x.server.securityGate, rfl, by simp, by simp⟩
  · exact ⟨x.server.securityGate, rfl, by simp, by simp [hs]⟩
  · exact ⟨x.server.securityGate, rfl, by simp, by simp [hs]⟩
  · exact ⟨x.server.securityGate, rfl, rfl, hs ..⟩
  · exact ⟨gateGrantSeed x.server.securityGate level now, rfl, rfl, hs ..⟩

theorem serviceSecurityKey_gate {securityKey : ω → UInt8 → List UInt8 → UdsCallbackResult × ω}
    (hk : ∀ w level data, proj (securityKey w level data).2 = proj w)
    (subfunction level : UInt8) :
    GateOnly proj x
      (serviceSecurityKey securityKey x request capacity subfunction level now) := by
  unfold serviceSecurityKey
  dsimp only
  have hw := hk x.world level (request.drop 2)
  have hfail := (gateRecordFailure_unseen hu.persist now
    (securityKey x.world level (request.drop 2)).2).trans hw
  have hpass := (gateRecordSuccess_unseen hu.persist level
    (securityKey x.world level (request.drop 2)).2).trans hw
  split_ifs
  · exact ⟨x.server.securityGate, rfl, by simp, by simp⟩
  · exact ⟨_, gateRecordFailure_persistFn .., negativeResponse_server .., by simpa using hfail⟩
  · exact ⟨_, gateRecordFailure_persistFn .., negativeResponse_server .., by simpa using hfail⟩
  · exact ⟨x.server.securityGate, rfl, by simp, by simpa using hw⟩
  · exact ⟨(gateRecordSuccess x.server.securityGate level _).1, rfl, rfl, hpass⟩
  · exact ⟨(gateRecordSuccess x.server.securityGate level _).1, rfl,
      negativeResponse_server .., by simpa using hpass⟩
  · exact ⟨(gateRecordSuccess x.server.securityGate level _).1, rfl, rfl, hpass⟩

omit hu in
theorem serviceSecurityAccess_handled
    (hu : Unseen proj x.server.callbacks.withoutDownloads x.server.securityGate.persistFn)
    (hsid : byteAt request 0 = 0x27) :
    Handled proj x request capacity now (serviceSecurityAccess x request capacity now) := by
  unfold serviceSecurityAccess
  split
  next => exact handled_negative ..
  next =>
    split
    next seed key hseed hkey =>
      have hw := gateTick_unseen hu.persist now x.world
      have hpersist := (gateTick_fields x.server.securityGate now x.world).1
      dsimp only
      split
      next => exact .ticked (by simp) (by simpa using hw) hsid
      next hsession =>
        replace hsession := not_not.mp hsession
        split
        next => exact .ticked (by simp) (by simpa using hw) hsid
        next level isSeed hlevel =>
          split
          next => exact .ticked (by simp) (by simpa using hw) hsid
          next =>
            split
            next =>
              exact (serviceSecuritySeed_gate (hu.securitySeed seed hseed) ..).handled hsession
                rfl hpersist hw hsid
            next =>
              refine (serviceSecurityKey_gate ?_ (hu.securityKey key hkey) ..).handled hsession
                rfl hpersist hw hsid
              rw [hpersist]
              exact hu.toUnseenServices
    next => exact handled_negative ..

theorem serviceCommunicationControl_handled :
    Handled proj x request capacity now (serviceCommunicationControl x request capacity) := by
  unfold serviceCommunicationControl
  split
  next => exact handled_negative ..
  next f hf =>
    have hw := hu.communicationControl f hf x.world (byteAt request 1 &&& 0x7F) (byteAt request 2)
    dsimp only
    split_ifs <;> exact .quiet (by simp) (by simp [hw])

theorem serviceIoControl_handled :
    Handled proj x request capacity now (serviceIoControl x request capacity) := by
  unfold serviceIoControl
  split
  next => exact handled_negative ..
  next f hf =>
    generalize (if 3 < capacity then capacity - 3 else 0) = room
    have hw := hu.ioControl f hf x.world (readU16 request 1) (request.drop 3) room
    dsimp only
    split_ifs <;> exact .quiet (by simp) (by simp [hw])

theorem serviceRoutineControl_handled :
    Handled proj x request capacity now (serviceRoutineControl x request capacity) := by
  unfold serviceRoutineControl
  split
  next => exact handled_negative ..
  next f hf =>
    generalize (if 4 < capacity then capacity - 4 else 0) = room
    have hw := hu.routineControl f hf x.world (byteAt request 1 &&& 0x7F) (readU16 request 2)
      (request.drop 4) room
    dsimp only
    split_ifs <;> exact .quiet (by simp) (by simp [hw])

omit hu in
theorem serviceDownload_handled
    (hu : UnseenServices proj x.server.callbacks x.server.securityGate.persistFn)
    (hsid : byteAt request 0 = 0x34) :
    Handled proj x request capacity now (serviceDownload x request capacity) := by
  unfold serviceDownload
  split
  next => exact handled_negative ..
  next f hf =>
    have hw := hu.requestDownload f hf x.world
    dsimp only
    split_ifs with hlen hformat hres hshort
    · exact handled_negative ..
    · exact handled_negative ..
    · exact .quiet (by simp) (by simpa using hw ..)
    · exact .quiet (by simp) (by simpa using hw ..)
    · exact .download _ hsid (UInt16.not_lt.mp fun h => hshort (.inl h)) rfl (hw ..)

omit hu in
theorem serviceTransferData_handled
    (hu : UnseenServices proj x.server.callbacks x.server.securityGate.persistFn)
    (hsid : byteAt request 0 = 0x36) :
    Handled proj x request capacity now (serviceTransferData x request capacity) := by
  unfold serviceTransferData
  split
  next => exact handled_negative ..
  next f hf =>
    have hw := hu.transferData f hf x.world (byteAt request 1) (request.drop 2)
    dsimp only
    split_ifs
    · exact handled_negative ..
    · exact handled_negative ..
    · exact handled_negative ..
    · exact .quiet (by simp) (by simpa using hw)
    · exact .block hsid (by simp) (by simpa using hw)
    · exact .block hsid rfl hw

omit hu in
theorem serviceTransferExit_handled
    (hu : UnseenServices proj x.server.callbacks x.server.securityGate.persistFn)
    (hsid : byteAt request 0 = 0x37) :
    Handled proj x request capacity now (serviceTransferExit x request capacity) := by
  unfold serviceTransferExit
  split
  next => exact handled_negative ..
  next f hf =>
    split
    next => exact handled_negative ..
    next =>
      generalize (if 1 < capacity then capacity - 1 else 0) = room
      have hw := hu.requestTransferExit f hf x.world (request.drop 1) room
      dsimp only
      split_ifs
      · exact .quiet (by simp) (by simpa using hw)
      · exact .quiet (by simp) (by simpa using hw)
      · exact .exit hsid rfl hw

omit hu in
theorem serviceTesterPresent_handled :
    Handled proj x request capacity now (serviceTesterPresent x request capacity) := by
  unfold serviceTesterPresent
  split_ifs <;> exact .quiet (by simp) (by simp)

theorem serviceModularBackend_handled :
    Handled proj x request capacity now (serviceModularBackend x request capacity) := by
  unfold serviceModularBackend
  dsimp only
  have hpre : proj (udsServiceBackendsPreflight x.server.callbacks.serviceBackends
      (byteAt request 0) request x.world).2 = proj x.world := hu.preflight ..
  split
  next => exact .quiet (by simp) (by simpa using hpre)
  next =>
    split
    next => exact .quiet (by simp) (by simpa using hpre)
    next f hf =>
      have hw := (hu.backend _ f hf _ request capacity).trans hpre
      split_ifs <;> exact .quiet (by simp) (by simp [hw])

/-- Every row of the dispatch table, but for what SecurityAccess and the download services
do. -/
theorem udsDispatch_handled
    (haccess : byteAt request 0 = 0x27 →
      Handled proj x request capacity now (serviceSecurityAccess x request capacity now))
    (hdownload : byteAt request 0 = 0x34 →
      Handled proj x request capacity now (serviceDownload x request capacity))
    (hblock : byteAt request 0 = 0x36 →
      Handled proj x request capacity now (serviceTransferData x request capacity))
    (hexit : byteAt request 0 = 0x37 →
      Handled proj x request capacity now (serviceTransferExit x request capacity)) :
    Handled proj x request capacity now (udsDispatch x request capacity now) := by
  have hrows : ∀ entry ∈ serviceDispatchTable (ω := ω), entry.1 = byteAt request 0 →
      Handled proj x request capacity now (entry.2 x request capacity now) := by
    have hmodular : Handled proj x request capacity now
        (serviceModularBackend x request capacity) := serviceModularBackend_handled hu
    simp only [serviceDispatchTable, List.forall_mem_cons]
    -- The rows stand as in the table.
    exact ⟨fun _ => serviceSessionControl_handled hu,
      fun h => serviceEcuReset_handled hu h.symm,
      fun _ => serviceClearDtc_handled hu,
      fun _ => serviceReadDtc_handled hu,
      fun _ => serviceReadData_handled hu,
      fun _ => hmodular,
      fun _ => hmodular,
      fun h => haccess h.symm,
      fun _ => serviceCommunicationControl_handled hu,
      fun _ => hmodular,
      fun _ => hmodular,
      fun _ => hmodular,
      fun _ => serviceWriteData_handled hu,
      fun _ => serviceIoControl_handled hu,
      fun _ => serviceRoutineControl_handled hu,
      fun h => hdownload h.symm,
      fun _ => hmodular,
      fun h => hblock h.symm,
      fun h => hexit h.symm,
      fun _ => hmodular,
      fun _ => hmodular,
      fun _ => serviceTesterPresent_handled,
      fun _ => hmodular,
      fun _ => hmodular,
      fun _ => serviceDtcSetting_handled hu,
      fun _ => hmodular,
      fun _ => hmodular, by simp⟩
  unfold udsDispatch
  split
  next entry hfind =>
    exact hrows entry (List.mem_of_find?_eq_some hfind) (by simpa using List.find?_some hfind)
  next => exact handled_negative ..

end Handlers

/-! ## What a request does -/

/-- The exchange in which the handler of an admitted request starts. -/
def atHandler (x : Exchange ω) (mode : UdsAddressMode) (now : UInt32) : Exchange ω :=
  { x with
    server := { x.server with currentAddressMode := mode, lastActivityMs := now }
    responseLen := 0 }

/-- A request is refused outright, turned away by the attributes of its service, or admitted and
dispatched. -/
theorem handleAddressed_dispatched (x : Exchange ω) (request : List UInt8) (capacity : UInt16)
    (mode : UdsAddressMode) (now : UInt32) :
    udsServerHandleAddressed x request capacity mode now = (.error, x) ∨
      ((udsServerHandleAddressed x request capacity mode now).2.server
          = { x.server with currentAddressMode := mode } ∧
        (udsServerHandleAddressed x request capacity mode now).2.world = x.world) ∨
      (checkServiceAttributes x.server request mode = 0 ∧
        udsServerHandleAddressed x request capacity mode now
          = udsDispatch (atHandler x mode now) request capacity now) := by
  unfold udsServerHandleAddressed
  split
  next => exact .inl rfl
  next =>
    dsimp only
    split
    next => exact .inr (.inl ⟨negativeResponse_server .., negativeResponse_world ..⟩)
    next hnrc => exact .inr (.inr ⟨not_not.mp hnrc, rfl⟩)

/-- What is dispatched is handled. -/
theorem handleAddressed_cases {x : Exchange ω}
    (hu : Unseen proj x.server.callbacks x.server.securityGate.persistFn)
    (request : List UInt8) (capacity : UInt16) (mode : UdsAddressMode) (now : UInt32) :
    udsServerHandleAddressed x request capacity mode now = (.error, x) ∨
      ((udsServerHandleAddressed x request capacity mode now).2.server
          = { x.server with currentAddressMode := mode } ∧
        (udsServerHandleAddressed x request capacity mode now).2.world = x.world) ∨
      (checkServiceAttributes x.server request mode = 0 ∧
        Handled proj (atHandler x mode now) request capacity now
          (udsServerHandleAddressed x request capacity mode now)) := by
  refine (handleAddressed_dispatched x request capacity mode now).imp_right fun hserved => ?_
  refine hserved.imp_right fun hadmitted => ⟨hadmitted.1, ?_⟩
  rw [hadmitted.2]
  exact udsDispatch_handled (x := atHandler x mode now) hu.toUnseenServices.withoutDownloads
    (fun hsid => serviceSecurityAccess_handled hu.withoutDownloads hsid)
    (fun hsid => serviceDownload_handled hu.toUnseenServices hsid)
    (fun hsid => serviceTransferData_handled hu.toUnseenServices hsid)
    (fun hsid => serviceTransferExit_handled hu.toUnseenServices hsid)

/-- The row of SecurityAccess. -/
theorem udsDispatch_access {x : Exchange ω} {request : List UInt8} (capacity : UInt16)
    (now : UInt32) (hsid : byteAt request 0 = 0x27) :
    udsDispatch x request capacity now = serviceSecurityAccess x request capacity now := by
  unfold udsDispatch
  rw [hsid]
  rfl

/-- The same where the callbacks of SecurityAccess are seen: a request for it is served as it
is. -/
theorem handleAddressed_access {x : Exchange ω}
    (hu : UnseenServices proj x.server.callbacks x.server.securityGate.persistFn)
    (request : List UInt8) (capacity : UInt16) (mode : UdsAddressMode) (now : UInt32) :
    udsServerHandleAddressed x request capacity mode now = (.error, x) ∨
      ((udsServerHandleAddressed x request capacity mode now).2.server
          = { x.server with currentAddressMode := mode } ∧
        (udsServerHandleAddressed x request capacity mode now).2.world = x.world) ∨
      (checkServiceAttributes x.server request mode = 0 ∧
        (byteAt request 0 ≠ 0x27 ∧ Handled proj (atHandler x mode now) request capacity now
            (udsServerHandleAddressed x request capacity mode now) ∨
          byteAt request 0 = 0x27 ∧ udsServerHandleAddressed x request capacity mode now
            = serviceSecurityAccess (atHandler x mode now) request capacity now)) := by
  refine (handleAddressed_dispatched x request capacity mode now).imp_right fun hserved => ?_
  refine hserved.imp_right fun hadmitted => ⟨hadmitted.1, ?_⟩
  rw [hadmitted.2]
  by_cases hsid : byteAt request 0 = 0x27
  · exact .inr ⟨hsid, udsDispatch_access capacity now hsid⟩
  · refine .inl ⟨hsid, ?_⟩
    exact udsDispatch_handled (x := atHandler x mode now) hu.withoutDownloads
      (fun h => absurd h hsid) (fun h => serviceDownload_handled hu h)
      (fun h => serviceTransferData_handled hu h) (fun h => serviceTransferExit_handled hu h)

/-- The row of a service: the handler that a request for it comes to. -/
theorem udsDispatch_row (x : Exchange ω) (request : List UInt8) (capacity : UInt16) (now : UInt32) :
    (byteAt request 0 = 0x34 →
        udsDispatch x request capacity now = serviceDownload x request capacity) ∧
      (byteAt request 0 = 0x36 →
        udsDispatch x request capacity now = serviceTransferData x request capacity) ∧
      (byteAt request 0 = 0x37 →
        udsDispatch x request capacity now = serviceTransferExit x request capacity) := by
  unfold udsDispatch
  refine ⟨fun hsid => ?_, fun hsid => ?_, fun hsid => ?_⟩ <;>
  · rw [hsid]
    rfl

/-- The same where the callbacks of a download are seen: a request for one of its services is
served as it is. -/
theorem handleAddressed_downloads {x : Exchange ω}
    (hu : Unseen proj x.server.callbacks.withoutDownloads x.server.securityGate.persistFn)
    (request : List UInt8) (capacity : UInt16) (mode : UdsAddressMode) (now : UInt32) :
    udsServerHandleAddressed x request capacity mode now = (.error, x) ∨
      ((udsServerHandleAddressed x request capacity mode now).2.server
          = { x.server with currentAddressMode := mode } ∧
        (udsServerHandleAddressed x request capacity mode now).2.world = x.world) ∨
      (byteAt request 0 ≠ 0x34 ∧ byteAt request 0 ≠ 0x36 ∧ byteAt request 0 ≠ 0x37 ∧
        Handled proj (atHandler x mode now) request capacity now
          (udsServerHandleAddressed x request capacity mode now)) ∨
      udsServerHandleAddressed x request capacity mode now
        = serviceDownload (atHandler x mode now) request capacity ∨
      udsServerHandleAddressed x request capacity mode now
        = serviceTransferData (atHandler x mode now) request capacity ∨
      udsServerHandleAddressed x request capacity mode now
        = serviceTransferExit (atHandler x mode now) request capacity := by
  refine (handleAddressed_dispatched x request capacity mode now).imp_right fun hserved => ?_
  refine hserved.imp_right fun hadmitted => ?_
  rw [hadmitted.2]
  obtain ⟨hdownload, hblock, hexit⟩ := udsDispatch_row (atHandler x mode now) request capacity now
  by_cases h34 : byteAt request 0 = 0x34
  · exact .inr (.inl (hdownload h34))
  · by_cases h36 : byteAt request 0 = 0x36
    · exact .inr (.inr (.inl (hblock h36)))
    · by_cases h37 : byteAt request 0 = 0x37
      · exact .inr (.inr (.inr (hexit h37)))
      · refine .inl ⟨h34, h36, h37, ?_⟩
        exact udsDispatch_handled (x := atHandler x mode now) hu.toUnseenServices
          (fun hsid => serviceSecurityAccess_handled hu hsid) (fun h => absurd h h34)
          (fun h => absurd h h36) (fun h => absurd h h37)

/-- What a granted change of session leaves of the fields that carry privileges. -/
structure SessionChanged (server : UdsServer ω) (requested : UInt8) (after : UdsServer ω) :
    Prop where
  allowed : udsSessionTransitionAllowed server.session requested = true
  callbacks : after.callbacks = server.callbacks
  persist : after.securityGate.persistFn = server.securityGate.persistFn
  session : after.session = requested
  activeLevel : after.securityGate.activeLevel = 0
  seedValid : after.securityGate.seedValid = false
  downloadActive : after.downloadActive = false
  resetReady : after.resetReady = server.resetReady
  reset : (after.resetPending = server.resetPending ∧
      after.pendingResetSubfunction = server.pendingResetSubfunction) ∨
    (after.resetPending = true ∧ after.pendingResetSubfunction = 0)

theorem udsServerRequestSession_ok {server : UdsServer ω} {requested : UInt8} {now : UInt32}
    {w : ω} (h : (udsServerRequestSession server requested now w).1 = .ok) :
    SessionChanged server requested (udsServerRequestSession server requested now w).2.1 := by
  unfold udsServerRequestSession at h ⊢
  split at h
  next => exact UdsCallbackResult.noConfusion h
  next hsup =>
    split at h
    next => exact UdsCallbackResult.noConfusion h
    next hallowed =>
      rw [if_neg hsup, if_neg hallowed]
      have hpersist := (gateTick_fields server.securityGate now w).1
      dsimp only
      unfold sessionReset
      split
      next => exact ⟨not_not.mp hallowed, rfl, hpersist, rfl, rfl, rfl, rfl, rfl, .inr ⟨rfl, rfl⟩⟩
      next =>
        split
        next =>
          exact ⟨not_not.mp hallowed, rfl, hpersist, rfl, rfl, rfl, rfl, rfl, .inr ⟨rfl, rfl⟩⟩
        next =>
          exact ⟨not_not.mp hallowed, rfl, hpersist, rfl, rfl, rfl, rfl, rfl, .inl ⟨rfl, rfl⟩⟩

/-- A session is granted if it is known and may follow the one that the server is in. -/
theorem udsServerRequestSession_ok_iff {server : UdsServer ω} {requested : UInt8} {now : UInt32}
    {w : ω} : (udsServerRequestSession server requested now w).1 = .ok ↔
      sessionSupported requested = true ∧
        udsSessionTransitionAllowed server.session requested = true := by
  unfold udsServerRequestSession
  split
  next hunknown =>
    exact ⟨fun h => UdsCallbackResult.noConfusion h, fun h => absurd h.1 hunknown⟩
  next hknown =>
    split
    next hrefused =>
      exact ⟨fun h => UdsCallbackResult.noConfusion h, fun h => absurd h.2 hrefused⟩
    next hallowed => exact ⟨fun _ => ⟨not_not.mp hknown, not_not.mp hallowed⟩, fun _ => rfl⟩

/-- A session request that is granted clears the seed, whatever is answered to it. -/
theorem serviceSessionControl_granted {x : Exchange ω} {request : List UInt8}
    (capacity : UInt16) {now : UInt32} (hlength : request.length = 2)
    (hok : (udsServerRequestSession x.server (byteAt request 1 &&& 0x7F) now x.world).1 = .ok) :
    (serviceSessionControl x request capacity now).2.server.securityGate.seedValid = false := by
  have hseed := (udsServerRequestSession_ok hok).seedValid
  have hsupported := (udsServerRequestSession_ok_iff.mp hok).1
  unfold serviceSessionControl
  rw [if_neg (not_not.mpr hlength), if_neg (not_not.mpr hsupported)]
  dsimp only
  rw [if_neg (not_not.mpr hok)]
  split
  next => exact hseed
  next =>
    split
    next => simpa using hseed
    next => exact hseed

/-- No request changes the callbacks or where the gate is stored. -/
theorem Handled.wiring {x : Exchange ω} {request : List UInt8} {capacity : UInt16}
    {now : UInt32} {out : Served ω} (h : Handled proj x request capacity now out) :
    out.2.server.callbacks = x.server.callbacks ∧
      out.2.server.securityGate.persistFn = x.server.securityGate.persistFn := by
  cases h with
  | quiet server | dropped b f callback room server => exact server ▸ ⟨rfl, rfl⟩
  | session requested ok server =>
    have hchanged := udsServerRequestSession_ok ok
    exact ⟨server ▸ hchanged.callbacks, server ▸ hchanged.persist⟩
  | reset b f callback request_eq range ok server => exact server ▸ ⟨rfl, rfl⟩
  | ticked server =>
    rw [server]
    exact ⟨rfl, (gateTick_fields ..).1⟩
  | access gate session persist server => exact server ▸ ⟨rfl, persist⟩
  | dtcSetting enabled server => exact server ▸ ⟨rfl, rfl⟩
  | download maxBlockLength sid length server => exact server ▸ ⟨rfl, rfl⟩
  | block sid server => exact server ▸ ⟨rfl, rfl⟩
  | exit sid server => exact server ▸ ⟨rfl, rfl⟩

/-- No request makes a pending reset ready. -/
theorem Handled.resetReady {x : Exchange ω} {request : List UInt8} {capacity : UInt16}
    {now : UInt32} {out : Served ω}
    (h : Handled proj x request capacity now out) (hready : x.server.resetReady = false) :
    out.2.server.resetReady = false := by
  cases h with
  | session requested ok server =>
    rw [server]
    exact (udsServerRequestSession_ok ok).resetReady.trans hready
  | reset b f callback request_eq range ok server =>
    rw [server]
    rfl
  | quiet server | dropped b f callback room server | ticked server
  | access gate session persist server | dtcSetting enabled server
  | download maxBlockLength sid length server | block sid server | exit sid server =>
    rw [server]
    exact hready

/-- A request that leaves another session leaves no seed. -/
theorem Handled.session_seed {x : Exchange ω} {request : List UInt8} {capacity : UInt16}
    {now : UInt32} {out : Served ω}
    (h : Handled proj x request capacity now out)
    (hsession : out.2.server.session ≠ x.server.session) :
    out.2.server.securityGate.seedValid = false := by
  cases h with
  | session requested ok server =>
    rw [server]
    exact (udsServerRequestSession_ok ok).seedValid
  | quiet server | reset b f callback request_eq range ok server | dropped b f callback room server
  | ticked server | access gate session persist server | dtcSetting enabled server
  | download maxBlockLength sid length server | block sid server | exit sid server =>
    rw [server] at hsession
    exact absurd rfl hsession

/-! ## What is not seen of a whole call -/

/-- A projection that sees no callback at all, the accepted reset included, sees no request. -/
theorem handleAddressed_unseen {x : Exchange ω}
    (hu : Unseen proj x.server.callbacks x.server.securityGate.persistFn)
    (haccepted : ∀ f ∈ x.server.callbacks.ecuReset, ∀ w sub, proj (f w sub).2 = proj w)
    (request : List UInt8) (capacity : UInt16) (mode : UdsAddressMode) (now : UInt32) :
    proj (udsServerHandleAddressed x request capacity mode now).2.world = proj x.world := by
  obtain hout | ⟨-, hworld⟩ | ⟨-, hout⟩ := handleAddressed_cases hu request capacity mode now
  · rw [hout]
  · rw [hworld]
  · cases hout with
    | quiet server world => exact world
    | session requested ok server world => exact world
    | reset b f callback request_eq range ok server world answer =>
      rw [world]
      exact haccepted f callback _ _
    | dropped b f callback room server ok world =>
      rw [world]
      exact haccepted f callback _ _
    | ticked server world => exact world
    | access gate session persist server world => exact world
    | dtcSetting enabled server world => exact world
    | download maxBlockLength sid length server world => exact world
    | block sid server world => exact world
    | exit sid server world => exact world

theorem executeReset_unseen {callbacks : UdsCallbacks ω}
    (hexecuted : ∀ f ∈ callbacks.ecuResetExecute, ∀ w sub, proj (f w sub) = proj w)
    (subfunction : UInt8) (w : ω) : proj (executeReset callbacks subfunction w) = proj w := by
  unfold executeReset
  split
  next f hf => exact hexecuted f hf w subfunction
  next => rfl

theorem udsServerTick_unseen {server : UdsServer ω}
    (hpersist : ∀ f ∈ server.securityGate.persistFn, ∀ w attempts remaining,
      proj (f w attempts remaining).2 = proj w)
    (hexecuted : ∀ f ∈ server.callbacks.ecuResetExecute, ∀ w sub, proj (f w sub) = proj w)
    (now : UInt32) (w : ω) : proj (udsServerTick server now w).2.2 = proj w := by
  have hgate := gateTick_unseen hpersist now w
  unfold udsServerTick
  dsimp only
  split
  next => exact (executeReset_unseen hexecuted ..).trans hgate
  next => split <;> exact hgate

end UdsIsoTp.Uds
