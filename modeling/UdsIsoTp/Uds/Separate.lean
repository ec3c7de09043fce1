import UdsIsoTp.Uds.Envelope
import UdsIsoTp.Uds.GateCalls

/-!
# Each service has its own callbacks

A server is wired to some twenty callbacks. A request comes to one row of the dispatch table, and
that row asks the callbacks of its own service and no others: on a server whose other callbacks are
different, the verdict, the response, the world and everything else of the server are the same
(`handleAddressed_rewire`).

So a service that nobody asks for may be wired to anything: a whole run without it goes the same
way (`services_apart`).
-/

namespace UdsIsoTp.Uds

variable {ω : Type}

/-- The same server with other callbacks. -/
def rewire (c : UdsCallbacks ω) (x : Exchange ω) : Exchange ω :=
  { x with server := { x.server with callbacks := c } }

/-- What a request leaves behind, with the other callbacks put in. -/
def rewired (c : UdsCallbacks ω) (out : Served ω) : Served ω := (out.1, rewire c out.2)

/-- The callbacks of this service are the same. -/
structure AgreeFor (sid : UInt8) (c c' : UdsCallbacks ω) : Prop where
  readDid : sid = 0x22 → c'.readDid = c.readDid
  writeDid : sid = 0x2E → c'.writeDid = c.writeDid
  readDtc : sid = 0x19 → c'.readDtc = c.readDtc ∧ c'.dtcBackend = c.dtcBackend
  security : sid = 0x27 → c'.securitySeed = c.securitySeed ∧ c'.securityKey = c.securityKey
  communicationControl : sid = 0x28 → c'.communicationControl = c.communicationControl
  ioControl : sid = 0x2F → c'.ioControl = c.ioControl
  routineControl : sid = 0x31 → c'.routineControl = c.routineControl
  requestDownload : sid = 0x34 → c'.requestDownload = c.requestDownload
  transferData : sid = 0x36 → c'.transferData = c.transferData
  requestTransferExit : sid = 0x37 → c'.requestTransferExit = c.requestTransferExit
  ecuReset : sid = 0x11 → c'.ecuReset = c.ecuReset
  controlDtcSetting : sid = 0x85 → c'.controlDtcSetting = c.controlDtcSetting
  clearDtc : sid = 0x14 → c'.clearDtc = c.clearDtc
  modular : sid ∈ modularServices →
    udsServiceBackendsPreflight c'.serviceBackends sid
        = udsServiceBackendsPreflight c.serviceBackends sid ∧
      udsServiceBackendsHandler c'.serviceBackends sid
        = udsServiceBackendsHandler c.serviceBackends sid

variable {c : UdsCallbacks ω} {x : Exchange ω} {request : List UInt8} {capacity : UInt16}
  {now : UInt32}

@[simp] theorem rewire_callbacks (c : UdsCallbacks ω) (x : Exchange ω) :
    (rewire c x).server.callbacks = c := rfl

@[simp] theorem rewire_world (c : UdsCallbacks ω) (x : Exchange ω) :
    (rewire c x).world = x.world := rfl

/-! ## Responses -/

theorem negativeResponse_rewire (c : UdsCallbacks ω) (x : Exchange ω) (request : List UInt8)
    (nrc : UInt8) (capacity : UInt16) : negativeResponse (rewire c x) request nrc capacity
      = rewired c (negativeResponse x request nrc capacity) := by
  unfold negativeResponse
  simp only [apply_ite (rewired c)]
  rfl

theorem callbackResult_rewire (c : UdsCallbacks ω) (x : Exchange ω) (result : UdsCallbackResult)
    (request : List UInt8) (capacity : UInt16) :
    callbackResult (rewire c x) result request capacity
      = rewired c (callbackResult x result request capacity) := by
  unfold callbackResult
  simp only [apply_ite (rewired c), ← negativeResponse_rewire]
  rfl

/-! ## The handlers -/

theorem requestSession_rewire (c : UdsCallbacks ω) (server : UdsServer ω) (requested : UInt8)
    (now : UInt32) (w : ω) :
    udsServerRequestSession { server with callbacks := c } requested now w
      = ((udsServerRequestSession server requested now w).1,
        { (udsServerRequestSession server requested now w).2.1 with callbacks := c },
        (udsServerRequestSession server requested now w).2.2) := by
  unfold udsServerRequestSession
  split
  next => rfl
  next =>
    split
    next => rfl
    next =>
      dsimp only
      unfold sessionReset
      split
      next => rfl
      next => split <;> rfl

theorem serviceSessionControl_rewire : serviceSessionControl (rewire c x) request capacity now
    = rewired c (serviceSessionControl x request capacity now) := by
  have hrequest : ∀ requested, udsServerRequestSession (rewire c x).server requested now x.world
      = ((udsServerRequestSession x.server requested now x.world).1,
        { (udsServerRequestSession x.server requested now x.world).2.1 with callbacks := c },
        (udsServerRequestSession x.server requested now x.world).2.2) :=
    fun requested => requestSession_rewire c x.server requested now x.world
  unfold serviceSessionControl
  simp only [rewire_world, hrequest, apply_ite (rewired c), ← negativeResponse_rewire]
  rfl

theorem serviceEcuReset_rewire (h : c.ecuReset = x.server.callbacks.ecuReset) :
    serviceEcuReset (rewire c x) request capacity
      = rewired c (serviceEcuReset x request capacity) := by
  unfold serviceEcuReset
  rw [rewire_callbacks, h]
  cases x.server.callbacks.ecuReset with
  | none => simp only [apply_ite (rewired c), ← negativeResponse_rewire]
  | some f =>
    simp only [apply_ite (rewired c), ← negativeResponse_rewire, ← callbackResult_rewire]
    rfl

theorem serviceClearDtc_rewire (h : c.clearDtc = x.server.callbacks.clearDtc) :
    serviceClearDtc (rewire c x) request capacity
      = rewired c (serviceClearDtc x request capacity) := by
  unfold serviceClearDtc
  rw [rewire_callbacks, h]
  cases x.server.callbacks.clearDtc with
  | none => simp only [apply_ite (rewired c), ← negativeResponse_rewire]
  | some f =>
    simp only [apply_ite (rewired c), ← negativeResponse_rewire, ← callbackResult_rewire]
    rfl

theorem serviceDtcSetting_rewire (h : c.controlDtcSetting = x.server.callbacks.controlDtcSetting) :
    serviceDtcSetting (rewire c x) request capacity
      = rewired c (serviceDtcSetting x request capacity) := by
  unfold serviceDtcSetting
  rw [rewire_callbacks, h]
  cases x.server.callbacks.controlDtcSetting with
  | none => exact negativeResponse_rewire ..
  | some f =>
    simp only [apply_ite (rewired c), ← negativeResponse_rewire, ← callbackResult_rewire]
    rfl

theorem serviceWriteData_rewire (h : c.writeDid = x.server.callbacks.writeDid) :
    serviceWriteData (rewire c x) request capacity
      = rewired c (serviceWriteData x request capacity) := by
  unfold serviceWriteData
  rw [rewire_callbacks, h]
  cases x.server.callbacks.writeDid with
  | none => simp only [apply_ite (rewired c), ← negativeResponse_rewire]
  | some f =>
    simp only [apply_ite (rewired c), ← negativeResponse_rewire, ← callbackResult_rewire]
    rfl

theorem serviceCommunicationControl_rewire
    (h : c.communicationControl = x.server.callbacks.communicationControl) :
    serviceCommunicationControl (rewire c x) request capacity
      = rewired c (serviceCommunicationControl x request capacity) := by
  unfold serviceCommunicationControl
  rw [rewire_callbacks, h]
  cases x.server.callbacks.communicationControl with
  | none => exact negativeResponse_rewire ..
  | some f =>
    simp only [apply_ite (rewired c), ← negativeResponse_rewire, ← callbackResult_rewire]
    rfl

theorem serviceIoControl_rewire (h : c.ioControl = x.server.callbacks.ioControl) :
    serviceIoControl (rewire c x) request capacity
      = rewired c (serviceIoControl x request capacity) := by
  unfold serviceIoControl
  rw [rewire_callbacks, h]
  cases x.server.callbacks.ioControl with
  | none => exact negativeResponse_rewire ..
  | some f =>
    simp only [apply_ite (rewired c), ← negativeResponse_rewire, ← callbackResult_rewire]
    rfl

theorem serviceRoutineControl_rewire (h : c.routineControl = x.server.callbacks.routineControl) :
    serviceRoutineControl (rewire c x) request capacity
      = rewired c (serviceRoutineControl x request capacity) := by
  unfold serviceRoutineControl
  rw [rewire_callbacks, h]
  cases x.server.callbacks.routineControl with
  | none => exact negativeResponse_rewire ..
  | some f =>
    simp only [apply_ite (rewired c), ← negativeResponse_rewire, ← callbackResult_rewire]
    rfl

theorem serviceDownload_rewire (h : c.requestDownload = x.server.callbacks.requestDownload) :
    serviceDownload (rewire c x) request capacity
      = rewired c (serviceDownload x request capacity) := by
  unfold serviceDownload
  rw [rewire_callbacks, h]
  cases x.server.callbacks.requestDownload with
  | none => exact negativeResponse_rewire ..
  | some f =>
    simp only [apply_ite (rewired c), ← negativeResponse_rewire, ← callbackResult_rewire]
    rfl

theorem serviceTransferData_rewire (h : c.transferData = x.server.callbacks.transferData) :
    serviceTransferData (rewire c x) request capacity
      = rewired c (serviceTransferData x request capacity) := by
  unfold serviceTransferData
  rw [rewire_callbacks, h]
  cases x.server.callbacks.transferData with
  | none => exact negativeResponse_rewire ..
  | some f =>
    simp only [apply_ite (rewired c), ← negativeResponse_rewire, ← callbackResult_rewire]
    rfl

theorem serviceTransferExit_rewire
    (h : c.requestTransferExit = x.server.callbacks.requestTransferExit) :
    serviceTransferExit (rewire c x) request capacity
      = rewired c (serviceTransferExit x request capacity) := by
  unfold serviceTransferExit
  rw [rewire_callbacks, h]
  cases x.server.callbacks.requestTransferExit with
  | none => exact negativeResponse_rewire ..
  | some f =>
    simp only [apply_ite (rewired c), ← negativeResponse_rewire, ← callbackResult_rewire]
    rfl

theorem serviceTesterPresent_rewire : serviceTesterPresent (rewire c x) request capacity
    = rewired c (serviceTesterPresent x request capacity) := by
  unfold serviceTesterPresent
  simp only [apply_ite (rewired c), ← negativeResponse_rewire]
  rfl

theorem finishReadDtc_rewire (c : UdsCallbacks ω) (x : Exchange ω) (reply : Reply ω)
    (request : List UInt8) (capacity : UInt16) :
    finishReadDtc (rewire c x) reply request capacity
      = rewired c (finishReadDtc x reply request capacity) := by
  unfold finishReadDtc
  simp only [apply_ite (rewired c), ← negativeResponse_rewire, ← callbackResult_rewire]
  rfl

theorem serviceReadDtc_rewire (hread : c.readDtc = x.server.callbacks.readDtc)
    (hbackend : c.dtcBackend = x.server.callbacks.dtcBackend) :
    serviceReadDtc (rewire c x) request capacity
      = rewired c (serviceReadDtc x request capacity) := by
  unfold serviceReadDtc
  simp only [rewire_callbacks, hread, hbackend]
  cases x.server.callbacks.dtcBackend with
  | none =>
    cases x.server.callbacks.readDtc with
    | none =>
      simp only [apply_ite (rewired c), ← negativeResponse_rewire]
      rfl
    | some f =>
      simp only [apply_ite (rewired c), ← negativeResponse_rewire, ← finishReadDtc_rewire]
      rfl
  | some backend =>
    obtain ⟨capabilities, report⟩ := backend
    cases report with
    | none =>
      simp only [apply_ite (rewired c), ← negativeResponse_rewire]
      rfl
    | some f =>
      simp only [apply_ite (rewired c), ← negativeResponse_rewire, ← finishReadDtc_rewire]
      rfl

/-- By induction on the identifiers. -/
theorem readDids_rewire (c : UdsCallbacks ω) (f : ω → UInt16 → UInt16 → Reply ω)
    (request : List UInt8) (capacity : UInt16) : ∀ (dids : List UInt8) (x : Exchange ω),
    readDids f request capacity dids (rewire c x) = rewired c (readDids f request capacity dids x)
  | [], _ => rfl
  | [_], _ => rfl
  | high :: low :: rest, x => by
    have ih := readDids_rewire c f request capacity rest
    unfold readDids
    simp only [apply_ite (rewired c), ← negativeResponse_rewire, ← callbackResult_rewire, ← ih]
    rfl

theorem serviceReadData_rewire (h : c.readDid = x.server.callbacks.readDid) :
    serviceReadData (rewire c x) request capacity
      = rewired c (serviceReadData x request capacity) := by
  unfold serviceReadData
  rw [rewire_callbacks, h]
  cases x.server.callbacks.readDid with
  | none => exact negativeResponse_rewire ..
  | some f =>
    simp only [apply_ite (rewired c), ← negativeResponse_rewire, ← readDids_rewire]
    rfl

theorem serviceSecuritySeed_rewire (f : ω → UInt8 → UInt16 → Reply ω) (subfunction level : UInt8) :
    serviceSecuritySeed f (rewire c x) request capacity subfunction level now
      = rewired c (serviceSecuritySeed f x request capacity subfunction level now) := by
  unfold serviceSecuritySeed
  simp only [apply_ite (rewired c), ← negativeResponse_rewire, ← callbackResult_rewire]
  rfl

theorem serviceSecurityKey_rewire (f : ω → UInt8 → List UInt8 → UdsCallbackResult × ω)
    (subfunction level : UInt8) :
    serviceSecurityKey f (rewire c x) request capacity subfunction level now
      = rewired c (serviceSecurityKey f x request capacity subfunction level now) := by
  unfold serviceSecurityKey
  simp only [apply_ite (rewired c), ← negativeResponse_rewire, ← callbackResult_rewire]
  rfl

theorem serviceSecurityAccess_rewire (hseed : c.securitySeed = x.server.callbacks.securitySeed)
    (hkey : c.securityKey = x.server.callbacks.securityKey) :
    serviceSecurityAccess (rewire c x) request capacity now
      = rewired c (serviceSecurityAccess x request capacity now) := by
  unfold serviceSecurityAccess
  rw [rewire_callbacks, hseed, hkey]
  cases x.server.callbacks.securitySeed with
  | none => simp only [apply_ite (rewired c), ← negativeResponse_rewire]
  | some seed =>
    cases x.server.callbacks.securityKey with
    | none => simp only [apply_ite (rewired c), ← negativeResponse_rewire]
    | some key =>
      dsimp only
      cases udsSecuritySubfunctionLevel (byteAt request 1) with
      | none =>
        simp only [apply_ite (rewired c), ← negativeResponse_rewire]
        rfl
      | some found =>
        simp only [apply_ite (rewired c), ← negativeResponse_rewire, ← serviceSecuritySeed_rewire,
          ← serviceSecurityKey_rewire]
        rfl

theorem serviceModularBackend_rewire
    (hpreflight : udsServiceBackendsPreflight c.serviceBackends (byteAt request 0)
      = udsServiceBackendsPreflight x.server.callbacks.serviceBackends (byteAt request 0))
    (hbackend : udsServiceBackendsHandler c.serviceBackends (byteAt request 0)
      = udsServiceBackendsHandler x.server.callbacks.serviceBackends (byteAt request 0)) :
    serviceModularBackend (rewire c x) request capacity
      = rewired c (serviceModularBackend x request capacity) := by
  unfold serviceModularBackend
  dsimp only
  rw [rewire_callbacks, hpreflight, hbackend, rewire_world]
  cases udsServiceBackendsHandler x.server.callbacks.serviceBackends (byteAt request 0) with
  | none =>
    simp only [apply_ite (rewired c), ← negativeResponse_rewire, ← callbackResult_rewire]
    rfl
  | some f =>
    simp only [apply_ite (rewired c), ← negativeResponse_rewire, ← callbackResult_rewire]
    rfl

/-! ## Every request -/

theorem udsDispatch_rewire (h : AgreeFor (byteAt request 0) x.server.callbacks c) :
    udsDispatch (rewire c x) request capacity now
      = rewired c (udsDispatch x request capacity now) := by
  have hrows : ∀ entry ∈ serviceDispatchTable (ω := ω), entry.1 = byteAt request 0 →
      entry.2 (rewire c x) request capacity now = rewired c (entry.2 x request capacity now) := by
    have hmodular : ∀ {sid}, sid ∈ modularServices → sid = byteAt request 0 →
        serviceModularBackend (rewire c x) request capacity
          = rewired c (serviceModularBackend x request capacity) := by
      rintro sid hmem rfl
      exact serviceModularBackend_rewire (h.modular hmem).1 (h.modular hmem).2
    -- row by row, each from what the two have in common for its identifier
    simp only [serviceDispatchTable, List.forall_mem_cons]
    exact ⟨fun _ => serviceSessionControl_rewire,
      fun hsid => serviceEcuReset_rewire (h.ecuReset hsid.symm),
      fun hsid => serviceClearDtc_rewire (h.clearDtc hsid.symm),
      fun hsid => serviceReadDtc_rewire (h.readDtc hsid.symm).1 (h.readDtc hsid.symm).2,
      fun hsid => serviceReadData_rewire (h.readDid hsid.symm),
      hmodular (by decide),
      hmodular (by decide),
      fun hsid => serviceSecurityAccess_rewire (h.security hsid.symm).1 (h.security hsid.symm).2,
      fun hsid => serviceCommunicationControl_rewire (h.communicationControl hsid.symm),
      hmodular (by decide),
      hmodular (by decide),
      hmodular (by decide),
      fun hsid => serviceWriteData_rewire (h.writeDid hsid.symm),
      fun hsid => serviceIoControl_rewire (h.ioControl hsid.symm),
      fun hsid => serviceRoutineControl_rewire (h.routineControl hsid.symm),
      fun hsid => serviceDownload_rewire (h.requestDownload hsid.symm),
      hmodular (by decide),
      fun hsid => serviceTransferData_rewire (h.transferData hsid.symm),
      fun hsid => serviceTransferExit_rewire (h.requestTransferExit hsid.symm),
      hmodular (by decide),
      hmodular (by decide),
      fun _ => serviceTesterPresent_rewire,
      hmodular (by decide),
      hmodular (by decide),
      fun hsid => serviceDtcSetting_rewire (h.controlDtcSetting hsid.symm),
      hmodular (by decide),
      hmodular (by decide), by simp⟩
  unfold udsDispatch
  split
  next entry hfind =>
    exact hrows entry (List.mem_of_find?_eq_some hfind) (by simpa using List.find?_some hfind)
  next => exact negativeResponse_rewire ..

theorem handleAddressed_rewire (h : AgreeFor (byteAt request 0) x.server.callbacks c)
    (mode : UdsAddressMode) : udsServerHandleAddressed (rewire c x) request capacity mode now
      = rewired c (udsServerHandleAddressed x request capacity mode now) := by
  unfold udsServerHandleAddressed
  split
  next => rfl
  next =>
    dsimp only
    show (if checkServiceAttributes x.server request mode ≠ 0 then _ else _) = _
    split
    next =>
      exact negativeResponse_rewire c
        { x with server := { x.server with currentAddressMode := mode } } request _ capacity
    next => exact udsDispatch_rewire (x := atHandler x mode now) h

/-! ## Runs -/

/-- The same server beside its world, with other callbacks. -/
def rewireState (c : UdsCallbacks ω) (s : UdsServer ω × ω) : UdsServer ω × ω :=
  ({ s.1 with callbacks := c }, s.2)

/-- The call asks nothing that is different. -/
def AgreeOn (c c' : UdsCallbacks ω) : ServerCall ω → Prop
  | .handle request _ _ _ _ _ => AgreeFor (byteAt request 0) c c'
  | .tick _ => c'.ecuResetExecute = c.ecuResetExecute
  | .completeReset => c'.ecuResetExecute.isNone = c.ecuResetExecute.isNone
  | _ => True

/-- What the tester hears: the verdict and the response. -/
def hears (s : UdsServer ω × ω) : ServerCall ω → Option (UdsCallbackResult × List UInt8)
  | .handle request response responseLen capacity mode now =>
    let out := udsServerHandleAddressed ⟨s.1, response, responseLen, s.2⟩ request capacity mode now
    some (out.1, out.2.response.slice 0 out.2.responseLen.toNat)
  | _ => none

theorem serverStep_rewire (s : UdsServer ω × ω) {call : ServerCall ω}
    (h : AgreeOn s.1.callbacks c call) :
    serverStep (rewireState c s) call = rewireState c (serverStep s call) ∧
      hears (rewireState c s) call = hears s call := by
  cases call with
  | handle request response responseLen capacity mode now =>
    have hstep : udsServerHandleAddressed ⟨(rewireState c s).1, response, responseLen,
        (rewireState c s).2⟩ request capacity mode now = rewired c (udsServerHandleAddressed
          ⟨s.1, response, responseLen, s.2⟩ request capacity mode now) :=
      handleAddressed_rewire (x := ⟨s.1, response, responseLen, s.2⟩) h mode
    unfold serverStep hears
    dsimp only
    rw [hstep]
    exact ⟨rfl, rfl⟩
  | tick now =>
    -- an accepted reset is carried out here
    refine ⟨?_, rfl⟩
    have hexecute : c.ecuResetExecute = s.1.callbacks.ecuResetExecute := h
    unfold serverStep rewireState udsServerTick executeReset
    dsimp only
    rw [hexecute]
    split
    next => rfl
    next => split <;> rfl
  | requestSession requested now =>
    refine ⟨?_, rfl⟩
    unfold serverStep rewireState
    dsimp only
    rw [requestSession_rewire]
  | completeReset =>
    refine ⟨?_, rfl⟩
    have hexecute : c.ecuResetExecute.isNone = s.1.callbacks.ecuResetExecute.isNone := h
    unfold serverStep rewireState udsServerCompleteReset
    dsimp only
    rw [hexecute]
    split
    next => rfl
    next => split <;> rfl
  | resetSecurity => exact ⟨rfl, rfl⟩
  | applyReset reason now => exact ⟨rfl, rfl⟩
  | restoreSecurityState failedAttempts lockoutRemainingMs now => exact ⟨rfl, rfl⟩
  | setTiming s3TimeoutMs initialDelayMs lockoutMs seedTimeoutMs maxAttempts => exact ⟨rfl, rfl⟩
  | setSecurityPersistence persistFn => exact ⟨rfl, rfl⟩
  | clearReset => exact ⟨rfl, rfl⟩

/-- **Services apart.** A run in which no request comes to the services whose callbacks are
different goes the same way: the server, the world and all the tester hears. -/
theorem services_apart (s : UdsServer ω × ω) (c : UdsCallbacks ω) (calls : List (ServerCall ω))
    (h : ∀ call ∈ calls, AgreeOn s.1.callbacks c call) :
    run serverStep (rewireState c s) calls = rewireState c (run serverStep s calls) ∧
      observed serverStep hears (rewireState c s) calls = observed serverStep hears s calls := by
  induction calls generalizing s with
  | nil => exact ⟨rfl, rfl⟩
  | cons call calls ih =>
    obtain ⟨hcall, hcalls⟩ := List.forall_mem_cons.mp h
    obtain ⟨hstep, hheard⟩ := serverStep_rewire s hcall
    have hrest := ih (serverStep s call) fun other hother => by
      rw [serverStep_callbacks]
      exact hcalls other hother
    rw [run_cons, hstep]
    refine ⟨hrest.1, ?_⟩
    unfold observed
    rw [hheard, hstep, hrest.2]

/-- A server without callbacks. -/
def bareServer : UdsServer Nat × Nat := (udsServerInit {} 0, 0)

/-- Callbacks that count the reads. -/
def countingReads : UdsCallbacks Nat where
  readDid := some fun w _ _ => ⟨.ok, [0x2A], 1, w + 1⟩

/-- The session is changed and held on to. -/
def sessionCalls : List (ServerCall Nat) :=
  [.handle [0x10, 0x03] (fun _ => 0) 0 64 .physical 1, .tick 2,
    .handle [0x3E, 0x00] (fun _ => 0) 0 64 .physical 3]

theorem services_apart_session :
    observed serverStep hears (rewireState countingReads bareServer) sessionCalls
      = observed serverStep hears bareServer sessionCalls := by
  have hsilent : ∀ sid, sid ≠ 0x22 → AgreeFor sid bareServer.1.callbacks countingReads :=
    fun sid hsid => ⟨fun h => absurd h hsid, fun _ => rfl, fun _ => ⟨rfl, rfl⟩,
      fun _ => ⟨rfl, rfl⟩, fun _ => rfl, fun _ => rfl, fun _ => rfl, fun _ => rfl, fun _ => rfl,
      fun _ => rfl, fun _ => rfl, fun _ => rfl, fun _ => rfl, fun _ => ⟨rfl, rfl⟩⟩
  refine (services_apart bareServer countingReads sessionCalls ?_).2
  simp only [sessionCalls, List.forall_mem_cons]
  exact ⟨hsilent _ (by decide), rfl, hsilent _ (by decide), by simp⟩

end UdsIsoTp.Uds
