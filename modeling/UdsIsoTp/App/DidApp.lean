import UdsIsoTp.App.RxFifo
import UdsIsoTp.Endpoint.Unseen
import UdsIsoTp.Uds.Access

/-!
# The session as a data identifier

`uds_did_app.c` keeps eight records, and a copy of the diagnostic session for the one at 0xF186. The
copy is there to be set by `uds_did_app_set_active_session`, which nothing in the application calls:
the session changes in the server, by request, by timeout and by reset, and the copy stays as
`uds_did_app_init` left it.

`session_did_agrees_iff`: whatever the application has been through since `uds_app_init`, a tester that
reads 0xF186 is told the session of the server if and only if that is the default session.
-/

namespace UdsIsoTp.App

open UdsIsoTp.IsoTp UdsIsoTp.Uds UdsIsoTp.Endpoint

variable {ρ : Type}

/-! ## The records -/

/-- `UDS_DID_HIB_SPARE_PART_NUMBER` -/
def didHibSparePartNumber : UInt16 := 0xF181
/-- `UDS_DID_BOOT_SW_IDENTIFIER` -/
def didBootSwIdentifier : UInt16 := 0xF182
/-- `UDS_DID_ECU_SOFTWARE_NUMBER` -/
def didEcuSoftwareNumber : UInt16 := 0xF183
/-- `UDS_DID_ECU_APP_SOFTWARE_NUMBER` -/
def didEcuAppSoftwareNumber : UInt16 := 0xF184
/-- `UDS_DID_ECU_HARDWARE_NUMBER` -/
def didEcuHardwareNumber : UInt16 := 0xF185
/-- `UDS_DID_ACTIVE_DIAGNOSTIC_SESSION` -/
def didActiveDiagnosticSession : UInt16 := 0xF186
/-- `UDS_DID_SYSTEM_SUPPLIER_IDENTIFIER` -/
def didSystemSupplierIdentifier : UInt16 := 0xF18A
/-- `UDS_DID_VIN` -/
def didVin : UInt16 := 0xF190

/-- `UDS_DID_MAX_DATA_SIZE` -/
def didMaxDataSize : Nat := 64

/-- A row of the table: the contents, how long they are, and whether a tester may write them. -/
structure UdsDidRecord where
  did : UInt16
  isWritable : Bool
  length : UInt16
  data : Buf

/-- The variables of `uds_did_app.c`. -/
structure UdsDidApp where
  table : List UdsDidRecord
  activeSession : UInt8

/-- A record that begins as a text. -/
def textRecord (did : UInt16) (isWritable : Bool) (text : List Char) : UdsDidRecord where
  did := did
  isWritable := isWritable
  length := UInt16.ofNat text.length
  data := Buf.ofList (text.map fun c => UInt8.ofNat c.toNat)

/-- The table as it stands after a start. -/
def udsDidAppInit : UdsDidApp where
  activeSession := 0x01
  table :=
    [⟨didActiveDiagnosticSession, false, 1, Buf.ofList [0x01]⟩,
      textRecord didHibSparePartNumber false "HIB-HCU-SPARE-01".toList,
      textRecord didBootSwIdentifier false "BL-STM32F767-V1.0".toList,
      textRecord didEcuSoftwareNumber true "HIB-SW-1002".toList,
      textRecord didEcuAppSoftwareNumber true "HIB-APP-2004".toList,
      textRecord didEcuHardwareNumber false "HIB-HW-03".toList,
      textRecord didSystemSupplierIdentifier false "SUPPLIER-ELCTR".toList,
      textRecord didVin true "stm32f767-uds-vin".toList]

/-- Answers with the contents of the identifier; the record of the session is filled in first. -/
def udsDidAppRead (app : UdsDidApp) (did capacity : UInt16) : Reply UdsDidApp :=
  let app :=
    if did = didActiveDiagnosticSession then
      { app with
        table := app.table.modifyHead fun r => { r with data := r.data.write 0 app.activeSession } }
    else app
  match app.table.find? fun r => r.did == did with
  | none => ⟨.outOfRange, [], 0, app⟩
  | some r =>
    if capacity < r.length then ⟨.responseTooLong, [], 0, app⟩
    else ⟨.ok, r.data.slice 0 r.length.toNat, r.length, app⟩

/-- The loop of `uds_did_app_write`. -/
def writeRecord (did : UInt16) (data : List UInt8) :
    List UdsDidRecord → UdsCallbackResult × List UdsDidRecord
  | [] => (.outOfRange, [])
  | r :: rest =>
    if r.did = did then
      if ¬r.isWritable then (.denied, r :: rest)
      else
        (.ok, { r with
          data := r.data.copy 0 (Buf.ofList data) 0 data.length
          length := UInt16.ofNat data.length } :: rest)
    else
      let (result, rest) := writeRecord did data rest
      (result, r :: rest)

/-- Replaces the contents of a record the tester may write. -/
def udsDidAppWrite (app : UdsDidApp) (did : UInt16) (data : List UInt8) :
    UdsCallbackResult × UdsDidApp :=
  if data.length = 0 ∨ didMaxDataSize < data.length then (.outOfRange, app)
  else
    let (result, table) := writeRecord did data app.table
    (result, { app with table := table })

/-! ## What no access changes -/

/-- The identifier of a record, whether it can be written and, if not, its length. -/
def recordFrame (r : UdsDidRecord) : UInt16 × Bool × Option UInt16 :=
  (r.did, r.isWritable, if r.isWritable then none else some r.length)

/-- All that no write changes: the session, and each record's identifier, flag and fixed length. -/
def didFrame (app : UdsDidApp) : UInt8 × List (UInt16 × Bool × Option UInt16) :=
  (app.activeSession, app.table.map recordFrame)

theorem udsDidAppRead_frame (app : UdsDidApp) (did capacity : UInt16) :
    didFrame (udsDidAppRead app did capacity).world = didFrame app := by
  have hrefreshed : didFrame (if did = didActiveDiagnosticSession then
      { app with
        table := app.table.modifyHead fun r => { r with data := r.data.write 0 app.activeSession } }
      else app) = didFrame app := by
    split
    next => cases h : app.table <;> simp [didFrame, recordFrame, h]
    next => rfl
  unfold udsDidAppRead
  dsimp only
  split
  next => exact hrefreshed
  next => split <;> exact hrefreshed

theorem writeRecord_frame (did : UInt16) (data : List UInt8) (table : List UdsDidRecord) :
    (writeRecord did data table).2.map recordFrame = table.map recordFrame := by
  induction table with
  | nil => rfl
  | cons r rest ih =>
    unfold writeRecord
    split
    next =>
      split
      next => rfl
      next hwritable => simp [recordFrame, not_not.mp hwritable]
    next => exact congrArg (recordFrame r :: ·) ih

theorem udsDidAppWrite_frame (app : UdsDidApp) (did : UInt16) (data : List UInt8) :
    didFrame (udsDidAppWrite app did data).2 = didFrame app := by
  unfold udsDidAppWrite
  split
  next => rfl
  next => exact congrArg (Prod.mk app.activeSession) (writeRecord_frame did data app.table)

/-- The record at 0xF186 is the first, cannot be written and has one byte. -/
theorem udsDidAppRead_session {app : UdsDidApp} (h : didFrame app = didFrame udsDidAppInit)
    (capacity : UInt16) (hroom : 1 ≤ capacity) :
    ∃ after, udsDidAppRead app didActiveDiagnosticSession capacity = ⟨.ok, [0x01], 1, after⟩ := by
  have hsession : app.activeSession = 0x01 := (Prod.mk.inj h).1
  have htable := (Prod.mk.inj h).2
  rcases hrecords : app.table with _ | ⟨r, rest⟩
  · rw [hrecords] at htable
    exact absurd htable.symm (List.cons_ne_nil _ _)
  rw [hrecords] at htable
  obtain ⟨hdid, hrecord⟩ := Prod.mk.inj (List.cons.inj htable).1
  obtain ⟨hwritable, hlength⟩ := Prod.mk.inj hrecord
  rw [hwritable, if_neg Bool.false_ne_true] at hlength
  have hlength : r.length = 1 := Option.some.inj hlength
  have hdid : r.did = didActiveDiagnosticSession := hdid
  refine ⟨{ app with
    table := { r with data := r.data.write 0 app.activeSession } :: rest }, ?_⟩
  unfold udsDidAppRead
  rw [if_pos rfl]
  simp [hrecords, hdid, hlength, hsession, UInt16.not_lt.mpr hroom, Buf.slice_succ]

/-! ## The application -/

/-- The controller next to the records, which it does not see. -/
def besideHal {τ : Type} (hal : CanHal ρ) : CanHal (ρ × τ) where
  addTxMessage w header data :=
    let (accepted, mailbox, h) := hal.addTxMessage w.1 header data
    (accepted, mailbox, h, w.2)
  isTxMessagePending w mailboxes :=
    let (pending, h) := hal.isTxMessagePending w.1 mailboxes
    (pending, h, w.2)
  abortTxRequest w mailboxes := (hal.abortTxRequest w.1 mailboxes, w.2)
  getError w :=
    let (err, h) := hal.getError w.1
    (err, h, w.2)
  busOff w :=
    let (off, h) := hal.busOff w.1
    (off, h, w.2)

/-- `uds_did_app_read` on its part of the world. -/
def readDidBeside (w : ρ × UdsDidApp) (did capacity : UInt16) : Reply (ρ × UdsDidApp) :=
  let reply := udsDidAppRead w.2 did capacity
  ⟨reply.result, reply.data, reply.length, w.1, reply.world⟩

/-- The callbacks of `uds_app_init`: those of the records, and the others, which do not see them. -/
def didCallbacks (others : UdsCallbacks ρ) : UdsCallbacks (ρ × UdsDidApp) :=
  { besideCallbacks others with
    readDid := some readDidBeside
    writeDid := some fun w did data =>
      let (result, app) := udsDidAppWrite w.2 did data
      (result, w.1, app) }

/-- `uds_app_init`: `uds_did_app_init`, the other initialisations, and the rest. -/
def udsAppInitDid (hal : CanHal ρ) (others : UdsCallbacks ρ) (initOthers : ρ → ρ)
    (s : RxApp (ρ × UdsDidApp)) (now : UInt32) : RxApp (ρ × UdsDidApp) :=
  udsAppInit (besideHal hal) (didCallbacks others)
    { s with app := (s.app.1, (initOthers s.app.2.1.1, udsDidAppInit), s.app.2.2) } now

/-- What the server has to say to a request for 0xF186. -/
def servedSession (s : RxApp (ρ × UdsDidApp)) (mode : UdsAddressMode) (now : UInt32) :
    Served (CanWorld (ρ × UdsDidApp)) :=
  endpointServe s.app.1 [0x22, 0xF1, 0x86] mode now s.app.2

/-- A tester that reads 0xF186 is told this session. -/
structure ReadsSession (s : RxApp (ρ × UdsDidApp)) (session : UInt8) (mode : UdsAddressMode)
    (now : UInt32) : Prop where
  ok : (servedSession s mode now).1 = .ok
  length : (servedSession s mode now).2.responseLen = 4
  bytes : (servedSession s mode now).2.response.slice 0 4 = [0x62, 0xF1, 0x86, session]

/-! ## The records in a run -/

section Unseen

variable {τ : Type} (hal : CanHal ρ) (w : CanWorld (ρ × τ))

theorem besideHal_send (frame : IsoTpCanFrame) :
    (udsCanTransportSend (besideHal hal) w frame).2.1.2 = w.1.2 := by
  unfold udsCanTransportSend
  split
  next => rfl
  next =>
    dsimp only
    split <;> rfl

theorem besideHal_complete : (udsCanTransportTxComplete (besideHal hal) w).2.1.2 = w.1.2 := by
  unfold udsCanTransportTxComplete
  split
  next => rfl
  next =>
    split
    next => rfl
    next =>
      split
      next => rfl
      next =>
        dsimp only
        split <;> rfl

theorem abortMailboxes_aside : (abortMailboxes (besideHal hal) w).1.2 = w.1.2 := by
  unfold abortMailboxes
  split <;> rfl

theorem besideHal_error : (udsCanTransportTxError (besideHal hal) w).2.1.2 = w.1.2 := by
  unfold udsCanTransportTxError
  split
  next => rfl
  next =>
    split
    next => exact abortMailboxes_aside hal _
    next =>
      dsimp only
      split
      next => exact abortMailboxes_aside hal _
      next =>
        split
        next => exact abortMailboxes_aside hal _
        next => rfl

end Unseen

/-- What no callback changes of the records. -/
theorem didCallbacks_unseen (others : UdsCallbacks ρ) :
    Unseen (fun w : ρ × UdsDidApp => didFrame w.2) (didCallbacks others) none := by
  have hothers := (beside_unseen (τ := UdsDidApp) others).comp didFrame
  have hread : ∀ f ∈ (didCallbacks others).readDid, ∀ w did n,
      didFrame (f w did n).world.2 = didFrame w.2 := by
    intro f hf w did n
    obtain rfl := Option.some.inj hf
    exact udsDidAppRead_frame w.2 did n
  have hwrite : ∀ f ∈ (didCallbacks others).writeDid, ∀ w did data,
      didFrame (f w did data).2.2 = didFrame w.2 := by
    intro f hf w did data
    obtain rfl := Option.some.inj hf
    exact udsDidAppWrite_frame w.2 did data
  exact ⟨{ hothers.toUnseenServices with readDid := hread, writeDid := hwrite },
    hothers.securitySeed, hothers.securityKey⟩

/-- Nor does anything else that the endpoint is wired to. -/
theorem udsAppConfig_unseen (hal : CanHal ρ) (others : UdsCallbacks ρ) :
    UnseenConfig (fun w : CanWorld (ρ × UdsDidApp) => didFrame w.1.2)
      (udsAppConfig (besideHal hal) (didCallbacks others)) where
  callbacks := (didCallbacks_unseen others).beside
  accepted := Option.forall_mem_map.mpr (Option.forall_mem_map.mpr fun _ _ _ _ => rfl)
  executed := Option.forall_mem_map.mpr (Option.forall_mem_map.mpr fun _ _ _ _ => rfl)
  sendFrame w frame := congrArg didFrame (besideHal_send hal w frame)
  txComplete := by
    intro f hf w
    obtain rfl := Option.some.inj hf
    exact congrArg didFrame (besideHal_complete hal w)
  txError := by
    intro f hf w
    obtain rfl := Option.some.inj hf
    exact congrArg didFrame (besideHal_error hal w)
  resetEvent f hf := absurd hf (Option.not_mem_none f)
  clock f hf := absurd hf (Option.not_mem_none f)

/-- The application is wired up, and the records are as they were initialised, but for the data
of those that can be written. -/
structure RecordsKept (hal : CanHal ρ) (others : UdsCallbacks ρ) (s : RxApp (ρ × UdsDidApp)) :
    Prop where
  connected : Connected (besideHal hal) (didCallbacks others) s.app
  frame : didFrame s.app.2.1.2 = didFrame udsDidAppInit

theorem RecordsKept.of_app {hal : CanHal ρ} {others : UdsCallbacks ρ} {s s' : RxApp (ρ × UdsDidApp)}
    (h : RecordsKept hal others s) (happ : s'.app = s.app) : RecordsKept hal others s' := by
  obtain ⟨hconnected, hframe⟩ := h
  rw [← happ] at hconnected hframe
  exact ⟨hconnected, hframe⟩

theorem RecordsKept.of_step {hal : CanHal ρ} {others : UdsCallbacks ρ}
    {s s' : RxApp (ρ × UdsDidApp)} (h : RecordsKept hal others s) (call : EndpointCall)
    (happ : s'.app = endpointStep s.app call) : RecordsKept hal others s' := by
  have hframe := endpointStep_unseen (udsAppConfig_unseen hal others) h.connected.wired call
  refine ⟨?_, ?_⟩
  · rw [happ]
    exact endpointStep_sound s.app call h.connected
  · rw [happ]
    exact hframe.trans h.frame

theorem pollComplete_records {hal : CanHal ρ} {others : UdsCallbacks ρ} {s : RxApp (ρ × UdsDidApp)}
    (h : RecordsKept hal others s) :
    didFrame (pollComplete (besideHal hal) s.app).2.1.2 = didFrame udsDidAppInit := by
  have hpolled := congrArg didFrame (besideHal_complete hal s.app.2)
  unfold pollComplete
  dsimp only
  split
  next =>
    exact (completeInFlight_unseen (udsAppConfig_unseen hal others).serving
      h.connected.wired _).trans
      (hpolled.trans h.frame)
  next => exact hpolled.trans h.frame

theorem rxAppStep_records {hal : CanHal ρ} {others : UdsCallbacks ρ} {s : RxApp (ρ × UdsDidApp)}
    (h : RecordsKept hal others s) (call : QueueCall) :
    RecordsKept hal others (rxAppStep (besideHal hal) s call) := by
  cases call with
  | interrupt canId data dlc =>
    refine h.of_app ?_
    unfold rxAppStep udsAppRxFromIsr
    dsimp only
    split
    next => rfl
    next => split <;> rfl
  | process now =>
    refine h.of_app ?_
    unfold rxAppStep enterProcess
    dsimp only
    split <;> rfl
  | statement event =>
    unfold rxAppStep mainStep
    dsimp only
    rcases s.main.point with _ | _ | _ | _ | _ | _ | _ | _ | _ | _ | _ | _
    case restored => exact ⟨pollComplete_connected h.connected, pollComplete_records h⟩
    case polled =>
      dsimp only
      split
      next => exact h.of_step (.receive s.main.frame event s.main.now) rfl
      next => exact h.of_app rfl
    case received => exact h.of_step (.process s.main.now) rfl
    case processed => exact h.of_step (.tick s.main.now) rfl
    all_goals exact h.of_app rfl

/-- The initialisation never fails: the identifiers differ, and a frame in flight can be asked
about. -/
theorem udsAppInitDid_records (hal : CanHal ρ) (others : UdsCallbacks ρ) (initOthers : ρ → ρ)
    (s : RxApp (ρ × UdsDidApp)) (now : UInt32) :
    RecordsKept hal others (udsAppInitDid hal others initOthers s now) := by
  rcases hinit : udsIsotpEndpointInit s.app.1 (udsAppConfig (besideHal hal) (didCallbacks others))
    now with _ | e
  · unfold udsIsotpEndpointInit at hinit
    rw [if_neg (by simp [udsAppConfig])] at hinit
    exact absurd hinit (by simp)
  · refine ⟨?_, rfl⟩
    unfold udsAppInitDid udsAppInit
    dsimp only
    rw [hinit]
    exact init_sound hinit

theorem run_records (hal : CanHal ρ) (others : UdsCallbacks ρ) (initOthers : ρ → ρ)
    (s : RxApp (ρ × UdsDidApp)) (now : UInt32) (calls : List QueueCall) :
    RecordsKept hal others
      (run (rxAppStep (besideHal hal)) (udsAppInitDid hal others initOthers s now) calls) :=
  run_inv (I := RecordsKept hal others) (fun _ call h => rxAppStep_records h call)
    (udsAppInitDid_records hal others initOthers s now) calls

/-! ## What the tester is told -/

/-- The service of 0x22 may be used in the default session. -/
theorem readData_admitted {ω : Type} {server : UdsServer ω} (h : server.session = sessionDefault)
    (mode : UdsAddressMode) : checkServiceAttributes server [0x22, 0xF1, 0x86] mode = 0 := by
  unfold checkServiceAttributes
  rw [h]
  cases mode <;> rfl

/-- The identifier that stands in a request. -/
def spelledDid (high low : UInt8) : UInt16 := (high.toUInt16 <<< 8) ||| low.toUInt16

/-- A request to read one identifier, when the callback knows it and there is room. -/
theorem readRequest_served {ω : Type} {x : Exchange ω} {f : ω → UInt16 → UInt16 → Reply ω}
    (hread : x.server.callbacks.readDid = some f) {high low : UInt8} {data : List UInt8}
    {capacity length : UInt16} {after : ω} {mode : UdsAddressMode} (now : UInt32)
    (hadmitted : checkServiceAttributes x.server [0x22, high, low] mode = 0)
    (hroom : 3 + data.length ≤ capacity.toNat)
    (hreply : f x.world (spelledDid high low) (capacity - 3) = ⟨.ok, data, length, after⟩)
    (hlength : length.toNat = data.length) :
    let out := udsServerHandleAddressed x [0x22, high, low] capacity mode now
    out.1 = .ok ∧ out.2.responseLen.toNat = 3 + data.length ∧
      out.2.response.slice 0 (3 + data.length) = 0x62 :: high :: low :: data := by
  have hrest (n : UInt16) (hn : n.toNat ≤ 3) : (capacity - n).toNat = capacity.toNat - n.toNat :=
    UInt16.toNat_sub_of_le _ _ (UInt16.le_iff_toNat_le.mpr (by omega))
  -- an admitted request goes to the service, which asks for the one identifier
  have hserved : udsServerHandleAddressed x [0x22, high, low] capacity mode now
      = serviceReadData (atHandler x mode now) [0x22, high, low] capacity := by
    have hwell : ¬(capacity = 0 ∨ [0x22, high, low].length = 0 ∨
        maxRequestLength < [0x22, high, low].length) := by
      rintro (rfl | hempty | hlong)
      · exact absurd hroom (by simp)
      · exact absurd hempty (by simp)
      · exact absurd hlong (by simp [maxRequestLength])
    unfold udsServerHandleAddressed
    rw [if_neg hwell, hadmitted]
    rfl
  have hread : (atHandler x mode now).server.callbacks.readDid = some f := hread
  have hreply : f (atHandler x mode now).world (high.toUInt16 <<< 8 ||| low.toUInt16)
      (capacity - (1 + 2)) = ⟨.ok, data, length, after⟩ := hreply
  have hdid : ¬capacity - 1 < 2 := by
    rw [UInt16.lt_iff_toNat_lt, hrest 1 (by decide)]
    show ¬capacity.toNat - 1 < 2
    omega
  have hvalue : ¬capacity - (1 + 2) < length := by
    rw [UInt16.lt_iff_toNat_lt, hrest (1 + 2) (by decide), hlength]
    show ¬capacity.toNat - 3 < data.length
    omega
  have hsum : (1 + 2 + length : UInt16).toNat = 3 + data.length := by
    rw [UInt16.toNat_add, hlength]
    exact Nat.mod_eq_of_lt (Nat.lt_of_le_of_lt hroom capacity.toNat_lt)
  intro out
  unfold out
  rw [hserved]
  unfold serviceReadData
  rw [hread]
  dsimp only
  rw [if_neg (by simp)]
  simp only [List.drop_succ_cons, List.drop_zero, readDids]
  rw [if_neg hdid]
  simp only [hreply]
  rw [if_neg (not_not.mpr rfl), if_neg hvalue]
  -- the identifier stands in front of the data
  refine ⟨rfl, hsum, ?_⟩
  refine (Buf.slice_copy_append _ _ 3 0 data.length).trans ?_
  rw [Buf.slice_ofList]
  simp [Buf.slice_succ, Buf.write_apply]

/-- The answer to an admitted request for 0xF186, when the callback knows the identifier. -/
theorem readSession_served {ω : Type} {x : Exchange ω} {f : ω → UInt16 → UInt16 → Reply ω}
    (hread : x.server.callbacks.readDid = some f) {session : UInt8} {after : ω} {mode : UdsAddressMode}
    (now : UInt32) (hadmitted : checkServiceAttributes x.server [0x22, 0xF1, 0x86] mode = 0)
    (hreply : f x.world didActiveDiagnosticSession (maxResponseLength - 3)
      = ⟨.ok, [session], 1, after⟩) :
    (udsServerHandleAddressed x [0x22, 0xF1, 0x86] maxResponseLength mode now).1 = .ok ∧
      (udsServerHandleAddressed x [0x22, 0xF1, 0x86] maxResponseLength mode now).2.responseLen = 4 ∧
      (udsServerHandleAddressed x [0x22, 0xF1, 0x86] maxResponseLength mode now).2.response.slice 0 4
        = [0x62, 0xF1, 0x86, session] := by
  have hdid : didActiveDiagnosticSession = spelledDid 0xF1 0x86 := by decide
  rw [hdid] at hreply
  have hroom : 3 + [session].length ≤ maxResponseLength.toNat := by
    rw [List.length_singleton]
    decide
  obtain ⟨hok, hlength, hbytes⟩ := readRequest_served hread now hadmitted hroom hreply rfl
  exact ⟨hok, UInt16.toNat_inj.mp hlength, hbytes⟩

section Told

variable {hal : CanHal ρ} {others : UdsCallbacks ρ} {s : RxApp (ρ × UdsDidApp)}

/-- Where the request is admitted, the tester is told the session of the initialisation. -/
theorem RecordsKept.reads (h : RecordsKept hal others s) {mode : UdsAddressMode}
    (hadmitted : checkServiceAttributes s.app.1.uds [0x22, 0xF1, 0x86] mode = 0) (now : UInt32) :
    ReadsSession s sessionDefault mode now := by
  obtain ⟨after, hreply⟩ := udsDidAppRead_session h.frame (maxResponseLength - 3)
    (by decide)
  have hread : s.app.1.uds.callbacks.readDid
      = some fun w did n => besideReply (readDidBeside w.1 did n) w.2 := by
    rw [h.connected.wired.callbacks]
    rfl
  have hbeside : besideReply (readDidBeside s.app.2.1 didActiveDiagnosticSession
      (maxResponseLength - 3)) s.app.2.2
        = ⟨.ok, [0x01], 1, (s.app.2.1.1, after), s.app.2.2⟩ := by
    rw [readDidBeside, hreply]
    rfl
  obtain ⟨hok, hlength, hbytes⟩ := readSession_served
    (x := ⟨s.app.1.uds, s.app.1.response, 0, s.app.2⟩) hread now hadmitted hbeside
  exact ⟨hok, hlength, hbytes⟩

/-- Nobody is told another session. -/
theorem RecordsKept.reads_only (h : RecordsKept hal others s) {session : UInt8}
    {mode : UdsAddressMode} {now : UInt32} (hread : ReadsSession s session mode now) :
    session = sessionDefault := by
  by_cases hadmitted : checkServiceAttributes s.app.1.uds [0x22, 0xF1, 0x86] mode = 0
  · have hbytes := hread.bytes.symm.trans (h.reads hadmitted now).bytes
    simpa using hbytes
  · have hrefusal : Refusal (servedSession s mode now) := by
      unfold servedSession endpointServe udsServerHandleAddressed
      rw [if_neg (by decide)]
      dsimp only
      rw [if_pos hadmitted]
      exact negativeResponse_refusal _
    have hfirst := hread.bytes
    rw [Buf.slice_succ, hrefusal hread.ok] at hfirst
    exact absurd (List.cons.inj hfirst).1 (by decide)

end Told

/-- Whatever has happened since `uds_app_init`, a tester that reads 0xF186 is told the session of
the server if and only if that is the default session. -/
theorem session_did_agrees_iff (hal : CanHal ρ) (others : UdsCallbacks ρ) (initOthers : ρ → ρ)
    (s₀ : RxApp (ρ × UdsDidApp)) (start : UInt32) (calls : List QueueCall) (mode : UdsAddressMode)
    (now : UInt32) :
    let s := run (rxAppStep (besideHal hal)) (udsAppInitDid hal others initOthers s₀ start) calls
    ReadsSession s s.app.1.uds.session mode now ↔ s.app.1.uds.session = sessionDefault := by
  intro s
  have hkept := run_records hal others initOthers s₀ start calls
  constructor
  · exact hkept.reads_only
  · intro hdefault
    rw [hdefault]
    exact hkept.reads (readData_admitted hdefault mode) now

/-- The application before `uds_app_init`. -/
def rawDidApp : RxApp (Nat × UdsDidApp) where
  initialized := false
  transport := false
  queue := ⟨fun _ => zeroFrame, 0, 0, 0, false⟩
  primask := false
  main := ⟨.outside, 0, zeroFrame, false, false⟩
  app := (bench (udsAppConfig (besideHal fussyHal) (didCallbacks {})), (0, udsDidAppInit),
    udsCanTransportInit true 0x7E0 0x7E8)

/-- A tester asks for the extended session, and `uds_app_process` runs once. -/
def extendedAsked : List QueueCall :=
  [.interrupt 0x7E0 (some (Buf.ofList [0x02, 0x10, 0x03])) 8, .process 0]
    ++ List.replicate 11 (.statement benchEvent)

theorem session_did_stale :
    let s := run (rxAppStep (besideHal fussyHal)) (udsAppInitDid fussyHal {} id rawDidApp 0)
      extendedAsked
    s.app.1.uds.session = sessionExtended ∧
      ¬ReadsSession s s.app.1.uds.session .physical 0 := by
  intro s
  have hsession : s.app.1.uds.session = sessionExtended := by decide +kernel
  refine ⟨hsession, fun hread => ?_⟩
  have hdefault := (run_records fussyHal {} id rawDidApp 0 extendedAsked).reads_only hread
  rw [hsession] at hdefault
  exact absurd hdefault (by decide)

end UdsIsoTp.App
