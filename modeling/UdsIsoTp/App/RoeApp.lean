import UdsIsoTp.Lib.Run
import UdsIsoTp.Uds.Types

/-!
# Response on event

`uds_roe_app.c`: the tester sets up one event, on a change of trouble codes or of a data
identifier, with a record of the service that is to answer it; the event is started and
stopped, and is reported with the record while it is active.

A report writes one byte more than it has made sure there is room for, so that it leaves its
response exactly when there is room for all of it but the last byte (`TooTight`). And the length
of the record is cut to a byte before it is compared with the room there is, so that a record of
256 bytes or more may lose bytes that there would have been room for (`LengthKept`).
-/

namespace UdsIsoTp.App

open UdsIsoTp.Uds

/-! ## The event -/

/-- `UDS_ROE_MAX_SERVICE_RECORD` -/
def roeMaxServiceRecord : UInt8 := 16

/-- `UDS_ROE_STOP_RESPONSE_ON_EVENT` -/
def roeStopResponseOnEvent : UInt8 := 0x00
/-- `UDS_ROE_ON_DTC_STATUS_CHANGE` -/
def roeOnDtcStatusChange : UInt8 := 0x01
/-- `UDS_ROE_ON_CHANGE_OF_DATA_IDENTIFIER` -/
def roeOnChangeOfDataIdentifier : UInt8 := 0x03
/-- `UDS_ROE_REPORT_ACTIVATED_EVENTS` -/
def roeReportActivatedEvents : UInt8 := 0x04
/-- `UDS_ROE_START_RESPONSE_ON_EVENT` -/
def roeStartResponseOnEvent : UInt8 := 0x05
/-- `UDS_ROE_CLEAR_RESPONSE_ON_EVENT` -/
def roeClearResponseOnEvent : UInt8 := 0x06

/-- `service_record`: the bytes in use, as many as `service_record_len` says. -/
structure ServiceRecord where
  bytes : List UInt8
  fits : bytes.length ≤ roeMaxServiceRecord.toNat

/-- The record of an event that has none. -/
def ServiceRecord.empty : ServiceRecord := ⟨[], Nat.zero_le _⟩

/-- `service_record_len` -/
def ServiceRecord.len (record : ServiceRecord) : UInt8 := UInt8.ofNat record.bytes.length

/-- The one event that can be set up, and whether it is. -/
structure UdsRoeEventState where
  configured : Bool
  active : Bool
  eventType : UInt8
  eventWindowTime : UInt8
  dtcStatusMask : UInt8
  monitoredDid : UInt16
  serviceRecord : ServiceRecord

/-- `uds_roe_app_init`, and `uds_roe_app_clear`, which does the same. -/
def udsRoeAppInit : UdsRoeEventState := ⟨false, false, 0, 0, 0, 0, .empty⟩

/-! ## Setting up -/

/-- `extra_len`: the length of what follows the header of a request, as a byte and no more than
there is room for. -/
def extraLen (request : List UInt8) (header : Nat) : UInt8 :=
  let extra := UInt8.ofNat (request.length - header)
  if roeMaxServiceRecord < extra then roeMaxServiceRecord else extra

theorem extraLen_toNat (request : List UInt8) (header : Nat) :
    (extraLen request header).toNat = min ((request.length - header) % 256) 16 := by
  have hextra : (UInt8.ofNat (request.length - header)).toNat = (request.length - header) % 256 :=
    UInt8.toNat_ofNat'
  unfold extraLen
  dsimp only
  split
  next h =>
    have hlarge : 16 < (request.length - header) % 256 := hextra ▸ UInt8.lt_iff_toNat_lt.mp h
    exact (Nat.min_eq_right (Nat.le_of_lt hlarge)).symm
  next h =>
    have hsmall : (request.length - header) % 256 ≤ 16 :=
      hextra ▸ UInt8.le_iff_toNat_le.mp (UInt8.not_lt.mp h)
    rw [hextra, Nat.min_eq_left hsmall]

theorem extraLen_le (request : List UInt8) (header : Nat) :
    (extraLen request header).toNat ≤ roeMaxServiceRecord.toNat := by
  rw [extraLen_toNat]
  exact Nat.min_le_right ..

/-- What is copied from behind the header. -/
def ServiceRecord.ofRequest (request : List UInt8) (header : Nat) : ServiceRecord where
  bytes := (request.drop header).take (extraLen request header).toNat
  fits := Nat.le_trans (List.length_take_le ..) (extraLen_le request header)

theorem ServiceRecord.length_ofRequest (request : List UInt8) (header : Nat) :
    (ofRequest request header).bytes.length = min ((request.length - header) % 256) 16 := by
  show ((request.drop header).take (extraLen request header).toNat).length = _
  rw [extraLen_toNat, List.length_take, List.length_drop]
  omega

/-- What the two functions that set an event up have in common: the bytes up to the header's end
say what to watch for, and the record follows them. -/
def setUpEvent (state : UdsRoeEventState) (request : List UInt8) (capacity : UInt16)
    (header : Nat) (eventType dtcStatusMask : UInt8) (monitoredDid : UInt16)
    (watched : List UInt8) : Reply UdsRoeEventState :=
  if request.length < header then ⟨.invalidFormat, [], 0, state⟩
  else
    let neededLen := UInt16.ofNat (header + 1) + (extraLen request header).toUInt16
    if capacity < neededLen then ⟨.responseTooLong, [], 0, state⟩
    else
      let state : UdsRoeEventState :=
        { configured := true
          active := false
          eventType := eventType
          eventWindowTime := byteAt request 2
          dtcStatusMask := dtcStatusMask
          monitoredDid := monitoredDid
          serviceRecord := .ofRequest request header }
      ⟨.ok, [0xC6, eventType, 0x00, state.eventWindowTime] ++ watched
        ++ state.serviceRecord.bytes, neededLen, state⟩

/-- Sets an event on a change under a status mask. -/
def handleOnDtcChange (state : UdsRoeEventState) (request : List UInt8) (capacity : UInt16) :
    Reply UdsRoeEventState :=
  setUpEvent state request capacity 4 roeOnDtcStatusChange (byteAt request 3) 0
    [byteAt request 3]

/-- Sets an event on a change of a data identifier. -/
def handleOnDidChange (state : UdsRoeEventState) (request : List UInt8) (capacity : UInt16) :
    Reply UdsRoeEventState :=
  setUpEvent state request capacity 5 roeOnChangeOfDataIdentifier 0 (readU16 request 3)
    [byteAt request 3, byteAt request 4]

/-! ## The other requests -/

/-- Stops the event and leaves it set up. -/
def handleStop (state : UdsRoeEventState) (request : List UInt8) (capacity : UInt16) :
    Reply UdsRoeEventState :=
  if request.length < 2 then ⟨.invalidFormat, [], 0, state⟩
  else if capacity < 4 then ⟨.responseTooLong, [], 0, state⟩
  else
    ⟨.ok, [0xC6, roeStopResponseOnEvent, 0x00,
        if state.configured then state.eventWindowTime else 0x00], 4,
      { state with active := false }⟩

/-- `needed_len` of a report. -/
def reportNeeded (state : UdsRoeEventState) : UInt16 :=
  let neededLen := 5 + state.serviceRecord.len.toUInt16
  if state.eventType = roeOnChangeOfDataIdentifier then neededLen + 1 else neededLen

/-- What a report says of the event, between its header and the record. -/
def reportWatched (state : UdsRoeEventState) : List UInt8 :=
  if state.eventType = roeOnDtcStatusChange then [state.dtcStatusMask]
  else if state.eventType = roeOnChangeOfDataIdentifier then
    [(state.monitoredDid >>> 8).toUInt8, (state.monitoredDid &&& 0xFF).toUInt8]
  else []

/-- The report of the event. -/
def reportData (state : UdsRoeEventState) : List UInt8 :=
  [0xC6, roeReportActivatedEvents, 0x01, state.eventType, state.eventWindowTime]
    ++ reportWatched state ++ state.serviceRecord.bytes

/-- Says what event is active, when one is. -/
def handleReportActivated (state : UdsRoeEventState) (request : List UInt8) (capacity : UInt16) :
    Reply UdsRoeEventState :=
  if request.length ≠ 2 then ⟨.invalidFormat, [], 0, state⟩
  else if ¬state.active then
    if capacity < 3 then ⟨.responseTooLong, [], 0, state⟩
    else ⟨.ok, [0xC6, roeReportActivatedEvents, 0x00], 3, state⟩
  else if capacity < reportNeeded state then ⟨.responseTooLong, [], 0, state⟩
  else ⟨.ok, reportData state, UInt16.ofNat (reportData state).length, state⟩

/-- Starts the event that is set up. -/
def handleStart (state : UdsRoeEventState) (request : List UInt8) (capacity : UInt16) :
    Reply UdsRoeEventState :=
  if request.length < 2 then ⟨.invalidFormat, [], 0, state⟩
  else if ¬state.configured then ⟨.denied, [], 0, state⟩
  else if capacity < 4 then ⟨.responseTooLong, [], 0, state⟩
  else
    ⟨.ok, [0xC6, roeStartResponseOnEvent, 0x01, state.eventWindowTime], 4,
      { state with active := true }⟩

/-- Forgets the event. -/
def handleClear (state : UdsRoeEventState) (request : List UInt8) (capacity : UInt16) :
    Reply UdsRoeEventState :=
  if request.length ≠ 2 then ⟨.invalidFormat, [], 0, state⟩
  else if capacity < 4 then ⟨.responseTooLong, [], 0, state⟩
  else ⟨.ok, [0xC6, roeClearResponseOnEvent, 0x00, 0x00], 4,
    { state with
      configured := false
      active := false
      eventType := 0
      eventWindowTime := 0
      dtcStatusMask := 0
      monitoredDid := 0
      serviceRecord := .empty }⟩

/-- The sub-function of a request, without the bit that suppresses the response. -/
def roeSubfunction (request : List UInt8) : UInt8 := byteAt request 1 &&& 0x7F

/-- `uds_roe_app_handler`: tells the sub-functions apart. -/
def udsRoeAppHandler : ServiceHandler UdsRoeEventState := fun state request capacity =>
  if request.length < 2 then ⟨.invalidFormat, [], 0, state⟩
  else
    let subfunction := roeSubfunction request
    if subfunction = roeStopResponseOnEvent then handleStop state request capacity
    else if subfunction = roeOnDtcStatusChange then handleOnDtcChange state request capacity
    else if subfunction = roeOnChangeOfDataIdentifier then handleOnDidChange state request capacity
    else if subfunction = roeReportActivatedEvents then
      handleReportActivated state request capacity
    else if subfunction = roeStartResponseOnEvent then handleStart state request capacity
    else if subfunction = roeClearResponseOnEvent then handleClear state request capacity
    else ⟨.subfunctionNotSupported, [], 0, state⟩

/-! ## What a request does -/

/-- The two kinds of events. -/
inductive RoeEvent where
  | onDtcChange
  | onDidChange

namespace RoeEvent

/-- The sub-function that sets the event up. -/
def eventType : RoeEvent → UInt8
  | .onDtcChange => roeOnDtcStatusChange
  | .onDidChange => roeOnChangeOfDataIdentifier

/-- How far the header of a request for the event goes. -/
def header : RoeEvent → Nat
  | .onDtcChange => 4
  | .onDidChange => 5

end RoeEvent

/-- The ways a request can end. -/
inductive RoeOutcome (state : UdsRoeEventState) (request : List UInt8) (capacity : UInt16)
    (reply : Reply UdsRoeEventState) : Prop
  | refused (result : reply.result ≠ .ok) (data : reply.data = []) (world : reply.world = state)
  | setUp (event : RoeEvent) (asked : roeSubfunction request = event.eventType)
      (result : reply.result = .ok)
      (data : ∃ front, front.length = event.header + 1 ∧
        reply.data = front ++ (ServiceRecord.ofRequest request event.header).bytes)
      (length : reply.length.toNat = reply.data.length) (room : reply.length ≤ capacity)
      (kind : reply.world.eventType = event.eventType)
      (configured : reply.world.configured = true) (stopped : reply.world.active = false)
      (record : reply.world.serviceRecord = .ofRequest request event.header)
  | switched (asked : roeSubfunction request = roeStopResponseOnEvent ∨
        roeSubfunction request = roeStartResponseOnEvent)
      (active : Bool) (allowed : active = true → state.configured = true)
      (data : reply.data.length = 4) (length : reply.length = 4) (room : 4 ≤ capacity)
      (world : reply.world = { state with active := active })
  | cleared (asked : roeSubfunction request = roeClearResponseOnEvent)
      (result : reply.result = .ok) (data : reply.data.length = 4) (length : reply.length = 4)
      (room : 4 ≤ capacity) (world : reply.world = udsRoeAppInit)
  | idle (asked : roeSubfunction request = roeReportActivatedEvents)
      (stopped : state.active = false) (data : reply.data.length = 3) (length : reply.length = 3)
      (room : 3 ≤ capacity) (world : reply.world = state)
  | reported (short : request.length = 2)
      (asked : roeSubfunction request = roeReportActivatedEvents)
      (active : state.active = true) (room : reportNeeded state ≤ capacity)
      (result : reply.result = .ok)
      (data : reply.data = reportData state)
      (length : reply.length = UInt16.ofNat (reportData state).length)
      (world : reply.world = state)

section Outcomes

variable {state : UdsRoeEventState} {request : List UInt8} {capacity : UInt16}

theorem setUpEvent_outcome (event : RoeEvent) (asked : roeSubfunction request = event.eventType)
    (mask : UInt8) (did : UInt16) {watched : List UInt8}
    (hwatched : watched.length + 3 = event.header) :
    RoeOutcome state request capacity
      (setUpEvent state request capacity event.header event.eventType mask did watched) := by
  have hheader : event.header ≤ 5 := by cases event <;> decide
  have hextra := extraLen_le request event.header
  have hmax : roeMaxServiceRecord.toNat = 16 := rfl
  unfold setUpEvent
  split
  next => exact .refused UdsCallbackResult.noConfusion rfl rfl
  next hlong =>
    dsimp only
    split
    next => exact .refused UdsCallbackResult.noConfusion rfl rfl
    next hroom =>
      -- a header of at most five bytes and a record of sixteen do not overflow the sum
      have hneeded : (UInt16.ofNat (event.header + 1)
          + (extraLen request event.header).toUInt16).toNat
            = event.header + 1 + (extraLen request event.header).toNat := by
        rw [UInt16.toNat_add, UInt16.toNat_ofNat', UInt8.toNat_toUInt16]
        omega
      have hrecord : (ServiceRecord.ofRequest request event.header).bytes.length
          = (extraLen request event.header).toNat :=
        (ServiceRecord.length_ofRequest request event.header).trans (extraLen_toNat ..).symm
      have hfront : ([0xC6, event.eventType, 0x00, byteAt request 2] ++ watched).length
          = event.header + 1 := by
        rw [List.length_append, ← hwatched]
        exact Nat.add_comm ..
      refine .setUp event asked rfl ⟨_, hfront, rfl⟩ ?_ (UInt16.not_lt.mp hroom) rfl rfl rfl rfl
      rw [hneeded, List.length_append, hfront, hrecord]

theorem handleStop_outcome (asked : roeSubfunction request = roeStopResponseOnEvent) :
    RoeOutcome state request capacity (handleStop state request capacity) := by
  unfold handleStop
  split
  next => exact .refused UdsCallbackResult.noConfusion rfl rfl
  next =>
    split
    next => exact .refused UdsCallbackResult.noConfusion rfl rfl
    next hroom =>
      exact .switched (.inl asked) false Bool.noConfusion rfl rfl (UInt16.not_lt.mp hroom) rfl

theorem handleStart_outcome (asked : roeSubfunction request = roeStartResponseOnEvent) :
    RoeOutcome state request capacity (handleStart state request capacity) := by
  unfold handleStart
  split
  next => exact .refused UdsCallbackResult.noConfusion rfl rfl
  next =>
    split
    next => exact .refused UdsCallbackResult.noConfusion rfl rfl
    next hconfigured =>
      split
      next => exact .refused UdsCallbackResult.noConfusion rfl rfl
      next hroom =>
        exact .switched (.inr asked) true (fun _ => not_not.mp hconfigured) rfl rfl
          (UInt16.not_lt.mp hroom) rfl

theorem handleClear_outcome (asked : roeSubfunction request = roeClearResponseOnEvent) :
    RoeOutcome state request capacity (handleClear state request capacity) := by
  unfold handleClear
  split
  next => exact .refused UdsCallbackResult.noConfusion rfl rfl
  next =>
    split
    next => exact .refused UdsCallbackResult.noConfusion rfl rfl
    next hroom => exact .cleared asked rfl rfl rfl (UInt16.not_lt.mp hroom) rfl

theorem handleReportActivated_outcome
    (asked : roeSubfunction request = roeReportActivatedEvents) :
    RoeOutcome state request capacity (handleReportActivated state request capacity) := by
  unfold handleReportActivated
  split
  next => exact .refused UdsCallbackResult.noConfusion rfl rfl
  next hshort =>
    split
    next hactive =>
      split
      next => exact .refused UdsCallbackResult.noConfusion rfl rfl
      next hroom =>
        exact .idle asked (Bool.eq_false_of_not_eq_true hactive) rfl rfl (UInt16.not_lt.mp hroom)
          rfl
    next hactive =>
      split
      next => exact .refused UdsCallbackResult.noConfusion rfl rfl
      next hroom =>
        exact .reported (not_not.mp hshort) asked (not_not.mp hactive) (UInt16.not_lt.mp hroom) rfl
          rfl rfl rfl

theorem udsRoeAppHandler_outcome (state : UdsRoeEventState) (request : List UInt8)
    (capacity : UInt16) :
    RoeOutcome state request capacity (udsRoeAppHandler state request capacity) := by
  unfold udsRoeAppHandler
  split
  next => exact .refused UdsCallbackResult.noConfusion rfl rfl
  next =>
    dsimp only
    split
    next hasked => exact handleStop_outcome hasked
    next =>
      split
      next hasked => exact setUpEvent_outcome .onDtcChange hasked _ _ rfl
      next =>
        split
        next hasked => exact setUpEvent_outcome .onDidChange hasked _ _ rfl
        next =>
          split
          next hasked => exact handleReportActivated_outcome hasked
          next =>
            split
            next hasked => exact handleStart_outcome hasked
            next =>
              split
              next hasked => exact handleClear_outcome hasked
              next => exact .refused UdsCallbackResult.noConfusion rfl rfl

end Outcomes

/-! ## Runs -/

/-- What can happen to the event: a request, or a fresh start. -/
inductive RoeCall where
  | request (bytes : List UInt8) (capacity : UInt16)
  /-- `uds_roe_app_init` or `uds_roe_app_clear` -/
  | init

/-- One call. -/
def roeStep (state : UdsRoeEventState) : RoeCall → UdsRoeEventState
  | .request bytes capacity => (udsRoeAppHandler state bytes capacity).world
  | .init => udsRoeAppInit

/-- An event that is active has been configured, as one of the two kinds. -/
structure RoeSound (state : UdsRoeEventState) : Prop where
  active : state.active = true → state.configured = true
  kind : state.configured = true →
    state.eventType = roeOnDtcStatusChange ∨ state.eventType = roeOnChangeOfDataIdentifier

theorem udsRoeAppInit_sound : RoeSound udsRoeAppInit := ⟨Bool.noConfusion, Bool.noConfusion⟩

theorem roeStep_sound {state : UdsRoeEventState} (h : RoeSound state) (call : RoeCall) :
    RoeSound (roeStep state call) := by
  cases call with
  | init => exact udsRoeAppInit_sound
  | request bytes capacity =>
    show RoeSound (udsRoeAppHandler state bytes capacity).world
    cases udsRoeAppHandler_outcome state bytes capacity with
    | refused _ _ world => rwa [world]
    | setUp event _ _ _ _ _ kind configured stopped _ =>
      refine ⟨fun _ => configured, fun _ => ?_⟩
      rw [kind]
      cases event with
      | onDtcChange => exact .inl rfl
      | onDidChange => exact .inr rfl
    | switched _ active allowed _ _ _ world =>
      rw [world]
      exact ⟨allowed, h.kind⟩
    | cleared _ _ _ _ _ world =>
      rw [world]
      exact udsRoeAppInit_sound
    | idle _ _ _ _ _ world => rwa [world]
    | reported _ _ _ _ _ _ _ world => rwa [world]

/-! ## The room for a response -/

/-- No byte is written behind the room, and no response said to be longer than it. -/
structure KeepsBounds (reply : Reply UdsRoeEventState) (capacity : UInt16) : Prop where
  written : reply.data.length ≤ capacity.toNat
  length : reply.result = .ok → reply.length ≤ capacity

/-- The event is to be reported, and there is room for all of the report but its last byte. -/
structure TooTight (state : UdsRoeEventState) (request : List UInt8) (capacity : UInt16) :
    Prop where
  asked : roeSubfunction request = roeReportActivatedEvents
  short : request.length = 2
  active : state.active = true
  room : capacity.toNat = (if state.eventType = roeOnDtcStatusChange then 5 else 6)
    + state.serviceRecord.bytes.length

section Room

variable {state : UdsRoeEventState} {request : List UInt8} {capacity : UInt16}

/-- The length that is checked is one short of what is written. -/
theorem report_length (h : RoeSound state) (hactive : state.active = true) :
    (reportNeeded state).toNat = (if state.eventType = roeOnDtcStatusChange then 5 else 6)
        + state.serviceRecord.bytes.length ∧
      (reportData state).length = (reportNeeded state).toNat + 1 := by
  have hfits := state.serviceRecord.fits
  have hmax : roeMaxServiceRecord.toNat = 16 := rfl
  -- sixteen bytes at most, so that the length fits the byte that it is kept in
  have hlen : state.serviceRecord.len.toUInt16.toNat = state.serviceRecord.bytes.length := by
    rw [UInt8.toNat_toUInt16]
    show (UInt8.ofNat state.serviceRecord.bytes.length).toNat = _
    rw [UInt8.toNat_ofNat']
    omega
  have hfive : (5 + state.serviceRecord.len.toUInt16).toNat
      = 5 + state.serviceRecord.bytes.length := by
    rw [UInt16.toNat_add, hlen]
    show (5 + state.serviceRecord.bytes.length) % 65536 = _
    omega
  unfold reportData reportNeeded reportWatched
  rw [List.length_append, List.length_append]
  -- a status is watched with one byte, an identifier is named with two
  rcases h.kind (h.active hactive) with hkind | hkind
  · have hother : roeOnDtcStatusChange ≠ roeOnChangeOfDataIdentifier := by decide
    rw [hkind, if_pos rfl, if_neg hother, if_pos rfl, hfive]
    refine ⟨rfl, ?_⟩
    show 5 + 1 + _ = _
    omega
  · have hother : roeOnChangeOfDataIdentifier ≠ roeOnDtcStatusChange := by decide
    have hsix : (5 + state.serviceRecord.len.toUInt16 + 1).toNat
        = 6 + state.serviceRecord.bytes.length := by
      rw [UInt16.toNat_add, hfive]
      show (5 + state.serviceRecord.bytes.length + 1) % 65536 = _
      omega
    rw [hkind, if_neg hother, if_pos rfl, if_neg hother, if_pos rfl, hsix]
    refine ⟨rfl, ?_⟩
    show 5 + 2 + _ = _
    omega

/-- The room there is, as a bound on a report's length. -/
theorem reported_keeps_iff (h : RoeSound state) (hactive : state.active = true)
    {reply : Reply UdsRoeEventState} (hdata : reply.data = reportData state)
    (hlength : reply.length = UInt16.ofNat (reportData state).length) :
    KeepsBounds reply capacity ↔ (reportNeeded state).toNat + 1 ≤ capacity.toNat := by
  obtain ⟨-, hreport⟩ := report_length h hactive
  rw [← hreport]
  constructor
  · intro hkeeps
    exact hdata ▸ hkeeps.written
  · intro hroom
    refine ⟨hdata ▸ hroom, fun _ => ?_⟩
    have hcapacity := capacity.toNat_lt
    rw [hlength, UInt16.le_iff_toNat_le, UInt16.toNat_ofNat']
    omega

theorem udsRoeAppHandler_report (hshort : request.length = 2)
    (hasked : roeSubfunction request = roeReportActivatedEvents) :
    udsRoeAppHandler state request capacity = handleReportActivated state request capacity := by
  unfold udsRoeAppHandler
  rw [if_neg (by omega), hasked]
  rfl

/-- A request keeps to its room unless it is for a report that is too tight. -/
theorem udsRoeAppHandler_keeps_iff (h : RoeSound state) :
    KeepsBounds (udsRoeAppHandler state request capacity) capacity
      ↔ ¬TooTight state request capacity := by
  constructor
  · rintro hkeeps ⟨hasked, hshort, hactive, hroom⟩
    obtain ⟨hneeded, -⟩ := report_length h hactive
    -- the handler's own check lets the report through, one byte short
    have hle : ¬capacity < reportNeeded state := by
      rw [UInt16.not_lt, UInt16.le_iff_toNat_le, hneeded, hroom]
    have hcall : handleReportActivated state request capacity
        = ⟨.ok, reportData state, UInt16.ofNat (reportData state).length, state⟩ := by
      unfold handleReportActivated
      rw [if_neg (not_not.mpr hshort), if_neg (not_not.mpr hactive), if_neg hle]
    rw [udsRoeAppHandler_report hshort hasked, hcall,
      reported_keeps_iff h hactive rfl rfl] at hkeeps
    omega
  · intro hroomy
    cases udsRoeAppHandler_outcome state request capacity with
    | refused result data _ =>
      exact ⟨data ▸ Nat.zero_le _, fun hok => absurd hok result⟩
    | setUp _ _ _ _ length room _ _ _ _ =>
      exact ⟨length ▸ UInt16.le_iff_toNat_le.mp room, fun _ => room⟩
    | switched _ _ _ data length room _ =>
      exact ⟨data ▸ UInt16.le_iff_toNat_le.mp room, fun _ => length ▸ room⟩
    | cleared _ _ data length room _ =>
      exact ⟨data ▸ UInt16.le_iff_toNat_le.mp room, fun _ => length ▸ room⟩
    | idle _ _ data length room _ =>
      exact ⟨data ▸ UInt16.le_iff_toNat_le.mp room, fun _ => length ▸ room⟩
    | reported short asked active room _ data length _ =>
      obtain ⟨hneeded, -⟩ := report_length h active
      have hle := UInt16.le_iff_toNat_le.mp room
      have hne : capacity.toNat ≠ (reportNeeded state).toNat := fun heq =>
        hroomy ⟨asked, short, active, heq.trans hneeded⟩
      exact (reported_keeps_iff h active data length).mpr (by omega)

end Room

/-- The call keeps to its room. -/
def RoeCall.KeepsBounds (state : UdsRoeEventState) : RoeCall → Prop
  | .request bytes capacity => App.KeepsBounds (udsRoeAppHandler state bytes capacity) capacity
  | .init => True

/-- The call asks for no report that is too tight. -/
def RoeCall.Roomy (state : UdsRoeEventState) : RoeCall → Prop
  | .request bytes capacity => ¬TooTight state bytes capacity
  | .init => True

/-- Every request of a run keeps to its room exactly if no report of the run is too tight. -/
theorem roe_bounds_iff (calls : List RoeCall) :
    Along roeStep RoeCall.KeepsBounds udsRoeAppInit calls
      ↔ Along roeStep RoeCall.Roomy udsRoeAppInit calls := by
  refine along_congr (I := RoeSound) (fun _ call h => roeStep_sound h call) (fun state call h => ?_)
    udsRoeAppInit_sound calls
  cases call with
  | request bytes capacity => exact udsRoeAppHandler_keeps_iff h
  | init => exact Iff.rfl

/-- An event without a record, and a report in five bytes: a sixth one is written. -/
theorem roe_bounds_broken :
    ¬∀ calls, Along roeStep RoeCall.KeepsBounds udsRoeAppInit calls := by
  intro h
  have hrun := h [.request [0x86, 0x01, 0x02, 0x08] 8, .request [0x86, 0x05] 8,
    .request [0x86, 0x04] 5]
  exact absurd hrun.2.2.1.written (by decide)

/-! ## The service record -/

/-- The first sixteen bytes behind the header of a request for the event, or all if there are
fewer. -/
def carriedRecord (event : RoeEvent) (request : List UInt8) : List UInt8 :=
  (request.drop event.header).take 16

/-- The call sets an event up again, or clears it. -/
def RoeCall.Replaces (state : UdsRoeEventState) : RoeCall → Prop
  | .request bytes capacity => (udsRoeAppHandler state bytes capacity).result = .ok ∧
      (roeSubfunction bytes = roeOnDtcStatusChange ∨
        roeSubfunction bytes = roeOnChangeOfDataIdentifier ∨
        roeSubfunction bytes = roeClearResponseOnEvent)
  | .init => True

/-- The record that a request for the event carries is the one that is stored, the one in its
response and, until the event is replaced, the one in every report while it is active. -/
structure RecordKept (event : RoeEvent) (request : List UInt8) (reply : Reply UdsRoeEventState) :
    Prop where
  stored : reply.world.serviceRecord.bytes = carriedRecord event request
  echoed : reply.data.drop (event.header + 1) = carriedRecord event request
  reported : ∀ later,
    Along roeStep (fun state call => ¬RoeCall.Replaces state call) reply.world later →
    ∀ report room, roeSubfunction report = roeReportActivatedEvents →
    (run roeStep reply.world later).active = true →
    (udsRoeAppHandler (run roeStep reply.world later) report room).result = .ok →
      (udsRoeAppHandler (run roeStep reply.world later) report room).data.drop (event.header + 2)
        = carriedRecord event request

/-- The length of the record does not change when it is cut to a byte and to the room for it. -/
def LengthKept (event : RoeEvent) (request : List UInt8) : Prop :=
  request.length - event.header < 256 ∨ 16 ≤ (request.length - event.header) % 256

section Record

variable {state : UdsRoeEventState} {event : RoeEvent} {request : List UInt8} {capacity : UInt16}

/-- What is copied is what was carried, or less of it. -/
theorem ofRequest_eq_iff :
    (ServiceRecord.ofRequest request event.header).bytes = carriedRecord event request
      ↔ LengthKept event request := by
  unfold LengthKept
  constructor
  · intro heq
    have hlengths := congrArg List.length heq
    unfold carriedRecord at hlengths
    rw [ServiceRecord.length_ofRequest, List.length_take, List.length_drop] at hlengths
    omega
  · intro hkept
    show (request.drop event.header).take (extraLen request event.header).toNat = _
    unfold carriedRecord
    refine List.take_eq_take_iff.mpr ?_
    rw [extraLen_toNat, List.length_drop]
    omega

/-- The event and its record, which only a call that replaces them changes. -/
structure RecordIs (event : RoeEvent) (record : List UInt8) (state : UdsRoeEventState) : Prop where
  kind : state.eventType = event.eventType
  bytes : state.serviceRecord.bytes = record

theorem RecordIs.step {record : List UInt8} (h : RecordIs event record state) {call : RoeCall}
    (hkeeps : ¬RoeCall.Replaces state call) : RecordIs event record (roeStep state call) := by
  cases call with
  | init => exact absurd trivial hkeeps
  | request bytes capacity =>
    show RecordIs event record (udsRoeAppHandler state bytes capacity).world
    cases udsRoeAppHandler_outcome state bytes capacity with
    | refused _ _ world => rwa [world]
    | setUp other asked result _ _ _ _ _ _ _ =>
      cases other with
      | onDtcChange => exact absurd ⟨result, .inl asked⟩ hkeeps
      | onDidChange => exact absurd ⟨result, .inr (.inl asked)⟩ hkeeps
    | switched _ active _ _ _ _ world =>
      rw [world]
      exact ⟨h.kind, h.bytes⟩
    | cleared asked result _ _ _ _ => exact absurd ⟨result, .inr (.inr asked)⟩ hkeeps
    | idle _ _ _ _ _ world => rwa [world]
    | reported _ _ _ _ _ _ _ world => rwa [world]

/-- A report of an active event ends with its record. -/
theorem RecordIs.report {record : List UInt8} (h : RecordIs event record state)
    (hasked : roeSubfunction request = roeReportActivatedEvents) (hactive : state.active = true)
    (hok : (udsRoeAppHandler state request capacity).result = .ok) :
    (udsRoeAppHandler state request capacity).data.drop (event.header + 2) = record := by
  cases udsRoeAppHandler_outcome state request capacity with
  | refused result _ _ => exact absurd hok result
  | setUp other asked _ _ _ _ _ _ _ _ =>
    rw [hasked] at asked
    cases other <;> exact absurd asked (by decide)
  | switched asked _ _ _ _ _ _ =>
    rw [hasked] at asked
    exact absurd asked (by decide)
  | cleared asked _ _ _ _ _ =>
    rw [hasked] at asked
    exact absurd asked (by decide)
  | idle _ stopped _ _ _ _ => exact absurd (hactive.symm.trans stopped) Bool.true_eq_false_eq_False
  | reported _ _ _ _ _ data _ _ =>
    have hfront : ([0xC6, roeReportActivatedEvents, 0x01, state.eventType, state.eventWindowTime]
        ++ reportWatched state).length = event.header + 2 := by
      rw [List.length_append]
      unfold reportWatched
      rw [h.kind]
      cases event <;> rfl
    rw [data, ← h.bytes]
    exact List.drop_left' hfront

/-- What an accepted request for an event leaves, and answers. -/
theorem setUp_record (hasked : roeSubfunction request = event.eventType)
    (hok : (udsRoeAppHandler state request capacity).result = .ok) :
    RecordIs event (ServiceRecord.ofRequest request event.header).bytes
        (udsRoeAppHandler state request capacity).world ∧
      (udsRoeAppHandler state request capacity).data.drop (event.header + 1)
        = (ServiceRecord.ofRequest request event.header).bytes := by
  cases udsRoeAppHandler_outcome state request capacity with
  | refused result _ _ => exact absurd hok result
  | setUp other asked _ data _ _ kind _ _ record =>
    have hsame : other = event := by
      rw [hasked] at asked
      cases other <;> cases event <;> first | rfl | exact absurd asked (by decide)
    subst hsame
    obtain ⟨front, hfront, hdata⟩ := data
    rw [hdata]
    exact ⟨⟨kind, congrArg ServiceRecord.bytes record⟩, List.drop_left' hfront⟩
  | switched asked _ _ _ _ _ _ =>
    rw [hasked] at asked
    cases event <;> exact absurd asked (by decide)
  | cleared asked _ _ _ _ _ =>
    rw [hasked] at asked
    cases event <;> exact absurd asked (by decide)
  | idle asked _ _ _ _ _ =>
    rw [hasked] at asked
    cases event <;> exact absurd asked (by decide)
  | reported _ asked _ _ _ _ _ _ =>
    rw [hasked] at asked
    cases event <;> exact absurd asked (by decide)

/-- The record of an accepted request is kept exactly if its length is. -/
theorem record_kept_iff (hasked : roeSubfunction request = event.eventType)
    (hok : (udsRoeAppHandler state request capacity).result = .ok) :
    RecordKept event request (udsRoeAppHandler state request capacity)
      ↔ LengthKept event request := by
  obtain ⟨hrecord, hechoed⟩ := setUp_record hasked hok
  constructor
  · intro hkept
    rw [← ofRequest_eq_iff, ← hrecord.bytes]
    exact hkept.stored
  · intro hlength
    have hcarried := ofRequest_eq_iff.mpr hlength
    rw [hcarried] at hrecord hechoed
    refine ⟨hrecord.bytes, hechoed, ?_⟩
    intro later hlater report room hreport hactive hreported
    have hstill : RecordIs event (carriedRecord event request) (run roeStep _ later) :=
      hlater.inv (fun _ _ hstate hkeeps => hstate.step hkeeps) hrecord
    exact hstill.report hreport hactive hreported

theorem record_kept_iff_short :
    RecordKept .onDidChange [0x86, 0x03, 0x02, 0xF1, 0x90, 0x22, 0xF1, 0x90]
        (udsRoeAppHandler udsRoeAppInit [0x86, 0x03, 0x02, 0xF1, 0x90, 0x22, 0xF1, 0x90] 16)
      ↔ LengthKept .onDidChange [0x86, 0x03, 0x02, 0xF1, 0x90, 0x22, 0xF1, 0x90] :=
  record_kept_iff rfl rfl

end Record

/-- A record of 256 bytes is one of none. -/
theorem record_dropped :
    ¬∀ state event request capacity, request.length ≤ 65535 →
      roeSubfunction request = RoeEvent.eventType event →
      (udsRoeAppHandler state request capacity).result = .ok →
      RecordKept event request (udsRoeAppHandler state request capacity) := by
  intro h
  have hkept := h udsRoeAppInit .onDtcChange
    ([0x86, 0x01, 0x02, 0x08] ++ List.replicate 256 0x19) 64
    (by decide +kernel) rfl (by decide +kernel)
  exact absurd (congrArg List.length hkept.stored) (by decide +kernel)

end UdsIsoTp.App
