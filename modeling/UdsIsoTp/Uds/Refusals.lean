import UdsIsoTp.Uds.Access

/-!
# Refusals change nothing

A handler checks, calls back, updates the server and looks at the room for its response, in an
order of its own. `refusal_keeps_standing`: a request that ends in a negative response, with room
for one, has changed neither the session nor a download nor a reset nor the DTC setting, and has
unlocked nothing.

A negative response that is hushed for being addressed to all counts as well. What the answer would
be otherwise is `answeredAloud`, so that a handler is looked at twice, as it ran and aloud
(`Steady`).
-/

namespace UdsIsoTp.Uds

variable {ω : Type}

/-- The response says no. -/
structure Negative (out : Served ω) : Prop where
  ok : out.1 = .ok
  first : out.2.response 0 = 0x7F

/-- What a refusal leaves of the server, but for who asked and when. -/
structure SameStanding (before after : UdsServer ω) : Prop where
  session : after.session = before.session
  downloadActive : after.downloadActive = before.downloadActive
  nextDownloadBlock : after.nextDownloadBlock = before.nextDownloadBlock
  maxDownloadBlockLength : after.maxDownloadBlockLength = before.maxDownloadBlockLength
  resetPending : after.resetPending = before.resetPending
  resetReady : after.resetReady = before.resetReady
  pendingResetSubfunction : after.pendingResetSubfunction = before.pendingResetSubfunction
  dtcSettingEnabled : after.dtcSettingEnabled = before.dtcSettingEnabled
  /-- The level is not raised. -/
  activeLevel : after.securityGate.activeLevel = before.securityGate.activeLevel ∨
    after.securityGate.activeLevel = 0

/-- The same exchange, asked of this server alone. -/
def aloud (x : Exchange ω) : Exchange ω :=
  { x with server := { x.server with currentAddressMode := .physical } }

/-- The answer to a request if no negative response is hushed. -/
def answeredAloud (x : Exchange ω) (request : List UInt8) (capacity : UInt16)
    (mode : UdsAddressMode) (now : UInt32) : Served ω :=
  if capacity = 0 ∨ request.length = 0 ∨ maxRequestLength < request.length then (.error, x)
  else if checkServiceAttributes x.server request mode ≠ 0 then
    negativeResponse (aloud x) request (checkServiceAttributes x.server request mode) capacity
  else udsDispatch (aloud (atHandler x mode now)) request capacity now

/-- If the handler says no aloud, then what it did has left the standing of the server. -/
def Steady (x : Exchange ω) (out loud : Served ω) : Prop :=
  Negative loud → SameStanding x.server out.2.server

/-- Nothing has changed. -/
theorem SameStanding.refl (server : UdsServer ω) : SameStanding server server :=
  ⟨rfl, rfl, rfl, rfl, rfl, rfl, rfl, rfl, .inl rfl⟩

/-- A server that is left alone keeps its standing. -/
theorem SameStanding.of_eq {before after : UdsServer ω} (h : after = before) :
    SameStanding before after :=
  h ▸ .refl before

/-- Two steps that change nothing. -/
theorem SameStanding.trans {before between after : UdsServer ω}
    (hfirst : SameStanding before between) (hthen : SameStanding between after) :
    SameStanding before after where
  session := hthen.session.trans hfirst.session
  downloadActive := hthen.downloadActive.trans hfirst.downloadActive
  nextDownloadBlock := hthen.nextDownloadBlock.trans hfirst.nextDownloadBlock
  maxDownloadBlockLength := hthen.maxDownloadBlockLength.trans hfirst.maxDownloadBlockLength
  resetPending := hthen.resetPending.trans hfirst.resetPending
  resetReady := hthen.resetReady.trans hfirst.resetReady
  pendingResetSubfunction := hthen.pendingResetSubfunction.trans hfirst.pendingResetSubfunction
  dtcSettingEnabled := hthen.dtcSettingEnabled.trans hfirst.dtcSettingEnabled
  activeLevel := by
    rcases hthen.activeLevel with hkept | hzero
    · exact hkept ▸ hfirst.activeLevel
    · exact .inr hzero

/-- Only the gate has changed, and it grants no more than before. -/
theorem SameStanding.of_gate {before after : UdsServer ω} (gate : UdsSecurityGate ω)
    (hafter : after = { before with securityGate := gate })
    (hlevel : gate.activeLevel = before.securityGate.activeLevel ∨ gate.activeLevel = 0) :
    SameStanding before after := by
  subst hafter
  exact ⟨rfl, rfl, rfl, rfl, rfl, rfl, rfl, rfl, hlevel⟩

section Handlers

variable {x : Exchange ω} {request : List UInt8} {capacity : UInt16} {now : UInt32}

/-- A service that leaves the server alone is steady. -/
theorem Steady.of_same {out loud : Served ω} (h : out.2.server = x.server) : Steady x out loud :=
  fun _ => .of_eq h

/-- A positive answer is not a refusal, and neither is silence. -/
theorem Steady.of_positive {out loud : Served ω} (h : loud.1 = .ok → loud.2.response 0 ≠ 0x7F) :
    Steady x out loud :=
  fun hnegative => absurd hnegative.first (h hnegative.ok)

/-- So is one whose answer aloud would be no refusal. -/
theorem Steady.of_silent {out : Served ω} {y : Exchange ω} : Steady x out (.noResponse, y) :=
  .of_positive UdsCallbackResult.noConfusion

/-! ## Services that only hand on -/

/-- The services that never touch the server, one after the other. -/
theorem serviceClearDtc_server : (serviceClearDtc x request capacity).2.server = x.server := by
  unfold serviceClearDtc
  split
  next => simp
  next =>
    split
    next => simp
    next =>
      dsimp only
      split_ifs <;> simp

theorem finishReadDtc_server (y : Exchange ω) (reply : Reply ω) :
    (finishReadDtc y reply request capacity).2.server = y.server := by
  unfold finishReadDtc
  dsimp only
  split_ifs <;> simp

theorem serviceReadDtc_server : (serviceReadDtc x request capacity).2.server = x.server := by
  unfold serviceReadDtc
  split
  next => simp
  next =>
    split
    next => simp
    next =>
      dsimp only
      split
      next => simp
      next =>
        split
        next => simp
        next =>
          split
          next => simp
          next =>
            split
            next =>
              split
              next => simp
              next =>
                split
                next => simp
                next => exact finishReadDtc_server ..
            next =>
              split
              next => simp
              next => exact finishReadDtc_server ..

theorem serviceReadData_server : (serviceReadData x request capacity).2.server = x.server := by
  unfold serviceReadData
  split
  next => simp
  next f hf =>
    split
    next => simp
    next =>
      exact (@readDids_quiet ω Unit (fun _ => ()) f (fun _ _ _ => rfl) request (request.drop 1)
        capacity _).1

theorem serviceWriteData_server : (serviceWriteData x request capacity).2.server = x.server := by
  unfold serviceWriteData
  split
  next => simp
  next =>
    split
    next => simp
    next =>
      dsimp only
      split_ifs <;> simp

theorem serviceCommunicationControl_server :
    (serviceCommunicationControl x request capacity).2.server = x.server := by
  unfold serviceCommunicationControl
  split
  next => simp
  next =>
    dsimp only
    split_ifs <;> simp

theorem serviceIoControl_server : (serviceIoControl x request capacity).2.server = x.server := by
  unfold serviceIoControl
  split
  next => simp
  next =>
    dsimp only
    split_ifs <;> simp

theorem serviceRoutineControl_server :
    (serviceRoutineControl x request capacity).2.server = x.server := by
  unfold serviceRoutineControl
  split
  next => simp
  next =>
    dsimp only
    split_ifs <;> simp

theorem serviceTesterPresent_server :
    (serviceTesterPresent x request capacity).2.server = x.server := by
  unfold serviceTesterPresent
  split_ifs <;> simp

theorem serviceModularBackend_server :
    (serviceModularBackend x request capacity).2.server = x.server := by
  unfold serviceModularBackend
  dsimp only
  split
  next => simp
  next =>
    split
    next => simp
    next => split_ifs <;> simp

/-! ## Services that change the server -/

/-- How the request was addressed does not decide about the session. -/
theorem udsServerRequestSession_aloud (server : UdsServer ω) (requested : UInt8) (w : ω) :
    (udsServerRequestSession { server with currentAddressMode := .physical } requested now w).1
      = (udsServerRequestSession server requested now w).1 := by
  unfold udsServerRequestSession
  dsimp only
  split_ifs <;> rfl

/-- A refused change of session leaves the session alone. -/
theorem serviceSessionControl_steady (hcap : 6 ≤ capacity) :
    Steady x (serviceSessionControl x request capacity now)
      (serviceSessionControl (aloud x) request capacity now) := by
  unfold serviceSessionControl aloud
  dsimp only
  by_cases hlen : request.length ≠ 2
  · rw [if_pos hlen, if_pos hlen]
    exact .of_same (negativeResponse_server ..)
  rw [if_neg hlen, if_neg hlen]
  by_cases hsupported : ¬sessionSupported (byteAt request 1 &&& 0x7F) = true
  · rw [if_pos hsupported, if_pos hsupported]
    exact .of_same (negativeResponse_server ..)
  rw [if_neg hsupported, if_neg hsupported, udsServerRequestSession_aloud]
  by_cases hok : (udsServerRequestSession x.server (byteAt request 1 &&& 0x7F) now x.world).1 ≠ .ok
  · rw [if_pos hok, if_pos hok]
    exact .of_same ((negativeResponse_server ..).trans
      (congrArg (·.1) (udsServerRequestSession_refused hok)))
  -- a session that is granted is not taken back
  have hsix : ¬capacity < 6 := UInt16.not_lt.mpr hcap
  rw [if_neg hok, if_neg hok, if_neg hsix, if_neg hsix]
  split
  next => exact .of_silent
  next => exact .of_positive fun _ => by simp [Buf.write_apply]

/-- A refused reset is not pending. -/
theorem serviceEcuReset_steady (hcap : 6 ≤ capacity) :
    Steady x (serviceEcuReset x request capacity)
      (serviceEcuReset (aloud x) request capacity) := by
  have hthree : ¬capacity < 3 := by grind
  have htwo : ¬capacity < 2 := by grind
  unfold serviceEcuReset aloud
  dsimp only
  by_cases hlen : request.length ≠ 2
  · rw [if_pos hlen, if_pos hlen]
    exact .of_same (negativeResponse_server ..)
  rw [if_neg hlen, if_neg hlen]
  rcases x.server.callbacks.ecuReset with _ | f
  · exact .of_same (negativeResponse_server ..)
  dsimp only
  by_cases hrange : byteAt request 1 &&& 0x7F < resetTypeHard ∨
      resetTypeDisableRapidPowerShutdown < byteAt request 1 &&& 0x7F
  · rw [if_pos hrange, if_pos hrange]
    exact .of_same (negativeResponse_server ..)
  rw [if_neg hrange, if_neg hrange]
  by_cases hres : (f x.world (byteAt request 1 &&& 0x7F)).1 ≠ .ok
  · rw [if_pos hres, if_pos hres]
    exact .of_same (callbackResult_server ..)
  rw [if_neg hres, if_neg hres]
  by_cases hquiet : byteAt request 1 &&& suppressPositiveResponse ≠ 0
  · rw [if_pos hquiet, if_pos hquiet]
    exact .of_silent
  rw [if_neg hquiet, if_neg hquiet]
  split <;> exact .of_positive fun _ => by simp [Buf.write_apply]

/-- A refused setting stays as it was. -/
theorem serviceDtcSetting_steady (hcap : 6 ≤ capacity) :
    Steady x (serviceDtcSetting x request capacity)
      (serviceDtcSetting (aloud x) request capacity) := by
  have htwo : ¬capacity < 2 := by grind
  unfold serviceDtcSetting aloud
  dsimp only
  rcases x.server.callbacks.controlDtcSetting with _ | f
  · exact .of_same (negativeResponse_server ..)
  dsimp only
  by_cases hlen : request.length ≠ 2
  · rw [if_pos hlen, if_pos hlen]
    exact .of_same (negativeResponse_server ..)
  rw [if_neg hlen, if_neg hlen]
  by_cases hsub : byteAt request 1 &&& 0x7F ≠ 0x01 ∧ byteAt request 1 &&& 0x7F ≠ 0x02
  · rw [if_pos hsub, if_pos hsub]
    exact .of_same (negativeResponse_server ..)
  rw [if_neg hsub, if_neg hsub]
  by_cases hres : (f x.world (byteAt request 1 &&& 0x7F)).1 ≠ .ok
  · rw [if_pos hres, if_pos hres]
    exact .of_same (callbackResult_server ..)
  rw [if_neg hres, if_neg hres, if_neg htwo, if_neg htwo]
  split
  next => exact .of_silent
  next => exact .of_positive fun _ => by simp [Buf.write_apply]

/-- A refused download does not begin. -/
theorem serviceDownload_steady :
    Steady x (serviceDownload x request capacity)
      (serviceDownload (aloud x) request capacity) := by
  unfold serviceDownload aloud
  dsimp only
  rcases x.server.callbacks.requestDownload with _ | f
  · exact .of_same (negativeResponse_server ..)
  dsimp only
  by_cases hlen : request.length < 4
  · rw [if_pos hlen, if_pos hlen]
    exact .of_same (negativeResponse_server ..)
  rw [if_neg hlen, if_neg hlen]
  generalize (byteAt request 2 &&& 0x0F).toNat = addressLength
  generalize (byteAt request 2 >>> 4).toNat = lengthLength
  by_cases hformat : addressLength = 0 ∨ 4 < addressLength ∨ lengthLength = 0 ∨ 4 < lengthLength ∨
      request.length ≠ 3 + addressLength + lengthLength
  · rw [if_pos hformat, if_pos hformat]
    exact .of_same (negativeResponse_server ..)
  rw [if_neg hformat, if_neg hformat]
  generalize f x.world (readBeU32 request 3 addressLength)
    (readBeU32 request (3 + addressLength) lengthLength) = reply
  by_cases hres : reply.1 ≠ .ok
  · rw [if_pos hres, if_pos hres]
    exact .of_same (callbackResult_server ..)
  rw [if_neg hres, if_neg hres]
  by_cases hblock : reply.2.1 < 3 ∨ capacity < 4
  · rw [if_pos hblock, if_pos hblock]
    exact .of_same (negativeResponse_server ..)
  rw [if_neg hblock, if_neg hblock]
  exact .of_positive fun _ => by simp [Buf.write_apply]

/-- A refused block does not count. -/
theorem serviceTransferData_steady (hcap : 6 ≤ capacity) :
    Steady x (serviceTransferData x request capacity)
      (serviceTransferData (aloud x) request capacity) := by
  have htwo : ¬capacity < 2 := by grind
  unfold serviceTransferData aloud
  dsimp only
  rcases x.server.callbacks.transferData with _ | f
  · exact .of_same (negativeResponse_server ..)
  dsimp only
  by_cases hstart : request.length < 3 ∨ ¬x.server.downloadActive = true
  · rw [if_pos hstart, if_pos hstart]
    exact .of_same (negativeResponse_server ..)
  rw [if_neg hstart, if_neg hstart]
  by_cases hcounter : byteAt request 1 ≠ x.server.nextDownloadBlock
  · rw [if_pos hcounter, if_pos hcounter]
    exact .of_same (negativeResponse_server ..)
  rw [if_neg hcounter, if_neg hcounter]
  by_cases hlong : x.server.maxDownloadBlockLength - 2 < UInt16.ofNat (request.length - 2)
  · rw [if_pos hlong, if_pos hlong]
    exact .of_same (negativeResponse_server ..)
  rw [if_neg hlong, if_neg hlong]
  by_cases hres : (f x.world (byteAt request 1) (request.drop 2)).1 ≠ .ok
  · rw [if_pos hres, if_pos hres]
    exact .of_same (callbackResult_server ..)
  -- the block counter is past the check it would spoil
  rw [if_neg hres, if_neg hres, if_neg htwo, if_neg htwo]
  exact .of_positive fun _ => by simp [Buf.write_apply]

/-- A refused exit leaves the download open. -/
theorem serviceTransferExit_steady (hcap : 6 ≤ capacity) :
    Steady x (serviceTransferExit x request capacity)
      (serviceTransferExit (aloud x) request capacity) := by
  have hone : ¬capacity < 1 := by grind
  unfold serviceTransferExit aloud
  dsimp only
  rcases x.server.callbacks.requestTransferExit with _ | f
  · exact .of_same (negativeResponse_server ..)
  dsimp only
  by_cases hactive : ¬x.server.downloadActive = true
  · rw [if_pos hactive, if_pos hactive]
    exact .of_same (negativeResponse_server ..)
  rw [if_neg hactive, if_neg hactive]
  generalize f x.world (request.drop 1) (if 1 < capacity then capacity - 1 else 0) = reply
  by_cases hres : reply.result ≠ .ok
  · rw [if_pos hres, if_pos hres]
    exact .of_same (callbackResult_server ..)
  rw [if_neg hres, if_neg hres, if_neg hone, if_neg hone]
  exact .of_positive fun _ => by simp

/-! ## SecurityAccess -/

/-- A wrong key takes the level away. -/
theorem gateRecordFailure_activeLevel (gate : UdsSecurityGate ω) (w : ω) :
    (gateRecordFailure gate now w).1.activeLevel = 0 := by
  unfold gateRecordFailure
  dsimp only
  split_ifs <;> rfl

/-- A request for a seed leaves the level, whatever it ends in. -/
theorem serviceSecuritySeed_standing (seed : ω → UInt8 → UInt16 → Reply ω)
    (subfunction level : UInt8) :
    SameStanding x.server
      (serviceSecuritySeed seed x request capacity subfunction level now).2.server := by
  unfold serviceSecuritySeed
  split
  next => exact .of_eq (negativeResponse_server ..)
  next =>
    generalize seed x.world level (if 2 < capacity then capacity - 2 else 0) = reply
    dsimp only
    split
    next => exact .of_eq (callbackResult_server ..)
    next =>
      split
      next => exact .of_eq (negativeResponse_server ..)
      next =>
        split
        next => exact .refl x.server
        next => exact .of_gate _ rfl (.inl rfl)

/-- A refused key unlocks nothing. -/
theorem serviceSecurityKey_steady (hcap : 6 ≤ capacity)
    (key : ω → UInt8 → List UInt8 → UdsCallbackResult × ω) (subfunction level : UInt8) :
    Steady x (serviceSecurityKey key x request capacity subfunction level now)
      (serviceSecurityKey key (aloud x) request capacity subfunction level now) := by
  have htwo : ¬capacity < 2 := by grind
  unfold serviceSecurityKey aloud
  dsimp only
  by_cases hasked : request.length ≤ 2 ∨ ¬x.server.securityGate.seedValid = true ∨
      x.server.securityGate.seedLevel ≠ level
  · rw [if_pos hasked, if_pos hasked]
    exact .of_same (negativeResponse_server ..)
  rw [if_neg hasked, if_neg hasked]
  by_cases hwrong : (key x.world level (request.drop 2)).1 = .invalidKey
  · -- a wrong key locks the level, and that is all it does
    rw [if_pos hwrong, if_pos hwrong]
    refine fun _ => .of_gate (gateRecordFailure x.server.securityGate now
      (key x.world level (request.drop 2)).2).1 ?_ (.inr (gateRecordFailure_activeLevel _ _))
    split <;> exact negativeResponse_server ..
  rw [if_neg hwrong, if_neg hwrong]
  by_cases hres : (key x.world level (request.drop 2)).1 ≠ .ok
  · rw [if_pos hres, if_pos hres]
    exact .of_same (callbackResult_server ..)
  rw [if_neg hres, if_neg hres, if_neg htwo, if_neg htwo]
  split
  next => exact .of_silent
  next => exact .of_positive fun _ => by simp [Buf.write_apply]

/-- The gate is ticked before the request is looked at, and that raises no level. -/
theorem ticked_standing : SameStanding x.server (ticked x now).server :=
  .of_gate _ rfl (.inl (gateTick_fields ..).2.1)

/-- So security access as a whole is steady. -/
theorem serviceSecurityAccess_steady (hcap : 6 ≤ capacity) :
    Steady x (serviceSecurityAccess x request capacity now)
      (serviceSecurityAccess (aloud x) request capacity now) := by
  unfold serviceSecurityAccess
  dsimp only [aloud]
  by_cases hlen : request.length < 2
  · rw [if_pos hlen, if_pos hlen]
    exact .of_same (negativeResponse_server ..)
  rw [if_neg hlen, if_neg hlen]
  rcases x.server.callbacks.securitySeed with _ | seed
  · exact .of_same (negativeResponse_server ..)
  rcases x.server.callbacks.securityKey with _ | key
  · exact .of_same (negativeResponse_server ..)
  dsimp only
  have hrefused (nrc : UInt8) :
      SameStanding x.server (negativeResponse (ticked x now) request nrc capacity).2.server :=
    .trans ticked_standing (.of_eq (negativeResponse_server ..))
  by_cases hsession : ¬securitySessionAllowed x.server.session = true
  · rw [if_pos hsession, if_pos hsession]
    exact fun _ => hrefused _
  rw [if_neg hsession, if_neg hsession]
  rcases udsSecuritySubfunctionLevel (byteAt request 1) with _ | ⟨level, isSeed⟩
  · exact fun _ => hrefused _
  dsimp only
  by_cases hdelay : gateDelayActive (gateTick x.server.securityGate now x.world).1 now = true
  · rw [if_pos hdelay, if_pos hdelay]
    exact fun _ => hrefused _
  rw [if_neg hdelay, if_neg hdelay]
  by_cases hseed : isSeed = true
  · rw [if_pos hseed, if_pos hseed]
    exact fun _ => .trans ticked_standing (serviceSecuritySeed_standing (x := ticked x now) ..)
  rw [if_neg hseed, if_neg hseed]
  exact fun hnegative => .trans ticked_standing
    (serviceSecurityKey_steady (x := ticked x now) hcap key _ level hnegative)

/-! ## Every request -/

/-- Every service of the table is steady. -/
theorem udsDispatch_steady (hcap : 6 ≤ capacity) :
    Steady x (udsDispatch x request capacity now) (udsDispatch (aloud x) request capacity now) := by
  have hrows : ∀ entry ∈ serviceDispatchTable (ω := ω),
      Steady x (entry.2 x request capacity now) (entry.2 (aloud x) request capacity now) := by
    have hmodular : Steady x (serviceModularBackend x request capacity)
        (serviceModularBackend (aloud x) request capacity) :=
      .of_same serviceModularBackend_server
    simp only [serviceDispatchTable, List.forall_mem_cons]
    exact ⟨serviceSessionControl_steady hcap,
      serviceEcuReset_steady hcap,
      .of_same serviceClearDtc_server,
      .of_same serviceReadDtc_server,
      .of_same serviceReadData_server,
      hmodular,
      hmodular,
      serviceSecurityAccess_steady hcap,
      .of_same serviceCommunicationControl_server,
      hmodular,
      hmodular,
      hmodular,
      .of_same serviceWriteData_server,
      .of_same serviceIoControl_server,
      .of_same serviceRoutineControl_server,
      serviceDownload_steady,
      hmodular,
      serviceTransferData_steady hcap,
      serviceTransferExit_steady hcap,
      hmodular,
      hmodular,
      .of_same serviceTesterPresent_server,
      hmodular,
      hmodular,
      serviceDtcSetting_steady hcap,
      hmodular,
      hmodular, by simp⟩
  unfold udsDispatch
  split
  next entry hfind => exact hrows entry (List.mem_of_find?_eq_some hfind)
  next => exact .of_same (negativeResponse_server ..)

end Handlers

/-- A negative response changes nothing. For a request to all the response is judged aloud, since
it may then be hushed. -/
theorem refusal_keeps_standing (x : Exchange ω) (request : List UInt8) (mode : UdsAddressMode)
    (now : UInt32) (hnegative : Negative (answeredAloud x request maxResponseLength mode now)) :
    SameStanding x.server
      (udsServerHandleAddressed x request maxResponseLength mode now).2.server := by
  have hasked : SameStanding x.server (atHandler x mode now).server :=
    ⟨rfl, rfl, rfl, rfl, rfl, rfl, rfl, rfl, .inl rfl⟩
  unfold answeredAloud at hnegative
  unfold udsServerHandleAddressed
  split
  next => exact .refl x.server
  next hformat =>
    rw [if_neg hformat] at hnegative
    dsimp only
    split
    next hattributes =>
      -- who asked is all that a request stopped at the door leaves behind
      rw [negativeResponse_server]
      exact ⟨rfl, rfl, rfl, rfl, rfl, rfl, rfl, rfl, .inl rfl⟩
    next hadmitted =>
      rw [if_neg hadmitted] at hnegative
      exact .trans hasked (udsDispatch_steady (x := atHandler x mode now) (by decide) hnegative)

/-- A download whose memory is busy. -/
def busyCallbacks : UdsCallbacks Unit where
  transferData := some fun _ _ _ => (.busy, ())

/-- A server in the middle of a download. -/
def busyDownload : Exchange Unit where
  server := { udsServerInit busyCallbacks 0 with
    session := sessionProgramming
    downloadActive := true
    nextDownloadBlock := 5
    maxDownloadBlockLength := 66 }
  response := fun _ => 0
  responseLen := 0
  world := ()

/-- A block that could not be written is still the next one to come. -/
theorem busy_download_stands :
    SameStanding busyDownload.server
      (udsServerHandleAddressed busyDownload [0x36, 5, 0xAB] maxResponseLength .physical
        100).2.server :=
  refusal_keeps_standing busyDownload [0x36, 5, 0xAB] .physical 100 ⟨by decide, by decide⟩

end UdsIsoTp.Uds
