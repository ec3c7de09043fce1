import UdsIsoTp.Uds.Envelope

/-!
# When a response is suppressed

Three rules. A verdict of "no response" comes with the length zero. A request that asks
for silence gets no positive response, and the negative one it would have got without
asking (`Hushes`). A functional request gets no negative response with a code that only
says "not me".

The first and the third hold at every end of a handler that `Answered` knows, but for one:
a routine that has run for a request that asks for silence leaves the length of its header
behind. The second compares two runs of the same handler, on the request and on the same
request without its suppress bit (`spoken`).
-/

namespace UdsIsoTp.Uds

variable {ω : Type}

/-! ## The rules -/

/-- What holds of the answer alone. -/
structure Suppressed (mode : UdsAddressMode) (out : Served ω) : Prop where
  empty : out.1 = .noResponse → out.2.responseLen = 0
  functional : mode = .functional → out.1 = .ok → out.2.response 0 = 0x7F →
    out.2.response 2 ∉ [0x11, 0x12, 0x31, 0x7E, 0x7F]

/-- The request asks for silence, and its service honours that. -/
def AsksSilence (request : List UInt8) : Prop :=
  byteAt request 1 &&& suppressPositiveResponse ≠ 0 ∧
    (byteAt request 0 ∈ [0x10, 0x11, 0x28, 0x31, 0x3E, 0x85] ∨
      (byteAt request 0 = 0x27 ∧ byteAt request 1 &&& 1 = 0))

/-- The same request without its suppress bit. -/
def spoken (request : List UInt8) : List UInt8 := request.set 1 (byteAt request 1 &&& 0x7F)

/-- The answer to a request that asks for silence, next to the answer it would have got: the
server and the world are the same, a negative response is the same, and a positive one is gone. -/
structure Hushes (plain quiet : Served ω) : Prop where
  server : quiet.2.server = plain.2.server
  world : quiet.2.world = plain.2.world
  positive : plain.1 = .ok → plain.2.response 0 ≠ 0x7F → quiet.1 = .noResponse
  negative : plain.1 = .ok → plain.2.response 0 = 0x7F →
    quiet.1 = .ok ∧ quiet.2.responseLen = plain.2.responseLen ∧
      ∀ i < 3, quiet.2.response i = plain.2.response i
  other : plain.1 ≠ .ok → quiet.1 = plain.1

/-- The longest response of a fixed length fits, and so does what a routine reports. -/
structure Ample (callbacks : UdsCallbacks ω) (capacity : UInt16) : Prop where
  fixed : 6 ≤ capacity
  routine : ∀ f ∈ callbacks.routineControl, ∀ w sub id data,
    (f w sub id data (behind 4 capacity)).length ≤ behind 4 capacity

/-! ## The two requests -/

section Spoken

variable (request : List UInt8)

@[simp] theorem length_spoken : (spoken request).length = request.length := by
  simp [spoken]

@[simp] theorem byteAt_spoken_zero : byteAt (spoken request) 0 = byteAt request 0 := by
  simp [spoken, byteAt]

@[simp] theorem byteAt_spoken_two : byteAt (spoken request) 2 = byteAt request 2 := by
  simp [spoken, byteAt]

@[simp] theorem byteAt_spoken_three : byteAt (spoken request) 3 = byteAt request 3 := by
  simp [spoken, byteAt]

@[simp] theorem byteAt_spoken_one : byteAt (spoken request) 1 = byteAt request 1 &&& 0x7F := by
  by_cases hlen : 1 < request.length
  · simp [spoken, byteAt, hlen]
  · simp [spoken, byteAt, hlen]

@[simp] theorem drop_two_spoken : (spoken request).drop 2 = request.drop 2 := by
  simp [spoken, List.drop_set]

@[simp] theorem drop_four_spoken : (spoken request).drop 4 = request.drop 4 := by
  simp [spoken, List.drop_set]

@[simp] theorem readU16_spoken : readU16 (spoken request) 2 = readU16 request 2 := by
  simp [readU16]

end Spoken

/-- A byte without its suppress bit. -/
@[simp] theorem strip_strip (b : UInt8) : b &&& 0x7F &&& 0x7F = b &&& 0x7F := by
  rw [UInt8.and_assoc]
  rfl

@[simp] theorem strip_suppress (b : UInt8) : b &&& 0x7F &&& suppressPositiveResponse = 0 := by
  rw [UInt8.and_assoc]
  exact UInt8.and_zero

/-- The suppress bit makes no difference to the level of a key. -/
theorem keyLevel_spoken {b : UInt8} (hkey : b &&& 1 = 0) :
    udsSecuritySubfunctionLevel (b &&& 0x7F) = udsSecuritySubfunctionLevel b ∧
      ∀ level seed, udsSecuritySubfunctionLevel b = some (level, seed) → seed = false := by
  have heven : b &&& 0x7F &&& 1 = 0 := by
    rw [UInt8.and_assoc]
    exact hkey
  unfold udsSecuritySubfunctionLevel
  simp only [strip_strip, heven]
  constructor
  · simp
  · intro level seed hlevel
    split at hlevel
    next => exact absurd hlevel (by simp)
    next => simp_all

/-! ## Two runs of a handler -/

section Hushed

variable {x y z : Exchange ω} {request : List UInt8} {capacity : UInt16} {now : UInt32}

theorem negativeResponse_spoken (y : Exchange ω) (nrc : UInt8) :
    negativeResponse y (spoken request) nrc capacity = negativeResponse y request nrc capacity := by
  unfold negativeResponse
  rw [byteAt_spoken_zero]

/-- A refusal is a negative response or silence. -/
theorem refused_hushes (y : Exchange ω) (nrc : UInt8) :
    Hushes (negativeResponse y (spoken request) nrc capacity)
      (negativeResponse y request nrc capacity) := by
  rw [negativeResponse_spoken]
  refine ⟨rfl, rfl, fun hok hfirst => ?_, fun hok _ => ⟨hok, rfl, fun _ _ => rfl⟩, fun _ => rfl⟩
  exfalso
  apply hfirst
  unfold negativeResponse at hok ⊢
  split at hok
  next => exact UdsCallbackResult.noConfusion hok
  next hloud =>
    rw [if_neg hloud]
    split at hok
    next => exact UdsCallbackResult.noConfusion hok
    next hroom =>
      rw [if_neg hroom]
      simp [Buf.write_apply]

/-- So is the verdict of a callback that does not succeed. -/
theorem callbackResult_hushes (y : Exchange ω)
    {result : UdsCallbackResult} (hres : result ≠ .ok) :
    Hushes (callbackResult y result (spoken request) capacity)
      (callbackResult y result request capacity) := by
  unfold callbackResult
  rw [if_neg hres, if_neg hres]
  split
  next => exact ⟨rfl, rfl, fun hok => UdsCallbackResult.noConfusion hok,
    fun hok => UdsCallbackResult.noConfusion hok, fun _ => rfl⟩
  next => exact refused_hushes ..

/-- A positive response that is left out. -/
theorem positive_hushes (hserver : z.server = y.server) (hworld : z.world = y.world)
    (hfirst : y.response 0 ≠ 0x7F) : Hushes (.ok, y) (.noResponse, z) :=
  ⟨hserver, hworld, fun _ _ => rfl, fun _ h => absurd h hfirst, fun h => absurd rfl h⟩

variable (hcap : 6 ≤ capacity) (hbit : byteAt request 1 &&& suppressPositiveResponse ≠ 0)
include hcap hbit

theorem serviceSessionControl_hushes :
    Hushes (serviceSessionControl x (spoken request) capacity now)
      (serviceSessionControl x request capacity now) := by
  unfold serviceSessionControl
  simp only [length_spoken, byteAt_spoken_one, strip_strip, strip_suppress]
  by_cases hlen : request.length ≠ 2
  · rw [if_pos hlen, if_pos hlen]
    exact refused_hushes ..
  rw [if_neg hlen, if_neg hlen]
  by_cases hsupported : ¬sessionSupported (byteAt request 1 &&& 0x7F) = true
  · rw [if_pos hsupported, if_pos hsupported]
    exact refused_hushes ..
  rw [if_neg hsupported, if_neg hsupported]
  generalize udsServerRequestSession x.server (byteAt request 1 &&& 0x7F) now x.world = out
  by_cases hres : out.1 ≠ .ok
  · rw [if_pos hres, if_pos hres]
    exact refused_hushes ..
  rw [if_neg hres, if_neg hres, if_neg (by simp), if_pos hbit, if_neg (UInt16.not_lt.mpr hcap)]
  exact positive_hushes rfl rfl (by simp [Buf.write_apply])

theorem serviceEcuReset_hushes :
    Hushes (serviceEcuReset x (spoken request) capacity) (serviceEcuReset x request capacity) := by
  unfold serviceEcuReset
  simp only [length_spoken, byteAt_spoken_one, strip_strip, strip_suppress]
  by_cases hlen : request.length ≠ 2
  · rw [if_pos hlen, if_pos hlen]
    exact refused_hushes ..
  rw [if_neg hlen, if_neg hlen]
  rcases x.server.callbacks.ecuReset with _ | f
  · exact refused_hushes ..
  dsimp only
  by_cases hrange : byteAt request 1 &&& 0x7F < resetTypeHard ∨
      resetTypeDisableRapidPowerShutdown < byteAt request 1 &&& 0x7F
  · rw [if_pos hrange, if_pos hrange]
    exact refused_hushes ..
  rw [if_neg hrange, if_neg hrange]
  by_cases hres : (f x.world (byteAt request 1 &&& 0x7F)).1 ≠ .ok
  · rw [if_pos hres, if_pos hres]
    exact callbackResult_hushes _ hres
  rw [if_neg hres, if_neg hres, if_neg (by simp), if_pos hbit]
  split
  next =>
    rw [if_neg (by grind)]
    exact positive_hushes rfl rfl (by simp [Buf.write_apply])
  next =>
    rw [if_neg (by grind)]
    exact positive_hushes rfl rfl (by simp [Buf.write_apply])

theorem serviceSecurityKey_hushes
    (securityKey : ω → UInt8 → List UInt8 → UdsCallbackResult × ω) (level : UInt8) :
    Hushes
      (serviceSecurityKey securityKey x (spoken request) capacity (byteAt (spoken request) 1)
        level now)
      (serviceSecurityKey securityKey x request capacity (byteAt request 1) level now) := by
  unfold serviceSecurityKey
  simp only [length_spoken, byteAt_spoken_one, drop_two_spoken, strip_strip, strip_suppress]
  by_cases hseed : request.length ≤ 2 ∨ ¬x.server.securityGate.seedValid = true ∨
      x.server.securityGate.seedLevel ≠ level
  · rw [if_pos hseed, if_pos hseed]
    exact refused_hushes ..
  rw [if_neg hseed, if_neg hseed]
  by_cases hkey : (securityKey x.world level (request.drop 2)).1 = .invalidKey
  · rw [if_pos hkey, if_pos hkey]
    split
    next => exact refused_hushes ..
    next => exact refused_hushes ..
  rw [if_neg hkey, if_neg hkey]
  by_cases hres : (securityKey x.world level (request.drop 2)).1 ≠ .ok
  · rw [if_pos hres, if_pos hres]
    exact callbackResult_hushes _ hres
  rw [if_neg hres, if_neg hres, if_neg (by simp), if_pos hbit, if_neg (by grind)]
  exact positive_hushes rfl rfl (by simp [Buf.write_apply])

/-- A key is judged the same way aloud and hushed. -/
theorem serviceSecurityAccess_hushes (hkey : byteAt request 1 &&& 1 = 0) :
    Hushes (serviceSecurityAccess x (spoken request) capacity now)
      (serviceSecurityAccess x request capacity now) := by
  obtain ⟨hsame, hnoSeed⟩ := keyLevel_spoken hkey
  unfold serviceSecurityAccess
  simp only [length_spoken]
  by_cases hlen : request.length < 2
  · rw [if_pos hlen, if_pos hlen]
    exact refused_hushes ..
  rw [if_neg hlen, if_neg hlen]
  rcases x.server.callbacks.securitySeed with _ | seed
  · exact refused_hushes ..
  rcases x.server.callbacks.securityKey with _ | key
  · exact refused_hushes ..
  dsimp only
  by_cases hsession : ¬securitySessionAllowed x.server.session = true
  · rw [if_pos hsession, if_pos hsession]
    exact refused_hushes ..
  rw [if_neg hsession, if_neg hsession, byteAt_spoken_one, hsame]
  rcases hlevel : udsSecuritySubfunctionLevel (byteAt request 1) with _ | ⟨level, isSeed⟩
  · exact refused_hushes ..
  dsimp only
  split
  next => exact refused_hushes ..
  next =>
    rw [if_neg (by simp [hnoSeed level isSeed hlevel]),
      if_neg (by simp [hnoSeed level isSeed hlevel]), ← byteAt_spoken_one]
    exact serviceSecurityKey_hushes hcap hbit ..

theorem serviceCommunicationControl_hushes :
    Hushes (serviceCommunicationControl x (spoken request) capacity)
      (serviceCommunicationControl x request capacity) := by
  unfold serviceCommunicationControl
  simp only [length_spoken, byteAt_spoken_one, byteAt_spoken_two, strip_strip, strip_suppress]
  rcases x.server.callbacks.communicationControl with _ | f
  · exact refused_hushes ..
  dsimp only
  by_cases hlen : request.length ≠ 3
  · rw [if_pos hlen, if_pos hlen]
    exact refused_hushes ..
  rw [if_neg hlen, if_neg hlen]
  by_cases hres : (f x.world (byteAt request 1 &&& 0x7F) (byteAt request 2)).1 ≠ .ok
  · rw [if_pos hres, if_pos hres]
    exact callbackResult_hushes _ hres
  rw [if_neg hres, if_neg hres, if_neg (by simp), if_pos hbit, if_neg (by grind)]
  exact positive_hushes rfl rfl (by simp [Buf.write_apply])

/-- A routine too, when there is room for its answer. -/
theorem serviceRoutineControl_hushes (hample : Ample x.server.callbacks capacity) :
    Hushes (serviceRoutineControl x (spoken request) capacity)
      (serviceRoutineControl x request capacity) := by
  have hfour : 4 ≤ capacity := UInt16.le_trans (by decide) hcap
  unfold serviceRoutineControl
  simp only [length_spoken, byteAt_spoken_one, byteAt_spoken_two, byteAt_spoken_three,
    readU16_spoken, drop_four_spoken, strip_strip, strip_suppress]
  rcases hf : x.server.callbacks.routineControl with _ | f
  · exact refused_hushes ..
  dsimp only
  by_cases hlen : request.length < 4
  · rw [if_pos hlen, if_pos hlen]
    exact refused_hushes ..
  rw [if_neg hlen, if_neg hlen]
  have hroom := hample.routine f hf x.world (byteAt request 1 &&& 0x7F) (readU16 request 2)
    (request.drop 4)
  generalize f x.world (byteAt request 1 &&& 0x7F) (readU16 request 2) (request.drop 4)
    (behind 4 capacity) = reply at hroom ⊢
  by_cases hres : reply.result ≠ .ok
  · rw [if_pos hres, if_pos hres]
    exact callbackResult_hushes _ hres
  have hfits : ¬capacity - 4 < reply.length := by
    unfold behind at hroom
    split at hroom <;> grind
  rw [if_neg hres, if_neg hres, if_neg (by simp), if_pos hbit, if_neg hfits]
  exact positive_hushes rfl rfl (by simp [Buf.copy_outside, Buf.write_apply])

theorem serviceTesterPresent_hushes :
    Hushes (serviceTesterPresent x (spoken request) capacity)
      (serviceTesterPresent x request capacity) := by
  unfold serviceTesterPresent
  simp only [length_spoken, byteAt_spoken_one, strip_strip, strip_suppress]
  by_cases hlen : request.length ≠ 2
  · rw [if_pos hlen, if_pos hlen]
    exact refused_hushes ..
  rw [if_neg hlen, if_neg hlen]
  by_cases hsub : byteAt request 1 &&& 0x7F ≠ 0
  · rw [if_pos hsub, if_pos hsub]
    exact refused_hushes ..
  rw [if_neg hsub, if_neg hsub, if_neg (by simp), if_pos hbit, if_neg (by grind)]
  exact positive_hushes rfl rfl (by simp [Buf.write_apply])

theorem serviceDtcSetting_hushes :
    Hushes (serviceDtcSetting x (spoken request) capacity)
      (serviceDtcSetting x request capacity) := by
  unfold serviceDtcSetting
  simp only [length_spoken, byteAt_spoken_one, strip_strip, strip_suppress]
  rcases x.server.callbacks.controlDtcSetting with _ | f
  · exact refused_hushes ..
  dsimp only
  by_cases hlen : request.length ≠ 2
  · rw [if_pos hlen, if_pos hlen]
    exact refused_hushes ..
  rw [if_neg hlen, if_neg hlen]
  by_cases hsub : byteAt request 1 &&& 0x7F ≠ 0x01 ∧ byteAt request 1 &&& 0x7F ≠ 0x02
  · rw [if_pos hsub, if_pos hsub]
    exact refused_hushes ..
  rw [if_neg hsub, if_neg hsub]
  by_cases hres : (f x.world (byteAt request 1 &&& 0x7F)).1 ≠ .ok
  · rw [if_pos hres, if_pos hres]
    exact callbackResult_hushes _ hres
  rw [if_neg hres, if_neg hres, if_neg (by simp), if_pos hbit, if_neg (by grind)]
  exact positive_hushes rfl rfl (by simp [Buf.write_apply])

/-- Every service that honours the suppress bit. -/
theorem udsDispatch_hushes (hasks : AsksSilence request)
    (hample : Ample x.server.callbacks capacity) :
    Hushes (udsDispatch x (spoken request) capacity now) (udsDispatch x request capacity now) := by
  unfold udsDispatch
  rw [byteAt_spoken_zero]
  rcases hasks.2 with hsid | ⟨hsid, hkey⟩
  · simp only [List.mem_cons, List.not_mem_nil, or_false] at hsid
    rcases hsid with hsid | hsid | hsid | hsid | hsid | hsid <;> rw [hsid]
    · exact serviceSessionControl_hushes hcap hbit
    · exact serviceEcuReset_hushes hcap hbit
    · exact serviceCommunicationControl_hushes hcap hbit
    · exact serviceRoutineControl_hushes hcap hbit hample
    · exact serviceTesterPresent_hushes hcap hbit
    · exact serviceDtcSetting_hushes hcap hbit
  · rw [hsid]
    exact serviceSecurityAccess_hushes hcap hbit hkey

end Hushed

/-! ## Every request -/

section Request

variable {x : Exchange ω} {request : List UInt8} {capacity : UInt16} {mode : UdsAddressMode}
  {now : UInt32}

/-- The bit does not decide who may ask. -/
theorem checkServiceAttributes_spoken (server : UdsServer ω) (mode : UdsAddressMode) :
    checkServiceAttributes server (spoken request) mode
      = checkServiceAttributes server request mode := by
  unfold checkServiceAttributes
  simp only [length_spoken, byteAt_spoken_zero, byteAt_spoken_one, strip_strip]

/-- The whole handling of a request, aloud and hushed. -/
theorem handleAddressed_hushes (hasks : AsksSilence request)
    (hample : Ample x.server.callbacks capacity) :
    Hushes (udsServerHandleAddressed x (spoken request) capacity mode now)
      (udsServerHandleAddressed x request capacity mode now) := by
  unfold udsServerHandleAddressed
  simp only [length_spoken, checkServiceAttributes_spoken]
  split
  next => exact ⟨rfl, rfl, fun hok => UdsCallbackResult.noConfusion hok,
    fun hok => UdsCallbackResult.noConfusion hok, fun _ => rfl⟩
  next =>
    split
    next => exact refused_hushes ..
    next => exact udsDispatch_hushes hample.fixed hasks.1 hasks hample

/-- A negative response is silent when it must be. -/
theorem negativeResponse_suppressed (y : Exchange ω) (nrc : UInt8)
    (hmode : y.server.currentAddressMode = mode) :
    Suppressed mode (negativeResponse y request nrc capacity) := by
  unfold negativeResponse
  split
  next => exact ⟨fun _ => rfl, fun _ hok => UdsCallbackResult.noConfusion hok⟩
  next hloud =>
    split
    next => exact ⟨fun h => UdsCallbackResult.noConfusion h,
      fun _ hok => UdsCallbackResult.noConfusion hok⟩
    next =>
      refine ⟨fun h => UdsCallbackResult.noConfusion h, fun hfunctional _ _ hmem => ?_⟩
      apply hloud
      refine ⟨hmode.trans hfunctional, ?_⟩
      have hnrc : nrc ∈ [0x11, 0x12, 0x31, 0x7E, 0x7F] := by simpa using hmem
      simp only [List.mem_cons, List.not_mem_nil, or_false] at hnrc
      rcases hnrc with rfl | rfl | rfl | rfl | rfl <;> decide

theorem Answered.suppressed {out : Served ω} (h : Answered False x request capacity out)
    (hmode : x.server.currentAddressMode = mode) (hbuiltIn : byteAt request 0 ∉ modularServices)
    (hknown : byteAt request 0 ≠ 0x3F) (hroutine : ¬RoutineHushed x request capacity) :
    Suppressed mode out := by
  cases h with
  | refused nrc held => exact negativeResponse_suppressed _ _ (held.mode.trans hmode)
  | silent held empty => exact ⟨fun _ => empty, fun _ hok => UdsCallbackResult.noConfusion hok⟩
  | positive held first fits =>
    refine ⟨fun h => UdsCallbackResult.noConfusion h, fun _ _ hnegative => ?_⟩
    exfalso
    apply hknown
    rw [first] at hnegative
    grind
  | hushed held routine => exact absurd routine hroutine
  | delegated result held sid positive => exact absurd sid hbuiltIn

/-- All three rules, for one request. -/
structure RulesKept (x : Exchange ω) (request : List UInt8) (capacity : UInt16)
    (mode : UdsAddressMode) (now : UInt32) : Prop where
  answer : Suppressed mode (udsServerHandleAddressed x request capacity mode now)
  hushes : AsksSilence request →
    Hushes (udsServerHandleAddressed x (spoken request) capacity mode now)
      (udsServerHandleAddressed x request capacity mode now)

/-- The request is admitted, and a routine runs in silence. -/
structure RoutineSilenced (x : Exchange ω) (request : List UInt8) (capacity : UInt16)
    (mode : UdsAddressMode) : Prop extends RoutineHushed x request capacity where
  admitted : checkServiceAttributes x.server request mode = 0
  short : request.length ≤ maxRequestLength

/-- A routine that runs in silence leaves four bytes counted. -/
theorem RoutineSilenced.counted (h : RoutineSilenced x request capacity mode)
    (hcap : capacity ≠ 0) (now : UInt32) :
    (udsServerHandleAddressed x request capacity mode now).1 = .noResponse ∧
      (udsServerHandleAddressed x request capacity mode now).2.responseLen = 4 := by
  have hlen := h.length
  obtain ⟨f, hf, hok⟩ := h.ran
  have hserved : udsServerHandleAddressed x request capacity mode now
      = serviceRoutineControl (atHandler x mode now) request capacity := by
    unfold udsServerHandleAddressed udsDispatch
    rw [if_neg (wellFormed hcap (by omega) h.short)]
    dsimp only
    rw [if_neg (not_not.mpr h.admitted), h.sid]
    rfl
  have hhandler : (atHandler x mode now).server.callbacks.routineControl = some f := hf
  rw [hserved]
  unfold serviceRoutineControl
  rw [hhandler]
  dsimp only
  replace hok : (f (atHandler x mode now).world (byteAt request 1 &&& 0x7F) (readU16 request 2)
    (request.drop 4) (if 4 < capacity then capacity - 4 else 0)).result = .ok := hok
  rw [if_neg (Nat.not_lt.mpr hlen), if_neg (not_not.mpr hok), if_pos h.suppressed]
  exact ⟨rfl, rfl⟩

/-- For every server, world and callback, every address mode and every request for a built-in
service, with room for the responses: the three rules hold if and only if the request does not
make a routine run in silence. -/
theorem suppression_rules (x : Exchange ω) (request : List UInt8) (capacity : UInt16)
    (mode : UdsAddressMode) (now : UInt32) (hample : Ample x.server.callbacks capacity)
    (hbuiltIn : byteAt request 0 ∉ modularServices) :
    RulesKept x request capacity mode now ↔ ¬RoutineSilenced x request capacity mode := by
  have hcap : capacity ≠ 0 := by
    have hsix := hample.fixed
    grind
  constructor
  -- a silenced routine leaves four bytes where there should be none
  · intro hkept hsilenced
    obtain ⟨hsilent, hfour⟩ := hsilenced.counted hcap now
    have hzero := hkept.answer.empty hsilent
    rw [hfour] at hzero
    exact absurd hzero (by decide)
  · intro hloud
    refine ⟨?_, fun hasks => handleAddressed_hushes hasks hample⟩
    by_cases hlen : 1 ≤ request.length ∧ request.length ≤ maxRequestLength
    · by_cases hknown : byteAt request 0 = 0x3F
      · -- no service has this identifier
        unfold udsServerHandleAddressed
        rw [if_neg (wellFormed hcap hlen.1 hlen.2)]
        dsimp only
        split
        next => exact negativeResponse_suppressed _ _ rfl
        next =>
          unfold udsDispatch
          rw [hknown]
          exact negativeResponse_suppressed _ _ rfl
      · unfold udsServerHandleAddressed
        rw [if_neg (wellFormed hcap hlen.1 hlen.2)]
        dsimp only
        split
        next => exact negativeResponse_suppressed _ _ rfl
        next hnrc =>
          have hout : Answered False (atHandler x mode now) request capacity
              (udsDispatch (atHandler x mode now) request capacity now) :=
            udsDispatch_answered (fun h => h.elim) (fun h => h.elim) (fun h => h.elim)
              (UInt16.le_trans (by decide) hample.fixed) rfl
          refine hout.suppressed rfl hbuiltIn hknown fun hhushed => hloud ?_
          exact ⟨⟨hhushed.sid, hhushed.length, hhushed.suppressed, hhushed.ran⟩,
            not_not.mp hnrc, hlen.2⟩
    · unfold udsServerHandleAddressed
      rw [if_pos (by omega)]
      exact ⟨fun h => UdsCallbackResult.noConfusion h,
        fun _ hok => UdsCallbackResult.noConfusion hok⟩

end Request

/-- One routine, without a result. -/
def routineCallbacks : UdsCallbacks Unit where
  routineControl := some fun _ _ _ _ _ => ⟨.ok, [], 0, ()⟩

/-- A server in the extended session, where routines may be started. -/
def routineExchange : Exchange Unit where
  server := { udsServerInit routineCallbacks 0 with session := sessionExtended }
  response := fun _ => 0
  responseLen := 0
  world := ()

theorem routineCallbacks_ample : Ample routineCallbacks 64 := by
  refine ⟨by decide, fun f hf w sub id data => ?_⟩
  obtain rfl := Option.some.inj hf
  exact UInt16.zero_le

theorem suppression_rules_routine :
    RulesKept routineExchange [0x31, 0x01, 0x02, 0x03] 64 .physical 0 ↔
      ¬RoutineSilenced routineExchange [0x31, 0x01, 0x02, 0x03] 64 .physical :=
  suppression_rules routineExchange [0x31, 0x01, 0x02, 0x03] 64 .physical 0 routineCallbacks_ample
    (by decide)

/-- A routine started in silence: no response, and four bytes of it. -/
theorem routine_counted :
    Ample routineExchange.server.callbacks 64 ∧
      (udsServerHandleAddressed routineExchange [0x31, 0x81, 0x02, 0x03] 64 .physical 0).1
        = .noResponse ∧
      (udsServerHandleAddressed routineExchange [0x31, 0x81, 0x02, 0x03] 64 .physical
        0).2.responseLen ≠ 0 :=
  ⟨routineCallbacks_ample, by decide, by decide⟩

end UdsIsoTp.Uds
