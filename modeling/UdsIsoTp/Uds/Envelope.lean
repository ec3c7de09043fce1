import UdsIsoTp.Uds.Effects

/-!
# What a response looks like

Every handler ends in a negative response, in silence, or in a positive response behind
the service identifier plus 0x40; `Answered` lists these ends for all of them, and
`udsDispatch_answered` says that there is no other.

How far into the buffer a handler writes depends on the callbacks, which are trusted to
stay within the room they are given (`Obedient`), and on the capacity checks of the
handlers themselves. Two handlers write their header before any check: InputOutputControl
three bytes, RoutineControl four (`Overruns`).
-/

namespace UdsIsoTp.Uds

variable {ω : Type}

/-! ## Callbacks that keep to their room -/

/-- The callback wrote no more, and claims no more, than it had room for. -/
structure Reply.Fits (reply : Reply ω) (room : UInt16) : Prop where
  data : reply.data.length ≤ room.toNat
  length : reply.length ≤ room

/-- Every callback keeps to its room, and a backend that succeeds has written a positive
response. -/
structure Obedient (callbacks : UdsCallbacks ω) : Prop where
  readDid : ∀ f ∈ callbacks.readDid, ∀ w did room, (f w did room).Fits room
  readDtc : ∀ f ∈ callbacks.readDtc, ∀ w sub data room, (f w sub data room).Fits room
  dtcBackend : ∀ b ∈ callbacks.dtcBackend, ∀ f ∈ b.report, ∀ w sub data room,
    (f w sub data room).Fits room
  securitySeed : ∀ f ∈ callbacks.securitySeed, ∀ w level room, (f w level room).Fits room
  ioControl : ∀ f ∈ callbacks.ioControl, ∀ w did data room, (f w did data room).Fits room
  routineControl : ∀ f ∈ callbacks.routineControl, ∀ w sub id data room,
    (f w sub id data room).Fits room
  requestTransferExit : ∀ f ∈ callbacks.requestTransferExit, ∀ w data room,
    (f w data room).Fits room
  backend : ∀ sid, ∀ f ∈ udsServiceBackendsHandler callbacks.serviceBackends sid,
    ∀ w request room, (f w request room).Fits room
  positive : ∀ f request w room,
    udsServiceBackendsHandler callbacks.serviceBackends (byteAt request 0) = some f →
    (f w request room).result = .ok → 1 ≤ (f w request room).length ∧
      (f w request room).data.head? = some (byteAt request 0 + 0x40)

/-! ## Buffers that agree from an index on -/

/-- Nothing from the index `n` on has been written. -/
structure Within (n : Nat) (before after : Buf) : Prop where
  same : ∀ i, n ≤ i → after i = before i

theorem Within.refl (n : Nat) (b : Buf) : Within n b b := ⟨fun _ _ => rfl⟩

theorem Within.trans {n : Nat} {a b c : Buf} (h : Within n a b) (h' : Within n b c) :
    Within n a c := ⟨fun i hi => (h'.same i hi).trans (h.same i hi)⟩

theorem Within.write {n i : Nat} {b c : Buf} (h : Within n b c) (hi : i < n) (v : UInt8) :
    Within n b (c.write i v) := by
  refine ⟨fun k hk => ?_⟩
  rw [Buf.write_of_ne (by omega)]
  exact h.same k hk

theorem Within.copy {n off start m : Nat} {b c : Buf} (h : Within n b c) (src : Buf)
    (hm : off + m ≤ n) : Within n b (c.copy off src start m) := by
  refine ⟨fun k hk => ?_⟩
  rw [Buf.copy_outside (by omega)]
  exact h.same k hk

/-- A header of two bytes, and one of three. -/
theorem within_two {n : Nat} (h : 2 ≤ n) (b : Buf) (u v : UInt8) :
    Within n b ((b.write 0 u).write 1 v) :=
  ((Within.refl n b).write (by omega) u).write (by omega) v

theorem within_three {n : Nat} (h : 3 ≤ n) (b : Buf) (u v t : UInt8) :
    Within n b (((b.write 0 u).write 1 v).write 2 t) :=
  (within_two (by omega) b u v).write (by omega) t

/-- What is still free behind `used` bytes. -/
theorem room_behind {capacity used n : UInt16} (hused : used ≤ capacity)
    (hn : n ≤ capacity - used) :
    used.toNat + n.toNat ≤ capacity.toNat ∧ (used + n).toNat = used.toNat + n.toNat := by
  have hbound := capacity.toNat_lt
  rw [UInt16.le_iff_toNat_le] at hused hn
  rw [UInt16.toNat_sub_of_le _ _ (UInt16.le_iff_toNat_le.mpr hused)] at hn
  refine ⟨by omega, ?_⟩
  rw [UInt16.toNat_add]
  omega

/-- The room that a handler passes on behind a header of `k` bytes. -/
abbrev behind (k capacity : UInt16) : UInt16 := if k < capacity then capacity - k else 0

theorem Reply.Fits.within {k capacity : UInt16} {reply : Reply ω} {b c : Buf}
    (hfits : reply.Fits (behind k capacity)) (h : Within capacity.toNat b c) :
    Within capacity.toNat b (c.copy k.toNat (Buf.ofList reply.data) 0 reply.data.length) := by
  have hdata := hfits.data
  unfold behind at hdata
  split at hdata
  next hlt =>
    have hle := UInt16.le_of_lt hlt
    rw [UInt16.toNat_sub_of_le _ _ hle] at hdata
    rw [UInt16.le_iff_toNat_le] at hle
    exact h.copy _ (by omega)
  next =>
    replace hdata : reply.data.length ≤ 0 := hdata
    rw [Nat.le_zero.mp hdata, Buf.copy_zero]
    exact h

/-- With the header in place, the reported length fits behind it. -/
theorem Reply.Fits.counted {k capacity : UInt16} {reply : Reply ω}
    (hfits : reply.Fits (behind k capacity)) (hk : k ≤ capacity) :
    k ≤ k + reply.length ∧ k + reply.length ≤ capacity := by
  have hlength := hfits.length
  unfold behind at hlength
  split at hlength <;> grind

/-! ## How a handler ends -/

/-- What a handler holds while it works. `room` stands for whatever is assumed of the
capacity and of the callbacks. -/
structure Held (room : Prop) (x : Exchange ω) (capacity : UInt16) (y : Exchange ω) : Prop where
  mode : y.server.currentAddressMode = x.server.currentAddressMode
  within : room → Within capacity.toNat x.response y.response

/-- A positive response to the request. -/
structure Positive (request : List UInt8) (capacity : UInt16) (y : Exchange ω) : Prop where
  first : y.response 0 = byteAt request 0 + 0x40
  nonempty : 1 ≤ y.responseLen
  fits : y.responseLen ≤ capacity

/-- The services that are handed to a backend. -/
def modularServices : List UInt8 :=
  [0x23, 0x24, 0x29, 0x2A, 0x2C, 0x35, 0x38, 0x3D, 0x83, 0x84, 0x86, 0x87]

/-- A routine has run, and the request asked for silence. -/
structure RoutineHushed (x : Exchange ω) (request : List UInt8) (capacity : UInt16) : Prop where
  sid : byteAt request 0 = 0x31
  length : 4 ≤ request.length
  suppressed : byteAt request 1 &&& suppressPositiveResponse ≠ 0
  ran : ∃ f, x.server.callbacks.routineControl = some f ∧
    (f x.world (byteAt request 1 &&& 0x7F) (readU16 request 2) (request.drop 4)
      (if 4 < capacity then capacity - 4 else 0)).result = .ok

/-- The ways a handler ends. -/
inductive Answered (room : Prop) (x : Exchange ω) (request : List UInt8) (capacity : UInt16) :
    Served ω → Prop
  | refused {y : Exchange ω} (nrc : UInt8) (held : Held room x capacity y) :
      Answered room x request capacity (negativeResponse y request nrc capacity)
  | silent {y : Exchange ω} (held : Held room x capacity y) (empty : y.responseLen = 0) :
      Answered room x request capacity (.noResponse, y)
  | positive {y : Exchange ω} (held : Held room x capacity y)
      (first : y.response 0 = byteAt request 0 + 0x40)
      (fits : room → 1 ≤ y.responseLen ∧ y.responseLen ≤ capacity) :
      Answered room x request capacity (.ok, y)
  /-- The header of the routine's response is still counted. -/
  | hushed {y : Exchange ω} (held : Held room x capacity y)
      (routine : RoutineHushed x request capacity) :
      Answered room x request capacity (.noResponse, y)
  /-- A backend's own verdict. -/
  | delegated {y : Exchange ω} (result : UdsCallbackResult) (held : Held room x capacity y)
      (sid : byteAt request 0 ∈ modularServices)
      (positive : room → result = .ok → Positive request capacity y) :
      Answered room x request capacity (result, y)

section Ends

variable {room : Prop} {x y : Exchange ω} {request : List UInt8} {capacity : UInt16}
  {now : UInt32}

theorem Held.refl : Held room x capacity x := ⟨rfl, fun _ => .refl ..⟩

theorem negativeResponse_within (x : Exchange ω) (request : List UInt8) (nrc : UInt8)
    (capacity : UInt16) :
    Within capacity.toNat x.response (negativeResponse x request nrc capacity).2.response := by
  unfold negativeResponse
  split
  next => exact .refl ..
  next =>
    split
    next => exact .refl ..
    next hcap =>
      exact within_three (UInt16.le_iff_toNat_le.mp (UInt16.not_lt.mp hcap)) ..

theorem callbackResult_within (x : Exchange ω) (result : UdsCallbackResult)
    (request : List UInt8) (capacity : UInt16) :
    Within capacity.toNat x.response (callbackResult x result request capacity).2.response := by
  unfold callbackResult
  split
  next => exact .refl ..
  next =>
    split
    next => exact .refl ..
    next => exact negativeResponse_within ..

/-- A response of a fixed length, once the capacity has been checked. -/
theorem fixed_answered {n : UInt16} (hcap : ¬capacity < n) (hpos : 1 ≤ n)
    (hlen : y.responseLen = n)
    (hmode : y.server.currentAddressMode = x.server.currentAddressMode)
    (hwithin : n.toNat ≤ capacity.toNat → Within capacity.toNat x.response y.response)
    (hfirst : y.response 0 = byteAt request 0 + 0x40) :
    Answered room x request capacity (.ok, y) := by
  have hroom := UInt16.not_lt.mp hcap
  refine .positive ⟨hmode, fun _ => hwithin (UInt16.le_iff_toNat_le.mp hroom)⟩ hfirst ?_
  intro _
  rw [hlen]
  exact ⟨hpos, hroom⟩

theorem two_answered {u v : UInt8} (hcap : ¬capacity < 2) (hlen : y.responseLen = 2)
    (hmode : y.server.currentAddressMode = x.server.currentAddressMode)
    (hresponse : y.response = (x.response.write 0 u).write 1 v)
    (hfirst : u = byteAt request 0 + 0x40) : Answered room x request capacity (.ok, y) := by
  refine fixed_answered hcap (by decide) hlen hmode (fun hroom => ?_) ?_
  · rw [hresponse]
    exact within_two hroom ..
  · rw [hresponse, ← hfirst]
    simp [Buf.write_apply]

theorem three_answered {u v t : UInt8} (hcap : ¬capacity < 3) (hlen : y.responseLen = 3)
    (hmode : y.server.currentAddressMode = x.server.currentAddressMode)
    (hresponse : y.response = ((x.response.write 0 u).write 1 v).write 2 t)
    (hfirst : u = byteAt request 0 + 0x40) : Answered room x request capacity (.ok, y) := by
  refine fixed_answered hcap (by decide) hlen hmode (fun hroom => ?_) ?_
  · rw [hresponse]
    exact within_three hroom ..
  · rw [hresponse, ← hfirst]
    simp [Buf.write_apply]

theorem requestSession_mode (server : UdsServer ω) (requested : UInt8) (now : UInt32) (w : ω) :
    (udsServerRequestSession server requested now w).2.1.currentAddressMode
      = server.currentAddressMode := by
  unfold udsServerRequestSession sessionReset
  dsimp only
  split_ifs <;> rfl

theorem callbackResult_answered {result : UdsCallbackResult} (hres : result ≠ .ok)
    (held : Held room x capacity y) :
    Answered room x request capacity (callbackResult y result request capacity) := by
  unfold callbackResult
  rw [if_neg hres]
  split
  next => exact .silent ⟨held.mode, held.within⟩ rfl
  next => exact .refused _ held

/-! ## The handlers -/

theorem serviceSessionControl_answered (hempty : x.responseLen = 0) (hsid : byteAt request 0 = 0x10) :
    Answered room x request capacity (serviceSessionControl x request capacity now) := by
  unfold serviceSessionControl
  split
  next => exact .refused _ .refl
  next =>
    dsimp only
    split
    next => exact .refused _ .refl
    next =>
      have hmode := requestSession_mode x.server (byteAt request 1 &&& 0x7F) now x.world
      split
      next => exact .refused _ ⟨hmode, fun _ => .refl ..⟩
      next =>
        split
        next => exact .silent ⟨hmode, fun _ => .refl ..⟩ hempty
        next =>
          split
          next => exact .refused _ ⟨hmode, fun _ => .refl ..⟩
          next hcap =>
            refine fixed_answered hcap (by decide) rfl hmode (fun hroom => ?_) ?_
            · replace hroom : 6 ≤ capacity.toNat := hroom
              exact (((within_three (by omega) ..).write (by omega) _).write (by omega) _).write
                (by omega) _
            · rw [hsid]
              simp [Buf.write_apply]

theorem serviceEcuReset_answered (hsid : byteAt request 0 = 0x11) :
    Answered room x request capacity (serviceEcuReset x request capacity) := by
  unfold serviceEcuReset
  split
  next => exact .refused _ .refl
  next =>
    dsimp only
    split
    next => exact .refused _ .refl
    next f hf =>
      split
      next => exact .refused _ .refl
      next =>
        split
        next hres => exact callbackResult_answered hres ⟨rfl, fun _ => .refl ..⟩
        next =>
          split
          next => exact .silent ⟨rfl, fun _ => .refl ..⟩ rfl
          next =>
            split
            next =>
              split
              next => exact .refused _ ⟨rfl, fun _ => .refl ..⟩
              next hcap =>
                refine three_answered hcap rfl rfl rfl ?_
                rw [hsid]
                rfl
            next =>
              split
              next => exact .refused _ ⟨rfl, fun _ => .refl ..⟩
              next hcap =>
                refine two_answered hcap rfl rfl rfl ?_
                rw [hsid]
                rfl

theorem serviceClearDtc_answered (hsid : byteAt request 0 = 0x14) :
    Answered room x request capacity (serviceClearDtc x request capacity) := by
  unfold serviceClearDtc
  split
  next => exact .refused _ .refl
  next =>
    split
    next => exact .refused _ .refl
    next f hf =>
      dsimp only
      split
      next hres => exact callbackResult_answered hres ⟨rfl, fun _ => .refl ..⟩
      next =>
        split
        next => exact .refused _ ⟨rfl, fun _ => .refl ..⟩
        next hcap =>
          refine fixed_answered hcap (by decide) rfl rfl (fun hroom => ?_) ?_
          · exact (Within.refl ..).write hroom _
          · rw [hsid]
            simp

/-- What follows the report of a callback behind the first byte. -/
theorem finishReadDtc_answered {reply : Reply ω} (hsid : byteAt request 0 = 0x19)
    (hcap : 1 ≤ capacity) (hmode : y.server.currentAddressMode = x.server.currentAddressMode)
    (hheader : y.response = x.response.write 0 0x59) (hone : y.responseLen = 1)
    (hfits : room → reply.Fits (capacity - 1)) :
    Answered room x request capacity (finishReadDtc y reply request capacity) := by
  have hwithin : room → Within capacity.toNat x.response
      (y.response.copy 1 (Buf.ofList reply.data) 0 reply.data.length) := by
    intro hroom
    have hdata := (hfits hroom).data
    rw [UInt16.toNat_sub_of_le _ _ hcap] at hdata
    have hpos : 1 ≤ capacity.toNat := UInt16.le_iff_toNat_le.mp hcap
    replace hdata : reply.data.length ≤ capacity.toNat - 1 := hdata
    rw [hheader]
    exact ((Within.refl ..).write (by omega) _).copy _ (by omega)
  unfold finishReadDtc
  dsimp only
  split
  next hres => exact callbackResult_answered hres ⟨hmode, hwithin⟩
  next =>
    split
    next => exact .refused _ ⟨hmode, hwithin⟩
    next hlen =>
      rw [hone] at hlen ⊢
      refine .positive ⟨hmode, hwithin⟩ ?_ fun _ => ?_
      · show y.response.copy 1 (Buf.ofList reply.data) 0 reply.data.length 0 = _
        rw [Buf.copy_outside (by omega), hheader, hsid]
        simp
      · show 1 ≤ 1 + reply.length ∧ 1 + reply.length ≤ capacity
        grind

theorem serviceReadDtc_answered (hobey : room → Obedient x.server.callbacks)
    (hsid : byteAt request 0 = 0x19) :
    Answered room x request capacity (serviceReadDtc x request capacity) := by
  unfold serviceReadDtc
  dsimp only
  split
  next => exact .refused _ .refl
  next =>
    split
    next => exact .refused _ .refl
    next =>
      split
      next => exact .refused _ .refl
      next =>
        split
        next => exact .refused _ .refl
        next =>
          split
          next => exact .refused _ .refl
          next hcap =>
            replace hcap := UInt16.not_lt.mp hcap
            have hheld : ∀ y : Exchange ω, y.server = x.server →
                y.response = x.response.write 0 0x59 → Held room x capacity y := by
              intro y hserver hresponse
              refine ⟨by rw [hserver], fun _ => ?_⟩
              rw [hresponse]
              exact (Within.refl ..).write (UInt16.le_iff_toNat_le.mp hcap) _
            split
            next backend hb =>
              split
              next => exact .refused _ (hheld _ rfl rfl)
              next =>
                split
                next => exact .refused _ (hheld _ rfl rfl)
                next f hf =>
                  exact finishReadDtc_answered hsid hcap rfl rfl rfl fun hroom =>
                    (hobey hroom).dtcBackend _ hb f hf ..
            next =>
              split
              next => exact .refused _ (hheld _ rfl rfl)
              next f hf =>
                exact finishReadDtc_answered hsid hcap rfl rfl rfl fun hroom =>
                  (hobey hroom).readDtc f hf ..

theorem serviceDtcSetting_answered (hempty : x.responseLen = 0)
    (hsid : byteAt request 0 = 0x85) :
    Answered room x request capacity (serviceDtcSetting x request capacity) := by
  unfold serviceDtcSetting
  split
  next => exact .refused _ .refl
  next f hf =>
    split
    next => exact .refused _ .refl
    next =>
      dsimp only
      split
      next => exact .refused _ .refl
      next =>
        split
        next hres => exact callbackResult_answered hres ⟨rfl, fun _ => .refl ..⟩
        next =>
          split
          next => exact .silent ⟨rfl, fun _ => .refl ..⟩ hempty
          next =>
            split
            next => exact .refused _ ⟨rfl, fun _ => .refl ..⟩
            next hcap =>
              refine two_answered hcap rfl rfl rfl ?_
              rw [hsid]
              rfl

/-! ## Data identifiers -/

/-- The exchange after one identifier and the bytes its callback wrote. -/
def readOne (y : Exchange ω) (high low : UInt8) (reply : Reply ω) : Exchange ω :=
  { y with
    response := ((y.response.write y.responseLen.toNat high).write
      (y.responseLen.toNat + 1) low).copy (y.responseLen + 2).toNat (Buf.ofList reply.data) 0
        reply.data.length
    responseLen := y.responseLen + 2
    world := reply.world }

/-- It stays behind the first byte and within the capacity. -/
theorem readOne_held (held : Held room x capacity y) (hfirst : y.response 0 = 0x62)
    (hpos : 1 ≤ y.responseLen) (hle : y.responseLen ≤ capacity)
    (hroom : ¬capacity - y.responseLen < 2) (high low : UInt8) {reply : Reply ω}
    (hfits : room → reply.Fits (capacity - (y.responseLen + 2))) :
    Held room x capacity (readOne y high low reply) ∧
      (readOne y high low reply).response 0 = 0x62 ∧ 1 ≤ y.responseLen + 2 ∧
      y.responseLen + 2 ≤ capacity := by
  obtain ⟨hend, htwo⟩ := room_behind hle (UInt16.not_lt.mp hroom)
  replace hend : y.responseLen.toNat + 2 ≤ capacity.toNat := hend
  replace htwo : (y.responseLen + 2).toNat = y.responseLen.toNat + 2 := htwo
  have hone : 1 ≤ y.responseLen.toNat := UInt16.le_iff_toNat_le.mp hpos
  have hfree : y.responseLen + 2 ≤ capacity := by grind
  refine ⟨⟨held.mode, fun h => ?_⟩, ?_, by grind, hfree⟩
  · have hdata := (hfits h).data
    rw [UInt16.toNat_sub_of_le _ _ hfree, htwo] at hdata
    exact (((held.within h).write (by omega) _).write (by omega) _).copy _ (by omega)
  · show Buf.copy _ _ _ _ _ 0 = _
    rw [Buf.copy_outside (by omega), Buf.write_of_ne (by omega), Buf.write_of_ne (by omega)]
    exact hfirst

/-- The loop over the identifiers. -/
theorem readDids_answered {readDid : ω → UInt16 → UInt16 → Reply ω}
    (hfits : room → ∀ w did n, (readDid w did n).Fits n) (hsid : byteAt request 0 = 0x22)
    (dids : List UInt8) (y : Exchange ω) (held : Held room x capacity y)
    (hfirst : y.response 0 = 0x62) (hpos : 1 ≤ y.responseLen) (hle : y.responseLen ≤ capacity) :
    Answered room x request capacity (readDids readDid request capacity dids y) := by
  induction dids, y using readDids.induct readDid capacity with
  | case1 high low rest y hroom =>
    rw [readDids, if_pos hroom]
    exact .refused _ held
  | case2 high low rest y hroom at_ response z did reply hres =>
    obtain ⟨hheld, -⟩ := readOne_held held hfirst hpos hle hroom high low
      fun h => hfits h y.world did (capacity - (y.responseLen + 2))
    rw [readDids, if_neg hroom, if_pos hres]
    exact callbackResult_answered hres hheld
  | case3 high low rest y hroom at_ response z did reply z' hres hlen =>
    obtain ⟨hheld, -⟩ := readOne_held held hfirst hpos hle hroom high low
      fun h => hfits h y.world did (capacity - (y.responseLen + 2))
    rw [readDids, if_neg hroom, if_neg hres, if_pos hlen]
    exact .refused _ hheld
  | case4 high low rest y hroom at_ response z did reply z' hres hlen ih =>
    obtain ⟨hheld, hfirst', hpos', hle'⟩ := readOne_held held hfirst hpos hle hroom high low
      fun h => hfits h y.world did (capacity - (y.responseLen + 2))
    rw [readDids, if_neg hroom, if_neg hres, if_neg hlen]
    replace hlen : ¬capacity - (y.responseLen + 2) < reply.length := hlen
    refine ih ⟨hheld.mode, hheld.within⟩ hfirst' ?_ ?_
    · show 1 ≤ y.responseLen + 2 + reply.length
      grind
    · show y.responseLen + 2 + reply.length ≤ capacity
      grind
  | case5 dids y hshort =>
    rw [readDids]
    · exact .positive held (by rw [hfirst, hsid]; rfl) fun _ => ⟨hpos, hle⟩
    · exact hshort

theorem serviceReadData_answered (hobey : room → Obedient x.server.callbacks)
    (hcap : 1 ≤ capacity) (hsid : byteAt request 0 = 0x22) :
    Answered room x request capacity (serviceReadData x request capacity) := by
  unfold serviceReadData
  split
  next => exact .refused _ .refl
  next f hf =>
    split
    next => exact .refused _ .refl
    next =>
      refine readDids_answered (fun h => (hobey h).readDid f hf) hsid _ _ ⟨rfl, fun _ => ?_⟩ ?_
        (UInt16.le_refl 1) hcap
      · exact (Within.refl ..).write (UInt16.le_iff_toNat_le.mp hcap) _
      · simp

theorem serviceWriteData_answered (hsid : byteAt request 0 = 0x2E) :
    Answered room x request capacity (serviceWriteData x request capacity) := by
  unfold serviceWriteData
  split
  next => exact .refused _ .refl
  next =>
    split
    next => exact .refused _ .refl
    next f hf =>
      dsimp only
      split
      next hres => exact callbackResult_answered hres ⟨rfl, fun _ => .refl ..⟩
      next =>
        split
        next => exact .refused _ ⟨rfl, fun _ => .refl ..⟩
        next hcap =>
          refine three_answered hcap rfl rfl rfl ?_
          rw [hsid]
          rfl

/-! ## SecurityAccess -/

theorem serviceSecuritySeed_answered {securitySeed : ω → UInt8 → UInt16 → Reply ω}
    (hfits : room → ∀ w level n, (securitySeed w level n).Fits n)
    (hsid : byteAt request 0 = 0x27)
    (hmode : y.server.currentAddressMode = x.server.currentAddressMode)
    (hsame : y.response = x.response) (subfunction level : UInt8) :
    Answered room x request capacity
      (serviceSecuritySeed securitySeed y request capacity subfunction level now) := by
  unfold serviceSecuritySeed
  split
  next => exact .refused _ ⟨hmode, fun _ => hsame ▸ .refl ..⟩
  next =>
    have hreply := fun h => hfits h y.world level (behind 2 capacity)
    dsimp only
    generalize securitySeed y.world level (if 2 < capacity then capacity - 2 else 0) = reply
      at hreply ⊢
    have hwithin : room → Within capacity.toNat x.response
        (y.response.copy 2 (Buf.ofList reply.data) 0 reply.data.length) :=
      fun h => (hreply h).within (hsame ▸ .refl ..)
    split
    next hres => exact callbackResult_answered hres ⟨hmode, hwithin⟩
    next =>
      split
      next => exact .refused _ ⟨hmode, hwithin⟩
      next hlen =>
        -- what an obedient callback has written fits behind the header
        have hroom : room → 2 ≤ capacity ∧ 2 + reply.length ≤ capacity ∧
            1 ≤ 2 + reply.length ∧ 2 + reply.length.toNat ≤ capacity.toNat := by
          intro h
          have hlength := (hreply h).length
          have htwo : 2 ≤ capacity := by
            unfold behind at hlength
            split at hlength <;> grind
          have hcounted := (hreply h).counted htwo
          have hadd := room_behind htwo (n := reply.length) (by grind)
          exact ⟨htwo, hcounted.2, by grind, hadd.1⟩
        have hheader : ∀ (b : Buf) (u v : UInt8), (room → Within capacity.toNat x.response b) →
            room → Within capacity.toNat x.response ((b.write 0 u).write 1 v) :=
          fun b u v hb h => (hb h).trans (within_two (UInt16.le_iff_toNat_le.mp (hroom h).1) b u v)
        split
        next =>
          refine .positive ⟨hmode, hheader _ _ _ fun h => ?_⟩ ?_
            fun h => ⟨(hroom h).2.2.1, (hroom h).2.1⟩
          · exact (hwithin h).copy _ (hroom h).2.2.2
          · rw [hsid]
            simp [Buf.write_apply]
        next =>
          refine .positive ⟨hmode, hheader _ _ _ hwithin⟩ ?_
            fun h => ⟨(hroom h).2.2.1, (hroom h).2.1⟩
          rw [hsid]
          simp [Buf.write_apply]

theorem serviceSecurityKey_answered {securityKey : ω → UInt8 → List UInt8 → UdsCallbackResult × ω}
    (hsid : byteAt request 0 = 0x27)
    (hmode : y.server.currentAddressMode = x.server.currentAddressMode)
    (hsame : y.response = x.response) (hempty : y.responseLen = 0) (subfunction level : UInt8) :
    Answered room x request capacity
      (serviceSecurityKey securityKey y request capacity subfunction level now) := by
  have hheld : ∀ gate w, Held room x capacity
      { y with server := { y.server with securityGate := gate }, world := w } :=
    fun _ _ => ⟨hmode, fun _ => hsame ▸ .refl ..⟩
  unfold serviceSecurityKey
  split
  next => exact .refused _ ⟨hmode, fun _ => hsame ▸ .refl ..⟩
  next =>
    dsimp only
    split
    next =>
      split
      next => exact .refused _ (hheld _ _)
      next => exact .refused _ (hheld _ _)
    next =>
      split
      next hres => exact callbackResult_answered hres ⟨hmode, fun _ => hsame ▸ .refl ..⟩
      next =>
        split
        next => exact .silent (hheld _ _) hempty
        next =>
          split
          next => exact .refused _ (hheld _ _)
          next hcap =>
            refine two_answered hcap rfl hmode (by rw [← hsame]) ?_
            rw [hsid]
            rfl

theorem serviceSecurityAccess_answered (hobey : room → Obedient x.server.callbacks)
    (hempty : x.responseLen = 0) (hsid : byteAt request 0 = 0x27) :
    Answered room x request capacity (serviceSecurityAccess x request capacity now) := by
  unfold serviceSecurityAccess
  split
  next => exact .refused _ .refl
  next =>
    split
    next seed key hseed hkey =>
      dsimp only
      split
      next => exact .refused _ ⟨rfl, fun _ => .refl ..⟩
      next =>
        split
        next => exact .refused _ ⟨rfl, fun _ => .refl ..⟩
        next level isSeed hlevel =>
          split
          next => exact .refused _ ⟨rfl, fun _ => .refl ..⟩
          next =>
            split
            next =>
              refine serviceSecuritySeed_answered (fun h => ?_) hsid (by rfl) (by rfl) _ _
              exact (hobey h).securitySeed seed hseed
            next => exact serviceSecurityKey_answered hsid (by rfl) (by rfl) (by exact hempty) _ _
    next => exact .refused _ .refl

/-! ## Control of communication, outputs and routines -/

theorem serviceCommunicationControl_answered (hempty : x.responseLen = 0)
    (hsid : byteAt request 0 = 0x28) :
    Answered room x request capacity (serviceCommunicationControl x request capacity) := by
  unfold serviceCommunicationControl
  split
  next => exact .refused _ .refl
  next f hf =>
    split
    next => exact .refused _ .refl
    next =>
      dsimp only
      split
      next hres => exact callbackResult_answered hres ⟨rfl, fun _ => .refl ..⟩
      next =>
        split
        next => exact .silent ⟨rfl, fun _ => .refl ..⟩ hempty
        next =>
          split
          next => exact .refused _ ⟨rfl, fun _ => .refl ..⟩
          next hcap =>
            refine three_answered hcap rfl rfl rfl ?_
            rw [hsid]
            rfl

/-- The header goes out before any check. -/
theorem serviceIoControl_answered (hobey : room → Obedient x.server.callbacks)
    (hcap : room → x.server.callbacks.ioControl.isSome = true → 4 ≤ request.length →
      3 ≤ capacity) (hsid : byteAt request 0 = 0x2F) :
    Answered room x request capacity (serviceIoControl x request capacity) := by
  unfold serviceIoControl
  split
  next => exact .refused _ .refl
  next f hf =>
    split
    next => exact .refused _ .refl
    next hlen =>
      have hroom : room → 3 ≤ capacity :=
        fun h => hcap h (by rw [hf]; rfl) (Nat.le_of_not_lt hlen)
      have hreply := fun h => (hobey h).ioControl f hf x.world (readU16 request 1)
        (request.drop 3) (behind 3 capacity)
      dsimp only
      generalize f x.world (readU16 request 1) (request.drop 3)
        (if 3 < capacity then capacity - 3 else 0) = reply at hreply ⊢
      have hwithin : room → Within capacity.toNat x.response
          ((((x.response.write 0 0x6F).write 1 (byteAt request 1)).write 2
            (byteAt request 2)).copy 3 (Buf.ofList reply.data) 0 reply.data.length) :=
        fun h => (hreply h).within (within_three (UInt16.le_iff_toNat_le.mp (hroom h)) ..)
      split
      next hres => exact callbackResult_answered hres ⟨rfl, hwithin⟩
      next =>
        split
        next => exact .refused _ ⟨rfl, hwithin⟩
        next =>
          refine .positive ⟨rfl, hwithin⟩ ?_ fun h => ?_
          · rw [hsid]
            simp [Buf.copy_outside, Buf.write_apply]
          · have hcounted := (hreply h).counted (hroom h)
            exact ⟨UInt16.le_trans (by decide) hcounted.1, hcounted.2⟩

/-- So does this one, and silence leaves it counted. -/
theorem serviceRoutineControl_answered (hobey : room → Obedient x.server.callbacks)
    (hcap : room → x.server.callbacks.routineControl.isSome = true → 4 ≤ request.length →
      4 ≤ capacity) (hsid : byteAt request 0 = 0x31) :
    Answered room x request capacity (serviceRoutineControl x request capacity) := by
  unfold serviceRoutineControl
  split
  next => exact .refused _ .refl
  next f hf =>
    split
    next => exact .refused _ .refl
    next hlen =>
      have hroom : room → 4 ≤ capacity :=
        fun h => hcap h (by rw [hf]; rfl) (Nat.le_of_not_lt hlen)
      have hreply := fun h => (hobey h).routineControl f hf x.world (byteAt request 1 &&& 0x7F)
        (readU16 request 2) (request.drop 4) (behind 4 capacity)
      have hhushed : ∀ (_ : byteAt request 1 &&& suppressPositiveResponse ≠ 0)
          (_ : (f x.world (byteAt request 1 &&& 0x7F) (readU16 request 2) (request.drop 4)
            (if 4 < capacity then capacity - 4 else 0)).result = .ok),
          RoutineHushed x request capacity := by
        intro hbit hok
        exact ⟨hsid, Nat.le_of_not_lt hlen, hbit, f, hf, hok⟩
      dsimp only
      generalize f x.world (byteAt request 1 &&& 0x7F) (readU16 request 2) (request.drop 4)
        (if 4 < capacity then capacity - 4 else 0) = reply at hreply hhushed ⊢
      have hwithin : room → Within capacity.toNat x.response
          (((((x.response.write 0 0x71).write 1 (byteAt request 1 &&& 0x7F)).write 2
            (byteAt request 2)).write 3 (byteAt request 3)).copy 4 (Buf.ofList reply.data) 0
              reply.data.length) := by
        intro h
        have hfour : 4 ≤ capacity.toNat := UInt16.le_iff_toNat_le.mp (hroom h)
        exact (hreply h).within ((within_three (by omega) ..).write (by omega) _)
      split
      next hres => exact callbackResult_answered hres ⟨rfl, hwithin⟩
      next hres =>
        split
        next hbit => exact .hushed ⟨rfl, hwithin⟩ (hhushed hbit (not_not.mp hres))
        next =>
          split
          next => exact .refused _ ⟨rfl, hwithin⟩
          next =>
            refine .positive ⟨rfl, hwithin⟩ ?_ fun h => ?_
            · rw [hsid]
              simp [Buf.copy_outside, Buf.write_apply]
            · have hcounted := (hreply h).counted (hroom h)
              exact ⟨UInt16.le_trans (by decide) hcounted.1, hcounted.2⟩

/-! ## Download -/

theorem serviceDownload_answered (hsid : byteAt request 0 = 0x34) :
    Answered room x request capacity (serviceDownload x request capacity) := by
  unfold serviceDownload
  split
  next => exact .refused _ .refl
  next f hf =>
    split
    next => exact .refused _ .refl
    next =>
      dsimp only
      split
      next => exact .refused _ .refl
      next =>
        split
        next hres => exact callbackResult_answered hres ⟨rfl, fun _ => .refl ..⟩
        next =>
          split
          next => exact .refused _ ⟨rfl, fun _ => .refl ..⟩
          next hshort =>
            have hcap : ¬capacity < 4 := fun h => hshort (.inr h)
            refine fixed_answered hcap (by decide) rfl rfl (fun hroom => ?_) ?_
            · replace hroom : 4 ≤ capacity.toNat := hroom
              exact (within_three (by omega) ..).write (by omega) _
            · rw [hsid]
              simp [Buf.write_apply]

theorem serviceTransferData_answered (hsid : byteAt request 0 = 0x36) :
    Answered room x request capacity (serviceTransferData x request capacity) := by
  unfold serviceTransferData
  split
  next => exact .refused _ .refl
  next f hf =>
    split
    next => exact .refused _ .refl
    next =>
      split
      next => exact .refused _ .refl
      next =>
        split
        next => exact .refused _ .refl
        next =>
          dsimp only
          split
          next hres => exact callbackResult_answered hres ⟨rfl, fun _ => .refl ..⟩
          next =>
            split
            next => exact .refused _ ⟨rfl, fun _ => .refl ..⟩
            next hcap =>
              refine two_answered hcap rfl rfl rfl ?_
              rw [hsid]
              rfl

theorem serviceTransferExit_answered (hobey : room → Obedient x.server.callbacks)
    (hcap : 1 ≤ capacity) (hsid : byteAt request 0 = 0x37) :
    Answered room x request capacity (serviceTransferExit x request capacity) := by
  unfold serviceTransferExit
  split
  next => exact .refused _ .refl
  next f hf =>
    split
    next => exact .refused _ .refl
    next =>
      have hreply := fun h => (hobey h).requestTransferExit f hf x.world (request.drop 1)
        (behind 1 capacity)
      dsimp only
      generalize f x.world (request.drop 1) (if 1 < capacity then capacity - 1 else 0) = reply
        at hreply ⊢
      have hwithin : room → Within capacity.toNat x.response
          (x.response.copy 1 (Buf.ofList reply.data) 0 reply.data.length) :=
        fun h => (hreply h).within (.refl ..)
      split
      next hres => exact callbackResult_answered hres ⟨rfl, hwithin⟩
      next =>
        split
        next => exact .refused _ ⟨rfl, hwithin⟩
        next =>
          refine .positive ⟨rfl, fun h => (hwithin h).write ?_ _⟩ ?_ fun h => ?_
          · exact UInt16.le_iff_toNat_le.mp hcap
          · rw [hsid]
            simp
          · have hcounted := (hreply h).counted hcap
            rw [UInt16.add_comm]
            exact hcounted

/-! ## TesterPresent and the modular services -/

theorem serviceTesterPresent_answered (hempty : x.responseLen = 0)
    (hsid : byteAt request 0 = 0x3E) :
    Answered room x request capacity (serviceTesterPresent x request capacity) := by
  unfold serviceTesterPresent
  split
  next => exact .refused _ .refl
  next =>
    split
    next => exact .refused _ .refl
    next =>
      split
      next => exact .silent .refl hempty
      next =>
        split
        next => exact .refused _ .refl
        next hcap =>
          refine two_answered hcap rfl rfl rfl ?_
          rw [hsid]
          rfl

theorem serviceModularBackend_answered (hobey : room → Obedient x.server.callbacks)
    (hsid : byteAt request 0 ∈ modularServices) :
    Answered room x request capacity (serviceModularBackend x request capacity) := by
  unfold serviceModularBackend
  dsimp only
  split
  next hres => exact callbackResult_answered hres ⟨rfl, fun _ => .refl ..⟩
  next =>
    split
    next => exact .refused _ ⟨rfl, fun _ => .refl ..⟩
    next f hf =>
      have hfits := fun h => (hobey h).backend _ f hf (udsServiceBackendsPreflight
        x.server.callbacks.serviceBackends (byteAt request 0) request x.world).2 request capacity
      have hpositive := fun h => (hobey h).positive f request (udsServiceBackendsPreflight
        x.server.callbacks.serviceBackends (byteAt request 0) request x.world).2 capacity hf
      generalize f _ request capacity = reply at hfits hpositive ⊢
      have hheld : Held room x capacity
          { x with
            response := x.response.copy 0 (Buf.ofList reply.data) 0 reply.data.length
            responseLen := reply.length
            world := reply.world } := by
        refine ⟨rfl, fun h => (Within.refl ..).copy _ ?_⟩
        rw [Nat.zero_add]
        exact (hfits h).data
      split
      next hsilent => exact .delegated _ hheld hsid fun _ hok => absurd hok (by decide)
      next =>
        split
        next hres => exact callbackResult_answered hres hheld
        next hres =>
          split
          next => exact .refused _ hheld
          next =>
            refine .delegated _ hheld hsid fun h _ => ?_
            obtain ⟨hnonempty, hhead⟩ := hpositive h (not_not.mp hres)
            refine ⟨?_, hnonempty, (hfits h).length⟩
            obtain ⟨rest, hdata⟩ := List.head?_eq_some_iff.mp hhead
            show x.response.copy 0 (Buf.ofList reply.data) 0 reply.data.length (0 + 0) = _
            have hpos : 0 < reply.data.length := by simp [hdata]
            rw [Buf.copy_inside hpos, hdata]
            rfl

/-- Every row of the dispatch table. -/
theorem udsDispatch_answered (hobey : room → Obedient x.server.callbacks)
    (hio : room → byteAt request 0 = 0x2F → x.server.callbacks.ioControl.isSome = true →
      4 ≤ request.length → 3 ≤ capacity)
    (hroutine : room → byteAt request 0 = 0x31 →
      x.server.callbacks.routineControl.isSome = true → 4 ≤ request.length → 4 ≤ capacity)
    (hcap : 1 ≤ capacity) (hempty : x.responseLen = 0) :
    Answered room x request capacity (udsDispatch x request capacity now) := by
  have hrows : ∀ entry ∈ serviceDispatchTable (ω := ω), entry.1 = byteAt request 0 →
      Answered room x request capacity (entry.2 x request capacity now) := by
    have hmodular : ∀ sid ∈ modularServices, sid = byteAt request 0 →
        Answered room x request capacity (serviceModularBackend x request capacity) :=
      fun sid hmem h => serviceModularBackend_answered hobey (h ▸ hmem)
    simp only [serviceDispatchTable, List.forall_mem_cons]
    exact ⟨fun h => serviceSessionControl_answered hempty h.symm,
      fun h => serviceEcuReset_answered h.symm,
      fun h => serviceClearDtc_answered h.symm,
      fun h => serviceReadDtc_answered hobey h.symm,
      fun h => serviceReadData_answered hobey hcap h.symm,
      hmodular _ (by decide),
      hmodular _ (by decide),
      fun h => serviceSecurityAccess_answered hobey hempty h.symm,
      fun h => serviceCommunicationControl_answered hempty h.symm,
      hmodular _ (by decide),
      hmodular _ (by decide),
      hmodular _ (by decide),
      fun h => serviceWriteData_answered h.symm,
      fun h => serviceIoControl_answered hobey (fun hr => hio hr h.symm) h.symm,
      fun h => serviceRoutineControl_answered hobey (fun hr => hroutine hr h.symm) h.symm,
      fun h => serviceDownload_answered h.symm,
      hmodular _ (by decide),
      fun h => serviceTransferData_answered h.symm,
      fun h => serviceTransferExit_answered hobey hcap h.symm,
      hmodular _ (by decide),
      hmodular _ (by decide),
      fun h => serviceTesterPresent_answered hempty h.symm,
      hmodular _ (by decide),
      hmodular _ (by decide),
      fun h => serviceDtcSetting_answered hempty h.symm,
      hmodular _ (by decide),
      hmodular _ (by decide), by simp⟩
  unfold udsDispatch
  split
  next entry hfind =>
    exact hrows entry (List.mem_of_find?_eq_some hfind) (by simpa using List.find?_some hfind)
  next => exact .refused _ .refl

end Ends

/-! ## The envelope -/

/-- The three bytes of a negative response to the request. -/
structure IsNegative (request : List UInt8) (y : Exchange ω) : Prop where
  length : y.responseLen = 3
  first : y.response 0 = 0x7F
  second : y.response 1 = byteAt request 0

/-- Nothing is written behind the capacity, and a response that goes out has its length and
one of the two shapes. -/
structure Enveloped (request : List UInt8) (capacity : UInt16) (x : Exchange ω)
    (out : Served ω) : Prop where
  within : Within capacity.toNat x.response out.2.response
  framed : out.1 = .ok → 1 ≤ out.2.responseLen ∧ out.2.responseLen ≤ capacity ∧
    (IsNegative request out.2 ∨ out.2.response 0 = byteAt request 0 + 0x40)

/-- The request reaches one of the two handlers that write their header before they look at
the capacity, and the header is longer. -/
def Overruns (server : UdsServer ω) (request : List UInt8) (capacity : UInt16)
    (mode : UdsAddressMode) : Prop :=
  checkServiceAttributes server request mode = 0 ∧ 4 ≤ request.length ∧
    ((byteAt request 0 = 0x2F ∧ server.callbacks.ioControl.isSome = true ∧ capacity < 3) ∨
      (byteAt request 0 = 0x31 ∧ server.callbacks.routineControl.isSome = true ∧ capacity < 4))

section Envelope

variable {x y : Exchange ω} {request : List UInt8} {capacity : UInt16} {mode : UdsAddressMode}
  {now : UInt32}

theorem negativeResponse_enveloped (held : Held True x capacity y) (nrc : UInt8) :
    Enveloped request capacity x (negativeResponse y request nrc capacity) := by
  refine ⟨(held.within trivial).trans (negativeResponse_within ..), fun hok => ?_⟩
  unfold negativeResponse at hok ⊢
  split at hok
  next => exact UdsCallbackResult.noConfusion hok
  next hloud =>
    rw [if_neg hloud]
    split at hok
    next => exact UdsCallbackResult.noConfusion hok
    next hcap =>
      rw [if_neg hcap]
      refine ⟨?_, UInt16.not_lt.mp hcap, .inl ⟨rfl, ?_, ?_⟩⟩
      · show (1 : UInt16) ≤ 3
        decide
      · simp [Buf.write_apply]
      · simp [Buf.write_apply]

theorem Answered.enveloped {out : Served ω} (h : Answered True x request capacity out) :
    Enveloped request capacity x out := by
  cases h with
  | refused nrc held => exact negativeResponse_enveloped held nrc
  | silent held empty => exact ⟨held.within trivial, fun hok => UdsCallbackResult.noConfusion hok⟩
  | positive held first fits =>
    exact ⟨held.within trivial, fun _ => ⟨(fits trivial).1, (fits trivial).2, .inr first⟩⟩
  | hushed held routine =>
    exact ⟨held.within trivial, fun hok => UdsCallbackResult.noConfusion hok⟩
  | delegated result held sid positive =>
    refine ⟨held.within trivial, fun hok => ?_⟩
    have hpositive := positive trivial hok
    exact ⟨hpositive.nonempty, hpositive.fits, .inr hpositive.first⟩

theorem wellFormed (hcap : capacity ≠ 0) (hlen : 1 ≤ request.length)
    (hmax : request.length ≤ maxRequestLength) :
    ¬(capacity = 0 ∨ request.length = 0 ∨ maxRequestLength < request.length) := by
  rintro (h | h | h)
  · exact hcap h
  · omega
  · omega

/-- A request of a valid length is turned away by the attributes of its service, or handled. -/
theorem handleAddressed_answered {room : Prop} (hobey : room → Obedient x.server.callbacks)
    (hroom : room → ¬Overruns x.server request capacity mode) (hcap : capacity ≠ 0)
    (hlen : 1 ≤ request.length) (hmax : request.length ≤ maxRequestLength) (now : UInt32) :
    Answered room (atHandler x mode now) request capacity
      (udsServerHandleAddressed x request capacity mode now) := by
  have hpos : 1 ≤ capacity := by grind
  unfold udsServerHandleAddressed
  rw [if_neg (wellFormed hcap hlen hmax)]
  dsimp only
  split
  next => exact .refused _ ⟨rfl, fun _ => .refl ..⟩
  next hnrc =>
    refine udsDispatch_answered (x := atHandler x mode now) hobey (fun h hsid hset hfour => ?_)
      (fun h hsid hset hfour => ?_) hpos rfl
    · by_contra hshort
      exact hroom h ⟨not_not.mp hnrc, hfour, .inl ⟨hsid, hset, UInt16.not_le.mp hshort⟩⟩
    · by_contra hshort
      exact hroom h ⟨not_not.mp hnrc, hfour, .inr ⟨hsid, hset, UInt16.not_le.mp hshort⟩⟩

/-- A callback without room leaves the buffer alone. -/
theorem Reply.Fits.nothing {k : UInt16} {reply : Reply ω} (hfits : reply.Fits (behind k capacity))
    (hk : capacity ≤ k) (b src : Buf) (off start : Nat) :
    b.copy off src start reply.data.length = b := by
  have hdata := hfits.data
  unfold behind at hdata
  rw [if_neg (UInt16.not_lt.mpr hk)] at hdata
  replace hdata : reply.data.length ≤ 0 := hdata
  rw [Nat.le_zero.mp hdata, Buf.copy_zero]

/-- With less room than its header takes, InputOutputControl has written the third byte. -/
theorem serviceIoControl_overruns (hobey : Obedient x.server.callbacks)
    (hset : x.server.callbacks.ioControl.isSome = true) (hfour : 4 ≤ request.length)
    (hshort : capacity < 3) :
    (serviceIoControl x request capacity).2.response 2 = byteAt request 2 := by
  have hbound : capacity.toNat < 3 := UInt16.lt_iff_toNat_lt.mp hshort
  unfold serviceIoControl
  split
  next hnone =>
    rw [hnone] at hset
    exact Bool.noConfusion hset
  next f hf =>
    have hreply := hobey.ioControl f hf x.world (readU16 request 1) (request.drop 3)
      (behind 3 capacity)
    rw [if_neg (Nat.not_lt.mpr hfour)]
    dsimp only
    generalize f x.world (readU16 request 1) (request.drop 3)
      (if 3 < capacity then capacity - 3 else 0) = reply at hreply ⊢
    rw [hreply.nothing (UInt16.le_of_lt hshort)]
    split
    next =>
      rw [(callbackResult_within ..).same 2 (by omega)]
      simp
    next =>
      split
      next =>
        rw [(negativeResponse_within ..).same 2 (by omega)]
        simp
      next => simp

/-- And RoutineControl the fourth. -/
theorem serviceRoutineControl_overruns (hobey : Obedient x.server.callbacks)
    (hset : x.server.callbacks.routineControl.isSome = true) (hfour : 4 ≤ request.length)
    (hshort : capacity < 4) :
    (serviceRoutineControl x request capacity).2.response 3 = byteAt request 3 := by
  have hbound : capacity.toNat < 4 := UInt16.lt_iff_toNat_lt.mp hshort
  unfold serviceRoutineControl
  split
  next hnone =>
    rw [hnone] at hset
    exact Bool.noConfusion hset
  next f hf =>
    have hreply := hobey.routineControl f hf x.world (byteAt request 1 &&& 0x7F)
      (readU16 request 2) (request.drop 4) (behind 4 capacity)
    rw [if_neg (Nat.not_lt.mpr hfour)]
    dsimp only
    generalize f x.world (byteAt request 1 &&& 0x7F) (readU16 request 2) (request.drop 4)
      (if 4 < capacity then capacity - 4 else 0) = reply at hreply ⊢
    rw [hreply.nothing (UInt16.le_of_lt hshort)]
    split
    next =>
      rw [(callbackResult_within ..).same 3 (by omega)]
      simp
    next =>
      split
      next => simp
      next =>
        split
        next =>
          rw [(negativeResponse_within ..).same 3 (by omega)]
          simp
        next => simp

/-- A request that overruns leaves one of its own bytes behind the capacity. -/
theorem overruns_writes (hobey : Obedient x.server.callbacks)
    (hover : Overruns x.server request capacity mode) (hcap : capacity ≠ 0)
    (hmax : request.length ≤ maxRequestLength) (now : UInt32) :
    ∃ i, capacity.toNat ≤ i ∧
      (udsServerHandleAddressed x request capacity mode now).2.response i = byteAt request i := by
  obtain ⟨hnrc, hfour, hreached⟩ := hover
  have hserved : udsServerHandleAddressed x request capacity mode now
      = udsDispatch (atHandler x mode now) request capacity now := by
    unfold udsServerHandleAddressed
    rw [if_neg (wellFormed hcap (by omega) hmax)]
    dsimp only
    rw [if_neg (not_not.mpr hnrc)]
    rfl
  rw [hserved]
  unfold udsDispatch
  rcases hreached with ⟨hsid, hset, hshort⟩ | ⟨hsid, hset, hshort⟩
  · have hbound : capacity.toNat < 3 := UInt16.lt_iff_toNat_lt.mp hshort
    rw [hsid]
    exact ⟨2, by omega, serviceIoControl_overruns (x := atHandler x mode now) hobey hset hfour
      hshort⟩
  · have hbound : capacity.toNat < 4 := UInt16.lt_iff_toNat_lt.mp hshort
    rw [hsid]
    exact ⟨3, by omega, serviceRoutineControl_overruns (x := atHandler x mode now) hobey hset
      hfour hshort⟩

/-- For every server, world, address mode and request of a valid length, and for callbacks that
keep to their room: whatever the buffer holds before the call, nothing behind the capacity is
written and a response that goes out is well framed, if and only if the request does not reach
a handler whose header is longer than the capacity. -/
theorem response_enveloped (server : UdsServer ω) (w : ω) (hobey : Obedient server.callbacks)
    (request : List UInt8) (hlen : 1 ≤ request.length) (hmax : request.length ≤ maxRequestLength)
    (capacity : UInt16) (hcap : capacity ≠ 0) (mode : UdsAddressMode) (now : UInt32) :
    (∀ response responseLen, Enveloped request capacity ⟨server, response, responseLen, w⟩
      (udsServerHandleAddressed ⟨server, response, responseLen, w⟩ request capacity mode now)) ↔
      ¬Overruns server request capacity mode := by
  constructor
  · intro henveloped hover
    -- a buffer that nowhere holds what the request says there
    have hwithin := (henveloped (fun i => byteAt request i + 1) 0).within
    obtain ⟨i, hi, hwritten⟩ := overruns_writes
      (x := ⟨server, fun i => byteAt request i + 1, 0, w⟩) hobey hover hcap hmax now
    have hsame := hwritten.symm.trans (hwithin.same i hi)
    replace hsame : byteAt request i = byteAt request i + 1 := hsame
    grind
  · intro hfine response responseLen
    have hout : Answered True (atHandler ⟨server, response, responseLen, w⟩ mode now) request capacity
        (udsServerHandleAddressed ⟨server, response, responseLen, w⟩ request capacity mode now) :=
      handleAddressed_answered (x := ⟨server, response, responseLen, w⟩) (fun _ => hobey)
        (fun _ => hfine) hcap hlen hmax now
    exact ⟨hout.enveloped.within, hout.enveloped.framed⟩

/-- One output, whose state is a single byte. -/
def outputCallbacks : UdsCallbacks Unit where
  ioControl := some fun _ _ _ room => ⟨.ok, if room = 0 then [] else [1], if room = 0 then 0 else 1,
    ()⟩

/-- A server in the extended session, where outputs may be controlled. -/
def outputServer : UdsServer Unit :=
  { udsServerInit outputCallbacks 0 with session := sessionExtended }

theorem outputCallbacks_obedient : Obedient outputCallbacks := by
  have hfits : ∀ room : UInt16, Reply.Fits (ω := Unit)
      ⟨.ok, if room = 0 then [] else [1], if room = 0 then 0 else 1, ()⟩ room := by
    intro room
    by_cases hzero : room = 0
    · rw [if_pos hzero, if_pos hzero]
      exact ⟨Nat.zero_le _, by grind⟩
    · rw [if_neg hzero, if_neg hzero]
      have hone : 1 ≤ room := by grind
      exact ⟨UInt16.le_iff_toNat_le.mp hone, hone⟩
  constructor <;> simp [outputCallbacks, udsServiceBackendsHandler, hfits]

theorem response_enveloped_output :
    (∀ response responseLen, Enveloped [0x2F, 0x01, 0x02, 0x03] 8
      ⟨outputServer, response, responseLen, ()⟩
      (udsServerHandleAddressed ⟨outputServer, response, responseLen, ()⟩
        [0x2F, 0x01, 0x02, 0x03] 8 .physical 0)) ↔
      ¬Overruns outputServer [0x2F, 0x01, 0x02, 0x03] 8 .physical :=
  response_enveloped outputServer () outputCallbacks_obedient [0x2F, 0x01, 0x02, 0x03] (by decide)
    (by decide) 8 (by decide) .physical 0

/-- Two bytes of capacity, and a response of three. -/
theorem response_overruns :
    Obedient outputCallbacks ∧ outputServer.callbacks = outputCallbacks ∧
      ∃ (request : List UInt8) (capacity : UInt16) (response : Buf), 1 ≤ request.length ∧
        request.length ≤ maxRequestLength ∧ capacity ≠ 0 ∧
        ¬Enveloped request capacity ⟨outputServer, response, 0, ()⟩
          (udsServerHandleAddressed ⟨outputServer, response, 0, ()⟩ request capacity .physical 0) := by
  refine ⟨outputCallbacks_obedient, rfl, [0x2F, 0x01, 0x02, 0x03], 2, fun _ => 0, by decide,
    by decide, by decide, fun henveloped => ?_⟩
  have hlong := (henveloped.framed (by decide)).2.1
  exact absurd hlong (by decide)

end Envelope

end UdsIsoTp.Uds
