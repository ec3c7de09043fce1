import UdsIsoTp.Uds.Effects

/-!
# What a SecurityAccess request does

A request for service 0x27 is the one that calls `security_seed` and `security_key`. It is
refused before or after the gate's tick, or it comes to one of the two callbacks, and the
gate then does what the answer says: it grants the seed, counts a wrong key or takes a right
one. `AccessEffect` lists these ways, with what the response gives away.
-/

namespace UdsIsoTp.Uds

variable {ω : Type}

/-- What the gate's tick leaves of the exchange. -/
def ticked (x : Exchange ω) (now : UInt32) : Exchange ω :=
  { x with
    server := { x.server with securityGate := (gateTick x.server.securityGate now x.world).1 }
    world := (gateTick x.server.securityGate now x.world).2 }

/-- The exchange with another gate and another world. -/
def withGate (x : Exchange ω) (gate : UdsSecurityGate ω × ω) : UdsServer ω × ω :=
  ({ x.server with securityGate := gate.1 }, gate.2)

/-- A response that says no, if there is one. -/
def Refusal (out : Served ω) : Prop := out.1 = .ok → out.2.response 0 = 0x7F

/-- A positive response to a seed request, with room for a seed of this length. -/
structure SeedAnswer (out : Served ω) (subfunction : UInt8) (length : UInt16) : Prop where
  result : out.1 = .ok
  responseLen : out.2.responseLen = 2 + length
  service : out.2.response 0 = 0x67
  subfunction : out.2.response 1 = subfunction

/-- The request comes to a callback: the session is one of the two that may ask, and after the
tick no delay runs. -/
structure Admitted (x : Exchange ω) (request : List UInt8) (now : UInt32) (level : UInt8)
    (isSeed : Bool) : Prop where
  session : securitySessionAllowed x.server.session
  level : udsSecuritySubfunctionLevel (byteAt request 1) = some (level, isSeed)
  ready : gateDelayActive (ticked x now).server.securityGate now = false

/-- The callback's answer to a seed request. -/
def seedReply (seed : ω → UInt8 → UInt16 → Reply ω) (x : Exchange ω) (capacity : UInt16)
    (now : UInt32) (level : UInt8) : Reply ω :=
  seed (ticked x now).world level (if 2 < capacity then capacity - 2 else 0)

/-- The callback's verdict on a key. -/
def keyVerdict (key : ω → UInt8 → List UInt8 → UdsCallbackResult × ω) (x : Exchange ω)
    (request : List UInt8) (now : UInt32) (level : UInt8) : UdsCallbackResult × ω :=
  key (ticked x now).world level (request.drop 2)

/-- The gate holds a seed for the level. -/
structure Awaited (gate : UdsSecurityGate ω) (level : UInt8) : Prop where
  seedValid : gate.seedValid = true
  seedLevel : gate.seedLevel = level

/-- What a request for security access can do. -/
inductive AccessEffect (x : Exchange ω) (request : List UInt8) (capacity : UInt16)
    (now : UInt32) : Served ω → Prop
  | closed {out : Served ω} (left : (out.2.server, out.2.world) = (x.server, x.world))
      (answer : Refusal out) : AccessEffect x request capacity now out
  | ticked {out : Served ω}
      (left : (out.2.server, out.2.world) = ((ticked x now).server, (ticked x now).world))
      (answer : Refusal out) : AccessEffect x request capacity now out
  /-- The callback refuses, or its seed does not fit. -/
  | seedRefused {out : Served ω} (level : UInt8) (admitted : Admitted x request now level true)
      (seed : ω → UInt8 → UInt16 → Reply ω) (callback : x.server.callbacks.securitySeed = some seed)
      (reply : Reply ω) (called : seedReply seed x capacity now level = reply)
      (refused : reply.result ≠ .ok ∨ capacity < 2 + reply.length)
      (left : (out.2.server, out.2.world) = ((ticked x now).server, reply.world))
      (answer : Refusal out) : AccessEffect x request capacity now out
  /-- The level is unlocked already. -/
  | seedZero {out : Served ω} (level : UInt8) (admitted : Admitted x request now level true)
      (seed : ω → UInt8 → UInt16 → Reply ω) (callback : x.server.callbacks.securitySeed = some seed)
      (reply : Reply ω) (called : seedReply seed x capacity now level = reply)
      (unlocked : (ticked x now).server.securityGate.activeLevel = level)
      (left : (out.2.server, out.2.world) = ((ticked x now).server, reply.world))
      (answer : SeedAnswer out (byteAt request 1) reply.length)
      (zero : ∀ i < reply.length.toNat, out.2.response (2 + i) = 0) :
      AccessEffect x request capacity now out
  | seedGranted {out : Served ω} (level : UInt8) (admitted : Admitted x request now level true)
      (seed : ω → UInt8 → UInt16 → Reply ω) (callback : x.server.callbacks.securitySeed = some seed)
      (length : request.length = 2) (reply : Reply ω)
      (called : seedReply seed x capacity now level = reply) (result : reply.result = .ok)
      (locked : (ticked x now).server.securityGate.activeLevel ≠ level)
      (left : (out.2.server, out.2.world) = withGate (ticked x now)
        (gateGrantSeed (ticked x now).server.securityGate level now, reply.world))
      (answer : SeedAnswer out (byteAt request 1) reply.length)
      (bytes : ∀ i < reply.data.length, out.2.response (2 + i) = Buf.ofList reply.data i) :
      AccessEffect x request capacity now out
  | keyWrong {out : Served ω} (level : UInt8) (admitted : Admitted x request now level false)
      (key : ω → UInt8 → List UInt8 → UdsCallbackResult × ω)
      (callback : x.server.callbacks.securityKey = some key)
      (awaited : Awaited (ticked x now).server.securityGate level) (w : ω)
      (called : keyVerdict key x request now level = (.invalidKey, w))
      (left : (out.2.server, out.2.world) = withGate (ticked x now)
        (gateRecordFailure (ticked x now).server.securityGate now w))
      (answer : Refusal out) : AccessEffect x request capacity now out
  /-- The callback does not get to judge the key. -/
  | keyRefused {out : Served ω} (level : UInt8) (admitted : Admitted x request now level false)
      (key : ω → UInt8 → List UInt8 → UdsCallbackResult × ω)
      (callback : x.server.callbacks.securityKey = some key)
      (awaited : Awaited (ticked x now).server.securityGate level) (result : UdsCallbackResult)
      (w : ω) (called : keyVerdict key x request now level = (result, w))
      (wrong : result ≠ .invalidKey) (right : result ≠ .ok)
      (left : (out.2.server, out.2.world) = ((ticked x now).server, w))
      (answer : Refusal out) : AccessEffect x request capacity now out
  | keyRight {out : Served ω} (level : UInt8) (admitted : Admitted x request now level false)
      (key : ω → UInt8 → List UInt8 → UdsCallbackResult × ω)
      (callback : x.server.callbacks.securityKey = some key) (length : 2 < request.length)
      (awaited : Awaited (ticked x now).server.securityGate level) (w : ω)
      (called : keyVerdict key x request now level = (.ok, w))
      (left : (out.2.server, out.2.world) = withGate (ticked x now)
        (gateRecordSuccess (ticked x now).server.securityGate level w)) :
      AccessEffect x request capacity now out

section Effects

variable {x : Exchange ω} {request : List UInt8} {capacity : UInt16} {now : UInt32}

theorem negativeResponse_refusal (nrc : UInt8) :
    Refusal (negativeResponse x request nrc capacity) := by
  unfold negativeResponse
  split
  next => exact fun hok => UdsCallbackResult.noConfusion hok
  next =>
    split
    next => exact fun hok => UdsCallbackResult.noConfusion hok
    next => exact fun _ => by simp [Buf.write_apply]

theorem negativeResponse_left (nrc : UInt8) :
    ((negativeResponse x request nrc capacity).2.server,
      (negativeResponse x request nrc capacity).2.world) = (x.server, x.world) := by
  rw [negativeResponse_server, negativeResponse_world]

theorem callbackResult_refusal {result : UdsCallbackResult} (hfailed : result ≠ .ok) :
    Refusal (callbackResult x result request capacity) := by
  unfold callbackResult
  rw [if_neg hfailed]
  split
  next => exact fun hok => UdsCallbackResult.noConfusion hok
  next => exact negativeResponse_refusal _

theorem callbackResult_left (result : UdsCallbackResult) :
    ((callbackResult x result request capacity).2.server,
      (callbackResult x result request capacity).2.world) = (x.server, x.world) := by
  rw [callbackResult_server, callbackResult_world]

theorem serviceSecuritySeed_effect {seed : ω → UInt8 → UInt16 → Reply ω}
    (callback : x.server.callbacks.securitySeed = some seed) {level : UInt8}
    (admitted : Admitted x request now level true) :
    AccessEffect x request capacity now
      (serviceSecuritySeed seed (ticked x now) request capacity (byteAt request 1) level now) := by
  unfold serviceSecuritySeed
  split
  next => exact .ticked (negativeResponse_left _) (negativeResponse_refusal _)
  next hlength =>
    generalize hreply : seed (ticked x now).world level (if 2 < capacity then capacity - 2 else 0)
      = reply
    dsimp only
    split
    next hfailed =>
      exact .seedRefused level admitted seed callback reply hreply (.inl hfailed)
        (callbackResult_left _) (callbackResult_refusal hfailed)
    next hok =>
      split
      next hroom =>
        exact .seedRefused level admitted seed callback reply hreply (.inr hroom)
          (negativeResponse_left _) (negativeResponse_refusal _)
      next hroom =>
        split
        next hunlocked =>
          refine .seedZero level admitted seed callback reply hreply hunlocked rfl
            ⟨rfl, rfl, by simp [Buf.write_apply], by simp⟩ fun i hi => ?_
          dsimp only
          rw [Buf.write_of_ne (by omega), Buf.write_of_ne (by omega), Buf.copy_inside hi]
        next hlocked =>
          refine .seedGranted level admitted seed callback (not_not.mp hlength) reply hreply
            (not_not.mp hok) hlocked rfl
            ⟨rfl, rfl, by simp [Buf.write_apply], by simp⟩ fun i hi => ?_
          dsimp only
          rw [Buf.write_of_ne (by omega), Buf.write_of_ne (by omega), Buf.copy_inside hi,
            Nat.zero_add]

theorem serviceSecurityKey_effect {key : ω → UInt8 → List UInt8 → UdsCallbackResult × ω}
    (callback : x.server.callbacks.securityKey = some key) {level : UInt8}
    (admitted : Admitted x request now level false) :
    AccessEffect x request capacity now
      (serviceSecurityKey key (ticked x now) request capacity (byteAt request 1) level now) := by
  unfold serviceSecurityKey
  split
  next => exact .ticked (negativeResponse_left _) (negativeResponse_refusal _)
  next hasked =>
    have hlength : 2 < request.length := Nat.lt_of_not_le fun h => hasked (.inl h)
    have hawaited : Awaited (ticked x now).server.securityGate level := by
      refine ⟨?_, ?_⟩
      · by_contra hvalid
        exact hasked (.inr (.inl hvalid))
      · by_contra hlevel
        exact hasked (.inr (.inr hlevel))
    generalize hcalled : key (ticked x now).world level (request.drop 2) = out
    obtain ⟨result, w⟩ := out
    dsimp only
    split
    next hwrong =>
      have hcalled : keyVerdict key x request now level = (.invalidKey, w) := hwrong ▸ hcalled
      split <;> exact .keyWrong level admitted key callback hawaited w hcalled
        (negativeResponse_left _) (negativeResponse_refusal _)
    next hwrong =>
      split
      next hfailed =>
        exact .keyRefused level admitted key callback hawaited result w hcalled hwrong hfailed
          (callbackResult_left _) (callbackResult_refusal hfailed)
      next hok =>
        have hcalled : keyVerdict key x request now level = (.ok, w) := not_not.mp hok ▸ hcalled
        split
        next => exact .keyRight level admitted key callback hlength hawaited w hcalled rfl
        next =>
          split
          next =>
            exact .keyRight level admitted key callback hlength hawaited w hcalled
              (negativeResponse_left _)
          next => exact .keyRight level admitted key callback hlength hawaited w hcalled rfl

theorem serviceSecurityAccess_effect (x : Exchange ω) (request : List UInt8) (capacity : UInt16)
    (now : UInt32) :
    AccessEffect x request capacity now (serviceSecurityAccess x request capacity now) := by
  unfold serviceSecurityAccess
  split
  next => exact .closed (negativeResponse_left _) (negativeResponse_refusal _)
  next =>
    split
    next seed key hseed hkey =>
      dsimp only
      split
      next => exact .ticked (negativeResponse_left _) (negativeResponse_refusal _)
      next hsession =>
        split
        next => exact .ticked (negativeResponse_left _) (negativeResponse_refusal _)
        next level isSeed hlevel =>
          split
          next => exact .ticked (negativeResponse_left _) (negativeResponse_refusal _)
          next hready =>
            have hadmitted : Admitted x request now level isSeed :=
              ⟨not_not.mp hsession, hlevel, eq_false_of_ne_true hready⟩
            split
            next hseeds =>
              obtain rfl : isSeed = true := hseeds
              exact serviceSecuritySeed_effect hseed hadmitted
            next hkeys =>
              obtain rfl : isSeed = false := eq_false_of_ne_true hkeys
              exact serviceSecurityKey_effect hkey hadmitted
    next => exact .closed (negativeResponse_left _) (negativeResponse_refusal _)

end Effects

end UdsIsoTp.Uds
