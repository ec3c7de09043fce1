import UdsIsoTp.Endpoint.Calls
import UdsIsoTp.Uds.Effects

/-!
# How a request is answered

The server's answer decides what the endpoint does next. For the question whether a
reset is on its way only two kinds of request matter: one after which the server waits
for no reset, and an accepted ECU reset, answered or not. `answered_cases` splits a
request into these and says where the answer goes.

The world is seen through a projection `proj` that only an accepted reset can change.
-/

namespace UdsIsoTp.Endpoint

open UdsIsoTp.IsoTp UdsIsoTp.Uds

variable {ω β : Type} {proj : ω → β} {e : UdsIsoTpEndpoint ω} {w : ω} {now : UInt32}

/-- The endpoint with the server and the response buffer a request has left. -/
def served (e : UdsIsoTpEndpoint ω) (server : UdsServer ω) (response : Buf) :
    UdsIsoTpEndpoint ω :=
  { e with uds := server, response := response }

/-- The server waits for no reset that has a response, and none is due. -/
structure Awake (server : UdsServer ω) : Prop where
  quiet : responseResetPending server = false
  ready : server.resetReady = false

/-- Nothing about the server is wired differently. -/
structure SameWiring (before after : UdsServer ω) : Prop where
  callbacks : after.callbacks = before.callbacks
  persist : after.securityGate.persistFn = before.securityGate.persistFn

/-- The request is an ECU reset that the callback accepts. -/
structure Accepts (e : UdsIsoTpEndpoint ω) (w : ω) (request : List UInt8) (b : UInt8)
    (f : ω → UInt8 → UdsCallbackResult × ω) : Prop where
  request_eq : request = [0x11, b]
  callback : e.uds.callbacks.ecuReset = some f
  range : 1 ≤ b &&& 0x7F ∧ b &&& 0x7F ≤ 5
  ok : (f w (b &&& 0x7F)).1 = .ok

theorem Accepts.subfunction_ne {request : List UInt8} {b : UInt8}
    {f : ω → UInt8 → UdsCallbackResult × ω} (h : Accepts e w request b f) : b &&& 0x7F ≠ 0 := by
  intro hzero
  have hrange := h.range.1
  rw [hzero] at hrange
  exact absurd hrange (by decide)

/-- What the server makes of a request when it waits for no reset. -/
inductive ServeEffect (proj : ω → β) (e : UdsIsoTpEndpoint ω) (request : List UInt8) (w : ω) :
    Served ω → Prop
  | quiet {out : Served ω} (awake : Awake out.2.server) (wiring : SameWiring e.uds out.2.server)
      (world : proj out.2.world = proj w) : ServeEffect proj e request w out
  | reset {out : Served ω} (b : UInt8) (f : ω → UInt8 → UdsCallbackResult × ω)
      (accepts : Accepts e w request b f) (wiring : SameWiring e.uds out.2.server)
      (pending : out.2.server.resetPending = true)
      (subfunction : out.2.server.pendingResetSubfunction = b &&& 0x7F)
      (ready : out.2.server.resetReady = false) (world : out.2.world = (f w (b &&& 0x7F)).2)
      (answer : (b &&& suppressPositiveResponse ≠ 0 ∧ out.1 = .noResponse) ∨
        (b &&& suppressPositiveResponse = 0 ∧ out.1 = .ok ∧
          (out.2.responseLen = 2 ∨ out.2.responseLen = 3) ∧
          out.2.response 0 = 0x51 ∧ out.2.response 1 = b &&& 0x7F)) :
      ServeEffect proj e request w out

theorem awake_iff {server : UdsServer ω} : responseResetPending server = false ↔
    (server.resetPending = true → server.pendingResetSubfunction = 0) := by
  unfold responseResetPending
  cases server.resetPending <;> simp

/-- A server whose reset fields are those of an awake one is awake. -/
theorem Awake.of_same {before after : UdsServer ω} (h : Awake before)
    (hpending : after.resetPending = before.resetPending)
    (hsub : after.pendingResetSubfunction = before.pendingResetSubfunction)
    (hready : after.resetReady = before.resetReady) : Awake after := by
  refine ⟨awake_iff.mpr ?_, hready.trans h.ready⟩
  intro hafter
  rw [hsub]
  exact awake_iff.mp h.quiet (hpending ▸ hafter)

theorem serve_cases (hawake : Awake e.uds)
    (hu : Unseen proj e.uds.callbacks e.uds.securityGate.persistFn) (request : List UInt8)
    (mode : UdsAddressMode) (now : UInt32) :
    ServeEffect proj e request w (endpointServe e request mode now w) := by
  unfold endpointServe
  obtain hout | ⟨hserver, hworld⟩ | ⟨-, hout⟩ :=
    handleAddressed_cases (x := ⟨e.uds, e.response, 0, w⟩) hu request maxResponseLength mode now
  · rw [hout]
    exact .quiet hawake ⟨rfl, rfl⟩ rfl
  · refine .quiet ?_ ?_ (congrArg proj hworld)
    · rw [hserver]
      exact hawake.of_same rfl rfl rfl
    · rw [hserver]
      exact ⟨rfl, rfl⟩
  · have hwiring := hout.wiring
    have hsame : SameWiring e.uds
        (udsServerHandleAddressed ⟨e.uds, e.response, 0, w⟩ request maxResponseLength mode
          now).2.server := ⟨hwiring.1, hwiring.2⟩
    -- Most services leave the reset fields alone, and an awake server then stays awake.
    have hawake_of : ∀ {after : UdsServer ω},
        (udsServerHandleAddressed ⟨e.uds, e.response, 0, w⟩ request maxResponseLength mode
          now).2.server = after →
        after.resetPending = e.uds.resetPending →
        after.pendingResetSubfunction = e.uds.pendingResetSubfunction →
        after.resetReady = e.uds.resetReady →
        Awake (udsServerHandleAddressed ⟨e.uds, e.response, 0, w⟩ request maxResponseLength mode
          now).2.server := by
      intro after hafter hpending hsub hready
      rw [hafter]
      exact hawake.of_same hpending hsub hready
    cases hout with
    | quiet server world => exact .quiet (hawake_of server rfl rfl rfl) hsame world
    | session requested ok server world =>
      have hchanged := udsServerRequestSession_ok ok
      rw [← server] at hchanged
      refine .quiet ⟨awake_iff.mpr ?_, hchanged.resetReady.trans hawake.ready⟩ hsame world
      intro hpending
      rcases hchanged.reset with ⟨hp, hs⟩ | ⟨-, hs⟩
      · rw [hs]
        exact awake_iff.mp hawake.quiet (hp ▸ hpending)
      · exact hs
    | reset b f callback request_eq range ok server world answer =>
      have hrange : 1 ≤ b &&& 0x7F ∧ b &&& 0x7F ≤ 5 := by
        constructor
        · exact UInt8.not_lt.mp fun h => range (.inl h)
        · exact UInt8.not_lt.mp fun h => range (.inr h)
      exact .reset b f ⟨request_eq, callback, hrange, ok⟩ hsame (by rw [server]; rfl)
        (by rw [server]; rfl) (by rw [server]; rfl) world answer
    | dropped b f callback room => exact absurd room (by decide)
    | ticked server world => exact .quiet (hawake_of server rfl rfl rfl) hsame world
    | access gate session persist server world =>
      exact .quiet (hawake_of server rfl rfl rfl) hsame world
    | dtcSetting enabled server world =>
      exact .quiet (hawake_of server rfl rfl rfl) hsame world
    | download maxBlockLength sid length server world =>
      exact .quiet (hawake_of server rfl rfl rfl) hsame world
    | block sid server world => exact .quiet (hawake_of server rfl rfl rfl) hsame world
    | exit sid server world => exact .quiet (hawake_of server rfl rfl rfl) hsame world

/-- The server has accepted a reset with this subfunction and waits for its response. -/
structure AwaitsAnswer (server : UdsServer ω) (sub : UInt8) : Prop where
  pending : server.resetPending = true
  subfunction : server.pendingResetSubfunction = sub
  nonzero : sub ≠ 0
  ready : server.resetReady = false

/-- Where the answer to a request goes when the server waits for no reset. -/
inductive AnswerEffect (proj : ω → β) (e : UdsIsoTpEndpoint ω) (request : List UInt8)
    (now : UInt32) (w : ω) : EndpointOut ω → Prop
  /-- There is none. -/
  | silent {status server response w'} (awake : Awake server) (wiring : SameWiring e.uds server)
      (world : proj w' = proj w) :
      AnswerEffect proj e request now w (status, served e server response, w')
  /-- It is a response like any other. -/
  | plain {server response w'} (length : UInt16) (awake : Awake server)
      (wiring : SameWiring e.uds server) (world : proj w' = proj w) :
      AnswerEffect proj e request now w
        ((startResponse (served e server response) response length false now).1,
          (startResponse (served e server response) response length false now).2, w')
  /-- It is the silence an accepted reset asked for. -/
  | suppressed {server response w'} (b : UInt8) (f : ω → UInt8 → UdsCallbackResult × ω)
      (accepts : Accepts e w request b f) (wiring : SameWiring e.uds server)
      (awaits : AwaitsAnswer server (b &&& 0x7F)) (spr : b &&& suppressPositiveResponse ≠ 0)
      (world : proj w' = proj (f w (b &&& 0x7F)).2) :
      AnswerEffect proj e request now w (.complete,
        served e (if e.uds.resetPending then server else (udsServerCompleteReset server).2)
          response, w')
  /-- It is the response an accepted reset waits for, and marked as such if no other
  reset was pending. -/
  | marked {server response w'} (b : UInt8) (f : ω → UInt8 → UdsCallbackResult × ω)
      (length : UInt16) (accepts : Accepts e w request b f) (wiring : SameWiring e.uds server)
      (awaits : AwaitsAnswer server (b &&& 0x7F)) (spr : b &&& suppressPositiveResponse = 0)
      (length_eq : length = 2 ∨ length = 3) (sid : response 0 = 0x51)
      (sub : response 1 = b &&& 0x7F) (world : proj w' = proj (f w (b &&& 0x7F)).2) :
      AnswerEffect proj e request now w
        ((startResponse (served e server response) response length (!e.uds.resetPending) now).1,
          (startResponse (served e server response) response length (!e.uds.resetPending) now).2,
          w')

/-- No outcome of the server is a marked response unless a reset was accepted. -/
theorem deliverAnswer_plain {out : Served ω} (hawake : Awake out.2.server)
    (hwiring : SameWiring e.uds out.2.server) (hworld : proj out.2.world = proj w)
    (request : List UInt8) :
    AnswerEffect proj e request now w
      (deliverAnswer (served e out.2.server out.2.response) out false now) := by
  unfold deliverAnswer
  simp only [Bool.false_eq_true, if_false]
  split
  next => exact .silent hawake hwiring hworld
  next =>
    split
    next => exact .silent hawake hwiring hworld
    next => exact .plain out.2.responseLen hawake hwiring hworld

theorem deliverAnswer_reset {out : Served ω} {request : List UInt8} {b : UInt8}
    {f : ω → UInt8 → UdsCallbackResult × ω}
    (hevent : ∀ event w, proj (resetEvent e.config event w) = proj w)
    (haccepts : Accepts e w request b f) (hwiring : SameWiring e.uds out.2.server)
    (hawaits : AwaitsAnswer out.2.server (b &&& 0x7F))
    (hworld : out.2.world = (f w (b &&& 0x7F)).2)
    (hanswer : (b &&& suppressPositiveResponse ≠ 0 ∧ out.1 = .noResponse) ∨
      (b &&& suppressPositiveResponse = 0 ∧ out.1 = .ok ∧
        (out.2.responseLen = 2 ∨ out.2.responseLen = 3) ∧
        out.2.response 0 = 0x51 ∧ out.2.response 1 = b &&& 0x7F)) :
    AnswerEffect proj e request now w
      (deliverAnswer (served e out.2.server out.2.response) out (!e.uds.resetPending) now) := by
  unfold deliverAnswer
  rcases hanswer with ⟨hspr, hnone⟩ | ⟨hspr, hok, hlen, hsid, hsub⟩
  · rw [if_pos hnone]
    cases hp : e.uds.resetPending with
    | true =>
      -- A reset was pending before: the one just accepted is not completed here.
      simp only [Bool.not_true, Bool.false_eq_true, if_false]
      have hsup : AnswerEffect proj e request now w (.complete, served e
          (if e.uds.resetPending then out.2.server else
            (udsServerCompleteReset out.2.server).2) out.2.response, out.2.world) :=
        .suppressed b f haccepts hwiring hawaits hspr (congrArg proj hworld)
      rwa [if_pos hp] at hsup
    | false =>
      simp only [Bool.not_false, if_true]
      have hsup : ∀ w', proj w' = proj (f w (b &&& 0x7F)).2 →
          AnswerEffect proj e request now w (.complete, served e
            (if e.uds.resetPending then out.2.server else
              (udsServerCompleteReset out.2.server).2) out.2.response, w') := fun w' hw' =>
        .suppressed b f haccepts hwiring hawaits hspr hw'
      rw [if_neg (by rw [hp]; exact Bool.false_ne_true)] at hsup
      apply hsup
      show proj (if (udsServerCompleteReset out.2.server).1 = .ok then
        resetEvent e.config .executed (resetEvent e.config .requested out.2.world)
        else resetEvent e.config .requested out.2.world) = proj (f w (b &&& 0x7F)).2
      split <;> simp only [hevent, hworld]
  · have hne : ¬out.1 = .noResponse := by
      rw [hok]
      decide
    have hsome : ¬(out.1 ≠ .ok ∨ out.2.responseLen = 0) := by
      rintro (h | h)
      · exact h hok
      · rcases hlen with hlen | hlen <;> rw [hlen] at h <;> exact absurd h (by decide)
    rw [if_neg hne, if_neg hsome]
    refine .marked b f out.2.responseLen haccepts hwiring hawaits hspr hlen hsid hsub ?_
    show proj (if (!e.uds.resetPending) = true then resetEvent e.config .responseReady
        (if (!e.uds.resetPending) = true then resetEvent e.config .requested out.2.world
          else out.2.world)
      else if (!e.uds.resetPending) = true then resetEvent e.config .requested out.2.world
        else out.2.world) = proj (f w (b &&& 0x7F)).2
    split <;> simp only [hevent, hworld]

/-- A request to a server that waits for no reset. -/
theorem answered_cases (hawake : Awake e.uds)
    (hu : Unseen proj e.uds.callbacks e.uds.securityGate.persistFn)
    (hevent : ∀ event w, proj (resetEvent e.config event w) = proj w) (request : List UInt8)
    (mode : UdsAddressMode) (now : UInt32) :
    AnswerEffect proj e request now w (answered e request mode now w) := by
  have hserve := serve_cases (w := w) hawake hu request mode now
  unfold answered
  generalize endpointServe e request mode now w = out at hserve ⊢
  cases hserve with
  | quiet awake wiring world =>
    rw [awake.quiet, Bool.and_false]
    exact deliverAnswer_plain awake wiring world request
  | reset b f accepts wiring pending subfunction ready world answer =>
    have hdeaf : responseResetPending out.2.server = true := by
      unfold responseResetPending
      rw [pending, subfunction]
      simpa using accepts.subfunction_ne
    rw [hdeaf, Bool.and_true]
    exact deliverAnswer_reset hevent accepts wiring
      ⟨pending, subfunction, accepts.subfunction_ne, ready⟩ world answer

end UdsIsoTp.Endpoint
