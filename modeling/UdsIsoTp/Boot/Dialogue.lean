import UdsIsoTp.Boot.BlockCounters
import UdsIsoTp.Boot.Update
import UdsIsoTp.Uds.MemoryGrammar

/-!
# An update as a tester sees it

`Update` is about the bootloader's operations. Here a tester speaks to the server above them:
RequestDownload, a TransferData for each block, RequestTransferExit, CheckMemory and ECUReset,
while the server ticks as often as it likes in between. Every answer is positive, byte for
byte, and once the reset is carried out the image runs (`dialogue_succeeds`).

The server lets through two bytes less in a block than the download engine takes, since
`maxNumberOfBlockLength` counts the service identifier and the block's number.
-/

namespace UdsIsoTp.Boot

open UdsIsoTp.Uds UdsIsoTp.Flash

variable {φ ρ : Type}

/-! ## The callbacks of the application -/

/-- `uds_app_ecu_reset_prepare` -/
def onEcuReset (w : Bootloader φ × ρ) (subfunction : UInt8) :
    UdsCallbackResult × Bootloader φ × ρ :=
  (if subfunction = 0x01 then .ok else .outOfRange, w)

/-- `uds_app_ecu_reset_execute`, in the build without the HAL: there neither the jump nor the
reset of the platform does anything. -/
def onEcuResetExecute (w : Bootloader φ × ρ) (_subfunction : UInt8) : Bootloader φ × ρ :=
  if w.1.ctx.candidateVerified then ((udsBootloaderActivateCandidate w.1).2, w.2) else w

/-- A server's callbacks with those that `uds_app_init` takes from the bootloader. -/
def updateCallbacks (clock : ρ → UInt32) (others : UdsCallbacks (Bootloader φ × ρ)) :
    UdsCallbacks (Bootloader φ × ρ) :=
  flashingCallbacks clock { others with
    routineControl := some onRoutineControl
    ecuReset := some onEcuReset
    ecuResetExecute := some onEcuResetExecute }

/-! ## Turns -/

/-- The world of the server: the bootloader and the platform's clock. -/
abbrev Clocked (φ : Type) := Bootloader φ × UInt32

/-- A request with the answer that the tester waits for, and the server's ticks since the turn
before. -/
structure Turn where
  ticks : List UInt32
  time : UInt32
  request : List UInt8
  answer : List UInt8

/-- The server's tick at this time. -/
def tickStep (x : Exchange (Clocked φ)) (now : UInt32) : Exchange (Clocked φ) :=
  let (_, server, w) := udsServerTick x.server now (x.world.1, now)
  { x with server := server, world := w }

/-- The server is asked. -/
def ask (x : Exchange (Clocked φ)) (turn : Turn) : Served (Clocked φ) :=
  let x := run tickStep x turn.ticks
  udsServerHandleAddressed { x with world := (x.world.1, turn.time) } turn.request
    maxResponseLength .physical turn.time

/-- One turn, with what it leaves behind. -/
def turnStep (x : Exchange (Clocked φ)) (turn : Turn) : Exchange (Clocked φ) := (ask x turn).2

/-- The bytes of the response. -/
def responseBytes (x : Exchange (Clocked φ)) : List UInt8 := x.response.slice 0 x.responseLen.toNat

/-- The turn is answered as the dialogue has it. -/
def Answers (x : Exchange (Clocked φ)) (turn : Turn) : Prop :=
  (ask x turn).1 = .ok ∧ responseBytes (ask x turn).2 = turn.answer

/-- Each turn follows the one before in less than the timeout of a download. -/
def Prompt : UInt32 → List Turn → Prop
  | _, [] => True
  | last, turn :: rest => (∀ now ∈ turn.ticks, now - last < downloadTimeoutMs) ∧
      turn.time - last < downloadTimeoutMs ∧ Prompt turn.time rest

instance decidablePrompt : ∀ (last : UInt32) (turns : List Turn), Decidable (Prompt last turns)
  | _, [] => inferInstanceAs (Decidable True)
  -- over the list: there is an instance for all numbers of 32 bits as well
  | _, turn :: rest =>
    @instDecidableAnd _ _ (List.decidableBAll _ turn.ticks)
      (@instDecidableAnd _ _ inferInstance (decidablePrompt turn.time rest))

/-! ## The requests -/

/-- The request to download so many bytes to an address. -/
def downloadRequest (address length : UInt32) : List UInt8 :=
  0x34 :: 0x00 :: 0x44 :: (toBytesBe 4 address.toNat ++ toBytesBe 4 length.toNat)

/-- The blocks of an image, from block `k` on. -/
def blockTurns : Nat → List (List UInt8) → List (List UInt8 × List UInt8)
  | _, [] => []
  | k, bytes :: blocks =>
    (0x36 :: blockNumber k :: bytes, [0x76, blockNumber k]) :: blockTurns (k + 1) blocks

/-- What a tester asks and hears in an update. -/
def updateDialogue (target : UdsBootloaderTarget) (length : UInt32) (blocks : List (List UInt8))
    (checksum : List UInt8) : List (List UInt8 × List UInt8) :=
  (downloadRequest (targetContext target).targetSlotAddr length, [0x74, 0x20, 0x01, 0x00])
    :: (blockTurns 0 blocks ++
      [(0x37 :: checksum, [0x77, 0x00]),
        ([0x31, 0x01, 0x02, 0x02], [0x71, 0x01, 0x02, 0x02, 0x00]),
        ([0x11, 0x01], [0x51, 0x01])])

/-! ## A server in the programming session -/

/-- What the dialogue asks of the server: its callbacks, a session that lasts, no reset ready. -/
structure Serving (others : UdsCallbacks (Clocked φ)) (server : UdsServer (Clocked φ))
    (last : UInt32) : Prop where
  callbacks : server.callbacks = updateCallbacks id others
  session : server.session = sessionProgramming
  patient : downloadTimeoutMs ≤ server.s3ServerTimeoutMs
  volatile : server.securityGate.persistFn = none
  unready : server.resetPending = true → server.resetReady = false
  activity : server.lastActivityMs = last

variable {others : UdsCallbacks (Clocked φ)} {x : Exchange (Clocked φ)} {last now : UInt32}
  {request : List UInt8}

theorem gateTick_volatile {gate : UdsSecurityGate (Clocked φ)} (h : gate.persistFn = none)
    (now : UInt32) (w : Clocked φ) : (gateTick gate now w).2 = w := by
  have hunseen : ∀ f ∈ gate.persistFn, ∀ w attempts remaining,
      id (f w attempts remaining).2 = id w := by
    rw [h]
    exact fun f hf => absurd hf (Option.not_mem_none f)
  exact gateTick_unseen hunseen now w

/-- A tick within the timeout does nothing but tick the gate. -/
theorem tick_waits (h : Serving others x.server last) (hprompt : now - last < downloadTimeoutMs) :
    tickStep x now = { x with
      server := { x.server with
        securityGate := (gateTick x.server.securityGate now (x.world.1, now)).1 }
      world := (x.world.1, now) } := by
  have hreset : ¬(x.server.resetPending = true ∧ x.server.resetReady = true) := by
    rintro ⟨hpending, hready⟩
    exact absurd ((h.unready hpending).symm.trans hready) Bool.false_ne_true
  have hlater : ¬x.server.s3ServerTimeoutMs ≤ now - x.server.lastActivityMs := by
    rw [h.activity, UInt32.not_le]
    exact UInt32.lt_of_lt_of_le hprompt h.patient
  unfold tickStep udsServerTick
  dsimp only
  rw [if_neg hreset, if_neg hlater, gateTick_volatile h.volatile]

theorem Serving.ticked (h : Serving others x.server last)
    (hprompt : now - last < downloadTimeoutMs) : Serving others (tickStep x now).server last := by
  rw [tick_waits h hprompt]
  exact ⟨h.callbacks, h.session, h.patient, (gateTick_fields ..).1.trans h.volatile, h.unready,
    h.activity⟩

/-- What the ticks between two turns leave as it was. -/
structure Waited (x x' : Exchange (Clocked φ)) : Prop where
  bootloader : x'.world.1 = x.world.1
  downloadActive : x'.server.downloadActive = x.server.downloadActive
  nextDownloadBlock : x'.server.nextDownloadBlock = x.server.nextDownloadBlock
  maxDownloadBlockLength : x'.server.maxDownloadBlockLength = x.server.maxDownloadBlockLength

theorem ticks_wait (h : Serving others x.server last) {ticks : List UInt32}
    (hprompt : ∀ now ∈ ticks, now - last < downloadTimeoutMs) :
    Serving others (run tickStep x ticks).server last ∧ Waited x (run tickStep x ticks) := by
  induction ticks generalizing x with
  | nil => exact ⟨h, rfl, rfl, rfl, rfl⟩
  | cons now ticks ih =>
    have hnow := hprompt now List.mem_cons_self
    obtain ⟨hserving, hwaited⟩ := ih (h.ticked hnow)
      fun later hmem => hprompt later (List.mem_cons_of_mem now hmem)
    refine ⟨hserving, ?_⟩
    rw [run_cons]
    have hsame := tick_waits h hnow
    obtain ⟨bootloader, downloadActive, nextDownloadBlock, maxDownloadBlockLength⟩ := hwaited
    rw [hsame] at bootloader downloadActive nextDownloadBlock maxDownloadBlockLength ⊢
    exact ⟨bootloader, downloadActive, nextDownloadBlock, maxDownloadBlockLength⟩

/-- The services of an update are admitted. -/
theorem admitted_programming (h : x.server.session = sessionProgramming)
    (hsid : byteAt request 0 ∈ [0x11, 0x31, 0x34, 0x36, 0x37]) :
    checkServiceAttributes x.server request .physical = 0 := by
  unfold checkServiceAttributes
  generalize (if 1 < request.length then byteAt request 1 &&& 0x7F else anySubfunction) = subservice
  rw [h]
  simp only [List.mem_cons, List.not_mem_nil, or_false] at hsid
  have hrow : udsServiceAttribute (byteAt request 0) subservice
      = udsServiceAttribute (byteAt request 0) anySubfunction := by
    by_cases hany : anySubfunction = subservice
    · rw [hany]
    · rcases hsid with hsid | hsid | hsid | hsid | hsid <;> rw [hsid] <;> unfold udsServiceAttribute <;>
        simp [serviceAttributes, findAttribute, attributeRow, hany]
  rw [hrow]
  rcases hsid with hsid | hsid | hsid | hsid | hsid <;> rw [hsid] <;> rfl

theorem handle_dispatched (h : x.server.session = sessionProgramming)
    (hsid : byteAt request 0 ∈ [0x11, 0x31, 0x34, 0x36, 0x37]) (hpos : 0 < request.length)
    (hfits : request.length ≤ maxRequestLength) (now : UInt32) :
    udsServerHandleAddressed x request maxResponseLength .physical now
      = udsDispatch (atHandler x .physical now) request maxResponseLength now := by
  have hwell : ¬(maxResponseLength = 0 ∨ request.length = 0 ∨ maxRequestLength < request.length) := by
    rintro (hcapacity | hempty | hlong)
    · exact absurd hcapacity (by decide)
    · omega
    · omega
  unfold udsServerHandleAddressed
  rw [if_neg hwell, admitted_programming h hsid]
  exact if_neg fun hne => hne rfl

/-! ## One turn -/

/-- A request that has been let in, after the ticks of its turn. -/
structure Entered (others : UdsCallbacks (Clocked φ)) (x : Exchange (Clocked φ)) (turn : Turn)
    (y : Exchange (Clocked φ)) : Prop where
  serving : Serving others y.server turn.time
  waited : Waited x y
  clock : y.world.2 = turn.time

/-- A turn with the answer that the tester waits for, and the bootloader behind the server after
it. -/
structure Answered (others : UdsCallbacks (Clocked φ)) (turn : Turn) (s : Bootloader φ)
    (out : Served (Clocked φ)) : Prop where
  ok : out.1 = .ok
  answer : responseBytes out.2 = turn.answer
  serving : Serving others out.2.server turn.time
  bootloader : out.2.world.1 = s

/-- The server has let `k` blocks of a download through. -/
structure Downloading (server : UdsServer (Clocked φ)) (k : Nat) : Prop where
  active : server.downloadActive = true
  next : server.nextDownloadBlock = blockNumber k
  room : server.maxDownloadBlockLength = 256

variable {turn : Turn} {s : Bootloader φ} {k : Nat}

theorem Downloading.waited {x' : Exchange (Clocked φ)} (h : Downloading x.server k)
    (hwaited : Waited x x') : Downloading x'.server k :=
  ⟨hwaited.downloadActive.trans h.active, hwaited.nextDownloadBlock.trans h.next,
    hwaited.maxDownloadBlockLength.trans h.room⟩

theorem ask_dispatched (h : Serving others x.server last)
    (hticks : ∀ now ∈ turn.ticks, now - last < downloadTimeoutMs)
    (hsid : byteAt turn.request 0 ∈ [0x11, 0x31, 0x34, 0x36, 0x37])
    (hpos : 0 < turn.request.length) (hfits : turn.request.length ≤ maxRequestLength) :
    ∃ y, Entered others x turn y ∧
      ask x turn = udsDispatch y turn.request maxResponseLength turn.time := by
  obtain ⟨hserving, hwaited⟩ := ticks_wait h hticks
  let z : Exchange (Clocked φ) :=
    { run tickStep x turn.ticks with world := ((run tickStep x turn.ticks).world.1, turn.time) }
  refine ⟨atHandler z .physical turn.time, ⟨?_, ?_, rfl⟩,
    handle_dispatched (x := z) hserving.session hsid hpos hfits turn.time⟩
  · exact ⟨hserving.callbacks, hserving.session, hserving.patient, hserving.volatile,
      hserving.unready, rfl⟩
  · exact ⟨hwaited.bootloader, hwaited.downloadActive, hwaited.nextDownloadBlock,
      hwaited.maxDownloadBlockLength⟩

theorem Answered.answers (h : Answered others turn s (ask x turn)) : Answers x turn :=
  ⟨h.ok, h.answer⟩

theorem Answered.after (h : Answered others turn s (ask x turn)) :
    Serving others (turnStep x turn).server turn.time ∧ (turnStep x turn).world.1 = s :=
  ⟨h.serving, h.bootloader⟩

/-! ### RequestDownload -/

theorem readBeU32_toBytesBe {data : List UInt8} {i : Nat} {value : UInt32} (rest : List UInt8)
    (h : data.drop i = toBytesBe 4 value.toNat ++ rest) : readBeU32 data i 4 = value := by
  have hfield : (data.drop i).take 4 = toBytesBe 4 value.toNat := by
    rw [h]
    exact List.take_left' (length_toBytesBe ..)
  have hlong : i + 4 ≤ data.length := by
    have hlength := congrArg List.length h
    rw [List.length_drop, List.length_append, length_toBytesBe] at hlength
    omega
  rw [← UInt32.toNat_inj, toNat_readBeU32 data (by omega) hlong, hfield,
    ofBytesBe_toBytesBe value.toNat_lt]

theorem downloadRequest_address (address length : UInt32) :
    readBeU32 (downloadRequest address length) 3 4 = address :=
  readBeU32_toBytesBe (toBytesBe 4 length.toNat) rfl

theorem downloadRequest_length (address length : UInt32) :
    readBeU32 (downloadRequest address length) 7 4 = length := by
  refine readBeU32_toBytesBe [] ?_
  show (toBytesBe 4 address.toNat ++ toBytesBe 4 length.toNat).drop 4 = _
  rw [List.drop_left' (length_toBytesBe ..), List.append_nil]

theorem turn_download (h : Serving others x.server last)
    (hticks : ∀ now ∈ turn.ticks, now - last < downloadTimeoutMs) {address length : UInt32}
    (hrequest : turn.request = downloadRequest address length)
    (hanswer : turn.answer = [0x74, 0x20, 0x01, 0x00])
    (hok : udsBootloaderRequestDownload x.world.1 address length turn.time = (.ok, 256, s)) :
    Answered others turn s (ask x turn) ∧ Downloading (turnStep x turn).server 0 := by
  have hlength : (downloadRequest address length).length = 11 := by
    simp only [downloadRequest, List.length_cons, List.length_append, length_toBytesBe]
  obtain ⟨y, hentered, hasked⟩ := ask_dispatched h hticks
    (by rw [hrequest]; exact List.mem_cons_of_mem _ (List.mem_cons_of_mem _ List.mem_cons_self))
    (by rw [hrequest, hlength]; decide) (by rw [hrequest, hlength]; decide)
  have hdispatch : udsDispatch y turn.request maxResponseLength turn.time
      = serviceDownload y turn.request maxResponseLength := by
    rw [hrequest]
    rfl
  rw [turnStep, hasked, hdispatch, hrequest]
  have hcalled : onRequestDownload id y.world address length = (.ok, 256, s, y.world.2) := by
    unfold onRequestDownload
    rw [id, hentered.clock, hentered.waited.bootloader, hok]
  have hformat : byteAt (downloadRequest address length) 2 = 0x44 := rfl
  have haddress : readBeU32 (downloadRequest address length) 3 ((0x44 : UInt8) &&& 0x0F).toNat
      = address := downloadRequest_address address length
  have hsize : readBeU32 (downloadRequest address length) (3 + ((0x44 : UInt8) &&& 0x0F).toNat)
      ((0x44 : UInt8) >>> 4).toNat = length := downloadRequest_length address length
  unfold serviceDownload
  rw [hentered.serving.callbacks]
  dsimp only [updateCallbacks, flashingCallbacks]
  rw [if_neg (by rw [hlength]; decide), hformat, hlength, if_neg (by decide), haddress, hsize,
    hcalled]
  dsimp only
  rw [if_neg (not_not.mpr rfl), if_neg (by decide)]
  obtain ⟨callbacks, session, patient, volatile, unready, activity⟩ := hentered.serving
  refine ⟨⟨rfl, ?_, ⟨callbacks, session, patient, volatile, unready, activity⟩, rfl⟩, rfl, rfl, rfl⟩
  rw [hanswer]
  rfl

/-! ### TransferData -/

theorem turn_block (h : Serving others x.server last)
    (hticks : ∀ now ∈ turn.ticks, now - last < downloadTimeoutMs)
    (hdownloading : Downloading x.server k) {bytes : List UInt8}
    (hrequest : turn.request = 0x36 :: blockNumber k :: bytes)
    (hanswer : turn.answer = [0x76, blockNumber k]) (hpos : 0 < bytes.length)
    (hle : bytes.length ≤ 254)
    (hok : udsBootloaderTransferData x.world.1 (blockNumber k) (some (Buf.ofList bytes))
      (UInt16.ofNat bytes.length) turn.time = (.ok, s)) :
    Answered others turn s (ask x turn) ∧ Downloading (turnStep x turn).server (k + 1) := by
  have hlength : turn.request.length = bytes.length + 2 := by
    rw [hrequest, List.length_cons, List.length_cons]
  have hlongest : maxRequestLength = 4095 := rfl
  obtain ⟨y, hentered, hasked⟩ := ask_dispatched h hticks
    (by rw [hrequest]; simp [byteAt]) (by omega) (by omega)
  have hdispatch : udsDispatch y turn.request maxResponseLength turn.time
      = serviceTransferData y turn.request maxResponseLength := by
    rw [hrequest]
    rfl
  rw [turnStep, hasked, hdispatch, hrequest]
  rw [hrequest] at hlength
  obtain ⟨hactive, hnext, hroom⟩ := hdownloading.waited hentered.waited
  -- the server's callback is the bootloader's transfer
  have hcalled : onTransferData id y.world (blockNumber k) bytes = (.ok, s, y.world.2) := by
    unfold onTransferData
    rw [id, hentered.clock, hentered.waited.bootloader, hok]
  have hnumber : byteAt (0x36 :: blockNumber k :: bytes) 1 = blockNumber k := rfl
  have hdata : (0x36 :: blockNumber k :: bytes).drop 2 = bytes := rfl
  have hshort : ¬((0x36 :: blockNumber k :: bytes).length < 3 ∨ ¬y.server.downloadActive = true) := by
    rw [hlength, hactive]
    exact not_or.mpr ⟨by omega, not_not.mpr rfl⟩
  -- a block has no more bytes than the server has said it takes
  have hfits : ¬y.server.maxDownloadBlockLength - 2
      < UInt16.ofNat ((0x36 :: blockNumber k :: bytes).length - 2) := by
    rw [hroom, hlength, UInt16.lt_iff_toNat_lt, UInt16.toNat_ofNat']
    change ¬254 < _
    omega
  unfold serviceTransferData
  rw [hentered.serving.callbacks]
  dsimp only [updateCallbacks, flashingCallbacks]
  rw [if_neg hshort, hnext, hnumber, if_neg (not_not.mpr rfl), if_neg hfits, hdata, hcalled]
  dsimp only
  rw [if_neg (not_not.mpr rfl), if_neg (by decide)]
  obtain ⟨callbacks, session, patient, volatile, unready, activity⟩ := hentered.serving
  refine ⟨⟨rfl, ?_, ⟨callbacks, session, patient, volatile, unready, activity⟩, rfl⟩, hactive,
    blockNumber_succ k, hroom⟩
  rw [hanswer]
  rfl

/-! ### RequestTransferExit -/

theorem turn_exit (h : Serving others x.server last)
    (hticks : ∀ now ∈ turn.ticks, now - last < downloadTimeoutMs)
    (hdownloading : Downloading x.server k) {checksum : List UInt8}
    (hrequest : turn.request = 0x37 :: checksum) (hanswer : turn.answer = [0x77, 0x00])
    (hle : checksum.length ≤ 4094)
    (hok : udsBootloaderTransferExit x.world.1 checksum turn.time = (.ok, [0x00], s)) :
    Answered others turn s (ask x turn) := by
  have hlength : turn.request.length = checksum.length + 1 := by
    rw [hrequest, List.length_cons]
  have hlongest : maxRequestLength = 4095 := rfl
  obtain ⟨y, hentered, hasked⟩ := ask_dispatched h hticks
    (by rw [hrequest]; simp [byteAt]) (by omega) (by omega)
  have hdispatch : udsDispatch y turn.request maxResponseLength turn.time
      = serviceTransferExit y turn.request maxResponseLength := by
    rw [hrequest]
    rfl
  rw [hasked, hdispatch, hrequest]
  have hdata : (0x37 :: checksum).drop 1 = checksum := rfl
  have hcalled : ∀ capacity, onTransferExit id y.world checksum capacity
      = ⟨.ok, [0x00], 1, (s, y.world.2)⟩ := by
    intro capacity
    unfold onTransferExit
    rw [id, hentered.clock, hentered.waited.bootloader, hok]
    rfl
  unfold serviceTransferExit
  rw [hentered.serving.callbacks]
  dsimp only [updateCallbacks, flashingCallbacks]
  rw [if_neg (not_not.mpr (hdownloading.waited hentered.waited).active), hdata, hcalled]
  dsimp only
  rw [if_neg (not_not.mpr rfl), if_neg (by decide)]
  obtain ⟨callbacks, session, patient, volatile, unready, activity⟩ := hentered.serving
  refine ⟨rfl, ?_, ⟨callbacks, session, patient, volatile, unready, activity⟩, rfl⟩
  rw [hanswer]
  rfl

/-! ### RoutineControl and ECUReset -/

theorem routineControl_capacity (s : Bootloader φ) (subfunction : UInt8) (routineId : UInt16)
    (input : List UInt8) {capacity : UInt16} (h : ¬capacity < 1) :
    udsBootloaderRoutineControl s subfunction routineId input capacity
      = udsBootloaderRoutineControl s subfunction routineId input 1 := by
  have hone : ¬(1 : UInt16) < 1 := by decide
  unfold udsBootloaderRoutineControl
  simp only [h, hone, or_false]

theorem turn_check (h : Serving others x.server last)
    (hticks : ∀ now ∈ turn.ticks, now - last < downloadTimeoutMs)
    (hrequest : turn.request = [0x31, 0x01, 0x02, 0x02])
    (hanswer : turn.answer = [0x71, 0x01, 0x02, 0x02, 0x00])
    (hok : udsBootloaderRoutineControl x.world.1 subfunctionStartRoutine routineCheckMemoryId [] 1
      = (.ok, [0x00], s)) : Answered others turn s (ask x turn) := by
  obtain ⟨y, hentered, hasked⟩ := ask_dispatched h hticks
    (by rw [hrequest]; decide) (by rw [hrequest]; decide) (by rw [hrequest]; decide)
  have hdispatch : udsDispatch y turn.request maxResponseLength turn.time
      = serviceRoutineControl y turn.request maxResponseLength := by
    rw [hrequest]
    rfl
  rw [hasked, hdispatch, hrequest]
  have hcalled : ∀ capacity : UInt16, ¬capacity < 1 →
      onRoutineControl y.world (byteAt [0x31, 0x01, 0x02, 0x02] 1 &&& 0x7F)
        (readU16 [0x31, 0x01, 0x02, 0x02] 2) ([0x31, 0x01, 0x02, 0x02].drop 4) capacity
        = ⟨.ok, [0x00], 1, (s, y.world.2)⟩ := by
    intro capacity hcapacity
    unfold onRoutineControl
    rw [hentered.waited.bootloader, routineControl_capacity _ _ _ _ hcapacity]
    have hchecked : udsBootloaderRoutineControl x.world.1
        (byteAt [0x31, 0x01, 0x02, 0x02] 1 &&& 0x7F) (readU16 [0x31, 0x01, 0x02, 0x02] 2)
        ([0x31, 0x01, 0x02, 0x02].drop 4) 1 = (.ok, [0x00], s) := hok
    rw [hchecked]
    rfl
  unfold serviceRoutineControl
  rw [hentered.serving.callbacks]
  dsimp only [updateCallbacks, flashingCallbacks]
  rw [if_neg (by decide), hcalled _ (by decide)]
  dsimp only
  rw [if_neg (not_not.mpr rfl), if_neg (by decide), if_neg (by decide)]
  obtain ⟨callbacks, session, patient, volatile, unready, activity⟩ := hentered.serving
  refine ⟨rfl, ?_, ⟨callbacks, session, patient, volatile, unready, activity⟩, rfl⟩
  rw [hanswer]
  rfl

/-- The server has accepted a hard reset. -/
structure Resetting (server : UdsServer (Clocked φ)) : Prop where
  pending : server.resetPending = true
  subfunction : server.pendingResetSubfunction = 0x01

theorem turn_reset (h : Serving others x.server last)
    (hticks : ∀ now ∈ turn.ticks, now - last < downloadTimeoutMs)
    (hrequest : turn.request = [0x11, 0x01]) (hanswer : turn.answer = [0x51, 0x01]) :
    Answered others turn x.world.1 (ask x turn) ∧ Resetting (turnStep x turn).server := by
  obtain ⟨y, hentered, hasked⟩ := ask_dispatched h hticks
    (by rw [hrequest]; decide) (by rw [hrequest]; decide) (by rw [hrequest]; decide)
  have hdispatch : udsDispatch y turn.request maxResponseLength turn.time
      = serviceEcuReset y turn.request maxResponseLength := by
    rw [hrequest]
    rfl
  rw [turnStep, hasked, hdispatch, hrequest]
  have hcalled : onEcuReset y.world (byteAt [0x11, 0x01] 1 &&& 0x7F) = (.ok, y.world) := rfl
  unfold serviceEcuReset
  rw [hentered.serving.callbacks]
  dsimp only [updateCallbacks, flashingCallbacks]
  rw [if_neg (by decide), if_neg (by decide), hcalled]
  dsimp only
  rw [if_neg (not_not.mpr rfl), if_neg (by decide), if_neg (by decide), if_neg (by decide)]
  obtain ⟨callbacks, session, patient, volatile, unready, activity⟩ := hentered.serving
  refine ⟨⟨rfl, ?_, ⟨callbacks, session, patient, volatile, fun _ => rfl, activity⟩,
    hentered.waited.bootloader⟩, rfl, rfl⟩
  rw [hanswer]
  rfl

/-! ## The whole dialogue -/

theorem expired_prompt (h : now - last < downloadTimeoutMs) :
    expired now (last + downloadTimeoutMs) = false := by
  have htimeout : downloadTimeoutMs.toNat = 5000 := rfl
  have hlast := last.toNat_lt
  have hnow := now.toNat_lt
  rw [UInt32.lt_iff_toNat_lt, UInt32.toNat_sub, htimeout] at h
  unfold expired
  rw [decide_eq_false_iff_not, UInt32.toNat_sub, UInt32.toNat_add, htimeout]
  omega

/-- The blocks that an image is sent in. -/
structure Split (blocks : List (List UInt8)) (image : List UInt8) : Prop where
  pos : ∀ bytes ∈ blocks, 0 < bytes.length
  /-- What the server lets through, in whole double words. -/
  le : ∀ bytes ∈ blocks, bytes.length ≤ 254
  aligned : ∀ bytes ∈ blocks, bytes.length % 8 = 0
  bytes : blocks.flatten = image

variable {target : UdsBootloaderTarget} {s₀ : Bootloader φ}

/-- A transfer that is under way on both sides. -/
structure Transferring (others : UdsCallbacks (Clocked φ)) (target : UdsBootloaderTarget)
    (s₀ : Bootloader φ) (x : Exchange (Clocked φ)) (length : Nat) (done : List UInt8) (k : Nat)
    (last : UInt32) : Prop where
  serving : Serving others x.server last
  downloading : Downloading x.server k
  uploading : Uploading target s₀ x.world.1 length done k last

theorem turn_transfers {length : Nat} {done bytes : List UInt8}
    (h : Transferring others target s₀ x length done k last)
    (hticks : ∀ now ∈ turn.ticks, now - last < downloadTimeoutMs)
    (htime : turn.time - last < downloadTimeoutMs)
    (hturn : (turn.request, turn.answer) = (0x36 :: blockNumber k :: bytes, [0x76, blockNumber k]))
    (hpos : 0 < bytes.length) (hle : bytes.length ≤ 254) (haligned : bytes.length % 8 = 0)
    (hroom : done.length + bytes.length ≤ length) :
    Answers x turn ∧ Transferring others target s₀ (turnStep x turn) length (done ++ bytes) (k + 1)
      turn.time := by
  obtain ⟨hrequest, hanswer⟩ := Prod.mk.inj hturn
  obtain ⟨hok, huploading⟩ := transfer_uploading h.uploading (c := ⟨bytes, turn.time⟩)
    ⟨hpos, hle.trans (by decide), haligned⟩ hroom (expired_prompt htime)
  obtain ⟨hanswered, hdownloading⟩ := turn_block h.serving hticks h.downloading hrequest hanswer
    hpos hle (Prod.ext hok rfl)
  obtain ⟨hserving, hworld⟩ := hanswered.after
  refine ⟨hanswered.answers, hserving, hdownloading, ?_⟩
  rw [hworld]
  exact huploading

/-- All blocks of what is left of the image. -/
theorem turns_transfer {length : Nat} {done : List UInt8} {blocks : List (List UInt8)}
    {turns later : List Turn} (h : Transferring others target s₀ x length done k last)
    (hturns : turns.map (fun turn => (turn.request, turn.answer)) = blockTurns k blocks)
    (hpos : ∀ bytes ∈ blocks, 0 < bytes.length) (hle : ∀ bytes ∈ blocks, bytes.length ≤ 254)
    (haligned : ∀ bytes ∈ blocks, bytes.length % 8 = 0)
    (hroom : done.length + blocks.flatten.length ≤ length)
    (hprompt : Prompt last (turns ++ later)) :
    Along turnStep Answers x turns ∧ ∃ last', Prompt last' later ∧
      Transferring others target s₀ (run turnStep x turns) length (done ++ blocks.flatten)
        (k + blocks.length) last' := by
  induction blocks generalizing x done k last turns with
  | nil =>
    obtain rfl := List.map_eq_nil_iff.mp hturns
    refine ⟨trivial, last, hprompt, ?_⟩
    rw [List.flatten_nil, List.append_nil]
    exact h
  | cons bytes blocks ih =>
    obtain ⟨turn, turns, rfl, hturn, hrest⟩ := List.map_eq_cons_iff.mp hturns
    obtain ⟨hticks, htime, hafter⟩ := hprompt
    rw [List.flatten_cons, List.length_append] at hroom
    obtain ⟨hanswers, hnext⟩ := turn_transfers h hticks htime hturn (hpos bytes List.mem_cons_self)
      (hle bytes List.mem_cons_self) (haligned bytes List.mem_cons_self) (by omega)
    obtain ⟨hanswered, last', hlater, hdone⟩ := ih hnext hrest
      (fun b hb => hpos b (List.mem_cons_of_mem bytes hb))
      (fun b hb => hle b (List.mem_cons_of_mem bytes hb))
      (fun b hb => haligned b (List.mem_cons_of_mem bytes hb))
      (by rw [List.length_append]; omega) hafter
    refine ⟨⟨hanswers, hanswered⟩, last', hlater, ?_⟩
    rw [List.flatten_cons, ← List.append_assoc, List.length_cons, Nat.add_comm blocks.length 1,
      ← Nat.add_assoc]
    exact hdone

theorem transferExit_reply {checksum : List UInt8} {stop : UInt32}
    (hok : (udsBootloaderTransferExit s checksum stop).1 = .ok) :
    (udsBootloaderTransferExit s checksum stop).2.1 = [0x00] := by
  unfold udsBootloaderTransferExit at hok ⊢
  split at hok
  next => cases hok
  next hprogress =>
    rw [if_neg hprogress]
    dsimp only at hok ⊢
    split at hok
    next => cases hok
    next hfinished => rw [if_neg hfinished]

/-- The download that a genuine image begins with. -/
theorem request_reply (houtfitted : Outfitted target s) {length : Nat} (hpos : 0 < length)
    (hfits : length ≤ 4096) (haligned : length % 8 = 0) (now : UInt32) :
    ∃ s', udsBootloaderRequestDownload s (targetContext target).targetSlotAddr
        (UInt32.ofNat length) now = (.ok, 256, s') ∧ Uploading target s s' length [] 0 now := by
  obtain ⟨hok, huploading⟩ := request_uploading houtfitted hpos hfits haligned now
  obtain ⟨hrefused, -⟩ | ⟨-, hmax, -⟩ := requestDownload_counts s
    (targetContext target).targetSlotAddr (UInt32.ofNat length) now
  · exact absurd hok hrefused
  · refine ⟨_, Prod.ext hok (Prod.ext ?_ rfl), huploading⟩
    rw [hmax, houtfitted.memoryMap]
    cases target <;> rfl

/-- Once the reset is carried out, the candidate is activated. -/
theorem reset_activates (h : Serving others x.server last) (hresetting : Resetting x.server)
    (hverified : x.world.1.ctx.candidateVerified = true) (now : UInt32) :
    (udsServerCompleteReset x.server).1 = .ok ∧
      (udsServerTick (udsServerCompleteReset x.server).2 now x.world).2.2.1
        = (udsBootloaderActivateCandidate x.world.1).2 := by
  have hexecutes : ¬x.server.callbacks.ecuResetExecute.isNone = true := by
    rw [h.callbacks]
    exact Bool.false_ne_true
  have hcomplete : udsServerCompleteReset x.server = (.ok, { x.server with resetReady := true }) := by
    unfold udsServerCompleteReset
    rw [if_neg (not_not.mpr hresetting.pending), if_neg hexecutes]
  rw [hcomplete]
  refine ⟨rfl, ?_⟩
  unfold udsServerTick
  dsimp only
  rw [if_pos ⟨hresetting.pending, rfl⟩, gateTick_volatile h.volatile, hresetting.subfunction]
  unfold executeReset
  rw [h.callbacks]
  dsimp only [updateCallbacks, flashingCallbacks]
  unfold onEcuResetExecute
  rw [if_pos hverified]

/-- The server carries out the reset, and the device runs the image. -/
def Restarts (target : UdsBootloaderTarget) (image : List UInt8) (now : UInt32)
    (x : Exchange (Clocked φ)) : Prop :=
  (udsServerCompleteReset x.server).1 = .ok ∧
    Installed target image (udsServerTick (udsServerCompleteReset x.server).2 now x.world).2.2.1

theorem turns_end {exit check reset : Turn} {image checksum : List UInt8}
    (h : Transferring others target s₀ x image.length image k last) (hgenuine : Genuine s₀ image)
    (hne : image ≠ [])
    (hchecksum : ∀ crc, requestedCrc checksum = some crc → crc = bootCalcCrc32 image)
    (hshort : checksum.length ≤ 4094)
    (hexit : (exit.request, exit.answer) = (0x37 :: checksum, [0x77, 0x00]))
    (hcheck : (check.request, check.answer)
      = ([0x31, 0x01, 0x02, 0x02], [0x71, 0x01, 0x02, 0x02, 0x00]))
    (hreset : (reset.request, reset.answer) = ([0x11, 0x01], [0x51, 0x01]))
    (hprompt : Prompt last [exit, check, reset]) (now : UInt32) :
    Along turnStep Answers x [exit, check, reset] ∧
      Restarts target image now (run turnStep x [exit, check, reset]) := by
  obtain ⟨⟨hticks, htime, hprompt⟩, hrequest, hanswer⟩ := And.intro hprompt (Prod.mk.inj hexit)
  obtain ⟨hended, huploaded⟩ := exit_uploaded h.uploading hne (expired_prompt htime) hchecksum
  have hexited := turn_exit h.serving hticks h.downloading hrequest hanswer hshort
    (Prod.ext hended (Prod.ext (transferExit_reply hended) rfl))
  obtain ⟨hserving, hworld⟩ := hexited.after
  obtain ⟨⟨hticks, -, hprompt⟩, hrequest, hanswer⟩ := And.intro hprompt (Prod.mk.inj hcheck)
  have hchecked := turn_check hserving hticks hrequest hanswer
    (by rw [hworld]; exact check_genuine huploaded hgenuine)
  obtain ⟨hserving, hworld⟩ := hchecked.after
  obtain ⟨⟨hticks, -, -⟩, hrequest, hanswer⟩ := And.intro hprompt (Prod.mk.inj hreset)
  obtain ⟨hasked, hresetting⟩ := turn_reset hserving hticks hrequest hanswer
  refine ⟨⟨hexited.answers, hchecked.answers, hasked.answers, trivial⟩, ?_⟩
  obtain ⟨hserving, hsame⟩ := hasked.after
  rw [hworld] at hsame
  obtain ⟨hcompleted, hticked⟩ := reset_activates hserving hresetting (by rw [hsame]; rfl) now
  refine ⟨hcompleted, ?_⟩
  rw [run_cons, run_cons, run_cons, run_nil, hticked, hsame]
  exact (activate_genuine huploaded hgenuine).2

/-- **A tester's update.** Every request is answered as the tester expects, and once the reset is
carried out the image runs. -/
theorem dialogue_succeeds (target : UdsBootloaderTarget) (s₀ : Bootloader φ)
    (before : List BootCall) (others : UdsCallbacks (Clocked φ)) (x : Exchange (Clocked φ))
    (image checksum : List UInt8) (blocks : List (List UInt8)) (turns : List Turn) (now : UInt32)
    (hworld : x.world.1 = run bootStep (udsBootloaderInit s₀ target) before)
    (hserving : Serving others x.server x.server.lastActivityMs)
    (hgenuine : Genuine x.world.1 image) (hsplit : Split blocks image)
    (hchecksum : ∀ crc, requestedCrc checksum = some crc → crc = bootCalcCrc32 image)
    (hshort : checksum.length ≤ 4094)
    (hturns : turns.map (fun turn => (turn.request, turn.answer))
      = updateDialogue target (UInt32.ofNat image.length) blocks checksum)
    (hprompt : Prompt x.server.lastActivityMs turns) :
    Along turnStep Answers x turns ∧ Restarts target image now (run turnStep x turns) := by
  have hsize : metadataSize = 128 := rfl
  have hlarger := hgenuine.larger
  have hwhole := hgenuine.whole
  have hne : image ≠ [] := by
    rintro rfl
    rw [List.length_nil] at hwhole
    omega
  have houtfitted : Outfitted target x.world.1 := by
    rw [hworld]
    exact run_outfitted target s₀ before
  -- the turns, one group for each phase of the dialogue
  obtain ⟨download, rest, rfl, hdownload, hrest⟩ := List.map_eq_cons_iff.mp hturns
  obtain ⟨transfer, ending, rfl, htransfer, hending⟩ := List.map_eq_append_iff.mp hrest
  obtain ⟨exit, rest, rfl, hexit, hrest⟩ := List.map_eq_cons_iff.mp hending
  obtain ⟨check, rest, rfl, hcheck, hrest⟩ := List.map_eq_cons_iff.mp hrest
  obtain ⟨reset, rest, rfl, hreset, hrest⟩ := List.map_eq_cons_iff.mp hrest
  obtain rfl := List.map_eq_nil_iff.mp hrest
  obtain ⟨⟨hticks, -, hprompt⟩, hrequest, hanswer⟩ := And.intro hprompt (Prod.mk.inj hdownload)
  -- the bootloader accepts the download, and the server answers so
  obtain ⟨s', hok, huploading⟩ := request_reply houtfitted (by omega) hgenuine.fits
    hgenuine.aligned download.time
  obtain ⟨hdownloaded, hdownloading⟩ := turn_download hserving hticks hrequest hanswer hok
  obtain ⟨hbegun, hbootloader⟩ := hdownloaded.after
  obtain ⟨htransferred, last, hprompt, hdone⟩ := turns_transfer
    ⟨hbegun, hdownloading, hbootloader ▸ huploading⟩ htransfer hsplit.pos hsplit.le hsplit.aligned
    (by rw [hsplit.bytes, List.length_nil, Nat.zero_add]) hprompt
  rw [hsplit.bytes, List.nil_append] at hdone
  obtain ⟨hended, hrestarts⟩ := turns_end hdone hgenuine hne hchecksum hshort hexit hcheck hreset
    hprompt now
  refine ⟨⟨hdownloaded.answers, along_append.mpr ⟨htransferred, hended⟩⟩, ?_⟩
  rw [run_cons, run_append]
  exact hrestarts

/-- A server that has gone to the programming session, with the bootloader behind it. -/
def serverFive : Exchange (Clocked Unit) :=
  let w : Clocked Unit := (run bootStep (udsBootloaderInit freshC092 .stm32c092) [startErase], 0)
  let (_, server, w) := udsServerRequestSession (udsServerInit (updateCallbacks id {}) 0)
    sessionExtended 0 w
  let (_, server, w) := udsServerRequestSession server sessionProgramming 0 w
  ⟨server, fun _ => 0, 0, w⟩

/-- Version 5 in two blocks. -/
def blocksFive : List (List UInt8) := [imageFive.take 128, imageFive.drop 128]

/-- One turn a second, with a tick before it. -/
def turnsFive : List Turn :=
  [1000, 2000, 3000, 4000, 5000, 6000].zipWith (fun time pair => ⟨[time - 1], time, pair.1, pair.2⟩)
    (updateDialogue .stm32c092 (UInt32.ofNat imageFive.length) blocksFive [])

set_option maxRecDepth 20000 in
theorem dialogue_succeeds_five :
    Along turnStep Answers serverFive turnsFive ∧
      Restarts .stm32c092 imageFive 7000 (run turnStep serverFive turnsFive) :=
  dialogue_succeeds .stm32c092 freshC092 [startErase] {} serverFive imageFive [] blocksFive
    turnsFive 7000 rfl ⟨rfl, rfl, by decide +kernel, rfl, fun _ => rfl, rfl⟩
    ⟨by decide +kernel, by decide +kernel, by decide +kernel, by decide +kernel,
      by decide +kernel, by decide +kernel, by decide +kernel, by decide +kernel⟩
    ⟨by decide +kernel, by decide +kernel, by decide +kernel, by decide +kernel⟩
    (fun _ hcrc => nomatch hcrc) (by decide) rfl (by decide +kernel)

end UdsIsoTp.Boot
