import UdsIsoTp.Boot.Completion
import UdsIsoTp.Boot.Journal
import UdsIsoTp.Uds.GateCalls

/-!
# Two counters for one block

The server counts the blocks of a download, and so does the download engine behind it. The
two are reset by different events: a change of session or a timeout ends the server's
download and leaves the engine's, an abort ends the engine's and leaves the server's.
`Lockstep` asks them to agree only while both are under way.

Every other callback of the server may do what it likes, except to the engine: that is a
static variable of `uds_bootloader.c` (`downloadSide`).
-/

namespace UdsIsoTp.Boot

open UdsIsoTp.Uds UdsIsoTp.Flash

variable {φ ρ : Type}

/-! ## The callbacks of a download -/

/-- `uds_bootloader_request_download` as a callback; `clock` is the platform's. -/
def onRequestDownload (clock : ρ → UInt32) (w : Bootloader φ × ρ) (address length : UInt32) :
    UdsCallbackResult × UInt16 × Bootloader φ × ρ :=
  let (result, maxBlockLength, s) := udsBootloaderRequestDownload w.1 address length (clock w.2)
  (result, maxBlockLength, s, w.2)

/-- `uds_bootloader_transfer_data` as a callback. -/
def onTransferData (clock : ρ → UInt32) (w : Bootloader φ × ρ) (block : UInt8)
    (data : List UInt8) : UdsCallbackResult × Bootloader φ × ρ :=
  let (result, s) := udsBootloaderTransferData w.1 block (some (Buf.ofList data))
    (UInt16.ofNat data.length) (clock w.2)
  (result, s, w.2)

/-- `uds_bootloader_transfer_exit` as a callback. -/
def onTransferExit (clock : ρ → UInt32) (w : Bootloader φ × ρ) (request : List UInt8)
    (_capacity : UInt16) : Reply (Bootloader φ × ρ) :=
  let (result, data, s) := udsBootloaderTransferExit w.1 request (clock w.2)
  ⟨result, data, UInt16.ofNat data.length, (s, w.2)⟩

/-- A server's callbacks with those of the bootloader's download. -/
def flashingCallbacks (clock : ρ → UInt32) (others : UdsCallbacks (Bootloader φ × ρ)) :
    UdsCallbacks (Bootloader φ × ρ) :=
  { others with
    requestDownload := some (onRequestDownload clock)
    transferData := some (onTransferData clock)
    requestTransferExit := some (onTransferExit clock) }

/-- What of the bootloader the download services share with nobody. -/
def downloadSide (w : Bootloader φ × ρ) : UdsDownload BootWorld × Bool × UdsDownloadMemoryMap :=
  (w.1.download, w.1.ctx.downloadInProgress, w.1.memoryMap)

/-! ## What they do to the engine -/

/-- The engine of a bootloader, while nothing has been accepted. -/
structure EngineKept (s s' : Bootloader φ) : Prop extends CountersKept s.download s'.download where
  memoryMap : s'.memoryMap = s.memoryMap
  inProgress : s'.ctx.downloadInProgress = s.ctx.downloadInProgress

theorem EngineKept.refl (s : Bootloader φ) : EngineKept s s :=
  ⟨(Passive.refl s.download).toCountersKept, rfl, rfl⟩

/-- A request is refused, or counts from one again. -/
theorem requestDownload_counts (s : Bootloader φ) (address length now : UInt32) :
    (udsBootloaderRequestDownload s address length now).1 ≠ .ok ∧
        EngineKept s (udsBootloaderRequestDownload s address length now).2.2 ∨
      (udsBootloaderRequestDownload s address length now).1 = .ok ∧
        (udsBootloaderRequestDownload s address length now).2.1 = s.memoryMap.maxBlockLength ∧
        (udsBootloaderRequestDownload s address length now).2.2.memoryMap = s.memoryMap ∧
        (udsBootloaderRequestDownload s address length now).2.2.ctx.downloadInProgress = true ∧
        (udsBootloaderRequestDownload s address length now).2.2.download.expectedBlock = 1 := by
  have hbegin := (udsDownloadBegin_cases s.download address length now (s.ctx, s.flash)).1
  unfold udsBootloaderRequestDownload
  split
  next => exact .inl ⟨by simp, .refl s⟩
  next =>
    dsimp only
    split
    next hresult =>
      have hsame := (hbegin.resolve_right fun h => hresult h.1).2
      refine .inl ⟨?_, ?_⟩
      · dsimp only
        split <;> simp
      · refine ⟨?_, rfl, rfl⟩
        dsimp only
        rw [hsame]
        exact (Passive.refl s.download).toCountersKept
    next hresult =>
      have hbegun := (hbegin.resolve_left fun h => hresult h.1).2.2.2.2
      refine .inr ⟨rfl, rfl, rfl, rfl, ?_⟩
      dsimp only
      rw [(pollErase_passive ..).expectedBlock, hbegun]
      rfl

theorem EngineKept.trans {s s' s'' : Bootloader φ} (h : EngineKept s s') (h' : EngineKept s' s'') :
    EngineKept s s'' where
  callbacks := h'.callbacks.trans h.callbacks
  imageLength := h'.imageLength.trans h.imageLength
  receivedLength := h'.receivedLength.trans h.receivedLength
  expectedBlock := h'.expectedBlock.trans h.expectedBlock
  crc32 := h'.crc32.trans h.crc32
  active := fun hactive => h.active (h'.active hactive)
  memoryMap := h'.memoryMap.trans h.memoryMap
  inProgress := h'.inProgress.trans h.inProgress

/-- A step of the engine that moves no counter. -/
theorem runDownload_kept {s : Bootloader φ} {f : UdsDownload BootWorld → BootWorld →
      UdsDownloadResult × UdsDownload BootWorld × BootWorld}
    (h : CountersKept s.download (f s.download (s.ctx, s.flash)).2.1) :
    EngineKept s (runDownload s f).2 := ⟨h, rfl, rfl⟩

/-- The poll for an erase comes before a block. -/
theorem polled_kept (s : Bootloader φ) (now : UInt32) :
    EngineKept s (if s.download.state = .erasing then
      (runDownload s fun d w => udsDownloadPollErase d now w).2 else s) := by
  split
  next => exact runDownload_kept (pollErase_passive ..).toCountersKept
  next => exact .refl s

/-- A block is refused, or counted by an engine that was under way. -/
theorem transferData_counts (s : Bootloader φ) (block : UInt8) (data : Option Buf)
    (length : UInt16) (now : UInt32) :
    (udsBootloaderTransferData s block data length now).1 ≠ .ok ∧
        EngineKept s (udsBootloaderTransferData s block data length now).2 ∨
      (udsBootloaderTransferData s block data length now).1 = .ok ∧
        (udsBootloaderTransferData s block data length now).2.memoryMap = s.memoryMap ∧
        (udsBootloaderTransferData s block data length now).2.ctx.downloadInProgress = true ∧
        Active s.download ∧ block = s.download.expectedBlock ∧
        (udsBootloaderTransferData s block data length now).2.download.expectedBlock
          = s.download.expectedBlock + 1 := by
  unfold udsBootloaderTransferData
  split
  next => exact .inl ⟨by simp, .refl s⟩
  next hprogress =>
    have hpolled := polled_kept s now
    generalize (if s.download.state = .erasing then
      (runDownload s fun d w => udsDownloadPollErase d now w).2 else s) = t at hpolled ⊢
    have hwrite := write_outcome t.download block data length now (t.ctx, t.flash)
    dsimp only
    split
    next hresult =>
      have hkept : EngineKept t
          (runDownload t fun d w => udsDownloadWrite d block data length now w).2 :=
        runDownload_kept (hwrite.resolve_right fun h => hresult h.1).2.toCountersKept
      refine .inl ⟨?_, hpolled.trans hkept⟩
      dsimp only
      split <;> simp
    next hresult =>
      obtain ⟨-, buf, -, htaken, hnew⟩ := hwrite.resolve_left fun h => hresult h.1
      refine .inr ⟨rfl, hpolled.memoryMap, hpolled.inProgress.trans (not_not.mp hprogress),
        hpolled.active (.inr htaken.state), htaken.inSequence.trans hpolled.expectedBlock, ?_⟩
      show (udsDownloadWrite t.download block data length now (t.ctx, t.flash)).2.1.expectedBlock = _
      rw [hnew]
      exact congrArg (· + 1) hpolled.expectedBlock

/-- A finish that succeeds completes the download. -/
theorem finish_ok {d : UdsDownload BootWorld} {expected : UInt32} {has : Bool} {now : UInt32}
    {w : BootWorld} (h : (udsDownloadFinish d expected has now w).1 = .ok) :
    (udsDownloadFinish d expected has now w).2.1.state = .complete := by
  unfold udsDownloadFinish at h ⊢
  split at h
  next => cases h
  next =>
    split at h
    next => cases h
    next hready =>
      rw [if_neg hready]
      split at h
      next => cases h
      next hexpired =>
        rw [if_neg hexpired]
        dsimp only at h ⊢
        split at h
        next => cases h
        next hcrc =>
          rw [if_neg hcrc]
          split at h
          next hresult => exact absurd h hresult
          next hresult =>
            rw [if_neg hresult]

/-- After an exit that was asked of the engine, no download is under way. -/
theorem transferExit_counts (s : Bootloader φ) (request : List UInt8) (now : UInt32) :
    (udsBootloaderTransferExit s request now).2.2 = s ∨
      (udsBootloaderTransferExit s request now).2.2.memoryMap = s.memoryMap ∧
        ¬Active (udsBootloaderTransferExit s request now).2.2.download := by
  unfold udsBootloaderTransferExit
  split
  next => exact .inl rfl
  next =>
    dsimp only
    split
    next => exact .inr ⟨rfl, fun h => by cases h <;> contradiction⟩
    next hresult =>
      refine .inr ⟨rfl, ?_⟩
      have hcomplete := finish_ok (not_not.mp hresult)
      intro hactive
      rcases hactive with herasing | hreceiving
      · exact absurd (hcomplete.symm.trans herasing) (by decide)
      · exact absurd (hcomplete.symm.trans hreceiving) (by decide)

/-! ## The two together -/

/-- A server and the world behind its callbacks. -/
abbrev Flashing (φ ρ : Type) := UdsServer (Bootloader φ × ρ) × Bootloader φ × ρ

/-- Everything that happens to a server and a bootloader. -/
inductive FlashingCall (φ ρ : Type) where
  | server (call : ServerCall (Bootloader φ × ρ))
  /-- The rest of the program. -/
  | elsewhere (f : Bootloader φ × ρ → Bootloader φ × ρ)
  /-- `uds_bootloader_init` again, on a flash with these callbacks. -/
  | restart (target : UdsBootloaderTarget) (flash : UdsDownloadCallbacks BootWorld)

/-- `uds_bootloader_init` on any flash. -/
def bootloaderOn (s : Bootloader φ) (target : UdsBootloaderTarget)
    (flash : UdsDownloadCallbacks BootWorld) : Bootloader φ :=
  let s := udsBootloaderInit s target
  { s with download := { s.download with callbacks := flash } }

/-- One call. -/
def flashingStep (s : Flashing φ ρ) : FlashingCall φ ρ → Flashing φ ρ
  | .server call => serverStep s call
  | .elsewhere f => (s.1, f s.2)
  | .restart target flash => (s.1, bootloaderOn s.2.1 target flash, s.2.2)

/-- No callback but the three, and nobody else, comes to the download engine. -/
structure Untouched (callbacks : UdsCallbacks (Bootloader φ × ρ))
    (persistFn : Option (Bootloader φ × ρ → UInt8 → UInt32 → Bool × Bootloader φ × ρ)) : Prop
    extends UnseenCalls downloadSide callbacks.withoutDownloads persistFn,
      Unseen downloadSide callbacks.withoutDownloads persistFn

/-- The requests come from the endpoint, and the rest of the program stays away from the
engine. -/
def FlashingCall.Fair : FlashingCall φ ρ → Prop
  | .server (.handle _ _ _ capacity _ _) => capacity = maxResponseLength
  | .server (.setSecurityPersistence persistFn) =>
    ∀ f ∈ persistFn, ∀ w attempts remaining, downloadSide (f w attempts remaining).2 = downloadSide w
  | .server _ => True
  | .elsewhere f => ∀ w, downloadSide (f w) = downloadSide w
  | .restart .. => True

/-- While both have a download under way, they expect the same block. -/
structure Lockstep (s : Flashing φ ρ) : Prop where
  room : 3 ≤ s.2.1.memoryMap.maxBlockLength
  inProgress : Active s.2.1.download → s.2.1.ctx.downloadInProgress = true
  agree : s.1.downloadActive = true → Active s.2.1.download →
    s.1.nextDownloadBlock = s.2.1.download.expectedBlock

/-- A step that neither starts a download nor counts a block of one. -/
structure Eased (s s' : Flashing φ ρ) : Prop where
  engine : EngineKept s.2.1 s'.2.1
  active : s'.1.downloadActive = true →
    s.1.downloadActive = true ∧ s'.1.nextDownloadBlock = s.1.nextDownloadBlock

theorem EngineKept.of_side {w w' : Bootloader φ × ρ} (h : downloadSide w' = downloadSide w) :
    EngineKept w.1 w'.1 := by
  have hdownload : w'.1.download = w.1.download := congrArg Prod.fst h
  refine ⟨?_, congrArg (·.2.2) h, congrArg (·.2.1) h⟩
  rw [hdownload]
  exact (Passive.refl w.1.download).toCountersKept

/-- The world is as it was for the engine, and the server for the download. -/
theorem Eased.of_side {s s' : Flashing φ ρ} (hside : downloadSide s'.2 = downloadSide s.2)
    (hactive : s'.1.downloadActive = s.1.downloadActive)
    (hnext : s'.1.nextDownloadBlock = s.1.nextDownloadBlock) : Eased s s' :=
  ⟨.of_side hside, fun h => ⟨hactive.symm.trans h, hnext⟩⟩

/-- The server has no download any more. -/
theorem Eased.of_ended {s s' : Flashing φ ρ} (hside : downloadSide s'.2 = downloadSide s.2)
    (hended : s'.1.downloadActive = false) : Eased s s' :=
  ⟨.of_side hside, fun h => absurd (hended.symm.trans h) (by decide)⟩

theorem Lockstep.eased {s s' : Flashing φ ρ} (h : Lockstep s) (he : Eased s s') : Lockstep s' := by
  obtain ⟨hengine, hserver⟩ := he
  refine ⟨?_, ?_, ?_⟩
  · rw [hengine.memoryMap]
    exact h.room
  · intro hactive
    rw [hengine.inProgress]
    exact h.inProgress (hengine.active hactive)
  · intro hactive hengaged
    obtain ⟨hbefore, hnext⟩ := hserver hactive
    rw [hnext, hengine.expectedBlock]
    exact h.agree hbefore (hengine.active hengaged)

section Services

variable {clock : ρ → UInt32} {others : UdsCallbacks (Bootloader φ × ρ)}
  {x : Exchange (Bootloader φ × ρ)} {request : List UInt8} {capacity : UInt16}

theorem serviceDownload_lockstep (h : Lockstep (x.server, x.world))
    (hcallbacks : x.server.callbacks = flashingCallbacks clock others) (hroom : 4 ≤ capacity) :
    Lockstep ((serviceDownload x request capacity).2.server,
      (serviceDownload x request capacity).2.world) := by
  unfold serviceDownload
  rw [hcallbacks]
  dsimp only [flashingCallbacks]
  split
  next => simpa using h
  next =>
    split
    next => simpa using h
    next =>
      generalize readBeU32 request 3 (byteAt request 2 &&& 0x0F).toNat = address
      generalize readBeU32 request (3 + (byteAt request 2 &&& 0x0F).toNat)
        (byteAt request 2 >>> 4).toNat = length
      have hcounts := requestDownload_counts x.world.1 address length (clock x.world.2)
      unfold onRequestDownload
      dsimp only
      split
      next hresult =>
        have hkept := (hcounts.resolve_right fun h => hresult h.1).2
        exact h.eased ⟨by simpa using hkept, by simp⟩
      next hresult =>
        obtain ⟨-, hmax, hmap, hprogress, hblock⟩ := hcounts.resolve_left fun h => hresult h.1
        have hshort : ¬((udsBootloaderRequestDownload x.world.1 address length
            (clock x.world.2)).2.1 < 3 ∨ capacity < 4) := by
          rw [hmax]
          exact not_or.mpr ⟨UInt16.not_lt.mpr h.room, UInt16.not_lt.mpr hroom⟩
        rw [if_neg hshort]
        refine ⟨?_, fun _ => hprogress, fun _ _ => hblock.symm⟩
        show 3 ≤ (udsBootloaderRequestDownload x.world.1 address length
          (clock x.world.2)).2.2.memoryMap.maxBlockLength
        rw [hmap]
        exact h.room

theorem serviceTransferData_lockstep (h : Lockstep (x.server, x.world))
    (hcallbacks : x.server.callbacks = flashingCallbacks clock others) :
    Lockstep ((serviceTransferData x request capacity).2.server,
      (serviceTransferData x request capacity).2.world) := by
  unfold serviceTransferData
  rw [hcallbacks]
  dsimp only [flashingCallbacks]
  split
  next => simpa using h
  next hactive =>
    split
    next => simpa using h
    next hsequence =>
      split
      next => simpa using h
      next =>
        have hcounts := transferData_counts x.world.1 (byteAt request 1)
          (some (Buf.ofList (request.drop 2))) (UInt16.ofNat (request.drop 2).length)
          (clock x.world.2)
        unfold onTransferData
        dsimp only
        split
        next hresult =>
          have hkept := (hcounts.resolve_right fun h => hresult h.1).2
          exact h.eased ⟨by simpa using hkept, by simp⟩
        next hresult =>
          obtain ⟨-, hmap, hprogress, hbefore, hblock, hnext⟩ :=
            hcounts.resolve_left fun h => hresult h.1
          -- Both counters move by one, the server's even if its answer does not fit.
          have hlocked : Lockstep
              ({ x.server with nextDownloadBlock := x.server.nextDownloadBlock + 1 },
                (udsBootloaderTransferData x.world.1 (byteAt request 1)
                  (some (Buf.ofList (request.drop 2))) (UInt16.ofNat (request.drop 2).length)
                  (clock x.world.2)).2, x.world.2) := by
            refine ⟨?_, fun _ => hprogress, fun _ _ => ?_⟩
            · dsimp only
              rw [hmap]
              exact h.room
            · dsimp only
              rw [hnext, ← hblock, not_not.mp hsequence]
          split
          next => simpa using hlocked
          next => exact hlocked

theorem serviceTransferExit_lockstep (h : Lockstep (x.server, x.world))
    (hcallbacks : x.server.callbacks = flashingCallbacks clock others) :
    Lockstep ((serviceTransferExit x request capacity).2.server,
      (serviceTransferExit x request capacity).2.world) := by
  unfold serviceTransferExit
  rw [hcallbacks]
  dsimp only [flashingCallbacks]
  split
  next => simpa using h
  next =>
    generalize (if 1 < capacity then capacity - 1 else 0) = room
    have hlocked : ∀ server : UdsServer (Bootloader φ × ρ),
        (server.downloadActive = true → x.server.downloadActive = true ∧
          server.nextDownloadBlock = x.server.nextDownloadBlock) →
        Lockstep (server, (onTransferExit clock x.world (request.drop 1) room).world) := by
      intro server hserver
      rcases transferExit_counts x.world.1 (request.drop 1) (clock x.world.2) with
        hsame | ⟨hmap, hended⟩
      · refine h.eased ⟨?_, hserver⟩
        show EngineKept x.world.1 (udsBootloaderTransferExit x.world.1 (request.drop 1)
          (clock x.world.2)).2.2
        rw [hsame]
        exact .refl _
      · refine ⟨?_, fun hengaged => absurd hengaged hended, fun _ hengaged => absurd hengaged hended⟩
        show 3 ≤ (udsBootloaderTransferExit x.world.1 (request.drop 1)
          (clock x.world.2)).2.2.memoryMap.maxBlockLength
        rw [hmap]
        exact h.room
    split
    next => simpa using hlocked x.server fun h => ⟨h, rfl⟩
    next =>
      split
      next => simpa using hlocked x.server fun h => ⟨h, rfl⟩
      next => exact hlocked _ fun h => Bool.noConfusion h

end Services

/-! ## Steps -/

/-- A request other than for a download leaves both counters alone. -/
theorem handled_eased {s : Flashing φ ρ} {response : Buf} {responseLen : UInt16}
    {request : List UInt8} {capacity : UInt16} {mode : UdsAddressMode} {now : UInt32}
    {out : Served (Bootloader φ × ρ)}
    (hu : UnseenCalls downloadSide s.1.callbacks.withoutDownloads s.1.securityGate.persistFn)
    (hdownload : byteAt request 0 ≠ 0x34) (hblock : byteAt request 0 ≠ 0x36)
    (hexit : byteAt request 0 ≠ 0x37)
    (h : Handled downloadSide (atHandler ⟨s.1, response, responseLen, s.2⟩ mode now) request
      capacity now out) : Eased s (out.2.server, out.2.world) := by
  have hsame {server : UdsServer (Bootloader φ × ρ)} (hserver : out.2.server = server)
      (hworld : downloadSide out.2.world = downloadSide s.2)
      (hactive : server.downloadActive = s.1.downloadActive)
      (hnext : server.nextDownloadBlock = s.1.nextDownloadBlock) :
      Eased s (out.2.server, out.2.world) := by
    refine .of_side hworld ?_ ?_
    · rw [hserver, hactive]
    · rw [hserver, hnext]
  cases h with
  | quiet server world => exact hsame server world rfl rfl
  | session requested ok server world =>
    refine .of_ended world ?_
    dsimp only
    rw [server]
    exact (udsServerRequestSession_ok ok).downloadActive
  | reset b f callback request_eq range ok server world =>
    exact hsame server (world ▸ hu.accepted f callback _ _) rfl rfl
  | dropped b f callback room server ok world =>
    exact hsame server (world ▸ hu.accepted f callback _ _) rfl rfl
  | ticked server world sid => exact hsame server world rfl rfl
  | access gate session persist server world sid => exact hsame server world rfl rfl
  | dtcSetting enabled server world => exact hsame server world rfl rfl
  | download maxBlockLength sid => exact absurd sid hdownload
  | block sid => exact absurd sid hblock
  | exit sid => exact absurd sid hexit

theorem tick_eased {s : Flashing φ ρ}
    (hu : UnseenCalls downloadSide s.1.callbacks.withoutDownloads s.1.securityGate.persistFn)
    (now : UInt32) : Eased s (udsServerTick s.1 now s.2).2 := by
  have hworld := gateTick_unseen hu.persist now s.2
  unfold udsServerTick
  dsimp only
  split
  next => exact .of_side ((executeReset_unseen hu.executed ..).trans hworld) rfl rfl
  next =>
    split
    next => exact .of_ended hworld rfl
    next => exact .of_side hworld rfl rfl

theorem requestSession_eased {s : Flashing φ ρ}
    (hu : UnseenCalls downloadSide s.1.callbacks.withoutDownloads s.1.securityGate.persistFn)
    (requested : UInt8) (now : UInt32) :
    Eased s (udsServerRequestSession s.1 requested now s.2).2 := by
  by_cases hok : (udsServerRequestSession s.1 requested now s.2).1 = .ok
  · exact .of_ended (udsServerRequestSession_unseen hu.toUnseenServices requested now s.2)
      (udsServerRequestSession_ok hok).downloadActive
  · rw [udsServerRequestSession_refused hok]
    exact .of_side rfl rfl rfl

/-- A server that is wired to the bootloader, with a storage that stays away from the engine. -/
structure Wired (clock : ρ → UInt32) (others : UdsCallbacks (Bootloader φ × ρ))
    (s : Flashing φ ρ) : Prop where
  callbacks : s.1.callbacks = flashingCallbacks clock others
  persist : ∀ f ∈ s.1.securityGate.persistFn, ∀ w attempts remaining,
    downloadSide (f w attempts remaining).2 = downloadSide w

section Run

variable {clock : ρ → UInt32} {others : UdsCallbacks (Bootloader φ × ρ)} {s : Flashing φ ρ}

theorem Wired.untouched (h : Wired clock others s) (hu : Untouched others none) :
    Untouched s.1.callbacks s.1.securityGate.persistFn := by
  obtain ⟨hcallbacks, hpersist⟩ := h
  rw [hcallbacks]
  exact { hu with persist := hpersist }

theorem serverStep_lockstep (h : Lockstep s) (hwired : Wired clock others s)
    (hu : Untouched others none) {call : ServerCall (Bootloader φ × ρ)}
    (hfair : (FlashingCall.server call).Fair) : Lockstep (serverStep s call) := by
  have huntouched := hwired.untouched hu
  cases call with
  | handle request response responseLen capacity mode now =>
    have hcapacity : capacity = maxResponseLength := hfair
    obtain hout | ⟨hserver, hworld⟩ | ⟨h34, h36, h37, hout⟩ | hout | hout | hout :=
      handleAddressed_downloads (x := ⟨s.1, response, responseLen, s.2⟩) huntouched.toUnseen
        request capacity mode now
    · simp only [serverStep, hout]
      exact h
    · simp only [serverStep, hserver, hworld]
      exact h.eased (.of_side rfl rfl rfl)
    · exact h.eased (handled_eased huntouched.toUnseenCalls h34 h36 h37 hout)
    all_goals
      have hentered : Lockstep ((atHandler ⟨s.1, response, responseLen, s.2⟩ mode now).server,
        s.2) := h.eased (.of_side rfl rfl rfl)
      simp only [serverStep, hout]
    · exact serviceDownload_lockstep hentered hwired.callbacks (hcapacity ▸ by decide)
    · exact serviceTransferData_lockstep hentered hwired.callbacks
    · exact serviceTransferExit_lockstep hentered hwired.callbacks
  | tick now => exact h.eased (tick_eased huntouched.toUnseenCalls now)
  | requestSession requested now =>
    exact h.eased (requestSession_eased huntouched.toUnseenCalls requested now)
  | applyReset reason now => exact h.eased (.of_ended rfl rfl)
  | completeReset =>
    refine h.eased ?_
    unfold serverStep udsServerCompleteReset
    dsimp only
    split
    next => exact .of_side rfl rfl rfl
    next => split <;> exact .of_side rfl rfl rfl
  | _ => exact h.eased (.of_side rfl rfl rfl)

theorem serverStep_wired (h : Wired clock others s) {call : ServerCall (Bootloader φ × ρ)}
    (hfair : (FlashingCall.server call).Fair) : Wired clock others (serverStep s call) := by
  refine ⟨(serverStep_callbacks s call).trans h.callbacks, ?_⟩
  rcases serverStep_persistFn s call with ⟨persistFn, rfl, hset⟩ | hsame
  · rw [hset]
    exact hfair
  · rw [hsame]
    exact h.persist

/-- A bootloader that has just been initialised has no download under way. -/
theorem bootloaderOn_idle (b : Bootloader φ) (target : UdsBootloaderTarget)
    (flash : UdsDownloadCallbacks BootWorld) :
    (bootloaderOn b target flash).memoryMap = targetMemoryMap target ∧
      (bootloaderOn b target flash).download.state = .idle := by
  unfold bootloaderOn udsBootloaderInit
  dsimp only
  split
  next => exact ⟨rfl, rfl⟩
  next =>
    split
    next => split <;> exact ⟨rfl, rfl⟩
    next => exact ⟨rfl, rfl⟩

theorem lockstep_idle (server : UdsServer (Bootloader φ × ρ)) (b : Bootloader φ) (rest : ρ)
    (target : UdsBootloaderTarget) (flash : UdsDownloadCallbacks BootWorld) :
    Lockstep (server, bootloaderOn b target flash, rest) := by
  obtain ⟨hmap, hstate⟩ := bootloaderOn_idle b target flash
  have hinactive : ¬Active (bootloaderOn b target flash).download := by
    refine not_active ?_ ?_
    all_goals
      rw [hstate]
      decide
  refine ⟨?_, fun h => absurd h hinactive, fun _ h => absurd h hinactive⟩
  dsimp only
  rw [hmap]
  cases target <;> decide

theorem flashingStep_lockstep (hu : Untouched others none) (h : Lockstep s)
    (hwired : Wired clock others s) {call : FlashingCall φ ρ} (hfair : call.Fair) :
    Lockstep (flashingStep s call) ∧ Wired clock others (flashingStep s call) := by
  cases call with
  | server call => exact ⟨serverStep_lockstep h hwired hu hfair, serverStep_wired hwired hfair⟩
  | elsewhere f =>
    exact ⟨h.eased (.of_side (hfair s.2) rfl rfl), hwired.callbacks, hwired.persist⟩
  | restart target flash =>
    exact ⟨lockstep_idle s.1 s.2.1 s.2.2 target flash, hwired.callbacks, hwired.persist⟩

/-- A server and a bootloader that have just been initialised. -/
def flashingStart (clock : ρ → UInt32) (others : UdsCallbacks (Bootloader φ × ρ))
    (b : Bootloader φ) (rest : ρ) (target : UdsBootloaderTarget)
    (flash : UdsDownloadCallbacks BootWorld) (now : UInt32) : Flashing φ ρ :=
  (udsServerInit (flashingCallbacks clock others) now, bootloaderOn b target flash, rest)

theorem lockstep_run (hu : Untouched others none) (b : Bootloader φ) (rest : ρ)
    (target : UdsBootloaderTarget) (flash : UdsDownloadCallbacks BootWorld) (now : UInt32)
    {calls : List (FlashingCall φ ρ)} (hfair : ∀ call ∈ calls, call.Fair) :
    Lockstep (run flashingStep (flashingStart clock others b rest target flash now) calls) := by
  have hstart : Wired clock others (flashingStart clock others b rest target flash now) :=
    ⟨rfl, fun f hf => absurd hf (Option.not_mem_none f)⟩
  have hrun : Lockstep (run flashingStep (flashingStart clock others b rest target flash now) calls) ∧
      Wired clock others
        (run flashingStep (flashingStart clock others b rest target flash now) calls) := by
    refine Along.inv (I := fun s : Flashing φ ρ => Lockstep s ∧ Wired clock others s) ?_
      ⟨lockstep_idle .., hstart⟩ (along_of_forall hfair _)
    intro s call h hcall
    exact flashingStep_lockstep hu h.1 h.2 hcall
  exact hrun.1

end Run

/-- The engine turns a block away for its number only if it expects another. -/
theorem write_sequenceError {ω : Type} {d : UdsDownload ω} {block : UInt8} {data : Option Buf}
    {length : UInt16} {now : UInt32} {w : ω}
    (h : (udsDownloadWrite d block data length now w).1 = .sequenceError) :
    block ≠ d.expectedBlock := by
  unfold udsDownloadWrite at h
  split at h
  next =>
    split at h
    next => cases h
    next =>
      split at h
      next => cases h
      next =>
        split at h
        next hblock => exact hblock
        next =>
          split at h
          next => cases h
          next =>
            split at h
            next => cases h
            next =>
              dsimp only at h
              split at h
              next => cases h
              next => cases h
  next => cases h

/-- So does the bootloader, while it has a download in progress. -/
theorem transferData_inSequence {s : Bootloader φ} (hprogress : s.ctx.downloadInProgress = true)
    (data : Option Buf) (length : UInt16) (now : UInt32) :
    (udsBootloaderTransferData s s.download.expectedBlock data length now).1 ≠ .sequenceError := by
  intro h
  unfold udsBootloaderTransferData at h
  rw [if_neg (not_not.mpr hprogress)] at h
  have hpolled := polled_kept s now
  generalize (if s.download.state = .erasing then
    (runDownload s fun d w => udsDownloadPollErase d now w).2 else s) = t at hpolled h
  dsimp only at h
  split at h
  next =>
    dsimp only at h
    split at h
    next hsequence => exact write_sequenceError hsequence hpolled.expectedBlock.symm
    next => cases h
  next => cases h

/-- **Block counters.** Whenever the server has a download and the engine is receiving, both
expect the same block; and while the engine is erasing or receiving, it does not turn away for its
number a block that the server lets through. -/
theorem block_counters_agree (clock : ρ → UInt32) (others : UdsCallbacks (Bootloader φ × ρ))
    (hothers : Untouched others none) (b : Bootloader φ) (rest : ρ)
    (target : UdsBootloaderTarget) (flash : UdsDownloadCallbacks BootWorld) (now : UInt32)
    (calls : List (FlashingCall φ ρ)) (hfair : ∀ call ∈ calls, call.Fair) :
    let s := run flashingStep (flashingStart clock others b rest target flash now) calls
    s.1.downloadActive = true →
      (s.2.1.download.state = .receiving →
        s.1.nextDownloadBlock = s.2.1.download.expectedBlock) ∧
      (Active s.2.1.download → ∀ data length now,
        (udsBootloaderTransferData s.2.1 s.1.nextDownloadBlock data length now).1
          ≠ .sequenceError) := by
  intro s hactive
  have hlocked : Lockstep s := lockstep_run hothers b rest target flash now hfair
  refine ⟨fun hreceiving => hlocked.agree hactive (.inr hreceiving), ?_⟩
  intro hengaged data length now
  rw [hlocked.agree hactive hengaged]
  exact transferData_inSequence (hlocked.inProgress hengaged) data length now

/-! ## The bootloader's routines stay away from the engine -/

/-- `uds_bootloader_routine_control` as a callback. -/
def onRoutineControl (w : Bootloader φ × ρ) (subfunction : UInt8) (routineId : UInt16)
    (input : List UInt8) (capacity : UInt16) : Reply (Bootloader φ × ρ) :=
  let (result, data, s) := udsBootloaderRoutineControl w.1 subfunction routineId input capacity
  ⟨result, data, UInt16.ofNat data.length, (s, w.2)⟩

theorem onRoutineControl_side (w : Bootloader φ × ρ) (subfunction : UInt8) (routineId : UInt16)
    (input : List UInt8) (capacity : UInt16) :
    downloadSide (onRoutineControl w subfunction routineId input capacity).world
      = downloadSide w := by
  show downloadSide ((udsBootloaderRoutineControl w.1 subfunction routineId input capacity).2.2, w.2)
    = downloadSide w
  obtain hsame | ⟨-, -, ⟨-, hrun⟩ | ⟨-, hrun⟩ | ⟨-, hrun⟩⟩ :=
    routineControl_cases w.1 subfunction routineId input capacity
  · rw [hsame]
  · rw [hrun]
    unfold routineEraseMemory
    split <;> rfl
  · rw [hrun]
    unfold routineCheckMemory
    split
    next => rfl
    next =>
      split
      next => rfl
      next => split <;> rfl
  · rw [hrun]
    unfold routineCheckDependencies
    split <;> rfl

/-- The callbacks of a server that offers nothing but downloads and these routines. -/
def routineCallbacks : UdsCallbacks (Bootloader φ × ρ) := { routineControl := some onRoutineControl }

theorem routines_untouched : Untouched (routineCallbacks (φ := φ) (ρ := ρ)) none := by
  have habsent : ∀ {α : Type} {P : α → Prop}, ∀ a ∈ (none : Option α), P a :=
    fun a ha => absurd ha (Option.not_mem_none a)
  have hservices : UnseenServices downloadSide
      (routineCallbacks (φ := φ) (ρ := ρ)).withoutDownloads none := by
    constructor
    case routineControl =>
      intro f hf
      obtain rfl := Option.some.inj hf
      exact onRoutineControl_side
    case preflight =>
      intros
      rfl
    case backend =>
      intro sid
      exact habsent
    all_goals exact habsent
  exact ⟨⟨hservices, habsent, habsent⟩, habsent, habsent⟩

/-- A download of 16 bytes, with its first block. -/
def firstBlock : List (FlashingCall Unit Unit) :=
  [.server (.requestSession sessionExtended 0), .server (.requestSession sessionProgramming 0),
    .server (.handle [0x34, 0x00, 0x44, 0x08, 0x10, 0x00, 0x00, 0x00, 0x00, 0x00, 0x10]
      (fun _ => 0) 0 maxResponseLength .physical 0),
    .server (.handle [0x36, 0x01, 0xAA, 0xBB, 0xCC, 0xDD] (fun _ => 0) 0 maxResponseLength .physical
      0)]

/-- Both expect the second block. -/
theorem block_counters_agree_first :
    let s := run flashingStep (flashingStart (fun _ => 0) routineCallbacks
      (factoryNew blankFlash () .stm32f767) () .stm32f767 bootDownloadCallbacks 0) firstBlock
    s.1.nextDownloadBlock = s.2.1.download.expectedBlock ∧ s.1.nextDownloadBlock = 2 := by
  intro s
  have hactive : s.1.downloadActive = true := by decide +kernel
  have hreceiving : s.2.1.download.state = .receiving := by decide +kernel
  refine ⟨(block_counters_agree (fun _ => 0) routineCallbacks routines_untouched _ () .stm32f767
    bootDownloadCallbacks 0 firstBlock ?_ hactive).1 hreceiving, by decide +kernel⟩
  intro call hcall
  simp only [firstBlock, List.mem_cons, List.not_mem_nil, or_false] at hcall
  rcases hcall with rfl | rfl | rfl | rfl
  · trivial
  · trivial
  · rfl
  · rfl

end UdsIsoTp.Boot
