import UdsIsoTp.App.DidStore
import UdsIsoTp.Uds.Separate

/-!
# Written, then read back

The records of `uds_did_app.c` behind the server: what a tester has written with
WriteDataByIdentifier is what ReadDataByIdentifier gives it back, whatever else comes to the server
in between (`written_did_read_back`).

No service but these two reaches the records (`serverStep_rewire`), and a read leaves all of them
alone but the first, which is that of the session and is not to be written.
-/

namespace UdsIsoTp.App

open UdsIsoTp.Uds

variable {ρ : Type}

/-- The lockout is not stored among the records. -/
def LeavesRecords
    (persistFn : Option (ρ × UdsDidApp → UInt8 → UInt32 → Bool × ρ × UdsDidApp)) : Prop :=
  ∀ f ∈ persistFn, ∀ w attempts remaining, (f w attempts remaining).2.2 = w.2

/-- No call moves it there. -/
def Orderly : ServerCall (ρ × UdsDidApp) → Prop
  | .setSecurityPersistence persistFn => LeavesRecords persistFn
  | _ => True

/-- The call is a request to write this record. -/
def WritesDid (did : UInt16) : ServerCall (ρ × UdsDidApp) → Prop
  | .handle request _ _ _ _ _ => byteAt request 0 = 0x2E ∧ readU16 request 1 = did
  | _ => False

/-- A server in front of the records. -/
structure ServesDids (others : UdsCallbacks ρ) (s : UdsServer (ρ × UdsDidApp) × ρ × UdsDidApp) :
    Prop where
  callbacks : s.1.callbacks = didCallbacks others
  persist : LeavesRecords s.1.securityGate.persistFn
  kept : SameRecords s.2.2

/-- The callbacks without the one that writes. -/
def readOnlyCallbacks (others : UdsCallbacks ρ) : UdsCallbacks (ρ × UdsDidApp) :=
  { didCallbacks others with writeDid := none }

/-! ## What a call leaves -/

section Leaves

variable {others : UdsCallbacks ρ}
  {persistFn : Option (ρ × UdsDidApp → UInt8 → UInt32 → Bool × ρ × UdsDidApp)}

theorem frames_unseen (hpersist : LeavesRecords persistFn) :
    Unseen (fun w : ρ × UdsDidApp => w.2.table.map recordFrame) (didCallbacks others) persistFn := by
  have hframes := (didCallbacks_unseen others).comp Prod.snd
  exact ⟨{ hframes.toUnseenServices with
    persist := fun f hf w attempts remaining =>
      congrArg (fun app => app.table.map recordFrame) (hpersist f hf w attempts remaining) },
    hframes.securitySeed, hframes.securityKey⟩

theorem udsDidAppRead_tail (app : UdsDidApp) (did capacity : UInt16) :
    (udsDidAppRead app did capacity).world.table.tail = app.table.tail := by
  rw [(udsDidAppRead_answer app did capacity).2.2]
  split
  next => exact List.tail_modifyHead
  next => rfl

/-- Without the writes only the first record is ever touched. -/
theorem tail_unseen (hpersist : LeavesRecords persistFn) :
    Unseen (fun w : ρ × UdsDidApp => w.2.table.tail) (readOnlyCallbacks others) persistFn := by
  have hothers := (beside_unseen (τ := UdsDidApp) others).comp fun app => app.table.tail
  have hread : ∀ f ∈ (readOnlyCallbacks others).readDid, ∀ w did n,
      (f w did n).world.2.table.tail = w.2.table.tail := by
    intro f hf w did n
    obtain rfl := Option.some.inj hf
    exact udsDidAppRead_tail w.2 did n
  exact ⟨{ hothers.toUnseenServices with
    readDid := hread
    writeDid := fun f hf => absurd hf (Option.not_mem_none f)
    persist := fun f hf w attempts remaining =>
      congrArg (fun app => app.table.tail) (hpersist f hf w attempts remaining) },
    hothers.securitySeed, hothers.securityKey⟩

end Leaves

/-- The session is in front, all the others behind it. -/
theorem bytesOf_tail {app : UdsDidApp} (h : SameRecords app) {did : UInt16}
    (hdid : did ≠ didActiveDiagnosticSession) :
    app.bytesOf did = (didRecordOf app.table.tail did).map UdsDidRecord.bytes := by
  unfold SameRecords at h
  unfold UdsDidApp.bytesOf
  rcases hrecords : app.table with _ | ⟨r, rest⟩
  · rfl
  rw [hrecords] at h
  have hfirst : r.did = didActiveDiagnosticSession := (Prod.mk.inj (List.cons.inj h).1).1
  rw [didRecordOf_cons, if_neg (hfirst ▸ hdid.symm), List.tail_cons]

section Served

variable {others : UdsCallbacks ρ} {request : List UInt8}

/-- A request to write is refused and reaches nothing, or it is written, and then it is refused only
if that was. -/
theorem writeRequest_served {x : Exchange (ρ × UdsDidApp)}
    (hcallbacks : x.server.callbacks = didCallbacks others) (hsid : byteAt request 0 = 0x2E)
    (capacity : UInt16) (mode : UdsAddressMode) (now : UInt32) :
    let out := udsServerHandleAddressed x request capacity mode now
    let written := udsDidAppWrite x.world.2 (readU16 request 1) (request.drop 3)
    Refusal out ∧ out.2.world.2 = x.world.2 ∨
      (Refusal out ∨ written.1 = .ok) ∧ out.2.world.2 = written.2 := by
  intro out written
  unfold out udsServerHandleAddressed
  split
  next => exact .inl ⟨fun h => UdsCallbackResult.noConfusion h, rfl⟩
  next =>
    dsimp only
    split
    next =>
      exact .inl ⟨negativeResponse_refusal _, congrArg Prod.snd (negativeResponse_world ..)⟩
    next =>
      unfold udsDispatch
      rw [hsid]
      show Refusal (serviceWriteData (atHandler x mode now) request capacity) ∧
          (serviceWriteData (atHandler x mode now) request capacity).2.world.2 = x.world.2 ∨
        (Refusal (serviceWriteData (atHandler x mode now) request capacity) ∨ written.1 = .ok) ∧
          (serviceWriteData (atHandler x mode now) request capacity).2.world.2 = written.2
      -- past the checks the service asks the application
      have hwrite : (atHandler x mode now).server.callbacks.writeDid
          = (didCallbacks others).writeDid := congrArg UdsCallbacks.writeDid hcallbacks
      unfold serviceWriteData
      split
      next =>
        exact .inl ⟨negativeResponse_refusal _, congrArg Prod.snd (negativeResponse_world ..)⟩
      next =>
        rw [hwrite]
        right
        dsimp only [didCallbacks]
        split
        next hfailed =>
          exact ⟨.inl (callbackResult_refusal hfailed), congrArg Prod.snd (callbackResult_world ..)⟩
        next hok =>
          split
          next =>
            exact ⟨.inl (negativeResponse_refusal _),
              congrArg Prod.snd (negativeResponse_world ..)⟩
          next => exact ⟨.inr (not_not.mp hok), rfl⟩

end Served

/-! ## One call -/

section Step

variable {others : UdsCallbacks ρ} {s : UdsServer (ρ × UdsDidApp) × ρ × UdsDidApp}

theorem ServesDids.step (h : ServesDids others s) {call : ServerCall (ρ × UdsDidApp)}
    (horderly : Orderly call) : ServesDids others (serverStep s call) := by
  refine ⟨(serverStep_callbacks s call).trans h.callbacks, ?_, ?_⟩
  · obtain ⟨persistFn, rfl, hpersist⟩ | hpersist := serverStep_persistFn s call
    · rw [hpersist]
      exact horderly
    · rw [hpersist]
      exact h.persist
  · have hframes : Unseen (fun w : ρ × UdsDidApp => w.2.table.map recordFrame) s.1.callbacks
        s.1.securityGate.persistFn := by
      rw [h.callbacks]
      exact frames_unseen h.persist
    refine (serverStep_unseen hframes ?_ ?_ call).trans h.kept
    · rw [h.callbacks]
      exact Option.forall_mem_map.mpr fun _ _ _ _ => rfl
    · rw [h.callbacks]
      exact Option.forall_mem_map.mpr fun _ _ _ _ => rfl

/-- A call that is not a request to write goes as it would without the writes. -/
theorem ServesDids.tail_step (h : ServesDids others s) {call : ServerCall (ρ × UdsDidApp)}
    (hagree : AgreeOn (didCallbacks others) (readOnlyCallbacks others) call) :
    (serverStep s call).2.2.table.tail = s.2.2.table.tail := by
  have hagree : AgreeOn s.1.callbacks (readOnlyCallbacks others) call := h.callbacks ▸ hagree
  have hworld : (serverStep (rewireState (readOnlyCallbacks others) s) call).2
      = (serverStep s call).2 := by
    rw [(serverStep_rewire s hagree).1]
    rfl
  rw [← hworld]
  exact serverStep_unseen (s := rewireState (readOnlyCallbacks others) s) (tail_unseen h.persist)
    (Option.forall_mem_map.mpr fun _ _ _ _ => rfl) (Option.forall_mem_map.mpr fun _ _ _ _ => rfl)
    call

theorem agreeOn_readOnly {request : List UInt8} (hsid : byteAt request 0 ≠ 0x2E) :
    AgreeFor (byteAt request 0) (didCallbacks others) (readOnlyCallbacks others) :=
  ⟨fun _ => rfl, fun h => absurd h hsid, fun _ => ⟨rfl, rfl⟩, fun _ => ⟨rfl, rfl⟩, fun _ => rfl,
    fun _ => rfl, fun _ => rfl, fun _ => rfl, fun _ => rfl, fun _ => rfl, fun _ => rfl,
    fun _ => rfl, fun _ => rfl, fun _ => ⟨rfl, rfl⟩⟩

/-- A record is as it was after every call but a request to write it. -/
theorem ServesDids.bytesOf_step (h : ServesDids others s) {call : ServerCall (ρ × UdsDidApp)}
    (horderly : Orderly call) {did : UInt16} (hdid : did ≠ didActiveDiagnosticSession)
    (hwrites : ¬WritesDid did call) :
    (serverStep s call).2.2.bytesOf did = s.2.2.bytesOf did := by
  have hbehind : AgreeOn (didCallbacks others) (readOnlyCallbacks others) call →
      (serverStep s call).2.2.bytesOf did = s.2.2.bytesOf did := by
    intro hagree
    rw [bytesOf_tail (h.step horderly).kept hdid, bytesOf_tail h.kept hdid, h.tail_step hagree]
  cases call with
  | handle request response responseLen capacity mode now =>
    by_cases hsid : byteAt request 0 = 0x2E
    · have hother : did ≠ readU16 request 1 := fun heq => hwrites ⟨hsid, heq.symm⟩
      obtain ⟨-, hworld⟩ | ⟨-, hworld⟩ := writeRequest_served
        (x := ⟨s.1, response, responseLen, s.2⟩) h.callbacks hsid capacity mode now
      · exact congrArg (fun app : UdsDidApp => app.bytesOf did) hworld
      · refine (congrArg (fun app : UdsDidApp => app.bytesOf did) hworld).trans ?_
        rw [bytesOf_write h.kept, if_neg fun hwritten => hother hwritten.1]
    · exact hbehind (agreeOn_readOnly hsid)
  | tick now => exact hbehind rfl
  | completeReset => exact hbehind rfl
  | _ => exact hbehind trivial

end Step

/-! ## Runs -/

section Runs

variable {others : UdsCallbacks ρ} {s : UdsServer (ρ × UdsDidApp) × ρ × UdsDidApp}

theorem ServesDids.after (h : ServesDids others s) (calls : List (ServerCall (ρ × UdsDidApp)))
    (horderly : ∀ call ∈ calls, Orderly call) : ServesDids others (run serverStep s calls) := by
  induction calls generalizing s with
  | nil => exact h
  | cons call calls ih =>
    obtain ⟨hcall, hcalls⟩ := List.forall_mem_cons.mp horderly
    exact ih (h.step hcall) hcalls

theorem ServesDids.bytesOf_after (h : ServesDids others s)
    (calls : List (ServerCall (ρ × UdsDidApp))) (horderly : ∀ call ∈ calls, Orderly call)
    {did : UInt16} (hdid : did ≠ didActiveDiagnosticSession)
    (hwrites : ∀ call ∈ calls, ¬WritesDid did call) :
    (run serverStep s calls).2.2.bytesOf did = s.2.2.bytesOf did := by
  induction calls generalizing s with
  | nil => rfl
  | cons call calls ih =>
    obtain ⟨hcall, hcalls⟩ := List.forall_mem_cons.mp horderly
    obtain ⟨hother, hothers⟩ := List.forall_mem_cons.mp hwrites
    exact (ih (h.step hcall) hcalls hothers).trans (h.bytesOf_step hcall hdid hother)

end Runs

/-! ## Write and read -/

section Dialogue

variable {others : UdsCallbacks ρ} {s : UdsServer (ρ × UdsDidApp) × ρ × UdsDidApp}
  {high low : UInt8} {data : List UInt8} {response : Buf} {responseLen capacity : UInt16}
  {mode : UdsAddressMode} {now : UInt32}

/-- What the tester hears to have been written is written. -/
theorem ServesDids.written (h : ServesDids others s)
    (hheard : hears s (.handle (0x2E :: high :: low :: data) response responseLen capacity mode now)
      = some (.ok, [0x6E, high, low])) :
    writeResult (spelledDid high low) data = .ok ∧
      (serverStep s (.handle (0x2E :: high :: low :: data) response responseLen capacity mode
        now)).2.2.bytesOf (spelledDid high low) = some data := by
  obtain ⟨hok, hbytes⟩ := Prod.mk.inj (Option.some.inj hheard)
  have hanswered : ¬Refusal (udsServerHandleAddressed ⟨s.1, response, responseLen, s.2⟩
      (0x2E :: high :: low :: data) capacity mode now) := by
    intro hrefusal
    have hlength := congrArg List.length hbytes
    rw [Buf.length_slice] at hlength
    rw [hlength, List.length_cons, Buf.slice_succ, hrefusal hok] at hbytes
    exact absurd (List.cons.inj hbytes).1 (by decide)
  obtain ⟨hrefusal, -⟩ | ⟨hrefusal | hwritten, hworld⟩ := writeRequest_served
    (x := ⟨s.1, response, responseLen, s.2⟩) h.callbacks
    (rfl : byteAt (0x2E :: high :: low :: data) 0 = 0x2E) capacity mode now
  · exact absurd hrefusal hanswered
  · exact absurd hrefusal hanswered
  have hwritten : writeResult (spelledDid high low) data = .ok :=
    (udsDidAppWrite_result h.kept _ _).symm.trans hwritten
  refine ⟨hwritten, (congrArg (fun app : UdsDidApp => app.bytesOf (spelledDid high low))
    hworld).trans ?_⟩
  exact (bytesOf_write h.kept _ _ _).trans (if_pos ⟨rfl, hwritten⟩)

/-- What is held is read. -/
theorem ServesDids.readBack (h : ServesDids others s)
    (hdid : spelledDid high low ≠ didActiveDiagnosticSession)
    (hheld : s.2.2.bytesOf (spelledDid high low) = some data)
    (hadmitted : checkServiceAttributes s.1 [0x22, high, low] mode = 0)
    (hroom : 3 + data.length ≤ capacity.toNat) :
    hears s (.handle [0x22, high, low] response responseLen capacity mode now)
      = some (.ok, 0x62 :: high :: low :: data) := by
  have hread : s.1.callbacks.readDid = some readDidBeside :=
    congrArg UdsCallbacks.readDid h.callbacks
  obtain ⟨hanswer, hlength, -⟩ :=
    udsDidAppRead_answer s.2.2 (spelledDid high low) (capacity - 3)
  rw [if_neg hdid, hheld] at hanswer
  have hfits : ¬(capacity - 3).toNat < data.length := by
    rw [UInt16.toNat_sub_of_le _ _ (UInt16.le_iff_toNat_le.mpr (by
      show 3 ≤ capacity.toNat
      omega))]
    show ¬capacity.toNat - 3 < data.length
    omega
  obtain ⟨hok, hdata⟩ := Prod.mk.inj (hanswer.trans (if_neg hfits))
  have hreply : readDidBeside s.2 (spelledDid high low) (capacity - 3) = ⟨.ok, data,
      (udsDidAppRead s.2.2 (spelledDid high low) (capacity - 3)).length, s.2.1,
      (udsDidAppRead s.2.2 (spelledDid high low) (capacity - 3)).world⟩ := by
    unfold readDidBeside
    dsimp only
    rw [hok, hdata]
  obtain ⟨hserved, hcount, hbytes⟩ := readRequest_served (x := ⟨s.1, response, responseLen, s.2⟩)
    hread now hadmitted hroom hreply (hlength.trans (congrArg List.length hdata))
  rw [← hcount] at hbytes
  exact congrArg some (Prod.ext hserved hbytes)

end Dialogue

/-- **Written, then read back.** A tester that has been told that its data are written reads exactly
these, unless another request to write the record has come in between. -/
theorem written_did_read_back (others : UdsCallbacks ρ) (start : UInt32) (w : ρ)
    (before between : List (ServerCall (ρ × UdsDidApp)))
    (horderly : ∀ call ∈ before ++ between, Orderly call) {high low : UInt8}
    (hapart : ∀ call ∈ between, ¬WritesDid (spelledDid high low) call) {data : List UInt8}
    {response response' : Buf} {n n' capacity capacity' : UInt16} {mode mode' : UdsAddressMode}
    {now now' : UInt32} (hroom : 3 + data.length ≤ capacity'.toNat) :
    let s := run serverStep (udsServerInit (didCallbacks others) start, w, udsDidAppInit) before
    let write := .handle (0x2E :: high :: low :: data) response n capacity mode now
    let s' := run serverStep (serverStep s write) between
    hears s write = some (.ok, [0x6E, high, low]) →
      checkServiceAttributes s'.1 [0x22, high, low] mode' = 0 →
      hears s' (.handle [0x22, high, low] response' n' capacity' mode' now')
        = some (.ok, 0x62 :: high :: low :: data) := by
  intro s write s' hheard hadmitted
  obtain ⟨hbefore, hbetween⟩ := List.forall_mem_append.mp horderly
  have hstart : ServesDids others
      (udsServerInit (didCallbacks others) start, w, udsDidAppInit) :=
    ⟨rfl, fun f hf => absurd hf (Option.not_mem_none f), rfl⟩
  have hs : ServesDids others s := hstart.after before hbefore
  obtain ⟨hwritten, hheld⟩ := hs.written hheard
  have hdid : spelledDid high low ≠ didActiveDiagnosticSession := fun heq =>
    writeResult_session data (heq ▸ hwritten)
  have hnext : ServesDids others (serverStep s write) := hs.step trivial
  have hkept := hnext.bytesOf_after between hbetween hdid hapart
  exact (hnext.after between hbetween).readBack hdid (hkept.trans hheld) hadmitted hroom

/-- A tester asks for the extended session, writes the VIN and reads it. Meanwhile it looks at the
session and writes something else. -/
theorem written_did_read_back_vin :
    let before := [.handle [0x10, 0x03] (fun _ => 0) 0 64 .physical 1]
    let between := [.tick 3, .handle [0x22, 0xF1, 0x86] (fun _ => 0) 0 64 .functional 4,
      .handle [0x2E, 0xF1, 0x83, 0x07] (fun _ => 0) 0 64 .physical 5]
    let s := run serverStep (udsServerInit (didCallbacks ({} : UdsCallbacks Unit)) 0, (),
      udsDidAppInit) before
    let write := .handle [0x2E, 0xF1, 0x90, 0x56, 0x49] (fun _ => 0) 0 64 .physical 2
    hears (run serverStep (serverStep s write) between)
      (.handle [0x22, 0xF1, 0x90] (fun _ => 0) 0 64 .physical 6)
        = some (.ok, [0x62, 0xF1, 0x90, 0x56, 0x49]) := by
  intro before between s write
  refine written_did_read_back {} 0 () before between ?_ ?_ (by decide) (by decide +kernel)
    (by decide +kernel)
  · simp only [before, between, List.cons_append, List.nil_append, List.forall_mem_cons]
    exact ⟨trivial, trivial, trivial, trivial, by simp⟩
  · simp only [between, List.forall_mem_cons]
    refine ⟨id, fun h => absurd h.1 (by decide), fun h => absurd h.2 (by decide), by simp⟩

end UdsIsoTp.App
