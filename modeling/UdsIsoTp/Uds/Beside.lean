import UdsIsoTp.Uds.Effects

/-!
# A world with something beside it

Callbacks act on the world they were written for. When the world of an endpoint holds
more than that, the state of a bus or a log, `besideCallbacks` makes them act on their
part of it; the rest they do not see (`beside_unseen`).
-/

namespace UdsIsoTp.Uds

variable {ω τ : Type}

/-- The reply of a callback, with the other part of the world untouched. -/
def besideReply (reply : Reply ω) (aside : τ) : Reply (ω × τ) where
  result := reply.result
  data := reply.data
  length := reply.length
  world := (reply.world, aside)

/-- A handler that does not see the other part of the world. -/
def besideHandler (f : ServiceHandler ω) : ServiceHandler (ω × τ) :=
  fun w request capacity => besideReply (f w.1 request capacity) w.2

/-- The verdict of a callback, with the other part of the world untouched. -/
def besideVerdict {α : Type} (verdict : α × ω) (aside : τ) : α × ω × τ :=
  (verdict.1, verdict.2, aside)

/-- The backends, none of which sees the other part of the world. -/
def besideBackends (b : UdsServiceBackends ω) : UdsServiceBackends (ω × τ) where
  memory := b.memory.map fun memory =>
    { checkAccess := memory.checkAccess.map fun f w sid request =>
        besideVerdict (f w.1 sid request) w.2
      readMemory := memory.readMemory.map besideHandler
      writeMemory := memory.writeMemory.map besideHandler }
  did := b.did.map fun did =>
    { readScaling := did.readScaling.map besideHandler
      dynamicallyDefine := did.dynamicallyDefine.map besideHandler }
  transfer := b.transfer.map fun transfer =>
    { requestUpload := transfer.requestUpload.map besideHandler
      requestFile := transfer.requestFile.map besideHandler }
  timing := b.timing.map besideHandler
  periodicEvent := b.periodicEvent.map fun periodicEvent =>
    { maxPendingItems := periodicEvent.maxPendingItems
      periodicData := periodicEvent.periodicData.map besideHandler
      eventResponse := periodicEvent.eventResponse.map besideHandler }
  linkControl := b.linkControl.map besideHandler
  authentication := b.authentication.map besideHandler
  securedData := b.securedData.map besideHandler

/-- The callbacks, none of which sees the other part of the world. -/
def besideCallbacks (c : UdsCallbacks ω) : UdsCallbacks (ω × τ) where
  readDid := c.readDid.map fun f w did n => besideReply (f w.1 did n) w.2
  writeDid := c.writeDid.map fun f w did data => besideVerdict (f w.1 did data) w.2
  readDtc := c.readDtc.map fun f w sub data n => besideReply (f w.1 sub data n) w.2
  dtcBackend := c.dtcBackend.map fun b =>
    { capabilities := b.capabilities
      report := b.report.map fun f w sub data n => besideReply (f w.1 sub data n) w.2 }
  securitySeed := c.securitySeed.map fun f w level n => besideReply (f w.1 level n) w.2
  securityKey := c.securityKey.map fun f w level data => besideVerdict (f w.1 level data) w.2
  communicationControl := c.communicationControl.map fun f w sub kind =>
    besideVerdict (f w.1 sub kind) w.2
  ioControl := c.ioControl.map fun f w did data n => besideReply (f w.1 did data n) w.2
  routineControl := c.routineControl.map fun f w sub id data n =>
    besideReply (f w.1 sub id data n) w.2
  requestDownload := c.requestDownload.map fun f w address length =>
    ((f w.1 address length).1, (f w.1 address length).2.1, (f w.1 address length).2.2, w.2)
  transferData := c.transferData.map fun f w block data => besideVerdict (f w.1 block data) w.2
  requestTransferExit := c.requestTransferExit.map fun f w data n =>
    besideReply (f w.1 data n) w.2
  ecuReset := c.ecuReset.map fun f w sub => besideVerdict (f w.1 sub) w.2
  ecuResetExecute := c.ecuResetExecute.map fun f w sub => (f w.1 sub, w.2)
  controlDtcSetting := c.controlDtcSetting.map fun f w sub => besideVerdict (f w.1 sub) w.2
  clearDtc := c.clearDtc.map fun f w group => besideVerdict (f w.1 group) w.2
  serviceBackends := c.serviceBackends.map besideBackends

/-! ## What stands beside is not seen -/

theorem beside_backend (b : UdsServiceBackends ω) (sid : UInt8) :
    udsServiceBackendsHandler (some (besideBackends b : UdsServiceBackends (ω × τ))) sid
      = (udsServiceBackendsHandler (some b) sid).map besideHandler := by
  have hinner : ∀ {α β : Type} (o : Option α) (g : α → β) (p : α → Option (ServiceHandler ω))
      (q : β → Option (ServiceHandler (ω × τ))),
      (∀ a, q (g a) = (p a).map besideHandler) →
      (o.map g).bind q = (o.bind p).map besideHandler := by
    intro α β o g p q h
    cases o with
    | none => rfl
    | some a => exact h a
  unfold udsServiceBackendsHandler
  simp only [Option.bind_some, apply_ite (Option.map besideHandler), Option.map_none]
  congr 1
  · exact hinner _ _ _ _ fun _ => rfl
  congr 1
  · exact hinner _ _ _ _ fun _ => rfl
  congr 1
  · exact hinner _ _ _ _ fun _ => rfl
  congr 1
  · exact hinner _ _ _ _ fun _ => rfl
  congr 1
  · exact hinner _ _ _ _ fun _ => rfl
  congr 1
  · exact hinner _ _ _ _ fun _ => rfl
  congr 2
  · exact hinner _ _ _ _ fun _ => rfl
  congr 1
  · exact hinner _ _ _ _ fun _ => rfl

theorem beside_preflight (backends : Option (UdsServiceBackends ω)) (sid : UInt8)
    (request : List UInt8) (w : ω × τ) :
    udsServiceBackendsPreflight (backends.map besideBackends) sid request w
      = besideVerdict (udsServiceBackendsPreflight backends sid request w.1) w.2 := by
  cases backends with
  | none => rfl
  | some b =>
    simp only [Option.map_some, udsServiceBackendsPreflight, besideBackends]
    split
    next =>
      cases b.memory with
      | none => rfl
      | some memory =>
        simp only [Option.map_some]
        cases memory.checkAccess with
        | none => rfl
        | some f => rfl
    next =>
      split
      next =>
        cases b.periodicEvent with
        | none => rfl
        | some periodicEvent =>
          simp only [Option.map_some]
          split <;> rfl
      next => rfl

theorem exists_of_mem_map {α β : Type} {g : α → β} {o : Option α} {f : β} (hf : f ∈ o.map g) :
    ∃ a, f = g a := by
  obtain ⟨a, -, ha⟩ := Option.map_eq_some_iff.mp hf
  exact ⟨a, ha.symm⟩

/-- No callback touches what stands beside its world, as long as the storage does not. -/
theorem beside_services (c : UdsCallbacks ω)
    {persistFn : Option (ω × τ → UInt8 → UInt32 → Bool × ω × τ)}
    (hpersist : ∀ f ∈ persistFn, ∀ w attempts remaining, (f w attempts remaining).2.2 = w.2) :
    UnseenServices (Prod.snd : ω × τ → τ) (besideCallbacks c) persistFn := by
  constructor
  case dtcBackend =>
    intro b hb f hf
    obtain ⟨b', rfl⟩ := exists_of_mem_map hb
    obtain ⟨f', rfl⟩ := exists_of_mem_map hf
    intros
    rfl
  case ecuReset =>
    intro f hf w sub _
    obtain ⟨f', rfl⟩ := exists_of_mem_map hf
    rfl
  case preflight =>
    intro sid request w
    exact congrArg (·.2.2) (beside_preflight c.serviceBackends sid request w)
  case backend =>
    intro sid f hf w request n
    cases hb : c.serviceBackends with
    | none =>
      simp only [besideCallbacks, hb] at hf
      exact absurd hf (by simp [udsServiceBackendsHandler])
    | some b =>
      simp only [besideCallbacks, hb, Option.map_some] at hf
      rw [beside_backend] at hf
      obtain ⟨g, rfl⟩ := exists_of_mem_map hf
      rfl
  case persist => exact hpersist
  all_goals
    intro f hf
    obtain ⟨f', rfl⟩ := exists_of_mem_map hf
    intros
    rfl

theorem beside_unseen (c : UdsCallbacks ω) :
    Unseen (Prod.snd : ω × τ → τ) (besideCallbacks c) none := by
  refine ⟨beside_services c nofun, ?_, ?_⟩
  all_goals
    intro f hf
    obtain ⟨f', rfl⟩ := exists_of_mem_map hf
    intros
    rfl

/-- What the services leave of their own world, they leave of it beside another. -/
theorem UnseenServices.beside {β : Type} {proj : ω → β} {c : UdsCallbacks ω}
    (h : UnseenServices proj c none) :
    UnseenServices (fun w : ω × τ => proj w.1) (besideCallbacks c) none where
  readDid := Option.forall_mem_map.mpr fun f hf w => h.readDid f hf w.1
  writeDid := Option.forall_mem_map.mpr fun f hf w => h.writeDid f hf w.1
  readDtc := Option.forall_mem_map.mpr fun f hf w => h.readDtc f hf w.1
  dtcBackend := Option.forall_mem_map.mpr fun b hb =>
    Option.forall_mem_map.mpr fun f hf w => h.dtcBackend b hb f hf w.1
  communicationControl := Option.forall_mem_map.mpr fun f hf w => h.communicationControl f hf w.1
  ioControl := Option.forall_mem_map.mpr fun f hf w => h.ioControl f hf w.1
  routineControl := Option.forall_mem_map.mpr fun f hf w => h.routineControl f hf w.1
  requestDownload := Option.forall_mem_map.mpr fun f hf w => h.requestDownload f hf w.1
  transferData := Option.forall_mem_map.mpr fun f hf w => h.transferData f hf w.1
  requestTransferExit := Option.forall_mem_map.mpr fun f hf w => h.requestTransferExit f hf w.1
  ecuReset := Option.forall_mem_map.mpr fun f hf w => h.ecuReset f hf w.1
  controlDtcSetting := Option.forall_mem_map.mpr fun f hf w => h.controlDtcSetting f hf w.1
  clearDtc := Option.forall_mem_map.mpr fun f hf w => h.clearDtc f hf w.1
  preflight sid request w :=
    (congrArg (fun out => proj out.2.1) (beside_preflight c.serviceBackends sid request w)).trans
      (h.preflight sid request w.1)
  backend sid := by
    have hbackend := h.backend sid
    show ∀ f ∈ udsServiceBackendsHandler (c.serviceBackends.map besideBackends) sid, _
    generalize c.serviceBackends = backends at hbackend ⊢
    rcases backends with _ | b
    · exact fun f hf => absurd hf (by simp [udsServiceBackendsHandler])
    · rw [Option.map_some, beside_backend]
      exact Option.forall_mem_map.mpr fun f hf w => hbackend f hf w.1
  persist f hf := absurd hf (Option.not_mem_none f)

theorem Unseen.beside {β : Type} {proj : ω → β} {c : UdsCallbacks ω} (h : Unseen proj c none) :
    Unseen (fun w : ω × τ => proj w.1) (besideCallbacks c) none :=
  ⟨h.toUnseenServices.beside, Option.forall_mem_map.mpr fun f hf w => h.securitySeed f hf w.1,
    Option.forall_mem_map.mpr fun f hf w => h.securityKey f hf w.1⟩

/-- A gate that stores nothing does not touch the world. -/
theorem gateTick_aside {gate : UdsSecurityGate (ω × τ)} (hp : gate.persistFn = none)
    (now : UInt32) (w : ω × τ) : (gateTick gate now w).2.2 = w.2 := by
  refine @gateTick_unseen (ω × τ) τ Prod.snd gate ?_ now w
  rw [hp]
  intro f hf
  exact absurd hf (by simp)

end UdsIsoTp.Uds
