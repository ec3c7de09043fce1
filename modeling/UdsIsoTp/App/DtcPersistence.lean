import UdsIsoTp.App.DtcRoundTrip

/-!
# Trouble codes across a restart

The application with its table, a parameter store for it and the flash behind that, from a
flash as it is delivered: any functions of the application in any order, with saves, loads
and restarts among them. `DtcKept` holds at all times; it says that the newest record of the
store, if there is one, is the block of a table that the application has had.
-/

namespace UdsIsoTp.App

open UdsIsoTp.Flash UdsIsoTp.Uds

/-- The table with the store and the flash it is saved in. -/
structure DtcRun where
  app : UdsDtcAppStorage
  /-- The store and the flash behind it. -/
  world : UdsParamStore NorFlash × NorFlash

/-- What can happen to the table. -/
inductive DtcCall where
  | setFault (dtc : UInt32) (status severity : UInt8) (counter : Int8)
  | reportEvent (dtc : UInt32) (failed : Bool)
  | clear (groupOfDtc : UInt32)
  | clearFault (dtc : UInt32)
  | setSnapshot (dtc : UInt32) (recordNum : UInt8) (data : List UInt8)
  | setGlobalSnapshot (dtc : UInt32) (snapshot : ObdGlobalSnapshotFormat)
  | setExtendedData (dtc : UInt32) (extData : ObdExtendedDataFormat)
  | controlSetting (subfunction : UInt8)
  | attachNvm (store : Bool)
  | saveToNvm
  | loadFromNvm
  | init

/-- What an operation has returned, as a run. -/
def DtcRun.with (out : UdsDtcAppStorage × UdsParamStore NorFlash × NorFlash) : DtcRun :=
  ⟨out.1, out.2⟩

/-- One call. -/
def dtcStep (s : DtcRun) : DtcCall → DtcRun
  | .setFault dtc status severity counter =>
    .with (udsDtcAppSetFault s.app s.world dtc status severity counter).2
  | .reportEvent dtc failed => .with (udsDtcAppReportEvent s.app s.world dtc failed).2
  | .clear groupOfDtc => .with (udsDtcAppClear s.app s.world groupOfDtc).2
  | .clearFault dtc => .with (udsDtcAppClearFault s.app s.world dtc).2
  | .setSnapshot dtc recordNum data =>
    .with (udsDtcAppSetSnapshot s.app s.world dtc recordNum data).2
  | .setGlobalSnapshot dtc snapshot =>
    .with (udsDtcAppSetGlobalSnapshot s.app s.world dtc snapshot).2
  | .setExtendedData dtc extData => .with (udsDtcAppSetExtendedData s.app s.world dtc extData).2
  | .controlSetting subfunction => ⟨(udsDtcAppControlSetting s.app subfunction).2, s.world⟩
  | .attachNvm store => .with (udsDtcAppAttachNvm s.app store s.world)
  | .saveToNvm => ⟨s.app, (udsDtcAppSaveToNvm s.app s.world).2⟩
  | .loadFromNvm => .with (udsDtcAppLoadFromNvm s.app s.world).2
  | .init => ⟨udsDtcAppInit, s.world⟩

/-! ## The invariant -/

/-- A geometry that a store of trouble codes has. -/
def dtcStore (g : NorStore) : NorStore := g.withData nvBlockSize

section Kept

variable {g : NorStore} {hsound : Sound (dtcStore g).layout} {n : Nat} {s : DtcRun}

/-- The store is behind the `n` items of a clean flash. -/
structure StoreKept (hsound : Sound (dtcStore g).layout) (n : Nat)
    (w : UdsParamStore NorFlash × NorFlash) : Prop where
  store : w.1 = resumedAt (dtcStore g).layout hsound n
  clean : Clean hsound (norErased g.erased) n w.2.mem
  powered : w.2.cut = none
  saved : ∀ m, n = m + 1 → ∃ app, DtcValid app ∧
    slotData (dtcStore g).layout w.2.mem (hsound.ring.home m)
      = nvBlockCodec.encode (nvBlockOf app)

/-- What a run keeps: a valid table, and a store whose newest record is found. -/
structure DtcKept (hsound : Sound (dtcStore g).layout) (n : Nat) (s : DtcRun) : Prop where
  valid : DtcValid s.app
  world : StoreKept hsound n s.world

theorem block_slice (app : UdsDtcAppStorage) :
    (Buf.ofList (nvBlockCodec.encode (nvBlockOf app))).slice 0 nvBlockSize.toNat
      = nvBlockCodec.encode (nvBlockOf app) := by
  rw [← nvBlockCodec_width, ← nvBlockCodec.length_encode (nvBlockOf app)]
  exact Buf.slice_ofList _

/-- A save of an attached table puts its block into the next item. -/
theorem StoreKept.save {w : UdsParamStore NorFlash × NorFlash} (h : StoreKept hsound n w)
    {app : UdsDtcAppStorage} (hvalid : DtcValid app) (hattached : app.nvmAttached = true) :
    (udsDtcAppSaveToNvm app w).1 = true ∧
      StoreKept hsound (n + 1) (udsDtcAppSaveToNvm app w).2 ∧
      slotData (dtcStore g).layout (udsDtcAppSaveToNvm app w).2.2.mem (hsound.ring.home n)
        = nvBlockCodec.encode (nvBlockOf app) := by
  obtain ⟨hok, hstore, hclean, hcut, hdata⟩ := save_clean (dtcStore g).onNor h.clean h.powered
    (Buf.ofList (nvBlockCodec.encode (nvBlockOf app)))
  rw [← h.store] at hok hstore hclean hcut hdata
  have hdata := hdata.trans (block_slice app)
  unfold udsDtcAppSaveToNvm
  rw [if_neg (by simp [hattached])]
  refine ⟨decide_eq_true hok, ⟨hstore, hclean, hcut, fun m hm => ?_⟩, hdata⟩
  rw [← Nat.succ.inj hm]
  exact ⟨app, hvalid, hdata⟩

/-- What a save leaves, if it is one. -/
theorem StoreKept.saveToNvm {w : UdsParamStore NorFlash × NorFlash} (h : StoreKept hsound n w)
    {app : UdsDtcAppStorage} (hvalid : DtcValid app) :
    ∃ n, StoreKept hsound n (udsDtcAppSaveToNvm app w).2 := by
  by_cases hattached : app.nvmAttached = true
  · exact ⟨n + 1, (h.save hvalid hattached).2.1⟩
  · refine ⟨n, ?_⟩
    unfold udsDtcAppSaveToNvm
    rw [if_pos hattached]
    exact h

theorem nvBlockOf_accepted (app : UdsDtcAppStorage) :
    ¬((nvBlockOf app).magic ≠ dtcNvMagic ∨ (nvBlockOf app).version ≠ dtcNvVersion) :=
  fun h => h.elim (fun hmagic => hmagic rfl) fun hversion => hversion rfl

/-- A load from the newest item. -/
theorem StoreKept.load {m : Nat} {w : UdsParamStore NorFlash × NorFlash}
    (h : StoreKept hsound (m + 1) w) {app : UdsDtcAppStorage}
    (hdata : slotData (dtcStore g).layout w.2.mem (hsound.ring.home m)
      = nvBlockCodec.encode (nvBlockOf app))
    {table : UdsDtcAppStorage} (hattached : table.nvmAttached = true) :
    udsDtcAppLoadFromNvm table w = (true, restoreBlock table (nvBlockOf app), w) := by
  have hload := load_resumedAt hsound (dtcStore g).onNor.healthy h.clean.logged []
  unfold udsDtcAppLoadFromNvm
  rw [if_neg (by simp [hattached]), h.store, hload, hdata]
  dsimp only
  rw [nvBlockCodec.decode_encode_self, if_neg (nvBlockOf_accepted app), ← h.store]

theorem DtcKept.load (h : DtcKept hsound n s) :
    DtcKept hsound n (.with (udsDtcAppLoadFromNvm s.app s.world).2) := by
  by_cases hattached : s.app.nvmAttached = true
  · cases n with
    | zero =>
      have hload : udsParamLoad s.world.1 [] s.world.2 = (.err, [], s.world.2) := by
        rw [h.world.store]
        exact load_resumedAt_zero hsound [] s.world.2
      unfold udsDtcAppLoadFromNvm
      rw [if_neg (by simp [hattached]), hload]
      exact h
    | succ m =>
      obtain ⟨app, hvalid, hdata⟩ := h.world.saved m rfl
      rw [h.world.load hdata hattached]
      exact ⟨restoreBlock_valid hvalid h.valid, h.world⟩
  · unfold udsDtcAppLoadFromNvm
    rw [if_pos hattached]
    exact h

theorem DtcKept.changed (h : DtcKept hsound n s)
    {out : UdsDtcAppStorage × UdsParamStore NorFlash × NorFlash} (hout : Changed s.world out) :
    ∃ n, DtcKept hsound n (.with out) := by
  obtain hsame | hsaved := hout.world
  · exact ⟨n, hout.valid, by
      show StoreKept hsound n out.2
      rw [hsame]
      exact h.world⟩
  · obtain ⟨n', hn'⟩ := h.world.saveToNvm hout.valid
    exact ⟨n', hout.valid, by
      show StoreKept hsound n' out.2
      rw [hsaved]
      exact hn'⟩

theorem dtcStep_kept (h : DtcKept hsound n s) (call : DtcCall) :
    ∃ n, DtcKept hsound n (dtcStep s call) := by
  cases call with
  | setFault dtc status severity counter =>
    exact h.changed (udsDtcAppSetFault_changed h.valid s.world dtc status severity counter)
  | reportEvent dtc failed =>
    exact h.changed (udsDtcAppReportEvent_changed h.valid s.world dtc failed)
  | clear groupOfDtc => exact h.changed (udsDtcAppClear_changed h.valid s.world groupOfDtc)
  | clearFault dtc => exact h.changed (udsDtcAppClearFault_changed h.valid s.world dtc)
  | setSnapshot dtc recordNum data =>
    exact h.changed (udsDtcAppSetSnapshot_changed h.valid s.world dtc recordNum data)
  | setGlobalSnapshot dtc snapshot =>
    exact h.changed (udsDtcAppSetGlobalSnapshot_changed h.valid s.world dtc snapshot)
  | setExtendedData dtc extData =>
    exact h.changed (udsDtcAppSetExtendedData_changed h.valid s.world dtc extData)
  | controlSetting subfunction =>
    exact ⟨n, udsDtcAppControlSetting_valid h.valid subfunction, h.world⟩
  | attachNvm store =>
    have hattached : DtcKept hsound n ⟨{ s.app with nvmAttached := store }, s.world⟩ :=
      ⟨h.valid.congr rfl rfl, h.world⟩
    cases store with
    | true => exact ⟨n, hattached.load⟩
    | false => exact ⟨n, hattached⟩
  | saveToNvm =>
    obtain ⟨n', hn'⟩ := h.world.saveToNvm h.valid
    exact ⟨n', h.valid, hn'⟩
  | loadFromNvm => exact ⟨n, h.load⟩
  | init => exact ⟨n, udsDtcAppInit_valid, h.world⟩

end Kept

/-! ## A save and a restart -/

/-- The application with a store that has just been initialised. -/
def dtcStart (g : NorStore) (haccepted : ((dtcStore g).init g.delivered).1.isSome) : DtcRun :=
  ⟨udsDtcAppInit, ((dtcStore g).init g.delivered).1.get haccepted,
    ((dtcStore g).init g.delivered).2⟩

/-- `uds_dtc_app_init` and `uds_dtc_app_attach_nvm` after a save. -/
def restarted (s : DtcRun) : UdsDtcAppStorage :=
  (udsDtcAppAttachNvm udsDtcAppInit true (udsDtcAppSaveToNvm s.app s.world).2).1

section Restart

variable {g : NorStore}

theorem run_kept
    (hregion : g.flashBase.toNat + g.sectorCount.toNat * g.sectorSize.toNat ≤ 2 ^ 32)
    (hslots : (dtcStore g).totalSlots < 32767)
    (haccepted : ((dtcStore g).init g.delivered).1.isSome) (calls : List DtcCall) :
    ∃ hsound : Sound (dtcStore g).layout, ∃ n,
      DtcKept hsound n (run dtcStep (dtcStart g haccepted) calls) := by
  have hopened : ((dtcStore g).init (dtcStore g).delivered).1 ≠ none :=
    Option.isSome_iff_ne_none.mp haccepted
  obtain ⟨hsound, -⟩ := NorStore.layout_sound (g := dtcStore g)
    (slotBytes_lt _ (show nvBlockSize.toNat ≤ 60000 by decide)) hregion hopened hslots
  have hclean : Clean hsound (norErased g.erased) 0 g.delivered.mem := delivered_clean
  have hinit : (dtcStore g).init g.delivered
      = (some (resumedAt (dtcStore g).layout hsound 0), g.delivered) :=
    init_resumedAt hsound (dtcStore g).onNor.healthy hopened hclean.logged
  refine ⟨hsound, run_inv (I := fun s => ∃ n, DtcKept hsound n s)
    (fun s call h => by
      obtain ⟨n, h⟩ := h
      exact dtcStep_kept h call) ⟨0, udsDtcAppInit_valid, ?_⟩ calls⟩
  refine ⟨?_, ?_, ?_, fun m hm => absurd hm (Nat.zero_ne_add_one m)⟩
  · show ((dtcStore g).init g.delivered).1.get haccepted = _
    simp only [hinit, Option.get_some]
  · show Clean hsound (norErased g.erased) 0 ((dtcStore g).init g.delivered).2.mem
    rw [hinit]
    exact hclean
  · show ((dtcStore g).init g.delivered).2.cut = none
    rw [hinit]
    rfl

/-- A save with a store succeeds, and after a restart the table has what its block has. -/
theorem restart_loads
    (hregion : g.flashBase.toNat + g.sectorCount.toNat * g.sectorSize.toNat ≤ 2 ^ 32)
    (hslots : (dtcStore g).totalSlots < 32767)
    (haccepted : ((dtcStore g).init g.delivered).1.isSome) (calls : List DtcCall)
    (hattached : (run dtcStep (dtcStart g haccepted) calls).app.nvmAttached = true) :
    let s := run dtcStep (dtcStart g haccepted) calls
    DtcValid s.app ∧ (udsDtcAppSaveToNvm s.app s.world).1 = true ∧
      restarted s = restoreBlock freshTable (nvBlockOf s.app) := by
  intro s
  obtain ⟨hsound, n, hkept⟩ := run_kept hregion hslots haccepted calls
  obtain ⟨hok, hworld, hdata⟩ := hkept.world.save hkept.valid hattached
  refine ⟨hkept.valid, hok, ?_⟩
  show (udsDtcAppLoadFromNvm freshTable (udsDtcAppSaveToNvm s.app s.world).2).2.1 = _
  rw [hworld.load hdata rfl]

end Restart

/-- For every geometry that the store's init accepts, in the 32-bit address space and with
fewer than 32767 slots: whatever the application has done since the flash was delivered, when
a save succeeds, a restart gives back the records of the table, and no others. -/
theorem dtc_table_survives (g : NorStore)
    (hregion : g.flashBase.toNat + g.sectorCount.toNat * g.sectorSize.toNat ≤ 2 ^ 32)
    (hslots : (dtcStore g).totalSlots < 32767)
    (haccepted : ((dtcStore g).init g.delivered).1.isSome) (calls : List DtcCall)
    (hsaved : (udsDtcAppSaveToNvm (run dtcStep (dtcStart g haccepted) calls).app
      (run dtcStep (dtcStart g haccepted) calls).world).1 = true) (dtc : UInt32) :
    Option.Rel (Restored (run dtcStep (dtcStart g haccepted) calls).app)
      (recordOf (run dtcStep (dtcStart g haccepted) calls).app dtc)
      (recordOf (restarted (run dtcStep (dtcStart g haccepted) calls)) dtc) := by
  have hattached : (run dtcStep (dtcStart g haccepted) calls).app.nvmAttached = true := by
    by_contra hnone
    unfold udsDtcAppSaveToNvm at hsaved
    rw [if_pos hnone] at hsaved
    exact Bool.noConfusion hsaved
  obtain ⟨hvalid, -, hrestarted⟩ := restart_loads hregion hslots haccepted calls hattached
  rw [hrestarted]
  exact reloaded_record hvalid dtc

/-! ## On a small flash -/

/-- Two sectors with a slot each. -/
def dtcFlash : NorStore := { smallStore with sectorSize := 2048 }

theorem dtcFlash_accepted : ((dtcStore dtcFlash).init dtcFlash.delivered).1.isSome := by
  decide +kernel

/-- A fault that is set and cleared, and one with a snapshot of its own. -/
def twoFaults : List DtcCall :=
  [.attachNvm true, .setFault 0x123456 0x2F 0x20 100, .clearFault 0x123456,
    .setFault 0xD00618 0x29 0x80 120, .setSnapshot 0xD00618 0x01 [0x11, 0x22, 0x33, 0x44]]

/-- Extended data for a code in ROM. -/
def extendedFault : List DtcCall :=
  [.attachNvm true, .setExtendedData 0x010000 ⟨1, 2, 3, 4⟩]

/-- The first nine codes. -/
def nineFaults : List DtcCall :=
  .attachNvm true :: (romDtcDefs.take 9).map fun rom => .setFault rom.dtcNumber 0x2F 0x20 100

theorem dtc_table_survives_fault :
    Option.Rel (Restored (run dtcStep (dtcStart dtcFlash dtcFlash_accepted) twoFaults).app)
      (recordOf (run dtcStep (dtcStart dtcFlash dtcFlash_accepted) twoFaults).app 0xD00618)
      (recordOf (restarted (run dtcStep (dtcStart dtcFlash dtcFlash_accepted) twoFaults))
        0xD00618) :=
  dtc_table_survives dtcFlash (by decide) (by decide) dtcFlash_accepted twoFaults
    (restart_loads (by decide) (by decide) dtcFlash_accepted twoFaults (by decide +kernel)).2.1
    0xD00618

theorem dtcFlash_restarted (calls : List DtcCall) (dtc : UInt32)
    (hattached : (run dtcStep (dtcStart dtcFlash dtcFlash_accepted) calls).app.nvmAttached = true) :
    let s := run dtcStep (dtcStart dtcFlash dtcFlash_accepted) calls
    (udsDtcAppSaveToNvm s.app s.world).1 = true ∧
      recordOf (restarted s) dtc
        = (dtcEntryOf s.app dtc).map fun e => (reloadedEntry s.app e).view := by
  intro s
  obtain ⟨hvalid, hok, hrestarted⟩ :=
    restart_loads (by decide) (by decide) dtcFlash_accepted calls hattached
  refine ⟨hok, ?_⟩
  rw [hrestarted, recordOf_eq (restoreBlock_valid hvalid freshTable_valid).static,
    reloaded_entry hvalid, Option.map_map]
  rfl

/-- After these calls a save succeeds, and the record of `dtc` that comes back is another one. -/
def RecordLost (calls : List DtcCall) (dtc : UInt32) : Prop :=
  let s := run dtcStep (dtcStart dtcFlash dtcFlash_accepted) calls
  (udsDtcAppSaveToNvm s.app s.world).1 = true ∧ recordOf s.app dtc ≠ recordOf (restarted s) dtc

/-- A record is lost where what the record on flash stands for is not what it was made of. -/
theorem recordLost_of {calls : List DtcCall} {dtc : UInt32}
    (hattached : (run dtcStep (dtcStart dtcFlash dtcFlash_accepted) calls).app.nvmAttached = true)
    (hdiffers : recordOf (run dtcStep (dtcStart dtcFlash dtcFlash_accepted) calls).app dtc ≠
      (dtcEntryOf (run dtcStep (dtcStart dtcFlash dtcFlash_accepted) calls).app dtc).map fun e =>
        (reloadedEntry (run dtcStep (dtcStart dtcFlash dtcFlash_accepted) calls).app e).view) :
    RecordLost calls dtc := by
  obtain ⟨hok, hrecord⟩ := dtcFlash_restarted calls dtc hattached
  exact ⟨hok, hrecord ▸ hdiffers⟩

/-- The extended data that come back are those in ROM, the snapshot is gone, or its number is the
one it had before it was cleared. -/
theorem dtc_record_changed :
    RecordLost extendedFault 0x010000 ∧ RecordLost nineFaults 0xD00622 ∧
      RecordLost twoFaults 0x123456 := by
  refine ⟨recordLost_of ?_ ?_, recordLost_of ?_ ?_, recordLost_of ?_ ?_⟩ <;> decide +kernel

end UdsIsoTp.App
