import UdsIsoTp.App.DidApp
import UdsIsoTp.Lib.Overlay

/-!
# The data identifiers as they were written

Over any run of calls of `uds_did_app.c` a record holds what was written to it last, or else what
`uds_did_app_init` put there, and a read answers with exactly that (`did_table_runs`). Which records
can be written never changes. The record at 0xF186 holds the session that was set last: a read of it
takes the variable over first, and that changes nothing.
-/

namespace UdsIsoTp.App

open UdsIsoTp.Uds

/-- `uds_did_app_set_active_session`: the first record of the table shows it too. -/
def udsDidAppSetActiveSession (app : UdsDidApp) (session : UInt8) : UdsDidApp where
  activeSession := session
  table := app.table.modifyHead fun r => { r with data := r.data.write 0 session }

/-- The callbacks, with what the server passes, and the setter. -/
inductive DidCall where
  | setActiveSession (session : UInt8)
  | read (did capacity : UInt16)
  | write (did : UInt16) (data : List UInt8)

/-- One call, with what it leaves behind. -/
def didStep (app : UdsDidApp) : DidCall → UdsDidApp
  | .setActiveSession session => udsDidAppSetActiveSession app session
  | .read did capacity => (udsDidAppRead app did capacity).world
  | .write did data => (udsDidAppWrite app did data).2

/-- The record that the loops find. -/
def didRecordOf (table : List UdsDidRecord) (did : UInt16) : Option UdsDidRecord :=
  table.find? fun r => r.did == did

/-- The contents of the record. -/
def UdsDidRecord.bytes (r : UdsDidRecord) : List UInt8 := r.data.slice 0 r.length.toNat

/-- The contents of the identifier, if it is in the table. -/
def UdsDidApp.bytesOf (app : UdsDidApp) (did : UInt16) : Option (List UInt8) :=
  (didRecordOf app.table did).map UdsDidRecord.bytes

/-- What the application says to a write, whatever was written before. -/
def writeResult (did : UInt16) (data : List UInt8) : UdsCallbackResult :=
  if data.length = 0 ∨ didMaxDataSize < data.length then .outOfRange
  else
    match didRecordOf udsDidAppInit.table did with
    | none => .outOfRange
    | some r => if r.isWritable then .ok else .denied

/-- What the call puts into which record. -/
def DidCall.puts : DidCall → Patch UInt16 (Option (List UInt8))
  | .setActiveSession session => fun a =>
    if a = didActiveDiagnosticSession then some (some [session]) else none
  | .read _ _ => fun _ => none
  | .write did data => fun a =>
    if a = did ∧ writeResult did data = .ok then some (some data) else none

/-- What a read answers when this is held. -/
def readAnswer (held : Option (List UInt8)) (capacity : UInt16) : UdsCallbackResult × List UInt8 :=
  match held with
  | none => (.outOfRange, [])
  | some bytes => if capacity.toNat < bytes.length then (.responseTooLong, []) else (.ok, bytes)

/-! ## One call -/

section Record

variable {app : UdsDidApp} {did : UInt16} {data : List UInt8} {table : List UdsDidRecord}

/-- The record as a write leaves it. -/
def UdsDidRecord.written (r : UdsDidRecord) (data : List UInt8) : UdsDidRecord :=
  if r.isWritable then
    { r with
      data := r.data.copy 0 (Buf.ofList data) 0 data.length
      length := UInt16.ofNat data.length }
  else r

theorem bytes_written {r : UdsDidRecord} (hwritable : r.isWritable = true)
    (hlength : data.length ≤ didMaxDataSize) : (r.written data).bytes = data := by
  have hnat : (UInt16.ofNat data.length).toNat = data.length :=
    UInt16.toNat_ofNat_of_lt' (Nat.lt_of_le_of_lt hlength (by decide))
  unfold UdsDidRecord.written UdsDidRecord.bytes
  rw [if_pos hwritable]
  dsimp only
  rw [hnat, Buf.slice_copy_self, Buf.slice_ofList]

theorem didRecordOf_cons (r : UdsDidRecord) (rest : List UdsDidRecord) (did : UInt16) :
    didRecordOf (r :: rest) did = if r.did = did then some r else didRecordOf rest did := by
  unfold didRecordOf
  rw [List.find?_cons]
  by_cases h : r.did = did
  · rw [if_pos h, beq_iff_eq.mpr h]
  · rw [if_neg h, beq_false_of_ne h]

theorem writeRecord_result (did : UInt16) (data : List UInt8) (table : List UdsDidRecord) :
    (writeRecord did data table).1 = match didRecordOf table did with
      | none => .outOfRange
      | some r => if r.isWritable then .ok else .denied := by
  induction table with
  | nil => rfl
  | cons r rest ih =>
    rw [didRecordOf_cons]
    unfold writeRecord
    by_cases hdid : r.did = did
    · rw [if_pos hdid, if_pos hdid]
      by_cases hwritable : r.isWritable = true <;> simp [hwritable]
    · rw [if_neg hdid, if_neg hdid]
      exact ih

theorem writeRecord_records (did : UInt16) (data : List UInt8) (table : List UdsDidRecord)
    (a : UInt16) : didRecordOf (writeRecord did data table).2 a
      = if a = did then (didRecordOf table did).map (·.written data) else didRecordOf table a := by
  induction table with
  | nil => simp [writeRecord, didRecordOf]
  | cons r rest ih =>
    unfold writeRecord
    by_cases hdid : r.did = did
    · rw [if_pos hdid]
      have hwritten : (r.written data).did = r.did := by
        unfold UdsDidRecord.written
        split <;> rfl
      have hrecords : didRecordOf (r.written data :: rest) a
          = if a = did then (didRecordOf (r :: rest) did).map (·.written data)
            else didRecordOf (r :: rest) a := by
        rw [didRecordOf_cons, didRecordOf_cons, didRecordOf_cons, hwritten, hdid, if_pos rfl]
        by_cases ha : a = did
        · rw [if_pos ha.symm, if_pos ha]
          rfl
        · rw [if_neg (Ne.symm ha), if_neg ha, if_neg (Ne.symm ha)]
      rw [← hrecords]
      unfold UdsDidRecord.written
      by_cases hwritable : r.isWritable = true <;> simp [hwritable]
    · rw [if_neg hdid]
      dsimp only
      rw [didRecordOf_cons, didRecordOf_cons, didRecordOf_cons, ih, if_neg hdid]
      by_cases ha : a = did
      · rw [if_pos ha, if_pos ha, if_neg (fun h => hdid (h.trans ha))]
      · rw [if_neg ha, if_neg ha]

/-- The records are those of the initialisation, but for the data of those that can be written. -/
def SameRecords (app : UdsDidApp) : Prop :=
  app.table.map recordFrame = udsDidAppInit.table.map recordFrame

theorem recordFrame_of_same (h : SameRecords app) (did : UInt16) :
    (didRecordOf app.table did).map recordFrame
      = (didRecordOf udsDidAppInit.table did).map recordFrame := by
  have hmap : ∀ table : List UdsDidRecord, (didRecordOf table did).map recordFrame
      = (table.map recordFrame).find? fun f => f.1 == did := by
    intro table
    rw [List.find?_map]
    rfl
  rw [hmap, hmap, h]

theorem writeResult_record (h : SameRecords app) (did : UInt16)
    (hlength : ¬(data.length = 0 ∨ didMaxDataSize < data.length)) :
    writeResult did data = match didRecordOf app.table did with
      | none => .outOfRange
      | some r => if r.isWritable then .ok else .denied := by
  have hframe := recordFrame_of_same h did
  unfold writeResult
  rw [if_neg hlength]
  cases hnow : didRecordOf app.table did with
  | none =>
    rw [hnow] at hframe
    rw [Option.map_eq_none_iff.mp hframe.symm]
  | some r =>
    rw [hnow] at hframe
    obtain ⟨first, hfirst, hsame⟩ := Option.map_eq_some_iff.mp hframe.symm
    have hwritable : first.isWritable = r.isWritable := (Prod.mk.inj (Prod.mk.inj hsame).2).1
    rw [hfirst]
    dsimp only
    rw [hwritable]

theorem udsDidAppWrite_result (h : SameRecords app) (did : UInt16)
    (data : List UInt8) : (udsDidAppWrite app did data).1 = writeResult did data := by
  unfold udsDidAppWrite
  split
  next hlength =>
    unfold writeResult
    rw [if_pos hlength]
  next hlength =>
    rw [writeResult_record h did hlength]
    exact writeRecord_result did data app.table

/-- A write that is accepted is held as it is, and no other record is touched. -/
theorem bytesOf_write (h : SameRecords app) (did : UInt16)
    (data : List UInt8) (a : UInt16) : (udsDidAppWrite app did data).2.bytesOf a
      = if a = did ∧ writeResult did data = .ok then some data else app.bytesOf a := by
  unfold udsDidAppWrite
  split
  next hlength =>
    have hrefused : writeResult did data = .outOfRange := by
      unfold writeResult
      rw [if_pos hlength]
    rw [if_neg (by rw [hrefused]; simp)]
  next hlength =>
    rw [writeResult_record h did hlength]
    unfold UdsDidApp.bytesOf
    dsimp only
    rw [writeRecord_records]
    by_cases ha : a = did
    · subst ha
      rw [if_pos rfl]
      rcases didRecordOf app.table a with _ | r
      · simp
      by_cases hwritable : r.isWritable = true
      · have hbytes : (r.written data).bytes = data :=
          bytes_written hwritable (Nat.not_lt.mp fun h => hlength (.inr h))
        simp [hwritable, hbytes]
      · simp [hwritable, UdsDidRecord.written]
    · rw [if_neg ha, if_neg fun h => ha h.1]

end Record

/-! ## Runs -/

/-- The first record is that of the session, and it holds the one that is set. -/
structure DidKept (app : UdsDidApp) : Prop where
  same : SameRecords app
  session : app.bytesOf didActiveDiagnosticSession = some [app.activeSession]

section Kept

variable {app : UdsDidApp}

theorem bytesOf_setActiveSession (h : SameRecords app) (session : UInt8) (a : UInt16) :
    (udsDidAppSetActiveSession app session).bytesOf a
      = if a = didActiveDiagnosticSession then some [session] else app.bytesOf a := by
  unfold SameRecords at h
  unfold udsDidAppSetActiveSession UdsDidApp.bytesOf
  rcases hrecords : app.table with _ | ⟨r, rest⟩
  · rw [hrecords] at h
    exact absurd h.symm (List.cons_ne_nil _ _)
  rw [hrecords] at h
  obtain ⟨hdid, hrecord⟩ := Prod.mk.inj (List.cons.inj h).1
  obtain ⟨hwritable, hlength⟩ := Prod.mk.inj hrecord
  rw [hwritable, if_neg Bool.false_ne_true] at hlength
  have hdid : r.did = didActiveDiagnosticSession := hdid
  have hlength : r.length = 1 := Option.some.inj hlength
  dsimp only
  rw [List.modifyHead_cons, didRecordOf_cons, didRecordOf_cons]
  dsimp only
  rw [hdid]
  by_cases ha : a = didActiveDiagnosticSession
  · rw [if_pos ha, if_pos ha.symm, Option.map_some]
    simp [UdsDidRecord.bytes, hlength, Buf.slice_succ]
  · rw [if_neg ha, if_neg (Ne.symm ha), if_neg (Ne.symm ha)]

theorem sameRecords_setActiveSession (h : SameRecords app) (session : UInt8) :
    SameRecords (udsDidAppSetActiveSession app session) := by
  refine Eq.trans ?_ h
  unfold udsDidAppSetActiveSession
  rcases app.table with _ | ⟨r, rest⟩
  · rfl
  · rfl

/-- To set the session that is set changes no record. -/
theorem DidKept.refreshed (h : DidKept app) (a : UInt16) :
    (udsDidAppSetActiveSession app app.activeSession).bytesOf a = app.bytesOf a := by
  rw [bytesOf_setActiveSession h.same]
  by_cases ha : a = didActiveDiagnosticSession
  · rw [if_pos ha, ha, h.session]
  · rw [if_neg ha]

theorem udsDidAppRead_answer (app : UdsDidApp) (did capacity : UInt16) :
    let reply := udsDidAppRead app did capacity
    let seen := if did = didActiveDiagnosticSession then
      udsDidAppSetActiveSession app app.activeSession else app
    (reply.result, reply.data) = readAnswer (seen.bytesOf did) capacity ∧
      reply.length.toNat = reply.data.length ∧ reply.world = seen := by
  intro reply seen
  have hreply : reply = match seen.table.find? fun r => r.did == did with
      | none => ⟨.outOfRange, [], 0, seen⟩
      | some r =>
        if capacity < r.length then ⟨.responseTooLong, [], 0, seen⟩
        else ⟨.ok, r.data.slice 0 r.length.toNat, r.length, seen⟩ := rfl
  split at hreply
  next hnone =>
    have hheld : seen.bytesOf did = none := congrArg (Option.map UdsDidRecord.bytes) hnone
    rw [hreply, hheld]
    exact ⟨rfl, rfl, rfl⟩
  next r hfound =>
    have hheld : seen.bytesOf did = some r.bytes :=
      congrArg (Option.map UdsDidRecord.bytes) hfound
    have hlength : r.bytes.length = r.length.toNat := Buf.length_slice _ _ _
    unfold readAnswer
    rw [hheld]
    dsimp only
    rw [hlength]
    split at hreply
    next hroom =>
      rw [hreply, if_pos (UInt16.lt_iff_toNat_lt.mp hroom)]
      exact ⟨rfl, rfl, rfl⟩
    next hroom =>
      rw [hreply, if_neg fun h => hroom (UInt16.lt_iff_toNat_lt.mpr h)]
      exact ⟨rfl, hlength.symm, rfl⟩

theorem DidKept.read (h : DidKept app) (did capacity : UInt16) :
    let reply := udsDidAppRead app did capacity
    (reply.result, reply.data) = readAnswer (app.bytesOf did) capacity ∧
      reply.length.toNat = reply.data.length ∧ ∀ a, reply.world.bytesOf a = app.bytesOf a := by
  intro reply
  obtain ⟨hanswer, hlength, hworld⟩ := udsDidAppRead_answer app did capacity
  have hbytes : ∀ a, reply.world.bytesOf a = app.bytesOf a := by
    intro a
    unfold reply
    rw [hworld]
    split
    next => exact h.refreshed a
    next => rfl
  rw [← hworld, hbytes did] at hanswer
  exact ⟨hanswer, hlength, hbytes⟩

/-- One call lays what it writes over what was there. -/
theorem DidKept.bytesOf_step (h : DidKept app) (call : DidCall) (a : UInt16) :
    (didStep app call).bytesOf a = (call.puts a).getD (app.bytesOf a) := by
  cases call with
  | setActiveSession session =>
    unfold didStep DidCall.puts
    dsimp only
    rw [bytesOf_setActiveSession h.same]
    split <;> rfl
  | read did capacity => exact (h.read did capacity).2.2 a
  | write did data =>
    unfold didStep DidCall.puts
    dsimp only
    rw [bytesOf_write h.same]
    split <;> rfl

/-- The session is not to be written. -/
theorem writeResult_session (data : List UInt8) :
    writeResult didActiveDiagnosticSession data ≠ .ok := by
  unfold writeResult
  split
  next => decide
  next => decide

theorem DidKept.step (h : DidKept app) (call : DidCall) : DidKept (didStep app call) := by
  have hbytes := h.bytesOf_step call didActiveDiagnosticSession
  cases call with
  | setActiveSession session => exact ⟨sameRecords_setActiveSession h.same session, hbytes⟩
  | read did capacity =>
    obtain ⟨hactive, hsame⟩ := Prod.mk.inj (udsDidAppRead_frame app did capacity)
    refine ⟨hsame.trans h.same, hbytes.trans (h.session.trans ?_)⟩
    exact congrArg (fun session => some [session]) hactive.symm
  | write did data =>
    obtain ⟨hactive, hsame⟩ := Prod.mk.inj (udsDidAppWrite_frame app did data)
    have hputs : (DidCall.write did data).puts didActiveDiagnosticSession = none := by
      refine if_neg ?_
      rintro ⟨rfl, hok⟩
      exact writeResult_session data hok
    rw [hputs] at hbytes
    refine ⟨hsame.trans h.same, hbytes.trans (h.session.trans ?_)⟩
    exact congrArg (fun session => some [session]) hactive.symm

end Kept

theorem udsDidAppInit_kept : DidKept udsDidAppInit := ⟨rfl, by decide⟩

/-- What was written to the record last, or else what it was initialised with. -/
def heldRecord (calls : List DidCall) (did : UInt16) : Option (List UInt8) :=
  (lastPut (calls.map DidCall.puts) did).getD (udsDidAppInit.bytesOf did)

/-- **The identifiers as they were written.** After any run of calls every record holds what was put
there last, a read answers with exactly that, and a write is accepted or refused as it would have
been at the start. -/
theorem did_table_runs (calls : List DidCall) :
    let app := run didStep udsDidAppInit calls
    (∀ did, app.bytesOf did = heldRecord calls did) ∧
      (∀ did capacity, let reply := udsDidAppRead app did capacity
        (reply.result, reply.data) = readAnswer (heldRecord calls did) capacity ∧
          reply.length.toNat = reply.data.length) ∧
      ∀ did data, (udsDidAppWrite app did data).1 = writeResult did data := by
  intro app
  have hkept : DidKept app :=
    run_inv (I := DidKept) (fun _ call h => h.step call) udsDidAppInit_kept calls
  have hheld : ∀ did, app.bytesOf did = heldRecord calls did :=
    look_run UdsDidApp.bytesOf (I := DidKept) (fun _ call h => h.step call)
      (fun _ call did h => h.bytesOf_step call did) udsDidAppInit_kept calls
  refine ⟨hheld, fun did capacity => ?_, udsDidAppWrite_result hkept.same⟩
  rw [← hheld did]
  obtain ⟨hanswer, hlength, -⟩ := hkept.read did capacity
  exact ⟨hanswer, hlength⟩

/-- A write to the session leaves it as it was set. -/
example : heldRecord [.setActiveSession 0x03, .write didActiveDiagnosticSession [0x02],
    .write didEcuSoftwareNumber [0x41]] didActiveDiagnosticSession = some [0x03] := by decide

end UdsIsoTp.App
