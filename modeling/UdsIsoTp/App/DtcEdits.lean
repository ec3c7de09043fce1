import Mathlib.Logic.Relation
import UdsIsoTp.App.DtcPersistence

/-!
# What a call does to the table

Whatever function is called, the table of trouble codes changes by a few kinds of edits: one
status is written to in one of seven ways, a record is added for a number that had none, or
one of the two switches beside the table is turned. `DtcEdits` is a sequence of edits, and
each function is one (`dtcStep_edits`). What every edit keeps, every run keeps.
-/

namespace UdsIsoTp.App

open UdsIsoTp.Flash UdsIsoTp.Uds Keyed Relation

/-! ## Edits -/

/-- What is written into a status. -/
inductive StatusUpdate : (UdsDtcRamStatus → UdsDtcRamStatus) → Prop
  | fault (status : UInt8) (counter : Int8) : StatusUpdate (faultStatus status counter)
  | failed : StatusUpdate debounceFaultFailed
  | passed : StatusUpdate debounceFaultPassed
  | cleared : StatusUpdate clearSingleRamRecord
  | snapshot (recordNum : UInt8) (data : List UInt8) : StatusUpdate (setSnapshot recordNum data)
  | extended (ext : ObdExtendedDataFormat) : StatusUpdate (extendStatus ext)
  | restored (r : UdsDtcNvRecord) : StatusUpdate (restoreStatus r)

/-- A record as a fault or a load makes it. -/
inductive NewRecord : UdsDtcDynamicRecord → Prop
  | fault (dtc : UInt32) (status severity : UInt8) (counter : Int8) :
      NewRecord (faultRecord dtc status severity counter)
  | restored (r : UdsDtcNvRecord) :
      NewRecord ⟨r.dtcNumber, r.severity, r.functionalUnit, restoreStatus r zeroStatus⟩

/-- What one step may do to the table. -/
inductive DtcEdit (app : UdsDtcAppStorage) : UdsDtcAppStorage → Prop
  | status (i : Nat) {f : UdsDtcRamStatus → UdsDtcRamStatus} (hf : StatusUpdate f) :
      DtcEdit app (setRamStatus app i f)
  | added {dyn : UdsDtcDynamicRecord} (hdyn : NewRecord dyn)
      (hnew : findDtcIndex app dyn.dtcNumber = none)
      (hroom : app.dynamicRecords.length < dtcDynamicMax) :
      DtcEdit app { app with dynamicRecords := app.dynamicRecords ++ [dyn] }
  | switched (enabled attached : Bool) :
      DtcEdit app { app with dtcSettingEnabled := enabled, nvmAttached := attached }

/-- What any number of steps may do. -/
abbrev DtcEdits := ReflTransGen DtcEdit

theorem DtcEdit.sound {app app' : UdsDtcAppStorage} (h : DtcEdit app app')
    (hsound : TableSound app) : TableSound app' := by
  cases h with
  | status i hf => exact hsound.setRamStatus i _
  | added hdyn hnew hroom => exact hsound.append hnew hroom
  | switched => exact hsound.congr rfl rfl

/-- What every edit keeps. -/
theorem edits_keep {I : UdsDtcAppStorage → Prop}
    (hedit : ∀ app app', DtcEdit app app' → I app → I app') {app app' : UdsDtcAppStorage}
    (h : DtcEdits app app') (hstart : I app) : I app' := by
  induction h with
  | refl => exact hstart
  | tail _ hlast ih => exact hedit _ _ hlast ih

theorem DtcEdits.sound {app app' : UdsDtcAppStorage} (h : DtcEdits app app')
    (hsound : TableSound app) : TableSound app' :=
  edits_keep (fun _ _ hedit => hedit.sound) h hsound

/-! ## Loading -/

section Load

variable (app : UdsDtcAppStorage)

theorem restoreRecord_edits (r : UdsDtcNvRecord) : DtcEdits app (restoreRecord app r) := by
  unfold restoreRecord
  split
  next idx _ => exact .single (.status idx (.restored r))
  next hnew =>
    split
    next hroom => exact .single (.added (.restored r) hnew hroom)
    next => exact .refl

theorem restoreSnapshot_edits (s : UdsDtcNvSnapshot) : DtcEdits app (restoreSnapshot app s) := by
  unfold restoreSnapshot
  split
  next idx _ => exact .single (.status idx (.snapshot s.recordNum _))
  next => exact .refl

/-- A loop of edits is a sequence of edits. -/
theorem foldl_edits {α : Type} {step : UdsDtcAppStorage → α → UdsDtcAppStorage}
    (hstep : ∀ app a, DtcEdits app (step app a)) (l : List α) :
    DtcEdits app (l.foldl step app) := by
  induction l generalizing app with
  | nil => exact .refl
  | cons a l ih => exact (hstep app a).trans (ih (step app a))

/-- Any block will do. -/
theorem restoreBlock_edits (block : UdsDtcNvBlock) : DtcEdits app (restoreBlock app block) := by
  unfold restoreBlock
  exact (foldl_edits app restoreRecord_edits _).trans (foldl_edits _ restoreSnapshot_edits _)

theorem udsDtcAppLoadFromNvm_edits {ω : Type} (w : UdsParamStore ω × ω) :
    DtcEdits app (udsDtcAppLoadFromNvm app w).2.1 := by
  unfold udsDtcAppLoadFromNvm
  split
  next => exact .refl
  next =>
    split
    next =>
      dsimp only
      split
      next => exact .refl
      next => exact restoreBlock_edits app _
    next => exact .refl

end Load

/-! ## The functions -/

section Functions

variable {ω : Type} (app : UdsDtcAppStorage) (w : UdsParamStore ω × ω)

theorem updateRecord_edits (dtc : UInt32) {f : UdsDtcRamStatus → UdsDtcRamStatus}
    (hf : StatusUpdate f) : DtcEdits app (updateRecord app w dtc f).2.1 := by
  unfold updateRecord
  split
  next idx _ => exact .single (.status idx hf)
  next => exact .refl

theorem udsDtcAppSetFault_edits (dtc : UInt32) (status severity : UInt8) (counter : Int8) :
    DtcEdits app (udsDtcAppSetFault app w dtc status severity counter).2.1 := by
  unfold udsDtcAppSetFault
  split
  next => exact .refl
  next =>
    split
    next idx _ => exact .single (.status idx (.fault status counter))
    next hnew =>
      split
      next hroom => exact .single (.added (.fault dtc status severity counter) hnew hroom)
      next => exact .refl

theorem udsDtcAppReportEvent_edits (dtc : UInt32) (failed : Bool) :
    DtcEdits app (udsDtcAppReportEvent app w dtc failed).2.1 := by
  unfold udsDtcAppReportEvent
  split
  next => exact .refl
  next =>
    cases failed with
    | true => exact updateRecord_edits app w dtc .failed
    | false => exact updateRecord_edits app w dtc .passed

theorem clearWhere_edits (selected : UInt32 → Bool) : DtcEdits app (clearWhere app selected) := by
  unfold clearWhere
  refine foldl_edits app (fun app i => ?_) _
  split
  next =>
    split
    next => exact .single (.status i .cleared)
    next => exact .refl
  next => exact .refl

theorem udsDtcAppClear_edits (groupOfDtc : UInt32) :
    DtcEdits app (udsDtcAppClear app w groupOfDtc).2.1 := by
  unfold udsDtcAppClear
  dsimp only
  split
  next => exact clearWhere_edits app fun _ => true
  next =>
    split
    next => exact clearWhere_edits app fun dtc => dtcMatchesGroupMask dtc (groupOfDtc &&& 0xFF0000)
    next =>
      split
      next idx _ => exact .single (.status idx .cleared)
      next => exact .refl

theorem udsDtcAppSetSnapshot_edits (dtc : UInt32) (recordNum : UInt8) (data : List UInt8) :
    DtcEdits app (udsDtcAppSetSnapshot app w dtc recordNum data).2.1 := by
  unfold udsDtcAppSetSnapshot
  split
  next => exact .refl
  next => exact updateRecord_edits app w dtc (.snapshot recordNum data)

theorem udsDtcAppControlSetting_edits (subfunction : UInt8) :
    DtcEdits app (udsDtcAppControlSetting app subfunction).2 := by
  unfold udsDtcAppControlSetting
  split
  next => exact .single (.switched true app.nvmAttached)
  next =>
    split
    next => exact .single (.switched false app.nvmAttached)
    next => exact .refl

theorem udsDtcAppAttachNvm_edits (store : Bool) :
    DtcEdits app (udsDtcAppAttachNvm app store w).1 := by
  have hattached : DtcEdits app { app with nvmAttached := store } :=
    .single (.switched app.dtcSettingEnabled store)
  cases store with
  | true => exact hattached.trans (udsDtcAppLoadFromNvm_edits _ w)
  | false => exact hattached

end Functions

/-- Every function but the one that starts afresh is a sequence of edits. -/
theorem dtcStep_edits (s : DtcRun) (call : DtcCall) :
    (dtcStep s call).app = udsDtcAppInit ∨ DtcEdits s.app (dtcStep s call).app := by
  cases call with
  | setFault dtc status severity counter =>
    exact .inr (udsDtcAppSetFault_edits s.app s.world dtc status severity counter)
  | reportEvent dtc failed => exact .inr (udsDtcAppReportEvent_edits s.app s.world dtc failed)
  | clear groupOfDtc => exact .inr (udsDtcAppClear_edits s.app s.world groupOfDtc)
  | clearFault dtc => exact .inr (updateRecord_edits s.app s.world dtc .cleared)
  | setSnapshot dtc recordNum data =>
    exact .inr (udsDtcAppSetSnapshot_edits s.app s.world dtc recordNum data)
  | setGlobalSnapshot dtc snapshot =>
    exact .inr (updateRecord_edits s.app s.world dtc (.snapshot 0x01 snapshot.bytes))
  | setExtendedData dtc extData =>
    exact .inr (updateRecord_edits s.app s.world dtc (.extended extData))
  | controlSetting subfunction => exact .inr (udsDtcAppControlSetting_edits s.app subfunction)
  | attachNvm store => exact .inr (udsDtcAppAttachNvm_edits s.app s.world store)
  | saveToNvm => exact .inr .refl
  | loadFromNvm => exact .inr (udsDtcAppLoadFromNvm_edits s.app s.world)
  | init => exact .inl rfl

end UdsIsoTp.App
