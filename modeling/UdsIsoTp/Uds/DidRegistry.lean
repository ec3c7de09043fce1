import UdsIsoTp.Lib.Buffer
import UdsIsoTp.Lib.Run

/-!
# The registry of project identifiers

`uds_did.c`: thirteen identifiers whose values the application keeps, each open to some sessions
from some security level on. The registry holds where the values are and not the values, so a read
shows what the application has there at the time.

`registry_confines`: over any run of calls a tester learns nothing of the values that none of its
reads has the rights for, and its writes change none.
-/

namespace UdsIsoTp.Uds

/-- What a lookup, a read or a write says. -/
inductive UdsDidResult where
  | ok
  | notFound
  | notReadable
  | notWritable
  | sessionDenied
  | securityDenied
  | responseTooLong
  | invalidWrite
  | argumentError
  deriving DecidableEq, Repr

/-- A value of the application: a pointer, which may be null, and a length. -/
structure UdsDidValue where
  data : Option Buf
  length : UInt16

/-- The fields of `UdsProjectDidSource`. -/
inductive ProjectDid where
  | softwareVersion
  | hardwareVersion
  | bootloaderVersion
  | serialNumber
  | deviceIdentity
  | controllerId
  | canBitrate
  | diagnosticStatus
  | firmwareStatus
  | resetCause
  | watchdogStatus
  | canErrorCounters
  | networkErrorState
  deriving DecidableEq, Repr

/-- The value of every field of the project. -/
abbrev UdsProjectDidSource := ProjectDid → UdsDidValue

/-- What the caller passes for the answer: a pointer that is null is `none`. -/
structure DidOut where
  data : Option Buf
  length : Option UInt16

/-- `ω` is what the callbacks work on, `κ` what their contexts point to in it. -/
structure UdsDidEntry (ω κ : Type) where
  did : UInt16
  readAllowed : Bool
  writeAllowed : Bool
  maximumLength : UInt16
  sessionMask : UInt8
  minimumSecurityLevel : UInt8
  read : Option (ω → Option κ → UInt16 → DidOut → UInt16 → UdsDidResult × DidOut)
  write : Option (ω → Option κ → UInt16 → List UInt8 → UdsDidResult × ω)
  context : Option κ
  contextRo : Option κ

/-- The table, in the order it is searched. -/
abbrev UdsDidRegistry (ω κ : Type) := List (UdsDidEntry ω κ)

/-! ## The registry of the project -/

/-- `UDS_DID_SESSION_DEFAULT_MASK` -/
def didSessionDefaultMask : UInt8 := 1
/-- `UDS_DID_SESSION_PROGRAMMING_MASK` -/
def didSessionProgrammingMask : UInt8 := 2
/-- `UDS_DID_SESSION_EXTENDED_MASK` -/
def didSessionExtendedMask : UInt8 := 4
/-- `UDS_DID_SESSION_ALL_MASK` -/
def didSessionAllMask : UInt8 :=
  didSessionDefaultMask ||| didSessionProgrammingMask ||| didSessionExtendedMask

/-- `read_value`, the one callback of the project: copies a field out when it has room. -/
def readValue (source : UdsProjectDidSource) (context : Option ProjectDid) (_did : UInt16)
    (out : DidOut) (capacity : UInt16) : UdsDidResult × DidOut :=
  match context, out.data, out.length with
  | some field, some data, some _ =>
    let value := source field
    if capacity < value.length then (.responseTooLong, out)
    else if value.length = 0 then (.ok, ⟨some data, some value.length⟩)
    else
      match value.data with
      | none => (.argumentError, out)
      | some bytes =>
        (.ok, ⟨some (data.copy 0 bytes 0 value.length.toNat), some value.length⟩)
  | _, _, _ => (.argumentError, out)

/-- `set_entry`: an entry that is read only. -/
def setEntry (did : UInt16) (value : ProjectDid) (maximumLength : UInt16)
    (sessionMask minimumSecurityLevel : UInt8) : UdsDidEntry UdsProjectDidSource ProjectDid where
  did := did
  readAllowed := true
  writeAllowed := false
  maximumLength := maximumLength
  sessionMask := sessionMask
  minimumSecurityLevel := minimumSecurityLevel
  read := some readValue
  write := none
  context := none
  contextRo := some value

/-- The table of the project. -/
def udsDidRegistryInit : UdsDidRegistry UdsProjectDidSource ProjectDid :=
  [setEntry 0xF180 .softwareVersion 64 didSessionAllMask 0,
    setEntry 0xF191 .hardwareVersion 64 didSessionAllMask 0,
    setEntry 0xF181 .bootloaderVersion 64 didSessionAllMask 0,
    setEntry 0xF18C .serialNumber 32 didSessionAllMask 1,
    setEntry 0xF18A .deviceIdentity 64 didSessionAllMask 0,
    setEntry 0xF1A0 .controllerId 1 didSessionAllMask 0,
    setEntry 0xF1A1 .canBitrate 4 didSessionAllMask 0,
    setEntry 0xF1B0 .diagnosticStatus 64 didSessionAllMask 0,
    setEntry 0xF1B1 .firmwareStatus 64 didSessionAllMask 0,
    setEntry 0xF1B2 .resetCause 4 didSessionAllMask 0,
    setEntry 0xF1B3 .watchdogStatus 64 didSessionAllMask 1,
    setEntry 0xF1B4 .canErrorCounters 32 didSessionAllMask 0,
    setEntry 0xF1B5 .networkErrorState 4 didSessionAllMask 0]

/-! ## Access -/

section Access

variable {ω κ : Type}

/-- The first entry with the identifier. -/
def udsDidRegistryFind (registry : UdsDidRegistry ω κ) (did : UInt16) :
    Option (UdsDidEntry ω κ) :=
  registry.find? fun entry => entry.did == did

/-- `session_allowed`: a session that has no mask of its own is allowed nothing. -/
def sessionAllowed (entry : UdsDidEntry ω κ) (session : UInt8) : Bool :=
  let mask :=
    if session = 0x01 then didSessionDefaultMask
    else if session = 0x02 then didSessionProgrammingMask
    else if session = 0x03 then didSessionExtendedMask
    else 0
  decide (mask ≠ 0 ∧ entry.sessionMask &&& mask ≠ 0)

/-- The checks that a read and a write of the entry have in common. -/
def entryDenial (entry : UdsDidEntry ω κ) (session securityLevel : UInt8) : Option UdsDidResult :=
  if ¬sessionAllowed entry session then some .sessionDenied
  else if securityLevel < entry.minimumSecurityLevel then some .securityDenied
  else none

/-- Calls the entry's read callback, when the flags, the session and the level let it. -/
def udsDidRegistryRead (w : ω) (registry : UdsDidRegistry ω κ) (did : UInt16)
    (session securityLevel : UInt8) (out : DidOut) (capacity : UInt16) : UdsDidResult × DidOut :=
  match udsDidRegistryFind registry did with
  | none => (.notFound, out)
  | some entry =>
    match entry.read with
    | none => (.notReadable, out)
    | some read =>
      if ¬entry.readAllowed then (.notReadable, out)
      else
        match entryDenial entry session securityLevel with
        | some denial => (denial, out)
        | none =>
          let (result, out) := read w (entry.contextRo.or entry.context) did out capacity
          if result = .ok ∧ ∃ n ∈ out.length, entry.maximumLength < n then (.responseTooLong, out)
          else (result, out)

/-- Calls the entry's write callback, when the flags, the session and the level let it. -/
def udsDidRegistryWrite (w : ω) (registry : UdsDidRegistry ω κ) (did : UInt16)
    (session securityLevel : UInt8) (data : List UInt8) : UdsDidResult × ω :=
  match udsDidRegistryFind registry did with
  | none => (.notFound, w)
  | some entry =>
    match entry.write with
    | none => (.notWritable, w)
    | some write =>
      if ¬entry.writeAllowed then (.notWritable, w)
      else
        match entryDenial entry session securityLevel with
        | some denial => (denial, w)
        | none =>
          if entry.maximumLength.toNat < data.length then (.invalidWrite, w)
          else write w entry.context did data

end Access

/-! ## Runs -/

/-- The application changes a value, or a tester makes a call. -/
inductive RegistryCall where
  | set (field : ProjectDid) (value : UdsDidValue)
  | read (did : UInt16) (session securityLevel : UInt8) (out : DidOut) (capacity : UInt16)
  | write (did : UInt16) (session securityLevel : UInt8) (data : List UInt8)

/-- One call, with what it leaves in the fields. -/
def registryStep (source : UdsProjectDidSource) : RegistryCall → UdsProjectDidSource
  | .set field value => Function.update source field value
  | .read _ _ _ _ _ => source
  | .write did session securityLevel data =>
    (udsDidRegistryWrite source udsDidRegistryInit did session securityLevel data).2

/-- What the tester is told, and what its variables hold after a read. -/
def registryTells (source : UdsProjectDidSource) :
    RegistryCall → Option (UdsDidResult × Option DidOut)
  | .set _ _ => none
  | .read did session securityLevel out capacity =>
    let (result, out) :=
      udsDidRegistryRead source udsDidRegistryInit did session securityLevel out capacity
    some (result, some out)
  | .write did session securityLevel data =>
    some ((udsDidRegistryWrite source udsDidRegistryInit did session securityLevel data).1, none)

/-- The call reads this value and has the rights for it. -/
def RegistryCall.Shows (field : ProjectDid) : RegistryCall → Prop
  | .read did session securityLevel _ _ =>
    ∃ entry, udsDidRegistryFind udsDidRegistryInit did = some entry ∧
      entry.contextRo = some field ∧ entryDenial entry session securityLevel = none
  | _ => False

/-- The application changes a value. -/
def RegistryCall.sets : RegistryCall → Bool
  | .set _ _ => true
  | _ => false

/-- An entry of the project shows a value and takes none. -/
structure UdsDidEntry.Shown (entry : UdsDidEntry UdsProjectDidSource ProjectDid) : Prop where
  read : entry.read = some readValue
  write : entry.write = none
  value : ∃ field, entry.contextRo = some field

theorem setEntry_shown (did : UInt16) (value : ProjectDid) (maximumLength : UInt16)
    (sessionMask minimumSecurityLevel : UInt8) :
    (setEntry did value maximumLength sessionMask minimumSecurityLevel).Shown :=
  ⟨rfl, rfl, value, rfl⟩

theorem find_shown {did : UInt16} {entry : UdsDidEntry UdsProjectDidSource ProjectDid}
    (h : udsDidRegistryFind udsDidRegistryInit did = some entry) : entry.Shown := by
  have hall : ∀ entry ∈ udsDidRegistryInit, entry.Shown := by
    unfold udsDidRegistryInit
    simp only [List.forall_mem_cons, setEntry_shown, true_and]
    exact fun entry hmem => absurd hmem List.not_mem_nil
  exact hall entry (List.mem_of_find?_eq_some h)

section Confined

variable {source source' : UdsProjectDidSource}

/-- Only the value that the context points to is looked at. -/
theorem readValue_congr {field : ProjectDid} (h : source field = source' field) (did : UInt16)
    (out : DidOut) (capacity : UInt16) :
    readValue source (some field) did out capacity
      = readValue source' (some field) did out capacity := by
  obtain ⟨data, length⟩ := out
  cases data with
  | none => rfl
  | some data =>
    cases length with
    | none => rfl
    | some n =>
      unfold readValue
      dsimp only
      rw [h]

theorem udsDidRegistryRead_congr {did : UInt16} {session securityLevel : UInt8} {out : DidOut}
    {capacity : UInt16} (h : ∀ field, (RegistryCall.read did session securityLevel out
      capacity).Shows field → source field = source' field) :
    udsDidRegistryRead source udsDidRegistryInit did session securityLevel out capacity
      = udsDidRegistryRead source' udsDidRegistryInit did session securityLevel out capacity := by
  unfold udsDidRegistryRead
  cases hfound : udsDidRegistryFind udsDidRegistryInit did with
  | none => rfl
  | some entry =>
    obtain ⟨hread, -, field, hvalue⟩ := find_shown hfound
    dsimp only
    rw [hread, hvalue]
    dsimp only
    split
    next => rfl
    next =>
      cases hdenial : entryDenial entry session securityLevel with
      | some denial => rfl
      | none =>
        dsimp only
        rw [Option.some_or, readValue_congr (h field ⟨entry, hfound, hvalue, hdenial⟩)]

/-- Nothing of the project can be written. -/
theorem udsDidRegistryWrite_denied (did : UInt16) (session securityLevel : UInt8)
    (data : List UInt8) :
    ∃ result, result ≠ .ok ∧ ∀ source : UdsProjectDidSource,
      udsDidRegistryWrite source udsDidRegistryInit did session securityLevel data
        = (result, source) := by
  unfold udsDidRegistryWrite
  cases hfound : udsDidRegistryFind udsDidRegistryInit did with
  | none => exact ⟨.notFound, nofun, fun _ => rfl⟩
  | some entry =>
    refine ⟨.notWritable, nofun, fun _ => ?_⟩
    dsimp only
    rw [(find_shown hfound).write]

/-- Only the application changes the values. -/
theorem registryStep_kept {call : RegistryCall} (h : call.sets = false) :
    registryStep source call = source := by
  cases call with
  | set field value => exact absurd h (by simp [RegistryCall.sets])
  | read did session securityLevel out capacity => rfl
  | write did session securityLevel data =>
    obtain ⟨result, -, hdenied⟩ := udsDidRegistryWrite_denied did session securityLevel data
    unfold registryStep
    dsimp only
    rw [hdenied]

theorem registryRun_kept (calls : List RegistryCall) :
    run registryStep source calls
      = run registryStep source (calls.filter RegistryCall.sets) := by
  induction calls generalizing source with
  | nil => rfl
  | cons call calls ih =>
    rw [run_cons, ih]
    cases hsets : call.sets with
    | true => rw [List.filter_cons_of_pos hsets, run_cons]
    | false => rw [List.filter_cons_of_neg (by simp [hsets]), registryStep_kept hsets]

theorem registryTells_congr {call : RegistryCall}
    (h : ∀ field, call.Shows field → source field = source' field) :
    registryTells source call = registryTells source' call := by
  cases call with
  | set field value => rfl
  | read did session securityLevel out capacity =>
    unfold registryTells
    dsimp only
    rw [udsDidRegistryRead_congr h]
  | write did session securityLevel data =>
    obtain ⟨result, -, hdenied⟩ := udsDidRegistryWrite_denied did session securityLevel data
    unfold registryTells
    dsimp only
    rw [hdenied, hdenied]

/-- Values that agree go on agreeing. -/
theorem registryStep_agree {field : ProjectDid} (h : source field = source' field)
    (call : RegistryCall) : registryStep source call field = registryStep source' call field := by
  cases call with
  | set changed value =>
    unfold registryStep
    dsimp only
    rw [Function.update_apply, Function.update_apply, h]
  | read did session securityLevel out capacity => exact h
  | write did session securityLevel data =>
    rw [registryStep_kept rfl, registryStep_kept rfl]
    exact h

theorem registryRun_observed (calls : List RegistryCall)
    (h : ∀ field, (∃ call ∈ calls, call.Shows field) → source field = source' field) :
    observed registryStep registryTells source calls
      = observed registryStep registryTells source' calls := by
  induction calls generalizing source source' with
  | nil => rfl
  | cons call calls ih =>
    have hcall : ∀ field, call.Shows field → source field = source' field :=
      fun field hshows => h field ⟨call, List.mem_cons_self, hshows⟩
    have hrest := ih fun field hshown => by
      obtain ⟨later, hmem, hshows⟩ := hshown
      exact registryStep_agree (h field ⟨later, List.mem_cons_of_mem _ hmem, hshows⟩) call
    unfold observed
    rw [registryTells_congr hcall, hrest]

/-- **The registry confines.** Two applications whose values agree wherever some read of the run has
the rights are told apart by nothing in it. The values after it are those that the application has
made of them alone, and no write is told anything but a refusal. -/
theorem registry_confines (source source' : UdsProjectDidSource) (calls : List RegistryCall) :
    ((∀ field, (∃ call ∈ calls, call.Shows field) → source field = source' field) →
        observed registryStep registryTells source calls
          = observed registryStep registryTells source' calls) ∧
      run registryStep source calls
        = run registryStep source (calls.filter RegistryCall.sets) ∧
      ∀ did session securityLevel data result,
        registryTells source (.write did session securityLevel data) = some (result, none) →
          result ≠ .ok := by
  refine ⟨registryRun_observed calls, registryRun_kept calls, ?_⟩
  rintro did session securityLevel data result htold
  obtain ⟨denial, hne, hdenied⟩ := udsDidRegistryWrite_denied did session securityLevel data
  unfold registryTells at htold
  dsimp only at htold
  rw [hdenied] at htold
  obtain rfl : denial = result := congrArg Prod.fst (Option.some.inj htold)
  exact hne

end Confined

/-- Without a security level two of the values are not shown. -/
theorem not_shows_locked {field : ProjectDid}
    (h : field = .serialNumber ∨ field = .watchdogStatus) (did : UInt16) (session : UInt8)
    (out : DidOut) (capacity : UInt16) :
    ¬(RegistryCall.read did session 0 out capacity).Shows field := by
  rintro ⟨entry, hfound, hvalue, hgranted⟩
  have hall : ∀ entry ∈ udsDidRegistryInit, entry.contextRo = some field →
      0 < entry.minimumSecurityLevel := by
    rcases h with rfl | rfl <;> unfold udsDidRegistryInit <;> decide
  have hlevel := hall entry (List.mem_of_find?_eq_some hfound) hvalue
  unfold entryDenial at hgranted
  rw [if_pos hlevel] at hgranted
  split at hgranted
  next => cases hgranted
  next => cases hgranted

/-- One serial number or another. -/
def serialSource (serial : UInt8) : UdsProjectDidSource := fun field =>
  if field = .serialNumber then ⟨some (Buf.ofList [serial]), 1⟩ else ⟨none, 0⟩

/-- Two reads around a new value of a field; the first of them needs an unlocked server. -/
def lockedReads : List RegistryCall :=
  [.read 0xF18C 0x03 0 ⟨some fun _ => 0, some 0⟩ 64,
    .set .controllerId ⟨some (Buf.ofList [7]), 1⟩, .read 0xF1A0 0x01 0 ⟨some fun _ => 0, some 0⟩ 64]

theorem registry_confines_serial :
    observed registryStep registryTells (serialSource 1) lockedReads
      = observed registryStep registryTells (serialSource 2) lockedReads := by
  refine (registry_confines (serialSource 1) (serialSource 2) lockedReads).1 fun field hshown => ?_
  by_cases hfield : field = .serialNumber
  · obtain ⟨call, hmem, hshows⟩ := hshown
    simp only [lockedReads, List.mem_cons, List.not_mem_nil, or_false] at hmem
    rcases hmem with rfl | rfl | rfl
    · exact absurd hshows (not_shows_locked (.inl hfield) _ _ _ _)
    · exact hshows.elim
    · exact absurd hshows (not_shows_locked (.inl hfield) _ _ _ _)
  · unfold serialSource
    rw [if_neg hfield, if_neg hfield]

end UdsIsoTp.Uds
