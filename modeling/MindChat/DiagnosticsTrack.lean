import MindChat.Coordinator
import MindChat.Persistence
import MindChat.Transition

/-! What the save and load calls of a handle record for the diagnostics report,
and their runs with everything else that happens to the session and the files. -/

namespace MindChat

open Json

inductive MindChatBindingError
  | invalidInput (detail : String)
  | notFound (detail : String)
  | capabilityUnavailable (capability : ProtocolCapability)
  | authenticationFailed
  | connectionFailed (detail : String)
  | internal (detail : String)
  deriving DecidableEq

def IoError.display : IoError → String
  | .notFound => "No such file or directory (os error 2)"
  | .other detail => detail

def MindChatBindingError.ofPersistenceError : PersistenceError → MindChatBindingError
  | .io error => .internal ("state persistence I/O error: " ++ error.display)
  | .corrupt detail => .internal ("corrupt state file: " ++ detail)
  | .unsupportedVersion version => .internal ("unsupported state schema version " ++ toString version)
  | .tooLarge bytes => .internal ("state file too large: " ++ toString bytes ++ " bytes")
  | .notEncrypted => .internal "state file is not an encrypted state file"
  | .decryption => .internal "state file decryption failed (wrong key or corrupt file)"
  | .encryption detail => .internal ("state encryption failed: " ++ detail)

/-- Persistence metadata of the diagnostics report. -/
structure PersistenceTrack where
  path : Option String
  sizeBytes : Option ℕ
  schemaVersion : Option ℕ
  quarantined : Bool
  lastSavedAtEpochMs : Option ℕ
  lastLoadedAtEpochMs : Option ℕ
  encrypted : Option Bool
  deriving DecidableEq

namespace PersistenceTrack

def default : PersistenceTrack := ⟨none,none,none,false,none,none,none⟩

variable (t : PersistenceTrack) (path : String) (sizeBytes : Option ℕ) (now : ℕ)

def recordSave : PersistenceTrack :=
  { t with path := some path, sizeBytes := sizeBytes, schemaVersion := some currentSchemaVersion,
           lastSavedAtEpochMs := some now }

def recordSaveSecured : PersistenceTrack :=
  { t with path := some path, sizeBytes := sizeBytes, schemaVersion := some currentSchemaVersion,
           lastSavedAtEpochMs := some now, encrypted := some true }

def recordLoadSecured (metadata : StateFileMetadata) (encrypted : Bool) : PersistenceTrack :=
  { t with path := some path, sizeBytes := some metadata.sizeBytes,
           schemaVersion := some metadata.schemaVersion, lastLoadedAtEpochMs := some now,
           encrypted := some encrypted }

def recordLoadSuccess (metadata : StateFileMetadata) : PersistenceTrack :=
  { t with path := some path, sizeBytes := some metadata.sizeBytes,
           schemaVersion := some metadata.schemaVersion, lastLoadedAtEpochMs := some now }

def recordLoadMissing : PersistenceTrack :=
  { t with path := some path, lastLoadedAtEpochMs := some now }

def recordLoadFailure (error : PersistenceError) : PersistenceTrack :=
  { t with path := some path, sizeBytes := sizeBytes,
           schemaVersion := match error with
             | .unsupportedVersion version => some version
             | _ => t.schemaVersion,
           quarantined := true, lastLoadedAtEpochMs := some now }

end PersistenceTrack

/-- What a call finds outside the handle: the files, the process and its system
calls, the random generator, the clock, and whether a recorder's own `metadata` fails. -/
structure Device where
  disk : Disk
  process : Process
  rng : Option Nonce
  nowEpochMs : ℕ
  metadataFails : Bool

/-- `std::fs::metadata(path).ok().map(|metadata| metadata.len())`. -/
def Device.observedLen (device : Device) (disk : Disk) (path : String) : Option ℕ :=
  if device.metadataFails then none else (disk.lookup path).map List.length

/-- The session is behind a lock, which a panic poisons. -/
structure MindChatCoreHandle (T : Type) where
  session : Option (TransportCoordinator T)
  persistence : PersistenceTrack

inductive FfiPersistenceOutcome
  | missing | plaintextLegacy | encrypted
  deriving DecidableEq

structure LoadSecuredResult where
  outcome : FfiPersistenceOutcome
  loaded : Bool
  deriving DecidableEq

structure FfiDiagnosticsReport where
  accountCount : ℕ
  contactCount : ℕ
  conversationCount : ℕ
  messageCount : ℕ
  reactionCount : ℕ
  statePath : Option String
  stateSizeBytes : Option ℕ
  stateSchemaVersion : Option ℕ
  stateQuarantined : Bool
  stateLastSavedAtEpochMs : Option ℕ
  stateLastLoadedAtEpochMs : Option ℕ
  deriving DecidableEq

namespace MindChatCoreHandle

variable {T : Type}

def new (transport : T) : MindChatCoreHandle T := ⟨some ⟨.default,transport⟩,.default⟩

def poisoned : MindChatBindingError := .internal "MindChat core lock was poisoned"

def validatedStateKey (key : Bytes) : Except MindChatBindingError Key :=
  if h : key.length = 32 then .ok ⟨key,h⟩ else .error (.internal "state key must be 32 bytes")

section Calls

variable (codec : Codec) (backend : CryptoBackend) (connectedAccounts : T → List AccountId)
  (device : Device) (path : String) (handle : MindChatCoreHandle T)

/-- Loading is refused once the core has accounts or the transport connections. -/
def loadRefusal (session : TransportCoordinator T) : Option MindChatBindingError :=
  if session.core.accounts.values.isEmpty = false then
    some (.internal "core already contains accounts; load_state must run before any mutation")
  else if (connectedAccounts session.transport).isEmpty = false then
    some (.internal
      "transport already has connected accounts; load_state must run before any connection")
  else none

def saveState : Except MindChatBindingError Unit × Disk × MindChatCoreHandle T :=
  match handle.session with
  | none => (.error poisoned,device.disk,handle)
  | some session =>
    match MindChat.saveState codec device.process session.core.snapshot path device.disk with
    | (.error e,disk) => (.error (.ofPersistenceError e),disk,handle)
    | (.ok (),disk) =>
      (.ok (),disk,{ handle with persistence :=
        handle.persistence.recordSave path (device.observedLen disk path) device.nowEpochMs })

def loadState : Except MindChatBindingError Bool × MindChatCoreHandle T :=
  match handle.session with
  | none => (.error poisoned,handle)
  | some session =>
    match loadRefusal connectedAccounts session with
    | some e => (.error e,handle)
    | none =>
      match loadStateWithMetadata codec device.process.faults path device.disk with
      | .ok (some (snapshot,metadata)) =>
        (.ok true,⟨some { session with core := .fromSnapshot snapshot },
          handle.persistence.recordLoadSuccess path device.nowEpochMs metadata⟩)
      | .ok none =>
        (.ok false,{ handle with persistence :=
          handle.persistence.recordLoadMissing path device.nowEpochMs })
      | .error e =>
        (.error (.ofPersistenceError e),{ handle with
          persistence := handle.persistence.recordLoadFailure path
            (device.observedLen device.disk path) device.nowEpochMs e })

def saveStateSecured (key : Bytes) : Except MindChatBindingError Unit × Disk × MindChatCoreHandle T :=
  match validatedStateKey key with
  | .error e => (.error e,device.disk,handle)
  | .ok key =>
    match handle.session with
    | none => (.error poisoned,device.disk,handle)
    | some session =>
      match saveStateEncrypted codec backend device.process device.rng session.core.snapshot path key
        device.disk with
      | (.error e,disk) => (.error (.ofPersistenceError e),disk,handle)
      | (.ok _,disk) =>
        (.ok (),disk,{ handle with persistence :=
          handle.persistence.recordSaveSecured path (device.observedLen disk path) device.nowEpochMs })

def loadStateSecured (key : Bytes) :
    Except MindChatBindingError LoadSecuredResult × MindChatCoreHandle T :=
  match validatedStateKey key with
  | .error e => (.error e,handle)
  | .ok key =>
    match handle.session with
    | none => (.error poisoned,handle)
    | some session =>
      match loadRefusal connectedAccounts session with
      | some e => (.error e,handle)
      | none =>
        match loadStateEncrypted codec backend device.process.faults path key device.disk with
        | .ok (.encrypted snapshot metadata) =>
          (.ok ⟨.encrypted,true⟩,⟨some { session with core := .fromSnapshot snapshot },
            handle.persistence.recordLoadSecured path device.nowEpochMs metadata true⟩)
        | .ok (.plaintextLegacy snapshot metadata) =>
          (.ok ⟨.plaintextLegacy,true⟩,⟨some { session with core := .fromSnapshot snapshot },
            handle.persistence.recordLoadSecured path device.nowEpochMs metadata false⟩)
        | .ok .missing =>
          (.ok ⟨.missing,false⟩,{ handle with persistence :=
            handle.persistence.recordLoadMissing path device.nowEpochMs })
        | .error e =>
          (.error (.ofPersistenceError e),{ handle with
            persistence := handle.persistence.recordLoadFailure path
              (device.observedLen device.disk path) device.nowEpochMs e })

/-- A poisoned session counts as an empty one. -/
def diagnosticsReport : FfiDiagnosticsReport :=
  let snapshot := match handle.session with
    | some session => session.core.snapshot
    | none => MindChatCore.default.snapshot
  { accountCount := min snapshot.accounts.length u64Max,
    contactCount := min snapshot.contacts.length u64Max,
    conversationCount := min snapshot.conversations.length u64Max,
    messageCount := min snapshot.messages.length u64Max,
    reactionCount := min snapshot.reactions.length u64Max,
    statePath := handle.persistence.path,
    stateSizeBytes := handle.persistence.sizeBytes,
    stateSchemaVersion := handle.persistence.schemaVersion,
    stateQuarantined := handle.persistence.quarantined,
    stateLastSavedAtEpochMs := handle.persistence.lastSavedAtEpochMs,
    stateLastLoadedAtEpochMs := handle.persistence.lastLoadedAtEpochMs }

end Calls

end MindChatCoreHandle

inductive PersistenceOperation
  | saveState
  | loadState
  | saveStateSecured (key : Bytes)
  | loadStateSecured (key : Bytes)

/-- A call, with the session and the device as it finds them: in between, other calls
and other processes do with them what they like. -/
structure PersistenceCall (T : Type) where
  operation : PersistenceOperation
  path : String
  session : Option (TransportCoordinator T)
  device : Device

/-- What a call came to. A refused call did not touch the file. -/
inductive CallOutcome
  | refused
  | saveFailed
  | saved (secured : Bool)
  | missing (secured : Bool)
  | loadFailed
  | loaded
  | loadedSecured (encrypted : Bool)
  deriving DecidableEq

namespace PersistenceCall

variable {T : Type}

section Outcome

variable (codec : Codec) (backend : CryptoBackend) (connectedAccounts : T → List AccountId)
  (call : PersistenceCall T)

/-- Whether the call returns `Ok`, and the handle after it. -/
def execute (handle : MindChatCoreHandle T) : Bool × MindChatCoreHandle T :=
  let handle := { handle with session := call.session }
  match call.operation with
  | .saveState =>
    let r := handle.saveState codec call.device call.path
    (r.1.isOk,r.2.2)
  | .loadState =>
    let r := handle.loadState codec connectedAccounts call.device call.path
    (r.1.isOk,r.2)
  | .saveStateSecured key =>
    let r := handle.saveStateSecured codec backend call.device call.path key
    (r.1.isOk,r.2.2)
  | .loadStateSecured key =>
    let r := handle.loadStateSecured codec backend connectedAccounts call.device call.path key
    (r.1.isOk,r.2)

/-- What the call comes to, by the session, the key and the file alone. -/
def outcome : CallOutcome :=
  match call.session with
  | none => .refused
  | some session =>
    match call.operation with
    | .saveState =>
      match (MindChat.saveState codec call.device.process session.core.snapshot call.path
        call.device.disk).1 with
      | .error _ => .saveFailed
      | .ok _ => .saved false
    | .loadState =>
      if (MindChatCoreHandle.loadRefusal connectedAccounts session).isSome then .refused
      else match loadStateWithMetadata codec call.device.process.faults call.path call.device.disk with
        | .error _ => .loadFailed
        | .ok none => .missing false
        | .ok (some _) => .loaded
    | .saveStateSecured key =>
      if h : key.length = 32 then
        match (saveStateEncrypted codec backend call.device.process call.device.rng
          session.core.snapshot call.path ⟨key,h⟩ call.device.disk).1 with
        | .error _ => .saveFailed
        | .ok _ => .saved true
      else .refused
    | .loadStateSecured key =>
      if h : key.length = 32 then
        if (MindChatCoreHandle.loadRefusal connectedAccounts session).isSome then .refused
        else match loadStateEncrypted codec backend call.device.process.faults call.path ⟨key,h⟩
          call.device.disk with
          | .error _ => .loadFailed
          | .ok .missing => .missing true
          | .ok (.plaintextLegacy _ _) => .loadedSecured false
          | .ok (.encrypted _ _) => .loadedSecured true
      else .refused

end Outcome

end PersistenceCall

namespace CallOutcome

def succeeds : CallOutcome → Bool
  | .refused | .saveFailed | .loadFailed => false
  | _ => true

def quarantines (outcome : CallOutcome) (quarantined : Bool) : Bool :=
  quarantined || decide (outcome = .loadFailed)

def encrypts (encrypted : Option Bool) : CallOutcome → Option Bool
  | .saved true => some true
  | .loadedSecured status => some status
  | _ => encrypted

end CallOutcome

section Recorded

variable {T : Type} {codec : Codec} {backend : CryptoBackend} {connectedAccounts : T → List AccountId}
  {path : String} {session : Option (TransportCoordinator T)} {device : Device}

structure CallOutcome.Describes (outcome : CallOutcome) (before : PersistenceTrack)
    (r : Bool × MindChatCoreHandle T) : Prop where
  ok : r.1 = outcome.succeeds
  quarantined : r.2.persistence.quarantined = outcome.quarantines before.quarantined
  encrypted : r.2.persistence.encrypted = outcome.encrypts before.encrypted

theorem CallOutcome.describes_unrecorded {outcome : CallOutcome} {before : PersistenceTrack}
    {r : Bool × MindChatCoreHandle T} (ho : outcome = .refused ∨ outcome = .saveFailed)
    (hr : r.1 = false) (hp : r.2.persistence = before) : outcome.Describes before r := by
  rcases ho with rfl | rfl
  · exact ⟨hr,by simp [hp,quarantines],by simp [hp,encrypts]⟩
  · exact ⟨hr,by simp [hp,quarantines],by simp [hp,encrypts]⟩

theorem describes_saveState (handle : MindChatCoreHandle T) :
    ((PersistenceCall.mk .saveState path session device).outcome codec backend connectedAccounts).Describes
      handle.persistence
      ((PersistenceCall.mk .saveState path session device).execute codec backend connectedAccounts
        handle) := by
  cases session with
  | none => exact CallOutcome.describes_unrecorded (.inl rfl) rfl rfl
  | some session =>
    simp only [PersistenceCall.outcome,PersistenceCall.execute,MindChatCoreHandle.saveState]
    cases saveState codec device.process session.core.snapshot path device.disk with
    | mk result disk =>
      cases result with
      | error e => exact CallOutcome.describes_unrecorded (.inr rfl) rfl rfl
      | ok u => exact ⟨rfl,by simp [CallOutcome.quarantines,PersistenceTrack.recordSave],rfl⟩

theorem describes_saveStateSecured (key : Bytes) (handle : MindChatCoreHandle T) :
    ((PersistenceCall.mk (.saveStateSecured key) path session device).outcome codec backend
        connectedAccounts).Describes handle.persistence
      ((PersistenceCall.mk (.saveStateSecured key) path session device).execute codec backend
        connectedAccounts handle) := by
  cases session with
  | none =>
    simp only [PersistenceCall.outcome,PersistenceCall.execute,MindChatCoreHandle.saveStateSecured]
    cases MindChatCoreHandle.validatedStateKey key <;> exact CallOutcome.describes_unrecorded (.inl rfl) rfl rfl
  | some session =>
    simp only [PersistenceCall.outcome,PersistenceCall.execute,MindChatCoreHandle.saveStateSecured,
      MindChatCoreHandle.validatedStateKey]
    by_cases hk : key.length = 32
    · simp only [dif_pos hk]
      cases saveStateEncrypted codec backend device.process device.rng session.core.snapshot path
        ⟨key,hk⟩ device.disk with
      | mk result disk =>
        cases result with
        | error e => exact CallOutcome.describes_unrecorded (.inr rfl) rfl rfl
        | ok u => exact ⟨rfl,by simp [CallOutcome.quarantines,PersistenceTrack.recordSaveSecured],rfl⟩
    · simp only [dif_neg hk]
      exact CallOutcome.describes_unrecorded (.inl rfl) rfl rfl

theorem describes_loadState (handle : MindChatCoreHandle T) :
    ((PersistenceCall.mk .loadState path session device).outcome codec backend connectedAccounts).Describes
      handle.persistence
      ((PersistenceCall.mk .loadState path session device).execute codec backend connectedAccounts
        handle) := by
  cases session with
  | none => exact CallOutcome.describes_unrecorded (.inl rfl) rfl rfl
  | some session =>
    simp only [PersistenceCall.outcome,PersistenceCall.execute,MindChatCoreHandle.loadState]
    cases MindChatCoreHandle.loadRefusal connectedAccounts session with
    | some e => exact CallOutcome.describes_unrecorded (.inl rfl) rfl rfl
    | none =>
      cases loadStateWithMetadata codec device.process.faults path device.disk with
      | error e =>
        exact ⟨rfl,by simp [CallOutcome.quarantines,PersistenceTrack.recordLoadFailure],rfl⟩
      | ok found =>
        cases found with
        | none => exact ⟨rfl,by simp [CallOutcome.quarantines,PersistenceTrack.recordLoadMissing],rfl⟩
        | some state => exact ⟨rfl,by simp [CallOutcome.quarantines,PersistenceTrack.recordLoadSuccess],rfl⟩

theorem describes_loadStateSecured (key : Bytes) (handle : MindChatCoreHandle T) :
    ((PersistenceCall.mk (.loadStateSecured key) path session device).outcome codec backend
        connectedAccounts).Describes handle.persistence
      ((PersistenceCall.mk (.loadStateSecured key) path session device).execute codec backend
        connectedAccounts handle) := by
  cases session with
  | none =>
    simp only [PersistenceCall.outcome,PersistenceCall.execute,MindChatCoreHandle.loadStateSecured]
    cases MindChatCoreHandle.validatedStateKey key <;> exact CallOutcome.describes_unrecorded (.inl rfl) rfl rfl
  | some session =>
    simp only [PersistenceCall.outcome,PersistenceCall.execute,MindChatCoreHandle.loadStateSecured,
      MindChatCoreHandle.validatedStateKey]
    by_cases hk : key.length = 32
    · simp only [dif_pos hk]
      cases MindChatCoreHandle.loadRefusal connectedAccounts session with
      | some e => exact CallOutcome.describes_unrecorded (.inl rfl) rfl rfl
      | none =>
        cases loadStateEncrypted codec backend device.process.faults path ⟨key,hk⟩ device.disk with
        | error e =>
          exact ⟨rfl,by simp [CallOutcome.quarantines,PersistenceTrack.recordLoadFailure],rfl⟩
        | ok found =>
          cases found with
          | missing => exact ⟨rfl,by simp [CallOutcome.quarantines,PersistenceTrack.recordLoadMissing],rfl⟩
          | plaintextLegacy snapshot metadata =>
            exact ⟨rfl,by simp [CallOutcome.quarantines,PersistenceTrack.recordLoadSecured],rfl⟩
          | encrypted snapshot metadata =>
            exact ⟨rfl,by simp [CallOutcome.quarantines,PersistenceTrack.recordLoadSecured],rfl⟩
    · simp only [dif_neg hk]
      exact CallOutcome.describes_unrecorded (.inl rfl) rfl rfl

variable (codec backend connectedAccounts) in
/-- The flag is only ever raised, and the status set by secured calls only. -/
theorem describes_execute (call : PersistenceCall T) (handle : MindChatCoreHandle T) :
    (call.outcome codec backend connectedAccounts).Describes handle.persistence
      (call.execute codec backend connectedAccounts handle) := by
  obtain ⟨operation,path,session,device⟩ := call
  cases operation with
  | saveState => exact describes_saveState handle
  | loadState => exact describes_loadState handle
  | saveStateSecured key => exact describes_saveStateSecured key handle
  | loadStateSecured key => exact describes_loadStateSecured key handle

end Recorded

namespace CallOutcome

/-- Whether a load that reached the file failed. A load that finds no file has
reached it in one reading of this and not in the other. -/
def reachedFailed (missingCounts : Bool) : CallOutcome → Option Bool
  | .loadFailed => some true
  | .loaded => some false
  | .loadedSecured _ => some false
  | .missing _ => if missingCounts then some false else none
  | _ => none

/-- The encryption status that a successful call is to leave; an unsecured load that
finds no file has succeeded in the same reading. -/
def statusLeft (missingCounts : Bool) : CallOutcome → Option (Option Bool)
  | .saved true => some (some true)
  | .saved false => some none
  | .loaded => some none
  | .loadedSecured encrypted => some (some encrypted)
  | .missing false => if missingCounts then some none else none
  | _ => none

variable (outcome : CallOutcome) (missingCounts : Bool)

theorem quarantines_eq (quarantined : Bool) : outcome.quarantines quarantined =
    (quarantined || (outcome.reachedFailed missingCounts).getD false) := by
  cases outcome with
  | missing secured => cases missingCounts <;> simp [quarantines,reachedFailed]
  | _ => simp [quarantines,reachedFailed]

theorem encrypts_eq (encrypted : Option Bool) : outcome.encrypts encrypted =
    (outcome.statusLeft missingCounts).join.or encrypted := by
  cases outcome with
  | saved secured => cases secured <;> simp [encrypts,statusLeft]
  | missing secured => cases secured <;> cases missingCounts <;> simp [encrypts,statusLeft]
  | _ => simp [encrypts,statusLeft]

theorem quarantines_reflects_iff (quarantined : Bool) {latest : Option Bool}
    (h : quarantined = true ↔ latest = some true) :
    (outcome.quarantines quarantined = true ↔
      (outcome.reachedFailed missingCounts).or latest = some true) ↔
    (outcome.reachedFailed missingCounts = some false → quarantined = false) := by
  rw [quarantines_eq outcome missingCounts]
  cases outcome.reachedFailed missingCounts with
  | none => simp [h]
  | some failed => cases failed <;> simp

theorem encrypts_reflects_iff {encrypted : Option Bool} {latest : Option (Option Bool)}
    (h : encrypted = latest.getD none) :
    outcome.encrypts encrypted = ((outcome.statusLeft missingCounts).or latest).getD none ↔
    (outcome.statusLeft missingCounts = some none → encrypted = none) := by
  rw [encrypts_eq outcome missingCounts]
  cases outcome.statusLeft missingCounts with
  | none => simp [h]
  | some status => cases status <;> simp

end CallOutcome

/-- A handle with what its calls came to, the most recent first. -/
structure TrackedHandle (T : Type) where
  handle : MindChatCoreHandle T
  history : List CallOutcome

namespace TrackedHandle

variable {T : Type}

def start (transport : T) : TrackedHandle T := ⟨.new transport,[]⟩

/-- The diagnostics reflect the last operations: the flag is set if and only if the
most recent load that reached the file failed, and the status is that of the most
recent successful call. -/
structure Reflects (missingCounts : Bool) (h : TrackedHandle T) : Prop where
  quarantined : h.handle.diagnosticsReport.stateQuarantined = true ↔
    h.history.findSome? (CallOutcome.reachedFailed missingCounts) = some true
  encrypted : h.handle.persistence.encrypted =
    (h.history.findSome? (CallOutcome.statusLeft missingCounts)).getD none

section Runs

variable (codec : Codec) (backend : CryptoBackend) (connectedAccounts : T → List AccountId)

def step (h : TrackedHandle T) (call : PersistenceCall T) : TrackedHandle T :=
  ⟨(call.execute codec backend connectedAccounts h.handle).2,
    call.outcome codec backend connectedAccounts :: h.history⟩

def Step (h : TrackedHandle T) (call : PersistenceCall T) (h' : TrackedHandle T) : Prop :=
  h' = h.step codec backend connectedAccounts call

/-- The call forgets nothing: a load that succeeds finds no earlier failure recorded,
and an unsecured call that succeeds finds no status recorded. -/
structure ForgetsNothing (missingCounts : Bool) (h : TrackedHandle T) (call : PersistenceCall T) :
    Prop where
  load : (call.outcome codec backend connectedAccounts).reachedFailed missingCounts = some false →
    h.handle.persistence.quarantined = false
  unsecured : (call.outcome codec backend connectedAccounts).statusLeft missingCounts = some none →
    h.handle.persistence.encrypted = none

end Runs

variable {codec : Codec} {backend : CryptoBackend} {connectedAccounts : T → List AccountId}
  {missingCounts : Bool} {h h' : TrackedHandle T} {call : PersistenceCall T}

theorem reflects_start (transport : T) : (start transport).Reflects missingCounts := by
  refine ⟨?_,rfl⟩
  simp [start,MindChatCoreHandle.new,MindChatCoreHandle.diagnosticsReport,PersistenceTrack.default]

theorem findSome?_push {β : Type} (f : CallOutcome → Option β) (outcome : CallOutcome)
    (history : List CallOutcome) :
    (outcome :: history).findSome? f = (f outcome).or (history.findSome? f) := by
  rw [← List.singleton_append,List.findSome?_append,List.findSome?_singleton]

/-- After a call the flag and the status reflect the history if and only if the call
forgot nothing. -/
theorem reflects_step_iff (hr : h.Reflects missingCounts)
    (hs : Step codec backend connectedAccounts h call h') :
    h'.Reflects missingCounts ↔
      h.ForgetsNothing codec backend connectedAccounts missingCounts call := by
  obtain rfl : h' = h.step codec backend connectedAccounts call := hs
  obtain ⟨-,hq,he⟩ := describes_execute codec backend connectedAccounts call h.handle
  have hflag := CallOutcome.quarantines_reflects_iff (call.outcome codec backend connectedAccounts)
    missingCounts h.handle.persistence.quarantined hr.quarantined
  have hstatus := CallOutcome.encrypts_reflects_iff (call.outcome codec backend connectedAccounts)
    missingCounts hr.encrypted
  rw [← findSome?_push,← hq] at hflag
  rw [← findSome?_push,← he] at hstatus
  exact ⟨fun hk => ⟨hflag.mp hk.quarantined,hstatus.mp hk.encrypted⟩,
    fun hf => ⟨hflag.mpr hf.load,hstatus.mpr hf.unsecured⟩⟩

variable (codec backend connectedAccounts missingCounts) in
def SafeStep (h : TrackedHandle T) (call : PersistenceCall T) (h' : TrackedHandle T) : Prop :=
  Step codec backend connectedAccounts h call h' ∧ h'.Reflects missingCounts

/-- The runs of a new handle after whose every call the diagnostics reflect the last
operations are the runs whose calls forget nothing, whether or not a load that finds
no file counts. -/
theorem diagnostics_reflect_iff (codec : Codec) (backend : CryptoBackend)
    (connectedAccounts : T → List AccountId) (missingCounts : Bool) (transport : T)
    (calls : List (PersistenceCall T)) (h : TrackedHandle T) :
    Transition.Run (SafeStep codec backend connectedAccounts missingCounts) (start transport) calls h ↔
      Transition.Run (Transition.Meeting (ForgetsNothing codec backend connectedAccounts missingCounts)
        (Step codec backend connectedAccounts)) (start transport) calls h :=
  Transition.Run.leaving_iff_meeting (I := Reflects missingCounts)
    (fun _ _ _ hr hs => reflects_step_iff hr hs) (fun _ _ _ _ _ hr => hr) (reflects_start transport)

/-- A call at the path of the app, with one file on the device. -/
def callWith (operation : PersistenceOperation) (core : MindChatCore) (file : Bytes) :
    PersistenceCall Unit :=
  ⟨operation,"state",some ⟨core,()⟩,
    ⟨AList.insert "state" file ∅,⟨1,0,.none⟩,some zeroNonce,0,false⟩⟩

/-- An empty file is refused, then a saved one loads, and what it held is saved sealed
and then plain. -/
def staleCalls : List (PersistenceCall Unit) :=
  [callWith .loadState .default [],callWith .loadState .default (titledState "Bob").bytes,
    callWith (.saveStateSecured zeroKey.val) (titledCore "Bob") (titledState "Bob").bytes,
    callWith .saveState (titledCore "Bob") (titledState "Bob").bytes]

/-- The flag stands after a successful load, and the sealed status after a plain save. -/
theorem stale_after_success : ∃ h, Transition.Run
    (Step (jsonCodec (readerOf [titledState "Bob"])) plainBackend fun _ => []) (start ()) staleCalls h ∧
      h.history = [.saved false,.saved true,.loaded,.loadFailed] ∧
      h.handle.diagnosticsReport.stateQuarantined = true ∧ h.handle.persistence.encrypted = some true ∧
      ∀ missingCounts, ¬ h.Reflects missingCounts := by
  refine ⟨_,.cons rfl (.cons rfl (.cons rfl (.cons rfl (.nil _)))),?_⟩
  generalize hh : TrackedHandle.step _ _ _ _ _ = h
  have hall : (h.history,h.handle.diagnosticsReport.stateQuarantined,h.handle.persistence.encrypted) =
      ([.saved false,.saved true,.loaded,.loadFailed],true,some true) := by
    rw [← hh]
    decide +kernel
  obtain ⟨hhistory,hrest⟩ := Prod.mk.inj hall
  obtain ⟨hquarantined,hencrypted⟩ := Prod.mk.inj hrest
  refine ⟨hhistory,hquarantined,hencrypted,fun missingCounts hr => ?_⟩
  have hlatest := hr.quarantined.mp hquarantined
  rw [hhistory] at hlatest
  cases hlatest

end TrackedHandle

end MindChat
