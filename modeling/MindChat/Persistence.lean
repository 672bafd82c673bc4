import MindChat.Restart
import MindChat.Runs
import MindChat.StateJson

/-! State files: versioned JSON, written atomically and optionally sealed. The
JSON codec, the AEAD and the operating system are parameters of the functions. -/

namespace MindChat

open MindChatCore Json

def currentSchemaVersion : ℕ := 1
def maxStateFileBytes : ℕ := 16 * 1024 * 1024

structure StateFileMetadata where
  sizeBytes : ℕ
  schemaVersion : ℕ
  deriving DecidableEq

inductive IoError
  | notFound
  | other (detail : String)
  deriving DecidableEq

inductive PersistenceError
  | io (error : IoError)
  | corrupt (detail : String)
  | unsupportedVersion (version : ℕ)
  | tooLarge (bytes : ℕ)
  | notEncrypted
  | decryption
  | encryption (detail : String)
  deriving DecidableEq

abbrev Disk := Table String Bytes

/-- Which system calls of an operation fail; a failing write leaves a prefix. -/
structure IoFaults where
  create : Option IoError
  write : Option IoError
  written : ℕ
  sync : Option IoError
  rename : Option IoError
  remove : Option IoError
  metadata : Option IoError
  read : Option IoError

def IoFaults.none : IoFaults :=
  ⟨Option.none,Option.none,0,Option.none,Option.none,Option.none,Option.none,Option.none⟩

/-- The process as a save sees it: its id, the staging counter and its system calls. -/
structure Process where
  pid : ℕ
  counter : ℕ
  faults : IoFaults

/-- `<path>.<pid>.<counter>.tmp`. -/
def tmpPathFor (process : Process) (path : String) : String :=
  path ++ ("." ++ toString process.pid ++ "." ++ toString process.counter ++ ".tmp")

/-- Stage the bytes in a temporary file, sync it and rename it over the path. -/
def writeAtomic (process : Process) (path : String) (bytes : Bytes) (disk : Disk) :
    Except PersistenceError Unit × Disk :=
  let tmp := tmpPathFor process path
  let fail (e : IoError) (disk : Disk) : Except PersistenceError Unit × Disk :=
    (.error (.io e),if process.faults.remove.isSome then disk else disk.erase tmp)
  match process.faults.create with
  | some e => fail e disk
  | none =>
    match process.faults.write with
    | some e => fail e (disk.insert tmp (bytes.take process.faults.written))
    | none =>
      match process.faults.sync with
      | some e => fail e (disk.insert tmp bytes)
      | none =>
        match process.faults.rename with
        | some e => fail e (disk.insert tmp bytes)
        | none => (.ok (),(disk.erase tmp).insert path bytes)

structure Codec where
  toVecPretty : PersistedState → Except String Bytes
  fromSlice : Bytes → Except String PersistedState

/-- `metadata`, both size checks and `read`; a missing file is no error. -/
def readStateFile (faults : IoFaults) (path : String) (disk : Disk) :
    Except PersistenceError (Option Bytes) :=
  match faults.metadata,disk.lookup path with
  | some .notFound,_ => .ok none
  | some e,_ => .error (.io e)
  | none,none => .ok none
  | none,some bytes =>
    if maxStateFileBytes < bytes.length then .error (.tooLarge bytes.length)
    else match faults.read with
    | some e => .error (.io e)
    | none =>
      if maxStateFileBytes < bytes.length then .error (.tooLarge bytes.length) else .ok (some bytes)

/-- Clears session ephemera of a restored account. -/
def sanitizeAccount (account : Account) : Account :=
  { account with connectionState := .offline, connectionError := none, disconnectKind := none,
                 capabilities := ∅ }

def sanitizeContact (contact : Contact) : Contact :=
  { contact with presence := .offline, status := none }

def sanitizeSnapshot (snapshot : CoreSnapshot) : CoreSnapshot :=
  snapshot.mapRecords sanitizeAccount sanitizeContact

def parseStateBytes (codec : Codec) (bytes : Bytes) :
    Except PersistenceError (CoreSnapshot × StateFileMetadata) :=
  match codec.fromSlice bytes with
  | .error detail => .error (.corrupt detail)
  | .ok persisted =>
    if persisted.schemaVersion ≠ currentSchemaVersion then
      .error (.unsupportedVersion persisted.schemaVersion)
    else .ok (sanitizeSnapshot persisted.snapshot,⟨bytes.length,persisted.schemaVersion⟩)

/-- The size is checked twice in the source as well. -/
def saveState (codec : Codec) (process : Process) (snapshot : CoreSnapshot) (path : String)
    (disk : Disk) : Except PersistenceError Unit × Disk :=
  match codec.toVecPretty ⟨currentSchemaVersion,snapshot⟩ with
  | .error detail => (.error (.corrupt detail),disk)
  | .ok bytes =>
    if maxStateFileBytes < bytes.length then (.error (.tooLarge bytes.length),disk)
    else if maxStateFileBytes < bytes.length then (.error (.tooLarge bytes.length),disk)
    else writeAtomic process path bytes disk

def loadStateWithMetadata (codec : Codec) (faults : IoFaults) (path : String) (disk : Disk) :
    Except PersistenceError (Option (CoreSnapshot × StateFileMetadata)) :=
  match readStateFile faults path disk with
  | .error e => .error e
  | .ok none => .ok none
  | .ok (some bytes) => (parseStateBytes codec bytes).map some

def loadState (codec : Codec) (faults : IoFaults) (path : String) (disk : Disk) :
    Except PersistenceError (Option CoreSnapshot) :=
  (loadStateWithMetadata codec faults path disk).map (Option.map Prod.fst)

abbrev Key := { key : Bytes // key.length = 32 }
abbrev Nonce := { nonce : Bytes // nonce.length = 12 }

def magic : Bytes := utf8 "MINDCHAT".toList ++ [1]

def nonceLen : ℕ := 12
def tagLen : ℕ := 16
def minEncryptedLen : ℕ := magic.length + nonceLen + tagLen

/-- The AES-256-GCM backend: key setup, sealing into ciphertext and tag, and
opening of a ciphertext followed by its tag. -/
structure CryptoBackend where
  keySetup : Key → Bool
  sealWith : Key → Nonce → Bytes → Bytes → Option (Bytes × Bytes)
  openWith : Key → Nonce → Bytes → Bytes → Option Bytes

/-- What the crypto crate documents of AES-256-GCM. -/
structure CryptoBackend.Lawful (backend : CryptoBackend) : Prop where
  keySetup : ∀ key, backend.keySetup key = true
  seals : ∀ key nonce aad plain, plain.length ≤ 2^36 - 32 → (backend.sealWith key nonce aad plain).isSome
  sizes : ∀ key nonce aad plain ciphertext tag,
    backend.sealWith key nonce aad plain = some (ciphertext,tag) →
      ciphertext.length = plain.length ∧ tag.length = tagLen
  opens : ∀ key nonce aad plain ciphertext tag,
    backend.sealWith key nonce aad plain = some (ciphertext,tag) →
      backend.openWith key nonce aad (ciphertext ++ tag) = some plain

def isEncryptedBlob (bytes : Bytes) : Bool := magic.isPrefixOf bytes

/-- `rng` is what the secure random generator fills in, if it is available. -/
def encryptState (backend : CryptoBackend) (rng : Option Nonce) (plaintext : Bytes) (key : Key) :
    Except PersistenceError Bytes :=
  match rng with
  | none => .error (.encryption "secure RNG unavailable")
  | some nonce =>
    if backend.keySetup key then
      match backend.sealWith key nonce magic plaintext with
      | none => .error (.encryption "AES-GCM seal failed")
      | some (ciphertext,tag) => .ok (magic ++ nonce.val ++ ciphertext ++ tag)
    else .error (.encryption "AES-256-GCM key setup failed")

def decryptState (backend : CryptoBackend) (blob : Bytes) (key : Key) : Except PersistenceError Bytes :=
  if blob.length < minEncryptedLen ∨ isEncryptedBlob blob = false then .error .notEncrypted
  else if backend.keySetup key then
    let nonce := (blob.drop magic.length).take nonceLen
    if h : nonce.length = 12 then
      match backend.openWith key ⟨nonce,h⟩ magic (blob.drop (magic.length + nonceLen)) with
      | none => .error .decryption
      | some plaintext => .ok plaintext
    else .error .decryption
  else .error (.encryption "AES-256-GCM key setup failed")

inductive LoadOutcome
  | missing
  | plaintextLegacy (snapshot : CoreSnapshot) (metadata : StateFileMetadata)
  | encrypted (snapshot : CoreSnapshot) (metadata : StateFileMetadata)
  deriving DecidableEq

/-- The size bound is checked on the plaintext, before it is sealed. -/
def saveStateEncrypted (codec : Codec) (backend : CryptoBackend) (process : Process)
    (rng : Option Nonce) (snapshot : CoreSnapshot) (path : String) (key : Key) (disk : Disk) :
    Except PersistenceError StateFileMetadata × Disk :=
  match codec.toVecPretty ⟨currentSchemaVersion,snapshot⟩ with
  | .error detail => (.error (.corrupt detail),disk)
  | .ok bytes =>
    if maxStateFileBytes < bytes.length then (.error (.tooLarge bytes.length),disk)
    else match encryptState backend rng bytes key with
    | .error e => (.error e,disk)
    | .ok blob =>
      match writeAtomic process path blob disk with
      | (.error e,disk) => (.error e,disk)
      | (.ok (),disk) => (.ok ⟨blob.length,currentSchemaVersion⟩,disk)

def loadStateEncrypted (codec : Codec) (backend : CryptoBackend) (faults : IoFaults) (path : String)
    (key : Key) (disk : Disk) : Except PersistenceError LoadOutcome :=
  match readStateFile faults path disk with
  | .error e => .error e
  | .ok none => .ok .missing
  | .ok (some bytes) =>
    if isEncryptedBlob bytes then
      match decryptState backend bytes key with
      | .error e => .error e
      | .ok plain =>
        match parseStateBytes codec plain with
        | .error e => .error e
        | .ok (snapshot,metadata) => .ok (.encrypted snapshot { metadata with sizeBytes := bytes.length })
    else
      match parseStateBytes codec bytes with
      | .error e => .error e
      | .ok (snapshot,metadata) => .ok (.plaintextLegacy snapshot metadata)

/-- `disconnect_kind` is skipped by the derived serializer. -/
def skipDisconnectKind (account : Account) : Account := { account with disconnectKind := none }

/-- The state a decoder returns for an encoded one: skipped fields take their default. -/
def PersistedState.decoded (persisted : PersistedState) : PersistedState :=
  { persisted with snapshot := persisted.snapshot.mapRecords skipDisconnectKind id }

def Codec.RoundTrips (codec : Codec) (persisted : PersistedState) : Prop :=
  ∀ bytes, codec.toVecPretty persisted = .ok bytes → codec.fromSlice bytes = .ok persisted.decoded

section Files

variable {codec : Codec} {backend : CryptoBackend} {process : Process} {path : String} {disk : Disk}

theorem tmpPathFor_ne : tmpPathFor process path ≠ path := by
  intro h
  have hl := congrArg String.length h
  simp [tmpPathFor] at hl

/-- An atomic write installs all of the bytes or leaves the file as it was. -/
theorem writeAtomic_cases (process : Process) (path : String) (bytes : Bytes) (disk : Disk) :
    (∃ e, (writeAtomic process path bytes disk).1 = .error e ∧
      (writeAtomic process path bytes disk).2.lookup path = disk.lookup path) ∨
    ((writeAtomic process path bytes disk).1 = .ok () ∧
      (writeAtomic process path bytes disk).2.lookup path = some bytes) := by
  have hne : path ≠ tmpPathFor process path := tmpPathFor_ne.symm
  have erased : ∀ d : Disk, d.lookup path = disk.lookup path →
      (if process.faults.remove.isSome then d else d.erase (tmpPathFor process path)).lookup path =
        disk.lookup path := by
    intro d hd
    split
    · exact hd
    · rw [AList.lookup_erase_ne hne,hd]
  have staged : ∀ b : Bytes, (disk.insert (tmpPathFor process path) b).lookup path = disk.lookup path :=
    fun b => AList.lookup_insert_ne hne
  unfold writeAtomic
  cases process.faults.create with
  | some e => exact .inl ⟨_,rfl,erased _ rfl⟩
  | none =>
    cases process.faults.write with
    | some e => exact .inl ⟨_,rfl,erased _ (staged _)⟩
    | none =>
      cases process.faults.sync with
      | some e => exact .inl ⟨_,rfl,erased _ (staged _)⟩
      | none =>
        cases process.faults.rename with
        | some e => exact .inl ⟨_,rfl,erased _ (staged _)⟩
        | none => exact .inr ⟨rfl,AList.lookup_insert _⟩

theorem writeAtomic_ok {bytes : Bytes} {disk' : Disk}
    (h : writeAtomic process path bytes disk = (.ok (),disk')) : disk'.lookup path = some bytes := by
  rcases writeAtomic_cases process path bytes disk with ⟨e,he,-⟩ | ⟨-,hl⟩
  · rw [h] at he
    cases he
  · rwa [h] at hl

theorem writeAtomic_none (hf : process.faults = .none) (path : String) (bytes : Bytes) (disk : Disk) :
    (writeAtomic process path bytes disk).1 = .ok () := by
  simp [writeAtomic,hf,IoFaults.none]

theorem readStateFile_none {bytes : Bytes} (h : disk.lookup path = some bytes) :
    readStateFile .none path disk = if maxStateFileBytes < bytes.length then
      .error (.tooLarge bytes.length) else .ok (some bytes) := by
  simp only [readStateFile,IoFaults.none,h]
  split <;> simp_all

theorem sanitizeSnapshot_decoded (s : CoreSnapshot) :
    sanitizeSnapshot (s.mapRecords skipDisconnectKind id) = sanitizeSnapshot s := by
  simp [sanitizeSnapshot,CoreSnapshot.mapRecords,Function.comp_def,sanitizeAccount,skipDisconnectKind]

theorem sanitizeSnapshot_idem (s : CoreSnapshot) :
    sanitizeSnapshot (sanitizeSnapshot s) = sanitizeSnapshot s := by
  simp [sanitizeSnapshot,CoreSnapshot.mapRecords,Function.comp_def,sanitizeAccount,sanitizeContact]

theorem parseStateBytes_encoded {s : CoreSnapshot} {bytes : Bytes}
    (hr : codec.RoundTrips ⟨currentSchemaVersion,s⟩)
    (h : codec.toVecPretty ⟨currentSchemaVersion,s⟩ = .ok bytes) :
    parseStateBytes codec bytes = .ok (sanitizeSnapshot s,⟨bytes.length,currentSchemaVersion⟩) := by
  simp only [parseStateBytes,hr bytes h,PersistedState.decoded,ne_eq,not_true,if_false,
    sanitizeSnapshot_decoded]

theorem encryptState_ok (hb : backend.Lawful) {rng : Option Nonce} {plain blob : Bytes} {key : Key}
    (h : encryptState backend rng plain key = .ok blob) :
    blob.length = plain.length + minEncryptedLen ∧ isEncryptedBlob blob = true ∧
      decryptState backend blob key = .ok plain := by
  unfold encryptState at h
  cases rng with
  | none => cases h
  | some nonce =>
    simp only [hb.keySetup key,if_true] at h
    cases hs : backend.sealWith key nonce magic plain with
    | none => simp [hs] at h
    | some sealed =>
      obtain ⟨ciphertext,tag⟩ := sealed
      simp only [hs,Except.ok.injEq] at h
      subst h
      obtain ⟨hc,ht⟩ := hb.sizes _ _ _ _ _ _ hs
      have hn := nonce.property
      have hl : (magic ++ nonce.val ++ ciphertext ++ tag).length = plain.length + minEncryptedLen := by
        simp only [List.length_append,hc,ht,hn,minEncryptedLen,nonceLen]
        omega
      have hm : isEncryptedBlob (magic ++ nonce.val ++ ciphertext ++ tag) = true := by
        simp [isEncryptedBlob,List.append_assoc]
      have hnonce : ((magic ++ nonce.val ++ ciphertext ++ tag).drop magic.length).take nonceLen =
          nonce.val := by
        rw [List.append_assoc,List.append_assoc,List.drop_left]
        exact List.take_left' hn
      have hrest : (magic ++ nonce.val ++ ciphertext ++ tag).drop (magic.length + nonceLen) =
          ciphertext ++ tag := by
        rw [← List.drop_drop,List.append_assoc,List.append_assoc,List.drop_left]
        exact List.drop_left' hn
      refine ⟨hl,hm,?_⟩
      have hlen : ¬ (magic ++ nonce.val ++ ciphertext ++ tag).length < minEncryptedLen := by omega
      simp only [decryptState,hm,hlen,hb.keySetup key,hnonce,hrest]
      simp [hn,hb.opens _ _ _ _ _ _ hs]

theorem saveStateEncrypted_ok {rng : Option Nonce} {s : CoreSnapshot} {key : Key}
    {reported : StateFileMetadata} {disk' : Disk}
    (h : saveStateEncrypted codec backend process rng s path key disk = (.ok reported,disk')) :
    ∃ plain blob, codec.toVecPretty ⟨currentSchemaVersion,s⟩ = .ok plain ∧
      plain.length ≤ maxStateFileBytes ∧ encryptState backend rng plain key = .ok blob ∧
      reported = ⟨blob.length,currentSchemaVersion⟩ ∧ disk'.lookup path = some blob := by
  unfold saveStateEncrypted at h
  cases hp : codec.toVecPretty ⟨currentSchemaVersion,s⟩ with
  | error e => simp [hp] at h
  | ok plain =>
    simp only [hp] at h
    split at h
    · cases h
    · rename_i hle
      cases he : encryptState backend rng plain key with
      | error e => simp [he] at h
      | ok blob =>
        simp only [he] at h
        cases hw : writeAtomic process path blob disk with
        | mk r d =>
          rw [hw] at h
          cases r with
          | error e => cases h
          | ok u =>
            cases h
            exact ⟨plain,blob,rfl,not_lt.mp hle,he,rfl,writeAtomic_ok hw⟩

/-- A saved blob loads exactly when it is within the bound itself. -/
theorem loadStateEncrypted_blob (hb : backend.Lawful) {rng : Option Nonce} {s : CoreSnapshot}
    {key : Key} {plain blob : Bytes} (hr : codec.RoundTrips ⟨currentSchemaVersion,s⟩)
    (hp : codec.toVecPretty ⟨currentSchemaVersion,s⟩ = .ok plain)
    (he : encryptState backend rng plain key = .ok blob) (hl : disk.lookup path = some blob) :
    loadStateEncrypted codec backend .none path key disk =
      if maxStateFileBytes < plain.length + minEncryptedLen then .error (.tooLarge blob.length)
      else .ok (.encrypted (sanitizeSnapshot s) ⟨blob.length,currentSchemaVersion⟩) := by
  obtain ⟨hlen,hm,hd⟩ := encryptState_ok hb he
  unfold loadStateEncrypted
  rw [readStateFile_none hl,hlen]
  by_cases hlarge : maxStateFileBytes < plain.length + minEncryptedLen
  · simp only [if_pos hlarge]
  · simp only [if_neg hlarge,hm,if_true,hd,parseStateBytes_encoded hr hp,hlen]

theorem saveStateEncrypted_none (hb : backend.Lawful) (hf : process.faults = .none) (nonce : Nonce)
    {s : CoreSnapshot} (path : String) (key : Key) (disk : Disk) {plain : Bytes}
    (hp : codec.toVecPretty ⟨currentSchemaVersion,s⟩ = .ok plain)
    (hle : plain.length ≤ maxStateFileBytes) :
    ∃ reported disk', saveStateEncrypted codec backend process (some nonce) s path key disk =
      (.ok reported,disk') := by
  have hs : (backend.sealWith key nonce magic plain).isSome :=
    hb.seals _ _ _ _ (hle.trans (by decide))
  obtain ⟨⟨ciphertext,tag⟩,hs⟩ := Option.isSome_iff_exists.mp hs
  have he : encryptState backend (some nonce) plain key =
      .ok (magic ++ nonce.val ++ ciphertext ++ tag) := by
    simp only [encryptState,hb.keySetup key,if_true,hs]
  generalize magic ++ nonce.val ++ ciphertext ++ tag = blob at he
  have hw := writeAtomic_none hf path blob disk
  cases hd : writeAtomic process path blob disk with
  | mk r d =>
    rw [hd] at hw
    cases hw
    refine ⟨⟨blob.length,currentSchemaVersion⟩,d,?_⟩
    simp only [saveStateEncrypted,hp,if_neg (not_lt.mpr hle),he,hd]

/-- Whatever the process, the nonce and the disk: a save that succeeds leaves a
file that loads to the sanitized snapshot with the reported metadata. -/
def SavedStateLoads (codec : Codec) (backend : CryptoBackend) (s : CoreSnapshot) (path : String)
    (key : Key) : Prop :=
  ∀ process rng disk reported disk',
    saveStateEncrypted codec backend process rng s path key disk = (.ok reported,disk') →
      loadStateEncrypted codec backend .none path key disk' =
        .ok (.encrypted (sanitizeSnapshot s) reported)

/-- The app writes no file it would refuse exactly for the states whose sealed
form fits the bound too, or whose plaintext already exceeds it. -/
theorem savedStateLoads_iff (hb : backend.Lawful) (s : CoreSnapshot) (path : String) (key : Key)
    (hr : codec.RoundTrips ⟨currentSchemaVersion,s⟩) :
    SavedStateLoads codec backend s path key ↔
      ∀ plain, codec.toVecPretty ⟨currentSchemaVersion,s⟩ = .ok plain →
        plain.length + minEncryptedLen ≤ maxStateFileBytes ∨ maxStateFileBytes < plain.length := by
  constructor
  · intro h plain hp
    by_contra hc
    rw [not_or,not_le,not_lt] at hc
    obtain ⟨hlarge,hle⟩ := hc
    let process : Process := ⟨1,0,.none⟩
    let nonce : Nonce := ⟨List.replicate 12 0,rfl⟩
    have hf : process.faults = .none := rfl
    obtain ⟨reported,disk',hs⟩ := saveStateEncrypted_none hb hf nonce path key ∅ hp hle
    obtain ⟨plain',blob,hp',-,he,-,hl⟩ := saveStateEncrypted_ok hs
    rw [hp] at hp'
    cases hp'
    have hload := h process (some nonce) ∅ reported disk' hs
    rw [loadStateEncrypted_blob hb hr hp he hl,if_pos hlarge] at hload
    cases hload
  · intro h process rng disk reported disk' hs
    obtain ⟨plain,blob,hp,hle,he,rfl,hl⟩ := saveStateEncrypted_ok hs
    have hfits : ¬ maxStateFileBytes < plain.length + minEncryptedLen := by
      rcases h plain hp with h | h <;> omega
    rw [loadStateEncrypted_blob hb hr hp he hl,if_neg hfits]

end Files

/-- `serde_json` as far as its pretty writer goes, with any reader. -/
def jsonCodec (fromSlice : Bytes → Except String PersistedState) : Codec where
  toVecPretty persisted := .ok persisted.bytes
  fromSlice := fromSlice

/-- An account with one conversation of a given title. -/
def titledCore (title : String) : MindChatCore :=
  ((MindChatCore.default.addAccount demoSetup).2.openConversation 1 .direct "bob@host" title 10).2

def titledAccount : Account :=
  { id := 1, jid := "ada@host", server := "host", displayName := "Ada", connectionState := .offline,
    capabilities := ∅, connectionError := none, disconnectKind := none, autoReconnect := true,
    proxies := [] }

def titledConversation (title : String) : Conversation :=
  { id := 1, accountId := 1, kind := .direct, address := "bob@host", title := title, unreadCount := 0,
    lastActivityEpochMs := 10 }

def titledState (title : String) : PersistedState := ⟨currentSchemaVersion,(titledCore title).snapshot⟩

/-- A title that fills the plaintext bound to the last byte. -/
def fillingTitle : String :=
  String.ofList (List.replicate (maxStateFileBytes - (titledState "").bytes.length) 'a')

theorem titledState_length (title : String) : (titledState title).bytes.length =
    size (escape title.toList) + (titledState "").bytes.length :=
  size_title currentSchemaVersion titledAccount (titledConversation "") title

theorem titledState_size : (titledState fillingTitle).bytes.length = maxStateFileBytes := by
  have hle : (titledState "").bytes.length ≤ maxStateFileBytes := by decide +kernel
  have ht : size (escape fillingTitle.toList) = maxStateFileBytes - (titledState "").bytes.length := by
    rw [fillingTitle,String.toList_ofList,escape_replicate,size_replicate]
  rw [titledState_length,ht]
  omega

/-- A stand-in backend: the stream is the identity and the tag is constant. -/
def plainBackend : CryptoBackend where
  keySetup _ := true
  sealWith _ _ _ plain := some (plain,List.replicate tagLen 0)
  openWith _ _ _ sealed := some (sealed.take (sealed.length - tagLen))

theorem plainBackend_lawful : plainBackend.Lawful where
  keySetup _ := rfl
  seals _ _ _ _ _ := rfl
  sizes _ _ _ plain ciphertext tag h := by
    cases h
    exact ⟨rfl,List.length_replicate⟩
  opens _ _ _ plain ciphertext tag h := by
    cases h
    simp [plainBackend]

/-- A reader that knows the files of some states. -/
def readerOf (states : List PersistedState) (bytes : Bytes) : Except String PersistedState :=
  match states.find? (fun persisted => persisted.bytes = bytes) with
  | some persisted => .ok persisted.decoded
  | none => .error "expected value"

theorem readerOf_roundTrips {states : List PersistedState}
    (hn : (states.map PersistedState.bytes).Nodup) {persisted : PersistedState}
    (hp : persisted ∈ states) : (jsonCodec (readerOf states)).RoundTrips persisted := by
  rintro bytes h
  cases h
  have hs : (states.find? (fun q => q.bytes = persisted.bytes)).isSome :=
    List.find?_isSome.mpr ⟨persisted,hp,by simp⟩
  obtain ⟨q,hq⟩ := Option.isSome_iff_exists.mp hs
  have hb : q.bytes = persisted.bytes := by simpa using List.find?_some hq
  have he : q = persisted := List.inj_on_of_nodup_map hn (List.mem_of_find?_eq_some hq) hp hb
  simp only [jsonCodec,readerOf,hq,he]

def zeroKey : Key := ⟨List.replicate 32 0,rfl⟩

def zeroNonce : Nonce := ⟨List.replicate 12 0,rfl⟩

theorem savedStateLoads_bob :
    SavedStateLoads (jsonCodec (readerOf [titledState "Bob"])) plainBackend (titledCore "Bob").snapshot
      "state" zeroKey := by
  have hn : ([titledState "Bob"].map PersistedState.bytes).Nodup := List.nodup_singleton _
  refine (savedStateLoads_iff plainBackend_lawful _ "state" zeroKey
    (readerOf_roundTrips hn List.mem_cons_self)).mpr ?_
  rintro plain h
  cases h
  decide +kernel

/-- A full plaintext is saved by every backend, and its file is refused on load. -/
theorem filled_state_refused {backend : CryptoBackend} (hb : backend.Lawful)
    (fromSlice : Bytes → Except String PersistedState) (nonce : Nonce) (key : Key) :
    (∃ reported disk', saveStateEncrypted (jsonCodec fromSlice) backend ⟨1,0,.none⟩ (some nonce)
        (titledCore fillingTitle).snapshot "state" key ∅ = (.ok reported,disk') ∧
      loadStateEncrypted (jsonCodec fromSlice) backend .none "state" key disk' =
        .error (.tooLarge (maxStateFileBytes + minEncryptedLen))) ∧
    ¬ SavedStateLoads (jsonCodec fromSlice) backend (titledCore fillingTitle).snapshot "state" key := by
  have hp : (jsonCodec fromSlice).toVecPretty (titledState fillingTitle) =
    .ok (titledState fillingTitle).bytes := rfl
  have hf : (Process.mk 1 0 .none).faults = .none := rfl
  obtain ⟨reported,disk',hs⟩ := saveStateEncrypted_none hb hf nonce "state" key ∅ hp titledState_size.le
  obtain ⟨plain,blob,hp',-,he,-,hl⟩ := saveStateEncrypted_ok hs
  cases hp.symm.trans hp'
  have hlen : blob.length = maxStateFileBytes + minEncryptedLen := by
    rw [(encryptState_ok hb he).1,titledState_size]
  have hlarge : maxStateFileBytes < blob.length := by
    rw [hlen]
    decide
  have hr : readStateFile .none "state" disk' =
      .error (.tooLarge (maxStateFileBytes + minEncryptedLen)) := by
    rw [readStateFile_none hl,if_pos hlarge,hlen]
  have hload : loadStateEncrypted (jsonCodec fromSlice) backend .none "state" key disk' =
      .error (.tooLarge (maxStateFileBytes + minEncryptedLen)) := by
    simp only [loadStateEncrypted,hr]
  refine ⟨⟨reported,disk',hs,hload⟩,fun h => ?_⟩
  have hok := h _ _ _ _ _ hs
  rw [hload] at hok
  cases hok

theorem full_state_saved_and_refused :
    (∃ reported disk', saveStateEncrypted (jsonCodec (readerOf [titledState fillingTitle])) plainBackend
        ⟨1,0,.none⟩ (some zeroNonce) (titledCore fillingTitle).snapshot "state" zeroKey ∅ =
          (.ok reported,disk') ∧
      loadStateEncrypted (jsonCodec (readerOf [titledState fillingTitle])) plainBackend .none "state"
        zeroKey disk' = .error (.tooLarge (maxStateFileBytes + minEncryptedLen))) ∧
    ¬ SavedStateLoads (jsonCodec (readerOf [titledState fillingTitle])) plainBackend
      (titledCore fillingTitle).snapshot "state" zeroKey :=
  filled_state_refused plainBackend_lawful _ zeroNonce zeroKey

end MindChat
