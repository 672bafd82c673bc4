import MindChat.Delimited
import MindChat.ProxyProtocol
import MindChat.Table

/-! The proxy library of the gateway and the assignments of its entries to
accounts, the two preference strings that hold them, and what a read of these
strings gives back. -/

namespace MindChat

open Delimited

structure UiProxyConfig where
  host : String
  port : Int32
  kind : ProxyKind
  deriving DecidableEq

def UiProxyConfig.toFfi (config : UiProxyConfig) : ProxyConfig :=
  { host := config.host, port := config.port.toUInt32.toUInt16.toNat, kind := config.kind }

structure ProxyStatus where
  latencyMs : Option Int64
  error : Option String
  deriving DecidableEq

structure ProxyLibraryEntry where
  id : String
  host : String
  port : Int32
  kind : ProxyKind
  status : ProxyStatus
  deriving DecidableEq

def ProxyLibraryEntry.toConfig (entry : ProxyLibraryEntry) : UiProxyConfig :=
  ⟨entry.host,entry.port,entry.kind⟩

/-- A new or changed entry has no probe result. -/
def UiProxyConfig.entry (config : UiProxyConfig) (id : String) : ProxyLibraryEntry :=
  ⟨id,config.host,config.port,config.kind,⟨none,none⟩⟩

def fieldSep : Char := Char.ofNat 0x1F
def recordSep : Char := Char.ofNat 0x1E

def ProxyKind.name : ProxyKind → String
  | .socks5 => "SOCKS5"
  | .httpConnect => "HTTP_CONNECT"

/-- `ProxyKind.entries.firstOrNull`. -/
def ProxyKind.named (text : List Char) : Option ProxyKind :=
  [ProxyKind.socks5,.httpConnect].find? (fun kind => kind.name.toList = text)

def encodeProxyEntry (entry : ProxyLibraryEntry) : List Char :=
  [fieldSep].intercalate [entry.id.toList,entry.host.toList,Numeral.signed entry.port.toInt,
    entry.kind.name.toList,(entry.status.latencyMs.map (fun n => Numeral.signed n.toInt)).getD [],
    (entry.status.error.getD "").toList]

/-- A missing or garbled record is dropped. -/
def decodeProxyEntry (raw : List Char) : Option ProxyLibraryEntry :=
  match raw.splitOn fieldSep with
  | id :: host :: port :: kind :: rest =>
    (Numeral.toIntOrNull port).bind fun port =>
      (ProxyKind.named kind).map fun kind =>
        { id := String.ofList id, host := String.ofList host, port := port, kind := kind,
          status :=
            { latencyMs := (rest[0]?.filter (fun text => text ≠ [])).bind Numeral.toLongOrNull
              error := (rest[1]?.filter (fun text => text ≠ [])).map String.ofList } }
  | _ => none

def encodeAssignment (assignment : Int64 × String) : List Char :=
  Numeral.signed assignment.1.toInt ++ fieldSep :: assignment.2.toList

/-- The account before the first separator, the entry id after it. -/
def decodeAssignment (record : List Char) : Option (Int64 × String) :=
  (Numeral.toLongOrNull (firstPiece fieldSep record)).bind fun accountId =>
    let proxyId := record.drop ((firstPiece fieldSep record).length + 1)
    if proxyId = [] then none else some (accountId,String.ofList proxyId)

/-- The preference file of the library. -/
structure ProxyLibraryStore where
  proxyLibrary : Option (List Char)
  proxyAssignments : Option (List Char)

namespace ProxyLibraryStore

def readEntries (store : ProxyLibraryStore) : List ProxyLibraryEntry :=
  (store.proxyLibrary.map (read recordSep decodeProxyEntry)).getD []

def writeEntries (store : ProxyLibraryStore) (entries : List ProxyLibraryEntry) : ProxyLibraryStore :=
  { store with proxyLibrary := some (write recordSep encodeProxyEntry entries) }

/-- `toMap`: a later record replaces an earlier one of the same account. -/
def readAssignments (store : ProxyLibraryStore) : Table Int64 String :=
  Table.insertAll ((store.proxyAssignments.map (read recordSep decodeAssignment)).getD [])

def writeAssignments (store : ProxyLibraryStore) (assignments : Table Int64 String) :
    ProxyLibraryStore :=
  let records := assignments.entries.map fun e => (e.1,e.2)
  { store with proxyAssignments := some (write recordSep encodeAssignment records) }

end ProxyLibraryStore

/-- Stable next library id (`p1`, `p2`, ...). -/
def nextProxyId (library : List ProxyLibraryEntry) : String :=
  let numbers := library.filterMap fun entry =>
    Numeral.toLongOrNull (if entry.id.toList.head? = some 'p' then entry.id.toList.tail else entry.id.toList)
  String.ofList ('p' :: Numeral.signed ((numbers.max?.getD 0) + 1).toInt)

inductive ProxyRefusal
  | emptyHost | hostHasWhitespace | portOutOfRange
  deriving DecidableEq

/-- The refusal, or none for a valid configuration. -/
def validateProxyConfig (config : UiProxyConfig) : Option ProxyRefusal :=
  if config.host.toList.all Text.isWhitespaceKotlin then some .emptyHost
  else if config.host.toList.any Text.isWhitespaceKotlin then some .hostHasWhitespace
  else if ¬ (1 ≤ config.port ∧ config.port ≤ 65535) then some .portOutOfRange
  else none

structure ProxyProbeResult where
  ok : Bool
  latencyMs : Option Int64
  error : Option String
  deriving DecidableEq

/-- `outcome` is the handshake of the core and its time in milliseconds, or none
when the binding throws. -/
def testProxy (config : UiProxyConfig) (outcome : Option (Except ProxyError Unit × ℕ)) :
    ProxyProbeResult :=
  if (validateProxyConfig config).isSome then ⟨false,none,some "invalid proxy configuration"⟩
  else
    match outcome with
    | none => ⟨false,none,some "proxy probe failed"⟩
    | some (result,elapsedMs) =>
      let probe := probeFromResult result elapsedMs
      ⟨probe.ok,if probe.ok then some (Int64.ofNat probe.latencyMs) else none,probe.error⟩

/-- The library and the assignments of a running gateway, and their store. -/
structure ProxyBook where
  library : List ProxyLibraryEntry
  assignments : Table Int64 String
  store : ProxyLibraryStore

namespace ProxyBook

/-- A gateway starts from what its store gives back. -/
def restore (store : ProxyLibraryStore) : ProxyBook :=
  ⟨store.readEntries,store.readAssignments,store⟩

def writeLibrary (book : ProxyBook) (library : List ProxyLibraryEntry) : ProxyBook :=
  { book with library := library, store := book.store.writeEntries library }

def writeAssignments (book : ProxyBook) (assignments : Table Int64 String) : ProxyBook :=
  { book with assignments := assignments, store := book.store.writeAssignments assignments }

def addProxy (book : ProxyBook) (config : UiProxyConfig) : ProxyBook :=
  if (validateProxyConfig config).isSome then book
  else book.writeLibrary (book.library ++ [config.entry (nextProxyId book.library)])

def updateProxy (book : ProxyBook) (proxyId : String) (config : UiProxyConfig) : ProxyBook :=
  if (validateProxyConfig config).isSome then book
  else if ∀ entry ∈ book.library, entry.id ≠ proxyId then book
  else book.writeLibrary (book.library.map fun entry =>
    if entry.id = proxyId then config.entry proxyId else entry)

def deleteProxy (book : ProxyBook) (proxyId : String) : ProxyBook :=
  if ∀ entry ∈ book.library, entry.id ≠ proxyId then book
  else
    (book.writeLibrary (book.library.filter fun entry => entry.id ≠ proxyId)).writeAssignments
      (book.assignments.retain fun _ id => id ≠ proxyId)

def pingProxy (book : ProxyBook) (proxyId : String)
    (outcome : Option (Except ProxyError Unit × ℕ)) : ProxyBook :=
  match book.library.find? (fun entry => entry.id = proxyId) with
  | none => book
  | some entry =>
    let result := testProxy entry.toConfig outcome
    book.writeLibrary (book.library.map fun entry =>
      if entry.id = proxyId then
        { entry with status := ⟨if result.ok then result.latencyMs else none,result.error⟩ }
      else entry)

/-- `accepted` says whether the core knows the account; a refused assignment is
taken back. -/
def setAccountProxy (book : ProxyBook) (accountId : Int64) (config : Option UiProxyConfig)
    (accepted : Bool) : ProxyBook :=
  match config with
  | none => book.writeAssignments (book.assignments.erase accountId)
  | some config =>
    if (validateProxyConfig config).isSome then book
    else
      match book.library.find? (fun entry => entry.toConfig = config) with
      | none => book
      | some entry =>
        let assigned := book.writeAssignments (book.assignments.insert accountId entry.id)
        if accepted then assigned else assigned.writeAssignments book.assignments

/-- An account that the core deleted loses its assignment. -/
def deleteAccount (book : ProxyBook) (accountId : Int64) (deleted : Bool) : ProxyBook :=
  if deleted then book.writeAssignments (book.assignments.erase accountId) else book

end ProxyBook

/-- The gateway calls that touch the library or the assignments, and a restart of
the process. -/
inductive ProxyOp
  | addProxy (config : UiProxyConfig)
  | updateProxy (proxyId : String) (config : UiProxyConfig)
  | deleteProxy (proxyId : String)
  | pingProxy (proxyId : String) (outcome : Option (Except ProxyError Unit × ℕ))
  | setAccountProxy (accountId : Int64) (config : Option UiProxyConfig) (accepted : Bool)
  | deleteAccount (accountId : Int64) (deleted : Bool)
  | restart

def ProxyBook.run (book : ProxyBook) : ProxyOp → ProxyBook
  | .addProxy config => book.addProxy config
  | .updateProxy proxyId config => book.updateProxy proxyId config
  | .deleteProxy proxyId => book.deleteProxy proxyId
  | .pingProxy proxyId outcome => book.pingProxy proxyId outcome
  | .setAccountProxy accountId config accepted => book.setAccountProxy accountId config accepted
  | .deleteAccount accountId deleted => book.deleteAccount accountId deleted
  | .restart => restore book.store

def ProxyBook.empty : ProxyBook := .restore ⟨none,none⟩

end MindChat
