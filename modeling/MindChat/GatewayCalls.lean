import MindChat.Gateway
import MindChat.ProxyLibrary
import MindChat.Service
import MindChat.UiMapping

/-! The calls of the native gateway, each as the procedure its source is: the calls
into the core one by one, the dirty marks between them, and the stores of profiles
and proxy assignments beside the core. -/

namespace MindChat

open MindChatCore

def toULong (id : Int64) : AccountId := id.toUInt64.toNat
def toLong (id : AccountId) : Int64 := (UInt64.ofNat id).toInt64

def Ui.AccountProfile.isEmpty (profile : Ui.AccountProfile) : Bool :=
  profile.avatarUri.isNone && profile.statusMessage.isNone && profile.accentKey.isNone &&
    profile.bubbleStyle.isNone && profile.chatBackground.isNone

/-- The preference file, as far as it keeps profiles. -/
structure MindChatPreferences where
  profiles : Table Int64 Ui.AccountProfile

namespace MindChatPreferences

/-- A profile without any field counts as none. -/
def readProfiles (preferences : MindChatPreferences) : Table Int64 Ui.AccountProfile :=
  preferences.profiles.retain fun _ profile => !profile.isEmpty

def writeProfile (preferences : MindChatPreferences) (accountId : Int64) (profile : Ui.AccountProfile) :
    MindChatPreferences :=
  ⟨preferences.profiles.insert accountId profile⟩

def removeProfile (preferences : MindChatPreferences) (accountId : Int64) : MindChatPreferences :=
  ⟨preferences.profiles.erase accountId⟩

end MindChatPreferences

inductive RegistrationRefusal
  | passwordRequired | invalidJid

def RegistrationRefusal.toUiDetail : RegistrationRefusal → String
  | .passwordRequired => "password required"
  | .invalidJid => "invalid JID"

structure RegistrationInput where
  username : String
  server : String
  displayName : String
  password : String
  fullJid : String

def RegistrationInput.setup (input : RegistrationInput) : AccountSetup :=
  ⟨input.username ++ "@" ++ input.server,input.server,input.displayName⟩

def validateRegistration (jid server displayName password : String) :
    Except RegistrationRefusal RegistrationInput :=
  if password = "" then .error .passwordRequired
  else
    let normalizedJid := Text.trimKotlin jid
    let username := Text.before '@' normalizedJid
    if username.toList.all Text.isWhitespaceKotlin then .error .invalidJid
    else
      let name := Text.trimKotlin displayName
      .ok { username := username, server := Text.trimKotlin server,
            displayName := if name = "" then username else name, password := password,
            fullJid := normalizedJid }

/-- What a call gives back. -/
inductive Reply
  | done
  | accepted (ok : Bool)
  | registration (detail : Option String)
  | conversation (id : Option ConversationId)
  | probed (result : ProxyProbeResult)
  | thrown

/-- The gateway and, beside its session, the proxy library and the profiles. -/
structure NativeGateway (T : Type) where
  gateway : Gateway T
  book : ProxyBook
  preferences : MindChatPreferences
  profilesCache : Table Int64 Ui.AccountProfile

abbrev GatewayProc (T : Type) := Proc (NativeGateway T) Reply

namespace NativeGateway

variable {T A : Type}

abbrev session (s : NativeGateway T) : TransportCoordinator T := s.gateway.session

abbrev core (s : NativeGateway T) : MindChatCore := s.gateway.session.core

def withSession (s : NativeGateway T) (k : TransportCoordinator T) : NativeGateway T :=
  { s with gateway := { s.gateway with session := k } }

def withBook (s : NativeGateway T) (book : ProxyBook) : NativeGateway T := { s with book := book }

def withPreferences (s : NativeGateway T) (preferences : MindChatPreferences) : NativeGateway T :=
  { s with preferences := preferences, profilesCache := preferences.readProfiles }

def withActive (s : NativeGateway T) (accountId : AccountId) : NativeGateway T :=
  { s with gateway := { s.gateway with activeAccountId := accountId } }

@[simp] theorem core_withSession (s : NativeGateway T) (k : TransportCoordinator T) :
    (s.withSession k).core = k.core := rfl

@[simp] theorem core_withBook (s : NativeGateway T) (book : ProxyBook) :
    (s.withBook book).core = s.core := rfl

@[simp] theorem core_withPreferences (s : NativeGateway T) (preferences : MindChatPreferences) :
    (s.withPreferences preferences).core = s.core := rfl

@[simp] theorem core_withActive (s : NativeGateway T) (accountId : AccountId) :
    (s.withActive accountId).core = s.core := rfl

def assignedProxyEntry (s : NativeGateway T) (accountId : Int64) : Option ProxyLibraryEntry :=
  (s.book.assignments.lookup accountId).bind fun id =>
    s.book.library.find? fun entry => entry.id = id

/-- A call of the native session, which holds its lock throughout. -/
def native (f : TransportCoordinator T → A × TransportCoordinator T) (next : A → GatewayProc T) :
    GatewayProc T :=
  .call (fun s => ((f s.session).1,s.withSession (f s.session).2)) next

/-- A call of the native session that works on the core alone. -/
def coreCall (f : MindChatCore → A × MindChatCore) (next : A → GatewayProc T) : GatewayProc T :=
  native (fun k => ((f k.core).1,{ k with core := (f k.core).2 })) next

def refreshWith (snapshot : CoreSnapshot) (next : GatewayProc T) : GatewayProc T :=
  .modify (fun s => { s with gateway := s.gateway.refreshWith snapshot }) next

def refresh (next : GatewayProc T) : GatewayProc T :=
  .read (fun s => s.core.snapshot) fun snapshot => refreshWith snapshot next

/-- The tail of most calls: a mark and a refresh on success, a refresh on failure. -/
def marked {E B : Type} (reply : Except E B → Reply) (r : Except E B) : GatewayProc T :=
  match r with
  | .ok b => .mark (refresh (.ret (reply (.ok b))))
  | .error e => refresh (.ret (reply (.error e)))

def selectAccount (accountId : Int64) : GatewayProc T :=
  .read (fun s => s.gateway.accounts.any fun account => account.id = toULong accountId) fun known =>
    if known then .modify (fun s => s.withActive (toULong accountId)) (refresh (.ret .done))
    else .ret .done

def markConversationRead (conversationId : Int64) : GatewayProc T :=
  coreCall (fun c => c.markConversationRead (toULong conversationId)) (marked fun _ => .done)

def renameAccount (accountId : Int64) (displayName : String) : GatewayProc T :=
  let name := Text.trimKotlin displayName
  if name = "" then .ret .done
  else coreCall (fun c => c.updateAccountDisplayName (toULong accountId) name) (marked fun _ => .done)

def deleteConversation (conversationId : Int64) : GatewayProc T :=
  coreCall (fun c => c.deleteConversation (toULong conversationId)) (marked fun _ => .done)

def updateProfile (accountId : Int64) (profile : Ui.AccountProfile) : GatewayProc T :=
  .modify (fun s => s.withPreferences (s.preferences.writeProfile accountId profile))
    (refresh (.ret .done))

def addContact (jid displayName : String) : GatewayProc T :=
  .read (fun s => s.gateway.activeAccountId) fun activeAccountId =>
    if activeAccountId = 0 then .ret .done
    else coreCall (fun c => c.upsertContact activeAccountId (Text.trimKotlin jid)
        (Text.trimKotlin displayName) .offline none) fun
      | .error _ => .ret .done
      | .ok () => .mark (refresh (.ret .done))

def openLocalConversation (accountId : AccountId) (address title : String) (group : Bool) (now : ℕ) :
    GatewayProc T :=
  let kind := if group then ConversationKind.multiUserChat else .direct
  let name := Text.trimKotlin title
  coreCall (fun c => c.openConversation accountId kind (Text.trimKotlin address)
      (if name = "" then Text.before '@' address else name) now) fun
    | .error _ => .ret (.conversation none)
    | .ok id => .mark (refresh (.ret (.conversation (some id))))

def openConversation (address title : String) (group : Bool) (now : ℕ) : GatewayProc T :=
  .read (fun s => s.gateway.activeAccountId) fun activeAccountId =>
    if activeAccountId = 0 then .ret (.conversation none)
    else openLocalConversation activeAccountId address title group now

def sendText (conversationId : Int64) (text : String) (now : ℕ) : GatewayProc T :=
  .read (fun s => s.gateway.accounts.find? fun account => account.id = s.gateway.activeAccountId) fun
    | none => .ret .done
    | some account =>
      coreCall (fun c => c.sendText (toULong conversationId) account.jid text none now) fun
        | .error _ => .ret .done
        | .ok _ => .mark <| .modify (fun s => { s with gateway := { s.gateway with
            pendingOutboxAccounts := setPlus s.gateway.pendingOutboxAccounts [account.id] } })
          (refresh (.ret .done))

def addProxy (config : UiProxyConfig) : GatewayProc T :=
  if (validateProxyConfig config).isSome then .ret (.accepted false)
  else .modify (fun s => s.withBook (s.book.addProxy config)) (refresh (.ret (.accepted true)))

def updateProxy (proxyId : String) (config : UiProxyConfig) : GatewayProc T :=
  if (validateProxyConfig config).isSome then .ret (.accepted false)
  else .read (fun s => s.book.library.any fun entry => entry.id = proxyId) fun known =>
    if known then
      .modify (fun s => s.withBook (s.book.updateProxy proxyId config)) (refresh (.ret (.accepted true)))
    else .ret (.accepted false)

/-- `outcome` is the handshake of the core and its time in milliseconds, or none
when the binding throws. -/
def pingProxy (proxyId : String) (outcome : Option (Except ProxyError Unit × ℕ)) : GatewayProc T :=
  .read (fun s => s.book.library.find? fun entry => entry.id = proxyId) fun
    | none => .ret (.probed ⟨false,none,some "unknown proxy"⟩)
    | some entry =>
      .modify (fun s => s.withBook (s.book.pingProxy proxyId outcome))
        (refresh (.ret (.probed (testProxy entry.toConfig outcome))))

/-- Every account that used the proxy falls back to a direct connection. -/
def clearProxies (next : GatewayProc T) : List Int64 → GatewayProc T
  | [] => next
  | accountId :: rest =>
    coreCall (fun c => c.setAccountProxies (toULong accountId) []) fun
      | .ok () => .mark (clearProxies next rest)
      | .error _ => clearProxies next rest

def deleteProxy (proxyId : String) : GatewayProc T :=
  .read (fun s => s.book.library.any fun entry => entry.id = proxyId) fun known =>
    if known then
      .modify (fun s => s.withBook
          (s.book.writeLibrary (s.book.library.filter fun entry => entry.id ≠ proxyId))) <|
        .read (fun s => (s.book.assignments.retain fun _ id => id = proxyId).keys) fun affectedAccounts =>
          .modify (fun s => s.withBook
              (s.book.writeAssignments (s.book.assignments.retain fun _ id => id ≠ proxyId))) <|
            clearProxies (refresh (.ret .done)) affectedAccounts
    else .ret .done

/-- `set_account_proxies` of the binding, which checks the configuration first. -/
def assignProxy (accountId : Int64) (config : UiProxyConfig) (c : MindChatCore) :
    Option Unit × MindChatCore :=
  match ProxyConfig.new config.toFfi.host config.toFfi.port config.toFfi.kind with
  | .error _ => (none,c)
  | .ok proxy =>
    match c.setAccountProxies (toULong accountId) [proxy] with
    | (.error _,c) => (none,c)
    | (.ok (),c) => (some (),c)

/-- A refused assignment is rolled back. -/
def afterAssignment (previousAssignments : Table Int64 String) : Option Unit → GatewayProc T
  | some () => .mark (refresh (.ret (.accepted true)))
  | none => .modify (fun s => s.withBook (s.book.writeAssignments previousAssignments))
      (refresh (.ret (.accepted false)))

def setAccountProxy (accountId : Int64) (config : Option UiProxyConfig) : GatewayProc T :=
  match config with
  | none =>
    .modify (fun s => s.withBook (s.book.writeAssignments (s.book.assignments.erase accountId))) <|
      coreCall (fun c => c.setAccountProxies (toULong accountId) []) (marked fun _ => .accepted true)
  | some config =>
    if (validateProxyConfig config).isSome then .ret (.accepted false)
    else .read (fun s => (s.book.library.find? (fun entry => entry.toConfig = config),
        s.book.assignments)) fun
      | (none,_) => .ret (.accepted false)
      | (some entry,previousAssignments) =>
        .modify (fun s => s.withBook
            (s.book.writeAssignments (s.book.assignments.insert accountId entry.id))) <|
          coreCall (assignProxy accountId config) (afterAssignment previousAssignments)

variable [XmppTransport T]

/-- The binding checks the proxy before it opens a session through it. -/
def connect (s : NativeGateway T) (accountId : Int64) (password : String)
    (proxyPassword : Option String) : Bool × NativeGateway T :=
  match s.assignedProxyEntry accountId with
  | none =>
    match s.session.connectWithProxy (toULong accountId) password none none with
    | (r,k) => (r.isOk,s.withSession k)
  | some entry =>
    let config := entry.toConfig.toFfi
    match ProxyConfig.new config.host config.port config.kind with
    | .error _ => (false,s)
    | .ok proxy =>
      match s.session.connectWithProxy (toULong accountId) password (some proxy) proxyPassword with
      | (r,k) => (r.isOk,s.withSession k)

/-- `proxyPassword` is what the credential store holds for the assigned proxy. -/
def reconnectAccount (accountId : Int64) (password : String) (proxyPassword : Option String) :
    GatewayProc T :=
  if password = "" then .ret (.accepted false)
  else .call (fun s => s.connect accountId password proxyPassword) fun
    | true => .mark (refresh (.ret (.accepted true)))
    | false => refresh (.ret (.accepted false))

def joinAccount (accountId : AccountId) (password : String) (proxyPassword : Option String) :
    GatewayProc T :=
  .modify (fun s => s.withActive accountId) <|
    (reconnectAccount (toLong accountId) password proxyPassword).bind fun connected =>
      .mark (.ret connected)

def addAccount (jid server displayName password : String) (proxyPassword : Option String) :
    GatewayProc T :=
  if password = "" then .ret (.accepted false)
  else
    let jid := Text.trimKotlin jid
    let server := Text.trimKotlin server
    let name := Text.trimKotlin displayName
    .read (fun s => s.core.snapshot.accounts.find? fun account =>
        account.jid = jid ∧ account.server = server) fun
      | some account => joinAccount account.id password proxyPassword
      | none =>
        coreCall (fun c => c.addAccount ⟨jid,server,if name = "" then Text.before '@' jid else name⟩) fun
          | .error _ => refresh (.ret (.accepted false))
          | .ok accountId => joinAccount accountId password proxyPassword

/-- `register_account` of the binding. The `exchange` with the server leaves the
adapter changed and says whether the account was registered. -/
def bindingRegister (input : RegistrationInput) (exchange : T → Bool × T) (k : TransportCoordinator T) :
    Option AccountId × TransportCoordinator T :=
  if input.password = "" ∨ Text.trim input.username = "" ∨ Text.trim input.server = "" then (none,k)
  else MindChatCoreHandle.registerAccount k (exchange k.transport).1 (exchange k.transport).2
    input.setup input.password

/-- What follows the binding's answer. `message` is the text of its exception. -/
def afterRegistration (message : Option String) : Option AccountId → GatewayProc T
  | some accountId => .modify (fun s => s.withActive accountId) <|
      .mark (refresh (.ret (.registration none)))
  | none => refresh (.ret (.registration (some
      ((message.filter fun text => !text.toList.all Text.isWhitespaceKotlin).getD
        "registration failed"))))

def registerAccount (jid server displayName password : String) (exchange : T → Bool × T)
    (message : Option String) : GatewayProc T :=
  match validateRegistration jid server displayName password with
  | .error refusal => .ret (.registration (some refusal.toUiDetail))
  | .ok input => native (bindingRegister input exchange) (afterRegistration message)

def disconnectAccount (accountId : Int64) : GatewayProc T :=
  native (fun k => k.disconnect (toULong accountId)) (marked fun _ => .done)

def deleteAccount (accountId : Int64) (tracked : T → Bool) : GatewayProc T :=
  native (fun k => MindChatCoreHandle.deleteAccount k (toULong accountId) (tracked k.transport)) fun
    | .error _ => refresh (.ret .thrown)
    | .ok () =>
      .modify (fun s => s.withPreferences (s.preferences.removeProfile accountId)) <|
        .modify (fun s => s.withBook (s.book.writeAssignments (s.book.assignments.erase accountId))) <|
          .mark <| refresh <|
            .modify (fun s => s.withActive
                (nextActiveAccountId s.gateway.accounts (toULong accountId) s.gateway.activeAccountId))
              (.ret .done)

/-- The loop of `drainTransportEvents`; the exception of a batch leaves it. The
first argument bounds the rounds that are left. -/
def drainTransportEvents (next : Option ℕ → GatewayProc T) :
    ℕ → (previousBatchSize batchesUsed eventsProcessed : ℕ) → GatewayProc T
  | 0, _, _, eventsProcessed => next (some eventsProcessed)
  | left + 1, previousBatchSize, batchesUsed, eventsProcessed =>
    let step := nextDrainStep previousBatchSize batchesUsed eventsProcessed
    if step.continueDraining then
      native (fun k => MindChatCoreHandle.pollTransportEvents k step.batchSize) fun
        | .ok batch => drainTransportEvents next left batch (batchesUsed + 1) (eventsProcessed + batch)
        | .error _ => next none
    else next (some eventsProcessed)

def flushAccounts (elapsed : AccountId → ℕ → ℕ) (next : GatewayProc T) :
    List AccountId → GatewayProc T
  | [] => next
  | accountId :: rest =>
    native (fun k => MindChatCoreHandle.flushOutbox (elapsed accountId) k accountId) fun _ =>
      flushAccounts elapsed next rest

def finishPoll (onlineBefore : List AccountId) (snapshot : CoreSnapshot)
    (flushedAccounts : List AccountId) : GatewayProc T :=
  .suspend <| .modify (fun s => { s with gateway := { s.gateway with
      pendingOutboxAccounts :=
        setPlus (s.gateway.pendingOutboxAccounts.filter fun a => a ∉ flushedAccounts)
          (snapshot.onlineAccounts.filter fun a => a ∉ onlineBefore) } }) <|
    refreshWith snapshot (.ret .done)

def settlePoll (elapsed : AccountId → ℕ → ℕ) (pendingAccounts onlineBefore : List AccountId) :
    Option ℕ → GatewayProc T
  | none =>
    .read (fun s => s.core.snapshot) fun snapshot =>
      .mark (.save (finishPoll onlineBefore snapshot []))
  | some processedEvents =>
    if processedEvents = 0 ∧ ∀ a ∈ pendingAccounts, a ∉ onlineBefore then .suspend (.ret .done)
    else
      let capture : GatewayProc T := .read (fun s => s.core.snapshot) fun snapshot =>
        .requiresSave fun due =>
          if due then .save (finishPoll onlineBefore snapshot pendingAccounts)
          else finishPoll onlineBefore snapshot pendingAccounts
      flushAccounts elapsed
        (if 0 < processedEvents ∨ pendingAccounts ≠ [] then .mark capture else capture) pendingAccounts

def pollTransport (elapsed : AccountId → ℕ → ℕ) : GatewayProc T :=
  .read (fun s => (s.gateway.pendingOutboxAccounts,s.gateway.onlineAccounts)) fun
    | (pendingAccounts,onlineBefore) => .suspend <|
      drainTransportEvents (settlePoll elapsed pendingAccounts onlineBefore)
        (maxDrainBatchesPerCycle + 1) maxEventsPerDrainBatch 0 0

def persistNow : GatewayProc T :=
  .suspend <| .requiresSave fun due =>
    if due then .save (.suspend (.ret .done)) else .suspend (.ret .done)

end NativeGateway

/-- A call of the gateway with what it meets outside. -/
inductive GatewayCall (T : Type)
  | selectAccount (accountId : Int64)
  | addAccount (jid server displayName password : String) (proxyPassword : Option String)
  | registerAccount (jid server displayName password : String) (exchange : T → Bool × T)
      (message : Option String)
  | reconnectAccount (accountId : Int64) (password : String) (proxyPassword : Option String)
  | disconnectAccount (accountId : Int64)
  | markConversationRead (conversationId : Int64)
  | updateProfile (accountId : Int64) (profile : Ui.AccountProfile)
  | deleteAccount (accountId : Int64) (tracked : T → Bool)
  | renameAccount (accountId : Int64) (displayName : String)
  | deleteConversation (conversationId : Int64)
  | addContact (jid displayName : String)
  | openConversation (address title : String) (group : Bool) (now : ℕ)
  | sendText (conversationId : Int64) (text : String) (now : ℕ)
  | addProxy (config : UiProxyConfig)
  | updateProxy (proxyId : String) (config : UiProxyConfig)
  | deleteProxy (proxyId : String)
  | pingProxy (proxyId : String) (outcome : Option (Except ProxyError Unit × ℕ))
  | setAccountProxy (accountId : Int64) (config : Option UiProxyConfig)
  | pollTransport (elapsed : AccountId → ℕ → ℕ)
  | persistNow

def GatewayCall.body {T : Type} [XmppTransport T] : GatewayCall T → GatewayProc T
  | .selectAccount accountId => NativeGateway.selectAccount accountId
  | .addAccount jid server displayName password proxyPassword =>
    NativeGateway.addAccount jid server displayName password proxyPassword
  | .registerAccount jid server displayName password exchange message =>
    NativeGateway.registerAccount jid server displayName password exchange message
  | .reconnectAccount accountId password proxyPassword =>
    NativeGateway.reconnectAccount accountId password proxyPassword
  | .disconnectAccount accountId => NativeGateway.disconnectAccount accountId
  | .markConversationRead conversationId => NativeGateway.markConversationRead conversationId
  | .updateProfile accountId profile => NativeGateway.updateProfile accountId profile
  | .deleteAccount accountId tracked => NativeGateway.deleteAccount accountId tracked
  | .renameAccount accountId displayName => NativeGateway.renameAccount accountId displayName
  | .deleteConversation conversationId => NativeGateway.deleteConversation conversationId
  | .addContact jid displayName => NativeGateway.addContact jid displayName
  | .openConversation address title group now => NativeGateway.openConversation address title group now
  | .sendText conversationId text now => NativeGateway.sendText conversationId text now
  | .addProxy config => NativeGateway.addProxy config
  | .updateProxy proxyId config => NativeGateway.updateProxy proxyId config
  | .deleteProxy proxyId => NativeGateway.deleteProxy proxyId
  | .pingProxy proxyId outcome => NativeGateway.pingProxy proxyId outcome
  | .setAccountProxy accountId config => NativeGateway.setAccountProxy accountId config
  | .pollTransport elapsed => NativeGateway.pollTransport elapsed
  | .persistNow => NativeGateway.persistNow

end MindChat
