import MindChat.Outbox

/-! The Android gateway over a coordinator: its calls on the main thread, and the
poll, whose part off that thread goes on between them one core call at a time. -/

namespace MindChat

open MindChatCore

/-- What the UI state keeps of an account, as far as the gateway reads it. -/
structure AccountUi where
  id : AccountId
  jid : String
  connectionState : ConnectionState
  deriving DecidableEq

def CoreSnapshot.onlineAccounts (snapshot : CoreSnapshot) : List AccountId :=
  (snapshot.accounts.filter (fun account => account.connectionState = .online)).map Account.id

def mapSnapshotToUiState (snapshot : CoreSnapshot) (activeAccountId : AccountId) :
    List AccountUi × AccountId :=
  let accounts : List AccountUi := snapshot.accounts.map (fun account =>
    { id := account.id, jid := account.jid, connectionState := account.connectionState })
  (accounts,if activeAccountId = 0 ∨ ∀ account ∈ accounts, account.id ≠ activeAccountId then
      ((accounts.head?).map AccountUi.id).getD 0
    else activeAccountId)

def nextActiveAccountId (accounts : List AccountUi) (deletedId activeAccountId : AccountId) :
    AccountId :=
  if activeAccountId = deletedId then
    ((accounts.find? (fun account => account.id ≠ deletedId)).map AccountUi.id).getD 0
  else activeAccountId

section

variable {N : Type} [OfNat N 128] [OfNat N 512]

def maxEventsPerDrainBatch : N := 128
def maxDrainBatchesPerCycle : ℕ := 4
def maxEventsPerDrainCycle : N := 512

structure DrainStep (N : Type) where
  batchSize : N
  continueDraining : Bool

/-- The counters are unsigned in the source; the polls here count with `ℕ`, which is the
same as long as the budget holds. -/
def nextDrainStep [OfNat N 0] [LE N] [DecidableLE N] [LT N] [DecidableLT N] [Min N] [Sub N]
    (previousBatchSize : N) (batchesUsed : ℕ) (eventsProcessed : N) : DrainStep N :=
  if maxDrainBatchesPerCycle ≤ batchesUsed then ⟨0,false⟩
  else if maxEventsPerDrainCycle ≤ eventsProcessed then ⟨0,false⟩
  else if previousBatchSize < maxEventsPerDrainBatch then ⟨0,false⟩
  else ⟨min maxEventsPerDrainBatch (maxEventsPerDrainCycle - eventsProcessed),true⟩

end

/-- `toSet()` of two insertion-ordered sets, the first one first. -/
def setPlus (xs ys : List AccountId) : List AccountId := xs ++ ys.filter (fun y => y ∉ xs)

namespace MindChatCoreHandle

variable {T : Type} [XmppTransport T]

def maxTransportEventsPerPoll : ℕ := 128

def pollTransportEvents (k : TransportCoordinator T) (maxEvents : ℕ) :
    Except TransportCoordinatorError ℕ × TransportCoordinator T :=
  k.pollTransportEvents (min maxEvents maxTransportEventsPerPoll)

/-- An account that is not online keeps its queue. -/
def flushOutbox (elapsed : ℕ → ℕ) (k : TransportCoordinator T) (accountId : AccountId) :
    Except TransportCoordinatorError ℕ × TransportCoordinator T :=
  match k.core.connection accountId with
  | none => (.error (.core (.unknownAccount accountId)),k)
  | some connectionState =>
    if connectionState ≠ .online then (.ok 0,k) else k.flushOutbox elapsed accountId

/-- `tracked` says whether the adapter tracks a worker of the account. -/
def deleteAccount (k : TransportCoordinator T) (accountId : AccountId) (tracked : Bool) :
    Except CoreError Unit × TransportCoordinator T :=
  if (k.core.accounts.lookup accountId).isNone then (.error (.unknownAccount accountId),k)
  else
    let t := if tracked then (XmppTransport.disconnect k.transport accountId).2 else k.transport
    match k.core.deleteAccount accountId with
    | (r,c) => (r,⟨c,t⟩)

/-- The exchange with the server leaves the adapter `t` and says whether the
account was `registered`. -/
def registerAccount (k : TransportCoordinator T) (registered : Bool) (t : T) (setup : AccountSetup)
    (password : String) : Option AccountId × TransportCoordinator T :=
  if registered = false then (none,{ k with transport := t })
  else match k.core.addAccount setup with
  | (.error _,c) => (none,⟨c,t⟩)
  | (.ok accountId,c) =>
    match TransportCoordinator.connectWithProxy ⟨c,t⟩ accountId password none none with
    | (.error _,k) => (none,k)
    | (.ok (),k) => (some accountId,k)

end MindChatCoreHandle

structure TransportPollResult where
  snapshot : CoreSnapshot
  flushedAccounts : List AccountId

/-- Where the part of a poll off the main thread stands. A result of `none` means
that the poll found nothing to do. -/
inductive PollPhase
  | draining (previousBatchSize batchesUsed eventsProcessed : ℕ)
  | flushing (flushedAccounts left : List AccountId)
  | capturing (flushedAccounts : List AccountId)
  | captured (result : Option TransportPollResult)

/-- A poll in progress, with what it read on the main thread. -/
structure Poll where
  pendingAccounts : List AccountId
  onlineBefore : List AccountId
  phase : PollPhase

/-- `pendingOutboxAccounts` is in insertion order. -/
structure Gateway (T : Type) where
  session : TransportCoordinator T
  activeAccountId : AccountId
  accounts : List AccountUi
  pendingOutboxAccounts : List AccountId
  poll : Option Poll

namespace Gateway

variable {T : Type}

def core (g : Gateway T) : MindChatCore := g.session.core

def onlineAccounts (g : Gateway T) : List AccountId :=
  (g.accounts.filter (fun account => account.connectionState = .online)).map AccountUi.id

def withCore (g : Gateway T) (c : MindChatCore) : Gateway T :=
  { g with session := { g.session with core := c } }

/-- Mapping an unchanged snapshot again gives the accounts that are shown already,
so the shortcut of the source is not taken apart here. -/
def refreshWith (g : Gateway T) (snapshot : CoreSnapshot) : Gateway T :=
  let (accounts,activeAccountId) := mapSnapshotToUiState snapshot g.activeAccountId
  { g.withCore g.core.drainEvents.2 with accounts := accounts, activeAccountId := activeAccountId }

def refresh (g : Gateway T) : Gateway T := g.refreshWith g.core.snapshot

def start (k : TransportCoordinator T) : Gateway T :=
  refresh { session := k, activeAccountId := 0, accounts := [], pendingOutboxAccounts := [], poll := none }

def selectAccount (g : Gateway T) (accountId : AccountId) : Gateway T :=
  if ∃ account ∈ g.accounts, account.id = accountId then
    { g with activeAccountId := accountId }.refresh
  else g

/-- The first half of `addAccount`; the second is `reconnectAccount`. -/
def createAccount (g : Gateway T) (jid server displayName : String) : Gateway T :=
  let jid := Text.trimKotlin jid
  let server := Text.trimKotlin server
  match g.core.snapshot.accounts.find? (fun account => account.jid = jid ∧ account.server = server) with
  | some account => { g with activeAccountId := account.id }
  | none =>
    let name := Text.trimKotlin displayName
    match g.core.addAccount ⟨jid,server,if name = "" then Text.before '@' jid else name⟩ with
    | (.error _,c) => (g.withCore c).refresh
    | (.ok accountId,c) => { g.withCore c with activeAccountId := accountId }

def markConversationRead (g : Gateway T) (conversationId : ConversationId) : Gateway T :=
  (g.withCore (g.core.markConversationRead conversationId).2).refresh

def renameAccount (g : Gateway T) (accountId : AccountId) (displayName : String) : Gateway T :=
  let name := Text.trimKotlin displayName
  if name = "" then g else (g.withCore (g.core.updateAccountDisplayName accountId name).2).refresh

def deleteConversation (g : Gateway T) (conversationId : ConversationId) : Gateway T :=
  (g.withCore (g.core.deleteConversation conversationId).2).refresh

def setAccountProxies (g : Gateway T) (accountId : AccountId) (proxies : List ProxyConfig) :
    Gateway T :=
  (g.withCore (g.core.setAccountProxies accountId proxies).2).refresh

def addContact (g : Gateway T) (jid displayName : String) : Gateway T :=
  if g.activeAccountId = 0 then g
  else match g.core.upsertContact g.activeAccountId (Text.trimKotlin jid) (Text.trimKotlin displayName)
      .offline none with
  | (.error _,c) => g.withCore c
  | (.ok (),c) => (g.withCore c).refresh

def openLocalConversation (g : Gateway T) (accountId : AccountId) (address title : String)
    (group : Bool) (now : ℕ) : Gateway T :=
  let kind := if group then ConversationKind.multiUserChat else .direct
  let name := Text.trimKotlin title
  match g.core.openConversation accountId kind (Text.trimKotlin address)
      (if name = "" then Text.before '@' address else name) now with
  | (.error _,c) => g.withCore c
  | (.ok _,c) => (g.withCore c).refresh

/-- The text goes out under the active account, whose id is scheduled. -/
def sendText (g : Gateway T) (conversationId : ConversationId) (text : String) (now : ℕ) :
    Gateway T :=
  match g.accounts.find? (fun account => account.id = g.activeAccountId) with
  | none => g
  | some account =>
    match g.core.sendText conversationId account.jid text none now with
    | (.error _,c) => g.withCore c
    | (.ok _,c) =>
      { g.withCore c with
        pendingOutboxAccounts := setPlus g.pendingOutboxAccounts [account.id] }.refresh

def startPoll (g : Gateway T) : Option (Gateway T) :=
  if g.poll.isNone then
    let p : Poll :=
      { pendingAccounts := g.pendingOutboxAccounts, onlineBefore := g.onlineAccounts,
        phase := .draining maxEventsPerDrainBatch 0 0 }
    some { g with poll := some p }
  else none

def finishPoll (g : Gateway T) : Option (Gateway T) :=
  match g.poll with
  | some ⟨_,_,.captured none⟩ => some { g with poll := none }
  | some ⟨_,onlineBefore,.captured (some result)⟩ =>
    let kept := g.pendingOutboxAccounts.filter (fun a => a ∉ result.flushedAccounts)
    let onlineNow := result.snapshot.onlineAccounts
    some ({ g with
      pendingOutboxAccounts := setPlus kept (onlineNow.filter (fun a => a ∉ onlineBefore))
      poll := none }.refreshWith result.snapshot)
  | _ => none

/-- The loop around the poll is cancelled: before the work off the main thread
began, or while it ran, and then its result is dropped. -/
def cancelPoll (g : Gateway T) : Option (Gateway T) :=
  match g.poll with
  | some ⟨_,_,.draining _ 0 0⟩ => some { g with poll := none }
  | some ⟨_,_,.captured _⟩ => some { g with poll := none }
  | _ => none

variable [XmppTransport T]

/-- `proxy` and its password are what the libraries assign to the account. -/
def reconnectAccount (g : Gateway T) (accountId : AccountId) (password : String)
    (proxy : Option ProxyConfig) (proxyPassword : Option String) : Gateway T :=
  if password = "" then g
  else
    { g with session := (g.session.connectWithProxy accountId password proxy proxyPassword).2 }.refresh

def registerAccount (g : Gateway T) (registered : Bool) (t : T) (setup : AccountSetup)
    (password : String) : Gateway T :=
  match MindChatCoreHandle.registerAccount g.session registered t setup password with
  | (none,k) => { g with session := k }.refresh
  | (some accountId,k) => { g with session := k, activeAccountId := accountId }.refresh

def disconnectAccount (g : Gateway T) (accountId : AccountId) : Gateway T :=
  { g with session := (g.session.disconnect accountId).2 }.refresh

def deleteAccount (g : Gateway T) (accountId : AccountId) (tracked : Bool) : Gateway T :=
  match MindChatCoreHandle.deleteAccount g.session accountId tracked with
  | (.error _,k) => { g with session := k }.refresh
  | (.ok (),k) =>
    let g := { g with session := k }.refresh
    { g with activeAccountId := nextActiveAccountId g.accounts accountId g.activeAccountId }

def toPhase (g : Gateway T) (p : Poll) (phase : PollPhase) : Gateway T :=
  { g with poll := some { p with phase := phase } }

/-- One core call of the poll off the main thread. -/
def pollIo (g : Gateway T) (elapsed : ℕ → ℕ) (p : Poll) : Option (Gateway T) :=
  match p.phase with
  | .draining previousBatchSize batchesUsed eventsProcessed =>
    let step := nextDrainStep previousBatchSize batchesUsed eventsProcessed
    if step.continueDraining then
      match MindChatCoreHandle.pollTransportEvents g.session step.batchSize with
      | (.ok batch,k) =>
        some ({ g with session := k }.toPhase p
          (.draining batch (batchesUsed + 1) (eventsProcessed + batch)))
      -- the fallback of the source: what was applied is shown, nothing is flushed
      | (.error _,k) => some ({ g with session := k }.toPhase p (.capturing []))
    else if eventsProcessed = 0 ∧ ∀ a ∈ p.pendingAccounts, a ∉ p.onlineBefore then
      some (g.toPhase p (.captured none))
    else some (g.toPhase p (.flushing [] p.pendingAccounts))
  | .flushing flushedAccounts [] => some (g.toPhase p (.capturing flushedAccounts))
  | .flushing flushedAccounts (accountId :: left) =>
    let session := (MindChatCoreHandle.flushOutbox elapsed g.session accountId).2
    some ({ g with session := session }.toPhase p (.flushing (flushedAccounts ++ [accountId]) left))
  | .capturing flushedAccounts =>
    some (g.toPhase p (.captured (some ⟨g.core.snapshot,flushedAccounts⟩)))
  | .captured _ => none

end Gateway

/-- A call on the main thread, a core call of the poll, or a move of the adapter
by itself. A core call between a main-thread call and the refresh at its end is
the run with one more `refresh`, which settings and profiles make too. -/
inductive GatewayOp (T : Type)
  | selectAccount (accountId : AccountId)
  | createAccount (jid server displayName : String)
  | reconnectAccount (accountId : AccountId) (password : String) (proxy : Option ProxyConfig)
      (proxyPassword : Option String)
  | registerAccount (registered : Bool) (t : T) (setup : AccountSetup) (password : String)
  | disconnectAccount (accountId : AccountId)
  | deleteAccount (accountId : AccountId) (tracked : Bool)
  | markConversationRead (conversationId : ConversationId)
  | renameAccount (accountId : AccountId) (displayName : String)
  | deleteConversation (conversationId : ConversationId)
  | setAccountProxies (accountId : AccountId) (proxies : List ProxyConfig)
  | addContact (jid displayName : String)
  | openLocalConversation (accountId : AccountId) (address title : String) (group : Bool) (now : ℕ)
  | sendText (conversationId : ConversationId) (text : String) (now : ℕ)
  | refresh
  | startPoll
  | pollIo (elapsed : ℕ → ℕ)
  | finishPoll
  | cancelPoll
  | adapter (t : T)

variable {T : Type} [XmppTransport T]

def Gateway.step (g : Gateway T) : GatewayOp T → Option (Gateway T)
  | .selectAccount accountId => some (g.selectAccount accountId)
  | .createAccount jid server displayName => some (g.createAccount jid server displayName)
  | .reconnectAccount accountId password proxy proxyPassword =>
    some (g.reconnectAccount accountId password proxy proxyPassword)
  | .registerAccount registered t setup password =>
    some (g.registerAccount registered t setup password)
  | .disconnectAccount accountId => some (g.disconnectAccount accountId)
  | .deleteAccount accountId tracked => some (g.deleteAccount accountId tracked)
  | .markConversationRead conversationId => some (g.markConversationRead conversationId)
  | .renameAccount accountId displayName => some (g.renameAccount accountId displayName)
  | .deleteConversation conversationId => some (g.deleteConversation conversationId)
  | .setAccountProxies accountId proxies => some (g.setAccountProxies accountId proxies)
  | .addContact jid displayName => some (g.addContact jid displayName)
  | .openLocalConversation accountId address title group now =>
    some (g.openLocalConversation accountId address title group now)
  | .sendText conversationId text now => some (g.sendText conversationId text now)
  | .refresh => some g.refresh
  | .startPoll => g.startPoll
  | .pollIo elapsed => g.poll.bind (g.pollIo elapsed)
  | .finishPoll => g.finishPoll
  | .cancelPoll => g.cancelPoll
  | .adapter t => some { g with session := { g.session with transport := t } }

end MindChat
