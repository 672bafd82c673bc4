import MindChat.Domain

/-! The in-memory domain core as its source computes it. A mutator returns its
result together with the core afterwards, so a failing call shows what it left
behind. Identifier arithmetic is that of `u64`. -/

namespace MindChat

structure MindChatCore where
  nextAccountId : AccountId
  nextConversationId : ConversationId
  nextMessageId : MessageId
  nextReactionId : ReactionId
  accounts : Table AccountId Account
  contacts : Table (AccountId × String) Contact
  conversations : Table ConversationId Conversation
  messages : Table MessageId Message
  reactions : Table ReactionId Reaction
  events : List CoreEvent
  deriving DecidableEq

namespace MindChatCore

def default : MindChatCore := ⟨0,0,0,0,∅,∅,∅,∅,∅,[]⟩

def push (c : MindChatCore) (e : CoreEvent) : MindChatCore := { c with events := c.events ++ [e] }

/-- `iter().map(id).max().unwrap_or(0) + 1`. -/
def nextAfter (ids : List ℕ) : ℕ := u64Succ (ids.foldl max 0)

/-- Counters are recomputed from the records, which are keyed by their own ids. -/
def fromSnapshot (s : CoreSnapshot) : MindChatCore where
  nextAccountId := nextAfter (s.accounts.map Account.id)
  nextConversationId := nextAfter (s.conversations.map Conversation.id)
  nextMessageId := nextAfter (s.messages.map Message.id)
  nextReactionId := nextAfter (s.reactions.map Reaction.id)
  accounts := Table.collect Account.id s.accounts
  contacts := Table.collect (fun item => (item.accountId,item.jid)) s.contacts
  conversations := Table.collect Conversation.id s.conversations
  messages := Table.collect Message.id s.messages
  reactions := Table.collect Reaction.id s.reactions
  events := []

def snapshot (c : MindChatCore) : CoreSnapshot where
  accounts := Listing.sortByKey Account.id c.accounts.values
  contacts := Listing.sortByKey (fun item => toLex (item.accountId,item.jid)) c.contacts.values
  conversations := Listing.sortByKey Conversation.id c.conversations.values
  messages := Listing.sortByKey Message.id c.messages.values
  reactions := Listing.sortByKey Reaction.id c.reactions.values

/-- The id an allocator returns for its counter: `next.max(1)`. -/
def allocated (next : ℕ) : ℕ := max next 1

def allocateAccountId (c : MindChatCore) : AccountId × MindChatCore :=
  (allocated c.nextAccountId,{ c with nextAccountId := u64Succ (allocated c.nextAccountId) })

def allocateConversationId (c : MindChatCore) : ConversationId × MindChatCore :=
  (allocated c.nextConversationId,
    { c with nextConversationId := u64Succ (allocated c.nextConversationId) })

def allocateMessageId (c : MindChatCore) : MessageId × MindChatCore :=
  (allocated c.nextMessageId,{ c with nextMessageId := u64Succ (allocated c.nextMessageId) })

def allocateReactionId (c : MindChatCore) : ReactionId × MindChatCore :=
  (allocated c.nextReactionId,{ c with nextReactionId := u64Succ (allocated c.nextReactionId) })

def ensureAccount (c : MindChatCore) (accountId : AccountId) : Except CoreError Unit :=
  if (c.accounts.lookup accountId).isSome then .ok () else .error (.unknownAccount accountId)

def ensureConversation (c : MindChatCore) (conversationId : ConversationId) : Except CoreError Unit :=
  if (c.conversations.lookup conversationId).isSome then .ok ()
  else .error (.unknownConversation conversationId)

def ensureConversationCapability (c : MindChatCore) (conversationId : ConversationId)
    (capability : ProtocolCapability) : Except CoreError Unit :=
  match c.conversations.lookup conversationId with
  | none => .error (.unknownConversation conversationId)
  | some conversation =>
    match c.accounts.lookup conversation.accountId with
    | none => .error (.unknownAccount conversation.accountId)
    | some account =>
      if capability ∈ account.capabilities then .ok ()
      else .error (.capabilityUnavailable capability)

def addAccount (c : MindChatCore) (setup : AccountSetup) : Except CoreError AccountId × MindChatCore :=
  match validateJid setup.jid with
  | .error e => (.error e,c)
  | .ok () =>
    match validateServer setup.server with
    | .error e => (.error e,c)
    | .ok () =>
      let (id,c) := c.allocateAccountId
      let account : Account :=
        { id := id, jid := setup.jid, server := setup.server, displayName := setup.displayName,
          connectionState := .offline, capabilities := ∅, connectionError := none,
          disconnectKind := none, autoReconnect := true, proxies := [] }
      (.ok id,{ c with accounts := c.accounts.insert id account }.push (.accountChanged id))

/-- `get_mut` on one account, a change of the record, and `AccountChanged`. -/
def updateAccount (c : MindChatCore) (accountId : AccountId) (change : Account → Account) :
    Except CoreError Unit × MindChatCore :=
  match c.accounts.lookup accountId with
  | none => (.error (.unknownAccount accountId),c)
  | some account =>
    (.ok (),{ c with accounts := c.accounts.insert accountId (change account) }.push
      (.accountChanged accountId))

def setConnectionState (c : MindChatCore) (accountId : AccountId) (state : ConnectionState) :
    Except CoreError Unit × MindChatCore :=
  c.updateAccount accountId (fun account =>
    if state = .connecting ∨ state = .online then
      { account with connectionState := state, connectionError := none, disconnectKind := none }
    else { account with connectionState := state })

def setCapabilities (c : MindChatCore) (accountId : AccountId)
    (capabilities : Finset ProtocolCapability) : Except CoreError Unit × MindChatCore :=
  c.updateAccount accountId (fun account => { account with capabilities := capabilities })

def upsertContact (c : MindChatCore) (accountId : AccountId) (jid displayName : String)
    (presence : ContactPresence) (status : Option String) : Except CoreError Unit × MindChatCore :=
  match c.ensureAccount accountId with
  | .error e => (.error e,c)
  | .ok () =>
    match validateJid jid with
    | .error e => (.error e,c)
    | .ok () =>
      let contact : Contact :=
        { accountId := accountId, jid := jid, displayName := normalizeContactName displayName jid,
          presence := presence, status := normalizeStatus status, subscription := .none }
      (.ok (),{ c with contacts := c.contacts.insert (accountId,jid) contact }.push
        (.rosterChanged accountId))

/-- Unknown accounts and invalid JIDs are skipped with `Ok(false)`. -/
def syncRosterContact (c : MindChatCore) (accountId : AccountId) (jid displayName : String)
    (subscription : RosterSubscription) : Except CoreError Bool × MindChatCore :=
  if (c.accounts.lookup accountId).isNone then (.ok false,c)
  else match validateJid jid with
  | .error _ => (.ok false,c)
  | .ok () =>
    let existing := c.contacts.lookup (accountId,jid)
    let contact : Contact :=
      { accountId := accountId, jid := jid, displayName := normalizeContactName displayName jid,
        presence := (existing.map Contact.presence).getD .offline,
        status := existing.bind Contact.status, subscription := subscription }
    (.ok true,{ c with contacts := c.contacts.insert (accountId,jid) contact }.push
      (.rosterChanged accountId))

def removeContact (c : MindChatCore) (accountId : AccountId) (jid : String) :
    Except CoreError Bool × MindChatCore :=
  if (c.accounts.lookup accountId).isNone then (.ok false,c)
  else match validateJid jid with
  | .error _ => (.ok false,c)
  | .ok () =>
    if (c.contacts.lookup (accountId,jid)).isSome then
      (.ok true,{ c with contacts := c.contacts.erase (accountId,jid) }.push (.rosterChanged accountId))
    else (.ok false,c)

def updateContactPresence (c : MindChatCore) (accountId : AccountId) (jid : String)
    (presence : ContactPresence) (status : Option String) : Except CoreError Bool × MindChatCore :=
  if (c.accounts.lookup accountId).isNone then (.ok false,c)
  else match validateJid jid with
  | .error _ => (.ok false,c)
  | .ok () =>
    match c.contacts.lookup (accountId,jid) with
    | none => (.ok false,c)
    | some contact =>
      let contact := { contact with presence := presence, status := normalizeStatus status }
      (.ok true,{ c with contacts := c.contacts.insert (accountId,jid) contact }.push
        (.rosterChanged accountId))

def findConversation (c : MindChatCore) (accountId : AccountId) (kind : ConversationKind)
    (address : String) : Option Conversation :=
  c.conversations.values.find? (fun item =>
    item.accountId = accountId ∧ item.kind = kind ∧ item.address = address)

def insertConversation (c : MindChatCore) (accountId : AccountId) (kind : ConversationKind)
    (address title : String) (now : ℕ) : ConversationId × MindChatCore :=
  let (id,c) := c.allocateConversationId
  let conversation : Conversation :=
    { id := id, accountId := accountId, kind := kind, address := address, title := title,
      unreadCount := 0, lastActivityEpochMs := now }
  (id,{ c with conversations := c.conversations.insert id conversation }.push
    (.conversationChanged id))

def openConversation (c : MindChatCore) (accountId : AccountId) (kind : ConversationKind)
    (address title : String) (now : ℕ) : Except CoreError ConversationId × MindChatCore :=
  match validateConversationAddress address with
  | .error e => (.error e,c)
  | .ok () =>
    match c.accounts.lookup accountId with
    | none => (.error (.unknownAccount accountId),c)
    | some account =>
      if kind = .multiUserChat ∧ .multiUserChat ∉ account.capabilities then
        (.error (.capabilityUnavailable .multiUserChat),c)
      else match c.findConversation accountId kind address with
      | some existing => (.ok existing.id,c)
      | none =>
        let (id,c) := c.insertConversation accountId kind address title now
        (.ok id,c)

def touchConversation (c : MindChatCore) (conversationId : ConversationId) (now : ℕ)
    (incrementUnread : Bool) : Except CoreError Unit × MindChatCore :=
  match c.conversations.lookup conversationId with
  | none => (.error (.unknownConversation conversationId),c)
  | some conversation =>
    let conversation :=
      { conversation with
        lastActivityEpochMs := now
        unreadCount := if incrementUnread then u32SaturatingSucc conversation.unreadCount
          else conversation.unreadCount }
    (.ok (),{ c with conversations := c.conversations.insert conversationId conversation }.push
      (.conversationChanged conversationId))

/-- The common tail of `send_text` and `receive_text`: store the message under
a fresh id, touch its conversation, announce it. -/
def insertMessage (c : MindChatCore) (message : MessageId → Message) (incrementUnread : Bool) :
    Except CoreError MessageId × MindChatCore :=
  let (id,c) := c.allocateMessageId
  let c := { c with messages := c.messages.insert id (message id) }
  match c.touchConversation (message id).conversationId (message id).sentAtEpochMs incrementUnread with
  | (.error e,c) => (.error e,c)
  | (.ok (),c) => (.ok id,c.push (.messageAdded id))

def checkReply (c : MindChatCore) (conversationId : ConversationId) :
    Option MessageId → Except CoreError Unit
  | none => .ok ()
  | some replyId =>
    match c.messages.lookup replyId with
    | none => .error (.unknownMessage replyId)
    | some reply =>
      if reply.conversationId = conversationId then .ok () else .error .invalidReplyTarget

def sendText (c : MindChatCore) (conversationId : ConversationId) (sender body : String)
    (inReplyTo : Option MessageId) (now : ℕ) : Except CoreError MessageId × MindChatCore :=
  match c.ensureConversation conversationId with
  | .error e => (.error e,c)
  | .ok () =>
    match c.checkReply conversationId inReplyTo with
    | .error e => (.error e,c)
    | .ok () =>
      match validateBody body with
      | .error e => (.error e,c)
      | .ok body =>
        c.insertMessage (fun id =>
          { id := id, conversationId := conversationId, sender := sender, body := body,
            direction := .outgoing, kind := .text, sentAtEpochMs := now,
            deliveryState := .pending, inReplyTo := inReplyTo, attachment := none }) false

def receiveText (c : MindChatCore) (conversationId : ConversationId) (sender body : String)
    (now : ℕ) : Except CoreError MessageId × MindChatCore :=
  match c.ensureConversation conversationId with
  | .error e => (.error e,c)
  | .ok () =>
    match validateBody body with
    | .error e => (.error e,c)
    | .ok body =>
      c.insertMessage (fun id =>
        { id := id, conversationId := conversationId, sender := sender, body := body,
          direction := .incoming, kind := .text, sentAtEpochMs := now,
          deliveryState := .delivered, inReplyTo := none, attachment := none }) true

def attach (c : MindChatCore) (messageId : MessageId) (kind : MessageKind)
    (attachment : Attachment) : Except CoreError Unit × MindChatCore :=
  if kind = .text then (.error (.capabilityUnavailable .httpFileUpload),c)
  else match c.messages.lookup messageId with
  | none => (.error (.unknownMessage messageId),c)
  | some message =>
    match c.ensureConversationCapability message.conversationId .httpFileUpload with
    | .error e => (.error e,c)
    | .ok () =>
      let message := { message with kind := kind, attachment := some attachment }
      (.ok (),{ c with messages := c.messages.insert messageId message }.push
        (.messageChanged messageId))

def setDeliveryState (c : MindChatCore) (messageId : MessageId) (state : DeliveryState) :
    Except CoreError Unit × MindChatCore :=
  match c.messages.lookup messageId with
  | none => (.error (.unknownMessage messageId),c)
  | some message =>
    let message := { message with deliveryState := state }
    (.ok (),{ c with messages := c.messages.insert messageId message }.push
      (.messageChanged messageId))

/-- Foreign, unknown and regressing receipts are ignored with `Ok(false)`. -/
def applyDeliveryUpdate (c : MindChatCore) (accountId : AccountId) (sender : String)
    (messageId : MessageId) (state : DeliveryState) : Except CoreError Bool × MindChatCore :=
  if (c.accounts.lookup accountId).isNone ∨ (validateJid sender).isOk = false then (.ok false,c)
  else match c.messages.lookup messageId with
  | none => (.ok false,c)
  | some message =>
    if message.direction ≠ .outgoing then (.ok false,c)
    else match c.conversations.lookup message.conversationId with
    | none => (.ok false,c)
    | some conversation =>
      if conversation.accountId ≠ accountId ∨ conversation.kind ≠ .direct ∨
          conversation.address ≠ sender then (.ok false,c)
      else if deliveryRank state ≤ deliveryRank message.deliveryState then (.ok false,c)
      else match c.setDeliveryState messageId state with
      | (.error e,c) => (.error e,c)
      | (.ok (),c) => (.ok true,c)

/-- The conversation an incoming text belongs to, created when there is none. -/
def targetConversation (c : MindChatCore) (accountId : AccountId) (kind : ConversationKind)
    (address : String) (receivedAt : ℕ) : ConversationId × MindChatCore :=
  match c.findConversation accountId kind address with
  | some conversation => (conversation.id,c)
  | none => c.insertConversation accountId kind address (Text.before '@' address) receivedAt

/-- The payload is validated before a conversation is created for it. -/
def receiveTransportText (c : MindChatCore) (accountId : AccountId) (kind : ConversationKind)
    (address sender body : String) (receivedAt : ℕ) :
    Except CoreError (Option MessageId) × MindChatCore :=
  if (c.accounts.lookup accountId).isNone then (.ok none,c)
  else match validateConversationAddress address with
  | .error _ => (.ok none,c)
  | .ok () =>
    match validateBody body with
    | .error e => (.error e,c)
    | .ok _ =>
      let (conversationId,c) := c.targetConversation accountId kind address receivedAt
      match c.receiveText conversationId sender body receivedAt with
      | (.error e,c) => (.error e,c)
      | (.ok id,c) => (.ok (some id),c)

def applyTransportEvent (c : MindChatCore) :
    TransportEvent → Except CoreError (Option MessageId) × MindChatCore
  | .connected accountId capabilities =>
    match c.updateAccount accountId (fun account =>
      { account with connectionState := .online, capabilities := capabilities,
                     connectionError := none, disconnectKind := none }) with
    | (_,c) => (.ok none,c)
  | .disconnected accountId recoverable detail kind =>
    match c.updateAccount accountId (fun account =>
      { account with connectionState := if recoverable then .offline else .failed,
                     connectionError := detail, disconnectKind := some kind }) with
    | (_,c) => (.ok none,c)
  | .capabilitiesDiscovered accountId capabilities =>
    if (c.accounts.lookup accountId).isSome then
      match c.setCapabilities accountId capabilities with
      | (.error e,c) => (.error e,c)
      | (.ok (),c) => (.ok none,c)
    else (.ok none,c)
  | .rosterContactUpsert accountId jid displayName subscription =>
    match c.syncRosterContact accountId jid displayName subscription with
    | (.error e,c) => (.error e,c)
    | (.ok _,c) => (.ok none,c)
  | .rosterContactRemoved accountId jid =>
    match c.removeContact accountId jid with
    | (.error e,c) => (.error e,c)
    | (.ok _,c) => (.ok none,c)
  | .contactPresenceUpdated accountId jid presence status =>
    match c.updateContactPresence accountId jid presence status with
    | (.error e,c) => (.error e,c)
    | (.ok _,c) => (.ok none,c)
  | .incomingText accountId kind address sender body receivedAt =>
    c.receiveTransportText accountId kind address sender body receivedAt
  | .deliveryUpdated accountId sender messageId state =>
    match c.applyDeliveryUpdate accountId sender messageId state with
    | (.error e,c) => (.error e,c)
    | (.ok _,c) => (.ok none,c)

def pendingOutgoingMessages (c : MindChatCore) (accountId : AccountId) :
    Except CoreError (List OutgoingMessage) :=
  if (c.accounts.lookup accountId).isNone then .error (.unknownAccount accountId)
  else .ok <| Listing.sortByKey OutgoingMessage.messageId <|
    (c.messages.values.filter (fun message => message.direction = .outgoing ∧
      (message.deliveryState = .pending ∨ message.deliveryState = .failed))).filterMap
    (fun message => (c.conversations.lookup message.conversationId).bind (fun conversation =>
      if conversation.accountId = accountId then
        some { accountId := accountId, conversationId := conversation.id, messageId := message.id,
               kind := conversation.kind, recipient := conversation.address, body := message.body,
               inReplyTo := message.inReplyTo }
      else none))

def addReaction (c : MindChatCore) (messageId : MessageId) (actor emoji : String) :
    Except CoreError ReactionId × MindChatCore :=
  match c.messages.lookup messageId with
  | none => (.error (.unknownMessage messageId),c)
  | some message =>
    match c.ensureConversationCapability message.conversationId .messageReactions with
    | .error e => (.error e,c)
    | .ok () =>
      if Text.trim emoji = "" then (.error .emptyReaction,c)
      else
        let (id,c) := c.allocateReactionId
        let reaction : Reaction := { id := id, messageId := messageId, emoji := emoji, actor := actor }
        (.ok id,{ c with reactions := c.reactions.insert id reaction }.push
          (.messageChanged messageId))

def markConversationRead (c : MindChatCore) (conversationId : ConversationId) :
    Except CoreError Unit × MindChatCore :=
  match c.conversations.lookup conversationId with
  | none => (.error (.unknownConversation conversationId),c)
  | some conversation =>
    let conversation := { conversation with unreadCount := 0 }
    (.ok (),{ c with conversations := c.conversations.insert conversationId conversation }.push
      (.conversationChanged conversationId))

def removeMessage (c : MindChatCore) (messageId : MessageId) : MindChatCore :=
  { c with reactions := c.reactions.retain (fun _ reaction => reaction.messageId ≠ messageId)
           messages := c.messages.erase messageId }

/-- Drop a conversation, its messages and their reactions without an event. -/
def removeConversationState (c : MindChatCore) (conversationId : ConversationId) : MindChatCore :=
  let messageIds := (c.messages.values.filter
    (fun message => message.conversationId = conversationId)).map Message.id
  let c := messageIds.foldl removeMessage c
  { c with conversations := c.conversations.erase conversationId }

def deleteAccount (c : MindChatCore) (accountId : AccountId) : Except CoreError Unit × MindChatCore :=
  if (c.accounts.lookup accountId).isNone then (.error (.unknownAccount accountId),c)
  else
    let conversationIds := (c.conversations.values.filter
      (fun conversation => conversation.accountId = accountId)).map Conversation.id
    let c := conversationIds.foldl removeConversationState c
    (.ok (),{ c with contacts := c.contacts.retain (fun key _ => key.1 ≠ accountId)
                     accounts := c.accounts.erase accountId }.push (.accountChanged accountId))

def deleteConversation (c : MindChatCore) (conversationId : ConversationId) :
    Except CoreError Unit × MindChatCore :=
  if (c.conversations.lookup conversationId).isNone then
    (.error (.unknownConversation conversationId),c)
  else (.ok (),(c.removeConversationState conversationId).push (.conversationChanged conversationId))

def updateAccountDisplayName (c : MindChatCore) (accountId : AccountId) (displayName : String) :
    Except CoreError Unit × MindChatCore :=
  if Text.trim displayName = "" then (.error .emptyDisplayName,c)
  else c.updateAccount accountId (fun account => { account with displayName := displayName })

def setAccountProxies (c : MindChatCore) (accountId : AccountId) (proxies : List ProxyConfig) :
    Except CoreError Unit × MindChatCore :=
  c.updateAccount accountId (fun account => { account with proxies := proxies })

def drainEvents (c : MindChatCore) : List CoreEvent × MindChatCore := (c.events,{ c with events := [] })

end MindChatCore
end MindChat
