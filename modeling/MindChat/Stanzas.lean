import MindChat.StableIds

/-! What the XMPP client library hands to a worker and how the worker reads it:
library errors and their classification, stanzas and their translation into
transport events. Payloads appear as the parsers of the library leave them. -/

namespace MindChat

inductive SaslCondition
  | temporaryAuthFailure
  | other (name : String)
  deriving DecidableEq

inductive AuthError
  | noMechanism
  | sasl (text : String)
  | fail (condition : SaslCondition)
  | componentFail
  deriving DecidableEq

/-- A certificate failure is what `is_tls_verification_error` accepts of `tls`. -/
inductive TlsConnectorError
  | tls (certificate : Bool) (text : String)
  | dnsNameError (text : String)
  deriving DecidableEq

/-- `tokio_xmpp::Error`; the texts are those of the wrapped errors. -/
inductive XmppError
  | io (text : String)
  | jidParse (text : String)
  | protocol (text : String)
  | auth (error : AuthError)
  | disconnected
  | invalidState
  | fmt (text : String)
  | utf8 (text : String)
  | connection (text : String)
  | dnsProto (text : String)
  | dnsNet (text : String)
  | idna
  | addr (text : String)
  | streamError (text : String)
  | tls (error : TlsConnectorError)
  | reconnectBudgetExhausted
  deriving DecidableEq

def SaslCondition.text : SaslCondition → String
  | .temporaryAuthFailure => "TemporaryAuthFailure"
  | .other name => name

def AuthError.text : AuthError → String
  | .noMechanism => "no matching SASL mechanism available"
  | .sasl text => "local SASL implementation error: " ++ text
  | .fail condition => "failure from the server: " ++ condition.text
  | .componentFail => "component authentication failure"

def TlsConnectorError.text : TlsConnectorError → String
  | .tls _ text => "TLS error: " ++ text
  | .dnsNameError text => "DNS name error: " ++ text

namespace XmppError

def text : XmppError → String
  | .io text => "I/O error: " ++ text
  | .jidParse text => "JID parse error: " ++ text
  | .protocol text => "protocol error: " ++ text
  | .auth error => "authentication error: " ++ error.text
  | .disconnected => "disconnected"
  | .invalidState => "invalid state"
  | .fmt text => "fmt error: " ++ text
  | .utf8 text => "UTF-8 error: " ++ text
  | .connection text => "connection error: " ++ text
  | .dnsProto text => text
  | .dnsNet text => text
  | .idna => "IDNA error"
  | .addr text => "wrong network address: " ++ text
  | .streamError text => text
  | .tls error => "TLS error: " ++ error.text
  | .reconnectBudgetExhausted => "reconnect attempts exceeded the retry budget"

def isAuthError : XmppError → Bool
  | .auth (.fail .temporaryAuthFailure) => false
  | .auth _ => true
  | _ => false

def isTlsVerificationError : XmppError → Bool
  | .tls (.tls certificate _) => certificate
  | .tls (.dnsNameError _) => true
  | _ => false

def classifyDisconnect (error : XmppError) : DisconnectKind :=
  if error.isTlsVerificationError then .tlsVerificationFailed
  else match error with
  | .auth _ => .authenticationFailed
  | .streamError _ => .serverRefused
  | .io _ | .disconnected | .connection _ | .addr _ | .dnsProto _ | .dnsNet _ | .idna
  | .reconnectBudgetExhausted | .tls _ => .networkLost
  | .jidParse _ | .protocol _ | .invalidState | .fmt _ | .utf8 _ => .unknown

def disconnectedIsRecoverable (error : XmppError) : Bool :=
  !error.isAuthError && !error.isTlsVerificationError

def toTransportError : XmppError → TransportError
  | .auth _ => .authenticationFailed
  | error => .connectionFailed error.text

end XmppError

inductive MessageType
  | chat | error | groupchat | headline | normal
  deriving DecidableEq

/-- A payload of a message; `received` and `request` carry what their parser
made of them. -/
inductive MessagePayload
  | received (id : Option String)
  | request (valid : Bool)
  | other
  deriving DecidableEq

/-- A message with the bare address of its sender and the body the library
prefers for the languages `ru` and `en`. -/
structure MessageStanza where
  type : MessageType
  sender : Option String
  id : Option String
  bestBody : Option String
  payloads : List MessagePayload
  deriving DecidableEq

inductive PresenceType
  | available | error | probe | subscribe | subscribed | unavailable | unsubscribe | unsubscribed
  deriving DecidableEq

inductive Show
  | away | chat | dnd | xa
  deriving DecidableEq

/-- Statuses are listed in the order of their language. -/
structure PresenceStanza where
  sender : Option String
  type : PresenceType
  availability : Option Show
  statuses : List (String × String)
  deriving DecidableEq

inductive Subscription
  | none | toContact | fromContact | both | remove
  deriving DecidableEq

structure RosterItem where
  jid : String
  name : Option String
  subscription : Subscription
  asks : Bool
  deriving DecidableEq

/-- The features of a discovery answer that the worker knows, by the namespace
they stand for. -/
inductive DiscoFeature
  | muc | mam | sm | httpUpload | push | receipts | displayedMarkers | chatStates | reactions
  | messageCorrect | reply | omemo | other (var : String)
  deriving DecidableEq

/-- A query payload with what its parser made of it. -/
inductive IqPayload
  | roster (items : Option (List RosterItem))
  | discoInfo (features : Option (List DiscoFeature))
  | other
  deriving DecidableEq

inductive IqStanza
  | result (id : String) (payload : Option IqPayload)
  | set (sender : Option String) (id : String) (payload : IqPayload)
  | other
  deriving DecidableEq

/-- `tokio_xmpp::Event`. `serverJid` is the domain of the bound address, if it
is an address itself. -/
inductive ClientEvent
  | online (serverJid : Option String) (streamManagement : Bool)
  | disconnected (error : XmppError)
  | message (stanza : MessageStanza)
  | presence (stanza : PresenceStanza)
  | iq (stanza : IqStanza)
  deriving DecidableEq

/-- What the worker writes to the stream. -/
inductive ClientStanza
  | available
  | rosterQuery (id : String)
  | discoQuery (id recipient : String)
  | rosterResult (recipient : Option String) (id : String)
  | acknowledgement (id recipient receipt : String)
  | ping (id : String)
  | message (type : MessageType) (recipient id body : String) (receiptRequest : Bool)
  deriving DecidableEq

/-- The clock readings taken while one client event is handled. -/
structure Readings where
  instant : ℕ
  acknowledgedAtEpochMs : ℕ
  receivedAtEpochMs : ℕ
  deriving DecidableEq

def rosterRequestId (accountId : AccountId) : String := "mindchat-roster-" ++ toString accountId
def discoRequestId (accountId : AccountId) : String := "mindchat-disco-" ++ toString accountId

/-- The stanza of a message whose recipient is an address; receipts are only
requested in one-to-one chats. -/
def buildMessageStanza (message : OutgoingMessage) : ClientStanza :=
  match message.kind with
  | .direct => .message .chat message.recipient (stanzaId message.messageId) message.body true
  | .multiUserChat =>
    .message .groupchat message.recipient (stanzaId message.messageId) message.body false

def MessageStanza.isDirectReceiptMessage (message : MessageStanza) : Bool :=
  message.type = .chat ∨ message.type = .normal

def translateIncomingReceipts (accountId : AccountId) (message : MessageStanza) :
    List TransportEvent :=
  if message.isDirectReceiptMessage then
    match message.sender with
    | none => []
    | some sender =>
      let received := message.payloads.filterMap (fun payload =>
        match payload with
        | .received id => id.bind parseReceiptMessageId
        | _ => none)
      received.map (fun messageId => .deliveryUpdated accountId sender messageId .delivered)
  else []

def receiptAcknowledgement (accountId : AccountId) (message : MessageStanza) (now : ℕ) :
    Option ClientStanza :=
  if message.isDirectReceiptMessage ∧ .request true ∈ message.payloads then
    match message.sender, message.id with
    | some sender, some stanzaId =>
      if stanzaId = "" ∨ Text.containsWhitespace stanzaId then none
      else
        let id := "mindchat-receipt-" ++ toString accountId ++ "-" ++ toString now
        some (.acknowledgement id sender stanzaId)
    | _, _ => none
  else none

def translateIncomingMessage (accountId : AccountId) (message : MessageStanza) (now : ℕ) :
    Option TransportEvent :=
  if message.type ≠ .chat then none
  else match message.sender, message.bestBody with
  | some sender, some body =>
    if Text.trim body = "" then none
    else some (.incomingText accountId .direct sender sender body now)
  | _, _ => none

def translatePresence (accountId : AccountId) (presence : PresenceStanza) : Option TransportEvent :=
  match presence.sender with
  | none => none
  | some jid =>
    let contactPresence : Option ContactPresence :=
      match presence.type with
      | .available =>
        match presence.availability with
        | some .away | some .xa => some .away
        | some .dnd => some .doNotDisturb
        | some .chat | none => some .online
      | .unavailable => some .offline
      | _ => none
    let status := (presence.statuses.lookup "").or (presence.statuses.head?.map Prod.snd)
    contactPresence.map (fun value => .contactPresenceUpdated accountId jid value status)

def RosterItem.rosterSubscription (item : RosterItem) : RosterSubscription :=
  match item.subscription with
  | .toContact => .inbound
  | .fromContact => .outbound
  | .both => .mutual
  | .none => if item.asks then .pendingOutbound else .none
  | .remove => .none

def emitRoster (accountId : AccountId) (items : List RosterItem) : List TransportEvent :=
  items.map (fun item =>
    if item.subscription = .remove then .rosterContactRemoved accountId item.jid
    else .rosterContactUpsert accountId item.jid (item.name.getD "") item.rosterSubscription)

def streamCapabilitiesFromFeatures (streamManagement : Bool) : Finset ProtocolCapability :=
  if streamManagement then {.streamManagement} else ∅

def DiscoFeature.capability : DiscoFeature → Option ProtocolCapability
  | .muc => some .multiUserChat
  | .mam => some .messageArchiveManagement
  | .sm => some .streamManagement
  | .httpUpload => some .httpFileUpload
  | .push => some .pushNotifications
  | .receipts => some .receipts
  | .displayedMarkers => some .chatMarkers
  | .chatStates => some .chatStates
  | .reactions => some .messageReactions
  | .messageCorrect => some .messageCorrections
  | .reply => some .messageReplies
  | .omemo => some .omemo
  | .other _ => none

def capabilitiesFromDisco (features : List DiscoFeature) : Finset ProtocolCapability :=
  (features.filterMap DiscoFeature.capability).toFinset

end MindChat
