import MindChat.Table
import MindChat.Text
import Mathlib.Data.Finset.Basic
import Mathlib.Data.Prod.Lex
import Mathlib.Data.String.Basic

/-! The data model of the domain core: accounts, contacts, conversations,
messages and reactions, the events of the transport boundary, and the input
checks the core applies to text that comes from outside. -/

namespace MindChat

abbrev AccountId := ℕ
abbrev ConversationId := ℕ
abbrev MessageId := ℕ
abbrev ReactionId := ℕ

def u64Max : ℕ := 2^64 - 1
def u32Max : ℕ := 2^32 - 1

/-- Addition of one as release builds compute it on `u64`. -/
def u64Succ (n : ℕ) : ℕ := (n + 1) % 2^64

def u32SaturatingSucc (n : ℕ) : ℕ := min (n + 1) u32Max

inductive ConnectionState
  | offline | connecting | online | failed
  deriving DecidableEq

inductive DisconnectKind
  | authenticationFailed | tlsVerificationFailed | serverRefused | networkLost | cancelled | unknown
  deriving DecidableEq

inductive ContactPresence
  | online | away | doNotDisturb | offline
  deriving DecidableEq

/-- Direction of a presence subscription as the server confirmed it. -/
inductive RosterSubscription
  | none | inbound | outbound | mutual | pendingOutbound
  deriving DecidableEq

inductive ConversationKind
  | direct | multiUserChat
  deriving DecidableEq

inductive MessageDirection
  | incoming | outgoing
  deriving DecidableEq

inductive DeliveryState
  | pending | sent | delivered | read | failed
  deriving DecidableEq

inductive MessageKind
  | text | attachment | voice
  deriving DecidableEq

inductive ProtocolCapability
  | multiUserChat | messageArchiveManagement | streamManagement | httpFileUpload | omemo
  | pushNotifications | receipts | chatMarkers | chatStates | messageReactions
  | messageCorrections | messageReplies | sharedPins
  deriving DecidableEq

/-- The variants in declaration order, the order of the derived `Ord`. -/
def ProtocolCapability.all : List ProtocolCapability :=
  [.multiUserChat,.messageArchiveManagement,.streamManagement,.httpFileUpload,.omemo,
    .pushNotifications,.receipts,.chatMarkers,.chatStates,.messageReactions,
    .messageCorrections,.messageReplies,.sharedPins]

inductive ProxyKind
  | socks5 | httpConnect
  deriving DecidableEq

/-- Non-secret proxy configuration; it carries no password. -/
structure ProxyConfig where
  host : String
  port : ℕ
  kind : ProxyKind
  deriving DecidableEq

structure AccountSetup where
  jid : String
  server : String
  displayName : String
  deriving DecidableEq

structure Account where
  id : AccountId
  jid : String
  server : String
  displayName : String
  connectionState : ConnectionState
  capabilities : Finset ProtocolCapability
  connectionError : Option String
  disconnectKind : Option DisconnectKind
  autoReconnect : Bool
  proxies : List ProxyConfig
  deriving DecidableEq

structure Contact where
  accountId : AccountId
  jid : String
  displayName : String
  presence : ContactPresence
  status : Option String
  subscription : RosterSubscription
  deriving DecidableEq

structure Conversation where
  id : ConversationId
  accountId : AccountId
  kind : ConversationKind
  address : String
  title : String
  unreadCount : ℕ
  lastActivityEpochMs : ℕ
  deriving DecidableEq

structure Attachment where
  id : String
  filename : String
  mimeType : String
  byteCount : ℕ
  remoteUrl : Option String
  deriving DecidableEq

structure Message where
  id : MessageId
  conversationId : ConversationId
  sender : String
  body : String
  direction : MessageDirection
  kind : MessageKind
  sentAtEpochMs : ℕ
  deliveryState : DeliveryState
  inReplyTo : Option MessageId
  attachment : Option Attachment
  deriving DecidableEq

structure Reaction where
  id : ReactionId
  messageId : MessageId
  emoji : String
  actor : String
  deriving DecidableEq

/-- The visible state in stable identifier order, for a persistence adapter. -/
structure CoreSnapshot where
  accounts : List Account
  contacts : List Contact
  conversations : List Conversation
  messages : List Message
  reactions : List Reaction
  deriving DecidableEq

inductive CoreEvent
  | accountChanged (id : AccountId)
  | rosterChanged (id : AccountId)
  | conversationChanged (id : ConversationId)
  | messageAdded (id : MessageId)
  | messageChanged (id : MessageId)
  deriving DecidableEq

inductive CoreCommand
  | sendText (conversationId : ConversationId) (body : String) (inReplyTo : Option MessageId)
  | markConversationRead (conversationId : ConversationId)
  | addReaction (messageId : MessageId) (emoji : String)
  deriving DecidableEq

inductive CoreError
  | invalidJid | invalidServer | invalidConversationAddress | emptyMessage | messageTooLong
  | emptyReaction | emptyDisplayName | invalidReplyTarget
  | unknownAccount (id : AccountId)
  | unknownConversation (id : ConversationId)
  | unknownMessage (id : MessageId)
  | capabilityUnavailable (capability : ProtocolCapability)
  deriving DecidableEq

structure OutgoingMessage where
  accountId : AccountId
  conversationId : ConversationId
  messageId : MessageId
  kind : ConversationKind
  recipient : String
  body : String
  inReplyTo : Option MessageId
  deriving DecidableEq

structure ConnectionRequest where
  accountId : AccountId
  jid : String
  server : String
  password : String
  autoReconnect : Bool
  proxy : Option ProxyConfig
  proxyPassword : Option String
  deriving DecidableEq

inductive TransportEvent
  | connected (accountId : AccountId) (capabilities : Finset ProtocolCapability)
  | disconnected (accountId : AccountId) (recoverable : Bool) (detail : Option String)
      (kind : DisconnectKind)
  | capabilitiesDiscovered (accountId : AccountId) (capabilities : Finset ProtocolCapability)
  | rosterContactUpsert (accountId : AccountId) (jid displayName : String)
      (subscription : RosterSubscription)
  | rosterContactRemoved (accountId : AccountId) (jid : String)
  | contactPresenceUpdated (accountId : AccountId) (jid : String) (presence : ContactPresence)
      (status : Option String)
  | incomingText (accountId : AccountId) (kind : ConversationKind) (address sender body : String)
      (receivedAtEpochMs : ℕ)
  | deliveryUpdated (accountId : AccountId) (sender : String) (messageId : MessageId)
      (state : DeliveryState)
  deriving DecidableEq

def TransportEvent.account : TransportEvent → AccountId
  | .connected a _ | .disconnected a _ _ _ | .capabilitiesDiscovered a _
  | .rosterContactUpsert a _ _ _ | .rosterContactRemoved a _ | .contactPresenceUpdated a _ _ _
  | .incomingText a _ _ _ _ _ | .deliveryUpdated a _ _ _ => a

inductive TransportError
  | authenticationFailed
  | tlsVerification (detail : String)
  | connectionFailed (detail : String)
  | protocolViolation (detail : String)
  | unsupported (detail : String)
  deriving DecidableEq

def maxMessageChars : ℕ := 16384

/-- Position of a state in the order receipts may only climb. -/
def deliveryRank : DeliveryState → ℕ
  | .pending => 0
  | .failed => 1
  | .sent => 2
  | .delivered => 3
  | .read => 4

def validateJid (jid : String) : Except CoreError Unit :=
  let parts := Text.split '@' jid
  let localPart := parts[0]?.getD ""
  let domain := parts[1]?.getD ""
  if Text.trim localPart = "" ∨ Text.trim domain = "" ∨ Text.containsWhitespace localPart ∨
      Text.containsWhitespace domain ∨ '/' ∈ domain.toList ∨ parts[2]?.isSome then
    .error .invalidJid
  else .ok ()

def validateServer (server : String) : Except CoreError Unit :=
  if Text.trim server ≠ "" ∧ ¬ Text.containsWhitespace server then .ok ()
  else .error .invalidServer

def validateConversationAddress (address : String) : Except CoreError Unit :=
  (validateJid address).mapError (fun _ => .invalidConversationAddress)

def normalizeContactName (displayName jid : String) : String :=
  if Text.trim displayName = "" then Text.before '@' jid else Text.trim displayName

def normalizeStatus (status : Option String) : Option String :=
  status.bind (fun value => if Text.trim value = "" then none else some (Text.trim value))

def validateBody (body : String) : Except CoreError String :=
  let trimmed := Text.trim body
  if trimmed = "" then .error .emptyMessage
  else if maxMessageChars < Text.charCount trimmed then .error .messageTooLong
  else .ok trimmed

end MindChat
