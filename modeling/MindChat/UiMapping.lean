import MindChat.Domain
import MindChat.Grouping
import MindChat.ProxyLibrary
import Mathlib.Data.Finmap

/-! The mapping of a core snapshot, as the binding hands it over, to the state
that the Android UI renders. -/

namespace MindChat

structure FfiAccount where
  id : UInt64
  jid : String
  server : String
  displayName : String
  connectionState : ConnectionState
  capabilities : List ProtocolCapability
  connectionError : Option String
  disconnectKind : Option DisconnectKind
  deriving DecidableEq

structure FfiContact where
  accountId : UInt64
  jid : String
  displayName : String
  presence : ContactPresence
  status : Option String
  subscription : RosterSubscription
  deriving DecidableEq

structure FfiConversation where
  id : UInt64
  accountId : UInt64
  kind : ConversationKind
  address : String
  title : String
  unreadCount : UInt32
  lastActivityEpochMs : UInt64
  deriving DecidableEq

structure FfiAttachment where
  id : String
  filename : String
  mimeType : String
  byteCount : UInt64
  remoteUrl : Option String
  deriving DecidableEq

structure FfiMessage where
  id : UInt64
  conversationId : UInt64
  sender : String
  body : String
  direction : MessageDirection
  kind : MessageKind
  sentAtEpochMs : UInt64
  deliveryState : DeliveryState
  inReplyTo : Option UInt64
  attachment : Option FfiAttachment
  deriving DecidableEq

structure FfiReaction where
  id : UInt64
  messageId : UInt64
  emoji : String
  actor : String
  deriving DecidableEq

structure FfiCoreSnapshot where
  accounts : List FfiAccount
  contacts : List FfiContact
  conversations : List FfiConversation
  messages : List FfiMessage
  reactions : List FfiReaction
  deriving DecidableEq

namespace Ui

open Grouping

inductive ShapeScale
  | compact | standard | expressive
  deriving DecidableEq

inductive Density
  | compact | standard | comfortable
  deriving DecidableEq

inductive TextScale
  | compact | default | large
  deriving DecidableEq

inductive AnimationSpeed
  | faster | default | slower
  deriving DecidableEq

inductive BubbleStyle
  | default | rounded | outlined
  deriving DecidableEq

inductive ChatBackground
  | default | tinted
  deriving DecidableEq

structure AppearanceProfile where
  shapeScale : ShapeScale
  density : Density
  textScale : TextScale
  animationSpeed : AnimationSpeed
  bubbleStyle : BubbleStyle
  chatBackground : ChatBackground
  deriving DecidableEq

/-- What the user set for one account on this device. -/
structure AccountProfile where
  avatarUri : Option String
  statusMessage : Option String
  accentKey : Option String
  bubbleStyle : Option BubbleStyle
  chatBackground : Option ChatBackground
  deriving DecidableEq

inductive SettingKey
  | dynamicColor | comfortableLayout | appLockEnabled | messageSearch | encryption
  | messageNotifications | groupNotifications
  deriving DecidableEq

/-- The stored overrides of the settings, all of them switches. -/
abbrev SettingsSnapshot := Finmap (fun _ : SettingKey => Bool)

inductive Presence
  | online | away | doNotDisturb | offline
  deriving DecidableEq

inductive AccountConnectionState
  | offline | connecting | online | failed
  deriving DecidableEq

inductive MessageDelivery
  | pending | sent | delivered | read | failed
  deriving DecidableEq

structure AccountUi where
  id : Int64
  jid : String
  displayName : String
  presence : Presence
  connectionState : AccountConnectionState
  supportsGroupChats : Bool
  connectionError : Option String
  connectionStalled : Bool
  disconnectKind : Option DisconnectKind
  deriving DecidableEq

structure ContactUi where
  accountId : Int64
  jid : String
  displayName : String
  presence : Presence
  status : Option String
  deriving DecidableEq

structure ConversationUi where
  id : Int64
  accountId : Int64
  title : String
  address : String
  preview : String
  timestamp : String
  unreadCount : Int32
  encrypted : Bool
  isGroup : Bool
  lastActivityEpochMs : Int64
  deriving DecidableEq

structure MessageUi where
  id : Int64
  sender : String
  body : String
  timestamp : String
  mine : Bool
  delivery : Option MessageDelivery
  reactions : List String
  deriving DecidableEq

/-- What the UI state shows besides the snapshot. Maps are compared by their
content, as Kotlin compares them. -/
structure UiInputs where
  profiles : Finmap (fun _ : Int64 => AccountProfile)
  settings : SettingsSnapshot
  appearance : AppearanceProfile
  proxyLibrary : List ProxyLibraryEntry
  proxyAssignments : Finmap (fun _ : Int64 => String)
  diagnosticsQuarantined : Bool
  diagnosticsNoticeDismissed : Bool

structure MindChatUiState extends UiInputs where
  accounts : List AccountUi
  contacts : List ContactUi
  activeAccountId : Int64
  conversations : List ConversationUi
  messagesByConversation : List (Int64 × List MessageUi)

structure SnapshotMapping where
  state : MindChatUiState
  connectingSince : Table Int64 Int64
  activeAccountId : Int64

def stallThresholdMs : Int64 := 35000

def connectionToUiModel : ConnectionState → AccountConnectionState
  | .offline => .offline
  | .connecting => .connecting
  | .online => .online
  | .failed => .failed

def deliveryToUiModel : DeliveryState → MessageDelivery
  | .pending => .pending
  | .sent => .sent
  | .delivered => .delivered
  | .read => .read
  | .failed => .failed

/-- An account is present to the UI exactly while it is online. -/
def accountPresence : ConnectionState → Presence
  | .online => .online
  | .offline | .connecting | .failed => .offline

def contactPresence : ContactPresence → Presence
  | .online => .online
  | .away => .away
  | .doNotDisturb => .doNotDisturb
  | .offline => .offline

/-- The account as shown, and since when each account has been connecting. -/
def mapAccount (now : Int64) (tracking : Table Int64 Int64) (account : FfiAccount) :
    AccountUi × Table Int64 Int64 :=
  let accountId := account.id.toInt64
  let connectionState := connectionToUiModel account.connectionState
  let tracked :=
    if connectionState = .connecting then
      if (tracking.lookup accountId).isSome then tracking else tracking.insert accountId now
    else tracking.erase accountId
  let connectingStart :=
    if connectionState = .connecting then some ((tracked.lookup accountId).getD now) else none
  ({ id := accountId, jid := account.jid, displayName := account.displayName,
     presence := accountPresence account.connectionState, connectionState := connectionState,
     supportsGroupChats := account.capabilities.contains .multiUserChat,
     connectionError := account.connectionError,
     connectionStalled := decide (connectionState = .connecting) &&
       connectingStart.any (fun start => decide (stallThresholdMs < now - start)),
     disconnectKind := account.disconnectKind },tracked)

def mapAccounts (now : Int64) : Table Int64 Int64 → List FfiAccount → List AccountUi × Table Int64 Int64
  | tracking,[] => ([],tracking)
  | tracking,account :: accounts =>
    let shown := mapAccount now tracking account
    let rest := mapAccounts now shown.2 accounts
    (shown.1 :: rest.1,rest.2)

/-- The stored active account, or the first one when it is not shown. -/
def resolveActive (accounts : List AccountUi) (activeAccountId : Int64) : Int64 :=
  if activeAccountId = 0 ∨ ∀ account ∈ accounts, account.id ≠ activeAccountId then
    ((accounts.head?).map AccountUi.id).getD 0
  else activeAccountId

/-- One label for each emoji, with its count. -/
def reactionLabels (reactions : List FfiReaction) : List String :=
  (groupBy FfiReaction.emoji reactions).map fun entry => entry.1 ++ " " ++ toString entry.2.length

def mapMessage (timestampFormatter : Int64 → String)
    (reactionsByMessage : List (UInt64 × List FfiReaction)) (message : FfiMessage) : MessageUi where
  id := message.id.toInt64
  sender := message.sender
  body := message.body
  timestamp := timestampFormatter message.sentAtEpochMs.toInt64
  mine := decide (message.direction = .outgoing)
  delivery :=
    if message.direction = .outgoing then some (deliveryToUiModel message.deliveryState) else none
  reactions := ((group reactionsByMessage message.id).map reactionLabels).getD []

def mapMessages (timestampFormatter : Int64 → String) (snapshot : FfiCoreSnapshot) :
    List (Int64 × List MessageUi) :=
  let reactionsByMessage := groupBy FfiReaction.messageId snapshot.reactions
  (groupBy (fun message : FfiMessage => message.conversationId.toInt64) snapshot.messages).map
    fun entry => (entry.1,entry.2.map (mapMessage timestampFormatter reactionsByMessage))

def mapContact (contact : FfiContact) : ContactUi :=
  ⟨contact.accountId.toInt64,contact.jid,contact.displayName,contactPresence contact.presence,
    contact.status⟩

def mapConversation (timestampFormatter : Int64 → String)
    (messagesByConversation : List (Int64 × List MessageUi)) (conversation : FfiConversation) :
    ConversationUi where
  id := conversation.id.toInt64
  accountId := conversation.accountId.toInt64
  title := conversation.title
  address := conversation.address
  preview :=
    ((((group messagesByConversation conversation.id.toInt64).getD []).getLast?).map MessageUi.body).getD ""
  timestamp := timestampFormatter conversation.lastActivityEpochMs.toInt64
  unreadCount := conversation.unreadCount.toInt32
  encrypted := false
  isGroup := decide (conversation.kind = .multiUserChat)
  lastActivityEpochMs := conversation.lastActivityEpochMs.toInt64

def mapSnapshotToUiState (timestampFormatter : Int64 → String) (snapshot : FfiCoreSnapshot)
    (activeAccountId : Int64) (connectingSince : Table Int64 Int64) (inputs : UiInputs) (now : Int64) :
    SnapshotMapping :=
  let mapped := mapAccounts now connectingSince snapshot.accounts
  let resolvedActiveAccountId := resolveActive mapped.1 activeAccountId
  let messagesByConversation := mapMessages timestampFormatter snapshot
  { state :=
      { inputs with
        accounts := mapped.1
        contacts := snapshot.contacts.map mapContact
        activeAccountId := resolvedActiveAccountId
        conversations := snapshot.conversations.map
          (mapConversation timestampFormatter messagesByConversation)
        messagesByConversation := messagesByConversation }
    connectingSince := mapped.2
    activeAccountId := resolvedActiveAccountId }

end Ui

end MindChat
