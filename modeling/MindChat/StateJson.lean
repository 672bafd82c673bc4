import MindChat.Domain
import MindChat.Json

/-! The JSON form of the persisted state as the derived serializers write it:
members in field order, variants by name, sets in the order of their elements. -/

namespace MindChat

open Json

structure PersistedState where
  schemaVersion : ℕ
  snapshot : CoreSnapshot
  deriving DecidableEq

def ConnectionState.variant : ConnectionState → String
  | .offline => "Offline"
  | .connecting => "Connecting"
  | .online => "Online"
  | .failed => "Failed"

def ContactPresence.variant : ContactPresence → String
  | .online => "Online"
  | .away => "Away"
  | .doNotDisturb => "DoNotDisturb"
  | .offline => "Offline"

def RosterSubscription.variant : RosterSubscription → String
  | .none => "None"
  | .inbound => "Inbound"
  | .outbound => "Outbound"
  | .mutual => "Mutual"
  | .pendingOutbound => "PendingOutbound"

def ConversationKind.variant : ConversationKind → String
  | .direct => "Direct"
  | .multiUserChat => "MultiUserChat"

def MessageDirection.variant : MessageDirection → String
  | .incoming => "Incoming"
  | .outgoing => "Outgoing"

def DeliveryState.variant : DeliveryState → String
  | .pending => "Pending"
  | .sent => "Sent"
  | .delivered => "Delivered"
  | .read => "Read"
  | .failed => "Failed"

def MessageKind.variant : MessageKind → String
  | .text => "Text"
  | .attachment => "Attachment"
  | .voice => "Voice"

def ProtocolCapability.variant : ProtocolCapability → String
  | .multiUserChat => "MultiUserChat"
  | .messageArchiveManagement => "MessageArchiveManagement"
  | .streamManagement => "StreamManagement"
  | .httpFileUpload => "HttpFileUpload"
  | .omemo => "Omemo"
  | .pushNotifications => "PushNotifications"
  | .receipts => "Receipts"
  | .chatMarkers => "ChatMarkers"
  | .chatStates => "ChatStates"
  | .messageReactions => "MessageReactions"
  | .messageCorrections => "MessageCorrections"
  | .messageReplies => "MessageReplies"
  | .sharedPins => "SharedPins"

def ProxyKind.variant : ProxyKind → String
  | .socks5 => "Socks5"
  | .httpConnect => "HttpConnect"

def ProxyConfig.json (proxy : ProxyConfig) : Writer :=
  obj [("host",str proxy.host),("port",num proxy.port),("kind",str proxy.kind.variant)]

/-- `disconnect_kind` is skipped. -/
def Account.json (account : Account) : Writer :=
  obj [("id",num account.id),("jid",str account.jid),("server",str account.server),
    ("display_name",str account.displayName),
    ("connection_state",str account.connectionState.variant),
    ("capabilities",arr ((ProtocolCapability.all.filter (· ∈ account.capabilities)).map
      (fun capability => str capability.variant))),
    ("connection_error",nullable str account.connectionError),
    ("auto_reconnect",bool account.autoReconnect),
    ("proxies",arr (account.proxies.map ProxyConfig.json))]

def Contact.json (contact : Contact) : Writer :=
  obj [("account_id",num contact.accountId),("jid",str contact.jid),
    ("display_name",str contact.displayName),("presence",str contact.presence.variant),
    ("status",nullable str contact.status),("subscription",str contact.subscription.variant)]

def Conversation.json (conversation : Conversation) : Writer :=
  obj [("id",num conversation.id),("account_id",num conversation.accountId),
    ("kind",str conversation.kind.variant),("address",str conversation.address),
    ("title",str conversation.title),("unread_count",num conversation.unreadCount),
    ("last_activity_epoch_ms",num conversation.lastActivityEpochMs)]

def Attachment.json (attachment : Attachment) : Writer :=
  obj [("id",str attachment.id),("filename",str attachment.filename),
    ("mime_type",str attachment.mimeType),("byte_count",num attachment.byteCount),
    ("remote_url",nullable str attachment.remoteUrl)]

def Message.json (message : Message) : Writer :=
  obj [("id",num message.id),("conversation_id",num message.conversationId),
    ("sender",str message.sender),("body",str message.body),
    ("direction",str message.direction.variant),("kind",str message.kind.variant),
    ("sent_at_epoch_ms",num message.sentAtEpochMs),
    ("delivery_state",str message.deliveryState.variant),
    ("in_reply_to",nullable num message.inReplyTo),
    ("attachment",nullable Attachment.json message.attachment)]

def Reaction.json (reaction : Reaction) : Writer :=
  obj [("id",num reaction.id),("message_id",num reaction.messageId),("emoji",str reaction.emoji),
    ("actor",str reaction.actor)]

def CoreSnapshot.json (snapshot : CoreSnapshot) : Writer :=
  obj [("accounts",arr (snapshot.accounts.map Account.json)),
    ("contacts",arr (snapshot.contacts.map Contact.json)),
    ("conversations",arr (snapshot.conversations.map Conversation.json)),
    ("messages",arr (snapshot.messages.map Message.json)),
    ("reactions",arr (snapshot.reactions.map Reaction.json))]

def PersistedState.json (persisted : PersistedState) : Writer :=
  obj [("schema_version",num persisted.schemaVersion),("snapshot",persisted.snapshot.json)]

def PersistedState.bytes (persisted : PersistedState) : Bytes := utf8 (persisted.json 0)

theorem size_title (version : ℕ) (account : Account) (conversation : Conversation) (title : String) :
    size (PersistedState.json ⟨version,⟨[account],[],[{ conversation with title := title }],[],[]⟩⟩ 0) =
      size (escape title.toList) +
        size (PersistedState.json ⟨version,⟨[account],[],[{ conversation with title := "" }],[],[]⟩⟩ 0) := by
  have he : size (escape "".toList) = 0 := by decide
  simp only [PersistedState.json,CoreSnapshot.json,List.map_cons,List.map_nil,Conversation.json,obj,arr,
    block,List.flatMap_cons,List.flatMap_nil,size_append,size_str,he]
  omega

end MindChat
