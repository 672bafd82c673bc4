import MindChat.Gateway
import MindChat.Recovery

/-! What of the core outlives the process, and which operations leave that alone:
the ones that fail, and the ones that only move a session. Most operations also
leave the set of accounts and the account counter alone. -/

namespace MindChat

open MindChatCore

namespace MindChatCore

/-- The snapshot as a restart would bring it back. -/
def durable (c : MindChatCore) : CoreSnapshot := sanitizeSnapshot c.snapshot

def AccountsKeyed (c : MindChatCore) : Prop := ∀ k a, c.accounts.lookup k = some a → a.id = k

end MindChatCore

/-- The same accounts are there, and the next one will get the same id. -/
structure AccountsKept (c d : MindChatCore) : Prop where
  next : d.nextAccountId = c.nextAccountId
  ids : ∀ k, (d.accounts.lookup k).map Account.id = (c.accounts.lookup k).map Account.id

namespace AccountsKept

variable {c d e : MindChatCore}

theorem refl (c : MindChatCore) : AccountsKept c c := ⟨rfl,fun _ => rfl⟩

theorem trans (h : AccountsKept c d) (k : AccountsKept d e) : AccountsKept c e :=
  ⟨k.next.trans h.next,fun a => (k.ids a).trans (h.ids a)⟩

theorem of_eq (hn : d.nextAccountId = c.nextAccountId) (ha : d.accounts = c.accounts) :
    AccountsKept c d := ⟨hn,fun _ => by rw [ha]⟩

theorem isSome (h : AccountsKept c d) (k : AccountId) :
    (d.accounts.lookup k).isSome = (c.accounts.lookup k).isSome := by
  have hk := congrArg Option.isSome (h.ids k)
  simpa using hk

theorem keyed (h : AccountsKept c d) (hc : c.AccountsKeyed) : d.AccountsKeyed := by
  intro k a ha
  have hk := h.ids k
  rw [ha,Option.map_some] at hk
  obtain ⟨b,hb,he⟩ := Option.map_eq_some_iff.mp hk.symm
  exact he ▸ hc k b hb

theorem updateAccount (accountId : AccountId) {change : Account → Account}
    (hid : ∀ a, (change a).id = a.id) : AccountsKept c (c.updateAccount accountId change).2 := by
  unfold MindChatCore.updateAccount
  cases ha : c.accounts.lookup accountId with
  | none => exact refl c
  | some account =>
    refine ⟨rfl,fun k => ?_⟩
    simp only [push,Table.lookup_insert_if]
    split_ifs with he
    · rw [he,ha,Option.map_some,Option.map_some,hid]
    · rfl

theorem setConnectionState (accountId : AccountId) (state : ConnectionState) :
    AccountsKept c (c.setConnectionState accountId state).2 :=
  updateAccount accountId fun _ => by split_ifs <;> rfl

theorem upsertContact (accountId : AccountId) (jid displayName : String) (presence : ContactPresence)
    (status : Option String) :
    AccountsKept c (c.upsertContact accountId jid displayName presence status).2 := by
  unfold MindChatCore.upsertContact
  repeat' split
  all_goals exact of_eq rfl rfl

theorem openConversation (accountId : AccountId) (kind : ConversationKind) (address title : String)
    (now : ℕ) : AccountsKept c (c.openConversation accountId kind address title now).2 := by
  unfold MindChatCore.openConversation insertConversation
  split
  · exact refl c
  · split
    · exact refl c
    · split
      · exact refl c
      · split
        · exact refl c
        · exact of_eq rfl rfl

theorem insertMessage (message : MessageId → Message) (incrementUnread : Bool) :
    AccountsKept c (c.insertMessage message incrementUnread).2 := by
  refine of_eq ?_ (accounts_insertMessage c message incrementUnread)
  simp only [MindChatCore.insertMessage,allocateMessageId,touchConversation]
  split <;> rename_i h <;> split at h <;> cases h <;> rfl

theorem sendText (conversationId : ConversationId) (sender body : String)
    (inReplyTo : Option MessageId) (now : ℕ) :
    AccountsKept c (c.sendText conversationId sender body inReplyTo now).2 := by
  unfold MindChatCore.sendText
  repeat' split
  all_goals first | exact refl c | exact insertMessage _ _

theorem receiveText (conversationId : ConversationId) (sender body : String) (now : ℕ) :
    AccountsKept c (c.receiveText conversationId sender body now).2 := by
  unfold MindChatCore.receiveText
  repeat' split
  all_goals first | exact refl c | exact insertMessage _ _

theorem receiveTransportText (accountId : AccountId) (kind : ConversationKind)
    (address sender body : String) (receivedAt : ℕ) :
    AccountsKept c (c.receiveTransportText accountId kind address sender body receivedAt).2 := by
  have ht : AccountsKept c (c.targetConversation accountId kind address receivedAt).2 := by
    unfold targetConversation
    split <;> exact of_eq rfl rfl
  unfold MindChatCore.receiveTransportText
  split
  · exact refl c
  · split
    · exact refl c
    · split
      · exact refl c
      · have hr : AccountsKept (c.targetConversation accountId kind address receivedAt).2
            ((c.targetConversation accountId kind address receivedAt).2.receiveText
              (c.targetConversation accountId kind address receivedAt).1 sender body receivedAt).2 :=
          receiveText _ _ _ _
        dsimp only
        split <;> rename_i h <;> rw [h] at hr <;> exact ht.trans hr

theorem setDeliveryState (messageId : MessageId) (state : DeliveryState) :
    AccountsKept c (c.setDeliveryState messageId state).2 := by
  unfold MindChatCore.setDeliveryState
  split <;> exact of_eq rfl rfl

theorem applyDeliveryUpdate (accountId : AccountId) (sender : String) (messageId : MessageId)
    (state : DeliveryState) :
    AccountsKept c (c.applyDeliveryUpdate accountId sender messageId state).2 := by
  rcases applyDeliveryUpdate_cases c accountId sender messageId state with
    h | ⟨m,v,-,-,-,-,-,-,-,h⟩ <;> rw [h] <;> exact of_eq rfl rfl

theorem applyTransportEvent (event : TransportEvent) :
    AccountsKept c (c.applyTransportEvent event).2 := by
  cases event with
  | connected accountId capabilities => exact updateAccount accountId fun _ => rfl
  | disconnected accountId recoverable detail kind => exact updateAccount accountId fun _ => rfl
  | capabilitiesDiscovered accountId capabilities =>
    have hs : AccountsKept c (c.setCapabilities accountId capabilities).2 :=
      updateAccount accountId fun _ => rfl
    simp only [MindChatCore.applyTransportEvent]
    split
    · split <;> rename_i h <;> rw [h] at hs <;> exact hs
    · exact refl c
  | rosterContactUpsert accountId jid displayName subscription =>
    have hs : AccountsKept c (c.syncRosterContact accountId jid displayName subscription).2 := by
      unfold syncRosterContact
      repeat' split
      all_goals exact of_eq rfl rfl
    simp only [MindChatCore.applyTransportEvent]
    split <;> rename_i h <;> rw [h] at hs <;> exact hs
  | rosterContactRemoved accountId jid =>
    have hs : AccountsKept c (c.removeContact accountId jid).2 := by
      unfold removeContact
      repeat' split
      all_goals exact of_eq rfl rfl
    simp only [MindChatCore.applyTransportEvent]
    split <;> rename_i h <;> rw [h] at hs <;> exact hs
  | contactPresenceUpdated accountId jid presence status =>
    have hs : AccountsKept c (c.updateContactPresence accountId jid presence status).2 := by
      unfold updateContactPresence
      repeat' split
      all_goals exact of_eq rfl rfl
    simp only [MindChatCore.applyTransportEvent]
    split <;> rename_i h <;> rw [h] at hs <;> exact hs
  | incomingText accountId kind address sender body receivedAt =>
    exact receiveTransportText accountId kind address sender body receivedAt
  | deliveryUpdated accountId sender messageId state =>
    have hs : AccountsKept c (c.applyDeliveryUpdate accountId sender messageId state).2 :=
      applyDeliveryUpdate accountId sender messageId state
    simp only [MindChatCore.applyTransportEvent]
    split <;> rename_i h <;> rw [h] at hs <;> exact hs

theorem markConversationRead (conversationId : ConversationId) :
    AccountsKept c (c.markConversationRead conversationId).2 := by
  unfold MindChatCore.markConversationRead
  split <;> exact of_eq rfl rfl

theorem deleteConversation (conversationId : ConversationId) :
    AccountsKept c (c.deleteConversation conversationId).2 := by
  unfold MindChatCore.deleteConversation
  split
  · exact refl c
  · rw [removeConversationState_eq]
    exact of_eq rfl rfl

theorem updateAccountDisplayName (accountId : AccountId) (displayName : String) :
    AccountsKept c (c.updateAccountDisplayName accountId displayName).2 := by
  unfold MindChatCore.updateAccountDisplayName
  split
  · exact refl c
  · exact updateAccount accountId fun _ => rfl

theorem setAccountProxies (accountId : AccountId) (proxies : List ProxyConfig) :
    AccountsKept c (c.setAccountProxies accountId proxies).2 :=
  updateAccount accountId fun _ => rfl

section

variable {T : Type} [XmppTransport T] {k : TransportCoordinator T}

theorem connectWithProxy (accountId : AccountId) (password : String) (proxy : Option ProxyConfig)
    (proxyPassword : Option String) :
    AccountsKept k.core (k.connectWithProxy accountId password proxy proxyPassword).2.core :=
  TransportCoordinator.core_connectWithProxy refl (fun _ _ _ h j => h.trans j)
    (fun _ state _ => setConnectionState accountId state) password proxy proxyPassword

theorem disconnect (accountId : AccountId) : AccountsKept k.core (k.disconnect accountId).2.core :=
  TransportCoordinator.core_disconnect refl (applyTransportEvent _)

theorem flushBatch (elapsed : ℕ → ℕ) (batch : List OutgoingMessage) (sentCount : ℕ)
    (k : TransportCoordinator T) :
    AccountsKept k.core (TransportCoordinator.flushBatch elapsed batch sentCount k).2.core :=
  TransportCoordinator.core_flushBatch_all refl (fun _ _ _ h j => h.trans j)
    (fun _ id state => setDeliveryState id state) elapsed batch sentCount k

theorem flushOutbox (elapsed : ℕ → ℕ) (k : TransportCoordinator T) (accountId : AccountId) :
    AccountsKept k.core (MindChatCoreHandle.flushOutbox elapsed k accountId).2.core := by
  unfold MindChatCoreHandle.flushOutbox TransportCoordinator.flushOutbox
  repeat' split
  all_goals first | exact refl k.core | exact flushBatch _ _ _ k

theorem pollLoop (left processed : ℕ) (k : TransportCoordinator T) :
    AccountsKept k.core (TransportCoordinator.pollLoop left processed k).2.core :=
  TransportCoordinator.core_pollLoop_all refl (fun _ _ _ h j => h.trans j)
    (fun _ event => applyTransportEvent event) left processed k

theorem pollTransportEvents (k : TransportCoordinator T) (maxEvents : ℕ) :
    AccountsKept k.core (MindChatCoreHandle.pollTransportEvents k maxEvents).2.core :=
  pollLoop _ 0 k

end

end AccountsKept

namespace MindChatCore

variable {c d : MindChatCore}

theorem AccountsKeyed.addAccount (h : c.AccountsKeyed) (setup : AccountSetup) :
    (c.addAccount setup).2.AccountsKeyed := by
  unfold MindChatCore.addAccount
  split
  · exact h
  · split
    · exact h
    · intro k a ha
      simp only [push,allocateAccountId,Table.lookup_insert_if] at ha
      split_ifs at ha with he
      · cases ha
        exact he.symm
      · exact h k a ha

theorem AccountsKeyed.deleteAccount (h : c.AccountsKeyed) (accountId : AccountId) :
    (c.deleteAccount accountId).2.AccountsKeyed := by
  unfold MindChatCore.deleteAccount
  split
  · exact h
  · intro k a ha
    simp only [push] at ha
    rw [accounts_foldl accounts_removeConversationState,Table.lookup_erase_if] at ha
    split_ifs at ha
    exact h k a ha

theorem accountsKeyed_fromSnapshot (s : CoreSnapshot) : (fromSnapshot s).AccountsKeyed :=
  fun _ _ h => (Table.lookup_collect_some h).1

theorem durable_congr (hc : c.AccountsKeyed) (hd : d.AccountsKeyed)
    (ha : ∀ k, (d.accounts.lookup k).map sanitizeAccount = (c.accounts.lookup k).map sanitizeAccount)
    (ht : d.contacts = c.contacts) (hv : d.conversations = c.conversations)
    (hm : d.messages = c.messages) (hr : d.reactions = c.reactions) : d.durable = c.durable := by
  have sorted {e : MindChatCore} (he : e.AccountsKeyed) :
      (Listing.sortByKey Account.id e.accounts.values).map sanitizeAccount =
        Listing.sortByKey Account.id (e.accounts.values.map sanitizeAccount) :=
    (Listing.sortByKey_map (f := sanitizeAccount) (fun _ => rfl) (.refl _)
      (Table.values_map_nodup he)).symm
  have hn : ((c.accounts.values.map sanitizeAccount).map Account.id).Nodup := by
    rw [List.map_map]
    exact Table.values_map_nodup hc
  simp only [durable,sanitizeSnapshot,CoreSnapshot.mapRecords,snapshot,ht,hv,hm,hr,sorted hc,sorted hd,
    Listing.sortByKey_congr (Table.values_map_perm ha) hn]

theorem durable_updateAccount (h : c.AccountsKeyed) (accountId : AccountId)
    {change : Account → Account} (hs : ∀ a, sanitizeAccount (change a) = sanitizeAccount a) :
    (c.updateAccount accountId change).2.durable = c.durable := by
  have hid (a : Account) : (change a).id = a.id :=
    calc (change a).id = (sanitizeAccount (change a)).id := rfl
      _ = (sanitizeAccount a).id := by rw [hs]
      _ = a.id := rfl
  have hk := (AccountsKept.updateAccount accountId hid).keyed h
  unfold updateAccount at hk ⊢
  cases ha : c.accounts.lookup accountId with
  | none => rfl
  | some account =>
    rw [ha] at hk
    refine durable_congr h hk (fun k => ?_) rfl rfl rfl rfl
    simp only [push,Table.lookup_insert_if]
    split_ifs with he
    · rw [he,ha,Option.map_some,Option.map_some,hs]
    · rfl

/-! Operations that fail leave the core as it was. -/

theorem updateAccount_error {accountId : AccountId} {change : Account → Account} {e : CoreError}
    (h : c.updateAccount accountId change = (.error e,d)) : d = c := by
  unfold updateAccount at h
  split at h <;> cases h
  rfl

theorem addAccount_error {setup : AccountSetup} {e : CoreError}
    (h : c.addAccount setup = (.error e,d)) : d = c := by
  unfold addAccount at h
  repeat' split at h
  all_goals cases h
  all_goals rfl

theorem upsertContact_error {accountId : AccountId} {jid displayName : String}
    {presence : ContactPresence} {status : Option String} {e : CoreError}
    (h : c.upsertContact accountId jid displayName presence status = (.error e,d)) : d = c := by
  unfold upsertContact at h
  repeat' split at h
  all_goals cases h
  all_goals rfl

theorem openConversation_error {accountId : AccountId} {kind : ConversationKind}
    {address title : String} {now : ℕ} {e : CoreError}
    (h : c.openConversation accountId kind address title now = (.error e,d)) : d = c := by
  unfold openConversation at h
  repeat' split at h
  all_goals cases h
  all_goals rfl

theorem insertMessage_isOk {message : MessageId → Message} {incrementUnread : Bool}
    (hv : (c.conversations.lookup (message (allocated c.nextMessageId)).conversationId).isSome) :
    (c.insertMessage message incrementUnread).1 = .ok (allocated c.nextMessageId) := by
  obtain ⟨v,hv⟩ := Option.isSome_iff_exists.mp hv
  rw [insertMessage_eq hv]

theorem sendText_error {conversationId : ConversationId} {sender body : String}
    {inReplyTo : Option MessageId} {now : ℕ} {e : CoreError}
    (h : c.sendText conversationId sender body inReplyTo now = (.error e,d)) : d = c := by
  unfold sendText at h
  split at h
  · cases h
    rfl
  · next hc =>
    split at h
    · cases h
      rfl
    · split at h
      · cases h
        rfl
      · have hok := congrArg Prod.fst h
        rw [insertMessage_isOk] at hok
        · cases hok
        · unfold ensureConversation at hc
          split at hc
          · assumption
          · cases hc

theorem markConversationRead_error {conversationId : ConversationId} {e : CoreError}
    (h : c.markConversationRead conversationId = (.error e,d)) : d = c := by
  unfold markConversationRead at h
  split at h <;> cases h
  rfl

theorem deleteAccount_error {accountId : AccountId} {e : CoreError}
    (h : c.deleteAccount accountId = (.error e,d)) : d = c := by
  unfold deleteAccount at h
  split at h <;> cases h
  rfl

theorem deleteConversation_error {conversationId : ConversationId} {e : CoreError}
    (h : c.deleteConversation conversationId = (.error e,d)) : d = c := by
  unfold deleteConversation at h
  split at h <;> cases h
  rfl

theorem updateAccountDisplayName_error {accountId : AccountId} {displayName : String} {e : CoreError}
    (h : c.updateAccountDisplayName accountId displayName = (.error e,d)) : d = c := by
  unfold updateAccountDisplayName at h
  split at h
  · cases h
    rfl
  · exact updateAccount_error h

theorem setAccountProxies_error {accountId : AccountId} {proxies : List ProxyConfig} {e : CoreError}
    (h : c.setAccountProxies accountId proxies = (.error e,d)) : d = c :=
  updateAccount_error h

theorem durable_setConnectionState (h : c.AccountsKeyed) (accountId : AccountId)
    (state : ConnectionState) : (c.setConnectionState accountId state).2.durable = c.durable :=
  durable_updateAccount h accountId fun _ => by split_ifs <;> rfl

section

variable {T : Type} [XmppTransport T] {k : TransportCoordinator T}

/-- Opening a session, whether it succeeds or not, changes nothing durable. -/
theorem durable_connectWithProxy (h : k.core.AccountsKeyed) (accountId : AccountId)
    (password : String) (proxy : Option ProxyConfig) (proxyPassword : Option String) :
    (k.connectWithProxy accountId password proxy proxyPassword).2.core.durable = k.core.durable := by
  let R (c d : MindChatCore) : Prop :=
    c.AccountsKeyed → d.AccountsKeyed ∧ d.durable = c.durable
  have hr : R k.core (k.connectWithProxy accountId password proxy proxyPassword).2.core := by
    refine TransportCoordinator.core_connectWithProxy (fun _ hc => ⟨hc,rfl⟩) ?_ ?_ password proxy
      proxyPassword
    · exact fun _ _ _ hcd hde hc => ⟨(hde (hcd hc).1).1,((hde (hcd hc).1).2).trans (hcd hc).2⟩
    · exact fun _ state _ hc => ⟨(AccountsKept.setConnectionState accountId state).keyed hc,
        durable_setConnectionState hc accountId state⟩
  exact (hr h).2

theorem durable_disconnect (h : k.core.AccountsKeyed) (accountId : AccountId) :
    (k.disconnect accountId).2.core.durable = k.core.durable :=
  TransportCoordinator.core_disconnect (R := fun c d => d.durable = c.durable) (fun _ => rfl)
    (durable_updateAccount h accountId fun _ => rfl)

theorem pollTransportEvents_none {maxEvents : ℕ}
    (h : (MindChatCoreHandle.pollTransportEvents k maxEvents).1 = .ok 0) :
    (MindChatCoreHandle.pollTransportEvents k maxEvents).2.core = k.core :=
  (TransportCoordinator.pollLoop_ok (Prod.ext h rfl)).2 rfl

end

end MindChatCore

end MindChat
