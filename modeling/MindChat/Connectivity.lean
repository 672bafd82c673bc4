import MindChat.Mutators

/-! The connection state an account is projected with, and which operations of
the core move it. -/

namespace MindChat

def TransportEvent.projects (accountId : AccountId) : TransportEvent → Option ConnectionState
  | .connected a _ => if a = accountId then some .online else none
  | .disconnected a recoverable _ _ =>
    if a = accountId then some (if recoverable then .offline else .failed) else none
  | _ => none

namespace MindChatCore

def connection (c : MindChatCore) (accountId : AccountId) : Option ConnectionState :=
  (c.accounts.lookup accountId).map Account.connectionState

variable {c : MindChatCore}

theorem connection_of_accounts {d : MindChatCore} (h : d.accounts = c.accounts)
    (accountId : AccountId) : d.connection accountId = c.connection accountId := by
  unfold connection
  rw [h]

@[simp] theorem accounts_setDeliveryState (c : MindChatCore) (messageId : MessageId)
    (state : DeliveryState) : (c.setDeliveryState messageId state).2.accounts = c.accounts := by
  unfold setDeliveryState
  split <;> rfl

theorem accounts_insertMessage (c : MindChatCore) (message : MessageId → Message)
    (incrementUnread : Bool) : (c.insertMessage message incrementUnread).2.accounts = c.accounts := by
  simp only [insertMessage,allocateMessageId,touchConversation]
  split <;> rename_i h <;> split at h <;> cases h <;> rfl

@[simp] theorem accounts_sendText (c : MindChatCore) (conversationId : ConversationId)
    (sender body : String) (inReplyTo : Option MessageId) (now : ℕ) :
    (c.sendText conversationId sender body inReplyTo now).2.accounts = c.accounts := by
  unfold sendText
  repeat' split
  all_goals first | rfl | exact accounts_insertMessage ..

theorem accounts_receiveText (c : MindChatCore) (conversationId : ConversationId)
    (sender body : String) (now : ℕ) :
    (c.receiveText conversationId sender body now).2.accounts = c.accounts := by
  unfold receiveText
  repeat' split
  all_goals first | rfl | exact accounts_insertMessage ..

theorem accounts_targetConversation (c : MindChatCore) (accountId : AccountId)
    (kind : ConversationKind) (address : String) (receivedAt : ℕ) :
    (c.targetConversation accountId kind address receivedAt).2.accounts = c.accounts := by
  unfold targetConversation
  split <;> rfl

theorem accounts_receiveTransportText (c : MindChatCore) (accountId : AccountId)
    (kind : ConversationKind) (address sender body : String) (receivedAt : ℕ) :
    (c.receiveTransportText accountId kind address sender body receivedAt).2.accounts =
      c.accounts := by
  have ht := accounts_targetConversation c accountId kind address receivedAt
  unfold receiveTransportText
  split
  · rfl
  · split
    · rfl
    · split
      · rfl
      · have hr := accounts_receiveText (c.targetConversation accountId kind address receivedAt).2
          (c.targetConversation accountId kind address receivedAt).1 sender body receivedAt
        dsimp only
        split <;> rename_i h <;> rw [h] at hr <;> exact hr.trans ht

theorem accounts_applyDeliveryUpdate (c : MindChatCore) (accountId : AccountId) (sender : String)
    (messageId : MessageId) (state : DeliveryState) :
    (c.applyDeliveryUpdate accountId sender messageId state).2.accounts = c.accounts := by
  rcases applyDeliveryUpdate_cases c accountId sender messageId state with
    h | ⟨m,v,-,-,-,-,-,-,-,h⟩
  · rw [h]
  · rw [h]
    rfl

@[simp] theorem accounts_syncRosterContact (c : MindChatCore) (accountId : AccountId)
    (jid displayName : String) (subscription : RosterSubscription) :
    (c.syncRosterContact accountId jid displayName subscription).2.accounts = c.accounts := by
  unfold syncRosterContact
  split
  · rfl
  · split <;> rfl

@[simp] theorem accounts_removeContact (c : MindChatCore) (accountId : AccountId) (jid : String) :
    (c.removeContact accountId jid).2.accounts = c.accounts := by
  unfold removeContact
  split
  · rfl
  · split
    · rfl
    · split <;> rfl

@[simp] theorem accounts_updateContactPresence (c : MindChatCore) (accountId : AccountId) (jid : String)
    (presence : ContactPresence) (status : Option String) :
    (c.updateContactPresence accountId jid presence status).2.accounts = c.accounts := by
  unfold updateContactPresence
  split
  · rfl
  · split
    · rfl
    · split <;> rfl

/-- Only the connection and the capabilities of an account move with events. -/
theorem accounts_applyTransportEvent (c : MindChatCore) {event : TransportEvent}
    (h : ∀ accountId capabilities recoverable detail kind, event ≠ .connected accountId capabilities ∧
      event ≠ .disconnected accountId recoverable detail kind ∧
      event ≠ .capabilitiesDiscovered accountId capabilities) :
    (c.applyTransportEvent event).2.accounts = c.accounts := by
  cases event with
  | connected accountId capabilities => exact ((h accountId capabilities true none .unknown).1 rfl).elim
  | disconnected accountId recoverable detail kind =>
    exact ((h accountId ∅ recoverable detail kind).2.1 rfl).elim
  | capabilitiesDiscovered accountId capabilities =>
    exact ((h accountId capabilities true none .unknown).2.2 rfl).elim
  | rosterContactUpsert accountId jid displayName subscription =>
    have hs := accounts_syncRosterContact c accountId jid displayName subscription
    simp only [applyTransportEvent]
    split <;> rename_i hr <;> rw [hr] at hs <;> exact hs
  | rosterContactRemoved accountId jid =>
    have hs := accounts_removeContact c accountId jid
    simp only [applyTransportEvent]
    split <;> rename_i hr <;> rw [hr] at hs <;> exact hs
  | contactPresenceUpdated accountId jid presence status =>
    have hs := accounts_updateContactPresence c accountId jid presence status
    simp only [applyTransportEvent]
    split <;> rename_i hr <;> rw [hr] at hs <;> exact hs
  | incomingText accountId kind address sender body receivedAt =>
    exact accounts_receiveTransportText c accountId kind address sender body receivedAt
  | deliveryUpdated accountId sender messageId state =>
    have hs := accounts_applyDeliveryUpdate c accountId sender messageId state
    simp only [applyTransportEvent]
    split <;> rename_i hr <;> rw [hr] at hs <;> exact hs

theorem connection_updateAccount (c : MindChatCore) (a accountId : AccountId)
    (change : Account → Account) (state : ConnectionState → ConnectionState)
    (h : ∀ account, (change account).connectionState = state account.connectionState) :
    (c.updateAccount a change).2.connection accountId =
      if a = accountId then (c.connection a).map state else c.connection accountId := by
  unfold updateAccount connection
  cases ha : c.accounts.lookup a with
  | none =>
    split_ifs with he
    · subst he
      simp [ha]
    · rfl
  | some account =>
    simp only [push]
    split_ifs with he
    · subst he
      simp [AList.lookup_insert,h]
    · rw [AList.lookup_insert_ne (Ne.symm he)]

theorem connection_setConnectionState (c : MindChatCore) (a accountId : AccountId)
    (state : ConnectionState) : (c.setConnectionState a state).2.connection accountId =
      if a = accountId then (c.connection a).map (fun _ => state) else c.connection accountId := by
  refine connection_updateAccount c a accountId _ (fun _ => state) (fun account => ?_)
  split_ifs <;> rfl

theorem accounts_foldl {α : Type} {f : MindChatCore → α → MindChatCore}
    (hf : ∀ c x, (f c x).accounts = c.accounts) (xs : List α) (c : MindChatCore) :
    (xs.foldl f c).accounts = c.accounts := by
  induction xs generalizing c with
  | nil => rfl
  | cons x xs ih => exact (ih (f c x)).trans (hf c x)

theorem accounts_removeConversationState (c : MindChatCore) (conversationId : ConversationId) :
    (c.removeConversationState conversationId).accounts = c.accounts :=
  accounts_foldl (f := removeMessage) (fun _ _ => rfl) _ c

theorem connection_deleteAccount (c : MindChatCore) (a accountId : AccountId) :
    (c.deleteAccount a).2.connection accountId =
      if a = accountId then none else c.connection accountId := by
  unfold deleteAccount
  cases ha : c.accounts.lookup a with
  | none =>
    rw [Option.isNone_none,if_pos rfl]
    split_ifs with he
    · rw [connection,← he,ha]
      rfl
    · rfl
  | some account =>
    rw [Option.isNone_some,if_neg Bool.false_ne_true]
    simp only [connection,push]
    rw [accounts_foldl accounts_removeConversationState,Table.lookup_erase_if]
    split_ifs with he he' he'
    · rfl
    · exact (he' he.symm).elim
    · exact (he he'.symm).elim
    · rfl

theorem connection_applyTransportEvent (c : MindChatCore) (event : TransportEvent)
    (accountId : AccountId) : (c.applyTransportEvent event).2.connection accountId =
      (c.connection accountId).map (fun state => (event.projects accountId).getD state) := by
  have unmoved : ∀ {d : MindChatCore}, d.accounts = c.accounts →
      d.connection accountId = (c.connection accountId).map (fun state => state) := by
    intro d h
    rw [connection_of_accounts h,Option.map_id']
  cases event with
  | connected a capabilities =>
    refine (connection_updateAccount c a accountId _ (fun _ => .online) (fun _ => rfl)).trans ?_
    simp only [TransportEvent.projects]
    split_ifs with he
    · rw [he]
      rfl
    · exact Option.map_id'.symm
  | disconnected a recoverable detail kind =>
    refine (connection_updateAccount c a accountId _
      (fun _ => if recoverable then .offline else .failed) (fun _ => rfl)).trans ?_
    simp only [TransportEvent.projects]
    split_ifs with he <;> first | (rw [he]; rfl) | exact Option.map_id'.symm
  | capabilitiesDiscovered a capabilities =>
    have hs := connection_updateAccount c a accountId
      (fun account => { account with capabilities := capabilities }) id (fun _ => rfl)
    have hc : (c.setCapabilities a capabilities).2.connection accountId = c.connection accountId := by
      refine hs.trans ?_
      split_ifs with he
      · rw [Option.map_id,id,he]
      · rfl
    simp only [applyTransportEvent,TransportEvent.projects,Option.getD_none,Option.map_id']
    split_ifs
    · split <;> rename_i h <;> rw [h] at hc <;> exact hc
    · rfl
  | rosterContactUpsert | rosterContactRemoved | contactPresenceUpdated | incomingText
    | deliveryUpdated => exact unmoved (c.accounts_applyTransportEvent fun _ _ _ _ _ => by simp)

def applyTransportEvents (c : MindChatCore) (events : List TransportEvent) : MindChatCore :=
  events.foldl (fun c event => (c.applyTransportEvent event).2) c

theorem isSome_connection_applyTransportEvents (c : MindChatCore) (events : List TransportEvent)
    (accountId : AccountId) :
    ((c.applyTransportEvents events).connection accountId).isSome = (c.connection accountId).isSome := by
  induction events generalizing c with
  | nil => rfl
  | cons event rest ih =>
    refine (ih (c.applyTransportEvent event).2).trans ?_
    rw [connection_applyTransportEvent,Option.isSome_map]

end MindChatCore
end MindChat
