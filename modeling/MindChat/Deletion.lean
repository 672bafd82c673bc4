import MindChat.FailedCalls
import MindChat.Reached
import MindChat.ServerRoster

/-! Deleting an account or a conversation removes what it owns, nothing else, and no
late event brings any of it back. -/

namespace MindChat

open MindChatCore

/-- The conversations in `gone` went with their messages and the reactions to these,
and all others stayed as they were. -/
structure DropsConversations (gone : ConversationId → Prop) (c d : MindChatCore) : Prop where
  conversations : ∀ k v, d.conversations.lookup k = some v ↔
    c.conversations.lookup k = some v ∧ ¬ gone k
  messages : ∀ k m, d.messages.lookup k = some m ↔
    c.messages.lookup k = some m ∧ ¬ gone m.conversationId
  reactions : ∀ k r, d.reactions.lookup k = some r ↔ c.reactions.lookup k = some r ∧
    ∀ m, c.messages.lookup r.messageId = some m → ¬ gone m.conversationId

namespace MindChatCore

variable {c : MindChatCore}

theorem dropsConversations_removeConversationState (hk : ∀ k m, c.messages.lookup k = some m → m.id = k)
    (id : ConversationId) : DropsConversations (· = id) c (c.removeConversationState id) := by
  refine ⟨fun k v => ?_,fun k m => ?_,fun k r => reactions_removeConversationState hk id k r⟩
  · rw [removeConversationState_eq,Table.lookup_erase_if]
    by_cases he : k = id <;> simp [he]
  · rw [messages_removeConversationState hk,Option.filter_eq_some_iff,decide_eq_true_eq]

theorem dropsConversations_foldl (hk : ∀ k m, c.messages.lookup k = some m → m.id = k)
    (ids : List ConversationId) :
    DropsConversations (· ∈ ids) c (ids.foldl removeConversationState c) := by
  induction ids generalizing c with
  | nil => exact ⟨by simp,by simp,by simp⟩
  | cons id ids ih =>
    have h := dropsConversations_removeConversationState hk id
    have ht := ih (c := c.removeConversationState id) fun k m hm => hk k m ((h.messages k m).mp hm).1
    refine ⟨fun k v => ?_,fun k m => ?_,fun k r => ?_⟩
    · rw [List.foldl_cons,ht.conversations,h.conversations,List.mem_cons,not_or,and_assoc]
    · rw [List.foldl_cons,ht.messages,h.messages,List.mem_cons,not_or,and_assoc]
    · rw [List.foldl_cons,ht.reactions,h.reactions]
      simp only [h.messages,List.mem_cons,not_or]
      constructor
      · rintro ⟨⟨hr,h₁⟩,h₂⟩
        exact ⟨hr,fun m hm => ⟨h₁ m hm,h₂ m ⟨hm,h₁ m hm⟩⟩⟩
      · rintro ⟨hr,h₁⟩
        exact ⟨⟨hr,fun m hm => (h₁ m hm).1⟩,fun m hm => (h₁ m hm.1).2⟩

theorem foldl_removeConversationState_eq (ids : List ConversationId) (c : MindChatCore) :
    (ids.foldl removeConversationState c).accounts = c.accounts ∧
      (ids.foldl removeConversationState c).contacts = c.contacts := by
  induction ids generalizing c with
  | nil => exact ⟨rfl,rfl⟩
  | cons id ids ih =>
    obtain ⟨ha,ht⟩ := ih (c.removeConversationState id)
    have he := removeConversationState_eq c id
    exact ⟨ha.trans (by rw [he]),ht.trans (by rw [he])⟩

def OwnedBy (c : MindChatCore) (accountId : AccountId) (id : ConversationId) : Prop :=
  ∃ v, c.conversations.lookup id = some v ∧ v.accountId = accountId

end MindChatCore

namespace MindChatCore

structure OwnsNothing (c : MindChatCore) (a : AccountId) : Prop where
  account : c.accounts.lookup a = none
  contacts : ∀ k t, c.contacts.lookup k = some t → t.accountId ≠ a
  conversations : ∀ k v, c.conversations.lookup k = some v → v.accountId ≠ a
  messages : ∀ k m, c.messages.lookup k = some m → ¬ c.OwnedBy a m.conversationId
  reactions : ∀ k r m, c.reactions.lookup k = some r → c.messages.lookup r.messageId = some m →
    ¬ c.OwnedBy a m.conversationId

variable {c d : MindChatCore}

theorem ownsNothing_of_roots {a : AccountId} (ha : c.accounts.lookup a = none)
    (ht : ∀ k t, c.contacts.lookup k = some t → t.accountId ≠ a)
    (hv : ∀ k v, c.conversations.lookup k = some v → v.accountId ≠ a) : c.OwnsNothing a := by
  have hnone (id : ConversationId) : ¬ c.OwnedBy a id := by
    rintro ⟨v,hl,he⟩
    exact hv id v hl he
  exact ⟨ha,ht,hv,fun _ m _ => hnone m.conversationId,fun _ _ m _ _ => hnone m.conversationId⟩

theorem applyTransportEvent_unknown {event : TransportEvent} (h : c.accounts.lookup event.account = none) :
    (c.applyTransportEvent event).2 = c := by
  cases event with
  | connected | disconnected => exact updateAccount_none h
  | capabilitiesDiscovered accountId =>
    have hn : c.accounts.lookup accountId = none := h
    simp [applyTransportEvent,hn]
  | rosterContactUpsert accountId =>
    have hn : c.accounts.lookup accountId = none := h
    simp [applyTransportEvent,syncRosterContact,hn]
  | rosterContactRemoved accountId =>
    have hn : c.accounts.lookup accountId = none := h
    simp [applyTransportEvent,removeContact,hn]
  | contactPresenceUpdated accountId =>
    have hn : c.accounts.lookup accountId = none := h
    simp [applyTransportEvent,updateContactPresence,hn]
  | incomingText accountId =>
    have hn : c.accounts.lookup accountId = none := h
    simp [applyTransportEvent,receiveTransportText,hn]
  | deliveryUpdated accountId =>
    have hn : c.accounts.lookup accountId = none := h
    simp [applyTransportEvent,applyDeliveryUpdate,hn]

theorem applyTransportEvents_unknown {a : AccountId} (h : c.accounts.lookup a = none)
    {events : List TransportEvent} (ha : ∀ event ∈ events, event.account = a) :
    c.applyTransportEvents events = c := by
  induction events with
  | nil => rfl
  | cons event rest ih =>
    have he : (c.applyTransportEvent event).2 = c :=
      applyTransportEvent_unknown (by rw [ha event List.mem_cons_self]; exact h)
    show (c.applyTransportEvent event).2.applyTransportEvents rest = c
    rw [he]
    exact ih fun event hm => ha event (List.mem_cons_of_mem _ hm)

theorem deleteAccount_spec (hg : Grounded c) {a : AccountId}
    (ha : (c.accounts.lookup a).isSome) :
    (c.deleteAccount a).1 = .ok () ∧
      (∀ k b, (c.deleteAccount a).2.accounts.lookup k = some b ↔
        c.accounts.lookup k = some b ∧ k ≠ a) ∧
      (∀ k t, (c.deleteAccount a).2.contacts.lookup k = some t ↔
        c.contacts.lookup k = some t ∧ t.accountId ≠ a) ∧
      DropsConversations (c.OwnedBy a) c (c.deleteAccount a).2 := by
  have hn : ¬ (c.accounts.lookup a).isNone := by simpa [Option.isSome_iff_ne_none] using ha
  simp only [deleteAccount,if_neg hn,push]
  generalize hids : (c.conversations.values.filter (fun v => v.accountId = a)).map Conversation.id = ids
  have hown : (· ∈ ids) = c.OwnedBy a := by
    funext k
    rw [← hids,mem_accountConversations hg.peers.keyed]
    rfl
  obtain ⟨hacc,hcon⟩ := foldl_removeConversationState_eq ids c
  have hd := dropsConversations_foldl hg.messageKey ids
  rw [hown] at hd
  refine ⟨trivial,fun k b => ?_,fun k t => ?_,⟨hd.conversations,hd.messages,hd.reactions⟩⟩
  · rw [hacc,Table.lookup_erase_if]
    by_cases he : k = a <;> simp [he]
  · rw [hcon,Table.lookup_retain,Option.filter_eq_some_iff,decide_eq_true_eq]
    refine and_congr_right fun ht => ?_
    rw [← show (t.accountId,t.jid) = k from hg.contactKey k t ht]

theorem deleteConversation_spec (hg : Grounded c) {id : ConversationId}
    (hv : (c.conversations.lookup id).isSome) :
    (c.deleteConversation id).1 = .ok () ∧ (c.deleteConversation id).2.accounts = c.accounts ∧
      (c.deleteConversation id).2.contacts = c.contacts ∧
      DropsConversations (· = id) c (c.deleteConversation id).2 := by
  have hn : ¬ (c.conversations.lookup id).isNone := by simpa [Option.isSome_iff_ne_none] using hv
  have he := removeConversationState_eq c id
  have hd := dropsConversations_removeConversationState hg.messageKey id
  simp only [deleteConversation,if_neg hn,push]
  exact ⟨trivial,by rw [he],by rw [he],⟨hd.conversations,hd.messages,hd.reactions⟩⟩

/-- Deleting an account takes it, its contacts, its conversations, their messages and the
reactions to them, and no other record; whatever events of the account still arrive, in any
number and order, the account owns nothing any more. Deleting a conversation takes it, its
messages and the reactions to them, and no other record. -/
theorem deletion_takes_the_closure {c : MindChatCore} (hc : Reached c) :
    (∀ a, (c.accounts.lookup a).isSome →
      (c.deleteAccount a).1 = .ok () ∧
      (∀ k b, (c.deleteAccount a).2.accounts.lookup k = some b ↔
        c.accounts.lookup k = some b ∧ k ≠ a) ∧
      (∀ k t, (c.deleteAccount a).2.contacts.lookup k = some t ↔
        c.contacts.lookup k = some t ∧ t.accountId ≠ a) ∧
      DropsConversations (c.OwnedBy a) c (c.deleteAccount a).2 ∧
      ∀ events : List TransportEvent, (∀ event ∈ events, event.account = a) →
        ((c.deleteAccount a).2.applyTransportEvents events).OwnsNothing a) ∧
    ∀ id, (c.conversations.lookup id).isSome →
      (c.deleteConversation id).1 = .ok () ∧ (c.deleteConversation id).2.accounts = c.accounts ∧
      (c.deleteConversation id).2.contacts = c.contacts ∧
      DropsConversations (· = id) c (c.deleteConversation id).2 := by
  refine ⟨fun a ha => ?_,fun id hv => deleteConversation_spec hc.grounded hv⟩
  obtain ⟨hok,hacc,hcon,hdrop⟩ := deleteAccount_spec hc.grounded ha
  refine ⟨hok,hacc,hcon,hdrop,fun events he => ?_⟩
  have hgone : (c.deleteAccount a).2.accounts.lookup a = none := by
    cases hl : (c.deleteAccount a).2.accounts.lookup a with
    | none => rfl
    | some b => exact absurd rfl ((hacc a b).mp hl).2
  rw [applyTransportEvents_unknown hgone he]
  refine ownsNothing_of_roots hgone (fun k t ht => ((hcon k t).mp ht).2) fun k v hv hown => ?_
  obtain ⟨hl,hnot⟩ := (hdrop.conversations k v).mp hv
  exact hnot ⟨v,hl,hown⟩

/-- Ada's account with a contact, a conversation, messages and a reaction, then a late text. -/
theorem deletion_takes_the_closure_demo :
    ((demoCore.deleteAccount 1).2.applyTransportEvents
        [.incomingText 1 .direct "bob@host" "bob@host" "late" 20,.connected 1 ∅]).OwnsNothing 1 ∧
      DropsConversations (· = 1) demoCore (demoCore.deleteConversation 1).2 :=
  have h := deletion_takes_the_closure demoCore_reachable.reached
  ⟨(h.1 1 (by decide +kernel)).2.2.2.2 _ (by decide),(h.2 1 (by decide +kernel)).2.2.2⟩

end MindChatCore

end MindChat
