import MindChat.Reached

/-! At most one conversation for each peer. Two paths find or create a
conversation, each over an unordered map; here no counter is bounded, so an
allocator that wraps around may also replace an old conversation. -/

namespace MindChat

open MindChatCore

def MindChatCore.MayOpen (c : MindChatCore) (accountId : AccountId) (kind : ConversationKind)
    (address : String) : Prop :=
  validateConversationAddress address = .ok () ∧ ∃ account, c.accounts.lookup accountId = some account ∧
    ¬ (kind = .multiUserChat ∧ .multiUserChat ∉ account.capabilities)

theorem peer_eq_iff (accountId : AccountId) (kind : ConversationKind) (address : String)
    (v : Conversation) :
    decide (v.accountId = accountId ∧ v.kind = kind ∧ v.address = address) = true ↔
      v.peer = (accountId,kind,address) := by
  simp only [Conversation.peer,decide_eq_true_eq,Prod.mk.injEq]

namespace OnePerPeer

variable {c d : MindChatCore}

theorem findConversation_some (h : OnePerPeer c) {accountId : AccountId} {kind : ConversationKind}
    {address : String} {v : Conversation} (hf : c.findConversation accountId kind address = some v) :
    c.conversations.lookup v.id = some v ∧ v.peer = (accountId,kind,address) :=
  Table.Interned.lookup_of_find? h (peer_eq_iff accountId kind address) hf

theorem findConversation_eq (h : OnePerPeer c) {accountId : AccountId} {kind : ConversationKind}
    {address : String} {id : ConversationId} {v : Conversation} (hv : c.conversations.lookup id = some v)
    (hp : v.peer = (accountId,kind,address)) : c.findConversation accountId kind address = some v :=
  Table.Interned.find?_eq h (peer_eq_iff accountId kind address) hv hp

variable {accountId : AccountId} {kind : ConversationKind} {address title : String} {now : ℕ}
  {id : ConversationId}

theorem opened (h : OnePerPeer c)
    (ho : c.openConversation accountId kind address title now = (.ok id,d)) :
    c.MayOpen accountId kind address ∧ d.accounts = c.accounts ∧
      ∃ v, d.conversations.lookup id = some v ∧ v.peer = (accountId,kind,address) := by
  obtain ⟨hm,⟨v,hv,rfl,rfl⟩ | ⟨-,hi⟩⟩ := openConversation_ok ho
  · exact ⟨hm,rfl,v,h.findConversation_some hv⟩
  · cases hi
    exact ⟨hm,rfl,_,AList.lookup_insert _,rfl⟩

/-- Both lookups find the conversation of a peer again. -/
theorem reopened (h : OnePerPeer c) {v : Conversation} (hv : c.conversations.lookup id = some v)
    (hp : v.peer = (accountId,kind,address)) (hm : c.MayOpen accountId kind address) (title : String)
    (now : ℕ) : c.openConversation accountId kind address title now = (.ok id,c) := by
  obtain ⟨hs,account,ha,hk⟩ := hm
  unfold MindChatCore.openConversation
  simp only [hs,ha,if_neg hk,h.findConversation_eq hv hp]
  exact congrArg (fun k => (Except.ok k,c)) (Table.Interned.keyed h id v hv)

theorem retargeted (h : OnePerPeer c) {v : Conversation} (hv : c.conversations.lookup id = some v)
    (hp : v.peer = (accountId,kind,address)) (now : ℕ) :
    c.targetConversation accountId kind address now = (id,c) := by
  unfold MindChatCore.targetConversation
  rw [h.findConversation_eq hv hp]
  exact congrArg (fun k => (k,c)) (Table.Interned.keyed h id v hv)

end OnePerPeer

/-- In every reached core no two conversations have the same peer, so the search of
both lookup paths has one result in every order of the map; and once a conversation
is opened, both paths resolve to it and change nothing, also in any later core that
still has it under its peer. -/
theorem one_conversation_per_peer {c : MindChatCore} (h : Reached c) :
    (∀ j k v w, c.conversations.lookup j = some v → c.conversations.lookup k = some w →
        v.peer = w.peer → j = k) ∧
      (∀ accountId kind address (order : List Conversation), order.Perm c.conversations.values →
        order.find? (fun item => item.accountId = accountId ∧ item.kind = kind ∧ item.address = address) =
          c.findConversation accountId kind address) ∧
      (∀ id v, c.conversations.lookup id = some v → ∀ title now,
        (c.MayOpen v.accountId v.kind v.address →
          c.openConversation v.accountId v.kind v.address title now = (.ok id,c)) ∧
        c.targetConversation v.accountId v.kind v.address now = (id,c)) ∧
      ∀ accountId kind address title now id d,
        c.openConversation accountId kind address title now = (.ok id,d) → ∀ title' now',
          d.openConversation accountId kind address title' now' = (.ok id,d) ∧
            d.targetConversation accountId kind address now' = (id,d) := by
  have hg := h.grounded
  have hp := hg.peers
  refine ⟨Table.Interned.unique hp,fun accountId kind address order ho => ?_,
    fun id v hv title now => ?_,?_⟩
  · exact Table.Interned.find?_perm hp (peer_eq_iff accountId kind address) ho
  · exact ⟨fun hm => hp.reopened hv rfl hm title now,hp.retargeted hv rfl now⟩
  · intro accountId kind address title now id d ho title' now'
    obtain ⟨⟨hs,account,ha,hk⟩,hd,v,hv,hpeer⟩ := hp.opened ho
    have hpd : OnePerPeer d := by
      have hopen : Edited False Edit.Opening c (c.openConversation accountId kind address title now).2 :=
        openConversation_any False.elim
      rw [ho] at hopen
      exact (hg.edited hopen).peers
    exact ⟨hpd.reopened hv hpeer ⟨hs,account,hd ▸ ha,hk⟩ title' now',hpd.retargeted hv hpeer now'⟩

/-- A conversation opened by hand after a text of the same peer was received, deleted and
received again. -/
theorem one_conversation_per_peer_demo :
    let c := [SessionStep.op (.addAccount demoSetup),
      .op (.applyTransportEvent (.incomingText 1 .direct "bob@host" "bob@host" "hi" 10)),
      .op (.deleteConversation 1),
      .op (.applyTransportEvent (.incomingText 1 .direct "bob@host" "bob@host" "hi" 11))].foldl
        SessionStep.run default
    let d := (c.openConversation 1 .direct "bob@host" "Bob" 12).2
    d.openConversation 1 .direct "bob@host" "Bobby" 13 = (.ok 2,d) := by
  intro c d
  have ho : c.openConversation 1 .direct "bob@host" "Bob" 12 = (.ok 2,d) :=
    Prod.ext (by decide +kernel) rfl
  exact ((one_conversation_per_peer ⟨_,rfl⟩).2.2.2 1 .direct "bob@host" "Bob" 12 2 d ho "Bobby" 13).1

end MindChat
