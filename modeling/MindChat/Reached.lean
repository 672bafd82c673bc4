import MindChat.Interned
import MindChat.Runs

/-! The cores of all runs, restarts included, and what holds in each of them however
often a counter has wrapped around. -/

namespace MindChat

open MindChatCore

/-- The cores of all runs from the empty one, with restarts and whatever the counters. -/
def Reached (c : MindChatCore) : Prop := ∃ steps : List SessionStep, steps.foldl SessionStep.run default = c

theorem Reachable.reached {c : MindChatCore} (h : Reachable c) : Reached c := by
  obtain ⟨steps,h⟩ := h
  refine ⟨steps,?_⟩
  generalize MindChatCore.default = start at h ⊢
  induction Transition.run_iff_exec.mpr h with
  | nil => rfl
  | cons hs hr ih =>
    obtain ⟨-,rfl⟩ := SessionStep.next_eq_some.mp hs
    exact ih (Transition.run_iff_exec.mp hr)

theorem Reached.step {c : MindChatCore} (h : Reached c) (s : SessionStep) : Reached (s.run c) := by
  obtain ⟨steps,rfl⟩ := h
  exact ⟨steps ++ [s],by rw [List.foldl_append,List.foldl_cons,List.foldl_nil]⟩

theorem Reached.invariant {I : MindChatCore → Prop} (h₀ : I default)
    (hs : ∀ (c : MindChatCore) (s : SessionStep), I c → I (s.run c)) {c : MindChatCore} (h : Reached c) :
    I c := by
  obtain ⟨steps,rfl⟩ := h
  induction steps using List.reverseRecOn with
  | nil => exact h₀
  | append_singleton steps s ih =>
    rw [List.foldl_append,List.foldl_cons,List.foldl_nil]
    exact hs _ s ih

def OnePerPeer (c : MindChatCore) : Prop := c.conversations.Interned Conversation.id Conversation.peer

/-- What every run keeps: one conversation for each peer, of a known account and with a
checked address, and all other records stored under their own keys. -/
structure Grounded (c : MindChatCore) : Prop where
  contactKey : ContactsKeyed c
  accountKey : ∀ k a, c.accounts.lookup k = some a → a.id = k
  peers : OnePerPeer c
  owner : ∀ k v, c.conversations.lookup k = some v → (c.accounts.lookup v.accountId).isSome
  checked : ∀ k v, c.conversations.lookup k = some v → validateConversationAddress v.address = .ok ()
  messageKey : ∀ k m, c.messages.lookup k = some m → m.id = k
  reactionKey : ∀ k r, c.reactions.lookup k = some r → r.id = k

namespace Grounded

variable {c d : MindChatCore}

theorem default : Grounded MindChatCore.default := by
  refine ⟨?_,?_,Table.Interned.empty,?_,?_,?_,?_⟩ <;> simp [MindChatCore.default,ContactsKeyed]

theorem filed (h : Grounded c) : Filed c := ⟨h.contactKey,h.peers.keyed⟩

theorem newAccount (h : Grounded c) (account : Account) : Grounded ((Edit.newAccount account).apply c) := by
  refine { h with accountKey := Table.forall_insert rfl h.accountKey, owner := fun k v hk => ?_ }
  have ho := h.owner k v hk
  simp only [Edit.apply,Table.lookup_insert_if]
  split
  · rfl
  · exact ho

theorem setAccount (h : Grounded c) {key : AccountId} {account : Account}
    (hl : (Edit.setAccount key account).Legal False c) : Grounded ((Edit.setAccount key account).apply c) := by
  obtain ⟨old,ho,hid⟩ := hl
  refine { h with
    accountKey := Table.forall_insert (hid.trans (h.accountKey key old ho)) h.accountKey
    owner := fun k v hk => ?_ }
  exact (Table.isSome_insert_iff (by simp [ho])).mpr (h.owner k v hk)

theorem newConversation (h : Grounded c) {v : Conversation} (ho : (Edit.newConversation v).Opening c)
    (hl : (Edit.newConversation v).Legal False c) : Grounded ((Edit.newConversation v).apply c) :=
  { h with
    peers := Table.Interned.insert_fresh h.peers (findConversation_eq_none.mp ho.2)
    owner := Table.forall_insert hl.2.2 h.owner
    checked := Table.forall_insert ho.1 h.checked }

theorem setConversation (h : Grounded c) {key : ConversationId} {v : Conversation}
    (hl : (Edit.setConversation key v).Legal False c) : Grounded ((Edit.setConversation key v).apply c) := by
  obtain ⟨old,hs,hid,haccount,hkind,haddress⟩ := hl
  have hp : v.peer = old.peer := by simp only [Conversation.peer,haccount,hkind,haddress]
  exact { h with
    peers := Table.Interned.insert_same h.peers hs hid hp
    owner := Table.forall_insert (haccount ▸ h.owner key old hs) h.owner
    checked := Table.forall_insert (haddress ▸ h.checked key old hs) h.checked }

theorem setMessage (h : Grounded c) {key : MessageId} {m : Message}
    (hl : (Edit.setMessage key m).Legal False c) : Grounded ((Edit.setMessage key m).apply c) := by
  obtain ⟨old,hs,hid,-⟩ := hl
  exact { h with messageKey := Table.forall_insert (hid.trans (h.messageKey key old hs)) h.messageKey }

theorem dropConversation (h : Grounded c) (id : ConversationId) : Grounded (c.removeConversationState id) := by
  rw [removeConversationState_eq]
  refine { h with
    peers := Table.Interned.erase h.peers id
    owner := Table.forall_erase h.owner
    checked := Table.forall_erase h.checked
    messageKey := fun k m hm => ?_
    reactionKey := fun k r hr => ?_ }
  · rw [messages_removeConversationState h.messageKey,Option.filter_eq_some_iff] at hm
    exact h.messageKey k m hm.1
  · exact h.reactionKey k r ((reactions_removeConversationState h.messageKey id k r).mp hr).1

theorem dropAccount (h : Grounded c) {accountId : AccountId}
    (hl : (Edit.dropAccount accountId).Legal False c) : Grounded ((Edit.dropAccount accountId).apply c) := by
  refine { h with
    contactKey := (h.filed.edit hl).contactKey
    accountKey := Table.forall_erase h.accountKey
    owner := fun k v hv => ?_ }
  simp only [Edit.apply]
  rw [AList.lookup_erase_ne (hl k v hv)]
  exact h.owner k v hv

theorem edit (h : Grounded c) {e : Edit} (ho : e.Opening c) (hl : e.Legal False c) : Grounded (e.apply c) := by
  cases e with
  | newAccount account => exact h.newAccount account
  | setAccount => exact h.setAccount hl
  | putContact | dropContact => exact { h with contactKey := (h.filed.edit hl).contactKey }
  | newConversation => exact h.newConversation ho hl
  | setConversation => exact h.setConversation hl
  | newMessage => exact { h with messageKey := Table.forall_insert rfl h.messageKey }
  | setMessage => exact h.setMessage hl
  | dropConversation id => exact h.dropConversation id
  | dropAccount => exact h.dropAccount hl
  | newReaction => exact { h with reactionKey := Table.forall_insert rfl h.reactionKey }
  | announce | drain => exact { h with }

theorem edited (h : Grounded c) (he : Edited False Edit.Opening c d) : Grounded d :=
  he.invariant (fun _ _ h ho hl => h.edit ho hl) h

theorem op (h : Grounded c) (o : CoreOp) : Grounded (o.run c) := h.edited (o.edited h.filed False.elim)

theorem conversations_restart (h : Grounded c) (k : ConversationId) (v : Conversation)
    (hv : (fromSnapshot c.snapshot).conversations.lookup k = some v) :
    c.conversations.lookup k = some v := by
  have hp := Listing.sortByKey_perm Conversation.id c.conversations.values
  obtain ⟨hk,hm⟩ := Table.lookup_collect_some hv
  obtain ⟨j,hj⟩ := Table.mem_values.mp (hp.mem_iff.mp hm)
  rwa [← hk,h.peers.keyed j v hj]

theorem restart (h : Grounded c) : Grounded (fromSnapshot c.snapshot) := by
  have hp := Listing.sortByKey_perm Conversation.id c.conversations.values
  have old := h.conversations_restart
  refine ⟨fun k t ht => (Table.lookup_collect_some ht).1,fun k a ha => (Table.lookup_collect_some ha).1,
    Table.Interned.collect h.peers hp,fun k v hv => ?_,fun k v hv => h.checked k v (old k v hv),
    fun k m hm => (Table.lookup_collect_some hm).1,fun k r hr => (Table.lookup_collect_some hr).1⟩
  obtain ⟨a,ha⟩ := Option.isSome_iff_exists.mp (h.owner k v (old k v hv))
  have hm : a ∈ Listing.sortByKey Account.id c.accounts.values :=
    Listing.mem_sortByKey.mpr (Table.mem_values.mpr ⟨v.accountId,ha⟩)
  have hs := @Table.lookup_collect_isSome _ _ _ Account.id _ _ hm
  rwa [h.accountKey v.accountId a ha] at hs

theorem step (h : Grounded c) (s : SessionStep) : Grounded (s.run c) := by
  cases s with
  | op o => exact h.op o
  | restart => exact h.restart

end Grounded

theorem Reached.grounded {c : MindChatCore} (h : Reached c) : Grounded c :=
  h.invariant .default fun _ s hg => hg.step s

end MindChat
