import MindChat.Integrity

/-! Export of a core to a snapshot and its import. An import may reset fields of
the accounts and contacts on the way; it must keep their keys. -/

namespace MindChat

open MindChatCore

/-- `d` holds the records of `c`, accounts changed by `f` and contacts by `g`. -/
structure Restores (f : Account → Account) (g : Contact → Contact) (c d : MindChatCore) : Prop where
  accounts : ∀ k, d.accounts.lookup k = (c.accounts.lookup k).map f
  contacts : ∀ k, d.contacts.lookup k = (c.contacts.lookup k).map g
  conversations : ∀ k, d.conversations.lookup k = c.conversations.lookup k
  messages : ∀ k, d.messages.lookup k = c.messages.lookup k
  reactions : ∀ k, d.reactions.lookup k = c.reactions.lookup k

def CoreSnapshot.mapRecords (f : Account → Account) (g : Contact → Contact) (s : CoreSnapshot) :
    CoreSnapshot :=
  { s with accounts := s.accounts.map f, contacts := s.contacts.map g }

/-- The changes keep the keys under which the records are stored. -/
structure KeepsKeys (f : Account → Account) (g : Contact → Contact) : Prop where
  account : ∀ a, (f a).id = a.id
  contact : ∀ t, ((g t).accountId,(g t).jid) = (t.accountId,t.jid)

theorem KeepsKeys.id : KeepsKeys id id := ⟨fun _ => rfl,fun _ => rfl⟩

theorem CoreSnapshot.mapRecords_id (s : CoreSnapshot) : s.mapRecords id id = s := by
  simp [CoreSnapshot.mapRecords]

namespace MindChatCore

theorem foldl_max_le_iff (ids : List ℕ) (a m : ℕ) :
    ids.foldl max a ≤ m ↔ a ≤ m ∧ ∀ i ∈ ids, i ≤ m := by
  induction ids generalizing a with
  | nil => simp
  | cons i ids ih =>
    rw [List.foldl_cons,ih,max_le_iff]
    simp [and_assoc]

theorem nextAfter_eq {ids : List ℕ} (h : ∀ i ∈ ids, i < u64Max) :
    nextAfter ids = ids.foldl max 0 + 1 := by
  have hm : ids.foldl max 0 ≤ u64Max - 1 :=
    (foldl_max_le_iff ids 0 _).mpr ⟨Nat.zero_le _,fun i hi => Nat.le_sub_one_of_lt (h i hi)⟩
  rw [nextAfter,u64Succ,Nat.mod_eq_of_lt]
  simp only [u64Max] at hm
  omega

theorem lt_nextAfter {ids : List ℕ} (h : ∀ i ∈ ids, i < u64Max) {i : ℕ} (hi : i ∈ ids) :
    i < nextAfter ids := by
  have hm := ((foldl_max_le_iff ids 0 _).mp le_rfl).2 i hi
  rw [nextAfter_eq h]
  omega

theorem lt_u64Max {next k : ℕ} (hn : next < u64Max) (h : k < allocated next) : k < u64Max := by
  simp only [allocated,u64Max] at *
  omega

theorem below_collect {V : Type} {key : V → ℕ} {xs : List V} (h : ∀ x ∈ xs, key x < u64Max) (k : ℕ)
    (hk : ((Table.collect key xs).lookup k).isSome) : k < allocated (nextAfter (xs.map key)) := by
  obtain ⟨v,hv⟩ := Option.isSome_iff_exists.mp hk
  obtain ⟨rfl,hm⟩ := Table.lookup_collect_some hv
  have hlt : key v < nextAfter (xs.map key) :=
    lt_nextAfter (by simpa using h) (List.mem_map_of_mem hm)
  exact lt_of_lt_of_le hlt (le_max_left _ _)

end MindChatCore

/-- The ids of a snapshot leave room for the next one. -/
def CoreSnapshot.IdsBelowMax (s : CoreSnapshot) : Prop :=
  (∀ a ∈ s.accounts, a.id < u64Max) ∧ (∀ v ∈ s.conversations, v.id < u64Max) ∧
    (∀ m ∈ s.messages, m.id < u64Max) ∧ ∀ r ∈ s.reactions, r.id < u64Max

namespace MindChatCore

theorem fromSnapshot_keyed {s : CoreSnapshot} (h : s.IdsBelowMax) : Keyed (fromSnapshot s) where
  accountKey _ _ h := (Table.lookup_collect_some h).1
  contactKey _ _ h := (Table.lookup_collect_some h).1
  conversationKey _ _ h := (Table.lookup_collect_some h).1
  messageKey _ _ h := (Table.lookup_collect_some h).1
  reactionKey _ _ h := (Table.lookup_collect_some h).1
  accountBelow := below_collect h.1
  conversationBelow := below_collect h.2.1
  messageBelow := below_collect h.2.2.1
  reactionBelow := below_collect h.2.2.2

theorem mem_sortByKey_below {V : Type} {t : Table ℕ V} {key : V → ℕ} {next : ℕ} (hn : next < u64Max)
    (hk : ∀ k v, t.lookup k = some v → key v = k)
    (h : ∀ k, (t.lookup k).isSome → k < allocated next) :
    ∀ v ∈ Listing.sortByKey key t.values, key v < u64Max := by
  intro v hv
  obtain ⟨k,hl⟩ := Table.mem_values.mp (Listing.mem_sortByKey.mp hv)
  rw [hk k v hl]
  exact lt_u64Max hn (h k (by simp [hl]))

variable {f : Account → Account} {g : Contact → Contact} {c d : MindChatCore}

/-- Importing an exported core restores its records. -/
theorem fromSnapshot_restores (hi : Keyed c) (hk : KeepsKeys f g) :
    Restores f g c (fromSnapshot (c.snapshot.mapRecords f g)) where
  accounts := Table.lookup_collect_map hi.accountKey hk.account (Listing.sortByKey_perm _ _)
  contacts := Table.lookup_collect_map hi.contactKey hk.contact (Listing.sortByKey_perm _ _)
  conversations k := by
    simpa [fromSnapshot,CoreSnapshot.mapRecords,snapshot] using Table.lookup_collect_map hi.conversationKey
      (fun v => rfl) (Listing.sortByKey_perm Conversation.id c.conversations.values) k (f := id)
  messages k := by
    simpa [fromSnapshot,CoreSnapshot.mapRecords,snapshot] using Table.lookup_collect_map hi.messageKey
      (fun v => rfl) (Listing.sortByKey_perm Message.id c.messages.values) k (f := id)
  reactions k := by
    simpa [fromSnapshot,CoreSnapshot.mapRecords,snapshot] using Table.lookup_collect_map hi.reactionKey
      (fun v => rfl) (Listing.sortByKey_perm Reaction.id c.reactions.values) k (f := id)

theorem snapshot_idsBelowMax (hi : Keyed c) (hf : c.CountersBelowMax) : c.snapshot.IdsBelowMax :=
  ⟨mem_sortByKey_below hf.1 hi.accountKey hi.accountBelow,
    mem_sortByKey_below hf.2.1 hi.conversationKey hi.conversationBelow,
    mem_sortByKey_below hf.2.2.1 hi.messageKey hi.messageBelow,
    mem_sortByKey_below hf.2.2.2 hi.reactionKey hi.reactionBelow⟩

theorem mapRecords_idsBelowMax {s : CoreSnapshot} (hk : KeepsKeys f g) (h : s.IdsBelowMax) :
    (s.mapRecords f g).IdsBelowMax := by
  refine ⟨fun b hb => ?_,h.2⟩
  obtain ⟨a,ha,rfl⟩ := List.mem_map.mp hb
  rw [hk.account]
  exact h.1 a ha

theorem integrity_of_restores (hi : Integrity c) (hk : KeepsKeys f g) (hr : Restores f g c d)
    (hd : Keyed d) : Integrity d := by
  have owner : ∀ k, (d.accounts.lookup k).isSome = (c.accounts.lookup k).isSome := by
    intro k
    rw [hr.accounts,Option.isSome_map]
  refine ⟨hd,?_,?_,?_,?_,?_,?_,?_,?_,?_⟩
  · intro k t h
    rw [hr.contacts,Option.map_eq_some_iff] at h
    obtain ⟨u,hu,rfl⟩ := h
    rw [owner,(Prod.mk.inj (hk.contact u)).1]
    exact hi.contactAccount k u hu
  · intro k v h
    rw [owner]
    exact hi.conversationAccount k v (hr.conversations k ▸ h)
  · intro k m h
    rw [hr.conversations]
    exact hi.messageConversation k m (hr.messages k ▸ h)
  · intro k r h
    rw [hr.messages]
    exact hi.reactionMessage k r (hr.reactions k ▸ h)
  · intro k m reply h hreply
    rw [hr.messages] at h ⊢
    exact hi.replyTarget k m reply h hreply
  · exact fun k h => hi.accountPositive k (owner k ▸ h)
  · exact fun k h => hi.conversationPositive k (hr.conversations k ▸ h)
  · exact fun k h => hi.messagePositive k (hr.messages k ▸ h)
  · exact fun k h => hi.reactionPositive k (hr.reactions k ▸ h)

theorem fromSnapshot_integrity (hi : Integrity c) (hf : c.CountersBelowMax) (hk : KeepsKeys f g) :
    Integrity (fromSnapshot (c.snapshot.mapRecords f g)) :=
  integrity_of_restores hi hk (fromSnapshot_restores hi.toKeyed hk)
    (fromSnapshot_keyed (mapRecords_idsBelowMax hk (snapshot_idsBelowMax hi.toKeyed hf)))

theorem snapshot_of_restores (hi : Keyed c) (hk : KeepsKeys f g) (hr : Restores f g c d) :
    d.snapshot = c.snapshot.mapRecords f g := by
  have hv : d.conversations.values.Perm c.conversations.values := by
    simpa using Table.values_perm_map (f := id) (fun k => by simpa using hr.conversations k)
  have hm : d.messages.values.Perm c.messages.values := by
    simpa using Table.values_perm_map (f := id) (fun k => by simpa using hr.messages k)
  have hx : d.reactions.values.Perm c.reactions.values := by
    simpa using Table.values_perm_map (f := id) (fun k => by simpa using hr.reactions k)
  have hl : (c.contacts.values.map (fun t => toLex (t.accountId,t.jid))).Nodup := by
    have h := (Table.values_map_nodup hi.contactKey).map toLex.injective
    simpa [List.map_map,Function.comp_def] using h
  simp only [snapshot,CoreSnapshot.mapRecords,CoreSnapshot.mk.injEq]
  refine ⟨?_,?_,?_,?_,?_⟩
  · exact Listing.sortByKey_map hk.account (Table.values_perm_map hr.accounts)
      (Table.values_map_nodup hi.accountKey)
  · exact Listing.sortByKey_map (fun t => congrArg toLex (hk.contact t))
      (Table.values_perm_map hr.contacts) hl
  · exact Listing.sortByKey_congr hv (Table.values_map_nodup hi.conversationKey)
  · exact Listing.sortByKey_congr hm (Table.values_map_nodup hi.messageKey)
  · exact Listing.sortByKey_congr hx (Table.values_map_nodup hi.reactionKey)

/-- The outgoing form of a message, when its conversation belongs to the account. -/
def outgoing (c : MindChatCore) (accountId : AccountId) (message : Message) : Option OutgoingMessage :=
  (c.conversations.lookup message.conversationId).bind (fun conversation =>
    if conversation.accountId = accountId then
      some { accountId := accountId, conversationId := conversation.id, messageId := message.id,
             kind := conversation.kind, recipient := conversation.address, body := message.body,
             inReplyTo := message.inReplyTo }
    else none)

theorem outgoing_messageId {accountId : AccountId} {message : Message} {o : OutgoingMessage}
    (h : c.outgoing accountId message = some o) : o.messageId = message.id := by
  obtain ⟨v,-,h⟩ := Option.bind_eq_some_iff.mp h
  split at h
  · cases h
    rfl
  · cases h

theorem filterMap_outgoing_nodup {accountId : AccountId} {ms : List Message}
    (hn : (ms.map Message.id).Nodup) :
    ((ms.filterMap (c.outgoing accountId)).map OutgoingMessage.messageId).Nodup := by
  induction ms with
  | nil => simp
  | cons m ms ih =>
    rw [List.map_cons,List.nodup_cons] at hn
    cases ho : c.outgoing accountId m with
    | none =>
      rw [List.filterMap_cons_none ho]
      exact ih hn.2
    | some o =>
      rw [List.filterMap_cons_some ho,List.map_cons,List.nodup_cons,outgoing_messageId ho]
      refine ⟨?_,ih hn.2⟩
      intro hm
      obtain ⟨p,hp,he⟩ := List.mem_map.mp hm
      obtain ⟨q,hq,hqp⟩ := List.mem_filterMap.mp hp
      exact hn.1 (List.mem_map.mpr ⟨q,hq,by rw [← he,outgoing_messageId hqp]⟩)

theorem mem_pendingOutgoingMessages_iff (hk : ∀ k m, c.messages.lookup k = some m → m.id = k)
    {accountId : AccountId} {pending : List OutgoingMessage}
    (h : c.pendingOutgoingMessages accountId = .ok pending) (o : OutgoingMessage) :
    o ∈ pending ↔ ∃ m, c.messages.lookup o.messageId = some m ∧ m.direction = .outgoing ∧
      (m.deliveryState = .pending ∨ m.deliveryState = .failed) ∧ c.outgoing accountId m = some o := by
  unfold pendingOutgoingMessages at h
  split at h
  · cases h
  cases h
  rw [Listing.mem_sortByKey,List.mem_filterMap]
  constructor
  · rintro ⟨m,hm,hmo⟩
    obtain ⟨hv,hp⟩ := List.mem_filter.mp hm
    obtain ⟨hd,hs⟩ := of_decide_eq_true hp
    obtain ⟨k,hl⟩ := Table.mem_values.mp hv
    exact ⟨m,by rw [outgoing_messageId hmo,hk k m hl,hl],hd,hs,hmo⟩
  · rintro ⟨m,hl,hd,hs,hmo⟩
    exact ⟨m,List.mem_filter.mpr ⟨Table.mem_values.mpr ⟨_,hl⟩,decide_eq_true ⟨hd,hs⟩⟩,hmo⟩

theorem pendingOutgoingMessages_sorted (hk : ∀ k m, c.messages.lookup k = some m → m.id = k)
    {accountId : AccountId} {pending : List OutgoingMessage}
    (h : c.pendingOutgoingMessages accountId = .ok pending) :
    pending.Pairwise (fun o p => o.messageId < p.messageId) := by
  unfold pendingOutgoingMessages at h
  split at h
  · cases h
  cases h
  refine Listing.sortByKey_pairwise_lt (filterMap_outgoing_nodup ?_)
  exact (Table.values_map_nodup hk).sublist (List.filter_sublist.map _)

theorem pendingOutgoingMessages_of_restores (hi : Keyed c) (hr : Restores f g c d)
    (accountId : AccountId) :
    d.pendingOutgoingMessages accountId = c.pendingOutgoingMessages accountId := by
  have hm : d.messages.values.Perm c.messages.values := by
    simpa using Table.values_perm_map (f := id) (fun k => by simpa using hr.messages k)
  have ho : d.outgoing accountId = c.outgoing accountId := by
    funext m
    simp only [outgoing,hr.conversations]
  have ha : (d.accounts.lookup accountId).isNone = (c.accounts.lookup accountId).isNone := by
    rw [hr.accounts,Option.isNone_map]
  unfold pendingOutgoingMessages
  rw [ha]
  congr 2
  change Listing.sortByKey _ ((d.messages.values.filter _).filterMap (d.outgoing accountId)) =
    Listing.sortByKey _ ((c.messages.values.filter _).filterMap (c.outgoing accountId))
  rw [ho]
  refine Listing.sortByKey_congr ((hm.filter _).filterMap _) (filterMap_outgoing_nodup ?_)
  exact (Table.values_map_nodup hi.messageKey).sublist (List.filter_sublist.map _)

end MindChatCore
end MindChat
