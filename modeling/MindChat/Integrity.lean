import MindChat.Edits

/-! Referential integrity of the core and its preservation by every legal edit. -/

namespace MindChat

open MindChatCore

def KeyedAt (k : AccountId × String) (t : Contact) : Prop := (t.accountId,t.jid) = k

def ContactsKeyed (c : MindChatCore) : Prop := ∀ k t, c.contacts.lookup k = some t → KeyedAt k t

/-- Contacts and conversations lie under their own keys. -/
structure Filed (c : MindChatCore) : Prop where
  contactKey : ContactsKeyed c
  conversationKey : ∀ k v, c.conversations.lookup k = some v → v.id = k

/-- Every record lies under its own key, below what its allocator returns next. -/
structure Keyed (c : MindChatCore) : Prop where
  accountKey : ∀ k a, c.accounts.lookup k = some a → a.id = k
  contactKey : ∀ k t, c.contacts.lookup k = some t → (t.accountId,t.jid) = k
  conversationKey : ∀ k v, c.conversations.lookup k = some v → v.id = k
  messageKey : ∀ k m, c.messages.lookup k = some m → m.id = k
  reactionKey : ∀ k r, c.reactions.lookup k = some r → r.id = k
  accountBelow : ∀ k, (c.accounts.lookup k).isSome → k < allocated c.nextAccountId
  conversationBelow : ∀ k, (c.conversations.lookup k).isSome → k < allocated c.nextConversationId
  messageBelow : ∀ k, (c.messages.lookup k).isSome → k < allocated c.nextMessageId
  reactionBelow : ∀ k, (c.reactions.lookup k).isSome → k < allocated c.nextReactionId

/-- What ties the five maps and the four counters together. -/
structure Integrity (c : MindChatCore) : Prop extends Keyed c where
  contactAccount : ∀ k t, c.contacts.lookup k = some t → (c.accounts.lookup t.accountId).isSome
  conversationAccount : ∀ k v, c.conversations.lookup k = some v →
    (c.accounts.lookup v.accountId).isSome
  messageConversation : ∀ k m, c.messages.lookup k = some m →
    (c.conversations.lookup m.conversationId).isSome
  reactionMessage : ∀ k r, c.reactions.lookup k = some r → (c.messages.lookup r.messageId).isSome
  replyTarget : ∀ k m reply, c.messages.lookup k = some m → m.inReplyTo = some reply →
    ∃ target, c.messages.lookup reply = some target ∧ target.conversationId = m.conversationId
  accountPositive : ∀ k, (c.accounts.lookup k).isSome → 1 ≤ k
  conversationPositive : ∀ k, (c.conversations.lookup k).isSome → 1 ≤ k
  messagePositive : ∀ k, (c.messages.lookup k).isSome → 1 ≤ k
  reactionPositive : ∀ k, (c.reactions.lookup k).isSome → 1 ≤ k

/-- No id counter has reached `u64::MAX`. -/
def MindChatCore.CountersBelowMax (c : MindChatCore) : Prop :=
  c.nextAccountId < u64Max ∧ c.nextConversationId < u64Max ∧
    c.nextMessageId < u64Max ∧ c.nextReactionId < u64Max

instance (c : MindChatCore) : Decidable c.CountersBelowMax :=
  inferInstanceAs (Decidable (_ ∧ _ ∧ _ ∧ _))

theorem allocated_u64Succ {next : ℕ} (h : next < u64Max) :
    allocated (u64Succ (allocated next)) = allocated next + 1 := by
  have hm : allocated next + 1 < 2^64 := by
    simp only [u64Max,allocated] at *
    omega
  simp only [u64Succ,Nat.mod_eq_of_lt hm]
  simp [allocated]

theorem one_le_allocated (next : ℕ) : 1 ≤ allocated next := le_max_right _ _

theorem below_insert {V : Type} {t : Table ℕ V} {next : ℕ} {v : V} (hn : next < u64Max)
    (h : ∀ k, (t.lookup k).isSome → k < allocated next) (k : ℕ)
    (hk : ((t.insert (allocated next) v).lookup k).isSome) :
    k < allocated (u64Succ (allocated next)) := by
  rw [allocated_u64Succ hn]
  rw [Table.lookup_insert_if] at hk
  by_cases he : k = allocated next
  · omega
  · have hlt := h k (by simpa [he] using hk)
    omega

theorem positive_insert {V : Type} {t : Table ℕ V} {next : ℕ} {v : V}
    (h : ∀ k, (t.lookup k).isSome → 1 ≤ k) (k : ℕ)
    (hk : ((t.insert (allocated next) v).lookup k).isSome) : 1 ≤ k := by
  rw [Table.lookup_insert_if] at hk
  by_cases he : k = allocated next
  · exact he ▸ one_le_allocated next
  · exact h k (by simpa [he] using hk)

theorem lookup_allocated {V : Type} {t : Table ℕ V} {next : ℕ}
    (h : ∀ k, (t.lookup k).isSome → k < allocated next) : t.lookup (allocated next) = none := by
  by_contra hc
  exact absurd (h _ (Option.isSome_iff_ne_none.mpr hc)) (lt_irrefl _)

namespace MindChatCore

theorem foldl_removeMessage (ids : List MessageId) (c : MindChatCore) :
    (∀ k, (ids.foldl removeMessage c).messages.lookup k =
      if k ∈ ids then none else c.messages.lookup k) ∧
    (∀ k, (ids.foldl removeMessage c).reactions.lookup k =
      (c.reactions.lookup k).filter (fun r => r.messageId ∉ ids)) ∧
    ids.foldl removeMessage c =
      { c with messages := (ids.foldl removeMessage c).messages
               reactions := (ids.foldl removeMessage c).reactions } := by
  induction ids generalizing c with
  | nil =>
    refine ⟨by simp,fun k => ?_,rfl⟩
    cases h : c.reactions.lookup k <;> simp [h,Option.filter]
  | cons id ids ih =>
    obtain ⟨hm,hr,he⟩ := ih (c.removeMessage id)
    refine ⟨?_,?_,?_⟩
    · intro k
      rw [List.foldl_cons,hm k]
      by_cases h : k = id <;> simp [removeMessage,Table.lookup_erase_if,h]
    · intro k
      rw [List.foldl_cons,hr k]
      simp only [removeMessage,Table.lookup_retain,Option.filter_filter]
      congr 1
      funext r
      by_cases h : r.messageId = id <;> simp [h]
    · rw [List.foldl_cons]
      conv_lhs => rw [he]
      rfl

theorem removeConversationState_eq (c : MindChatCore) (id : ConversationId) :
    c.removeConversationState id =
      { c with conversations := c.conversations.erase id
               messages := (c.removeConversationState id).messages
               reactions := (c.removeConversationState id).reactions } := by
  have he := (foldl_removeMessage ((c.messages.values.filter
    (fun message => message.conversationId = id)).map Message.id) c).2.2
  simp only [removeConversationState]
  conv_lhs => rw [he]

theorem mem_conversationMessages {c : MindChatCore}
    (hk : ∀ k m, c.messages.lookup k = some m → m.id = k) (id : ConversationId) (k : MessageId) :
    k ∈ (c.messages.values.filter (fun message => message.conversationId = id)).map Message.id ↔
      ∃ m, c.messages.lookup k = some m ∧ m.conversationId = id := by
  simp only [List.mem_map,List.mem_filter,Table.mem_values,decide_eq_true_eq]
  constructor
  · rintro ⟨m,⟨⟨j,hj⟩,hc⟩,rfl⟩
    exact ⟨m,by rwa [hk j m hj],hc⟩
  · rintro ⟨m,hm,hc⟩
    exact ⟨m,⟨⟨k,hm⟩,hc⟩,hk k m hm⟩

theorem messages_removeConversationState {c : MindChatCore}
    (hk : ∀ k m, c.messages.lookup k = some m → m.id = k) (id : ConversationId) (k : MessageId) :
    (c.removeConversationState id).messages.lookup k =
      (c.messages.lookup k).filter (fun m => m.conversationId ≠ id) := by
  simp only [removeConversationState,(foldl_removeMessage _ c).1 k,mem_conversationMessages hk]
  cases hm : c.messages.lookup k with
  | none => simp
  | some m => by_cases h : m.conversationId = id <;> simp [Option.filter,h]

theorem reactions_removeConversationState {c : MindChatCore}
    (hk : ∀ k m, c.messages.lookup k = some m → m.id = k)
    (id : ConversationId) (k : ReactionId) (r : Reaction) :
    (c.removeConversationState id).reactions.lookup k = some r ↔
      c.reactions.lookup k = some r ∧
        ∀ m, c.messages.lookup r.messageId = some m → m.conversationId ≠ id := by
  simp only [removeConversationState,(foldl_removeMessage _ c).2.1 k,Option.filter_eq_some_iff,
    decide_eq_true_eq,mem_conversationMessages hk,not_exists,not_and]

end MindChatCore

namespace Keyed

variable {c : MindChatCore}

theorem filed (hi : Keyed c) : Filed c := ⟨hi.contactKey,hi.conversationKey⟩

theorem default : Keyed MindChatCore.default := by
  constructor <;> simp [MindChatCore.default]

theorem newAccount (hi : Keyed c) {account : Account}
    (hl : (Edit.newAccount account).Legal True c) : Keyed ((Edit.newAccount account).apply c) := by
  obtain ⟨hn,hid⟩ := hl
  refine { hi with accountKey := Table.forall_insert rfl hi.accountKey, accountBelow := ?_ }
  intro k h
  simp only [Edit.apply,hid] at h ⊢
  exact below_insert (hn trivial) hi.accountBelow k h

theorem setAccount (hi : Keyed c) {key : AccountId} {account : Account}
    (hl : (Edit.setAccount key account).Legal True c) : Keyed ((Edit.setAccount key account).apply c) := by
  obtain ⟨old,ho,hid⟩ := hl
  refine { hi with accountKey := ?_, accountBelow := ?_ }
  · exact Table.forall_insert (hid.trans (hi.accountKey key old ho)) hi.accountKey
  · exact fun k h => hi.accountBelow k ((Table.isSome_insert_iff (by simp [ho])).mp h)

theorem newConversation (hi : Keyed c) {conversation : Conversation}
    (hl : (Edit.newConversation conversation).Legal True c) :
    Keyed ((Edit.newConversation conversation).apply c) := by
  obtain ⟨hn,hid,-⟩ := hl
  refine { hi with
    conversationKey := Table.forall_insert rfl hi.conversationKey, conversationBelow := ?_ }
  intro k h
  simp only [Edit.apply,hid] at h ⊢
  exact below_insert (hn trivial) hi.conversationBelow k h

theorem setConversation (hi : Keyed c) {key : ConversationId} {conversation : Conversation}
    (hl : (Edit.setConversation key conversation).Legal True c) :
    Keyed ((Edit.setConversation key conversation).apply c) := by
  obtain ⟨old,ho,hid,-⟩ := hl
  refine { hi with conversationKey := ?_, conversationBelow := ?_ }
  · exact Table.forall_insert (hid.trans (hi.conversationKey key old ho)) hi.conversationKey
  · exact fun k h => hi.conversationBelow k ((Table.isSome_insert_iff (by simp [ho])).mp h)

theorem newMessage (hi : Keyed c) {message : Message}
    (hl : (Edit.newMessage message).Legal True c) : Keyed ((Edit.newMessage message).apply c) := by
  obtain ⟨hn,hid,-⟩ := hl
  refine { hi with messageKey := Table.forall_insert rfl hi.messageKey, messageBelow := ?_ }
  intro k h
  simp only [Edit.apply,hid] at h ⊢
  exact below_insert (hn trivial) hi.messageBelow k h

theorem setMessage (hi : Keyed c) {key : MessageId} {message : Message}
    (hl : (Edit.setMessage key message).Legal True c) : Keyed ((Edit.setMessage key message).apply c) := by
  obtain ⟨old,ho,hid,-⟩ := hl
  refine { hi with messageKey := ?_, messageBelow := ?_ }
  · exact Table.forall_insert (hid.trans (hi.messageKey key old ho)) hi.messageKey
  · exact fun k h => hi.messageBelow k ((Table.isSome_insert_iff (by simp [ho])).mp h)

theorem newReaction (hi : Keyed c) {reaction : Reaction}
    (hl : (Edit.newReaction reaction).Legal True c) : Keyed ((Edit.newReaction reaction).apply c) := by
  obtain ⟨hn,hid,-⟩ := hl
  refine { hi with reactionKey := Table.forall_insert rfl hi.reactionKey, reactionBelow := ?_ }
  intro k h
  simp only [Edit.apply,hid] at h ⊢
  exact below_insert (hn trivial) hi.reactionBelow k h

theorem of_subset {d : MindChatCore} (hi : Keyed c)
    (ha : ∀ k a, d.accounts.lookup k = some a → c.accounts.lookup k = some a)
    (ht : ∀ k t, d.contacts.lookup k = some t → c.contacts.lookup k = some t)
    (hv : ∀ k v, d.conversations.lookup k = some v → c.conversations.lookup k = some v)
    (hm : ∀ k m, d.messages.lookup k = some m → c.messages.lookup k = some m)
    (hr : ∀ k r, d.reactions.lookup k = some r → c.reactions.lookup k = some r)
    (hna : d.nextAccountId = c.nextAccountId) (hnv : d.nextConversationId = c.nextConversationId)
    (hnm : d.nextMessageId = c.nextMessageId) (hnr : d.nextReactionId = c.nextReactionId) :
    Keyed d := by
  have below : ∀ {V : Type} {t u : Table ℕ V} {next : ℕ},
      (∀ k v, u.lookup k = some v → t.lookup k = some v) →
      (∀ k, (t.lookup k).isSome → k < allocated next) →
      ∀ k, (u.lookup k).isSome → k < allocated next := by
    intro V t u next hs hb k hk
    obtain ⟨v,hk⟩ := Option.isSome_iff_exists.mp hk
    exact hb k (by simp [hs k v hk])
  refine ⟨?_,?_,?_,?_,?_,?_,?_,?_,?_⟩
  · exact fun k a h => hi.accountKey k a (ha k a h)
  · exact fun k t h => hi.contactKey k t (ht k t h)
  · exact fun k v h => hi.conversationKey k v (hv k v h)
  · exact fun k m h => hi.messageKey k m (hm k m h)
  · exact fun k r h => hi.reactionKey k r (hr k r h)
  · exact hna ▸ below ha hi.accountBelow
  · exact hnv ▸ below hv hi.conversationBelow
  · exact hnm ▸ below hm hi.messageBelow
  · exact hnr ▸ below hr hi.reactionBelow

theorem removeConversationState (hi : Keyed c) (id : ConversationId) :
    Keyed (c.removeConversationState id) := by
  have he := removeConversationState_eq c id
  refine hi.of_subset ?_ ?_ ?_ ?_ ?_ ?_ ?_ ?_ ?_
  · rw [he]
    exact fun k a h => h
  · rw [he]
    exact fun k t h => h
  · rw [he]
    exact Table.forall_erase (fun k v h => h)
  · intro k m h
    rw [messages_removeConversationState hi.messageKey,Option.filter_eq_some_iff] at h
    exact h.1
  · exact fun k r h => ((reactions_removeConversationState hi.messageKey id k r).mp h).1
  all_goals rw [he]

theorem dropAccount (hi : Keyed c) (accountId : AccountId) :
    Keyed ((Edit.dropAccount accountId).apply c) := by
  refine hi.of_subset ?_ ?_ (fun k v h => h) (fun k m h => h) (fun k r h => h) rfl rfl rfl rfl
  · exact Table.forall_erase (fun k a h => h)
  · intro k t h
    simp only [Edit.apply,Table.lookup_retain,Option.filter_eq_some_iff] at h
    exact h.1

theorem edit (hi : Keyed c) {e : Edit} (hl : e.Legal True c) : Keyed (e.apply c) := by
  cases e with
  | newAccount => exact hi.newAccount hl
  | setAccount => exact hi.setAccount hl
  | putContact => exact { hi with contactKey := Table.forall_insert rfl hi.contactKey }
  | dropContact => exact { hi with contactKey := Table.forall_erase hi.contactKey }
  | newConversation => exact hi.newConversation hl
  | setConversation => exact hi.setConversation hl
  | newMessage => exact hi.newMessage hl
  | setMessage => exact hi.setMessage hl
  | newReaction => exact hi.newReaction hl
  | dropConversation id => exact hi.removeConversationState id
  | dropAccount accountId => exact hi.dropAccount accountId
  | announce => exact { hi with }
  | drain => exact { hi with }

theorem edited {cond : MindChatCore → Edit → Prop} {d : MindChatCore} (hi : Keyed c)
    (h : Edited True cond c d) : Keyed d :=
  h.invariant (fun _ _ hi _ hl => hi.edit hl) hi

end Keyed

namespace Integrity

variable {c : MindChatCore}

theorem default : Integrity MindChatCore.default := by
  refine ⟨Keyed.default,?_,?_,?_,?_,?_,?_,?_,?_,?_⟩ <;> simp [MindChatCore.default]

theorem newAccount (hi : Integrity c) {account : Account}
    (hl : (Edit.newAccount account).Legal True c) : Integrity ((Edit.newAccount account).apply c) := by
  refine { hi with
    toKeyed := hi.toKeyed.newAccount hl
    contactAccount := fun k t h => Table.isSome_insert (hi.contactAccount k t h)
    conversationAccount := fun k v h => Table.isSome_insert (hi.conversationAccount k v h)
    accountPositive := ?_ }
  intro k h
  simp only [Edit.apply,hl.2] at h
  exact positive_insert hi.accountPositive k h

theorem setAccount (hi : Integrity c) {key : AccountId} {account : Account}
    (hl : (Edit.setAccount key account).Legal True c) :
    Integrity ((Edit.setAccount key account).apply c) := by
  refine { hi with
    toKeyed := hi.toKeyed.setAccount hl
    contactAccount := fun k t h => Table.isSome_insert (hi.contactAccount k t h)
    conversationAccount := fun k v h => Table.isSome_insert (hi.conversationAccount k v h)
    accountPositive := ?_ }
  obtain ⟨old,ho,-⟩ := hl
  exact fun k h => hi.accountPositive k ((Table.isSome_insert_iff (by simp [ho])).mp h)

theorem putContact (hi : Integrity c) {contact : Contact}
    (hl : (Edit.putContact contact).Legal True c) : Integrity ((Edit.putContact contact).apply c) :=
  { hi with
    toKeyed := hi.toKeyed.edit hl
    contactAccount := Table.forall_insert hl hi.contactAccount }

theorem dropContact (hi : Integrity c) (accountId : AccountId) (jid : String) :
    Integrity ((Edit.dropContact accountId jid).apply c) :=
  { hi with
    toKeyed := hi.toKeyed.edit trivial
    contactAccount := Table.forall_erase hi.contactAccount }

theorem newConversation (hi : Integrity c) {conversation : Conversation}
    (hl : (Edit.newConversation conversation).Legal True c) :
    Integrity ((Edit.newConversation conversation).apply c) := by
  refine { hi with
    toKeyed := hi.toKeyed.newConversation hl
    conversationAccount := Table.forall_insert hl.2.2 hi.conversationAccount
    messageConversation := fun k m h => Table.isSome_insert (hi.messageConversation k m h)
    conversationPositive := ?_ }
  intro k h
  simp only [Edit.apply,hl.2.1] at h
  exact positive_insert hi.conversationPositive k h

theorem setConversation (hi : Integrity c) {key : ConversationId} {conversation : Conversation}
    (hl : (Edit.setConversation key conversation).Legal True c) :
    Integrity ((Edit.setConversation key conversation).apply c) := by
  have hk := hi.toKeyed.setConversation hl
  obtain ⟨old,ho,-,ha,-,-⟩ := hl
  exact { hi with
    toKeyed := hk
    conversationAccount :=
      Table.forall_insert (ha ▸ hi.conversationAccount key old ho) hi.conversationAccount
    messageConversation := fun k m h => Table.isSome_insert (hi.messageConversation k m h)
    conversationPositive := fun k h =>
      hi.conversationPositive k ((Table.isSome_insert_iff (by simp [ho])).mp h) }

theorem checkReply_ok {conversationId : ConversationId} {inReplyTo : Option MessageId} :
    c.checkReply conversationId inReplyTo = .ok () ↔ ∀ reply, inReplyTo = some reply →
      ∃ target, c.messages.lookup reply = some target ∧ target.conversationId = conversationId := by
  cases inReplyTo with
  | none => simp [checkReply]
  | some reply =>
    simp only [checkReply,Option.some.injEq,forall_eq']
    cases c.messages.lookup reply with
    | none => simp
    | some target => by_cases h : target.conversationId = conversationId <;> simp [h]

theorem newMessage (hi : Integrity c) {message : Message}
    (hl : (Edit.newMessage message).Legal True c) : Integrity ((Edit.newMessage message).apply c) := by
  have hk := hi.toKeyed.newMessage hl
  obtain ⟨hn,hid,hc,hr⟩ := hl
  have target_kept : ∀ reply target, c.messages.lookup reply = some target →
      (c.messages.insert message.id message).lookup reply = some target := by
    intro reply target h
    have hne : reply ≠ message.id := by
      rintro rfl
      rw [hid,lookup_allocated hi.messageBelow] at h
      cases h
    rw [AList.lookup_insert_ne hne,h]
  have replies : ∀ k m, (c.messages.insert message.id message).lookup k = some m →
      ∀ reply, m.inReplyTo = some reply →
        ∃ target, c.messages.lookup reply = some target ∧ target.conversationId = m.conversationId :=
    Table.forall_insert (checkReply_ok.mp hr) (fun k m h reply => hi.replyTarget k m reply h)
  refine { hi with
    toKeyed := hk
    messageConversation := Table.forall_insert hc hi.messageConversation
    reactionMessage := fun k r h => Table.isSome_insert (hi.reactionMessage k r h)
    replyTarget := ?_, messagePositive := ?_ }
  · intro k m reply h hreply
    obtain ⟨target,ht,he⟩ := replies k m h reply hreply
    exact ⟨target,target_kept reply target ht,he⟩
  · intro k h
    simp only [Edit.apply,hid] at h
    exact positive_insert hi.messagePositive k h

theorem setMessage (hi : Integrity c) {key : MessageId} {message : Message}
    (hl : (Edit.setMessage key message).Legal True c) :
    Integrity ((Edit.setMessage key message).apply c) := by
  have hk := hi.toKeyed.setMessage hl
  obtain ⟨old,ho,-,hc,-,hr⟩ := hl
  have target_kept : ∀ reply target, c.messages.lookup reply = some target →
      ∃ target', (c.messages.insert key message).lookup reply = some target' ∧
        target'.conversationId = target.conversationId := by
    intro reply target h
    by_cases he : reply = key
    · subst he
      rw [ho] at h
      cases h
      exact ⟨message,AList.lookup_insert _,hc⟩
    · exact ⟨target,by rw [AList.lookup_insert_ne he,h],rfl⟩
  have replies : ∀ k m, (c.messages.insert key message).lookup k = some m →
      ∀ reply, m.inReplyTo = some reply →
        ∃ target, c.messages.lookup reply = some target ∧ target.conversationId = m.conversationId := by
    refine Table.forall_insert ?_ (fun k m h reply => hi.replyTarget k m reply h)
    intro reply h
    rw [hc]
    exact hi.replyTarget key old reply ho (hr ▸ h)
  refine { hi with
    toKeyed := hk
    messageConversation := Table.forall_insert (hc ▸ hi.messageConversation key old ho) hi.messageConversation
    reactionMessage := fun k r h => Table.isSome_insert (hi.reactionMessage k r h)
    replyTarget := ?_
    messagePositive := fun k h =>
      hi.messagePositive k ((Table.isSome_insert_iff (by simp [ho])).mp h) }
  intro k m reply h hreply
  obtain ⟨target,ht,he⟩ := replies k m h reply hreply
  obtain ⟨target',ht',he'⟩ := target_kept reply target ht
  exact ⟨target',ht',he'.trans he⟩

theorem newReaction (hi : Integrity c) {reaction : Reaction}
    (hl : (Edit.newReaction reaction).Legal True c) : Integrity ((Edit.newReaction reaction).apply c) := by
  refine { hi with
    toKeyed := hi.toKeyed.newReaction hl
    reactionMessage := Table.forall_insert hl.2.2 hi.reactionMessage
    reactionPositive := ?_ }
  intro k h
  simp only [Edit.apply,hl.2.1] at h
  exact positive_insert hi.reactionPositive k h

/-- A whole conversation goes with its messages and their reactions, and what
stays refers to nothing that went. -/
theorem removeConversationState (hi : Integrity c) (id : ConversationId) :
    Integrity (c.removeConversationState id) := by
  have hm : ∀ k m, (c.removeConversationState id).messages.lookup k = some m ↔
      c.messages.lookup k = some m ∧ m.conversationId ≠ id := by
    intro k m
    simp [messages_removeConversationState hi.messageKey id k,Option.filter_eq_some_iff]
  have hr := reactions_removeConversationState hi.messageKey id
  have he := removeConversationState_eq c id
  have hv : ∀ k v, (c.removeConversationState id).conversations.lookup k = some v →
      c.conversations.lookup k = some v := by
    rw [he]
    exact Table.forall_erase (fun _ _ h => h)
  have ha : (c.removeConversationState id).accounts = c.accounts := by rw [he]
  have ht : (c.removeConversationState id).contacts = c.contacts := by rw [he]
  refine ⟨hi.toKeyed.removeConversationState id,?_,?_,?_,?_,?_,?_,?_,?_,?_⟩
  · rw [ha,ht]
    exact hi.contactAccount
  · rw [ha]
    exact fun k v h => hi.conversationAccount k v (hv k v h)
  · intro k m h
    obtain ⟨h₁,h₂⟩ := (hm k m).mp h
    have hs := hi.messageConversation k m h₁
    rw [he]
    simpa [Table.lookup_erase_if,h₂] using hs
  · intro k r h
    obtain ⟨h₁,h₂⟩ := (hr k r).mp h
    obtain ⟨m,hs⟩ := Option.isSome_iff_exists.mp (hi.reactionMessage k r h₁)
    exact Option.isSome_iff_exists.mpr ⟨m,(hm _ m).mpr ⟨hs,h₂ m hs⟩⟩
  · intro k m reply h hreply
    obtain ⟨h₁,h₂⟩ := (hm k m).mp h
    obtain ⟨target,h₃,h₄⟩ := hi.replyTarget k m reply h₁ hreply
    exact ⟨target,(hm reply target).mpr ⟨h₃,h₄ ▸ h₂⟩,h₄⟩
  · rw [ha]
    exact hi.accountPositive
  · intro k h
    obtain ⟨v,h⟩ := Option.isSome_iff_exists.mp h
    exact hi.conversationPositive k (by simp [hv k v h])
  · intro k h
    obtain ⟨m,h⟩ := Option.isSome_iff_exists.mp h
    exact hi.messagePositive k (by simp [((hm k m).mp h).1])
  · intro k h
    obtain ⟨r,h⟩ := Option.isSome_iff_exists.mp h
    exact hi.reactionPositive k (by simp [((hr k r).mp h).1])

theorem dropAccount (hi : Integrity c) {accountId : AccountId}
    (hl : (Edit.dropAccount accountId).Legal True c) :
    Integrity ((Edit.dropAccount accountId).apply c) := by
  have ht : ∀ k t, ((Edit.dropAccount accountId).apply c).contacts.lookup k = some t →
      c.contacts.lookup k = some t ∧ k.1 ≠ accountId := by
    intro k t h
    simpa [Edit.apply,Table.lookup_retain,Option.filter_eq_some_iff] using h
  have ha : ∀ k, k ≠ accountId →
      ((Edit.dropAccount accountId).apply c).accounts.lookup k = c.accounts.lookup k :=
    fun k h => AList.lookup_erase_ne h
  refine { hi with
    toKeyed := hi.toKeyed.dropAccount accountId
    contactAccount := ?_, conversationAccount := ?_, accountPositive := ?_ }
  · intro k t h
    obtain ⟨h₁,h₂⟩ := ht k t h
    have hk : t.accountId = k.1 := congrArg Prod.fst (hi.contactKey k t h₁)
    rw [ha _ (hk ▸ h₂)]
    exact hi.contactAccount k t h₁
  · intro k v h
    rw [ha _ (hl k v h)]
    exact hi.conversationAccount k v h
  · intro k h
    simp only [Edit.apply,Table.lookup_erase_if] at h
    split at h
    · cases h
    · exact hi.accountPositive k h

/-- Every legal edit preserves referential integrity. -/
theorem edit (hi : Integrity c) {e : Edit} (hl : e.Legal True c) : Integrity (e.apply c) := by
  cases e with
  | newAccount => exact hi.newAccount hl
  | setAccount => exact hi.setAccount hl
  | putContact => exact hi.putContact hl
  | dropContact accountId jid => exact hi.dropContact accountId jid
  | newConversation => exact hi.newConversation hl
  | setConversation => exact hi.setConversation hl
  | newMessage => exact hi.newMessage hl
  | setMessage => exact hi.setMessage hl
  | newReaction => exact hi.newReaction hl
  | dropConversation id => exact hi.removeConversationState id
  | dropAccount => exact hi.dropAccount hl
  | announce => exact { hi with toKeyed := hi.toKeyed.edit hl }
  | drain => exact { hi with toKeyed := hi.toKeyed.edit hl }

theorem edited {cond : MindChatCore → Edit → Prop} {d : MindChatCore} (hi : Integrity c)
    (h : Edited True cond c d) : Integrity d :=
  h.invariant (fun _ _ hi _ hl => hi.edit hl) hi

end Integrity
end MindChat
