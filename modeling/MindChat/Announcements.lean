import MindChat.Deletion
import MindChat.Trace

/-! Every record that a mutator adds, changes or removes is announced in the event
queue by the same call, and in which order. -/

namespace MindChat

open MindChatCore

def Edit.announcedBy : Edit → Option CoreEvent
  | newAccount account => some (.accountChanged account.id)
  | setAccount key _ => some (.accountChanged key)
  | putContact contact => some (.rosterChanged contact.accountId)
  | dropContact accountId _ => some (.rosterChanged accountId)
  | newConversation v => some (.conversationChanged v.id)
  | setConversation key _ => some (.conversationChanged key)
  | newMessage m => some (.messageAdded m.id)
  | setMessage key _ => some (.messageChanged key)
  | newReaction r => some (.messageChanged r.messageId)
  | dropConversation id => some (.conversationChanged id)
  | dropAccount accountId => some (.accountChanged accountId)
  | announce _ | drain => none

def Edit.Drops : Edit → Prop
  | dropConversation _ | dropAccount _ => True
  | _ => False

def Edit.announcement : Edit → Option CoreEvent
  | announce e => some e
  | _ => none

def announced (es : List Edit) : List CoreEvent := es.filterMap Edit.announcement

/-- The events come in the order of the writes they announce. -/
def InMutationOrder (es : List Edit) : Prop := (announced es).Sublist (es.filterMap Edit.announcedBy)

instance (es : List Edit) : Decidable (InMutationOrder es) := inferInstanceAs (Decidable (List.Sublist _ _))

/-- A write is announced at once. The text of a message is stored before its conversation is
touched and announced after it, and the conversations of an account go silently before it. -/
inductive AnnouncedInOrder : List Edit → Prop
  | nil : AnnouncedInOrder []
  | write {edit : Edit} {e : CoreEvent} {rest : List Edit} (he : edit.announcedBy = some e)
      (h : AnnouncedInOrder rest) : AnnouncedInOrder (edit :: .announce e :: rest)
  | text {m : Message} {v : Conversation} : AnnouncedInOrder [.newMessage m,
      .setConversation m.conversationId v,.announce (.conversationChanged m.conversationId),
      .announce (.messageAdded m.id)]
  | cascade (ids : List ConversationId) (accountId : AccountId) : AnnouncedInOrder
      (ids.map .dropConversation ++ [.dropAccount accountId,.announce (.accountChanged accountId)])

/-- Whatever differs between the cores is announced by an event of its own. -/
structure Shown (c d : MindChatCore) (new : List CoreEvent) : Prop where
  account : ∀ k, d.accounts.lookup k ≠ c.accounts.lookup k → .accountChanged k ∈ new
  contact : ∀ k, d.contacts.lookup k ≠ c.contacts.lookup k → .rosterChanged k.1 ∈ new
  conversation : ∀ k, d.conversations.lookup k ≠ c.conversations.lookup k →
    .conversationChanged k ∈ new
  message : ∀ k, d.messages.lookup k ≠ c.messages.lookup k →
    .messageAdded k ∈ new ∨ .messageChanged k ∈ new
  reaction : ∀ k, d.reactions.lookup k ≠ c.reactions.lookup k →
    ∃ r, d.reactions.lookup k = some r ∧ .messageChanged r.messageId ∈ new

namespace Shown

variable {c d e : MindChatCore} {xs ys : List CoreEvent}

theorem refl (c : MindChatCore) : Shown c c [] :=
  ⟨fun _ h => absurd rfl h,fun _ h => absurd rfl h,fun _ h => absurd rfl h,fun _ h => absurd rfl h,
    fun _ h => absurd rfl h⟩

theorem trans (h : Shown c d xs) (k : Shown d e ys) : Shown c e (xs ++ ys) := by
  have later {K V : Type} [DecidableEq K] {t u w : Table K V} {key : K} {p q : Prop}
      (ht : u.lookup key ≠ t.lookup key → p) (hu : w.lookup key ≠ u.lookup key → q)
      (hw : w.lookup key ≠ t.lookup key) : (p ∧ w.lookup key = u.lookup key) ∨ q := by
    by_cases he : w.lookup key = u.lookup key
    · exact .inl ⟨ht (he ▸ hw),he⟩
    · exact .inr (hu he)
  refine ⟨fun i hi => ?_,fun i hi => ?_,fun i hi => ?_,fun i hi => ?_,fun i hi => ?_⟩
  · rcases later (h.account i) (k.account i) hi with ⟨hx,-⟩ | hy <;> simp [*]
  · rcases later (h.contact i) (k.contact i) hi with ⟨hx,-⟩ | hy <;> simp [*]
  · rcases later (h.conversation i) (k.conversation i) hi with ⟨hx,-⟩ | hy <;> simp [*]
  · rcases later (h.message i) (k.message i) hi with ⟨hx | hx,-⟩ | hy | hy <;> simp [*]
  · rcases later (h.reaction i) (k.reaction i) hi with ⟨⟨r,hr,hx⟩,hs⟩ | ⟨r,hr,hy⟩
    · exact ⟨r,hs.trans hr,List.mem_append_left _ hx⟩
    · exact ⟨r,hr,List.mem_append_right _ hy⟩

theorem mono (h : Shown c d xs) (hs : ∀ x ∈ xs, x ∈ ys) : Shown c d ys := by
  refine ⟨fun k hk => hs _ (h.account k hk),fun k hk => hs _ (h.contact k hk),
    fun k hk => hs _ (h.conversation k hk),fun k hk => ?_,fun k hk => ?_⟩
  · exact (h.message k hk).imp (hs _) (hs _)
  · obtain ⟨r,hr,hx⟩ := h.reaction k hk
    exact ⟨r,hr,hs _ hx⟩

theorem push (h : Shown c d xs) (x : CoreEvent) : Shown c (d.push x) xs :=
  ⟨h.account,h.contact,h.conversation,h.message,h.reaction⟩

theorem edit {edit : Edit} {x : CoreEvent} (he : edit.announcedBy = some x)
    (hd : ¬ edit.Drops) : Shown c (edit.apply c) [x] := by
  have stored {K V : Type} [DecidableEq K] {t : Table K V} {key k : K} {v : V}
      (hk : (t.insert key v).lookup k ≠ t.lookup k) : k = key := by
    by_contra hne
    exact hk (AList.lookup_insert_ne hne)
  cases edit with
  | newAccount account | setAccount key account =>
    cases he
    exact ⟨fun k hk => by rw [stored hk]; simp,fun k hk => absurd rfl hk,fun k hk => absurd rfl hk,
      fun k hk => absurd rfl hk,fun k hk => absurd rfl hk⟩
  | putContact contact =>
    cases he
    exact ⟨fun k hk => absurd rfl hk,fun k hk => by rw [stored hk]; simp,fun k hk => absurd rfl hk,
      fun k hk => absurd rfl hk,fun k hk => absurd rfl hk⟩
  | dropContact accountId jid =>
    cases he
    refine ⟨fun k hk => absurd rfl hk,fun k hk => ?_,fun k hk => absurd rfl hk,
      fun k hk => absurd rfl hk,fun k hk => absurd rfl hk⟩
    by_cases hne : k = (accountId,jid)
    · simp [hne]
    · exact absurd (AList.lookup_erase_ne hne) hk
  | newConversation v | setConversation key v =>
    cases he
    exact ⟨fun k hk => absurd rfl hk,fun k hk => absurd rfl hk,fun k hk => by rw [stored hk]; simp,
      fun k hk => absurd rfl hk,fun k hk => absurd rfl hk⟩
  | newMessage m | setMessage key m =>
    cases he
    exact ⟨fun k hk => absurd rfl hk,fun k hk => absurd rfl hk,fun k hk => absurd rfl hk,
      fun k hk => by rw [stored hk]; simp,fun k hk => absurd rfl hk⟩
  | newReaction r =>
    cases he
    refine ⟨fun k hk => absurd rfl hk,fun k hk => absurd rfl hk,fun k hk => absurd rfl hk,
      fun k hk => absurd rfl hk,fun k hk => ⟨r,?_,by simp⟩⟩
    rw [stored hk]
    exact AList.lookup_insert _
  | dropConversation | dropAccount => exact absurd trivial hd
  | announce | drain => cases he

/-- What is announced in order and drops neither a conversation nor an account is shown. -/
theorem replay {es : List Edit} (h : AnnouncedInOrder es) (hd : ∀ edit ∈ es, ¬ edit.Drops) :
    Shown c (c.replay es) (announced es) := by
  induction h generalizing c with
  | nil => exact refl c
  | @write edit x rest he h ih =>
    have h₁ : Shown c (edit.apply c) [x] := Shown.edit he (hd edit List.mem_cons_self)
    have h₂ := ih (c := (edit.apply c).push x) fun edit hm =>
      hd edit (List.mem_cons_of_mem _ (List.mem_cons_of_mem _ hm))
    have ho : edit.announcement = none := by cases edit <;> simp_all [Edit.announcement,Edit.announcedBy]
    have hs : announced (edit :: .announce x :: rest) = [x] ++ announced rest := by
      rw [announced,List.filterMap_cons_none ho]
      rfl
    rw [hs]
    exact (h₁.push x).trans h₂
  | @text m v =>
    have h₁ : Shown c _ [.messageAdded m.id] := @Shown.edit _ (.newMessage m) _ rfl id
    have h₂ : Shown ((Edit.newMessage m).apply c) _ [.conversationChanged m.conversationId] :=
      @Shown.edit _ (.setConversation m.conversationId v) _ rfl id
    exact (((h₁.trans h₂).push (.conversationChanged m.conversationId)).push (.messageAdded m.id)).mono
      (fun x hx => (List.mem_pair.mp hx).elim (fun he => List.mem_pair.mpr (.inr he))
        fun he => List.mem_pair.mpr (.inl he))
  | cascade ids a => exact absurd trivial (hd (.dropAccount a) (by simp))

end Shown

/-- Everything but a drain leaves the queue as it was, with the announcements behind it. -/
theorem events_replay {es : List Edit} (h : Edit.drain ∉ es) (c : MindChatCore) :
    (c.replay es).events = c.events ++ announced es := by
  induction es generalizing c with
  | nil => simp [announced]
  | cons edit rest ih =>
    have hr := ih (fun hm => h (List.mem_cons_of_mem _ hm)) (edit.apply c)
    refine hr.trans ?_
    cases edit with
    | announce x => simp [announced,Edit.apply,push,Edit.announcement]
    | drain => exact absurd List.mem_cons_self h
    | dropConversation id =>
      simp only [Edit.apply]
      rw [removeConversationState_eq]
      rfl
    | _ => rfl

section InOrder

variable {c d : MindChatCore}

theorem inOrder_storing {K V : Type} [DecidableEq K] {t : Table K V} {key : K} {edits : V → List Edit}
    (h : ∀ v, t.lookup key = some v → AnnouncedInOrder (edits v)) :
    AnnouncedInOrder (storing t key edits) := by
  unfold storing
  cases hl : t.lookup key with
  | none => exact .nil
  | some v => exact h v hl

theorem inOrder_accountEdits (d : MindChatCore) (accountId : AccountId) :
    AnnouncedInOrder (d.accountEdits accountId) := inOrder_storing fun _ _ => .write rfl .nil

theorem inOrder_contactEdits (hg : Grounded d) (accountId : AccountId) (jid : String) :
    AnnouncedInOrder (d.contactEdits accountId jid) := by
  refine inOrder_storing fun contact hl => .write ?_ .nil
  have ha : contact.accountId = accountId := congrArg Prod.fst (hg.contactKey _ contact hl)
  rw [Edit.announcedBy,ha]

theorem inOrder_messageEdits (d : MindChatCore) (id : MessageId) : AnnouncedInOrder (d.messageEdits id) :=
  inOrder_storing fun _ _ => .write rfl .nil

theorem inOrder_conversationEdits (d : MindChatCore) (id : ConversationId) :
    AnnouncedInOrder (d.conversationEdits id) := inOrder_storing fun _ _ => .write rfl .nil

theorem inOrder_textEdits (hg : Grounded d) (id : MessageId) : AnnouncedInOrder (d.textEdits id) := by
  refine inOrder_storing fun m hm => ?_
  have hid := hg.messageKey id m hm
  subst hid
  unfold conversationEdits storing
  cases d.conversations.lookup m.conversationId with
  | none => exact .write rfl .nil
  | some v => exact .text

theorem AnnouncedInOrder.event (hg : Grounded c) (event : TransportEvent) :
    AnnouncedInOrder (event.edits c) := by
  have hd : Grounded (c.applyTransportEvent event).2 := hg.op (.applyTransportEvent event)
  unfold TransportEvent.edits
  cases event with
  | connected | disconnected | capabilitiesDiscovered => exact inOrder_accountEdits _ _
  | rosterContactUpsert | contactPresenceUpdated =>
    dsimp only
    split
    · exact inOrder_contactEdits hd _ _
    · exact .nil
  | rosterContactRemoved =>
    dsimp only
    split
    · exact .write rfl .nil
    · exact .nil
  | incomingText accountId kind address sender body now =>
    dsimp only
    split
    · next id hid =>
      have ht := inOrder_textEdits hd id
      unfold targetConversation
      cases c.findConversation accountId kind address with
      | some v => exact ht
      | none =>
        simp only [newConversationEdits,insertConversation,allocateConversationId,push,storing_insert,
          Option.isNone_none,if_true]
        exact .write rfl ht
    · exact .nil
  | deliveryUpdated =>
    dsimp only
    split
    · exact inOrder_messageEdits _ _
    · exact .nil

theorem AnnouncedInOrder.op (hg : Grounded c) {op : CoreOp}
    (hd : op ≠ .drainEvents) : AnnouncedInOrder (op.edits c) := by
  have hgd : Grounded (op.run c) := hg.op op
  unfold CoreOp.edits
  split
  · exact .nil
  unfold CoreOp.written
  cases op with
  | addAccount setup => exact inOrder_storing fun _ _ => .write rfl .nil
  | setConnectionState | setCapabilities | updateAccountDisplayName | setAccountProxies =>
    exact inOrder_accountEdits _ _
  | upsertContact => exact inOrder_contactEdits hgd _ _
  | syncRosterContact | removeContact | updateContactPresence | applyTransportEvent =>
    exact .event hg _
  | openConversation accountId kind address title now =>
    dsimp only
    split
    · refine inOrder_storing fun v hv => .write ?_ .nil
      rw [Edit.announcedBy,hgd.peers.keyed _ v hv]
    · exact .nil
  | sendText | receiveText => exact inOrder_textEdits hgd _
  | attach | setDeliveryState => exact inOrder_messageEdits _ _
  | addReaction => exact inOrder_storing fun _ _ => .write rfl .nil
  | markConversationRead => exact inOrder_conversationEdits _ _
  | deleteAccount => exact .cascade _ _
  | deleteConversation => exact .write rfl .nil
  | drainEvents => exact absurd rfl hd

end InOrder

section Snapshot

variable {c d : MindChatCore} {new : List CoreEvent}

/-- The conversation is gone and was announced, itself or with the account it was of. -/
def Swept (c d : MindChatCore) (new : List CoreEvent) (id : ConversationId) : Prop :=
  d.conversations.lookup id = none ∧ (.conversationChanged id ∈ new ∨
    ∃ v, c.conversations.lookup id = some v ∧ d.accounts.lookup v.accountId = none ∧
      .accountChanged v.accountId ∈ new)

/-- Every record in one of the two snapshots and not in the other is announced: one that was
added or changed by an event of its own, one that was removed by its own or by that of the
conversation or the account it went with. -/
structure Announced (c d : MindChatCore) (new : List CoreEvent) : Prop where
  account : ∀ a, ¬ (a ∈ c.snapshot.accounts ↔ a ∈ d.snapshot.accounts) →
    .accountChanged a.id ∈ new
  contact : ∀ t, ¬ (t ∈ c.snapshot.contacts ↔ t ∈ d.snapshot.contacts) →
    .rosterChanged t.accountId ∈ new ∨ (t ∉ d.snapshot.contacts ∧
      d.accounts.lookup t.accountId = none ∧ .accountChanged t.accountId ∈ new)
  conversation : ∀ v, ¬ (v ∈ c.snapshot.conversations ↔ v ∈ d.snapshot.conversations) →
    .conversationChanged v.id ∈ new ∨ Swept c d new v.id
  message : ∀ m, ¬ (m ∈ c.snapshot.messages ↔ m ∈ d.snapshot.messages) →
    .messageAdded m.id ∈ new ∨ .messageChanged m.id ∈ new ∨
      (m ∉ d.snapshot.messages ∧ Swept c d new m.conversationId)
  reactionPut : ∀ r, r ∈ d.snapshot.reactions → r ∉ c.snapshot.reactions →
    .messageChanged r.messageId ∈ new
  reactionGone : ∀ r, r ∈ c.snapshot.reactions → r ∉ d.snapshot.reactions →
    (∃ r' ∈ d.snapshot.reactions, r'.id = r.id) ∨
      ∃ m, c.messages.lookup r.messageId = some m ∧ Swept c d new m.conversationId

theorem differs_at_key {K V : Type} [DecidableEq K] {t u : Table K V} {key : V → K}
    (ht : ∀ k v, t.lookup k = some v → key v = k) (hu : ∀ k v, u.lookup k = some v → key v = k)
    {v : V} (h : ¬ (v ∈ t.values ↔ v ∈ u.values)) : u.lookup (key v) ≠ t.lookup (key v) := by
  intro he
  refine h ⟨fun hm => ?_,fun hm => ?_⟩ <;> obtain ⟨k,hk⟩ := Table.mem_values.mp hm
  · have hkey := ht k v hk
    subst hkey
    exact Table.mem_values.mpr ⟨_,he.trans hk⟩
  · have hkey := hu k v hk
    subst hkey
    exact Table.mem_values.mpr ⟨_,he.symm.trans hk⟩

theorem Announced.of_shown (hc : Reached c) (hd : Reached d) (h : Shown c d new) : Announced c d new := by
  have hgc := hc.grounded
  have hgd := hd.grounded
  refine ⟨fun a ha => ?_,fun t ht => ?_,fun v hv => ?_,fun m hm => ?_,fun r hr hn => ?_,fun r hr hn => ?_⟩
  · simp only [snapshot,Listing.mem_sortByKey] at ha
    exact h.account _ (differs_at_key hgc.accountKey hgd.accountKey ha)
  · simp only [snapshot,Listing.mem_sortByKey] at ht
    have hkey := @differs_at_key _ _ _ _ _ (fun t : Contact => (t.accountId,t.jid)) hgc.contactKey
      hgd.contactKey t
    exact .inl (h.contact _ (hkey ht))
  · simp only [snapshot,Listing.mem_sortByKey] at hv
    exact .inl (h.conversation _ (differs_at_key hgc.peers.keyed hgd.peers.keyed hv))
  · simp only [snapshot,Listing.mem_sortByKey] at hm ⊢
    rcases h.message _ (differs_at_key hgc.messageKey hgd.messageKey hm) with hx | hx
    · exact .inl hx
    · exact .inr (.inl hx)
  · simp only [snapshot,Listing.mem_sortByKey] at hr hn
    obtain ⟨r',hl,hx⟩ := h.reaction r.id (differs_at_key hgc.reactionKey hgd.reactionKey
      fun he => hn (he.mpr hr))
    obtain ⟨k,hk⟩ := Table.mem_values.mp hr
    have hid := hgd.reactionKey k r hk
    rw [hid,hk] at hl
    cases hl
    exact hx
  · simp only [snapshot,Listing.mem_sortByKey] at hr hn ⊢
    obtain ⟨r',hl,-⟩ := h.reaction r.id (differs_at_key hgc.reactionKey hgd.reactionKey
      fun he => hn (he.mp hr))
    exact .inl ⟨r',Table.mem_values.mpr ⟨r.id,hl⟩,hgd.reactionKey _ r' hl⟩

/-- Dropped conversations are announced, themselves or with their accounts. -/
theorem Announced.of_drops {gone : ConversationId → Prop} (hc : Reached c) (hd : DropsConversations gone c d)
    (hs : ∀ id, gone id → .conversationChanged id ∈ new ∨ ∃ v, c.conversations.lookup id = some v ∧
      d.accounts.lookup v.accountId = none ∧ .accountChanged v.accountId ∈ new)
    (ha : ∀ a, ¬ (a ∈ c.snapshot.accounts ↔ a ∈ d.snapshot.accounts) → .accountChanged a.id ∈ new)
    (ht : ∀ t, ¬ (t ∈ c.snapshot.contacts ↔ t ∈ d.snapshot.contacts) → t ∉ d.snapshot.contacts ∧
      d.accounts.lookup t.accountId = none ∧ .accountChanged t.accountId ∈ new) : Announced c d new := by
  have hgc := hc.grounded
  have swept {id : ConversationId} (hg : gone id) : Swept c d new id := by
    refine ⟨?_,hs id hg⟩
    cases hl : d.conversations.lookup id with
    | none => rfl
    | some v => exact absurd hg ((hd.conversations id v).mp hl).2
  refine ⟨ha,fun t h => .inr (ht t h),fun v hv => .inr (swept ?_),fun m hm => .inr (.inr ?_),
    fun r hr hn => ?_,fun r hr hn => .inr ?_⟩
  · simp only [snapshot,Listing.mem_sortByKey,Table.mem_values,hd.conversations] at hv
    by_contra hg
    refine hv ⟨?_,fun ⟨k,hk,_⟩ => ⟨k,hk⟩⟩
    rintro ⟨k,hk⟩
    rw [hgc.peers.keyed k v hk] at hg
    exact ⟨k,hk,hg⟩
  · simp only [snapshot,Listing.mem_sortByKey,Table.mem_values,hd.messages] at hm ⊢
    have hg : gone m.conversationId := by
      by_contra hg
      exact hm ⟨fun ⟨k,hk⟩ => ⟨k,hk,hg⟩,fun ⟨k,hk,_⟩ => ⟨k,hk⟩⟩
    exact ⟨fun ⟨k,_,h⟩ => h hg,swept hg⟩
  · simp only [snapshot,Listing.mem_sortByKey,Table.mem_values,hd.reactions] at hr hn
    obtain ⟨k,hk,-⟩ := hr
    exact absurd ⟨k,hk⟩ hn
  · simp only [snapshot,Listing.mem_sortByKey,Table.mem_values,hd.reactions] at hr hn
    obtain ⟨k,hk⟩ := hr
    by_contra hg
    refine hn ⟨k,hk,fun m hm hgm => hg ⟨m,hm,swept hgm⟩⟩

theorem Announced.deleteAccount (hc : Reached c) {a : AccountId} (ha : (c.accounts.lookup a).isSome) :
    Announced c (c.deleteAccount a).2 [.accountChanged a] := by
  obtain ⟨-,hacc,hcon,hdrop⟩ := deleteAccount_spec hc.grounded ha
  have hgone : (c.deleteAccount a).2.accounts.lookup a = none := by
    cases hl : (c.deleteAccount a).2.accounts.lookup a with
    | none => rfl
    | some b => exact absurd rfl ((hacc a b).mp hl).2
  refine .of_drops hc hdrop ?_ ?_ ?_
  · rintro id ⟨v,hv,hown⟩
    exact .inr ⟨v,hv,by rw [hown]; exact hgone,by rw [hown]; simp⟩
  · intro b hb
    simp only [snapshot,Listing.mem_sortByKey,Table.mem_values,hacc] at hb
    have hid : b.id = a := by
      by_contra hne
      refine hb ⟨?_,fun ⟨k,hk,_⟩ => ⟨k,hk⟩⟩
      rintro ⟨k,hk⟩
      rw [hc.grounded.accountKey k b hk] at hne
      exact ⟨k,hk,hne⟩
    rw [hid]
    simp
  · intro t ht
    simp only [snapshot,Listing.mem_sortByKey,Table.mem_values,hcon] at ht ⊢
    have hown : t.accountId = a := by
      by_contra hne
      exact ht ⟨fun ⟨k,hk⟩ => ⟨k,hk,hne⟩,fun ⟨k,hk,_⟩ => ⟨k,hk⟩⟩
    exact ⟨fun ⟨k,_,hne⟩ => hne hown,by rw [hown]; exact hgone,by rw [hown]; simp⟩

theorem Announced.deleteConversation (hc : Reached c) {id : ConversationId}
    (hv : (c.conversations.lookup id).isSome) :
    Announced c (c.deleteConversation id).2 [.conversationChanged id] := by
  obtain ⟨-,hacc,hcon,hdrop⟩ := deleteConversation_spec hc.grounded hv
  refine .of_drops hc hdrop (fun k hk => .inl (by rw [hk]; simp)) ?_ ?_
  · intro b hb
    refine absurd ?_ hb
    simp only [snapshot,hacc]
  · intro t ht
    refine absurd ?_ ht
    simp only [snapshot,hcon]

theorem announced_dropConversations (ids : List ConversationId) (es : List Edit) :
    announced (ids.map .dropConversation ++ es) = announced es := by
  induction ids with
  | nil => rfl
  | cons id ids ih => exact ih

theorem kept_storing {K V : Type} [DecidableEq K] {t : Table K V} {key : K} {edits : V → List Edit}
    (h : ∀ v, ∀ edit ∈ edits v, ¬ edit.Drops) : ∀ edit ∈ storing t key edits, ¬ edit.Drops := by
  unfold storing
  cases t.lookup key with
  | none => simp
  | some v => exact h v

theorem kept_textEdits (d : MindChatCore) (id : MessageId) : ∀ edit ∈ d.textEdits id, ¬ edit.Drops := by
  refine kept_storing fun m edit hm => ?_
  rcases List.mem_cons.mp hm with rfl | hm
  · exact not_false
  rcases List.mem_append.mp hm with hm | hm
  · exact kept_storing (fun v => by simp [Edit.Drops]) edit hm
  · rw [List.mem_singleton.mp hm]
    exact not_false

theorem kept_event (event : TransportEvent) : ∀ edit ∈ event.edits c, ¬ edit.Drops := by
  unfold TransportEvent.edits
  cases event with
  | connected | disconnected | capabilitiesDiscovered => exact kept_storing fun v => by simp [Edit.Drops]
  | rosterContactUpsert | contactPresenceUpdated | deliveryUpdated =>
    dsimp only
    split
    · exact kept_storing fun v => by simp [Edit.Drops]
    · simp
  | rosterContactRemoved =>
    dsimp only
    split <;> simp [Edit.Drops]
  | incomingText =>
    dsimp only
    split
    · intro edit hm
      rcases List.mem_append.mp hm with hm | hm
      · split at hm
        · exact kept_storing (fun v => by simp [Edit.Drops]) edit hm
        · cases hm
      · exact kept_textEdits _ _ edit hm
    · simp

theorem CoreOp.kept {op : CoreOp} (ha : ∀ a, op ≠ .deleteAccount a)
    (hv : ∀ id, op ≠ .deleteConversation id) : ∀ edit ∈ op.edits c, ¬ edit.Drops := by
  unfold CoreOp.edits
  split
  · simp
  unfold CoreOp.written
  cases op with
  | deleteAccount a => exact absurd rfl (ha a)
  | deleteConversation id => exact absurd rfl (hv id)
  | sendText | receiveText => exact kept_textEdits _ _
  | syncRosterContact | removeContact | updateContactPresence | applyTransportEvent => exact kept_event _
  | openConversation =>
    dsimp only
    split
    · exact kept_storing fun v => by simp [Edit.Drops]
    · simp
  | drainEvents => simp [Edit.Drops]
  | _ => exact kept_storing fun v => by simp [Edit.Drops]

theorem Shown.op (hc : Reached c) {op : CoreOp} (hd : op ≠ .drainEvents) (ha : ∀ a, op ≠ .deleteAccount a)
    (hv : ∀ id, op ≠ .deleteConversation id) : Shown c (op.run c) (announced (op.edits c)) := by
  have h := Shown.replay (c := c) (.op hc.grounded hd) (CoreOp.kept ha hv)
  rwa [op.replay_edits hc.grounded.contactKey] at h

theorem Announced.op (hc : Reached c) {op : CoreOp} (hd : op ≠ .drainEvents) :
    Announced c (op.run c) (announced (op.edits c)) := by
  have hr : Reached (op.run c) := hc.step (.op op)
  by_cases he : (op.error c).isSome
  · obtain ⟨e,hs⟩ := Option.isSome_iff_exists.mp he
    rw [op.run_of_error hs,CoreOp.edits,if_pos he]
    exact .of_shown hc hc (.refl c)
  cases op with
  | deleteAccount a =>
    rw [CoreOp.edits,if_neg he,CoreOp.written,announced_dropConversations]
    obtain ⟨u,hu⟩ := not_failed (r := (c.deleteAccount a).1) he
    refine .deleteAccount hc ?_
    unfold MindChatCore.deleteAccount at hu
    split at hu
    · cases hu
    · next hn => simpa [Option.isSome_iff_ne_none] using hn
  | deleteConversation id =>
    rw [CoreOp.edits,if_neg he,CoreOp.written]
    obtain ⟨u,hu⟩ := not_failed (r := (c.deleteConversation id).1) he
    refine .deleteConversation hc ?_
    unfold MindChatCore.deleteConversation at hu
    split at hu
    · cases hu
    · next hn => simpa [Option.isSome_iff_ne_none] using hn
  | drainEvents => exact absurd rfl hd
  | _ => exact .of_shown hc hr (.op hc hd (by simp) (by simp))

end Snapshot

theorem AnnouncedInOrder.drain_not_mem {es : List Edit} (h : AnnouncedInOrder es) : .drain ∉ es := by
  induction h with
  | nil => simp
  | @write edit x rest he h ih =>
    have hne : edit ≠ .drain := by
      rintro rfl
      cases he
    simpa [hne.symm] using ih
  | text => simp
  | cascade ids a => simp

def CoreCommand.op (actor : String) (now : ℕ) : CoreCommand → CoreOp
  | sendText conversationId body inReplyTo => .sendText conversationId actor body inReplyTo now
  | markConversationRead conversationId => .markConversationRead conversationId
  | addReaction messageId emoji => .addReaction messageId actor emoji

theorem MindChatCore.execute_snd (c : MindChatCore) (command : CoreCommand) (actor : String) (now : ℕ) :
    (c.execute command actor now).2 = (command.op actor now).run c := by
  cases command <;> simp only [execute,CoreCommand.op,CoreOp.run] <;> split <;> rename_i h <;> rw [h]

/-- In every reached core, whatever a mutator or an event adds, changes or removes in the
snapshot is announced by that call, behind what the queue held; each write is announced at
once, but a stored text after the conversation it touches. Draining hands the queue out and
changes no record, and a command is one of the mutators. -/
theorem no_silent_mutation {c : MindChatCore} (hc : Reached c) (op : CoreOp) :
    c.replay (op.edits c) = op.run c ∧
      (op ≠ .drainEvents → (op.run c).events = c.events ++ announced (op.edits c) ∧
        AnnouncedInOrder (op.edits c) ∧ Announced c (op.run c) (announced (op.edits c))) ∧
      c.drainEvents.1 = c.events ∧ c.drainEvents.2.snapshot = c.snapshot ∧
      ∀ (command : CoreCommand) (actor : String) (now : ℕ),
        (c.execute command actor now).2 = (command.op actor now).run c := by
  have hr := op.replay_edits hc.grounded.contactKey
  refine ⟨hr,fun hd => ?_,rfl,rfl,c.execute_snd⟩
  have ho : AnnouncedInOrder (op.edits c) := .op hc.grounded hd
  refine ⟨?_,ho,.op hc hd⟩
  rw [← events_replay ho.drain_not_mem c,hr]

/-- A sent text: its message is stored before its conversation is touched, and announced after
it. And draining does not keep what is queued. -/
theorem announcements_out_of_order :
    ¬ (∀ (c : MindChatCore) (op : CoreOp), Reached c → InMutationOrder (op.edits c)) ∧
      ¬ ∀ (c : MindChatCore) (op : CoreOp), Reached c → ∃ new, (op.run c).events = c.events ++ new := by
  refine ⟨fun h => ?_,fun h => ?_⟩
  · have hs := h demoCore (.sendText 1 "ada@host" "third" none 20) demoCore_reachable.reached
    exact absurd hs (by decide +kernel)
  · obtain ⟨new,hn⟩ := h demoCore .drainEvents demoCore_reachable.reached
    have hq : demoCore.events ≠ [] := by decide +kernel
    exact hq (List.append_eq_nil_iff.mp hn.symm).1

/-- A text from a new peer, a receipt and a deletion. -/
theorem no_silent_mutation_demo :
    Announced demoCore ((CoreOp.applyTransportEvent
        (.incomingText 1 .direct "eve@host" "eve@host" "hi" 20)).run demoCore)
      [.conversationChanged 2,.conversationChanged 2,.messageAdded 3] ∧
    Announced demoCore ((CoreOp.deleteAccount 1).run demoCore) [.accountChanged 1] := by
  have h := fun op => no_silent_mutation demoCore_reachable.reached op
  have h₁ := ((h (.applyTransportEvent (.incomingText 1 .direct "eve@host" "eve@host" "hi" 20))).2.1
    (by simp)).2.2
  have h₂ := ((h (.deleteAccount 1)).2.1 (by simp)).2.2
  have he₁ : announced ((CoreOp.applyTransportEvent (.incomingText 1 .direct "eve@host" "eve@host" "hi"
      20)).edits demoCore) = [.conversationChanged 2,.conversationChanged 2,.messageAdded 3] := by
    decide +kernel
  have he₂ : announced ((CoreOp.deleteAccount 1).edits demoCore) = [.accountChanged 1] := by
    decide +kernel
  rw [he₁] at h₁
  rw [he₂] at h₂
  exact ⟨h₁,h₂⟩

end MindChat
