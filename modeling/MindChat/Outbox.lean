import MindChat.Coordinator

/-! The outbox of an account over whole runs: which messages are in it, that
nothing but sending fills it, and when a flush empties it. -/

namespace MindChat

open MindChatCore

/-- An outgoing message of the account that is pending or failed. -/
def MindChatCore.Unsent (c : MindChatCore) (accountId : AccountId) (id : MessageId) : Prop :=
  ∃ m v, c.messages.lookup id = some m ∧ m.direction = .outgoing ∧
    (m.deliveryState = .pending ∨ m.deliveryState = .failed) ∧
    c.conversations.lookup m.conversationId = some v ∧ v.accountId = accountId

/-- Whatever is unsent in `d` was unsent in `c`. -/
def Drained (c d : MindChatCore) : Prop :=
  ∀ accountId id, d.Unsent accountId id → c.Unsent accountId id

/-- Edits that put no message into an outbox. -/
def Edit.Drains (c : MindChatCore) : Edit → Prop
  | .newMessage m => m.direction = .incoming
  | .setMessage key m => ∀ old, c.messages.lookup key = some old →
      m.deliveryState = .pending ∨ m.deliveryState = .failed →
      old.deliveryState = .pending ∨ old.deliveryState = .failed
  | _ => True

namespace Drained

variable {c d e : MindChatCore}

theorem refl (c : MindChatCore) : Drained c c := fun _ _ h => h

theorem trans (h : Drained c d) (j : Drained d e) : Drained c e :=
  fun accountId id hu => h accountId id (j accountId id hu)

theorem of_eq (hm : d.messages = c.messages) (hv : d.conversations = c.conversations) :
    Drained c d := by
  rintro accountId id ⟨m,v,hl,hd,hs,hc,ha⟩
  exact ⟨m,v,hm ▸ hl,hd,hs,hv ▸ hc,ha⟩

theorem of_subset (hm : ∀ id m, d.messages.lookup id = some m → c.messages.lookup id = some m)
    (hv : ∀ id v, d.conversations.lookup id = some v → c.conversations.lookup id = some v) :
    Drained c d := by
  rintro accountId id ⟨m,v,hl,hd,hs,hc,ha⟩
  exact ⟨m,v,hm id m hl,hd,hs,hv _ v hc,ha⟩

theorem removeConversationState (hi : Keyed c) (id : ConversationId) :
    Drained c (c.removeConversationState id) := by
  refine of_subset (fun k m h => ?_) ?_
  · rw [messages_removeConversationState hi.messageKey,Option.filter_eq_some_iff] at h
    exact h.1
  · rw [removeConversationState_eq]
    exact Table.forall_erase (fun _ _ h => h)

theorem newConversation (hi : Integrity c) (v : Conversation)
    (hv : v.id = allocated c.nextConversationId) :
    Drained c ((Edit.newConversation v).apply c) := by
  rintro accountId id ⟨m,w,hl,hd,hs,hc,ha⟩
  obtain ⟨owner,ho⟩ := Option.isSome_iff_exists.mp (hi.messageConversation id m hl)
  change (c.conversations.insert v.id v).lookup m.conversationId = some w at hc
  rw [Table.lookup_insert_if] at hc
  split_ifs at hc with he
  · rw [he,hv,lookup_allocated hi.conversationBelow] at ho
    cases ho
  · exact ⟨m,w,hl,hd,hs,hc,ha⟩

theorem edit (hi : Integrity c) {edit : Edit} (hc : edit.Drains c) (hl : edit.Legal True c) :
    Drained c (edit.apply c) := by
  cases edit with
  | newConversation v => exact newConversation hi v hl.2.1
  | setConversation key v =>
    obtain ⟨old,ho,-,hacc,-,-⟩ := hl
    rintro accountId id ⟨m,w,hm,hd,hs,hv,ha⟩
    change (c.conversations.insert key v).lookup m.conversationId = some w at hv
    rw [Table.lookup_insert_if] at hv
    split_ifs at hv with he
    · cases hv
      exact ⟨m,old,hm,hd,hs,he ▸ ho,hacc.symm.trans ha⟩
    · exact ⟨m,w,hm,hd,hs,hv,ha⟩
  | newMessage m =>
    rintro accountId id ⟨n,w,hn,hd,hs,hv,ha⟩
    change (c.messages.insert m.id m).lookup id = some n at hn
    rw [Table.lookup_insert_if] at hn
    split_ifs at hn
    · cases hn
      rw [show m.direction = .incoming from hc] at hd
      cases hd
    · exact ⟨n,w,hn,hd,hs,hv,ha⟩
  | setMessage key m =>
    obtain ⟨old,ho,-,hconv,hdir,-⟩ := hl
    rintro accountId id ⟨n,w,hn,hd,hs,hv,ha⟩
    change (c.messages.insert key m).lookup id = some n at hn
    rw [Table.lookup_insert_if] at hn
    split_ifs at hn with he
    · cases hn
      exact ⟨old,w,he ▸ ho,hdir ▸ hd,hc old ho hs,hconv ▸ hv,ha⟩
    · exact ⟨n,w,hn,hd,hs,hv,ha⟩
  | dropConversation id => exact removeConversationState hi.toKeyed id
  | _ => exact of_eq rfl rfl

theorem edited (hi : Integrity c) (h : Edited True Edit.Drains c d) : Drained c d :=
  h.preorder (I := Integrity) refl (fun _ _ _ h k => h.trans k) (fun _ _ hi _ hl => hi.edit hl)
    (fun _ _ hi hc hl => .edit hi hc hl) hi

/-- An event brings incoming messages only, and receipts only climb. -/
theorem event (hi : Integrity c) (hf : c.CountersBelowMax) (event : TransportEvent) :
    Drained c (c.applyTransportEvent event).2 := by
  refine .edited hi ((applyTransportEvent_edited hi.toKeyed hf event).weaken ?_)
  intro b edit ha
  cases edit with
  | newMessage m => exact ha.1
  | setMessage key m =>
    obtain ⟨sender,state,old,v,-,ho,rfl,-,hr,-⟩ := ha
    intro old' ho' hs
    rw [ho] at ho'
    cases ho'
    have hle : deliveryRank state ≤ 1 := by rcases hs with rfl | rfl <;> decide
    exact waiting_iff_rank.mpr (by omega)
  | _ => trivial

theorem setConnectionState (c : MindChatCore) (accountId : AccountId) (state : ConnectionState) :
    Drained c (c.setConnectionState accountId state).2 := by
  refine of_eq (messages_setConnectionState c accountId state) ?_
  unfold MindChatCore.setConnectionState updateAccount
  split <;> rfl

theorem setDeliveryState {id : MessageId} (hw : Waiting c id) (state : DeliveryState) :
    Drained c (c.setDeliveryState id state).2 := by
  unfold MindChatCore.setDeliveryState
  cases hm : c.messages.lookup id with
  | none => exact .refl c
  | some old =>
    rintro accountId key ⟨n,w,hn,hd,hs,hv,ha⟩
    change (c.messages.insert id _).lookup key = some n at hn
    rw [Table.lookup_insert_if] at hn
    split_ifs at hn with he
    · cases hn
      exact ⟨old,w,he ▸ hm,hd,hw old hm,hv,ha⟩
    · exact ⟨n,w,hn,hd,hs,hv,ha⟩

theorem deleteAccount (hi : Keyed c) (accountId : AccountId) :
    Drained c (c.deleteAccount accountId).2 := by
  have run : ∀ (ids : List ConversationId) (c : MindChatCore), Keyed c →
      Drained c (ids.foldl MindChatCore.removeConversationState c) := by
    intro ids
    induction ids with
    | nil => exact fun c _ => .refl c
    | cons id ids ih =>
      exact fun c hi => (removeConversationState hi id).trans (ih _ (hi.removeConversationState id))
  unfold MindChatCore.deleteAccount
  split
  · exact .refl c
  · exact (run _ c hi).trans (of_eq rfl rfl)

theorem deleteConversation (hi : Keyed c) (id : ConversationId) :
    Drained c (c.deleteConversation id).2 := by
  unfold MindChatCore.deleteConversation
  split
  · exact .refl c
  · exact (removeConversationState hi id).trans (of_eq rfl rfl)

theorem openConversation (hi : Integrity c) (accountId : AccountId) (kind : ConversationKind)
    (address title : String) (now : ℕ) :
    Drained c (c.openConversation accountId kind address title now).2 := by
  let v : Conversation :=
    ⟨allocated c.nextConversationId,accountId,kind,address,title,0,now⟩
  unfold MindChatCore.openConversation
  split
  · exact .refl c
  · split
    · exact .refl c
    · split
      · exact .refl c
      · split
        · exact .refl c
        · exact (newConversation hi v rfl).trans (of_eq rfl rfl)

theorem markConversationRead (hi : Integrity c) (id : ConversationId) :
    Drained c (c.markConversationRead id).2 := by
  unfold MindChatCore.markConversationRead
  split
  · exact .refl c
  · rename_i old ho
    have h : Drained c ((Edit.setConversation id { old with unreadCount := 0 }).apply c) :=
      edit hi trivial ⟨old,ho,rfl,rfl,rfl,rfl⟩
    exact h.trans (of_eq rfl rfl)

theorem updateAccount (accountId : AccountId) (change : Account → Account) :
    Drained c (c.updateAccount accountId change).2 := by
  unfold MindChatCore.updateAccount
  split <;> exact of_eq rfl rfl

end Drained

namespace MindChatCore

variable {c : MindChatCore}

theorem mem_pendingOutgoingMessages (hi : Keyed c) {accountId : AccountId}
    {pending : List OutgoingMessage} (h : c.pendingOutgoingMessages accountId = .ok pending)
    (id : MessageId) : (∃ o ∈ pending, o.messageId = id) ↔ c.Unsent accountId id := by
  constructor
  · rintro ⟨o,ho,rfl⟩
    obtain ⟨m,hm,hd,hs,hmo⟩ := (mem_pendingOutgoingMessages_iff hi.messageKey h o).mp ho
    obtain ⟨v,hc,ha⟩ := Option.bind_eq_some_iff.mp hmo
    split at ha
    · rename_i hacc
      exact ⟨m,v,hm,hd,hs,hc,hacc⟩
    · cases ha
  · rintro ⟨m,v,hm,hd,hs,hc,ha⟩
    have ho : c.outgoing accountId m = some
        { accountId := accountId, conversationId := v.id, messageId := m.id, kind := v.kind,
          recipient := v.address, body := m.body, inReplyTo := m.inReplyTo } := by
      simp [outgoing,hc,ha]
    have hid := hi.messageKey id m hm
    exact ⟨_,(mem_pendingOutgoingMessages_iff hi.messageKey h _).mpr ⟨m,hid.symm ▸ hm,hd,hs,ho⟩,hid⟩

/-- A rejected text leaves the core as it was; an accepted one enters the outbox
of the account of its conversation and no other. -/
theorem sendText_cases (c : MindChatCore) (conversationId : ConversationId) (sender body : String)
    (inReplyTo : Option MessageId) (now : ℕ) :
    (∃ e, c.sendText conversationId sender body inReplyTo now = (.error e,c)) ∨
    ∃ id d v, c.sendText conversationId sender body inReplyTo now = (.ok id,d) ∧
      c.conversations.lookup conversationId = some v ∧
      ∀ accountId key, d.Unsent accountId key → c.Unsent accountId key ∨ accountId = v.accountId := by
  unfold sendText
  split
  · exact .inl ⟨_,rfl⟩
  rename_i hv
  obtain ⟨v,hv⟩ := Option.isSome_iff_exists.mp (ensureConversation_ok.mp hv)
  split
  · exact .inl ⟨_,rfl⟩
  split
  · exact .inl ⟨_,rfl⟩
  rename_i text _
  let message : MessageId → Message := fun id =>
    ⟨id,conversationId,sender,text,.outgoing,.text,now,.pending,inReplyTo,none⟩
  refine .inr ⟨_,_,v,@insertMessage_eq c message false v hv,hv,?_⟩
  rintro accountId key ⟨m,w,hm,hd,hs,hw,ha⟩
  change (c.messages.insert _ _).lookup key = some m at hm
  change (c.conversations.insert conversationId _).lookup m.conversationId = some w at hw
  rw [Table.lookup_insert_if] at hm hw
  by_cases hc : m.conversationId = conversationId
  · rw [if_pos hc] at hw
    cases hw
    exact .inr ha.symm
  · rw [if_neg hc] at hw
    split_ifs at hm
    · cases hm
      exact (hc rfl).elim
    · exact .inl ⟨m,w,hm,hd,hs,hw,ha⟩

theorem unsent_sendText (c : MindChatCore) (conversationId : ConversationId) (sender body : String)
    (inReplyTo : Option MessageId) (now : ℕ) {accountId : AccountId} {key : MessageId}
    (h : (c.sendText conversationId sender body inReplyTo now).2.Unsent accountId key) :
    c.Unsent accountId key ∨ key = allocated c.nextMessageId := by
  unfold sendText at h
  split at h
  · exact .inl h
  rename_i hv
  obtain ⟨v,hv⟩ := Option.isSome_iff_exists.mp (ensureConversation_ok.mp hv)
  split at h
  · exact .inl h
  split at h
  · exact .inl h
  rename_i text _
  let message : MessageId → Message := fun id =>
    ⟨id,conversationId,sender,text,.outgoing,.text,now,.pending,inReplyTo,none⟩
  rw [@insertMessage_eq c message false v hv] at h
  obtain ⟨m,w,hm,hd,hs,hw,ha⟩ := h
  change (c.messages.insert _ _).lookup key = some m at hm
  change (c.conversations.insert conversationId _).lookup m.conversationId = some w at hw
  rw [Table.lookup_insert_if] at hm hw
  split_ifs at hm with hk
  · exact .inr hk
  · left
    by_cases hc : m.conversationId = conversationId
    · rw [if_pos hc] at hw
      cases hw
      exact ⟨m,v,hm,hd,hs,hc ▸ hv,ha⟩
    · rw [if_neg hc] at hw
      exact ⟨m,w,hm,hd,hs,hw,ha⟩

theorem setDeliveryState_eq {id : MessageId} {m : Message} (h : c.messages.lookup id = some m)
    (state : DeliveryState) : c.setDeliveryState id state = (.ok (),{ c with
      messages := c.messages.insert id { m with deliveryState := state } }.push (.messageChanged id)) := by
  unfold setDeliveryState
  rw [h]

theorem isSome_messages_setDeliveryState (c : MindChatCore) (key id : MessageId)
    (state : DeliveryState) :
    ((c.setDeliveryState key state).2.messages.lookup id).isSome = (c.messages.lookup id).isSome := by
  unfold setDeliveryState
  cases hk : c.messages.lookup key with
  | none => rfl
  | some m =>
    change ((c.messages.insert key _).lookup id).isSome = _
    rw [Table.lookup_insert_if]
    split_ifs with he
    · rw [he,hk]
      rfl
    · rfl

theorem not_unsent_setDeliveryState {id : MessageId} (accountId : AccountId)
    (h : (c.messages.lookup id).isSome) : ¬ (c.setDeliveryState id .sent).2.Unsent accountId id := by
  obtain ⟨m,hm⟩ := Option.isSome_iff_exists.mp h
  rw [setDeliveryState_eq hm]
  rintro ⟨n,-,hn,-,hs,-⟩
  change (c.messages.insert id _).lookup id = some n at hn
  rw [AList.lookup_insert] at hn
  cases hn
  rcases hs with hs | hs <;> cases hs

end MindChatCore

namespace TransportCoordinator

variable {T : Type} [XmppTransport T]

/-- Every send of the batch answers `Ok`, and none begins after the time budget. -/
def AllSent (elapsed : ℕ → ℕ) : List OutgoingMessage → ℕ → T → Prop
  | [], _, _ => True
  | message :: rest, sentCount, t =>
    elapsed sentCount < flushSendTimeoutMs ∧ (XmppTransport.send t message).1 = .ok () ∧
      AllSent elapsed rest (sentCount + 1) (XmppTransport.send t message).2

/-- The outbox fits into one batch and all of it is sent. -/
def Empties (elapsed : ℕ → ℕ) (k : TransportCoordinator T) (accountId : AccountId) : Prop :=
  ∀ pending, k.core.pendingOutgoingMessages accountId = .ok pending →
    pending.length ≤ flushOutboxMaxBatch ∧ AllSent elapsed pending 0 k.transport

variable {k : TransportCoordinator T}

theorem drained_flushBatch (elapsed : ℕ → ℕ) (batch : List OutgoingMessage) (sentCount : ℕ)
    (k : TransportCoordinator T) (hn : (batch.map OutgoingMessage.messageId).Nodup)
    (hw : ∀ o ∈ batch, Waiting k.core o.messageId) :
    Drained k.core (flushBatch elapsed batch sentCount k).2.core :=
  core_flushBatch .refl (fun _ _ _ h j => h.trans j)
    (fun _ _ state hw _ => .setDeliveryState hw state) elapsed batch sentCount k hn hw

theorem drained_flushOutbox (hi : Keyed k.core) (elapsed : ℕ → ℕ) (accountId : AccountId) :
    Drained k.core (k.flushOutbox elapsed accountId).2.core :=
  core_flushOutbox .refl (fun _ _ _ h j => h.trans j)
    (fun _ _ state hw _ => .setDeliveryState hw state) hi elapsed accountId

section Message

variable {elapsed : ℕ → ℕ} {message : OutgoingMessage} {rest : List OutgoingMessage} {sentCount : ℕ} {t : T}

theorem flushBatch_late (h : flushSendTimeoutMs ≤ elapsed sentCount) :
    flushBatch elapsed (message :: rest) sentCount k = (.ok sentCount,k) := by
  rw [flushBatch,if_pos h]

theorem flushBatch_refused (h : elapsed sentCount < flushSendTimeoutMs)
    (hm : (k.core.messages.lookup message.messageId).isSome) {e : TransportError}
    (hs : XmppTransport.send k.transport message = (.error e,t)) :
    flushBatch elapsed (message :: rest) sentCount k =
      (.error (.transport e),⟨(k.core.setDeliveryState message.messageId .failed).2,t⟩) := by
  obtain ⟨m,hm⟩ := Option.isSome_iff_exists.mp hm
  simp only [flushBatch,if_neg (not_le.mpr h),hs,setDeliveryState_eq hm]

theorem flushBatch_accepted (h : elapsed sentCount < flushSendTimeoutMs)
    (hm : (k.core.messages.lookup message.messageId).isSome)
    (hs : XmppTransport.send k.transport message = (.ok (),t)) :
    flushBatch elapsed (message :: rest) sentCount k =
      flushBatch elapsed rest (sentCount + 1) ⟨(k.core.setDeliveryState message.messageId .sent).2,t⟩ := by
  obtain ⟨m,hm⟩ := Option.isSome_iff_exists.mp hm
  simp only [flushBatch,if_neg (not_le.mpr h),hs,setDeliveryState_eq hm]

end Message

theorem flushBatch_empties (elapsed : ℕ → ℕ) (batch : List OutgoingMessage) (sentCount : ℕ)
    (k : TransportCoordinator T) (hn : (batch.map OutgoingMessage.messageId).Nodup)
    (hw : ∀ o ∈ batch, Waiting k.core o.messageId)
    (hs : ∀ o ∈ batch, (k.core.messages.lookup o.messageId).isSome)
    (ha : AllSent elapsed batch sentCount k.transport) (accountId : AccountId) :
    ∀ o ∈ batch, ¬ (flushBatch elapsed batch sentCount k).2.core.Unsent accountId o.messageId := by
  induction batch generalizing sentCount k with
  | nil => simp
  | cons message rest ih =>
    obtain ⟨hc,hok,hrest⟩ := ha
    rw [List.map_cons,List.nodup_cons] at hn
    have hstored := hs message List.mem_cons_self
    let d := (k.core.setDeliveryState message.messageId .sent).2
    have hne : ∀ o ∈ rest, o.messageId ≠ message.messageId :=
      fun o ho he => hn.1 (List.mem_map.mpr ⟨o,ho,he⟩)
    have hw' : ∀ o ∈ rest, Waiting d o.messageId := fun o ho =>
      (hw o (List.mem_cons_of_mem _ ho)).of_ne .sent (hne o ho)
    have hs' : ∀ o ∈ rest, (d.messages.lookup o.messageId).isSome := fun o ho =>
      (isSome_messages_setDeliveryState k.core message.messageId o.messageId .sent).trans
        (hs o (List.mem_cons_of_mem _ ho))
    rw [flushBatch_accepted hc hstored (Prod.ext hok rfl)]
    intro o ho
    rcases List.mem_cons.mp ho with rfl | ho
    · exact fun h => not_unsent_setDeliveryState accountId hstored
        (drained_flushBatch elapsed rest _ _ hn.2 hw' accountId _ h)
    · exact ih _ _ hn.2 hw' hs' hrest o ho

theorem flushOutbox_empties (hi : Keyed k.core) (elapsed : ℕ → ℕ) (accountId : AccountId)
    (h : k.Empties elapsed accountId) {pending : List OutgoingMessage}
    (hp : k.core.pendingOutgoingMessages accountId = .ok pending) (id : MessageId) :
    ¬ (k.flushOutbox elapsed accountId).2.core.Unsent accountId id := by
  obtain ⟨hlen,hall⟩ := h pending hp
  obtain ⟨hn,hw⟩ := pendingOutgoingMessages_spec hi hp
  have hs : ∀ o ∈ pending, (k.core.messages.lookup o.messageId).isSome := by
    intro o ho
    obtain ⟨m,-,hm,-⟩ := (mem_pendingOutgoingMessages hi hp o.messageId).mp ⟨o,ho,rfl⟩
    simp [hm]
  intro hu
  obtain ⟨o,ho,rfl⟩ := (mem_pendingOutgoingMessages hi hp id).mpr
    (drained_flushOutbox hi elapsed accountId accountId id hu)
  simp only [flushOutbox,hp,List.take_of_length_le hlen] at hu
  exact flushBatch_empties elapsed pending 0 k hn hw hs hall accountId o ho hu

/-- No counter is at `u64::MAX` whenever an event of the batch is applied. -/
def PollsInRange : ℕ → TransportCoordinator T → Prop
  | 0, _ => True
  | left + 1, k => k.core.CountersBelowMax ∧
    match k.pollNextEvent with
    | (.ok true,k) => PollsInRange left k
    | (.error (.core _),k) => PollsInRange left k
    | (.ok false,_) => True
    | (.error (.transport _),_) => True

theorem core_pollLoop {R : MindChatCore → MindChatCore → Prop} (hr : ∀ c, R c c)
    (ht : ∀ c d e, R c d → R d e → R c e)
    (hs : ∀ c event, c.CountersBelowMax → R c (c.applyTransportEvent event).2) (left processed : ℕ)
    (k : TransportCoordinator T) (hf : PollsInRange left k) :
    R k.core (pollLoop left processed k).2.core := by
  induction left generalizing processed k with
  | zero => exact hr _
  | succ left ih =>
    obtain ⟨hc,hf⟩ := hf
    have hp := core_pollNextEvent (k := k) hr (fun event => hs _ event hc)
    unfold pollLoop
    cases hk : k.pollNextEvent with
    | mk r l =>
      rw [hk] at hp hf
      rcases r with e | b
      · cases e with
        | core e => exact ht _ _ _ hp (ih _ _ hf)
        | transport e => exact hp
      · cases b with
        | true => exact ht _ _ _ hp (ih _ _ hf)
        | false => exact hp

end TransportCoordinator
end MindChat
