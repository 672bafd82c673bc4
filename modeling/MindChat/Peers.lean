import MindChat.OneConversation
import MindChat.Stanzas

/-! Which conversation a text or a receipt of a peer finds, and for which spellings of an
address that is the conversation opened for it. -/

namespace MindChat

open MindChatCore

/-- A new incoming text lies in the conversation, which belongs to the account. -/
def ReceivedIn (c d : MindChatCore) (accountId : AccountId) (conversationId : ConversationId)
    (body : String) : Prop :=
  ∃ id m v, c.messages.lookup id = none ∧ d.messages.lookup id = some m ∧
    m.direction = .incoming ∧ m.body = body ∧ m.conversationId = conversationId ∧
    d.conversations.lookup conversationId = some v ∧ v.accountId = accountId

namespace MindChatCore

variable {c : MindChatCore} {accountId : AccountId} {kind : ConversationKind}
  {address sender body : String} {now : ℕ}

/-- An incoming text goes to the conversation of its peer, or to a new one if
the peer has none. -/
theorem targetConversation_spec (hi : Keyed c) {id : ConversationId} {d : MindChatCore}
    (h : c.targetConversation accountId kind address now = (id,d)) :
    d.messages = c.messages ∧ d.nextMessageId = c.nextMessageId ∧
    (∃ v, d.conversations.lookup id = some v ∧ v.peer = (accountId,kind,address)) ∧
    ((∃ v, c.findConversation accountId kind address = some v ∧ v.id = id ∧ d = c) ∨
      (c.findConversation accountId kind address = none ∧ c.conversations.lookup id = none)) := by
  unfold targetConversation at h
  split at h
  · rename_i v hv
    cases h
    obtain ⟨hl,ha,hk,hs⟩ := findConversation_some hi.conversationKey hv
    exact ⟨rfl,rfl,⟨v,hl,by simp only [Conversation.peer,ha,hk,hs]⟩,.inl ⟨v,hv,rfl,rfl⟩⟩
  · rename_i hn
    cases h
    exact ⟨rfl,rfl,⟨_,AList.lookup_insert _,rfl⟩,.inr ⟨hn,lookup_allocated hi.conversationBelow⟩⟩

theorem receiveTransportText_ok (hi : Keyed c) (ha : (c.accounts.lookup accountId).isSome)
    (hv : validateConversationAddress address = .ok ()) {trimmed : String}
    (hb : validateBody body = .ok trimmed) {id : ConversationId} {d : MindChatCore}
    (ht : c.targetConversation accountId kind address now = (id,d)) :
    let m : Message :=
      { id := allocated c.nextMessageId, conversationId := id, sender := sender, body := trimmed,
        direction := .incoming, kind := .text, sentAtEpochMs := now, deliveryState := .delivered,
        inReplyTo := none, attachment := none }
    let r := c.receiveTransportText accountId kind address sender body now
    r.1 = .ok (some m.id) ∧ r.2.messages = c.messages.insert m.id m ∧
      ∃ v w, d.conversations.lookup id = some v ∧ w.peer = v.peer ∧
        r.2.conversations = d.conversations.insert id w := by
  obtain ⟨hm,hn,⟨v,hl,-⟩,-⟩ := targetConversation_spec hi ht
  have ha : (c.accounts.lookup accountId).isNone = false := by simpa using ha
  have hs : d.ensureConversation id = .ok () := ensureConversation_ok.mpr (by simp [hl])
  simp only [receiveTransportText,ha,Bool.false_eq_true,if_false,hv,hb,ht,receiveText,hs]
  rw [@insertMessage_eq d _ true v hl]
  simp only [push,hm,hn]
  let w : Conversation :=
    { v with lastActivityEpochMs := now, unreadCount := u32SaturatingSucc v.unreadCount }
  exact ⟨trivial,trivial,v,w,hl,rfl,rfl⟩

theorem receiveTransportText_received (hi : Keyed c) (ha : (c.accounts.lookup accountId).isSome)
    (hv : validateConversationAddress address = .ok ()) {trimmed : String}
    (hb : validateBody body = .ok trimmed) :
    ReceivedIn c (c.receiveTransportText accountId kind address sender body now).2 accountId
      (c.targetConversation accountId kind address now).1 trimmed := by
  obtain ⟨-,hm,v,w,hl,hw,hc⟩ :=
    @receiveTransportText_ok c accountId kind address sender body now hi ha hv trimmed hb _ _ rfl
  obtain ⟨-,-,⟨v',hl',hp⟩,-⟩ := targetConversation_spec hi (rfl :
    c.targetConversation accountId kind address now = (_,_))
  obtain rfl := Option.some.inj (hl.symm.trans hl')
  refine ⟨_,_,w,lookup_allocated hi.messageBelow,by rw [hm]; exact AList.lookup_insert _,
    rfl,rfl,rfl,by rw [hc]; exact AList.lookup_insert _,?_⟩
  exact (Prod.mk.inj (hw.trans hp)).1

/-- A text that fails a check changes nothing. -/
theorem receiveTransportText_refused
    (h : (c.accounts.lookup accountId).isNone ∨ validateConversationAddress address ≠ .ok () ∨
      ∀ trimmed, validateBody body ≠ .ok trimmed) :
    (c.receiveTransportText accountId kind address sender body now).2 = c := by
  unfold receiveTransportText
  split
  · rfl
  rename_i ha
  split
  · rfl
  rename_i hv
  split
  · rfl
  rename_i trimmed hb
  rcases h with h | h | h
  · exact (ha h).elim
  · exact (h hv).elim
  · exact (h trimmed hb).elim

theorem validateConversationAddress_eq_ok {address : String} :
    validateConversationAddress address = .ok () ↔ validateJid address = .ok () := by
  unfold validateConversationAddress
  cases validateJid address <;> simp [Except.mapError]

theorem applyDeliveryUpdate_ok {id : MessageId} {state : DeliveryState} {m : Message}
    {v : Conversation} (ha : (c.accounts.lookup accountId).isSome)
    (hs : validateJid sender = .ok ()) (hm : c.messages.lookup id = some m)
    (hd : m.direction = .outgoing) (hv : c.conversations.lookup m.conversationId = some v)
    (hp : v.peer = (accountId,.direct,sender))
    (hr : deliveryRank m.deliveryState < deliveryRank state) :
    c.applyDeliveryUpdate accountId sender id state =
      (.ok true,{ c with messages := c.messages.insert id { m with deliveryState := state } }.push
        (.messageChanged id)) := by
  obtain ⟨rfl,hp'⟩ := Prod.mk.inj hp
  obtain ⟨hk,rfl⟩ := Prod.mk.inj hp'
  have ha : (c.accounts.lookup v.accountId).isNone = false := by simpa using ha
  simp [applyDeliveryUpdate,ha,hs,Except.isOk,Except.toBool,hm,hd,hv,hk,not_le.mpr hr,setDeliveryState]

/-- The texts and the receipts of a sender reach a direct conversation: texts go
there and open no other one, receipts raise the messages sent there. -/
structure Reaches (c : MindChatCore) (accountId : AccountId) (conversationId : ConversationId)
    (sender : String) : Prop where
  texts : ∀ body trimmed now, validateBody body = .ok trimmed →
    let d := (c.applyTransportEvent (.incomingText accountId .direct sender sender body now)).2
    ReceivedIn c d accountId conversationId trimmed ∧
      ∀ k, (d.conversations.lookup k).isSome = (c.conversations.lookup k).isSome
  receipts : ∀ id m state, c.messages.lookup id = some m → m.conversationId = conversationId →
    m.direction = .outgoing → deliveryRank m.deliveryState < deliveryRank state →
    (c.applyTransportEvent (.deliveryUpdated accountId sender id state)).2.messages.lookup id =
      some { m with deliveryState := state }

variable {id : ConversationId} {v : Conversation}

theorem Reaches.of_peer (hi : Integrity c) (hg : Grounded c) (hv : c.conversations.lookup id = some v)
    (he : v.peer = (accountId,.direct,address)) : Reaches c accountId id address := by
  obtain ⟨rfl,h⟩ := Prod.mk.inj he
  obtain ⟨hk,rfl⟩ := Prod.mk.inj h
  have ha := hi.conversationAccount id v hv
  have hs := hg.checked id v hv
  have hid := hi.conversationKey id v hv
  have hf := hg.peers.findConversation_eq hv rfl
  rw [hk] at hf
  refine ⟨?_,?_⟩
  · intro body trimmed now hb
    have ht : c.targetConversation v.accountId .direct v.address now = (id,c) := by
      simp only [targetConversation,hf,hid]
    obtain ⟨-,-,u,w,-,-,hc⟩ :=
      @receiveTransportText_ok c _ _ _ v.address _ _ hi.toKeyed ha hs _ hb _ _ ht
    refine ⟨?_,fun k => ?_⟩
    · have hr := @receiveTransportText_received c _ .direct _ v.address _ now hi.toKeyed ha hs _ hb
      rwa [ht] at hr
    · simp only [applyTransportEvent,hc]
      exact Bool.eq_iff_iff.mpr (Table.isSome_insert_iff (by simp [hv]))
  · intro mid m state hm hc hd hr
    have hu := applyDeliveryUpdate_ok ha (validateConversationAddress_eq_ok.mp hs) hm hd (hc ▸ hv) he hr
    simp only [applyTransportEvent,hu]
    exact AList.lookup_insert _

theorem Reaches.address_eq (hi : Keyed c) (hv : c.conversations.lookup id = some v)
    (h : Reaches c accountId id sender) : v.address = sender := by
  have hb : validateBody "x" = .ok "x" := rfl
  obtain ⟨⟨mid,m,-,hn,hm,-,-,hc,-⟩,-⟩ := h.texts "x" "x" 0 hb
  simp only [applyTransportEvent] at hm
  by_cases hs : (c.accounts.lookup accountId).isSome ∧ validateConversationAddress sender = .ok ()
  · obtain ⟨d,ht⟩ : ∃ d, c.targetConversation accountId .direct sender 0 =
        ((c.targetConversation accountId .direct sender 0).1,d) := ⟨_,rfl⟩
    obtain ⟨-,hr,-⟩ := @receiveTransportText_ok c _ _ _ sender _ _ hi hs.1 hs.2 _ hb _ _ ht
    rw [hr,Table.lookup_insert_if] at hm
    split at hm
    · cases hm
      obtain ⟨-,-,⟨w,hw,hp⟩,hcase⟩ := targetConversation_spec hi ht
      dsimp only at hc
      rw [hc] at hw hcase
      rcases hcase with ⟨u,hu,-,rfl⟩ | ⟨-,hnone⟩
      · rw [hv] at hw
        cases hw
        exact (Prod.mk.inj (Prod.mk.inj hp).2).2
      · rw [hv] at hnone
        cases hnone
    · rw [hn] at hm
      cases hm
  · rw [receiveTransportText_refused,hn] at hm
    · cases hm
    · by_cases ha : (c.accounts.lookup accountId).isSome
      · exact .inr (.inl (fun h => hs ⟨ha,h⟩))
      · exact .inl (by simpa using ha)

theorem openConversation_stored (hi : Keyed c) {title : String} {d : MindChatCore}
    (h : c.openConversation accountId kind address title now = (.ok id,d)) :
    ∃ v, d.conversations.lookup id = some v ∧ v.peer = (accountId,kind,address) := by
  obtain ⟨-,⟨w,hw,rfl,rfl⟩ | ⟨-,he⟩⟩ := openConversation_ok h
  · obtain ⟨hl,ha,hk,hs⟩ := findConversation_some hi.conversationKey hw
    exact ⟨w,hl,by simp only [Conversation.peer,ha,hk,hs]⟩
  · cases he
    exact ⟨_,AList.lookup_insert _,rfl⟩

end MindChatCore

/-- As long as the conversation opened for an address is there, the transport's
spelling of that address reaches it exactly if the address was spelled so. -/
theorem opened_conversation_reached {c d : MindChatCore} (hc : Reachable c)
    (hf : c.CountersBelowMax) {accountId : AccountId} {address title : String} {now : ℕ}
    {id : ConversationId} (ho : c.openConversation accountId .direct address title now = (.ok id,d))
    (toBare : String → Option String) {bare : String} (hn : toBare address = some bare) :
    (∃ v, d.conversations.lookup id = some v ∧ v.peer = (accountId,.direct,address)) ∧
    ∀ steps e, Transition.exec (fun c s => SessionStep.next c s) d steps = some e →
      (∃ v, e.conversations.lookup id = some v ∧ v.peer = (accountId,.direct,address)) →
      (Reaches e accountId id bare ↔ toBare address = some address) := by
  refine ⟨openConversation_stored hc.integrity.toKeyed ho,?_⟩
  rintro steps e he ⟨v,hv,hp⟩
  have hd : Transition.exec (fun c s => SessionStep.next c s) c
      [.op (.openConversation accountId .direct address title now)] = some d := by
    simp [Transition.exec,SessionStep.next,hf,SessionStep.run,CoreOp.run,ho]
  have hr : Reachable e := (hc.steps hd).steps he
  have ha : v.address = address := (Prod.mk.inj (Prod.mk.inj hp).2).2
  constructor
  · intro h
    rw [hn,← Reaches.address_eq hr.integrity.toKeyed hv h,ha]
  · intro h
    obtain rfl := Option.some.inj (hn.symm.trans h)
    exact Reaches.of_peer hr.integrity hr.reached.grounded hv hp

/-- The bare address with its ASCII letters folded. -/
def foldBare (address : String) : Option String :=
  some (String.ofList ((Text.before '/' address).toList.map Char.toLower))

def chatWith (address : String) : MindChatCore :=
  ((MindChatCore.default.addAccount demoSetup).2.openConversation 1 .direct address "" 0).2

theorem adaCore_reachable : Reachable (MindChatCore.default.addAccount demoSetup).2 :=
  ⟨[.op (.addAccount demoSetup)],rfl⟩

theorem opened_conversation_reached_bob : Reaches (chatWith "bob@host") 1 1 "bob@host" := by
  have ho : (MindChatCore.default.addAccount demoSetup).2.openConversation 1 .direct "bob@host" "" 0 =
      (.ok 1,chatWith "bob@host") := rfl
  have hn : foldBare "bob@host" = some "bob@host" := by decide
  have hv : (chatWith "bob@host").conversations.lookup 1 =
      some ⟨1,1,.direct,"bob@host","",0,0⟩ := by decide
  exact ((opened_conversation_reached adaCore_reachable (by decide) ho foldBare hn).2 [] _ rfl
    ⟨_,hv,rfl⟩).mpr hn

/-- A capital letter keeps texts and receipts of the peer out of its chat. -/
theorem capital_spelling_not_reached :
    (MindChatCore.default.addAccount demoSetup).2.openConversation 1 .direct "Bob@Host" "" 0 =
        (.ok 1,chatWith "Bob@Host") ∧
      foldBare "Bob@Host" = some "bob@host" ∧ ¬ Reaches (chatWith "Bob@Host") 1 1 "bob@host" ∧
      (((chatWith "Bob@Host").applyTransportEvent
        (.incomingText 1 .direct "bob@host" "bob@host" "hi" 5)).2.conversations.lookup 2).isSome := by
  refine ⟨rfl,by decide,fun h => ?_,by decide⟩
  have hv : (chatWith "Bob@Host").conversations.lookup 1 =
      some ⟨1,1,.direct,"Bob@Host","",0,0⟩ := by decide
  have hk : Keyed (chatWith "Bob@Host") :=
    adaCore_reachable.integrity.toKeyed.edited (openConversation_any (by decide))
  exact absurd (Reaches.address_eq hk hv h) (by decide)

end MindChat
