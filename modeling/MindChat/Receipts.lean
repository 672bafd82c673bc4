import MindChat.Peers

/-! Delivery receipts between two clients: what a receipt says about the message
it acknowledges, and the way of a receipt back to the message it was sent for. -/

namespace MindChat

open MindChatCore

/-- A chat message with a body the core takes, from an address it takes. -/
def MessageStanza.Presentable (m : MessageStanza) (sender body : String) : Prop :=
  m.type = .chat ∧ validateBody body = .ok (Text.trim body) ∧
    validateConversationAddress sender = .ok ()

/-- A chat or normal message that asks for a receipt and names what a receipt needs. -/
structure MessageStanza.AsksReceipt (m : MessageStanza) (sender stanzaId : String) : Prop where
  direct : m.type = .chat ∨ m.type = .normal
  request : .request true ∈ m.payloads
  sender : m.sender = some sender
  id : m.id = some stanzaId
  named : stanzaId ≠ ""
  unspaced : Text.containsWhitespace stanzaId = false

/-- The message becomes an event whose application stores it for the account. -/
def Presented (c : MindChatCore) (accountId : AccountId) (m : MessageStanza) (body : String)
    (now : ℕ) : Prop :=
  ∃ event conversationId, translateIncomingMessage accountId m now = some event ∧
    ReceivedIn c (c.applyTransportEvent event).2 accountId conversationId (Text.trim body)

theorem validateBody_eq_ok {body trimmed : String} : validateBody body = .ok trimmed ↔
    trimmed = Text.trim body ∧ Text.trim body ≠ "" ∧
      Text.charCount (Text.trim body) ≤ maxMessageChars := by
  unfold validateBody
  dsimp only
  split
  · simp_all
  · split
    · rename_i h
      simp [not_le.mpr h]
    · rename_i hn h
      simp [hn,not_lt.mp h,eq_comm]

section Presented

variable {c : MindChatCore} {accountId : AccountId} {m : MessageStanza} {sender body : String}
  {now : ℕ}

theorem MessageStanza.Presentable.presented (hi : Keyed c)
    (ha : (c.accounts.lookup accountId).isSome) (hs : m.sender = some sender)
    (hb : m.bestBody = some body) (h : m.Presentable sender body) :
    Presented c accountId m body now := by
  obtain ⟨ht,hv,hj⟩ := h
  have hne := (validateBody_eq_ok.mp hv).2.1
  have hr := @receiveTransportText_received c accountId .direct sender sender body now hi ha hj _ hv
  exact ⟨.incomingText accountId .direct sender sender body now,_,
    by simp [translateIncomingMessage,ht,hs,hb,hne],hr⟩

theorem applyTransportEvent_unpresentable (hs : m.sender = some sender) (hb : m.bestBody = some body)
    (h : ¬ m.Presentable sender body) {event : TransportEvent}
    (he : translateIncomingMessage accountId m now = some event) :
    (c.applyTransportEvent event).2 = c := by
  unfold translateIncomingMessage at he
  split at he
  · cases he
  rename_i ht
  rw [hs,hb] at he
  dsimp only at he
  split at he
  · cases he
  · have hr : validateConversationAddress sender ≠ .ok () ∨
        ∀ trimmed, validateBody body ≠ .ok trimmed := by
      by_contra hn
      simp only [not_or,not_not,not_forall] at hn
      obtain ⟨hj,trimmed,hv⟩ := hn
      obtain rfl := (validateBody_eq_ok.mp hv).1
      exact h ⟨not_not.mp ht,hv,hj⟩
    obtain rfl := Option.some.inj he
    exact @receiveTransportText_refused c accountId .direct sender sender body now (.inr hr)

theorem Presented.presentable (hs : m.sender = some sender) (hb : m.bestBody = some body)
    (h : Presented c accountId m body now) : m.Presentable sender body := by
  obtain ⟨event,id,he,mid,m',v,hn,hm,-⟩ := h
  by_contra h
  rw [applyTransportEvent_unpresentable hs hb h he,hn] at hm
  cases hm

/-- A receipt goes to the sender of a message that asks for one and names its id. -/
theorem receiptAcknowledgement_eq_some {ack : ClientStanza} :
    receiptAcknowledgement accountId m now = some ack ↔
      ∃ sender stanzaId, m.AsksReceipt sender stanzaId ∧ ack = .acknowledgement
        ("mindchat-receipt-" ++ toString accountId ++ "-" ++ toString now) sender stanzaId := by
  have hd : m.isDirectReceiptMessage = true ↔ m.type = .chat ∨ m.type = .normal := by
    simp [MessageStanza.isDirectReceiptMessage]
  unfold receiptAcknowledgement
  constructor
  · intro h
    split at h
    · rename_i hr
      split at h
      · rename_i sender stanzaId hs hid
        split at h
        · cases h
        · rename_i hu
          rw [not_or,Bool.not_eq_true] at hu
          cases h
          exact ⟨sender,stanzaId,⟨hd.mp hr.1,hr.2,hs,hid,hu.1,hu.2⟩,rfl⟩
      · cases h
    · cases h
  · rintro ⟨sender,stanzaId,⟨ht,hr,hs,hid,hn,hw⟩,rfl⟩
    rw [if_pos ⟨hd.mpr ht,hr⟩,hs,hid]
    simp [hn,hw]

end Presented

def greeting (type : MessageType) : MessageStanza :=
  ⟨type,some "bob@host",some "peer-7",some "Hello",[.request true]⟩

/-- An address of the client library: the text of its bare part, its resource. -/
structure Jid where
  bare : String
  resource : Option String
  deriving DecidableEq

/-- The message stanza of a message whose recipient parses as an address. -/
def sendableStanza (fromStr : String → Option Jid) (message : OutgoingMessage) :
    Except TransportError ClientStanza :=
  match fromStr message.recipient with
  | none =>
    .error (.protocolViolation "invalid conversation JID supplied to XMPP transport")
  | some _ => .ok (buildMessageStanza message)

/-- What the receiving client reads of a message that was sent to it. -/
def ClientStanza.arrival (sender : Jid) : ClientStanza → Option MessageStanza
  | .message type _ id body receiptRequest =>
    some ⟨type,some sender.bare,some id,some body,if receiptRequest then [.request true] else []⟩
  | .acknowledgement id _ receipt =>
    some ⟨.chat,some sender.bare,some id,none,[.received (some receipt)]⟩
  | _ => none

/-- What the transport is handed for a message of a conversation. -/
def Conversation.outgoing (v : Conversation) (m : Message) : OutgoingMessage :=
  { accountId := v.accountId, conversationId := v.id, messageId := m.id, kind := v.kind,
    recipient := v.address, body := m.body, inReplyTo := m.inReplyTo }

theorem nextMessageId_edit {c : MindChatCore} {edit : Edit} (h : c.nextMessageId < 2^64) :
    (edit.apply c).nextMessageId < 2^64 := by
  cases edit with
  | newMessage m => exact Nat.mod_lt _ (by decide)
  | dropConversation id =>
    simp only [Edit.apply]
    rw [removeConversationState_eq]
    exact h
  | _ => exact h

theorem nextMessageId_step {c d : MindChatCore} {s : SessionStep} (hi : Keyed c)
    (h : c.nextMessageId < 2^64) (hs : s.next c = some d) : d.nextMessageId < 2^64 := by
  obtain ⟨hf,rfl⟩ := SessionStep.next_eq_some.mp hs
  cases s with
  | op o =>
    exact (o.edited hi.filed False.elim).invariant (I := fun c => c.nextMessageId < 2^64)
      (fun _ _ h _ _ => nextMessageId_edit h) h
  | restart => exact Nat.mod_lt _ (by decide)

theorem Reachable.messageId_le {c : MindChatCore} (h : Reachable c) {id : MessageId} {m : Message}
    (hm : c.messages.lookup id = some m) : id ≤ u64Max := by
  have hb := h.integrity.messageBelow id (by simp [hm])
  obtain ⟨steps,h⟩ := h
  have hn : c.nextMessageId < 2^64 := by
    refine ((Transition.run_iff_exec.mpr h).invariant
      (I := fun c => Keyed c ∧ c.nextMessageId < 2^64) ?_ ⟨Keyed.default,by decide⟩).2
    exact fun _ _ _ hi hs => ⟨SessionStep.keyed hi.1 hs,nextMessageId_step hi.1 hi.2 hs⟩
  simp only [allocated,u64Max] at hb ⊢
  exact Nat.le_sub_one_of_lt (hb.trans_le (max_le hn.le (by decide)))

theorem stanzaId_usable (id : MessageId) :
    stanzaId id ≠ "" ∧ Text.containsWhitespace (stanzaId id) = false := by
  have hc : (stanzaId id).toList = stanzaPrefix ++ Nat.toDigits 10 id := String.toList_ofList
  refine ⟨fun h => ?_,?_⟩
  · rw [h] at hc
    exact absurd hc.symm (List.append_ne_nil_of_left_ne_nil (by decide) _)
  · rw [Text.containsWhitespace,hc,List.any_append]
    have hd : (Nat.toDigits 10 id).any Text.isWhitespace = false := by
      rw [List.any_eq_false]
      intro x hx
      have hx := Nat.isDigit_of_mem_toDigits (b := 10) (by omega) le_rfl hx
      rw [Text.isWhitespace_of_isDigit hx]
      exact Bool.false_ne_true
    rw [hd]
    decide

theorem translateIncomingReceipts_receipt {id : MessageId} (h₀ : id ≠ 0) (h : id ≤ u64Max)
    (accountId : AccountId) (sender ackId : String) :
    translateIncomingReceipts accountId
        ⟨.chat,some sender,some ackId,none,[.received (some (stanzaId id))]⟩ =
      [.deliveryUpdated accountId sender id .delivered] := by
  simp [translateIncomingReceipts,MessageStanza.isDirectReceiptMessage,
    parseReceiptMessageId_stanzaId h₀ h]

/-- A message to a peer in normal form asks for a receipt; the receipt the peer
builds for it, sent back from any resource, is read as one delivery update, and
that marks the message and no other. -/
theorem receipt_loop_closes {c : MindChatCore} (hc : Reachable c) {accountId : AccountId}
    {address : String} {conversationId : ConversationId} {v : Conversation} {id : MessageId}
    {m : Message} (hv : c.conversations.lookup conversationId = some v)
    (hp : v.peer = (accountId,.direct,address)) (hm : c.messages.lookup id = some m)
    (hmc : m.conversationId = conversationId) (hd : m.direction = .outgoing)
    (hs : deliveryRank m.deliveryState < deliveryRank .delivered)
    (fromStr : String → Option Jid) (hn : fromStr address = some ⟨address,none⟩)
    (own : Jid) (resource : Option String) (peerAccountId : AccountId) (now : ℕ) :
    ∃ stanza arrived ack back, sendableStanza fromStr (v.outgoing m) = .ok stanza ∧
      stanza.arrival own = some arrived ∧
      receiptAcknowledgement peerAccountId arrived now = some ack ∧
      ack.arrival ⟨address,resource⟩ = some back ∧
      translateIncomingReceipts accountId back = [.deliveryUpdated accountId address id .delivered] ∧
      let d := (c.applyTransportEvent (.deliveryUpdated accountId address id .delivered)).2
      d.messages.lookup id = some { m with deliveryState := .delivered } ∧
        ∀ k, k ≠ id → d.messages.lookup k = c.messages.lookup k := by
  have hi := hc.integrity
  obtain ⟨ha,hkind⟩ := Prod.mk.inj hp
  obtain ⟨hkind,haddress⟩ := Prod.mk.inj hkind
  have hid : m.id = id := hi.messageKey id m hm
  have h₀ : id ≠ 0 := Nat.one_le_iff_ne_zero.mp (hi.messagePositive id (by simp [hm]))
  obtain ⟨hne,hw⟩ := stanzaId_usable id
  have hu := applyDeliveryUpdate_ok (ha ▸ hi.conversationAccount conversationId v hv)
    (validateConversationAddress_eq_ok.mp (haddress ▸ hc.reached.grounded.checked conversationId v hv))
    hm hd (hmc ▸ hv) hp hs
  refine ⟨.message .chat address (stanzaId id) m.body true,
    ⟨.chat,some own.bare,some (stanzaId id),some m.body,[.request true]⟩,
    .acknowledgement ("mindchat-receipt-" ++ toString peerAccountId ++ "-" ++ toString now)
      own.bare (stanzaId id),
    ⟨.chat,some address,some ("mindchat-receipt-" ++ toString peerAccountId ++ "-" ++ toString now),
      none,[.received (some (stanzaId id))]⟩,?_,rfl,?_,rfl,?_,?_⟩
  · simp [sendableStanza,Conversation.outgoing,buildMessageStanza,haddress,hn,hkind,hid]
  · simp [receiptAcknowledgement,MessageStanza.isDirectReceiptMessage,hne,hw]
  · exact translateIncomingReceipts_receipt h₀ (hc.messageId_le hm) accountId address _
  · simp only [applyTransportEvent,hu]
    exact ⟨AList.lookup_insert _,fun k hk => AList.lookup_insert_ne hk⟩

def greetedCore : MindChatCore := ((chatWith "bob@host").sendText 1 "ada@host" "Hello" none 3).2

theorem greetedCore_reachable : Reachable greetedCore :=
  ⟨[.op (.addAccount demoSetup),.op (.openConversation 1 .direct "bob@host" "" 0),
    .op (.sendText 1 "ada@host" "Hello" none 3)],rfl⟩

theorem receipt_loop_closes_bob :
    let m : Message := ⟨1,1,"ada@host","Hello",.outgoing,.text,3,.pending,none,none⟩
    let v : Conversation := ⟨1,1,.direct,"bob@host","",0,3⟩
    ∃ stanza arrived ack back,
      sendableStanza (fun s => (foldBare s).map (fun s => ⟨s,none⟩)) (v.outgoing m) = .ok stanza ∧
      stanza.arrival ⟨"ada@host",some "phone"⟩ = some arrived ∧
      receiptAcknowledgement 4 arrived 7 = some ack ∧
      ack.arrival ⟨"bob@host",some "laptop"⟩ = some back ∧
      translateIncomingReceipts 1 back = [.deliveryUpdated 1 "bob@host" 1 .delivered] ∧
      let d := (greetedCore.applyTransportEvent (.deliveryUpdated 1 "bob@host" 1 .delivered)).2
      d.messages.lookup 1 = some { m with deliveryState := .delivered } ∧
        ∀ k, k ≠ 1 → d.messages.lookup k = greetedCore.messages.lookup k :=
  receipt_loop_closes greetedCore_reachable (by decide) rfl (by decide) rfl rfl (by decide)
    (fun s => (foldBare s).map (fun s => ⟨s,none⟩)) (by decide) ⟨"ada@host",some "phone"⟩
    (some "laptop") 4 7

end MindChat
