import MindChat.Integrity

/-! Every mutator of the core is a run of legal edits. Transport events make
only the edits their account, their sender and the delivery order allow. -/

namespace MindChat

/-- The queued notification names the account or a record it owns. -/
def CoreEvent.RefersTo (c : MindChatCore) (accountId : AccountId) : CoreEvent → Prop
  | .accountChanged id => id = accountId
  | .rosterChanged id => id = accountId
  | .conversationChanged id =>
    ∃ v, c.conversations.lookup id = some v ∧ v.accountId = accountId
  | .messageAdded id | .messageChanged id =>
    ∃ m v, c.messages.lookup id = some m ∧ c.conversations.lookup m.conversationId = some v ∧
      v.accountId = accountId

/-- The edits an event may cause in a core. -/
def TransportEvent.Allows (event : TransportEvent) (c : MindChatCore) : Edit → Prop
  | .setAccount key _ => key = event.account
  | .putContact contact => contact.accountId = event.account
  | .dropContact accountId _ => accountId = event.account
  | .newConversation conversation => conversation.accountId = event.account
  | .setConversation _ conversation => conversation.accountId = event.account
  | .newMessage message => message.direction = .incoming ∧
      ∃ v, c.conversations.lookup message.conversationId = some v ∧ v.accountId = event.account
  | .setMessage key message => ∃ sender state old v,
      event = .deliveryUpdated event.account sender key state ∧
      c.messages.lookup key = some old ∧ message = { old with deliveryState := state } ∧
      old.direction = .outgoing ∧ deliveryRank old.deliveryState < deliveryRank state ∧
      c.conversations.lookup old.conversationId = some v ∧ v.accountId = event.account ∧
      v.kind = .direct ∧ v.address = sender
  | .announce e => e.RefersTo c event.account
  | _ => False

/-- The peer of a conversation: its account, its kind and its address. -/
def Conversation.peer (v : Conversation) : AccountId × ConversationKind × String :=
  (v.accountId,v.kind,v.address)

def AnyEdit (_ : MindChatCore) (_ : Edit) : Prop := True

/-- A new conversation has a checked address at which its account has none yet. -/
def Edit.Opening (c : MindChatCore) : Edit → Prop
  | .newConversation conversation =>
    validateConversationAddress conversation.address = .ok () ∧
      c.findConversation conversation.accountId conversation.kind conversation.address = none
  | _ => True

def TransportEvent.Makes (event : TransportEvent) (c : MindChatCore) (edit : Edit) : Prop :=
  event.Allows c edit ∧ edit.Opening c

namespace MindChatCore

variable {bounded : Prop} {cond : MindChatCore → Edit → Prop} {c : MindChatCore}

theorem updateAccount_edited {accountId : AccountId} {change : Account → Account}
    (hid : ∀ a, (change a).id = a.id)
    (hs : ∀ c account, cond c (.setAccount accountId account))
    (ha : ∀ c, cond c (.announce (.accountChanged accountId))) :
    Edited bounded cond c (c.updateAccount accountId change).2 := by
  unfold updateAccount
  cases h : c.accounts.lookup accountId with
  | none => exact .refl c
  | some account =>
    exact (Edited.one (.setAccount accountId (change account)) (hs _ _) ⟨account,h,hid account⟩).step
      (.announce (.accountChanged accountId)) (ha _) trivial

theorem putContact_edited {contact : Contact} (ho : (c.accounts.lookup contact.accountId).isSome)
    (hp : cond c (.putContact contact))
    (ha : ∀ c, cond c (.announce (.rosterChanged contact.accountId))) :
    Edited bounded cond c ({ c with
      contacts := c.contacts.insert (contact.accountId,contact.jid) contact }.push
        (.rosterChanged contact.accountId)) :=
  (Edited.one (.putContact contact) hp ho).step (.announce (.rosterChanged contact.accountId))
    (ha _) trivial

theorem openConversation_ok {accountId : AccountId} {kind : ConversationKind} {address title : String}
    {now : ℕ} {id : ConversationId} {d : MindChatCore}
    (h : c.openConversation accountId kind address title now = (.ok id,d)) :
    (validateConversationAddress address = .ok () ∧ ∃ account, c.accounts.lookup accountId = some account ∧
      ¬ (kind = .multiUserChat ∧ .multiUserChat ∉ account.capabilities)) ∧
    ((∃ v, c.findConversation accountId kind address = some v ∧ id = v.id ∧ d = c) ∨
      c.findConversation accountId kind address = none ∧
        (id,d) = c.insertConversation accountId kind address title now) := by
  unfold openConversation at h
  split at h
  · cases h
  next hs =>
  split at h
  · cases h
  next account ha =>
  split at h
  · cases h
  next hk =>
  refine ⟨⟨hs,account,ha,hk⟩,?_⟩
  split at h
  · next v hv =>
    cases h
    exact .inl ⟨v,hv,rfl,rfl⟩
  · next hn =>
    cases h
    exact .inr ⟨hn,rfl⟩

theorem openConversation_snd {accountId : AccountId} {kind : ConversationKind} {address title : String}
    {now : ℕ} {id : ConversationId} (h : (c.openConversation accountId kind address title now).1 = .ok id) :
    (∃ v, c.findConversation accountId kind address = some v ∧
      (c.openConversation accountId kind address title now).2 = c) ∨
    c.findConversation accountId kind address = none ∧
      (c.openConversation accountId kind address title now).2 =
        (c.insertConversation accountId kind address title now).2 := by
  generalize hp : c.openConversation accountId kind address title now = p at h
  obtain ⟨r,d⟩ := p
  obtain rfl : r = .ok id := h
  obtain ⟨-,⟨v,hv,-,hd⟩ | ⟨hn,hd⟩⟩ := openConversation_ok hp
  · exact .inl ⟨v,hv,hd⟩
  · exact .inr ⟨hn,congrArg Prod.snd hd⟩

theorem insertConversation_edited {accountId : AccountId} {kind : ConversationKind}
    {address title : String} {now : ℕ} (hf : bounded → c.nextConversationId < u64Max)
    (ho : (c.accounts.lookup accountId).isSome)
    (hn : ∀ v : Conversation, v.accountId = accountId → v.kind = kind → v.address = address →
      cond c (.newConversation v))
    (ha : ∀ d id v, d.conversations.lookup id = some v → v.accountId = accountId →
      cond d (.announce (.conversationChanged id))) :
    Edited bounded cond c (c.insertConversation accountId kind address title now).2 := by
  let v : Conversation :=
    { id := allocated c.nextConversationId, accountId := accountId, kind := kind,
      address := address, title := title, unreadCount := 0, lastActivityEpochMs := now }
  refine (Edited.one (.newConversation v) (hn v rfl rfl rfl) ⟨hf,rfl,ho⟩).step
    (.announce (.conversationChanged v.id)) ?_ trivial
  exact ha _ v.id v (AList.lookup_insert _) rfl

/-- The spec of the shared tail of sending and receiving. -/
theorem insertMessage_eq {message : MessageId → Message} {incrementUnread : Bool} {v : Conversation}
    (hv : c.conversations.lookup (message (allocated c.nextMessageId)).conversationId = some v) :
    c.insertMessage message incrementUnread =
      let m := message (allocated c.nextMessageId)
      let w := { v with
        lastActivityEpochMs := m.sentAtEpochMs
        unreadCount := if incrementUnread then u32SaturatingSucc v.unreadCount else v.unreadCount }
      (.ok (allocated c.nextMessageId),
        (({ c with
            nextMessageId := u64Succ (allocated c.nextMessageId)
            messages := c.messages.insert (allocated c.nextMessageId) m
            conversations := c.conversations.insert m.conversationId w }.push
          (.conversationChanged m.conversationId)).push
            (.messageAdded (allocated c.nextMessageId)))) := by
  simp [insertMessage,allocateMessageId,touchConversation,hv,push]

theorem insertMessage_edited {message : MessageId → Message} {incrementUnread : Bool}
    {v : Conversation} (hf : bounded → c.nextMessageId < u64Max)
    (hid : ∀ id, (message id).id = id)
    (hv : c.conversations.lookup (message (allocated c.nextMessageId)).conversationId = some v)
    (hr : c.checkReply (message (allocated c.nextMessageId)).conversationId
      (message (allocated c.nextMessageId)).inReplyTo = .ok ())
    (hn : cond c (.newMessage (message (allocated c.nextMessageId))))
    (hs : ∀ d key w, w.accountId = v.accountId → cond d (.setConversation key w))
    (hc : ∀ d id w, d.conversations.lookup id = some w → w.accountId = v.accountId →
      cond d (.announce (.conversationChanged id)))
    (ha : ∀ d id m w, d.messages.lookup id = some m →
      d.conversations.lookup m.conversationId = some w → w.accountId = v.accountId →
      cond d (.announce (.messageAdded id))) :
    Edited bounded cond c (c.insertMessage message incrementUnread).2 := by
  rw [insertMessage_eq hv]
  have hm := hid (allocated c.nextMessageId)
  set m := message (allocated c.nextMessageId)
  set w : Conversation := { v with
    lastActivityEpochMs := m.sentAtEpochMs
    unreadCount := if incrementUnread then u32SaturatingSucc v.unreadCount else v.unreadCount }
  have h₁ : Edited bounded cond c ((Edit.newMessage m).apply c) :=
    .one _ hn ⟨hf,hm,by simp [hv],hr⟩
  have h₂ := h₁.step (.setConversation m.conversationId w) (hs _ _ w rfl) ⟨v,hv,rfl,rfl,rfl,rfl⟩
  have h₃ := h₂.step (.announce (.conversationChanged m.conversationId))
    (hc _ _ w (AList.lookup_insert _) rfl) trivial
  have h₄ := h₃.step (.announce (.messageAdded m.id))
    (ha _ _ m w (AList.lookup_insert _) (AList.lookup_insert _) rfl) trivial
  rw [hm] at h₄
  simpa only [Edit.apply,hm] using h₄

theorem syncRosterContact_edited {accountId : AccountId} {jid displayName : String}
    {subscription : RosterSubscription}
    (hp : ∀ t : Contact, t.accountId = accountId → cond c (.putContact t))
    (ha : ∀ c, cond c (.announce (.rosterChanged accountId))) :
    Edited bounded cond c (c.syncRosterContact accountId jid displayName subscription).2 := by
  unfold syncRosterContact
  split
  · exact .refl c
  · rename_i ho
    have ho : (c.accounts.lookup accountId).isSome := by
      simpa [Option.isSome_iff_ne_none] using ho
    split
    · exact .refl c
    · let contact : Contact :=
        { accountId := accountId, jid := jid, displayName := normalizeContactName displayName jid,
          presence := ((c.contacts.lookup (accountId,jid)).map Contact.presence).getD .offline,
          status := (c.contacts.lookup (accountId,jid)).bind Contact.status,
          subscription := subscription }
      exact putContact_edited (show (c.accounts.lookup contact.accountId).isSome from ho) (hp _ rfl) ha

theorem removeContact_edited {accountId : AccountId} {jid : String}
    (hd : cond c (.dropContact accountId jid))
    (ha : ∀ c, cond c (.announce (.rosterChanged accountId))) :
    Edited bounded cond c (c.removeContact accountId jid).2 := by
  unfold removeContact
  split
  · exact .refl c
  · split
    · exact .refl c
    · split
      · exact (Edited.one (.dropContact accountId jid) hd trivial).step
          (.announce (.rosterChanged accountId)) (ha _) trivial
      · exact .refl c

theorem updateContactPresence_edited (hk : ContactsKeyed c) {accountId : AccountId} {jid : String}
    {presence : ContactPresence} {status : Option String}
    (hp : ∀ t : Contact, t.accountId = accountId → cond c (.putContact t))
    (ha : ∀ c, cond c (.announce (.rosterChanged accountId))) :
    Edited bounded cond c (c.updateContactPresence accountId jid presence status).2 := by
  unfold updateContactPresence
  split
  · exact .refl c
  · rename_i ho
    have ho : (c.accounts.lookup accountId).isSome := by
      simpa [Option.isSome_iff_ne_none] using ho
    split
    · exact .refl c
    · split
      · exact .refl c
      · rename_i contact hc
        obtain ⟨rfl,rfl⟩ := Prod.mk.inj (hk _ _ hc)
        let updated : Contact := { contact with presence := presence, status := normalizeStatus status }
        have ho : (c.accounts.lookup updated.accountId).isSome := ho
        exact putContact_edited ho (hp _ rfl) ha

theorem findConversation_eq_none {accountId : AccountId} {kind : ConversationKind} {address : String} :
    c.findConversation accountId kind address = none ↔
      ∀ k v, c.conversations.lookup k = some v → v.peer ≠ (accountId,kind,address) := by
  unfold findConversation
  rw [List.find?_eq_none]
  simp only [Table.mem_values,Conversation.peer,ne_eq,Prod.mk.injEq,decide_eq_true_eq]
  constructor
  · exact fun h k v hv => h v ⟨k,hv⟩
  · rintro h v ⟨k,hv⟩
    exact h k v hv

theorem findConversation_some (hk : ∀ k v, c.conversations.lookup k = some v → v.id = k) {accountId : AccountId} {kind : ConversationKind}
    {address : String} {v : Conversation} (h : c.findConversation accountId kind address = some v) :
    c.conversations.lookup v.id = some v ∧ v.accountId = accountId ∧ v.kind = kind ∧
      v.address = address := by
  have hm := List.mem_of_find?_eq_some h
  have hp := List.find?_some h
  obtain ⟨k,hv⟩ := Table.mem_values.mp hm
  rw [hk k v hv]
  exact ⟨hv,by simpa using hp⟩

theorem receiveText_edited {event : TransportEvent} {conversationId : ConversationId}
    {sender body : String} {now : ℕ} {v : Conversation} (hf : bounded → c.nextMessageId < u64Max)
    (hv : c.conversations.lookup conversationId = some v) (ha : v.accountId = event.account) :
    Edited bounded event.Makes c (c.receiveText conversationId sender body now).2 := by
  unfold receiveText
  split
  · exact .refl c
  · split
    · exact .refl c
    · refine insertMessage_edited hf (fun _ => rfl) hv rfl ⟨⟨rfl,v,hv,ha⟩,trivial⟩ ?_ ?_ ?_
      · exact fun d key w hw => ⟨hw.trans ha,trivial⟩
      · exact fun d id w h hw => ⟨⟨w,h,hw.trans ha⟩,trivial⟩
      · exact fun d id m w hm h hw => ⟨⟨m,w,hm,h,hw.trans ha⟩,trivial⟩

theorem targetConversation_edited (hi : Filed c) (hf : bounded → c.CountersBelowMax)
    (event : TransportEvent) {accountId : AccountId} (hev : event.account = accountId)
    {kind : ConversationKind} {address : String} {receivedAt : ℕ}
    (ho : (c.accounts.lookup accountId).isSome)
    (hv : validateConversationAddress address = .ok ()) {id : ConversationId} {d : MindChatCore}
    (h : c.targetConversation accountId kind address receivedAt = (id,d)) :
    Edited bounded event.Makes c d ∧ d.nextMessageId = c.nextMessageId ∧
      ∃ v, d.conversations.lookup id = some v ∧ v.accountId = accountId := by
  unfold targetConversation at h
  split at h
  · rename_i v hs
    cases h
    obtain ⟨hl,ha,-,-⟩ := findConversation_some hi.conversationKey hs
    exact ⟨.refl c,rfl,v,hl,ha⟩
  · rename_i hn
    have he : Edited bounded event.Makes c (c.insertConversation accountId kind address
        (Text.before '@' address) receivedAt).2 :=
      insertConversation_edited (fun hb => (hf hb).2.1) ho
        (fun v h₁ h₂ h₃ => ⟨h₁.trans hev.symm,by rw [h₃]; exact hv,by rw [h₁,h₂,h₃]; exact hn⟩)
        (fun d id v h hv => ⟨⟨v,h,hv.trans hev.symm⟩,trivial⟩)
    rw [h] at he
    cases h
    exact ⟨he,rfl,_,AList.lookup_insert _,rfl⟩

theorem receiveTransportText_edited (hi : Filed c) (hf : bounded → c.CountersBelowMax)
    (event : TransportEvent) {accountId : AccountId} (hev : event.account = accountId)
    {kind : ConversationKind} {address sender body : String} {receivedAt : ℕ} :
    Edited bounded event.Makes c
      (c.receiveTransportText accountId kind address sender body receivedAt).2 := by
  unfold receiveTransportText
  split
  · exact .refl c
  · rename_i ho
    have ho : (c.accounts.lookup accountId).isSome := by
      simpa [Option.isSome_iff_ne_none] using ho
    split
    · exact .refl c
    · rename_i hv
      split
      · exact .refl c
      · cases ht : c.targetConversation accountId kind address receivedAt with
        | mk id d =>
          obtain ⟨he,hn,v,hl,ha⟩ := targetConversation_edited hi hf event hev ho hv ht
          have h : Edited bounded event.Makes d (d.receiveText id sender body receivedAt).2 :=
            receiveText_edited (fun hb => hn ▸ (hf hb).2.2.1) hl (ha.trans hev.symm)
          dsimp only
          cases hr : d.receiveText id sender body receivedAt with
          | mk result e =>
            rw [hr] at h
            cases result <;> exact he.trans h

/-- A receipt is ignored, or it raises the state of an outgoing message in the
direct conversation with its sender. -/
theorem applyDeliveryUpdate_cases (c : MindChatCore) (accountId : AccountId) (sender : String)
    (messageId : MessageId) (state : DeliveryState) :
    c.applyDeliveryUpdate accountId sender messageId state = (.ok false,c) ∨
    ∃ m v, c.messages.lookup messageId = some m ∧ m.direction = .outgoing ∧
      c.conversations.lookup m.conversationId = some v ∧ v.accountId = accountId ∧
      v.kind = .direct ∧ v.address = sender ∧ deliveryRank m.deliveryState < deliveryRank state ∧
      c.applyDeliveryUpdate accountId sender messageId state =
        (.ok true,{ c with
          messages := c.messages.insert messageId { m with deliveryState := state } }.push
            (.messageChanged messageId)) := by
  unfold applyDeliveryUpdate
  split
  · exact .inl rfl
  split
  · exact .inl rfl
  rename_i m hm
  split
  · exact .inl rfl
  rename_i hd
  split
  · exact .inl rfl
  rename_i v hv
  split
  · exact .inl rfl
  rename_i hs
  split
  · exact .inl rfl
  rename_i hr
  simp only [ne_eq,not_or,not_not] at hs hd
  obtain ⟨ha,hk,had⟩ := hs
  refine .inr ⟨m,v,hm,hd,hv,ha,hk,had,by omega,?_⟩
  simp only [setDeliveryState,hm]

theorem applyDeliveryUpdate_edited {accountId : AccountId} {sender : String} {messageId : MessageId}
    {state : DeliveryState} :
    Edited bounded (TransportEvent.deliveryUpdated accountId sender messageId state).Makes c
      (c.applyDeliveryUpdate accountId sender messageId state).2 := by
  rcases applyDeliveryUpdate_cases c accountId sender messageId state with
    h | ⟨m,v,hm,hd,hv,ha,hk,had,hr,h⟩
  · rw [h]
    exact .refl c
  · rw [h]
    refine (Edited.one (.setMessage messageId { m with deliveryState := state }) ?_ ?_).step
      (.announce (.messageChanged messageId)) ?_ trivial
    · exact ⟨⟨sender,state,m,v,rfl,hm,rfl,hd,hr,hv,ha,hk,had⟩,trivial⟩
    · exact ⟨m,hm,rfl,rfl,rfl,rfl⟩
    · exact ⟨⟨_,v,AList.lookup_insert _,hv,ha⟩,trivial⟩

theorem applyTransportEvent_makes (hi : Filed c) (hf : bounded → c.CountersBelowMax)
    (event : TransportEvent) : Edited bounded event.Makes c (c.applyTransportEvent event).2 := by
  cases event with
  | connected accountId capabilities =>
    exact updateAccount_edited (fun _ => rfl) (fun _ _ => ⟨rfl,trivial⟩) (fun _ => ⟨rfl,trivial⟩)
  | disconnected accountId recoverable detail kind =>
    exact updateAccount_edited (fun _ => rfl) (fun _ _ => ⟨rfl,trivial⟩) (fun _ => ⟨rfl,trivial⟩)
  | capabilitiesDiscovered accountId capabilities =>
    simp only [applyTransportEvent]
    split
    · have h : Edited bounded (TransportEvent.capabilitiesDiscovered accountId capabilities).Makes c
          (c.setCapabilities accountId capabilities).2 :=
        updateAccount_edited (fun _ => rfl) (fun _ _ => ⟨rfl,trivial⟩) (fun _ => ⟨rfl,trivial⟩)
      split <;> simp_all
    · exact .refl c
  | rosterContactUpsert accountId jid displayName subscription =>
    have h : Edited bounded (TransportEvent.rosterContactUpsert accountId jid displayName subscription).Makes c
        (c.syncRosterContact accountId jid displayName subscription).2 :=
      syncRosterContact_edited (fun _ h => ⟨h,trivial⟩) (fun _ => ⟨rfl,trivial⟩)
    simp only [applyTransportEvent]
    split <;> simp_all
  | rosterContactRemoved accountId jid =>
    have h : Edited bounded (TransportEvent.rosterContactRemoved accountId jid).Makes c
        (c.removeContact accountId jid).2 :=
      removeContact_edited ⟨rfl,trivial⟩ (fun _ => ⟨rfl,trivial⟩)
    simp only [applyTransportEvent]
    split <;> simp_all
  | contactPresenceUpdated accountId jid presence status =>
    have h : Edited bounded (TransportEvent.contactPresenceUpdated accountId jid presence status).Makes c
        (c.updateContactPresence accountId jid presence status).2 :=
      updateContactPresence_edited hi.contactKey (fun _ h => ⟨h,trivial⟩) (fun _ => ⟨rfl,trivial⟩)
    simp only [applyTransportEvent]
    split <;> simp_all
  | incomingText accountId kind address sender body receivedAt =>
    simp only [applyTransportEvent]
    exact receiveTransportText_edited hi hf _ rfl
  | deliveryUpdated accountId sender messageId state =>
    have h : Edited bounded (TransportEvent.deliveryUpdated accountId sender messageId state).Makes c
        (c.applyDeliveryUpdate accountId sender messageId state).2 :=
      applyDeliveryUpdate_edited
    simp only [applyTransportEvent]
    split <;> simp_all

/-- A transport event makes only edits it allows. -/
theorem applyTransportEvent_edited (hi : Keyed c) (hf : c.CountersBelowMax)
    (event : TransportEvent) : Edited True event.Allows c (c.applyTransportEvent event).2 :=
  (applyTransportEvent_makes hi.filed (fun _ => hf) event).weaken (fun _ _ h => h.1)

end MindChatCore
end MindChat
