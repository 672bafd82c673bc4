import MindChat.FailedCalls
import MindChat.ServerRoster

/-! What each mutator writes, in the order in which its source writes it. The
records are read off the core that the call leaves. -/

namespace MindChat

open MindChatCore

/-- The writes of a record that a table holds. -/
def storing {K V : Type} [DecidableEq K] (t : Table K V) (key : K) (edits : V → List Edit) : List Edit :=
  ((t.lookup key).map edits).getD []

namespace MindChatCore

def accountEdits (d : MindChatCore) (accountId : AccountId) : List Edit :=
  storing d.accounts accountId fun account =>
    [.setAccount accountId account,.announce (.accountChanged accountId)]

def contactEdits (d : MindChatCore) (accountId : AccountId) (jid : String) : List Edit :=
  storing d.contacts (accountId,jid) fun contact => [.putContact contact,.announce (.rosterChanged accountId)]

def newConversationEdits (d : MindChatCore) (id : ConversationId) : List Edit :=
  storing d.conversations id fun v => [.newConversation v,.announce (.conversationChanged id)]

def conversationEdits (d : MindChatCore) (id : ConversationId) : List Edit :=
  storing d.conversations id fun v => [.setConversation id v,.announce (.conversationChanged id)]

def messageEdits (d : MindChatCore) (id : MessageId) : List Edit :=
  storing d.messages id fun m => [.setMessage id m,.announce (.messageChanged id)]

/-- A text is stored before its conversation is touched and announced after it. -/
def textEdits (d : MindChatCore) (id : MessageId) : List Edit :=
  storing d.messages id fun m =>
    .newMessage m :: (d.conversationEdits m.conversationId ++ [.announce (.messageAdded id)])

end MindChatCore

/-- The writes of an event; what an event of an unknown account finds is nothing. -/
def TransportEvent.edits (c : MindChatCore) (event : TransportEvent) : List Edit :=
  let d := (c.applyTransportEvent event).2
  match event with
  | .connected accountId _ | .disconnected accountId _ _ _ | .capabilitiesDiscovered accountId _ =>
    d.accountEdits accountId
  | .rosterContactUpsert accountId jid displayName subscription =>
    match (c.syncRosterContact accountId jid displayName subscription).1 with
    | .ok true => d.contactEdits accountId jid
    | _ => []
  | .rosterContactRemoved accountId jid =>
    match (c.removeContact accountId jid).1 with
    | .ok true => [.dropContact accountId jid,.announce (.rosterChanged accountId)]
    | _ => []
  | .contactPresenceUpdated accountId jid presence status =>
    match (c.updateContactPresence accountId jid presence status).1 with
    | .ok true => d.contactEdits accountId jid
    | _ => []
  | .incomingText accountId kind address _ _ receivedAt =>
    match (c.applyTransportEvent event).1 with
    | .ok (some id) =>
      let (conversationId,t) := c.targetConversation accountId kind address receivedAt
      (if (c.findConversation accountId kind address).isNone then t.newConversationEdits conversationId
        else []) ++ d.textEdits id
    | _ => []
  | .deliveryUpdated accountId sender messageId state =>
    match (c.applyDeliveryUpdate accountId sender messageId state).1 with
    | .ok true => d.messageEdits messageId
    | _ => []

/-- The writes of a mutator that succeeds and leaves `d`. -/
def CoreOp.written (c d : MindChatCore) : CoreOp → List Edit
  | addAccount _ =>
    storing d.accounts c.allocateAccountId.1 fun account =>
      [.newAccount account,.announce (.accountChanged account.id)]
  | setConnectionState accountId _ | setCapabilities accountId _
  | updateAccountDisplayName accountId _ | setAccountProxies accountId _ => d.accountEdits accountId
  | upsertContact accountId jid _ _ _ => d.contactEdits accountId jid
  | syncRosterContact accountId jid displayName subscription =>
    (TransportEvent.rosterContactUpsert accountId jid displayName subscription).edits c
  | removeContact accountId jid => (TransportEvent.rosterContactRemoved accountId jid).edits c
  | updateContactPresence accountId jid presence status =>
    (TransportEvent.contactPresenceUpdated accountId jid presence status).edits c
  | applyTransportEvent event => event.edits c
  | openConversation accountId kind address _ _ =>
    if (c.findConversation accountId kind address).isNone then
      d.newConversationEdits c.allocateConversationId.1
    else []
  | sendText _ _ _ _ _ | receiveText _ _ _ _ => d.textEdits c.allocateMessageId.1
  | attach messageId _ _ | setDeliveryState messageId _ => d.messageEdits messageId
  | addReaction _ _ _ =>
    storing d.reactions c.allocateReactionId.1 fun r =>
      [.newReaction r,.announce (.messageChanged r.messageId)]
  | markConversationRead conversationId => d.conversationEdits conversationId
  | deleteAccount accountId =>
    ((c.conversations.values.filter (fun v => v.accountId = accountId)).map Conversation.id).map
      .dropConversation ++ [.dropAccount accountId,.announce (.accountChanged accountId)]
  | deleteConversation conversationId =>
    [.dropConversation conversationId,.announce (.conversationChanged conversationId)]
  | drainEvents => [.drain]

/-- The writes of a mutator; one that fails writes nothing. -/
def CoreOp.edits (c : MindChatCore) (op : CoreOp) : List Edit :=
  if (op.error c).isSome then [] else op.written c (op.run c)

namespace MindChatCore

variable {c : MindChatCore}

theorem storing_insert {K V : Type} [DecidableEq K] (t : Table K V) (key : K) (v : V)
    (edits : V → List Edit) : storing (t.insert key v) key edits = edits v := by
  unfold storing
  rw [AList.lookup_insert]
  rfl

theorem storing_none {K V : Type} [DecidableEq K] {t : Table K V} {key : K} (h : t.lookup key = none)
    (edits : V → List Edit) : storing t key edits = [] := by
  unfold storing
  rw [h]
  rfl

/-- The writes of a call that goes on with another core. -/
abbrev replay (c : MindChatCore) (edits : List Edit) : MindChatCore := edits.foldl Edit.apply c

theorem replay_accountEdits (c : MindChatCore) (accountId : AccountId) (change : Account → Account) :
    c.replay ((c.updateAccount accountId change).2.accountEdits accountId) =
      (c.updateAccount accountId change).2 := by
  unfold updateAccount accountEdits
  cases ha : c.accounts.lookup accountId with
  | none => simp only [storing_none ha,List.foldl_nil]
  | some account => simp only [push,storing_insert,List.foldl_cons,List.foldl_nil,Edit.apply]

theorem replay_putContact (contact : Contact) {accountId : AccountId} {jid : String}
    (ha : contact.accountId = accountId) (hj : contact.jid = jid) :
    let d := { c with contacts := c.contacts.insert (accountId,jid) contact }.push (.rosterChanged accountId)
    c.replay (d.contactEdits accountId jid) = d := by
  subst ha hj
  simp only [contactEdits,push,storing_insert,List.foldl_cons,List.foldl_nil,Edit.apply]

theorem replay_insertConversation (accountId : AccountId) (kind : ConversationKind) (address title : String)
    (now : ℕ) :
    c.replay ((c.insertConversation accountId kind address title now).2.newConversationEdits
        (c.insertConversation accountId kind address title now).1) =
      (c.insertConversation accountId kind address title now).2 := by
  simp only [newConversationEdits,insertConversation,allocateConversationId,push,storing_insert,
    List.foldl_cons,List.foldl_nil,Edit.apply]

theorem replay_insertMessage {message : MessageId → Message} (hid : ∀ id, (message id).id = id)
    (hc : ∀ id, (c.conversations.lookup (message id).conversationId).isSome) (incrementUnread : Bool) :
    c.replay ((c.insertMessage message incrementUnread).2.textEdits (allocated c.nextMessageId)) =
      (c.insertMessage message incrementUnread).2 := by
  obtain ⟨v,hv⟩ := Option.isSome_iff_exists.mp (hc (allocated c.nextMessageId))
  rw [insertMessage_eq hv]
  simp only [textEdits,conversationEdits,push,storing_insert,List.cons_append,List.nil_append,
    List.foldl_cons,List.foldl_nil,Edit.apply,hid]

theorem replay_setMessage (id : MessageId) (m : Message) :
    let d := { c with messages := c.messages.insert id m }.push (.messageChanged id)
    c.replay (d.messageEdits id) = d := by
  simp only [messageEdits,push,storing_insert,List.foldl_cons,List.foldl_nil,Edit.apply]

theorem replay_setConversation (id : ConversationId) (v : Conversation) :
    let d := { c with conversations := c.conversations.insert id v }.push (.conversationChanged id)
    c.replay (d.conversationEdits id) = d := by
  simp only [conversationEdits,push,storing_insert,List.foldl_cons,List.foldl_nil,Edit.apply]

/-- A text is stored under the next message id in a conversation that is there. -/
def Inserts (c d : MindChatCore) (id : MessageId) : Prop :=
  ∃ message incrementUnread, (∀ id, (message id).id = id) ∧
    (∀ id, (c.conversations.lookup (message id).conversationId).isSome) ∧
    id = allocated c.nextMessageId ∧ d = (c.insertMessage message incrementUnread).2

theorem receiveText_inserts {conversationId : ConversationId} {sender body : String} {now : ℕ}
    {id : MessageId} {d : MindChatCore} (h : c.receiveText conversationId sender body now = (.ok id,d)) :
    c.Inserts d id := by
  unfold receiveText at h
  split at h
  · cases h
  next hc =>
  split at h
  · cases h
  next trimmed hb =>
  have hv := ensureConversation_ok.mp hc
  have hok := congrArg Prod.fst h
  rw [insertMessage_isOk hv] at hok
  cases hok
  exact ⟨_,true,fun _ => rfl,fun _ => hv,rfl,(congrArg Prod.snd h).symm⟩

theorem sendText_inserts {conversationId : ConversationId} {sender body : String}
    {inReplyTo : Option MessageId} {now : ℕ} {id : MessageId} {d : MindChatCore}
    (h : c.sendText conversationId sender body inReplyTo now = (.ok id,d)) : c.Inserts d id := by
  unfold sendText at h
  split at h
  · cases h
  next hc =>
  split at h
  · cases h
  split at h
  · cases h
  next trimmed hb =>
  have hv := ensureConversation_ok.mp hc
  have hok := congrArg Prod.fst h
  rw [insertMessage_isOk hv] at hok
  cases hok
  exact ⟨_,false,fun _ => rfl,fun _ => hv,rfl,(congrArg Prod.snd h).symm⟩

theorem Inserts.replay {d : MindChatCore} {id : MessageId} (h : c.Inserts d id) :
    id = allocated c.nextMessageId ∧ c.replay (d.textEdits id) = d := by
  obtain ⟨message,incrementUnread,hid,hc,rfl,rfl⟩ := h
  exact ⟨rfl,replay_insertMessage hid hc incrementUnread⟩

theorem replay_append (c : MindChatCore) (es fs : List Edit) :
    c.replay (es ++ fs) = (c.replay es).replay fs := List.foldl_append

theorem replay_targetConversation (accountId : AccountId) (kind : ConversationKind) (address : String)
    (now : ℕ) :
    c.replay (if (c.findConversation accountId kind address).isNone then
        (c.targetConversation accountId kind address now).2.newConversationEdits
          (c.targetConversation accountId kind address now).1 else []) =
      (c.targetConversation accountId kind address now).2 := by
  unfold targetConversation
  cases hf : c.findConversation accountId kind address with
  | some v => rfl
  | none => exact replay_insertConversation accountId kind address _ now

theorem replay_syncRosterContact {accountId : AccountId} {jid displayName : String}
    {subscription : RosterSubscription} {d : MindChatCore}
    (h : c.syncRosterContact accountId jid displayName subscription = (.ok true,d)) :
    c.replay (d.contactEdits accountId jid) = d := by
  unfold syncRosterContact at h
  split at h
  · cases h
  split at h <;> cases h
  exact replay_putContact _ rfl rfl

theorem replay_removeContact {accountId : AccountId} {jid : String} {d : MindChatCore}
    (h : c.removeContact accountId jid = (.ok true,d)) :
    c.replay [.dropContact accountId jid,.announce (.rosterChanged accountId)] = d := by
  unfold removeContact at h
  split at h
  · cases h
  split at h
  · cases h
  split at h <;> cases h
  rfl

theorem replay_updateContactPresence {accountId : AccountId} {jid : String} {presence : ContactPresence}
    {status : Option String} {d : MindChatCore}
    (hk : ∀ k t, c.contacts.lookup k = some t → (t.accountId,t.jid) = k)
    (h : c.updateContactPresence accountId jid presence status = (.ok true,d)) :
    c.replay (d.contactEdits accountId jid) = d := by
  unfold updateContactPresence at h
  split at h
  · cases h
  split at h
  · cases h
  split at h
  · cases h
  next contact hc =>
  cases h
  have hid := hk _ contact hc
  exact replay_putContact _ (congrArg Prod.fst hid) (congrArg Prod.snd hid)

theorem replay_receiveTransportText {accountId : AccountId} {kind : ConversationKind}
    {address sender body : String} {now : ℕ} {id : MessageId} {d : MindChatCore}
    (h : c.receiveTransportText accountId kind address sender body now = (.ok (some id),d)) :
    c.replay ((if (c.findConversation accountId kind address).isNone then
        (c.targetConversation accountId kind address now).2.newConversationEdits
          (c.targetConversation accountId kind address now).1
      else []) ++ d.textEdits id) = d := by
  rw [replay_append,replay_targetConversation]
  unfold receiveTransportText at h
  split at h
  · cases h
  split at h
  · cases h
  split at h
  · cases h
  dsimp only at h
  split at h <;> cases h
  next ht => exact (receiveText_inserts ht).replay.2

theorem replay_event (hk : ∀ k t, c.contacts.lookup k = some t → (t.accountId,t.jid) = k)
    (event : TransportEvent) :
    c.replay (event.edits c) = (c.applyTransportEvent event).2 := by
  cases event with
  | connected accountId | disconnected accountId => exact replay_accountEdits c accountId _
  | capabilitiesDiscovered accountId capabilities =>
    simp only [TransportEvent.edits,applyTransportEvent]
    have hr : c.replay ((c.setCapabilities accountId capabilities).2.accountEdits accountId) =
        (c.setCapabilities accountId capabilities).2 := replay_accountEdits c accountId _
    split
    · split <;> rename_i hs <;> rw [hs] at hr <;> exact hr
    · next hn =>
      rw [accountEdits,storing_none (by simpa using hn)]
      rfl
  | rosterContactUpsert accountId jid displayName subscription =>
    simp only [TransportEvent.edits,applyTransportEvent]
    rcases hs : c.syncRosterContact accountId jid displayName subscription with ⟨e | b,d⟩
    · exact ((syncRosterContact_skipped hs).resolve_right fun hk => by cases hk.1).symm
    · cases b with
      | true => exact replay_syncRosterContact hs
      | false => exact ((syncRosterContact_skipped hs).resolve_right fun hk => by cases hk.1).symm
  | rosterContactRemoved accountId jid =>
    simp only [TransportEvent.edits,applyTransportEvent]
    rcases hs : c.removeContact accountId jid with ⟨e | b,d⟩
    · exact ((removeContact_skipped hs).resolve_right fun hk => by cases hk.1).symm
    · cases b with
      | true => exact replay_removeContact hs
      | false => exact ((removeContact_skipped hs).resolve_right fun hk => by cases hk.1).symm
  | contactPresenceUpdated accountId jid presence status =>
    simp only [TransportEvent.edits,applyTransportEvent]
    rcases hs : c.updateContactPresence accountId jid presence status with ⟨e | b,d⟩
    · exact ((updateContactPresence_skipped hs).resolve_right fun hk => by cases hk.1).symm
    · cases b with
      | true => exact replay_updateContactPresence hk hs
      | false => exact ((updateContactPresence_skipped hs).resolve_right fun hk => by cases hk.1).symm
  | incomingText accountId kind address sender body now =>
    simp only [TransportEvent.edits,applyTransportEvent]
    rcases hr : c.receiveTransportText accountId kind address sender body now with ⟨e | id,d⟩
    · exact ((receiveTransportText_skipped hr).resolve_right
        fun hk => by obtain ⟨id,hk⟩ := hk; cases hk).symm
    · cases id with
      | none =>
        exact ((receiveTransportText_skipped hr).resolve_right
          fun hk => by obtain ⟨id,hk⟩ := hk; cases hk).symm
      | some id => exact replay_receiveTransportText hr
  | deliveryUpdated accountId sender messageId state =>
    simp only [TransportEvent.edits,applyTransportEvent]
    rcases applyDeliveryUpdate_cases c accountId sender messageId state with
      he | ⟨m,v,-,-,-,-,-,-,-,he⟩
    · rw [he]
      rfl
    · rw [he]
      exact replay_setMessage messageId _

theorem replay_addAccount {setup : AccountSetup} {id : AccountId} (h : (c.addAccount setup).1 = .ok id) :
    c.replay ((CoreOp.addAccount setup).written c (c.addAccount setup).2) = (c.addAccount setup).2 := by
  simp only [CoreOp.written,addAccount] at h ⊢
  split at h
  · cases h
  split at h
  · cases h
  · simp only [allocateAccountId,push,storing_insert,List.foldl_cons,List.foldl_nil,Edit.apply]

theorem replay_updateAccountDisplayName {accountId : AccountId} {displayName : String} {u : Unit}
    (h : (c.updateAccountDisplayName accountId displayName).1 = .ok u) :
    c.replay ((c.updateAccountDisplayName accountId displayName).2.accountEdits accountId) =
      (c.updateAccountDisplayName accountId displayName).2 := by
  simp only [updateAccountDisplayName] at h ⊢
  split at h
  · cases h
  · rename_i hn
    simp only [if_neg hn,replay_accountEdits]

theorem replay_upsertContact {accountId : AccountId} {jid displayName : String} {presence : ContactPresence}
    {status : Option String} {u : Unit}
    (h : (c.upsertContact accountId jid displayName presence status).1 = .ok u) :
    c.replay ((c.upsertContact accountId jid displayName presence status).2.contactEdits accountId jid) =
      (c.upsertContact accountId jid displayName presence status).2 := by
  simp only [upsertContact] at h ⊢
  split at h
  · cases h
  split at h
  · cases h
  · exact replay_putContact _ rfl rfl

theorem replay_openConversation {accountId : AccountId} {kind : ConversationKind} {address title : String}
    {now : ℕ} {id : ConversationId}
    (h : (c.openConversation accountId kind address title now).1 = .ok id) :
    c.replay ((CoreOp.openConversation accountId kind address title now).written c
        (c.openConversation accountId kind address title now).2) =
      (c.openConversation accountId kind address title now).2 := by
  obtain ⟨v,hv,hd⟩ | ⟨hn,hd⟩ := openConversation_snd h
  · simp only [CoreOp.written,hd,hv]
    rfl
  · simp only [CoreOp.written,hd,hn]
    exact replay_insertConversation accountId kind address title now

theorem replay_sendText {conversationId : ConversationId} {sender body : String}
    {inReplyTo : Option MessageId} {now : ℕ} {id : MessageId}
    (h : (c.sendText conversationId sender body inReplyTo now).1 = .ok id) :
    c.replay ((c.sendText conversationId sender body inReplyTo now).2.textEdits c.allocateMessageId.1) =
      (c.sendText conversationId sender body inReplyTo now).2 := by
  obtain ⟨hid,hs⟩ := (sendText_inserts (Prod.ext h rfl : _ = (_,_))).replay
  rwa [hid] at hs

theorem replay_receiveText {conversationId : ConversationId} {sender body : String} {now : ℕ}
    {id : MessageId} (h : (c.receiveText conversationId sender body now).1 = .ok id) :
    c.replay ((c.receiveText conversationId sender body now).2.textEdits c.allocateMessageId.1) =
      (c.receiveText conversationId sender body now).2 := by
  obtain ⟨hid,hs⟩ := (receiveText_inserts (Prod.ext h rfl : _ = (_,_))).replay
  rwa [hid] at hs

theorem replay_attach {messageId : MessageId} {kind : MessageKind} {attachment : Attachment} {u : Unit}
    (h : (c.attach messageId kind attachment).1 = .ok u) :
    c.replay ((c.attach messageId kind attachment).2.messageEdits messageId) =
      (c.attach messageId kind attachment).2 := by
  simp only [attach] at h ⊢
  split at h
  · cases h
  next hg =>
  rw [if_neg hg]
  split at h
  · cases h
  split at h
  · cases h
  · exact replay_setMessage messageId _

theorem replay_setDeliveryState {messageId : MessageId} {state : DeliveryState} {u : Unit}
    (h : (c.setDeliveryState messageId state).1 = .ok u) :
    c.replay ((c.setDeliveryState messageId state).2.messageEdits messageId) =
      (c.setDeliveryState messageId state).2 := by
  simp only [setDeliveryState] at h ⊢
  split at h
  · cases h
  · exact replay_setMessage messageId _

theorem replay_addReaction {messageId : MessageId} {actor emoji : String} {id : ReactionId}
    (h : (c.addReaction messageId actor emoji).1 = .ok id) :
    c.replay ((CoreOp.addReaction messageId actor emoji).written c
        (c.addReaction messageId actor emoji).2) = (c.addReaction messageId actor emoji).2 := by
  simp only [CoreOp.written,addReaction] at h ⊢
  split at h
  · cases h
  split at h
  · cases h
  split at h
  · cases h
  next hg =>
  simp only [if_neg hg,allocateReactionId,push,storing_insert,List.foldl_cons,List.foldl_nil,Edit.apply]

theorem replay_markConversationRead {conversationId : ConversationId} {u : Unit}
    (h : (c.markConversationRead conversationId).1 = .ok u) :
    c.replay ((c.markConversationRead conversationId).2.conversationEdits conversationId) =
      (c.markConversationRead conversationId).2 := by
  simp only [markConversationRead] at h ⊢
  split at h
  · cases h
  · exact replay_setConversation conversationId _

theorem foldl_dropConversation (ids : List ConversationId) (c : MindChatCore) :
    c.replay (ids.map .dropConversation) = ids.foldl removeConversationState c := by
  rw [replay,List.foldl_map]
  rfl

theorem replay_deleteAccount {accountId : AccountId} {u : Unit}
    (h : (c.deleteAccount accountId).1 = .ok u) :
    c.replay ((CoreOp.deleteAccount accountId).written c (c.deleteAccount accountId).2) =
      (c.deleteAccount accountId).2 := by
  simp only [CoreOp.written,deleteAccount] at h ⊢
  split at h
  · cases h
  next hg =>
  rw [if_neg hg,replay_append,foldl_dropConversation]
  rfl

theorem replay_deleteConversation {conversationId : ConversationId} {u : Unit}
    (h : (c.deleteConversation conversationId).1 = .ok u) :
    c.replay ((CoreOp.deleteConversation conversationId).written c
        (c.deleteConversation conversationId).2) = (c.deleteConversation conversationId).2 := by
  simp only [deleteConversation] at h ⊢
  split at h
  · cases h
  next hg =>
  rw [if_neg hg]
  rfl

end MindChatCore

variable {c : MindChatCore}

theorem not_failed {E A : Type} {r : Except E A} (h : ¬ (failure r).isSome) : ∃ a, r = .ok a := by
  cases r with
  | error e => exact absurd rfl h
  | ok a => exact ⟨a,rfl⟩

theorem CoreOp.replay_written (hk : ∀ k t, c.contacts.lookup k = some t → (t.accountId,t.jid) = k)
    (op : CoreOp) (he : ¬ (op.error c).isSome) : c.replay (op.written c (op.run c)) = op.run c := by
  cases op with
  | setConnectionState accountId | setCapabilities accountId | setAccountProxies accountId =>
    exact replay_accountEdits c accountId _
  | syncRosterContact | removeContact | updateContactPresence =>
    simp only [written,run]
    rw [replay_event hk]
    simp only [applyTransportEvent_snd]
  | applyTransportEvent event => exact replay_event hk event
  | drainEvents => rfl
  | addAccount =>
    simp only [error] at he
    exact (not_failed he).elim fun _ h => replay_addAccount h
  | updateAccountDisplayName =>
    simp only [error] at he
    exact (not_failed he).elim fun _ h => replay_updateAccountDisplayName h
  | upsertContact =>
    simp only [error] at he
    exact (not_failed he).elim fun _ h => replay_upsertContact h
  | openConversation =>
    simp only [error] at he
    exact (not_failed he).elim fun _ h => replay_openConversation h
  | sendText =>
    simp only [error] at he
    exact (not_failed he).elim fun _ h => replay_sendText h
  | receiveText =>
    simp only [error] at he
    exact (not_failed he).elim fun _ h => replay_receiveText h
  | attach =>
    simp only [error] at he
    exact (not_failed he).elim fun _ h => replay_attach h
  | setDeliveryState =>
    simp only [error] at he
    exact (not_failed he).elim fun _ h => replay_setDeliveryState h
  | addReaction =>
    simp only [error] at he
    exact (not_failed he).elim fun _ h => replay_addReaction h
  | markConversationRead =>
    simp only [error] at he
    exact (not_failed he).elim fun _ h => replay_markConversationRead h
  | deleteAccount =>
    simp only [error] at he
    exact (not_failed he).elim fun _ h => replay_deleteAccount h
  | deleteConversation =>
    simp only [error] at he
    exact (not_failed he).elim fun _ h => replay_deleteConversation h

/-- Every mutator comes to what it writes. -/
theorem CoreOp.replay_edits (hk : ∀ k t, c.contacts.lookup k = some t → (t.accountId,t.jid) = k)
    (op : CoreOp) : c.replay (op.edits c) = op.run c := by
  unfold edits
  split
  · next he =>
    obtain ⟨e,hs⟩ := Option.isSome_iff_exists.mp he
    rw [run_of_error hs]
    rfl
  · next he => exact op.replay_written hk he

end MindChat
