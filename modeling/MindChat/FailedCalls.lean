import MindChat.Durable

/-! A mutator of the core that returns an error, or skips its input, has changed
nothing: no record, no counter and no queued event. -/

namespace MindChat

open MindChatCore

/-- A command goes through the same mutators as everything else. -/
def MindChatCore.execute (c : MindChatCore) (command : CoreCommand) (actor : String) (now : ℕ) :
    Except CoreError (Option MessageId) × MindChatCore :=
  match command with
  | .sendText conversationId body inReplyTo =>
    match c.sendText conversationId actor body inReplyTo now with
    | (.error e,c) => (.error e,c)
    | (.ok id,c) => (.ok (some id),c)
  | .markConversationRead conversationId =>
    match c.markConversationRead conversationId with
    | (.error e,c) => (.error e,c)
    | (.ok (),c) => (.ok none,c)
  | .addReaction messageId emoji =>
    match c.addReaction messageId actor emoji with
    | (.error e,c) => (.error e,c)
    | (.ok _,c) => (.ok none,c)

def failure {E A : Type} : Except E A → Option E
  | .error e => some e
  | .ok _ => none

def CoreOp.error (c : MindChatCore) : CoreOp → Option CoreError
  | addAccount setup => failure (c.addAccount setup).1
  | setConnectionState accountId state => failure (c.setConnectionState accountId state).1
  | setCapabilities accountId capabilities => failure (c.setCapabilities accountId capabilities).1
  | upsertContact accountId jid displayName presence status =>
    failure (c.upsertContact accountId jid displayName presence status).1
  | syncRosterContact accountId jid displayName subscription =>
    failure (c.syncRosterContact accountId jid displayName subscription).1
  | removeContact accountId jid => failure (c.removeContact accountId jid).1
  | updateContactPresence accountId jid presence status =>
    failure (c.updateContactPresence accountId jid presence status).1
  | applyTransportEvent event => failure (c.applyTransportEvent event).1
  | openConversation accountId kind address title now =>
    failure (c.openConversation accountId kind address title now).1
  | sendText conversationId sender body inReplyTo now =>
    failure (c.sendText conversationId sender body inReplyTo now).1
  | receiveText conversationId sender body now => failure (c.receiveText conversationId sender body now).1
  | attach messageId kind attachment => failure (c.attach messageId kind attachment).1
  | setDeliveryState messageId state => failure (c.setDeliveryState messageId state).1
  | addReaction messageId actor emoji => failure (c.addReaction messageId actor emoji).1
  | markConversationRead conversationId => failure (c.markConversationRead conversationId).1
  | deleteAccount accountId => failure (c.deleteAccount accountId).1
  | deleteConversation conversationId => failure (c.deleteConversation conversationId).1
  | updateAccountDisplayName accountId displayName =>
    failure (c.updateAccountDisplayName accountId displayName).1
  | setAccountProxies accountId proxies => failure (c.setAccountProxies accountId proxies).1
  | drainEvents => none

/-- A receipt from the peer of a direct conversation for a message sent there. -/
def InReceiptScope (c : MindChatCore) (accountId : AccountId) (sender : String) (messageId : MessageId) :
    Prop :=
  validateJid sender = .ok () ∧ ∃ m v, c.messages.lookup messageId = some m ∧ m.direction = .outgoing ∧
    c.conversations.lookup m.conversationId = some v ∧ v.accountId = accountId ∧ v.kind = .direct ∧
    v.address = sender

/-- The event names an unknown account or an invalid address, or it is a receipt out
of scope. -/
def TransportEvent.Skipped (c : MindChatCore) (event : TransportEvent) : Prop :=
  c.accounts.lookup event.account = none ∨
    match event with
    | .rosterContactUpsert _ jid _ _ | .rosterContactRemoved _ jid | .contactPresenceUpdated _ jid _ _ =>
      validateJid jid ≠ .ok ()
    | .incomingText _ _ address _ _ _ => validateConversationAddress address ≠ .ok ()
    | .deliveryUpdated accountId sender messageId _ => ¬ InReceiptScope c accountId sender messageId
    | _ => False

def CoreOp.Skips (c : MindChatCore) : CoreOp → Prop
  | syncRosterContact accountId jid displayName subscription =>
    (c.syncRosterContact accountId jid displayName subscription).1 = .ok false
  | removeContact accountId jid => (c.removeContact accountId jid).1 = .ok false
  | updateContactPresence accountId jid presence status =>
    (c.updateContactPresence accountId jid presence status).1 = .ok false
  | applyTransportEvent event => (c.applyTransportEvent event).1 = .ok none ∧ event.Skipped c
  | _ => False

theorem eq_of_failure {E A : Type} {r : Except E A × MindChatCore} {c : MindChatCore} {e : E}
    (h : ∀ e d, r = (.error e,d) → d = c) (he : failure r.1 = some e) : r.2 = c := by
  obtain ⟨r,d⟩ := r
  cases r with
  | error e' => exact h e' d rfl
  | ok a => cases he

namespace MindChatCore

variable {c d : MindChatCore}

theorem syncRosterContact_skipped {accountId : AccountId} {jid displayName : String}
    {subscription : RosterSubscription} {r : Except CoreError Bool}
    (h : c.syncRosterContact accountId jid displayName subscription = (r,d)) :
    d = c ∨ (r = .ok true ∧ (c.accounts.lookup accountId).isSome ∧ validateJid jid = .ok ()) := by
  unfold syncRosterContact at h
  split at h
  · cases h
    exact .inl rfl
  · next ha =>
    split at h
    · cases h
      exact .inl rfl
    · next hj =>
      cases h
      exact .inr ⟨rfl,by simpa [Option.isSome_iff_ne_none] using ha,hj⟩

theorem removeContact_skipped {accountId : AccountId} {jid : String} {r : Except CoreError Bool}
    (h : c.removeContact accountId jid = (r,d)) :
    d = c ∨ (r = .ok true ∧ (c.accounts.lookup accountId).isSome ∧ validateJid jid = .ok ()) := by
  unfold removeContact at h
  split at h
  · cases h
    exact .inl rfl
  · next ha =>
    split at h
    · cases h
      exact .inl rfl
    · next hj =>
      split at h <;> cases h
      · exact .inr ⟨rfl,by simpa [Option.isSome_iff_ne_none] using ha,hj⟩
      · exact .inl rfl

theorem updateContactPresence_skipped {accountId : AccountId} {jid : String} {presence : ContactPresence}
    {status : Option String} {r : Except CoreError Bool}
    (h : c.updateContactPresence accountId jid presence status = (r,d)) :
    d = c ∨ (r = .ok true ∧ (c.accounts.lookup accountId).isSome ∧ validateJid jid = .ok ()) := by
  unfold updateContactPresence at h
  split at h
  · cases h
    exact .inl rfl
  · next ha =>
    split at h
    · cases h
      exact .inl rfl
    · next hj =>
      split at h <;> cases h
      · exact .inl rfl
      · exact .inr ⟨rfl,by simpa [Option.isSome_iff_ne_none] using ha,hj⟩

theorem applyDeliveryUpdate_skipped {accountId : AccountId} {sender : String} {messageId : MessageId}
    {state : DeliveryState} {r : Except CoreError Bool}
    (h : c.applyDeliveryUpdate accountId sender messageId state = (r,d)) :
    d = c ∨ (r = .ok true ∧ (c.accounts.lookup accountId).isSome ∧
      InReceiptScope c accountId sender messageId) := by
  unfold applyDeliveryUpdate at h
  split at h
  · cases h
    exact .inl rfl
  next hs =>
  rw [not_or] at hs
  split at h
  · cases h
    exact .inl rfl
  next m hm =>
  split at h
  · cases h
    exact .inl rfl
  next hd =>
  split at h
  · cases h
    exact .inl rfl
  next v hv =>
  split at h
  · cases h
    exact .inl rfl
  next hp =>
  split at h
  · cases h
    exact .inl rfl
  simp only [not_or,ne_eq,not_not] at hp hd
  have hjid : validateJid sender = .ok () := by
    cases hj : validateJid sender with
    | error e => rw [hj] at hs; exact absurd rfl hs.2
    | ok u => rfl
  unfold setDeliveryState at h
  simp only [hm] at h
  cases h
  exact .inr ⟨rfl,by simpa [Option.isSome_iff_ne_none] using hs.1,hjid,m,v,hm,hd,hv,hp⟩

theorem receiveText_error {conversationId : ConversationId} {sender body : String} {now : ℕ} {e : CoreError}
    (h : c.receiveText conversationId sender body now = (.error e,d)) : d = c := by
  unfold receiveText at h
  split at h
  · cases h
    rfl
  · next hc =>
    split at h
    · cases h
      rfl
    · have hok := congrArg Prod.fst h
      rw [insertMessage_isOk (ensureConversation_ok.mp hc)] at hok
      cases hok

theorem receiveText_isOk {conversationId : ConversationId} {sender body trimmed : String} {now : ℕ}
    (hc : (c.conversations.lookup conversationId).isSome) (hb : validateBody body = .ok trimmed) :
    (c.receiveText conversationId sender body now).1 = .ok (allocated c.nextMessageId) := by
  unfold receiveText
  rw [ensureConversation_ok.mpr hc]
  simp only [hb]
  exact insertMessage_isOk hc

/-- A text that is not stored changes nothing, since the checks come before the new
conversation. -/
theorem receiveTransportText_skipped {accountId : AccountId} {kind : ConversationKind}
    {address sender body : String} {now : ℕ} {r : Except CoreError (Option MessageId)}
    (h : c.receiveTransportText accountId kind address sender body now = (r,d)) :
    d = c ∨ ∃ id, r = .ok (some id) := by
  unfold receiveTransportText at h
  split at h
  · cases h
    exact .inl rfl
  split at h
  · cases h
    exact .inl rfl
  split at h
  · cases h
    exact .inl rfl
  next trimmed hb =>
  rcases ht : c.targetConversation accountId kind address now with ⟨conversationId,c'⟩
  rw [ht] at h
  dsimp only at h
  rcases hr : c'.receiveText conversationId sender body now with ⟨e | id,c''⟩
  · rw [hr] at h
    cases h
    have hsame : c' = c := by
      unfold targetConversation at ht
      split at ht
      · cases ht
        rfl
      · have hnew : (c'.conversations.lookup conversationId).isSome := by
          cases ht
          exact Option.isSome_iff_exists.mpr ⟨_,AList.lookup_insert _⟩
        have hok : (c'.receiveText conversationId sender body now).1 = _ := receiveText_isOk hnew hb
        rw [hr] at hok
        cases hok
    exact .inl ((receiveText_error hr).trans hsame)
  · rw [hr] at h
    cases h
    exact .inr ⟨id,rfl⟩

theorem attach_error {messageId : MessageId} {kind : MessageKind} {attachment : Attachment} {e : CoreError}
    (h : c.attach messageId kind attachment = (.error e,d)) : d = c := by
  unfold attach at h
  repeat' split at h
  all_goals cases h
  all_goals rfl

theorem setDeliveryState_error {messageId : MessageId} {state : DeliveryState} {e : CoreError}
    (h : c.setDeliveryState messageId state = (.error e,d)) : d = c := by
  unfold setDeliveryState at h
  split at h <;> cases h
  rfl

theorem addReaction_error {messageId : MessageId} {actor emoji : String} {e : CoreError}
    (h : c.addReaction messageId actor emoji = (.error e,d)) : d = c := by
  unfold addReaction at h
  repeat' split at h
  all_goals cases h
  all_goals rfl

theorem applyTransportEvent_error {event : TransportEvent} {e : CoreError}
    (h : c.applyTransportEvent event = (.error e,d)) : d = c := by
  cases event with
  | connected | disconnected => cases h
  | capabilitiesDiscovered accountId capabilities =>
    simp only [applyTransportEvent] at h
    split at h
    · rcases hs : c.setCapabilities accountId capabilities with ⟨e' | u,d'⟩ <;> rw [hs] at h <;> cases h
      exact updateAccount_error hs
    · cases h
  | rosterContactUpsert accountId jid displayName subscription =>
    simp only [applyTransportEvent] at h
    rcases hs : c.syncRosterContact accountId jid displayName subscription with ⟨e' | u,d'⟩ <;>
      rw [hs] at h <;> cases h
    exact (syncRosterContact_skipped hs).resolve_right fun hk => by cases hk.1
  | rosterContactRemoved accountId jid =>
    simp only [applyTransportEvent] at h
    rcases hs : c.removeContact accountId jid with ⟨e' | u,d'⟩ <;> rw [hs] at h <;> cases h
    exact (removeContact_skipped hs).resolve_right fun hk => by cases hk.1
  | contactPresenceUpdated accountId jid presence status =>
    simp only [applyTransportEvent] at h
    rcases hs : c.updateContactPresence accountId jid presence status with ⟨e' | u,d'⟩ <;>
      rw [hs] at h <;> cases h
    exact (updateContactPresence_skipped hs).resolve_right fun hk => by cases hk.1
  | incomingText accountId kind address sender body now =>
    have hr : c.receiveTransportText accountId kind address sender body now = _ := h
    refine (receiveTransportText_skipped hr).resolve_right ?_
    rintro ⟨id,hk⟩
    cases hk
  | deliveryUpdated accountId sender messageId state =>
    simp only [applyTransportEvent] at h
    rcases hs : c.applyDeliveryUpdate accountId sender messageId state with ⟨e' | u,d'⟩ <;>
      rw [hs] at h <;> cases h
    exact (applyDeliveryUpdate_skipped hs).resolve_right fun hk => by cases hk.1

theorem updateAccount_none {accountId : AccountId} {change : Account → Account}
    (h : c.accounts.lookup accountId = none) : (c.updateAccount accountId change).2 = c := by
  simp only [updateAccount,h]

theorem applyTransportEvent_skipped {event : TransportEvent} (hs : event.Skipped c)
    (h : c.applyTransportEvent event = (.ok none,d)) : d = c := by
  have known {accountId : AccountId} (hn : c.accounts.lookup accountId = none) :
      ¬ (c.accounts.lookup accountId).isSome := by rw [hn]; exact Bool.false_ne_true
  cases event with
  | connected accountId capabilities =>
    cases h
    exact updateAccount_none (hs.resolve_right id)
  | disconnected accountId recoverable detail kind =>
    cases h
    exact updateAccount_none (hs.resolve_right id)
  | capabilitiesDiscovered accountId capabilities =>
    have hn : c.accounts.lookup accountId = none := hs.resolve_right id
    simp only [applyTransportEvent,if_neg (known hn)] at h
    cases h
    rfl
  | rosterContactUpsert accountId jid displayName subscription =>
    simp only [applyTransportEvent] at h
    rcases hr : c.syncRosterContact accountId jid displayName subscription with ⟨e | u,d'⟩ <;>
      rw [hr] at h <;> cases h
    exact (syncRosterContact_skipped hr).resolve_right fun hk =>
      hs.elim (fun hn => known hn hk.2.1) fun hj => hj hk.2.2
  | rosterContactRemoved accountId jid =>
    simp only [applyTransportEvent] at h
    rcases hr : c.removeContact accountId jid with ⟨e | u,d'⟩ <;> rw [hr] at h <;> cases h
    exact (removeContact_skipped hr).resolve_right fun hk =>
      hs.elim (fun hn => known hn hk.2.1) fun hj => hj hk.2.2
  | contactPresenceUpdated accountId jid presence status =>
    simp only [applyTransportEvent] at h
    rcases hr : c.updateContactPresence accountId jid presence status with ⟨e | u,d'⟩ <;>
      rw [hr] at h <;> cases h
    exact (updateContactPresence_skipped hr).resolve_right fun hk =>
      hs.elim (fun hn => known hn hk.2.1) fun hj => hj hk.2.2
  | incomingText accountId kind address sender body now =>
    have hr : c.receiveTransportText accountId kind address sender body now = _ := h
    refine (receiveTransportText_skipped hr).resolve_right ?_
    rintro ⟨id,hk⟩
    cases hk
  | deliveryUpdated accountId sender messageId state =>
    simp only [applyTransportEvent] at h
    rcases hr : c.applyDeliveryUpdate accountId sender messageId state with ⟨e | u,d'⟩ <;>
      rw [hr] at h <;> cases h
    exact (applyDeliveryUpdate_skipped hr).resolve_right fun hk =>
      hs.elim (fun hn => known hn hk.2.1) fun ho => ho hk.2.2

end MindChatCore

variable {c : MindChatCore}

theorem CoreOp.run_of_error {op : CoreOp} {e : CoreError} (h : op.error c = some e) : op.run c = c := by
  cases op with
  | addAccount => exact eq_of_failure (fun _ _ => addAccount_error) h
  | setConnectionState | setCapabilities | setAccountProxies =>
    exact eq_of_failure (fun _ _ => updateAccount_error) h
  | upsertContact => exact eq_of_failure (fun _ _ => upsertContact_error) h
  | syncRosterContact =>
    exact eq_of_failure (fun _ _ hr => (syncRosterContact_skipped hr).resolve_right fun hk => by cases hk.1) h
  | removeContact =>
    exact eq_of_failure (fun _ _ hr => (removeContact_skipped hr).resolve_right fun hk => by cases hk.1) h
  | updateContactPresence =>
    exact eq_of_failure (fun _ _ hr => (updateContactPresence_skipped hr).resolve_right
      fun hk => by cases hk.1) h
  | applyTransportEvent => exact eq_of_failure (fun _ _ => applyTransportEvent_error) h
  | openConversation => exact eq_of_failure (fun _ _ => openConversation_error) h
  | sendText => exact eq_of_failure (fun _ _ => sendText_error) h
  | receiveText => exact eq_of_failure (fun _ _ => receiveText_error) h
  | attach => exact eq_of_failure (fun _ _ => attach_error) h
  | setDeliveryState => exact eq_of_failure (fun _ _ => setDeliveryState_error) h
  | addReaction => exact eq_of_failure (fun _ _ => addReaction_error) h
  | markConversationRead => exact eq_of_failure (fun _ _ => markConversationRead_error) h
  | deleteAccount => exact eq_of_failure (fun _ _ => deleteAccount_error) h
  | deleteConversation => exact eq_of_failure (fun _ _ => deleteConversation_error) h
  | updateAccountDisplayName => exact eq_of_failure (fun _ _ => updateAccountDisplayName_error) h
  | drainEvents => cases h

theorem CoreOp.run_of_skips {op : CoreOp} (h : op.Skips c) : op.run c = c := by
  have skipped {d : MindChatCore} {r : Except CoreError Bool} {p : Prop} (hr : r = .ok false)
      (hs : d = c ∨ (r = .ok true ∧ p)) : d = c :=
    hs.resolve_right fun hk => by rw [hr] at hk; cases hk.1
  cases op with
  | syncRosterContact => exact skipped h (syncRosterContact_skipped Prod.mk.eta.symm)
  | removeContact => exact skipped h (removeContact_skipped Prod.mk.eta.symm)
  | updateContactPresence => exact skipped h (updateContactPresence_skipped Prod.mk.eta.symm)
  | applyTransportEvent event =>
    have hr : c.applyTransportEvent event = (.ok none,(c.applyTransportEvent event).2) := Prod.ext h.1 rfl
    exact applyTransportEvent_skipped h.2 hr
  | _ => exact h.elim

theorem execute_error {command : CoreCommand} {actor : String} {now : ℕ} {e : CoreError}
    (h : (c.execute command actor now).1 = .error e) : (c.execute command actor now).2 = c := by
  cases command with
  | sendText conversationId body inReplyTo =>
    simp only [execute] at h ⊢
    rcases hr : c.sendText conversationId actor body inReplyTo now with ⟨e' | id,d⟩ <;> rw [hr] at h
    · exact sendText_error hr
    · cases h
  | markConversationRead conversationId =>
    simp only [execute] at h ⊢
    rcases hr : c.markConversationRead conversationId with ⟨e' | u,d⟩ <;> rw [hr] at h
    · exact markConversationRead_error hr
    · cases h
  | addReaction messageId emoji =>
    simp only [execute] at h ⊢
    rcases hr : c.addReaction messageId actor emoji with ⟨e' | id,d⟩ <;> rw [hr] at h
    · exact addReaction_error hr
    · cases h

/-- In every core, a mutator or a command that returns an error, and one that skips
its input, leaves the core exactly as it was. -/
theorem failed_calls_change_nothing (c : MindChatCore) :
    (∀ (op : CoreOp) (e : CoreError), op.error c = some e → op.run c = c) ∧
      (∀ op : CoreOp, op.Skips c → op.run c = c) ∧
      ∀ (command : CoreCommand) (actor : String) (now : ℕ) (e : CoreError),
        (c.execute command actor now).1 = .error e → (c.execute command actor now).2 = c :=
  ⟨fun _ _ => CoreOp.run_of_error,fun _ => CoreOp.run_of_skips,fun _ _ _ _ => execute_error⟩

/-- An incoming text without a body from a new peer, presence of a stranger and a
command for an unknown message. -/
theorem failed_calls_change_nothing_demo :
    (CoreOp.applyTransportEvent (.incomingText 1 .direct "eve@host" "eve@host" "  " 20)).run demoCore =
        demoCore ∧
      (CoreOp.updateContactPresence 1 "eve@host" .online none).run demoCore = demoCore ∧
      (demoCore.execute (.addReaction 9 "+") "ada@host" 20).2 = demoCore :=
  have h := failed_calls_change_nothing demoCore
  ⟨h.1 _ .emptyMessage (by decide +kernel),h.2.1 _ (by decide +kernel : _ = _),
    h.2.2 _ _ _ (.unknownMessage 9) (by decide +kernel)⟩

end MindChat
