import MindChat.Mutators
import MindChat.Restart

/-! Whole runs of the core: its public mutators, restarts from its own snapshot,
and the states they reach while no id counter has reached `u64::MAX`. -/

namespace MindChat

open MindChatCore

inductive CoreOp
  | addAccount (setup : AccountSetup)
  | setConnectionState (accountId : AccountId) (state : ConnectionState)
  | setCapabilities (accountId : AccountId) (capabilities : Finset ProtocolCapability)
  | upsertContact (accountId : AccountId) (jid displayName : String) (presence : ContactPresence)
      (status : Option String)
  | syncRosterContact (accountId : AccountId) (jid displayName : String)
      (subscription : RosterSubscription)
  | removeContact (accountId : AccountId) (jid : String)
  | updateContactPresence (accountId : AccountId) (jid : String) (presence : ContactPresence)
      (status : Option String)
  | applyTransportEvent (event : TransportEvent)
  | openConversation (accountId : AccountId) (kind : ConversationKind) (address title : String)
      (now : ℕ)
  | sendText (conversationId : ConversationId) (sender body : String)
      (inReplyTo : Option MessageId) (now : ℕ)
  | receiveText (conversationId : ConversationId) (sender body : String) (now : ℕ)
  | attach (messageId : MessageId) (kind : MessageKind) (attachment : Attachment)
  | setDeliveryState (messageId : MessageId) (state : DeliveryState)
  | addReaction (messageId : MessageId) (actor emoji : String)
  | markConversationRead (conversationId : ConversationId)
  | deleteAccount (accountId : AccountId)
  | deleteConversation (conversationId : ConversationId)
  | updateAccountDisplayName (accountId : AccountId) (displayName : String)
  | setAccountProxies (accountId : AccountId) (proxies : List ProxyConfig)
  | drainEvents

/-- The core after a mutator, whatever it returned. -/
def CoreOp.run (c : MindChatCore) : CoreOp → MindChatCore
  | addAccount setup => (c.addAccount setup).2
  | setConnectionState accountId state => (c.setConnectionState accountId state).2
  | setCapabilities accountId capabilities => (c.setCapabilities accountId capabilities).2
  | upsertContact accountId jid displayName presence status =>
    (c.upsertContact accountId jid displayName presence status).2
  | syncRosterContact accountId jid displayName subscription =>
    (c.syncRosterContact accountId jid displayName subscription).2
  | removeContact accountId jid => (c.removeContact accountId jid).2
  | updateContactPresence accountId jid presence status =>
    (c.updateContactPresence accountId jid presence status).2
  | applyTransportEvent event => (c.applyTransportEvent event).2
  | openConversation accountId kind address title now =>
    (c.openConversation accountId kind address title now).2
  | sendText conversationId sender body inReplyTo now =>
    (c.sendText conversationId sender body inReplyTo now).2
  | receiveText conversationId sender body now => (c.receiveText conversationId sender body now).2
  | attach messageId kind attachment => (c.attach messageId kind attachment).2
  | setDeliveryState messageId state => (c.setDeliveryState messageId state).2
  | addReaction messageId actor emoji => (c.addReaction messageId actor emoji).2
  | markConversationRead conversationId => (c.markConversationRead conversationId).2
  | deleteAccount accountId => (c.deleteAccount accountId).2
  | deleteConversation conversationId => (c.deleteConversation conversationId).2
  | updateAccountDisplayName accountId displayName =>
    (c.updateAccountDisplayName accountId displayName).2
  | setAccountProxies accountId proxies => (c.setAccountProxies accountId proxies).2
  | drainEvents => c.drainEvents.2

namespace MindChatCore

variable {bounded : Prop} {c : MindChatCore}

theorem updateAccount_any {accountId : AccountId} {change : Account → Account}
    (hid : ∀ a, (change a).id = a.id) : Edited bounded Edit.Opening c (c.updateAccount accountId change).2 :=
  updateAccount_edited hid (fun _ _ => trivial) (fun _ => trivial)

theorem setConnectionState_any {accountId : AccountId} {state : ConnectionState} :
    Edited bounded Edit.Opening c (c.setConnectionState accountId state).2 := by
  refine updateAccount_any (fun a => ?_)
  split <;> rfl

theorem addAccount_any (hf : bounded → c.CountersBelowMax) {setup : AccountSetup} :
    Edited bounded Edit.Opening c (c.addAccount setup).2 := by
  unfold addAccount
  split
  · exact .refl c
  · split
    · exact .refl c
    · let account : Account :=
        { id := allocated c.nextAccountId, jid := setup.jid, server := setup.server,
          displayName := setup.displayName, connectionState := .offline, capabilities := ∅,
          connectionError := none, disconnectKind := none, autoReconnect := true, proxies := [] }
      exact (Edited.one (.newAccount account) trivial ⟨fun hb => (hf hb).1,rfl⟩).step
        (.announce (.accountChanged account.id)) trivial trivial

theorem upsertContact_any {accountId : AccountId} {jid displayName : String}
    {presence : ContactPresence} {status : Option String} :
    Edited bounded Edit.Opening c (c.upsertContact accountId jid displayName presence status).2 := by
  unfold upsertContact ensureAccount
  by_cases ho : (c.accounts.lookup accountId).isSome
  · simp only [ho,if_true]
    split
    · exact .refl c
    · let contact : Contact :=
        { accountId := accountId, jid := jid, displayName := normalizeContactName displayName jid,
          presence := presence, status := normalizeStatus status, subscription := .none }
      exact putContact_edited (show (c.accounts.lookup contact.accountId).isSome from ho)
        trivial (fun _ => trivial)
  · simp only [ho]
    exact .refl c

theorem openConversation_any (hf : bounded → c.CountersBelowMax) {accountId : AccountId}
    {kind : ConversationKind} {address title : String} {now : ℕ} :
    Edited bounded Edit.Opening c (c.openConversation accountId kind address title now).2 := by
  unfold openConversation
  split
  · exact .refl c
  · rename_i hv
    split
    · exact .refl c
    · rename_i account ha
      split
      · exact .refl c
      · split
        · exact .refl c
        · rename_i hn
          exact insertConversation_edited (fun hb => (hf hb).2.1) (by simp [ha])
            (fun v h₁ h₂ h₃ => ⟨by rw [h₃]; exact hv,by rw [h₁,h₂,h₃]; exact hn⟩)
            (fun _ _ _ _ _ => trivial)

theorem ensureConversation_ok {conversationId : ConversationId} :
    c.ensureConversation conversationId = .ok () ↔
      (c.conversations.lookup conversationId).isSome := by
  unfold ensureConversation
  split <;> simp_all

theorem sendText_edited {cond : MindChatCore → Edit → Prop} (hf : bounded → c.nextMessageId < u64Max)
    {conversationId : ConversationId} {sender body : String} {inReplyTo : Option MessageId} {now : ℕ}
    (hn : ∀ m, cond c (.newMessage m)) (hs : ∀ d key v, cond d (.setConversation key v))
    (ha : ∀ d e, cond d (.announce e)) :
    Edited bounded cond c (c.sendText conversationId sender body inReplyTo now).2 := by
  unfold sendText
  split
  · exact .refl c
  · rename_i hv
    obtain ⟨v,hv⟩ := Option.isSome_iff_exists.mp (ensureConversation_ok.mp hv)
    split
    · exact .refl c
    · rename_i hr
      split
      · exact .refl c
      · exact insertMessage_edited hf (fun _ => rfl) hv hr (hn _) (fun _ _ _ _ => hs _ _ _)
          (fun _ _ _ _ _ => ha _ _) (fun _ _ _ _ _ _ _ => ha _ _)

theorem receiveText_any (hf : bounded → c.CountersBelowMax) {conversationId : ConversationId}
    {sender body : String} {now : ℕ} :
    Edited bounded Edit.Opening c (c.receiveText conversationId sender body now).2 := by
  unfold receiveText
  split
  · exact .refl c
  · rename_i hv
    obtain ⟨v,hv⟩ := Option.isSome_iff_exists.mp (ensureConversation_ok.mp hv)
    split
    · exact .refl c
    · exact insertMessage_edited (fun hb => (hf hb).2.2.1) (fun _ => rfl) hv rfl trivial (fun _ _ _ _ => trivial)
        (fun _ _ _ _ _ => trivial) (fun _ _ _ _ _ _ _ => trivial)

theorem setMessage_any {messageId : MessageId} {old message : Message}
    (ho : c.messages.lookup messageId = some old) (hid : message.id = old.id)
    (hc : message.conversationId = old.conversationId) (hd : message.direction = old.direction)
    (hr : message.inReplyTo = old.inReplyTo) :
    Edited bounded Edit.Opening c ({ c with messages := c.messages.insert messageId message }.push
      (.messageChanged messageId)) :=
  (Edited.one (.setMessage messageId message) trivial ⟨old,ho,hid,hc,hd,hr⟩).step
    (.announce (.messageChanged messageId)) trivial trivial

theorem attach_any {messageId : MessageId} {kind : MessageKind} {attachment : Attachment} :
    Edited bounded Edit.Opening c (c.attach messageId kind attachment).2 := by
  unfold attach
  split
  · exact .refl c
  · split
    · exact .refl c
    · rename_i old ho
      split
      · exact .refl c
      · exact setMessage_any ho rfl rfl rfl rfl

theorem setDeliveryState_any {messageId : MessageId} {state : DeliveryState} :
    Edited bounded Edit.Opening c (c.setDeliveryState messageId state).2 := by
  unfold setDeliveryState
  split
  · exact .refl c
  · rename_i old ho
    exact setMessage_any ho rfl rfl rfl rfl

theorem addReaction_any (hf : bounded → c.CountersBelowMax) {messageId : MessageId} {actor emoji : String} :
    Edited bounded Edit.Opening c (c.addReaction messageId actor emoji).2 := by
  unfold addReaction
  split
  · exact .refl c
  · rename_i message hm
    split
    · exact .refl c
    · split
      · exact .refl c
      · let reaction : Reaction :=
          { id := allocated c.nextReactionId, messageId := messageId, emoji := emoji, actor := actor }
        exact (Edited.one (.newReaction reaction) trivial ⟨fun hb => (hf hb).2.2.2,rfl,by simp [reaction,hm]⟩).step
          (.announce (.messageChanged messageId)) trivial trivial

theorem markConversationRead_any {conversationId : ConversationId} :
    Edited bounded Edit.Opening c (c.markConversationRead conversationId).2 := by
  unfold markConversationRead
  split
  · exact .refl c
  · rename_i old ho
    let conversation : Conversation := { old with unreadCount := 0 }
    exact (Edited.one (.setConversation conversationId conversation) trivial
      ⟨old,ho,rfl,rfl,rfl,rfl⟩).step (.announce (.conversationChanged conversationId)) trivial trivial

theorem foldl_removeConversationState_any (ids : List ConversationId) (c : MindChatCore) :
    Edited bounded Edit.Opening c (ids.foldl removeConversationState c) := by
  induction ids generalizing c with
  | nil => exact .refl c
  | cons id ids ih => exact (Edited.one (.dropConversation id) trivial trivial).trans (ih _)

theorem conversations_foldl_removeConversationState (ids : List ConversationId) (c : MindChatCore)
    (k : ConversationId) : (ids.foldl removeConversationState c).conversations.lookup k =
      if k ∈ ids then none else c.conversations.lookup k := by
  induction ids generalizing c with
  | nil => simp
  | cons id ids ih =>
    rw [List.foldl_cons,ih,removeConversationState_eq]
    by_cases h : k = id <;> simp [Table.lookup_erase_if,h]

theorem mem_accountConversations (hk : ∀ k v, c.conversations.lookup k = some v → v.id = k)
    (accountId : AccountId) (k : ConversationId) :
    k ∈ (c.conversations.values.filter
      (fun conversation => conversation.accountId = accountId)).map Conversation.id ↔
      ∃ v, c.conversations.lookup k = some v ∧ v.accountId = accountId := by
  simp only [List.mem_map,List.mem_filter,Table.mem_values,decide_eq_true_eq]
  constructor
  · rintro ⟨v,⟨⟨j,hj⟩,ha⟩,rfl⟩
    exact ⟨v,by rwa [hk j v hj],ha⟩
  · rintro ⟨v,hv,ha⟩
    exact ⟨v,⟨⟨k,hv⟩,ha⟩,hk k v hv⟩

theorem deleteAccount_any (hk : ∀ k v, c.conversations.lookup k = some v → v.id = k) {accountId : AccountId} :
    Edited bounded Edit.Opening c (c.deleteAccount accountId).2 := by
  unfold deleteAccount
  split
  · exact .refl c
  · refine ((foldl_removeConversationState_any _ c).step (.dropAccount accountId) trivial ?_).step
      (.announce (.accountChanged accountId)) trivial trivial
    intro k v hv ha
    rw [conversations_foldl_removeConversationState] at hv
    split at hv
    · cases hv
    · rename_i hn
      exact hn ((mem_accountConversations hk accountId k).mpr ⟨v,hv,ha⟩)

theorem deleteConversation_any {conversationId : ConversationId} :
    Edited bounded Edit.Opening c (c.deleteConversation conversationId).2 := by
  unfold deleteConversation
  split
  · exact .refl c
  · exact (Edited.one (.dropConversation conversationId) trivial trivial).step
      (.announce (.conversationChanged conversationId)) trivial trivial

end MindChatCore

/-- Every public mutator is a run of legal edits. -/
theorem CoreOp.edited {bounded : Prop} {c : MindChatCore} (hi : Filed c)
    (hf : bounded → c.CountersBelowMax) (op : CoreOp) : Edited bounded Edit.Opening c (op.run c) := by
  cases op with
  | addAccount => exact addAccount_any hf
  | setConnectionState => exact setConnectionState_any
  | setCapabilities => exact updateAccount_any (fun _ => rfl)
  | upsertContact => exact upsertContact_any
  | syncRosterContact => exact syncRosterContact_edited (fun _ _ => trivial) (fun _ => trivial)
  | removeContact => exact removeContact_edited trivial (fun _ => trivial)
  | updateContactPresence =>
    exact updateContactPresence_edited hi.contactKey (fun _ _ => trivial) (fun _ => trivial)
  | applyTransportEvent event => exact (applyTransportEvent_makes hi hf event).weaken (fun _ _ h => h.2)
  | openConversation => exact openConversation_any hf
  | sendText =>
    exact sendText_edited (fun hb => (hf hb).2.2.1) (fun _ => trivial) (fun _ _ _ => trivial) (fun _ _ => trivial)
  | receiveText => exact receiveText_any hf
  | attach => exact attach_any
  | setDeliveryState => exact setDeliveryState_any
  | addReaction => exact addReaction_any hf
  | markConversationRead => exact markConversationRead_any
  | deleteAccount => exact deleteAccount_any hi.conversationKey
  | deleteConversation => exact deleteConversation_any
  | updateAccountDisplayName accountId displayName =>
    simp only [CoreOp.run,MindChatCore.updateAccountDisplayName]
    split
    · exact .refl c
    · exact updateAccount_any (fun _ => rfl)
  | setAccountProxies => exact updateAccount_any (fun _ => rfl)
  | drainEvents => exact .one .drain trivial trivial

namespace Filed

variable {bounded : Prop} {cond : MindChatCore → Edit → Prop} {c d : MindChatCore}

theorem edit (h : Filed c) {e : Edit} (hl : e.Legal bounded c) : Filed (e.apply c) := by
  cases e with
  | putContact => exact { h with contactKey := Table.forall_insert (P := KeyedAt) rfl h.contactKey }
  | dropContact => exact { h with contactKey := Table.forall_erase (P := KeyedAt) h.contactKey }
  | newConversation => exact { h with conversationKey := Table.forall_insert rfl h.conversationKey }
  | setConversation key v =>
    obtain ⟨old,ho,hid,-⟩ := hl
    exact { h with
      conversationKey := Table.forall_insert (hid.trans (h.conversationKey key old ho)) h.conversationKey }
  | dropConversation =>
    simp only [Edit.apply]
    rw [removeConversationState_eq]
    exact { h with conversationKey := Table.forall_erase h.conversationKey }
  | dropAccount =>
    refine { h with contactKey := fun k t ht => ?_ }
    simp only [Edit.apply,Table.lookup_retain,Option.filter_eq_some_iff] at ht
    exact h.contactKey k t ht.1
  | _ => exact { h with }

theorem edited (h : Filed c) (he : Edited bounded cond c d) : Filed d :=
  he.invariant (fun _ _ h _ hl => h.edit hl) h

theorem op (h : Filed c) (o : CoreOp) : Filed (o.run c) := h.edited (o.edited h False.elim)

theorem imported (s : CoreSnapshot) : Filed (fromSnapshot s) :=
  ⟨fun _ _ ht => (Table.lookup_collect_some ht).1,fun _ _ hv => (Table.lookup_collect_some hv).1⟩

end Filed

/-- A mutator, or a restart from the core's own snapshot. -/
inductive SessionStep
  | op (op : CoreOp)
  | restart

def SessionStep.run (c : MindChatCore) : SessionStep → MindChatCore
  | op o => o.run c
  | restart => fromSnapshot c.snapshot

/-- A step is taken while no counter has reached `u64::MAX`. -/
def SessionStep.next (c : MindChatCore) (s : SessionStep) : Option MindChatCore :=
  if c.CountersBelowMax then some (s.run c) else none

theorem SessionStep.next_eq_some {c d : MindChatCore} {s : SessionStep} :
    s.next c = some d ↔ c.CountersBelowMax ∧ s.run c = d := by
  simp [SessionStep.next]

/-- The states of all runs from the empty core. -/
def Reachable (c : MindChatCore) : Prop :=
  ∃ steps, Transition.exec (fun c s => SessionStep.next c s) default steps = some c

theorem SessionStep.keyed {c d : MindChatCore} {s : SessionStep} (hi : Keyed c)
    (hs : s.next c = some d) : Keyed d := by
  obtain ⟨hf,rfl⟩ := SessionStep.next_eq_some.mp hs
  cases s with
  | op o => exact hi.edited (o.edited hi.filed fun _ => hf)
  | restart => exact fromSnapshot_keyed (snapshot_idsBelowMax hi hf)

theorem SessionStep.integrity {c d : MindChatCore} {s : SessionStep} (hi : Integrity c)
    (hs : s.next c = some d) : Integrity d := by
  obtain ⟨hf,rfl⟩ := SessionStep.next_eq_some.mp hs
  cases s with
  | op o => exact hi.edited (o.edited hi.filed fun _ => hf)
  | restart =>
    have h := fromSnapshot_integrity hi hf KeepsKeys.id
    rwa [CoreSnapshot.mapRecords_id] at h

theorem Reachable.integrity {c : MindChatCore} (h : Reachable c) : Integrity c := by
  obtain ⟨steps,h⟩ := h
  exact (Transition.run_iff_exec.mpr h).invariant (fun _ _ _ hi hs => SessionStep.integrity hi hs)
    Integrity.default

theorem Reachable.steps {c d : MindChatCore} (h : Reachable c) {steps : List SessionStep}
    (hs : Transition.exec (fun c s => SessionStep.next c s) c steps = some d) : Reachable d := by
  obtain ⟨before,h⟩ := h
  exact ⟨before ++ steps,Transition.run_iff_exec.mp
    ((Transition.run_iff_exec.mpr h).append (Transition.run_iff_exec.mpr hs))⟩

/-- The cores an application can build: empty or imported from any snapshot
whose ids leave room, then changed by the public mutators. -/
inductive Constructible : MindChatCore → Prop
  | default : Constructible default
  | restored {s : CoreSnapshot} : s.IdsBelowMax → Constructible (fromSnapshot s)
  | op {c : MindChatCore} (o : CoreOp) : Constructible c → c.CountersBelowMax → Constructible (o.run c)

theorem Constructible.keyed {c : MindChatCore} (h : Constructible c) : Keyed c := by
  induction h with
  | default => exact Keyed.default
  | restored hs => exact fromSnapshot_keyed hs
  | op o _ hf ih => exact ih.edited (o.edited ih.filed fun _ => hf)

/-- Restarts from an own snapshot are imports of a snapshot that leaves room. -/
theorem Reachable.constructible {c : MindChatCore} (h : Reachable c) : Constructible c := by
  obtain ⟨steps,h⟩ := h
  refine (Transition.run_iff_exec.mpr h).invariant (I := Constructible) ?_ .default
  intro c s d hc hs
  obtain ⟨hf,rfl⟩ := SessionStep.next_eq_some.mp hs
  cases s with
  | op o => exact .op o hc hf
  | restart => exact .restored (snapshot_idsBelowMax hc.keyed hf)

/-- In every reachable core the records refer to existing records of the right
owner, and no allocator returns an id that is in use. -/
theorem referential_integrity {c : MindChatCore} (h : Reachable c) :
    Integrity c ∧
      c.accounts.lookup c.allocateAccountId.1 = none ∧
      c.conversations.lookup c.allocateConversationId.1 = none ∧
      c.messages.lookup c.allocateMessageId.1 = none ∧
      c.reactions.lookup c.allocateReactionId.1 = none :=
  have hi := h.integrity
  ⟨hi,lookup_allocated hi.accountBelow,lookup_allocated hi.conversationBelow,
    lookup_allocated hi.messageBelow,lookup_allocated hi.reactionBelow⟩

def demoSetup : AccountSetup := ⟨"ada@host","host","Ada"⟩

/-- A reply to a reply target that survives a restart, and a cascading delete. -/
def demoSession : List SessionStep :=
  [.op (.addAccount demoSetup),.op (.openConversation 1 .direct "bob@host" "Bob" 10),
    .op (.sendText 1 "ada@host" "hello" none 11),.restart,
    .op (.sendText 1 "ada@host" "again" (some 1) 12),.op (.upsertContact 1 "bob@host" "Bob" .online none),
    .op (.setCapabilities 1 {.messageReactions}),.op (.addReaction 2 "ada@host" "+")]

def demoCore : MindChatCore := demoSession.foldl SessionStep.run default

theorem demoCore_reachable : Reachable demoCore := ⟨demoSession,rfl⟩

theorem referential_integrity_demo : Integrity demoCore ∧
    demoCore.accounts.lookup demoCore.allocateAccountId.1 = none ∧
    demoCore.conversations.lookup demoCore.allocateConversationId.1 = none ∧
    demoCore.messages.lookup demoCore.allocateMessageId.1 = none ∧
    demoCore.reactions.lookup demoCore.allocateReactionId.1 = none :=
  referential_integrity demoCore_reachable

end MindChat
