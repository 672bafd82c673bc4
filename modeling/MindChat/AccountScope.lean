import MindChat.Runs

/-! Account isolation: whatever transport events of one account arrive, in any
order, they leave the records of all other accounts alone. -/

namespace MindChat

open MindChatCore

/-- From `c` to `d` nothing outside account `a` changed, and what was announced
meanwhile concerns `a`. A message belongs to the account of its conversation. -/
structure ScopedTo (a : AccountId) (c d : MindChatCore) : Prop where
  accounts : ∀ k, k ≠ a → d.accounts.lookup k = c.accounts.lookup k
  contacts : ∀ k : AccountId × String, k.1 ≠ a → d.contacts.lookup k = c.contacts.lookup k
  conversations : ∀ k v, v.accountId ≠ a →
    (d.conversations.lookup k = some v ↔ c.conversations.lookup k = some v)
  messages : ∀ k m v, v.accountId ≠ a →
    ((d.messages.lookup k = some m ∧ d.conversations.lookup m.conversationId = some v) ↔
      (c.messages.lookup k = some m ∧ c.conversations.lookup m.conversationId = some v))
  reactions : d.reactions = c.reactions
  references : ∀ e : CoreEvent, e.RefersTo c a → e.RefersTo d a
  events : ∃ new, d.events = c.events ++ new ∧ ∀ e ∈ new, e.RefersTo d a

namespace ScopedTo

variable {a : AccountId} {c d e : MindChatCore}

theorem refl (a : AccountId) (c : MindChatCore) : ScopedTo a c c :=
  ⟨fun _ _ => rfl,fun _ _ => rfl,fun _ _ _ => .rfl,fun _ _ _ _ => .rfl,rfl,fun _ h => h,
    [],by simp,by simp⟩

theorem trans (h : ScopedTo a c d) (k : ScopedTo a d e) : ScopedTo a c e := by
  refine ⟨?_,?_,?_,?_,k.reactions.trans h.reactions,fun x hx => k.references x (h.references x hx),?_⟩
  · exact fun i hi => (k.accounts i hi).trans (h.accounts i hi)
  · exact fun i hi => (k.contacts i hi).trans (h.contacts i hi)
  · exact fun i v hv => (k.conversations i v hv).trans (h.conversations i v hv)
  · exact fun i m v hv => (k.messages i m v hv).trans (h.messages i m v hv)
  · obtain ⟨xs,hx,hxs⟩ := h.events
    obtain ⟨ys,hy,hys⟩ := k.events
    refine ⟨xs ++ ys,by rw [hy,hx,List.append_assoc],fun x hm => ?_⟩
    rcases List.mem_append.mp hm with hm | hm
    · exact k.references x (hxs x hm)
    · exact hys x hm

theorem setAccount {account : Account} :
    ScopedTo a c { c with accounts := c.accounts.insert a account } :=
  { refl a c with accounts := fun _ hk => AList.lookup_insert_ne hk }

theorem contactsOnly {t : Table (AccountId × String) Contact}
    (h : ∀ k : AccountId × String, k.1 ≠ a → t.lookup k = c.contacts.lookup k) :
    ScopedTo a c { c with contacts := t } :=
  { refl a c with contacts := h }

theorem putConversation {key : ConversationId} {v : Conversation} {n : ℕ}
    (hv : v.accountId = a) (ho : ∀ old, c.conversations.lookup key = some old → old.accountId = a) :
    ScopedTo a c { c with nextConversationId := n, conversations := c.conversations.insert key v } := by
  have hl : ∀ k w, w.accountId ≠ a → ((c.conversations.insert key v).lookup k = some w ↔
      c.conversations.lookup k = some w) := by
    intro k w hw
    by_cases hk : k = key
    · subst hk
      rw [AList.lookup_insert]
      constructor
      · intro h
        cases h
        exact absurd hv hw
      · exact fun h => absurd (ho w h) hw
    · rw [AList.lookup_insert_ne hk]
  have hown : ∀ k w, c.conversations.lookup k = some w → w.accountId = a →
      ∃ w', (c.conversations.insert key v).lookup k = some w' ∧ w'.accountId = a := by
    intro k w h hw
    by_cases hk : k = key
    · subst hk
      exact ⟨v,AList.lookup_insert _,hv⟩
    · exact ⟨w,by rw [AList.lookup_insert_ne hk,h],hw⟩
  refine { refl a c with conversations := hl, messages := ?_, references := ?_, events := ?_ }
  · exact fun k m w hw => and_congr_right (fun _ => hl m.conversationId w hw)
  · intro x hx
    cases x with
    | accountChanged id => exact hx
    | rosterChanged id => exact hx
    | conversationChanged id =>
      obtain ⟨w,h,hw⟩ := hx
      exact hown id w h hw
    | messageAdded id =>
      obtain ⟨m,w,hm,h,hw⟩ := hx
      obtain ⟨w',h',hw'⟩ := hown m.conversationId w h hw
      exact ⟨m,w',hm,h',hw'⟩
    | messageChanged id =>
      obtain ⟨m,w,hm,h,hw⟩ := hx
      obtain ⟨w',h',hw'⟩ := hown m.conversationId w h hw
      exact ⟨m,w',hm,h',hw'⟩
  · exact ⟨[],by simp,by simp⟩

theorem putMessage {key : MessageId} {m : Message} {v : Conversation} {i : ℕ}
    (hm : c.conversations.lookup m.conversationId = some v) (hv : v.accountId = a)
    (ho : ∀ old, c.messages.lookup key = some old → m.conversationId = old.conversationId) :
    ScopedTo a c { c with nextMessageId := i, messages := c.messages.insert key m } := by
  have hown : ∀ k n w, c.messages.lookup k = some n → c.conversations.lookup n.conversationId = some w →
      w.accountId = a → ∃ n' w', (c.messages.insert key m).lookup k = some n' ∧
        c.conversations.lookup n'.conversationId = some w' ∧ w'.accountId = a := by
    intro k n w hn hw ha
    by_cases hk : k = key
    · subst hk
      exact ⟨m,v,AList.lookup_insert _,hm,hv⟩
    · exact ⟨n,w,by rw [AList.lookup_insert_ne hk,hn],hw,ha⟩
  refine { refl a c with messages := ?_, references := ?_, events := ?_ }
  · intro k n w hw
    refine and_congr_left (fun hc => ?_)
    by_cases hk : k = key
    · subst hk
      rw [AList.lookup_insert]
      constructor
      · intro h
        cases h
        rw [hm] at hc
        cases hc
        exact absurd hv hw
      · intro h
        rw [← ho n h,hm] at hc
        cases hc
        exact absurd hv hw
    · rw [AList.lookup_insert_ne hk]
  · intro x hx
    cases x with
    | accountChanged id => exact hx
    | rosterChanged id => exact hx
    | conversationChanged id => exact hx
    | messageAdded id =>
      obtain ⟨n,w,hn,hw,ha⟩ := hx
      exact hown id n w hn hw ha
    | messageChanged id =>
      obtain ⟨n,w,hn,hw,ha⟩ := hx
      exact hown id n w hn hw ha
  · exact ⟨[],by simp,by simp⟩

theorem announce {x : CoreEvent} (hx : x.RefersTo c a) : ScopedTo a c (c.push x) := by
  refine { refl a c with references := ?_, events := ?_ }
  · intro y hy
    cases y <;> exact hy
  · refine ⟨[x],rfl,?_⟩
    intro y hy
    rw [List.mem_singleton.mp hy]
    cases x <;> exact hx

end ScopedTo

theorem ScopedTo.edit {event : TransportEvent} {c : MindChatCore} {edit : Edit} (hi : Keyed c)
    (ha : event.Allows c edit) (hl : edit.Legal True c) : ScopedTo event.account c (edit.apply c) := by
  cases edit with
  | setAccount key account =>
    cases ha
    exact .setAccount
  | putContact contact =>
    refine .contactsOnly (fun k hk => AList.lookup_insert_ne ?_)
    rintro rfl
    exact hk ha
  | dropContact accountId jid =>
    refine .contactsOnly (fun k hk => AList.lookup_erase_ne ?_)
    rintro rfl
    exact hk ha
  | newConversation v =>
    refine .putConversation ha (fun old ho => ?_)
    rw [hl.2.1,lookup_allocated hi.conversationBelow] at ho
    cases ho
  | setConversation key v =>
    obtain ⟨old,ho,-,hacc,-,-⟩ := hl
    refine .putConversation (n := c.nextConversationId) ha (fun old' ho' => ?_)
    rw [ho] at ho'
    cases ho'
    exact hacc.symm.trans ha
  | newMessage m =>
    obtain ⟨-,v,hv,hva⟩ := ha
    refine .putMessage hv hva (fun old ho => ?_)
    rw [hl.2.1,lookup_allocated hi.messageBelow] at ho
    cases ho
  | setMessage key m =>
    obtain ⟨sender,state,old,v,-,ho,rfl,-,-,hv,hva,-,-⟩ := ha
    refine .putMessage (i := c.nextMessageId) hv hva (fun old' ho' => ?_)
    rw [ho] at ho'
    cases ho'
    rfl
  | announce x => exact .announce ha
  | newAccount _ => exact ha.elim
  | newReaction _ => exact ha.elim
  | dropConversation _ => exact ha.elim
  | dropAccount _ => exact ha.elim
  | drain => exact ha.elim

theorem ScopedTo.event {c : MindChatCore} (hi : Keyed c) (hf : c.CountersBelowMax)
    (event : TransportEvent) : ScopedTo event.account c (c.applyTransportEvent event).2 :=
  (applyTransportEvent_edited hi hf event).preorder (I := Keyed) (R := ScopedTo event.account)
    (.refl event.account) (fun _ _ _ h k => h.trans k) (fun _ _ hi _ hl => hi.edit hl)
    (fun _ _ hi ha hl => .edit hi ha hl) hi

/-- An event is applied while no counter has reached `u64::MAX`. -/
def TransportEvent.next (c : MindChatCore) (event : TransportEvent) : Option MindChatCore :=
  if c.CountersBelowMax then some (c.applyTransportEvent event).2 else none

theorem TransportEvent.next_eq_some {c d : MindChatCore} {event : TransportEvent} :
    event.next c = some d ↔ c.CountersBelowMax ∧ (c.applyTransportEvent event).2 = d := by
  simp [TransportEvent.next]

/-- At most outgoing messages of the account in direct conversations with the
sender differ between `c` and `d`. -/
structure ReceiptScope (a : AccountId) (sender : String) (c d : MindChatCore) : Prop where
  accounts : d.accounts = c.accounts
  contacts : d.contacts = c.contacts
  conversations : d.conversations = c.conversations
  reactions : d.reactions = c.reactions
  messages : ∀ k, d.messages.lookup k ≠ c.messages.lookup k →
    ∃ m v, c.messages.lookup k = some m ∧ m.direction = .outgoing ∧
      c.conversations.lookup m.conversationId = some v ∧ v.accountId = a ∧ v.kind = .direct ∧
      v.address = sender

theorem receiptScope (a : AccountId) (sender : String) (c : MindChatCore) (messageId : MessageId)
    (state : DeliveryState) :
    ReceiptScope a sender c (c.applyTransportEvent (.deliveryUpdated a sender messageId state)).2 := by
  rcases applyDeliveryUpdate_cases c a sender messageId state with
    h | ⟨m,v,hm,hd,hv,ha,hk,had,-,h⟩
  · simp only [applyTransportEvent,h]
    exact ⟨rfl,rfl,rfl,rfl,fun k hne => absurd rfl hne⟩
  · simp only [applyTransportEvent,h]
    refine ⟨rfl,rfl,rfl,rfl,fun k hne => ?_⟩
    by_cases he : k = messageId
    · subst he
      exact ⟨m,v,hm,hd,hv,ha,hk,had⟩
    · exact absurd (AList.lookup_insert_ne he) hne

theorem scopedTo_events {a : AccountId} {c d : MindChatCore} {events : List TransportEvent}
    (hi : Keyed c) (ha : ∀ event ∈ events, event.account = a)
    (h : Transition.exec TransportEvent.next c events = some d) : ScopedTo a c d := by
  induction events generalizing c with
  | nil =>
    cases h
    exact .refl a _
  | cons event events ih =>
    obtain ⟨t,ht,h⟩ := Option.bind_eq_some_iff.mp h
    obtain ⟨hf,rfl⟩ := TransportEvent.next_eq_some.mp ht
    have hs := ScopedTo.event hi hf event
    rw [ha event List.mem_cons_self] at hs
    have hi' := hi.edited (applyTransportEvent_edited hi hf event)
    exact hs.trans (ih hi' (fun e hm => ha e (List.mem_cons_of_mem _ hm)) h)

/-- Events of one account, whatever their number and order, are confined to it,
and a receipt at any point among them reaches only messages sent to its sender. -/
theorem account_isolation {a : AccountId} {c d : MindChatCore} {events : List TransportEvent}
    (hc : Reachable c) (ha : ∀ event ∈ events, event.account = a)
    (h : Transition.exec TransportEvent.next c events = some d) :
    ScopedTo a c d ∧ ∀ sender messageId state, ReceiptScope a sender d
      (d.applyTransportEvent (.deliveryUpdated a sender messageId state)).2 :=
  ⟨scopedTo_events hc.integrity.toKeyed ha h,fun sender messageId state =>
    receiptScope a sender d messageId state⟩

/-- A second account with the same peer, and a hostile mix of events of the first. -/
def twoAccounts : List SessionStep :=
  [.op (.addAccount demoSetup),.op (.addAccount ⟨"eve@host","host","Eve"⟩),
    .op (.openConversation 2 .direct "bob@host" "Bob" 10),.op (.sendText 1 "eve@host" "mine" none 11)]

def hostileEvents : List TransportEvent :=
  [.deliveryUpdated 1 "bob@host" 1 .read,.incomingText 1 .direct "bob@host" "bob@host" "hi" 12,
    .rosterContactRemoved 1 "bob@host",.disconnected 1 false none .serverRefused]

def hostileCore : MindChatCore :=
  hostileEvents.foldl (fun c e => (c.applyTransportEvent e).2) (twoAccounts.foldl SessionStep.run default)

theorem account_isolation_hostile :
    ScopedTo 1 (twoAccounts.foldl SessionStep.run default) hostileCore ∧
      ∀ sender messageId state, ReceiptScope 1 sender hostileCore
        (hostileCore.applyTransportEvent (.deliveryUpdated 1 sender messageId state)).2 :=
  account_isolation ⟨twoAccounts,rfl⟩ (by decide) (rfl :
    Transition.exec TransportEvent.next (twoAccounts.foldl SessionStep.run default) hostileEvents = _)

end MindChat
