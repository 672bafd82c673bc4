import MindChat.Connectivity
import MindChat.Runs

/-! The coordinator of a core and a transport adapter: connecting, flushing the
outbox, polling events, and the order in which messages climb to delivery. -/

namespace MindChat

open MindChatCore

/-- The adapter boundary. A call may change the adapter whatever it returns. -/
class XmppTransport (T : Type) where
  connect : T → ConnectionRequest → Except TransportError Unit × T
  disconnect : T → AccountId → Except TransportError Unit × T
  send : T → OutgoingMessage → Except TransportError Unit × T
  nextEvent : T → Except TransportError (Option TransportEvent) × T

inductive TransportCoordinatorError
  | core (error : CoreError)
  | transport (error : TransportError)
  deriving DecidableEq

structure TransportCoordinator (T : Type) where
  core : MindChatCore
  transport : T

def flushOutboxMaxBatch : ℕ := 16
def flushSendTimeoutMs : ℕ := 4000

namespace TransportCoordinator

variable {T : Type} [XmppTransport T]

def connectWithProxy (k : TransportCoordinator T) (accountId : AccountId) (password : String)
    (proxy : Option ProxyConfig) (proxyPassword : Option String) :
    Except TransportCoordinatorError Unit × TransportCoordinator T :=
  match k.core.accounts.lookup accountId with
  | none => (.error (.core (.unknownAccount accountId)),k)
  | some account =>
    let request : ConnectionRequest :=
      { accountId := accountId, jid := account.jid, server := account.server, password := password,
        autoReconnect := account.autoReconnect, proxy := proxy, proxyPassword := proxyPassword }
    match k.core.setConnectionState accountId .connecting with
    | (.error e,c) => (.error (.core e),{ k with core := c })
    | (.ok (),c) =>
      match XmppTransport.connect k.transport request with
      | (.ok (),t) => (.ok (),⟨c,t⟩)
      | (.error e,t) =>
        match c.setConnectionState accountId .failed with
        | (.error e',c) => (.error (.core e'),⟨c,t⟩)
        | (.ok (),c) => (.error (.transport e),⟨c,t⟩)

def disconnect (k : TransportCoordinator T) (accountId : AccountId) :
    Except TransportCoordinatorError Unit × TransportCoordinator T :=
  match XmppTransport.disconnect k.transport accountId with
  | (.error e,t) => (.error (.transport e),{ k with transport := t })
  | (.ok (),t) =>
    match k.core.applyTransportEvent (.disconnected accountId true none .cancelled) with
    | (.error e,c) => (.error (.core e),⟨c,t⟩)
    | (.ok _,c) => (.ok (),⟨c,t⟩)

/-- The loop of `flush_outbox`; `elapsed i` is the clock before the send number
`i` in milliseconds since the start. -/
def flushBatch (elapsed : ℕ → ℕ) : List OutgoingMessage → ℕ → TransportCoordinator T →
    Except TransportCoordinatorError ℕ × TransportCoordinator T
  | [], sentCount, k => (.ok sentCount,k)
  | message :: rest, sentCount, k =>
    if flushSendTimeoutMs ≤ elapsed sentCount then (.ok sentCount,k)
    else match XmppTransport.send k.transport message with
    | (.error e,t) =>
      match k.core.setDeliveryState message.messageId .failed with
      | (.error e',c) => (.error (.core e'),⟨c,t⟩)
      | (.ok (),c) => (.error (.transport e),⟨c,t⟩)
    | (.ok (),t) =>
      match k.core.setDeliveryState message.messageId .sent with
      | (.error e',c) => (.error (.core e'),⟨c,t⟩)
      | (.ok (),c) => flushBatch elapsed rest (sentCount + 1) ⟨c,t⟩

def flushOutbox (elapsed : ℕ → ℕ) (k : TransportCoordinator T) (accountId : AccountId) :
    Except TransportCoordinatorError ℕ × TransportCoordinator T :=
  match k.core.pendingOutgoingMessages accountId with
  | .error e => (.error (.core e),k)
  | .ok pending => flushBatch elapsed (pending.take flushOutboxMaxBatch) 0 k

def pollNextEvent (k : TransportCoordinator T) :
    Except TransportCoordinatorError Bool × TransportCoordinator T :=
  match XmppTransport.nextEvent k.transport with
  | (.error e,t) => (.error (.transport e),{ k with transport := t })
  | (.ok none,t) => (.ok false,{ k with transport := t })
  | (.ok (some event),t) =>
    match k.core.applyTransportEvent event with
    | (.error e,c) => (.error (.core e),⟨c,t⟩)
    | (.ok _,c) => (.ok true,⟨c,t⟩)

/-- The loop of `poll_transport_events` with the number of events still allowed. -/
def pollLoop : ℕ → ℕ → TransportCoordinator T →
    Except TransportCoordinatorError ℕ × TransportCoordinator T
  | 0, processed, k => (.ok processed,k)
  | left + 1, processed, k =>
    match k.pollNextEvent with
    | (.ok true,k) => pollLoop left (processed + 1) k
    | (.error (.core _),k) => pollLoop left (processed + 1) k
    | (.ok false,k) => (.ok processed,k)
    | (.error (.transport e),k) => (.error (.transport e),k)

def pollTransportEvents (k : TransportCoordinator T) (maxEvents : ℕ) :
    Except TransportCoordinatorError ℕ × TransportCoordinator T :=
  pollLoop maxEvents 0 k

variable {k : TransportCoordinator T}

theorem transport_disconnect (k : TransportCoordinator T) (accountId : AccountId) :
    (k.disconnect accountId).2.transport = (XmppTransport.disconnect k.transport accountId).2 := by
  unfold disconnect
  cases XmppTransport.disconnect k.transport accountId with
  | mk r t =>
    cases r with
    | error e => rfl
    | ok u =>
      dsimp only
      split <;> rfl

theorem transport_pollNextEvent (k : TransportCoordinator T) :
    k.pollNextEvent.2.transport = (XmppTransport.nextEvent k.transport).2 := by
  unfold pollNextEvent
  cases XmppTransport.nextEvent k.transport with
  | mk r t =>
    rcases r with e | event
    · rfl
    · cases event with
      | none => rfl
      | some event =>
        dsimp only
        split <;> rfl

theorem transport_connectWithProxy {P : T → Prop}
    {accountId : AccountId} (hc : ∀ t (request : ConnectionRequest),
      request.accountId = accountId → P t → P (XmppTransport.connect t request).2)
    (h : P k.transport) (password : String) (proxy : Option ProxyConfig)
    (proxyPassword : Option String) :
    P (k.connectWithProxy accountId password proxy proxyPassword).2.transport := by
  unfold connectWithProxy
  cases k.core.accounts.lookup accountId with
  | none => exact h
  | some account =>
    dsimp only
    have ht := hc k.transport ⟨accountId,account.jid,account.server,password,
      account.autoReconnect,proxy,proxyPassword⟩ rfl h
    generalize ConnectionRequest.mk _ _ _ _ _ _ _ = request at ht ⊢
    split
    · exact h
    · cases hr : XmppTransport.connect k.transport request with
      | mk r t =>
        rw [hr] at ht
        cases r with
        | ok u => exact ht
        | error e =>
          dsimp only
          split <;> exact ht

theorem transport_flushBatch {P : T → Prop}
    (hs : ∀ t message, P t → P (XmppTransport.send t message).2) (elapsed : ℕ → ℕ)
    (batch : List OutgoingMessage) (sentCount : ℕ) (k : TransportCoordinator T)
    (h : P k.transport) : P (flushBatch elapsed batch sentCount k).2.transport := by
  induction batch generalizing sentCount k with
  | nil => exact h
  | cons message rest ih =>
    have ht := hs k.transport message h
    unfold flushBatch
    split
    · exact h
    · cases hr : XmppTransport.send k.transport message with
      | mk r t =>
        rw [hr] at ht
        cases r with
        | error e =>
          dsimp only
          split <;> exact ht
        | ok u =>
          dsimp only
          split
          · exact ht
          · exact ih _ _ ht

theorem transport_flushOutbox {P : T → Prop}
    (hs : ∀ t message, P t → P (XmppTransport.send t message).2) (h : P k.transport)
    (elapsed : ℕ → ℕ) (accountId : AccountId) :
    P (k.flushOutbox elapsed accountId).2.transport := by
  unfold flushOutbox
  split
  · exact h
  · exact transport_flushBatch hs elapsed _ 0 k h

theorem core_connectWithProxy {R : MindChatCore → MindChatCore → Prop} (hr : ∀ c, R c c)
    (ht : ∀ c d e, R c d → R d e → R c e) {accountId : AccountId}
    (hs : ∀ c state, state ≠ .online → R c (c.setConnectionState accountId state).2)
    (password : String) (proxy : Option ProxyConfig) (proxyPassword : Option String) :
    R k.core (k.connectWithProxy accountId password proxy proxyPassword).2.core := by
  unfold connectWithProxy
  cases k.core.accounts.lookup accountId with
  | none => exact hr _
  | some account =>
    have h₁ := hs k.core .connecting (by decide)
    dsimp only
    cases hc : k.core.setConnectionState accountId .connecting with
    | mk r c =>
      rw [hc] at h₁
      cases r with
      | error e => exact h₁
      | ok u =>
        have h₂ := hs c .failed (by decide)
        dsimp only
        split
        · exact h₁
        · split <;> rename_i hd <;> rw [hd] at h₂ <;> exact ht _ _ _ h₁ h₂

theorem core_disconnect {R : MindChatCore → MindChatCore → Prop} (hr : ∀ c, R c c)
    {accountId : AccountId}
    (he : R k.core (k.core.applyTransportEvent (.disconnected accountId true none .cancelled)).2) :
    R k.core (k.disconnect accountId).2.core := by
  unfold disconnect
  split
  · exact hr _
  · split <;> rename_i hd <;> rw [hd] at he <;> exact he

theorem core_pollNextEvent {R : MindChatCore → MindChatCore → Prop} (hr : ∀ c, R c c)
    (he : ∀ event, R k.core (k.core.applyTransportEvent event).2) : R k.core k.pollNextEvent.2.core := by
  unfold pollNextEvent
  split
  · exact hr _
  · exact hr _
  · rename_i event t hn
    have h := he event
    split <;> rename_i hd <;> rw [hd] at h <;> exact h

theorem core_flushBatch_all {R : MindChatCore → MindChatCore → Prop} (hr : ∀ c, R c c)
    (ht : ∀ c d e, R c d → R d e → R c e) (hs : ∀ c id state, R c (c.setDeliveryState id state).2)
    (elapsed : ℕ → ℕ) (batch : List OutgoingMessage) (sentCount : ℕ) (k : TransportCoordinator T) :
    R k.core (flushBatch elapsed batch sentCount k).2.core := by
  induction batch generalizing sentCount k with
  | nil => exact hr _
  | cons message rest ih =>
    have hm := hs k.core message.messageId
    unfold flushBatch
    split
    · exact hr _
    · generalize XmppTransport.send k.transport message = answer
      obtain ⟨r,t⟩ := answer
      cases r with
      | error e =>
        have h := hm .failed
        dsimp only
        split <;> rename_i hd <;> rw [hd] at h <;> exact h
      | ok u =>
        have h := hm .sent
        dsimp only
        split <;> rename_i hd <;> rw [hd] at h
        · exact h
        · exact ht _ _ _ h (ih _ ⟨_,t⟩)

theorem core_pollLoop_all {R : MindChatCore → MindChatCore → Prop} (hr : ∀ c, R c c)
    (ht : ∀ c d e, R c d → R d e → R c e) (he : ∀ c event, R c (c.applyTransportEvent event).2)
    (left processed : ℕ) (k : TransportCoordinator T) :
    R k.core (pollLoop left processed k).2.core := by
  induction left generalizing processed k with
  | zero => exact hr _
  | succ left ih =>
    have hn : R k.core k.pollNextEvent.2.core := core_pollNextEvent hr fun event => he _ event
    unfold pollLoop
    split <;> rename_i h <;> rw [h] at hn
    · exact ht _ _ _ hn (ih _ _)
    · exact ht _ _ _ hn (ih _ _)
    · exact hn
    · exact hn

theorem pollLoop_ok {left processed n : ℕ} {k l : TransportCoordinator T}
    (h : pollLoop left processed k = (.ok n,l)) :
    processed ≤ n ∧ (n = processed → l.core = k.core) := by
  induction left generalizing processed k with
  | zero =>
    cases h
    exact ⟨le_rfl,fun _ => rfl⟩
  | succ left ih =>
    unfold pollLoop at h
    split at h
    · obtain ⟨hle,-⟩ := ih h
      exact ⟨by omega,fun he => by omega⟩
    · obtain ⟨hle,-⟩ := ih h
      exact ⟨by omega,fun he => by omega⟩
    · rename_i hp
      cases h
      refine ⟨le_rfl,fun _ => ?_⟩
      unfold pollNextEvent at hp
      split at hp
      · cases hp
      · cases hp
        rfl
      · split at hp <;> cases hp
    · cases h

theorem accounts_flushBatch (elapsed : ℕ → ℕ) (batch : List OutgoingMessage) (sentCount : ℕ)
    (k : TransportCoordinator T) :
    (flushBatch elapsed batch sentCount k).2.core.accounts = k.core.accounts :=
  core_flushBatch_all (R := fun c d => d.accounts = c.accounts) (fun _ => rfl)
    (fun _ _ _ h j => j.trans h) (fun c id state => c.accounts_setDeliveryState id state) elapsed batch
    sentCount k

theorem accounts_flushOutbox (k : TransportCoordinator T) (elapsed : ℕ → ℕ) (a : AccountId) :
    (k.flushOutbox elapsed a).2.core.accounts = k.core.accounts := by
  unfold flushOutbox
  split
  · rfl
  · exact accounts_flushBatch elapsed _ 0 k

end TransportCoordinator

/-- An adapter that forwards every call and records what it was offered to send. -/
structure Logged (T : Type) where
  inner : T
  offered : List OutgoingMessage

instance {T : Type} [XmppTransport T] : XmppTransport (Logged T) where
  connect t request :=
    let (r,inner) := XmppTransport.connect t.inner request
    (r,{ t with inner := inner })
  disconnect t accountId :=
    let (r,inner) := XmppTransport.disconnect t.inner accountId
    (r,{ t with inner := inner })
  send t message :=
    let (r,inner) := XmppTransport.send t.inner message
    (r,⟨inner,t.offered ++ [message]⟩)
  nextEvent t :=
    let (r,inner) := XmppTransport.nextEvent t.inner
    (r,{ t with inner := inner })

@[simp] theorem Logged.offered_disconnect {T : Type} [XmppTransport T] (t : Logged T)
    (accountId : AccountId) : (XmppTransport.disconnect t accountId).2.offered = t.offered := rfl

@[simp] theorem Logged.offered_nextEvent {T : Type} [XmppTransport T] (t : Logged T) :
    (XmppTransport.nextEvent t).2.offered = t.offered := rfl

/-- Every message is still there with a delivery rank no lower than before. -/
def Climbed (c d : MindChatCore) : Prop :=
  ∀ id m, c.messages.lookup id = some m →
    ∃ m', d.messages.lookup id = some m' ∧ deliveryRank m.deliveryState ≤ deliveryRank m'.deliveryState

/-- Edits that keep every message and lower no delivery rank. -/
def Climbs (c : MindChatCore) : Edit → Prop
  | .setMessage key m => ∀ old, c.messages.lookup key = some old →
      deliveryRank old.deliveryState ≤ deliveryRank m.deliveryState
  | .dropConversation _ => False
  | _ => True

namespace Climbed

variable {c d e : MindChatCore}

theorem refl (c : MindChatCore) : Climbed c c := fun _ m h => ⟨m,h,le_rfl⟩

theorem trans (h : Climbed c d) (k : Climbed d e) : Climbed c e := by
  intro id m hm
  obtain ⟨m₁,h₁,hle₁⟩ := h id m hm
  obtain ⟨m₂,h₂,hle₂⟩ := k id m₁ h₁
  exact ⟨m₂,h₂,hle₁.trans hle₂⟩

theorem of_messages (h : d.messages = c.messages) : Climbed c d :=
  fun _ m hm => ⟨m,h ▸ hm,le_rfl⟩

theorem insert {key : MessageId} {m : Message} (hd : d.messages = c.messages.insert key m)
    (h : ∀ old, c.messages.lookup key = some old →
      deliveryRank old.deliveryState ≤ deliveryRank m.deliveryState) : Climbed c d := by
  intro id old ho
  rw [hd]
  by_cases he : id = key
  · subst he
    exact ⟨m,AList.lookup_insert _,h old ho⟩
  · exact ⟨old,by rw [AList.lookup_insert_ne he,ho],le_rfl⟩

theorem edit (hi : Keyed c) {edit : Edit} (hc : Climbs c edit) (hl : edit.Legal True c) :
    Climbed c (edit.apply c) := by
  cases edit with
  | newMessage m =>
    refine .insert rfl (fun old ho => ?_)
    rw [hl.2.1,lookup_allocated hi.messageBelow] at ho
    cases ho
  | setMessage key m => exact .insert rfl hc
  | dropConversation id => exact hc.elim
  | _ => exact .of_messages rfl

theorem edited (hi : Keyed c) (h : Edited True Climbs c d) : Climbed c d :=
  h.preorder (I := Keyed) refl (fun _ _ _ h k => h.trans k) (fun _ _ hi _ hl => hi.edit hl)
    (fun _ _ hi hc hl => .edit hi hc hl) hi

theorem sendText (hi : Keyed c) (hf : c.nextMessageId < u64Max) (conversationId : ConversationId)
    (sender body : String) (inReplyTo : Option MessageId) (now : ℕ) :
    Climbed c (c.sendText conversationId sender body inReplyTo now).2 :=
  .edited hi (sendText_edited (fun _ => hf) (fun _ => trivial) (fun _ _ _ => trivial) (fun _ _ => trivial))

theorem event (hi : Keyed c) (hf : c.CountersBelowMax) (event : TransportEvent) :
    Climbed c (c.applyTransportEvent event).2 := by
  refine .edited hi ((applyTransportEvent_edited hi hf event).weaken ?_)
  intro b edit ha
  cases edit with
  | setMessage key m =>
    obtain ⟨sender,state,old,v,-,ho,rfl,-,hr,-⟩ := ha
    intro old' ho'
    rw [ho] at ho'
    cases ho'
    exact hr.le
  | dropConversation id => exact ha.elim
  | _ => trivial

theorem setDeliveryState {id : MessageId} {state : DeliveryState}
    (h : ∀ m, c.messages.lookup id = some m → deliveryRank m.deliveryState ≤ deliveryRank state) :
    Climbed c (c.setDeliveryState id state).2 := by
  unfold MindChatCore.setDeliveryState
  cases hm : c.messages.lookup id with
  | none => exact .refl c
  | some m =>
    refine .insert rfl (fun old ho => ?_)
    rw [hm] at ho
    cases ho
    exact h m hm

end Climbed

def Waiting (c : MindChatCore) (id : MessageId) : Prop :=
  ∀ m, c.messages.lookup id = some m → m.deliveryState = .pending ∨ m.deliveryState = .failed

theorem waiting_iff_rank {m : Message} :
    (m.deliveryState = .pending ∨ m.deliveryState = .failed) ↔ deliveryRank m.deliveryState ≤ 1 := by
  cases m.deliveryState <;> decide

theorem Climbed.waiting {c d : MindChatCore} (h : Climbed c d) {id : MessageId} (hw : Waiting d id) :
    Waiting c id := by
  intro m hm
  obtain ⟨m',hm',hle⟩ := h id m hm
  exact waiting_iff_rank.mpr (hle.trans (waiting_iff_rank.mp (hw m' hm')))

theorem Waiting.of_ne {c : MindChatCore} {id key : MessageId} (h : Waiting c id)
    (state : DeliveryState) (hne : id ≠ key) : Waiting (c.setDeliveryState key state).2 id := by
  unfold MindChatCore.setDeliveryState
  cases hk : c.messages.lookup key with
  | none => exact h
  | some m =>
    intro n hn
    exact h n (by rwa [← AList.lookup_insert_ne hne])

theorem Waiting.climbed {c : MindChatCore} {id : MessageId} (h : Waiting c id)
    (state : DeliveryState) (hs : 1 ≤ deliveryRank state) : Climbed c (c.setDeliveryState id state).2 :=
  .setDeliveryState (fun m hm => (waiting_iff_rank.mp (h m hm)).trans hs)

theorem pendingOutgoingMessages_spec {c : MindChatCore} (hi : Keyed c) {accountId : AccountId}
    {pending : List OutgoingMessage} (h : c.pendingOutgoingMessages accountId = .ok pending) :
    (pending.map OutgoingMessage.messageId).Nodup ∧ ∀ o ∈ pending, Waiting c o.messageId := by
  have hsorted := pendingOutgoingMessages_sorted hi.messageKey h
  refine ⟨List.pairwise_map.mpr (hsorted.imp ne_of_lt),fun o ho n hn => ?_⟩
  obtain ⟨m,hm,-,hs,-⟩ := (mem_pendingOutgoingMessages_iff hi.messageKey h o).mp ho
  rw [hm] at hn
  cases hn
  exact hs

namespace TransportCoordinator

variable {T : Type} [XmppTransport T]

/-- What a write to a waiting message keeps, a flush of waiting messages keeps. -/
theorem core_flushBatch {R : MindChatCore → MindChatCore → Prop} (hr : ∀ c, R c c)
    (ht : ∀ c d e, R c d → R d e → R c e)
    (hs : ∀ c id state, Waiting c id → state = .sent ∨ state = .failed →
      R c (c.setDeliveryState id state).2)
    (elapsed : ℕ → ℕ) (batch : List OutgoingMessage) (sentCount : ℕ) (k : TransportCoordinator T)
    (hn : (batch.map OutgoingMessage.messageId).Nodup)
    (hw : ∀ o ∈ batch, Waiting k.core o.messageId) :
    R k.core (flushBatch elapsed batch sentCount k).2.core := by
  induction batch generalizing sentCount k with
  | nil => exact hr _
  | cons message rest ih =>
    rw [List.map_cons,List.nodup_cons] at hn
    have hm : Waiting k.core message.messageId := hw message List.mem_cons_self
    unfold flushBatch
    split
    · exact hr _
    · cases XmppTransport.send k.transport message with
      | mk result t =>
        cases result with
        | error e =>
          have hc := hs k.core message.messageId .failed hm (.inr rfl)
          dsimp only
          split <;> rename_i hd <;> rw [hd] at hc <;> exact hc
        | ok u =>
          have hc := hs k.core message.messageId .sent hm (.inl rfl)
          cases hd : k.core.setDeliveryState message.messageId .sent with
          | mk r c =>
            rw [hd] at hc
            cases r with
            | error e => exact hc
            | ok u =>
              refine ht _ _ _ hc (ih (sentCount + 1) ⟨c,t⟩ hn.2 (fun o ho => ?_))
              have hne : o.messageId ≠ message.messageId := fun he =>
                hn.1 (List.mem_map.mpr ⟨o,ho,he⟩)
              have h := (hw o (List.mem_cons_of_mem _ ho)).of_ne .sent hne
              rwa [hd] at h

theorem core_flushOutbox {R : MindChatCore → MindChatCore → Prop} (hr : ∀ c, R c c)
    (ht : ∀ c d e, R c d → R d e → R c e)
    (hs : ∀ c id state, Waiting c id → state = .sent ∨ state = .failed →
      R c (c.setDeliveryState id state).2)
    {k : TransportCoordinator T} (hi : Keyed k.core) (elapsed : ℕ → ℕ) (accountId : AccountId) :
    R k.core (k.flushOutbox elapsed accountId).2.core := by
  unfold flushOutbox
  cases hp : k.core.pendingOutgoingMessages accountId with
  | error e => exact hr _
  | ok pending =>
    obtain ⟨hn,hw⟩ := pendingOutgoingMessages_spec hi hp
    have htake := List.take_sublist flushOutboxMaxBatch pending
    exact core_flushBatch hr ht hs elapsed _ 0 k (hn.sublist (htake.map _))
      (fun o ho => hw o (htake.subset ho))

theorem flushBatch_offers (elapsed : ℕ → ℕ) (batch : List OutgoingMessage) (sentCount : ℕ)
    (k : TransportCoordinator (Logged T)) : ∃ offers, offers <+: batch ∧
      (flushBatch elapsed batch sentCount k).2.transport.offered = k.transport.offered ++ offers := by
  induction batch generalizing sentCount k with
  | nil => exact ⟨[],List.prefix_rfl,by simp [flushBatch]⟩
  | cons message rest ih =>
    unfold flushBatch
    split
    · exact ⟨[],List.nil_prefix,by simp⟩
    · simp only [XmppTransport.send]
      cases XmppTransport.send k.transport.inner message with
      | mk result inner =>
        cases result with
        | error e =>
          refine ⟨[message],by simp,?_⟩
          dsimp only
          split <;> rfl
        | ok u =>
          cases k.core.setDeliveryState message.messageId .sent with
          | mk r c =>
            cases r with
            | error e => exact ⟨[message],by simp,rfl⟩
            | ok u =>
              obtain ⟨offers,hp,ho⟩ := ih (sentCount + 1)
                ⟨c,⟨inner,k.transport.offered ++ [message]⟩⟩
              exact ⟨message :: offers,List.cons_prefix_cons.mpr ⟨rfl,hp⟩,by simp [ho]⟩

end TransportCoordinator

/-- What happens to a coordinator: a message is queued, the outbox is flushed,
one event is polled, a connection is started or ended, or the adapter moves by
itself while its workers run. -/
inductive CoordinatorOp (T : Type)
  | sendText (conversationId : ConversationId) (sender body : String)
      (inReplyTo : Option MessageId) (now : ℕ)
  | flushOutbox (accountId : AccountId) (elapsed : ℕ → ℕ)
  | pollNextEvent
  | connectWithProxy (accountId : AccountId) (password : String) (proxy : Option ProxyConfig)
      (proxyPassword : Option String)
  | disconnect (accountId : AccountId)
  | adapter (inner : T)

namespace CoordinatorOp

variable {T : Type} [XmppTransport T]

def run (k : TransportCoordinator (Logged T)) : CoordinatorOp T → TransportCoordinator (Logged T)
  | sendText conversationId sender body inReplyTo now =>
    { k with core := (k.core.sendText conversationId sender body inReplyTo now).2 }
  | flushOutbox accountId elapsed => (k.flushOutbox elapsed accountId).2
  | pollNextEvent => k.pollNextEvent.2
  | connectWithProxy accountId password proxy proxyPassword =>
    (k.connectWithProxy accountId password proxy proxyPassword).2
  | disconnect accountId => (k.disconnect accountId).2
  | adapter inner => { k with transport := { k.transport with inner := inner } }

/-- A step is taken while no counter has reached `u64::MAX`. -/
def Step (k : TransportCoordinator (Logged T)) (op : CoordinatorOp T)
    (l : TransportCoordinator (Logged T)) : Prop :=
  k.core.CountersBelowMax ∧ l = op.run k

end CoordinatorOp

section Runs

variable {T : Type} {k l m : TransportCoordinator (Logged T)}

/-- Ranks climbed, and only messages that waited at the start were offered. -/
structure Progress (k l : TransportCoordinator (Logged T)) : Prop where
  climbed : Climbed k.core l.core
  offered : ∃ offers, l.transport.offered = k.transport.offered ++ offers ∧
    ∀ o ∈ offers, Waiting k.core o.messageId

theorem Progress.refl (k : TransportCoordinator (Logged T)) : Progress k k :=
  ⟨.refl _,[],by simp,by simp⟩

theorem Progress.trans (h : Progress k l) (j : Progress l m) : Progress k m := by
  obtain ⟨xs,hx,hxs⟩ := h.offered
  obtain ⟨ys,hy,hys⟩ := j.offered
  refine ⟨h.climbed.trans j.climbed,xs ++ ys,by rw [hy,hx,List.append_assoc],fun o ho => ?_⟩
  rcases List.mem_append.mp ho with ho | ho
  · exact hxs o ho
  · exact h.climbed.waiting (hys o ho)

/-- A step that offers nothing and keeps the records keyed. -/
structure Quiet (k l : TransportCoordinator (Logged T)) : Prop where
  climbed : Climbed k.core l.core
  offered : l.transport.offered = k.transport.offered
  keyed : Keyed l.core

/-- One step: progress, and no message is offered twice in it. -/
structure StepProgress (k l : TransportCoordinator (Logged T)) : Prop extends Progress k l where
  keyed : Keyed l.core
  once : ∃ offers, l.transport.offered = k.transport.offered ++ offers ∧
    (offers.map OutgoingMessage.messageId).Nodup

theorem Quiet.progress (h : Quiet k l) : StepProgress k l :=
  ⟨⟨h.climbed,[],by simp [h.offered],by simp⟩,h.keyed,[],by simp [h.offered],List.nodup_nil⟩

variable [XmppTransport T]

theorem messages_setConnectionState (c : MindChatCore) (accountId : AccountId)
    (state : ConnectionState) : (c.setConnectionState accountId state).2.messages = c.messages := by
  unfold setConnectionState updateAccount
  split <;> rfl

theorem connectWithProxy_quiet (hi : Keyed k.core) (accountId : AccountId) (password : String)
    (proxy : Option ProxyConfig) (proxyPassword : Option String) :
    Quiet k (k.connectWithProxy accountId password proxy proxyPassword).2 where
  climbed := TransportCoordinator.core_connectWithProxy .refl (fun _ _ _ h j => h.trans j)
    (fun c state _ => .of_messages (messages_setConnectionState c accountId state)) _ _ _
  offered := TransportCoordinator.transport_connectWithProxy
    (P := fun t : Logged T => t.offered = k.transport.offered) (fun _ _ _ h => h) rfl _ _ _
  keyed := TransportCoordinator.core_connectWithProxy (R := fun c d => Keyed c → Keyed d)
    (fun _ h => h) (fun _ _ _ h j hi => j (h hi)) (fun _ _ _ h => h.edited setConnectionState_any)
    _ _ _ hi

theorem disconnect_quiet (hi : Keyed k.core) (hf : k.core.CountersBelowMax) (accountId : AccountId) :
    Quiet k (k.disconnect accountId).2 where
  climbed := TransportCoordinator.core_disconnect .refl (.event hi hf _)
  offered := by rw [TransportCoordinator.transport_disconnect,Logged.offered_disconnect]
  keyed := TransportCoordinator.core_disconnect (R := fun c d => Keyed c → Keyed d) (fun _ h => h)
    (fun h => h.edited (applyTransportEvent_edited h hf _)) hi

theorem pollNextEvent_quiet (hi : Keyed k.core) (hf : k.core.CountersBelowMax) :
    Quiet k k.pollNextEvent.2 where
  climbed := TransportCoordinator.core_pollNextEvent .refl (fun event => .event hi hf event)
  offered := by rw [TransportCoordinator.transport_pollNextEvent,Logged.offered_nextEvent]
  keyed := TransportCoordinator.core_pollNextEvent (R := fun c d => Keyed c → Keyed d)
    (fun _ h => h) (fun event h => h.edited (applyTransportEvent_edited h hf event)) hi

/-- A flush offers messages of the outbox, each of them once. -/
theorem flushOutbox_offers (hi : Keyed k.core) (accountId : AccountId) (elapsed : ℕ → ℕ) :
    ∃ offers, (k.flushOutbox elapsed accountId).2.transport.offered = k.transport.offered ++ offers ∧
      (offers.map OutgoingMessage.messageId).Nodup ∧ ∀ o ∈ offers, Waiting k.core o.messageId := by
  unfold TransportCoordinator.flushOutbox
  cases hp : k.core.pendingOutgoingMessages accountId with
  | error e => exact ⟨[],by simp,by simp,by simp⟩
  | ok pending =>
    obtain ⟨hn,hw⟩ := pendingOutgoingMessages_spec hi hp
    obtain ⟨offers,hpre,ho⟩ := TransportCoordinator.flushBatch_offers elapsed
      (pending.take flushOutboxMaxBatch) 0 k
    have hsub := hpre.trans (List.take_prefix flushOutboxMaxBatch pending)
    exact ⟨offers,ho,hn.sublist (hsub.sublist.map _),fun o ho => hw o (hsub.subset ho)⟩

theorem flushOutbox_climbed (hi : Keyed k.core) (accountId : AccountId) (elapsed : ℕ → ℕ) :
    Climbed k.core (k.flushOutbox elapsed accountId).2.core := by
  refine TransportCoordinator.core_flushOutbox .refl (fun _ _ _ h j => h.trans j) ?_ hi elapsed
    accountId
  rintro c id state hw (rfl | rfl) <;> exact hw.climbed _ (by decide)

theorem flushOutbox_keyed (hi : Keyed k.core) (accountId : AccountId) (elapsed : ℕ → ℕ) :
    Keyed (k.flushOutbox elapsed accountId).2.core :=
  TransportCoordinator.core_flushOutbox (R := fun c d => Keyed c → Keyed d) (fun _ h => h)
    (fun _ _ _ h j hi => j (h hi)) (fun _ _ _ _ _ h => h.edited setDeliveryState_any) hi elapsed
    accountId hi

theorem CoordinatorOp.progress {op : CoordinatorOp T} (hi : Keyed k.core) (hs : op.Step k l) :
    StepProgress k l := by
  obtain ⟨hf,rfl⟩ := hs
  cases op with
  | sendText conversationId sender body inReplyTo now =>
    refine Quiet.progress ⟨.sendText hi hf.2.2.1 conversationId sender body inReplyTo now,rfl,?_⟩
    exact hi.edited ((CoreOp.sendText conversationId sender body inReplyTo now).edited hi.filed fun _ => hf)
  | flushOutbox accountId elapsed =>
    obtain ⟨offers,ho,hn,hw⟩ := flushOutbox_offers hi accountId elapsed
    exact ⟨⟨flushOutbox_climbed hi accountId elapsed,offers,ho,hw⟩,
      flushOutbox_keyed hi accountId elapsed,offers,ho,hn⟩
  | pollNextEvent => exact (pollNextEvent_quiet hi hf).progress
  | connectWithProxy accountId password proxy proxyPassword =>
    exact (connectWithProxy_quiet hi accountId password proxy proxyPassword).progress
  | disconnect accountId => exact (disconnect_quiet hi hf accountId).progress
  | adapter inner => exact Quiet.progress ⟨.refl _,rfl,hi⟩

abbrev CoordinatorRun (k : TransportCoordinator (Logged T)) (ops : List (CoordinatorOp T))
    (l : TransportCoordinator (Logged T)) : Prop :=
  Transition.Run (fun k op l => CoordinatorOp.Step k op l) k ops l

theorem CoordinatorRun.keyed {ops : List (CoordinatorOp T)} (h : CoordinatorRun k ops l)
    (hi : Keyed k.core) : Keyed l.core :=
  h.invariant (I := fun k => Keyed k.core) (fun _ _ _ hi hs => (CoordinatorOp.progress hi hs).keyed) hi

theorem CoordinatorRun.progress {ops : List (CoordinatorOp T)} (h : CoordinatorRun k ops l)
    (hi : Keyed k.core) : Progress k l :=
  h.preorder (I := fun k => Keyed k.core) (R := Progress) .refl (fun _ _ _ h j => h.trans j)
    (fun _ _ _ hi hs => (CoordinatorOp.progress hi hs).keyed)
    (fun _ _ _ hi hs => (CoordinatorOp.progress hi hs).toProgress) hi

theorem pollTransportEvents_steps (k : TransportCoordinator (Logged T)) (maxEvents : ℕ) :
    ∃ n ≤ maxEvents, (k.pollTransportEvents maxEvents).2 =
      (List.replicate n (CoordinatorOp.pollNextEvent (T := T))).foldl CoordinatorOp.run k := by
  have h : ∀ left processed (k : TransportCoordinator (Logged T)), ∃ n ≤ left,
      (TransportCoordinator.pollLoop left processed k).2 =
        (List.replicate n (CoordinatorOp.pollNextEvent (T := T))).foldl CoordinatorOp.run k := by
    intro left
    induction left with
    | zero => exact fun _ k => ⟨0,le_rfl,rfl⟩
    | succ left ih =>
      intro processed k
      have hr : CoordinatorOp.run k (CoordinatorOp.pollNextEvent (T := T)) = k.pollNextEvent.2 := rfl
      have continues : ∀ l, k.pollNextEvent.2 = l → ∃ n ≤ left + 1,
          (TransportCoordinator.pollLoop left (processed + 1) l).2 =
            (List.replicate n (CoordinatorOp.pollNextEvent (T := T))).foldl CoordinatorOp.run k := by
        rintro l rfl
        obtain ⟨n,hn,he⟩ := ih (processed + 1) k.pollNextEvent.2
        exact ⟨n + 1,by omega,by rw [he,List.replicate_succ,List.foldl_cons,hr]⟩
      have stops : ∀ l, k.pollNextEvent.2 = l → ∃ n ≤ left + 1, l =
          (List.replicate n (CoordinatorOp.pollNextEvent (T := T))).foldl CoordinatorOp.run k := by
        rintro l rfl
        exact ⟨1,by omega,hr.symm⟩
      unfold TransportCoordinator.pollLoop
      cases hp : k.pollNextEvent with
      | mk r l =>
        rw [hp] at continues stops
        rcases r with e | b
        · cases e with
          | core e => exact continues l rfl
          | transport e => exact stops l rfl
        · cases b with
          | true => exact continues l rfl
          | false => exact stops l rfl
  exact h maxEvents 0 k

/-- A single step of a session offers no message twice. -/
theorem CoordinatorOp.offers_once {start : TransportCoordinator (Logged T)}
    {before : List (CoordinatorOp T)} {op : CoordinatorOp T} (hc : Constructible start.core)
    (h : CoordinatorRun start before k) (hs : op.Step k l) :
    ∃ offers, l.transport.offered = k.transport.offered ++ offers ∧
      (offers.map OutgoingMessage.messageId).Nodup :=
  (CoordinatorOp.progress (h.keyed hc.keyed) hs).once

/-- Whatever a coordinator does between two points of a session, no delivery
rank falls, a message offered for sending in between was pending or failed at
the first point, and no step from there offers a message twice. -/
theorem delivery_never_regresses {start : TransportCoordinator (Logged T)}
    {before ops : List (CoordinatorOp T)} (hc : Constructible start.core)
    (h : CoordinatorRun start before k) (j : CoordinatorRun k ops l) :
    Progress k l ∧ ∀ (op : CoordinatorOp T) m, op.Step l m →
      ∃ offers, m.transport.offered = l.transport.offered ++ offers ∧
        (offers.map OutgoingMessage.messageId).Nodup :=
  ⟨j.progress (h.keyed hc.keyed),fun _ _ hs => CoordinatorOp.offers_once hc (h.append j) hs⟩

end Runs

/-- An adapter that answers sends and hands over events from a script. -/
structure Scripted where
  sends : List (Except TransportError Unit)
  events : List TransportEvent

instance : XmppTransport Scripted where
  connect t _ := (.ok (),t)
  disconnect t _ := (.ok (),t)
  send t _ := (t.sends.headD (.ok ()),{ t with sends := t.sends.tail })
  nextEvent t := (.ok t.events.head?,{ t with events := t.events.tail })

/-- The first send fails, the retry succeeds, a receipt arrives and is repeated. -/
def scriptedStart : TransportCoordinator (Logged Scripted) where
  core := ((MindChatCore.default.addAccount demoSetup).2.openConversation 1 .direct "bob@host" "Bob" 10).2
  transport :=
    { inner :=
        { sends := [.error (.connectionFailed "link down")]
          events := [.deliveryUpdated 1 "bob@host" 1 .delivered,.deliveryUpdated 1 "bob@host" 1 .sent] }
      offered := [] }

def scriptedOps : List (CoordinatorOp Scripted) :=
  [.flushOutbox 1 (fun _ => 0),.flushOutbox 1 (fun _ => 0),.pollNextEvent,.flushOutbox 1 (fun _ => 0),
    .pollNextEvent]

def scriptedQueued : TransportCoordinator (Logged Scripted) :=
  CoordinatorOp.run scriptedStart (.sendText 1 "ada@host" "hello" none 11)

def scriptedEnd : TransportCoordinator (Logged Scripted) := scriptedOps.foldl CoordinatorOp.run scriptedQueued

theorem delivery_never_regresses_scripted :
    (Progress scriptedQueued scriptedEnd ∧ ∀ (op : CoordinatorOp Scripted) m, op.Step scriptedEnd m →
      ∃ offers, m.transport.offered = scriptedEnd.transport.offered ++ offers ∧
        (offers.map OutgoingMessage.messageId).Nodup) ∧
    scriptedEnd.transport.offered.map OutgoingMessage.messageId = [1,1] :=
  ⟨delivery_never_regresses
      (.op (.openConversation 1 .direct "bob@host" "Bob" 10) (.op (.addAccount demoSetup) .default
        (by decide)) (by decide) : Constructible scriptedStart.core)
      (.single ⟨by decide,rfl⟩ : CoordinatorRun scriptedStart [.sendText 1 "ada@host" "hello" none 11]
        scriptedQueued)
      (.cons ⟨by decide,rfl⟩ (.cons ⟨by decide,rfl⟩ (.cons ⟨by decide,rfl⟩ (.cons ⟨by decide,rfl⟩
        (.single ⟨by decide,rfl⟩)))) : CoordinatorRun scriptedQueued scriptedOps scriptedEnd),
    by decide⟩

end MindChat
