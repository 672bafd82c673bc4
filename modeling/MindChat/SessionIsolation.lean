import MindChat.Sessions

/-! Isolation of sessions: the slot and the projected state of an account move
with its current session, as long as no poll takes an event of an earlier one. -/

namespace MindChat

/-- An event of the account's connection is of the session in the slot; a
`Disconnected` may also come when the slot is empty. -/
def TransportEvent.FreshFor (accountId : AccountId) (slot : Option SessionId)
    (sender : SessionId) : TransportEvent → Prop
  | .connected a _ => a = accountId → slot = some sender
  | .disconnected a _ _ _ => a = accountId → slot = some sender ∨ slot = none
  | _ => True

instance (accountId : AccountId) (slot : Option SessionId) (sender : SessionId)
    (event : TransportEvent) : Decidable (event.FreshFor accountId slot sender) :=
  match event with
  | .connected _ _ => inferInstanceAs (Decidable (_ → _))
  | .disconnected _ _ _ _ => inferInstanceAs (Decidable (_ → _ ∨ _))
  | .capabilitiesDiscovered _ _ | .rosterContactUpsert _ _ _ _ | .rosterContactRemoved _ _
  | .contactPresenceUpdated _ _ _ _ | .incomingText _ _ _ _ _ _ | .deliveryUpdated _ _ _ _ =>
    .isTrue trivial

def TransportEvent.Disconnects (accountId : AccountId) : TransportEvent → Prop
  | .disconnected a _ _ _ => a = accountId
  | _ => False

instance (accountId : AccountId) (event : TransportEvent) :
    Decidable (event.Disconnects accountId) :=
  match event with
  | .disconnected a _ _ _ => inferInstanceAs (Decidable (a = accountId))
  | .connected _ _ | .capabilitiesDiscovered _ _ | .rosterContactUpsert _ _ _ _
  | .rosterContactRemoved _ _ | .contactPresenceUpdated _ _ _ _ | .incomingText _ _ _ _ _ _
  | .deliveryUpdated _ _ _ _ => .isFalse id

/-- The next event with the session that sent it. -/
def TokioXmppTransport.front (t : TokioXmppTransport) : Option (SessionId × TransportEvent) :=
  t.events.head?

/-- No poll takes a connection event of another session than the current one. -/
def PollsFresh (accountId : AccountId) (k : System) : SystemOp → Prop
  | .pollNextEvent => ∀ entry ∈ k.transport.front,
      entry.2.FreshFor accountId (k.transport.workers.lookup accountId) entry.1
  | _ => True

instance (accountId : AccountId) (k : System) (op : SystemOp) :
    Decidable (PollsFresh accountId k op) :=
  match op with
  | .pollNextEvent => inferInstanceAs (Decidable (∀ _ ∈ _, _))
  | .connect _ _ _ _ _ | .disconnect _ _ | .deleteAccount _ _ | .sendText _ _ _ _ _
  | .flushOutbox _ _ _ | .drop | .worker _ _ => .isTrue trivial

def SystemOp.Connects (accountId : AccountId) : SystemOp → Prop
  | .connect a _ _ _ _ => a = accountId
  | _ => False

/-- The user acts on the session of the account. -/
def SystemOp.Touches (accountId : AccountId) : SystemOp → Prop
  | .connect a _ _ _ _ | .disconnect a _ | .deleteAccount a _ => a = accountId
  | .drop => True
  | _ => False

namespace TokioXmppTransport

variable {t t' : TokioXmppTransport} {i : SessionId}

theorem workers_work {input : WorkerInput} (h : t.work i input = some t') :
    t'.workers = t.workers := by
  obtain ⟨s,-,h⟩ := Option.bind_eq_some_iff.mp h
  obtain ⟨r,-,rfl⟩ := Option.map_eq_some_iff.mp h
  rfl

theorem workers_wait (t : TokioXmppTransport) : t.wait.workers = t.workers :=
  wait_invariant (I := fun u => u.workers = t.workers) (p := fun _ => True)
    (fun _ _ _ _ h _ hw => (workers_work hw).trans h) (fun _ _ => trivial) rfl

theorem workers_sendCommand (t : TokioXmppTransport) (command : WorkerCommand) :
    (t.sendCommand i command).workers = t.workers := by
  unfold sendCommand
  split <;> rfl

theorem workers_send (t : TokioXmppTransport) (message : OutgoingMessage) :
    (t.send message).2.workers = t.workers := by
  unfold send
  cases t.workers.lookup message.accountId with
  | none => rfl
  | some i =>
    dsimp only
    split
    · rfl
    · exact (workers_wait _).trans (workers_sendCommand t _)

theorem lookup_disconnect (t : TokioXmppTransport) (a accountId : AccountId) :
    (t.disconnect a).2.workers.lookup accountId =
      if accountId = a then none else t.workers.lookup accountId := by
  unfold disconnect
  cases ha : t.workers.lookup a with
  | none =>
    split_ifs with he
    · rw [he]
      exact ha
    · rfl
  | some i =>
    rw [← Table.lookup_erase_if]
    dsimp only
    split
    · rfl
    · exact congrArg (AList.lookup accountId) ((workers_wait _).trans (workers_sendCommand _ _))

theorem lookup_connect (t : TokioXmppTransport) (request : ConnectionRequest)
    {accountId : AccountId} (h : request.accountId ≠ accountId) :
    (t.connect request).2.workers.lookup accountId = t.workers.lookup accountId := by
  unfold connect
  split
  · rfl
  · split
    · rfl
    · exact AList.lookup_insert_ne (Ne.symm h)

theorem connect_ok {request : ConnectionRequest} (h : t.connect request = (.ok (),t')) :
    t'.workers.lookup request.accountId = some t.sessions.length := by
  unfold connect at h
  split at h
  · cases h
  · split at h
    · cases h
    · cases h
      exact AList.lookup_insert _

theorem workers_drop (t : TokioXmppTransport) : t.drop.workers = ∅ := by
  have run : ∀ (handles : List SessionId) (t : TokioXmppTransport),
      (handles.foldl (fun t j => (t.sendCommand j (.disconnect t.nextCall)).dropHandle j) t).workers =
        t.workers := by
    intro handles
    induction handles with
    | nil => exact fun _ => rfl
    | cons j rest ih => exact fun t => (ih _).trans (workers_sendCommand t _)
  exact run _ _

theorem nextEvent_fst (t : TokioXmppTransport) :
    t.nextEvent.1 = .ok (t.front.map Prod.snd) := by
  unfold nextEvent front
  cases t.events with
  | nil => rfl
  | cons entry rest =>
    obtain ⟨sender,event⟩ := entry
    cases event <;> rfl

theorem lookup_nextEvent (t : TokioXmppTransport) (accountId : AccountId) :
    t.nextEvent.2.workers.lookup accountId =
      if ∃ entry ∈ t.front, entry.2.Disconnects accountId then none
      else t.workers.lookup accountId := by
  unfold nextEvent front
  cases t.events with
  | nil => simp
  | cons entry rest =>
    obtain ⟨sender,event⟩ := entry
    cases event with
    | disconnected a recoverable detail kind =>
      have hr : ({ t with events := rest }.retireWorker a).workers.lookup accountId =
          if accountId = a then none else t.workers.lookup accountId := by
        unfold retireWorker
        cases ha : t.workers.lookup a with
        | none =>
          split_ifs with he
          · rw [he]
            exact ha
          · rfl
        | some i => exact Table.lookup_erase_if t.workers a accountId
      refine hr.trans (if_congr ?_ rfl rfl)
      simp [TransportEvent.Disconnects,eq_comm]
    | _ => simp [TransportEvent.Disconnects]

end TokioXmppTransport

namespace TransportCoordinator

variable {T : Type} [XmppTransport T] {k k' : TransportCoordinator T} {a accountId : AccountId}

theorem connection_connectWithProxy (h : a ≠ accountId) (password : String)
    (proxy : Option ProxyConfig) (proxyPassword : Option String) :
    (k.connectWithProxy a password proxy proxyPassword).2.core.connection accountId =
      k.core.connection accountId :=
  core_connectWithProxy (R := fun c d => d.connection accountId = c.connection accountId)
    (fun _ => rfl) (fun _ _ _ h j => j.trans h)
    (fun c state _ => (c.connection_setConnectionState a accountId state).trans (if_neg h)) _ _ _

theorem connectWithProxy_ok {password : String} {proxy : Option ProxyConfig}
    {proxyPassword : Option String}
    (h : k.connectWithProxy a password proxy proxyPassword = (.ok (),k')) :
    k'.core.connection a = some .connecting ∧ ∃ request : ConnectionRequest,
      request.accountId = a ∧ XmppTransport.connect k.transport request = (.ok (),k'.transport) := by
  unfold connectWithProxy at h
  cases ha : k.core.accounts.lookup a with
  | none =>
    rw [ha] at h
    cases h
  | some account =>
    have h₁ := k.core.connection_setConnectionState a a .connecting
    rw [if_pos rfl,MindChatCore.connection,MindChatCore.connection,ha] at h₁
    rw [ha] at h
    dsimp only at h
    cases hc : k.core.setConnectionState a .connecting with
    | mk r c =>
      rw [hc] at h h₁
      cases r with
      | error e => cases h
      | ok u =>
        dsimp only at h
        split at h
        · rename_i t ht
          cases h
          exact ⟨h₁,_,rfl,ht⟩
        · split at h <;> cases h

theorem connection_disconnect (h : a ≠ accountId) :
    (k.disconnect a).2.core.connection accountId = k.core.connection accountId := by
  refine core_disconnect (R := fun c d => d.connection accountId = c.connection accountId)
    (fun _ => rfl) ?_
  rw [MindChatCore.connection_applyTransportEvent,TransportEvent.projects,if_neg h]
  exact Option.map_id'

theorem core_disconnect_error {e : TransportError}
    (h : (XmppTransport.disconnect k.transport a).1 = .error e) : (k.disconnect a).2.core = k.core := by
  unfold disconnect
  cases hd : XmppTransport.disconnect k.transport a with
  | mk r t =>
    rw [hd] at h
    cases h
    rfl

theorem disconnect_ok (h : k.disconnect a = (.ok (),k')) : k'.core.connection a ≠ some .online := by
  unfold disconnect at h
  split at h
  · cases h
  · split at h
    · cases h
    · rename_i hd
      cases h
      have hc := k.core.connection_applyTransportEvent (.disconnected a true none .cancelled) a
      rw [hd] at hc
      rw [hc]
      cases k.core.connection a <;> simp [TransportEvent.projects]

end TransportCoordinator

namespace System

variable {k k' l : System} {op : SystemOp} {accountId : AccountId}

/-- What the account's session shows: its slot and its projected state. -/
def view (k : System) (accountId : AccountId) : Option SessionId × Option ConnectionState :=
  (k.transport.workers.lookup accountId,k.core.connection accountId)

theorem view_eq (hw : l.transport.workers.lookup accountId = k.transport.workers.lookup accountId)
    (hc : l.core.connection accountId = k.core.connection accountId) :
    l.view accountId = k.view accountId := by
  rw [view,view,hw,hc]

/-- Only polls and the user's actions on the account move its session. -/
theorem step_view (hs : k.step op = some l) (ht : ¬ op.Touches accountId)
    (hp : op ≠ .pollNextEvent) : l.view accountId = k.view accountId := by
  cases op with
  | connect a password proxy proxyPassword prepared =>
    cases hs
    refine view_eq ?_ (TransportCoordinator.connection_connectWithProxy ht password proxy
      proxyPassword)
    exact TransportCoordinator.transport_connectWithProxy (k := k.preparing prepared)
      (P := fun t => t.workers.lookup accountId = k.transport.workers.lookup accountId)
      (fun t request hr h => (t.lookup_connect request (hr ▸ ht)).trans h) rfl _ _ _
  | disconnect a meanwhile =>
    cases hs
    refine view_eq ?_ (TransportCoordinator.connection_disconnect ht)
    unfold disconnectCall
    rw [TransportCoordinator.transport_disconnect]
    exact (TokioXmppTransport.lookup_disconnect _ a accountId).trans (if_neg (Ne.symm ht))
  | deleteAccount a meanwhile =>
    cases hs
    have hc := (k.core.connection_deleteAccount a accountId).trans (if_neg ht)
    unfold deleteAccount
    split
    · rfl
    · refine view_eq ?_ hc
      dsimp only
      split
      · exact (TokioXmppTransport.lookup_disconnect _ a accountId).trans (if_neg (Ne.symm ht))
      · rfl
  | sendText conversationId sender body inReplyTo now =>
    cases hs
    exact view_eq rfl (MindChatCore.connection_of_accounts (k.core.accounts_sendText ..) accountId)
  | flushOutbox a elapsed meanwhile =>
    cases hs
    refine view_eq ?_ (MindChatCore.connection_of_accounts
      (TransportCoordinator.accounts_flushOutbox (k.waiting meanwhile) elapsed a) accountId)
    exact TransportCoordinator.transport_flushOutbox (k := k.waiting meanwhile)
      (P := fun t => t.workers.lookup accountId = k.transport.workers.lookup accountId)
      (fun t message h => (congrArg (AList.lookup accountId) (t.workers_send message)).trans h) rfl
      elapsed a
  | pollNextEvent => exact (hp rfl).elim
  | drop => exact (ht trivial).elim
  | worker session input =>
    obtain ⟨t,hw,rfl⟩ := Option.map_eq_some_iff.mp hs
    exact view_eq (congrArg (AList.lookup accountId) (TokioXmppTransport.workers_work hw)) rfl

theorem connection_poll (k : System) (accountId : AccountId) :
    k.pollNextEvent.2.core.connection accountId = (k.core.connection accountId).map
      (fun state => (k.transport.front.bind (fun entry => entry.2.projects accountId)).getD state) := by
  have hf : (XmppTransport.nextEvent k.transport).1 = .ok (k.transport.front.map Prod.snd) :=
    k.transport.nextEvent_fst
  unfold TransportCoordinator.pollNextEvent
  cases hn : XmppTransport.nextEvent k.transport with
  | mk r t =>
    rw [hn] at hf
    cases hf
    cases k.transport.front with
    | none => exact Option.map_id'.symm
    | some entry =>
      have hc := k.core.connection_applyTransportEvent entry.2 accountId
      simp only [Option.map_some,Option.bind_some]
      split <;> rename_i hd <;> rw [hd] at hc <;> exact hc

theorem lookup_poll (k : System) (accountId : AccountId) :
    k.pollNextEvent.2.transport.workers.lookup accountId =
      if ∃ entry ∈ k.transport.front, entry.2.Disconnects accountId then none
      else k.transport.workers.lookup accountId := by
  rw [TransportCoordinator.transport_pollNextEvent]
  exact k.transport.lookup_nextEvent accountId

end System

theorem TransportEvent.projects_of_not_disconnects {event : TransportEvent} {accountId : AccountId}
    (h : ¬ event.Disconnects accountId) :
    event.projects accountId = none ∨
      event.projects accountId = some .online ∧ ∃ capabilities, event = .connected accountId capabilities := by
  cases event with
  | connected a capabilities =>
    by_cases ha : a = accountId
    · subst ha
      exact .inr ⟨if_pos rfl,capabilities,rfl⟩
    · exact .inl (if_neg ha)
  | disconnected a recoverable detail kind => exact .inl (if_neg h)
  | _ => exact .inl rfl

/-- Without a slot and not online: the account after a disconnect. -/
structure Unslotted (accountId : AccountId) (k : System) : Prop where
  slot : k.transport.workers.lookup accountId = none
  state : k.core.connection accountId ≠ some .online

/-- The session `n` holds the slot, connecting or online. -/
structure Held (accountId : AccountId) (n : SessionId) (k : System) : Prop where
  slot : k.transport.workers.lookup accountId = some n
  state : k.core.connection accountId = some .connecting ∨ k.core.connection accountId = some .online

/-- No poll takes a `Disconnected` of the account from session `n` itself. -/
def SparesSession (accountId : AccountId) (n : SessionId) (k : System) : SystemOp → Prop
  | .pollNextEvent => ∀ entry ∈ k.transport.front,
      ¬ (entry.1 = n ∧ entry.2.Disconnects accountId)
  | _ => True

instance (accountId : AccountId) (n : SessionId) (k : System) (op : SystemOp) :
    Decidable (SparesSession accountId n k op) :=
  match op with
  | .pollNextEvent => inferInstanceAs (Decidable (∀ _ ∈ _, ¬ (_ ∧ _)))
  | .connect _ _ _ _ _ | .disconnect _ _ | .deleteAccount _ _ | .sendText _ _ _ _ _
  | .flushOutbox _ _ _ | .drop | .worker _ _ => .isTrue trivial

def Unheard (n : SessionId) (k : System) : SystemOp → Prop
  | .pollNextEvent => ∀ entry ∈ k.transport.front, entry.1 ≠ n
  | _ => True

section Steps

variable {accountId : AccountId} {n : SessionId} {k l : System} {op : SystemOp}

theorem Unslotted.of_view (h : Unslotted accountId k) (hv : l.view accountId = k.view accountId) :
    Unslotted accountId l := by
  obtain ⟨hw,hc⟩ := Prod.mk.inj hv
  exact ⟨hw.trans h.slot,hc ▸ h.state⟩

theorem Held.of_view (h : Held accountId n k) (hv : l.view accountId = k.view accountId) :
    Held accountId n l := by
  obtain ⟨hw,hc⟩ := Prod.mk.inj hv
  exact ⟨hw.trans h.slot,hc ▸ h.state⟩

theorem Unslotted.disconnect (h : Unslotted accountId k)
    (meanwhile : List (SessionId × WorkerInput)) :
    Unslotted accountId (k.disconnectCall accountId meanwhile).2 := by
  have hd : (XmppTransport.disconnect (k.waiting [meanwhile]).transport accountId).2.workers.lookup
      accountId = none := (TokioXmppTransport.lookup_disconnect _ accountId accountId).trans (if_pos rfl)
  have he : (XmppTransport.disconnect (k.waiting [meanwhile]).transport accountId).1 =
      .error (.connectionFailed "account has no active XMPP worker") := by
    change ((k.waiting [meanwhile]).transport.disconnect accountId).1 = _
    unfold TokioXmppTransport.disconnect
    rw [show (k.waiting [meanwhile]).transport.workers.lookup accountId = none from h.slot]
  refine ⟨?_,?_⟩
  · rwa [System.disconnectCall,TransportCoordinator.transport_disconnect]
  · rw [System.disconnectCall,TransportCoordinator.core_disconnect_error he]
    exact h.state

theorem Unslotted.deleteAccount (h : Unslotted accountId k) :
    Unslotted accountId (System.deleteAccount k accountId).2 := by
  have hd := (k.core.connection_deleteAccount accountId accountId).trans (if_pos rfl)
  unfold System.deleteAccount
  split
  · exact h
  · refine ⟨?_,fun hc => ?_⟩
    · dsimp only
      split
      · exact (TokioXmppTransport.lookup_disconnect _ accountId accountId).trans (if_pos rfl)
      · exact h.slot
    · have hn : (none : Option ConnectionState) = some .online := hd.symm.trans hc
      cases hn

theorem Unslotted.drop (h : Unslotted accountId k) :
    Unslotted accountId { k with transport := k.transport.drop } := by
  refine ⟨?_,h.state⟩
  change k.transport.drop.workers.lookup accountId = none
  rw [TokioXmppTransport.workers_drop]
  rfl

theorem Unslotted.poll (h : Unslotted accountId k) (hf : PollsFresh accountId k .pollNextEvent) :
    Unslotted accountId k.pollNextEvent.2 := by
  refine ⟨by rw [System.lookup_poll,h.slot,ite_self],?_⟩
  rw [System.connection_poll]
  intro hc
  obtain ⟨state,hstate,ho⟩ := Option.map_eq_some_iff.mp hc
  have unmoved : ¬ state = .online := fun he => h.state (hstate.trans (congrArg some he))
  cases hfront : k.transport.front with
  | none =>
    rw [hfront] at ho
    exact unmoved ho
  | some entry =>
    obtain ⟨sender,event⟩ := entry
    have hfresh := hf (sender,event) hfront
    rw [hfront,Option.bind_some] at ho
    cases event with
    | connected a capabilities =>
      by_cases ha : a = accountId
      · have hslot := hfresh ha
        rw [h.slot] at hslot
        cases hslot
      · rw [TransportEvent.projects,if_neg ha] at ho
        exact unmoved ho
    | disconnected a recoverable detail kind =>
      simp only [TransportEvent.projects] at ho
      split_ifs at ho
      · cases ho
      · cases ho
      · exact unmoved ho
    | _ => exact unmoved ho

theorem Unslotted.step (h : Unslotted accountId k) (hf : PollsFresh accountId k op)
    (hn : ¬ op.Connects accountId) (hs : k.step op = some l) : Unslotted accountId l := by
  by_cases ht : op.Touches accountId
  · cases op with
    | connect a password proxy proxyPassword prepared => exact (hn ht).elim
    | disconnect a meanwhile =>
      cases hs
      obtain rfl : a = accountId := ht
      exact h.disconnect meanwhile
    | deleteAccount a meanwhile =>
      cases hs
      obtain rfl : a = accountId := ht
      exact Unslotted.deleteAccount (k := k.waiting [meanwhile]) ⟨h.slot,h.state⟩
    | drop =>
      cases hs
      exact h.drop
    | _ => exact ht.elim
  · by_cases hp : op = .pollNextEvent
    · subst hp
      cases hs
      exact h.poll hf
    · exact h.of_view (System.step_view hs ht hp)

/-- A poll that is fresh and spares the session takes no `Disconnected` of it. -/
theorem Held.not_disconnects (h : Held accountId n k) (hf : PollsFresh accountId k .pollNextEvent)
    (hc : SparesSession accountId n k .pollNextEvent) :
    ∀ entry ∈ k.transport.front, ¬ entry.2.Disconnects accountId := by
  rintro ⟨sender,event⟩ hm hd
  have hfresh := hf _ hm
  cases event with
  | disconnected a recoverable detail kind =>
    rw [h.slot] at hfresh
    rcases hfresh hd with he | he
    · exact hc _ hm ⟨(Option.some.inj he).symm,hd⟩
    · cases he
  | _ => exact hd.elim

theorem Held.step (h : Held accountId n k) (hf : PollsFresh accountId k op)
    (hc : SparesSession accountId n k op) (ht : ¬ op.Touches accountId) (hs : k.step op = some l) :
    Held accountId n l := by
  by_cases hp : op = .pollNextEvent
  · subst hp
    cases hs
    have hd := h.not_disconnects hf hc
    refine ⟨?_,?_⟩
    · rw [System.lookup_poll,if_neg (fun ⟨entry,hm,he⟩ => hd entry hm he)]
      exact h.slot
    · rw [System.connection_poll]
      cases hfront : k.transport.front with
      | none =>
        rw [Option.bind_none]
        simp only [Option.getD_none,Option.map_id']
        exact h.state
      | some entry =>
        rw [Option.bind_some]
        rcases TransportEvent.projects_of_not_disconnects (hd entry hfront) with hn | ⟨ho,-⟩
        · rw [hn]
          simp only [Option.getD_none,Option.map_id']
          exact h.state
        · rw [ho]
          rcases h.state with hstate | hstate <;> rw [hstate] <;> exact .inr rfl
  · exact h.of_view (System.step_view hs ht hp)

theorem Held.step_unheard (h : Held accountId n k)
    (hstate : k.core.connection accountId = some .connecting) (hf : PollsFresh accountId k op)
    (hu : Unheard n k op) (ht : ¬ op.Touches accountId) (hs : k.step op = some l) :
    Held accountId n l ∧ l.core.connection accountId = some .connecting := by
  by_cases hp : op = .pollNextEvent
  · subst hp
    have hc : SparesSession accountId n k .pollNextEvent := fun entry hm he => hu entry hm he.1
    refine ⟨h.step hf hc ht hs,?_⟩
    cases hs
    rw [System.connection_poll,hstate]
    cases hfront : k.transport.front with
    | none => rfl
    | some entry =>
      obtain ⟨sender,event⟩ := entry
      rcases TransportEvent.projects_of_not_disconnects (h.not_disconnects hf hc _ hfront) with
        hn | ⟨-,capabilities,hcon⟩
      · dsimp only at hn
        rw [Option.bind_some,hn]
        rfl
      · dsimp only at hcon
        subst hcon
        have hslot := hf _ hfront rfl
        rw [h.slot] at hslot
        exact (hu _ hfront (Option.some.inj hslot).symm).elim
  · have hv := System.step_view hs ht hp
    exact ⟨h.of_view hv,(Prod.mk.inj hv).2.trans hstate⟩

end Steps

/-- While polls are fresh, (a) a disconnected account is not online until it is
connected again, and (b) a new session keeps its slot, connecting or online, until
the user acts or its own `Disconnected` is polled; until any event of its own is
polled it is connecting. -/
theorem session_isolation (accountId : AccountId) :
    (∀ (k k' l : System) meanwhile ops,
      k.disconnectCall accountId meanwhile = (.ok (),k') →
      SystemRun (PollsFresh accountId) k' ops l → (∀ op ∈ ops, ¬ op.Connects accountId) →
      l.core.connection accountId ≠ some .online) ∧
    (∀ (k k' l : System) password proxy proxyPassword prepared ops,
      k.connectCall accountId password proxy proxyPassword prepared = (.ok (),k') →
      (∀ op ∈ ops, ¬ op.Touches accountId) →
      (SystemRun (fun m op => PollsFresh accountId m op ∧
          SparesSession accountId k.transport.sessions.length m op) k' ops l →
        Held accountId k.transport.sessions.length l) ∧
      (SystemRun (fun m op => PollsFresh accountId m op ∧
          Unheard k.transport.sessions.length m op) k' ops l →
        Held accountId k.transport.sessions.length l ∧
          l.core.connection accountId = some .connecting)) := by
  refine ⟨fun k k' l meanwhile ops hd hr hn => ?_,
    fun k k' l password proxy proxyPassword prepared ops hc ht => ?_⟩
  · have hstart : Unslotted accountId k' := by
      refine ⟨?_,TransportCoordinator.disconnect_ok hd⟩
      have hw := TransportCoordinator.transport_disconnect (k.waiting [meanwhile]) accountId
      rw [← System.disconnectCall,hd] at hw
      rw [hw]
      exact (TokioXmppTransport.lookup_disconnect _ accountId accountId).trans (if_pos rfl)
    exact (hr.invariant_of_labels (I := Unslotted accountId)
      (fun _ _ _ hn hi hs => hi.step hs.1 hn hs.2) hn hstart).state
  · obtain ⟨hstate,request,rfl,ht'⟩ := TransportCoordinator.connectWithProxy_ok hc
    have hslot : k'.transport.workers.lookup request.accountId = some k.transport.sessions.length :=
      TokioXmppTransport.connect_ok (t := (k.preparing prepared).transport) ht'
    have hstart : Held request.accountId k.transport.sessions.length k' := ⟨hslot,.inl hstate⟩
    refine ⟨fun hr => ?_,fun hr => ?_⟩
    · exact hr.invariant_of_labels (I := Held request.accountId k.transport.sessions.length)
        (fun _ _ _ ht hi hs => hi.step hs.1.1 hs.1.2 ht hs.2) ht hstart
    · exact hr.invariant_of_labels
        (I := fun m => Held request.accountId k.transport.sessions.length m ∧
          m.core.connection request.accountId = some .connecting)
        (fun _ _ _ ht hi hs => hi.1.step_unheard hi.2 hs.1.1 hs.1.2 ht hs.2) ht ⟨hstart,hstate⟩

def adaOnline : System :=
  (Transition.exec System.step adaOffline
    [.connect 1 "secret" none none (.ok ()),
      .worker 0 (.connectReady (some (.online none false)) ⟨0,0,0⟩)]).getD adaOffline

def adaConnecting : System := (adaOffline.connectCall 1 "secret" none none (.ok ())).2

def adaDisconnected : System :=
  (System.disconnectCall adaOnline.pollNextEvent.2 1 [(0,.disconnect 0 .closed)]).2

theorem session_isolation_fresh :
    adaDisconnected.pollNextEvent.2.core.connection 1 ≠ some .online ∧
      Held 1 0 adaOnline.pollNextEvent.2 :=
  ⟨(session_isolation 1).1 adaOnline.pollNextEvent.2 adaDisconnected _ [(0,.disconnect 0 .closed)]
      [.pollNextEvent] rfl (Transition.run_meeting_iff_exec.mpr rfl)
      (fun op h => by cases List.mem_singleton.mp h; exact id),
    ((session_isolation 1).2 adaOffline adaConnecting _ "secret" none none (.ok ())
      [.worker 0 (.connectReady (some (.online none false)) ⟨0,0,0⟩),.pollNextEvent] rfl
      (fun op h => by
        rcases List.mem_cons.mp h with rfl | h
        · exact id
        · cases List.mem_singleton.mp h
          exact id)).1
      (.cons ⟨⟨trivial,trivial⟩,rfl⟩ (.single ⟨by decide,rfl⟩))⟩

/-- The `Connected` of a session that the user has ended is still queued. -/
def adaLeaving : System := (adaOnline.disconnectCall 1 [(0,.disconnect 0 .closed)]).2

def adaRetrying : System :=
  (((Transition.exec System.step adaOffline
    [.connect 1 "secret" none none (.ok ()),
      .worker 0 (.connectFailed ⟨"refused",true,.networkLost⟩),
      .disconnect 1 []]).getD adaOffline).connectCall 1 "secret" none none (.ok ())).2

theorem stale_events_move_session :
    (adaOnline.disconnectCall 1 [(0,.disconnect 0 .closed)]).1 = .ok () ∧
      adaLeaving.pollNextEvent.2.core.connection 1 = some .online ∧
    adaRetrying.transport.workers.lookup 1 = some 1 ∧
      adaRetrying.core.connection 1 = some .connecting ∧
      (adaRetrying.transport.front.map Prod.fst) = some 0 ∧
      adaRetrying.pollNextEvent.2.transport.workers.lookup 1 = none ∧
      adaRetrying.pollNextEvent.2.core.connection 1 = some .offline :=
  ⟨rfl,by decide,by decide,by decide,by decide,by decide,by decide⟩

end MindChat
