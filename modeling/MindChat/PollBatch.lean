import MindChat.FailedCalls
import MindChat.OneConversation
import MindChat.Sessions

/-! One poll of the transport takes a prefix of the queued events. What it does to
the core is what the events among them do that do not fail. -/

namespace MindChat

open MindChatCore

/-- An adapter that hands its queued events over one by one, the oldest first. -/
class QueuedEvents (T : Type) [XmppTransport T] where
  queued : T → List TransportEvent
  result_nextEvent : ∀ t, (XmppTransport.nextEvent t).1 = .ok (queued t).head?
  queued_nextEvent : ∀ t, queued (XmppTransport.nextEvent t).2 = (queued t).tail

export QueuedEvents (queued)

instance : QueuedEvents Scripted where
  queued t := t.events
  result_nextEvent _ := rfl
  queued_nextEvent _ := rfl

theorem TokioXmppTransport.events_retireWorker (t : TokioXmppTransport) (accountId : AccountId) :
    (t.retireWorker accountId).events = t.events := by
  unfold retireWorker
  split <;> rfl

theorem TokioXmppTransport.nextEvent_spec (t : TokioXmppTransport) :
    t.nextEvent.1 = .ok (t.events.map Prod.snd).head? ∧ t.nextEvent.2.events = t.events.tail := by
  unfold nextEvent
  cases h : t.events with
  | nil => exact ⟨rfl,h⟩
  | cons first rest =>
    obtain ⟨i,event⟩ := first
    cases event with
    | disconnected accountId recoverable detail kind => exact ⟨rfl,events_retireWorker _ accountId⟩
    | _ => exact ⟨rfl,rfl⟩

/-- The event channel, whichever worker an event is from. -/
instance : QueuedEvents TokioXmppTransport where
  queued t := t.events.map Prod.snd
  result_nextEvent t := t.nextEvent_spec.1
  queued_nextEvent t := by
    rw [← List.map_tail]
    exact congrArg (List.map Prod.snd) t.nextEvent_spec.2

namespace MindChatCore

def Fails (c : MindChatCore) (event : TransportEvent) : Prop :=
  (c.applyTransportEvent event).1.isOk = false

instance (c : MindChatCore) (event : TransportEvent) : Decidable (c.Fails event) :=
  inferInstanceAs (Decidable (_ = false))

/-- The events that do not fail, each tried in the core its predecessors left. -/
def accepted (c : MindChatCore) : List TransportEvent → List TransportEvent
  | [] => []
  | event :: rest =>
    match c.applyTransportEvent event with
    | (.error _,c) => c.accepted rest
    | (.ok _,c) => event :: c.accepted rest

variable {c : MindChatCore}

theorem fails_iff {event : TransportEvent} :
    c.Fails event ↔ ∃ e, c.applyTransportEvent event = (.error e,c) := by
  unfold Fails
  rcases hr : c.applyTransportEvent event with ⟨e | id,d⟩
  · rw [applyTransportEvent_error hr]
    exact ⟨fun _ => ⟨e,rfl⟩,fun _ => rfl⟩
  · constructor
    · intro h
      cases h
    · rintro ⟨e,h⟩
      cases h

theorem Fails.same {event : TransportEvent} (h : c.Fails event) : (c.applyTransportEvent event).2 = c := by
  obtain ⟨e,h⟩ := fails_iff.mp h
  rw [h]

theorem accepted_cons_of_fails {event : TransportEvent} (h : c.Fails event) (rest : List TransportEvent) :
    c.accepted (event :: rest) = c.accepted rest := by
  obtain ⟨e,h⟩ := fails_iff.mp h
  simp only [accepted,h]

theorem accepted_cons_of_not_fails {event : TransportEvent} (h : ¬ c.Fails event)
    (rest : List TransportEvent) :
    c.accepted (event :: rest) = event :: (c.applyTransportEvent event).2.accepted rest := by
  rcases hr : c.applyTransportEvent event with ⟨e | id,d⟩
  · refine absurd ?_ h
    unfold Fails
    rw [hr]
    rfl
  · simp only [accepted,hr]

theorem applyTransportEvents_accepted (c : MindChatCore) (events : List TransportEvent) :
    c.applyTransportEvents (c.accepted events) = c.applyTransportEvents events := by
  induction events generalizing c with
  | nil => rfl
  | cons event rest ih =>
    have hcons : c.applyTransportEvents (event :: rest) =
        (c.applyTransportEvent event).2.applyTransportEvents rest := rfl
    by_cases h : c.Fails event
    · rw [accepted_cons_of_fails h,hcons,h.same,ih]
    · rw [accepted_cons_of_not_fails h,hcons]
      exact ih _

theorem applyTransportEvents_append (c : MindChatCore) (before after : List TransportEvent) :
    c.applyTransportEvents (before ++ after) =
      (c.applyTransportEvents before).applyTransportEvents after :=
  List.foldl_append

theorem applyTransportEvents_without {before after : List TransportEvent} {event : TransportEvent}
    (h : (c.applyTransportEvents before).Fails event) :
    c.applyTransportEvents (before ++ event :: after) = c.applyTransportEvents (before ++ after) := by
  rw [applyTransportEvents_append,applyTransportEvents_append]
  show ((c.applyTransportEvents before).applyTransportEvent event).2.applyTransportEvents after = _
  rw [h.same]

/-- A text without a body in a valid message for a known account. -/
def Malformed (c : MindChatCore) : TransportEvent → Prop
  | .incomingText accountId _ address _ body _ => (c.accounts.lookup accountId).isSome ∧
      validateConversationAddress address = .ok () ∧ (validateBody body).isOk = false
  | _ => False

/-- In a reached core nothing but a malformed text fails. -/
theorem fails_iff_malformed (h : Grounded c) (event : TransportEvent) :
    c.Fails event ↔ c.Malformed event := by
  cases event with
  | incomingText accountId kind address sender body now =>
    simp only [Fails,Malformed,applyTransportEvent,receiveTransportText]
    cases ha : c.accounts.lookup accountId with
    | none => simp [Except.isOk,Except.toBool]
    | some account =>
      cases hv : validateConversationAddress address with
      | error e => simp [Except.isOk,Except.toBool]
      | ok u =>
        cases hb : validateBody body with
        | error e => simp [Except.isOk,Except.toBool]
        | ok trimmed =>
          have ht : ((c.targetConversation accountId kind address now).2.conversations.lookup
              (c.targetConversation accountId kind address now).1).isSome := by
            unfold targetConversation
            split
            · next v hf => rw [(h.peers.findConversation_some hf).1]; rfl
            · exact Option.isSome_iff_exists.mpr ⟨_,AList.lookup_insert _⟩
          have hr : _ = Except.ok _ := @receiveText_isOk _ _ sender _ _ now ht hb
          rcases hc : (c.targetConversation accountId kind address now).2.receiveText
            (c.targetConversation accountId kind address now).1 sender body now with ⟨e | id,d⟩
          · rw [hc] at hr
            cases hr
          · simp [Except.isOk,Except.toBool]
  | connected | disconnected => simp [Fails,Malformed,applyTransportEvent,Except.isOk,Except.toBool]
  | capabilitiesDiscovered accountId capabilities =>
    simp only [Fails,Malformed,applyTransportEvent,setCapabilities,updateAccount,iff_false]
    cases c.accounts.lookup accountId <;> simp [Except.isOk,Except.toBool]
  | rosterContactUpsert | rosterContactRemoved | contactPresenceUpdated =>
    simp only [Malformed,iff_false,fails_iff]
    rintro ⟨e,he⟩
    simp only [applyTransportEvent] at he
    split at he
    · next hr =>
      cases he
      simp only [syncRosterContact,removeContact,updateContactPresence] at hr
      repeat' split at hr
      all_goals cases hr
    · cases he
  | deliveryUpdated accountId sender messageId state =>
    simp only [Fails,Malformed,applyTransportEvent,iff_false]
    rcases applyDeliveryUpdate_cases c accountId sender messageId state with
      he | ⟨m,v,-,-,-,-,-,-,-,he⟩ <;>
      simp [he,Except.isOk,Except.toBool]

theorem malformed_applyTransportEvent (first event : TransportEvent) :
    (c.applyTransportEvent first).2.Malformed event ↔ c.Malformed event := by
  have hk (accountId : AccountId) : ((c.applyTransportEvent first).2.accounts.lookup accountId).isSome =
      (c.accounts.lookup accountId).isSome := by
    have h := isSome_connection_applyTransportEvents c [first] accountId
    rwa [connection,connection,Option.isSome_map,Option.isSome_map] at h
  cases event with
  | incomingText => simp only [Malformed,hk]
  | _ => rfl

/-- From a reached core, the events that fail on the way are those that fail at its start. -/
theorem accepted_eq_filter (h : Grounded c) (events : List TransportEvent) :
    c.accepted events = events.filter fun event => ¬ c.Fails event := by
  induction events generalizing c with
  | nil => rfl
  | cons first rest ih =>
    by_cases hf : c.Fails first
    · rw [accepted_cons_of_fails hf,ih h,List.filter_cons_of_neg (by simpa using hf)]
    · have hd : Grounded (c.applyTransportEvent first).2 := h.op (.applyTransportEvent first)
      rw [accepted_cons_of_not_fails hf,ih hd,List.filter_cons_of_pos (by simpa using hf)]
      congr 1
      refine List.filter_congr fun event _ => ?_
      rw [decide_eq_decide,fails_iff_malformed h,fails_iff_malformed hd,malformed_applyTransportEvent]

end MindChatCore

namespace TransportCoordinator

variable {T : Type} [XmppTransport T] [QueuedEvents T]

theorem pollNextEvent_empty {k : TransportCoordinator T} (h : queued k.transport = []) :
    k.pollNextEvent = (.ok false,{ k with transport := (XmppTransport.nextEvent k.transport).2 }) := by
  have hr := QueuedEvents.result_nextEvent k.transport
  unfold pollNextEvent
  split <;> rename_i hn <;> rw [hn,h] at hr
  · cases hr
  · rw [hn]
  · cases hr

theorem pollNextEvent_queued {k : TransportCoordinator T} {event : TransportEvent}
    {rest : List TransportEvent} (h : queued k.transport = event :: rest) :
    (k.pollNextEvent.1 = .ok true ∨ ∃ e, k.pollNextEvent.1 = .error (.core e)) ∧
      k.pollNextEvent.2.core = (k.core.applyTransportEvent event).2 := by
  have hr := QueuedEvents.result_nextEvent k.transport
  unfold pollNextEvent
  split <;> rename_i hn <;> rw [hn,h] at hr
  · cases hr
  · cases hr
  · cases hr
    split <;> rename_i ha <;> rw [ha]
    · exact ⟨.inr ⟨_,rfl⟩,rfl⟩
    · exact ⟨.inl rfl,rfl⟩

theorem queued_pollNextEvent (k : TransportCoordinator T) :
    queued k.pollNextEvent.2.transport = (queued k.transport).tail := by
  rw [transport_pollNextEvent]
  exact QueuedEvents.queued_nextEvent k.transport

theorem pollLoop_queued (left processed : ℕ) (k : TransportCoordinator T) :
    (pollLoop left processed k).1 = .ok (processed + min left (queued k.transport).length) ∧
      queued (pollLoop left processed k).2.transport = (queued k.transport).drop left ∧
      (pollLoop left processed k).2.core =
        k.core.applyTransportEvents ((queued k.transport).take left) := by
  induction left generalizing processed k with
  | zero => exact ⟨by simp [pollLoop],rfl,rfl⟩
  | succ left ih =>
    cases h : queued k.transport with
    | nil =>
      have hq := queued_pollNextEvent k
      unfold pollLoop
      rw [pollNextEvent_empty h] at hq ⊢
      exact ⟨by simp,by rw [hq,h]; rfl,rfl⟩
    | cons event rest =>
      obtain ⟨hres,hcore⟩ := pollNextEvent_queued h
      have hq := queued_pollNextEvent k
      have goes : pollLoop (left + 1) processed k = pollLoop left (processed + 1) k.pollNextEvent.2 := by
        conv_lhs => unfold pollLoop
        rcases hk : k.pollNextEvent with ⟨r,l⟩
        rw [hk] at hres
        rcases hres with hr | ⟨e,hr⟩ <;> cases hr <;> rfl
      obtain ⟨h₁,h₂,h₃⟩ := ih (processed + 1) k.pollNextEvent.2
      rw [h,List.tail_cons] at hq
      rw [hq] at h₁ h₂ h₃
      rw [goes]
      refine ⟨?_,h₂,?_⟩
      · rw [h₁,List.length_cons]
        congr 1
        omega
      · rw [h₃,hcore]
        rfl

/-- For every queue and every bound, a poll consumes exactly as many events as both allow,
in order, and leaves the core that the consumed events leave without the failing ones,
which in a reached core can be told beforehand. Taking out any one of them changes nothing. -/
theorem poll_is_resilient (k : TransportCoordinator T) (maxEvents : ℕ) :
    (k.pollTransportEvents maxEvents).1 = .ok (min maxEvents (queued k.transport).length) ∧
      queued (k.pollTransportEvents maxEvents).2.transport = (queued k.transport).drop maxEvents ∧
      (k.pollTransportEvents maxEvents).2.core =
        k.core.applyTransportEvents (k.core.accepted ((queued k.transport).take maxEvents)) ∧
      (Reached k.core → k.core.accepted ((queued k.transport).take maxEvents) =
        ((queued k.transport).take maxEvents).filter fun event => ¬ k.core.Fails event) ∧
      ∀ before event after, (queued k.transport).take maxEvents = before ++ event :: after →
        (k.core.applyTransportEvents before).Fails event →
        (k.pollTransportEvents maxEvents).2.core = k.core.applyTransportEvents (before ++ after) := by
  obtain ⟨h₁,h₂,h₃⟩ := pollLoop_queued maxEvents 0 k
  rw [Nat.zero_add] at h₁
  refine ⟨h₁,h₂,?_,fun hr => accepted_eq_filter hr.grounded _,fun before event after hs hf => ?_⟩
  · rw [applyTransportEvents_accepted]
    exact h₃
  · rw [← applyTransportEvents_without hf,← hs]
    exact h₃

/-- A text without a body and one for an unknown account in front of a connection. -/
def mixedQueue : System where
  core := demoCore
  transport := { TokioXmppTransport.new with
    events := [(0,.incomingText 1 .direct "eve@host" "eve@host" "  " 20),
      (0,.incomingText 7 .direct "eve@host" "eve@host" "hi" 21),(0,.connected 1 {.receipts})] }

theorem poll_is_resilient_mixed :
    mixedQueue.core.accepted (queued mixedQueue.transport) =
        [.incomingText 7 .direct "eve@host" "eve@host" "hi" 21,.connected 1 {.receipts}] ∧
      (mixedQueue.pollTransportEvents 4).2.core = demoCore.applyTransportEvents
        ([] ++ [.incomingText 7 .direct "eve@host" "eve@host" "hi" 21,.connected 1 {.receipts}]) := by
  have h := poll_is_resilient mixedQueue 4
  refine ⟨?_,h.2.2.2.2 [] (.incomingText 1 .direct "eve@host" "eve@host" "  " 20) _ rfl ?_⟩
  rotate_left
  · decide +kernel
  refine (h.2.2.2.1 demoCore_reachable.reached).trans ?_
  decide +kernel

end TransportCoordinator

end MindChat
