import MindChat.Alternation
import MindChat.ClientWorker

/-! What an account is told about its session, over all three workers: that of the
stanza stream, that of the client, and that of the account. -/

namespace MindChat.StanzaStream

variable {ε : Type}

/-- How the parsers of the library leave what an account reads. -/
structure Reader (ε : Type) where
  /-- The domain of a bound address, if it is an address itself. -/
  domain : Jid → Option String
  message : Option String → ε → MessageStanza
  presence : Option String → ε → PresenceStanza
  iq : Iq ε → IqStanza

def TokioXmppEvent.seen (r : Reader ε) : TokioXmppEvent ε → ClientEvent
  | .online boundJid features _ => .online (r.domain boundJid) features.streamManagement
  | .disconnected error => .disconnected error
  | .stanza (.message id content) => .message (r.message id content)
  | .stanza (.presence id content) => .presence (r.presence id content)
  | .stanza (.iq iq) => .iq (r.iq iq)

/-- Events that tell that the session is up, or that it is not. -/
def Event.mark : Event ε → Option Bool
  | .stream (.reset _ _) => some true
  | .stream .resumed => some true
  | .stream .suspended => some false
  | .stream (.fatal _) => some false
  | .stanza _ => none

def TokioXmppEvent.mark : TokioXmppEvent ε → Option Bool
  | .online _ _ _ => some true
  | .disconnected _ => some false
  | .stanza _ => none

end MindChat.StanzaStream

namespace MindChat

def ClientEvent.mark : ClientEvent → Option Bool
  | .online _ _ => some true
  | .disconnected _ => some false
  | _ => none

def TransportEvent.mark : TransportEvent → Option Bool
  | .connected _ _ => some true
  | .disconnected _ _ _ _ => some false
  | _ => none

def WorkerInput.clientEvent? : WorkerInput → Option ClientEvent
  | .clientEvent event _ => some event
  | .connectReady event _ => event
  | _ => none

/-- Whether the session loop takes the session to be live. -/
def Worker.live (w : Worker) : Bool :=
  match w.phase with
  | .session s => s.sessionLive
  | _ => false

theorem filterMap_mark_roster (accountId : AccountId) (items : List RosterItem) :
    (emitRoster accountId items).filterMap TransportEvent.mark = [] := by
  refine List.filterMap_eq_nil_iff.mpr fun event he => ?_
  obtain ⟨item,-,rfl⟩ := List.mem_map.mp he
  split <;> rfl

theorem emitted_events (events : List TransportEvent) :
    emitted (events.map WorkerOutput.event) = events := by
  unfold emitted
  rw [List.filterMap_map]
  exact List.filterMap_some

theorem emitted_append (xs ys : List WorkerOutput) : emitted (xs ++ ys) = emitted xs ++ emitted ys :=
  List.filterMap_append

theorem emitted_stanzas {α : Type} (stanza : α → ClientStanza) (xs : List α) :
    emitted (xs.map fun x => WorkerOutput.stanza (stanza x)) = [] := by
  unfold emitted
  rw [List.filterMap_map]
  exact List.filterMap_eq_nil_iff.mpr fun _ _ => rfl

theorem handleIq_marks (accountId : AccountId) (capabilities : Finset ProtocolCapability)
    (iq : IqStanza) : (emitted (handleIq accountId capabilities iq)).filterMap TransportEvent.mark = [] := by
  unfold handleIq
  split
  · split_ifs
    · split
      · rw [emitted_events,filterMap_mark_roster]
      · rfl
    · split <;> rfl
    · rfl
  · rw [emitted_append,emitted_events,List.filterMap_append,filterMap_mark_roster]
    rfl
  · rfl

/-- An account is told that its session is up or down exactly where its client says so. -/
theorem handleClientEvent_marks (accountId : AccountId) (autoReconnect : Bool) (event : ClientEvent)
    (readings : Readings) (s : SessionState) :
    (emitted (handleClientEvent accountId autoReconnect event readings s).2.2).filterMap
      TransportEvent.mark = event.mark.toList := by
  cases event with
  | online serverJid streamManagement => cases serverJid <;> rfl
  | disconnected error => rfl
  | message stanza =>
    have hreceipts : (translateIncomingReceipts accountId stanza).filterMap TransportEvent.mark = [] := by
      refine List.filterMap_eq_nil_iff.mpr fun event he => ?_
      unfold translateIncomingReceipts at he
      split at he
      · split at he
        · cases he
        · obtain ⟨id,-,rfl⟩ := List.mem_map.mp he
          rfl
      · cases he
    have hmessage : ((translateIncomingMessage accountId stanza readings.receivedAtEpochMs).toList).filterMap
        TransportEvent.mark = [] := by
      refine List.filterMap_eq_nil_iff.mpr fun event he => ?_
      have he := Option.mem_toList.mp he
      unfold translateIncomingMessage at he
      split at he
      · cases he
      · split at he
        · split at he
          · cases he
          · cases he
            rfl
        · cases he
    show (emitted (_ ++ _ ++ _)).filterMap _ = _
    rw [emitted_append,emitted_append,emitted_events,emitted_events,emitted_stanzas,List.append_nil,
      List.filterMap_append,hreceipts,hmessage]
    rfl
  | presence stanza =>
    show (emitted (List.map _ _)).filterMap _ = _
    rw [emitted_events]
    refine List.filterMap_eq_nil_iff.mpr fun event he => ?_
    have he := Option.mem_toList.mp he
    unfold translatePresence at he
    split at he
    · cases he
    · obtain ⟨value,-,rfl⟩ := Option.map_eq_some_iff.mp he
      rfl
  | iq stanza => exact handleIq_marks accountId s.streamCapabilities stanza

namespace Worker

variable {w w' : Worker} {input : WorkerInput} {outputs : List WorkerOutput}

/-- While the session goes on, its last report tells whether it is live. -/
def Agrees (w : Worker) (live : Bool) : Prop := w.phase.IsReturned ∨ w.live = live

theorem live_session {s : SessionState} (hp : w.phase = .session s) : w.live = s.sessionLive := by
  unfold live
  rw [hp]

theorem Agrees.session {live : Bool} {s : SessionState} (ha : w.Agrees live)
    (hp : w.phase = .session s) : s.sessionLive = live := by
  rcases ha with hr | ha
  · exact ((phase_session hp).2 hr).elim
  · rw [← live_session hp,ha]

theorem Agrees.connecting {live : Bool} (ha : w.Agrees live) (hp : w.phase = .connecting) :
    live = false := by
  unfold Agrees Worker.live at ha
  rw [hp] at ha
  rcases ha with hr | ha
  · cases hr
  · exact ha.symm

theorem handle_reports {event : ClientEvent} {readings : Readings} {s : SessionState}
    {live' : Bool} (h : w.handle event readings s = (w',outputs))
    (hn : Alternation.next s.sessionLive event.mark = some live') :
    Alternation.after TransportEvent.mark s.sessionLive (emitted outputs) = some live' ∧
      w'.Agrees live' := by
  have hm : Alternation.after TransportEvent.mark s.sessionLive
      (emitted (handleClientEvent w.accountId w.autoReconnect event readings s).2.2) =
        Alternation.next s.sessionLive event.mark :=
    Alternation.after_of_mark (handleClientEvent_marks w.accountId w.autoReconnect event readings s)
  have hlive : (handleClientEvent w.accountId w.autoReconnect event readings s).2.1.sessionLive = live' := by
    cases event with
    | online serverJid streamManagement =>
      cases hl : s.sessionLive with
      | true => rw [hl] at hn; cases hn
      | false => rw [hl] at hn; cases hn; rfl
    | disconnected | message | presence | iq => cases hn; rfl
  unfold handle at h
  split at h
  · rename_i heq
    rw [heq] at hm hlive
    cases h
    exact ⟨hm.trans hn,.inr hlive⟩
  · rename_i heq
    rw [heq] at hm
    cases h
    exact ⟨hm.trans hn,.inl trivial⟩

theorem Turn.reports {live clientLive next : Bool} (h : w.Turn input w' outputs) (ha : w.Agrees live)
    (hle : live = true → clientLive = true)
    (hn : Alternation.after ClientEvent.mark clientLive input.clientEvent?.toList = some next) :
    ∃ live', Alternation.after TransportEvent.mark live (emitted outputs) = some live' ∧
      w'.Agrees live' ∧ (live' = true → next = true) := by
  have hevent : ∀ {event : ClientEvent} {readings : Readings} {s : SessionState},
      w.handle event readings s = (w',outputs) → s.sessionLive = live →
      input.clientEvent? = some event → ∃ live',
        Alternation.after TransportEvent.mark live (emitted outputs) = some live' ∧
          w'.Agrees live' ∧ (live' = true → next = true) := by
    rintro event readings s hh rfl hi
    rw [hi] at hn
    have hn : Alternation.next clientLive event.mark = some next :=
      (Alternation.after_of_mark rfl).symm.trans hn
    obtain ⟨live',hl,hle'⟩ := Alternation.next_mono hle hn
    obtain ⟨hr,hw⟩ := handle_reports hh hl
    exact ⟨live',hr,hw,hle'⟩
  have hnone : emitted outputs = [] → input.clientEvent? = none → w'.Agrees live → ∃ live',
      Alternation.after TransportEvent.mark live (emitted outputs) = some live' ∧
        w'.Agrees live' ∧ (live' = true → next = true) := by
    intro he hi hw
    rw [hi] at hn
    cases hn
    exact ⟨live,by rw [he,Alternation.after_nil],hw,hle⟩
  cases h with
  | connectingSend | connectingDisconnect | connectingClosed | disconnect | closed =>
    exact hnone rfl rfl (.inl trivial)
  | connectReady readings hp => exact hnone rfl rfl (.inr (ha.connecting hp).symm)
  | connectEvent event readings _ _ hp hh => exact hevent hh (ha.connecting hp).symm rfl
  | connectFailed | connectElapsed | stalledStop | clientEnd => exact ⟨false,rfl,.inl trivial,nofun⟩
  | send s message call outcome hp =>
    refine hnone ?_ rfl ha
    split_ifs <;> rfl
  | ping s hp hl => exact hnone rfl rfl (.inr (show s.sessionLive = live from ha.session hp))
  | watched => exact hnone rfl rfl ha
  | stalled => exact ⟨false,rfl,.inr rfl,nofun⟩
  | clientEvent s event readings _ _ hp hh => exact hevent hh (show s.sessionLive = live from ha.session hp) rfl

end Worker

/-- A run of the worker of an account reports a session as up at most where its client
does, and its session is live exactly if the last report says so. -/
theorem WorkerRun.reports {accountId : AccountId} {autoReconnect : Bool} {inputs : List WorkerInput}
    {w : Worker} {outputs : List WorkerOutput} {clientLive : Bool}
    (h : WorkerRun (.start accountId autoReconnect) inputs w outputs)
    (hc : Alternation.after ClientEvent.mark false (inputs.filterMap WorkerInput.clientEvent?) =
      some clientLive) :
    ∃ live, Alternation.after TransportEvent.mark false (emitted outputs) = some live ∧
      w.Agrees live ∧ (live = true → clientLive = true) := by
  induction inputs using List.reverseRecOn generalizing w outputs clientLive with
  | nil =>
    cases h
    cases hc
    exact ⟨false,rfl,.inr rfl,id⟩
  | append_singleton inputs input ih =>
    rw [List.filterMap_append,Alternation.after_append] at hc
    obtain ⟨before,hb,hc⟩ := Option.bind_eq_some_iff.mp hc
    obtain ⟨⟨w₁,outputs₁⟩,hr,hlast⟩ := h.split
    obtain ⟨live,hl,ha,hle⟩ := ih hr hb
    cases hlast with
    | cons hs hn =>
      cases hn
      obtain ⟨new,hstep,rfl⟩ := Worker.advance_eq_some hs
      have hc : Alternation.after ClientEvent.mark before input.clientEvent?.toList = some clientLive := by
        cases hi : input.clientEvent? <;> simpa [hi] using hc
      obtain ⟨live',hl',ha',hle'⟩ := (Worker.step_cases hstep).reports ha hle hc
      refine ⟨live',?_,ha',hle'⟩
      rw [emitted_append,Alternation.after_append,hl]
      exact hl'

end MindChat

namespace MindChat.StanzaStream

open Relation (ReflTransGen)

variable {ε : Type} {lib : Library ε}

def Standing.live (st : Standing) : Bool := st = .up

theorem Standing.next_live {st st' : Standing} {event : Event ε} (h : st.next event = some st') :
    Alternation.next st.live event.mark = some st'.live := by
  cases next_cases h <;> rfl

theorem Standing.after_live {st st' : Standing} {events : List (Event ε)}
    (h : st.after events = some st') :
    Alternation.after Event.mark st.live events = some st'.live := by
  induction events generalizing st with
  | nil => cases h; rfl
  | cons event events ih =>
    obtain ⟨st₁,hn,h⟩ := Option.bind_eq_some_iff.mp h
    rw [Alternation.after_cons,next_live hn]
    exact ih h

theorem ClientWorker.handleEvent_mark {w w' : ClientWorker ε} {event : Event ε}
    {sent : Option (TokioXmppEvent ε)} (h : w.handleEvent event = some (w',sent)) :
    sent.toList.filterMap TokioXmppEvent.mark = event.mark.toList := by
  unfold handleEvent at h
  split at h
  · split at h <;> cases h <;> rfl
  · cases h; rfl
  · split at h
    · cases h; rfl
    · cases h
  · split at h <;> cases h
    rfl
  · cases h; rfl
  · cases h; rfl

theorem ClientWorker.handleEvents_marks {w w' : ClientWorker ε} {events : List (Event ε)}
    {sent : List (TokioXmppEvent ε)} (h : w.handleEvents events = some (w',sent)) :
    sent.filterMap TokioXmppEvent.mark = events.filterMap Event.mark := by
  induction events generalizing w sent with
  | nil => cases h; rfl
  | cons event events ih =>
    unfold handleEvents at h
    split at h
    · cases h
    · rename_i hw
      split at h
      · cases h
      · rename_i hws
        cases h
        rw [List.filterMap_append,handleEvent_mark hw,ih hws]
        cases hm : event.mark with
        | none => rw [List.filterMap_cons_none hm]; rfl
        | some m => rw [List.filterMap_cons_some hm]; rfl

theorem TokioXmppEvent.mark_seen (r : Reader ε) (event : TokioXmppEvent ε) :
    (event.seen r).mark = event.mark := by
  match event with
  | .online _ _ _ => rfl
  | .disconnected _ => rfl
  | .stanza (.message _ _) => rfl
  | .stanza (.presence _ _) => rfl
  | .stanza (.iq _) => rfl

theorem ClientWorker.handleEvents_seen {w : ClientWorker ε} {events : List (Event ε)}
    {sent : List (TokioXmppEvent ε)} (r : Reader ε) (h : new.handleEvents events = some (w,sent)) :
    (sent.map (TokioXmppEvent.seen r)).filterMap ClientEvent.mark = events.filterMap Event.mark := by
  rw [List.filterMap_map,← handleEvents_marks h]
  exact List.filterMap_congr fun event _ => TokioXmppEvent.mark_seen r event

namespace System

variable {ctr : BitVec 64} {s : System ε} {events : List (Event ε)}

theorem standing_of_prefix (hlib : lib.BindsFull) (h : ReflTransGen (Goes lib) (start ctr) s)
    (hp : events <+: s.events) : ∃ st, (Standing.down false).after events = some st := by
  obtain ⟨st,hst,-⟩ := kept_of_goes hlib h
  obtain ⟨more,hmore⟩ := hp.trans (List.prefix_append s.events s.worker.phase.pending)
  rw [← hmore] at hst
  unfold Standing.after at hst
  rw [List.foldlM_append] at hst
  obtain ⟨st₁,h₁,-⟩ := Option.bind_eq_some_iff.mp hst
  exact ⟨st₁,h₁⟩

/-- Whatever the peer does and the transport answers, the worker of the client can handle
every event of its stream: no address it is reset to lacks its resource, and it is not
resumed before it was reset. -/
theorem client_worker_goes_on (hlib : lib.BindsFull) (h : ReflTransGen (Goes lib) (start ctr) s)
    (hp : events <+: s.events) : ∃ w sent, ClientWorker.new.handleEvents events = some (w,sent) := by
  obtain ⟨st,hst⟩ := standing_of_prefix hlib h hp
  exact ClientWorker.handleEvents_total ClientWorker.knows_new hst

/-- Whatever the peer does and the transport answers, and whatever the worker of an account
receives beside the events of its client: the account is not reported connected twice
without having been reported disconnected in between, and while the session goes on it is
taken to be live exactly if the last report says so. -/
theorem reports_alternate {accountId : AccountId} {autoReconnect : Bool} {inputs : List WorkerInput}
    {worker : Worker} {outputs : List WorkerOutput} {w : ClientWorker ε}
    {sent : List (TokioXmppEvent ε)} (r : Reader ε) (hlib : lib.BindsFull)
    (h : ReflTransGen (Goes lib) (start ctr) s) (hp : events <+: s.events)
    (hclient : ClientWorker.new.handleEvents events = some (w,sent))
    (hinputs : inputs.filterMap WorkerInput.clientEvent? <+: sent.map (TokioXmppEvent.seen r))
    (hrun : WorkerRun (.start accountId autoReconnect) inputs worker outputs) :
    ∃ live, Alternation.after TransportEvent.mark false (emitted outputs) = some live ∧
      ∀ state, worker.phase = .session state → state.sessionLive = live := by
  obtain ⟨st,hst⟩ := standing_of_prefix hlib h hp
  have hseen : Alternation.after ClientEvent.mark false (sent.map (TokioXmppEvent.seen r)) =
      some st.live := by
    rw [Alternation.after_eq_of_marks (ClientWorker.handleEvents_seen r hclient)]
    exact Standing.after_live hst
  obtain ⟨clientLive,hc⟩ := Option.isSome_iff_exists.mp
    (Alternation.isSome_of_prefix hinputs (Option.isSome_iff_exists.mpr ⟨_,hseen⟩))
  obtain ⟨live,hl,ha,-⟩ := hrun.reports hc
  exact ⟨live,hl,fun state hp => ha.session hp⟩

/-- What the frontend is told until the session is resumed. -/
def told : List (Event Unit) :=
  [.stream (.reset ⟨"romeo@example.org",some "orchard"⟩ ⟨true,true⟩),.stream .suspended,
    .stream .resumed,.stanza (.message (some "in") ())]

theorem exists_told : ∃ s, ReflTransGen (Goes withoutPresence) (start 0) s ∧ s.events = told := by
  have hrun : (run withoutPresence anything (interrupted ++ resumption) (start 0)).any
      (fun s => s.events = told) := by decide +kernel
  obtain ⟨s,hs,he⟩ := (Option.any_eq_true _ _).mp hrun
  exact ⟨s,goes_of_run hs,of_decide_eq_true he⟩

theorem client_worker_goes_on_told : ∃ w sent, ClientWorker.new.handleEvents told = some (w,sent) := by
  obtain ⟨s,hs,he⟩ := exists_told
  exact client_worker_goes_on withoutPresence_bindsFull hs (he ▸ List.prefix_refl s.events)

def plainReader : Reader Unit where
  domain _ := some "example.org"
  message id _ := ⟨.chat,none,id,none,[]⟩
  presence _ _ := ⟨none,.available,none,[]⟩
  iq _ := .other

def reconnected : List WorkerInput :=
  [.connectReady (some (.online (some "example.org") true)) ⟨0,0,0⟩,
    .clientEvent (.disconnected ClientWorker.suspended) ⟨1,1,1⟩,
    .clientEvent (.online (some "example.org") true) ⟨2,2,2⟩,.pingTick]

theorem reports_alternate_reconnected : ∃ worker outputs,
    WorkerRun (.start 1 true) reconnected worker outputs ∧
    ∃ live, Alternation.after TransportEvent.mark false (emitted outputs) = some live ∧
      ∀ state, worker.phase = .session state → state.sessionLive = live := by
  obtain ⟨s,hs,he⟩ := exists_told
  have hp : told <+: s.events := he ▸ List.prefix_refl s.events
  refine ⟨_,_,Transition.run_iff_exec.mpr rfl,?_⟩
  exact reports_alternate plainReader withoutPresence_bindsFull hs hp rfl
    ⟨[.message ⟨.chat,none,some "in",none,[]⟩],rfl⟩
    (Transition.run_iff_exec.mpr rfl : WorkerRun (.start 1 true) reconnected _ _)

end System

end MindChat.StanzaStream
