import MindChat.Reconnector
import MindChat.SessionReports

/-! Why an account is told that it was disconnected: from the logins of the reconnector
through the stanza stream and the client to the worker of the account. -/

namespace MindChat.StanzaStream

open Relation (ReflTransGen)

variable {ε : Type} {lib : Library ε} {c : C2s}

/-- The connector of an account acts: it fills a slot with what a cycle came to, and never
drops one that somebody waits for. -/
def Action.From (c : C2s) : Action ε → Prop
  | .connect features identity => ∃ seed attempts,
    (c.reconnect (.newWithDefaultBudget seed) attempts).ending = some (.filled (.ok (features,identity)))
  | .connectFails error => ∃ seed attempts,
    (c.reconnect (.newWithDefaultBudget seed) attempts).ending = some (.filled (.error error))
  | .connectorDrops => False
  | _ => True

/-- A slot whose error, if any, a cycle ended with. -/
def WorkerStream.Founded (c : C2s) : WorkerStream ε → Prop
  | .connecting (.filled (.error error)) _ => c.Terminal error
  | _ => True

namespace WorkerStream

variable {stream stream' : WorkerStream ε} {io io' : Io ε}

/-- A stream is given up only for the error in its slot. -/
theorem turn_founded {event : Turn (Option (WorkerEvent ε))} (hs : stream.Founded c)
    (h : stream.turn lib io = (event,stream',io')) :
    stream'.Founded c ∧ ∀ error, event = .event (some (.fatal error)) → c.Terminal error := by
  match stream with
  | .terminated => cases h; exact ⟨trivial,nofun⟩
  | .connecting .unassigned sm => cases h; exact ⟨trivial,nofun⟩
  | .connecting .waiting sm => cases h; exact ⟨trivial,nofun⟩
  | .connecting .dropped sm => cases h; exact ⟨trivial,nofun⟩
  | .connecting (.filled (.error error)) sm =>
    cases h
    exact ⟨trivial,fun _ he => by cases he; exact hs⟩
  | .connecting (.filled (.ok (features,identity))) sm =>
    unfold turn at h
    cases hn : NegotiationState.new features sm <;> simp only [hn] at h <;> cases h
    · exact ⟨trivial,nofun⟩
    · exact ⟨trivial,nofun⟩
  | .connected substate features identity =>
    unfold turn at h
    cases hp : substate.poll lib identity features io with
    | mk t rest =>
      obtain ⟨substate',io₁⟩ := rest
      simp only [hp] at h
      match t with
      | .panicked => cases h; exact ⟨trivial,nofun⟩
      | .pending => cases h; exact ⟨trivial,nofun⟩
      | .again => cases h; exact ⟨trivial,nofun⟩
      | .event (.disconnect sm error) => cases h; exact ⟨trivial,nofun⟩
      | .event (.remoteShutdown sm) => cases h; exact ⟨trivial,nofun⟩
      | .event .localShutdownRequested => cases h; exact ⟨trivial,nofun⟩
      | .event (.worker event) =>
        cases ConnectedState.poll_emits hp <;> cases h <;> exact ⟨trivial,nofun⟩

theorem pollDuplex_founded {answers : List (Answers ε)} {event : Turn (Option (WorkerEvent ε))}
    (hs : stream.Founded c) (h : stream.pollDuplex lib answers io = (event,stream',io')) :
    stream'.Founded c ∧ ∀ error, event = .event (some (.fatal error)) → c.Terminal error := by
  induction answers generalizing stream io with
  | nil => cases h; exact ⟨hs,fun _ he => by cases he⟩
  | cons answer answers ih =>
    unfold pollDuplex at h
    cases ht : stream.turn lib { io with answers := answer } with
    | mk t rest =>
      obtain ⟨stream₁,io₁⟩ := rest
      have hl := turn_founded hs ht
      rw [ht] at h
      cases t with
      | again => exact ih hl.1 h
      | panicked | pending => cases h; exact ⟨hl.1,fun _ he => by cases he⟩
      | event event => cases h; exact hl

theorem pollWrites_founded (hs : stream.Founded c) (h : stream.pollWrites lib io = some (stream',io')) :
    stream'.Founded c := by
  match stream with
  | .terminated => cases h; exact hs
  | .connecting slot sm => cases h; exact hs
  | .connected substate features identity =>
    simp only [pollWrites,Option.map_eq_some_iff] at h
    obtain ⟨⟨substate',io₁⟩,-,he⟩ := h
    cases he
    trivial

end WorkerStream

namespace System

variable {s s' : System ε} {ctr : BitVec 64}

/-- Whatever can happen to a stream whose connector is that of the account. -/
inductive Driven (lib : Library ε) (c : C2s) : System ε → System ε → Prop
  | step {s s' : System ε} {action : Action ε} (hc : action.From c) (h : s.step lib action = .moved s') :
    Driven lib c s s'
  | poll {s s' : System ε} {answers : List (Answers ε)} (hrun : s.worker.phase = .running)
    (h : s.poll lib answers = .moved s') : Driven lib c s s'
  | wire {s : System ε} (net : XmppStream ε) : Driven lib c s { s with net := net }

theorem Driven.goes (h : Driven lib c s s') : Goes lib s s' := by
  cases h with
  | step _ h => exact .step h
  | poll hrun h => exact .poll hrun h
  | wire net => exact .wire net

/-- The errors in the slot, and those that the frontend is told or about to be told, are
such that a cycle may end with them. -/
structure Founded (c : C2s) (s : System ε) : Prop where
  stream : s.worker.stream.Founded c
  events : ∀ error, .stream (.fatal error) ∈ s.events ++ s.worker.phase.pending → c.Terminal error

theorem founded_start (ctr : BitVec 64) : (start ctr : System ε).Founded c := ⟨trivial,nofun⟩

theorem founded_of_idle (hp : s.worker.phase.pending = []) (hs : s.worker.stream.Founded c)
    (he : ∀ error, .stream (.fatal error) ∈ s.events → c.Terminal error) : s.Founded c :=
  ⟨hs,fun error hm => he error (by rwa [hp,List.append_nil] at hm)⟩

theorem Founded.told (hf : s.Founded c) (error : XmppError) (hm : .stream (.fatal error) ∈ s.events) :
    c.Terminal error := hf.events error (List.mem_append_left _ hm)

theorem founded_of_sending {event : Event ε} {after : After} (hp : s.worker.phase = .sending event after)
    (hs : s.worker.stream.Founded c)
    (he : ∀ error, .stream (.fatal error) ∈ s.events → c.Terminal error)
    (hn : ∀ error, event = .stream (.fatal error) → c.Terminal error) : s.Founded c := by
  refine ⟨hs,fun error hm => ?_⟩
  rw [hp] at hm
  rcases List.mem_append.mp hm with hm | hm
  · exact he error hm
  · exact hn error (List.mem_singleton.mp hm).symm

theorem handle_founded {event : Option (WorkerEvent ε)} {worker : StanzaStreamWorker ε}
    (hf : s.Founded c) (hrun : s.worker.phase = .running)
    (hfatal : ∀ error, event = some (.fatal error) → c.Terminal error)
    (h : s.worker.handle lib event = some worker) : Founded c { s with worker := worker } := by
  have hidle : s.worker.phase.pending = [] := by rw [hrun]; rfl
  match event with
  | none => cases h; exact founded_of_idle rfl hf.stream hf.told
  | some (.reset boundJid features) => cases h; exact founded_of_sending rfl hf.stream hf.told nofun
  | some .disconnected => cases h; exact founded_of_sending rfl hf.stream hf.told nofun
  | some .resumed => cases h; exact founded_of_sending rfl hf.stream hf.told nofun
  | some (.stanza stanza) => cases h; exact founded_of_sending rfl hf.stream hf.told nofun
  | some (.fatal error) =>
    cases h
    exact founded_of_sending rfl hf.stream hf.told fun e he => by cases he; exact hfatal error rfl
  | some .reconnectAborted => cases h
  | some (.parseError e) =>
    cases h
    refine founded_of_idle hidle ?_ hf.told
    show (s.worker.stream.startSendStreamError _).Founded c
    unfold WorkerStream.startSendStreamError
    split <;> trivial
  | some .softTimeout =>
    unfold StanzaStreamWorker.handle at h
    dsimp only at h
    split at h
    · rename_i stream hq
      cases h
      refine founded_of_idle hidle ?_ hf.told
      show stream.Founded c
      obtain ⟨sm,features,identity,-,rfl⟩ := WorkerStream.queueSmRequest_cases hq
      trivial
    · cases h; exact founded_of_idle hidle hf.stream hf.told

theorem poll_founded {answers : List (Answers ε)} (hf : s.Founded c) (hrun : s.worker.phase = .running)
    (h : s.poll lib answers = .moved s') : s'.Founded c := by
  rcases poll_cases h with ⟨t,stream,io,hp,-,rfl⟩ | ⟨event,stream,io,worker,hp,hw,rfl⟩
  · exact ⟨(WorkerStream.pollDuplex_founded hf.stream hp).1,hf.events⟩
  · obtain ⟨hs,hfatal⟩ := WorkerStream.pollDuplex_founded hf.stream hp
    exact handle_founded (s := s.put stream io) ⟨hs,hf.events⟩ hrun
      (fun error he => hfatal error (by rw [he])) hw

theorem accept_founded {event : Event ε} {after : After} (hf : s.Founded c)
    (hp : s.worker.phase = .sending event after) : Founded c { s with
      worker := s.worker.resume s.frontendClosed after, events := s.events ++ [event] } := by
  have he : ∀ error, .stream (.fatal error) ∈ s.events ++ [event] → c.Terminal error := by
    have he := hf.events
    rw [hp] at he
    exact he
  cases after with
  | again => exact founded_of_idle rfl hf.stream he
  | stop => exact founded_of_idle rfl hf.stream he
  | reconnect =>
    unfold StanzaStreamWorker.resume
    dsimp only
    split
    · exact founded_of_idle rfl hf.stream he
    · split
      · exact founded_of_idle rfl trivial he
      · exact founded_of_idle rfl hf.stream he

theorem step_founded {action : Action ε} (hc : action.From c) (hf : s.Founded c)
    (h : s.step lib action = .moved s') : s'.Founded c := by
  cases step_cases h with
  | submit => exact ⟨hf.stream,hf.events⟩
  | closeQueue => exact ⟨hf.stream,hf.events⟩
  | closeFrontend => exact ⟨hf.stream,hf.events⟩
  | poll hrun hstray h => exact poll_founded hf hrun h
  | drive hphase hw => exact ⟨WorkerStream.pollWrites_founded hf.stream hw,hf.events⟩
  | accept hphase => exact accept_founded hf hphase
  | giveUp => exact founded_of_idle rfl hf.stream hf.told
  | requestReconnect =>
    unfold StanzaStreamWorker.reconnectRequested
    split
    · rename_i stream hd
      obtain ⟨sm,features,identity,-,rfl⟩ := WorkerStream.forceDisconnect_cases hd
      exact founded_of_sending rfl trivial hf.told nofun
    · exact hf
  | connect => exact ⟨trivial,hf.events⟩
  | connectFails =>
    obtain ⟨seed,attempts,hend⟩ := hc
    exact ⟨C2s.terminal_of_filled hend,hf.events⟩
  | connectorDrops => cases hc
  | peer => exact ⟨hf.stream,hf.events⟩

theorem founded_of_driven (h : ReflTransGen (Driven lib c) (start ctr) s) : s.Founded c := by
  induction h with
  | refl => exact founded_start ctr
  | tail _ h ih =>
    cases h with
    | step hc h => exact step_founded hc ih h
    | poll hrun h => exact poll_founded ih hrun h
    | wire net => exact ⟨ih.stream,ih.events⟩

end System

/-- What a client tells of a disconnect, its stream has told it. -/
theorem ClientWorker.handleEvent_disconnected {w w' : ClientWorker ε} {event : Event ε}
    {sent : Option (TokioXmppEvent ε)} {error : XmppError} (h : w.handleEvent event = some (w',sent))
    (hm : sent = some (.disconnected error)) :
    error = suspended ∧ event = .stream .suspended ∨ event = .stream (.fatal error) := by
  subst hm
  unfold handleEvent at h
  split at h
  · split at h <;> cases h
  · cases h
  · split at h <;> cases h
  · split at h <;> cases h
  · cases h; exact .inl ⟨rfl,rfl⟩
  · cases h; exact .inr rfl

theorem ClientWorker.handleEvents_disconnected {w w' : ClientWorker ε} {events : List (Event ε)}
    {sent : List (TokioXmppEvent ε)} {error : XmppError} (h : w.handleEvents events = some (w',sent))
    (hm : .disconnected error ∈ sent) :
    error = suspended ∧ .stream .suspended ∈ events ∨ .stream (.fatal error) ∈ events := by
  induction events generalizing w sent with
  | nil => cases h; cases hm
  | cons event events ih =>
    unfold handleEvents at h
    split at h
    · cases h
    · rename_i hw
      split at h
      · cases h
      · rename_i hws
        cases h
        rcases List.mem_append.mp hm with hm | hm
        · rcases handleEvent_disconnected hw (Option.mem_toList.mp hm) with ⟨he,rfl⟩ | rfl
          · exact .inl ⟨he,List.mem_cons_self⟩
          · exact .inr List.mem_cons_self
        · exact (ih hws hm).imp (And.imp_right (List.mem_cons_of_mem _)) (List.mem_cons_of_mem _)

end MindChat.StanzaStream

namespace MindChat

variable {w w' : Worker} {input : WorkerInput} {outputs : List WorkerOutput}

inductive DisconnectCause (w : Worker) (input : WorkerInput) :
    Bool → Option String → DisconnectKind → Prop
  | connectFailed (failure : ConnectFailure) (h : input = .connectFailed failure) :
    DisconnectCause w input failure.recoverable (some failure.detail) failure.kind
  | connectElapsed (h : input = .connectElapsed) :
    DisconnectCause w input true (some "connection attempt exceeded 30 seconds") .networkLost
  | stalled (s : SessionState) (now : ℕ) (hp : w.phase = .session s) (h : input = .watchdogTick now)
    (hi : isInboundStale (now - s.lastInbound) inboundStaleTimeoutMs = true) :
    DisconnectCause w input true (some "no inbound data from the server for 3 minutes") .networkLost
  | clientEnd (h : input = .clientEnd) : DisconnectCause w input true none .networkLost
  | client (error : XmppError) (h : input.clientEvent? = some (.disconnected error)) :
    DisconnectCause w input error.disconnectedIsRecoverable (some error.text) error.classifyDisconnect

theorem not_mem_of_marks {events : List TransportEvent} {accountId : AccountId} {recoverable : Bool}
    {detail : Option String} {kind : DisconnectKind}
    (h : false ∉ events.filterMap TransportEvent.mark) :
    .disconnected accountId recoverable detail kind ∉ events :=
  fun hm => h (List.mem_filterMap.mpr ⟨_,hm,rfl⟩)

theorem Worker.handle_cause {event : ClientEvent} {readings : Readings} {s : SessionState}
    {accountId : AccountId} {recoverable : Bool} {detail : Option String} {kind : DisconnectKind}
    (h : w.handle event readings s = (w',outputs))
    (hm : .disconnected accountId recoverable detail kind ∈ emitted outputs) :
    ∃ error, event = .disconnected error ∧ recoverable = error.disconnectedIsRecoverable ∧
      detail = some error.text ∧ kind = error.classifyDisconnect := by
  have hmarks := handleClientEvent_marks w.accountId w.autoReconnect event readings s
  have ho : outputs = (handleClientEvent w.accountId w.autoReconnect event readings s).2.2 := by
    unfold handle at h
    split at h <;> rename_i heq <;> rw [heq] <;> cases h <;> rfl
  rw [← ho] at hmarks
  cases event with
  | disconnected error =>
    refine ⟨error,rfl,?_⟩
    rw [ho] at hm
    cases List.mem_singleton.mp hm
    exact ⟨rfl,rfl,rfl⟩
  | online | message | presence | iq =>
    exact (not_mem_of_marks (by simp [hmarks,ClientEvent.mark]) hm).elim

theorem Worker.Turn.cause {accountId : AccountId} {recoverable : Bool} {detail : Option String}
    {kind : DisconnectKind} (h : w.Turn input w' outputs)
    (hm : .disconnected accountId recoverable detail kind ∈ emitted outputs) :
    DisconnectCause w input recoverable detail kind := by
  have hevent : ∀ {event : ClientEvent} {readings : Readings} {s : SessionState},
      w.handle event readings s = (w',outputs) → input.clientEvent? = some event →
      DisconnectCause w input recoverable detail kind := by
    intro event readings s hh hi
    obtain ⟨error,rfl,rfl,rfl,rfl⟩ := handle_cause hh hm
    exact .client error hi
  cases h with
  | connectEvent event readings _ _ hp hh => exact hevent hh rfl
  | clientEvent s event readings _ _ hp hh => exact hevent hh rfl
  | connectFailed failure hp => cases List.mem_singleton.mp hm; exact .connectFailed failure rfl
  | connectElapsed => cases List.mem_singleton.mp hm; exact .connectElapsed rfl
  | stalled s now hp hl hi ha => cases List.mem_singleton.mp hm; exact .stalled s now hp rfl hi
  | stalledStop s now hp hl hi ha => cases List.mem_singleton.mp hm; exact .stalled s now hp rfl hi
  | clientEnd => cases List.mem_singleton.mp hm; exact .clientEnd rfl
  | send s message call outcome hp =>
    rw [emitted_append] at hm
    split_ifs at hm <;> cases hm
  | _ => cases hm

/-- Every disconnect that a worker reports has its cause in one of the inputs, where the
worker was then. -/
theorem WorkerRun.cause {accountId : AccountId} {autoReconnect : Bool} {inputs : List WorkerInput}
    {reported : AccountId} {recoverable : Bool} {detail : Option String} {kind : DisconnectKind}
    (h : WorkerRun (.start accountId autoReconnect) inputs w outputs)
    (hm : .disconnected reported recoverable detail kind ∈ emitted outputs) :
    ∃ before input after w₁ outputs₁, inputs = before ++ input :: after ∧
      WorkerRun (.start accountId autoReconnect) before w₁ outputs₁ ∧
      DisconnectCause w₁ input recoverable detail kind := by
  induction inputs using List.reverseRecOn generalizing w outputs with
  | nil => cases h; cases hm
  | append_singleton inputs input ih =>
    obtain ⟨⟨w₁,outputs₁⟩,hr,hlast⟩ := h.split
    cases hlast with
    | cons hs hn =>
      cases hn
      obtain ⟨new,hstep,rfl⟩ := Worker.advance_eq_some hs
      rw [emitted_append] at hm
      rcases List.mem_append.mp hm with hm | hm
      · obtain ⟨before,input',after,w₂,outputs₂,rfl,hb,hc⟩ := ih hr hm
        exact ⟨before,input',after ++ [input],w₂,outputs₂,by simp,hb,hc⟩
      · exact ⟨inputs,input,[],w₁,outputs₁,rfl,hr,(Worker.step_cases hstep).cause hm⟩

/-- When the client was last heard of, as an input tells. -/
def WorkerInput.heard? : WorkerInput → Option ℕ
  | .connectReady _ readings => some readings.instant
  | .clientEvent _ readings => some readings.instant
  | _ => none

theorem Worker.handle_session {event : ClientEvent} {readings : Readings} {s s' : SessionState}
    (h : w.handle event readings s = (w',outputs)) (hp : w'.phase = .session s') :
    s'.lastInbound = s.lastInbound := by
  unfold handle at h
  split at h
  · rename_i next outs he
    cases h
    obtain rfl : next = s' := WorkerPhase.session.inj hp
    have hs : (handleClientEvent w.accountId w.autoReconnect event readings s).2.1 = next := by rw [he]
    rw [← hs]
    cases event <;> rfl
  · cases h
    cases hp

theorem Worker.Turn.heard {s' : SessionState} (h : w.Turn input w' outputs)
    (hp' : w'.phase = .session s') :
    input.heard? = some s'.lastInbound ∨
      input.heard? = none ∧ ∃ s, w.phase = .session s ∧ s'.lastInbound = s.lastInbound := by
  cases h with
  | connectReady readings hp =>
    obtain rfl := WorkerPhase.session.inj hp'
    exact .inl rfl
  | connectEvent event readings _ _ hp h => exact .inl (congrArg some (handle_session h hp').symm)
  | clientEvent s event readings _ _ hp h => exact .inl (congrArg some (handle_session h hp').symm)
  | send s message call outcome hp => exact .inr ⟨rfl,s',hp',rfl⟩
  | watched s now hp => exact .inr ⟨rfl,s',hp',rfl⟩
  | ping s hp | stalled s now hp =>
    obtain rfl := WorkerPhase.session.inj hp'
    exact .inr ⟨rfl,s,hp,rfl⟩
  | _ => cases hp'

def lastHeard (inputs : List WorkerInput) : Option ℕ := (inputs.filterMap WorkerInput.heard?).getLast?

theorem WorkerRun.heard {accountId : AccountId} {autoReconnect : Bool} {inputs : List WorkerInput}
    {s : SessionState} (h : WorkerRun (.start accountId autoReconnect) inputs w outputs)
    (hp : w.phase = .session s) : lastHeard inputs = some s.lastInbound := by
  unfold lastHeard
  induction inputs using List.reverseRecOn generalizing w outputs s with
  | nil => cases h; cases hp
  | append_singleton inputs input ih =>
    obtain ⟨⟨w₁,outputs₁⟩,hr,hlast⟩ := h.split
    cases hlast with
    | cons hs hn =>
      cases hn
      obtain ⟨new,hstep,rfl⟩ := Worker.advance_eq_some hs
      rw [List.filterMap_append]
      rcases (Worker.step_cases hstep).heard hp with hh | ⟨hh,s₁,hp₁,hl⟩
      · rw [List.filterMap_cons_some hh,List.filterMap_nil,List.getLast?_concat]
      · rw [List.filterMap_cons_none hh,List.filterMap_nil,List.append_nil,hl]
        exact ih hr hp₁

end MindChat

namespace MindChat.StanzaStream

open Relation (ReflTransGen)

variable {ε : Type} {lib : Library ε} {c : C2s}

namespace System

variable {s s' : System ε} {ctr : BitVec 64} {events : List (Event ε)}

/-- Why an account is reported disconnected, by what its worker received and what the
stream told: it could not be connected, in time or at all; a watchdog tick came more than
the stale timeout after the client was last heard of; the events of the client ended; the
stream told a suspension; or it told that the reconnector has given up. -/
inductive Cause (c : C2s) (told : List (Event ε)) (inputs : List WorkerInput) :
    Bool → Option String → DisconnectKind → Prop
  | connectFailed (failure : ConnectFailure) (h : .connectFailed failure ∈ inputs) :
    Cause c told inputs failure.recoverable (some failure.detail) failure.kind
  | connectElapsed (h : .connectElapsed ∈ inputs) :
    Cause c told inputs true (some "connection attempt exceeded 30 seconds") .networkLost
  | stalled (before after : List WorkerInput) (last now : ℕ)
    (h : inputs = before ++ .watchdogTick now :: after) (hl : lastHeard before = some last)
    (hs : inboundStaleTimeoutMs < now - last) :
    Cause c told inputs true (some "no inbound data from the server for 3 minutes") .networkLost
  | clientEnd (h : .clientEnd ∈ inputs) : Cause c told inputs true none .networkLost
  | suspended (h : .stream .suspended ∈ told) :
    Cause c told inputs true (some ClientWorker.suspended.text) .networkLost
  | gaveUp (error : XmppError) (h : .stream (.fatal error) ∈ told) (ht : c.Terminal error) :
    Cause c told inputs error.disconnectedIsRecoverable (some error.text) error.classifyDisconnect

/-- A disconnect of an account has one of these causes; the reconnector gives up only since
a server that proved who it is refused the account or since attempts have failed for minutes
on end. -/
theorem disconnect_causes {accountId reported : AccountId} {autoReconnect recoverable : Bool}
    {detail : Option String} {kind : DisconnectKind} {inputs : List WorkerInput} {worker : Worker}
    {outputs : List WorkerOutput} {w : ClientWorker ε} {sent : List (TokioXmppEvent ε)} (r : Reader ε)
    (h : ReflTransGen (Driven lib c) (start ctr) s) (hp : events <+: s.events)
    (hclient : ClientWorker.new.handleEvents events = some (w,sent))
    (hinputs : inputs.filterMap WorkerInput.clientEvent? <+: sent.map (TokioXmppEvent.seen r))
    (hrun : WorkerRun (.start accountId autoReconnect) inputs worker outputs)
    (hm : .disconnected reported recoverable detail kind ∈ emitted outputs) :
    Cause c s.events inputs recoverable detail kind := by
  obtain ⟨before,input,after,w₁,outputs₁,hsplit,hbefore,hc⟩ := hrun.cause hm
  have hi : input ∈ inputs := by simp [hsplit]
  cases hc with
  | connectFailed failure he => exact .connectFailed failure (he ▸ hi)
  | connectElapsed he => exact .connectElapsed (he ▸ hi)
  | stalled session now hphase he hstale =>
    exact .stalled before after session.lastInbound now (he ▸ hsplit) (hbefore.heard hphase)
      (of_decide_eq_true hstale)
  | clientEnd he => exact .clientEnd (he ▸ hi)
  | client error he =>
    have hmem : ClientEvent.disconnected error ∈ sent.map (TokioXmppEvent.seen r) :=
      hinputs.subset (List.mem_filterMap.mpr ⟨input,hi,he⟩)
    obtain ⟨event,hs,hseen⟩ := List.mem_map.mp hmem
    have hevent : event = .disconnected error := by
      match event with
      | .disconnected error' => cases hseen; rfl
      | .online _ _ _ => cases hseen
      | .stanza (.message _ _) => cases hseen
      | .stanza (.presence _ _) => cases hseen
      | .stanza (.iq _) => cases hseen
    rw [hevent] at hs
    rcases ClientWorker.handleEvents_disconnected hclient hs with ⟨rfl,hsuspended⟩ | hfatal
    · exact .suspended (hp.subset hsuspended)
    · exact .gaveUp error (hp.subset hfatal) ((founded_of_driven h).told error (hp.subset hfatal))

theorem driven_of_run {allowed : System ε → Action ε → Bool} {actions : List (Action ε)}
    (hc : ∀ action ∈ actions, action.From c) (h : run lib allowed actions s = some s') :
    ReflTransGen (Driven lib c) s s' := by
  induction actions generalizing s with
  | nil => cases h; exact .refl
  | cons action actions ih =>
    obtain ⟨ha,hc⟩ := List.forall_mem_cons.mp hc
    unfold run at h
    split at h
    · cases hstep : s.step lib action with
      | disabled => rw [hstep] at h; cases h
      | panicked => rw [hstep] at h; cases h
      | moved s₁ =>
        rw [hstep] at h
        exact .head (.step ha hstep) (ih hc h)
    · cases h

def romeo : C2s := ⟨scramLibrary,.startTls,⟨"romeo@example.org",none⟩,"romeo","secret"⟩

def refusingServer : Server := { scramServer with
  secure.items := [.ok (.failure (.other "NotAuthorized"))] }

def refused : XmppError := .auth (.fail (.other "NotAuthorized"))

/-- The session is interrupted and cannot be taken up again. -/
def lockedOut : List (Action Unit) := interrupted ++ [.connectFails refused,.poll [ready],.accept]

theorem lockedOut_from : ∀ action ∈ lockedOut, action.From romeo := by
  have hconnect : (.connect ⟨true,true⟩ ⟨"romeo@example.org",none⟩ : Action Unit).From romeo :=
    ⟨0,[⟨false,scramServer,false⟩],rfl⟩
  have hfails : (.connectFails refused : Action Unit).From romeo :=
    ⟨0,[⟨false,refusingServer,false⟩],rfl⟩
  intro action ha
  simp only [lockedOut,interrupted,List.mem_append,List.mem_cons,List.not_mem_nil,or_false] at ha
  rcases ha with ha | rfl | rfl | rfl
  · rcases ha with rfl | rfl | rfl | rfl | rfl | rfl | rfl | rfl | rfl | rfl | rfl | rfl | rfl | rfl |
      rfl | rfl
    all_goals first | exact hconnect | trivial
  · exact hfails
  · trivial
  · trivial

def lockedOutEvents : List (Event Unit) :=
  [.stream (.reset ⟨"romeo@example.org",some "orchard"⟩ ⟨true,true⟩),.stream .suspended,
    .stream (.fatal refused)]

theorem exists_lockedOut :
    ∃ s, ReflTransGen (Driven withoutPresence romeo) (start 0) s ∧ s.events = lockedOutEvents := by
  have hrun : (run withoutPresence anything lockedOut (start 0)).any
      (fun s => s.events = lockedOutEvents) := by decide +kernel
  obtain ⟨s,hs,he⟩ := (Option.any_eq_true _ _).mp hrun
  exact ⟨s,driven_of_run lockedOut_from hs,of_decide_eq_true he⟩

def lockedOutInputs : List WorkerInput :=
  [.connectReady (some (.online (some "example.org") true)) ⟨0,0,0⟩,
    .clientEvent (.disconnected ClientWorker.suspended) ⟨1,1,1⟩,
    .clientEvent (.disconnected refused) ⟨2,2,2⟩]

theorem disconnect_causes_lockedOut : ∃ worker outputs,
    WorkerRun (.start 1 true) lockedOutInputs worker outputs ∧
    .disconnected 1 false (some refused.text) .authenticationFailed ∈ emitted outputs ∧
    Cause romeo lockedOutEvents lockedOutInputs false (some refused.text) .authenticationFailed := by
  obtain ⟨s,hs,he⟩ := exists_lockedOut
  have hp : lockedOutEvents <+: s.events := he ▸ List.prefix_refl s.events
  have hm : TransportEvent.disconnected 1 false (some refused.text) .authenticationFailed ∈
      [TransportEvent.connected 1 {.streamManagement},
        .disconnected 1 true (some ClientWorker.suspended.text) .networkLost,
        .disconnected 1 false (some refused.text) .authenticationFailed] :=
    List.mem_cons_of_mem _ (List.mem_cons_of_mem _ List.mem_cons_self)
  refine ⟨_,_,Transition.run_iff_exec.mpr rfl,hm,?_⟩
  exact he ▸ disconnect_causes plainReader hs hp rfl ⟨[],rfl⟩
    (Transition.run_iff_exec.mpr rfl : WorkerRun (.start 1 true) lockedOutInputs _ _) hm

end System

end MindChat.StanzaStream
