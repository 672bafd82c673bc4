import MindChat.StreamEvents

/-! The steps of the whole system as the worker's own steps, the peer's, and those of
the frontend and the connector. -/

namespace MindChat.StanzaStream

open Polling
open Relation (ReflTransGen)

variable {ε : Type}

/-- Where the worker is; one that is about to stop has no session any more. -/
def StanzaStreamWorker.view (w : StanzaStreamWorker ε) : View ε :=
  match w.phase with
  | .running => w.stream.view
  | .sending _ .again => w.stream.view
  | .sending _ .reconnect => w.stream.view
  | .sending _ .stop => .finished
  | .closing => .finished

/-- What the peer refuses does not leave a session alone. -/
def PeerAction.clean : PeerAction ε → Bool
  | .refuse _ => false
  | _ => true

/-- An action after which a session goes on: every connection offers stream management,
nothing but the loss of a connection disturbs it, and the frontend stays. -/
def Action.clean : Action ε → Bool
  | .submit _ => true
  | .closeQueue => false
  | .closeFrontend => false
  | .poll answers => answers.all (·.read.clean)
  | .drive _ => true
  | .accept => true
  | .giveUp => false
  | .requestReconnect => true
  | .connect features _ => features.streamManagement
  | .connectFails _ => false
  | .connectorDrops => false
  | .peer action => action.clean

/-- One thing that happens to the worker and the peer, the hand-in of stanzas apart. -/
inductive SystemStep (lib : Library ε) (lossy : Prop) : Client ε × Peer ε → Client ε × Peer ε → Prop
  | client {c c' : Client ε} {p : Peer ε} (h : ClientStep lib lossy c c') :
      SystemStep lib lossy (c,p) (c',p)
  | connect {c : Client ε} {p : Peer ε} {features : StreamFeatures} {sm : Option (SmState ε)}
      (h : c.view = .away sm) (hl : lossy ∨ features.streamManagement) :
      SystemStep lib lossy (c,p)
        ({ c with view := .opened features sm, net := ⟨[],[]⟩ },p.leave c.net.up)
  | peer {c : Client ε} {p p' : Peer ε} {net : XmppStream ε} {action : PeerAction ε}
      (hl : lossy ∨ action.clean) (h : p.step c.net action = some (p',net)) :
      SystemStep lib lossy (c,p) ({ c with net := net },p')

namespace System

def client (s : System ε) : Client ε :=
  ⟨s.worker.view,s.net,s.worker.transmitQueue.entries,s.tokens,s.inbox⟩

/-- A worker that is about to stop has no stream left. -/
def Stopping (s : System ε) : Prop :=
  ∀ event, s.worker.phase = .sending event .stop → s.worker.stream = .terminated

def Open (s : System ε) : Prop :=
  s.frontendClosed = false ∧ s.worker.transmitQueue.closed = false

instance (s : System ε) : Decidable s.Open := inferInstanceAs (Decidable (_ ∧ _))

/-- The session goes on: both ends of the frontend are there and nothing happens that
would end it. -/
def steady (s : System ε) (action : Action ε) : Bool := action.clean && decide s.Open

end System

variable {lib : Library ε} {lossy : Prop}

abbrev SystemMoves (lib : Library ε) (lossy : Prop) : Client ε × Peer ε → Client ε × Peer ε → Prop :=
  ReflTransGen (SystemStep lib lossy)

theorem SystemMoves.client {c c' : Client ε} (p : Peer ε) (h : ClientMoves lib lossy c c') :
    SystemMoves lib lossy (c,p) (c',p) := h.lift (·,p) fun _ _ => .client

theorem StanzaStreamWorker.resume_reconnect_cases (w : StanzaStreamWorker ε) (closed : Bool) :
    w.resume closed .reconnect = { w with phase := .closing } ∧
      (closed = true ∨ w.transmitQueue.closed = true) ∨
    ∃ stream, w.resume closed .reconnect = { w with stream := stream, phase := .running } ∧
      stream.view = w.stream.view := by
  obtain ⟨stream,queue,phase,ctr⟩ := w
  by_cases hc : (closed || queue.isClosed) = true
  · exact .inl ⟨if_pos hc,Bool.or_eq_true_iff.mp hc⟩
  · refine .inr ?_
    unfold resume
    dsimp only
    rw [if_neg hc]
    match stream with
    | .connecting .unassigned sm => exact ⟨_,rfl,rfl⟩
    | .connecting .waiting sm => exact ⟨_,rfl,rfl⟩
    | .connecting (.filled result) sm => exact ⟨_,rfl,rfl⟩
    | .connecting .dropped sm => exact ⟨_,rfl,rfl⟩
    | .connected substate features identity => exact ⟨_,rfl,rfl⟩
    | .terminated => exact ⟨_,rfl,rfl⟩

namespace WorkerStream

variable {stream stream' : WorkerStream ε} {io io' : Io ε}

/-- An event after which the worker stops. -/
def Last : Option (WorkerEvent ε) → Prop
  | none => True
  | some (.fatal _) => True
  | some _ => False

/-- What the stream is at its end. -/
structure Ended (event : Option (WorkerEvent ε)) (stream : WorkerStream ε) : Prop where
  sm : Last event → stream.view.sm = none
  fatal : ∀ error, event = some (.fatal error) → stream = .terminated

theorem Ended.other {event : WorkerEvent ε} (h : ¬ Last (some event)) : Ended (some event) stream where
  sm hl := absurd hl h
  fatal error he := absurd (show Last (some event) by rw [he]; trivial) h

theorem turn_ended {event : Option (WorkerEvent ε)}
    (h : stream.turn lib io = (.event event,stream',io')) : Ended event stream' := by
  match stream with
  | .terminated => cases h; exact ⟨fun _ => rfl,nofun⟩
  | .connecting .unassigned sm => cases h
  | .connecting .waiting sm => cases h
  | .connecting .dropped sm => cases h; exact .other id
  | .connecting (.filled (.error error)) sm => cases h; exact ⟨fun _ => rfl,fun _ _ => rfl⟩
  | .connecting (.filled (.ok (features,identity))) sm =>
    unfold turn at h
    cases hn : NegotiationState.new features sm <;> simp only [hn] at h <;> cases h
  | .connected substate features identity =>
    unfold turn at h
    cases hp : substate.poll lib identity features io with
    | mk t rest =>
      obtain ⟨substate',io₁⟩ := rest
      simp only [hp] at h
      match t with
      | .panicked => cases h
      | .pending => cases h
      | .again => cases h
      | .event (.disconnect sm error) => cases h; exact .other id
      | .event (.remoteShutdown sm) => cases h; exact .other id
      | .event .localShutdownRequested =>
        cases h
        refine ⟨fun _ => ?_,nofun⟩
        rw [view,ConnectedState.poll_shutdown hp,View.sm]
      | .event (.worker (.reset boundJid fs)) => cases h; exact .other id
      | .event (.worker (.fatal e)) => cases ConnectedState.poll_emits hp
      | .event (.worker .resumed) => cases h; exact .other id
      | .event (.worker (.stanza stanza)) => cases h; exact .other id
      | .event (.worker (.parseError e)) => cases h; exact .other id
      | .event (.worker .softTimeout) => cases h; exact .other id
      | .event (.worker .disconnected) => cases h; exact .other id
      | .event (.worker .reconnectAborted) => cases h; exact .other id

theorem pollDuplex_ended {answers : List (Answers ε)} {event : Option (WorkerEvent ε)}
    (h : stream.pollDuplex lib answers io = (.event event,stream',io')) : Ended event stream' := by
  induction answers generalizing stream io with
  | nil => cases h
  | cons answer answers ih =>
    unfold pollDuplex at h
    cases ht : stream.turn lib { io with answers := answer } with
    | mk t rest =>
      obtain ⟨stream₁,io₁⟩ := rest
      rw [ht] at h
      cases t with
      | again => exact ih h
      | panicked => cases h
      | pending => cases h
      | event event =>
        cases h
        exact turn_ended ht

end WorkerStream

namespace System

variable {s s' : System ε} {action : Action ε}

theorem inbox_of_running (h : s.worker.phase = .running) :
    s.inbox = s.events.filterMap Event.stanza? := by
  rw [inbox,h]
  exact List.append_nil _

theorem handle_moves {event : Option (WorkerEvent ε)} {worker : StanzaStreamWorker ε}
    (hrun : s.worker.phase = .running) (hend : WorkerStream.Ended event s.worker.stream)
    (h : s.worker.handle lib event = some worker) :
    ClientMoves lib lossy
      ⟨s.worker.stream.after (.event event),s.net,s.worker.transmitQueue.entries,s.tokens,
        s.inbox ++ WorkerStream.got (.event event)⟩
      (client { s with worker := worker }) := by
  obtain ⟨⟨stream,queue,phase,ctr⟩,net,tokens,events,closed,peer⟩ := s
  obtain rfl : phase = .running := hrun
  rw [inbox_of_running rfl]
  rcases event with _ | event
  · cases h
    refine .single (.finish (List.prefix_refl _) (.inr (.inl (hend.sm trivial))))
  cases event with
  | fatal error =>
    cases h
    refine .single (.finish (List.prefix_refl _) (.inr (.inl (hend.sm trivial))))
  | reset boundJid features => cases h; exact .refl
  | disconnected => cases h; exact .refl
  | resumed => cases h; exact .refl
  | stanza stanza => cases h; exact .refl
  | parseError e => cases h; exact .refl
  | reconnectAborted => cases h
  | softTimeout =>
    unfold StanzaStreamWorker.handle at h
    dsimp only at h
    cases hq : stream.queueSmRequest with
    | none =>
      rw [hq] at h
      cases h
      -- a ping instead, behind what the queue has already shown
      have hins : ClientStep lib lossy
          ⟨stream.view,net,queue.entries,tokens,events.filterMap Event.stanza? ++ []⟩ _ :=
        .insert (StanzaStreamWorker.pingProbe lib (ctr + 1)) rfl
      have hqueue : (queue.enqueue (.untracked (StanzaStreamWorker.pingProbe lib (ctr + 1)))).entries =
          queue.peek ++ .untracked (StanzaStreamWorker.pingProbe lib (ctr + 1)) :: queue.inner := by
        simp [TransmitQueue.enqueue,TransmitQueue.entries]
      refine .single ?_
      show ClientStep lib lossy _ ⟨_,_,(queue.enqueue _).entries,_,_⟩
      rw [hqueue]
      exact hins
    | some stream' =>
      rw [hq] at h
      cases h
      obtain ⟨sm,features,identity,rfl,rfl⟩ := WorkerStream.queueSmRequest_cases hq
      have hquiet : Wrote lib ⟨some sm,⟨net,queue,tokens,.none⟩⟩
          ⟨some { sm with pendingReq := true },⟨net,queue,tokens,.none⟩⟩ :=
        .quiet ⟨⟨sm.pendingAcks,true,rfl⟩,rfl,rfl,rfl,rfl,rfl⟩
      exact .single (.write hquiet)

/-- A poll ends without an event, or with one that the worker handles. -/
theorem poll_cases {answers : List (Answers ε)} (h : s.poll lib answers = .moved s') :
    (∃ t stream io, s.worker.stream.pollDuplex lib answers s.io = (t,stream,io) ∧
      (t = .pending ∨ t = .again) ∧ s' = s.put stream io) ∨
    ∃ event stream io worker,
      s.worker.stream.pollDuplex lib answers s.io = (.event event,stream,io) ∧
      (s.put stream io).worker.handle lib event = some worker ∧
      s' = { s.put stream io with worker := worker } := by
  unfold poll at h
  cases hp : s.worker.stream.pollDuplex lib answers s.io with
  | mk t rest =>
    obtain ⟨stream,io⟩ := rest
    rw [hp] at h
    cases t with
    | panicked => cases h
    | pending => cases h; exact .inl ⟨_,stream,io,rfl,.inl rfl,rfl⟩
    | again => cases h; exact .inl ⟨_,stream,io,rfl,.inr rfl,rfl⟩
    | event event =>
      dsimp only at h
      cases hw : (s.put stream io).worker.handle lib event with
      | none => rw [hw] at h; cases h
      | some worker =>
        rw [hw] at h
        cases h
        exact .inr ⟨event,stream,io,worker,rfl,hw,rfl⟩

theorem poll_moves {answers : List (Answers ε)} (hrun : s.worker.phase = .running)
    (hr : answers.all (·.read.stray)) (hl : lossy ∨ answers.all (·.read.clean))
    (h : s.poll lib answers = .moved s') :
    ClientMoves lib lossy s.client s'.client ∧ s'.peer = s.peer := by
  have hview : ∀ (stream : WorkerStream ε) (io : Io ε),
      (s.put stream io).client = .of stream.view io s.inbox := by
    intro stream io
    show Client.mk (StanzaStreamWorker.view ⟨_,_,s.worker.phase,_⟩) _ _ _ s.inbox = _
    rw [hrun]
    rfl
  have hs : s.client = .of s.worker.stream.view s.io s.inbox := hview s.worker.stream s.io
  rcases poll_cases h with ⟨t,stream,io,hp,ht,rfl⟩ | ⟨event,stream,io,worker,hp,hw,rfl⟩
  · have hm := WorkerStream.pollDuplex_moves s.inbox hr hl hp
    rw [← hs] at hm
    rcases ht with rfl | rfl
    all_goals
      have hm := hm.resolve_left nofun
      change ClientMoves lib lossy _ (.of stream.view io (s.inbox ++ [])) at hm
      rw [List.append_nil] at hm
      exact ⟨(hview stream io).symm ▸ hm,rfl⟩
  · have hm := WorkerStream.pollDuplex_moves s.inbox hr hl hp
    rw [← hs] at hm
    have hm := hm.resolve_left nofun
    exact ⟨hm.trans (handle_moves (s := s.put stream io) hrun (WorkerStream.pollDuplex_ended hp) hw),rfl⟩

theorem drive_moves {answers : Answers ε} {event : Event ε} {after : After} {stream : WorkerStream ε}
    {io : Io ε} (hphase : s.worker.phase = .sending event after) (hstop : s.Stopping)
    (hp : s.worker.stream.pollWrites lib { s.io with answers := answers } = some (stream,io)) :
    ClientMoves lib lossy s.client (s.put stream io).client := by
  have hview : ∀ (stream : WorkerStream ε) (io : Io ε), after ≠ .stop →
      (s.put stream io).client = .of stream.view io s.inbox := by
    intro stream io hafter
    show Client.mk (StanzaStreamWorker.view ⟨_,_,s.worker.phase,_⟩) _ _ _ s.inbox = _
    rw [hphase]
    cases after with
    | again => rfl
    | reconnect => rfl
    | stop => exact absurd rfl hafter
  by_cases hafter : after = .stop
  · subst hafter
    rw [hstop event hphase] at hp
    cases hp
    have hs : s.put .terminated { s.io with answers := answers } = s := by
      obtain ⟨⟨stream,queue,phase,ctr⟩,net,tokens,events,closed,peer⟩ := s
      obtain rfl : stream = .terminated := hstop event hphase
      rfl
    rw [hs]
  · have hm : ClientMoves lib lossy (.of s.worker.stream.view { s.io with answers := answers } s.inbox)
        (.of stream.view io s.inbox) := WorkerStream.pollWrites_moves hp
    rw [hview stream io hafter]
    have hs : s.client = .of s.worker.stream.view s.io s.inbox := hview s.worker.stream s.io hafter
    rw [hs]
    exact hm

theorem accept_moves {event : Event ε} {after : After}
    (hphase : s.worker.phase = .sending event after) (hl : lossy ∨ s.Open) :
    ClientMoves lib lossy s.client (client { s with
      worker := s.worker.resume s.frontendClosed after, events := s.events ++ [event] }) := by
  obtain ⟨⟨stream,queue,phase,ctr⟩,net,tokens,events,closed,peer⟩ := s
  obtain rfl : phase = .sending event after := hphase
  have hinbox : (events ++ [event]).filterMap Event.stanza? ++ [] =
      events.filterMap Event.stanza? ++ event.stanza?.toList := by
    rw [List.append_nil,List.filterMap_append]
    cases event <;> rfl
  cases after with
  | again =>
    show ClientMoves lib lossy _ ⟨_,_,_,_,(events ++ [event]).filterMap Event.stanza? ++ []⟩
    rw [hinbox]
    exact .refl
  | stop =>
    show ClientMoves lib lossy _ ⟨_,_,_,_,(events ++ [event]).filterMap Event.stanza? ++ []⟩
    rw [hinbox]
    exact .refl
  | reconnect =>
    rcases StanzaStreamWorker.resume_reconnect_cases ⟨stream,queue,.sending event .reconnect,ctr⟩ closed
      with ⟨hw,hc⟩ | ⟨stream',hw,hv⟩
    · rw [hw]
      show ClientMoves lib lossy _ ⟨_,_,_,_,(events ++ [event]).filterMap Event.stanza? ++ []⟩
      rw [hinbox]
      refine .single (.finish (List.prefix_refl _) (.inl (hl.resolve_right fun ho => ?_)))
      obtain ⟨rfl,hq : queue.closed = false⟩ := ho
      rcases hc with hc | hc
      · cases hc
      · cases hq.symm.trans hc
    · rw [hw]
      show ClientMoves lib lossy _ ⟨stream'.view,_,_,_,(events ++ [event]).filterMap Event.stanza? ++ []⟩
      rw [hinbox,hv]
      exact .refl

theorem requestReconnect_moves (hrun : s.worker.phase = .running) :
    ClientMoves lib lossy s.client (client { s with worker := s.worker.reconnectRequested }) := by
  obtain ⟨⟨stream,queue,phase,ctr⟩,net,tokens,events,closed,peer⟩ := s
  obtain rfl : phase = .running := hrun
  unfold StanzaStreamWorker.reconnectRequested
  split
  · rename_i stream' hd
    obtain ⟨sm,features,identity,hs : stream = _,rfl⟩ := WorkerStream.forceDisconnect_cases hd
    subst hs
    have hleave : ClientStep lib lossy
        ⟨.ready sm,net,queue.entries,tokens,events.filterMap Event.stanza? ++ []⟩ _ := .leave nofun
    exact .single hleave
  · exact .refl

theorem fill_cases {slot : Slot} (h : s.fill slot = .moved s') : ∃ sm,
    s' = { s with worker.stream := .connecting slot sm } ∧ s.worker.phase = .running ∧
      s.worker.stream = .connecting .waiting sm := by
  unfold fill at h
  split at h
  · rename_i sm hphase hstream
    cases h
    exact ⟨sm,rfl,hphase,hstream⟩
  · cases h

theorem connectFails_moves {sm : Option (SmState ε)} {slot : Slot} (hrun : s.worker.phase = .running)
    (hstream : s.worker.stream = .connecting .waiting sm)
    (hslot : (WorkerStream.connecting slot sm).view = .away none) (hl : lossy) :
    ClientMoves lib lossy s.client (client { s with worker.stream := .connecting slot sm }) := by
  obtain ⟨⟨stream,queue,phase,ctr⟩,net,tokens,events,closed,peer⟩ := s
  obtain rfl : phase = .running := hrun
  obtain rfl : stream = .connecting .waiting sm := hstream
  show ClientMoves lib lossy _ ⟨(WorkerStream.connecting slot sm).view,_,_,_,_⟩
  rw [hslot]
  have hdrop : ClientStep lib lossy
      ⟨.away sm,net,queue.entries,tokens,events.filterMap Event.stanza? ++ []⟩ _ := .drop (.inl hl) nofun
  exact .single hdrop

/-- What an action does, where it can happen. -/
inductive Stepped (lib : Library ε) (s : System ε) : Action ε → System ε → Prop
  | submit {stanza : Stanza ε} (hphase : s.worker.phase ≠ .closing)
    (hopen : s.worker.transmitQueue.closed = false) : Stepped lib s (.submit stanza) (s.submit stanza)
  | closeQueue : Stepped lib s .closeQueue { s with worker.transmitQueue.closed := true }
  | closeFrontend : Stepped lib s .closeFrontend { s with frontendClosed := true }
  | poll {answers : List (Answers ε)} {s' : System ε} (hrun : s.worker.phase = .running)
    (hstray : answers.all (·.read.stray)) (h : s.poll lib answers = .moved s') :
    Stepped lib s (.poll answers) s'
  | drive {answers : Answers ε} {event : Event ε} {after : After} {stream : WorkerStream ε} {io : Io ε}
    (hphase : s.worker.phase = .sending event after)
    (hw : s.worker.stream.pollWrites lib { s.io with answers := answers } = some (stream,io)) :
    Stepped lib s (.drive answers) (s.put stream io)
  | accept {event : Event ε} {after : After} (hphase : s.worker.phase = .sending event after) :
    Stepped lib s .accept { s with
      worker := s.worker.resume s.frontendClosed after, events := s.events ++ [event] }
  | giveUp (hclosed : s.frontendClosed = true) :
    Stepped lib s .giveUp { s with worker.phase := .closing }
  | requestReconnect (hrun : s.worker.phase = .running) :
    Stepped lib s .requestReconnect { s with worker := s.worker.reconnectRequested }
  | connect {features : StreamFeatures} {identity : Jid} {sm : Option (SmState ε)}
    (hrun : s.worker.phase = .running) (hstream : s.worker.stream = .connecting .waiting sm) :
    Stepped lib s (.connect features identity) { s with
      worker.stream := .connecting (.filled (.ok (features,identity))) sm
      net := ⟨[],[]⟩
      peer := s.peer.leave s.net.up }
  | connectFails {error : XmppError} {sm : Option (SmState ε)} (hrun : s.worker.phase = .running)
    (hstream : s.worker.stream = .connecting .waiting sm) : Stepped lib s (.connectFails error)
      { s with worker.stream := .connecting (.filled (.error error)) sm }
  | connectorDrops {sm : Option (SmState ε)} (hrun : s.worker.phase = .running)
    (hstream : s.worker.stream = .connecting .waiting sm) :
    Stepped lib s .connectorDrops { s with worker.stream := .connecting .dropped sm }
  | peer {action : PeerAction ε} {peer : Peer ε} {net : XmppStream ε}
    (h : s.peer.step s.net action = some (peer,net)) :
    Stepped lib s (.peer action) { s with peer := peer, net := net }

theorem step_cases (h : s.step lib action = .moved s') : Stepped lib s action s' := by
  cases action with
  | closeQueue => cases h; exact .closeQueue
  | closeFrontend => cases h; exact .closeFrontend
  | connectFails error =>
    obtain ⟨sm,rfl,hrun,hstream⟩ := fill_cases h
    exact .connectFails hrun hstream
  | connectorDrops =>
    obtain ⟨sm,rfl,hrun,hstream⟩ := fill_cases h
    exact .connectorDrops hrun hstream
  | submit stanza =>
    unfold step at h
    dsimp only at h
    split at h
    · cases h
    · rename_i hphase
      split at h
      · cases h
      · rename_i hopen
        cases h
        exact .submit hphase (Bool.not_eq_true _ ▸ hopen)
  | poll answers =>
    unfold step at h
    dsimp only at h
    split at h
    · rename_i hrun
      split at h
      · rename_i hstray
        exact .poll hrun hstray h
      · cases h
    · cases h
  | drive answers =>
    unfold step drive at h
    dsimp only at h
    split at h
    · rename_i event after hphase
      cases hw : s.worker.stream.pollWrites lib { s.io with answers := answers } with
      | none => rw [hw] at h; cases h
      | some result =>
        obtain ⟨stream,io⟩ := result
        rw [hw] at h
        cases h
        exact .drive hphase hw
    · cases h
  | accept =>
    unfold step at h
    dsimp only at h
    split at h
    · rename_i event after hphase
      cases h
      exact .accept hphase
    · cases h
  | giveUp =>
    unfold step at h
    dsimp only at h
    split at h
    · rename_i hclosed
      cases h
      exact .giveUp hclosed
    · cases h
  | requestReconnect =>
    unfold step at h
    dsimp only at h
    split at h
    · rename_i hrun
      cases h
      exact .requestReconnect hrun
    · cases h
  | connect features identity =>
    unfold step at h
    dsimp only at h
    cases hfill : s.fill (.filled (.ok (features,identity))) with
    | disabled => rw [hfill] at h; cases h
    | panicked => rw [hfill] at h; cases h
    | moved s₁ =>
      rw [hfill] at h
      cases h
      obtain ⟨sm,rfl,hrun,hstream⟩ := fill_cases hfill
      exact .connect hrun hstream
  | peer action =>
    unfold step at h
    dsimp only at h
    split at h
    · rename_i peer net hp
      cases h
      exact .peer hp
    · cases h

theorem step_submit {stanza : Stanza ε} (h : s.step lib (.submit stanza) = .moved s') :
    s' = s.submit stanza := by
  cases step_cases h
  rfl

theorem step_moves (hstop : s.Stopping) (hl : lossy ∨ action.clean ∧ s.Open)
    (hnew : action.submitted = none) (h : s.step lib action = .moved s') :
    SystemMoves lib lossy (s.client,s.peer) (s'.client,s'.peer) := by
  cases step_cases h with
  | submit => cases hnew
  | closeQueue => exact .refl
  | closeFrontend => exact .refl
  | poll hrun hstray h =>
    obtain ⟨hm,hp⟩ := poll_moves hrun hstray (hl.imp_right And.left) h
    exact hp ▸ .client _ hm
  | drive hphase hw => exact .client _ (drive_moves hphase hstop hw)
  | accept hphase => exact .client _ (accept_moves hphase (hl.imp_right And.right))
  | giveUp hclosed =>
    have hl : lossy := hl.resolve_right fun hc => Bool.false_ne_true hc.1
    refine .client _ (.single ?_)
    show ClientStep lib lossy _ ⟨.finished,s.net,s.worker.transmitQueue.entries,s.tokens,
      s.events.filterMap Event.stanza? ++ []⟩
    refine .finish (c := s.client) ?_ (.inl hl)
    rw [List.append_nil]
    exact List.prefix_append _ _
  | requestReconnect hrun => exact .client _ (requestReconnect_moves hrun)
  | connect hrun hstream =>
    obtain ⟨⟨stream,queue,phase,ctr⟩,net,tokens,events,closed,peer⟩ := s
    obtain rfl : phase = .running := hrun
    obtain rfl : stream = .connecting .waiting _ := hstream
    exact .single (.connect rfl (hl.imp_right And.left))
  | connectFails hrun hstream =>
    exact .client _ (connectFails_moves hrun hstream rfl (hl.resolve_right fun hc =>
      Bool.false_ne_true hc.1))
  | connectorDrops hrun hstream =>
    exact .client _ (connectFails_moves hrun hstream rfl (hl.resolve_right fun hc =>
      Bool.false_ne_true hc.1))
  | peer hp => exact .single (.peer (hl.imp_right And.left) hp)

end System

end MindChat.StanzaStream
