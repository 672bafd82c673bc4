import MindChat.StreamRuns

/-! The worker goes on for as long as its connections can be replaced and both ends of
the frontend are there. -/

namespace MindChat.StanzaStream

open Polling

variable {ε : Type} {lib : Library ε}

/-- An established connection is not being closed from this side. -/
def ConnectedState.alive : ConnectedState ε → Bool
  | .localShutdown _ _ => false
  | .localShutdownComplete => false
  | _ => true

/-- The stream has neither ended nor failed for good. -/
def WorkerStream.alive : WorkerStream ε → Bool
  | .connecting (.filled (.error _)) _ => false
  | .connecting .dropped _ => false
  | .connecting _ _ => true
  | .connected substate _ _ => substate.alive
  | .terminated => false

section

variable {io io' : Io ε}

theorem Io.queue_pollReady (io : Io ε) : io.pollReady.2.queue = io.queue := by
  unfold pollReady
  split <;> rfl

theorem Io.queue_pollNext (io : Io ε) : io.pollNext.2.queue = io.queue := by
  unfold pollNext
  split <;> rfl

namespace NegotiationState

variable {state next : NegotiationState ε} {advance : Advance ε}

theorem giveUp_closed {phase : String} {sm : Option (SmState ε)}
    {item : Except ReadError (XmppStreamElement ε)}
    (h : giveUp lib phase sm state io item = (advance,next,io')) :
    io'.queue.closed = io.queue.closed := by
  unfold giveUp at h
  split at h <;> cases h <;> rfl

theorem receiveBind_closed {smSupported : Bool} {item : Except ReadError (XmppStreamElement ε)}
    (h : receiveBind lib smSupported io item = (advance,next,io')) :
    io'.queue.closed = io.queue.closed := by
  unfold receiveBind at h
  split at h
  · split at h
    · split at h
      · split at h <;> cases h <;> rfl
      · cases h; rfl
    · cases h; rfl
  · cases h; rfl
  · exact giveUp_closed h

theorem receiveSm_closed {sm : Option (SmState ε)} {jid : Option Jid}
    {item : Except ReadError (XmppStreamElement ε)}
    (h : receiveSm lib sm jid io item = (advance,next,io')) :
    io'.queue.closed = io.queue.closed := by
  unfold receiveSm at h
  split at h
  · cases h; rfl
  · split at h <;> cases h <;> rfl
  · split at h
    · split at h <;> cases h <;> rfl
    · cases h; rfl
  · split at h
    · cases h; rfl
    · split at h <;> cases h <;> rfl
  · exact giveUp_closed h

theorem whenReady_closed {sm : Option (SmState ε)}
    {send : Io ε → Advance ε × NegotiationState ε × Io ε}
    (hs : ∀ {io}, send io = (advance,next,io') → io'.queue.closed = io.queue.closed)
    (h : whenReady sm state io send = (advance,next,io')) : io'.queue.closed = io.queue.closed := by
  have hq := io.queue_pollReady
  rcases whenReady_cases h with ⟨hp,-,-⟩ | ⟨error,hp,-,-⟩ | ⟨io₁,hp,h⟩
  · rw [← hq,hp]
  · rw [← hq,hp]
  · rw [← hq,hp,hs h]

theorem whenRead_closed {sm : Option (SmState ε)}
    {receive : Io ε → Except ReadError (XmppStreamElement ε) → Advance ε × NegotiationState ε × Io ε}
    (hr : ∀ {io item}, receive io item = (advance,next,io') → io'.queue.closed = io.queue.closed)
    (h : whenRead sm state io receive = (advance,next,io')) : io'.queue.closed = io.queue.closed := by
  have hq := io.queue_pollNext
  rcases whenRead_cases h with ⟨error,-,-,rfl⟩ | ⟨hp,-,-⟩ | ⟨item,io₁,hp,h⟩
  · rfl
  · rw [← hq,hp]
  · rw [← hq,hp,hr h]

theorem advance_closed {jid : Jid} (h : state.advance lib jid io = (advance,next,io')) :
    io'.queue.closed = io.queue.closed := by
  cases state with
  | sendBindRequest smSupported => exact whenReady_closed (fun he => by cases he; rfl) h
  | receiveBindResponse smSupported =>
    simp only [NegotiationState.advance] at h
    exact whenRead_closed (fun he => receiveBind_closed he) h
  | sendSmRequest sm boundJid => exact whenReady_closed (fun he => by cases he; rfl) h
  | receiveSmResponse sm boundJid =>
    simp only [NegotiationState.advance] at h
    exact whenRead_closed (fun he => receiveSm_closed he) h

end NegotiationState

namespace ConnectedState

variable {state next : ConnectedState ε} {turn : Turn (ConnectedEvent ε)}

/-- A connection that stays alive, with the queue as it was. -/
structure Lasting (turn : Turn (ConnectedEvent ε)) (next : ConnectedState ε) (io io' : Io ε) : Prop where
  alive : next.alive
  shutdown : turn ≠ .event .localShutdownRequested
  closed : io'.queue.closed = io.queue.closed

theorem receive_lasting {sm : Option (SmState ε)} {item : Item ε}
    (h : receive lib sm io item = (turn,next,io')) : Lasting turn next io io' := by
  refine ⟨?_,fun ht => receive_not_shutdown (ht ▸ h),?_⟩
  all_goals
    unfold receive at h
    split at h <;> (try split at h) <;> (try split at h) <;> cases h <;> rfl

theorem Lasting.of_queue {io₁ : Io ε} (h : Lasting turn next io₁ io') (hq : io₁.queue = io.queue) :
    Lasting turn next io io' := ⟨h.alive,h.shutdown,hq ▸ h.closed⟩

theorem pollStreamError_lasting {streamError : Option StreamError} {ioError : Option OpaqueIoError}
    (h : pollStreamError lib streamError ioError io = (turn,next,io')) :
    Lasting turn next io io' := by
  have hflush : ∀ {e ioError io₁}, pollStreamError.flush lib e ioError io₁ = (turn,next,io') →
      Lasting turn next io₁ io' := by
    intro e ioError io₁ h
    unfold pollStreamError.flush at h
    split at h <;> cases h <;> exact ⟨rfl,nofun,rfl⟩
  refine Lasting.of_queue (?_ : Lasting turn next io.pollNext.2 io') io.queue_pollNext
  unfold pollStreamError at h
  dsimp only at h
  split at h
  · cases h; exact ⟨rfl,nofun,rfl⟩
  · split at h
    · exact hflush h
    · refine Lasting.of_queue (?_ : Lasting turn next io.pollNext.2.pollReady.2 io') (Io.queue_pollReady _)
      generalize io.pollNext.2.pollReady = answer at h ⊢
      obtain ⟨answer,io₁⟩ := answer
      split at h
      · rename_i he; cases he; cases h; exact ⟨rfl,nofun,rfl⟩
      · rename_i he; cases he; cases h; exact ⟨rfl,nofun,rfl⟩
      · rename_i he; cases he; exact (hflush h).of_queue rfl

theorem pollReady_lasting {sm : Option (SmState ε)} (hc : io.queue.closed = false)
    (h : pollReady lib sm io = (turn,next,io')) : turn = .panicked ∨ Lasting turn next io io' := by
  have hw := (Write.moves_pollWritesInner : PollM.Moves (Write.Writes lib) _ _ _) ⟨sm,io⟩ trivial
  unfold pollReady at h
  generalize Write.pollWritesInner lib ⟨sm,io⟩ = result at h hw
  obtain ⟨progress,tx⟩ := result
  rcases hw with hp | ⟨hw,hdone⟩
  · cases hp
    cases h
    exact .inl rfl
  have hclosed : tx.io.queue.closed = io.queue.closed := Write.closed_of_writes hw
  cases progress with
  | panicked => cases h; exact .inl rfl
  | done value => cases hc.symm.trans (hclosed.symm.trans (hdone value rfl))
  | failed e => cases h; exact .inr ⟨rfl,nofun,hclosed⟩
  | pending =>
    dsimp only at h
    have hq := tx.io.queue_pollNext
    generalize tx.io.pollNext = item at h hq
    obtain ⟨item,io₁⟩ := item
    have hall : ∀ {turn next}, Lasting turn next io₁ io' → Lasting turn next io io' :=
      fun hl => ⟨hl.alive,hl.shutdown,hl.closed.trans ((congrArg TransmitQueue.closed hq).trans hclosed)⟩
    cases item with
    | pending => cases h; exact .inr (hall ⟨rfl,nofun,rfl⟩)
    | ready item => exact .inr (hall (receive_lasting h))

theorem pollNegotiation_lasting {jid : Jid} {features : StreamFeatures} {substate : NegotiationState ε}
    (h : pollNegotiation lib jid features substate io = (turn,next,io')) : Lasting turn next io io' := by
  unfold pollNegotiation at h
  cases ha : substate.advance lib jid io with
  | mk advance rest =>
    obtain ⟨substate',io₁⟩ := rest
    have hclosed := NegotiationState.advance_closed ha
    rw [ha] at h
    match advance with
    | .panicked => cases h; exact ⟨rfl,nofun,hclosed⟩
    | .pending => cases h; exact ⟨rfl,nofun,hclosed⟩
    | .next none => cases h; exact ⟨rfl,nofun,hclosed⟩
    | .next (some stanza) => cases h; exact ⟨rfl,nofun,hclosed⟩
    | .done (.disconnect sm error) => cases h; exact ⟨rfl,nofun,hclosed⟩
    | .done (.streamReset sm boundJid) => cases h; exact ⟨rfl,nofun,hclosed⟩
    | .done (.streamResumed sm) => cases h; exact ⟨rfl,nofun,hclosed⟩
    | .done (.streamError error) => cases h; exact ⟨rfl,nofun,hclosed⟩

/-- An open queue keeps an established connection alive. -/
theorem poll_lasting {jid : Jid} {features : StreamFeatures} (ha : state.alive)
    (hc : io.queue.closed = false) (h : state.poll lib jid features io = (turn,next,io')) :
    turn = .panicked ∨ Lasting turn next io io' := by
  cases state with
  | negotiating substate => exact .inr (pollNegotiation_lasting h)
  | ready sm => exact pollReady_lasting hc h
  | sendStreamError streamError ioError => exact .inr (pollStreamError_lasting h)
  | failed error sm => cases h; exact .inr ⟨rfl,nofun,rfl⟩
  | remoteShutdown sm => cases h; exact .inr ⟨rfl,nofun,rfl⟩
  | localShutdown txClosed rx => cases ha
  | localShutdownComplete => cases ha

theorem pollWrites_alive (ha : state.alive) (h : state.pollWrites lib io = some (next,io')) :
    next.alive := by
  cases state with
  | ready sm =>
    unfold pollWrites at h
    dsimp only at h
    split at h <;> cases h <;> rfl
  | negotiating substate => cases h; exact ha
  | sendStreamError streamError ioError => cases h; exact ha
  | failed error sm => cases h; exact ha
  | remoteShutdown sm => cases h; exact ha
  | localShutdown txClosed rx => cases ha
  | localShutdownComplete => cases ha

end ConnectedState

namespace WorkerStream

variable {stream stream' : WorkerStream ε} {event : Turn (Option (WorkerEvent ε))}

/-- A stream that goes on after the turn, with the queue as it was. -/
structure Lasting (event : Turn (Option (WorkerEvent ε))) (stream : WorkerStream ε) (io io' : Io ε) :
    Prop where
  alive : stream.alive
  notLast : ∀ e, event = .event e → ¬ Last e
  notAborted : event ≠ .event (some .reconnectAborted)
  parseError : ∀ e, event = .event (some (.parseError e)) →
    ∃ substate features identity, stream = .connected substate features identity
  closed : io'.queue.closed = io.queue.closed

theorem turn_lasting (ha : stream.alive) (hc : io.queue.closed = false)
    (h : stream.turn lib io = (event,stream',io')) : event = .panicked ∨ Lasting event stream' io io' := by
  match stream with
  | .terminated => cases ha
  | .connecting .unassigned sm => cases h; exact .inr ⟨rfl,nofun,nofun,nofun,rfl⟩
  | .connecting .waiting sm => cases h; exact .inr ⟨rfl,nofun,nofun,nofun,rfl⟩
  | .connecting .dropped sm => cases ha
  | .connecting (.filled (.error error)) sm => cases ha
  | .connecting (.filled (.ok (features,identity))) sm =>
    unfold turn at h
    cases hn : NegotiationState.new features sm <;> simp only [hn] at h <;> cases h
    · exact .inl rfl
    · exact .inr ⟨rfl,nofun,nofun,nofun,rfl⟩
  | .connected substate features identity =>
    unfold turn at h
    cases hp : substate.poll lib identity features io with
    | mk t rest =>
      obtain ⟨substate',io₁⟩ := rest
      have hl := ConnectedState.poll_lasting ha hc hp
      simp only [hp] at h
      match t with
      | .panicked => cases h; exact .inl rfl
      | .pending =>
        cases h
        exact .inr ⟨(hl.resolve_left nofun).alive,nofun,nofun,nofun,(hl.resolve_left nofun).closed⟩
      | .again =>
        cases h
        exact .inr ⟨(hl.resolve_left nofun).alive,nofun,nofun,nofun,(hl.resolve_left nofun).closed⟩
      | .event (.disconnect sm error) =>
        cases h
        exact .inr ⟨rfl,fun e he => by cases he; exact id,nofun,nofun,(hl.resolve_left nofun).closed⟩
      | .event (.remoteShutdown sm) =>
        cases h
        exact .inr ⟨rfl,fun e he => by cases he; exact id,nofun,nofun,(hl.resolve_left nofun).closed⟩
      | .event .localShutdownRequested => exact absurd rfl (hl.resolve_left nofun).shutdown
      | .event (.worker event) =>
        have hl := hl.resolve_left nofun
        have hlast : ¬ Last (some event) ∧ event ≠ .reconnectAborted := by
          cases ConnectedState.poll_emits hp <;> exact ⟨id,nofun⟩
        cases event <;> cases h
        all_goals
          refine .inr ⟨hl.alive,fun e he => ?_,fun he => ?_,fun _ _ => ⟨_,_,_,rfl⟩,hl.closed⟩
          · cases he
            exact hlast.1
          · cases he <;> exact hlast.2 rfl

theorem pollDuplex_lasting {answers : List (Answers ε)} (ha : stream.alive)
    (hc : io.queue.closed = false) (h : stream.pollDuplex lib answers io = (event,stream',io')) :
    event = .panicked ∨ Lasting event stream' io io' := by
  induction answers generalizing stream io with
  | nil =>
    cases h
    exact .inr ⟨ha,fun _ he => (by cases he),nofun,fun _ he => (by cases he),rfl⟩
  | cons answer answers ih =>
    unfold pollDuplex at h
    cases ht : stream.turn lib { io with answers := answer } with
    | mk t rest =>
      obtain ⟨stream₁,io₁⟩ := rest
      have hl : t = .panicked ∨ Lasting t stream₁ { io with answers := answer } io₁ :=
        turn_lasting ha hc ht
      rw [ht] at h
      cases t with
      | again =>
        rcases hl with hp | hl
        · cases hp
        refine (ih hl.alive (hl.closed.trans hc) h).imp_right fun hr => ?_
        exact ⟨hr.alive,hr.notLast,hr.notAborted,hr.parseError,hr.closed.trans hl.closed⟩
      | panicked => cases h; exact .inl rfl
      | pending => cases h; exact hl.imp_right fun hl => { hl with }
      | event event => cases h; exact hl.imp_right fun hl => { hl with }

theorem pollWrites_alive (ha : stream.alive) (h : stream.pollWrites lib io = some (stream',io')) :
    stream'.alive := by
  match stream with
  | .terminated => cases ha
  | .connecting slot sm => cases h; exact ha
  | .connected substate features identity =>
    simp only [pollWrites,Option.map_eq_some_iff] at h
    obtain ⟨⟨substate',io₁⟩,hp,he⟩ := h
    cases he
    exact ConnectedState.pollWrites_alive ha hp

theorem queueSmRequest_alive (ha : stream.alive) (h : stream.queueSmRequest = some stream') :
    stream'.alive := by
  obtain ⟨sm,features,identity,rfl,rfl⟩ := queueSmRequest_cases h
  rfl

theorem startSendStreamError_alive {substate : ConnectedState ε} {features : StreamFeatures}
    {identity : Jid} (ha : substate.alive) (error : StreamError) :
    (WorkerStream.connected substate features identity |>.startSendStreamError error).alive := by
  cases substate with
  | localShutdown txClosed rx => cases ha
  | localShutdownComplete => cases ha
  | _ => rfl

end WorkerStream

end

namespace System

variable {s s' : System ε} {action : Action ε}

/-- A phase in which the worker is not about to stop. -/
def GoesOn : Phase ε → Prop
  | .running => True
  | .sending event after => after ≠ .stop ∧ ∀ error, event ≠ .stream (.fatal error)
  | .closing => False

/-- The worker is not about to stop, and has not told the frontend that it is. -/
structure Alive (s : System ε) : Prop where
  stream : s.worker.stream.alive
  phase : GoesOn s.worker.phase
  events : ∀ error, .stream (.fatal error) ∉ s.events

theorem alive_start (ctr : BitVec 64) : (start ctr : System ε).Alive := ⟨rfl,trivial,nofun⟩

theorem handle_alive {event : Option (WorkerEvent ε)} {worker : StanzaStreamWorker ε} {io io' : Io ε}
    (hrun : s.worker.phase = .running)
    (hl : WorkerStream.Lasting (.event event) s.worker.stream io io')
    (hev : ∀ error, .stream (.fatal error) ∉ s.events)
    (h : s.worker.handle lib event = some worker) : Alive { s with worker := worker } := by
  have hphase : GoesOn s.worker.phase := by rw [hrun]; trivial
  match event with
  | none => exact absurd trivial (hl.notLast none rfl)
  | some (.fatal error) => exact absurd trivial (hl.notLast _ rfl)
  | some (.reset boundJid features) => cases h; exact ⟨hl.alive,⟨nofun,nofun⟩,hev⟩
  | some .disconnected => cases h; exact ⟨hl.alive,⟨nofun,nofun⟩,hev⟩
  | some .resumed => cases h; exact ⟨hl.alive,⟨nofun,nofun⟩,hev⟩
  | some (.stanza stanza) => cases h; exact ⟨hl.alive,⟨nofun,nofun⟩,hev⟩
  | some .reconnectAborted => cases h
  | some (.parseError e) =>
    cases h
    obtain ⟨substate,features,identity,hs⟩ := hl.parseError e rfl
    have ha := hl.alive
    rw [hs] at ha
    refine ⟨?_,hphase,hev⟩
    show (s.worker.stream.startSendStreamError _).alive
    rw [hs]
    exact WorkerStream.startSendStreamError_alive ha _
  | some .softTimeout =>
    unfold StanzaStreamWorker.handle at h
    dsimp only at h
    split at h
    · rename_i stream hq
      cases h
      exact ⟨WorkerStream.queueSmRequest_alive hl.alive hq,hphase,hev⟩
    · cases h; exact ⟨hl.alive,hphase,hev⟩

theorem reconnectRequested_alive (ha : s.Alive) :
    Alive { s with worker := s.worker.reconnectRequested } := by
  unfold StanzaStreamWorker.reconnectRequested
  split
  · rename_i stream hf
    obtain ⟨sm,features,identity,-,rfl⟩ := WorkerStream.forceDisconnect_cases hf
    exact ⟨rfl,⟨nofun,nofun⟩,ha.events⟩
  · exact ha

theorem accept_alive {event : Event ε} {after : After} (ha : s.Alive) (ho : s.Open)
    (hphase : s.worker.phase = .sending event after) : Alive { s with
      worker := s.worker.resume s.frontendClosed after, events := s.events ++ [event] } := by
  have hp := ha.phase
  rw [hphase] at hp
  have hev : ∀ error, .stream (.fatal error) ∉ s.events ++ [event] := by
    intro error hm
    rcases List.mem_append.mp hm with hm | hm
    · exact ha.events error hm
    · exact hp.2 error (List.mem_singleton.mp hm).symm
  cases after with
  | again => exact ⟨ha.stream,trivial,hev⟩
  | stop => exact absurd rfl hp.1
  | reconnect =>
    have hopen : (s.frontendClosed || s.worker.transmitQueue.isClosed) = false :=
      Bool.or_eq_false_iff.mpr ho
    have hs := ha.stream
    unfold StanzaStreamWorker.resume
    dsimp only
    rw [hopen]
    split
    · contradiction
    · split
      · exact ⟨rfl,trivial,hev⟩
      · exact ⟨hs,trivial,hev⟩

/-- As long as the session can go on, so does the worker. -/
theorem step_alive (ha : s.Alive) (hclean : action.clean) (ho : s.Open)
    (h : s.step lib action = .moved s') : s'.Alive := by
  cases step_cases h with
  | submit => exact ⟨ha.stream,ha.phase,ha.events⟩
  | closeQueue => cases hclean
  | closeFrontend => cases hclean
  | giveUp => cases hclean
  | connectFails => cases hclean
  | connectorDrops => cases hclean
  | poll hrun hstray h =>
    rcases poll_cases h with ⟨t,stream,io,hp,ht,rfl⟩ | ⟨event,stream,io,worker,hp,hw,rfl⟩
    · rcases WorkerStream.pollDuplex_lasting ha.stream ho.2 hp with rfl | hl
      · rcases ht with ht | ht <;> cases ht
      · exact ⟨hl.alive,ha.phase,ha.events⟩
    · rcases WorkerStream.pollDuplex_lasting ha.stream ho.2 hp with he | hl
      · cases he
      · exact handle_alive (s := s.put stream io) hrun hl ha.events hw
  | drive hphase hw => exact ⟨WorkerStream.pollWrites_alive ha.stream hw,ha.phase,ha.events⟩
  | accept hphase => exact accept_alive ha ho hphase
  | requestReconnect => exact reconnectRequested_alive ha
  | connect => exact ⟨rfl,ha.phase,ha.events⟩
  | peer => exact ⟨ha.stream,ha.phase,ha.events⟩

theorem Alive.view_ne (ha : s.Alive) : s.worker.view ≠ .finished := by
  have hs : s.worker.stream.view ≠ .finished := by
    have ha := ha.stream
    match hstream : s.worker.stream with
    | .terminated => nofun
    | .connecting .unassigned sm => nofun
    | .connecting .waiting sm => nofun
    | .connecting .dropped sm => nofun
    | .connecting (.filled (.error error)) sm => nofun
    | .connecting (.filled (.ok (features,identity))) sm => nofun
    | .connected substate features identity =>
      rw [hstream] at ha
      cases substate with
      | localShutdown txClosed rx => cases ha
      | localShutdownComplete => cases ha
      | _ => nofun
  have hp := ha.phase
  unfold StanzaStreamWorker.view
  split
  · exact hs
  · exact hs
  · exact hs
  · rename_i event hphase; rw [hphase] at hp; exact absurd rfl hp.1
  · rename_i hphase; rw [hphase] at hp; cases hp

end System

end MindChat.StanzaStream
