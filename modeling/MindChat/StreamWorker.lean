import MindChat.StreamNegotiation

/-! The worker of a stanza stream: the established connection, the change from one
connection to the next, and the loop between the frontend and the stream. -/

namespace MindChat.StanzaStream

open Polling

inductive RxShutdownState
  | awaitingFooter
  | awaitingEof
  | done
  deriving DecidableEq

/-- `ConnectedState`; the turn says whether its deadline has passed. -/
inductive ConnectedState (ε : Type)
  | negotiating (substate : NegotiationState ε)
  | ready (sm : Option (SmState ε))
  | sendStreamError (streamError : Option StreamError) (ioError : Option OpaqueIoError)
  | failed (error : Option OpaqueIoError) (sm : Option (SmState ε))
  | localShutdown (txClosed : Bool) (rx : RxShutdownState)
  | remoteShutdown (sm : Option (SmState ε))
  | localShutdownComplete

/-- What the stream tells the worker; the slot of a disconnect stays with the stream. -/
inductive WorkerEvent (ε : Type)
  | reset (boundJid : Jid) (features : StreamFeatures)
  | resumed
  | stanza (stanza : Stanza ε)
  | parseError (error : XsoError)
  | softTimeout
  | disconnected
  | fatal (error : XmppError)
  | reconnectAborted

inductive ConnectedEvent (ε : Type)
  | worker (event : WorkerEvent ε)
  | remoteShutdown (sm : Option (SmState ε))
  | disconnect (sm : Option (SmState ε)) (error : Option OpaqueIoError)
  | localShutdownRequested

/-- What a turn comes to; `again` asks for another one. -/
inductive Turn (α : Type)
  | panicked
  | pending
  | again
  | event (event : α)

variable {ε : Type}

def localErrorForStreamError (lib : Library ε) :
    Option OpaqueIoError → Option StreamError → OpaqueIoError
  | some error,_ => error
  | none,some error => ⟨.invalidData,lib.sentStreamError error⟩
  | none,none => ⟨.invalidData,"unknown local stream error generated"⟩

/-- `usize::MAX` of a 64-bit target. -/
def usizeMax : ℕ := 2 ^ 64 - 1

namespace ConnectedState

def toStreamErrorState (error : StreamError) : ConnectedState ε := .sendStreamError (some error) none

def forceDisconnect : ConnectedState ε → Option (ConnectedEvent ε)
  | .ready sm => some (.disconnect sm none)
  | _ => none

def pollNegotiation (lib : Library ε) (jid : Jid) (features : StreamFeatures)
    (substate : NegotiationState ε) (io : Io ε) : Turn (ConnectedEvent ε) × ConnectedState ε × Io ε :=
  match substate.advance lib jid io with
  | (.panicked,substate,io) => (.panicked,.negotiating substate,io)
  | (.pending,substate,io) => (.pending,.negotiating substate,io)
  | (.next none,substate,io) => (.again,.negotiating substate,io)
  | (.next (some stanza),substate,io) =>
    (.event (.worker (.stanza stanza)),.negotiating substate,io)
  | (.done (.disconnect sm error),_,io) => (.again,.failed (some error) sm,io)
  | (.done (.streamReset sm boundJid),_,io) =>
    (.event (.worker (.reset boundJid features)),.ready sm,io)
  | (.done (.streamResumed sm),_,io) => (.event (.worker .resumed),.ready (some sm),io)
  | (.done (.streamError error),_,io) => (.again,toStreamErrorState error,io)

/-- Get the stream error out, whatever the peer still sends. -/
def pollStreamError (lib : Library ε) (streamError : Option StreamError)
    (ioError : Option OpaqueIoError) (io : Io ε) :
    Turn (ConnectedEvent ε) × ConnectedState ε × Io ε :=
  let io := io.pollNext.2
  if io.answers.deadline then
    (.again,.failed (some (localErrorForStreamError lib ioError streamError)) none,io)
  else
    match streamError with
    | none => flush none ioError io
    | some error =>
      match io.pollReady with
      | (.pending,io) => (.pending,.sendStreamError streamError ioError,io)
      | (.ready (.error _),io) =>
        (.again,.failed (some (localErrorForStreamError lib ioError streamError)) none,io)
      | (.ready (.ok ()),io) =>
        flush none (some (localErrorForStreamError lib ioError (some error)))
          (io.send (.streamError error))
where
  flush (streamError : Option StreamError) (ioError : Option OpaqueIoError) (io : Io ε) :
      Turn (ConnectedEvent ε) × ConnectedState ε × Io ε :=
    match io.answers.flush with
    | .pending => (.pending,.sendStreamError streamError ioError,io)
    | .ready _ => (.again,.failed (some (localErrorForStreamError lib ioError streamError)) none,io)

/-- What a session that is ready makes of a received item. -/
def receive (lib : Library ε) (sm : Option (SmState ε)) (io : Io ε) :
    Item ε → Turn (ConnectedEvent ε) × ConnectedState ε × Io ε
  | .ok (.ok (.stanza data)) =>
    (.event (.worker (.stanza data)),.ready (sm.map SmState.received),io)
  | .ok (.ok (.sm (.ack h))) =>
    match sm with
    | none => (.again,.ready none,io)
    | some st =>
      match st.remoteAcked io.tokens h with
      | .ok (st,tokens) => (.again,.ready (some st),{ io with tokens := tokens })
      | .error e => (.again,toStreamErrorState (.handledCountTooHigh e.handledCountTooHigh),io)
  | .ok (.ok (.sm .req)) =>
    match sm with
    | none => (.again,toStreamErrorState (.defined .unsupportedStanzaType
        "received <sm:r/>, but stream management is not enabled" []),io)
    | some st =>
      if st.pendingAcks = usizeMax then (.panicked,.ready sm,io)
      else (.again,.ready (some { st with pendingAcks := st.pendingAcks + 1 }),io)
  | .ok (.ok other) =>
    (.again,toStreamErrorState (.defined .unsupportedStanzaType
      ("Unsupported stream element: " ++ lib.debug other) []),io)
  | .ok (.error (.invalidStanza _ _)) => (.again,.ready (sm.map SmState.received),io)
  | .error .softTimeout => (.event (.worker .softTimeout),.ready sm,io)
  | .error (.parseError e) => (.event (.worker (.parseError e)),.ready sm,io)
  | .ok (.error (.invalidNonza _ e)) => (.event (.worker (.parseError e)),.ready sm,io)
  | .error (.hardError e) => (.event (.disconnect sm (some e)),.ready none,io)
  | .error .streamFooterReceived => (.again,.remoteShutdown sm,io)

/-- A session that is ready writes first and then reads one item. -/
def pollReady (lib : Library ε) (sm : Option (SmState ε)) (io : Io ε) :
    Turn (ConnectedEvent ε) × ConnectedState ε × Io ε :=
  match Write.pollWritesInner lib ⟨sm,io⟩ with
  | (.panicked,tx) => (.panicked,.ready tx.sm,tx.io)
  | (.done (),tx) =>
    (.event .localShutdownRequested,.localShutdown false .awaitingFooter,tx.io)
  | (.failed e,tx) => (.again,.failed (some e) tx.sm,tx.io)
  | (.pending,tx) =>
    match tx.io.pollNext with
    | (.pending,io) => (.pending,.ready tx.sm,io)
    | (.ready item,io) => receive lib tx.sm io (item.getD (.error (.hardError eofBeforeFooter)))

/-- `poll`: drive the stream in both directions. -/
def poll (lib : Library ε) (jid : Jid) (features : StreamFeatures) (state : ConnectedState ε)
    (io : Io ε) : Turn (ConnectedEvent ε) × ConnectedState ε × Io ε :=
  match state with
  | .negotiating substate => pollNegotiation lib jid features substate io
  | .sendStreamError streamError ioError => pollStreamError lib streamError ioError io
  | .ready sm => pollReady lib sm io
  | .failed error sm => (.event (.disconnect sm error),.failed none none,io)
  | .localShutdown _ _ => (.panicked,state,io)
  | .localShutdownComplete => (.panicked,state,io)
  | .remoteShutdown sm => (.event (.remoteShutdown sm),.remoteShutdown none,io)

/-- `poll_writes`: drive only the transmit side; `none` is a panic. -/
def pollWrites (lib : Library ε) (state : ConnectedState ε) (io : Io ε) :
    Option (ConnectedState ε × Io ε) :=
  match state with
  | .ready sm =>
    match Write.pollWritesInner lib ⟨sm,io⟩ with
    | (.panicked,_) => none
    | (.failed e,tx) => some (.failed (some e) tx.sm,tx.io)
    | (_,tx) => some (.ready tx.sm,tx.io)
  | _ => some (state,io)

def startSendStreamError (state : ConnectedState ε) (error : StreamError) : ConnectedState ε :=
  match state with
  | .ready _ => toStreamErrorState error
  | .negotiating _ => toStreamErrorState error
  | _ => state

/-- Ask for an acknowledgement, where stream management is there to ask. -/
def queueSmRequest : ConnectedState ε → Option (ConnectedState ε)
  | .ready (some sm) => some (.ready (some { sm with pendingReq := true }))
  | _ => none

end ConnectedState

/-- The slot for the next connection: not handed to the connector yet, waiting for it,
filled by it, or dropped by it. -/
inductive Slot
  | unassigned
  | waiting
  | filled (result : Except XmppError (StreamFeatures × Jid))
  | dropped

inductive WorkerStream (ε : Type)
  | connecting (slot : Slot) (sm : Option (SmState ε))
  | connected (substate : ConnectedState ε) (features : StreamFeatures) (identity : Jid)
  | terminated

namespace WorkerStream

def forceDisconnect : WorkerStream ε → Option (WorkerStream ε)
  | .connected substate _ _ =>
    match substate.forceDisconnect with
    | some (.disconnect sm _) => some (.connecting .unassigned sm)
    | _ => none
  | _ => none

/-- Only a ready connection is broken, and what it keeps for a resumption stays. -/
theorem forceDisconnect_cases {stream stream' : WorkerStream ε}
    (h : stream.forceDisconnect = some stream') : ∃ sm features identity,
      stream = .connected (.ready sm) features identity ∧ stream' = .connecting .unassigned sm := by
  unfold forceDisconnect at h
  split at h
  · split at h
    · rename_i hs
      cases h
      unfold ConnectedState.forceDisconnect at hs
      split at hs <;> cases hs
      exact ⟨_,_,_,rfl,rfl⟩
    · cases h
  · cases h

/-- One round of the loop of `poll_duplex`; an event of `none` is the end of the stream. -/
def turn (lib : Library ε) (stream : WorkerStream ε) (io : Io ε) :
    Turn (Option (WorkerEvent ε)) × WorkerStream ε × Io ε :=
  match stream with
  | .terminated => (.event none,.terminated,io)
  | .connecting (.filled (.ok (features,identity))) sm =>
    match NegotiationState.new features sm with
    | .ok substate => (.again,.connected (.negotiating substate) features identity,io)
    | .error _ => (.panicked,stream,io)
  | .connecting (.filled (.error error)) _ => (.event (some (.fatal error)),.terminated,io)
  | .connecting .dropped _ => (.event (some .reconnectAborted),.terminated,io)
  | .connecting _ _ => (.pending,stream,io)
  | .connected substate features identity =>
    match substate.poll lib identity features io with
    | (.panicked,substate,io) => (.panicked,.connected substate features identity,io)
    | (.pending,substate,io) => (.pending,.connected substate features identity,io)
    | (.again,substate,io) => (.again,.connected substate features identity,io)
    | (.event (.worker (.reset boundJid fs)),substate,io) =>
      (.event (some (.reset boundJid fs)),.connected substate features boundJid,io)
    | (.event (.worker event),substate,io) =>
      (.event (some event),.connected substate features identity,io)
    | (.event (.disconnect sm _),_,io) =>
      (.event (some .disconnected),.connecting .unassigned sm,io)
    | (.event (.remoteShutdown sm),_,io) =>
      (.event (some .disconnected),.connecting .unassigned sm,io)
    | (.event .localShutdownRequested,substate,io) =>
      (.event none,.connected substate features identity,io)

/-- `poll_duplex`, with the answers of the transport for one round after the other; where
they end the stream waits. -/
def pollDuplex (lib : Library ε) : List (Answers ε) → WorkerStream ε → Io ε →
    Turn (Option (WorkerEvent ε)) × WorkerStream ε × Io ε
  | [],stream,io => (.pending,stream,io)
  | answers :: rest,stream,io =>
    match stream.turn lib { io with answers := answers } with
    | (.again,stream,io) => pollDuplex lib rest stream io
    | result => result

/-- `poll_writes`: it never completes; `none` is a panic. -/
def pollWrites (lib : Library ε) (stream : WorkerStream ε) (io : Io ε) :
    Option (WorkerStream ε × Io ε) :=
  match stream with
  | .connected substate features identity =>
    (substate.pollWrites lib io).map fun (substate,io) =>
      (.connected substate features identity,io)
  | _ => some (stream,io)

def startSendStreamError (stream : WorkerStream ε) (error : StreamError) : WorkerStream ε :=
  match stream with
  | .connected substate features identity =>
    .connected (substate.startSendStreamError error) features identity
  | _ => .terminated

def queueSmRequest : WorkerStream ε → Option (WorkerStream ε)
  | .connected substate features identity =>
    substate.queueSmRequest.map (.connected · features identity)
  | _ => none

theorem queueSmRequest_cases {stream stream' : WorkerStream ε} (h : stream.queueSmRequest = some stream') :
    ∃ sm features identity, stream = .connected (.ready (some sm)) features identity ∧
      stream' = .connected (.ready (some { sm with pendingReq := true })) features identity := by
  unfold queueSmRequest at h
  split at h
  · simp only [Option.map_eq_some_iff] at h
    obtain ⟨substate,hs,rfl⟩ := h
    unfold ConnectedState.queueSmRequest at hs
    split at hs <;> cases hs
    exact ⟨_,_,_,rfl,rfl⟩
  · cases h

end WorkerStream

inductive StreamEvent
  | reset (boundJid : Jid) (features : StreamFeatures)
  | suspended
  | resumed
  | fatal (error : XmppError)
  deriving DecidableEq

inductive Event (ε : Type)
  | stream (event : StreamEvent)
  | stanza (stanza : Stanza ε)
  deriving DecidableEq

/-- What the loop does once the frontend has taken the event. -/
inductive After
  | again
  | reconnect
  | stop
  deriving DecidableEq

/-- Where the loop is: waiting for something to happen, handing an event to the
frontend, or past its end. -/
inductive Phase (ε : Type)
  | running
  | sending (event : Event ε) (after : After)
  | closing
  deriving DecidableEq

/-- The worker; the calls of the reconnector are seen in the slot of the stream. -/
structure StanzaStreamWorker (ε : Type) where
  stream : WorkerStream ε
  transmitQueue : TransmitQueue ε
  phase : Phase ε
  pingProbeCtr : BitVec 64

namespace StanzaStreamWorker

def pingProbeIdPrefix : String := "xmpp-rs-stanzastream-liveness-probe"

def pingProbe (lib : Library ε) (ctr : BitVec 64) : Stanza ε :=
  .iq (.get none none (pingProbeIdPrefix ++ "-" ++ toString ctr.toNat) lib.ping)

/-- `spawn`, with the random start of the probe counter. -/
def spawn (pingProbeCtr : BitVec 64) : StanzaStreamWorker ε where
  stream := .connecting .waiting none
  transmitQueue := ⟨[],false,[]⟩
  phase := .running
  pingProbeCtr := pingProbeCtr

/-- What the loop does with an event of the stream; `none` is a panic. -/
def handle (lib : Library ε) (w : StanzaStreamWorker ε) :
    Option (WorkerEvent ε) → Option (StanzaStreamWorker ε)
  | none => some { w with phase := .closing }
  | some (.reset boundJid features) =>
    some { w with phase := .sending (.stream (.reset boundJid features)) .again }
  | some .disconnected => some { w with phase := .sending (.stream .suspended) .reconnect }
  | some .resumed => some { w with phase := .sending (.stream .resumed) .again }
  | some (.stanza stanza) => some { w with phase := .sending (.stanza stanza) .again }
  | some (.parseError e) =>
    some { w with stream := w.stream.startSendStreamError (parseErrorToStreamError e) }
  | some .softTimeout =>
    match w.stream.queueSmRequest with
    | some stream => some { w with stream := stream }
    | none =>
      let ctr := w.pingProbeCtr + 1
      some { w with
        pingProbeCtr := ctr
        transmitQueue := w.transmitQueue.enqueue (.untracked (pingProbe lib ctr)) }
  | some (.fatal error) => some { w with phase := .sending (.stream (.fatal error)) .stop }
  | some .reconnectAborted => none

/-- The frontend has taken the event. After a disconnect the reconnector is called,
unless nobody is left at the other ends. -/
def resume (w : StanzaStreamWorker ε) (frontendClosed : Bool) : After → StanzaStreamWorker ε
  | .again => { w with phase := .running }
  | .stop => { w with phase := .closing }
  | .reconnect =>
    if frontendClosed || w.transmitQueue.isClosed then { w with phase := .closing }
    else
      match w.stream with
      | .connecting .unassigned sm => { w with stream := .connecting .waiting sm, phase := .running }
      | _ => { w with phase := .running }

/-- An external request breaks an established session; otherwise it does nothing. -/
def reconnectRequested (w : StanzaStreamWorker ε) : StanzaStreamWorker ε :=
  match w.stream.forceDisconnect with
  | some stream => { w with stream := stream, phase := .sending (.stream .suspended) .reconnect }
  | none => w

end StanzaStreamWorker

end MindChat.StanzaStream
