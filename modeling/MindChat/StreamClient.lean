import MindChat.StreamSystem

/-! The worker as its peer sees it: what a turn may do to the connection, the queue and
the session, listed once. -/

namespace MindChat.StanzaStream

open Polling
open Relation (ReflTransGen)

/-- Where the worker is with its session: between two connections, on a new connection
that it has not looked at, negotiating, ready, or past its end. -/
inductive View (ε : Type)
  | away (sm : Option (SmState ε))
  | opened (features : StreamFeatures) (sm : Option (SmState ε))
  | negotiating (state : NegotiationState ε)
  | ready (sm : Option (SmState ε))
  | finished

variable {ε : Type}

def NegotiationState.sm : NegotiationState ε → Option (SmState ε)
  | .sendSmRequest sm _ => sm
  | .receiveSmResponse sm _ => sm
  | _ => none

namespace View

def sm : View ε → Option (SmState ε)
  | .away sm => sm
  | .opened _ sm => sm
  | .negotiating state => state.sm
  | .ready sm => sm
  | .finished => none

/-- Where the worker looks at what comes in. -/
def reading : View ε → Bool
  | .ready _ => true
  | .negotiating (.receiveBindResponse _) => true
  | .negotiating (.receiveSmResponse _ _) => true
  | _ => false

/-- The items that have a place where the worker is. -/
def awaits : View ε → Item ε → Bool
  | .ready _,.ok (.ok (.stanza _)) => true
  | .ready _,.ok (.error (.invalidStanza _ _)) => true
  | .ready (some _),.ok (.ok (.sm (.ack _))) => true
  | .ready (some _),.ok (.ok (.sm .req)) => true
  | .negotiating (.receiveBindResponse _),.ok (.ok (.stanza (.iq iq))) => decide (iq.id = bindReqId)
  | .negotiating (.receiveSmResponse none (some _)),.ok (.ok (.stanza _)) => true
  | .negotiating (.receiveSmResponse none (some _)),.ok (.error (.invalidStanza _ _)) => true
  | .negotiating (.receiveSmResponse none (some _)),.ok (.ok (.sm (.enabled _))) => true
  | .negotiating (.receiveSmResponse _ _),.ok (.ok (.sm (.failed _))) => true
  | .negotiating (.receiveSmResponse (some _) _),.ok (.ok (.sm (.resumed _ _))) => true
  | _,_ => false

end View

/-- The tokens after a refused resumption. -/
def tokensOfFailed (sm : SmState ε) (tokens : Tokens) (h : Option (BitVec 32)) : Tokens :=
  match h.map (sm.remoteAcked tokens) with
  | some (.ok (_,tokens)) => tokens
  | _ => tokens

/-- What the worker makes of an item: where it is then, the queue and the tokens, and the
stanza that it hands on. What an item does that has no place is left open. -/
inductive Reads (lib : Library ε) : Item ε → View ε → List (QueueEntry ε) → Tokens →
    View ε → List (QueueEntry ε) → Tokens → List (Stanza ε) → Prop
  | stanza {sm queue tokens} (stanza : Stanza ε) : Reads lib (.ok (.ok (.stanza stanza)))
      (.ready sm) queue tokens (.ready (sm.map SmState.received)) queue tokens [stanza]
  | invalid {sm queue tokens text e} : Reads lib (.ok (.error (.invalidStanza text e)))
      (.ready sm) queue tokens (.ready (sm.map SmState.received)) queue tokens []
  | acked {st st' queue tokens tokens' h} (hr : st.remoteAcked tokens h = .ok (st',tokens')) :
      Reads lib (ackItem h) (.ready (some st)) queue tokens (.ready (some st')) queue tokens' []
  | tooHigh {st queue tokens h e} (hr : st.remoteAcked tokens h = .error e) :
      Reads lib (ackItem h) (.ready (some st)) queue tokens (.away none) queue tokens []
  | req {st queue tokens} (acks : ℕ) : Reads lib reqItem (.ready (some st)) queue tokens
      (.ready (some { st with pendingAcks := acks })) queue tokens []
  | bound {smSupported queue tokens iq jid view} (hid : iq.id = bindReqId)
      (hb : NegotiationState.bindReply lib iq = .ok jid)
      (hv : view = if smSupported then .negotiating (.sendSmRequest none (some jid)) else .ready none) :
      Reads lib (.ok (.ok (.stanza (.iq iq)))) (.negotiating (.receiveBindResponse smSupported))
        queue tokens view queue tokens []
  | notBound {smSupported queue tokens iq} (hid : iq.id = bindReqId) :
      Reads lib (.ok (.ok (.stanza (.iq iq)))) (.negotiating (.receiveBindResponse smSupported))
        queue tokens (.away none) queue tokens []
  | early {jid queue tokens} (stanza : Stanza ε) : Reads lib (.ok (.ok (.stanza stanza)))
      (.negotiating (.receiveSmResponse none jid)) queue tokens
      (.negotiating (.receiveSmResponse none jid)) queue tokens [stanza]
  | earlyInvalid {jid queue tokens text e} : Reads lib (.ok (.error (.invalidStanza text e)))
      (.negotiating (.receiveSmResponse none jid)) queue tokens (.away none) queue tokens []
  | enabled {jid queue tokens} (enabled : Enabled) : Reads lib (enabledItem enabled)
      (.negotiating (.receiveSmResponse none jid)) queue tokens
      (.ready (some (.ofEnabled enabled))) queue tokens []
  | notEnabled {jid queue tokens h} : Reads lib (failedItem h)
      (.negotiating (.receiveSmResponse none jid)) queue tokens (.ready none) queue tokens []
  | resumed {st st' jid queue again tokens tokens' h id}
      (hr : st.resume tokens h = .ok (again,st',tokens')) : Reads lib (resumedItem h id)
      (.negotiating (.receiveSmResponse (some st) jid)) queue tokens
      (.ready (some st')) (again ++ queue) tokens' []
  | resumedTooHigh {st jid queue tokens h id e} (hr : st.resume tokens h = .error e) :
      Reads lib (resumedItem h id) (.negotiating (.receiveSmResponse (some st) jid)) queue tokens
        (.away none) queue tokens []
  | notResumed {st jid queue tokens h} : Reads lib (failedItem h)
      (.negotiating (.receiveSmResponse (some st) jid)) queue tokens
      (.negotiating (.sendBindRequest true)) queue (tokensOfFailed st tokens h) []
  | other {item view view' queue queue' tokens tokens' got} (h : view.awaits item = false) :
      Reads lib item view queue tokens view' queue' tokens' got

/-- The part of the worker that matters for the peer, with the stanzas handed on. -/
structure Client (ε : Type) where
  view : View ε
  net : XmppStream ε
  queue : List (QueueEntry ε)
  tokens : Tokens
  inbox : List (Stanza ε)

namespace Client

def of (view : View ε) (io : Io ε) (inbox : List (Stanza ε)) : Client ε :=
  ⟨view,io.stream,io.queue.entries,io.tokens,inbox⟩

def ofTx (tx : Tx ε) (inbox : List (Stanza ε)) : Client ε := .of (.ready tx.sm) tx.io inbox

end Client

/-- One thing that a worker does. It gives a session up, or stops with one, only where
`lossy` allows it. -/
inductive ClientStep (lib : Library ε) (lossy : Prop) : Client ε → Client ε → Prop
  | write {tx tx' : Tx ε} {inbox : List (Stanza ε)} (h : Wrote lib tx tx') :
      ClientStep lib lossy (.ofTx tx inbox) (.ofTx tx' inbox)
  /-- A ping probe gets in line. -/
  | insert {c : Client ε} {front back : List (QueueEntry ε)} (stanza : Stanza ε)
      (h : c.queue = front ++ back) :
      ClientStep lib lossy c { c with queue := front ++ .untracked stanza :: back }
  /-- The connection is lost and the session is kept. -/
  | leave {c : Client ε} (h : c.view ≠ .finished) :
      ClientStep lib lossy c { c with view := .away c.view.sm }
  | drop {c : Client ε} (hl : lossy ∨ c.view.sm = none) (h : c.view ≠ .finished) :
      ClientStep lib lossy c { c with view := .away none }
  /-- A stream error of the peer fails what is queued. -/
  | fail {c : Client ε} (hl : lossy) (h : c.view ≠ .finished) (error : OpaqueIoError) :
      ClientStep lib lossy c { c with
        view := .away none, queue := [], tokens := c.tokens.sendReplaceAll c.queue (.failed error) }
  /-- The end of the worker; a stanza that waits for the frontend may be gone with it. -/
  | finish {c : Client ε} {inbox : List (Stanza ε)} (hi : inbox <+: c.inbox)
      (hl : lossy ∨ c.view.sm = none ∨ ∃ sm, c.view = .ready sm) :
      ClientStep lib lossy c { c with view := .finished, inbox := inbox }
  | begin {c : Client ε} {features : StreamFeatures} {sm : Option (SmState ε)}
      {state : NegotiationState ε} (h : c.view = .opened features sm)
      (hn : NegotiationState.new features sm = .ok state) :
      ClientStep lib lossy c { c with view := .negotiating state }
  | bind {c : Client ε} {smSupported : Bool} (resource : Option String)
      (h : c.view = .negotiating (.sendBindRequest smSupported)) :
      ClientStep lib lossy c { c with
        view := .negotiating (.receiveBindResponse smSupported)
        net.up := c.net.up ++ [.bind resource] }
  | manage {c : Client ε} {sm : Option (SmState ε)} {jid : Option Jid}
      (h : c.view = .negotiating (.sendSmRequest sm jid)) :
      ClientStep lib lossy c { c with
        view := .negotiating (.receiveSmResponse sm jid)
        net.up := c.net.up ++ [.sm (NegotiationState.smRequest sm)] }
  | read {c : Client ε} {item : Item ε} {down : List (Item ε)} {view : View ε}
      {queue : List (QueueEntry ε)} {tokens : Tokens} {got : List (Stanza ε)}
      (hv : c.view.reading) (hd : c.net.down = item :: down)
      (hr : Reads lib item c.view c.queue c.tokens view queue tokens got) :
      ClientStep lib lossy c ⟨view,{ c.net with down := down },queue,tokens,c.inbox ++ got⟩
  /-- While a stream error goes out, what comes in is thrown away. -/
  | ignore {c : Client ε} (h : c.view = .away none) (down : List (Item ε)) :
      ClientStep lib lossy c { c with net.down := down }
  | streamError {c : Client ε} (h : c.view = .away none) (error : StreamError) :
      ClientStep lib lossy c { c with net.up := c.net.up ++ [.streamError error] }

abbrev ClientMoves (lib : Library ε) (lossy : Prop) : Client ε → Client ε → Prop :=
  ReflTransGen (ClientStep lib lossy)

/-- Of what turns up on its own, this leaves the session alone. -/
def Read.clean : Read ε → Bool
  | .item (.error .softTimeout) => true
  | .item (.error (.hardError _)) => true
  | .item (.error .streamFooterReceived) => true
  | .item _ => false
  | _ => true

/-- Where a turn of the negotiation leaves the worker. -/
def Advance.view (state : NegotiationState ε) : Advance ε → View ε
  | .done (.disconnect sm _) => .away sm
  | .done (.streamReset sm _) => .ready sm
  | .done (.streamResumed sm) => .ready (some sm)
  | .done (.streamError _) => .away none
  | _ => .negotiating state

def Advance.got : Advance ε → List (Stanza ε)
  | .next (some stanza) => [stanza]
  | _ => []

def ConnectedState.view : ConnectedState ε → View ε
  | .negotiating state => .negotiating state
  | .ready sm => .ready sm
  | .sendStreamError _ _ => .away none
  | .failed _ sm => .away sm
  | .localShutdown _ _ => .finished
  | .remoteShutdown sm => .away sm
  | .localShutdownComplete => .finished

/-- A session goes with a connection that fails for good. -/
def WorkerStream.view : WorkerStream ε → View ε
  | .connecting (.filled (.ok (features,_))) sm => .opened features sm
  | .connecting (.filled (.error _)) _ => .away none
  | .connecting .dropped _ => .away none
  | .connecting _ sm => .away sm
  | .connected substate _ _ => substate.view
  | .terminated => .away none

def WorkerEvent.got : WorkerEvent ε → List (Stanza ε)
  | .stanza data => [data]
  | _ => []

/-- Where a turn leaves the worker, once it has handled the event. -/
def ConnectedState.after (state : ConnectedState ε) : Turn (ConnectedEvent ε) → View ε
  | .event (.disconnect sm _) => .away sm
  | .event (.remoteShutdown sm) => .away sm
  | .event (.worker (.parseError e)) => (state.startSendStreamError (parseErrorToStreamError e)).view
  | _ => state.view

def ConnectedState.got : Turn (ConnectedEvent ε) → List (Stanza ε)
  | .event (.worker event) => event.got
  | _ => []

def WorkerStream.after (stream : WorkerStream ε) : Turn (Option (WorkerEvent ε)) → View ε
  | .event (some (.parseError e)) => (stream.startSendStreamError (parseErrorToStreamError e)).view
  | _ => stream.view

def WorkerStream.got : Turn (Option (WorkerEvent ε)) → List (Stanza ε)
  | .event (some event) => event.got
  | _ => []

variable {lib : Library ε} {lossy : Prop}

/-- What a session that is ready makes of an item, whatever it is. -/
theorem receive_reads (sm : Option (SmState ε)) (io : Io ε) (item : Item ε)
    {turn : Turn (ConnectedEvent ε)} {state : ConnectedState ε} {io' : Io ε}
    (h : ConnectedState.receive lib sm io item = (turn,state,io')) : turn = .panicked ∨
      io'.stream = io.stream ∧ Reads lib item (.ready sm) io.queue.entries io.tokens
        (state.after turn) io'.queue.entries io'.tokens (ConnectedState.got turn) := by
  match item with
  | .error (.softTimeout) => cases h; exact .inr ⟨rfl,.other rfl⟩
  | .error (.hardError e) => cases h; exact .inr ⟨rfl,.other rfl⟩
  | .error (.parseError e) => cases h; exact .inr ⟨rfl,.other rfl⟩
  | .error (.streamFooterReceived) => cases h; exact .inr ⟨rfl,.other rfl⟩
  | .ok (.error (.invalidStanza text e)) => cases h; exact .inr ⟨rfl,.invalid⟩
  | .ok (.error (.invalidNonza text e)) => cases h; exact .inr ⟨rfl,.other rfl⟩
  | .ok (.ok (.stanza stanza)) => cases h; exact .inr ⟨rfl,.stanza stanza⟩
  | .ok (.ok .sasl) => cases h; exact .inr ⟨rfl,.other rfl⟩
  | .ok (.ok .starttls) => cases h; exact .inr ⟨rfl,.other rfl⟩
  | .ok (.ok .componentHandshake) => cases h; exact .inr ⟨rfl,.other rfl⟩
  | .ok (.ok (.streamError text)) => cases h; exact .inr ⟨rfl,.other rfl⟩
  | .ok (.ok (.sm (.enable max resume))) => cases h; exact .inr ⟨rfl,.other (by cases sm <;> rfl)⟩
  | .ok (.ok (.sm (.enabled enabled))) => cases h; exact .inr ⟨rfl,.other (by cases sm <;> rfl)⟩
  | .ok (.ok (.sm (.resume n previd))) => cases h; exact .inr ⟨rfl,.other (by cases sm <;> rfl)⟩
  | .ok (.ok (.sm (.resumed n previd))) => cases h; exact .inr ⟨rfl,.other (by cases sm <;> rfl)⟩
  | .ok (.ok (.sm (.failed n))) => cases h; exact .inr ⟨rfl,.other (by cases sm <;> rfl)⟩
  | .ok (.ok (.sm (.ack n))) =>
    cases sm with
    | none => cases h; exact .inr ⟨rfl,.other rfl⟩
    | some st =>
      unfold ConnectedState.receive at h
      cases hr : st.remoteAcked io.tokens n with
      | ok result => simp only [hr] at h; cases h; exact .inr ⟨rfl,.acked hr⟩
      | error e => simp only [hr] at h; cases h; exact .inr ⟨rfl,.tooHigh hr⟩
  | .ok (.ok (.sm .req)) =>
    cases sm with
    | none => cases h; exact .inr ⟨rfl,.other rfl⟩
    | some st =>
      unfold ConnectedState.receive at h
      by_cases hc : st.pendingAcks = usizeMax
      · simp only [hc,if_true] at h; cases h; exact .inl rfl
      · simp only [hc,if_false] at h; cases h; exact .inr ⟨rfl,.req _⟩

namespace NegotiationState

variable {state : NegotiationState ε} {advance : Advance ε} {io io' : Io ε}

theorem receiveBind_reads {smSupported : Bool} {item : Item ε} {next : NegotiationState ε}
    (h : receiveBind lib smSupported io (flattenItem (some item)) = (advance,next,io')) :
    io'.stream = io.stream ∧ Reads lib item (.negotiating (.receiveBindResponse smSupported))
      io.queue.entries io.tokens (advance.view next) io'.queue.entries io'.tokens advance.got := by
  match item with
  | .error e => cases e <;> cases h <;> exact ⟨rfl,.other rfl⟩
  | .ok (.error e) => cases e <;> cases h <;> exact ⟨rfl,.other rfl⟩
  | .ok (.ok .sasl) => cases h; exact ⟨rfl,.other rfl⟩
  | .ok (.ok .starttls) => cases h; exact ⟨rfl,.other rfl⟩
  | .ok (.ok .componentHandshake) => cases h; exact ⟨rfl,.other rfl⟩
  | .ok (.ok (.streamError text)) => cases h; exact ⟨rfl,.other rfl⟩
  | .ok (.ok (.sm nonza)) => cases h; exact ⟨rfl,.other rfl⟩
  | .ok (.ok (.stanza (.message id content))) => cases h; exact ⟨rfl,.other rfl⟩
  | .ok (.ok (.stanza (.presence id content))) => cases h; exact ⟨rfl,.other rfl⟩
  | .ok (.ok (.stanza (.iq iq))) =>
    simp only [receiveBind,flattenItem] at h
    by_cases hid : iq.id = bindReqId
    · rw [if_pos hid] at h
      cases hb : bindReply lib iq with
      | error text => simp only [hb] at h; cases h; exact ⟨rfl,.notBound hid⟩
      | ok jid =>
        simp only [hb] at h
        cases smSupported with
        | true => cases h; exact ⟨rfl,.bound hid hb rfl⟩
        | false => cases h; exact ⟨rfl,.bound hid hb rfl⟩
    · rw [if_neg hid] at h
      cases h
      exact ⟨rfl,.other (decide_eq_false hid)⟩

theorem receiveSm_none_reads {jid : Option Jid} {item : Item ε} {next : NegotiationState ε}
    (h : receiveSm lib none jid io (flattenItem (some item)) = (advance,next,io')) :
    advance = .panicked ∨
    io'.stream = io.stream ∧ Reads lib item (.negotiating (.receiveSmResponse none jid))
      io.queue.entries io.tokens (advance.view next) io'.queue.entries io'.tokens advance.got := by
  match item with
  | .error e => cases jid <;> cases e <;> cases h <;> exact .inr ⟨rfl,.other rfl⟩
  | .ok (.error (.invalidStanza text e)) => cases h; exact .inr ⟨rfl,.earlyInvalid⟩
  | .ok (.error (.invalidNonza text e)) => cases jid <;> cases h <;> exact .inr ⟨rfl,.other rfl⟩
  | .ok (.ok .sasl) => cases jid <;> cases h <;> exact .inr ⟨rfl,.other rfl⟩
  | .ok (.ok .starttls) => cases jid <;> cases h <;> exact .inr ⟨rfl,.other rfl⟩
  | .ok (.ok .componentHandshake) => cases jid <;> cases h <;> exact .inr ⟨rfl,.other rfl⟩
  | .ok (.ok (.streamError text)) => cases jid <;> cases h <;> exact .inr ⟨rfl,.other rfl⟩
  | .ok (.ok (.stanza stanza)) => cases h; exact .inr ⟨rfl,.early _⟩
  | .ok (.ok (.sm (.enabled enabled))) =>
    cases jid with
    | none => cases h; exact .inl rfl
    | some jid => cases h; exact .inr ⟨rfl,.enabled _⟩
  | .ok (.ok (.sm (.failed n))) =>
    cases jid with
    | none => cases h; exact .inl rfl
    | some jid => cases h; exact .inr ⟨rfl,.notEnabled⟩
  | .ok (.ok (.sm (.resumed n previd))) =>
    cases jid <;> cases h <;> exact .inr ⟨rfl,.other rfl⟩
  | .ok (.ok (.sm (.resume n previd))) => cases jid <;> cases h <;> exact .inr ⟨rfl,.other rfl⟩
  | .ok (.ok (.sm (.enable max resume))) => cases jid <;> cases h <;> exact .inr ⟨rfl,.other rfl⟩
  | .ok (.ok (.sm (.ack n))) => cases jid <;> cases h <;> exact .inr ⟨rfl,.other rfl⟩
  | .ok (.ok (.sm .req)) => cases jid <;> cases h <;> exact .inr ⟨rfl,.other rfl⟩

theorem receiveSm_some_reads {st : SmState ε} {jid : Option Jid} {item : Item ε}
    {next : NegotiationState ε}
    (h : receiveSm lib (some st) jid io (flattenItem (some item)) = (advance,next,io')) :
    advance = .panicked ∨
    io'.stream = io.stream ∧ Reads lib item (.negotiating (.receiveSmResponse (some st) jid))
      io.queue.entries io.tokens (advance.view next) io'.queue.entries io'.tokens advance.got := by
  match item with
  | .error e => cases e <;> cases h <;> exact .inr ⟨rfl,.other rfl⟩
  | .ok (.error e) => cases e <;> cases h <;> exact .inr ⟨rfl,.other rfl⟩
  | .ok (.ok .sasl) => cases h; exact .inr ⟨rfl,.other rfl⟩
  | .ok (.ok .starttls) => cases h; exact .inr ⟨rfl,.other rfl⟩
  | .ok (.ok .componentHandshake) => cases h; exact .inr ⟨rfl,.other rfl⟩
  | .ok (.ok (.streamError text)) => cases h; exact .inr ⟨rfl,.other rfl⟩
  | .ok (.ok (.stanza stanza)) => cases h; exact .inr ⟨rfl,.other rfl⟩
  | .ok (.ok (.sm (.enabled enabled))) =>
    cases jid with
    | none => cases h; exact .inl rfl
    | some jid => cases h; exact .inr ⟨rfl,.other rfl⟩
  | .ok (.ok (.sm (.failed n))) => cases h; exact .inr ⟨rfl,.notResumed⟩
  | .ok (.ok (.sm (.resumed n previd))) =>
    simp only [receiveSm,flattenItem] at h
    cases hr : st.resume io.tokens n with
    | error e => simp only [hr] at h; cases h; exact .inr ⟨rfl,.resumedTooHigh hr⟩
    | ok result =>
      simp only [hr] at h
      cases h
      refine .inr ⟨rfl,?_⟩
      rw [TransmitQueue.entries_requeueAll]
      exact .resumed hr
  | .ok (.ok (.sm (.resume n previd))) => cases h; exact .inr ⟨rfl,.other rfl⟩
  | .ok (.ok (.sm (.enable max resume))) => cases h; exact .inr ⟨rfl,.other rfl⟩
  | .ok (.ok (.sm (.ack n))) => cases h; exact .inr ⟨rfl,.other rfl⟩
  | .ok (.ok (.sm .req)) => cases h; exact .inr ⟨rfl,.other rfl⟩

end NegotiationState

/-- An item that the peer did not send, as a turn of the negotiation reads it. -/
def strayElement : Except ReadError (XmppStreamElement ε) → Bool
  | .ok (.stanza _) => false
  | .ok (.sm _) => false
  | _ => true

def cleanElement : Except ReadError (XmppStreamElement ε) → Bool
  | .error (.parseError _) => false
  | .error _ => true
  | .ok _ => false

theorem strayElement_flatten {item : Item ε} (h : (Read.item item).stray) :
    strayElement (flattenItem (some item)) := by
  match item with
  | .error e => rfl
  | .ok (.error e) => rfl
  | .ok (.ok .sasl) => rfl
  | .ok (.ok .starttls) => rfl
  | .ok (.ok .componentHandshake) => rfl
  | .ok (.ok (.streamError text)) => rfl
  | .ok (.ok (.stanza stanza)) => exact h
  | .ok (.ok (.sm nonza)) => exact h

theorem cleanElement_flatten {item : Item ε} (h : (Read.item item).clean) :
    cleanElement (flattenItem (some item)) := by
  match item with
  | .error .softTimeout => rfl
  | .error (.hardError e) => rfl
  | .error .streamFooterReceived => rfl
  | .error (.parseError e) => exact h
  | .ok element => cases h

theorem Io.pollNext_cases (io : Io ε) : io.pollNext = (.pending,io) ∨
    io.pollNext = (.ready none,io) ∨
    (∃ item, io.answers.read = .item item ∧ io.pollNext = (.ready (some item),io)) ∨
    ∃ item down, io.stream.down = item :: down ∧ io.pollNext =
      (.ready (some item),{ io with stream := { io.stream with down := down } }) := by
  obtain ⟨⟨up,down⟩,queue,tokens,⟨ready,flush,read,deadline⟩⟩ := io
  cases read with
  | pending => exact .inl rfl
  | eof => exact .inr (.inl rfl)
  | item item => exact .inr (.inr (.inl ⟨item,rfl,rfl⟩))
  | next =>
    cases down with
    | nil => exact .inl rfl
    | cons item down => exact .inr (.inr (.inr ⟨item,down,rfl,rfl⟩))

theorem moves_stay (view : View ε) (io : Io ε) (inbox : List (Stanza ε)) :
    ClientMoves lib lossy (.of view io inbox) (.of view io (inbox ++ [])) := by
  rw [List.append_nil]

theorem moves_leave (view : View ε) (io : Io ε) (inbox : List (Stanza ε)) (h : view ≠ .finished) :
    ClientMoves lib lossy (.of view io inbox) (.of (.away view.sm) io (inbox ++ [])) := by
  rw [List.append_nil]
  exact .single (.leave h)

theorem moves_drop (view : View ε) (io : Io ε) (inbox : List (Stanza ε))
    (hl : lossy ∨ view.sm = none) (h : view ≠ .finished) :
    ClientMoves lib lossy (.of view io inbox) (.of (.away none) io (inbox ++ [])) := by
  rw [List.append_nil]
  exact .single (.drop hl h)

namespace NegotiationState

variable {state : NegotiationState ε} {advance : Advance ε} {io io' : Io ε}
variable {inbox : List (Stanza ε)}

theorem giveUp_moves {phase : String} {item : Except ReadError (XmppStreamElement ε)}
    {next : NegotiationState ε} (hl : lossy ∨ cleanElement item)
    (h : giveUp lib phase state.sm state io item = (advance,next,io')) :
    ClientMoves lib lossy (.of (.negotiating state) io inbox)
      (.of (advance.view next) io' (inbox ++ advance.got)) := by
  have hdrop (hl : lossy ∨ false = true) : ClientMoves lib lossy
      (.of (.negotiating state) io inbox) (.of (.away none) io (inbox ++ [])) :=
    moves_drop _ io inbox (.inl (hl.resolve_right Bool.false_ne_true)) nofun
  match item with
  | .ok (.streamError text) =>
    cases h
    refine .trans (.single (.fail (c := .of (.negotiating state) io inbox)
      (hl.resolve_right Bool.false_ne_true) nofun ⟨.other,text⟩)) ?_
    exact moves_stay (.away none) { io with
      queue := (io.queue.fail io.tokens ⟨.other,text⟩).1
      tokens := (io.queue.fail io.tokens ⟨.other,text⟩).2 } inbox
  | .ok (.stanza stanza) => cases h; exact hdrop hl
  | .ok .sasl => cases h; exact hdrop hl
  | .ok .starttls => cases h; exact hdrop hl
  | .ok .componentHandshake => cases h; exact hdrop hl
  | .ok (.sm nonza) => cases h; exact hdrop hl
  | .error (.parseError e) => cases h; exact hdrop hl
  | .error .softTimeout => cases h; exact moves_stay _ io inbox
  | .error (.hardError e) => cases h; exact moves_leave (.negotiating state) io inbox nofun
  | .error .streamFooterReceived => cases h; exact moves_leave (.negotiating state) io inbox nofun

theorem receiveBind_stray {smSupported : Bool} {item : Except ReadError (XmppStreamElement ε)}
    (h : strayElement item) : receiveBind lib smSupported io item =
      giveUp lib "bind" none (.receiveBindResponse smSupported) io item := by
  match item with
  | .ok (.stanza stanza) => cases h
  | .ok (.sm nonza) => cases h
  | .ok .sasl => rfl
  | .ok .starttls => rfl
  | .ok .componentHandshake => rfl
  | .ok (.streamError text) => rfl
  | .error e => rfl

theorem receiveSm_stray {sm : Option (SmState ε)} {jid : Option Jid}
    {item : Except ReadError (XmppStreamElement ε)} (h : strayElement item) :
    receiveSm lib sm jid io item =
      giveUp lib "negotiation" sm (.receiveSmResponse sm jid) io item := by
  match item with
  | .ok (.stanza stanza) => cases h
  | .ok (.sm nonza) => cases h
  | .ok .sasl => rfl
  | .ok .starttls => rfl
  | .ok .componentHandshake => rfl
  | .ok (.streamError text) => rfl
  | .error e => rfl

theorem whenReady_moves {send : Io ε → Advance ε × NegotiationState ε × Io ε}
    {element : Outgoing ε} {state' next : NegotiationState ε}
    (hs : ∀ io, send io = (.next none,state',io.send element))
    (hc : ∀ c : Client ε, c.view = .negotiating state → ClientStep lib lossy c
      { c with view := .negotiating state', net.up := c.net.up ++ [element] })
    (h : whenReady state.sm state io send = (advance,next,io')) :
    ClientMoves lib lossy (.of (.negotiating state) io inbox)
      (.of (advance.view next) io' (inbox ++ advance.got)) := by
  have hio : ∀ {answer : Polling.Poll (Except OpaqueIoError Unit)} {io₁ : Io ε},
      io.pollReady = (answer,io₁) →
      Client.of (.negotiating state) io inbox = .of (.negotiating state) io₁ inbox := by
    intro answer io₁ hp
    unfold Io.pollReady at hp
    cases ha : io.answers.ready with
    | nil => rw [ha] at hp; cases hp; rfl
    | cons a ready => rw [ha] at hp; cases hp; rfl
  rcases whenReady_cases h with ⟨hp,rfl,rfl⟩ | ⟨error,hp,rfl,rfl⟩ | ⟨io₁,hp,h⟩
  · rw [hio hp]
    exact moves_stay _ _ inbox
  · rw [hio hp]
    exact moves_leave _ _ inbox nofun
  · rw [hs] at h
    cases h
    rw [hio hp]
    exact .trans (.single (hc (.of (.negotiating state) io₁ inbox) rfl))
      (moves_stay (.negotiating state') (io₁.send element) inbox)

theorem whenRead_moves {receive : Io ε → Except ReadError (XmppStreamElement ε) →
      Advance ε × NegotiationState ε × Io ε} {phase : String} {next : NegotiationState ε}
    (hv : (View.negotiating state).reading)
    (hstray : ∀ item, strayElement item → receive io item = giveUp lib phase state.sm state io item)
    (hread : ∀ (io₁ : Io ε) (item : Item ε),
      receive io₁ (flattenItem (some item)) = (advance,next,io') → advance = .panicked ∨
      io'.stream = io₁.stream ∧ Reads lib item (.negotiating state)
        io₁.queue.entries io₁.tokens (advance.view next) io'.queue.entries io'.tokens advance.got)
    (hr : io.answers.read.stray) (hl : lossy ∨ io.answers.read.clean)
    (h : whenRead state.sm state io receive = (advance,next,io')) : advance = .panicked ∨
    ClientMoves lib lossy (.of (.negotiating state) io inbox)
      (.of (advance.view next) io' (inbox ++ advance.got)) := by
  rcases whenRead_cases h with ⟨error,rfl,rfl,rfl⟩ | ⟨hpending,rfl,rfl⟩ | ⟨item,io₁,hready,h⟩
  · exact .inr (moves_leave _ _ inbox nofun)
  · rcases Io.pollNext_cases io with hp | hp | ⟨item,hi,hp⟩ | ⟨item,down,hd,hp⟩
    · cases hpending.symm.trans hp
      exact .inr (moves_stay _ _ inbox)
    all_goals cases hpending.symm.trans hp
  · rcases Io.pollNext_cases io with hp | hp | ⟨item,hi,hp⟩ | ⟨item,down,hd,hp⟩
    · cases hready.symm.trans hp
    · cases hready.symm.trans hp
      rw [hstray _ rfl] at h
      exact .inr (giveUp_moves (.inr rfl) h)
    · cases hready.symm.trans hp
      rw [hi] at hr hl
      rw [hstray _ (strayElement_flatten hr)] at h
      exact .inr (giveUp_moves (hl.imp_right cleanElement_flatten) h)
    · cases hready.symm.trans hp
      refine (hread _ item h).imp_right fun hread => ?_
      obtain ⟨hs,hreads⟩ := hread
      have hstep : ClientStep lib lossy (.of (.negotiating state) io inbox) _ := .read hv hd hreads
      refine .single ?_
      show ClientStep lib lossy _ ⟨_,io'.stream,_,_,_⟩
      rw [hs]
      exact hstep

variable (inbox) in
theorem advance_moves {jid : Jid} {next : NegotiationState ε} (hr : io.answers.read.stray)
    (hl : lossy ∨ io.answers.read.clean)
    (h : state.advance lib jid io = (advance,next,io')) : advance = .panicked ∨
    ClientMoves lib lossy (.of (.negotiating state) io inbox)
      (.of (advance.view next) io' (inbox ++ advance.got)) := by
  cases state with
  | sendBindRequest smSupported =>
    exact .inr (whenReady_moves (fun _ => rfl) (fun c hc => .bind _ hc) h)
  | receiveBindResponse smSupported =>
    exact whenRead_moves rfl (fun _ hs => receiveBind_stray hs)
      (fun _ _ h => .inr (receiveBind_reads h)) hr hl h
  | sendSmRequest sm boundJid =>
    exact .inr (whenReady_moves (fun _ => rfl) (fun c hc => .manage hc) h)
  | receiveSmResponse sm boundJid =>
    refine whenRead_moves rfl (fun _ hs => receiveSm_stray hs) (fun _ _ h => ?_) hr hl h
    cases sm with
    | none => exact receiveSm_none_reads h
    | some st => exact receiveSm_some_reads h

end NegotiationState

theorem moves_of_writes {tx tx' : Tx ε} (inbox : List (Stanza ε)) (h : Write.Writes lib tx tx') :
    ClientMoves lib lossy (.ofTx tx inbox) (.ofTx tx' inbox) :=
  h.lift (Client.ofTx · inbox) fun _ _ hw => .write hw

theorem read_of_writes {tx tx' : Tx ε} (h : Write.Writes lib tx tx') :
    tx'.io.answers.read = tx.io.answers.read := by
  induction h with
  | refl => rfl
  | tail _ hw ih =>
    refine Eq.trans ?_ ih
    cases hw with
    | quiet h => exact h.answers
    | nonza hsm hn => rfl
    | stanza hs hq hc hsm hk => rfl
    | failed hs hq hc => rfl

namespace ConnectedState

variable {state next : ConnectedState ε} {turn : Turn (ConnectedEvent ε)} {io io' : Io ε}
variable {inbox : List (Stanza ε)}

theorem receive_moves {sm : Option (SmState ε)} {item : Item ε} (hr : (Read.item item).stray)
    (hl : lossy ∨ (Read.item item).clean) (h : receive lib sm io item = (turn,next,io')) :
    ClientMoves lib lossy (.of (.ready sm) io inbox) (.of (next.after turn) io' (inbox ++ got turn)) := by
  have hdrop (hl : lossy ∨ false = true) : ClientMoves lib lossy
      (.of (.ready sm) io inbox) (.of (.away none) io (inbox ++ [])) :=
    moves_drop _ io inbox (.inl (hl.resolve_right Bool.false_ne_true)) nofun
  match item with
  | .error .softTimeout => cases h; exact moves_stay _ io inbox
  | .error (.hardError e) => cases h; exact moves_leave (.ready sm) io inbox nofun
  | .error .streamFooterReceived => cases h; exact moves_leave (.ready sm) io inbox nofun
  | .error (.parseError e) => cases h; exact hdrop hl
  | .ok (.error (.invalidNonza text e)) => cases h; exact hdrop hl
  | .ok (.error (.invalidStanza text e)) => cases hr
  | .ok (.ok .sasl) => cases h; exact hdrop hl
  | .ok (.ok .starttls) => cases h; exact hdrop hl
  | .ok (.ok .componentHandshake) => cases h; exact hdrop hl
  | .ok (.ok (.streamError text)) => cases h; exact hdrop hl
  | .ok (.ok (.stanza stanza)) => cases hr
  | .ok (.ok (.sm nonza)) => cases hr

theorem pollStreamError_moves {streamError : Option StreamError} {ioError : Option OpaqueIoError}
    (h : pollStreamError lib streamError ioError io = (turn,next,io')) :
    ClientMoves lib lossy (.of (.away none) io inbox)
      (.of (next.after turn) io' (inbox ++ got turn)) := by
  have hpop : ClientMoves lib lossy (.of (.away none) io inbox)
      (.of (.away none) io.pollNext.2 inbox) := by
    rcases Io.pollNext_cases io with hp | hp | ⟨item,_,hp⟩ | ⟨item,down,_,hp⟩
    · rw [hp]
    · rw [hp]
    · rw [hp]
    · rw [hp]
      exact .single (.ignore rfl down)
  refine hpop.trans ?_
  unfold pollStreamError at h
  generalize io.pollNext.2 = io₁ at h ⊢
  dsimp only at h
  have hflush : ∀ {e ioError io₂}, pollStreamError.flush lib e ioError io₂ = (turn,next,io') →
      ClientMoves lib lossy (.of (.away none) io₂ inbox)
        (.of (next.after turn) io' (inbox ++ got turn)) := by
    intro e ioError io₂ h
    unfold pollStreamError.flush at h
    cases hf : io₂.answers.flush with
    | pending => rw [hf] at h; cases h; exact moves_stay _ _ inbox
    | ready answer => rw [hf] at h; cases h; exact moves_stay _ _ inbox
  split at h
  · cases h
    exact moves_stay _ _ inbox
  · cases streamError with
    | none => exact hflush h
    | some error =>
      dsimp only at h
      unfold Io.pollReady at h
      cases ha : io₁.answers.ready with
      | nil => rw [ha] at h; cases h; exact moves_stay _ _ inbox
      | cons answer ready =>
        rw [ha] at h
        cases answer with
        | error e => cases h; exact moves_stay (.away none) { io₁ with answers.ready := ready } inbox
        | ok value =>
          have hsend : ClientMoves lib lossy (.of (.away none) io₁ inbox)
              (.of (.away none) (Io.send { io₁ with answers.ready := ready } (.streamError error))
                inbox) := .single (.streamError rfl error)
          exact hsend.trans (hflush h)

theorem pollReady_moves {sm : Option (SmState ε)} (hr : io.answers.read.stray)
    (hl : lossy ∨ io.answers.read.clean) (h : pollReady lib sm io = (turn,next,io')) :
    turn = .panicked ∨ ClientMoves lib lossy (.of (.ready sm) io inbox)
      (.of (next.after turn) io' (inbox ++ got turn)) := by
  have hw := (Write.moves_pollWritesInner : PollM.Moves (Write.Writes lib) _ _ _) ⟨sm,io⟩ trivial
  unfold pollReady at h
  generalize Write.pollWritesInner lib ⟨sm,io⟩ = result at h hw
  obtain ⟨progress,tx⟩ := result
  rcases hw with hp | ⟨hw,-⟩
  · cases hp
    cases h
    exact .inl rfl
  have hmoves : ClientMoves lib lossy (.of (.ready sm) io inbox) (.of (.ready tx.sm) tx.io inbox) :=
    moves_of_writes inbox hw
  have hread : tx.io.answers.read = io.answers.read := read_of_writes hw
  rw [← hread] at hr hl
  cases progress with
  | panicked => cases h; exact .inl rfl
  | done value =>
    cases h
    refine .inr (hmoves.trans ?_)
    refine .trans (.single ?_) (moves_stay .finished tx.io inbox)
    exact .finish (List.prefix_refl inbox) (.inr (.inr ⟨tx.sm,rfl⟩))
  | failed e =>
    cases h
    exact .inr (hmoves.trans (moves_leave (.ready tx.sm) tx.io inbox nofun))
  | pending =>
    dsimp only at h
    rcases Io.pollNext_cases tx.io with hp | hp | ⟨item,hi,hp⟩ | ⟨item,down,hd,hp⟩
    · rw [hp] at h
      cases h
      exact .inr (hmoves.trans (moves_stay _ _ inbox))
    · rw [hp] at h
      exact .inr (hmoves.trans (receive_moves rfl (.inr rfl) h))
    · rw [hp] at h
      rw [hi] at hr hl
      exact .inr (hmoves.trans (receive_moves hr hl h))
    · rw [hp] at h
      refine (receive_reads tx.sm _ item h).imp_right fun ⟨hs,hreads⟩ => hmoves.trans ?_
      have hstep : ClientStep lib lossy (.of (.ready tx.sm) tx.io inbox) _ := .read rfl hd hreads
      refine .single ?_
      show ClientStep lib lossy _ ⟨_,io'.stream,_,_,_⟩
      rw [hs]
      exact hstep

theorem pollNegotiation_moves {jid : Jid} {features : StreamFeatures} {substate : NegotiationState ε}
    (hr : io.answers.read.stray) (hl : lossy ∨ io.answers.read.clean)
    (h : pollNegotiation lib jid features substate io = (turn,next,io')) :
    turn = .panicked ∨ ClientMoves lib lossy (.of (.negotiating substate) io inbox)
      (.of (next.after turn) io' (inbox ++ got turn)) := by
  unfold pollNegotiation at h
  cases ha : substate.advance lib jid io with
  | mk advance rest =>
    obtain ⟨substate',io₁⟩ := rest
    have hm := NegotiationState.advance_moves inbox hr hl ha
    rw [ha] at h
    match advance with
    | .panicked => cases h; exact .inl rfl
    | .pending => cases h; exact .inr (hm.resolve_left nofun)
    | .next none => cases h; exact .inr (hm.resolve_left nofun)
    | .next (some stanza) => cases h; exact .inr (hm.resolve_left nofun)
    | .done (.disconnect sm error) => cases h; exact .inr (hm.resolve_left nofun)
    | .done (.streamReset sm boundJid) => cases h; exact .inr (hm.resolve_left nofun)
    | .done (.streamResumed sm) => cases h; exact .inr (hm.resolve_left nofun)
    | .done (.streamError error) => cases h; exact .inr (hm.resolve_left nofun)

variable (inbox) in
theorem poll_moves {jid : Jid} {features : StreamFeatures} (hr : io.answers.read.stray)
    (hl : lossy ∨ io.answers.read.clean) (h : state.poll lib jid features io = (turn,next,io')) :
    turn = .panicked ∨ ClientMoves lib lossy (.of state.view io inbox)
      (.of (next.after turn) io' (inbox ++ got turn)) := by
  cases state with
  | negotiating substate => exact pollNegotiation_moves hr hl h
  | ready sm => exact pollReady_moves hr hl h
  | sendStreamError streamError ioError => exact .inr (pollStreamError_moves h)
  | failed error sm => cases h; exact .inr (moves_stay _ io inbox)
  | localShutdown txClosed rx => cases h; exact .inl rfl
  | remoteShutdown sm => cases h; exact .inr (moves_stay _ io inbox)
  | localShutdownComplete => cases h; exact .inl rfl

theorem pollWrites_moves (h : state.pollWrites lib io = some (next,io')) :
    ClientMoves lib lossy (.of state.view io inbox) (.of next.view io' inbox) := by
  cases state with
  | ready sm =>
    have hw := (Write.moves_pollWritesInner : PollM.Moves (Write.Writes lib) _ _ _) ⟨sm,io⟩ trivial
    unfold pollWrites at h
    dsimp only at h
    generalize Write.pollWritesInner lib ⟨sm,io⟩ = result at h hw
    obtain ⟨progress,tx⟩ := result
    rcases hw with hp | ⟨hw,-⟩
    · cases hp
      cases h
    have hmoves : ClientMoves lib lossy (.of (.ready sm) io inbox) (.of (.ready tx.sm) tx.io inbox) :=
      moves_of_writes inbox hw
    cases progress with
    | panicked => cases h
    | pending => cases h; exact hmoves
    | done value => cases h; exact hmoves
    | failed e => cases h; exact hmoves.trans (.single (.leave nofun))
  | negotiating substate => cases h; exact .refl
  | sendStreamError streamError ioError => cases h; exact .refl
  | failed error sm => cases h; exact .refl
  | localShutdown txClosed rx => cases h; exact .refl
  | remoteShutdown sm => cases h; exact .refl
  | localShutdownComplete => cases h; exact .refl

end ConnectedState

namespace WorkerStream

variable {stream stream' : WorkerStream ε} {event : Turn (Option (WorkerEvent ε))}
variable {io io' : Io ε} {inbox : List (Stanza ε)}

variable (inbox) in
theorem turn_moves (hr : io.answers.read.stray) (hl : lossy ∨ io.answers.read.clean)
    (h : stream.turn lib io = (event,stream',io')) :
    event = .panicked ∨ ClientMoves lib lossy (.of stream.view io inbox)
      (.of (stream'.after event) io' (inbox ++ got event)) := by
  match stream with
  | .terminated => cases h; exact .inr (moves_stay _ io inbox)
  | .connecting .unassigned sm => cases h; exact .inr (moves_stay _ io inbox)
  | .connecting .waiting sm => cases h; exact .inr (moves_stay _ io inbox)
  | .connecting .dropped sm => cases h; exact .inr (moves_stay _ io inbox)
  | .connecting (.filled (.error error)) sm => cases h; exact .inr (moves_stay _ io inbox)
  | .connecting (.filled (.ok (features,identity))) sm =>
    unfold turn at h
    cases hn : NegotiationState.new features sm with
    | error e => simp only [hn] at h; cases h; exact .inl rfl
    | ok substate =>
      simp only [hn] at h
      cases h
      refine .inr (.trans (.single (.begin rfl hn)) ?_)
      exact moves_stay (.negotiating substate) io inbox
  | .connected substate features identity =>
    unfold turn at h
    cases hp : substate.poll lib identity features io with
    | mk t rest =>
      obtain ⟨substate',io₁⟩ := rest
      have hm := ConnectedState.poll_moves inbox hr hl hp
      simp only [hp] at h
      match t with
      | .panicked => cases h; exact .inl rfl
      | .pending => cases h; exact .inr (hm.resolve_left nofun)
      | .again => cases h; exact .inr (hm.resolve_left nofun)
      | .event (.disconnect sm error) => cases h; exact .inr (hm.resolve_left nofun)
      | .event (.remoteShutdown sm) => cases h; exact .inr (hm.resolve_left nofun)
      | .event .localShutdownRequested => cases h; exact .inr (hm.resolve_left nofun)
      | .event (.worker (.reset boundJid fs)) => cases h; exact .inr (hm.resolve_left nofun)
      | .event (.worker .resumed) => cases h; exact .inr (hm.resolve_left nofun)
      | .event (.worker (.stanza stanza)) => cases h; exact .inr (hm.resolve_left nofun)
      | .event (.worker (.parseError e)) => cases h; exact .inr (hm.resolve_left nofun)
      | .event (.worker .softTimeout) => cases h; exact .inr (hm.resolve_left nofun)
      | .event (.worker .disconnected) => cases h; exact .inr (hm.resolve_left nofun)
      | .event (.worker (.fatal error)) => cases h; exact .inr (hm.resolve_left nofun)
      | .event (.worker .reconnectAborted) => cases h; exact .inr (hm.resolve_left nofun)

variable (inbox) in
theorem pollDuplex_moves {answers : List (Answers ε)} (hr : answers.all (·.read.stray))
    (hl : lossy ∨ answers.all (·.read.clean))
    (h : stream.pollDuplex lib answers io = (event,stream',io')) :
    event = .panicked ∨ ClientMoves lib lossy (.of stream.view io inbox)
      (.of (stream'.after event) io' (inbox ++ got event)) := by
  induction answers generalizing stream io with
  | nil => cases h; exact .inr (moves_stay _ _ inbox)
  | cons answer answers ih =>
    rw [List.all_cons,Bool.and_eq_true] at hr hl
    unfold pollDuplex at h
    cases ht : stream.turn lib { io with answers := answer } with
    | mk t rest =>
      obtain ⟨stream₁,io₁⟩ := rest
      have hm := turn_moves inbox hr.1 (hl.imp_right And.left) ht
      rw [ht] at h
      cases t with
      | again =>
        refine (ih hr.2 (hl.imp_right And.right) h).imp_right fun hrest => ?_
        have hm := hm.resolve_left nofun
        change ClientMoves lib lossy _ (.of stream₁.view io₁ (inbox ++ [])) at hm
        rw [List.append_nil] at hm
        exact .trans hm hrest
      | panicked => cases h; exact .inl rfl
      | pending => cases h; exact .inr (hm.resolve_left nofun)
      | event event => cases h; exact .inr (hm.resolve_left nofun)

theorem pollWrites_moves (h : stream.pollWrites lib io = some (stream',io')) :
    ClientMoves lib lossy (.of stream.view io inbox) (.of stream'.view io' inbox) := by
  match stream with
  | .terminated => cases h; exact .refl
  | .connecting slot sm => cases h; exact .refl
  | .connected substate features identity =>
    simp only [pollWrites,Option.map_eq_some_iff] at h
    obtain ⟨⟨substate',io₁⟩,hp,he⟩ := h
    cases he
    exact ConnectedState.pollWrites_moves hp

end WorkerStream

end MindChat.StanzaStream
