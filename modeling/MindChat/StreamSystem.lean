import MindChat.StreamWorker

/-! A stanza stream between its frontend and a peer that keeps to stream management:
the worker, one connection after the other, and the peer at the far end. -/

namespace MindChat.StanzaStream

open Polling SerialNumber

variable {ε : Type}

/-- An item that stream management counts: a stanza, whether it parses or not. -/
def Item.counted : Item ε → Bool
  | .ok (.ok (.stanza _)) => true
  | .ok (.error (.invalidStanza _ _)) => true
  | _ => false

def Item.nonza : Item ε → Option Nonza
  | .ok (.ok (.sm nonza)) => some nonza
  | _ => none

def Item.parsed : Item ε → Option (Stanza ε)
  | .ok (.ok (.stanza stanza)) => some stanza
  | _ => none

/-- What turns up on its own on the receiving side: neither a stanza nor a part of
stream management, for these the peer has to send. -/
def Read.stray : Read ε → Bool
  | .item found => !Item.counted found && (Item.nonza found).isNone
  | _ => true

def Outgoing.entry : Outgoing ε → Option (QueueEntry ε)
  | .stanza entry => some entry
  | _ => none

/-- The stanzas among what is on its way to the peer. -/
def entriesOf (up : List (Outgoing ε)) : List (QueueEntry ε) := up.filterMap Outgoing.entry

/-- How far the peer is on the present connection: authenticated, a resource bound,
or under stream management. -/
inductive Conn
  | fresh
  | bound
  | managed
  deriving DecidableEq

/-- A session under stream management as the peer keeps it: the number of its stream, the
stanzas that it took and those that it sent, `acked` of which the client has acknowledged. -/
structure Session (ε : Type) where
  stream : ℕ
  id : Option String
  resumable : Bool
  received : List (QueueEntry ε)
  sent : List (Item ε)
  acked : ℕ

/-- The peer, with everything that it ever handled and sent. Streams are numbered as they
bind a resource, a resumed one keeps its number. `left` is what may still come in on the
connections that the client has left. -/
structure Peer (ε : Type) where
  conn : Conn
  stream : ℕ
  session : Option (Session ε)
  log : List (ℕ × QueueEntry ε)
  left : List (ℕ × QueueEntry ε)
  sentAll : List (Item ε)

namespace Session

def new (stream : ℕ) (enabled : Enabled) : Session ε where
  stream := stream
  id := enabled.id
  resumable := enabled.resume
  received := []
  sent := []
  acked := 0

/-- The count of the stanzas taken as the peer reports it. -/
def count (s : Session ε) : BitVec 32 := BitVec.ofNat 32 s.received.length

/-- The client reports that it has counted up to `h`. -/
def learn (s : Session ε) (h : BitVec 32) : Session ε :=
  { s with acked := s.acked + ahead (BitVec.ofNat 32 s.acked) h }

end Session

inductive PeerAction (ε : Type)
  /-- Take the next element where there is nothing to decide. -/
  | take
  /-- Take the next stanza of a stream on a connection that the client has left. -/
  | takeLeft (stream : ℕ)
  | answerBind (payload : ε)
  | answerEnable (enabled : Enabled)
  | answerResume
  /-- Refuse to enable or to resume, with the count of the session or without it. -/
  | refuse (known : Bool)
  | send (item : Item ε)
  | request
  | acknowledge
  /-- Give the session up; it cannot be resumed any more. -/
  | forget

def ackItem (h : BitVec 32) : Item ε := .ok (.ok (.sm (.ack h)))

def reqItem : Item ε := .ok (.ok (.sm .req))

def failedItem (h : Option (BitVec 32)) : Item ε := .ok (.ok (.sm (.failed h)))

def enabledItem (enabled : Enabled) : Item ε := .ok (.ok (.sm (.enabled enabled)))

def resumedItem (h : BitVec 32) (id : String) : Item ε := .ok (.ok (.sm (.resumed h id)))

def bindItem (payload : ε) : Item ε :=
  .ok (.ok (.stanza (.iq (.result none none bindReqId (some payload)))))

namespace Peer

def start : Peer ε := ⟨.fresh,0,none,[],[],[]⟩

def handled (p : Peer ε) : List (QueueEntry ε) := p.log.map Prod.snd

def handledOn (p : Peer ε) (stream : ℕ) : List (QueueEntry ε) := under stream p.log

/-- The stream that the present connection belongs to. -/
def present (p : Peer ε) : Option ℕ :=
  match p.conn with
  | .fresh => none
  | .bound => some p.stream
  | .managed => p.session.map Session.stream

/-- The client leaves its connection; what was on its way there may still come in. -/
def leave (p : Peer ε) (up : List (Outgoing ε)) : Peer ε := { p with
  conn := .fresh
  left := p.left ++ p.present.elim [] fun n => (entriesOf up).map (n,·) }

def take (p : Peer ε) (net : XmppStream ε) : Option (Peer ε × XmppStream ε) :=
  match net.up with
  | [] => none
  | .streamError _ :: up => some (p,{ net with up := up })
  | .bind _ :: _ => none
  | .stanza entry :: up =>
    match p.conn,p.session with
    | .bound,_ => some ({ p with log := p.log ++ [(p.stream,entry)] },{ net with up := up })
    | .managed,some s => some ({ p with
        log := p.log ++ [(s.stream,entry)]
        session := some { s with received := s.received ++ [entry] } },{ net with up := up })
    | _,_ => none
  | .sm nonza :: up =>
    match p.conn,p.session,nonza with
    | .managed,some s,.req => some (p,⟨up,net.down ++ [ackItem s.count]⟩)
    | .managed,some s,.ack h => some ({ p with session := some (s.learn h) },{ net with up := up })
    | _,_,_ => none

/-- The stanza counts for the session that it was sent in, if that is still kept. -/
def takeLate (p : Peer ε) (stream : ℕ) (entry : QueueEntry ε) (left : List (ℕ × QueueEntry ε)) :
    Peer ε := { p with
  log := p.log ++ [(stream,entry)]
  left := left
  session := p.session.map fun s =>
    if s.stream = stream then { s with received := s.received ++ [entry] } else s }

def takeLeft (p : Peer ε) (stream : ℕ) : Option (Peer ε) :=
  (takeUnder stream p.left).map fun (entry,left) => p.takeLate stream entry left

/-- The session goes on over the present connection, and an earlier one is closed. -/
def answerResume (p : Peer ε) (net : XmppStream ε) : Option (Peer ε × XmppStream ε) :=
  match p.conn,net.up,p.session with
  | .fresh,.sm (.resume h previd) :: up,some s =>
    if s.resumable ∧ s.id = some previd then
      let s := s.learn h
      -- what the client has not counted goes out again
      some ({ p with
        conn := .managed, session := some s, left := p.left.filter (·.1 ≠ s.stream) },
        ⟨up,net.down ++ resumedItem s.count previd :: s.sent.drop s.acked⟩)
    else none
  | _,_,_ => none

/-- Only a request that may still be pending can be refused. -/
def refuse (p : Peer ε) (net : XmppStream ε) (known : Bool) : Option (Peer ε × XmppStream ε) :=
  let h := if known then p.session.map Session.count else none
  match p.conn,net.up with
  | .bound,.sm (.enable _ _) :: up => some (p,⟨up,net.down ++ [failedItem none]⟩)
  | .fresh,.sm (.enable _ _) :: up => some (p,⟨up,net.down ++ [failedItem none]⟩)
  | .fresh,.sm (.resume _ _) :: up =>
    some ({ p with session := p.session.map ({ · with resumable := false }) },
      ⟨up,net.down ++ [failedItem h]⟩)
  | _,_ => none

/-- Send a stanza; under stream management no more than a turn of the counter may
lack acknowledgement. -/
def send (p : Peer ε) (net : XmppStream ε) (item : Item ε) : Option (Peer ε × XmppStream ε) :=
  let net := { net with down := net.down ++ [item] }
  if Item.counted item then
    match p.conn,p.session with
    | .bound,_ => some ({ p with sentAll := p.sentAll ++ [item] },net)
    | .managed,some s =>
      if s.sent.length + 1 - s.acked < 2 ^ 32 then
        some ({ p with
          session := some { s with sent := s.sent ++ [item] }, sentAll := p.sentAll ++ [item] },net)
      else none
    | _,_ => none
  else none

def step (p : Peer ε) (net : XmppStream ε) : PeerAction ε → Option (Peer ε × XmppStream ε)
  | .take => p.take net
  | .takeLeft stream => (p.takeLeft stream).map (·,net)
  | .answerBind payload =>
    match p.conn,net.up with
    | .fresh,.bind _ :: up =>
      some ({ p with conn := .bound, stream := p.stream + 1 },⟨up,net.down ++ [bindItem payload]⟩)
    | _,_ => none
  | .answerEnable enabled =>
    match p.conn,net.up with
    | .bound,.sm (.enable _ _) :: up =>
      some ({ p with conn := .managed, session := some (.new p.stream enabled) },
        ⟨up,net.down ++ [enabledItem enabled]⟩)
    | _,_ => none
  | .answerResume => p.answerResume net
  | .refuse known => p.refuse net known
  | .send item => p.send net item
  | .request =>
    match p.conn with
    | .managed => some (p,{ net with down := net.down ++ [reqItem] })
    | _ => none
  | .acknowledge =>
    match p.conn,p.session with
    | .managed,some s => some (p,{ net with down := net.down ++ [ackItem s.count] })
    | _,_ => none
  | .forget => some ({ p with session := p.session.map ({ · with resumable := false }) },net)

end Peer

/-- Everything: the worker, the present connection, the tokens, the events that the
worker has handed over to the frontend, and the peer. -/
structure System (ε : Type) where
  worker : StanzaStreamWorker ε
  net : XmppStream ε
  tokens : Tokens
  events : List (Event ε)
  frontendClosed : Bool
  peer : Peer ε

inductive Action (ε : Type)
  /-- The frontend hands a stanza in. -/
  | submit (stanza : Stanza ε)
  | closeQueue
  | closeFrontend
  /-- The worker drives its stream, with the answers of the transport round by round. -/
  | poll (answers : List (Answers ε))
  /-- The same in the writing direction only, while an event waits for the frontend. -/
  | drive (answers : Answers ε)
  | accept
  | giveUp
  | requestReconnect
  /-- The connector delivers a connection. -/
  | connect (features : StreamFeatures) (identity : Jid)
  | connectFails (error : XmppError)
  | connectorDrops
  | peer (action : PeerAction ε)

def Action.submitted : Action ε → Option (Stanza ε)
  | .submit data => some data
  | _ => none

inductive Outcome (α : Type)
  | disabled
  | panicked
  | moved (state : α)

def Answers.none : Answers ε := ⟨[],.pending,.pending,false⟩

def Event.stanza? : Event ε → Option (Stanza ε)
  | .stanza data => some data
  | .stream _ => none

namespace System

/-- A new stream; the connector has been called once. -/
def start (pingProbeCtr : BitVec 64) : System ε where
  worker := .spawn pingProbeCtr
  net := ⟨[],[]⟩
  tokens := []
  events := []
  frontendClosed := false
  peer := .start

/-- What the worker works on while it is polled. -/
def io (s : System ε) : Io ε := ⟨s.net,s.worker.transmitQueue,s.tokens,.none⟩

/-- The state after the worker has worked on the stream and the rest. -/
def put (s : System ε) (stream : WorkerStream ε) (io : Io ε) : System ε := { s with
  worker := { s.worker with stream := stream, transmitQueue := io.queue }
  net := io.stream
  tokens := io.tokens }

def submit (s : System ε) (stanza : Stanza ε) : System ε :=
  let (entry,tokens) := QueueEntry.tracked s.tokens stanza
  { s with
    worker.transmitQueue.inner := s.worker.transmitQueue.inner ++ [entry]
    tokens := tokens }

/-- Drive the stream and handle the event that comes of it. -/
def poll (lib : Library ε) (s : System ε) (answers : List (Answers ε)) : Outcome (System ε) :=
  match s.worker.stream.pollDuplex lib answers s.io with
  | (.panicked,_,_) => .panicked
  | (.event event,stream,io) =>
    let s := s.put stream io
    match s.worker.handle lib event with
    | some worker => .moved { s with worker := worker }
    | none => .panicked
  | (_,stream,io) => .moved (s.put stream io)

def drive (lib : Library ε) (s : System ε) (answers : Answers ε) : Outcome (System ε) :=
  match s.worker.stream.pollWrites lib { s.io with answers := answers } with
  | some (stream,io) => .moved (s.put stream io)
  | none => .panicked

/-- The connector fills the slot that it was given; past its end the worker does not
wait for that. -/
def fill (s : System ε) (slot : Slot) : Outcome (System ε) :=
  match s.worker.phase,s.worker.stream with
  | .running,.connecting .waiting sm => .moved { s with worker.stream := .connecting slot sm }
  | _,_ => .disabled

def step (lib : Library ε) (s : System ε) : Action ε → Outcome (System ε)
  | .submit stanza =>
    match s.worker.phase with
    | .closing => .disabled
    | _ => if s.worker.transmitQueue.closed then .disabled else .moved (s.submit stanza)
  | .closeQueue => .moved { s with worker.transmitQueue.closed := true }
  | .closeFrontend => .moved { s with frontendClosed := true }
  | .poll answers =>
    match s.worker.phase with
    | .running => if answers.all (·.read.stray) then s.poll lib answers else .disabled
    | _ => .disabled
  | .drive answers =>
    match s.worker.phase with
    | .sending _ _ => s.drive lib answers
    | _ => .disabled
  | .accept =>
    match s.worker.phase with
    | .sending event after =>
      -- with a permit the event goes out even where nobody reads it any more
      .moved { s with
        worker := s.worker.resume s.frontendClosed after, events := s.events ++ [event] }
    | _ => .disabled
  | .giveUp =>
    if s.frontendClosed then .moved { s with worker.phase := .closing } else .disabled
  | .requestReconnect =>
    match s.worker.phase with
    | .running => .moved { s with worker := s.worker.reconnectRequested }
    | _ => .disabled
  | .connect features identity =>
    match s.fill (.filled (.ok (features,identity))) with
    | .moved s => .moved { s with net := ⟨[],[]⟩, peer := s.peer.leave s.net.up }
    | outcome => outcome
  | .connectFails error => s.fill (.filled (.error error))
  | .connectorDrops => s.fill .dropped
  | .peer action =>
    match s.peer.step s.net action with
    | some (peer,net) => .moved { s with peer := peer, net := net }
    | none => .disabled

/-- The state after the actions, where all of them can happen and are `allowed`. -/
def run (lib : Library ε) (allowed : System ε → Action ε → Bool) :
    List (Action ε) → System ε → Option (System ε)
  | [],s => some s
  | action :: actions,s =>
    if allowed s action then
      match s.step lib action with
      | .moved s => run lib allowed actions s
      | _ => none
    else none

def anything (_ : System ε) (_ : Action ε) : Bool := true

/-- The stanzas that have come in for the frontend, the last of which may still wait. -/
def inbox (s : System ε) : List (Stanza ε) :=
  s.events.filterMap Event.stanza? ++
    match s.worker.phase with
    | .sending event _ => event.stanza?.toList
    | _ => []

end System

end MindChat.StanzaStream
