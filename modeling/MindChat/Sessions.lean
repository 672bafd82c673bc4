import MindChat.Coordinator
import MindChat.Worker

/-! The concrete transport: workers in slots, their command channels, the event
channel all of them share, and the coordinator that polls it. A session is one
worker thread; it is known by the position in which it was started. -/

namespace MindChat

abbrev SessionId := ℕ

inductive WorkerCommand
  | send (message : OutgoingMessage) (call : ℕ)
  | disconnect (call : ℕ)
  deriving DecidableEq

instance (phase : WorkerPhase) : Decidable phase.IsReturned :=
  match phase with
  | .connecting | .session _ => .isFalse id
  | .returned => .isTrue trivial

/-- A worker thread with its end of the command channel. `received` is the
history of its inputs. -/
structure Session where
  worker : Worker
  received : List WorkerInput
  commands : List WorkerCommand
  senderAlive : Bool

namespace Session

/-- The commands left after an input; a command must be the first one queued,
and the channel ends once it is empty and its sender is gone. -/
def receive (s : Session) : WorkerInput → Option (List WorkerCommand)
  | .send message call _ =>
    match s.commands with
    | .send message' call' :: rest =>
      if message = message' ∧ call = call' then some rest else none
    | _ => none
  | .disconnect call _ =>
    match s.commands with
    | .disconnect call' :: rest => if call = call' then some rest else none
    | _ => none
  | .closed => if s.commands = [] ∧ s.senderAlive = false then some [] else none
  | _ => some s.commands

def step (s : Session) (input : WorkerInput) : Option (Session × List WorkerOutput) :=
  (s.receive input).bind (fun commands =>
    (s.worker.step input).map (fun r =>
      ({ s with worker := r.1, received := s.received ++ [input], commands := commands },r.2)))

end Session

/-- The slots hold the handles of the workers. An event carries the session that
sent it for the sake of the statements below; no code reads that. `prepared` is
what reading the next request and starting its thread give, and each blocking
wait takes the next list of `waits` as what the workers do meanwhile. -/
structure TokioXmppTransport where
  workers : Table AccountId SessionId
  sessions : List Session
  events : List (SessionId × TransportEvent)
  replies : List (ℕ × Except TransportError Unit)
  nextCall : ℕ
  prepared : Except TransportError Unit
  waits : List (List (SessionId × WorkerInput))

namespace TokioXmppTransport

def new : TokioXmppTransport := ⟨∅,[],[],[],0,.ok (),[]⟩

def hasReturned (t : TokioXmppTransport) (i : SessionId) : Bool :=
  (t.sessions[i]?).all (fun s => s.worker.phase.IsReturned)

def repliesOf (outputs : List WorkerOutput) : List (ℕ × Except TransportError Unit) :=
  outputs.filterMap (fun output =>
    match output with
    | .reply call result => some (call,result)
    | _ => none)

/-- A worker thread takes one input and does its outputs. -/
def work (t : TokioXmppTransport) (i : SessionId) (input : WorkerInput) :
    Option TokioXmppTransport :=
  (t.sessions[i]?).bind (fun s => (s.step input).map (fun r =>
    { t with
      sessions := t.sessions.set i r.1
      events := t.events ++ (emitted r.2).map (fun event => (i,event))
      replies := t.replies ++ repliesOf r.2 }))

/-- The workers go on while the caller waits; what they cannot do is skipped. -/
def wait (t : TokioXmppTransport) : TokioXmppTransport :=
  (t.waits.headD []).foldl (fun t action => (t.work action.1 action.2).getD t)
    { t with waits := t.waits.tail }

/-- What every step of a worker keeps, a wait keeps; `p` holds of the inputs it
brings. -/
theorem wait_invariant {t : TokioXmppTransport} {I : TokioXmppTransport → Prop} {p : WorkerInput → Prop}
    (hw : ∀ t j input t', I t → p input → t.work j input = some t' → I t')
    (hp : ∀ action ∈ t.waits.headD [], p action.2) (h : I { t with waits := t.waits.tail }) :
    I t.wait := by
  have run : ∀ (actions : List (SessionId × WorkerInput)) (t : TokioXmppTransport),
      (∀ action ∈ actions, p action.2) → I t →
      I (actions.foldl (fun t action => (t.work action.1 action.2).getD t) t) := by
    intro actions
    induction actions with
    | nil => exact fun _ _ h => h
    | cons action rest ih =>
      intro t hp h
      refine ih _ (fun a ha => hp a (List.mem_cons_of_mem _ ha)) ?_
      dsimp only
      cases hs : t.work action.1 action.2 with
      | none => exact h
      | some t' => exact hw t _ _ t' h (hp action List.mem_cons_self) hs
  exact run _ _ hp h

def modifySession (t : TokioXmppTransport) (i : SessionId) (change : Session → Session) :
    TokioXmppTransport :=
  { t with sessions := t.sessions.modify i change }

/-- A handle is dropped, and the command sender with it. -/
def dropHandle (t : TokioXmppTransport) (i : SessionId) : TokioXmppTransport :=
  t.modifySession i (fun s => { s with senderAlive := false })

/-- Sending on the command channel fails once the worker has returned. -/
def sendCommand (t : TokioXmppTransport) (i : SessionId) (command : WorkerCommand) :
    TokioXmppTransport :=
  if t.hasReturned i then t
  else { t.modifySession i (fun s => { s with commands := s.commands ++ [command] }) with
         nextCall := t.nextCall + 1 }

/-- The answer on a response channel after the wait for it. -/
def response (t : TokioXmppTransport) (i : SessionId) (call : ℕ) (timedOut stopped : String) :
    Except TransportError Unit :=
  match t.replies.lookup call with
  | some result => result
  | none => .error (.connectionFailed (if t.hasReturned i then stopped else timedOut))

def retireWorker (t : TokioXmppTransport) (accountId : AccountId) : TokioXmppTransport :=
  match t.workers.lookup accountId with
  | none => t
  | some i => { t with workers := t.workers.erase accountId }.dropHandle i

def connect (t : TokioXmppTransport) (request : ConnectionRequest) :
    Except TransportError Unit × TokioXmppTransport :=
  if (t.workers.lookup request.accountId).isSome then
    (.error (.unsupported "account is already connecting"),t)
  else match t.prepared with
  | .error e => (.error e,t)
  | .ok () =>
    let session : Session :=
      ⟨.start request.accountId request.autoReconnect,[],[],true⟩
    (.ok (),{ t with workers := t.workers.insert request.accountId t.sessions.length
                     sessions := t.sessions ++ [session] })

def disconnect (t : TokioXmppTransport) (accountId : AccountId) :
    Except TransportError Unit × TokioXmppTransport :=
  match t.workers.lookup accountId with
  | none => (.error (.connectionFailed "account has no active XMPP worker"),t)
  | some i =>
    let call := t.nextCall
    let removed := { t with workers := t.workers.erase accountId }
    if removed.hasReturned i then
      (.error (.connectionFailed "XMPP worker is unavailable"),removed.dropHandle i)
    else
      let waited := (removed.sendCommand i (.disconnect call)).wait
      (waited.response i call "timed out while closing XMPP connection"
        "XMPP worker stopped while closing connection",waited.dropHandle i)

def send (t : TokioXmppTransport) (message : OutgoingMessage) :
    Except TransportError Unit × TokioXmppTransport :=
  match t.workers.lookup message.accountId with
  | none => (.error (.connectionFailed "account has no active XMPP worker"),t)
  | some i =>
    if t.hasReturned i then (.error (.connectionFailed "XMPP worker is unavailable"),t)
    else
      let waited := (t.sendCommand i (.send message t.nextCall)).wait
      (waited.response i t.nextCall "timed out while sending XMPP stanza"
        "XMPP worker stopped while sending stanza",waited)

/-- Every `Disconnected` retires the worker in the account's slot. The transport
owns a sender of the event channel itself, so the channel is never closed. -/
def nextEvent (t : TokioXmppTransport) :
    Except TransportError (Option TransportEvent) × TokioXmppTransport :=
  match t.events with
  | [] => (.ok none,t)
  | (_,event) :: rest =>
    let t := { t with events := rest }
    match event with
    | .disconnected accountId _ _ _ => (.ok (some event),t.retireWorker accountId)
    | _ => (.ok (some event),t)

/-- `Drop`: every worker is told to disconnect, nobody waits for it. -/
def drop (t : TokioXmppTransport) : TokioXmppTransport :=
  t.workers.values.foldl (fun t i => (t.sendCommand i (.disconnect t.nextCall)).dropHandle i)
    { t with workers := ∅ }

end TokioXmppTransport

instance : XmppTransport TokioXmppTransport where
  connect := TokioXmppTransport.connect
  disconnect := TokioXmppTransport.disconnect
  send := TokioXmppTransport.send
  nextEvent := TokioXmppTransport.nextEvent

abbrev System := TransportCoordinator TokioXmppTransport

/-- What the threads of the application do, in any order. -/
inductive SystemOp
  | connect (accountId : AccountId) (password : String) (proxy : Option ProxyConfig)
      (proxyPassword : Option String) (prepared : Except TransportError Unit)
  | disconnect (accountId : AccountId) (meanwhile : List (SessionId × WorkerInput))
  | deleteAccount (accountId : AccountId) (meanwhile : List (SessionId × WorkerInput))
  | sendText (conversationId : ConversationId) (sender body : String)
      (inReplyTo : Option MessageId) (now : ℕ)
  | flushOutbox (accountId : AccountId) (elapsed : ℕ → ℕ)
      (meanwhile : List (List (SessionId × WorkerInput)))
  | pollNextEvent
  | drop
  | worker (session : SessionId) (input : WorkerInput)

namespace System

def preparing (k : System) (prepared : Except TransportError Unit) : System :=
  { k with transport := { k.transport with prepared := prepared } }

def waiting (k : System) (waits : List (List (SessionId × WorkerInput))) : System :=
  { k with transport := { k.transport with waits := waits } }

/-- The binding's `delete_account`: a tracked worker is disconnected first,
whatever comes of it. -/
def deleteAccount (k : System) (accountId : AccountId) : Except CoreError Unit × System :=
  if (k.core.accounts.lookup accountId).isNone then (.error (.unknownAccount accountId),k)
  else
    let t := if (k.transport.workers.lookup accountId).isSome then
      (k.transport.disconnect accountId).2 else k.transport
    match k.core.deleteAccount accountId with
    | (r,c) => (r,⟨c,t⟩)

/-- The connect call of a label with its result. -/
def connectCall (k : System) (accountId : AccountId) (password : String)
    (proxy : Option ProxyConfig) (proxyPassword : Option String)
    (prepared : Except TransportError Unit) : Except TransportCoordinatorError Unit × System :=
  (k.preparing prepared).connectWithProxy accountId password proxy proxyPassword

def disconnectCall (k : System) (accountId : AccountId)
    (meanwhile : List (SessionId × WorkerInput)) : Except TransportCoordinatorError Unit × System :=
  TransportCoordinator.disconnect (k.waiting [meanwhile]) accountId

def step (k : System) : SystemOp → Option System
  | .connect accountId password proxy proxyPassword prepared =>
    some (k.connectCall accountId password proxy proxyPassword prepared).2
  | .disconnect accountId meanwhile => some (k.disconnectCall accountId meanwhile).2
  | .deleteAccount accountId meanwhile => some ((k.waiting [meanwhile]).deleteAccount accountId).2
  | .sendText conversationId sender body inReplyTo now =>
    some { k with core := (k.core.sendText conversationId sender body inReplyTo now).2 }
  | .flushOutbox accountId elapsed meanwhile =>
    some ((k.waiting meanwhile).flushOutbox elapsed accountId).2
  | .pollNextEvent => some k.pollNextEvent.2
  | .drop => some { k with transport := k.transport.drop }
  | .worker session input =>
    (k.transport.work session input).map (fun t => { k with transport := t })

end System

/-- Runs of the system whose steps all meet a condition. -/
abbrev SystemRun (cond : System → SystemOp → Prop) (k : System) (ops : List SystemOp)
    (l : System) : Prop :=
  Transition.Run (Transition.Meeting cond (fun k op l => System.step k op = some l)) k ops l

def adaOffline : System := ⟨(MindChatCore.default.addAccount demoSetup).2,.new⟩

end MindChat
