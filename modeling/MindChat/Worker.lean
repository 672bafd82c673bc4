import MindChat.Connectivity
import MindChat.Stanzas

/-! The worker of one account: its connect phase, its session loop, and what it
reports. One input is one branch a `select!` takes, with the results of the
network calls made there. -/

namespace MindChat

def inboundStaleTimeoutMs : ℕ := 180000

inductive LoopAction
  | keep | stop
  deriving DecidableEq

inductive SendOutcome
  | invalidRecipient
  | written
  | failed (text : String)
  | elapsed
  deriving DecidableEq

inductive CloseOutcome
  | closed
  | failed (error : XmppError)
  | elapsed
  deriving DecidableEq

structure ConnectFailure where
  detail : String
  recoverable : Bool
  kind : DisconnectKind
  deriving DecidableEq

/-- What the worker receives; `call` names the response channel of a command. -/
inductive WorkerInput
  | send (message : OutgoingMessage) (call : ℕ) (outcome : SendOutcome)
  | disconnect (call : ℕ) (outcome : CloseOutcome)
  | closed
  | connectReady (pendingEvent : Option ClientEvent) (readings : Readings)
  | connectFailed (failure : ConnectFailure)
  | connectElapsed
  | pingTick
  | watchdogTick (now : ℕ)
  | clientEvent (event : ClientEvent) (readings : Readings)
  | clientEnd

/-- What the worker does, in order. -/
inductive WorkerOutput
  | event (event : TransportEvent)
  | stanza (stanza : ClientStanza)
  | reply (call : ℕ) (result : Except TransportError Unit)
  | sendEnd
  | requestReconnect

structure SessionState where
  streamCapabilities : Finset ProtocolCapability
  sessionLive : Bool
  lastInbound : ℕ
  pingCounter : ℕ

inductive WorkerPhase
  | connecting
  | session (s : SessionState)
  | returned

structure Worker where
  accountId : AccountId
  autoReconnect : Bool
  phase : WorkerPhase

def reconnectBudgetExhausted (error : XmppError) : Bool := error = .reconnectBudgetExhausted

def reconnectDecision (event : ClientEvent) (autoReconnect : Bool) : LoopAction :=
  match event with
  | .disconnected error =>
    if reconnectBudgetExhausted error then .stop
    else if error.disconnectedIsRecoverable && autoReconnect then .keep
    else .stop
  | _ => .keep

def isInboundStale (idle threshold : ℕ) : Bool := threshold < idle

def SendOutcome.reply : SendOutcome → Except TransportError Unit
  | .invalidRecipient =>
    .error (.protocolViolation "invalid conversation JID supplied to XMPP transport")
  | .written => .ok ()
  | .failed text => .error (.connectionFailed text)
  | .elapsed => .error (.connectionFailed "timed out while sending XMPP stanza")

def CloseOutcome.reply : CloseOutcome → Except TransportError Unit
  | .closed => .ok ()
  | .failed error => .error error.toTransportError
  | .elapsed => .error (.connectionFailed "timed out while closing XMPP connection")

def handleIq (accountId : AccountId) (streamCapabilities : Finset ProtocolCapability) :
    IqStanza → List WorkerOutput
  | .result id (some payload) =>
    if id = rosterRequestId accountId then
      match payload with
      | .roster (some items) => (emitRoster accountId items).map .event
      | _ => []
    else if id = discoRequestId accountId then
      match payload with
      | .discoInfo (some features) =>
        [.event (.capabilitiesDiscovered accountId
          (streamCapabilities ∪ capabilitiesFromDisco features))]
      | _ => []
    else []
  | .set sender id (.roster items) =>
    (emitRoster accountId (items.getD [])).map .event ++ [.stanza (.rosterResult sender id)]
  | _ => []

/-- The session after a client event, what was done, and whether the loop goes on. -/
def handleClientEvent (accountId : AccountId) (autoReconnect : Bool) (event : ClientEvent)
    (readings : Readings) (s : SessionState) : LoopAction × SessionState × List WorkerOutput :=
  match event with
  | .online serverJid streamManagement =>
    let capabilities := streamCapabilitiesFromFeatures streamManagement
    (.keep,{ s with sessionLive := true, streamCapabilities := capabilities },
      [.event (.connected accountId capabilities),.stanza .available,
        .stanza (.rosterQuery (rosterRequestId accountId))] ++
      serverJid.toList.map (fun jid => .stanza (.discoQuery (discoRequestId accountId) jid)))
  | .disconnected error =>
    (reconnectDecision event autoReconnect,{ s with sessionLive := false },
      [.event (.disconnected accountId error.disconnectedIsRecoverable (some error.text)
        error.classifyDisconnect)])
  | .message stanza =>
    (.keep,s,(translateIncomingReceipts accountId stanza).map .event ++
      (receiptAcknowledgement accountId stanza readings.acknowledgedAtEpochMs).toList.map .stanza ++
      (translateIncomingMessage accountId stanza readings.receivedAtEpochMs).toList.map .event)
  | .presence stanza => (.keep,s,(translatePresence accountId stanza).toList.map .event)
  | .iq stanza => (.keep,s,handleIq accountId s.streamCapabilities stanza)

namespace Worker

def start (accountId : AccountId) (autoReconnect : Bool) : Worker :=
  ⟨accountId,autoReconnect,.connecting⟩

def enter (w : Worker) (s : SessionState) : Worker := { w with phase := .session s }
def finish (w : Worker) : Worker := { w with phase := .returned }

/-- A client event inside `run_worker`: the loop is entered again or left. -/
def handle (w : Worker) (event : ClientEvent) (readings : Readings) (s : SessionState) :
    Worker × List WorkerOutput :=
  match handleClientEvent w.accountId w.autoReconnect event readings s with
  | (.keep,s,outputs) => (w.enter s,outputs)
  | (.stop,_,outputs) => (w.finish,outputs)

/-- The select of the connect phase. Whatever command arrives ends the worker. -/
def connectPhase (w : Worker) : WorkerInput → Option (Worker × List WorkerOutput)
  | .disconnect call _ => some (w.finish,[.reply call (.ok ())])
  | .send _ call _ =>
    some (w.finish,[.reply call (.error (.connectionFailed "account is still connecting"))])
  | .closed => some (w.finish,[])
  | .connectReady pendingEvent readings =>
    let s : SessionState := ⟨∅,false,readings.instant,0⟩
    match pendingEvent with
    | none => some (w.enter s,[])
    | some event => some (w.handle event readings s)
  | .connectFailed failure =>
    some (w.finish,[.event (.disconnected w.accountId failure.recoverable (some failure.detail)
      failure.kind)])
  | .connectElapsed =>
    some (w.finish,[.event (.disconnected w.accountId true
      (some "connection attempt exceeded 30 seconds") .networkLost)])
  | _ => none

def sessionLoop (w : Worker) (s : SessionState) : WorkerInput → Option (Worker × List WorkerOutput)
  | .send message call outcome =>
    if outcome = .invalidRecipient then some (w,[.reply call outcome.reply])
    else some (w,[.stanza (buildMessageStanza message),.reply call outcome.reply])
  | .disconnect call outcome => some (w.finish,[.sendEnd,.reply call outcome.reply])
  | .closed => some (w.finish,[.sendEnd])
  | .pingTick =>
    if s.sessionLive then
      let counter := u64Succ s.pingCounter
      some (w.enter { s with pingCounter := counter },
        [.stanza (.ping ("mindchat-ping-" ++ toString counter))])
    else none
  | .watchdogTick now =>
    if s.sessionLive then
      if isInboundStale (now - s.lastInbound) inboundStaleTimeoutMs then
        let report : WorkerOutput := .event (.disconnected w.accountId true
          (some "no inbound data from the server for 3 minutes") .networkLost)
        if w.autoReconnect then
          some (w.enter { s with sessionLive := false },[report,.requestReconnect])
        else some (w.finish,[report])
      else some (w,[])
    else none
  | .clientEvent event readings =>
    some (w.handle event readings { s with lastInbound := readings.instant })
  | .clientEnd => some (w.finish,[.event (.disconnected w.accountId true none .networkLost)])
  | _ => none

def step (w : Worker) (input : WorkerInput) : Option (Worker × List WorkerOutput) :=
  match w.phase with
  | .connecting => w.connectPhase input
  | .session s => w.sessionLoop s input
  | .returned => none

end Worker

def emitted (outputs : List WorkerOutput) : List TransportEvent :=
  outputs.filterMap (fun output =>
    match output with
    | .event event => some event
    | _ => none)

def WorkerInput.IsSend : WorkerInput → Prop
  | .send _ _ _ => True
  | _ => False

/-- A `Disconnect` command, or the end of the command channel. -/
def WorkerInput.IsUserEnd : WorkerInput → Prop
  | .disconnect _ _ | .closed => True
  | _ => False

def WorkerPhase.IsConnecting : WorkerPhase → Prop
  | .connecting => True
  | _ => False

def WorkerPhase.IsReturned : WorkerPhase → Prop
  | .returned => True
  | _ => False

namespace Worker

/-- The event that reports an error of the client. -/
def report (w : Worker) (error : XmppError) : TransportEvent :=
  .disconnected w.accountId error.disconnectedIsRecoverable (some error.text)
    error.classifyDisconnect

/-- The inputs that end a worker, with the events it sends on the way out. -/
inductive Ending (w : Worker) : WorkerInput → List TransportEvent → Prop
  | disconnect (call outcome) : Ending w (.disconnect call outcome) []
  | closed : Ending w .closed []
  | sendWhileConnecting (message call outcome) (h : w.phase.IsConnecting) :
    Ending w (.send message call outcome) []
  | connectReady (error readings) (h : w.phase.IsConnecting) :
    Ending w (.connectReady (some (.disconnected error)) readings) [w.report error]
  | connectFailed (failure : ConnectFailure) (h : w.phase.IsConnecting) :
    Ending w (.connectFailed failure)
      [.disconnected w.accountId failure.recoverable (some failure.detail) failure.kind]
  | connectElapsed (detail) (h : w.phase.IsConnecting) :
    Ending w .connectElapsed [.disconnected w.accountId true detail .networkLost]
  | watchdog (now detail) (h : w.autoReconnect = false) :
    Ending w (.watchdogTick now) [.disconnected w.accountId true detail .networkLost]
  | clientEvent (error readings)
    (h : reconnectDecision (.disconnected error) w.autoReconnect = .stop) :
    Ending w (.clientEvent (.disconnected error) readings) [w.report error]
  | clientEnd : Ending w .clientEnd [.disconnected w.accountId true none .networkLost]

variable {w w' : Worker} {input : WorkerInput} {outputs : List WorkerOutput}

theorem handle_returned {event : ClientEvent} {readings : Readings} {s : SessionState}
    (h : w.handle event readings s = (w',outputs)) (hr : w'.phase.IsReturned) :
    ∃ error, event = .disconnected error ∧ reconnectDecision event w.autoReconnect = .stop ∧
      emitted outputs = [w.report error] := by
  cases event with
  | disconnected error =>
    simp only [handle,handleClientEvent] at h
    cases hd : reconnectDecision (.disconnected error) w.autoReconnect with
    | keep =>
      rw [hd] at h
      cases h
      exact hr.elim
    | stop =>
      rw [hd] at h
      cases h
      exact ⟨error,rfl,rfl,rfl⟩
  | _ =>
    cases h
    exact hr.elim

inductive Turn (w : Worker) : WorkerInput → Worker → List WorkerOutput → Prop
  | connectingSend (message call outcome) (hp : w.phase = .connecting) :
    Turn w (.send message call outcome) w.finish
      [.reply call (.error (.connectionFailed "account is still connecting"))]
  | connectingDisconnect (call outcome) (hp : w.phase = .connecting) :
    Turn w (.disconnect call outcome) w.finish [.reply call (.ok ())]
  | connectingClosed (hp : w.phase = .connecting) : Turn w .closed w.finish []
  | connectReady (readings) (hp : w.phase = .connecting) :
    Turn w (.connectReady none readings) (w.enter ⟨∅,false,readings.instant,0⟩) []
  | connectEvent (event readings w' outputs) (hp : w.phase = .connecting)
    (h : w.handle event readings ⟨∅,false,readings.instant,0⟩ = (w',outputs)) :
    Turn w (.connectReady (some event) readings) w' outputs
  | connectFailed (failure) (hp : w.phase = .connecting) : Turn w (.connectFailed failure) w.finish
    [.event (.disconnected w.accountId failure.recoverable (some failure.detail) failure.kind)]
  | connectElapsed (hp : w.phase = .connecting) : Turn w .connectElapsed w.finish
    [.event (.disconnected w.accountId true (some "connection attempt exceeded 30 seconds") .networkLost)]
  | send (s message call outcome) (hp : w.phase = .session s) : Turn w (.send message call outcome) w
    ((if outcome = .invalidRecipient then [] else [.stanza (buildMessageStanza message)]) ++
      [.reply call outcome.reply])
  | disconnect (s call outcome) (hp : w.phase = .session s) :
    Turn w (.disconnect call outcome) w.finish [.sendEnd,.reply call outcome.reply]
  | closed (s) (hp : w.phase = .session s) : Turn w .closed w.finish [.sendEnd]
  | ping (s : SessionState) (hp : w.phase = .session s) (hl : s.sessionLive = true) :
    Turn w .pingTick (w.enter { s with pingCounter := u64Succ s.pingCounter })
      [.stanza (.ping ("mindchat-ping-" ++ toString (u64Succ s.pingCounter)))]
  | watched (s now) (hp : w.phase = .session s) (hl : s.sessionLive = true)
    (hi : isInboundStale (now - s.lastInbound) inboundStaleTimeoutMs = false) :
    Turn w (.watchdogTick now) w []
  | stalled (s : SessionState) (now) (hp : w.phase = .session s) (hl : s.sessionLive = true)
    (hi : isInboundStale (now - s.lastInbound) inboundStaleTimeoutMs = true)
    (ha : w.autoReconnect = true) :
    Turn w (.watchdogTick now) (w.enter { s with sessionLive := false })
      [.event (.disconnected w.accountId true (some "no inbound data from the server for 3 minutes")
        .networkLost),.requestReconnect]
  | stalledStop (s now) (hp : w.phase = .session s) (hl : s.sessionLive = true)
    (hi : isInboundStale (now - s.lastInbound) inboundStaleTimeoutMs = true)
    (ha : w.autoReconnect = false) :
    Turn w (.watchdogTick now) w.finish
      [.event (.disconnected w.accountId true (some "no inbound data from the server for 3 minutes")
        .networkLost)]
  | clientEvent (s : SessionState) (event readings w' outputs) (hp : w.phase = .session s)
    (h : w.handle event readings { s with lastInbound := readings.instant } = (w',outputs)) :
    Turn w (.clientEvent event readings) w' outputs
  | clientEnd (s) (hp : w.phase = .session s) : Turn w .clientEnd w.finish
    [.event (.disconnected w.accountId true none .networkLost)]

theorem sessionLoop_cases {s : SessionState} (hp : w.phase = .session s)
    (h : w.sessionLoop s input = some (w',outputs)) : w.Turn input w' outputs := by
  cases input with
  | send message call outcome =>
    have ht := Turn.send s message call outcome hp
    simp only [sessionLoop] at h
    split at h <;> rename_i ho <;> cases h
    · rwa [if_pos ho] at ht
    · rwa [if_neg ho] at ht
  | disconnect call outcome =>
    cases h
    exact .disconnect s call outcome hp
  | closed =>
    cases h
    exact .closed s hp
  | pingTick =>
    simp only [sessionLoop] at h
    split at h <;> rename_i hl <;> cases h
    exact .ping s hp hl
  | watchdogTick now =>
    simp only [sessionLoop] at h
    split at h
    · rename_i hl
      split at h
      · rename_i hi
        split at h <;> rename_i ha <;> cases h
        · exact .stalled s now hp hl hi ha
        · exact .stalledStop s now hp hl hi (Bool.eq_false_iff.mpr ha)
      · rename_i hi
        cases h
        exact .watched s now hp hl (Bool.eq_false_iff.mpr hi)
    · cases h
  | clientEvent event readings => exact .clientEvent s event readings w' outputs hp (Option.some.inj h)
  | clientEnd =>
    cases h
    exact .clientEnd s hp
  | connectReady | connectFailed | connectElapsed => cases h

theorem step_cases (h : w.step input = some (w',outputs)) : w.Turn input w' outputs := by
  unfold step at h
  cases hp : w.phase with
  | returned =>
    rw [hp] at h
    cases h
  | session s =>
    rw [hp] at h
    exact sessionLoop_cases hp h
  | connecting =>
    rw [hp] at h
    cases input with
    | send message call outcome =>
      cases h
      exact .connectingSend message call outcome hp
    | disconnect call outcome =>
      cases h
      exact .connectingDisconnect call outcome hp
    | closed =>
      cases h
      exact .connectingClosed hp
    | connectReady pendingEvent readings =>
      cases pendingEvent with
      | none =>
        cases h
        exact .connectReady readings hp
      | some event => exact .connectEvent event readings w' outputs hp (Option.some.inj h)
    | connectFailed failure =>
      cases h
      exact .connectFailed failure hp
    | connectElapsed =>
      cases h
      exact .connectElapsed hp
    | pingTick | watchdogTick | clientEvent | clientEnd => cases h

theorem phase_connecting (hp : w.phase = .connecting) : w.phase.IsConnecting := by
  rw [hp]
  trivial

theorem phase_session {s : SessionState} (hp : w.phase = .session s) :
    ¬ w.phase.IsConnecting ∧ ¬ w.phase.IsReturned := by
  rw [hp]
  exact ⟨id,id⟩

/-- The worker returns in one of the ways listed, and in no other. -/
theorem step_returned (h : w.step input = some (w',outputs)) (hr : w'.phase.IsReturned) :
    w.Ending input (emitted outputs) := by
  cases step_cases h with
  | connectingSend message call outcome hp =>
    exact .sendWhileConnecting message call outcome (phase_connecting hp)
  | connectingDisconnect call outcome => exact .disconnect call outcome
  | connectingClosed => exact .closed
  | connectReady => exact hr.elim
  | connectEvent event readings _ _ hp hh =>
    obtain ⟨error,rfl,-,he⟩ := handle_returned hh hr
    rw [he]
    exact .connectReady error readings (phase_connecting hp)
  | connectFailed failure hp => exact .connectFailed failure (phase_connecting hp)
  | connectElapsed hp => exact .connectElapsed _ (phase_connecting hp)
  | send _ _ _ _ hp | watched _ _ hp => exact ((phase_session hp).2 hr).elim
  | disconnect _ call outcome => exact .disconnect call outcome
  | closed => exact .closed
  | ping | stalled => exact hr.elim
  | stalledStop _ now _ _ _ ha => exact .watchdog now _ ha
  | clientEvent _ event readings _ _ _ hh =>
    obtain ⟨error,rfl,hd,he⟩ := handle_returned hh hr
    rw [he]
    exact .clientEvent error readings hd
  | clientEnd => exact .clientEnd

theorem handle_kept {event : ClientEvent} {readings : Readings} {s : SessionState}
    (h : w.handle event readings s = (w',outputs)) :
    w'.accountId = w.accountId ∧ w'.autoReconnect = w.autoReconnect ∧ ¬ w'.phase.IsConnecting := by
  unfold handle at h
  split at h <;> cases h <;> exact ⟨rfl,rfl,id⟩

theorem step_kept (h : w.step input = some (w',outputs)) :
    w'.accountId = w.accountId ∧ w'.autoReconnect = w.autoReconnect ∧ ¬ w'.phase.IsConnecting := by
  cases step_cases h with
  | connectEvent _ _ _ _ _ hh | clientEvent _ _ _ _ _ _ hh => exact handle_kept hh
  | send _ _ _ _ hp | watched _ _ hp => exact ⟨rfl,rfl,(phase_session hp).1⟩
  | _ => exact ⟨rfl,rfl,id⟩

/-- An end is reported unless a command caused it. -/
theorem Ending.reported {events : List TransportEvent} (h : w.Ending input events)
    (hu : ¬ input.IsUserEnd) (hs : w.phase.IsConnecting → ¬ input.IsSend) :
    ∃ recoverable detail kind, events = [.disconnected w.accountId recoverable detail kind] := by
  cases h with
  | disconnect | closed => exact (hu trivial).elim
  | sendWhileConnecting message call outcome hc => exact (hs hc trivial).elim
  | connectReady | connectFailed | connectElapsed | watchdog | clientEvent | clientEnd =>
    exact ⟨_,_,_,rfl⟩

/-- A worker together with what it has done so far takes an input. -/
def advance (s : Worker × List WorkerOutput) (input : WorkerInput) :
    Option (Worker × List WorkerOutput) :=
  (s.1.step input).map (fun r => (r.1,s.2 ++ r.2))

theorem advance_eq_some {s t : Worker × List WorkerOutput} (h : advance s input = some t) :
    ∃ outputs, s.1.step input = some (t.1,outputs) ∧ t.2 = s.2 ++ outputs := by
  obtain ⟨⟨w,outputs⟩,hs,rfl⟩ := Option.map_eq_some_iff.mp h
  exact ⟨outputs,hs,rfl⟩

end Worker

/-- The worker started as `w` received the inputs and did the outputs. -/
abbrev WorkerRun (w : Worker) (inputs : List WorkerInput) (w' : Worker)
    (outputs : List WorkerOutput) : Prop :=
  Transition.Run (fun s input t => Worker.advance s input = some t) (w,[]) inputs (w',outputs)

/-- Unless the last input was the user's, the last event of the account is a
`Disconnected`, so the account does not stay connecting or online. -/
def EndReported (accountId : AccountId) (inputs : List WorkerInput)
    (outputs : List WorkerOutput) : Prop :=
  ∀ input, inputs.getLast? = some input → ¬ input.IsUserEnd →
    (∃ recoverable detail kind,
      ((emitted outputs).filter (fun event => event.account = accountId)).getLast? =
        some (.disconnected accountId recoverable detail kind)) ∧
    ∀ c : MindChatCore, (c.connection accountId).isSome →
      (c.applyTransportEvents (emitted outputs)).connection accountId ∈
        [some .offline,some .failed]

section Runs

variable {accountId : AccountId} {autoReconnect : Bool} {inputs : List WorkerInput} {w : Worker}
  {outputs : List WorkerOutput}

theorem WorkerRun.accountId_eq (h : WorkerRun (.start accountId autoReconnect) inputs w outputs) :
    w.accountId = accountId := by
  refine h.invariant (I := fun s => s.1.accountId = accountId) ?_ rfl
  intro s input t hi ha
  obtain ⟨new,hs,-⟩ := Worker.advance_eq_some ha
  exact (Worker.step_kept hs).1.trans hi

theorem WorkerRun.connecting (h : WorkerRun (.start accountId autoReconnect) inputs w outputs)
    (hc : w.phase.IsConnecting) : inputs = [] := by
  rcases h.cases_last with ⟨hn,-⟩ | ⟨before,input,s,rfl,-,ha⟩
  · exact hn
  · obtain ⟨new,hs,-⟩ := Worker.advance_eq_some ha
    exact ((Worker.step_kept hs).2.2 hc).elim

theorem connection_disconnected_last (c : MindChatCore) (events : List TransportEvent)
    (recoverable : Bool) (detail : Option String) (kind : DisconnectKind)
    (h : (c.connection accountId).isSome) :
    (c.applyTransportEvents (events ++ [.disconnected accountId recoverable detail kind])).connection
      accountId ∈ [some .offline,some .failed] := by
  have hs := MindChatCore.isSome_connection_applyTransportEvents c events accountId
  rw [h] at hs
  obtain ⟨state,hs⟩ := Option.isSome_iff_exists.mp hs
  rw [MindChatCore.applyTransportEvents,List.foldl_append]
  change (((c.applyTransportEvents events).applyTransportEvent _).2).connection accountId ∈ _
  rw [MindChatCore.connection_applyTransportEvent,hs]
  cases recoverable <;> simp [TransportEvent.projects]

/-- A worker that returned reported its end exactly if its connect phase was not
ended by a `Send` command. -/
theorem worker_end_reported (h : WorkerRun (.start accountId autoReconnect) inputs w outputs)
    (hr : w.phase.IsReturned) :
    EndReported accountId inputs outputs ↔
      ∀ message call outcome, inputs.head? ≠ some (.send message call outcome) := by
  constructor
  · intro he message call outcome hh
    cases h with
    | nil => cases hh
    | cons ha ht =>
      cases hh
      cases ha
      cases ht with
      | nil =>
        obtain ⟨⟨recoverable,detail,kind,hl⟩,-⟩ := he _ rfl id
        cases hl
      | cons ha ht => cases ha
  · intro hc input hl hu
    rcases h.cases_last with ⟨rfl,hw⟩ | ⟨before,input',s,rfl,hb,ha⟩
    · cases hl
    · rw [List.getLast?_concat] at hl
      cases hl
      obtain ⟨new,hs,ho⟩ := Worker.advance_eq_some ha
      dsimp only at hs ho
      have hid : s.1.accountId = accountId := WorkerRun.accountId_eq hb
      have hsend : s.1.phase.IsConnecting → ¬ input.IsSend := by
        intro hp hi
        obtain rfl := WorkerRun.connecting hb hp
        cases input with
        | send message call outcome => exact hc message call outcome rfl
        | _ => exact hi
      obtain ⟨recoverable,detail,kind,he⟩ := (Worker.step_returned hs hr).reported hu hsend
      have hall : emitted outputs =
          emitted s.2 ++ [.disconnected accountId recoverable detail kind] := by
        rw [ho,emitted,List.filterMap_append,← hid]
        exact congrArg (emitted s.2 ++ ·) he
      rw [hall]
      refine ⟨⟨recoverable,detail,kind,?_⟩,fun c hcore =>
        connection_disconnected_last c (emitted s.2) recoverable detail kind hcore⟩
      rw [List.filter_append,List.filter_cons_of_pos (by simp [TransportEvent.account])]
      exact List.getLast?_concat

end Runs

/-- The server is reached, goes online, and closes the stream. -/
def closedByServer : List WorkerInput :=
  [.connectReady (some (.online (some "host") true)) ⟨0,0,0⟩,.pingTick,.clientEnd]

theorem worker_end_reported_closed :
    EndReported 1 closedByServer
        [.event (.connected 1 {.streamManagement}),.stanza .available,
          .stanza (.rosterQuery "mindchat-roster-1"),
          .stanza (.discoQuery "mindchat-disco-1" "host"),.stanza (.ping "mindchat-ping-1"),
          .event (.disconnected 1 true none .networkLost)] :=
  (worker_end_reported (Transition.run_iff_exec.mpr rfl :
      WorkerRun (.start 1 true) closedByServer ⟨1,true,.returned⟩ _) trivial).mpr
    (fun _ _ _ h => by cases h)

/-- A message offered while the account still connects. -/
def earlySend : WorkerInput := .send ⟨1,1,1,.direct,"bob@host","hello",none⟩ 0 .written

theorem early_send_ends_unreported :
    WorkerRun (.start 1 true) [earlySend] ⟨1,true,.returned⟩
        [.reply 0 (.error (.connectionFailed "account is still connecting"))] ∧
      ¬ EndReported 1 [earlySend]
        [.reply 0 (.error (.connectionFailed "account is still connecting"))] := by
  refine ⟨Transition.run_iff_exec.mpr rfl,fun h => ?_⟩
  obtain ⟨⟨recoverable,detail,kind,hl⟩,-⟩ := h earlySend rfl id
  cases hl

end MindChat
