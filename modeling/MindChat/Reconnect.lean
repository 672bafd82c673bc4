import MindChat.Sessions

/-! Reconnecting workers: what keeps a worker that lost its stream running
until the client resumes, and the poll that ends it. -/

namespace MindChat

/-- The worker is gone, or a `Disconnect` command on its way will end it. -/
def Session.Doomed (s : Session) : Prop :=
  s.worker.phase.IsReturned ∨ ∃ call, .disconnect call ∈ s.commands

/-- A session as its transport should treat it: its worker has been run by
`run_worker`, has not lost its command channel, and loses it only when doomed. -/
structure Session.Served (s : Session) : Prop where
  run : ∃ outputs, WorkerRun (.start s.worker.accountId s.worker.autoReconnect) s.received
    s.worker outputs
  attached : .closed ∉ s.received
  doomed : s.senderAlive = false → s.Doomed

/-- Whatever session has this position satisfies `P`. -/
def TokioXmppTransport.At (t : TokioXmppTransport) (i : SessionId) (P : Session → Prop) : Prop :=
  ∀ s, t.sessions[i]? = some s → P s

namespace Session

variable {s s' : Session} {input : WorkerInput} {outputs : List WorkerOutput}

theorem step_eq_some (h : s.step input = some (s',outputs)) :
    ∃ commands worker, s.receive input = some commands ∧
      s.worker.step input = some (worker,outputs) ∧
      s' = { s with worker := worker, received := s.received ++ [input], commands := commands } := by
  obtain ⟨commands,hc,h⟩ := Option.bind_eq_some_iff.mp h
  obtain ⟨⟨worker,out⟩,hw,h⟩ := Option.map_eq_some_iff.mp h
  cases h
  exact ⟨commands,worker,hc,hw,rfl⟩

theorem running_of_step {w w' : Worker} (h : w.step input = some (w',outputs)) :
    ¬ w.phase.IsReturned := by
  intro hr
  unfold Worker.step at h
  cases hp : w.phase with
  | returned =>
    rw [hp] at h
    cases h
  | _ =>
    rw [hp] at hr
    exact hr

theorem returned_of_disconnect {w w' : Worker} {call : ℕ} {outcome : CloseOutcome}
    (h : w.step (.disconnect call outcome) = some (w',outputs)) : w'.phase.IsReturned := by
  cases Worker.step_cases h <;> trivial

theorem receive_disconnect {commands : List WorkerCommand} {call : ℕ}
    (h : s.receive input = some commands) (hd : .disconnect call ∈ s.commands) :
    (∃ call outcome, input = .disconnect call outcome) ∨ .disconnect call ∈ commands := by
  cases input with
  | disconnect call outcome => exact .inl ⟨call,outcome,rfl⟩
  | send message call' outcome =>
    right
    simp only [receive] at h
    split at h
    · rename_i message' call'' rest hc
      rw [hc] at hd
      split_ifs at h
      cases h
      rcases List.mem_cons.mp hd with he | hr
      · cases he
      · exact hr
    · cases h
  | closed =>
    simp only [receive] at h
    split_ifs at h with hc
    rw [hc.1] at hd
    cases hd
  | _ =>
    cases h
    exact .inr hd

theorem Doomed.step (h : s.Doomed) (hs : s.step input = some (s',outputs)) : s'.Doomed := by
  obtain ⟨commands,worker,hc,hw,rfl⟩ := step_eq_some hs
  rcases h with hr | ⟨call,hd⟩
  · exact (running_of_step hw hr).elim
  · rcases receive_disconnect hc hd with ⟨call,outcome,rfl⟩ | hd
    · exact .inl (returned_of_disconnect hw)
    · exact .inr ⟨call,hd⟩

theorem Served.step (h : s.Served) (hs : s.step input = some (s',outputs)) : s'.Served := by
  obtain ⟨commands,worker,hc,hw,rfl⟩ := step_eq_some hs
  obtain ⟨hid,hauto,-⟩ := Worker.step_kept hw
  refine ⟨?_,?_,fun ha => (h.doomed ha).step hs⟩
  · obtain ⟨before,hr⟩ := h.run
    have ha : Worker.advance (s.worker,before) input = some (worker,before ++ outputs) := by
      rw [Worker.advance,hw]
      rfl
    simp only [hid,hauto]
    exact ⟨before ++ outputs,hr.append (.single ha)⟩
  · intro hm
    rcases List.mem_append.mp hm with hm | hm
    · exact h.attached hm
    · obtain rfl := List.mem_singleton.mp hm
      unfold receive at hc
      split_ifs at hc with hcond
      rcases h.doomed hcond.2 with hr | ⟨call,hd⟩
      · exact running_of_step hw hr
      · rw [hcond.1] at hd
        cases hd

theorem Served.start (accountId : AccountId) (autoReconnect : Bool) :
    Served ⟨.start accountId autoReconnect,[],[],true⟩ :=
  ⟨⟨[],.nil _⟩,List.not_mem_nil,fun h => by cases h⟩

theorem Served.queue (h : s.Served) (command : WorkerCommand) :
    Served { s with commands := s.commands ++ [command] } :=
  ⟨h.run,h.attached,fun ha => (h.doomed ha).imp_right
    (fun ⟨call,hd⟩ => ⟨call,List.mem_append_left _ hd⟩)⟩

theorem Served.dropHandle (h : s.Served) (hd : s.Doomed) : Served { s with senderAlive := false } :=
  ⟨h.run,h.attached,fun _ => hd⟩

end Session

namespace TokioXmppTransport

variable {t t' : TokioXmppTransport} {i j : SessionId} {P : Session → Prop}

theorem At.work (hP : ∀ s input s' outputs, P s → s.step input = some (s',outputs) → P s')
    (h : t.At i P) {input : WorkerInput} (hw : t.work j input = some t') : t'.At i P := by
  obtain ⟨s,hs,hw⟩ := Option.bind_eq_some_iff.mp hw
  obtain ⟨⟨s',outputs⟩,hst,rfl⟩ := Option.map_eq_some_iff.mp hw
  intro r hr
  rw [List.getElem?_set] at hr
  split_ifs at hr with he hl
  · cases hr
    subst he
    exact hP s input _ outputs (h s hs) hst
  · exact h r hr

theorem At.wait (hP : ∀ s input s' outputs, P s → s.step input = some (s',outputs) → P s')
    (h : t.At i P) : t.wait.At i P :=
  wait_invariant (I := fun t => t.At i P) (p := fun _ => True) (fun _ _ _ _ h _ hw => h.work hP hw)
    (fun _ _ => trivial) h

theorem At.modifySession {change : Session → Session} (h : t.At i P)
    (hc : i = j → ∀ s, t.sessions[j]? = some s → P s → P (change s)) :
    (t.modifySession j change).At i P := by
  intro s hs
  simp only [TokioXmppTransport.modifySession,List.getElem?_modify] at hs
  cases hi : t.sessions[i]? with
  | none =>
    rw [hi] at hs
    cases hs
  | some r =>
    rw [hi] at hs
    cases hs
    split_ifs with he
    · exact hc he.symm r (he ▸ hi) (h r hi)
    · exact h r hi

theorem At.doomed_of_hasReturned (h : t.hasReturned j = true) : t.At j Session.Doomed := by
  intro s hs
  rw [hasReturned,hs] at h
  exact .inl (of_decide_eq_true h)

theorem At.sendCommand_served (h : t.At i Session.Served) (command : WorkerCommand) :
    (t.sendCommand j command).At i Session.Served := by
  unfold sendCommand
  split
  · exact h
  · exact h.modifySession (fun _ s _ hs => hs.queue command)

theorem At.sendCommand_doomed (call : ℕ) :
    (t.sendCommand j (.disconnect call)).At j Session.Doomed := by
  unfold sendCommand
  split
  · exact .doomed_of_hasReturned ‹_›
  · intro s hs
    simp only [TokioXmppTransport.modifySession,List.getElem?_modify] at hs
    cases hi : t.sessions[j]? with
    | none =>
      rw [hi] at hs
      cases hs
    | some r =>
      rw [hi] at hs
      cases hs
      simp only [if_true]
      exact .inr ⟨call,List.mem_append_right _ List.mem_cons_self⟩

theorem At.dropHandle_served (h : t.At i Session.Served) (hd : t.At j Session.Doomed) :
    (t.dropHandle j).At i Session.Served :=
  h.modifySession (fun _ s hs hserved => hserved.dropHandle (hd s hs))

/-- The session whose handle the next poll drops. -/
def retires (t : TokioXmppTransport) : Option SessionId :=
  match t.events with
  | (_,.disconnected accountId _ _ _) :: _ => t.workers.lookup accountId
  | _ => none

theorem At.connect (h : t.At i P) (request : ConnectionRequest)
    (hP : P ⟨.start request.accountId request.autoReconnect,[],[],true⟩) :
    (t.connect request).2.At i P := by
  unfold TokioXmppTransport.connect
  split
  · exact h
  · split
    · exact h
    · intro s hs
      rcases lt_trichotomy i t.sessions.length with hlt | rfl | hgt
      · rw [List.getElem?_append_left hlt] at hs
        exact h s hs
      · rw [List.getElem?_concat_length] at hs
        cases hs
        exact hP
      · rw [List.getElem?_eq_none (by rw [List.length_append]; exact hgt)] at hs
        cases hs

theorem At.disconnect_served (h : t.At i Session.Served) (accountId : AccountId) :
    (t.disconnect accountId).2.At i Session.Served := by
  unfold disconnect
  cases t.workers.lookup accountId with
  | none => exact h
  | some j =>
    have hremoved : At { t with workers := t.workers.erase accountId } i Session.Served := h
    dsimp only
    split
    · exact hremoved.dropHandle_served (.doomed_of_hasReturned ‹_›)
    · exact .dropHandle_served (.wait (fun _ _ _ _ hs => hs.step) (hremoved.sendCommand_served _))
        (.wait (fun _ _ _ _ hs => hs.step) (.sendCommand_doomed _))

theorem At.send_served (h : t.At i Session.Served) (message : OutgoingMessage) :
    (t.send message).2.At i Session.Served := by
  unfold send
  cases t.workers.lookup message.accountId with
  | none => exact h
  | some j =>
    dsimp only
    split
    · exact h
    · exact .wait (fun _ _ _ _ hs => hs.step) (.sendCommand_served h _)

theorem At.drop_served (h : t.At i Session.Served) : t.drop.At i Session.Served := by
  have run : ∀ (handles : List SessionId) (t : TokioXmppTransport), t.At i Session.Served →
      (handles.foldl (fun t j => (t.sendCommand j (.disconnect t.nextCall)).dropHandle j) t).At i
        Session.Served := by
    intro handles
    induction handles with
    | nil => exact fun _ h => h
    | cons j rest ih =>
      exact fun t h => ih _ (.dropHandle_served (.sendCommand_served h _) (.sendCommand_doomed _))
  exact run _ _ h

/-- A poll serves a session unless it retires it while its worker runs. -/
theorem At.nextEvent_served (h : t.At i Session.Served)
    (hr : t.retires ≠ some i ∨ t.hasReturned i = true) : t.nextEvent.2.At i Session.Served := by
  unfold nextEvent retires at *
  cases he : t.events with
  | nil => exact h
  | cons head rest =>
    obtain ⟨sender,event⟩ := head
    rw [he] at hr
    cases event with
    | disconnected accountId recoverable detail kind =>
      dsimp only at hr ⊢
      unfold retireWorker
      cases hl : t.workers.lookup accountId with
      | none => exact h
      | some j =>
        rw [hl] at hr
        refine At.modifySession h (fun he s hs hserved => hserved.dropHandle ?_)
        subst he
        rcases hr with hr | hr
        · exact (hr rfl).elim
        · exact At.doomed_of_hasReturned hr s hs
    | _ => exact h

end TokioXmppTransport

/-- A poll does not retire the session while its worker still runs. -/
def SparesWorker (i : SessionId) (k : System) : SystemOp → Prop
  | .pollNextEvent => k.transport.retires ≠ some i ∨ k.transport.hasReturned i = true
  | _ => True

instance (i : SessionId) (k : System) (op : SystemOp) : Decidable (SparesWorker i k op) :=
  match op with
  | .pollNextEvent => inferInstanceAs (Decidable (_ ∨ _))
  | .connect _ _ _ _ _ | .disconnect _ _ | .deleteAccount _ _ | .sendText _ _ _ _ _
  | .flushOutbox _ _ _ | .drop | .worker _ _ => .isTrue trivial

theorem System.step_served {i : SessionId} {k l : System} {op : SystemOp}
    (h : k.transport.At i Session.Served) (hc : SparesWorker i k op) (hs : k.step op = some l) :
    l.transport.At i Session.Served := by
  cases op with
  | connect accountId password proxy proxyPassword prepared =>
    cases hs
    exact TransportCoordinator.transport_connectWithProxy (k := k.preparing prepared)
      (P := fun t => t.At i Session.Served) (fun _ request _ h => h.connect request (.start ..)) h _ _ _
  | disconnect accountId meanwhile =>
    cases hs
    unfold System.disconnectCall
    rw [TransportCoordinator.transport_disconnect]
    exact TokioXmppTransport.At.disconnect_served (t := (k.waiting [meanwhile]).transport) h accountId
  | deleteAccount accountId meanwhile =>
    cases hs
    unfold System.deleteAccount
    split
    · exact h
    · dsimp only
      split
      · exact TokioXmppTransport.At.disconnect_served (t := (k.waiting [meanwhile]).transport) h
          accountId
      · exact h
  | sendText conversationId sender body inReplyTo now =>
    cases hs
    exact h
  | flushOutbox accountId elapsed meanwhile =>
    cases hs
    exact TransportCoordinator.transport_flushOutbox (k := k.waiting meanwhile)
      (P := fun t => t.At i Session.Served) (fun _ message h => h.send_served message) h elapsed
      accountId
  | pollNextEvent =>
    cases hs
    rw [TransportCoordinator.transport_pollNextEvent]
    exact h.nextEvent_served hc
  | drop =>
    cases hs
    exact h.drop_served
  | worker session input =>
    obtain ⟨t,ht,rfl⟩ := Option.map_eq_some_iff.mp hs
    exact h.work (fun _ _ _ _ h => h.step) ht

theorem SystemRun.served {i : SessionId} {core : MindChatCore} {ops : List SystemOp} {k : System}
    (h : SystemRun (SparesWorker i) ⟨core,.new⟩ ops k) : k.transport.At i Session.Served :=
  h.invariant (I := fun k => k.transport.At i Session.Served)
    (fun _ _ _ hi hs => System.step_served hi hs.1 hs.2) (fun _ hs => by cases hs)

/-- The worker saw its stream fail and kept polling for the client to resume. -/
def Session.KeptAlive (s : Session) : Prop :=
  ∃ error readings, .clientEvent (.disconnected error) readings ∈ s.received ∧
    reconnectDecision (.disconnected error) s.worker.autoReconnect = .keep

/-- What may end such a worker. The `Disconnect` command is only sent by the
user's disconnect, by `delete_account` and by the drop of the transport. -/
def WorkerInput.EndsReconnecting : WorkerInput → Prop
  | .disconnect _ _ | .clientEnd => True
  | .clientEvent event _ => reconnectDecision event true = .stop
  | _ => False

/-- In every run whose polls spare the running worker of a session, a worker
with auto-reconnect that was kept alive once ends for no other reason. -/
theorem reconnecting_worker_survives {i : SessionId} {core : MindChatCore} {ops : List SystemOp}
    {k : System} {s : Session} (h : SystemRun (SparesWorker i) ⟨core,.new⟩ ops k)
    (hs : k.transport.sessions[i]? = some s) (ha : s.worker.autoReconnect = true)
    (hk : s.KeptAlive) (hr : s.worker.phase.IsReturned) :
    ∃ input, s.received.getLast? = some input ∧ input.EndsReconnecting := by
  have hserved := h.served s hs
  obtain ⟨outputs,hrun⟩ := hserved.run
  obtain ⟨error,readings,hm,hd⟩ := hk
  rcases hrun.cases_last with ⟨hn,-⟩ | ⟨before,input,u,hb,hbefore,hstep⟩
  · rw [hn] at hm
    cases hm
  · refine ⟨input,by rw [hb,List.getLast?_concat],?_⟩
    obtain ⟨new,hw,-⟩ := Worker.advance_eq_some hstep
    obtain ⟨-,hauto,-⟩ := Worker.step_kept hw
    dsimp only at hw hauto
    rw [ha] at hauto hd
    -- a worker that still connects has no client event behind it
    have late : u.1.phase.IsConnecting → input = .clientEvent (.disconnected error) readings := by
      intro hc
      rw [hb,WorkerRun.connecting hbefore hc] at hm
      exact (List.mem_singleton.mp hm).symm
    have hending := Worker.step_returned hw hr
    generalize emitted new = events at hending
    cases hending with
    | disconnect | clientEnd => trivial
    | closed => exact (hserved.attached (by rw [hb]; simp)).elim
    | sendWhileConnecting message call outcome hc => cases late hc
    | connectReady error readings hc => cases late hc
    | connectFailed failure hc => cases late hc
    | connectElapsed detail hc => cases late hc
    | watchdog now detail hauto' => rw [← hauto] at hauto'; cases hauto'
    | clientEvent error readings hdecision => rwa [← hauto] at hdecision

/-- The account goes online, and its stream breaks. -/
def streamLost : List SystemOp :=
  [.connect 1 "secret" none none (.ok ()),
    .worker 0 (.connectReady (some (.online none false)) ⟨0,0,0⟩),.pollNextEvent,
    .worker 0 (.clientEvent (.disconnected .disconnected) ⟨1000,0,0⟩)]

/-- The client resumes; later the server ends the stream. -/
def resumedInputs : List WorkerInput :=
  [.connectReady (some (.online none false)) ⟨0,0,0⟩,
    .clientEvent (.disconnected .disconnected) ⟨1000,0,0⟩,
    .clientEvent (.online none false) ⟨2000,0,0⟩,.clientEnd]

def resumedOps : List SystemOp :=
  streamLost ++ [.worker 0 (.clientEvent (.online none false) ⟨2000,0,0⟩),.worker 0 .clientEnd]

def resumed : System := (Transition.exec System.step adaOffline resumedOps).getD adaOffline

theorem reconnecting_worker_survives_resumed :
    resumed.transport.sessions[0]? = some ⟨⟨1,true,.returned⟩,resumedInputs,[],true⟩ ∧
      ∃ input, resumedInputs.getLast? = some input ∧ input.EndsReconnecting :=
  ⟨rfl,reconnecting_worker_survives (s := ⟨⟨1,true,.returned⟩,resumedInputs,[],true⟩)
    (Transition.run_meeting_iff_exec.mpr rfl :
      SystemRun (SparesWorker 0) adaOffline resumedOps resumed) rfl rfl
    ⟨.disconnected,⟨1000,0,0⟩,by simp [resumedInputs],rfl⟩ trivial⟩

/-- The lost stream is polled, and the worker that kept the session is ended by
the end of its command channel. -/
def retiredInputs : List WorkerInput :=
  [.connectReady (some (.online none false)) ⟨0,0,0⟩,
    .clientEvent (.disconnected .disconnected) ⟨1000,0,0⟩,.closed]

def retiredOps : List SystemOp := streamLost ++ [.pollNextEvent,.worker 0 .closed]

def retired : System := (Transition.exec System.step adaOffline retiredOps).getD adaOffline

theorem reconnecting_worker_retired : ∃ s : Session,
    Transition.exec System.step adaOffline retiredOps = some retired ∧
    retired.transport.sessions[0]? = some s ∧ s.worker.autoReconnect = true ∧ s.KeptAlive ∧
    s.worker.phase.IsReturned ∧
    ¬ ∃ input, s.received.getLast? = some input ∧ input.EndsReconnecting := by
  refine ⟨⟨⟨1,true,.returned⟩,retiredInputs,[],false⟩,rfl,rfl,rfl,
    ⟨.disconnected,⟨1000,0,0⟩,by simp [retiredInputs],rfl⟩,trivial,?_⟩
  rintro ⟨input,hl,he⟩
  cases hl
  exact he

end MindChat
