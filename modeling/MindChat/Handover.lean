import MindChat.Reconnect
import MindChat.Receipts
import MindChat.Outbox
import Mathlib.Algebra.Order.BigOperators.Group.List
import Mathlib.Algebra.Ring.Nat

/-! How often a message is handed to the client: what a `Send` command that was
given up can still do, and the runs in which every message is handed over once. -/

namespace MindChat

namespace WorkerInput

def command : WorkerInput → Option WorkerCommand
  | .send message call _ => some (.send message call)
  | .disconnect call _ => some (.disconnect call)
  | _ => none

def handsOver : WorkerInput → Option MessageId
  | .send message _ outcome =>
    if outcome = .invalidRecipient then none else some message.messageId
  | _ => none

/-- The message a session loop hands to the client, which confirms that it wrote it. -/
def confirms : WorkerInput → Option MessageId
  | .send message _ .written => some message.messageId
  | _ => none

theorem handsOver_of_confirms {input : WorkerInput} {id : MessageId} (h : input.confirms = some id) :
    input.handsOver = some id := by
  unfold confirms at h
  split at h <;> cases h
  rfl

end WorkerInput

namespace WorkerCommand

def call : WorkerCommand → ℕ
  | .send _ call => call
  | .disconnect call => call

end WorkerCommand

namespace Session

/-- The messages handed to the client; the first input belongs to the connect
phase, which hands over nothing. -/
def handedOver (s : Session) : List MessageId := s.received.tail.filterMap WorkerInput.handsOver

def confirmed (s : Session) : List MessageId := s.received.tail.filterMap WorkerInput.confirms

/-- The client was handed the message and did not confirm it: it failed, or the
worker's wait for it ran out. -/
def FailedToSend (id : MessageId) (s : Session) : Prop :=
  ∃ input ∈ s.received.tail, input.handsOver = some id ∧ input.confirms ≠ some id

/-- The commands under a number that are still queued. -/
def queued (n : ℕ) (s : Session) : ℕ := s.commands.countP (fun command => command.call = n)

variable {s s' : Session} {input : WorkerInput} {outputs : List WorkerOutput} {id : MessageId}

theorem receive_eq {commands : List WorkerCommand} (h : s.receive input = some commands) :
    s.commands = input.command.toList ++ commands := by
  cases input with
  | send message call outcome =>
    simp only [receive] at h
    split at h
    · rename_i message' call' rest hc
      split_ifs at h with he
      cases h
      rw [hc,he.1,he.2]
      rfl
    · cases h
  | disconnect call outcome =>
    simp only [receive] at h
    split at h
    · rename_i call' rest hc
      split_ifs at h with he
      cases h
      rw [hc,he]
      rfl
    · cases h
  | closed =>
    simp only [receive] at h
    split_ifs at h with hc
    cases h
    rw [hc.1]
    rfl
  | _ =>
    cases h
    rfl

theorem mem_handedOver : id ∈ s.handedOver ↔
    ∃ input ∈ s.received.tail, input.handsOver = some id := by
  simp [handedOver]

theorem mem_confirmed : id ∈ s.confirmed ↔
    ∃ input ∈ s.received.tail, input.confirms = some id := by
  simp [confirmed]

/-- What was handed over was confirmed, or the client failed it. -/
theorem confirmed_or_failedToSend (h : id ∈ s.handedOver) : id ∈ s.confirmed ∨ s.FailedToSend id := by
  obtain ⟨input,hm,hi⟩ := mem_handedOver.mp h
  by_cases hc : input.confirms = some id
  · exact .inl (mem_confirmed.mpr ⟨input,hm,hc⟩)
  · exact .inr ⟨input,hm,hi,hc⟩

theorem handedOver_of_confirmed (h : id ∈ s.confirmed) : id ∈ s.handedOver := by
  obtain ⟨input,hm,hc⟩ := mem_confirmed.mp h
  exact mem_handedOver.mpr ⟨input,hm,WorkerInput.handsOver_of_confirms hc⟩

theorem handsOver_command {message : MessageId} (h : input.handsOver = some message) :
    ∃ command, input.command = some command := by
  cases input with
  | send message call outcome => exact ⟨_,rfl⟩
  | _ => cases h

theorem queued_step (h : s.step input = some (s',outputs)) (n : ℕ) :
    s.queued n = s'.queued n + if input.command.map WorkerCommand.call = some n then 1 else 0 := by
  obtain ⟨commands,worker,hc,-,rfl⟩ := step_eq_some h
  rw [queued,receive_eq hc,List.countP_append]
  cases input.command with
  | none => simp [queued]
  | some command =>
    simp only [Option.toList_some,List.countP_singleton,decide_eq_true_eq,Option.map_some,
      Option.some.injEq]
    exact Nat.add_comm _ _

theorem handedOver_step (h : s.step input = some (s',outputs))
    (hf : s.worker.phase.IsConnecting → s.received = []) :
    s'.handedOver = s.handedOver ∨
      (¬ s.worker.phase.IsConnecting ∧ s'.handedOver = s.handedOver ++ input.handsOver.toList) := by
  obtain ⟨commands,worker,-,-,rfl⟩ := step_eq_some h
  by_cases hp : s.worker.phase.IsConnecting
  · simp [handedOver,hf hp]
  · cases hr : s.received with
    | nil => simp [handedOver,hr]
    | cons first rest =>
      refine .inr ⟨hp,?_⟩
      simp only [handedOver,hr,List.cons_append,List.tail_cons,List.filterMap_append]
      cases hh : input.handsOver <;> simp [hh]

theorem confirmed_step (h : s.step input = some (s',outputs))
    (hf : s.worker.phase.IsConnecting → s.received = []) (hm : id ∈ s'.confirmed) :
    id ∈ s.confirmed ∨ (¬ s.worker.phase.IsConnecting ∧ input.confirms = some id) := by
  obtain ⟨commands,worker,-,-,rfl⟩ := step_eq_some h
  by_cases hp : s.worker.phase.IsConnecting
  · simp [confirmed,hf hp] at hm
  · cases hr : s.received with
    | nil => simp [confirmed,hr] at hm
    | cons first rest =>
      simp only [confirmed,hr,List.cons_append,List.tail_cons,List.filterMap_append,
        List.mem_append] at hm ⊢
      refine hm.imp_right (fun hm => ⟨hp,?_⟩)
      obtain ⟨taken,ht,hc⟩ := List.mem_filterMap.mp hm
      rwa [← List.mem_singleton.mp ht]

end Session

/-- Neither an answer to a command nor the stanza of a message. -/
def WorkerOutput.Background : WorkerOutput → Prop
  | .reply _ _ | .stanza (.message _ _ _ _ _) => False
  | _ => True

inductive WorkerOutput.Unasked (accountId : AccountId) : WorkerOutput → Prop
  | event (event) : Unasked accountId (.event event)
  | available : Unasked accountId (.stanza .available)
  | rosterQuery : Unasked accountId (.stanza (.rosterQuery (rosterRequestId accountId)))
  | discoQuery (recipient) : Unasked accountId (.stanza (.discoQuery (discoRequestId accountId) recipient))
  | rosterResult (recipient id) : Unasked accountId (.stanza (.rosterResult recipient id))
  | acknowledgement (recipient receipt) (now : ℕ) : Unasked accountId (.stanza (.acknowledgement
    ("mindchat-receipt-" ++ toString accountId ++ "-" ++ toString now) recipient receipt))
  | ping (counter : ℕ) : Unasked accountId (.stanza (.ping ("mindchat-ping-" ++ toString counter)))
  | sendEnd : Unasked accountId .sendEnd
  | requestReconnect : Unasked accountId .requestReconnect

theorem WorkerOutput.Unasked.background {accountId : AccountId} {o : WorkerOutput}
    (h : o.Unasked accountId) : o.Background := by
  cases h <;> trivial

theorem unasked_events {accountId : AccountId} {events : List TransportEvent} :
    ∀ o ∈ events.map WorkerOutput.event, o.Unasked accountId := by
  intro o ho
  obtain ⟨event,-,rfl⟩ := List.mem_map.mp ho
  exact .event event

theorem handleIq_unasked (accountId : AccountId) (capabilities : Finset ProtocolCapability)
    (iq : IqStanza) : ∀ o ∈ handleIq accountId capabilities iq, o.Unasked accountId := by
  intro o ho
  unfold handleIq at ho
  split at ho
  · split_ifs at ho
    · split at ho
      · exact unasked_events o ho
      · cases ho
    · split at ho
      · cases List.mem_singleton.mp ho
        exact .event _
      · cases ho
    · cases ho
  · rcases List.mem_append.mp ho with ho | ho
    · exact unasked_events o ho
    · cases List.mem_singleton.mp ho
      exact .rosterResult _ _
  · cases ho

theorem handleClientEvent_unasked (accountId : AccountId) (autoReconnect : Bool)
    (event : ClientEvent) (readings : Readings) (s : SessionState) :
    ∀ o ∈ (handleClientEvent accountId autoReconnect event readings s).2.2, o.Unasked accountId := by
  intro o ho
  cases event with
  | online serverJid streamManagement =>
    rcases List.mem_append.mp ho with ho | ho
    · rcases List.mem_cons.mp ho with rfl | ho
      · exact .event _
      rcases List.mem_cons.mp ho with rfl | ho
      · exact .available
      · cases List.mem_singleton.mp ho
        exact .rosterQuery
    · obtain ⟨jid,-,rfl⟩ := List.mem_map.mp ho
      exact .discoQuery jid
  | disconnected error =>
    cases List.mem_singleton.mp ho
    exact .event _
  | message stanza =>
    simp only [handleClientEvent,List.append_assoc] at ho
    rcases List.mem_append.mp ho with ho | ho
    · exact unasked_events o ho
    rcases List.mem_append.mp ho with ho | ho
    · obtain ⟨ack,hack,rfl⟩ := List.mem_map.mp ho
      obtain ⟨sender,receipt,-,rfl⟩ :=
        receiptAcknowledgement_eq_some.mp (Option.mem_toList.mp hack)
      exact .acknowledgement sender receipt _
    · exact unasked_events o ho
  | presence stanza => exact unasked_events o ho
  | iq stanza => exact handleIq_unasked accountId s.streamCapabilities stanza o ho

namespace Worker

open TokioXmppTransport (repliesOf)

variable {w w' : Worker} {input : WorkerInput} {outputs : List WorkerOutput}

theorem handle_unasked {event : ClientEvent} {readings : Readings} {s : SessionState}
    (h : w.handle event readings s = (w',outputs)) : ∀ o ∈ outputs, o.Unasked w.accountId := by
  have hb := handleClientEvent_unasked w.accountId w.autoReconnect event readings s
  unfold handle at h
  split at h <;> rename_i he <;> cases h <;> rwa [he] at hb

theorem step_unasked (h : w.step input = some (w',outputs)) (hc : input.command = none) :
    ∀ o ∈ outputs, o.Unasked w.accountId := by
  have one : ∀ o : WorkerOutput, o.Unasked w.accountId → ∀ p ∈ [o], p.Unasked w.accountId := by
    rintro o ho p hp
    rwa [List.mem_singleton.mp hp]
  cases step_cases h with
  | connectingSend | connectingDisconnect | send | disconnect => cases hc
  | connectingClosed | connectReady | watched => exact fun _ ho => by cases ho
  | connectEvent _ _ _ _ _ hh | clientEvent _ _ _ _ _ _ hh => exact handle_unasked hh
  | connectFailed | connectElapsed | stalledStop | clientEnd => exact one _ (.event _)
  | closed => exact one _ .sendEnd
  | ping => exact one _ (.ping _)
  | stalled =>
    rintro o ho
    rcases List.mem_cons.mp ho with rfl | ho
    · exact .event _
    · cases List.mem_singleton.mp ho
      exact .requestReconnect

theorem step_background (h : w.step input = some (w',outputs)) (hc : input.command = none) :
    ∀ o ∈ outputs, o.Background :=
  fun o ho => (step_unasked h hc o ho).background

/-- A `Send` command ends the connect phase; in the session it is answered. -/
theorem step_send {message : OutgoingMessage} {call : ℕ} {outcome : SendOutcome}
    (h : w.step (.send message call outcome) = some (w',outputs)) :
    (w.phase.IsConnecting ∧ w'.phase.IsReturned ∧
      outputs = [.reply call (.error (.connectionFailed "account is still connecting"))]) ∨
    (¬ w.phase.IsConnecting ∧ w' = w ∧ outputs =
      (if outcome = .invalidRecipient then [] else [.stanza (buildMessageStanza message)]) ++
        [.reply call outcome.reply]) := by
  cases step_cases h with
  | connectingSend _ _ _ hp => exact .inl ⟨phase_connecting hp,trivial,rfl⟩
  | send _ _ _ _ hp => exact .inr ⟨(phase_session hp).1,rfl,rfl⟩

theorem step_disconnect {call : ℕ} {outcome : CloseOutcome}
    (h : w.step (.disconnect call outcome) = some (w',outputs)) :
    outputs = [.reply call (.ok ())] ∨ outputs = [.sendEnd,.reply call outcome.reply] := by
  cases step_cases h with
  | connectingDisconnect => exact .inl rfl
  | disconnect => exact .inr rfl

theorem repliesOf_background (h : ∀ o ∈ outputs, o.Background) : repliesOf outputs = [] := by
  refine List.filterMap_eq_nil_iff.mpr (fun o ho => ?_)
  cases o with
  | reply call result => exact (h _ ho).elim
  | _ => rfl

theorem repliesOf_send (message : OutgoingMessage) (call : ℕ) (outcome : SendOutcome) :
    repliesOf ((if outcome = .invalidRecipient then [] else [.stanza (buildMessageStanza message)]) ++
      [.reply call outcome.reply]) = [(call,outcome.reply)] := by
  split_ifs <;> rfl

theorem repliesOf_step (h : w.step input = some (w',outputs)) :
    ∀ r ∈ repliesOf outputs, ∃ command, input.command = some command ∧ command.call = r.1 := by
  intro r hr
  cases input with
  | send message call outcome =>
    rcases step_send h with ⟨-,-,rfl⟩ | ⟨-,-,rfl⟩
    · cases List.mem_singleton.mp hr
      exact ⟨_,rfl,rfl⟩
    · rw [repliesOf_send] at hr
      cases List.mem_singleton.mp hr
      exact ⟨_,rfl,rfl⟩
  | disconnect call outcome =>
    rcases step_disconnect h with rfl | rfl <;> cases List.mem_singleton.mp hr <;> exact ⟨_,rfl,rfl⟩
  | _ =>
    rw [repliesOf_background (step_background h rfl)] at hr
    cases hr

end Worker

/-- The ids of the message stanzas among the outputs of a worker. -/
def messageStanzas (outputs : List WorkerOutput) : List String :=
  outputs.filterMap (fun output =>
    match output with
    | .stanza (.message _ _ id _ _) => some id
    | _ => none)

theorem messageStanzas_background {outputs : List WorkerOutput} (h : ∀ o ∈ outputs, o.Background) :
    messageStanzas outputs = [] := by
  refine List.filterMap_eq_nil_iff.mpr (fun o ho => ?_)
  have hb := h o ho
  cases o with
  | stanza stanza =>
    cases stanza with
    | message => exact hb.elim
    | _ => rfl
  | _ => rfl

theorem messageStanzas_step {w w' : Worker} {input : WorkerInput} {outputs : List WorkerOutput}
    (h : w.step input = some (w',outputs)) :
    (w.phase.IsConnecting → messageStanzas outputs = []) ∧
      (¬ w.phase.IsConnecting → messageStanzas outputs = input.handsOver.toList.map stanzaId) := by
  cases input with
  | send message call outcome =>
    rcases Worker.step_send h with ⟨hp,-,rfl⟩ | ⟨hp,-,rfl⟩
    · exact ⟨fun _ => rfl,fun hn => (hn hp).elim⟩
    · refine ⟨fun hc => (hp hc).elim,fun _ => ?_⟩
      by_cases ho : outcome = .invalidRecipient
      · simp [WorkerInput.handsOver,ho,messageStanzas]
      · simp only [WorkerInput.handsOver,ho,if_false,messageStanzas,buildMessageStanza]
        cases message.kind <;> rfl
  | disconnect call outcome =>
    rcases Worker.step_disconnect h with rfl | rfl <;> exact ⟨fun _ => rfl,fun _ => rfl⟩
  | _ =>
    rw [messageStanzas_background (Worker.step_background h rfl)]
    exact ⟨fun _ => rfl,fun _ => rfl⟩

/-- What a session counts as handed over are the message stanzas its worker wrote. -/
theorem WorkerRun.messageStanzas_eq {accountId : AccountId} {autoReconnect : Bool}
    {inputs : List WorkerInput} {w : Worker} {outputs : List WorkerOutput}
    (h : WorkerRun (.start accountId autoReconnect) inputs w outputs) :
    messageStanzas outputs = (inputs.tail.filterMap WorkerInput.handsOver).map stanzaId := by
  induction inputs using List.reverseRecOn generalizing w outputs with
  | nil =>
    cases h
    rfl
  | append_singleton before input ih =>
    obtain ⟨s,hbefore,hlast⟩ := Transition.Run.split h
    cases hlast with
    | cons ha hrest =>
      cases hrest
      obtain ⟨new,hs,ho⟩ := Worker.advance_eq_some ha
      dsimp only at hs ho
      obtain ⟨hconnecting,hsession⟩ := messageStanzas_step hs
      rw [ho,messageStanzas,List.filterMap_append]
      change messageStanzas s.2 ++ messageStanzas new = _
      rw [ih hbefore]
      cases hb : before with
      | nil =>
        subst hb
        cases hbefore
        rw [hconnecting trivial]
        rfl
      | cons first rest =>
        have hn : ¬ s.1.phase.IsConnecting := fun hp => by
          rw [WorkerRun.connecting hbefore hp] at hb
          cases hb
        rw [hsession hn]
        simp only [List.tail_cons,List.cons_append,List.filterMap_append,List.map_append]
        cases hh : input.handsOver <;> simp [hh]

section Sums

variable {α : Type} {f : α → ℕ} {l : List α} {i : ℕ} {a : α}

theorem sum_map_set (h : l[i]? = some a) (b : α) :
    ((l.set i b).map f).sum + f a = (l.map f).sum + f b := by
  induction l generalizing i with
  | nil => cases h
  | cons x xs ih =>
    cases i with
    | zero =>
      cases h
      simp only [List.set_cons_zero,List.map_cons,List.sum_cons]
      omega
    | succ i =>
      have h := ih h
      simp only [List.set_cons_succ,List.map_cons,List.sum_cons]
      omega

theorem sum_map_modify_le {g : α → α} {n : ℕ} (h : ∀ a, f (g a) ≤ f a + n) (l : List α) (i : ℕ) :
    ((l.modify i g).map f).sum ≤ (l.map f).sum + n := by
  induction l generalizing i with
  | nil => simp
  | cons x xs ih =>
    have hx := h x
    cases i with
    | zero =>
      simp only [List.modify_zero_cons,List.map_cons,List.sum_cons]
      omega
    | succ i =>
      have h := ih i
      simp only [List.modify_succ_cons,List.map_cons,List.sum_cons]
      omega

theorem flatMap_modify {β : Type} {f : α → List β} {g : α → α} (h : ∀ a, f (g a) = f a)
    (l : List α) (i : ℕ) : (l.modify i g).flatMap f = l.flatMap f := by
  induction l generalizing i with
  | nil => simp
  | cons x xs ih =>
    cases i with
    | zero => rw [List.modify_zero_cons,List.flatMap_cons,List.flatMap_cons,h]
    | succ i => rw [List.modify_succ_cons,List.flatMap_cons,List.flatMap_cons,ih]

end Sums

/-- Command numbers are handed out in order, and the first input of a worker
ends its connect phase. -/
structure Session.Numbered (next : ℕ) (s : Session) : Prop where
  fresh : s.worker.phase.IsConnecting → s.received = []
  below : ∀ command ∈ s.commands, command.call < next

theorem Session.Numbered.step {s s' : Session} {input : WorkerInput} {outputs : List WorkerOutput}
    {next : ℕ} (h : s.Numbered next) (hs : s.step input = some (s',outputs)) : s'.Numbered next := by
  obtain ⟨commands,worker,hc,hw,rfl⟩ := step_eq_some hs
  refine ⟨fun hp => ((Worker.step_kept hw).2.2 hp).elim,fun command hm => h.below command ?_⟩
  rw [receive_eq hc]
  exact List.mem_append_right _ hm

theorem Session.step_replies {s s' : Session} {input : WorkerInput} {outputs : List WorkerOutput}
    (hs : s.step input = some (s',outputs)) :
    ∀ r ∈ TokioXmppTransport.repliesOf outputs, input.command.map WorkerCommand.call = some r.1 := by
  obtain ⟨commands,worker,-,hw,rfl⟩ := step_eq_some hs
  intro r hr
  obtain ⟨command,hi,he⟩ := Worker.repliesOf_step hw r hr
  rw [hi,Option.map_some,he]

theorem Session.step_confirms {s s' : Session} {input : WorkerInput} {outputs : List WorkerOutput}
    {id : MessageId} {n : ℕ} (hs : s.step input = some (s',outputs))
    (hp : ¬ s.worker.phase.IsConnecting) (hi : input.confirms = some id)
    (hn : input.command.map WorkerCommand.call = some n) :
    TokioXmppTransport.repliesOf outputs = [(n,.ok ())] := by
  obtain ⟨commands,worker,-,hw,rfl⟩ := step_eq_some hs
  cases input with
  | send message call outcome =>
    cases outcome with
    | written =>
      cases hn
      rcases Worker.step_send hw with ⟨hc,-⟩ | ⟨-,-,rfl⟩
      · exact (hp hc).elim
      · exact Worker.repliesOf_send message call .written
    | _ => cases hi
  | _ => cases hi

namespace TokioXmppTransport

def handedOver (t : TokioXmppTransport) : List MessageId := t.sessions.flatMap Session.handedOver

def confirmed (t : TokioXmppTransport) : List MessageId := t.sessions.flatMap Session.confirmed

def FailedToSend (id : MessageId) (t : TokioXmppTransport) : Prop :=
  ∃ s ∈ t.sessions, s.FailedToSend id

def queued (n : ℕ) (t : TokioXmppTransport) : ℕ := (t.sessions.map (Session.queued n)).sum

structure Numbered (t : TokioXmppTransport) : Prop where
  sessions : ∀ i, t.At i (Session.Numbered t.nextCall)
  replies : ∀ r ∈ t.replies, r.1 < t.nextCall

/-- A session loop takes a `Send` of the message although the caller of that command
has given it up: `waiting` is the call that waits for the message, if one does. -/
def TakesGivenUp (id : MessageId) (waiting : Option ℕ) (t : TokioXmppTransport) (i : SessionId)
    (input : WorkerInput) : Prop :=
  (t.work i input).isSome ∧ input.handsOver = some id ∧
    ¬ t.At i (fun s => s.worker.phase.IsConnecting) ∧ input.command.map WorkerCommand.call ≠ waiting

/-- Of these actions of the workers none takes a `Send` that was given up. -/
def NoneGivenUp (id : MessageId) (waiting : Option ℕ) :
    List (SessionId × WorkerInput) → TokioXmppTransport → Prop
  | [], _ => True
  | (i,input) :: rest, t =>
    ¬ t.TakesGivenUp id waiting i input ∧ NoneGivenUp id waiting rest ((t.work i input).getD t)

def WaitsOutGivenUp (id : MessageId) (waiting : Option ℕ) (t : TokioXmppTransport) : Prop :=
  NoneGivenUp id waiting (t.waits.headD []) { t with waits := t.waits.tail }

variable {t t' u : TokioXmppTransport} {i j : SessionId} {input : WorkerInput} {id : MessageId} {n : ℕ}

theorem work_eq_some (h : t.work i input = some t') :
    ∃ s s' outputs, t.sessions[i]? = some s ∧ s.step input = some (s',outputs) ∧
      t' = { t with
        sessions := t.sessions.set i s'
        events := t.events ++ (emitted outputs).map (fun event => (i,event))
        replies := t.replies ++ repliesOf outputs } := by
  obtain ⟨s,hs,h⟩ := Option.bind_eq_some_iff.mp h
  obtain ⟨⟨s',outputs⟩,hst,rfl⟩ := Option.map_eq_some_iff.mp h
  exact ⟨s,s',outputs,hs,hst,rfl⟩

theorem Numbered.work (h : t.Numbered) (hw : t.work j input = some t') : t'.Numbered := by
  have hs : ∀ i, t'.At i (Session.Numbered t.nextCall) := fun i =>
    (h.sessions i).work (fun _ _ _ _ hn hst => hn.step hst) hw
  obtain ⟨s,s',outputs,hj,hst,rfl⟩ := work_eq_some hw
  refine ⟨hs,fun r hr => ?_⟩
  rcases List.mem_append.mp hr with hr | hr
  · exact h.replies r hr
  · obtain ⟨command,hi,he⟩ := Option.map_eq_some_iff.mp (Session.step_replies hst r hr)
    obtain ⟨commands,worker,hc,-,rfl⟩ := Session.step_eq_some hst
    rw [← he]
    refine (h.sessions j s hj).below command ?_
    rw [Session.receive_eq hc,hi]
    exact List.mem_cons_self

/-- A worker that takes no `Send` that was given up hands the message over only for
the call that waits for it. -/
theorem handsOver_waiting {s : Session} {waiting : Option ℕ}
    (hg : ¬ t.TakesGivenUp id waiting i input) (hw : t.work i input = some t')
    (hs : t.sessions[i]? = some s) (hp : ¬ s.worker.phase.IsConnecting)
    (hi : input.handsOver = some id) : input.command.map WorkerCommand.call = waiting := by
  by_contra hne
  exact hg ⟨by rw [hw]; rfl,hi,fun h => hp (h s hs),hne⟩

theorem count_handedOver (t : TokioXmppTransport) (id : MessageId) :
    t.handedOver.count id = (t.sessions.map (fun s => s.handedOver.count id)).sum := by
  rw [handedOver,List.count_flatMap]
  rfl

theorem mem_confirmed : id ∈ t.confirmed ↔ ∃ s ∈ t.sessions, id ∈ s.confirmed := List.mem_flatMap

theorem handedOver_of_confirmed (h : id ∈ t.confirmed) : id ∈ t.handedOver := by
  obtain ⟨s,hs,hc⟩ := mem_confirmed.mp h
  exact List.mem_flatMap.mpr ⟨s,hs,Session.handedOver_of_confirmed hc⟩

theorem confirmed_or_failedToSend (h : id ∈ t.handedOver) : id ∈ t.confirmed ∨ t.FailedToSend id := by
  obtain ⟨s,hs,hm⟩ := List.mem_flatMap.mp h
  exact (Session.confirmed_or_failedToSend hm).imp (fun hc => mem_confirmed.mpr ⟨s,hs,hc⟩)
    (fun hf => ⟨s,hs,hf⟩)

theorem confirmed_work (id : MessageId) (h : t.Numbered) (hw : t.work j input = some t')
    (hm : id ∈ t'.confirmed) :
    id ∈ t.confirmed ∨ ∃ s, t.sessions[j]? = some s ∧ ¬ s.worker.phase.IsConnecting ∧
      input.confirms = some id := by
  obtain ⟨s,s',outputs,hs,hst,rfl⟩ := work_eq_some hw
  obtain ⟨r,hr,hc⟩ := mem_confirmed.mp hm
  rcases List.mem_or_eq_of_mem_set hr with hr | rfl
  · exact .inl (mem_confirmed.mpr ⟨r,hr,hc⟩)
  · rcases Session.confirmed_step hst (h.sessions j s hs).fresh hc with hc | hc
    · exact .inl (mem_confirmed.mpr ⟨s,List.mem_of_getElem? hs,hc⟩)
    · exact .inr ⟨s,hs,hc⟩

/-- A worker hands over at most one message more, and that in its session loop. -/
theorem count_handedOver_work (id : MessageId) (h : t.Numbered) (hw : t.work j input = some t') :
    t'.handedOver.count id = t.handedOver.count id ∨
      ∃ s, t.sessions[j]? = some s ∧ ¬ s.worker.phase.IsConnecting ∧ input.handsOver = some id ∧
        t'.handedOver.count id = t.handedOver.count id + 1 := by
  obtain ⟨s,s',outputs,hs,hst,rfl⟩ := work_eq_some hw
  have hsum := sum_map_set (f := fun s => s.handedOver.count id) hs s'
  simp only [count_handedOver]
  rcases Session.handedOver_step hst (h.sessions j s hs).fresh with he | ⟨hp,he⟩
  · rw [he] at hsum
    left
    omega
  rw [he,List.count_append] at hsum
  by_cases hi : input.handsOver = some id
  · rw [hi,Option.toList_some,List.count_singleton_self] at hsum
    exact .inr ⟨s,hs,hp,hi,by omega⟩
  · have hz : input.handsOver.toList.count id = 0 := by
      rw [List.count_eq_zero,Option.mem_toList]
      exact hi
    left
    omega

theorem queued_work (hw : t.work j input = some t') (n : ℕ) :
    t.queued n = t'.queued n + if input.command.map WorkerCommand.call = some n then 1 else 0 := by
  obtain ⟨s,s',outputs,hs,hst,rfl⟩ := work_eq_some hw
  have hsum := sum_map_set (f := Session.queued n) hs s'
  have hq := Session.queued_step hst n
  simp only [queued]
  omega

theorem wait_heedful {I : TokioXmppTransport → Prop} {waiting : Option ℕ}
    (hw : ∀ t j input t', I t → ¬ t.TakesGivenUp id waiting j input → t.work j input = some t' → I t')
    (hg : t.WaitsOutGivenUp id waiting) (h : I { t with waits := t.waits.tail }) : I t.wait := by
  have run : ∀ (actions : List (SessionId × WorkerInput)) (t : TokioXmppTransport),
      NoneGivenUp id waiting actions t → I t →
      I (actions.foldl (fun t action => (t.work action.1 action.2).getD t) t) := by
    intro actions
    induction actions with
    | nil => exact fun _ _ h => h
    | cons action rest ih =>
      intro t hg h
      refine ih _ hg.2 ?_
      dsimp only
      cases hs : t.work action.1 action.2 with
      | none => exact h
      | some t' => exact hw t _ _ t' h hg.1 hs
  exact run _ _ hg h

/-- While the call number `n` waits for the message: its command is queued or has been
taken, only taking it hands the message over, and a confirmation is its answer. -/
structure InFlight (id : MessageId) (n : ℕ) (t : TokioXmppTransport) : Prop where
  numbered : t.Numbered
  once : t.handedOver.count id + t.queued n ≤ 1
  taken : t.replies.lookup n ≠ none → t.queued n = 0
  answered : id ∈ t.confirmed → t.replies.lookup n = some (.ok ())

theorem lookup_repliesOf {s s' : Session} {outputs : List WorkerOutput}
    (hst : s.step input = some (s',outputs)) (hn : input.command.map WorkerCommand.call ≠ some n) :
    (repliesOf outputs).lookup n = none := by
  rw [List.lookup_eq_none_iff]
  intro r hr
  simp only [bne_iff_ne,ne_eq]
  rintro rfl
  exact hn (Session.step_replies hst r hr)

theorem InFlight.work (h : InFlight id n t) (hg : ¬ t.TakesGivenUp id (some n) j input)
    (hw : t.work j input = some t') : InFlight id n t' := by
  have hq := queued_work hw n
  have hcount := count_handedOver_work id h.numbered hw
  have hconf := confirmed_work id h.numbered hw
  have hours := fun s => handsOver_waiting (s := s) hg hw
  obtain ⟨s,s',outputs,hs,hst,ht⟩ := work_eq_some hw
  have hreplies : t'.replies.lookup n = (t.replies.lookup n).or ((repliesOf outputs).lookup n) := by
    rw [ht,List.lookup_append]
  have honce := h.once
  refine ⟨h.numbered.work hw,?_,fun hl => ?_,fun hm => ?_⟩
  · rcases hcount with hc | ⟨r,hr,hp,hi,hc⟩
    · omega
    · rw [if_pos (hours r hr hp hi)] at hq
      omega
  · by_cases hn : input.command.map WorkerCommand.call = some n
    · rw [if_pos hn] at hq
      omega
    · rw [hreplies,lookup_repliesOf hst hn,Option.or_none] at hl
      have := h.taken hl
      omega
  · rcases hconf hm with hm | ⟨r,hr,hp,hi⟩
    · rw [hreplies,h.answered hm]
      rfl
    · have hn := hours r hr hp (WorkerInput.handsOver_of_confirms hi)
      obtain rfl := Option.some.inj (hr.symm.trans hs)
      rw [if_pos hn] at hq
      have hnone : t.replies.lookup n = none := by
        by_contra hl
        have := h.taken hl
        omega
      rw [hreplies,hnone,Session.step_confirms hst hp hi hn]
      simp

theorem InFlight.wait (h : InFlight id n t) (hg : t.WaitsOutGivenUp id (some n)) :
    InFlight id n t.wait :=
  wait_heedful (fun _ _ _ _ h hg hw => h.work hg hw) hg
    ⟨⟨h.numbered.sessions,h.numbered.replies⟩,h.once,h.taken,h.answered⟩

structure Spared (id : MessageId) (t u : TokioXmppTransport) : Prop where
  numbered : u.Numbered
  count : u.handedOver.count id ≤ t.handedOver.count id
  confirmed : id ∈ u.confirmed → id ∈ t.confirmed

namespace Spared

theorem refl (h : t.Numbered) : Spared id t t := ⟨h,le_rfl,fun h => h⟩

theorem of_eq (h : Spared id t u) (hs : t'.sessions = u.sessions) (hr : t'.replies = u.replies)
    (hn : t'.nextCall = u.nextCall) : Spared id t t' := by
  refine ⟨⟨fun i s hi => ?_,fun r hm => ?_⟩,?_,?_⟩
  · rw [hn]
    exact h.numbered.sessions i s (hs ▸ hi)
  · rw [hn]
    exact h.numbered.replies r (hr ▸ hm)
  · simpa only [handedOver,hs] using h.count
  · simpa only [TokioXmppTransport.confirmed,hs] using h.confirmed

theorem work (h : Spared id t u) (hg : ¬ u.TakesGivenUp id none j input)
    (hw : u.work j input = some t') : Spared id t t' := by
  have hnone : ∀ s, u.sessions[j]? = some s → ¬ s.worker.phase.IsConnecting →
      input.handsOver ≠ some id := by
    intro s hs hp hi
    obtain ⟨command,hc⟩ := Session.handsOver_command hi
    have h := handsOver_waiting hg hw hs hp hi
    rw [hc] at h
    cases h
  refine ⟨h.numbered.work hw,?_,fun hm => ?_⟩
  · rcases count_handedOver_work id h.numbered hw with hc | ⟨s,hs,hp,hi,-⟩
    · exact hc.trans_le h.count
    · exact (hnone s hs hp hi).elim
  · rcases confirmed_work id h.numbered hw hm with hm | ⟨s,hs,hp,hi⟩
    · exact h.confirmed hm
    · exact (hnone s hs hp (WorkerInput.handsOver_of_confirms hi)).elim

theorem wait (h : Spared id t u) (hg : u.WaitsOutGivenUp id none) : Spared id t u.wait :=
  wait_heedful (fun _ _ _ _ h hg hw => h.work hg hw) hg (h.of_eq rfl rfl rfl)

theorem modifySession {g : Session → Session} (h : Spared id t u)
    (hr : ∀ s, (g s).received = s.received)
    (hc : ∀ s, s.Numbered u.nextCall → (g s).Numbered u.nextCall) :
    Spared id t (u.modifySession i g) := by
  have hsame : ∀ {α : Type} (f : Session → List α), (∀ s, f (g s) = f s) →
      (u.modifySession i g).sessions.flatMap f = u.sessions.flatMap f := by
    intro α f hf
    exact flatMap_modify hf u.sessions i
  refine ⟨⟨fun j => At.modifySession (h.numbered.sessions j) (fun _ s _ hs => hc s hs),
    h.numbered.replies⟩,?_,?_⟩
  · rw [handedOver,hsame Session.handedOver (fun s => by rw [Session.handedOver,hr]; rfl)]
    exact h.count
  · rw [TokioXmppTransport.confirmed,
      hsame Session.confirmed (fun s => by rw [Session.confirmed,hr]; rfl)]
    exact h.confirmed

theorem dropHandle (h : Spared id t u) : Spared id t (u.dropHandle i) :=
  h.modifySession (fun _ => rfl) (fun _ hs => ⟨hs.fresh,hs.below⟩)

theorem sendCommand (h : Spared id t u) {command : WorkerCommand} (hc : command.call = u.nextCall) :
    Spared id t (u.sendCommand i command) := by
  unfold TokioXmppTransport.sendCommand
  split
  · exact h
  have hlift : Spared id t { u with nextCall := u.nextCall + 1 } :=
    ⟨⟨fun j s hs => ⟨(h.numbered.sessions j s hs).fresh,fun command hm =>
      Nat.lt_succ_of_lt ((h.numbered.sessions j s hs).below command hm)⟩,
      fun r hr => Nat.lt_succ_of_lt (h.numbered.replies r hr)⟩,h.count,h.confirmed⟩
  refine hlift.modifySession (g := fun s => { s with commands := s.commands ++ [command] })
    (fun _ => rfl) (fun s hs => ⟨hs.fresh,fun other hm => ?_⟩)
  rcases List.mem_append.mp hm with hm | hm
  · exact hs.below other hm
  · rw [List.mem_singleton.mp hm,hc]
    exact Nat.lt_succ_self _

theorem connect (h : Spared id t u) (request : ConnectionRequest) :
    Spared id t (u.connect request).2 := by
  have hs := fun i => (h.numbered.sessions i).connect request
    ⟨fun _ => rfl,fun _ hm => by cases hm⟩
  unfold TokioXmppTransport.connect at hs ⊢
  by_cases hw : (u.workers.lookup request.accountId).isSome = true
  · rw [if_pos hw]
    exact h
  rw [if_neg hw] at hs ⊢
  cases hp : u.prepared with
  | error e => exact h
  | ok _ =>
    rw [hp] at hs
    refine ⟨⟨hs,h.numbered.replies⟩,?_,?_⟩
    · rw [handedOver,List.flatMap_append,List.count_append]
      exact h.count
    · rw [TokioXmppTransport.confirmed,List.flatMap_append,List.mem_append]
      exact fun hm => h.confirmed (hm.resolve_right List.not_mem_nil)

theorem nextEvent (h : Spared id t u) : Spared id t u.nextEvent.2 := by
  unfold TokioXmppTransport.nextEvent
  cases u.events with
  | nil => exact h
  | cons head rest =>
    obtain ⟨sender,event⟩ := head
    cases event with
    | disconnected accountId recoverable detail kind =>
      dsimp only [retireWorker]
      cases u.workers.lookup accountId with
      | none => exact h.of_eq rfl rfl rfl
      | some i =>
        exact dropHandle (u := { u with events := rest, workers := u.workers.erase accountId })
          (h.of_eq rfl rfl rfl)
    | _ => exact h.of_eq rfl rfl rfl

theorem drop (h : Spared id t u) : Spared id t u.drop := by
  have run : ∀ (handles : List SessionId) (u : TokioXmppTransport), Spared id t u → Spared id t
      (handles.foldl (fun t j => (t.sendCommand j (.disconnect t.nextCall)).dropHandle j) u) := by
    intro handles
    induction handles with
    | nil => exact fun _ h => h
    | cons j rest ih => exact fun u h => ih _ (h.sendCommand rfl).dropHandle
  exact run _ _ (h.of_eq rfl rfl rfl)

end Spared

/-- In the wait of a disconnect no session loop takes a `Send` that was given up. -/
def DisconnectHeeds (id : MessageId) (accountId : AccountId) (t : TokioXmppTransport) : Prop :=
  ∀ i, t.workers.lookup accountId = some i → t.hasReturned i = false →
    ({ t with workers := t.workers.erase accountId }.sendCommand i
      (.disconnect t.nextCall)).WaitsOutGivenUp id none

/-- A send that reaches a running worker is not of a message a client has failed, and in
its wait no session loop takes a `Send` that was given up. -/
def SendHeeds (id : MessageId) (message : OutgoingMessage) (t : TokioXmppTransport) : Prop :=
  ∀ i, t.workers.lookup message.accountId = some i → t.hasReturned i = false →
    (message.messageId = id → ¬ t.FailedToSend id) ∧
    (t.sendCommand i (.send message t.nextCall)).WaitsOutGivenUp id
      (if message.messageId = id then some t.nextCall else none)

theorem Spared.disconnect (h : Spared id t u) {accountId : AccountId}
    (hd : u.DisconnectHeeds id accountId) : Spared id t (u.disconnect accountId).2 := by
  unfold TokioXmppTransport.disconnect
  cases hw : u.workers.lookup accountId with
  | none => exact h
  | some i =>
    have hr : Spared id t { u with workers := u.workers.erase accountId } := h.of_eq rfl rfl rfl
    dsimp only
    split
    · exact hr.dropHandle
    · rename_i hret
      exact ((hr.sendCommand rfl).wait (hd i hw (Bool.eq_false_iff.mpr hret))).dropHandle

theorem Spared.send (h : Spared id t u) {message : OutgoingMessage} (hm : message.messageId ≠ id)
    (hs : u.SendHeeds id message) : Spared id t (u.send message).2 := by
  unfold TokioXmppTransport.send
  cases hw : u.workers.lookup message.accountId with
  | none => exact h
  | some i =>
    dsimp only
    split
    · exact h
    · rename_i hret
      have hg := (hs i hw (Bool.eq_false_iff.mpr hret)).2
      rw [if_neg hm] at hg
      exact (h.sendCommand rfl).wait hg

theorem Numbered.inFlight (h : t.Numbered) (hz : id ∉ t.handedOver) (hr : t.hasReturned i = false)
    (message : OutgoingMessage) :
    InFlight id t.nextCall (t.sendCommand i (.send message t.nextCall)) := by
  have hsp : Spared id t (t.sendCommand i (.send message t.nextCall)) :=
    (Spared.refl h).sendCommand rfl
  have hcount := hsp.count.trans_eq (List.count_eq_zero.mpr hz)
  have hconf : id ∉ (t.sendCommand i (.send message t.nextCall)).confirmed :=
    fun hm => hz (handedOver_of_confirmed (hsp.confirmed hm))
  have hnone : t.replies.lookup t.nextCall = none := by
    rw [List.lookup_eq_none_iff]
    intro r hm
    simpa using (h.replies r hm).ne'
  have hnumbered := hsp.numbered
  unfold sendCommand at hcount hconf hnumbered ⊢
  rw [if_neg (by simp [hr])] at hcount hconf hnumbered ⊢
  have hq : t.queued t.nextCall = 0 := by
    refine List.sum_eq_zero (fun q hm => ?_)
    obtain ⟨s,hs,rfl⟩ := List.mem_map.mp hm
    obtain ⟨j,hj⟩ := List.mem_iff_getElem?.mp hs
    refine List.countP_eq_zero.mpr (fun command hc => ?_)
    simpa using ((h.sessions j s hj).below command hc).ne
  refine ⟨hnumbered,?_,fun hl => (hl hnone).elim,fun hm => (hconf hm).elim⟩
  have hle : ∀ s : Session, Session.queued t.nextCall
      { s with commands := s.commands ++ [.send message t.nextCall] } ≤
      s.queued t.nextCall + 1 := by
    intro s
    simp [Session.queued,List.countP_append,WorkerCommand.call]
  exact Nat.add_le_add hcount ((sum_map_modify_le hle t.sessions i).trans (Nat.add_le_add_right hq.le 1))

theorem Numbered.send (h : t.Numbered) {message : OutgoingMessage} (hm : message.messageId = id)
    (hc : id ∉ t.confirmed) (hs : t.SendHeeds id message) (ho : t.handedOver.count id ≤ 1) :
    (t.send message).2.Numbered ∧ (t.send message).2.handedOver.count id ≤ 1 ∧
      (id ∈ (t.send message).2.confirmed → (t.send message).1 = .ok ()) := by
  unfold TokioXmppTransport.send
  cases hw : t.workers.lookup message.accountId with
  | none => exact ⟨h,ho,fun hm => (hc hm).elim⟩
  | some i =>
    dsimp only
    split
    · exact ⟨h,ho,fun hm => (hc hm).elim⟩
    · rename_i hret
      have hret := Bool.eq_false_iff.mpr hret
      obtain ⟨hfailed,hg⟩ := hs i hw hret
      have hz : id ∉ t.handedOver := fun hx =>
        (confirmed_or_failedToSend hx).elim hc (hfailed hm)
      rw [if_pos hm] at hg
      have hf := (h.inFlight hz hret message).wait hg
      refine ⟨hf.numbered,(Nat.le_add_right _ _).trans hf.once,fun hx => ?_⟩
      unfold response
      rw [hf.answered hx]

end TokioXmppTransport

/-- The message has been sent and waits in no outbox. -/
def MindChatCore.Settled (c : MindChatCore) (id : MessageId) : Prop :=
  id < MindChatCore.allocated c.nextMessageId ∧ ∀ accountId, ¬ c.Unsent accountId id

theorem Edited.allocated_le {cond : MindChatCore → Edit → Prop} {c d : MindChatCore}
    (h : Edited True cond c d) :
    MindChatCore.allocated c.nextMessageId ≤ MindChatCore.allocated d.nextMessageId := by
  refine h.preorder (I := fun _ => True)
    (R := fun c d => MindChatCore.allocated c.nextMessageId ≤ MindChatCore.allocated d.nextMessageId)
    (fun _ => le_rfl) (fun _ _ _ h j => h.trans j) (fun _ _ _ _ _ => trivial) ?_ trivial
  intro c edit _ _ hl
  rcases Edit.newId_cases hl .message with ⟨-,h⟩ | ⟨-,h⟩
  · exact (Nat.le_succ _).trans h.ge
  · exact (congrArg MindChatCore.allocated h).ge

/-- Integrity is kept, the counter does not fall, and no outbox is filled. -/
structure Undisturbed (c d : MindChatCore) : Prop where
  integrity : Integrity d
  drained : Drained c d
  allocated : MindChatCore.allocated c.nextMessageId ≤ MindChatCore.allocated d.nextMessageId

theorem MindChatCore.Settled.undisturbed {c d : MindChatCore} {id : MessageId} (h : c.Settled id)
    (hu : Undisturbed c d) : d.Settled id :=
  ⟨h.1.trans_le hu.allocated,fun accountId hd => h.2 accountId (hu.drained accountId id hd)⟩

namespace Undisturbed

open MindChatCore

variable {c d e : MindChatCore}

theorem refl (hi : Integrity c) : Undisturbed c c := ⟨hi,.refl c,le_rfl⟩

theorem trans (h : Undisturbed c d) (j : Undisturbed d e) : Undisturbed c e :=
  ⟨j.integrity,h.drained.trans j.drained,h.allocated.trans j.allocated⟩

theorem of_edited (hi : Integrity c) {cond : MindChatCore → Edit → Prop} (h : Edited True cond c d)
    (hd : Drained c d) : Undisturbed c d :=
  ⟨hi.edited h,hd,h.allocated_le⟩

theorem setConnectionState (hi : Integrity c) (accountId : AccountId) (state : ConnectionState) :
    Undisturbed c (c.setConnectionState accountId state).2 :=
  .of_edited hi setConnectionState_any (.setConnectionState c accountId state)

theorem event (hi : Integrity c) (hf : c.CountersBelowMax) (event : TransportEvent) :
    Undisturbed c (c.applyTransportEvent event).2 :=
  .of_edited hi (applyTransportEvent_edited hi.toKeyed hf event) (.event hi hf event)

theorem setDeliveryState (hi : Integrity c) {id : MessageId} (hw : Waiting c id)
    (state : DeliveryState) : Undisturbed c (c.setDeliveryState id state).2 :=
  .of_edited hi setDeliveryState_any (.setDeliveryState hw state)

theorem deleteAccount (hi : Integrity c) (accountId : AccountId) :
    Undisturbed c (c.deleteAccount accountId).2 :=
  .of_edited hi (deleteAccount_any hi.conversationKey) (.deleteAccount hi.toKeyed accountId)

end Undisturbed

/-- A new text takes a new id, so it brings back no message. -/
theorem MindChatCore.Settled.sendText {c : MindChatCore} {id : MessageId} (h : c.Settled id)
    (hf : c.nextMessageId < u64Max) (conversationId : ConversationId) (sender body : String)
    (inReplyTo : Option MessageId) (now : ℕ) :
    (c.sendText conversationId sender body inReplyTo now).2.Settled id := by
  have he : Edited True AnyEdit c (c.sendText conversationId sender body inReplyTo now).2 :=
    sendText_edited (fun _ => hf) (fun _ => trivial) (fun _ _ _ => trivial) (fun _ _ => trivial)
  refine ⟨h.1.trans_le he.allocated_le,fun accountId hu => ?_⟩
  rcases unsent_sendText c conversationId sender body inReplyTo now hu with hu | rfl
  · exact h.2 accountId hu
  · exact h.1.false

def SendsHeed (id : MessageId) (elapsed : ℕ → ℕ) :
    List OutgoingMessage → ℕ → TokioXmppTransport → Prop
  | [], _, _ => True
  | message :: rest, sentCount, t =>
    elapsed sentCount < flushSendTimeoutMs →
      t.SendHeeds id message ∧
      ((t.send message).1 = .ok () → SendsHeed id elapsed rest (sentCount + 1) (t.send message).2)

/-- The step heeds what was given up: no session loop takes a `Send` of the message that
its caller has given up, and no flush sends the message to a running worker after a
client has failed it. -/
def HeedsGivenUp (id : MessageId) (k : System) : SystemOp → Prop
  | .worker session input => ¬ k.transport.TakesGivenUp id none session input
  | .disconnect accountId meanwhile => (k.waiting [meanwhile]).transport.DisconnectHeeds id accountId
  | .deleteAccount accountId meanwhile => (k.core.accounts.lookup accountId).isSome →
    (k.waiting [meanwhile]).transport.DisconnectHeeds id accountId
  | .flushOutbox accountId elapsed meanwhile =>
    ∀ pending, k.core.pendingOutgoingMessages accountId = .ok pending →
      SendsHeed id elapsed (pending.take flushOutboxMaxBatch) 0 (k.waiting meanwhile).transport
  | _ => True

/-- The message is handed over at most once, and once confirmed it is in no outbox. -/
structure Guarded (id : MessageId) (k : System) : Prop where
  integrity : Integrity k.core
  numbered : k.transport.Numbered
  once : k.transport.handedOver.count id ≤ 1
  settled : id ∈ k.transport.confirmed → k.core.Settled id

namespace Guarded

open MindChatCore TransportCoordinator

variable {id : MessageId} {k l : System}

/-- The core goes on undisturbed while the transport hands the message over no further. -/
theorem undisturbed (h : Guarded id k) (hc : Undisturbed k.core l.core)
    (ht : TokioXmppTransport.Spared id k.transport l.transport) : Guarded id l :=
  ⟨hc.integrity,ht.numbered,ht.count.trans h.once,fun hm => (h.settled (ht.confirmed hm)).undisturbed hc⟩

theorem send (h : Guarded id k) {message : OutgoingMessage}
    (hb : id ∈ k.transport.confirmed → message.messageId ≠ id)
    (hs : k.transport.SendHeeds id message) :
    (k.transport.send message).2.Numbered ∧ (k.transport.send message).2.handedOver.count id ≤ 1 ∧
      (id ∈ (k.transport.send message).2.confirmed → id ∈ k.transport.confirmed ∨
        (message.messageId = id ∧ (k.transport.send message).1 = .ok ())) := by
  by_cases hm : message.messageId = id
  · obtain ⟨hn,ho,hc⟩ := h.numbered.send hm (fun hx => hb hx hm) hs h.once
    exact ⟨hn,ho,fun hx => .inr ⟨hm,hc hx⟩⟩
  · have ht := (TokioXmppTransport.Spared.refl h.numbered).send hm hs
    exact ⟨ht.numbered,ht.count.trans h.once,fun hx => .inl (ht.confirmed hx)⟩

theorem flushBatch (elapsed : ℕ → ℕ) (batch : List OutgoingMessage) (sentCount : ℕ) (k : System)
    (h : Guarded id k) (hb : id ∈ k.transport.confirmed → ∀ o ∈ batch, o.messageId ≠ id)
    (hn : (batch.map OutgoingMessage.messageId).Nodup)
    (hw : ∀ o ∈ batch, Waiting k.core o.messageId)
    (hs : ∀ o ∈ batch, (k.core.messages.lookup o.messageId).isSome)
    (ha : SendsHeed id elapsed batch sentCount k.transport) :
    Guarded id (TransportCoordinator.flushBatch elapsed batch sentCount k).2 := by
  induction batch generalizing sentCount k with
  | nil => exact h
  | cons message rest ih =>
    by_cases hbudget : flushSendTimeoutMs ≤ elapsed sentCount
    · rw [flushBatch_late hbudget]
      exact h
    have hbudget := not_le.mp hbudget
    obtain ⟨hheeds,hrest⟩ := ha hbudget
    rw [List.map_cons,List.nodup_cons] at hn
    have hne : ∀ o ∈ rest, o.messageId ≠ message.messageId :=
      fun o ho he => hn.1 (List.mem_map.mpr ⟨o,ho,he⟩)
    have hstored := hs message List.mem_cons_self
    have hc := fun state => Undisturbed.setDeliveryState h.integrity (hw message List.mem_cons_self) state
    have hsend := h.send (fun hx => hb hx message List.mem_cons_self) hheeds
    cases hr : XmppTransport.send k.transport message with
    | mk r t =>
      rw [show k.transport.send message = (r,t) from hr] at hsend hrest
      obtain ⟨hnumbered,honce,hsettled⟩ := hsend
      cases r with
      | error e =>
        rw [flushBatch_refused hbudget hstored hr]
        refine ⟨(hc .failed).integrity,hnumbered,honce,fun hx => ?_⟩
        rcases hsettled hx with hx | ⟨-,hok⟩
        · exact (h.settled hx).undisturbed (hc .failed)
        · cases hok
      | ok u =>
        have hd := hc .sent
        rw [flushBatch_accepted hbudget hstored hr]
        refine ih (sentCount + 1) _ ⟨hd.integrity,hnumbered,honce,fun hx => ?_⟩ (fun hx o ho => ?_) hn.2
          (fun o ho => (hw o (List.mem_cons_of_mem _ ho)).of_ne .sent (hne o ho)) (fun o ho => ?_)
          (hrest rfl)
        · rcases hsettled hx with hx | ⟨rfl,-⟩
          · exact (h.settled hx).undisturbed hd
          · exact ⟨(h.integrity.messageBelow _ hstored).trans_le hd.allocated,
              fun a => not_unsent_setDeliveryState a hstored⟩
        · rcases hsettled hx with hx | ⟨rfl,-⟩
          · exact hb hx o (List.mem_cons_of_mem _ ho)
          · exact hne o ho
        · exact (isSome_messages_setDeliveryState k.core message.messageId o.messageId .sent).trans
            (hs o (List.mem_cons_of_mem _ ho))

theorem flushOutbox (elapsed : ℕ → ℕ) (accountId : AccountId) (h : Guarded id k)
    (ha : ∀ pending, k.core.pendingOutgoingMessages accountId = .ok pending →
      SendsHeed id elapsed (pending.take flushOutboxMaxBatch) 0 k.transport) :
    Guarded id (TransportCoordinator.flushOutbox elapsed k accountId).2 := by
  unfold TransportCoordinator.flushOutbox
  cases hp : k.core.pendingOutgoingMessages accountId with
  | error e => exact h
  | ok pending =>
    have hk := h.integrity.toKeyed
    obtain ⟨hn,hw⟩ := pendingOutgoingMessages_spec hk hp
    have htake := List.take_sublist flushOutboxMaxBatch pending
    have hu : ∀ o ∈ pending, k.core.Unsent accountId o.messageId := fun o ho =>
      (mem_pendingOutgoingMessages hk hp o.messageId).mp ⟨o,ho,rfl⟩
    refine h.flushBatch elapsed _ 0 k (fun hx o ho he => ?_) (hn.sublist (htake.map _))
      (fun o ho => hw o (htake.subset ho)) (fun o ho => ?_) (ha pending hp)
    · exact (h.settled hx).2 accountId (he ▸ hu o (htake.subset ho))
    · obtain ⟨m,-,hm,-⟩ := hu o (htake.subset ho)
      simp [hm]

/-- A step that heeds what was given up keeps the guard. -/
theorem step {op : SystemOp} (h : Guarded id k) (hf : k.core.CountersBelowMax)
    (hc : HeedsGivenUp id k op) (hs : k.step op = some l) : Guarded id l := by
  have hi := h.integrity
  have same : TokioXmppTransport.Spared id k.transport k.transport := .refl h.numbered
  cases op with
  | connect accountId password proxy proxyPassword prepared =>
    cases hs
    refine h.undisturbed ?_ ?_
    · exact core_connectWithProxy (k := k.preparing prepared)
        (R := fun c d => Integrity c → Undisturbed c d) (fun _ hi => .refl hi)
        (fun _ _ _ h j hi => (h hi).trans (j (h hi).integrity))
        (fun c state _ hi => .setConnectionState hi accountId state) password proxy proxyPassword hi
    · exact transport_connectWithProxy (k := k.preparing prepared)
        (P := TokioXmppTransport.Spared id k.transport)
        (fun _ request _ h => h.connect request) (same.of_eq rfl rfl rfl) _ _ _
  | disconnect accountId meanwhile =>
    cases hs
    unfold System.disconnectCall
    refine h.undisturbed ?_ ?_
    · exact core_disconnect (k := k.waiting [meanwhile])
        (R := fun c d => Integrity c → Undisturbed c d) (fun _ hi => .refl hi)
        (fun hi => .event hi hf _) hi
    · rw [transport_disconnect]
      exact TokioXmppTransport.Spared.disconnect (u := (k.waiting [meanwhile]).transport)
        (same.of_eq rfl rfl rfl) hc
  | deleteAccount accountId meanwhile =>
    cases hs
    unfold System.deleteAccount
    split
    · exact h.undisturbed (.refl hi) (same.of_eq rfl rfl rfl)
    · rename_i hknown
      refine h.undisturbed (.deleteAccount hi accountId) ?_
      have hwaiting : TokioXmppTransport.Spared id k.transport (k.waiting [meanwhile]).transport :=
        same.of_eq rfl rfl rfl
      dsimp only
      split
      · exact hwaiting.disconnect (hc (by simpa [System.waiting,Option.isSome_iff_ne_none] using hknown))
      · exact hwaiting
  | sendText conversationId sender body inReplyTo now =>
    cases hs
    have he : Edited True AnyEdit k.core
        (k.core.sendText conversationId sender body inReplyTo now).2 :=
      sendText_edited (fun _ => hf.2.2.1) (fun _ => trivial) (fun _ _ _ => trivial) (fun _ _ => trivial)
    exact ⟨hi.edited he,h.numbered,h.once,fun hx => (h.settled hx).sendText hf.2.2.1 ..⟩
  | flushOutbox accountId elapsed meanwhile =>
    cases hs
    have hw : TokioXmppTransport.Spared id k.transport (k.waiting meanwhile).transport :=
      same.of_eq rfl rfl rfl
    exact (h.undisturbed (l := k.waiting meanwhile) (.refl hi) hw).flushOutbox elapsed accountId hc
  | pollNextEvent =>
    cases hs
    refine h.undisturbed ?_ ?_
    · exact core_pollNextEvent (R := fun c d => Integrity c → Undisturbed c d)
        (fun _ hi => .refl hi) (fun event hi => .event hi hf event) hi
    · rw [transport_pollNextEvent]
      exact same.nextEvent
  | drop =>
    cases hs
    exact h.undisturbed (.refl hi) same.drop
  | worker session input =>
    obtain ⟨t,ht,rfl⟩ := Option.map_eq_some_iff.mp hs
    exact h.undisturbed (.refl hi) (same.work hc ht)

theorem not_failed (h : Guarded id k) (hm : id ∈ k.transport.confirmed) {m : Message}
    (hl : k.core.messages.lookup id = some m) (ho : m.direction = .outgoing) :
    m.deliveryState ≠ .failed := by
  intro hf
  obtain ⟨v,hv⟩ := Option.isSome_iff_exists.mp (h.integrity.messageConversation id m hl)
  exact (h.settled hm).2 v.accountId ⟨m,v,hl,ho,.inr hf,hv,rfl⟩

end Guarded

/-- In every run whose steps heed what was given up, a message is handed to the client
at most once, and while it is reported failed no client has confirmed it. -/
theorem handed_over_once {core : MindChatCore} (hc : Reachable core) (id : MessageId)
    {ops : List SystemOp} {k : System}
    (h : SystemRun (fun k op => k.core.CountersBelowMax ∧ HeedsGivenUp id k op) ⟨core,.new⟩ ops k) :
    k.transport.handedOver.count id ≤ 1 ∧
      ∀ m, k.core.messages.lookup id = some m → m.direction = .outgoing →
        m.deliveryState = .failed → id ∉ k.transport.confirmed := by
  have hg : Guarded id k := h.invariant
    (fun _ _ _ hg hs => hg.step hs.1.1 hs.1.2 hs.2)
    ⟨hc.integrity,⟨fun _ _ hs => (by cases hs),fun _ hr => (by cases hr)⟩,Nat.zero_le _,
      fun hx => (by cases hx)⟩
  exact ⟨hg.once,fun m hl ho hf hm => hg.not_failed hm hl ho hf⟩

def helloBob : OutgoingMessage := ⟨1,1,1,.direct,"bob@host","hello",none⟩

def adaWriting : List SystemOp :=
  [.connect 1 "secret" none none (.ok ()),.worker 0 (.connectReady none ⟨0,0,0⟩),
    .sendText 1 "ada@host" "hello" none 1]

def bobWaits : System := ⟨chatWith "bob@host",.new⟩

def adaWrote : System := (Transition.exec System.step bobWaits adaWriting).getD bobWaits

/-- The flush gives the text up before a worker takes the command. -/
def lateFlush : SystemOp := .flushOutbox 1 (fun _ => 0) [[]]

def adaGaveUp : System := (adaWrote.step lateFlush).getD adaWrote

/-- The worker loses its stream with the command in its queue, and Ada connects again. -/
def adaReconnects : List SystemOp :=
  [.worker 0 .clientEnd,.pollNextEvent,.connect 1 "secret" none none (.ok ()),
    .worker 1 (.connectReady none ⟨0,0,0⟩)]

def adaReconnected : System := (Transition.exec System.step adaGaveUp adaReconnects).getD adaGaveUp

/-- The new worker's client writes the text while the flush waits. -/
def promptFlush : SystemOp := .flushOutbox 1 (fun _ => 0) [[(1,.send helloBob 1 .written)]]

def adaSent : System := (adaReconnected.step promptFlush).getD adaReconnected

theorem lateFlush_heeds : HeedsGivenUp 1 adaWrote lateFlush := by
  intro pending hp
  cases hp
  refine fun _ => ⟨fun i hw _ => ?_,fun h => by cases h⟩
  cases hw
  refine ⟨fun _ hf => ?_,trivial⟩
  obtain ⟨s,hs,input,hm,-⟩ := hf
  cases List.mem_singleton.mp hs
  cases hm

theorem promptFlush_heeds : HeedsGivenUp 1 adaReconnected promptFlush := by
  intro pending hp
  cases hp
  refine fun _ => ⟨fun i hw _ => ?_,fun _ => trivial⟩
  cases hw
  refine ⟨fun _ hf => ?_,fun hg => hg.2.2.2 rfl,trivial⟩
  obtain ⟨s,hs,input,hm,hi,-⟩ := hf
  rcases List.mem_cons.mp hs with rfl | hs
  · cases List.mem_singleton.mp hm
    cases hi
  · cases List.mem_singleton.mp hs
    cases hm

theorem chatWith_bob_reachable : Reachable (chatWith "bob@host") :=
  ⟨[.op (.addAccount demoSetup),.op (.openConversation 1 .direct "bob@host" "" 0)],rfl⟩

/-- A text that was given up in one session is handed over once, in the next. -/
theorem handed_over_once_reconnected : adaSent.transport.handedOver = [1] ∧
    adaSent.transport.handedOver.count 1 ≤ 1 := by
  have h : SystemRun (fun k op => k.core.CountersBelowMax ∧ HeedsGivenUp 1 k op) bobWaits
      (adaWriting ++ lateFlush :: adaReconnects ++ [promptFlush]) adaSent :=
    .cons ⟨⟨by decide,trivial⟩,rfl⟩ (.cons ⟨⟨by decide,fun h => by cases h.2.1⟩,rfl⟩
      (.cons ⟨⟨by decide,trivial⟩,rfl⟩ (.cons ⟨⟨by decide,lateFlush_heeds⟩,rfl⟩
      (.cons ⟨⟨by decide,fun h => by cases h.2.1⟩,rfl⟩ (.cons ⟨⟨by decide,trivial⟩,rfl⟩
      (.cons ⟨⟨by decide,trivial⟩,rfl⟩ (.cons ⟨⟨by decide,fun h => by cases h.2.1⟩,rfl⟩
      (.single ⟨⟨by decide,promptFlush_heeds⟩,rfl⟩))))))))
  exact ⟨by decide,(handed_over_once chatWith_bob_reachable 1 h).1⟩

/-- The worker takes the command that was given up. -/
def lateSend : SystemOp := .worker 0 (.send helloBob 0 .written)

def adaTransmits : System := (adaGaveUp.step lateSend).getD adaGaveUp

/-- The text counts as failed, so the next flush hands it over again. -/
def secondFlush : SystemOp := .flushOutbox 1 (fun _ => 0) [[(0,.send helloBob 1 .written)]]

def adaSentTwice : System := (adaTransmits.step secondFlush).getD adaTransmits

theorem given_up_send_transmits :
    Transition.exec System.step bobWaits (adaWriting ++ [lateFlush,lateSend]) = some adaTransmits ∧
      (adaTransmits.core.messages.lookup 1).map Message.deliveryState = some .failed ∧
      1 ∈ adaTransmits.transport.confirmed ∧ adaTransmits.step secondFlush = some adaSentTwice ∧
      ¬ adaSentTwice.transport.handedOver.count 1 ≤ 1 :=
  ⟨rfl,by decide,by decide,rfl,by decide⟩

/-- A text that the client failed is handed over again as well. -/
example : (adaWrote.step (.flushOutbox 1 (fun _ => 0)
    [[(0,.send helloBob 0 (.failed "stream closed"))]])).bind (fun k =>
      (k.step secondFlush).map (fun k => k.transport.handedOver)) = some [1,1] := by decide

end MindChat
