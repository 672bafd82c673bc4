import MindChat.StreamAlive
import MindChat.StreamPeer

/-! What holds in every state that the worker and an honest peer can get into: stanzas
are handled at most once and those of a stream in their order, and none is lost while the
session lasts. -/

namespace MindChat.StanzaStream

open Polling SerialNumber ReliableLink

variable {ε : Type} {lib : Library ε} {lossy : Prop}

namespace System

variable {s s' : System ε} {action : Action ε}

theorem stopping_start (ctr : BitVec 64) : (start ctr : System ε).Stopping := nofun

theorem stopping_handle {event : Option (WorkerEvent ε)} {worker : StanzaStreamWorker ε}
    (hrun : s.worker.phase = .running) (hend : WorkerStream.Ended event s.worker.stream)
    (h : s.worker.handle lib event = some worker) : Stopping { s with worker := worker } := by
  intro e he
  match event with
  | none => cases h; cases he
  | some (.fatal error) => cases h; exact hend.fatal error rfl
  | some (.reset boundJid features) => cases h; cases he
  | some .disconnected => cases h; cases he
  | some .resumed => cases h; cases he
  | some (.stanza stanza) => cases h; cases he
  | some (.parseError e) => cases h; cases hrun.symm.trans he
  | some .reconnectAborted => cases h
  | some .softTimeout =>
    unfold StanzaStreamWorker.handle at h
    dsimp only at h
    split at h
    · cases h; cases hrun.symm.trans he
    · cases h; cases hrun.symm.trans he

theorem stopping_step (hs : s.Stopping) (h : s.step lib action = .moved s') : s'.Stopping := by
  cases step_cases h with
  | submit => exact hs
  | closeQueue => exact hs
  | closeFrontend => exact hs
  | poll hrun hstray h =>
    rcases poll_cases h with ⟨t,stream,io,hp,-,rfl⟩ | ⟨event,stream,io,worker,hp,hw,rfl⟩
    · exact fun e he => by cases hrun.symm.trans he
    · exact stopping_handle (s := s.put stream io) hrun (WorkerStream.pollDuplex_ended hp) hw
  | drive hphase hw =>
    intro e he
    rw [hs e he] at hw
    cases hw
    rfl
  | @accept event after hphase =>
    intro e he
    cases after with
    | again => cases he
    | stop => cases he
    | reconnect =>
      have he' : (s.worker.resume s.frontendClosed .reconnect).phase = .sending e .stop := he
      rcases StanzaStreamWorker.resume_reconnect_cases s.worker s.frontendClosed
        with ⟨hw,-⟩ | ⟨stream',hw,-⟩
      · rw [hw] at he'
        cases he'
      · rw [hw] at he'
        cases he'
  | giveUp => exact fun e he => by cases he
  | requestReconnect =>
    unfold StanzaStreamWorker.reconnectRequested
    split
    · exact fun e he => by cases he
    · exact hs
  | connect hrun => exact fun e he => by cases hrun.symm.trans he
  | connectFails hrun => exact fun e he => by cases hrun.symm.trans he
  | connectorDrops hrun => exact fun e he => by cases hrun.symm.trans he
  | peer => exact hs

/-- What holds in every state after `names` were handed in, with what may be lost. -/
structure Invariant (lib : Library ε) (lossy : Prop) (names : List (Stanza ε)) (s : System ε)
    (lost : List (QueueEntry ε)) (later : List (Item ε)) : Prop where
  stopping : s.Stopping
  sound : s.peer.Sound
  together : Together lossy s.client s.peer lost later
  orderly : (pipeline s.client s.peer lost).Orderly
  named : (pipeline s.client s.peer lost).Named names
  complete : ¬ lossy → (pipeline s.client s.peer lost).Complete
  justified : ¬ lossy → (pipeline s.client s.peer lost).Justified lib names
  alive : ¬ lossy → s.Alive
  inOrder : (s.inbox ++ stanzasOf later).Sublist (stanzasOf s.peer.sentAll)

theorem invariant_start (ctr : BitVec 64) : Invariant lib lossy [] (start ctr) [] [] where
  stopping := stopping_start ctr
  sound := Peer.sound_start
  together := .away (.inr rfl)
  orderly := Pipeline.orderly_start
  named := .start
  complete _ := .start
  justified _ := .start
  alive _ := alive_start ctr
  inOrder := List.Sublist.refl _

end System

theorem kept_step {client client' : Client ε} {peer peer' : Peer ε} {lost : List (QueueEntry ε)}
    {later : List (Item ε)} (h : SystemStep lib lossy (client,peer) (client',peer'))
    (hsound : peer.Sound) (hw : Together lossy client peer lost later)
    (hin : (client.inbox ++ stanzasOf later).Sublist (stanzasOf peer.sentAll)) :
    peer'.Sound ∧ ∃ lost' later', Together lossy client' peer' lost' later' ∧
      Flows lib lossy (pipeline client peer lost) (pipeline client' peer' lost') ∧
      (client'.inbox ++ stanzasOf later').Sublist (stanzasOf peer'.sentAll) := by
  obtain ⟨lost',later',more,hw',hf,hall,hsub⟩ := keeps_step hsound h hw
  refine ⟨sound_step hsound h,lost',later',hw',hf,hsub.trans ?_⟩
  rw [hall,stanzasOf_append,stanzasOf_append,← List.append_assoc]
  exact hin.append (List.Sublist.refl _)

theorem kept_moves {state state' : Client ε × Peer ε} {lost : List (QueueEntry ε)}
    {later : List (Item ε)} (h : SystemMoves lib lossy state state')
    (hsound : state.2.Sound) (hw : Together lossy state.1 state.2 lost later)
    (hin : (state.1.inbox ++ stanzasOf later).Sublist (stanzasOf state.2.sentAll)) :
    state'.2.Sound ∧ ∃ lost' later', Together lossy state'.1 state'.2 lost' later' ∧
      Flows lib lossy (pipeline state.1 state.2 lost) (pipeline state'.1 state'.2 lost') ∧
      (state'.1.inbox ++ stanzasOf later').Sublist (stanzasOf state'.2.sentAll) := by
  induction h with
  | refl => exact ⟨hsound,lost,later,hw,.refl,hin⟩
  | tail _ hstep ih =>
    obtain ⟨hsound₁,lost₁,later₁,hw₁,hf₁,hin₁⟩ := ih
    obtain ⟨hsound₂,lost₂,later₂,hw₂,hf₂,hin₂⟩ := kept_step hstep hsound₁ hw₁ hin₁
    exact ⟨hsound₂,lost₂,later₂,hw₂,hf₁.trans hf₂,hin₂⟩

namespace System

variable {s s' : System ε} {action : Action ε}
variable {names : List (Stanza ε)} {lost : List (QueueEntry ε)} {later : List (Item ε)}

theorem pipeline_submit (s : System ε) (stanza : Stanza ε) :
    pipeline (s.submit stanza).client (s.submit stanza).peer lost =
      (pipeline s.client s.peer lost).submit stanza := by
  have hqueue : (s.submit stanza).worker.transmitQueue.entries =
      s.worker.transmitQueue.entries ++ [⟨stanza,some s.tokens.length⟩] := by
    simp [submit,TransmitQueue.entries,QueueEntry.tracked]
  show Pipeline.mk _ _ (_ ++ lost ++ (s.submit stanza).worker.transmitQueue.entries) _ =
    Pipeline.mk _ _ (_ ++ lost ++ s.worker.transmitQueue.entries ++ [_]) _
  rw [hqueue,List.append_assoc (_ ++ lost)]
  rfl

theorem invariant_submit (hs : Invariant lib lossy names s lost later) (stanza : Stanza ε) :
    Invariant lib lossy (names ++ [stanza]) (s.submit stanza) lost later where
  stopping := hs.stopping
  sound := hs.sound
  together := hs.together
  orderly := pipeline_submit s stanza ▸ hs.orderly.submit stanza
  named := pipeline_submit s stanza ▸ hs.named.submit stanza
  complete hn := pipeline_submit s stanza ▸ (hs.complete hn).submit stanza
  justified hn := pipeline_submit s stanza ▸ (hs.justified hn).submit stanza
  alive hn := ⟨(hs.alive hn).stream,(hs.alive hn).phase,(hs.alive hn).events⟩
  inOrder := hs.inOrder

/-- What an action keeps, once the stanzas are counted that it hands in. -/
theorem invariant_step (hs : Invariant lib lossy names s lost later)
    (hl : lossy ∨ action.clean ∧ s.Open) (h : s.step lib action = .moved s') :
    ∃ lost' later', Invariant lib lossy (names ++ action.submitted.toList) s' lost' later' ∧
      s.tokens.Ahead s'.tokens := by
  cases ha : action.submitted with
  | some stanza =>
    obtain rfl : action = .submit stanza := by
      cases action <;> cases ha
      rfl
    obtain rfl := step_submit h
    exact ⟨lost,later,invariant_submit hs stanza,.snoc _ _⟩
  | none =>
    have hm : SystemMoves lib lossy (s.client,s.peer) (s'.client,s'.peer) :=
      step_moves hs.stopping hl ha h
    obtain ⟨hsound,lost',later',hw,hf,hin⟩ := kept_moves hm hs.sound hs.together hs.inOrder
    rw [Option.toList_none,List.append_nil]
    refine ⟨lost',later',?_,hf.ahead hs.orderly⟩
    exact {
      stopping := stopping_step hs.stopping h
      sound := hsound
      together := hw
      orderly := hf.orderly hs.orderly
      named := hf.named hs.named
      complete := fun hn => hf.complete hn hs.orderly (hs.complete hn)
      justified := fun hn => hf.justified hn hs.named (hs.justified hn)
      alive := fun hn => step_alive (hs.alive hn) (hl.resolve_left hn).1 (hl.resolve_left hn).2 h
      inOrder := hin }

def submissions (actions : List (Action ε)) : List (Stanza ε) := actions.filterMap Action.submitted

theorem invariant_run {allowed : System ε → Action ε → Bool} {actions : List (Action ε)}
    (hs : Invariant lib lossy names s lost later)
    (hl : ∀ s action, allowed s action → lossy ∨ action.clean ∧ s.Open)
    (h : run lib allowed actions s = some s') :
    ∃ lost' later', Invariant lib lossy (names ++ submissions actions) s' lost' later' ∧
      s.tokens.Ahead s'.tokens := by
  induction actions generalizing names s lost later with
  | nil =>
    cases h
    refine ⟨lost,later,?_,.refl _⟩
    show Invariant lib lossy (names ++ []) s' lost later
    rw [List.append_nil]
    exact hs
  | cons action actions ih =>
    unfold run at h
    split at h
    · rename_i ha
      cases hstep : s.step lib action with
      | disabled => rw [hstep] at h; cases h
      | panicked => rw [hstep] at h; cases h
      | moved s₁ =>
        rw [hstep] at h
        obtain ⟨lost₁,later₁,hs₁,hf₁⟩ := invariant_step hs (hl s action ha) hstep
        obtain ⟨lost₂,later₂,hs₂,hf₂⟩ := ih hs₁ h
        refine ⟨lost₂,later₂,?_,hf₁.trans hf₂⟩
        have hnames : names ++ submissions (action :: actions) =
            names ++ action.submitted.toList ++ submissions actions := by
          unfold submissions
          cases ha : action.submitted <;> simp [ha]
        rw [hnames]
        exact hs₂
    · cases h

variable {actions : List (Action ε)} {ctr : BitVec 64}

theorem invariant_anything (h : run lib anything actions (start ctr) = some s) :
    ∃ lost later, Invariant lib True (submissions actions) s lost later := by
  obtain ⟨lost,later,hs,-⟩ := invariant_run (invariant_start ctr) (fun _ _ _ => .inl trivial) h
  exact ⟨lost,later,hs⟩

theorem invariant_steady (h : run lib steady actions (start ctr) = some s) :
    ∃ lost later, Invariant lib False (submissions actions) s lost later := by
  have hl : ∀ (s : System ε) (action : Action ε), steady s action →
      False ∨ action.clean ∧ s.Open := by
    intro s action ha
    unfold steady at ha
    rw [Bool.and_eq_true,decide_eq_true_eq] at ha
    exact .inr ha
  obtain ⟨lost,later,hs,-⟩ := invariant_run (invariant_start ctr) hl h
  exact ⟨lost,later,hs⟩

/-- A library under which presence does not serialise. -/
def withoutPresence : Library Unit where
  serialise
    | .presence _ _ => some ⟨.invalidInput,"presence"⟩
    | _ => none
  bindResponse _ := .ok ⟨"romeo@example.org",some "orchard"⟩
  ping := ()
  debug _ := ""
  sentStreamError _ := ""

def ready : Answers Unit := ⟨List.replicate 4 (.ok ()),.pending,.next,false⟩

/-- A session is enabled; of three stanzas the second does not serialise, and the peer
has taken the first when the connection breaks. -/
def interrupted : List (Action Unit) :=
  [.connect ⟨true,true⟩ ⟨"romeo@example.org",none⟩,.poll [ready,ready,ready],.peer (.answerBind ()),
    .poll [ready,ready,ready],.peer (.answerEnable ⟨some "session",none,none,true⟩),
    .poll [ready,ready],.accept,.submit (.message (some "1") ()),.submit (.presence none ()),
    .submit (.message (some "2") ()),.poll [ready],.peer .take,.peer .acknowledge,
    .peer (.send (.ok (.ok (.stanza (.message (some "in") ()))))),.requestReconnect,.accept]

def resumption : List (Action Unit) :=
  [.connect ⟨true,true⟩ ⟨"romeo@example.org",none⟩,.poll [ready,ready,ready],.peer .answerResume,
    .poll [ready,ready],.accept,.poll [ready,ready],.accept,.peer .take]

theorem exists_interrupted : ∃ s, run withoutPresence anything interrupted (start 0) = some s :=
  Option.isSome_iff_exists.mp (by decide +kernel)

theorem exists_resumption :
    ∃ s, run withoutPresence steady (interrupted ++ resumption) (start 0) = some s :=
  Option.isSome_iff_exists.mp (by decide +kernel)

/-- Whatever happens, the peer handles the stanzas that the frontend hands in each at
most once over the whole run, and those that come in on one stream in their order. -/
theorem handled_in_order (h : run lib anything actions (start ctr) = some s) :
    (followed s.peer.handled).Nodup ∧ (∀ x ∈ followed s.peer.handled, x ∈ (submissions actions).zipIdx) ∧
    ∀ stream, (followed (s.peer.handledOn stream)).Sublist (submissions actions).zipIdx := by
  obtain ⟨lost,later,hs⟩ := invariant_anything h
  refine ⟨hs.orderly.followed_nodup,fun x hx => ?_,hs.orderly.followed_under hs.named⟩
  obtain ⟨entry,he,hx⟩ := List.mem_filterMap.mp hx
  obtain ⟨⟨stream,_⟩,hm,rfl⟩ := List.mem_map.mp he
  exact (hs.orderly.followed_under hs.named stream).subset
    (List.mem_filterMap.mpr ⟨_,mem_under.mpr hm,hx⟩)

theorem handled_in_order_interrupted : ∃ s, run withoutPresence anything interrupted (start 0) = some s ∧
    (followed s.peer.handled).Nodup ∧
    (∀ x ∈ followed s.peer.handled, x ∈ (submissions interrupted).zipIdx) ∧
    ∀ stream, (followed (s.peer.handledOn stream)).Sublist (submissions interrupted).zipIdx := by
  obtain ⟨s,hs⟩ := exists_interrupted
  exact ⟨s,hs,handled_in_order hs⟩

example : (run withoutPresence anything (interrupted ++ resumption) (start 0)).map
    (fun s => followed s.peer.handled) =
      some [(.message (some "1") (),0),(.message (some "2") (),2)] := by decide +kernel

/-- Without stream management a stanza that waits on a connection that was left comes in
behind the next one. -/
def overtaken : List (Action Unit) :=
  [.connect ⟨true,false⟩ ⟨"romeo@example.org",none⟩,.poll [ready,ready,ready],.peer (.answerBind ()),
    .poll [ready,ready],.accept,.submit (.message (some "1") ()),.poll [ready],.requestReconnect,.accept,
    .connect ⟨true,false⟩ ⟨"romeo@example.org",none⟩,.poll [ready,ready,ready],.peer (.answerBind ()),
    .poll [ready,ready],.accept,.submit (.message (some "2") ()),.poll [ready],.peer .take,
    .peer (.takeLeft 1)]

example : (run withoutPresence anything overtaken (start 0)).map
    (fun s => followed s.peer.handled) =
      some [(.message (some "2") (),1),(.message (some "1") (),0)] := by decide +kernel

/-- The tokens tell the truth: the peer has handled an acknowledged stanza and never
handles one that failed. -/
theorem tokens_truthful (h : run lib anything actions (start ctr) = some s) (k : ℕ) :
    (s.tokens[k]? = some .acked → k ∈ numbers s.peer.handled) ∧
    ∀ error, s.tokens[k]? = some (.failed error) → k ∉ numbers s.peer.handled := by
  obtain ⟨lost,later,hs⟩ := invariant_anything h
  refine ⟨hs.orderly.acked k,fun error hk hm => hs.orderly.failed k error hk ?_⟩
  show k ∈ numbers (s.peer.handled ++ _ ++ _)
  rw [numbers_append,numbers_append]
  exact List.mem_append_left _ (List.mem_append_left _ hm)

theorem tokens_truthful_interrupted : ∃ s, run withoutPresence anything interrupted (start 0) = some s ∧
    ((s.tokens[1]? = some .acked → 1 ∈ numbers s.peer.handled) ∧
      ∀ error, s.tokens[1]? = some (.failed error) → 1 ∉ numbers s.peer.handled) := by
  obtain ⟨s,hs⟩ := exists_interrupted
  exact ⟨s,hs,tokens_truthful hs 1⟩

/-- However the run goes on, no token goes back to an earlier stage, and one that tells
what became of its stanza stays. -/
theorem tokens_ahead {more : List (Action ε)} (h : run lib anything actions (start ctr) = some s)
    (hmore : run lib anything more s = some s') : s.tokens.Ahead s'.tokens := by
  obtain ⟨lost,later,hs⟩ := invariant_anything h
  obtain ⟨-,-,-,hahead⟩ := invariant_run hs (fun _ _ _ => .inl trivial) hmore
  exact hahead

theorem tokens_ahead_resumption : ∃ s s', run withoutPresence anything interrupted (start 0) = some s ∧
    run withoutPresence anything resumption s = some s' ∧ s.tokens.Ahead s'.tokens := by
  obtain ⟨s,hs⟩ := exists_interrupted
  have hmore : ((run withoutPresence anything interrupted (start 0)).bind
      (run withoutPresence anything resumption)).isSome := by decide +kernel
  rw [hs,Option.bind_some,Option.isSome_iff_exists] at hmore
  obtain ⟨s',hs'⟩ := hmore
  exact ⟨s,s',hs,hs',tokens_ahead hs hs'⟩

end System

/-- What the worker keeps: the stanzas that the peer has not acknowledged, and the queue. -/
def StanzaStreamWorker.kept (w : StanzaStreamWorker ε) : List (QueueEntry ε) :=
  w.view.sm.elim [] SmState.unackedStanzas ++ w.transmitQueue.entries

theorem Together.rest_kept {client : Client ε} {peer : Peer ε} {lost : List (QueueEntry ε)}
    {later : List (Item ε)} (hw : Together False client peer lost later) (hv : client.view ≠ .finished) :
    (pipeline client peer lost).rest <:+
      client.view.sm.elim [] SmState.unackedStanzas ++ client.queue := by
  show entriesOf client.net.up ++ lost ++ client.queue <:+ _
  cases hsm : client.view.sm with
  | none =>
    obtain ⟨rfl,hup⟩ := hw.idle hsm
    rw [(hup.resolve_left hv).resolve_left id]
    exact List.suffix_refl _
  | some sm =>
    obtain ⟨s,b,c,hh,-⟩ := hw.held hsm
    have hu : sm.unackedStanzas = s.received.drop b ++ entriesOf client.net.up ++ lost := hh.link.eq
    show _ <:+ sm.unackedStanzas ++ client.queue
    rw [hu,List.append_assoc (s.received.drop b),List.append_assoc (s.received.drop b)]
    exact List.suffix_append _ _

namespace System

variable {s : System ε} {actions : List (Action ε)} {ctr : BitVec 64}

/-- Where the session can always go on, nothing is lost: apart from the stanzas that do
not serialise, every stanza was handled, once and in its turn, or is still kept. -/
theorem steady_delivers (h : run lib steady actions (start ctr) = some s) :
    (∃ rest, rest <:+ s.worker.kept ∧ followed s.peer.handled ++ followed rest =
      (submissions actions).zipIdx.filter fun x => Pipeline.notFailed s.tokens x.2) ∧
    ∀ (k : ℕ) (error : OpaqueIoError), s.tokens[k]? = some (.failed error) →
      ∃ stanza, (submissions actions)[k]? = some stanza ∧ lib.serialise stanza = some error := by
  obtain ⟨lost,later,hs⟩ := invariant_steady h
  refine ⟨⟨_,hs.together.rest_kept (hs.alive id).view_ne,?_⟩,hs.justified id⟩
  exact (hs.complete id).followed_all hs.named

theorem steady_delivers_resumption : ∃ s,
    run withoutPresence steady (interrupted ++ resumption) (start 0) = some s ∧
    (∃ rest, rest <:+ s.worker.kept ∧ followed s.peer.handled ++ followed rest =
      (submissions (interrupted ++ resumption)).zipIdx.filter fun x => Pipeline.notFailed s.tokens x.2) ∧
    ∀ (k : ℕ) (error : OpaqueIoError), s.tokens[k]? = some (.failed error) →
      ∃ stanza, (submissions (interrupted ++ resumption))[k]? = some stanza ∧
        withoutPresence.serialise stanza = some error := by
  obtain ⟨s,hs⟩ := exists_resumption
  exact ⟨s,hs,steady_delivers hs⟩

/-- What comes in reaches the frontend in its order and at most once. -/
theorem inbox_in_order (h : run lib anything actions (start ctr) = some s) :
    s.inbox.Sublist (stanzasOf s.peer.sentAll) := by
  obtain ⟨lost,later,hs⟩ := invariant_anything h
  exact (List.sublist_append_left _ _).trans hs.inOrder

theorem inbox_in_order_interrupted : ∃ s, run withoutPresence anything interrupted (start 0) = some s ∧
    s.inbox.Sublist (stanzasOf s.peer.sentAll) := by
  obtain ⟨s,hs⟩ := exists_interrupted
  exact ⟨s,hs,inbox_in_order hs⟩

/-- What the worker has counted it has handed on, and it acknowledges no more than that, in what
the peer has received as in what is on its way: the inbox ends with the stanzas of the session up
to the count. -/
theorem counted_handed_on {sm : SmState ε} (h : run lib anything actions (start ctr) = some s)
    (hsm : s.worker.view.sm = some sm) : ∃ session c, s.peer.session = some session ∧
      sm.inboundCtr = BitVec.ofNat 32 c ∧ session.acked ≤ c ∧
      Reports session.acked c (countsOf s.net.up) ∧ c ≤ session.sent.length ∧
      stanzasOf (session.sent.take c) <:+ s.inbox := by
  obtain ⟨lost,later,hs⟩ := invariant_anything h
  obtain ⟨session,b,c,hh,-⟩ := hs.together.held hsm
  exact ⟨session,c,hh.session,hh.ctr,hh.le_counted,hh.counts,hh.sent,hh.got⟩

theorem counted_handed_on_interrupted : ∃ (s : System Unit) (sm : SmState Unit) (session : Session Unit)
    (c : ℕ), run withoutPresence anything interrupted (start 0) = some s ∧
      s.peer.session = some session ∧ sm.inboundCtr = BitVec.ofNat 32 c ∧ session.acked ≤ c ∧
      Reports session.acked c (countsOf s.net.up) ∧ c ≤ session.sent.length ∧ stanzasOf (session.sent.take c) <:+ s.inbox := by
  obtain ⟨s,hs⟩ := exists_interrupted
  have hheld : ((run withoutPresence anything interrupted (start 0)).bind
      (·.worker.view.sm)).isSome := by decide +kernel
  rw [hs,Option.bind_some,Option.isSome_iff_exists] at hheld
  obtain ⟨sm,hsm⟩ := hheld
  obtain ⟨session,c,h⟩ := counted_handed_on hs hsm
  exact ⟨s,sm,session,c,hs,h⟩

/-- A report of the peer is always taken, and acknowledges exactly what the peer had
received when it sent the report and the worker did not know of. -/
theorem honest_ack_accepted {sm : SmState ε} {n : BitVec 32} {down : List (Item ε)}
    (h : run lib anything actions (start ctr) = some s) (hview : s.worker.view = .ready (some sm))
    (hdown : s.net.down = ackItem n :: down) : ∃ session known acked newer left,
      s.peer.session = some session ∧ session.received = known ++ acked ++ newer ∧
      sm.outboundBase = BitVec.ofNat 32 known.length ∧
      n = BitVec.ofNat 32 (known ++ acked).length ∧ sm.unackedStanzas = acked ++ left ∧
      acked.length = ahead sm.outboundBase n ∧
      sm.remoteAcked s.tokens n = .ok ({ sm with outboundBase := n, unackedStanzas := left },
        s.tokens.sendReplaceAll acked .acked) := by
  obtain ⟨lost,later,hs⟩ := invariant_anything h
  have hw : Wired True s.inbox s.peer s.worker.view s.net lost later := hs.together
  rw [hview] at hw
  cases hw with
  | @ready _ _ session b c hh hc hm =>
    rw [hdown] at hm
    obtain ⟨m,hb,hle,rfl,-⟩ := hm.tail_ack hh.received_sub_lt
    have htake : sm.unackedStanzas.take (m - b) = (session.received.take m).drop b := hh.link.take_eq hle
    have hknown : (session.received.take b).length = b := List.length_take_of_le (hb.trans hle)
    have hacked : session.received.take b ++ sm.unackedStanzas.take (m - b) = session.received.take m := by
      have hpre : session.received.take b = (session.received.take m).take b := by
        rw [List.take_take,min_eq_left hb]
      rw [htake,hpre,List.take_append_drop]
    refine ⟨session,session.received.take b,sm.unackedStanzas.take (m - b),session.received.drop m,_,
      hh.session,?_,?_,?_,(List.take_append_drop (m - b) _).symm,?_,hh.remoteAcked hb hle _⟩
    · rw [hacked,List.take_append_drop]
    · rw [hknown,hh.base]
    · rw [hacked,List.length_take_of_le hle]
    · have hw := hh.received_sub_lt
      rw [htake,List.length_drop,List.length_take_of_le hle,hh.base,ahead_ofNat hb (by omega)]

/-- An acknowledgement is what the worker reads next. -/
def readsAck (s : System ε) : Bool :=
  match s.worker.view,s.net.down with
  | .ready (some _),.ok (.ok (.sm (.ack _))) :: _ => true
  | _,_ => false

theorem honest_ack_accepted_interrupted : ∃ (s : System Unit) (sm : SmState Unit) (n : BitVec 32)
    (session : Session Unit) (known acked newer left : List (QueueEntry Unit)),
    run withoutPresence anything (interrupted.take 13) (start 0) = some s ∧
      s.peer.session = some session ∧ session.received = known ++ acked ++ newer ∧
      sm.outboundBase = BitVec.ofNat 32 known.length ∧
      n = BitVec.ofNat 32 (known ++ acked).length ∧ sm.unackedStanzas = acked ++ left ∧
      acked.length = ahead sm.outboundBase n ∧
      sm.remoteAcked s.tokens n = .ok ({ sm with outboundBase := n, unackedStanzas := left },
        s.tokens.sendReplaceAll acked .acked) := by
  have hrun : (run withoutPresence anything (interrupted.take 13) (start 0)).any readsAck = true := by
    decide +kernel
  obtain ⟨s,hs,hm⟩ := (Option.any_eq_true _ _).mp hrun
  unfold readsAck at hm
  split at hm
  · rename_i sm n down hview hdown
    obtain ⟨session,known,acked,newer,left,h⟩ := honest_ack_accepted hs hview hdown
    exact ⟨s,sm,n,session,known,acked,newer,left,hs,h⟩
  · cases hm

/-- The reply to a request to resume is what the worker reads next. -/
def readsResumed (s : System ε) : Bool :=
  match s.worker.view,s.net.down with
  | .negotiating (.receiveSmResponse (some _) _),.ok (.ok (.sm (.resumed _ _))) :: _ => true
  | _,_ => false

end System

end MindChat.StanzaStream
