import MindChat.StreamManagement

/-! The write pass of an established stanza stream: requests for acknowledgements,
queued stanzas and acknowledgements on the way into the transport. -/

namespace MindChat.StanzaStream

open Polling

inductive Nonza
  | enable (max : Option (BitVec 32)) (resume : Bool)
  | enabled (enabled : Enabled)
  | resume (h : BitVec 32) (previd : String)
  | resumed (h : BitVec 32) (previd : String)
  | failed (h : Option (BitVec 32))
  | ack (h : BitVec 32)
  | req
  deriving DecidableEq

/-- What fails in the parser of the library. -/
inductive XsoError
  | xmlError (text : String)
  | textParseError (text : String)
  | other (text : String)
  | typeMismatch (text : String)
  deriving DecidableEq

inductive DefinedCondition
  | notWellFormed
  | invalidXml
  | unsupportedStanzaType
  | undefinedCondition
  deriving DecidableEq

/-- A stream error to send; `specific` is its application-specific part. -/
inductive StreamError
  | defined (condition : DefinedCondition) (text : String) (specific : List String)
  | handledCountTooHigh (error : HandledCountTooHigh)
  deriving DecidableEq

/-- A stream-level element as it was parsed; a received stream error by its text. -/
inductive XmppStreamElement (ε : Type)
  | stanza (stanza : Stanza ε)
  | sasl
  | starttls
  | componentHandshake
  | streamError (text : String)
  | sm (nonza : Nonza)
  deriving DecidableEq

/-- An element that did not parse, with the text of this error. -/
inductive StreamElementError
  | invalidStanza (text : String) (error : XsoError)
  | invalidNonza (text : String) (error : XsoError)
  deriving DecidableEq

inductive ReadError
  | softTimeout
  | hardError (error : OpaqueIoError)
  | parseError (error : XsoError)
  | streamFooterReceived
  deriving DecidableEq

/-- One item of the stream of received elements. -/
abbrev Item (ε : Type) := Except ReadError (Except StreamElementError (XmppStreamElement ε))

/-- What was put into the stream towards the peer. A queued stanza keeps its entry
here; the peer sees the stanza alone. -/
inductive Outgoing (ε : Type)
  | stanza (entry : QueueEntry ε)
  | bind (resource : Option String)
  | sm (nonza : Nonza)
  | streamError (error : StreamError)
  deriving DecidableEq

/-- The two directions of an established stream: what the peer has not read yet, and
what it has sent and the client has not read yet. -/
structure XmppStream (ε : Type) where
  up : List (Outgoing ε)
  down : List (Item ε)

/-- What a read finds: nothing yet, the end, the next item that the peer sent, or an
item that comes from elsewhere. -/
inductive Read (ε : Type)
  | pending
  | eof
  | next
  | item (item : Item ε)

/-- What the transport answers to the calls of one turn: to `poll_ready` one answer
after the other and then pending, to `poll_flush`, to a read, and whether the
deadline of the state has passed. -/
structure Answers (ε : Type) where
  ready : List (Except OpaqueIoError Unit)
  flush : Polling.Poll (Except OpaqueIoError Unit)
  read : Read ε
  deadline : Bool

/-- The parts of the library that decide what a stanza looks like on the wire. -/
structure Library (ε : Type) where
  /-- The error of a stanza that does not serialise. -/
  serialise : Stanza ε → Option OpaqueIoError
  /-- `BindResponse::try_from` on a payload. -/
  bindResponse : ε → Except String Jid
  /-- The payload of a ping. -/
  ping : ε
  /-- The debug text of an element. -/
  debug : XmppStreamElement ε → String
  /-- The text of a stream error that was sent. -/
  sentStreamError : StreamError → String

/-- What a turn of the stream works on. -/
structure Io (ε : Type) where
  stream : XmppStream ε
  queue : TransmitQueue ε
  tokens : Tokens
  answers : Answers ε

variable {ε : Type}

namespace Io

def pollReady (io : Io ε) : Polling.Poll (Except OpaqueIoError Unit) × Io ε :=
  match io.answers.ready with
  | [] => (.pending,io)
  | answer :: ready => (.ready answer,{ io with answers := { io.answers with ready := ready } })

def send (io : Io ε) (element : Outgoing ε) : Io ε :=
  { io with stream := { io.stream with up := io.stream.up ++ [element] } }

/-- The next item of the stream; `none` is its end. -/
def pollNext (io : Io ε) : Polling.Poll (Option (Item ε)) × Io ε :=
  match io.answers.read,io.stream.down with
  | .pending,_ => (.pending,io)
  | .eof,_ => (.ready none,io)
  | .item item,_ => (.ready (some item),io)
  | .next,[] => (.pending,io)
  | .next,item :: down => (.ready (some item),{ io with stream := { io.stream with down := down } })

end Io

/-- The state of a write pass. -/
structure Tx (ε : Type) where
  sm : Option (SmState ε)
  io : Io ε

abbrev Write (ε α : Type) := PollM (Tx ε) OpaqueIoError α

namespace Write

def pollReady : Write ε Unit := fun tx =>
  let (answer,io) := tx.io.pollReady
  let tx := { tx with io := io }
  match answer with
  | .pending => (.pending,tx)
  | .ready (.error e) => (.failed e,tx)
  | .ready (.ok ()) => (.done (),tx)

def pollFlush : Write ε Unit := fun tx =>
  match tx.io.answers.flush with
  | .pending => (.pending,tx)
  | .ready (.error e) => (.failed e,tx)
  | .ready (.ok ()) => (.done (),tx)

/-- `start_send` of an element that serialises. -/
def startSend (element : Outgoing ε) : Write ε Unit :=
  PollM.modify fun tx => { tx with io := tx.io.send element }

def pollWriteSmReq : Write ε Unit := do
  match (← PollM.get).sm with
  | none => return ()
  | some sm =>
    if sm.pendingReq then
      pollReady
      startSend (.sm .req)
      PollM.modify fun tx => { tx with sm := tx.sm.map ({ · with pendingReq := false }) }

/-- Send a taken entry, or report why it does not serialise; says whether it was sent. -/
def transmitEntry (lib : Library ε) (entry : QueueEntry ε) : Write ε Bool :=
  match lib.serialise entry.stanza with
  | none => do
    startSend (.stanza entry)
    PollM.modify fun tx => { tx with io.tokens := tx.io.tokens.sendReplace entry .sent }
    match (← PollM.get).sm with
    | none => return true
    | some sm =>
      match sm.enqueue entry with
      | none => PollM.panic
      | some sm =>
        PollM.modify fun tx => { tx with sm := some sm }
        return true
  | some error => do
    PollM.modify fun tx => { tx with io.tokens := tx.io.tokens.sendReplace entry (.failed error) }
    return false

def transmit (lib : Library ε) : Write ε Bool := do
  match (← PollM.get).io.queue.take with
  | none => PollM.panic
  | some (entry,queue) =>
    PollM.modify fun tx => { tx with io.queue := queue }
    transmitEntry lib entry

/-- The loop over the queue; every round takes one entry, so `n` bounds the rounds.
Gives back whether the queue is closed and empty, and whether a stanza was sent. -/
def transmitAll (lib : Library ε) : ℕ → Bool → Write ε (Bool × Bool)
  | 0, transmitted => return (false,transmitted)
  | n + 1, transmitted => do
    let (next,queue) := (← PollM.get).io.queue.pollNext
    PollM.modify fun tx => { tx with io.queue := queue }
    match next with
    | .pending => return (false,transmitted)
    | .ready none => return (true,transmitted)
    | .ready (some _) =>
      pollReady
      let sent ← transmit lib
      transmitAll lib n (transmitted || sent)

/-- The acknowledgements that are still owed, `n` of them. -/
def sendAcks : ℕ → Write ε Unit
  | 0 => return ()
  | n + 1 => do
    pollReady
    match (← PollM.get).sm with
    | none => return ()
    | some sm =>
      startSend (.sm (.ack sm.inboundCtr))
      PollM.modify fun tx => { tx with sm := some { sm with pendingAcks := n } }
      sendAcks n

def sendPendingAcks : Write ε Unit := do
  match (← PollM.get).sm with
  | none => return ()
  | some sm => sendAcks sm.pendingAcks

def pollWritesInner (lib : Library ε) : Write ε Unit := do
  pollWriteSmReq
  let (depleted,transmitted) ← transmitAll lib ((← PollM.get).io.queue.entries.length + 1) false
  PollM.modify fun tx => { tx with sm := tx.sm.map ({ · with pendingReq := transmitted }) }
  pollWriteSmReq
  sendPendingAcks
  pollFlush
  if depleted then return () else PollM.pending

end Write

/-- The same link: at most the notes about what to send next differ. -/
structure Tx.SameLink (tx tx' : Tx ε) : Prop where
  sm : ∃ acks req, tx'.sm = tx.sm.map ({ · with pendingAcks := acks, pendingReq := req })
  stream : tx'.io.stream = tx.io.stream
  entries : tx'.io.queue.entries = tx.io.queue.entries
  closed : tx'.io.queue.closed = tx.io.queue.closed
  tokens : tx'.io.tokens = tx.io.tokens
  answers : tx'.io.answers.read = tx.io.answers.read

/-- What one action of a write pass does. -/
inductive Wrote (lib : Library ε) : Tx ε → Tx ε → Prop
  | quiet {tx tx'} (h : tx.SameLink tx') : Wrote lib tx tx'
  /-- A request, or the count of the stanzas received, under stream management. -/
  | nonza {tx : Tx ε} {sm : SmState ε} {nonza : Nonza} (hsm : tx.sm = some sm)
      (hn : nonza = .req ∨ nonza = .ack sm.inboundCtr) :
      Wrote lib tx { tx with io := tx.io.send (.sm nonza) }
  /-- The first stanza of the queue, kept under stream management. -/
  | stanza {tx : Tx ε} {entry : QueueEntry ε} {queue : TransmitQueue ε}
      {sm : Option (SmState ε)} (hs : lib.serialise entry.stanza = none)
      (hq : tx.io.queue.entries = entry :: queue.entries) (hc : queue.closed = tx.io.queue.closed)
      (hsm : ∀ st ∈ tx.sm, st.unackedStanzas.length < SmState.maxQueueSize)
      (hk : sm = tx.sm.map fun st => { st with unackedStanzas := st.unackedStanzas ++ [entry] }) :
      Wrote lib tx ⟨sm,{ tx.io.send (.stanza entry) with
        queue := queue, tokens := tx.io.tokens.sendReplace entry .sent }⟩
  /-- The first stanza of the queue does not serialise. -/
  | failed {tx : Tx ε} {entry : QueueEntry ε} {queue : TransmitQueue ε} {error : OpaqueIoError}
      (hs : lib.serialise entry.stanza = some error)
      (hq : tx.io.queue.entries = entry :: queue.entries) (hc : queue.closed = tx.io.queue.closed) :
      Wrote lib tx { tx with io := { tx.io with
        queue := queue, tokens := tx.io.tokens.sendReplace entry (.failed error) } }

open Relation (ReflTransGen)

theorem Tx.SameLink.refl (tx : Tx ε) : tx.SameLink tx where
  sm := by
    cases h : tx.sm with
    | none => exact ⟨0,false,rfl⟩
    | some sm => exact ⟨sm.pendingAcks,sm.pendingReq,rfl⟩
  stream := rfl
  entries := rfl
  closed := rfl
  tokens := rfl
  answers := rfl

namespace Write

variable {lib : Library ε}

abbrev Writes (lib : Library ε) : Tx ε → Tx ε → Prop := ReflTransGen (Wrote lib)

theorem writes_of_sameLink {tx tx' : Tx ε} (h : tx.SameLink tx') : Writes lib tx tx' :=
  .single (.quiet h)

theorem Moves.seq {α β : Type} {P : Tx ε → Prop} {m : Write ε α} {Q : α → Tx ε → Prop}
    {k : α → Write ε β} {Q' : β → Tx ε → Prop} (hm : PollM.Moves (Writes lib) P m Q)
    (hk : ∀ value, PollM.Moves (Writes lib) (Q value) (k value) Q') :
    PollM.Moves (Writes lib) P (m >>= k) Q' := hm.bind ReflTransGen.trans hk

/-- Asking the transport changes neither the link nor what is known of its counters. -/
theorem moves_pollReady (p : Option (SmState ε) → Prop) : PollM.Moves (Writes lib)
    (fun tx => p tx.sm) (pollReady : Write ε Unit) fun _ tx => p tx.sm := by
  intro tx hp
  have hr := Tx.SameLink.refl tx
  unfold pollReady Io.pollReady
  cases tx.io.answers.ready with
  | nil => exact .inr ⟨writes_of_sameLink ⟨hr.sm,rfl,rfl,rfl,rfl,rfl⟩,nofun⟩
  | cons answer ready =>
    cases answer with
    | ok value => exact .inr ⟨writes_of_sameLink ⟨hr.sm,rfl,rfl,rfl,rfl,rfl⟩,fun _ _ => hp⟩
    | error e => exact .inr ⟨writes_of_sameLink ⟨hr.sm,rfl,rfl,rfl,rfl,rfl⟩,nofun⟩

theorem moves_pollFlush : PollM.Moves (Writes lib) (fun _ => True) (pollFlush : Write ε Unit)
    fun _ _ => True := by
  intro tx _
  have hr : Writes lib tx tx := .refl
  unfold pollFlush
  cases tx.io.answers.flush with
  | pending => exact .inr ⟨hr,nofun⟩
  | ready answer => cases answer <;> exact .inr ⟨hr,fun _ _ => trivial⟩

theorem moves_setRequest (req : Bool) : PollM.Moves (Writes lib) (fun _ => True)
    (PollM.modify fun tx => { tx with sm := tx.sm.map ({ · with pendingReq := req }) } :
      Write ε Unit) fun _ _ => True := by
  refine PollM.moves_modify (fun tx _ => writes_of_sameLink ⟨?_,rfl,rfl,rfl,rfl,rfl⟩)
    fun _ _ => trivial
  cases tx.sm with
  | none => exact ⟨0,req,rfl⟩
  | some sm => exact ⟨sm.pendingAcks,req,rfl⟩

theorem moves_pollWriteSmReq : PollM.Moves (Writes lib) (fun _ => True)
    (pollWriteSmReq : Write ε Unit) fun _ _ => True := by
  unfold pollWriteSmReq
  refine PollM.moves_get_bind fun tx _ => ?_
  cases hsm : tx.sm with
  | none => exact PollM.moves_pure (fun _ => .refl) fun _ _ => trivial
  | some sm =>
    dsimp only
    split
    · refine Moves.seq ((moves_pollReady (· = some sm)).mono (by rintro _ rfl; exact hsm)
        fun _ _ h => h) fun _ => ?_
      refine Moves.seq (Q := fun _ _ => True) (PollM.moves_modify (fun t ht =>
        .single (.nonza ht (.inl rfl))) fun _ _ => trivial) fun _ => ?_
      exact moves_setRequest false
    · exact PollM.moves_pure (fun _ => .refl) fun _ _ => trivial

theorem transmitEntry_writes {tx : Tx ε} {entry : QueueEntry ε} {queue : TransmitQueue ε}
    (hq : tx.io.queue.entries = entry :: queue.entries) (hc : queue.closed = tx.io.queue.closed) :
    (transmitEntry lib entry { tx with io.queue := queue }).1 = .panicked ∨
      Wrote lib tx (transmitEntry lib entry { tx with io.queue := queue }).2 := by
  obtain ⟨sm,io⟩ := tx
  unfold transmitEntry
  cases hs : lib.serialise entry.stanza with
  | some error => exact .inr (.failed hs hq hc)
  | none =>
    cases sm with
    | none => exact .inr (.stanza hs hq hc nofun rfl)
    | some sm =>
      by_cases hroom : SmState.maxQueueSize ≤ sm.unackedStanzas.length
      · have he : sm.enqueue entry = none := if_pos hroom
        refine .inl ?_
        simp only [bind,PollM.bind,startSend,PollM.modify,PollM.get,he]
        rfl
      · have he : sm.enqueue entry =
            some { sm with unackedStanzas := sm.unackedStanzas ++ [entry] } := if_neg hroom
        have h : Wrote lib ⟨some sm,io⟩ _ := .stanza hs hq hc (by rintro _ ⟨⟩; omega) rfl
        refine .inr ?_
        simp only [bind,PollM.bind,startSend,PollM.modify,PollM.get,he]
        exact h

theorem moves_transmit : PollM.Moves (Writes lib) (fun _ => True) (transmit lib)
    fun _ _ => True := by
  unfold transmit
  refine PollM.moves_get_bind fun tx _ => ?_
  cases ht : tx.io.queue.take with
  | none => exact PollM.moves_panic
  | some taken =>
    obtain ⟨entry,queue⟩ := taken
    obtain ⟨hq,hc⟩ := TransmitQueue.entries_of_take ht
    rintro _ rfl
    exact (transmitEntry_writes hq hc).imp_right fun h => ⟨.single h,fun _ _ => trivial⟩

theorem moves_show (queue : TransmitQueue ε) (tx : Tx ε) (h : tx.io.queue.pollNext.2 = queue) :
    PollM.Moves (Writes lib) (fun t => t = tx)
      (PollM.modify fun tx => { tx with io.queue := queue } : Write ε Unit)
      fun _ t => t.io.queue = queue := by
  refine PollM.moves_modify ?_ fun _ _ => rfl
  rintro _ rfl
  refine writes_of_sameLink ⟨(Tx.SameLink.refl _).sm,rfl,?_,?_,rfl,rfl⟩
  · exact h ▸ TransmitQueue.entries_pollNext _
  · exact h ▸ TransmitQueue.closed_pollNext _

theorem moves_transmitAll (n : ℕ) (transmitted : Bool) : PollM.Moves (Writes lib) (fun _ => True)
    (transmitAll lib n transmitted) fun sent tx => sent.1 = true → tx.io.queue.closed = true := by
  induction n generalizing transmitted with
  | zero => exact PollM.moves_pure (fun _ => .refl) fun _ _ => nofun
  | succ n ih =>
    unfold transmitAll
    refine PollM.moves_get_bind fun tx _ => ?_
    generalize hn : tx.io.queue.pollNext = next
    obtain ⟨next,queue⟩ := next
    refine Moves.seq (moves_show queue tx (by rw [hn])) fun _ => ?_
    cases next with
    | pending => exact PollM.moves_pure (fun _ => .refl) fun _ _ => nofun
    | ready entry =>
      cases entry with
      | none =>
        refine PollM.moves_pure (fun _ => .refl) fun t ht _ => ?_
        rw [ht]
        exact TransmitQueue.closed_of_pollNext hn
      | some entry =>
        refine Moves.seq ((moves_pollReady fun _ => True).mono (fun _ _ => trivial)
          fun _ _ h => h) fun _ => ?_
        exact Moves.seq moves_transmit fun sent => ih _

theorem moves_sendAcks (n : ℕ) : PollM.Moves (Writes lib) (fun _ => True)
    (sendAcks n : Write ε Unit) fun _ _ => True := by
  induction n with
  | zero => exact PollM.moves_pure (fun _ => .refl) fun _ _ => trivial
  | succ n ih =>
    unfold sendAcks
    refine Moves.seq (moves_pollReady fun _ => True) fun _ => ?_
    refine PollM.moves_get_bind fun tx _ => ?_
    cases hsm : tx.sm with
    | none => exact PollM.moves_pure (fun _ => .refl) fun _ _ => trivial
    | some sm =>
      refine Moves.seq (Q := fun _ t => t.sm = some sm) (PollM.moves_modify ?_ ?_) fun _ => ?_
      · rintro _ rfl
        exact .single (.nonza hsm (.inr rfl))
      · rintro _ rfl
        exact hsm
      refine Moves.seq (Q := fun _ _ => True) (PollM.moves_modify ?_ fun _ _ => trivial)
        fun _ => ih
      intro t ht
      refine writes_of_sameLink ⟨⟨n,sm.pendingReq,?_⟩,rfl,rfl,rfl,rfl,rfl⟩
      rw [ht]
      rfl

theorem moves_sendPendingAcks : PollM.Moves (Writes lib) (fun _ => True)
    (sendPendingAcks : Write ε Unit) fun _ _ => True := by
  unfold sendPendingAcks
  refine PollM.moves_get_bind fun tx _ => ?_
  cases tx.sm with
  | none => exact PollM.moves_pure (fun _ => .refl) fun _ _ => trivial
  | some sm => exact (moves_sendAcks _).mono (fun _ _ => trivial) fun _ _ h => h

theorem closed_of_writes {tx tx' : Tx ε} (h : Writes lib tx tx') :
    tx'.io.queue.closed = tx.io.queue.closed := by
  induction h with
  | refl => rfl
  | tail _ hw ih =>
    refine Eq.trans ?_ ih
    cases hw with
    | quiet h => exact h.closed
    | nonza hsm hn => rfl
    | stanza hs hq hc hsm hk => exact hc
    | failed hs hq hc => exact hc

/-- A write pass that does not panic is a row of such actions, wherever it stops; it gets
to its end only where no more stanzas can come. -/
theorem moves_pollWritesInner : PollM.Moves (Writes lib) (fun _ => True) (pollWritesInner lib)
    fun _ tx => tx.io.queue.closed = true := by
  have hlast {depleted : Bool} {m : Write ε Unit}
      (hm : PollM.Moves (Writes lib) (fun _ => True) m fun _ _ => True) :
      PollM.Moves (Writes lib) (fun tx => depleted = true → tx.io.queue.closed = true) m
        fun _ tx => depleted = true → tx.io.queue.closed = true :=
    (hm.frame fun hw hc hd => (closed_of_writes hw).trans (hc hd)).mono
      (fun _ h => ⟨trivial,h⟩) fun _ _ h => h.2
  unfold pollWritesInner
  refine Moves.seq moves_pollWriteSmReq fun _ => ?_
  refine PollM.moves_get_bind fun tx _ => ?_
  refine Moves.seq ((moves_transmitAll _ _).mono (fun _ _ => trivial) fun _ _ h => h) fun sent => ?_
  refine Moves.seq (hlast (moves_setRequest _)) fun _ => ?_
  refine Moves.seq (hlast moves_pollWriteSmReq) fun _ => ?_
  refine Moves.seq (hlast moves_sendPendingAcks) fun _ => ?_
  refine Moves.seq (hlast moves_pollFlush) fun _ => ?_
  split
  · rename_i hd
    exact PollM.moves_pure (fun _ => .refl) fun _ h => h hd
  · exact PollM.moves_pending fun _ => .refl

end Write

end MindChat.StanzaStream
