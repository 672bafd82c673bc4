import MindChat.StreamDelivery

/-! The contract of a stanza stream with its frontend: in which order the events of a
stream may come, whatever the peer and the transport do. -/

namespace MindChat.StanzaStream

open Polling
open Relation (ReflTransGen)

variable {ε : Type} {lib : Library ε}

/-- What the frontend has been told: that the stream is down, and whether it was bound
before, that it is up, or that it is over. -/
inductive Standing
  | down (bound : Bool)
  | up
  | finished
  deriving DecidableEq

/-- The standing after an event, where the event may come. -/
def Standing.next : Standing → Event ε → Option Standing
  | st,.stanza _ => if st = .finished then none else some st
  | .down _,.stream (.reset boundJid _) => if boundJid.resource.isSome then some .up else none
  | .down true,.stream .resumed => some .up
  | .down bound,.stream .suspended => some (.down bound)
  | .up,.stream .suspended => some (.down true)
  | .down _,.stream (.fatal _) => some .finished
  | _,_ => none

/-- The events that may come, one by one. -/
inductive Standing.Next : Standing → Event ε → Standing → Prop
  | stanza {st : Standing} {data : Stanza ε} (h : st ≠ .finished) : Next st (.stanza data) st
  | reset {bound : Bool} {boundJid : Jid} {features : StreamFeatures} (h : boundJid.resource.isSome) :
      Next (.down bound) (.stream (.reset boundJid features)) .up
  | resumed : Next (.down true) (.stream .resumed) .up
  | suspended {bound : Bool} : Next (.down bound) (.stream .suspended) (.down bound)
  | lost : Next .up (.stream .suspended) (.down true)
  | fatal {bound : Bool} {error : XmppError} : Next (.down bound) (.stream (.fatal error)) .finished

theorem Standing.next_cases {st st' : Standing} {event : Event ε} (h : st.next event = some st') :
    st.Next event st' := by
  unfold next at h
  split at h
  · split at h
    · cases h
    · cases h
      exact .stanza ‹_›
  · split at h
    · cases h
      exact .reset ‹_›
    · cases h
  · cases h; exact .resumed
  · cases h; exact .suspended
  · cases h; exact .lost
  · cases h; exact .fatal
  · cases h

/-- The standing after the events, where each of them may come. -/
def Standing.after (st : Standing) (events : List (Event ε)) : Option Standing :=
  events.foldlM Standing.next st

/-- What the worker tells the frontend on an event of its stream. -/
def WorkerEvent.announced : WorkerEvent ε → Option (Event ε)
  | .reset boundJid features => some (.stream (.reset boundJid features))
  | .disconnected => some (.stream .suspended)
  | .resumed => some (.stream .resumed)
  | .stanza data => some (.stanza data)
  | .fatal error => some (.stream (.fatal error))
  | _ => none

/-- The addresses that the library takes from a response to a bind request are full. -/
def Library.BindsFull (lib : Library ε) : Prop :=
  ∀ (payload : ε) (jid : Jid), lib.bindResponse payload = .ok jid → jid.resource.isSome

def NegotiationState.boundJid : NegotiationState ε → Option Jid
  | .sendSmRequest _ jid => jid
  | .receiveSmResponse _ jid => jid
  | _ => none

def NegotiationState.Full (state : NegotiationState ε) : Prop :=
  ∀ jid, state.boundJid = some jid → jid.resource.isSome

/-- A connection where it may be: after a reset or a resumption it does not negotiate
again, before that it is not ready, and only a stream that was bound has a session. -/
def ConnectedState.Fits (state : ConnectedState ε) : Standing → Prop
  | .down bound => (∀ sm, state ≠ .ready sm) ∧ (state.view.sm.isSome → bound = true) ∧
      ∀ substate, state = .negotiating substate → substate.Full
  | .up => ∀ substate, state ≠ .negotiating substate
  | .finished => False

def WorkerStream.Fits (stream : WorkerStream ε) (st : Standing) : Prop :=
  match stream with
  | .connecting slot sm => ∃ bound, st = .down bound ∧
      ((WorkerStream.connecting slot sm).view.sm.isSome → bound = true)
  | .connected state _ _ => state.Fits st
  | .terminated => True

section

variable {io io' : Io ε}

namespace NegotiationState

variable {state next : NegotiationState ε} {advance : Advance ε}

theorem giveUp_sm {phase : String} {sm : Option (SmState ε)}
    {item : Except ReadError (XmppStreamElement ε)}
    (h : giveUp lib phase sm state io item = (advance,next,io')) :
    (advance.view next).sm.isSome → sm.isSome ∨ state.sm.isSome := by
  unfold giveUp at h
  split at h <;> cases h
  · nofun
  · nofun
  · exact .inr
  · nofun
  · exact .inl
  · exact .inl

theorem receiveBind_sm {smSupported : Bool} {item : Except ReadError (XmppStreamElement ε)}
    (h : receiveBind lib smSupported io item = (advance,next,io')) :
    (advance.view next).sm.isSome = false := by
  unfold receiveBind at h
  split at h
  · split at h
    · split at h
      · split at h <;> cases h <;> rfl
      · cases h; rfl
    · cases h; rfl
  · cases h; rfl
  · cases hs : (advance.view next).sm.isSome with
    | false => rfl
    | true => rcases giveUp_sm h hs with hs | hs <;> cases hs

theorem receiveSm_sm {sm : Option (SmState ε)} {jid : Option Jid}
    {item : Except ReadError (XmppStreamElement ε)}
    (h : receiveSm lib sm jid io item = (advance,next,io')) :
    (∃ held boundJid, advance = .done (.streamReset held boundJid)) ∨
      ((advance.view next).sm.isSome → sm.isSome) := by
  unfold receiveSm at h
  split at h
  · cases h; exact .inr id
  · split at h <;> cases h
    · exact .inr id
    · exact .inl ⟨_,_,rfl⟩
  · split at h
    · split at h <;> cases h
      · exact .inr fun _ => rfl
      · exact .inr nofun
    · cases h; exact .inr nofun
  · split at h
    · cases h; exact .inr nofun
    · split at h <;> cases h
      · exact .inr nofun
      · exact .inl ⟨_,_,rfl⟩
  · exact .inr fun hs => (giveUp_sm h hs).elim id id

theorem advance_sm {jid : Jid} (h : state.advance lib jid io = (advance,next,io')) :
    (∃ held boundJid, advance = .done (.streamReset held boundJid)) ∨
      ((advance.view next).sm.isSome → state.sm.isSome) := by
  cases state with
  | sendBindRequest smSupported =>
    rcases whenReady_cases h with ⟨-,rfl,rfl⟩ | ⟨error,-,rfl,rfl⟩ | ⟨io₁,-,h⟩
    · exact .inr id
    · exact .inr id
    · cases h; exact .inr id
  | receiveBindResponse smSupported =>
    rcases whenRead_cases h with ⟨error,rfl,rfl,rfl⟩ | ⟨-,rfl,rfl⟩ | ⟨item,io₁,-,h⟩
    · exact .inr id
    · exact .inr id
    · have hs := receiveBind_sm h
      exact .inr fun ht => by rw [hs] at ht; cases ht
  | sendSmRequest sm boundJid =>
    rcases whenReady_cases h with ⟨-,rfl,rfl⟩ | ⟨error,-,rfl,rfl⟩ | ⟨io₁,-,h⟩
    · exact .inr id
    · exact .inr id
    · cases h; exact .inr id
  | receiveSmResponse sm boundJid =>
    rcases whenRead_cases h with ⟨error,rfl,rfl,rfl⟩ | ⟨-,rfl,rfl⟩ | ⟨item,io₁,-,h⟩
    · exact .inr id
    · exact .inr id
    · exact receiveSm_sm h

/-- What is bound, and what a reset tells, is a full address. -/
structure FullAfter (advance : Advance ε) (next : NegotiationState ε) : Prop where
  next : next.Full
  reset : ∀ sm jid, advance = .done (.streamReset sm jid) → jid.resource.isSome

theorem giveUp_full {phase : String} {sm : Option (SmState ε)}
    {item : Except ReadError (XmppStreamElement ε)} (hf : state.Full)
    (h : giveUp lib phase sm state io item = (advance,next,io')) : FullAfter advance next := by
  unfold giveUp at h
  split at h <;> cases h <;> exact ⟨hf,nofun⟩

theorem bindReply_full (hlib : lib.BindsFull) {iq : Iq ε} {jid : Jid}
    (h : bindReply lib iq = .ok jid) : jid.resource.isSome := by
  unfold bindReply at h
  split at h
  · exact hlib _ _ h
  · cases h
  · cases h

theorem receiveBind_full (hlib : lib.BindsFull) {smSupported : Bool}
    {item : Except ReadError (XmppStreamElement ε)}
    (h : receiveBind lib smSupported io item = (advance,next,io')) : FullAfter advance next := by
  unfold receiveBind at h
  split at h
  · split at h
    · split at h
      · rename_i jid hb
        have hj := bindReply_full hlib hb
        split at h <;> cases h
        · exact ⟨fun _ he => by cases he; exact hj,nofun⟩
        · exact ⟨nofun,fun _ _ he => by cases he; exact hj⟩
      · cases h; exact ⟨nofun,nofun⟩
    · cases h; exact ⟨nofun,nofun⟩
  · cases h; exact ⟨nofun,nofun⟩
  · have hf : (receiveBindResponse smSupported : NegotiationState ε).Full := nofun
    exact giveUp_full hf h

theorem receiveSm_full {sm : Option (SmState ε)} {jid : Option Jid}
    {item : Except ReadError (XmppStreamElement ε)} (hf : (receiveSmResponse sm jid).Full)
    (h : receiveSm lib sm jid io item = (advance,next,io')) : FullAfter advance next := by
  unfold receiveSm at h
  split at h
  · cases h; exact ⟨hf,nofun⟩
  · split at h <;> cases h
    · exact ⟨hf,nofun⟩
    · exact ⟨nofun,fun _ _ he => by cases he; exact hf _ rfl⟩
  · split at h
    · split at h <;> cases h <;> exact ⟨hf,nofun⟩
    · cases h; exact ⟨hf,nofun⟩
  · split at h
    · cases h; exact ⟨nofun,nofun⟩
    · split at h <;> cases h
      · exact ⟨hf,nofun⟩
      · exact ⟨nofun,fun _ _ he => by cases he; exact hf _ rfl⟩
  · exact giveUp_full hf h

theorem advance_full (hlib : lib.BindsFull) {jid : Jid} (hf : state.Full)
    (h : state.advance lib jid io = (advance,next,io')) : FullAfter advance next := by
  cases state with
  | sendBindRequest smSupported =>
    rcases whenReady_cases h with ⟨-,rfl,rfl⟩ | ⟨error,-,rfl,rfl⟩ | ⟨io₁,-,h⟩
    · exact ⟨hf,fun _ _ he => by cases he⟩
    · exact ⟨hf,fun _ _ he => by cases he⟩
    · cases h; exact ⟨hf,fun _ _ he => by cases he⟩
  | receiveBindResponse smSupported =>
    rcases whenRead_cases h with ⟨error,rfl,rfl,rfl⟩ | ⟨-,rfl,rfl⟩ | ⟨item,io₁,-,h⟩
    · exact ⟨hf,fun _ _ he => by cases he⟩
    · exact ⟨hf,fun _ _ he => by cases he⟩
    · exact receiveBind_full hlib h
  | sendSmRequest sm boundJid =>
    rcases whenReady_cases h with ⟨-,rfl,rfl⟩ | ⟨error,-,rfl,rfl⟩ | ⟨io₁,-,h⟩
    · exact ⟨hf,fun _ _ he => by cases he⟩
    · exact ⟨hf,fun _ _ he => by cases he⟩
    · cases h; exact ⟨hf,fun _ _ he => by cases he⟩
  | receiveSmResponse sm boundJid =>
    rcases whenRead_cases h with ⟨error,rfl,rfl,rfl⟩ | ⟨-,rfl,rfl⟩ | ⟨item,io₁,-,h⟩
    · exact ⟨hf,fun _ _ he => by cases he⟩
    · exact ⟨hf,fun _ _ he => by cases he⟩
    · exact receiveSm_full hf h

end NegotiationState

namespace ConnectedState

variable {state next : ConnectedState ε} {turn : Turn (ConnectedEvent ε)} {st : Standing}

/-- What a turn says may come, and it leaves the connection where it may be then. -/
inductive Follows (st : Standing) : Turn (ConnectedEvent ε) → ConnectedState ε → Prop
  | panicked {next : ConnectedState ε} : Follows st .panicked next
  | pending {next : ConnectedState ε} (h : next.Fits st) : Follows st .pending next
  | again {next : ConnectedState ε} (h : next.Fits st) : Follows st .again next
  | worker {next : ConnectedState ε} {event : WorkerEvent ε} {st' : Standing}
      (hn : event.announced.elim (some st) st.next = some st') (h : next.Fits st') :
      Follows st (.event (.worker event)) next
  | disconnect {next : ConnectedState ε} {sm : Option (SmState ε)} {error : Option OpaqueIoError}
      {bound : Bool} (hn : st.next (.stream .suspended : Event ε) = some (.down bound))
      (hb : sm.isSome → bound = true) : Follows st (.event (.disconnect sm error)) next
  | remoteShutdown {next : ConnectedState ε} {sm : Option (SmState ε)} {bound : Bool}
      (hn : st.next (.stream .suspended : Event ε) = some (.down bound))
      (hb : sm.isSome → bound = true) : Follows st (.event (.remoteShutdown sm)) next
  | shutdown {next : ConnectedState ε} : Follows st (.event .localShutdownRequested) next

theorem pollNegotiation_follows (hlib : lib.BindsFull) {jid : Jid} {features : StreamFeatures}
    {substate : NegotiationState ε} (hf : (negotiating substate).Fits st)
    (h : pollNegotiation lib jid features substate io = (turn,next,io')) : Follows st turn next := by
  obtain ⟨bound,rfl,hsm,hfull⟩ : ∃ bound, st = .down bound ∧ (substate.sm.isSome → bound = true) ∧
      substate.Full := by
    cases st with
    | down bound => exact ⟨bound,rfl,hf.2.1,hf.2.2 substate rfl⟩
    | up => exact absurd rfl (hf substate)
    | finished => exact hf.elim
  unfold pollNegotiation at h
  cases ha : substate.advance lib jid io with
  | mk advance rest =>
    obtain ⟨substate',io₁⟩ := rest
    have hs := NegotiationState.advance_sm ha
    have hj := NegotiationState.advance_full hlib hfull ha
    have hfits : (∀ held boundJid, advance ≠ .done (.streamReset held boundJid)) →
        advance.view substate' = .negotiating substate' →
        (negotiating substate' : ConnectedState ε).Fits (.down bound) := by
      intro hr hv
      refine ⟨nofun,fun ht => hsm (hs.resolve_left ?_ ?_),?_⟩
      · rintro ⟨held,boundJid,he⟩
        exact hr held boundJid he
      · rw [hv]
        exact ht
      · rintro _ ⟨⟩
        exact hj.next
    rw [ha] at h
    match advance with
    | .panicked => cases h; exact .panicked
    | .pending => cases h; exact .pending (hfits nofun rfl)
    | .next none => cases h; exact .again (hfits nofun rfl)
    | .next (some stanza) => cases h; exact .worker rfl (hfits nofun rfl)
    | .done (.disconnect sm error) =>
      cases h
      exact .again ⟨nofun,fun ht => hsm (hs.resolve_left nofun ht),nofun⟩
    | .done (.streamReset sm boundJid) =>
      cases h
      exact .worker (if_pos (hj.reset sm boundJid rfl)) nofun
    | .done (.streamResumed sm) =>
      cases h
      obtain rfl := hsm (NegotiationState.advance_resumed ha)
      exact .worker rfl nofun
    | .done (.streamError error) => cases h; exact .again ⟨nofun,nofun,nofun⟩

theorem receive_follows {sm : Option (SmState ε)} {item : Item ε}
    (h : receive lib sm io item = (turn,next,io')) : Follows .up turn next := by
  unfold receive at h
  split at h
  · cases h; exact .worker rfl nofun
  · split at h
    · cases h; exact .again nofun
    · split at h <;> cases h <;> exact .again nofun
  · split at h
    · cases h; exact .again nofun
    · split at h <;> cases h
      · exact .panicked
      · exact .again nofun
  · cases h; exact .again nofun
  · cases h; exact .again nofun
  · cases h; exact .worker rfl nofun
  · cases h; exact .worker rfl nofun
  · cases h; exact .worker rfl nofun
  · cases h; exact .disconnect rfl fun _ => rfl
  · cases h; exact .again nofun

theorem pollReady_follows {sm : Option (SmState ε)} (h : pollReady lib sm io = (turn,next,io')) :
    Follows .up turn next := by
  unfold pollReady at h
  split at h
  · cases h; exact .panicked
  · cases h; exact .shutdown
  · cases h; exact .again nofun
  · split at h
    · cases h; exact .pending nofun
    · exact receive_follows h

theorem fits_sendStreamError (hst : st ≠ .finished) (streamError : Option StreamError)
    (ioError : Option OpaqueIoError) : (sendStreamError streamError ioError : ConnectedState ε).Fits st := by
  cases st with
  | down bound => exact ⟨nofun,nofun,nofun⟩
  | up => nofun
  | finished => exact absurd rfl hst

theorem fits_failed (hst : st ≠ .finished) (error : Option OpaqueIoError) :
    (failed error none : ConnectedState ε).Fits st := by
  cases st with
  | down bound => exact ⟨nofun,nofun,nofun⟩
  | up => nofun
  | finished => exact absurd rfl hst

theorem pollStreamError_follows {streamError : Option StreamError} {ioError : Option OpaqueIoError}
    (hst : st ≠ .finished) (h : pollStreamError lib streamError ioError io = (turn,next,io')) :
    Follows st turn next := by
  have hflush : ∀ {e ioError io₁}, pollStreamError.flush lib e ioError io₁ = (turn,next,io') →
      Follows st turn next := by
    intro e ioError io₁ h
    unfold pollStreamError.flush at h
    split at h <;> cases h
    · exact .pending (fits_sendStreamError hst _ _)
    · exact .again (fits_failed hst _)
  unfold pollStreamError at h
  dsimp only at h
  split at h
  · cases h; exact .again (fits_failed hst _)
  · split at h
    · exact hflush h
    · split at h
      · cases h; exact .pending (fits_sendStreamError hst _ _)
      · cases h; exact .again (fits_failed hst _)
      · exact hflush h

theorem suspended_follows {sm : Option (SmState ε)} (hst : st ≠ .finished)
    (hsm : ∀ bound, st = .down bound → sm.isSome → bound = true) :
    ∃ bound, st.next (.stream .suspended : Event ε) = some (.down bound) ∧
      (sm.isSome → bound = true) := by
  cases st with
  | down bound => exact ⟨bound,by cases bound <;> rfl,hsm bound rfl⟩
  | up => exact ⟨true,rfl,fun _ => rfl⟩
  | finished => exact absurd rfl hst

theorem Fits.ne_finished (hf : state.Fits st) : st ≠ .finished := by
  rintro rfl
  exact hf

theorem poll_follows (hlib : lib.BindsFull) {jid : Jid} {features : StreamFeatures} (hf : state.Fits st)
    (h : state.poll lib jid features io = (turn,next,io')) : Follows st turn next := by
  cases state with
  | negotiating substate => exact pollNegotiation_follows hlib hf h
  | ready sm =>
    cases st with
    | down bound => exact absurd rfl (hf.1 sm)
    | up => exact pollReady_follows h
    | finished => exact hf.elim
  | sendStreamError streamError ioError => exact pollStreamError_follows hf.ne_finished h
  | failed error sm =>
    cases h
    have hsm : ∀ bound, st = .down bound → sm.isSome → bound = true := by rintro bound rfl; exact hf.2.1
    obtain ⟨bound,hn,hb⟩ := suspended_follows hf.ne_finished hsm
    exact .disconnect hn hb
  | remoteShutdown sm =>
    cases h
    have hsm : ∀ bound, st = .down bound → sm.isSome → bound = true := by rintro bound rfl; exact hf.2.1
    obtain ⟨bound,hn,hb⟩ := suspended_follows hf.ne_finished hsm
    exact .remoteShutdown hn hb
  | localShutdown txClosed rx => cases h; exact .panicked
  | localShutdownComplete => cases h; exact .panicked

theorem pollWrites_fits (hf : state.Fits st) (h : state.pollWrites lib io = some (next,io')) :
    next.Fits st := by
  cases state with
  | ready sm =>
    cases st with
    | down bound => exact absurd rfl (hf.1 sm)
    | up =>
      unfold pollWrites at h
      dsimp only at h
      split at h <;> cases h <;> nofun
    | finished => exact hf.elim
  | negotiating substate => cases h; exact hf
  | sendStreamError streamError ioError => cases h; exact hf
  | failed error sm => cases h; exact hf
  | remoteShutdown sm => cases h; exact hf
  | localShutdown txClosed rx => cases h; exact hf
  | localShutdownComplete => cases h; exact hf

end ConnectedState

namespace WorkerStream

variable {stream stream' : WorkerStream ε} {event : Turn (Option (WorkerEvent ε))} {st : Standing}

/-- The same for the stream; at its end nothing is asked of it any more. -/
inductive Follows (st : Standing) : Turn (Option (WorkerEvent ε)) → WorkerStream ε → Prop
  | panicked {stream : WorkerStream ε} : Follows st .panicked stream
  | pending {stream : WorkerStream ε} (h : stream.Fits st) : Follows st .pending stream
  | again {stream : WorkerStream ε} (h : stream.Fits st) : Follows st .again stream
  | event {stream : WorkerStream ε} {event : WorkerEvent ε} {st' : Standing}
      (hn : event.announced.elim (some st) st.next = some st') (h : stream.Fits st') :
      Follows st (.event (some event)) stream
  | ended {stream : WorkerStream ε} : Follows st (.event none) stream

theorem turn_follows (hlib : lib.BindsFull) (hf : stream.Fits st)
    (h : stream.turn lib io = (event,stream',io')) :
    Follows st event stream' := by
  match stream with
  | .terminated => cases h; exact .ended
  | .connecting .unassigned sm => cases h; exact .pending hf
  | .connecting .waiting sm => cases h; exact .pending hf
  | .connecting .dropped sm => cases h; exact .event rfl trivial
  | .connecting (.filled (.error error)) sm =>
    cases h
    obtain ⟨bound,rfl,-⟩ := hf
    have hn : (Standing.down bound).next (.stream (.fatal error) : Event ε) = some .finished := by
      cases bound <;> rfl
    exact .event hn trivial
  | .connecting (.filled (.ok (features,identity))) sm =>
    obtain ⟨bound,rfl,hsm⟩ := hf
    unfold turn at h
    cases hn : NegotiationState.new features sm with
    | error e => simp only [hn] at h; cases h; exact .panicked
    | ok substate =>
      simp only [hn] at h
      cases h
      unfold NegotiationState.new at hn
      split at hn
      · cases hn
        exact .again ⟨nofun,hsm,by rintro _ ⟨⟩; exact nofun⟩
      · split at hn <;> cases hn
        exact .again ⟨nofun,nofun,by rintro _ ⟨⟩; exact nofun⟩
  | .connected substate features identity =>
    unfold turn at h
    cases hp : substate.poll lib identity features io with
    | mk t rest =>
      obtain ⟨substate',io₁⟩ := rest
      have hfollows := ConnectedState.poll_follows hlib hf hp
      simp only [hp] at h
      cases hfollows with
      | panicked => cases h; exact .panicked
      | pending hs => cases h; exact .pending hs
      | again hs => cases h; exact .again hs
      | shutdown => cases h; exact .ended
      | disconnect hn hb => cases h; exact .event hn ⟨_,rfl,hb⟩
      | remoteShutdown hn hb => cases h; exact .event hn ⟨_,rfl,hb⟩
      | @worker _ event st' hn hs =>
        cases event with
        | reset boundJid fs => cases h; exact .event hn hs
        | resumed => cases h; exact .event hn hs
        | stanza stanza => cases h; exact .event hn hs
        | parseError e => cases h; exact .event hn hs
        | softTimeout => cases h; exact .event hn hs
        | disconnected => cases h; exact .event hn hs
        | fatal error => cases h; exact .event hn hs
        | reconnectAborted => cases h; exact .event hn hs

theorem pollDuplex_follows (hlib : lib.BindsFull) {answers : List (Answers ε)} (hf : stream.Fits st)
    (h : stream.pollDuplex lib answers io = (event,stream',io')) : Follows st event stream' := by
  induction answers generalizing stream io with
  | nil => cases h; exact .pending hf
  | cons answer answers ih =>
    unfold pollDuplex at h
    cases ht : stream.turn lib { io with answers := answer } with
    | mk t rest =>
      obtain ⟨stream₁,io₁⟩ := rest
      have hl := turn_follows hlib hf ht
      rw [ht] at h
      cases hl with
      | panicked => cases h; exact .panicked
      | pending hs => cases h; exact .pending hs
      | again hs => exact ih hs h
      | event hn hs => cases h; exact .event hn hs
      | ended => cases h; exact .ended

theorem pollWrites_fits (hf : stream.Fits st) (h : stream.pollWrites lib io = some (stream',io')) :
    stream'.Fits st := by
  match stream with
  | .terminated => cases h; exact hf
  | .connecting slot sm => cases h; exact hf
  | .connected substate features identity =>
    simp only [pollWrites,Option.map_eq_some_iff] at h
    obtain ⟨⟨substate',io₁⟩,hp,he⟩ := h
    cases he
    exact ConnectedState.pollWrites_fits hf hp

theorem startSendStreamError_fits (hf : stream.Fits st) (error : StreamError) :
    (stream.startSendStreamError error).Fits st := by
  match stream with
  | .terminated => trivial
  | .connecting slot sm => trivial
  | .connected substate features identity =>
    have hst := ConnectedState.Fits.ne_finished hf
    cases substate with
    | negotiating substate => exact ConnectedState.fits_sendStreamError hst _ _
    | ready sm => exact ConnectedState.fits_sendStreamError hst _ _
    | sendStreamError streamError ioError => exact hf
    | failed error sm => exact hf
    | localShutdown txClosed rx => exact hf
    | remoteShutdown sm => exact hf
    | localShutdownComplete => exact hf

theorem queueSmRequest_fits (hf : stream.Fits st) (h : stream.queueSmRequest = some stream') :
    stream'.Fits st := by
  obtain ⟨sm,features,identity,rfl,rfl⟩ := queueSmRequest_cases h
  cases st with
  | down bound => exact absurd rfl (hf.1 (some sm))
  | up => nofun
  | finished => exact hf.elim

theorem forceDisconnect_fits (hf : stream.Fits st) (h : stream.forceDisconnect = some stream') :
    ∃ st', st.next (.stream .suspended : Event ε) = some st' ∧ stream'.Fits st' := by
  obtain ⟨sm,features,identity,rfl,rfl⟩ := forceDisconnect_cases h
  have hsm : ∀ bound, st = .down bound → sm.isSome → bound = true := by rintro bound rfl; exact hf.2.1
  obtain ⟨bound,hn,hb⟩ := ConnectedState.suspended_follows (ConnectedState.Fits.ne_finished hf) hsm
  exact ⟨_,hn,_,rfl,hb⟩

end WorkerStream

end

/-- The event that waits for the frontend. -/
def Phase.pending : Phase ε → List (Event ε)
  | .sending event _ => [event]
  | _ => []

namespace System

variable {s s' : System ε}

/-- What may happen when the peer does as it likes: on top of all that an honest peer may
do, anything may be on the wire, and anything may turn up on a read. -/
inductive Goes (lib : Library ε) : System ε → System ε → Prop
  | step {s s' : System ε} {action : Action ε} (h : s.step lib action = .moved s') : Goes lib s s'
  | poll {s s' : System ε} {answers : List (Answers ε)} (hrun : s.worker.phase = .running)
      (h : s.poll lib answers = .moved s') : Goes lib s s'
  | wire {s : System ε} (net : XmppStream ε) : Goes lib s { s with net := net }

/-- The events so far keep to the contract, and until the worker is past its end the stream
is where it may be after them. -/
def Kept (s : System ε) : Prop :=
  ∃ st, (Standing.down false).after (s.events ++ s.worker.phase.pending) = some st ∧
    (s.worker.phase ≠ .closing → s.worker.stream.Fits st)

theorem kept_start (ctr : BitVec 64) : (start ctr : System ε).Kept :=
  ⟨.down false,rfl,fun _ => ⟨false,rfl,nofun⟩⟩

theorem after_snoc (st : Standing) (events : List (Event ε)) (event : Event ε) :
    st.after (events ++ [event]) = (st.after events).bind (·.next event) := by
  unfold Standing.after
  rw [List.foldlM_append]
  cases events.foldlM Standing.next st with
  | none => rfl
  | some st₁ =>
    show ([event].foldlM Standing.next st₁ : Option Standing) = st₁.next event
    rw [List.foldlM_cons]
    cases st₁.next event <;> rfl

theorem kept_of_idle {st : Standing} (hp : s.worker.phase.pending = [])
    (hst : (Standing.down false).after s.events = some st)
    (hf : s.worker.phase ≠ .closing → s.worker.stream.Fits st) : s.Kept :=
  ⟨st,by rw [hp,List.append_nil]; exact hst,hf⟩

theorem Kept.idle (hk : s.Kept) (hp : s.worker.phase.pending = []) :
    ∃ st, (Standing.down false).after s.events = some st ∧
      (s.worker.phase ≠ .closing → s.worker.stream.Fits st) := by
  obtain ⟨st,hst,hf⟩ := hk
  rw [hp,List.append_nil] at hst
  exact ⟨st,hst,hf⟩

theorem kept_of_sending {st st' : Standing} {event : Event ε} {after : After}
    (hp : s.worker.phase = .sending event after) (hst : (Standing.down false).after s.events = some st)
    (hn : st.next event = some st') (hf : s.worker.stream.Fits st') : s.Kept := by
  refine ⟨st',?_,fun _ => hf⟩
  rw [hp]
  show (Standing.down false).after (s.events ++ [event]) = some st'
  rw [after_snoc,hst]
  exact hn

theorem handle_kept {event : Option (WorkerEvent ε)} {worker : StanzaStreamWorker ε} {st : Standing}
    (hrun : s.worker.phase = .running) (hst : (Standing.down false).after s.events = some st)
    (hf : WorkerStream.Follows st (.event event) s.worker.stream)
    (h : s.worker.handle lib event = some worker) : Kept { s with worker := worker } := by
  have hidle : s.worker.phase.pending = [] := by rw [hrun]; rfl
  cases hf with
  | ended => cases h; exact kept_of_idle rfl hst fun hc => absurd rfl hc
  | @event _ event st' hn hs =>
    cases event with
    | reset boundJid features => cases h; exact kept_of_sending rfl hst hn hs
    | resumed => cases h; exact kept_of_sending rfl hst hn hs
    | stanza stanza => cases h; exact kept_of_sending rfl hst hn hs
    | disconnected => cases h; exact kept_of_sending rfl hst hn hs
    | fatal error => cases h; exact kept_of_sending rfl hst hn hs
    | reconnectAborted => cases h
    | parseError e =>
      cases h
      cases hn
      exact kept_of_idle hidle hst fun _ => WorkerStream.startSendStreamError_fits hs _
    | softTimeout =>
      cases hn
      unfold StanzaStreamWorker.handle at h
      dsimp only at h
      split at h
      · rename_i stream hq
        cases h
        exact kept_of_idle hidle hst fun _ => WorkerStream.queueSmRequest_fits hs hq
      · cases h
        exact kept_of_idle hidle hst fun _ => hs

theorem poll_kept (hlib : lib.BindsFull) {answers : List (Answers ε)} (hk : s.Kept)
    (hrun : s.worker.phase = .running)
    (h : s.poll lib answers = .moved s') : s'.Kept := by
  have hidle : s.worker.phase.pending = [] := by rw [hrun]; rfl
  obtain ⟨st,hst,hf⟩ := hk.idle hidle
  have hf := hf (by rw [hrun]; nofun)
  rcases poll_cases h with ⟨t,stream,io,hp,ht,rfl⟩ | ⟨event,stream,io,worker,hp,hw,rfl⟩
  · have hl := WorkerStream.pollDuplex_follows hlib hf hp
    rcases ht with rfl | rfl
    · cases hl with
      | pending hs => exact kept_of_idle hidle hst fun _ => hs
    · cases hl with
      | again hs => exact kept_of_idle hidle hst fun _ => hs
  · exact handle_kept (s := s.put stream io) hrun hst (WorkerStream.pollDuplex_follows hlib hf hp) hw

theorem accept_kept {event : Event ε} {after : After} (hk : s.Kept)
    (hp : s.worker.phase = .sending event after) : Kept { s with
      worker := s.worker.resume s.frontendClosed after, events := s.events ++ [event] } := by
  obtain ⟨st,hst,hf⟩ := hk
  have hf := hf (by rw [hp]; nofun)
  rw [hp] at hst
  cases after with
  | again => exact kept_of_idle rfl hst fun _ => hf
  | stop => exact kept_of_idle rfl hst fun hc => absurd rfl hc
  | reconnect =>
    unfold StanzaStreamWorker.resume
    dsimp only
    split
    · exact kept_of_idle rfl hst fun hc => absurd rfl hc
    · split
      · rename_i sm hstream
        rw [hstream] at hf
        exact kept_of_idle rfl hst fun _ => hf
      · exact kept_of_idle rfl hst fun _ => hf

theorem fill_kept {slot : Slot} {sm : Option (SmState ε)} (hk : s.Kept)
    (hrun : s.worker.phase = .running) (hstream : s.worker.stream = .connecting .waiting sm)
    (hslot : (WorkerStream.connecting slot sm).view.sm.isSome → sm.isSome) :
    Kept { s with worker.stream := .connecting slot sm } := by
  have hidle : s.worker.phase.pending = [] := by rw [hrun]; rfl
  obtain ⟨st,hst,hf⟩ := hk.idle hidle
  refine kept_of_idle hidle hst fun hc => ?_
  have hf := hf hc
  rw [hstream] at hf
  obtain ⟨bound,rfl,hsm⟩ := hf
  exact ⟨bound,rfl,fun hs => hsm (hslot hs)⟩

theorem giveUp_kept (hk : s.Kept) : Kept { s with worker.phase := .closing } := by
  obtain ⟨st,hst,-⟩ := hk
  cases hp : s.worker.phase.pending with
  | nil =>
    rw [hp,List.append_nil] at hst
    exact kept_of_idle rfl hst fun hc => absurd rfl hc
  | cons event rest =>
    obtain ⟨st₁,hst₁⟩ : ∃ st₁, (Standing.down false).after s.events = some st₁ := by
      unfold Standing.after at hst ⊢
      rw [List.foldlM_append] at hst
      cases hfold : s.events.foldlM Standing.next (Standing.down false) with
      | none => rw [hfold] at hst; cases hst
      | some st₁ => exact ⟨st₁,rfl⟩
    exact kept_of_idle rfl hst₁ fun hc => absurd rfl hc

theorem reconnectRequested_kept (hk : s.Kept) (hrun : s.worker.phase = .running) :
    Kept { s with worker := s.worker.reconnectRequested } := by
  have hidle : s.worker.phase.pending = [] := by rw [hrun]; rfl
  obtain ⟨st,hst,hf⟩ := hk.idle hidle
  have hf := hf (by rw [hrun]; nofun)
  unfold StanzaStreamWorker.reconnectRequested
  split
  · rename_i stream hd
    obtain ⟨st',hn,hs⟩ := WorkerStream.forceDisconnect_fits hf hd
    exact kept_of_sending rfl hst hn hs
  · exact hk

theorem step_kept (hlib : lib.BindsFull) {action : Action ε} (hk : s.Kept)
    (h : s.step lib action = .moved s') : s'.Kept := by
  cases step_cases h with
  | submit => exact hk
  | closeQueue => exact hk
  | closeFrontend => exact hk
  | poll hrun hstray h => exact poll_kept hlib hk hrun h
  | drive hphase hw =>
    obtain ⟨st,hst,hf⟩ := hk
    exact ⟨st,hst,fun hc => WorkerStream.pollWrites_fits (hf hc) hw⟩
  | accept hphase => exact accept_kept hk hphase
  | giveUp => exact giveUp_kept hk
  | requestReconnect hrun => exact reconnectRequested_kept hk hrun
  | @connect features identity sm hrun hstream =>
    have hs : Kept { s with worker.stream := .connecting (.filled (.ok (features,identity))) sm } :=
      fill_kept hk hrun hstream id
    exact hs
  | connectFails hrun hstream => exact fill_kept hk hrun hstream nofun
  | connectorDrops hrun hstream => exact fill_kept hk hrun hstream nofun
  | peer => exact hk

theorem goes_kept (hlib : lib.BindsFull) (hk : s.Kept) (h : Goes lib s s') : s'.Kept := by
  cases h with
  | step h => exact step_kept hlib hk h
  | poll hrun h => exact poll_kept hlib hk hrun h
  | wire net => exact hk

theorem kept_of_goes (hlib : lib.BindsFull) {ctr : BitVec 64}
    (h : ReflTransGen (Goes lib) (start ctr) s) : s.Kept := by
  induction h with
  | refl => exact kept_start ctr
  | tail _ h ih => exact goes_kept hlib ih h

/-- Any run is one with a peer that does as it likes. -/
theorem goes_of_run {allowed : System ε → Action ε → Bool} {actions : List (Action ε)}
    (h : run lib allowed actions s = some s') : ReflTransGen (Goes lib) s s' := by
  induction actions generalizing s with
  | nil => cases h; exact .refl
  | cons action actions ih =>
    unfold run at h
    split at h
    · cases hstep : s.step lib action with
      | disabled => rw [hstep] at h; cases h
      | panicked => rw [hstep] at h; cases h
      | moved s₁ =>
        rw [hstep] at h
        exact .head (.step hstep) (ih h)
    · cases h

/-- Whatever the peer does and the transport answers, the events keep to the contract: the
stream is resumed only where it was bound to a full address, is never up twice without a
suspension between, and nothing follows its failure. -/
theorem events_in_order {ctr : BitVec 64} (hlib : lib.BindsFull) (h : ReflTransGen (Goes lib) (start ctr) s) :
    ∃ st, (Standing.down false).after (s.events ++ s.worker.phase.pending) = some st := by
  obtain ⟨st,hst,-⟩ := kept_of_goes hlib h
  exact ⟨st,hst⟩

theorem withoutPresence_bindsFull : withoutPresence.BindsFull := by
  rintro payload _ ⟨⟩
  rfl

theorem events_in_order_interrupted : ∃ s, ReflTransGen (Goes withoutPresence) (start 0) s ∧
    ∃ st, (Standing.down false).after (s.events ++ s.worker.phase.pending) = some st := by
  obtain ⟨s,hs⟩ := exists_interrupted
  exact ⟨s,goes_of_run hs,events_in_order withoutPresence_bindsFull (goes_of_run hs)⟩

end System

end MindChat.StanzaStream
