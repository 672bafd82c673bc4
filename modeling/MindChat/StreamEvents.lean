import MindChat.StreamClient

/-! Which events the stream gives out and where it is then. -/

namespace MindChat.StanzaStream

open Polling

variable {ε : Type}

/-- The events of an established connection, with its state before and after. -/
inductive Emits : ConnectedState ε → WorkerEvent ε → ConnectedState ε → Prop
  | reset {state : NegotiationState ε} {sm : Option (SmState ε)} {jid : Jid} {features : StreamFeatures} :
      Emits (.negotiating state) (.reset jid features) (.ready sm)
  | resumed {state : NegotiationState ε} {sm : SmState ε} (h : state.sm.isSome) :
      Emits (.negotiating state) .resumed (.ready (some sm))
  | early {state state' : NegotiationState ε} {stanza : Stanza ε} :
      Emits (.negotiating state) (.stanza stanza) (.negotiating state')
  | stanza {sm sm' : Option (SmState ε)} {stanza : Stanza ε} :
      Emits (.ready sm) (.stanza stanza) (.ready sm')
  | parseError {sm sm' : Option (SmState ε)} {e : XsoError} :
      Emits (.ready sm) (.parseError e) (.ready sm')
  | softTimeout {sm sm' : Option (SmState ε)} : Emits (.ready sm) .softTimeout (.ready sm')

variable {lib : Library ε} {io io' : Io ε}

namespace NegotiationState

variable {state next : NegotiationState ε} {advance : Advance ε} {sm : SmState ε}

theorem receiveBind_not_resumed {smSupported : Bool} {item : Except ReadError (XmppStreamElement ε)} :
    receiveBind lib smSupported io item ≠ (.done (.streamResumed sm),next,io') := by
  match item with
  | .ok (.streamError text) => nofun
  | .ok .sasl => nofun
  | .ok .starttls => nofun
  | .ok .componentHandshake => nofun
  | .ok (.sm nonza) => nofun
  | .error e => cases e <;> nofun
  | .ok (.stanza (.message id content)) => nofun
  | .ok (.stanza (.presence id content)) => nofun
  | .ok (.stanza (.iq iq)) =>
    unfold receiveBind
    dsimp only
    split
    · cases bindReply lib iq with
      | error text => nofun
      | ok jid => cases smSupported <;> nofun
    · nofun

theorem receiveSm_not_resumed {jid : Option Jid} {item : Except ReadError (XmppStreamElement ε)} :
    receiveSm lib none jid io item ≠ (.done (.streamResumed sm),next,io') := by
  match item with
  | .ok (.streamError text) => nofun
  | .ok .sasl => nofun
  | .ok .starttls => nofun
  | .ok .componentHandshake => nofun
  | .error e => cases e <;> nofun
  | .ok (.stanza stanza) => nofun
  | .ok (.sm (.enabled enabled)) => cases jid <;> nofun
  | .ok (.sm (.failed h)) => cases jid <;> nofun
  | .ok (.sm (.resumed h id)) => nofun
  | .ok (.sm (.resume h id)) => nofun
  | .ok (.sm (.enable max resume)) => nofun
  | .ok (.sm (.ack h)) => nofun
  | .ok (.sm .req) => nofun

theorem advance_resumed {jid : Jid}
    (h : state.advance lib jid io = (.done (.streamResumed sm),next,io')) : state.sm.isSome := by
  cases state with
  | sendBindRequest smSupported =>
    rcases whenReady_cases h with ⟨-,h,-⟩ | ⟨error,-,h,-⟩ | ⟨io₁,-,h⟩ <;> cases h
  | receiveBindResponse smSupported =>
    rcases whenRead_cases h with ⟨error,h,-,-⟩ | ⟨-,h,-⟩ | ⟨item,io₁,-,h⟩
    · cases h
    · cases h
    · exact absurd h receiveBind_not_resumed
  | sendSmRequest held boundJid =>
    rcases whenReady_cases h with ⟨-,h,-⟩ | ⟨error,-,h,-⟩ | ⟨io₁,-,h⟩ <;> cases h
  | receiveSmResponse held boundJid =>
    cases held with
    | some st => rfl
    | none =>
      rcases whenRead_cases h with ⟨error,h,-,-⟩ | ⟨-,h,-⟩ | ⟨item,io₁,-,h⟩
      · cases h
      · cases h
      · exact absurd h receiveSm_not_resumed

end NegotiationState

namespace ConnectedState

variable {state next : ConnectedState ε} {event : WorkerEvent ε}

theorem receive_emits {sm sm' : Option (SmState ε)} {item : Item ε}
    (h : receive lib sm' io item = (.event (.worker event),next,io')) :
    Emits (.ready sm) event next := by
  match item with
  | .error .softTimeout => cases h; exact .softTimeout
  | .error (.hardError e) => cases h
  | .error (.parseError e) => cases h; exact .parseError
  | .error .streamFooterReceived => cases h
  | .ok (.error (.invalidStanza text e)) => cases h
  | .ok (.error (.invalidNonza text e)) => cases h; exact .parseError
  | .ok (.ok (.stanza stanza)) => cases h; exact .stanza
  | .ok (.ok .sasl) => cases h
  | .ok (.ok .starttls) => cases h
  | .ok (.ok .componentHandshake) => cases h
  | .ok (.ok (.streamError text)) => cases h
  | .ok (.ok (.sm (.enable max resume))) => cases h
  | .ok (.ok (.sm (.enabled enabled))) => cases h
  | .ok (.ok (.sm (.resume n previd))) => cases h
  | .ok (.ok (.sm (.resumed n previd))) => cases h
  | .ok (.ok (.sm (.failed n))) => cases h
  | .ok (.ok (.sm (.ack n))) =>
    cases sm' with
    | none => cases h
    | some st =>
      unfold receive at h
      dsimp only at h
      cases hr : st.remoteAcked io.tokens n <;> rw [hr] at h <;> cases h
  | .ok (.ok (.sm .req)) =>
    cases sm' with
    | none => cases h
    | some st =>
      unfold receive at h
      dsimp only at h
      split at h <;> cases h

theorem receive_not_shutdown {sm : Option (SmState ε)} {item : Item ε} :
    receive lib sm io item ≠ (.event .localShutdownRequested,next,io') := by
  match item with
  | .error e => cases e <;> nofun
  | .ok (.error e) => cases e <;> nofun
  | .ok (.ok (.stanza stanza)) => nofun
  | .ok (.ok .sasl) => nofun
  | .ok (.ok .starttls) => nofun
  | .ok (.ok .componentHandshake) => nofun
  | .ok (.ok (.streamError text)) => nofun
  | .ok (.ok (.sm (.enable max resume))) => nofun
  | .ok (.ok (.sm (.enabled enabled))) => nofun
  | .ok (.ok (.sm (.resume n previd))) => nofun
  | .ok (.ok (.sm (.resumed n previd))) => nofun
  | .ok (.ok (.sm (.failed n))) => nofun
  | .ok (.ok (.sm (.ack n))) =>
    cases sm with
    | none => nofun
    | some st =>
      unfold receive
      dsimp only
      cases st.remoteAcked io.tokens n <;> nofun
  | .ok (.ok (.sm .req)) =>
    cases sm with
    | none => nofun
    | some st =>
      unfold receive
      dsimp only
      split <;> nofun

theorem poll_emits {jid : Jid} {features : StreamFeatures}
    (h : state.poll lib jid features io = (.event (.worker event),next,io')) :
    Emits state event next := by
  cases state with
  | negotiating substate =>
    unfold poll pollNegotiation at h
    dsimp only at h
    cases ha : substate.advance lib jid io with
    | mk advance rest =>
      obtain ⟨substate',io₁⟩ := rest
      rw [ha] at h
      match advance with
      | .panicked => cases h
      | .pending => cases h
      | .next none => cases h
      | .next (some stanza) => cases h; exact .early
      | .done (.disconnect sm error) => cases h
      | .done (.streamReset sm boundJid) => cases h; exact .reset
      | .done (.streamResumed sm) => cases h; exact .resumed (NegotiationState.advance_resumed ha)
      | .done (.streamError error) => cases h
  | ready sm =>
    unfold poll pollReady at h
    dsimp only at h
    split at h
    · cases h
    · cases h
    · cases h
    · split at h
      · cases h
      · exact receive_emits h
  | sendStreamError streamError ioError =>
    unfold poll pollStreamError pollStreamError.flush at h
    dsimp only at h
    split at h
    · cases h
    · split at h
      · split at h <;> cases h
      · split at h
        · cases h
        · cases h
        · split at h <;> cases h
  | failed error sm => cases h
  | localShutdown txClosed rx => cases h
  | remoteShutdown sm => cases h
  | localShutdownComplete => cases h

theorem poll_shutdown {jid : Jid} {features : StreamFeatures}
    (h : state.poll lib jid features io = (.event .localShutdownRequested,next,io')) :
    next.view = .finished := by
  cases state with
  | negotiating substate =>
    unfold poll pollNegotiation at h
    dsimp only at h
    split at h <;> cases h
  | ready sm =>
    unfold poll pollReady at h
    dsimp only at h
    split at h
    · cases h
    · cases h; rfl
    · cases h
    · split at h
      · cases h
      · exact absurd h receive_not_shutdown
  | sendStreamError streamError ioError =>
    unfold poll pollStreamError pollStreamError.flush at h
    dsimp only at h
    split at h
    · cases h
    · split at h
      · split at h <;> cases h
      · split at h
        · cases h
        · cases h
        · split at h <;> cases h
  | failed error sm => cases h
  | localShutdown txClosed rx => cases h
  | remoteShutdown sm => cases h
  | localShutdownComplete => cases h

end ConnectedState

end MindChat.StanzaStream
