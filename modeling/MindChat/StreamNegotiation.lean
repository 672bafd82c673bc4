import MindChat.StreamWrites

/-! Negotiation on a fresh connection: binding a resource, enabling stream management
or resuming a session under it. -/

namespace MindChat.StanzaStream

open Polling

/-- `StreamFeatures` as far as the negotiation reads it. -/
structure StreamFeatures where
  bind : Bool
  streamManagement : Bool
  deriving DecidableEq

inductive NegotiationState (ε : Type)
  | sendSmRequest (sm : Option (SmState ε)) (boundJid : Option Jid)
  | receiveSmResponse (sm : Option (SmState ε)) (boundJid : Option Jid)
  | sendBindRequest (smSupported : Bool)
  | receiveBindResponse (smSupported : Bool)

inductive NegotiationResult (ε : Type)
  | disconnect (sm : Option (SmState ε)) (error : OpaqueIoError)
  | streamReset (sm : Option (SmState ε)) (boundJid : Jid)
  | streamResumed (sm : SmState ε)
  | streamError (error : StreamError)

/-- What a turn of the negotiation comes to: `next` asks for another turn and may hand
on a stanza. -/
inductive Advance (ε : Type)
  | panicked
  | pending
  | next (stanza : Option (Stanza ε))
  | done (result : NegotiationResult ε)

def bindReqId : String := "resource-binding"

def XsoError.text : XsoError → String
  | .xmlError text => text
  | .textParseError text => text
  | .other text => text
  | .typeMismatch text => text

def StreamElementError.text : StreamElementError → String
  | .invalidStanza text _ => text
  | .invalidNonza text _ => text

def parseErrorToStreamError (e : XsoError) : StreamError :=
  let condition := match e with
    | .xmlError _ => DefinedCondition.notWellFormed
    | .textParseError _ => .invalidXml
    | .other _ => .invalidXml
    | .typeMismatch _ => .unsupportedStanzaType
  .defined condition e.text []

def eofBeforeFooter : OpaqueIoError := ⟨.unexpectedEof,"eof before stream footer"⟩

variable {ε : Type}

/-- `into_read_error` and `flatten` on what was read; the end is an error too. -/
def flattenItem : Option (Item ε) → Except ReadError (XmppStreamElement ε)
  | none => .error (.hardError eofBeforeFooter)
  | some (.error e) => .error e
  | some (.ok (.ok element)) => .ok element
  | some (.ok (.error e)) => .error (.hardError ⟨.invalidData,e.text⟩)

namespace NegotiationState

def new (features : StreamFeatures) (sm : Option (SmState ε)) :
    Except OpaqueIoError (NegotiationState ε) :=
  if sm.isSome ∧ features.streamManagement then .ok (.sendSmRequest sm none)
  else if features.bind then .ok (.sendBindRequest features.streamManagement)
  else .error ⟨.invalidData,
    "Peer is not offering the bind feature. Cannot proceed with stream negotiation."⟩

/-- The answer to the bind request: the bound address or the text of the refusal. -/
def bindReply (lib : Library ε) : Iq ε → Except String Jid
  | .result _ _ _ (some payload) => lib.bindResponse payload
  | .result _ _ _ none => .error "Bind response has no payload"
  | _ => .error "Unexpected IQ type in response to bind request"

/-- An element that has no place in a negotiation, or a failed read. `sm` is what a
later resumption may use, `phase` the words for this part of the negotiation. -/
def giveUp (lib : Library ε) (phase : String) (sm : Option (SmState ε)) (state : NegotiationState ε)
    (io : Io ε) : Except ReadError (XmppStreamElement ε) →
      Advance ε × NegotiationState ε × Io ε
  | .ok (.streamError text) =>
    let error : OpaqueIoError := ⟨.other,text⟩
    let (queue,tokens) := io.queue.fail io.tokens error
    (.done (.disconnect none error),state,{ io with queue := queue, tokens := tokens })
  | .ok other =>
    (.done (.streamError (.defined .unsupportedStanzaType
      ("Unsupported stream element during " ++ phase ++ ": " ++ lib.debug other) [])),state,io)
  | .error .softTimeout => (.next none,state,io)
  | .error (.parseError e) => (.done (.streamError (parseErrorToStreamError e)),state,io)
  | .error (.hardError error) => (.done (.disconnect sm error),state,io)
  | .error .streamFooterReceived =>
    (.done (.disconnect sm ⟨.invalidData,"stream footer received during negotiation"⟩),state,io)

def receiveBind (lib : Library ε) (smSupported : Bool) (io : Io ε)
    (item : Except ReadError (XmppStreamElement ε)) : Advance ε × NegotiationState ε × Io ε :=
  let state := NegotiationState.receiveBindResponse smSupported
  match item with
  | .ok (.stanza (.iq iq)) =>
    if iq.id = bindReqId then
      match bindReply lib iq with
      | .ok boundJid =>
        if smSupported then (.next none,.sendSmRequest none (some boundJid),io)
        else (.done (.streamReset none boundJid),state,io)
      | .error text =>
        (.done (.streamError (.defined .undefinedCondition text ["parse-error"])),state,io)
    else (.next none,state,io)
  | .ok (.stanza _) => (.next none,state,io)
  | item => giveUp lib "bind" none state io item

def receiveSm (lib : Library ε) (sm : Option (SmState ε)) (boundJid : Option Jid) (io : Io ε)
    (item : Except ReadError (XmppStreamElement ε)) : Advance ε × NegotiationState ε × Io ε :=
  let state := NegotiationState.receiveSmResponse sm boundJid
  match item with
  | .ok (.stanza data) => (.next (some data),state,io)
  | .ok (.sm (.enabled enabled)) =>
    match boundJid with
    | none => (.panicked,state,io)
    | some jid => (.done (.streamReset (some (.ofEnabled enabled)) jid),
        .receiveSmResponse sm none,io)
  | .ok (.sm (.resumed h _)) =>
    match sm with
    | some st =>
      match st.resume io.tokens h with
      | .ok (toRetransmit,st,tokens) =>
        (.done (.streamResumed st),.receiveSmResponse none boundJid,
          { io with queue := io.queue.requeueAll toRetransmit, tokens := tokens })
      | .error e => (.done (.streamError (.handledCountTooHigh e.handledCountTooHigh)),
          .receiveSmResponse none boundJid,io)
    | none => (.done (.disconnect none ⟨.invalidData,
        "Peer replied to <sm:enable/> request with <sm:resumed/> response"⟩),state,io)
  | .ok (.sm (.failed h)) =>
    match sm with
    | some st =>
      -- the count of a refusal is used where it makes sense and ignored otherwise
      let tokens := match h.map (st.remoteAcked io.tokens) with
        | some (.ok (_,tokens)) => tokens
        | _ => io.tokens
      (.next none,.sendBindRequest true,{ io with tokens := tokens })
    | none =>
      match boundJid with
      | none => (.panicked,state,io)
      | some jid => (.done (.streamReset none jid),.receiveSmResponse sm none,io)
  | item => giveUp lib "negotiation" sm state io item

/-- The request that opens stream management: to resume, where there is a session
that can be, and to enable it otherwise. -/
def smRequest (sm : Option (SmState ε)) : Nonza :=
  match sm.bind SmState.resumeInfo with
  | some (id,inboundCtr) => .resume inboundCtr id
  | none => .enable none true

/-- `send` once the stream is ready; without it the stream is broken. -/
def whenReady (sm : Option (SmState ε)) (state : NegotiationState ε) (io : Io ε)
    (send : Io ε → Advance ε × NegotiationState ε × Io ε) : Advance ε × NegotiationState ε × Io ε :=
  match io.pollReady with
  | (.pending,io) => (.pending,state,io)
  | (.ready (.error error),io) => (.done (.disconnect sm error),state,io)
  | (.ready (.ok ()),io) => send io

/-- Flush, which need not finish, and `receive` what there is to read. -/
def whenRead (sm : Option (SmState ε)) (state : NegotiationState ε) (io : Io ε)
    (receive : Io ε → Except ReadError (XmppStreamElement ε) →
      Advance ε × NegotiationState ε × Io ε) : Advance ε × NegotiationState ε × Io ε :=
  match io.answers.flush with
  | .ready (.error error) => (.done (.disconnect sm error),state,io)
  | _ =>
    match io.pollNext with
    | (.pending,io) => (.pending,state,io)
    | (.ready item,io) => receive io (flattenItem item)

theorem whenReady_cases {sm : Option (SmState ε)} {state next : NegotiationState ε} {io io' : Io ε}
    {send : Io ε → Advance ε × NegotiationState ε × Io ε} {advance : Advance ε}
    (h : whenReady sm state io send = (advance,next,io')) :
    (io.pollReady = (.pending,io') ∧ advance = .pending ∧ next = state) ∨
    (∃ error, io.pollReady = (.ready (.error error),io') ∧
      advance = .done (.disconnect sm error) ∧ next = state) ∨
    ∃ io₁, io.pollReady = (.ready (.ok ()),io₁) ∧ send io₁ = (advance,next,io') := by
  unfold whenReady at h
  split at h
  · rename_i hp; cases h; exact .inl ⟨hp,rfl,rfl⟩
  · rename_i hp; cases h; exact .inr (.inl ⟨_,hp,rfl,rfl⟩)
  · rename_i hp; exact .inr (.inr ⟨_,hp,h⟩)

theorem whenRead_cases {sm : Option (SmState ε)} {state next : NegotiationState ε} {io io' : Io ε}
    {receive : Io ε → Except ReadError (XmppStreamElement ε) → Advance ε × NegotiationState ε × Io ε}
    {advance : Advance ε} (h : whenRead sm state io receive = (advance,next,io')) :
    (∃ error, advance = .done (.disconnect sm error) ∧ next = state ∧ io' = io) ∨
    (io.pollNext = (.pending,io') ∧ advance = .pending ∧ next = state) ∨
    ∃ item io₁, io.pollNext = (.ready item,io₁) ∧
      receive io₁ (flattenItem item) = (advance,next,io') := by
  unfold whenRead at h
  split at h
  · cases h; exact .inl ⟨_,rfl,rfl,rfl⟩
  · split at h
    · rename_i hp; cases h; exact .inr (.inl ⟨hp,rfl,rfl⟩)
    · rename_i hp; exact .inr (.inr ⟨_,_,hp,h⟩)

def advance (lib : Library ε) (jid : Jid) (state : NegotiationState ε) (io : Io ε) :
    Advance ε × NegotiationState ε × Io ε :=
  match state with
  | .sendBindRequest smSupported => whenReady none state io fun io =>
    (.next none,.receiveBindResponse smSupported,io.send (.bind jid.resource))
  | .receiveBindResponse smSupported => whenRead none state io (receiveBind lib smSupported)
  | .sendSmRequest sm boundJid => whenReady sm state io fun io =>
    (.next none,.receiveSmResponse sm boundJid,io.send (.sm (smRequest sm)))
  | .receiveSmResponse sm boundJid => whenRead sm state io (receiveSm lib sm boundJid)

end NegotiationState

end MindChat.StanzaStream
