import MindChat.StreamContract
import MindChat.Worker

/-! The worker of a client: what it makes of the events of its stanza stream, and which
requests wait for a response. -/

namespace MindChat.StanzaStream

variable {ε : Type}

inductive IqRequest (ε : Type)
  | get (payload : ε)
  | set (payload : ε)

inductive IqResponse (ε : Type)
  | result (payload : Option ε)
  | error (error : String)

def IqRequest.intoIq (sender recipient : Option Jid) (id : String) : IqRequest ε → Iq ε
  | .get payload => .get sender recipient id payload
  | .set payload => .set sender recipient id payload

def IqResponse.intoIq (sender recipient : Option Jid) (id : String) : IqResponse ε → Iq ε
  | .error text => .error sender recipient id text none
  | .result payload => .result sender recipient id payload

def Iq.response : Iq ε → Option (Option Jid × Option Jid × String × IqResponse ε)
  | .error sender recipient id text _ => some (sender,recipient,id,.error text)
  | .result sender recipient id payload => some (sender,recipient,id,.result payload)
  | _ => none

abbrev IqKey := Option Jid × String

/-- The channel of a response: nothing has come, a response has, or none can come. -/
inductive Oneshot (α : Type)
  | awaited
  | arrived (value : α)
  | lost

/-- The requests that wait, by the address that is to answer and the id, each with the
number of its channel. -/
structure IqResponseTracker (ε : Type) where
  map : List (IqKey × ℕ)
  accountJid : Option Jid
  channels : List (Oneshot (IqResponse ε))

namespace IqResponseTracker

def new : IqResponseTracker ε := ⟨[],none,[]⟩

def setAccountJid (t : IqResponseTracker ε) (jid : Jid) : IqResponseTracker ε :=
  { t with accountJid := some jid }

def find (t : IqResponseTracker ε) (key : IqKey) : Option ℕ := t.map.lookup key

def settle (t : IqResponseTracker ε) (key : IqKey) (channel : ℕ) (answer : Oneshot (IqResponse ε)) :
    IqResponseTracker ε :=
  { t with
    map := t.map.filter fun entry => entry.1 ≠ key
    channels := t.channels.set channel answer }

/-- `handle_iq`: a response that a request waits for goes there, anything else is given
back. -/
def handleIq (t : IqResponseTracker ε) (iq : Iq ε) : IqResponseTracker ε × Option (Iq ε) :=
  match iq.response with
  | none => (t,some iq)
  | some (sender,recipient,id,response) =>
    let sender := sender.or t.accountJid
    match t.find (sender,id) with
    | none => (t,some (response.intoIq sender recipient id))
    | some channel => (t.settle (sender,id) channel (.arrived response),none)

/-- `allocate_iq_handle` with the id that `make_id` draws; a key in use is a panic. -/
def allocateIqHandle (t : IqResponseTracker ε) (sender recipient : Option Jid)
    (request : IqRequest ε) (id : String) : Option (Iq ε × IqKey × IqResponseTracker ε) :=
  let recipient := recipient.or t.accountJid
  match t.find (recipient,id) with
  | some _ => none
  | none => some (request.intoIq sender recipient id,(recipient,id),{ t with
      map := ((recipient,id),t.channels.length) :: t.map
      channels := t.channels ++ [.awaited] })

/-- `IqMapEntryHandle` is dropped: whatever waits under its key waits no more. -/
def release (t : IqResponseTracker ε) (key : IqKey) : IqResponseTracker ε :=
  match t.find key with
  | none => t
  | some channel => t.settle key channel .lost

end IqResponseTracker

/-- `tokio_xmpp::Event`. -/
inductive TokioXmppEvent (ε : Type)
  | online (boundJid : Jid) (features : StreamFeatures) (resumed : Bool)
  | disconnected (error : XmppError)
  | stanza (stanza : Stanza ε)

structure ClientWorker (ε : Type) where
  boundJid : Option Jid
  features : Option StreamFeatures
  iqResponseTracker : IqResponseTracker ε

namespace ClientWorker

def new : ClientWorker ε := ⟨none,none,.new⟩

/-- `Error::Io` of a suspended connection. -/
def suspended : XmppError := .io "XMPP connection suspended"

/-- `handle_event` with the event that it sends; `none` is a panic. -/
def handleEvent (w : ClientWorker ε) :
    Event ε → Option (ClientWorker ε × Option (TokioXmppEvent ε))
  | .stanza (.iq iq) =>
    match w.iqResponseTracker.handleIq iq with
    | (tracker,none) => some ({ w with iqResponseTracker := tracker },none)
    | (tracker,some iq) => some ({ w with iqResponseTracker := tracker },some (.stanza (.iq iq)))
  | .stanza data => some (w,some (.stanza data))
  | .stream (.reset boundJid features) =>
    -- an address without a resource makes `try_as_full` fail
    if boundJid.resource.isSome then
      some ({
        boundJid := some boundJid
        features := some features
        iqResponseTracker := w.iqResponseTracker.setAccountJid { boundJid with resource := none } },
        some (.online boundJid features false))
    else none
  | .stream .resumed =>
    match w.boundJid,w.features with
    | some boundJid,some features => some (w,some (.online boundJid features true))
    | _,_ => none
  | .stream .suspended => some (w,some (.disconnected suspended))
  | .stream (.fatal error) => some (w,some (.disconnected error))

def handleEvents (w : ClientWorker ε) : List (Event ε) →
    Option (ClientWorker ε × List (TokioXmppEvent ε))
  | [] => some (w,[])
  | event :: events =>
    match w.handleEvent event with
    | none => none
    | some (w,sent) =>
      match w.handleEvents events with
      | none => none
      | some (w,more) => some (w,sent.toList ++ more)

end ClientWorker

variable {lib : Library ε}

namespace ClientWorker

variable {w w' : ClientWorker ε} {st st' : Standing} {event : Event ε} {events : List (Event ε)}
variable {sent : List (TokioXmppEvent ε)}

/-- Once the stream was bound the worker knows its address and its features. -/
def Knows (w : ClientWorker ε) (st : Standing) : Prop :=
  st = .down true ∨ st = .up → w.boundJid.isSome ∧ w.features.isSome

theorem knows_new : (new : ClientWorker ε).Knows (.down false) := nofun

/-- The worker can handle every event that may come. -/
theorem handleEvent_total (hk : w.Knows st) (hn : st.next event = some st') :
    ∃ w' sent, w.handleEvent event = some (w',sent) ∧ w'.Knows st' := by
  cases Standing.next_cases hn with
  | @stanza _ data h =>
    match data with
    | .iq iq =>
      unfold handleEvent
      dsimp only
      split
      · exact ⟨_,_,rfl,hk⟩
      · exact ⟨_,_,rfl,hk⟩
    | .message id content => exact ⟨_,_,rfl,hk⟩
    | .presence id content => exact ⟨_,_,rfl,hk⟩
  | reset h => exact ⟨_,_,if_pos h,fun _ => ⟨rfl,rfl⟩⟩
  | resumed =>
    obtain ⟨hj,hf⟩ := hk (.inl rfl)
    obtain ⟨boundJid,hj⟩ := Option.isSome_iff_exists.mp hj
    obtain ⟨features,hf⟩ := Option.isSome_iff_exists.mp hf
    refine ⟨w,some (.online boundJid features true),?_,fun _ => hk (.inl rfl)⟩
    unfold handleEvent
    rw [hj,hf]
  | suspended => exact ⟨w,_,rfl,hk⟩
  | lost => exact ⟨w,_,rfl,fun _ => hk (.inr rfl)⟩
  | fatal => exact ⟨w,_,rfl,fun hs => by rcases hs with hs | hs <;> cases hs⟩

theorem handleEvents_total (hk : w.Knows st) (h : st.after events = some st') :
    ∃ w' sent, w.handleEvents events = some (w',sent) := by
  induction events generalizing w st with
  | nil => exact ⟨w,[],rfl⟩
  | cons event events ih =>
    unfold Standing.after at h
    rw [List.foldlM_cons] at h
    cases hn : st.next event with
    | none => rw [hn] at h; cases h
    | some st₁ =>
      rw [hn] at h
      obtain ⟨w₁,sent,hw,hk₁⟩ := handleEvent_total hk hn
      obtain ⟨w₂,more,hw₂⟩ := ih hk₁ h
      refine ⟨w₂,sent.toList ++ more,?_⟩
      unfold handleEvents
      simp only [hw,hw₂]

end ClientWorker

end MindChat.StanzaStream
