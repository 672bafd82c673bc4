import MindChat.Json
import MindChat.StreamNegotiation

/-! Logging in: the connection with its TLS, the exchange that authenticates the account,
and what is written to whom on the way. -/

namespace MindChat.StanzaStream

open Json (Bytes)

inductive ChannelBinding
  | none
  | unsupported
  | tlsUnique (data : Bytes)
  | tlsExporter (data : Bytes)

structure Credentials where
  username : String
  password : String
  channelBinding : ChannelBinding

/-- A mechanism of the SASL library; it answers the last of the challenges so far. -/
structure Mechanism where
  name : String
  initial : Bytes
  response : List Bytes → Except String Bytes

/-- What is read from a stream before it is a stanza stream. -/
inductive LoginElement
  | challenge (data : Bytes)
  | success (data : Bytes)
  | failure (condition : SaslCondition)
  | otherSasl
  | proceed
  | other

/-- What the login takes from other libraries. -/
structure SaslLibrary where
  scramSha256 : Credentials → Mechanism
  scramSha1 : Credentials → Mechanism
  plain : Credentials → Mechanism
  /-- The name of a mechanism as the parsers know it. -/
  fromStr : String → Except String Unit
  debug : LoginElement → String

def credentialedMechanisms (lib : SaslLibrary) (creds : Credentials) : List Mechanism :=
  [lib.scramSha256 creds,lib.scramSha1 creds,lib.plain creds]

def LoginElement.challenge? : LoginElement → Option Bytes
  | .challenge data => some data
  | _ => none

abbrev LoginItem := Except ReadError LoginElement

def LoginItem.challenge? : LoginItem → Option Bytes
  | .ok element => element.challenge?
  | .error _ => none

structure LoginFeatures where
  startTls : Bool
  saslMechanisms : List String
  stream : StreamFeatures

inductive RecvFeaturesError
  | io (error : OpaqueIoError)
  | streamError (text : String)

def RecvFeaturesError.into : RecvFeaturesError → XmppError
  | .io error => .io error.message
  | .streamError text => .streamError text

/-- How the way to a server or its encryption fails. -/
inductive ConnectError
  | io (text : String)
  | addr (text : String)
  | dnsProto (text : String)
  | dnsNet (text : String)
  | idna
  | disconnected
  | connection (text : String)
  | tls (error : TlsConnectorError)

def ConnectError.into : ConnectError → XmppError
  | .io text => .io text
  | .addr text => .addr text
  | .dnsProto text => .dnsProto text
  | .dnsNet text => .dnsNet text
  | .idna => .idna
  | .disconnected => .disconnected
  | .connection text => .connection text
  | .tls error => .tls error

/-- The far end of one stream, from its header to its end: the header, the features, what
is read after them, and how the writes go. -/
structure FarEnd where
  header : Except OpaqueIoError Unit
  features : Except RecvFeaturesError LoginFeatures
  items : List LoginItem
  sends : ℕ → Except OpaqueIoError Unit

structure Server where
  resolve : Except ConnectError Unit
  clear : FarEnd
  tls : Except ConnectError ChannelBinding
  secure : FarEnd
  authenticated : FarEnd

inductive Layer
  | clear
  | tls
  deriving DecidableEq

inductive Sent
  | header
  | starttls
  | auth (mechanism : String) (data : Bytes)
  | response (data : Bytes)

/-- A step of a login: what comes of it, and what it writes. -/
def Dial (α : Type) := Except XmppError α × List (Layer × Sent)

namespace Dial

def lift {α : Type} (result : Except XmppError α) : Dial α := (result,[])

def send (layer : Layer) (sent : Sent) (result : Except OpaqueIoError Unit) : Dial Unit :=
  (result.mapError fun error => .io error.message,[(layer,sent)])

def bind {α β : Type} (x : Dial α) (f : α → Dial β) : Dial β :=
  match x with
  | (.ok a,sent) => ((f a).1,sent ++ (f a).2)
  | (.error error,sent) => (.error error,sent)

instance : Monad Dial where
  pure a := lift (.ok a)
  bind := bind

end Dial

/-- A stream that was opened, on its layer. -/
structure OpenStream where
  layer : Layer
  far : FarEnd

def initiateStream (layer : Layer) (far : FarEnd) : Dial OpenStream := do
  Dial.send layer .header far.header
  pure ⟨layer,far⟩

def OpenStream.recvFeatures (s : OpenStream) : Dial LoginFeatures :=
  .lift (s.far.features.mapError RecvFeaturesError.into)

def awaitProceed : List LoginItem → Except XmppError Unit
  | [] => .error .disconnected
  | .ok .proceed :: _ => .ok ()
  | .ok _ :: items => awaitProceed items
  | .error .softTimeout :: items => awaitProceed items
  | .error (.hardError error) :: _ => .error (.io error.message)
  | .error (.parseError error) :: _ => .error (.io error.text)
  | .error .streamFooterReceived :: _ => .error .disconnected

def starttls (s : OpenStream) (tls : Except ConnectError ChannelBinding) : Dial ChannelBinding := do
  Dial.send s.layer .starttls (s.far.sends 0)
  Dial.lift (awaitProceed s.far.items)
  Dial.lift (tls.mapError ConnectError.into)

inductive ServerConnector
  | startTls
  | directTls

/-- Over a proxy too TLS is direct. -/
def ServerConnector.connect (connector : ServerConnector) (server : Server) :
    Dial (OpenStream × ChannelBinding) := do
  Dial.lift (server.resolve.mapError ConnectError.into)
  match connector with
  | .startTls =>
    let stream ← initiateStream .clear server.clear
    let features ← stream.recvFeatures
    if features.startTls then
      let binding ← starttls stream server.tls
      let stream ← initiateStream .tls server.secure
      pure (stream,binding)
    else Dial.lift (.error (.protocol "no TLS available"))
  | .directTls =>
    let binding ← Dial.lift (server.tls.mapError ConnectError.into)
    let stream ← initiateStream .tls server.secure
    pure (stream,binding)

/-- The exchange after the first message of a mechanism, with the challenges so far. -/
def exchange (lib : SaslLibrary) (m : Mechanism) (s : OpenStream) : List Bytes → List LoginItem → Dial Unit
  | _,[] => .lift (.error .disconnected)
  | challenges,.ok (.challenge data) :: items =>
    match m.response (challenges ++ [data]) with
    | .error text => .lift (.error (.auth (.sasl text)))
    | .ok response => do
      Dial.send s.layer (.response response) (s.far.sends (challenges.length + 1))
      exchange lib m s (challenges ++ [data]) items
  | _,.ok (.success _) :: _ => .lift (.ok ())
  | _,.ok (.failure condition) :: _ => .lift (.error (.auth (.fail condition)))
  | challenges,.ok .otherSasl :: items => exchange lib m s challenges items
  | _,.ok element :: _ =>
    .lift (.error (.io ("unexpected stream element during SASL negotiation: " ++ lib.debug element)))
  | _,.error (.hardError error) :: _ => .lift (.error (.io error.message))
  | _,.error (.parseError error) :: _ => .lift (.error (.io error.text))
  | challenges,.error .softTimeout :: items => exchange lib m s challenges items
  | _,.error .streamFooterReceived :: _ => .lift (.error .disconnected)

def authWith (lib : SaslLibrary) (s : OpenStream) (m : Mechanism) : Dial Unit := do
  Dial.lift ((lib.fromStr m.name).mapError fun text =>
    .protocol ("error with expected stanza schema: " ++ text))
  Dial.send s.layer (.auth m.name m.initial) (s.far.sends 0)
  exchange lib m s [] s.far.items

/-- The first mechanism that the server offers decides. -/
def auth (lib : SaslLibrary) (s : OpenStream) (saslMechanisms : List String) :
    List Mechanism → Dial Unit
  | [] => .lift (.error (.auth .noMechanism))
  | m :: mechanisms =>
    if m.name ∈ saslMechanisms then authWith lib s m else auth lib s saslMechanisms mechanisms

def clientAuth (lib : SaslLibrary) (connector : ServerConnector) (username password : String)
    (server : Server) : Dial StreamFeatures := do
  let (stream,channelBinding) ← connector.connect server
  let features ← stream.recvFeatures
  auth lib stream features.saslMechanisms
    (credentialedMechanisms lib ⟨username,password,channelBinding⟩)
  let stream ← initiateStream stream.layer server.authenticated
  let features ← stream.recvFeatures
  pure features.stream

/-- What only the server may learn. -/
def Sent.credential : Sent → Bool
  | .auth _ _ => true
  | .response _ => true
  | _ => false

namespace Dial

variable {α β : Type} {x : Dial α} {f : α → Dial β}

def shown (x : Dial α) : List (Layer × Sent) := x.2.filter (·.2.credential)

@[simp] theorem shown_lift (result : Except XmppError α) : (lift result).shown = [] := rfl
theorem shown_send {layer : Layer} {sent : Sent} {result : Except OpaqueIoError Unit}
    (h : sent.credential = false) : (send layer sent result).shown = [] := by
  unfold shown send
  rw [List.filter_cons_of_neg (by simp [h]),List.filter_nil]

theorem bind_eq_ok {b : β} (h : (x >>= f).1 = .ok b) :
    ∃ a, x.1 = .ok a ∧ (f a).1 = .ok b ∧ (x >>= f).2 = x.2 ++ (f a).2 := by
  obtain ⟨result,sent⟩ := x
  cases result with
  | error => cases h
  | ok a => exact ⟨a,rfl,h,rfl⟩

theorem bind_eq_error {error : XmppError} (h : (x >>= f).1 = .error error) :
    x.1 = .error error ∨ ∃ a, x.1 = .ok a ∧ (f a).1 = .error error := by
  obtain ⟨result,sent⟩ := x
  cases result with
  | error => cases h; exact .inl rfl
  | ok a => exact .inr ⟨a,rfl,h⟩

theorem shown_bind (hx : x.shown = []) :
    (x >>= f).shown = [] ∨ ∃ a, x.1 = .ok a ∧ (x >>= f).shown = (f a).shown := by
  obtain ⟨result,sent⟩ := x
  cases result with
  | error => exact .inl hx
  | ok a =>
    refine .inr ⟨a,rfl,?_⟩
    show (sent ++ (f a).2).filter (·.2.credential) = (f a).shown
    rw [List.filter_append,show sent.filter (·.2.credential) = [] from hx,List.nil_append]
    rfl

theorem shown_bind_nil (hx : x.shown = []) (hf : ∀ a, (f a).shown = []) : (x >>= f).shown = [] := by
  rcases shown_bind (f := f) hx with h | ⟨a,-,h⟩
  · exact h
  · rw [h,hf a]

theorem send_bind_ok (layer : Layer) (sent : Sent) (f : Unit → Dial β) :
    send layer sent (.ok ()) >>= f = ((f ()).1,(layer,sent) :: (f ()).2) := rfl

/-- A step that does not fail by an authentication. -/
def Unauth (x : Dial α) : Prop := ∀ e, x.1 ≠ .error (.auth e)

theorem unauth_pure (a : α) : (pure a : Dial α).Unauth := fun _ => nofun

theorem unauth_send (layer : Layer) (sent : Sent) (result : Except OpaqueIoError Unit) :
    (send layer sent result).Unauth := by
  rintro e h
  cases result <;> cases h

theorem Unauth.bind (hx : x.Unauth) (hf : ∀ a, (f a).Unauth) : (x >>= f).Unauth := by
  rintro e h
  rcases bind_eq_error h with h | ⟨a,-,h⟩
  · exact hx e h
  · exact hf a e h

theorem shown_bind_silent (hf : ∀ a, (f a).shown = []) : (x >>= f).shown = x.shown := by
  obtain ⟨result,sent⟩ := x
  cases result with
  | error => rfl
  | ok a =>
    show (sent ++ (f a).2).filter (·.2.credential) = sent.filter (·.2.credential)
    rw [List.filter_append,show (f a).2.filter (·.2.credential) = [] from hf a,List.append_nil]

end Dial

theorem mapError_eq_ok {ε ε' α : Type} {f : ε → ε'} {x : Except ε α} {a : α}
    (h : x.mapError f = .ok a) : x = .ok a := by
  cases x with
  | error => cases h
  | ok => cases h; rfl

theorem mapError_eq_error {ε ε' α : Type} {f : ε → ε'} {x : Except ε α} {e : ε'}
    (h : x.mapError f = .error e) : ∃ e', x = .error e' ∧ f e' = e := by
  cases x with
  | error e' => cases h; exact ⟨e',rfl,rfl⟩
  | ok => cases h

theorem awaitProceed_ok {items : List LoginItem} (h : awaitProceed items = .ok ()) :
    .ok .proceed ∈ items := by
  fun_induction awaitProceed items with
  | case1 => cases h
  | case2 => exact List.mem_cons_self
  | case3 _ _ _ ih => exact List.mem_cons_of_mem _ (ih h)
  | case4 _ ih => exact List.mem_cons_of_mem _ (ih h)
  | case5 => cases h
  | case6 => cases h
  | case7 => cases h

theorem shown_initiateStream (layer : Layer) (far : FarEnd) : (initiateStream layer far).shown = [] :=
  Dial.shown_bind_nil (Dial.shown_send rfl) fun _ => rfl

theorem initiateStream_ok {layer : Layer} {far : FarEnd} {s : OpenStream}
    (h : (initiateStream layer far).1 = .ok s) : s = ⟨layer,far⟩ := by
  obtain ⟨_,-,h,-⟩ := Dial.bind_eq_ok h
  cases h
  rfl

namespace ServerConnector

variable {connector : ServerConnector} {server : Server}

/-- What a connector has made sure of when it delivers a stream. -/
structure Secured (connector : ServerConnector) (server : Server) (s : OpenStream)
    (binding : ChannelBinding) : Prop where
  stream : s = ⟨.tls,server.secure⟩
  tls : server.tls = .ok binding
  proceed : connector = .startTls → .ok .proceed ∈ server.clear.items ∧
    ∃ features, server.clear.features = .ok features ∧ features.startTls

theorem shown_starttls (s : OpenStream) (tls : Except ConnectError ChannelBinding) :
    (starttls s tls).shown = [] :=
  Dial.shown_bind_nil (Dial.shown_send rfl) fun _ => Dial.shown_bind_nil rfl fun _ => rfl

theorem shown_connect : (connector.connect server).shown = [] := by
  refine Dial.shown_bind_nil rfl fun _ => ?_
  cases connector with
  | startTls =>
    refine Dial.shown_bind_nil (shown_initiateStream _ _) fun stream => ?_
    refine Dial.shown_bind_nil rfl fun features => ?_
    split_ifs
    · exact Dial.shown_bind_nil (shown_starttls _ _) fun _ =>
        Dial.shown_bind_nil (shown_initiateStream _ _) fun _ => rfl
    · rfl
  | directTls =>
    exact Dial.shown_bind_nil rfl fun _ => Dial.shown_bind_nil (shown_initiateStream _ _) fun _ => rfl

theorem connect_ok {s : OpenStream} {binding : ChannelBinding}
    (h : (connector.connect server).1 = .ok (s,binding)) : connector.Secured server s binding := by
  obtain ⟨_,-,h,-⟩ := Dial.bind_eq_ok h
  cases connector with
  | startTls =>
    obtain ⟨clear,hclear,h,-⟩ := Dial.bind_eq_ok h
    obtain rfl := initiateStream_ok hclear
    obtain ⟨features,hf,h,-⟩ := Dial.bind_eq_ok h
    split_ifs at h with hs
    · obtain ⟨binding',htls,h,-⟩ := Dial.bind_eq_ok h
      obtain ⟨s',hs',h,-⟩ := Dial.bind_eq_ok h
      cases h
      obtain ⟨_,-,htls,-⟩ := Dial.bind_eq_ok htls
      obtain ⟨_,hp,htls,-⟩ := Dial.bind_eq_ok htls
      exact ⟨initiateStream_ok hs',mapError_eq_ok htls,
        fun _ => ⟨awaitProceed_ok hp,features,mapError_eq_ok hf,hs⟩⟩
    · cases h
  | directTls =>
    obtain ⟨binding',htls,h,-⟩ := Dial.bind_eq_ok h
    obtain ⟨s',hs',h,-⟩ := Dial.bind_eq_ok h
    cases h
    exact ⟨initiateStream_ok hs',mapError_eq_ok htls,nofun⟩

end ServerConnector

/-- The responses of a mechanism to challenges after those so far, until one is refused. -/
def Mechanism.answers (m : Mechanism) : List Bytes → List Bytes → List Bytes
  | _,[] => []
  | past,data :: challenges =>
    match m.response (past ++ [data]) with
    | .ok response => response :: m.answers (past ++ [data]) challenges
    | .error _ => []

def LoginItem.passes : LoginItem → Bool
  | .ok (.challenge _) => true
  | .ok .otherSasl => true
  | .error .softTimeout => true
  | _ => false

section Exchange

variable {lib : SaslLibrary} {m : Mechanism} {s : OpenStream} {past : List Bytes}
variable {items : List LoginItem}

def OpenStream.responses (s : OpenStream) (data : List Bytes) : List (Layer × Sent) :=
  data.map fun response => (s.layer,.response response)

theorem Mechanism.answers_cons_ok {data response : Bytes} (challenges : List Bytes)
    (h : m.response (past ++ [data]) = .ok response) :
    m.answers past (data :: challenges) = response :: m.answers (past ++ [data]) challenges := by
  conv_lhs => unfold answers
  rw [h]

/-- An exchange shows nothing but responses to the challenges, in their order. -/
theorem exchange_sent (lib : SaslLibrary) (m : Mechanism) (s : OpenStream) (past : List Bytes)
    (items : List LoginItem) : ∃ n, (exchange lib m s past items).2 =
      s.responses ((m.answers past (items.filterMap LoginItem.challenge?)).take n) := by
  fun_induction exchange lib m s past items with
  | case2 past data items text hr => exact ⟨0,rfl⟩
  | case3 past data items response hr ih =>
    obtain ⟨n,ih⟩ := ih
    have hc := Mechanism.answers_cons_ok (items.filterMap LoginItem.challenge?) hr
    show ∃ n, _ = s.responses (List.take n (m.answers past (data :: items.filterMap LoginItem.challenge?)))
    rw [hc]
    cases s.far.sends (past.length + 1) with
    | error => exact ⟨1,rfl⟩
    | ok =>
      refine ⟨n + 1,?_⟩
      rw [Dial.send_bind_ok]
      exact congrArg _ ih
  | case6 past items ih => exact ih
  | case10 past items ih => exact ih
  | _ => exact ⟨0,rfl⟩

/-- An exchange that succeeds: everything up to the success was answered, and nothing else
was sent. -/
structure Exchanged (m : Mechanism) (s : OpenStream) (past : List Bytes) (items : List LoginItem)
    (sent : List (Layer × Sent)) : Prop where
  success : ∃ before data after, items = before ++ .ok (.success data) :: after ∧
    (∀ item ∈ before, item.passes) ∧
    sent = s.responses (m.answers past (before.filterMap LoginItem.challenge?)) ∧
    sent.length = (before.filterMap LoginItem.challenge?).length ∧
    ∀ k < sent.length, s.far.sends (past.length + 1 + k) = .ok ()

theorem Exchanged.cons {item : LoginItem} {sent : List (Layer × Sent)} (hp : item.passes)
    (hc : item.challenge? = none) (h : Exchanged m s past items sent) :
    Exchanged m s past (item :: items) sent := by
  obtain ⟨before,data,after,rfl,hpass,hsent,hlen,hok⟩ := h.success
  have hf : (item :: before).filterMap LoginItem.challenge? = before.filterMap LoginItem.challenge? :=
    List.filterMap_cons_none hc
  refine ⟨item :: before,data,after,rfl,List.forall_mem_cons.mpr ⟨hp,hpass⟩,?_,?_,hok⟩
  · rw [hf]; exact hsent
  · rw [hf]; exact hlen

theorem exchange_ok (h : (exchange lib m s past items).1 = .ok ()) :
    Exchanged m s past items (exchange lib m s past items).2 := by
  fun_induction exchange lib m s past items with
  | case3 past data items response hr ih =>
    obtain ⟨_,hs,h,hsent⟩ := Dial.bind_eq_ok h
    obtain ⟨before,success,after,rfl,hpass,he,hlen,hok⟩ := (ih h).success
    have hc : (.ok (.challenge data) :: before : List LoginItem).filterMap LoginItem.challenge? =
        data :: before.filterMap LoginItem.challenge? := List.filterMap_cons_some rfl
    rw [hsent]
    refine ⟨.ok (.challenge data) :: before,success,after,rfl,List.forall_mem_cons.mpr ⟨rfl,hpass⟩,?_,?_,?_⟩
    · rw [hc,Mechanism.answers_cons_ok _ hr,he]
      rfl
    · rw [hc,List.length_cons,← hlen,List.length_append]
      exact Nat.add_comm 1 _
    · rintro (_ | k) hk
      · exact mapError_eq_ok hs
      · rw [List.length_append] at hk
        have hk := hok k (Nat.lt_of_succ_lt_succ (hk.trans_eq (Nat.add_comm 1 _)))
        rwa [List.length_append,List.length_singleton,Nat.add_assoc _ 1 k,Nat.add_comm 1 k] at hk
  | case4 => exact ⟨[],_,_,rfl,nofun,rfl,rfl,nofun⟩
  | case6 past items ih => exact (ih h).cons rfl rfl
  | case10 past items ih => exact (ih h).cons rfl rfl
  | _ => cases h

/-- An exchange fails the authentication only where the mechanism refuses a challenge or
the server refuses the account. -/
theorem exchange_auth {e : AuthError} (h : (exchange lib m s past items).1 = .error (.auth e)) :
    (∃ text data before, e = .sasl text ∧ .ok (.challenge data) ∈ items ∧
      m.response (before ++ [data]) = .error text) ∨
    ∃ condition, e = .fail condition ∧ .ok (.failure condition) ∈ items := by
  fun_induction exchange lib m s past items with
  | case2 past data items text hr => cases h; exact .inl ⟨text,data,past,rfl,List.mem_cons_self,hr⟩
  | case3 past data items response hr ih =>
    rcases Dial.bind_eq_error h with h | ⟨_,-,h⟩
    · obtain ⟨_,-,h⟩ := mapError_eq_error h
      cases h
    · rcases ih h with ⟨text,data',before,he,hm,hr'⟩ | ⟨condition,he,hm⟩
      · exact .inl ⟨text,data',before,he,List.mem_cons_of_mem _ hm,hr'⟩
      · exact .inr ⟨condition,he,List.mem_cons_of_mem _ hm⟩
  | case5 past condition items => cases h; exact .inr ⟨condition,rfl,List.mem_cons_self⟩
  | case6 past items ih | case10 past items ih =>
    rcases ih h with ⟨text,data,before,he,hm,hr⟩ | ⟨condition,he,hm⟩
    · exact .inl ⟨text,data,before,he,List.mem_cons_of_mem _ hm,hr⟩
    · exact .inr ⟨condition,he,List.mem_cons_of_mem _ hm⟩
  | _ => cases h

end Exchange

/-- The mechanism that a server's offer leaves. -/
def chosen (mechanisms : List Mechanism) (saslMechanisms : List String) : Option Mechanism :=
  mechanisms.find? fun m => m.name ∈ saslMechanisms

section Auth

variable {lib : SaslLibrary} {s : OpenStream} {saslMechanisms : List String}
variable {mechanisms : List Mechanism}

theorem auth_none (h : chosen mechanisms saslMechanisms = none) :
    auth lib s saslMechanisms mechanisms = .lift (.error (.auth .noMechanism)) := by
  induction mechanisms with
  | nil => rfl
  | cons m mechanisms ih =>
    have hm := List.find?_eq_none.mp h
    unfold auth
    rw [if_neg fun hmem => hm m List.mem_cons_self (decide_eq_true hmem)]
    exact ih (List.find?_eq_none.mpr fun m hmem => hm m (List.mem_cons_of_mem _ hmem))

theorem auth_some {m : Mechanism} (h : chosen mechanisms saslMechanisms = some m) :
    auth lib s saslMechanisms mechanisms = authWith lib s m := by
  induction mechanisms with
  | nil => cases h
  | cons m' mechanisms ih =>
    unfold auth
    rcases List.find?_cons_eq_some.mp h with ⟨hm,rfl⟩ | ⟨hm,h⟩
    · rw [if_pos (of_decide_eq_true hm)]
    · rw [if_neg (of_decide_eq_false (Bool.eq_false_iff.mpr (by simpa using hm)))]
      exact ih h

/-- Credentials that one mechanism shows: its first message, then responses to challenges. -/
def Mechanism.Shows (m : Mechanism) (s : OpenStream) (sent : List (Layer × Sent)) : Prop :=
  sent = [] ∨ ∃ n, sent = (s.layer,.auth m.name m.initial) ::
    s.responses ((m.answers [] (s.far.items.filterMap LoginItem.challenge?)).take n)

theorem shown_responses (s : OpenStream) (data : List Bytes) :
    (s.responses data).filter (·.2.credential) = s.responses data :=
  List.filter_eq_self.mpr fun x hx => by
    obtain ⟨response,-,rfl⟩ := List.mem_map.mp hx
    rfl

theorem shown_authWith (m : Mechanism) : m.Shows s (authWith lib s m).shown := by
  unfold authWith
  rcases Dial.shown_bind (f := fun _ => do
      Dial.send s.layer (.auth m.name m.initial) (s.far.sends 0)
      exchange lib m s [] s.far.items)
    (Dial.shown_lift ((lib.fromStr m.name).mapError fun text =>
      .protocol ("error with expected stanza schema: " ++ text))) with h | ⟨_,-,h⟩
  · exact .inl h
  · refine .inr ?_
    rw [h]
    cases s.far.sends 0 with
    | error e => exact ⟨0,rfl⟩
    | ok =>
      obtain ⟨n,hn⟩ := exchange_sent lib m s [] s.far.items
      refine ⟨n,?_⟩
      rw [Dial.send_bind_ok]
      show (_ :: (exchange lib m s [] s.far.items).2).filter _ = _
      rw [hn,List.filter_cons_of_pos rfl,shown_responses]

end Auth

def restart (s : OpenStream) (server : Server) : Dial StreamFeatures := do
  let stream ← initiateStream s.layer server.authenticated
  let features ← stream.recvFeatures
  pure features.stream

theorem shown_restart (s : OpenStream) (server : Server) : (restart s server).shown = [] :=
  Dial.shown_bind_nil (shown_initiateStream _ _) fun _ => Dial.shown_bind_nil rfl fun _ => rfl

theorem unauth_recvFeatures (s : OpenStream) : s.recvFeatures.Unauth := by
  rintro e h
  obtain ⟨error,-,h⟩ := mapError_eq_error h
  cases error <;> cases h

theorem unauth_initiateStream (layer : Layer) (far : FarEnd) : (initiateStream layer far).Unauth :=
  (Dial.unauth_send _ _ _).bind fun _ => Dial.unauth_pure _

theorem unauth_restart (s : OpenStream) (server : Server) : (restart s server).Unauth :=
  (unauth_initiateStream _ _).bind fun _ => (unauth_recvFeatures _).bind fun _ => Dial.unauth_pure _

theorem unauth_into {α : Type} (x : Except ConnectError α) :
    (Dial.lift (x.mapError ConnectError.into)).Unauth := by
  rintro e h
  obtain ⟨error,-,h⟩ := mapError_eq_error h
  cases error <;> cases h

theorem unauth_awaitProceed (items : List LoginItem) : (Dial.lift (awaitProceed items)).Unauth := by
  rintro e h
  change awaitProceed items = _ at h
  fun_induction awaitProceed items with
  | case3 _ _ _ ih | case4 _ ih => exact ih h
  | _ => cases h

theorem ServerConnector.unauth_connect (connector : ServerConnector) (server : Server) :
    (connector.connect server).Unauth := by
  refine (unauth_into _).bind fun _ => ?_
  cases connector with
  | startTls =>
    refine (unauth_initiateStream _ _).bind fun stream => (unauth_recvFeatures _).bind fun features => ?_
    split_ifs
    · exact ((Dial.unauth_send _ _ _).bind fun _ => (unauth_awaitProceed _).bind fun _ => unauth_into _).bind
        fun _ => (unauth_initiateStream _ _).bind fun _ => Dial.unauth_pure _
    · exact fun _ => nofun
  | directTls =>
    exact (unauth_into _).bind fun _ => (unauth_initiateStream _ _).bind fun _ => Dial.unauth_pure _

section ClientAuth

variable {lib : SaslLibrary} {connector : ServerConnector} {username password : String}
variable {server : Server}

/-- A login that got as far as its authentication. -/
structure Reached (lib : SaslLibrary) (connector : ServerConnector) (username password : String)
    (server : Server) (s : OpenStream) (mechanisms : List Mechanism) (offered : List String) : Prop where
  secured : ∃ binding, connector.Secured server s binding ∧
    mechanisms = credentialedMechanisms lib ⟨username,password,binding⟩
  offered : ∃ features, server.secure.features = .ok features ∧ offered = features.saslMechanisms

theorem clientAuth_eq : clientAuth lib connector username password server =
    connector.connect server >>= fun x => x.1.recvFeatures >>= fun features =>
      auth lib x.1 features.saslMechanisms (credentialedMechanisms lib ⟨username,password,x.2⟩) >>=
        fun _ => restart x.1 server := rfl

/-- A login fails before its authentication, or is that authentication and what follows. -/
theorem clientAuth_cases (lib : SaslLibrary) (connector : ServerConnector)
    (username password : String) (server : Server) :
    ((clientAuth lib connector username password server).shown = [] ∧
      ∃ error, (clientAuth lib connector username password server).1 = .error error ∧
        ∀ e, error ≠ .auth e) ∨
    ∃ s mechanisms offered, Reached lib connector username password server s mechanisms offered ∧
      (clientAuth lib connector username password server).shown =
        (auth lib s offered mechanisms >>= fun _ => restart s server).shown ∧
      (clientAuth lib connector username password server).1 =
        (auth lib s offered mechanisms >>= fun _ => restart s server).1 := by
  cases hc : connector.connect server with
  | mk result sent =>
    have hshown : sent.filter (·.2.credential) = [] := by
      have hs : (connector.connect server).shown = [] := ServerConnector.shown_connect
      rwa [hc] at hs
    cases result with
    | error error =>
      refine .inl ?_
      unfold clientAuth
      rw [hc]
      exact ⟨hshown,error,rfl,fun e he => connector.unauth_connect server e (by rw [hc,he])⟩
    | ok opened =>
      obtain ⟨s,binding⟩ := opened
      have hs := ServerConnector.connect_ok (show (connector.connect server).1 = .ok (s,binding) by rw [hc])
      obtain rfl := hs.stream
      cases hf : server.secure.features with
      | error error =>
        have hr : (OpenStream.recvFeatures ⟨.tls,server.secure⟩) = .lift (.error error.into) := by
          unfold OpenStream.recvFeatures
          rw [hf]
          rfl
        rw [clientAuth_eq,hc]
        refine .inl ⟨?_,error.into,?_,by cases error <;> exact fun _ => nofun⟩
        · show (sent ++ (OpenStream.recvFeatures ⟨.tls,server.secure⟩ >>= _).2).filter _ = _
          rw [hr,List.filter_append,hshown]
          rfl
        · show (OpenStream.recvFeatures ⟨.tls,server.secure⟩ >>= _).1 = _
          rw [hr]
          rfl
      | ok features =>
        have hr : (OpenStream.recvFeatures ⟨.tls,server.secure⟩) = .lift (.ok features) := by
          unfold OpenStream.recvFeatures
          rw [hf]
          rfl
        rw [clientAuth_eq,hc]
        refine .inr ⟨_,_,_,⟨⟨binding,hs,rfl⟩,⟨features,hf,rfl⟩⟩,?_,?_⟩
        · show (sent ++ (OpenStream.recvFeatures ⟨.tls,server.secure⟩ >>= _).2).filter _ = _
          rw [hr,List.filter_append,hshown]
          rfl
        · show (OpenStream.recvFeatures ⟨.tls,server.secure⟩ >>= _).1 = _
          rw [hr]
          rfl

def Server.challenges (server : Server) : List Bytes :=
  server.secure.items.filterMap LoginItem.challenge?

def Server.encrypted (server : Server) : OpenStream := ⟨.tls,server.secure⟩

/-- Whatever a server does, an account shows it credentials only under TLS, and there only
to the first of its mechanisms that the server offers on the encrypted stream: its first
message, then responses to the challenges one by one. Before STARTTLS no server gets that far
without having offered it and having asked to proceed. -/
theorem credentials_guarded (lib : SaslLibrary) (connector : ServerConnector)
    (username password : String) (server : Server) :
    (clientAuth lib connector username password server).shown = [] ∨
    ∃ (binding : ChannelBinding) (features : LoginFeatures) (m : Mechanism) (n : ℕ),
      server.tls = .ok binding ∧ server.secure.features = .ok features ∧
      (connector = .startTls → .ok .proceed ∈ server.clear.items ∧
        ∃ clear, server.clear.features = .ok clear ∧ clear.startTls) ∧
      chosen (credentialedMechanisms lib ⟨username,password,binding⟩) features.saslMechanisms = some m ∧
      (clientAuth lib connector username password server).shown =
        (.tls,.auth m.name m.initial) ::
          server.encrypted.responses ((m.answers [] server.challenges).take n) := by
  rcases clientAuth_cases lib connector username password server with
    ⟨h,-⟩ | ⟨s,mechanisms,offered,⟨⟨binding,hs,rfl⟩,⟨features,hf,rfl⟩⟩,h,-⟩
  · exact .inl h
  · obtain rfl := hs.stream
    rw [h,Dial.shown_bind_silent fun _ => shown_restart _ server]
    cases hc : chosen (credentialedMechanisms lib ⟨username,password,binding⟩) features.saslMechanisms with
    | none =>
      rw [auth_none hc]
      exact .inl rfl
    | some m =>
      rw [auth_some hc]
      have hm : m.Shows ⟨.tls,server.secure⟩ (authWith lib ⟨.tls,server.secure⟩ m).shown :=
        shown_authWith m
      rcases hm with h | ⟨n,h⟩
      · exact .inl h
      · exact .inr ⟨binding,features,m,n,hs.tls,hf,hs.proceed,hc,h⟩

/-- A login that succeeds has answered every challenge up to the success of the server, by the
mechanism that the offer of the server leaves for the account. -/
theorem login_authenticated {features : StreamFeatures}
    (h : (clientAuth lib connector username password server).1 = .ok features) :
    ∃ (binding : ChannelBinding) (offer : LoginFeatures) (m : Mechanism)
      (before after : List LoginItem) (data : Bytes),
      server.tls = .ok binding ∧ server.secure.features = .ok offer ∧
      chosen (credentialedMechanisms lib ⟨username,password,binding⟩) offer.saslMechanisms = some m ∧
      server.secure.items = before ++ .ok (.success data) :: after ∧
      (clientAuth lib connector username password server).shown = (.tls,.auth m.name m.initial) ::
        server.encrypted.responses (m.answers [] (before.filterMap LoginItem.challenge?)) ∧
      (m.answers [] (before.filterMap LoginItem.challenge?)).length =
        (before.filterMap LoginItem.challenge?).length := by
  rcases clientAuth_cases lib connector username password server with
    ⟨-,error,he,-⟩ | ⟨s,mechanisms,offered,⟨⟨binding,hs,rfl⟩,⟨offer,hf,rfl⟩⟩,hshown,hr⟩
  · rw [h] at he; cases he
  · obtain rfl := hs.stream
    rw [hr] at h
    obtain ⟨_,hauth,-,-⟩ := Dial.bind_eq_ok h
    cases hc : chosen (credentialedMechanisms lib ⟨username,password,binding⟩) offer.saslMechanisms with
    | none =>
      rw [auth_none hc] at hauth
      cases hauth
    | some m =>
      rw [hshown,Dial.shown_bind_silent fun _ => shown_restart _ server,auth_some hc]
      rw [auth_some hc] at hauth
      obtain ⟨_,hname,hauth,hsent⟩ := Dial.bind_eq_ok hauth
      obtain ⟨_,hsend,hauth,hsent'⟩ := Dial.bind_eq_ok hauth
      obtain ⟨before,data,after,hitems,-,hsent₃,hlen,-⟩ := (exchange_ok hauth).success
      refine ⟨binding,offer,m,before,after,data,hs.tls,hf,hc,hitems,?_,?_⟩
      · show (authWith lib ⟨.tls,server.secure⟩ m).2.filter _ = _
        have hall : (authWith lib ⟨.tls,server.secure⟩ m).2 = (.tls,.auth m.name m.initial) ::
            server.encrypted.responses (m.answers [] (before.filterMap LoginItem.challenge?)) := by
          rw [show (authWith lib ⟨.tls,server.secure⟩ m).2 = _ from hsent,hsent',hsent₃]
          rfl
        rw [hall,List.filter_cons_of_pos rfl,shown_responses]
      · rw [hsent₃] at hlen
        rw [← hlen]
        exact (List.length_map _).symm

/-- The name of a SCRAM mechanism, which tells whether it binds the channel. -/
def Credentials.scramName (creds : Credentials) (name : String) : String :=
  match creds.channelBinding with
  | .tlsUnique _ => name ++ "-PLUS"
  | .tlsExporter _ => name ++ "-PLUS"
  | _ => name

def text (s : String) : Bytes := Json.utf8 s.toList

def serverFirst : Bytes := text "r=fyko+d2lbbFgONRv9qkxdawL3rfcNHYJY1ZVvWVs7j,s=QSXCR+Q6sek8bf92,i=4096"

/-- The SASL library for one login of romeo with his password by SCRAM-SHA-1: its nonce, and
the proof for one challenge. -/
def scramLibrary : SaslLibrary where
  scramSha256 creds := ⟨creds.scramName "SCRAM-SHA-256",[],fun _ => .error "no challenge"⟩
  scramSha1 creds := ⟨creds.scramName "SCRAM-SHA-1",text "n,,n=romeo,r=fyko+d2lbbFgONRv9qkxdawL",
    fun challenges => if challenges = [serverFirst] then
        .ok (text "c=biws,r=fyko+d2lbbFgONRv9qkxdawL3rfcNHYJY1ZVvWVs7j,p=wMs1YflLwWuSzIEgX7I2h7tIUDQ=")
      else .error "unexpected challenge"⟩
  plain creds := ⟨"PLAIN",0 :: text creds.username ++ 0 :: text creds.password,fun _ => .ok []⟩
  fromStr _ := .ok ()
  debug _ := ""

/-- A server that offers STARTTLS, and SCRAM-SHA-1 and PLAIN once it is encrypted. -/
def scramServer : Server where
  resolve := .ok ()
  clear := ⟨.ok (),.ok ⟨true,[],⟨false,false⟩⟩,[.ok .proceed],fun _ => .ok ()⟩
  tls := .ok .none
  secure := ⟨.ok (),.ok ⟨false,["PLAIN","SCRAM-SHA-1"],⟨false,false⟩⟩,
    [.error .softTimeout,.ok (.challenge serverFirst),
      .ok (.success (text "v=zWuo1UnW+gEGZMM86vviVcWOoJI="))],fun _ => .ok ()⟩
  authenticated := ⟨.ok (),.ok ⟨false,[],⟨true,true⟩⟩,[],fun _ => .ok ()⟩

theorem login_authenticated_scram :
    scramServer.challenges = [serverFirst] ∧
    ∃ (binding : ChannelBinding) (offer : LoginFeatures) (m : Mechanism)
      (before after : List LoginItem) (data : Bytes),
      scramServer.tls = .ok binding ∧ scramServer.secure.features = .ok offer ∧
      chosen (credentialedMechanisms scramLibrary ⟨"romeo","secret",binding⟩) offer.saslMechanisms =
        some m ∧
      scramServer.secure.items = before ++ .ok (.success data) :: after ∧
      (clientAuth scramLibrary .startTls "romeo" "secret" scramServer).shown =
        (.tls,.auth m.name m.initial) ::
          scramServer.encrypted.responses (m.answers [] (before.filterMap LoginItem.challenge?)) ∧
      (m.answers [] (before.filterMap LoginItem.challenge?)).length =
        (before.filterMap LoginItem.challenge?).length :=
  ⟨rfl,login_authenticated (show _ = Except.ok ⟨true,true⟩ by rfl)⟩

/-- SCRAM that does not bind the channel is passed over for PLAIN where it could. -/
example : (chosen (credentialedMechanisms scramLibrary ⟨"romeo","secret",.tlsExporter []⟩)
    ["SCRAM-SHA-256","SCRAM-SHA-1","PLAIN"]).map Mechanism.name = some "PLAIN" := by decide

/-- The ways in which a server that has proved who it is refuses an account. -/
def Refuses (lib : SaslLibrary) (username password : String) (server : Server) (e : AuthError) : Prop :=
  ∃ binding features, server.tls = .ok binding ∧ server.secure.features = .ok features ∧
    ((chosen (credentialedMechanisms lib ⟨username,password,binding⟩) features.saslMechanisms = none ∧
        e = .noMechanism) ∨
      ∃ m, chosen (credentialedMechanisms lib ⟨username,password,binding⟩) features.saslMechanisms =
          some m ∧
        ((∃ text data before, e = .sasl text ∧ .ok (.challenge data) ∈ server.secure.items ∧
            m.response (before ++ [data]) = .error text) ∨
          ∃ condition, e = .fail condition ∧ .ok (.failure condition) ∈ server.secure.items))

theorem unauth_of_lift_mapError {α : Type} (x : Except String α) :
    (Dial.lift (x.mapError fun text =>
      XmppError.protocol ("error with expected stanza schema: " ++ text))).Unauth := by
  rintro e h
  obtain ⟨_,-,h⟩ := mapError_eq_error h
  cases h

/-- No trouble on the way to a server is an authentication error. -/
theorem clientAuth_auth {e : AuthError}
    (h : (clientAuth lib connector username password server).1 = .error (.auth e)) :
    Refuses lib username password server e := by
  rcases clientAuth_cases lib connector username password server with
    ⟨-,error,he,hno⟩ | ⟨s,mechanisms,offered,⟨⟨binding,hs,rfl⟩,⟨features,hf,rfl⟩⟩,-,hr⟩
  · rw [h] at he
    cases he
    exact (hno e rfl).elim
  · obtain rfl := hs.stream
    rw [hr] at h
    refine ⟨binding,features,hs.tls,hf,?_⟩
    rcases Dial.bind_eq_error h with h | ⟨_,-,h⟩
    · cases hc : chosen (credentialedMechanisms lib ⟨username,password,binding⟩) features.saslMechanisms with
      | none =>
        rw [auth_none hc] at h
        cases h
        exact .inl ⟨rfl,rfl⟩
      | some m =>
        rw [auth_some hc] at h
        refine .inr ⟨m,rfl,?_⟩
        rcases Dial.bind_eq_error h with h | ⟨_,-,h⟩
        · exact (unauth_of_lift_mapError _ e h).elim
        · rcases Dial.bind_eq_error h with h | ⟨_,-,h⟩
          · exact (Dial.unauth_send _ _ _ e h).elim
          · exact exchange_auth h
    · exact (unauth_restart _ server e h).elim

end ClientAuth

end MindChat.StanzaStream
