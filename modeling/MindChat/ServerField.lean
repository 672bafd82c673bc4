import MindChat.ProxyProtocol

/-! The server field of an account, as the direct connection and the tunnel read it: two parsers of
one grammar, which agree. -/

namespace MindChat

def parsePort (port : String) : Option UInt16 :=
  (Numeral.parseUnsigned 65535 port.toList).map UInt16.ofNat

def proxyDefaultTlsPort : UInt16 := 5223

namespace ProxyTarget

/-- `split_host_and_port` of the proxy module. -/
def splitHostAndPort (server : String) : Except ProxyError (Option (String × UInt16)) :=
  match Text.stripPrefix '[' server with
  | some rest =>
    match Text.splitOnce ']' rest with
    | none => .error (.invalidConfig "invalid bracketed server")
    | some (host,suffix) =>
      if suffix.isEmpty then .ok none
      else
        match Text.stripPrefix ':' suffix with
        | none => .error (.invalidConfig "invalid server port")
        | some port =>
          match parsePort port with
          | none => .error (.invalidConfig "invalid server port")
          | some port => .ok (some (host,port))
  | none =>
    match if server.toList.count ':' = 1 then Text.rsplitOnce ':' server else none with
    | some (host,port) =>
      match parsePort port with
      | none => .error (.invalidConfig "invalid server port")
      | some port => .ok (some (host,port))
    | none => .ok none

/-- The endpoint behind the tunnel; a server without a port gets the one of direct TLS. -/
def fromServer (server : String) : Except ProxyError ProxyTarget :=
  let server := Text.trim server
  if server.isEmpty then .error (.invalidConfig "the XMPP server is empty")
  else
    match splitHostAndPort server with
    | .error e => .error e
    | .ok (some (host,port)) => new host port
    | .ok none => new server proxyDefaultTlsPort

end ProxyTarget

def parseEndpoint (host port : String) : Except TransportError (String × UInt16) :=
  let host := Text.trim host
  match parsePort port with
  | none => .error (.protocolViolation "invalid XMPP server port")
  | some port =>
    if host.isEmpty ∨ port = 0 then .error (.protocolViolation "invalid XMPP server endpoint")
    else .ok (host,port)

/-- `split_host_and_port` of the connection module. -/
def splitHostAndPort (server : String) : Except TransportError (Option (String × UInt16)) :=
  match Text.stripPrefix '[' server with
  | some rest =>
    match Text.splitOnce ']' rest with
    | none => .error (.protocolViolation "invalid bracketed XMPP server")
    | some (host,suffix) =>
      if suffix.isEmpty then .ok none
      else
        match Text.stripPrefix ':' suffix with
        | none => .error (.protocolViolation "invalid XMPP server port")
        | some port => (parseEndpoint host port).map some
  | none =>
    match if server.toList.count ':' = 1 then Text.rsplitOnce ':' server else none with
    | some (host,port) => (parseEndpoint host port).map some
    | none => .ok none

def validateEndpointSyntax (server : String) : Except TransportError Unit :=
  let server := Text.trim server
  if server.isEmpty then .error (.protocolViolation "XMPP server is empty")
  else (splitHostAndPort server).map fun _ => ()

inductive FieldForm
  | openBracket
  | noPort
  | bare
  | endpoint (host port : String)
  deriving DecidableEq

/-- The grammar behind both parsers: `[host]:port` or `host:port`, and everything else is bare
unless a bracket is left open or something else than a port follows it. -/
def fieldForm (server : String) : FieldForm :=
  match Text.stripPrefix '[' server with
  | some rest =>
    match Text.splitOnce ']' rest with
    | none => .openBracket
    | some (host,suffix) =>
      if suffix.isEmpty then .bare
      else
        match Text.stripPrefix ':' suffix with
        | none => .noPort
        | some port => .endpoint host port
  | none =>
    match if server.toList.count ':' = 1 then Text.rsplitOnce ':' server else none with
    | some (host,port) => .endpoint host port
    | none => .bare

def FieldForm.proxy : FieldForm → Except ProxyError (Option (String × UInt16))
  | openBracket => .error (.invalidConfig "invalid bracketed server")
  | noPort => .error (.invalidConfig "invalid server port")
  | bare => .ok none
  | endpoint host port =>
    match parsePort port with
    | none => .error (.invalidConfig "invalid server port")
    | some port => .ok (some (host,port))

def FieldForm.direct : FieldForm → Except TransportError (Option (String × UInt16))
  | openBracket => .error (.protocolViolation "invalid bracketed XMPP server")
  | noPort => .error (.protocolViolation "invalid XMPP server port")
  | bare => .ok none
  | endpoint host port => (parseEndpoint host port).map some

theorem proxy_fieldForm (server : String) :
    ProxyTarget.splitHostAndPort server = (fieldForm server).proxy := by
  unfold ProxyTarget.splitHostAndPort fieldForm
  split
  · split
    · rfl
    · split
      · rfl
      · split <;> rfl
  · split <;> rfl

theorem direct_fieldForm (server : String) : splitHostAndPort server = (fieldForm server).direct := by
  unfold splitHostAndPort fieldForm
  split
  · split
    · rfl
    · split
      · rfl
      · split <;> rfl
  · split <;> rfl

theorem mem_of_fieldForm {server host port : String} (h : fieldForm server = .endpoint host port) :
    ∀ c ∈ host.toList, c ∈ server.toList := by
  unfold fieldForm at h
  split at h
  · next rest hb =>
    split at h
    · cases h
    · next front suffix ho =>
      split at h
      · cases h
      · split at h
        · cases h
        · cases h
          intro c hc
          rw [Text.mem_of_stripPrefix hb]
          exact List.mem_cons_of_mem _ ((Text.mem_of_splitOnce ho).1 c hc)
  · split at h
    · next front back hp =>
      cases h
      obtain ⟨-,hr⟩ := Option.ite_none_right_eq_some.mp hp
      exact (Text.mem_of_rsplitOnce hr).1
    · cases h

theorem validateServer_eq_ok {server : String} :
    validateServer server = .ok () ↔ Text.trim server ≠ "" ∧ Text.containsWhitespace server = false := by
  unfold validateServer
  split
  · next h => simpa using h
  · next h =>
    refine ⟨nofun,fun hs => absurd ⟨hs.1,?_⟩ h⟩
    simp [hs.2]

theorem validateHost_eq {host : String} (h : Text.containsWhitespace host = false) :
    validateHost host = if host = "" then .error (.invalidConfig "a proxy or tunnel host is required")
      else .ok () := by
  simp [validateHost,Text.trim_eq_self h,h]

section Fields

variable {server host : String} {port : UInt16}

theorem parseEndpoint_eq_ok (h : Text.containsWhitespace host = false) {text : String} {e : String × UInt16} :
    parseEndpoint host text = .ok e ↔ parsePort text = some e.2 ∧ host = e.1 ∧ host ≠ "" ∧ e.2 ≠ 0 := by
  obtain ⟨name,number⟩ := e
  unfold parseEndpoint
  rw [Text.trim_eq_self h]
  cases parsePort text with
  | none => simp
  | some p =>
    by_cases hc : host.isEmpty ∨ p = 0
    · simp only [if_pos hc]
      have hc' : host = "" ∨ p = 0 := by simpa using hc
      refine ⟨nofun,?_⟩
      rintro ⟨hp,-,hne,h0⟩
      cases hp
      exact absurd hc' (not_or.mpr ⟨hne,h0⟩)
    · simp only [if_neg hc]
      have hc' : host ≠ "" ∧ p ≠ 0 := by simpa using hc
      constructor
      · intro he
        cases he
        exact ⟨rfl,rfl,hc'⟩
      · rintro ⟨hp,rfl,-⟩
        cases hp
        rfl

theorem ProxyTarget.new_eq_ok (h : Text.containsWhitespace host = false) {target : ProxyTarget} :
    ProxyTarget.new host port = .ok target ↔ target = ⟨host,port⟩ ∧ host ≠ "" ∧ port ≠ 0 := by
  unfold ProxyTarget.new
  rw [validateHost_eq h]
  by_cases hh : host = ""
  · simp [hh]
  · rw [if_neg hh]
    by_cases hp : port = 0
    · simp [hp]
    · simp only [if_neg hp]
      simp [hh,hp,eq_comm]

/-- What an accepted field denotes: itself, or an endpoint with a host and a port. -/
def FieldForm.Denotes (form : FieldForm) : Option (String × UInt16) → Prop
  | none => form = .bare
  | some (host,port) =>
    ∃ text, form = .endpoint host text ∧ parsePort text = some port ∧ host ≠ "" ∧ port ≠ 0

theorem FieldForm.denotes_none {form : FieldForm} : form.Denotes none ↔ form = .bare := Iff.rfl

theorem splitHostAndPort_eq_ok (hs : Text.containsWhitespace server = false)
    {endpoint : Option (String × UInt16)} :
    splitHostAndPort server = .ok endpoint ↔ (fieldForm server).Denotes endpoint := by
  rw [direct_fieldForm]
  cases hf : fieldForm server with
  | openBracket | noPort => rcases endpoint with _ | ⟨host,port⟩ <;> simp [FieldForm.direct,FieldForm.Denotes]
  | bare => rcases endpoint with _ | ⟨host,port⟩ <;> simp [FieldForm.direct,FieldForm.Denotes]
  | endpoint name text =>
    have hn := Text.containsWhitespace_of_subset (mem_of_fieldForm hf) hs
    have hdirect : (FieldForm.endpoint name text).direct = .ok endpoint ↔
        ∃ e, parseEndpoint name text = .ok e ∧ some e = endpoint := by
      simp only [FieldForm.direct]
      cases parseEndpoint name text <;> simp [Except.map]
    rw [hdirect]
    rcases endpoint with _ | ⟨host,port⟩
    · simp [FieldForm.Denotes]
    · simp only [parseEndpoint_eq_ok hn,Option.some.injEq,exists_eq_right,FieldForm.Denotes,
        FieldForm.endpoint.injEq]
      constructor
      · rintro ⟨hp,rfl,hne,h0⟩
        exact ⟨text,⟨rfl,rfl⟩,hp,hne,h0⟩
      · rintro ⟨_,⟨rfl,rfl⟩,hp,hne,h0⟩
        exact ⟨hp,rfl,hne,h0⟩

theorem fromServer_eq_ok (hs : Text.containsWhitespace server = false) (hne : server ≠ "")
    {target : ProxyTarget} :
    ProxyTarget.fromServer server = .ok target ↔
      ∃ endpoint, (fieldForm server).Denotes endpoint ∧
        ProxyTarget.splitHostAndPort server = .ok endpoint ∧
        target = endpoint.elim ⟨server,proxyDefaultTlsPort⟩ fun e => ⟨e.1,e.2⟩ := by
  have hempty : ¬ server.isEmpty = true := by simpa using hne
  simp only [ProxyTarget.fromServer,Text.trim_eq_self hs,if_neg hempty]
  rw [proxy_fieldForm]
  cases hf : fieldForm server with
  | openBracket | noPort => simp [FieldForm.proxy]
  | bare =>
    simp only [FieldForm.proxy,ProxyTarget.new_eq_ok hs]
    constructor
    · rintro ⟨rfl,-⟩
      exact ⟨none,rfl,rfl,rfl⟩
    · rintro ⟨endpoint,-,he,rfl⟩
      cases he
      exact ⟨rfl,hne,by decide⟩
  | endpoint name text =>
    have hn := Text.containsWhitespace_of_subset (mem_of_fieldForm hf) hs
    cases hp : parsePort text with
    | none => simp [FieldForm.proxy,hp]
    | some port =>
      simp only [FieldForm.proxy,hp,ProxyTarget.new_eq_ok hn]
      constructor
      · rintro ⟨rfl,hh,h0⟩
        exact ⟨some (name,port),⟨text,rfl,hp,hh,h0⟩,rfl,rfl⟩
      · rintro ⟨endpoint,hd,he,rfl⟩
        cases he
        obtain ⟨_,-,-,hh,h0⟩ := hd
        exact ⟨rfl,hh,h0⟩

/-- What a field denotes is what the parser of the proxy module reads from it. -/
theorem FieldForm.Denotes.proxy {endpoint : Option (String × UInt16)}
    (h : (fieldForm server).Denotes endpoint) : ProxyTarget.splitHostAndPort server = .ok endpoint := by
  rw [proxy_fieldForm]
  rcases endpoint with _ | ⟨host,port⟩
  · rw [show fieldForm server = .bare from h]
    rfl
  · obtain ⟨text,hf,hp,-⟩ := h
    simp only [hf,FieldForm.proxy,hp]

theorem FieldForm.Denotes.fromServer (hs : Text.containsWhitespace server = false) (hne : server ≠ "")
    {endpoint : Option (String × UInt16)} (h : (fieldForm server).Denotes endpoint) :
    ProxyTarget.fromServer server =
      .ok (endpoint.elim ⟨server,proxyDefaultTlsPort⟩ fun e => ⟨e.1,e.2⟩) :=
  (fromServer_eq_ok hs hne).mpr ⟨endpoint,h,h.proxy,rfl⟩

end Fields

/-- Direct and proxy mode accept the same fields, and read the same host and port from them. -/
theorem server_field_parsed_alike (server : String) (h : validateServer server = .ok ()) :
    (validateEndpointSyntax server = .ok () ↔ ∃ target, ProxyTarget.fromServer server = .ok target) ∧
    (validateEndpointSyntax server = .ok () →
      ∃ endpoint, splitHostAndPort server = .ok endpoint ∧
        ProxyTarget.splitHostAndPort server = .ok endpoint ∧
        ProxyTarget.fromServer server =
          .ok (endpoint.elim ⟨server,proxyDefaultTlsPort⟩ fun e => ⟨e.1,e.2⟩)) := by
  obtain ⟨hne,hs⟩ := validateServer_eq_ok.mp h
  rw [Text.trim_eq_self hs] at hne
  have hdirect : validateEndpointSyntax server = .ok () ↔ ∃ endpoint, (fieldForm server).Denotes endpoint := by
    have hempty : ¬ server.isEmpty = true := by simpa using hne
    simp only [validateEndpointSyntax,Text.trim_eq_self hs,if_neg hempty,← splitHostAndPort_eq_ok hs]
    cases splitHostAndPort server <;> simp [Except.map]
  have hsame : ∀ endpoint, (fieldForm server).Denotes endpoint →
      splitHostAndPort server = .ok endpoint ∧ ProxyTarget.splitHostAndPort server = .ok endpoint ∧
        ProxyTarget.fromServer server =
          .ok (endpoint.elim ⟨server,proxyDefaultTlsPort⟩ fun e => ⟨e.1,e.2⟩) := by
    intro endpoint hd
    exact ⟨(splitHostAndPort_eq_ok hs).mpr hd,hd.proxy,hd.fromServer hs hne⟩
  refine ⟨hdirect.trans ⟨?_,?_⟩,fun hv => ?_⟩
  · rintro ⟨endpoint,hd⟩
    exact ⟨_,(hsame endpoint hd).2.2⟩
  · rintro ⟨target,ht⟩
    obtain ⟨endpoint,hd,-⟩ := (fromServer_eq_ok hs hne).mp ht
    exact ⟨endpoint,hd⟩
  · obtain ⟨endpoint,hd⟩ := hdirect.mp hv
    exact ⟨endpoint,hsame endpoint hd⟩

theorem server_field_parsed_alike_bracketed :
    validateServer "[::1]:5222" = .ok () ∧
    ∃ target, ProxyTarget.fromServer "[::1]:5222" = .ok target :=
  have h : validateServer "[::1]:5222" = .ok () := by decide
  ⟨h,(server_field_parsed_alike "[::1]:5222" h).1.mp (by decide)⟩

end MindChat
