import MindChat.Domain
import MindChat.IpLiteral
import MindChat.Json
import MindChat.Numeral
import MindChat.Text

/-! The messages of a proxy tunnel: building the SOCKS5 requests, checking the
framing of every reply, reading the answer to an HTTP CONNECT, and what a probe
of a proxy reports. -/

namespace MindChat

open Json

def socks5Version : UInt8 := 5
def socks5MethodNoAuth : UInt8 := 0
def socks5MethodUserPass : UInt8 := 2
def socks5AuthVersion : UInt8 := 1
def socks5CmdConnect : UInt8 := 1
def socks5AtypIpv4 : UInt8 := 1
def socks5AtypDomain : UInt8 := 3
def socks5AtypIpv6 : UInt8 := 4
def socks5RepSucceeded : UInt8 := 0

/-- The endpoint requested through the tunnel; its host is never resolved locally. -/
structure ProxyTarget where
  host : String
  port : UInt16
  deriving DecidableEq

inductive ProxyError
  | io (detail : String)
  | invalidConfig (detail : String)
  | socksProtocol (detail : String)
  | socksMethodRejected
  | socksAuthRejected
  | socksConnectFailed (reply : UInt8)
  | httpStatus (status : ℕ) (reason : String)
  | httpMalformed (detail : String)
  deriving DecidableEq

/-- The text a failure shows; it never carries a credential. -/
def ProxyError.text : ProxyError → String
  | .io detail => "proxy I/O error: " ++ detail
  | .invalidConfig detail => "invalid proxy configuration: " ++ detail
  | .socksProtocol detail => "SOCKS5 protocol error: " ++ detail
  | .socksMethodRejected => "the SOCKS5 proxy rejected every offered authentication method"
  | .socksAuthRejected => "the SOCKS5 proxy refused the supplied credentials"
  | .socksConnectFailed reply =>
    "the SOCKS5 proxy refused the tunnel (reply code " ++ toString reply ++ ")"
  | .httpStatus status reason =>
    "the HTTP proxy refused the tunnel (status " ++ toString status ++
      (if reason.isEmpty then "" else ": ") ++ reason ++ ")"
  | .httpMalformed detail => "malformed HTTP proxy response: " ++ detail

/-- The host of a proxy or a tunnel, on its trimmed text. -/
def validateHost (host : String) : Except ProxyError Unit :=
  if Text.trim host = "" then .error (.invalidConfig "a proxy or tunnel host is required")
  else if Text.containsWhitespace (Text.trim host) then
    .error (.invalidConfig "a proxy or tunnel host must not contain whitespace or line breaks")
  else .ok ()

def ProxyConfig.new (host : String) (port : ℕ) (kind : ProxyKind) : Except ProxyError ProxyConfig :=
  match validateHost host with
  | .error e => .error e
  | .ok () =>
    if port = 0 then .error (.invalidConfig "a proxy port must not be zero") else .ok ⟨host,port,kind⟩

def ProxyTarget.new (host : String) (port : UInt16) : Except ProxyError ProxyTarget :=
  match validateHost host with
  | .error e => .error e
  | .ok () =>
    if port = 0 then .error (.invalidConfig "a tunnel port must not be zero") else .ok ⟨host,port⟩

/-- `u8::try_from(n).unwrap_or(255)`. -/
def countByte (n : ℕ) : UInt8 := UInt8.ofNat (min n 255)

/-- Version, method count, methods. -/
def socks5Greeting (methods : Bytes) : Bytes :=
  [socks5Version,countByte methods.length] ++ methods.take (countByte methods.length).toNat

def parseSocks5MethodReply : Bytes → Except ProxyError UInt8
  | [version,method] =>
    if version ≠ socks5Version then
      .error (.socksProtocol
        ("the SOCKS5 proxy replied with version " ++ toString version ++ ", expected 5"))
    else if method = 0xFF then .error .socksMethodRejected
    else .ok method
  | _ => .error (.socksProtocol "the SOCKS5 method reply must be exactly 2 bytes")

/-- Both fields are cut at 255 bytes. -/
def socks5AuthRequest (username password : String) : Bytes :=
  let usernameBytes := utf8 username.toList
  let passwordBytes := utf8 password.toList
  [socks5AuthVersion,countByte usernameBytes.length] ++
    usernameBytes.take (countByte usernameBytes.length).toNat ++
    [countByte passwordBytes.length] ++ passwordBytes.take (countByte passwordBytes.length).toNat

def parseSocks5AuthReply : Bytes → Except ProxyError Unit
  | [version,status] =>
    if version ≠ socks5AuthVersion then
      .error (.socksProtocol
        ("the SOCKS5 proxy replied with authentication version " ++ toString version ++
          ", expected 1"))
    else if status = 0 then .ok ()
    else .error .socksAuthRejected
  | _ => .error (.socksProtocol "the SOCKS5 authentication reply must be exactly 2 bytes")

/-- A literal travels in binary, any other host verbatim as a domain. -/
def encodeAddress (host : String) : Except ProxyError Bytes :=
  match IpLiteral.parseIpv4 host with
  | some ip => .ok (socks5AtypIpv4 :: ip.toList)
  | none =>
    match IpLiteral.parseIpv6 host with
    | some ip => .ok (socks5AtypIpv6 :: ip.octets)
    | none =>
      let bytes := utf8 host.toList
      if bytes.isEmpty ∨ 255 < bytes.length then
        .error (.invalidConfig "a tunnel hostname must be between 1 and 255 bytes")
      else .ok ([socks5AtypDomain,UInt8.ofNat bytes.length] ++ bytes)

def socks5ConnectRequest (target : ProxyTarget) : Except ProxyError Bytes :=
  match encodeAddress target.host with
  | .error e => .error e
  | .ok address =>
    .ok ([socks5Version,socks5CmdConnect,0] ++ address ++
      [(target.port >>> 8).toUInt8,target.port.toUInt8])

def unsupportedAddressType (atyp : UInt8) : ProxyError :=
  .socksProtocol ("unsupported address type " ++ toString atyp ++ " in the SOCKS5 connect reply")

/-- The bytes between the address type and the port of a reply. -/
def replyAddressLength (atyp : UInt8) (afterHeader : Bytes) : Except ProxyError ℕ :=
  if atyp = socks5AtypIpv4 then .ok 4
  else if atyp = socks5AtypIpv6 then .ok 16
  else if atyp = socks5AtypDomain then
    match afterHeader with
    | len :: _ => .ok (len.toNat + 1)
    | [] => .error (.socksProtocol "the SOCKS5 connect reply is missing its domain length byte")
  else .error (unsupportedAddressType atyp)

def parseSocks5ConnectReply (bytes : Bytes) : Except ProxyError Unit :=
  match bytes with
  | version :: reply :: reserved :: atyp :: afterHeader =>
    if version ≠ socks5Version then
      .error (.socksProtocol
        ("the SOCKS5 proxy replied with version " ++ toString version ++ ", expected 5"))
    else if reserved ≠ 0 then
      .error (.socksProtocol "the reserved byte of the SOCKS5 connect reply must be zero")
    else
      match replyAddressLength atyp afterHeader with
      | .error e => .error e
      | .ok addressLen =>
        let expected := 4 + addressLen + 2
        if bytes.length ≠ expected then
          .error (.socksProtocol ("the SOCKS5 connect reply is " ++ toString bytes.length ++
            " bytes, expected " ++ toString expected))
        else if reply = socks5RepSucceeded then .ok ()
        else .error (.socksConnectFailed reply)
  | _ => .error (.socksProtocol "the SOCKS5 connect reply is shorter than its 4-byte header")

/-- `{:?}` of one character of a string; `printable` stands for the Unicode tables. -/
def debugChar (printable : Char → Bool) (c : Char) : List Char :=
  if c = quote ∨ c = backslash then [backslash,c]
  else if c.toNat = 0 then [backslash,'0']
  else if c.toNat = 0x09 then [backslash,'t']
  else if c.toNat = 0x0a then [backslash,'n']
  else if c.toNat = 0x0d then [backslash,'r']
  else if printable c then [c]
  else [backslash,'u',Char.ofNat 0x7b] ++ Nat.toDigits 16 c.toNat ++ [Char.ofNat 0x7d]

def debugText (printable : Char → Bool) (cs : List Char) : String :=
  String.ofList ([quote] ++ cs.flatMap (debugChar printable) ++ [quote])

/-- The first item of `split("\r\n")`. -/
def statusLine : List Char → List Char
  | [] => []
  | c :: cs => if c.toNat = 0x0d ∧ (cs.head?).map Char.toNat = some 0x0a then [] else c :: statusLine cs

/-- Every status but 200 is refused, with the reason that the proxy gives. -/
def parseHttpConnectResponse (printable : Char → Bool) (bytes : Bytes) : Except ProxyError Unit :=
  match bytes.toByteArray.utf8Decode? with
  | none => .error (.httpMalformed "the proxy response is not valid UTF-8")
  | some text =>
    let line := statusLine text.toList
    let parts := Text.splitWhitespace line
    if "HTTP/".toList.isPrefixOf ((parts.head?).getD []) = false then
      .error (.httpMalformed ("the proxy response status line does not start with HTTP/: " ++
        debugText printable line))
    else
      match ((parts.tail).head?).bind (Numeral.parseUnsigned 65535) with
      | none => .error (.httpMalformed ("the proxy response has no parseable status code: " ++
          debugText printable line))
      | some status =>
        if status = 200 then .ok ()
        else .error (.httpStatus status (String.ofList ([' '].intercalate (parts.drop 2))))

structure ProxyProbe where
  ok : Bool
  latencyMs : ℕ
  error : Option String
  deriving DecidableEq

def probeFromResult (result : Except ProxyError Unit) (latencyMs : ℕ) : ProxyProbe :=
  match result with
  | .ok () => ⟨true,min latencyMs u64Max,none⟩
  | .error e => ⟨false,min latencyMs u64Max,some e.text⟩

theorem append_ne_empty {s : String} (hs : s ≠ "") (t : String) : s ++ t ≠ "" := by
  intro h
  have hl : s.toList ++ t.toList = [] := by
    rw [← String.toList_append,h]
    rfl
  exact hs (String.toList_eq_nil_iff.mp (List.append_eq_nil_iff.mp hl).1)

theorem ProxyError.text_ne_empty (e : ProxyError) : e.text ≠ "" := by
  unfold ProxyError.text
  cases e with
  | io detail => exact append_ne_empty (by simp) _
  | invalidConfig detail => exact append_ne_empty (by simp) _
  | socksProtocol detail => exact append_ne_empty (by simp) _
  | socksMethodRejected => simp
  | socksAuthRejected => simp
  | socksConnectFailed reply => exact append_ne_empty (append_ne_empty (by simp) _) _
  | httpStatus status reason =>
    exact append_ne_empty (append_ne_empty (append_ne_empty (append_ne_empty (by simp) _) _) _) _
  | httpMalformed detail => exact append_ne_empty (by simp) _

theorem parseSocks5MethodReply_eq_ok {bytes : Bytes} {method : UInt8}
    (h : parseSocks5MethodReply bytes = .ok method) : bytes = [5,method] := by
  unfold parseSocks5MethodReply at h
  split at h
  · next version selected =>
    split at h
    · cases h
    · next hv =>
      split at h
      · cases h
      · cases h
        rw [not_ne_iff.mp hv]
        rfl
  · cases h

theorem parseSocks5AuthReply_eq_ok {bytes : Bytes} (h : parseSocks5AuthReply bytes = .ok ()) :
    bytes = [1,0] := by
  unfold parseSocks5AuthReply at h
  split at h
  · next version status =>
    split at h
    · cases h
    · next hv =>
      split at h
      · next hs =>
        rw [not_ne_iff.mp hv,hs]
        rfl
      · cases h
  · cases h

/-- The bound address of a reply, in the three forms a proxy may answer with. -/
inductive Socks5Address
  | ipv4 (octets : List.Vector UInt8 4)
  | ipv6 (octets : List.Vector UInt8 16)
  | domain (len : UInt8) (name : List.Vector UInt8 len.toNat)

def Socks5Address.encode : Socks5Address → Bytes
  | .ipv4 octets => socks5AtypIpv4 :: octets.toList
  | .ipv6 octets => socks5AtypIpv6 :: octets.toList
  | .domain len name => socks5AtypDomain :: len :: name.toList

/-- A well framed CONNECT reply. -/
structure Socks5Reply where
  code : UInt8
  address : Socks5Address
  port : List.Vector UInt8 2

def Socks5Reply.encode (reply : Socks5Reply) : Bytes :=
  [socks5Version,reply.code,0] ++ reply.address.encode ++ reply.port.toList

theorem replyAddressLength_frame {atyp : UInt8} {rest : Bytes} {n : ℕ}
    (h : replyAddressLength atyp rest = .ok n) (hn : rest.length = n + 2) :
    ∃ (address : Socks5Address) (port : List.Vector UInt8 2),
      atyp :: rest = address.encode ++ port.toList := by
  have hport : (rest.drop n).length = 2 := by rw [List.length_drop]; omega
  have htake : (rest.take n).length = n := List.length_take_of_le (by omega)
  unfold replyAddressLength at h
  split at h
  · next ha =>
    cases h
    refine ⟨.ipv4 ⟨rest.take 4,htake⟩,⟨rest.drop 4,hport⟩,?_⟩
    simp [Socks5Address.encode,ha]
  · split at h
    · next ha =>
      cases h
      refine ⟨.ipv6 ⟨rest.take 16,htake⟩,⟨rest.drop 16,hport⟩,?_⟩
      simp [Socks5Address.encode,ha]
    · split at h
      · next ha =>
        split at h
        · next len name =>
          cases h
          have hlen : (name.take len.toNat).length = len.toNat := by
            rw [List.length_cons] at hn
            exact List.length_take_of_le (by omega)
          refine ⟨.domain len ⟨name.take len.toNat,hlen⟩,⟨name.drop len.toNat,hport⟩,?_⟩
          simp [Socks5Address.encode,ha]
          exact (List.take_append_drop len.toNat name).symm
        · cases h
      · cases h

/-- The checks accept well framed replies with the success code and nothing else. -/
theorem parseSocks5ConnectReply_eq_ok {bytes : Bytes} (h : parseSocks5ConnectReply bytes = .ok ()) :
    ∃ reply : Socks5Reply, reply.code = 0 ∧ bytes = reply.encode := by
  unfold parseSocks5ConnectReply at h
  split at h
  · next version code reserved atyp rest =>
    split at h
    · cases h
    next hv =>
    split at h
    · cases h
    next hr =>
    split at h
    · cases h
    next addressLen hlen =>
    dsimp only at h
    split at h
    · cases h
    next hsize =>
    split at h
    · next hc =>
      have hn : rest.length = addressLen + 2 := by
        rw [not_ne_iff] at hsize
        simp only [List.length_cons] at hsize
        omega
      obtain ⟨address,port,he⟩ := replyAddressLength_frame hlen hn
      refine ⟨⟨code,address,port⟩,hc,?_⟩
      simp only [Socks5Reply.encode,List.append_assoc,← he]
      rw [not_ne_iff.mp hv,not_ne_iff.mp hr]
      rfl
    · cases h
  · cases h

/-- A reply in the frame of RFC 1928, whatever it says. -/
structure Socks5Frame where
  version : UInt8
  code : UInt8
  reserved : UInt8
  address : Socks5Address
  port : List.Vector UInt8 2

namespace Socks5Frame

def encode (frame : Socks5Frame) : Bytes :=
  [frame.version,frame.code,frame.reserved] ++ frame.address.encode ++ frame.port.toList

/-- What is left to check of a framed reply. -/
def verdict (frame : Socks5Frame) : Except ProxyError Unit :=
  if frame.version ≠ socks5Version then
    .error (.socksProtocol
      ("the SOCKS5 proxy replied with version " ++ toString frame.version ++ ", expected 5"))
  else if frame.reserved ≠ 0 then
    .error (.socksProtocol "the reserved byte of the SOCKS5 connect reply must be zero")
  else if frame.code = socks5RepSucceeded then .ok ()
  else .error (.socksConnectFailed frame.code)

theorem verdict_eq_ok_iff (frame : Socks5Frame) :
    frame.verdict = .ok () ↔ frame.version = 5 ∧ frame.reserved = 0 ∧ frame.code = 0 := by
  unfold verdict socks5Version socks5RepSucceeded
  split
  · next hv => simp [hv]
  · next hv =>
    split
    · next hr => simp [hr]
    · next hr =>
      rw [not_ne_iff] at hv hr
      split <;> simp_all

end Socks5Frame

theorem replyAddressLength_encode (address : Socks5Address) :
    ∃ (atyp : UInt8) (body : Bytes), address.encode = atyp :: body ∧
      ∀ tail, replyAddressLength atyp (body ++ tail) = .ok body.length := by
  cases address with
  | ipv4 octets => exact ⟨1,octets.toList,rfl,fun tail => congrArg Except.ok octets.2.symm⟩
  | ipv6 octets => exact ⟨4,octets.toList,rfl,fun tail => congrArg Except.ok octets.2.symm⟩
  | domain len name =>
    have hn : name.toList.length = len.toNat := name.2
    refine ⟨3,len :: name.toList,rfl,fun tail => ?_⟩
    rw [List.length_cons,hn]
    rfl

theorem parseSocks5ConnectReply_frame (frame : Socks5Frame) :
    parseSocks5ConnectReply frame.encode = frame.verdict := by
  obtain ⟨version,code,reserved,address,port⟩ := frame
  obtain ⟨atyp,body,he,hlen⟩ := replyAddressLength_encode address
  have hport : port.toList.length = 2 := port.2
  have hbytes : Socks5Frame.encode ⟨version,code,reserved,address,port⟩ =
      version :: code :: reserved :: atyp :: (body ++ port.toList) := by
    simp [Socks5Frame.encode,he]
  have hsize : (version :: code :: reserved :: atyp :: (body ++ port.toList)).length =
      4 + body.length + 2 := by
    simp only [List.length_cons,List.length_append,hport]
    omega
  rw [hbytes]
  simp only [parseSocks5ConnectReply,hlen,hsize,ne_eq,not_true,if_false,Socks5Frame.verdict]

theorem parseSocks5ConnectReply_encode (reply : Socks5Reply) :
    parseSocks5ConnectReply reply.encode =
      if reply.code = 0 then .ok () else .error (.socksConnectFailed reply.code) :=
  parseSocks5ConnectReply_frame ⟨socks5Version,reply.code,0,reply.address,reply.port⟩

end MindChat
