import MindChat.HttpConnect

/-! The authority of an HTTP CONNECT request: the grammar its receiver parses it by, and the hosts
that come through. -/

namespace MindChat

open Json

/-- The characters of a registered name that stand for themselves: unreserved ones and delimiters. -/
def plainRegName (c : Char) : Bool := c.isAlphanum || "-._~!$&'()*+,;=".toList.contains c

def regName : List Char → Bool
  | [] => true
  | '%' :: high :: low :: rest =>
    (IpLiteral.toDigit 16 high).isSome && (IpLiteral.toDigit 16 low).isSome && regName rest
  | c :: rest => plainRegName c && regName rest

def authorityPort : List Char → Option ℕ
  | ':' :: digits =>
    if digits ≠ [] ∧ digits.all Char.isDigit then some (Nat.ofDigitChars 10 digits 0) else none
  | _ => none

/-- An IPv4 address or a registered name, the first that matches. -/
def namedHost (host : List Char) : Option Destination :=
  match IpLiteral.parseIpv4 (String.ofList host) with
  | some ip => some (.ipv4 ip)
  | none => if host ≠ [] ∧ regName host then some (.domain (utf8 host)) else none

/-- An IPv6 address in brackets and what follows the closing one. -/
def bracketedHost (text : List Char) : Option Destination × List Char :=
  ((IpLiteral.parseIpv6 (String.ofList (text.takeWhile (· ≠ ']')))).map .ipv6,
    (text.dropWhile (· ≠ ']')).drop 1)

def parseAuthority (text : List Char) : Option (Destination × ℕ) :=
  let (host,rest) :=
    if text.head? = some '[' then bracketedHost text.tail
    else (namedHost (text.takeWhile (· ≠ ':')),text.dropWhile (· ≠ ':'))
  host.bind fun host => (authorityPort rest).map fun port => (host,port)

/-- The middle word of the request line. -/
def requestAuthority (request : List Char) : Option (List Char) :=
  match headerLines request with
  | line :: _ =>
    match line.splitOn ' ' with
    | [_,authority,_] => some authority
    | _ => none
  | [] => none

def hostField (request : List Char) : Option (List Char) :=
  (headerLines request).findSome? fun line =>
    if "Host: ".toList.isPrefixOf line then some (line.drop 6) else none

/-- Labels of letters, digits, hyphens and underscores with dots between them. -/
def DnsName (host : String) : Prop :=
  host ≠ "" ∧ ∀ c ∈ host.toList, c.isAlphanum = true ∨ c = '-' ∨ c = '.' ∨ c = '_'

/-- The receiver of a request reads this endpoint in both places. -/
def Names (request : String) (endpoint : Destination × ℕ) : Prop :=
  (requestAuthority request.toList).bind parseAuthority = some endpoint ∧
    (hostField request.toList).bind parseAuthority = some endpoint

section Authority

variable {target : ProxyTarget}

theorem requestAuthority_request (engine : Base64.Engine) (h : Text.containsWhitespace target.host = false)
    (credentials : Option (String × String)) :
    requestAuthority (httpConnectRequest engine target credentials).toList = some (authority target) := by
  have hspace : ' ' ∉ authority target := not_mem_authority h (by decide)
  have hline : requestLine target =
      "CONNECT".toList ++ ' ' :: (authority target ++ ' ' :: "HTTP/1.1".toList) := by
    have hconnect : "CONNECT ".toList = "CONNECT".toList ++ [' '] := by decide
    have hversion : " HTTP/1.1".toList = ' ' :: "HTTP/1.1".toList := by decide
    unfold requestLine
    simp only [hconnect,hversion,List.append_assoc,List.cons_append,List.nil_append]
  have hsplit : (requestLine target).splitOn ' ' = ["CONNECT".toList,authority target,"HTTP/1.1".toList] := by
    rw [hline,List.splitOn_append_cons_self_of_not_mem (by decide),
      List.splitOn_append_cons_self_of_not_mem hspace,List.splitOn_eq_singleton (by decide)]
  unfold requestAuthority
  rw [(headerLines_request engine h credentials).1]
  simp only [List.cons_append]
  rw [hsplit]

theorem hostField_request (engine : Base64.Engine) (h : Text.containsWhitespace target.host = false)
    (credentials : Option (String × String)) :
    hostField (httpConnectRequest engine target credentials).toList = some (authority target) := by
  have hfirst : "Host: ".toList.isPrefixOf (requestLine target) = false := by
    have hconnect : "CONNECT ".toList = 'C' :: "ONNECT ".toList := by decide
    have hhost : "Host: ".toList = 'H' :: "ost: ".toList := by decide
    have hne : ('H' == 'C') = false := by decide
    unfold requestLine
    simp only [hconnect,hhost,List.append_assoc,List.cons_append,List.isPrefixOf_cons_cons,hne,
      Bool.false_and]
  have hsecond : "Host: ".toList.isPrefixOf (hostLine target) = true :=
    List.isPrefixOf_iff_prefix.mpr (List.prefix_append _ _)
  have hdrop : (hostLine target).drop 6 = authority target := List.drop_left' (by decide)
  unfold hostField
  rw [(headerLines_request engine h credentials).1]
  simp only [List.cons_append,List.findSome?_cons,hfirst,hsecond,if_true]
  rw [hdrop]
  rfl

theorem authorityPort_digits (n : ℕ) : authorityPort (':' :: Nat.toDigits 10 n) = some n := by
  have hall : (Nat.toDigits 10 n).all Char.isDigit = true :=
    List.all_eq_true.mpr fun c hc => Numeral.isDigit_toDigits hc
  rw [authorityPort,if_pos ⟨Nat.toDigits_ne_nil,hall⟩,Nat.ofDigitChars_ten_toDigits]

theorem head_authority (h : '[' ∉ target.host.toList) : (authority target).head? ≠ some '[' := by
  intro hhead
  rcases List.mem_append.mp (List.mem_of_head? hhead) with hm | hm
  · exact h hm
  · rcases List.mem_cons.mp hm with hm | hm
    · cases hm
    · exact absurd (Numeral.isDigit_toDigits hm) (by decide)

theorem parseAuthority_host (hcolon : ':' ∉ target.host.toList) (hbracket : '[' ∉ target.host.toList)
    (hname : IpLiteral.parseIpv4 target.host = none →
      target.host.toList ≠ [] ∧ regName target.host.toList = true)
    (h6 : IpLiteral.parseIpv6 target.host = none) :
    parseAuthority (authority target) = some (destination target.host,target.port.toNat) := by
  have hf : ∀ c ∈ target.host.toList, decide (c ≠ ':') = true :=
    fun c hc => decide_eq_true (ne_of_mem_of_not_mem hc hcolon)
  have htake : (authority target).takeWhile (· ≠ ':') = target.host.toList := by
    rw [authority,List.takeWhile_append_of_pos hf,List.takeWhile_cons_of_neg (by decide),List.append_nil]
  have hdrop : (authority target).dropWhile (· ≠ ':') = ':' :: Nat.toDigits 10 target.port.toNat := by
    rw [authority,List.dropWhile_append_of_pos hf,List.dropWhile_cons_of_neg (by decide)]
  have hhost : namedHost target.host.toList = some (destination target.host) := by
    rw [namedHost,String.ofList_toList,destination]
    cases h4 : IpLiteral.parseIpv4 target.host with
    | some ip => rfl
    | none =>
      rw [h6]
      exact if_pos (hname h4)
  simp only [parseAuthority,if_neg (head_authority hbracket),htake,hdrop,hhost,authorityPort_digits,
    Option.bind_some,Option.map_some]

/-- An IPv6 literal is not: the first of its colons ends the host. -/
theorem parseAuthority_ipv6 {ip : Ipv6Addr} (h : IpLiteral.parseIpv6 target.host = some ip) :
    parseAuthority (authority target) = none := by
  obtain ⟨hc,hn⟩ := IpLiteral.hextet_of_parseIpv6 h
  have hbracket : '[' ∉ target.host.toList := by
    intro hm
    have hcode := (hc _ hm).toNat
    revert hcode
    decide
  obtain ⟨front,back,hhost,hfront⟩ := List.eq_append_cons_of_mem (List.count_pos_iff.mp (Nat.zero_lt_of_lt hn))
  have hback : ':' ∈ back := by
    rw [hhost,List.count_append,List.count_cons_self,List.count_eq_zero.mpr hfront] at hn
    exact List.count_pos_iff.mp (by omega)
  have hf : ∀ c ∈ front, decide (c ≠ ':') = true :=
    fun c hc => decide_eq_true (ne_of_mem_of_not_mem hc hfront)
  have hdrop : (authority target).dropWhile (· ≠ ':') =
      ':' :: (back ++ ':' :: Nat.toDigits 10 target.port.toNat) := by
    rw [authority,hhost,List.append_assoc,List.cons_append,List.dropWhile_append_of_pos hf,
      List.dropWhile_cons_of_neg (by decide)]
  have hport : authorityPort ((authority target).dropWhile (· ≠ ':')) = none := by
    rw [hdrop,authorityPort]
    refine if_neg fun hd => ?_
    have hdigit := List.all_eq_true.mp hd.2 ':' (List.mem_append_left _ hback)
    exact absurd hdigit (by decide)
  simp only [parseAuthority,if_neg (head_authority hbracket),hport,Option.map_none]
  cases namedHost ((authority target).takeWhile (· ≠ ':')) <;> rfl

end Authority

section Hosts

variable {host : String}

theorem regName_of_plain {text : List Char} (h : ∀ c ∈ text, plainRegName c = true) :
    regName text = true := by
  induction text with
  | nil => rfl
  | cons c text ih =>
    rw [List.forall_mem_cons] at h
    have hne : c ≠ '%' := by
      rintro rfl
      exact absurd h.1 (by decide)
    unfold regName
    split
    · rfl
    · next he =>
      cases he
      exact absurd rfl hne
    · next he =>
      cases he
      rw [h.1,ih h.2]
      rfl

theorem plain_of_dnsName {c : Char} (h : c.isAlphanum = true ∨ c = '-' ∨ c = '.' ∨ c = '_') :
    plainRegName c = true ∧ Text.isWhitespace c = false := by
  rcases h with h | rfl | rfl | rfl
  · refine ⟨by rw [plainRegName,h,Bool.true_or],?_⟩
    have hcode : (0x30 ≤ c.toNat ∧ c.toNat ≤ 0x39) ∨ (0x41 ≤ c.toNat ∧ c.toNat ≤ 0x5a) ∨
        0x61 ≤ c.toNat ∧ c.toNat ≤ 0x7a := by
      have hdef : c.isAlphanum = (decide (0x41 ≤ c.toNat ∧ c.toNat ≤ 0x5a) ||
          (decide (0x61 ≤ c.toNat) && decide (c.toNat ≤ 0x7a)) ||
          (decide (0x30 ≤ c.toNat) && decide (c.toNat ≤ 0x39))) := rfl
      rw [hdef] at h
      simp only [Bool.or_eq_true,Bool.and_eq_true,decide_eq_true_eq] at h
      omega
    simp only [Text.isWhitespace,Bool.or_eq_false_iff,Bool.and_eq_false_iff,decide_eq_false_iff_not,
      beq_eq_false_iff_ne]
    omega
  · exact ⟨by decide,by decide⟩
  · exact ⟨by decide,by decide⟩
  · exact ⟨by decide,by decide⟩

theorem plain_of_dotted {c : Char} (h : IpLiteral.Dotted c) : plainRegName c = true := by
  rcases h with h | rfl
  · have hcode : 48 ≤ c.toNat ∧ c.toNat ≤ 57 := by
      have := IpLiteral.isSome_toDigit h
      omega
    have hdigit : c.isDigit = true := by
      simp only [Char.isDigit,Bool.and_eq_true,decide_eq_true_eq]
      exact hcode
    rw [plainRegName,Char.isAlphanum,hdigit,Bool.or_true,Bool.true_or]
  · decide

theorem plain_of_kind (hk : DnsName host ∨ (IpLiteral.parseIpv4 host).isSome) :
    (∀ c ∈ host.toList, plainRegName c = true ∧ Text.isWhitespace c = false) ∧
      (IpLiteral.parseIpv4 host = none → host.toList ≠ []) := by
  rcases hk with ⟨hne,hc⟩ | h4
  · exact ⟨fun c hm => plain_of_dnsName (hc c hm),fun _ => by simpa using hne⟩
  · obtain ⟨ip,h4⟩ := Option.isSome_iff_exists.mp h4
    refine ⟨fun c hm => ?_,fun hnone => ?_⟩
    · have hd := IpLiteral.dotted_of_parseIpv4 h4 c hm
      exact ⟨plain_of_dotted hd,not_isWhitespace_of_hextet hd.hextet⟩
    · rw [h4] at hnone
      cases hnone

theorem containsWhitespace_eq_false (h : ∀ c ∈ host.toList, Text.isWhitespace c = false) :
    Text.containsWhitespace host = false := by
  simpa [Text.containsWhitespace] using h

end Hosts

/-- The receiver of a request for a DNS name, an IPv4 or an IPv6 literal reads the target from it
exactly if it is no IPv6 literal. -/
theorem connect_authority_iff (engine : Base64.Engine) (target : ProxyTarget)
    (credentials : Option (String × String))
    (hk : DnsName target.host ∨ (IpLiteral.parseIpv4 target.host).isSome ∨
      (IpLiteral.parseIpv6 target.host).isSome) :
    Names (httpConnectRequest engine target credentials) (destination target.host,target.port.toNat) ↔
      IpLiteral.parseIpv6 target.host = none := by
  cases h6 : IpLiteral.parseIpv6 target.host with
  | some ip =>
    have hs : Text.containsWhitespace target.host = false := containsWhitespace_eq_false
      fun c hc => not_isWhitespace_of_hextet ((IpLiteral.hextet_of_parseIpv6 h6).1 c hc)
    refine iff_of_false (fun hn => ?_) nofun
    have hread := hn.1
    rw [requestAuthority_request engine hs,Option.bind_some,parseAuthority_ipv6 h6] at hread
    cases hread
  | none =>
    have hkind : DnsName target.host ∨ (IpLiteral.parseIpv4 target.host).isSome := by
      simpa [h6] using hk
    obtain ⟨hc,hne⟩ := plain_of_kind hkind
    have hs := containsWhitespace_eq_false fun c hm => (hc c hm).2
    have hnot : ∀ d, plainRegName d = false → d ∉ target.host.toList := by
      intro d hd hm
      rw [(hc d hm).1] at hd
      cases hd
    have hread := parseAuthority_host (hnot ':' (by decide)) (hnot '[' (by decide))
      (fun h4 => ⟨hne h4,regName_of_plain fun c hm => (hc c hm).1⟩) h6
    refine iff_of_true ⟨?_,?_⟩ rfl
    · rw [requestAuthority_request engine hs,Option.bind_some,hread]
    · rw [hostField_request engine hs,Option.bind_some,hread]

theorem connect_authority_iff_name :
    Names (httpConnectRequest Base64.standard ⟨"jabber.ru",5223⟩ none) (destination "jabber.ru",5223) :=
  (connect_authority_iff Base64.standard ⟨"jabber.ru",5223⟩ none (.inl ⟨by decide,by simp⟩)).mpr (by decide)

/-- The authority of an IPv6 literal has no brackets, and its receiver finds no host and no port in
it; the request to a SOCKS5 proxy for the same target carries the address. -/
theorem ipv6_authority_unreadable :
    ProxyTarget.new "::1" 5222 = .ok ⟨"::1",5222⟩ ∧
    requestAuthority (httpConnectRequest Base64.standard ⟨"::1",5222⟩ none).toList =
      some "::1:5222".toList ∧
    parseAuthority "::1:5222".toList = none ∧
    ¬ Names (httpConnectRequest Base64.standard ⟨"::1",5222⟩ none) (destination "::1",5222) ∧
    socks5ConnectRequest ⟨"::1",5222⟩ =
      .ok [5,1,0,4,0,0,0,0,0,0,0,0,0,0,0,0,0,0,0,1,0x14,0x66] := by
  have hread : requestAuthority (httpConnectRequest Base64.standard ⟨"::1",5222⟩ none).toList =
      some "::1:5222".toList := by decide
  have hnone : parseAuthority "::1:5222".toList = none := by decide
  refine ⟨by decide,hread,hnone,fun hn => ?_,by decide⟩
  have hauthority := hn.1
  rw [hread,Option.bind_some,hnone] at hauthority
  cases hauthority

end MindChat

