import MindChat.ConnectRequest
import MindChat.Resolution

/-! An IPv6 address in the server field: what the tunnel and the direct connection make of it in each
of its notations. -/

namespace MindChat

open IpLiteral

/-- The notations of an address in the server field. -/
inductive Ipv6Field
  | plain
  | bracketed
  | withPort
  deriving DecidableEq

namespace Ipv6Field

def text (address : String) (port : UInt16) : Ipv6Field → String
  | plain => address
  | bracketed => "[" ++ address ++ "]"
  | withPort => "[" ++ address ++ "]:" ++ toString port.toNat

/-- The proxy is asked for the address in binary. -/
def Tunnels (ip : Ipv6Addr) (address : String) (port : UInt16) (field : Ipv6Field) : Prop :=
  ∃ target, ProxyTarget.fromServer (field.text address port) = .ok target ∧
    socks5ConnectRequest target =
      .ok ([5,1,0,4] ++ ip.octets ++ portBytes (if field = withPort then port else proxyDefaultTlsPort))

/-- The candidates of the address, with its own port or with the two defaults. -/
def candidates (ip : Ipv6Addr) (port : UInt16) (field : Ipv6Field) : List Candidate :=
  if field = withPort then [(.v6 ip port 0 0,port = 5223)]
  else [(.v6 ip 5222 0 0,false),(.v6 ip 5223 0 0,true)]

/-- The address is dialled, and no resolver is asked. -/
def Dials (ip : Ipv6Addr) (address : String) (port : UInt16) (field : Ipv6Field) : Prop :=
  ∀ dns, resolveEndpointsWith dns (field.text address port) = ([],.ok (field.candidates ip port))

end Ipv6Field

def silentResolvers : Resolvers := ⟨fun _ _ => .error "no answer",false,fun _ => none,none,none⟩

section Notations

variable {address : String} {ip : Ipv6Addr} {port : UInt16}

theorem hextet_ne {c d : Char} (h : Hextet c) (hd : d = '[' ∨ d = ']') : c ≠ d := by
  rintro rfl
  have hc := h.toNat
  rcases hd with rfl | rfl <;> revert hc <;> decide

theorem parsePort_toString (port : UInt16) : parsePort (toString port.toNat) = some port := by
  have hdigits : (toString port.toNat).toList = Nat.toDigits 10 port.toNat := Nat.toList_repr
  have hmax : port.toNat ≤ 65535 := Nat.lt_succ_iff.mp port.toNat_lt
  rw [parsePort,hdigits,Numeral.parseUnsigned_toDigits hmax,Option.map_some,UInt16.ofNat_toNat]

theorem parseIp_of_parseIpv6 (h : parseIpv6 address = some ip) : parseIp address = some (.v6 ip) := by
  simp [parseIp,readIpv4Addr_of_parseIpv6 h,h]

theorem text_bracketed (address : String) (port : UInt16) :
    Ipv6Field.bracketed.text address port = String.ofList ('[' :: (address.toList ++ [']'])) := by
  apply String.toList_inj.mp
  simp [Ipv6Field.text]

theorem text_withPort (address : String) (port : UInt16) :
    Ipv6Field.withPort.text address port =
      String.ofList ('[' :: (address.toList ++ ']' :: ':' :: Nat.toDigits 10 port.toNat)) := by
  apply String.toList_inj.mp
  simp [Ipv6Field.text]

theorem containsWhitespace_text (h : parseIpv6 address = some ip) (port : UInt16) (field : Ipv6Field) :
    Text.containsWhitespace (field.text address port) = false := by
  have hc : ∀ c ∈ address.toList, Text.isWhitespace c = false :=
    fun c hc => not_isWhitespace_of_hextet ((hextet_of_parseIpv6 h).1 c hc)
  have hdigit : ∀ c ∈ Nat.toDigits 10 port.toNat, Text.isWhitespace c = false :=
    fun c hc => Text.isWhitespace_of_isDigit (Numeral.isDigit_toDigits hc)
  have hall : ∀ c ∈ (field.text address port).toList, Text.isWhitespace c = false := by
    cases field with
    | plain => exact hc
    | bracketed =>
      rw [text_bracketed,String.toList_ofList,List.forall_mem_cons,List.forall_mem_append]
      exact ⟨rfl,hc,by simp; decide⟩
    | withPort =>
      rw [text_withPort,String.toList_ofList,List.forall_mem_cons,List.forall_mem_append,
        List.forall_mem_cons,List.forall_mem_cons]
      exact ⟨rfl,hc,rfl,rfl,hdigit⟩
  simpa [Text.containsWhitespace] using hall

theorem splitOnce_bracket (h : parseIpv6 address = some ip) (back : List Char) :
    Text.splitOnce ']' (String.ofList (address.toList ++ ']' :: back)) =
      some (address,String.ofList back) := by
  have hbracket : ']' ∉ address.toList :=
    fun hm => hextet_ne ((hextet_of_parseIpv6 h).1 _ hm) (.inr rfl) rfl
  rw [Text.splitOnce_append hbracket,String.ofList_toList]

theorem fieldForm_plain (h : parseIpv6 address = some ip) (port : UInt16) :
    fieldForm (Ipv6Field.plain.text address port) = .bare := by
  change fieldForm address = .bare
  obtain ⟨hc,hn⟩ := hextet_of_parseIpv6 h
  have hbracket : '[' ∉ address.toList := fun hm => hextet_ne (hc _ hm) (.inl rfl) rfl
  rw [fieldForm,Text.stripPrefix_eq_none hbracket,if_neg (by omega)]

theorem fieldForm_bracketed (h : parseIpv6 address = some ip) (port : UInt16) :
    fieldForm (Ipv6Field.bracketed.text address port) = .bare := by
  rw [text_bracketed,fieldForm,Text.stripPrefix_cons]
  simp only [splitOnce_bracket h]
  rfl

theorem fieldForm_withPort (h : parseIpv6 address = some ip) (port : UInt16) :
    fieldForm (Ipv6Field.withPort.text address port) = .endpoint address (toString port.toNat) := by
  have hdigits : String.ofList (Nat.toDigits 10 port.toNat) = toString port.toNat :=
    Nat.repr_eq_ofList_toDigits.symm
  rw [text_withPort,fieldForm,Text.stripPrefix_cons]
  simp only [splitOnce_bracket h,Text.stripPrefix_cons,hdigits]
  rw [if_neg (by simp)]

theorem parse_bracketed (address : String) (port : UInt16) :
    parseIpv6 (Ipv6Field.bracketed.text address port) = none ∧
      readIpv4Addr (Ipv6Field.bracketed.text address port).toList = none := by
  rw [text_bracketed]
  constructor
  · refine Option.eq_none_iff_forall_ne_some.mpr fun ip hp => ?_
    have hm : '[' ∈ (String.ofList ('[' :: (address.toList ++ [']']))).toList := by simp
    exact hextet_ne ((hextet_of_parseIpv6 hp).1 _ hm) (.inl rfl) rfl
  · simp [readIpv4Addr,readOctet,readSeparator,readNumber,toDigit]

theorem destination_literal (h : parseIpv6 address = some ip) : destination address = .ipv6 ip := by
  rw [destination,parseIpv4_of_parseIpv6 h,h]

theorem destination_bracketed (address : String) (port : UInt16) :
    ∃ name, destination (Ipv6Field.bracketed.text address port) = .domain name := by
  obtain ⟨h6,h4⟩ := parse_bracketed address port
  have hv4 : parseIpv4 (Ipv6Field.bracketed.text address port) = none := by simp [parseIpv4,parseWith,h4]
  rw [destination,hv4,h6]
  exact ⟨_,rfl⟩

theorem text_ne_empty (h : parseIpv6 address = some ip) (port : UInt16) (field : Ipv6Field) :
    field.text address port ≠ "" := by
  cases field with
  | plain =>
    rintro rfl
    exact absurd (hextet_of_parseIpv6 h).2 (by decide)
  | bracketed => simp [Ipv6Field.text]
  | withPort => simp [Ipv6Field.text]

theorem tunnels_iff {field : Ipv6Field} {target : ProxyTarget}
    (hfrom : ProxyTarget.fromServer (field.text address port) = .ok target)
    (hport : target.port = if field = .withPort then port else proxyDefaultTlsPort) :
    field.Tunnels ip address port ↔ destination target.host = .ipv6 ip := by
  unfold Ipv6Field.Tunnels
  rw [hfrom,← hport]
  constructor
  · rintro ⟨_,he,hr⟩
    cases he
    obtain ⟨hrep,hbytes⟩ := socks5ConnectRequest_eq_ok.mp hr
    have haddress : [5,1,0] ++ 4 :: ip.octets = [5,1,0] ++ (destination target.host).bytes :=
      List.append_cancel_right hbytes
    exact Destination.eq_of_bytes hrep trivial (List.append_cancel_left haddress).symm
  · intro hdest
    refine ⟨target,rfl,socks5ConnectRequest_eq_ok.mpr ?_⟩
    rw [hdest]
    exact ⟨trivial,rfl⟩

theorem denotes_withPort (h : parseIpv6 address = some ip) (hp : port ≠ 0) :
    (fieldForm (Ipv6Field.withPort.text address port)).Denotes (some (address,port)) :=
  ⟨_,fieldForm_withPort h port,parsePort_toString port,text_ne_empty h port .plain,hp⟩

theorem fromServer_bare (h : parseIpv6 address = some ip) (field : Ipv6Field)
    (hf : fieldForm (field.text address port) = .bare) :
    ProxyTarget.fromServer (field.text address port) = .ok ⟨field.text address port,proxyDefaultTlsPort⟩ := by
  have hd := FieldForm.denotes_none.mpr hf
  exact hd.fromServer (containsWhitespace_text h port field) (text_ne_empty h port field)

theorem fromServer_withPort (h : parseIpv6 address = some ip) (hp : port ≠ 0) :
    ProxyTarget.fromServer (Ipv6Field.withPort.text address port) = .ok ⟨address,port⟩ :=
  (denotes_withPort h hp).fromServer (containsWhitespace_text h port _) (text_ne_empty h port _)

theorem tunnels_iff_ne (h : parseIpv6 address = some ip) (hp : port ≠ 0) (field : Ipv6Field) :
    field.Tunnels ip address port ↔ field ≠ .bracketed := by
  cases field with
  | plain =>
    rw [tunnels_iff (fromServer_bare h .plain (fieldForm_plain h port)) (if_neg (by decide)).symm]
    exact iff_of_true (destination_literal h) (by decide)
  | bracketed =>
    rw [tunnels_iff (fromServer_bare h .bracketed (fieldForm_bracketed h port)) (if_neg (by decide)).symm]
    obtain ⟨name,hn⟩ := destination_bracketed address port
    dsimp only
    rw [hn]
    exact iff_of_false nofun (by decide)
  | withPort =>
    rw [tunnels_iff (fromServer_withPort h hp) (if_pos rfl).symm]
    exact iff_of_true (destination_literal h) (by decide)

theorem dials_of_attempts (h : parseIpv6 address = some ip) (field : Ipv6Field)
    (hr : ∀ dns, resolveAttempts dns (field.text address port) = ([],.ok (field.candidates ip port))) :
    field.Dials ip address port := by
  intro dns
  rw [resolveEndpointsWith,Text.trim_eq_self (containsWhitespace_text h port field),hr,within_nil]

theorem splitHostAndPort_bare (h : parseIpv6 address = some ip) (field : Ipv6Field)
    (hf : fieldForm (field.text address port) = .bare) :
    splitHostAndPort (field.text address port) = .ok none :=
  (splitHostAndPort_eq_ok (containsWhitespace_text h port field)).mpr (FieldForm.denotes_none.mpr hf)

theorem dials_iff_ne (h : parseIpv6 address = some ip) (hp : port ≠ 0) (field : Ipv6Field) :
    field.Dials ip address port ↔ field ≠ .bracketed := by
  have hip := parseIp_of_parseIpv6 h
  cases field with
  | plain =>
    refine iff_of_true (dials_of_attempts h _ fun dns => ?_) (by decide)
    have hsplit := splitHostAndPort_bare h .plain (fieldForm_plain h port)
    have hip' : parseIp (Ipv6Field.plain.text address port) = some (.v6 ip) := hip
    rw [resolveAttempts,hsplit]
    simp only [hip']
    rfl
  | bracketed =>
    refine iff_of_false (fun hd => ?_) (by decide)
    obtain ⟨h6,h4⟩ := parse_bracketed address port
    have hs := containsWhitespace_text h port .bracketed
    have hnone : parseIp (Ipv6Field.bracketed.text address port) = none := by
      simp only [parseIp,h4,h6,Option.map_none]
    have hasked := resolveName_queries silentResolvers hs hnone
    have hrun := hd silentResolvers
    rw [resolveEndpointsWith,Text.trim_eq_self hs,resolveAttempts,
      splitHostAndPort_bare h .bracketed (fieldForm_bracketed h port)] at hrun
    dsimp only at hrun
    rw [hnone] at hrun
    change resolveName silentResolvers _ = _ at hrun
    rw [hrun] at hasked
    cases hasked
  | withPort =>
    refine iff_of_true (dials_of_attempts h _ fun dns => ?_) (by decide)
    have hs := containsWhitespace_text h port .withPort
    have hsplit := (splitHostAndPort_eq_ok hs).mpr (denotes_withPort h hp)
    have hhost : resolveHost dns address port = ([],.ok [SocketAddr.new (.v6 ip) port]) :=
      resolveHost_literal dns (containsWhitespace_text h port .plain) hip port
    rw [resolveAttempts,hsplit]
    dsimp only
    rw [hhost]
    rfl

end Notations

/-- In both modes a field denotes its address in every notation but the bracketed one without a
port. -/
theorem ipv6_field_denotes_iff {address : String} {ip : Ipv6Addr} (h : parseIpv6 address = some ip)
    {port : UInt16} (hp : port ≠ 0) (field : Ipv6Field) :
    (field.Tunnels ip address port ↔ field ≠ .bracketed) ∧
      (field.Dials ip address port ↔ field ≠ .bracketed) :=
  ⟨tunnels_iff_ne h hp field,dials_iff_ne h hp field⟩

def loopback : Ipv6Addr := ⟨[0,0,0,0,0,0,0,1],rfl⟩

theorem ipv6_field_denotes_iff_loopback :
    Ipv6Field.withPort.Tunnels loopback "::1" 5222 ∧ Ipv6Field.withPort.Dials loopback "::1" 5222 :=
  have h := ipv6_field_denotes_iff (show parseIpv6 "::1" = some loopback by decide)
    (show (5222 : UInt16) ≠ 0 by decide) .withPort
  ⟨h.1.mpr (by decide),h.2.mpr (by decide)⟩

/-- The proxy is asked for a host with brackets in its name, and so are the resolvers. -/
theorem bracketed_address_is_a_name :
    parseIpv6 "::1" = some loopback ∧
    (ProxyTarget.fromServer "[::1]" = .ok ⟨"[::1]",5223⟩ ∧
      socks5ConnectRequest ⟨"[::1]",5223⟩ =
        .ok [5,1,0,3,5,0x5b,0x3a,0x3a,0x31,0x5d,0x14,0x67]) ∧
    (resolveEndpointsWith silentResolvers "[::1]").1 = [.host "[::1]" 5222,.host "[::1]" 5223] ∧
    ¬ (Ipv6Field.bracketed.Tunnels loopback "::1" 5222 ∧
      Ipv6Field.bracketed.Dials loopback "::1" 5222) :=
  have h : parseIpv6 "::1" = some loopback := by decide
  ⟨h,by decide,by decide,fun hd => (tunnels_iff_ne h (by decide) .bracketed).mp hd.1 rfl⟩

end MindChat
