import MindChat.ProxyProtocol

/-! The SOCKS5 CONNECT request as a proxy reads it: the decoder of RFC 1928 section 4 gives back the
endpoint that the target denotes. -/

namespace MindChat

open Json

inductive Destination
  | ipv4 (ip : Ipv4Addr)
  | ipv6 (ip : Ipv6Addr)
  | domain (name : Bytes)
  deriving DecidableEq

/-- A literal is its value, and any other host is a name. -/
def destination (host : String) : Destination :=
  match IpLiteral.parseIpv4 host with
  | some ip => .ipv4 ip
  | none =>
    match IpLiteral.parseIpv6 host with
    | some ip => .ipv6 ip
    | none => .domain (utf8 host.toList)

/-- A number in network order. -/
def word (high low : UInt8) : UInt16 := UInt16.ofNat (high.toNat * 256 + low.toNat)

def words : Bytes → List UInt16
  | high :: low :: rest => word high low :: words rest
  | _ => []

def decodeAddress : Bytes → Option (Destination × Bytes)
  | [] => none
  | atyp :: rest =>
    if atyp = 1 then
      if h : (rest.take 4).length = 4 then some (.ipv4 ⟨rest.take 4,h⟩,rest.drop 4) else none
    else if atyp = 4 then
      if h : (words (rest.take 16)).length = 8 then
        some (.ipv6 ⟨words (rest.take 16),h⟩,rest.drop 16)
      else none
    else if atyp = 3 then
      match rest with
      | [] => none
      | len :: name =>
        if len.toNat ≤ name.length then
          some (.domain (name.take len.toNat),name.drop len.toNat)
        else none
    else none

structure ConnectRequest where
  command : UInt8
  destination : Destination
  port : UInt16
  deriving DecidableEq

def decodeConnectRequest : Bytes → Option (ConnectRequest × Bytes)
  | version :: command :: reserved :: rest =>
    if version = 5 ∧ reserved = 0 then
      match decodeAddress rest with
      | some (address,high :: low :: rest) => some (⟨command,address,word high low⟩,rest)
      | _ => none
    else none
  | _ => none

def portBytes (port : UInt16) : Bytes := [(port >>> 8).toUInt8,port.toUInt8]

theorem word_bytes (n : UInt16) : word (n >>> 8).toUInt8 n.toUInt8 = n := by
  have hn := n.toNat_lt
  have hhigh : (n >>> 8).toUInt8.toNat = n.toNat / 256 := by
    rw [UInt16.toNat_toUInt8,UInt16.toNat_shiftRight]
    change (n.toNat >>> 8) % 2 ^ 8 = n.toNat / 256
    rw [Nat.shiftRight_eq_div_pow]
    omega
  have hlow : n.toUInt8.toNat = n.toNat % 256 := UInt16.toNat_toUInt8 n
  have hsum : n.toNat / 256 * 256 + n.toNat % 256 = n.toNat := by omega
  rw [word,hhigh,hlow,hsum,UInt16.ofNat_toNat]

theorem words_octets (groups : List UInt16) :
    words (groups.flatMap fun group : UInt16 => [(group >>> 8).toUInt8,group.toUInt8]) = groups := by
  induction groups with
  | nil => rfl
  | cons group groups ih =>
    rw [List.flatMap_cons,List.cons_append,List.cons_append,List.nil_append,words,word_bytes,ih]

theorem length_octets (ip : Ipv6Addr) : ip.octets.length = 16 := by
  have hlen : ip.toList.length = 8 := ip.2
  simp [Ipv6Addr.octets,List.length_flatMap,hlen]

/-- The one length byte of a name bounds it. -/
def Destination.Representable : Destination → Prop
  | ipv4 _ | ipv6 _ => True
  | domain name => 1 ≤ name.length ∧ name.length ≤ 255

def Destination.bytes : Destination → Bytes
  | ipv4 ip => 1 :: ip.toList
  | ipv6 ip => 4 :: ip.octets
  | domain name => 3 :: UInt8.ofNat name.length :: name

theorem encodeAddress_eq_ok {host : String} {address : Bytes} :
    encodeAddress host = .ok address ↔
      (destination host).Representable ∧ address = (destination host).bytes := by
  unfold encodeAddress destination
  cases IpLiteral.parseIpv4 host with
  | some ip => simp [Destination.Representable,Destination.bytes,socks5AtypIpv4,eq_comm]
  | none =>
    cases IpLiteral.parseIpv6 host with
    | some ip => simp [Destination.Representable,Destination.bytes,socks5AtypIpv6,eq_comm]
    | none =>
      have hempty : (utf8 host.toList).isEmpty = true ↔ ¬ 1 ≤ (utf8 host.toList).length := by
        rw [List.isEmpty_iff,← List.length_eq_zero_iff]
        omega
      simp only [Destination.Representable,Destination.bytes,hempty]
      by_cases hlen : 1 ≤ (utf8 host.toList).length ∧ (utf8 host.toList).length ≤ 255
      · rw [if_neg (by omega)]
        simp [hlen,socks5AtypDomain,eq_comm]
      · rw [if_pos (by omega)]
        simp [hlen]

theorem decodeAddress_bytes {d : Destination} (h : d.Representable) (rest : Bytes) :
    decodeAddress (d.bytes ++ rest) = some (d,rest) := by
  cases d with
  | ipv4 ip =>
    have hlen : ip.toList.length = 4 := ip.2
    have htake : (ip.toList ++ rest).take 4 = ip.toList := List.take_left' hlen
    have hdrop : (ip.toList ++ rest).drop 4 = rest := List.drop_left' hlen
    simp only [Destination.bytes,decodeAddress,List.cons_append,htake,hdrop,hlen]
    rfl
  | ipv6 ip =>
    have hlen := length_octets ip
    have hwords : words ip.octets = ip.toList := words_octets ip.toList
    have hcount : (words ip.octets).length = 8 := hwords ▸ ip.2
    have htake : (ip.octets ++ rest).take 16 = ip.octets := List.take_left' hlen
    have hdrop : (ip.octets ++ rest).drop 16 = rest := List.drop_left' hlen
    have hip : (⟨words ip.octets,hcount⟩ : Ipv6Addr) = ip := Subtype.ext hwords
    simp only [Destination.bytes,decodeAddress,List.cons_append,htake,hdrop]
    rw [if_neg (by decide),if_pos trivial,dif_pos hcount,hip]
  | domain name =>
    have hlen : (UInt8.ofNat name.length).toNat = name.length := by
      rw [UInt8.toNat_ofNat']
      exact Nat.mod_eq_of_lt (Nat.lt_succ_of_le h.2)
    have htake : (name ++ rest).take name.length = name := List.take_left
    have hdrop : (name ++ rest).drop name.length = rest := List.drop_left
    have hfits : name.length ≤ (name ++ rest).length := by
      rw [List.length_append]
      exact Nat.le_add_right _ _
    simp only [Destination.bytes,decodeAddress,List.cons_append,hlen,htake,hdrop]
    rw [if_neg (by decide),if_neg (by decide),if_pos trivial,if_pos hfits]

theorem Destination.eq_of_bytes {d e : Destination} (hd : d.Representable) (he : e.Representable)
    (h : d.bytes = e.bytes) : d = e := by
  have hpair := (decodeAddress_bytes hd []).symm.trans (h ▸ decodeAddress_bytes he [])
  exact congrArg Prod.fst (Option.some.inj hpair)

theorem socks5ConnectRequest_eq_ok {target : ProxyTarget} {bytes : Bytes} :
    socks5ConnectRequest target = .ok bytes ↔ (destination target.host).Representable ∧
      bytes = [5,1,0] ++ (destination target.host).bytes ++ portBytes target.port := by
  unfold socks5ConnectRequest
  cases he : encodeAddress target.host with
  | error e =>
    have hnot : ¬ (destination target.host).Representable := by
      intro hr
      rw [encodeAddress_eq_ok.mpr ⟨hr,rfl⟩] at he
      cases he
    simp [hnot]
  | ok address =>
    obtain ⟨hr,rfl⟩ := encodeAddress_eq_ok.mp he
    simp [hr,portBytes,socks5Version,socks5CmdConnect,eq_comm]

theorem decodeConnectRequest_bytes {target : ProxyTarget} {bytes : Bytes}
    (h : socks5ConnectRequest target = .ok bytes) :
    decodeConnectRequest bytes = some (⟨1,destination target.host,target.port⟩,[]) := by
  obtain ⟨hr,rfl⟩ := socks5ConnectRequest_eq_ok.mp h
  have haddress := decodeAddress_bytes hr (portBytes target.port)
  simp only [List.cons_append,List.nil_append,decodeConnectRequest,haddress]
  rw [if_pos ⟨trivial,trivial⟩]
  simp only [portBytes,word_bytes]

theorem representable_iff (host : String) :
    (destination host).Representable ↔ (IpLiteral.parseIpv4 host).isSome ∨
      (IpLiteral.parseIpv6 host).isSome ∨
      1 ≤ (utf8 host.toList).length ∧ (utf8 host.toList).length ≤ 255 := by
  unfold destination
  cases IpLiteral.parseIpv4 host with
  | some ip => simp [Destination.Representable]
  | none =>
    cases IpLiteral.parseIpv6 host with
    | some ip => simp [Destination.Representable]
    | none => simp [Destination.Representable]

theorem not_isWhitespace_of_hextet {c : Char} (h : IpLiteral.Hextet c) : Text.isWhitespace c = false := by
  have hc := h.toNat
  simp only [Text.isWhitespace,Bool.or_eq_false_iff,Bool.and_eq_false_iff,decide_eq_false_iff_not,
    beq_eq_false_iff_ne]
  omega

/-- A CONNECT request is built exactly for a literal or a name of 1 to 255 bytes, its decoder takes
all of it and gives back the endpoint, and so the request tells endpoints apart. -/
theorem socks5_connect_round_trip (target : ProxyTarget) :
    ((∃ bytes, socks5ConnectRequest target = .ok bytes) ↔
      (IpLiteral.parseIpv4 target.host).isSome ∨ (IpLiteral.parseIpv6 target.host).isSome ∨
        1 ≤ (utf8 target.host.toList).length ∧ (utf8 target.host.toList).length ≤ 255) ∧
    ∀ bytes, socks5ConnectRequest target = .ok bytes →
      decodeConnectRequest bytes = some (⟨1,destination target.host,target.port⟩,[]) ∧
      ∀ other, socks5ConnectRequest other = .ok bytes →
        destination other.host = destination target.host ∧ other.port = target.port := by
  refine ⟨?_,fun bytes h => ⟨decodeConnectRequest_bytes h,fun other ho => ?_⟩⟩
  · rw [← representable_iff]
    constructor
    · rintro ⟨bytes,h⟩
      exact (socks5ConnectRequest_eq_ok.mp h).1
    · intro hr
      exact ⟨_,socks5ConnectRequest_eq_ok.mpr ⟨hr,rfl⟩⟩
  · have hsame := (decodeConnectRequest_bytes ho).symm.trans (decodeConnectRequest_bytes h)
    injection hsame with hpair
    injection hpair with hrequest _
    injection hrequest with _ hd hp
    exact ⟨hd,hp⟩

end MindChat
