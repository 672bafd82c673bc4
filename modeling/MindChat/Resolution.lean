import MindChat.Candidates
import MindChat.ServerField

/-! Where the direct connection looks for a server: literals at once, names through the resolvers,
and every question to them on record. -/

namespace MindChat

def TransportError.text : TransportError → String
  | .authenticationFailed => "authentication failed"
  | .tlsVerification detail => "TLS verification failed: " ++ detail
  | .connectionFailed detail => "connection failed: " ++ detail
  | .protocolViolation detail => "protocol violation: " ++ detail
  | .unsupported detail => "unsupported by transport: " ++ detail

inductive IpAddr
  | v4 (ip : Ipv4Addr)
  | v6 (ip : Ipv6Addr)
  deriving DecidableEq

/-- `str::parse::<IpAddr>`: what starts with an IPv4 address is one or nothing. -/
def parseIp (s : String) : Option IpAddr :=
  match IpLiteral.readIpv4Addr s.toList with
  | some (ip,rest) => if rest = [] then some (.v4 ip) else none
  | none => (IpLiteral.parseIpv6 s).map .v6

def SocketAddr.new : IpAddr → UInt16 → SocketAddr
  | .v4 ip, port => .v4 ip port
  | .v6 ip, port => .v6 ip port 0 0

structure SrvCandidate where
  priority : UInt16
  weight : UInt16
  target : String
  port : UInt16
  deriving DecidableEq

inductive Query
  | host (name : String) (port : UInt16)
  | srv (name : String)
  deriving DecidableEq

/-- What the resolvers answer, and after how many questions a time limit is up, if it is. -/
structure Resolvers where
  lookupHost : String → UInt16 → Except String (List SocketAddr)
  srvReady : Bool
  srvLookup : String → Option (List SrvCandidate)
  srvTimeout : Option ℕ
  totalTimeout : Option ℕ

/-- `tokio::time::timeout`: a computation that asks nothing never waits. -/
def within {α : Type} (limit : Option ℕ) (late : α) (r : List Query × α) : List Query × α :=
  match limit with
  | none => r
  | some n => if 0 < n ∧ n ≤ r.1.length then (r.1.take n,late) else r

def orderSrvCandidates (records : List SrvCandidate) : List SrvCandidate :=
  records.mergeSort fun a b => a.priority < b.priority ∨ a.priority = b.priority ∧ b.weight ≤ a.weight

def maxAddressesPerPort : ℕ := 4

def resolveHost (dns : Resolvers) (host : String) (port : UInt16) :
    List Query × Except String (List SocketAddr) :=
  let host := Text.trim host
  match parseIp host with
  | some ip => ([],.ok [SocketAddr.new ip port])
  | none =>
    ([.host host port],
      match dns.lookupHost host port with
      | .error error =>
        .error ("cannot resolve XMPP server " ++ host ++ ":" ++ toString port.toNat ++ ": " ++ error)
      | .ok addresses =>
        let addresses := addresses.take maxAddressesPerPort
        if addresses = [] then
          .error ("XMPP server " ++ host ++ ":" ++ toString port.toNat ++ " resolved to no addresses")
        else .ok addresses)

/-- The addresses of a host, or none if it has none. -/
def foundAddresses (directTls : Bool) : Except String (List SocketAddr) → List Candidate
  | .ok addresses => addresses.map fun address => (address,directTls)
  | .error _ => []

def srvEndpoints (dns : Resolvers) (domain : String) : List Query × List Candidate :=
  if dns.srvReady = false then ([],[])
  else
    let name := "_xmpp-client._tcp." ++ domain ++ "."
    match dns.srvLookup name with
    | none => ([.srv name],[])
    | some answers =>
      let records := orderSrvCandidates (answers.filter fun record => record.target ≠ ".")
      (.srv name :: records.flatMap fun record => (resolveHost dns record.target record.port).1,
        records.flatMap fun record =>
          foundAddresses (record.port = 5223) (resolveHost dns record.target record.port).2)

/-- The candidates of a name: its own addresses on both ports, then those of its records. -/
def resolveName (dns : Resolvers) (server : String) : List Query × Except String (List Candidate) :=
  let plain := resolveHost dns server 5222
  let tls := resolveHost dns server 5223
  let srv := within dns.srvTimeout [] (srvEndpoints dns server)
  let attempts := foundAddresses false plain.2 ++ foundAddresses true tls.2 ++ srv.2
  (plain.1 ++ tls.1 ++ srv.1,
    if attempts = [] then .error ("cannot resolve XMPP server " ++ server)
    else .ok (dedupeCandidates attempts))

/-- What runs under the time limit. -/
def resolveAttempts (dns : Resolvers) (server : String) : List Query × Except String (List Candidate) :=
  match splitHostAndPort server with
  | .error e => ([],.error e.text)
  | .ok (some (host,port)) =>
    let (queries,addresses) := resolveHost dns host port
    (queries,addresses.map fun addresses => addresses.map fun address => (address,port = 5223))
  | .ok none =>
    match parseIp server with
    | some ip => ([],.ok [(SocketAddr.new ip 5222,false),(SocketAddr.new ip 5223,true)])
    | none => resolveName dns server

def resolveEndpointsWith (dns : Resolvers) (server : String) :
    List Query × Except String (List Candidate) :=
  within dns.totalTimeout (.error "DNS resolution timed out") (resolveAttempts dns (Text.trim server))

theorem within_nil {α : Type} (limit : Option ℕ) (late a : α) : within limit late ([],a) = ([],a) := by
  cases limit with
  | none => rfl
  | some n => exact if_neg fun h => absurd (h.1.trans_le h.2) (Nat.lt_irrefl 0)

theorem resolveHost_literal (dns : Resolvers) {host : String} {ip : IpAddr}
    (hs : Text.containsWhitespace host = false) (h : parseIp host = some ip) (port : UInt16) :
    resolveHost dns host port = ([],.ok [SocketAddr.new ip port]) := by
  simp only [resolveHost,Text.trim_eq_self hs,h]

theorem resolveName_queries (dns : Resolvers) {server : String}
    (hs : Text.containsWhitespace server = false) (h : parseIp server = none) :
    .host server 5222 ∈ (resolveName dns server).1 := by
  simp [resolveName,resolveHost,Text.trim_eq_self hs,h]

end MindChat
