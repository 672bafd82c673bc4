import MindChat.ConnectRequest
import Mathlib.Data.List.GetD

/-! The HTTP CONNECT request as its receiver reads it: line by line, with the target in the request
line and in the host field. The encoder of the credentials is a parameter. -/

namespace Base64

def alphabet : List Char := "ABCDEFGHIJKLMNOPQRSTUVWXYZabcdefghijklmnopqrstuvwxyz0123456789+/".toList

/-- An encoder whose texts have the digits of the standard alphabet and padding. -/
structure Engine where
  encode : List UInt8 → List Char
  mem_encode : ∀ {bytes c}, c ∈ encode bytes → c ∈ alphabet ∨ c = '='

theorem Engine.not_mem_encode (engine : Engine) {c : Char} (hc : c ∉ alphabet) (hpad : c ≠ '=')
    (bytes : List UInt8) : c ∉ engine.encode bytes :=
  fun h => (engine.mem_encode h).elim hc hpad

def digit (n : ℕ) : Char := alphabet.getD (n % 64) 'A'

/-- Three bytes are four digits, and a last group of fewer is filled up. -/
def encode : List UInt8 → List Char
  | a :: b :: c :: rest =>
    let n := a.toNat * 65536 + b.toNat * 256 + c.toNat
    digit (n / 262144) :: digit (n / 4096) :: digit (n / 64) :: digit n :: encode rest
  | [a,b] =>
    let n := a.toNat * 65536 + b.toNat * 256
    [digit (n / 262144),digit (n / 4096),digit (n / 64),'=']
  | [a] =>
    let n := a.toNat * 65536
    [digit (n / 262144),digit (n / 4096),'=','=']
  | [] => []

theorem digit_mem (n : ℕ) : digit n ∈ alphabet := by
  have hlt : n % 64 < alphabet.length := Nat.mod_lt n (by decide)
  rw [digit,List.getD_eq_getElem _ _ hlt]
  exact List.getElem_mem hlt

theorem mem_encode {bytes : List UInt8} {c : Char} (h : c ∈ encode bytes) : c ∈ alphabet ∨ c = '=' := by
  induction bytes using encode.induct with
  | case1 a b d rest ih =>
    simp only [encode,List.mem_cons] at h
    rcases h with rfl | rfl | rfl | rfl | h
    · exact .inl (digit_mem _)
    · exact .inl (digit_mem _)
    · exact .inl (digit_mem _)
    · exact .inl (digit_mem _)
    · exact ih h
  | case2 a b =>
    simp only [encode,List.mem_cons,List.not_mem_nil,or_false] at h
    rcases h with rfl | rfl | rfl | h
    · exact .inl (digit_mem _)
    · exact .inl (digit_mem _)
    · exact .inl (digit_mem _)
    · exact .inr h
  | case3 a =>
    simp only [encode,List.mem_cons,List.not_mem_nil,or_false,or_self] at h
    rcases h with rfl | rfl | h
    · exact .inl (digit_mem _)
    · exact .inl (digit_mem _)
    · exact .inr h
  | case4 => cases h

/-- Base64 as RFC 4648 section 4 defines it. -/
def standard : Engine := ⟨encode,mem_encode⟩

end Base64

namespace MindChat

open Json

section

variable (engine : Base64.Engine)

/-- The fields of basic authentication. -/
def basicToken (username password : String) : String :=
  String.ofList (engine.encode (utf8 (username ++ ":" ++ password).toList))

def httpConnectRequest (target : ProxyTarget) (credentials : Option (String × String)) : String :=
  let authority := target.host ++ ":" ++ toString target.port.toNat
  let request := "CONNECT " ++ authority ++ " HTTP/1.1\r\nHost: " ++ authority ++ "\r\n"
  let request :=
    match credentials with
    | none => request
    | some (username,password) =>
      request ++ ("Proxy-Authorization: Basic " ++ basicToken engine username password ++ "\r\n")
  request ++ "\r\n"

end

/-- The lines of a header block: a line feed ends one, and a carriage return in front of it is not
part of it. -/
def headerLines (text : List Char) : List (List Char) :=
  (text.splitOn '\n').dropLast.map fun line =>
    if line.getLast? = some '\r' then line.dropLast else line

/-- The receiver finds the request line, the host and at most one authorization in front of the
empty line, and nothing else, also none behind the last line feed. -/
def WellFramed (request : String) : Prop :=
  (request.toList.splitOn '\n').getLast? = some [] ∧ ∃ requestLine hostLine authorization,
    headerLines request.toList = [requestLine,hostLine] ++ authorization ++ [[]] ∧
    "CONNECT ".toList <+: requestLine ∧ " HTTP/1.1".toList <:+ requestLine ∧
    "Host: ".toList <+: hostLine ∧ authorization.length ≤ 1 ∧
    (∀ line ∈ authorization, "Proxy-Authorization: ".toList <+: line) ∧
    ∀ line ∈ [requestLine,hostLine] ++ authorization, '\r' ∉ line

def crlf : List Char := ['\r','\n']

theorem splitOn_flatMap {lines : List (List Char)} (h : ∀ line ∈ lines, '\n' ∉ line) :
    (lines.flatMap (· ++ crlf)).splitOn '\n' = lines.map (· ++ ['\r']) ++ [[]] := by
  induction lines with
  | nil => rfl
  | cons line lines ih =>
    rw [List.forall_mem_cons] at h
    have hline : '\n' ∉ line ++ ['\r'] := by simp [h.1]
    have hcons : (line :: lines).flatMap (· ++ crlf) =
        (line ++ ['\r']) ++ '\n' :: lines.flatMap (· ++ crlf) := by simp [crlf]
    rw [hcons,List.splitOn_append_cons_self_of_not_mem hline,ih h.2]
    rfl

theorem headerLines_flatMap {lines : List (List Char)} (h : ∀ line ∈ lines, '\n' ∉ line) :
    headerLines (lines.flatMap (· ++ crlf)) = lines := by
  rw [headerLines,splitOn_flatMap h,List.dropLast_concat,List.map_map]
  refine List.map_id'' (fun line => ?_) lines
  simp

/-- The target as it stands in the request line and in the host field. -/
def authority (target : ProxyTarget) : List Char :=
  target.host.toList ++ ':' :: Nat.toDigits 10 target.port.toNat

def requestLine (target : ProxyTarget) : List Char :=
  "CONNECT ".toList ++ authority target ++ " HTTP/1.1".toList

def hostLine (target : ProxyTarget) : List Char := "Host: ".toList ++ authority target

def authorizationLines (engine : Base64.Engine) : Option (String × String) → List (List Char)
  | none => []
  | some (username,password) =>
    ["Proxy-Authorization: Basic ".toList ++ (basicToken engine username password).toList]

section Request

variable {engine : Base64.Engine} {target : ProxyTarget}

theorem toList_httpConnectRequest (engine : Base64.Engine) (target : ProxyTarget)
    (credentials : Option (String × String)) :
    (httpConnectRequest engine target credentials).toList =
      ([requestLine target,hostLine target] ++ authorizationLines engine credentials ++ [[]]).flatMap
        (· ++ crlf) := by
  have hdigits : (toString target.port.toNat).toList = Nat.toDigits 10 target.port.toNat :=
    Nat.toList_repr
  have hauthority : (target.host ++ ":" ++ toString target.port.toNat).toList = authority target := by
    rw [String.toList_append,String.toList_append,hdigits,List.append_assoc]
    rfl
  have hbreak : " HTTP/1.1\r\nHost: ".toList = " HTTP/1.1".toList ++ crlf ++ "Host: ".toList := by decide
  have hend : "\r\n".toList = crlf := by decide
  unfold httpConnectRequest
  generalize target.host ++ ":" ++ toString target.port.toNat = text at hauthority
  -- the texts stay closed, or the lists below would be compared character by character
  have hfront : ("CONNECT " ++ text ++ " HTTP/1.1\r\nHost: " ++ text ++ "\r\n").toList =
      [requestLine target,hostLine target].flatMap (· ++ crlf) := by
    simp only [String.toList_append]
    rw [hauthority,hbreak,hend]
    unfold requestLine hostLine
    generalize "CONNECT ".toList = connect
    generalize " HTTP/1.1".toList = version
    generalize "Host: ".toList = host
    simp
  rw [List.flatMap_append,List.flatMap_append,← hfront,String.toList_append,hend]
  rcases credentials with _ | ⟨username,password⟩
  · rw [authorizationLines,List.flatMap_nil,List.append_nil]
    rfl
  · have hline : ("Proxy-Authorization: Basic " ++ basicToken engine username password ++ "\r\n").toList =
        "Proxy-Authorization: Basic ".toList ++ (basicToken engine username password).toList ++ crlf := by
      rw [String.toList_append,String.toList_append,hend]
    rw [String.toList_append,hline,authorizationLines]
    generalize "Proxy-Authorization: Basic ".toList = authorization
    simp only [List.flatMap_cons,List.flatMap_nil,List.append_assoc,List.append_nil,List.nil_append]

theorem not_mem_authority (h : Text.containsWhitespace target.host = false) {c : Char}
    (hc : Text.isWhitespace c = true) : c ∉ authority target := by
  intro hm
  rcases List.mem_append.mp hm with hm | hm
  · have hall : ∀ c ∈ target.host.toList, ¬ Text.isWhitespace c = true := by
      simpa [Text.containsWhitespace] using h
    exact hall c hm hc
  · rcases List.mem_cons.mp hm with rfl | hm
    · exact absurd hc (by decide)
    · rw [Text.isWhitespace_of_isDigit (Numeral.isDigit_toDigits hm)] at hc
      cases hc

theorem headerLines_request (engine : Base64.Engine) (h : Text.containsWhitespace target.host = false)
    (credentials : Option (String × String)) :
    headerLines (httpConnectRequest engine target credentials).toList =
        [requestLine target,hostLine target] ++ authorizationLines engine credentials ++ [[]] ∧
      ((httpConnectRequest engine target credentials).toList.splitOn '\n').getLast? = some [] ∧
      ∀ line ∈ [requestLine target,hostLine target] ++ authorizationLines engine credentials,
        '\r' ∉ line := by
  have hfixed : ∀ c ∈ crlf, Text.isWhitespace c = true ∧ c ∉ "CONNECT ".toList ∧
      c ∉ " HTTP/1.1".toList ∧ c ∉ "Host: ".toList ∧ c ∉ "Proxy-Authorization: Basic ".toList ∧
      c ∉ Base64.alphabet ∧ c ≠ '=' :=
    List.forall_mem_cons.mpr ⟨by decide,List.forall_mem_singleton.mpr (by decide)⟩
  have hbreak : ∀ c ∈ crlf, ∀ line ∈ [requestLine target,hostLine target] ++
      authorizationLines engine credentials, c ∉ line := by
    intro c hc line hl
    obtain ⟨hws,hconnect,hversion,hhost,hproxy,halphabet,hpad⟩ := hfixed c hc
    have hauthority := not_mem_authority h hws
    rcases List.mem_append.mp hl with hl | hl
    · rcases List.mem_cons.mp hl with rfl | hl
      · exact List.not_mem_append (List.not_mem_append hconnect hauthority) hversion
      · rw [List.mem_singleton.mp hl]
        exact List.not_mem_append hhost hauthority
    · rcases credentials with _ | ⟨username,password⟩
      · cases hl
      · rw [List.mem_singleton.mp hl]
        refine List.not_mem_append hproxy ?_
        rw [basicToken,String.toList_ofList]
        exact engine.not_mem_encode halphabet hpad _
  have hfeed : ∀ line ∈ [requestLine target,hostLine target] ++
      authorizationLines engine credentials ++ [[]], '\n' ∉ line := by
    intro line hl
    rcases List.mem_append.mp hl with hl | hl
    · exact hbreak '\n' (by decide) line hl
    · rw [List.mem_singleton.mp hl]
      exact List.not_mem_nil
  rw [toList_httpConnectRequest]
  refine ⟨headerLines_flatMap hfeed,?_,fun line hl => hbreak '\r' (by decide) line hl⟩
  rw [splitOn_flatMap hfeed]
  exact List.getLast?_concat

theorem wellFramed_request (engine : Base64.Engine) (h : Text.containsWhitespace target.host = false)
    (credentials : Option (String × String)) : WellFramed (httpConnectRequest engine target credentials) := by
  obtain ⟨hlines,hlast,hcr⟩ := headerLines_request engine h credentials
  refine ⟨hlast,requestLine target,hostLine target,authorizationLines engine credentials,hlines,
    ?_,?_,?_,?_,?_,hcr⟩
  · exact ⟨authority target ++ " HTTP/1.1".toList,(List.append_assoc _ _ _).symm⟩
  · exact List.suffix_append _ _
  · exact List.prefix_append _ _
  · rcases credentials with _ | ⟨username,password⟩
    · exact Nat.zero_le 1
    · exact Nat.le_refl 1
  · intro line hl
    rcases credentials with _ | ⟨username,password⟩
    · cases hl
    · have hbasic : "Proxy-Authorization: Basic ".toList =
          "Proxy-Authorization: ".toList ++ "Basic ".toList := by decide
      rw [List.mem_singleton.mp hl,hbasic,List.append_assoc]
      exact List.prefix_append _ _

end Request

theorem validateHost_eq_ok {host : String} (h : validateHost host = .ok ()) :
    Text.containsWhitespace (Text.trim host) = false := by
  unfold validateHost at h
  split at h
  · cases h
  · split at h
    · cases h
    · next hw => simpa using hw

/-- An accepted host has white space only around the text that was checked. -/
theorem clean_iff_trimmed {host : String} (h : validateHost host = .ok ()) :
    Text.containsWhitespace host = false ↔ Text.trim host = host := by
  refine ⟨Text.trim_eq_self,fun ht => ?_⟩
  rw [← ht]
  exact validateHost_eq_ok h

theorem ProxyConfig.new_host {host : String} {port : ℕ} {kind : ProxyKind} {config : ProxyConfig}
    (h : ProxyConfig.new host port kind = .ok config) : validateHost host = .ok () ∧ config.host = host := by
  unfold ProxyConfig.new at h
  split at h
  · cases h
  · next hv =>
    split at h
    · cases h
    · cases h
      exact ⟨hv,rfl⟩

theorem ProxyTarget.new_host {host : String} {port : UInt16} {target : ProxyTarget}
    (h : ProxyTarget.new host port = .ok target) : validateHost host = .ok () ∧ target.host = host := by
  unfold ProxyTarget.new at h
  split at h
  · cases h
  · next hv =>
    split at h
    · cases h
    · cases h
      exact ⟨hv,rfl⟩

/-- An accepted host is stored without white space, and every request for it is framed as it should
be, exactly if it had none around it. -/
theorem no_header_injection_iff (engine : Base64.Engine) (host : String) :
    (∀ port kind config, ProxyConfig.new host port kind = .ok config →
      (Text.containsWhitespace config.host = false ↔ Text.trim host = host)) ∧
    ∀ port target, ProxyTarget.new host port = .ok target →
      (Text.containsWhitespace target.host = false ∧
        (∀ credentials, WellFramed (httpConnectRequest engine target credentials)) ↔
      Text.trim host = host) := by
  constructor
  · intro port kind config h
    obtain ⟨hv,rfl⟩ := ProxyConfig.new_host h
    exact clean_iff_trimmed hv
  · intro port target h
    obtain ⟨hv,rfl⟩ := ProxyTarget.new_host h
    rw [← clean_iff_trimmed hv]
    exact ⟨And.left,fun hs => ⟨hs,wellFramed_request engine hs⟩⟩

/-- The line break behind the host ends the request line in front of the port. -/
theorem trailing_break_splits_request :
    ProxyConfig.new "host\r\n" 8080 .httpConnect = .ok ⟨"host\r\n",8080,.httpConnect⟩ ∧
    ProxyTarget.new "host\r\n" 5223 = .ok ⟨"host\r\n",5223⟩ ∧
    Text.containsWhitespace "host\r\n" = true ∧
    headerLines (httpConnectRequest Base64.standard ⟨"host\r\n",5223⟩ none).toList =
      ["CONNECT host".toList,":5223 HTTP/1.1".toList,"Host: host".toList,":5223".toList,[]] ∧
    ¬ WellFramed (httpConnectRequest Base64.standard ⟨"host\r\n",5223⟩ none) := by
  have hlines : headerLines (httpConnectRequest Base64.standard ⟨"host\r\n",5223⟩ none).toList =
      ["CONNECT host".toList,":5223 HTTP/1.1".toList,"Host: host".toList,":5223".toList,[]] := by decide
  refine ⟨by decide,by decide,by decide,hlines,?_⟩
  rintro ⟨-,first,second,others,he,-,hversion,-⟩
  rw [hlines] at he
  injection he with hfirst _
  rw [← hfirst] at hversion
  exact absurd hversion (by decide)

end MindChat
