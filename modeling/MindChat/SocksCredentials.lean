import MindChat.SocksHandshake

/-! The credentials of a SOCKS5 handshake as a proxy reads them: what the message of RFC 1929 can
carry, and what happens to a longer secret. -/

namespace MindChat

open Json

/-- The two fields of a message, which they take up; empty ones are taken as well. -/
def decodeAuthRequest : Bytes → Option (Bytes × Bytes)
  | version :: ulen :: rest =>
    if version = 1 then
      match rest.drop ulen.toNat with
      | plen :: password =>
        if password.length = plen.toNat then some (rest.take ulen.toNat,password) else none
      | [] => none
    else none
  | _ => none

/-- The message says what was meant. -/
def Conveys (bytes : Bytes) (username password : String) : Prop :=
  decodeAuthRequest bytes = some (utf8 username.toList,utf8 password.toList)

/-- Every authentication message that leaves, or the part of it that does, belongs to one that
conveys the secret. -/
def SendsFaithfully (password : String) (target : ProxyTarget) : Prop :=
  ∀ sent ending faults bytes,
    .wrote .authentication bytes ∈
      ((socks5Handshake (some password) target).run (Wire.opened sent ending faults)).2.log →
    ∃ message, bytes <+: message ∧ Conveys message "" password

theorem decodeAuthRequest_le {bytes username password : Bytes}
    (h : decodeAuthRequest bytes = some (username,password)) :
    username.length ≤ 255 ∧ password.length ≤ 255 := by
  unfold decodeAuthRequest at h
  split at h
  · next version ulen rest =>
    split at h
    · split at h
      · next plen field hrest =>
        split at h
        · next hlen =>
          cases h
          have hu := ulen.toNat_lt
          have hp := plen.toNat_lt
          rw [List.length_take]
          omega
        · cases h
      · cases h
    · cases h
  · cases h

theorem countByte_toNat (n : ℕ) : (countByte n).toNat = min n 255 := by
  rw [countByte,UInt8.toNat_ofNat']
  exact Nat.mod_eq_of_lt (by omega)

/-- A proxy reads the first 255 bytes of each field. -/
theorem decodeAuthRequest_request (username password : String) :
    decodeAuthRequest (socks5AuthRequest username password) =
      some ((utf8 username.toList).take 255,(utf8 password.toList).take 255) := by
  unfold socks5AuthRequest
  generalize utf8 username.toList = name
  generalize utf8 password.toList = secret
  have hcut : ∀ bytes : Bytes, bytes.take (min bytes.length 255) = bytes.take 255 := by
    intro bytes
    rw [Nat.min_comm,← List.take_take,List.take_length]
  have hlen : ∀ bytes : Bytes, (bytes.take 255).length = min bytes.length 255 := by
    intro bytes
    rw [List.length_take,Nat.min_comm]
  simp only [countByte_toNat,hcut,List.append_assoc,List.cons_append,List.nil_append,decodeAuthRequest]
  rw [← hlen name,List.drop_left,List.take_left]
  simp only [countByte_toNat,hlen]
  rfl

theorem conveys_iff (username password : String) :
    Conveys (socks5AuthRequest username password) username password ↔
      (utf8 username.toList).length ≤ 255 ∧ (utf8 password.toList).length ≤ 255 := by
  rw [Conveys,decodeAuthRequest_request]
  simp [List.take_eq_self_iff]

theorem authentication_sent (password : String) (target : ProxyTarget) :
    .wrote .authentication (socks5AuthRequest "" password) ∈
      ((socks5Handshake (some password) target).run (Wire.opened [5,2] "" [])).2.log := by
  have hlog : ((socks5Handshake (some password) target).run (Wire.opened [5,2] "" [])).2.log =
      selected (some password) 2 ++
        [.wrote .authentication (socks5AuthRequest "" password),.read []] := rfl
  rw [hlog]
  simp

theorem sendsFaithfully_iff (password : String) (target : ProxyTarget) :
    SendsFaithfully password target ↔ (utf8 password.toList).length ≤ 255 := by
  constructor
  · intro h
    obtain ⟨message,-,hm⟩ := h _ _ _ _ (authentication_sent password target)
    exact (decodeAuthRequest_le hm).2
  · intro hp sent ending faults bytes hm
    obtain ⟨before,secret,hs,-,hbytes⟩ :=
      (socks5Handshake_safe (some password) target sent ending faults).1.of_mem hm
    cases hs
    exact ⟨_,hbytes,(conveys_iff "" password).mpr ⟨by decide,hp⟩⟩

/-- Credentials come through exactly if each of them fits its length byte: a longer one is not
refused, the handshake sends the first 255 bytes of it. -/
theorem socks5_credentials_iff (username password : String) (target : ProxyTarget) :
    (Conveys (socks5AuthRequest username password) username password ↔
      (utf8 username.toList).length ≤ 255 ∧ (utf8 password.toList).length ≤ 255) ∧
    (SendsFaithfully password target ↔ (utf8 password.toList).length ≤ 255) :=
  ⟨conveys_iff username password,sendsFaithfully_iff password target⟩

def longSecret : String := String.ofList (List.replicate 256 'a')

theorem length_utf8_replicate (n : ℕ) : (utf8 (List.replicate n 'a')).length = n := by
  induction n with
  | zero => rfl
  | succ n ih =>
    have hcons : (utf8 ('a' :: List.replicate n 'a')).length = (utf8 (List.replicate n 'a')).length + 1 := rfl
    rw [List.replicate_succ,hcons,ih]

/-- The proxy reads the first 255 bytes of it, another secret. -/
theorem long_secret_cut :
    (utf8 longSecret.toList).length = 256 ∧
    decodeAuthRequest (socks5AuthRequest "" longSecret) = some ([],(utf8 longSecret.toList).take 255) ∧
    ¬ Conveys (socks5AuthRequest "" longSecret) "" longSecret ∧
    ¬ SendsFaithfully longSecret ⟨"jabber.ru",5223⟩ := by
  have hlist : longSecret.toList = List.replicate 256 'a' := String.toList_ofList
  have hlen : (utf8 longSecret.toList).length = 256 :=
    (congrArg (fun cs => (utf8 cs).length) hlist).trans (length_utf8_replicate 256)
  refine ⟨hlen,decodeAuthRequest_request "" longSecret,fun h => ?_,fun h => ?_⟩
  · have hle := ((conveys_iff "" longSecret).mp h).2
    omega
  · have hle := (sendsFaithfully_iff longSecret ⟨"jabber.ru",5223⟩).mp h
    omega

end MindChat
