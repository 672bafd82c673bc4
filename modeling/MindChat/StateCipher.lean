import MindChat.Persistence

/-! The layout of an encrypted state file: magic, nonce, ciphertext and tag. The
AEAD is taken as ideal: it opens what encryptions have sealed, and nothing else. -/

namespace MindChat

open Json

/-- One call of `encryptState` with the nonce that it drew. -/
structure Encryption where
  key : Key
  nonce : Nonce
  plaintext : Bytes

/-- Ciphertext and tag of a call. -/
def CryptoBackend.sealed (backend : CryptoBackend) (call : Encryption) : Option Bytes :=
  (backend.sealWith call.key call.nonce magic call.plaintext).map (fun sealed => sealed.1 ++ sealed.2)

/-- The ideal AEAD after these encryptions: it opens their texts only, no nonce was
drawn twice for a key, and no two encryptions gave the same text. -/
structure CryptoBackend.Ideal (backend : CryptoBackend) (calls : Set Encryption) : Prop where
  keySetup : ∀ key, backend.keySetup key = true
  seals : ∀ key nonce aad plain, plain.length ≤ 2^36 - 32 → (backend.sealWith key nonce aad plain).isSome
  sizes : ∀ key nonce aad plain ciphertext tag,
    backend.sealWith key nonce aad plain = some (ciphertext,tag) →
      ciphertext.length = plain.length ∧ tag.length = tagLen
  opens : ∀ key nonce text plain, backend.openWith key nonce magic text = some plain ↔
    ∃ call ∈ calls, call.key = key ∧ call.nonce = nonce ∧ call.plaintext = plain ∧
      backend.sealed call = some text
  freshNonce : ∀ call ∈ calls, ∀ other ∈ calls,
    call.key = other.key → call.nonce = other.nonce → call = other
  freshText : ∀ call ∈ calls, ∀ other ∈ calls, backend.sealed call = backend.sealed other → call = other

/-- `bytes[start..stop]`, which panics outside of the bounds. -/
def slice (bytes : Bytes) (start stop : ℕ) : Option Bytes :=
  if start ≤ stop ∧ stop ≤ bytes.length then some ((bytes.take stop).drop start) else none

/-- `decryptState` with its two slices as the source takes them. -/
def decryptStateSliced (backend : CryptoBackend) (blob : Bytes) (key : Key) :
    Option (Except PersistenceError Bytes) :=
  if blob.length < minEncryptedLen ∨ isEncryptedBlob blob = false then some (.error .notEncrypted)
  else if backend.keySetup key then do
    let nonce ← slice blob magic.length (magic.length + nonceLen)
    if h : nonce.length = 12 then
      let sealed ← slice blob (magic.length + nonceLen) blob.length
      match backend.openWith key ⟨nonce,h⟩ magic sealed with
      | none => some (.error .decryption)
      | some plaintext => some (.ok plaintext)
    else some (.error .decryption)
  else some (.error (.encryption "AES-256-GCM key setup failed"))

theorem magic_length : magic.length = 9 := by decide

theorem minEncryptedLen_eq : minEncryptedLen = 37 := by decide

section Layout

variable {backend : CryptoBackend} {b : Bytes} {key : Key}

theorem decryptStateSliced_eq (backend : CryptoBackend) (b : Bytes) (key : Key) :
    decryptStateSliced backend b key = some (decryptState backend b key) := by
  unfold decryptStateSliced decryptState
  split <;> rename_i h
  · rfl
  · have hlen : ¬ b.length < minEncryptedLen := fun hl => h (Or.inl hl)
    rw [minEncryptedLen_eq] at hlen
    have hnonce : slice b magic.length (magic.length + nonceLen) =
        some ((b.drop magic.length).take nonceLen) := by
      rw [slice,if_pos ⟨by omega,by rw [magic_length,nonceLen]; omega⟩,List.drop_take,
        Nat.add_sub_cancel_left]
    have hsealed : slice b (magic.length + nonceLen) b.length =
        some (b.drop (magic.length + nonceLen)) := by
      rw [slice,if_pos ⟨by rw [magic_length,nonceLen]; omega,le_refl _⟩,List.take_length]
    rw [hnonce,hsealed]
    cases backend.keySetup key with
    | false => rfl
    | true =>
      simp only [if_true,Option.bind_eq_bind,Option.bind_some]
      split
      · split <;> simp_all
      · rfl

theorem layout_of_checks (h : ¬ (b.length < minEncryptedLen ∨ isEncryptedBlob b = false)) :
    ∃ (nonce : Nonce) (c : Bytes), b = magic ++ nonce.val ++ c ∧ tagLen ≤ c.length := by
  rw [not_or,not_lt,Bool.not_eq_false,minEncryptedLen_eq] at h
  obtain ⟨hlen,hm⟩ := h
  obtain ⟨rest,rfl⟩ := List.isPrefixOf_iff_prefix.mp hm
  rw [List.length_append,magic_length] at hlen
  refine ⟨⟨rest.take nonceLen,?_⟩,rest.drop nonceLen,?_,?_⟩
  · rw [List.length_take,nonceLen]
    omega
  · rw [List.append_assoc,List.take_append_drop]
  · rw [List.length_drop,nonceLen,tagLen]
    omega

theorem checks_of_layout (nonce : Nonce) {c : Bytes} (hc : tagLen ≤ c.length) :
    ¬ ((magic ++ nonce.val ++ c).length < minEncryptedLen ∨
      isEncryptedBlob (magic ++ nonce.val ++ c) = false) := by
  rw [not_or,not_lt,Bool.not_eq_false]
  refine ⟨?_,?_⟩
  · rw [List.length_append,List.length_append,nonce.property,minEncryptedLen,nonceLen]
    omega
  · rw [isEncryptedBlob,List.isPrefixOf_iff_prefix,List.append_assoc]
    exact List.prefix_append _ _

theorem nonce_of_layout (nonce : Nonce) (c : Bytes) :
    ((magic ++ nonce.val ++ c).drop magic.length).take nonceLen = nonce.val := by
  rw [List.append_assoc,List.drop_left]
  exact List.take_left' nonce.property

theorem sealed_of_layout (nonce : Nonce) (c : Bytes) :
    (magic ++ nonce.val ++ c).drop (magic.length + nonceLen) = c := by
  rw [← List.drop_drop,List.append_assoc,List.drop_left]
  exact List.drop_left' nonce.property

theorem decryptState_layout (hkey : backend.keySetup key = true) (nonce : Nonce) {c : Bytes}
    (hc : tagLen ≤ c.length) :
    decryptState backend (magic ++ nonce.val ++ c) key =
      match backend.openWith key nonce magic c with
      | none => .error .decryption
      | some plaintext => .ok plaintext := by
  cases ho : backend.openWith key nonce magic c with
  | none =>
    simp only [decryptState,if_neg (checks_of_layout nonce hc),hkey,if_true,nonce_of_layout,
      sealed_of_layout,nonce.property,dite_true,ho]
  | some plaintext =>
    simp only [decryptState,if_neg (checks_of_layout nonce hc),hkey,if_true,nonce_of_layout,
      sealed_of_layout,nonce.property,dite_true,ho]

theorem decryptState_ok_iff (hkey : backend.keySetup key = true) {p : Bytes} :
    decryptState backend b key = .ok p ↔ ∃ (nonce : Nonce) (c : Bytes),
      b = magic ++ nonce.val ++ c ∧ tagLen ≤ c.length ∧ backend.openWith key nonce magic c = some p := by
  constructor
  · intro h
    by_cases hchecks : b.length < minEncryptedLen ∨ isEncryptedBlob b = false
    · simp [decryptState,hchecks] at h
    · obtain ⟨nonce,c,rfl,hc⟩ := layout_of_checks hchecks
      rw [decryptState_layout hkey nonce hc] at h
      refine ⟨nonce,c,rfl,hc,?_⟩
      cases ho : backend.openWith key nonce magic c with
      | none => simp [ho] at h
      | some plaintext =>
        simp only [ho,Except.ok.injEq] at h
        rw [h]
  · rintro ⟨nonce,c,rfl,hc,ho⟩
    rw [decryptState_layout hkey nonce hc,ho]

theorem decryptState_error (hkey : backend.keySetup key = true) {e : PersistenceError}
    (h : decryptState backend b key = .error e) :
    (e = .notEncrypted ∧ (b.length < minEncryptedLen ∨ isEncryptedBlob b = false)) ∨
      (e = .decryption ∧ ¬ (b.length < minEncryptedLen ∨ isEncryptedBlob b = false)) := by
  by_cases hchecks : b.length < minEncryptedLen ∨ isEncryptedBlob b = false
  · rw [decryptState,if_pos hchecks] at h
    cases h
    exact .inl ⟨rfl,hchecks⟩
  · refine .inr ⟨?_,hchecks⟩
    obtain ⟨nonce,c,rfl,hc⟩ := layout_of_checks hchecks
    rw [decryptState_layout hkey nonce hc] at h
    cases ho : backend.openWith key nonce magic c <;> simp_all

theorem decryptState_notEncrypted_iff (hkey : backend.keySetup key = true) :
    decryptState backend b key = .error .notEncrypted ↔
      b.length < minEncryptedLen ∨ isEncryptedBlob b = false := by
  constructor
  · intro h
    rcases decryptState_error hkey h with ⟨-,hchecks⟩ | ⟨he,-⟩
    · exact hchecks
    · cases he
  · intro h
    rw [decryptState,if_pos h]

end Layout

namespace CryptoBackend.Ideal

variable {backend : CryptoBackend} {calls : Set Encryption} {call : Encryption} {b p : Bytes}

theorem tagLen_le (hb : backend.Ideal calls) {text : Bytes} (h : backend.sealed call = some text) :
    text.length = call.plaintext.length + tagLen := by
  obtain ⟨⟨ciphertext,tag⟩,hs,rfl⟩ := Option.map_eq_some_iff.mp h
  obtain ⟨hc,ht⟩ := hb.sizes _ _ _ _ _ _ hs
  rw [List.length_append,hc,ht]

theorem encryptState_iff (hb : backend.Ideal calls) :
    encryptState backend (some call.nonce) call.plaintext call.key = .ok b ↔
      ∃ text, backend.sealed call = some text ∧ b = magic ++ call.nonce.val ++ text := by
  simp only [encryptState,hb.keySetup call.key,if_true,CryptoBackend.sealed]
  cases hs : backend.sealWith call.key call.nonce magic call.plaintext with
  | none => simp
  | some sealed =>
    obtain ⟨ciphertext,tag⟩ := sealed
    simp [eq_comm]

theorem decryptState_encryptState (hb : backend.Ideal calls) (hcall : call ∈ calls)
    (h : encryptState backend (some call.nonce) call.plaintext call.key = .ok b) :
    decryptState backend b call.key = .ok call.plaintext := by
  obtain ⟨text,ht,rfl⟩ := hb.encryptState_iff.mp h
  have hlen := hb.tagLen_le ht
  exact (decryptState_ok_iff (hb.keySetup _)).mpr ⟨call.nonce,text,rfl,by omega,
    (hb.opens _ _ _ _).mpr ⟨call,hcall,rfl,rfl,rfl,ht⟩⟩

theorem encrypted_of_decryptState (hb : backend.Ideal calls) {key : Key}
    (h : decryptState backend b key = .ok p) :
    ∃ call ∈ calls, call.key = key ∧ call.plaintext = p ∧
      encryptState backend (some call.nonce) call.plaintext call.key = .ok b := by
  obtain ⟨nonce,c,rfl,hc,ho⟩ := (decryptState_ok_iff (hb.keySetup _)).mp h
  obtain ⟨call,hcall,rfl,rfl,rfl,ht⟩ := (hb.opens _ _ _ _).mp ho
  exact ⟨call,hcall,rfl,rfl,hb.encryptState_iff.mpr ⟨c,ht,rfl⟩⟩

/-- A blob with the nonce or with the sealed part of a call's, or with a beginning
of it, opens only when it is the call's blob. -/
theorem eq_of_decryptState (hb : backend.Ideal calls) (hcall : call ∈ calls) {changed : Bytes}
    (h : encryptState backend (some call.nonce) call.plaintext call.key = .ok b)
    (hsame : (changed.drop magic.length).take nonceLen = call.nonce.val ∨
      changed.drop (magic.length + nonceLen) = b.drop (magic.length + nonceLen) ∨ changed <+: b)
    (ho : decryptState backend changed call.key = .ok p) : changed = b := by
  obtain ⟨text,ht,rfl⟩ := hb.encryptState_iff.mp h
  obtain ⟨other,hother,hkey,-,he⟩ := hb.encrypted_of_decryptState ho
  obtain ⟨text',ht',rfl⟩ := hb.encryptState_iff.mp he
  have hone : other = call := by
    rw [nonce_of_layout,sealed_of_layout,sealed_of_layout] at hsame
    rcases hsame with hn | hs | hp
    · exact hb.freshNonce other hother call hcall hkey (Subtype.ext hn)
    · exact hb.freshText other hother call hcall (by rw [ht',ht,hs])
    · refine hb.freshNonce other hother call hcall hkey (Subtype.ext ?_)
      rw [List.append_assoc,List.append_assoc,List.prefix_append_right_inj] at hp
      have hpre := (List.prefix_append other.nonce.val text').trans hp
      exact (List.prefix_of_prefix_length_le hpre (List.prefix_append call.nonce.val text)
        (by rw [other.nonce.property,call.nonce.property])).eq_of_length
          (by rw [other.nonce.property,call.nonce.property])
  subst hone
  rw [ht'] at ht
  cases ht
  rfl

end CryptoBackend.Ideal

/-- The layout of encrypted state files: every call's blob opens to its plaintext,
the reader answers by the layout and by the AEAD, its slices are in bounds, and a
blob with a changed part, or cut off, is refused. -/
theorem encrypted_blob_layout {backend : CryptoBackend} {calls : Set Encryption}
    (hb : backend.Ideal calls) :
    (∀ key nonce plaintext, plaintext.length ≤ 2^36 - 32 →
      ∃ b, encryptState backend (some nonce) plaintext key = .ok b) ∧
    (∀ call ∈ calls, ∀ b, encryptState backend (some call.nonce) call.plaintext call.key = .ok b →
      b.length = call.plaintext.length + 37 ∧
      decryptState backend b call.key = .ok call.plaintext ∧
      ∀ changed, changed ≠ b →
        ((changed.drop magic.length).take nonceLen = call.nonce.val ∨
          changed.drop (magic.length + nonceLen) = b.drop (magic.length + nonceLen) ∨ changed <+: b) →
        ∃ e, decryptState backend changed call.key = .error e) ∧
    ∀ b key,
      (∀ p, decryptState backend b key = .ok p ↔ ∃ (nonce : Nonce) (c : Bytes),
        b = magic ++ nonce.val ++ c ∧ 16 ≤ c.length ∧ backend.openWith key nonce magic c = some p) ∧
      (decryptState backend b key = .error .notEncrypted ↔
        b.length < 37 ∨ ¬ magic <+: b) ∧
      (∀ e, decryptState backend b key = .error e → e = .notEncrypted ∨ e = .decryption) ∧
      (∀ p, decryptState backend b key = .ok p → ∃ call ∈ calls, call.key = key ∧
        call.plaintext = p ∧ encryptState backend (some call.nonce) call.plaintext call.key = .ok b) ∧
      decryptStateSliced backend b key = some (decryptState backend b key) := by
  refine ⟨?_,?_,?_⟩
  · intro key nonce plaintext hle
    obtain ⟨⟨ciphertext,tag⟩,hs⟩ := Option.isSome_iff_exists.mp (hb.seals key nonce magic plaintext hle)
    have hsealed : backend.sealed ⟨key,nonce,plaintext⟩ = some (ciphertext ++ tag) := by
      simp only [CryptoBackend.sealed,hs,Option.map_some]
    exact ⟨_,(CryptoBackend.Ideal.encryptState_iff hb).mpr ⟨ciphertext ++ tag,hsealed,rfl⟩⟩
  · intro call hcall b h
    refine ⟨?_,hb.decryptState_encryptState hcall h,?_⟩
    · obtain ⟨text,ht,rfl⟩ := hb.encryptState_iff.mp h
      rw [List.length_append,List.length_append,hb.tagLen_le ht,call.nonce.property,magic_length,tagLen]
      omega
    · intro changed hne hsame
      cases ho : decryptState backend changed call.key with
      | error e => exact ⟨e,rfl⟩
      | ok p => exact absurd (hb.eq_of_decryptState hcall h hsame ho) hne
  · intro b key
    refine ⟨fun p => decryptState_ok_iff (hb.keySetup key),?_,?_,
      fun p h => hb.encrypted_of_decryptState h,decryptStateSliced_eq backend b key⟩
    · rw [decryptState_notEncrypted_iff (hb.keySetup key),minEncryptedLen_eq,isEncryptedBlob,
        ← List.isPrefixOf_iff_prefix,Bool.not_eq_true]
    · intro e h
      rcases decryptState_error (hb.keySetup key) h with ⟨he,-⟩ | ⟨he,-⟩
      · exact .inl he
      · exact .inr he

def secretCall : Encryption := ⟨zeroKey,zeroNonce,[115,101,99,114,101,116]⟩

/-- A stand-in for the ideal AEAD after one encryption. -/
def secretBackend : CryptoBackend where
  keySetup _ := true
  sealWith _ _ _ plain := some (plain,List.replicate tagLen 0)
  openWith key nonce _ text :=
    if key = secretCall.key ∧ nonce = secretCall.nonce ∧
        text = secretCall.plaintext ++ List.replicate tagLen 0 then some secretCall.plaintext
    else none

theorem secretBackend_ideal : secretBackend.Ideal {secretCall} where
  keySetup _ := rfl
  seals _ _ _ _ _ := rfl
  sizes _ _ _ plain ciphertext tag h := by
    cases h
    exact ⟨rfl,List.length_replicate⟩
  opens key nonce text plain := by
    simp only [secretBackend,CryptoBackend.sealed,Option.map_some,Option.some.injEq,
      Set.mem_singleton_iff,exists_eq_left]
    split <;> rename_i h
    · obtain ⟨rfl,rfl,rfl⟩ := h
      simp
    · simp only [reduceCtorEq,false_iff]
      rintro ⟨rfl,rfl,-,rfl⟩
      exact h ⟨rfl,rfl,rfl⟩
  freshNonce call hc other ho _ _ := by
    rw [Set.mem_singleton_iff.mp hc,Set.mem_singleton_iff.mp ho]
  freshText call hc other ho _ := by
    rw [Set.mem_singleton_iff.mp hc,Set.mem_singleton_iff.mp ho]

/-- A saved secret opens, and not once its last byte is flipped. -/
theorem encrypted_blob_layout_secret :
    let b := magic ++ zeroNonce.val ++ (secretCall.plaintext ++ List.replicate tagLen 0)
    decryptState secretBackend b zeroKey = .ok secretCall.plaintext ∧
      ∃ e, decryptState secretBackend (b.dropLast ++ [1]) zeroKey = .error e := by
  obtain ⟨-,hcalls,-⟩ := encrypted_blob_layout secretBackend_ideal
  obtain ⟨-,hopens,hrefused⟩ := hcalls secretCall rfl
    (magic ++ zeroNonce.val ++ (secretCall.plaintext ++ List.replicate tagLen 0)) (by decide)
  exact ⟨hopens,hrefused _ (by decide) (.inl (by decide))⟩

end MindChat
