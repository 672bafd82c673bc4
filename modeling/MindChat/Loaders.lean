import MindChat.Persistence

/-! The two loaders of a state file: the one that knows plaintext only and the one
that also opens encrypted files. -/

namespace MindChat

open Json

/-- What the legacy loader found, as the secured loader names it. -/
def LoadOutcome.ofLegacy : Option (CoreSnapshot × StateFileMetadata) → LoadOutcome
  | none => .missing
  | some (snapshot,metadata) => .plaintextLegacy snapshot metadata

/-- No text that begins with the byte of `M` is the JSON of a state. -/
def Codec.RefusesMagicByte (codec : Codec) : Prop :=
  ∀ bytes persisted, codec.fromSlice bytes = .ok persisted → bytes.head? ≠ some 77

section

variable {codec : Codec} {backend : CryptoBackend} {faults : IoFaults} {path : String} {key : Key}
  {disk : Disk} {bytes : Bytes}

theorem readStateFile_some (h : readStateFile faults path disk = .ok (some bytes)) :
    disk.lookup path = some bytes := by
  unfold readStateFile at h
  split at h
  · cases h
  · cases h
  · cases h
  · rename_i content _ hl
    split at h
    · cases h
    · split at h
      · cases h
      · cases h
        exact hl

theorem parseStateBytes_magic (hcodec : codec.RefusesMagicByte) (hm : isEncryptedBlob bytes = true) :
    ∃ detail, parseStateBytes codec bytes = .error (.corrupt detail) := by
  unfold parseStateBytes
  cases hs : codec.fromSlice bytes with
  | error detail => exact ⟨detail,rfl⟩
  | ok persisted =>
    obtain ⟨rest,rfl⟩ := List.isPrefixOf_iff_prefix.mp hm
    exact absurd rfl (hcodec _ persisted hs)

theorem loadStateEncrypted_plain (h : ∀ bytes, disk.lookup path = some bytes → isEncryptedBlob bytes = false) :
    loadStateEncrypted codec backend faults path key disk =
      (loadStateWithMetadata codec faults path disk).map LoadOutcome.ofLegacy := by
  unfold loadStateEncrypted loadStateWithMetadata
  cases hr : readStateFile faults path disk with
  | error e => rfl
  | ok found =>
    cases found with
    | none => rfl
    | some bytes =>
      simp only [h bytes (readStateFile_some hr),Bool.false_eq_true,if_false]
      cases parseStateBytes codec bytes <;> rfl

theorem loadStateWithMetadata_magic (hcodec : codec.RefusesMagicByte)
    (hl : disk.lookup path = some bytes) (hm : isEncryptedBlob bytes = true)
    (loaded : CoreSnapshot × StateFileMetadata) :
    loadStateWithMetadata codec faults path disk ≠ .ok (some loaded) := by
  unfold loadStateWithMetadata
  cases hr : readStateFile faults path disk with
  | error e => simp
  | ok found =>
    cases found with
    | none => simp
    | some content =>
      have hc := readStateFile_some hr
      rw [hl] at hc
      cases hc
      obtain ⟨detail,hp⟩ := parseStateBytes_magic hcodec hm
      simp [hp,Except.map]

theorem loadStateEncrypted_magic (hl : disk.lookup path = some bytes)
    (hm : isEncryptedBlob bytes = true) (snapshot : CoreSnapshot) (metadata : StateFileMetadata) :
    loadStateEncrypted codec backend faults path key disk ≠ .ok (.plaintextLegacy snapshot metadata) := by
  unfold loadStateEncrypted
  cases hr : readStateFile faults path disk with
  | error e => simp
  | ok found =>
    cases found with
    | none => simp
    | some content =>
      have hc := readStateFile_some hr
      rw [hl] at hc
      cases hc
      simp only [hm,if_true]
      cases decryptState backend bytes key with
      | error e => simp
      | ok plain =>
        cases hp : parseStateBytes codec plain with
        | error e => simp [hp]
        | ok loaded => simp [hp]

end

/-- The loaders agree on every content: without the magic they give the same
snapshot, metadata or error, with it the legacy loader gives no snapshot and the
secured one no plaintext, and what both accept is one state. -/
theorem loaders_agree {codec : Codec} (hcodec : codec.RefusesMagicByte) (backend : CryptoBackend)
    (faults : IoFaults) (path : String) (key : Key) (disk : Disk) :
    ((∀ bytes, disk.lookup path = some bytes → isEncryptedBlob bytes = false) →
      loadStateEncrypted codec backend faults path key disk =
        (loadStateWithMetadata codec faults path disk).map LoadOutcome.ofLegacy) ∧
    ((∃ bytes, disk.lookup path = some bytes ∧ isEncryptedBlob bytes = true) →
      (∀ loaded, loadStateWithMetadata codec faults path disk ≠ .ok (some loaded)) ∧
      ∀ snapshot metadata, loadStateEncrypted codec backend faults path key disk ≠
        .ok (.plaintextLegacy snapshot metadata)) ∧
    ((faults.metadata = none ∨ faults.metadata = some .notFound) → disk.lookup path = none →
      loadStateWithMetadata codec faults path disk = .ok none ∧
        loadStateEncrypted codec backend faults path key disk = .ok .missing) ∧
    ∀ snapshot metadata outcome,
      loadStateWithMetadata codec faults path disk = .ok (some (snapshot,metadata)) →
      loadStateEncrypted codec backend faults path key disk = .ok outcome →
        outcome = .plaintextLegacy snapshot metadata := by
  refine ⟨loadStateEncrypted_plain,?_,?_,?_⟩
  · rintro ⟨bytes,hl,hm⟩
    exact ⟨loadStateWithMetadata_magic hcodec hl hm,loadStateEncrypted_magic hl hm⟩
  · intro hf hl
    have hr : readStateFile faults path disk = .ok none := by
      unfold readStateFile
      rcases hf with hf | hf <;> rw [hf,hl]
    simp only [loadStateWithMetadata,loadStateEncrypted,hr,and_self]
  · intro snapshot metadata outcome hlegacy hsecured
    have hplain : ∀ bytes, disk.lookup path = some bytes → isEncryptedBlob bytes = false := by
      intro bytes hl
      rw [Bool.eq_false_iff]
      exact fun hm => loadStateWithMetadata_magic hcodec hl hm _ hlegacy
    rw [loadStateEncrypted_plain hplain,hlegacy] at hsecured
    cases hsecured
    rfl

theorem refusesMagicByte_bob : (jsonCodec (readerOf [titledState "Bob"])).RefusesMagicByte := by
  intro bytes persisted h
  have hs : (titledState "Bob").bytes.head? = some 123 := by decide +kernel
  have hb : (titledState "Bob").bytes = bytes := by
    by_contra hne
    simp [jsonCodec,readerOf,hne] at h
  rw [← hb,hs]
  decide

/-- A plaintext file that both loaders take. -/
theorem loaders_agree_bob :
    loadStateEncrypted (jsonCodec (readerOf [titledState "Bob"])) plainBackend .none "state" zeroKey
        (AList.insert "state" (titledState "Bob").bytes ∅) =
      (loadStateWithMetadata (jsonCodec (readerOf [titledState "Bob"])) .none "state"
        (AList.insert "state" (titledState "Bob").bytes ∅)).map LoadOutcome.ofLegacy := by
  have hm : isEncryptedBlob (titledState "Bob").bytes = false := by decide +kernel
  refine (loaders_agree refusesMagicByte_bob plainBackend .none "state" zeroKey _).1 fun bytes h => ?_
  rw [AList.lookup_insert] at h
  cases h
  exact hm

end MindChat
