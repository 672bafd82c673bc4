import MindChat.Persistence
import MindChat.PersistenceTracker

/-! The gateway's saves: mutators of the core on any thread, one saver at a time,
and the encrypted state file as the store. -/

namespace MindChat

open Json

/-- What one save meets: the process and its system calls, the random generator,
and the key, if the key provider gives one. -/
structure SaveAttempt where
  process : Process
  rng : Option Nonce
  stateKey : Option Key

section

variable (codec : Codec) (backend : CryptoBackend) (path : String)

/-- `runCatching` of `save_state_secured` after the snapshot was taken. -/
def saveStateSecured (attempt : SaveAttempt) (snapshot : CoreSnapshot) (disk : Disk) : Bool × Disk :=
  match attempt.stateKey with
  | none => (false,disk)
  | some key =>
    match saveStateEncrypted codec backend attempt.process attempt.rng snapshot path key disk with
    | (.ok _,disk) => (true,disk)
    | (.error _,disk) => (false,disk)

def OnDisk (disk : Disk) (snapshot : CoreSnapshot) : Prop :=
  ∃ plain blob rng key, codec.toVecPretty ⟨currentSchemaVersion,snapshot⟩ = .ok plain ∧
    encryptState backend rng plain key = .ok blob ∧ disk.lookup path = some blob

variable {codec backend path}

theorem saveStateEncrypted_error {process : Process} {rng : Option Nonce} {snapshot : CoreSnapshot}
    {key : Key} {disk disk' : Disk} {e : PersistenceError}
    (h : saveStateEncrypted codec backend process rng snapshot path key disk = (.error e,disk')) :
    disk'.lookup path = disk.lookup path := by
  unfold saveStateEncrypted at h
  split at h
  · cases h
    rfl
  · split at h
    · cases h
      rfl
    · split at h
      · cases h
        rfl
      · next blob _ =>
        rcases writeAtomic_cases process path blob disk with ⟨e',he,hl⟩ | ⟨he,-⟩
        · split at h
          · next hw =>
            cases h
            rw [hw] at hl
            exact hl
          · cases h
        · split at h
          · next hw =>
            rw [hw] at he
            cases he
          · cases h

variable (codec backend path)

/-- The state file as a store of core snapshots. -/
def stateFile : Saving.Backing CoreSnapshot Disk SaveAttempt where
  write := saveStateSecured codec backend path
  Holds := OnDisk codec backend path
  holds_written attempt snapshot disk h := by
    unfold saveStateSecured at h ⊢
    split at h
    · cases h
    · next key _ =>
      split at h
      · next hs =>
        obtain ⟨plain,blob,hp,-,he,-,hl⟩ := saveStateEncrypted_ok hs
        exact ⟨plain,blob,_,key,hp,he,hl⟩
      · cases h
  holds_kept attempt snapshot disk h other := by
    rintro ⟨plain,blob,rng,key,hp,he,hl⟩
    refine ⟨plain,blob,rng,key,hp,he,?_⟩
    unfold saveStateSecured at h ⊢
    split at h
    · exact hl
    · split at h
      · cases h
      · next hs => exact (saveStateEncrypted_error hs).trans hl

abbrev SaveSystem := Saving.Watched MindChatCore CoreSnapshot Disk

abbrev SaveAction := Saving.WatchedAction MindChatCore SaveAttempt

def SaveSystem.step (s : SaveSystem) (action : SaveAction) : Option SaveSystem :=
  Saving.Watched.step (stateFile codec backend path) MindChatCore.snapshot s action

abbrev SaveSystem.Steps (s : SaveSystem) (action : SaveAction) (t : SaveSystem) : Prop :=
  s.step codec backend path action = some t

end

/-- No save is lost where no mutation is marked while a call of `requiresSave` stands
between its two reads: when a call answers that none is due and no mutator is at work,
nothing was changed or the file holds all of it. In any run a call that answers so
finds every mutation in the file that was marked when it began, and the persisted
epoch never goes back or past the mutations. -/
theorem no_lost_save (codec : Codec) (backend : CryptoBackend) (path : String) (core : MindChatCore)
    (disk : Disk) :
    (∀ actions s, Transition.Run (Transition.Meeting Saving.Watched.Undisturbed
        (SaveSystem.Steps codec backend path)) (.start core disk) actions s →
      ∀ i, s.answer i = some false → s.system.unmarked = 0 →
        s.system.mutations = 0 ∨ OnDisk codec backend path s.system.file s.system.state.snapshot) ∧
    ∀ actions s, Transition.Run (SaveSystem.Steps codec backend path) (.start core disk) actions s →
      (∀ i epoch, s.answer i = some false → s.looks[i]? = some epoch → epoch = 0 ∨
        ∃ n state, epoch ≤ n ∧ (core :: actions.flatMap Saving.Watched.mutated)[n]? = some state ∧
          OnDisk codec backend path s.system.file state.snapshot) ∧
      ∀ action t, SaveSystem.Steps codec backend path s action t →
        s.system.tracker.persistedEpoch ≤ t.system.tracker.persistedEpoch ∧
          t.system.tracker.persistedEpoch ≤ t.system.tracker.mutationEpoch := by
  have hinv : ∀ actions s, Transition.Run (SaveSystem.Steps codec backend path) (.start core disk)
      actions s → Saving.System.Inv (stateFile codec backend path) MindChatCore.snapshot
        (core :: actions.flatMap Saving.Watched.mutated) s.system := fun actions s hr =>
    Saving.Watched.inv_exec (Saving.System.inv_start core disk) (Transition.run_iff_exec.mp hr)
  refine ⟨fun actions s hr i ha hu => ?_,fun actions s hr => ⟨fun i epoch ha hl => ?_,fun action t ht => ?_⟩⟩
  · have hi := hinv actions s (hr.mono fun _ _ _ h => h.2)
    have hfresh : s.Fresh := hr.invariant (fun _ _ _ hf h => hf.step h.1 h.2) nofun
    have hl := Saving.Watched.answer_eq_false ha
    exact hi.saved hu (hfresh _ (List.mem_of_getElem? hl)).symm
  · obtain rfl : epoch = s.system.tracker.persistedEpoch :=
      Option.some.inj (hl.symm.trans (Saving.Watched.answer_eq_false ha))
    refine (hinv actions s hr).current.imp id ?_
    rintro ⟨_,⟨n,state,hn,hs,rfl⟩,hf⟩
    exact ⟨n,state,hn,hs,hf⟩
  · exact ⟨Saving.Watched.persisted_mono ht,(Saving.Watched.inv_step (hinv actions s hr) ht).persisted_le⟩

def writingRun : List SaveAction :=
  [.act (.mutate (titledCore "Bob")),.act .markMutation,.act .lock,.act .captureSaveEpoch,.act .copy,
    .act (.write ⟨⟨1,0,.none⟩,some zeroNonce,some zeroKey⟩)]

def savingRun : List SaveAction :=
  writingRun ++ [.act .readPersisted,.act .compareAndSet,.readMutationEpoch]

/-- Somebody looks, and between the two reads another mutation is made and marked and
the saver ends. -/
def tornRun : List SaveAction :=
  writingRun ++ [.readMutationEpoch,.act (.mutate (titledCore "Carol")),.act .markMutation,
    .act .readPersisted,.act .compareAndSet]

theorem savingRun_meets : ∃ s, Transition.Run (Transition.Meeting Saving.Watched.Undisturbed
      (SaveSystem.Steps (jsonCodec (readerOf [])) plainBackend "state"))
      (.start MindChatCore.default ∅) savingRun s ∧
    s.answer 0 = some false ∧ s.system.unmarked = 0 ∧ s.system.mutations = 1 := by
  have hs : (Transition.exec (Transition.guarded Saving.Watched.Undisturbed
      (SaveSystem.step (jsonCodec (readerOf [])) plainBackend "state"))
      (.start MindChatCore.default ∅) savingRun).any
        (fun s => decide (s.answer 0 = some false ∧ s.system.unmarked = 0 ∧ s.system.mutations = 1)) =
          true := by
    decide +kernel
  obtain ⟨s,h,hd⟩ := (Option.any_eq_true _ _).mp hs
  exact ⟨s,Transition.run_meeting_iff_exec.mpr h,of_decide_eq_true hd⟩

theorem no_lost_save_bob : ∃ s, Transition.Run (Transition.Meeting Saving.Watched.Undisturbed
      (SaveSystem.Steps (jsonCodec (readerOf [])) plainBackend "state"))
      (.start MindChatCore.default ∅) savingRun s ∧ s.answer 0 = some false ∧
    OnDisk (jsonCodec (readerOf [])) plainBackend "state" s.system.file s.system.state.snapshot := by
  obtain ⟨s,hr,hd,hu,hm⟩ := savingRun_meets
  have h := (no_lost_save (jsonCodec (readerOf [])) plainBackend "state" MindChatCore.default ∅).1 _ s hr 0
    hd hu
  exact ⟨s,hr,hd,h.resolve_left (by omega)⟩

theorem OnDisk.length {disk : Disk} {snapshot : CoreSnapshot}
    (h : OnDisk (jsonCodec (readerOf [])) plainBackend "state" disk snapshot) :
    (disk.lookup "state").map List.length =
      some ((PersistedState.mk currentSchemaVersion snapshot).bytes.length + minEncryptedLen) := by
  obtain ⟨plain,blob,rng,key,hp,he,hl⟩ := h
  cases hp
  rw [hl,Option.map_some,(encryptState_ok plainBackend_lawful he).1]

/-- A call answers that no save is due, and the second mutation, which is marked, is in no file. -/
theorem torn_look_misses_mutation : ∃ s, Transition.Run
      (SaveSystem.Steps (jsonCodec (readerOf [])) plainBackend "state")
      (.start MindChatCore.default ∅) tornRun s ∧ s.answer 0 = some false ∧ s.system.unmarked = 0 ∧
    s.system.mutations = 2 ∧
    ¬ OnDisk (jsonCodec (readerOf [])) plainBackend "state" s.system.file s.system.state.snapshot := by
  have hs : (Transition.exec (SaveSystem.step (jsonCodec (readerOf [])) plainBackend "state")
      (.start MindChatCore.default ∅) tornRun).any
        (fun s => decide (s.answer 0 = some false ∧ s.system.unmarked = 0 ∧ s.system.mutations = 2 ∧
          (s.system.file.lookup "state").map List.length ≠ some ((PersistedState.mk currentSchemaVersion
            s.system.state.snapshot).bytes.length + minEncryptedLen))) = true := by
    decide +kernel
  obtain ⟨s,h,hd⟩ := (Option.any_eq_true _ _).mp hs
  obtain ⟨ha,hu,hm,hlen⟩ := of_decide_eq_true hd
  exact ⟨s,Transition.run_iff_exec.mpr h,ha,hu,hm,fun hf => hlen hf.length⟩

end MindChat
