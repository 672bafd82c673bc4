import MindChat.Transition
import Mathlib.Tactic.Common

/-! Saving in the background, tracked by epochs: mutators mark what they changed
after they changed it, one saver at a time writes a snapshot, and the epochs say
whether a save is due to anyone who reads them one after the other. The state, its
snapshots and the store are parameters. -/

/-- Mutations made and mutations persisted; both epochs count from the start. -/
structure PersistenceStateTracker where
  mutationEpoch : ℕ
  persistedEpoch : ℕ
  deriving DecidableEq

namespace PersistenceStateTracker

def init : PersistenceStateTracker := ⟨0,0⟩

def markMutation (t : PersistenceStateTracker) : PersistenceStateTracker :=
  { t with mutationEpoch := t.mutationEpoch + 1 }

/-- The second half of `requiresSave`, which has read the mutation epoch before. -/
def differsFrom (t : PersistenceStateTracker) (mutationEpoch : ℕ) : Bool :=
  mutationEpoch ≠ t.persistedEpoch

/-- `requiresSave` when nothing comes between its two reads. -/
def requiresSave (t : PersistenceStateTracker) : Bool := t.differsFrom t.mutationEpoch

def captureSaveEpoch (t : PersistenceStateTracker) : ℕ := t.mutationEpoch

/-- One round of `markPersisted` with the `current` epoch it read: the tracker
after it, and whether the call returns. -/
def tryPersisted (t : PersistenceStateTracker) (epoch current : ℕ) : Bool × PersistenceStateTracker :=
  if epoch ≤ current then (true,t)
  else if t.persistedEpoch = current then (true,{ t with persistedEpoch := epoch })
  else (false,t)

theorem differsFrom_eq_false {t : PersistenceStateTracker} {mutationEpoch : ℕ} :
    t.differsFrom mutationEpoch = false ↔ mutationEpoch = t.persistedEpoch := by
  simp [differsFrom]

theorem requiresSave_eq_false {t : PersistenceStateTracker} :
    t.requiresSave = false ↔ t.mutationEpoch = t.persistedEpoch := differsFrom_eq_false

/-- A round returns with a persisted epoch that did not fall behind, or it had
read an epoch that is no longer there and changes nothing. -/
theorem tryPersisted_cases (t : PersistenceStateTracker) (epoch current : ℕ) :
    t.tryPersisted epoch current = (true,t) ∨
      (t.persistedEpoch < epoch ∧
        t.tryPersisted epoch current = (true,{ t with persistedEpoch := epoch })) ∨
      t.tryPersisted epoch current = (false,t) := by
  unfold tryPersisted
  by_cases h : epoch ≤ current
  · exact .inl (if_pos h)
  · rw [if_neg h]
    by_cases hc : t.persistedEpoch = current
    · exact .inr (.inl ⟨by omega,if_pos hc⟩)
    · exact .inr (.inr (if_neg hc))

end PersistenceStateTracker

namespace Saving

/-- A store of snapshots: a write succeeds and then holds the snapshot, or it
fails and holds whatever it held. -/
structure Backing (V F W : Type) where
  write : W → V → F → Bool × F
  Holds : F → V → Prop
  holds_written : ∀ w v f, (write w v f).1 = true → Holds (write w v f).2 v
  holds_kept : ∀ w v f, (write w v f).1 = false → ∀ u, Holds f u → Holds (write w v f).2 u

/-- Where the saver that holds the mutex stands. -/
inductive Phase (V : Type)
  | idle
  | locked
  | captured (epoch : ℕ)
  | copied (epoch : ℕ) (view : V)
  | written (epoch : ℕ)
  | comparing (epoch current : ℕ)

/-- `unmarked` counts the mutators between their mutation and its mark, and
`mutations` all mutations made. -/
structure System (S V F : Type) where
  tracker : PersistenceStateTracker
  state : S
  file : F
  phase : Phase V
  unmarked : ℕ
  mutations : ℕ

/-- One atomic action of a mutator or of the saver. -/
inductive Action (S W : Type)
  | mutate (state : S)
  | markMutation
  | lock
  | captureSaveEpoch
  | copy
  | write (w : W)
  | readPersisted
  | compareAndSet

namespace System

variable {S V F W : Type}

def start (state : S) (file : F) : System S V F := ⟨.init,state,file,.idle,0,0⟩

def step (b : Backing V F W) (view : S → V) (s : System S V F) : Action S W → Option (System S V F)
  | .mutate state =>
    some { s with state := state, unmarked := s.unmarked + 1, mutations := s.mutations + 1 }
  | .markMutation =>
    if s.unmarked = 0 then none
    else some { s with tracker := s.tracker.markMutation, unmarked := s.unmarked - 1 }
  | .lock =>
    match s.phase with
    | .idle => some { s with phase := .locked }
    | _ => none
  | .captureSaveEpoch =>
    match s.phase with
    | .locked => some { s with phase := .captured s.tracker.captureSaveEpoch }
    | _ => none
  | .copy =>
    match s.phase with
    | .captured epoch => some { s with phase := .copied epoch (view s.state) }
    | _ => none
  | .write w =>
    match s.phase with
    | .copied epoch v =>
      match b.write w v s.file with
      | (true,file) => some { s with file := file, phase := .written epoch }
      | (false,file) => some { s with file := file, phase := .idle }
    | _ => none
  | .readPersisted =>
    match s.phase with
    | .written epoch => some { s with phase := .comparing epoch s.tracker.persistedEpoch }
    | _ => none
  | .compareAndSet =>
    match s.phase with
    | .comparing epoch current =>
      match s.tracker.tryPersisted epoch current with
      | (true,tracker) => some { s with tracker := tracker, phase := .idle }
      | (false,tracker) => some { s with tracker := tracker, phase := .written epoch }
    | _ => none

variable {b : Backing V F W} {view : S → V} {states : List S}

/-- A snapshot is of one of the states from number `epoch` on. -/
def FromEpoch (view : S → V) (states : List S) (epoch : ℕ) (v : V) : Prop :=
  ∃ n state, epoch ≤ n ∧ states[n]? = some state ∧ v = view state

/-- The file holds a snapshot of one of the states from number `epoch` on. -/
def Contains (b : Backing V F W) (view : S → V) (states : List S) (epoch : ℕ) (file : F) : Prop :=
  ∃ v, FromEpoch view states epoch v ∧ b.Holds file v

theorem FromEpoch.append {epoch : ℕ} {v : V} (h : FromEpoch view states epoch v) (more : List S) :
    FromEpoch view (states ++ more) epoch v := by
  obtain ⟨n,state,hn,hs,hv⟩ := h
  obtain ⟨hl,-⟩ := List.getElem?_eq_some_iff.mp hs
  exact ⟨n,state,hn,by rwa [List.getElem?_append_left hl],hv⟩

theorem FromEpoch.anti {epoch before : ℕ} {v : V} (h : FromEpoch view states epoch v)
    (hle : before ≤ epoch) : FromEpoch view states before v := by
  obtain ⟨n,state,hn,hs,hv⟩ := h
  exact ⟨n,state,Nat.le_trans hle hn,hs,hv⟩

theorem Contains.append {epoch : ℕ} {file : F} (h : Contains b view states epoch file) (more : List S) :
    Contains b view (states ++ more) epoch file :=
  h.imp fun _ hv => ⟨hv.1.append more,hv.2⟩

/-- What the saver knows: its epoch is marked and not behind the persisted one, and its
copy, or the file, has every mutation up to it. -/
def PhaseOk (b : Backing V F W) (view : S → V) (states : List S) (s : System S V F) : Prop :=
  match s.phase with
  | .idle | .locked => True
  | .captured epoch => s.tracker.persistedEpoch ≤ epoch ∧ epoch ≤ s.tracker.mutationEpoch
  | .copied epoch v =>
    s.tracker.persistedEpoch ≤ epoch ∧ epoch ≤ s.tracker.mutationEpoch ∧
      FromEpoch view states epoch v
  | .written epoch | .comparing epoch _ =>
    epoch ≤ s.tracker.mutationEpoch ∧ Contains b view states epoch s.file

namespace PhaseOk

variable {s : System S V F} {epoch : ℕ}

theorem captured (h : PhaseOk b view states s) (hp : s.phase = .captured epoch) :
    s.tracker.persistedEpoch ≤ epoch ∧ epoch ≤ s.tracker.mutationEpoch := by
  unfold PhaseOk at h
  rwa [hp] at h

theorem copied {v : V} (h : PhaseOk b view states s) (hp : s.phase = .copied epoch v) :
    s.tracker.persistedEpoch ≤ epoch ∧ epoch ≤ s.tracker.mutationEpoch ∧
      FromEpoch view states epoch v := by
  unfold PhaseOk at h
  rwa [hp] at h

theorem saved (h : PhaseOk b view states s)
    (hp : s.phase = .written epoch ∨ ∃ current, s.phase = .comparing epoch current) :
    epoch ≤ s.tracker.mutationEpoch ∧ Contains b view states epoch s.file := by
  unfold PhaseOk at h
  rcases hp with hp | ⟨current,hp⟩ <;> rwa [hp] at h

theorem mutate (h : PhaseOk b view states s) (state : S) (unmarked : ℕ) :
    PhaseOk b view (states ++ [state])
      { s with state := state, mutations := s.mutations + 1, unmarked := unmarked } := by
  unfold PhaseOk at h ⊢
  cases hph : s.phase <;> simp only [hph] at h ⊢
  · exact h
  · exact ⟨h.1,h.2.1,h.2.2.append _⟩
  · exact ⟨h.1,h.2.append _⟩
  · exact ⟨h.1,h.2.append _⟩

theorem markMutation (h : PhaseOk b view states s) (unmarked : ℕ) :
    PhaseOk b view states { s with tracker := s.tracker.markMutation, unmarked := unmarked } := by
  unfold PhaseOk at h ⊢
  cases hph : s.phase <;> simp only [hph,PersistenceStateTracker.markMutation] at h ⊢
  · exact ⟨h.1,Nat.le_succ_of_le h.2⟩
  · exact ⟨h.1,Nat.le_succ_of_le h.2.1,h.2.2⟩
  · exact ⟨Nat.le_succ_of_le h.1,h.2⟩
  · exact ⟨Nat.le_succ_of_le h.1,h.2⟩

end PhaseOk

/-- Every mutation is marked or about to be, the persisted epoch is a marked one, and
the file has every mutation up to it; the states are those after each mutation. -/
structure Inv (b : Backing V F W) (view : S → V) (states : List S) (s : System S V F) : Prop where
  marked : s.tracker.mutationEpoch + s.unmarked = s.mutations
  persisted_le : s.tracker.persistedEpoch ≤ s.tracker.mutationEpoch
  length : states.length = s.mutations + 1
  last : states[s.mutations]? = some s.state
  phase : PhaseOk b view states s
  current : s.tracker.persistedEpoch = 0 ∨ Contains b view states s.tracker.persistedEpoch s.file

theorem inv_start (state : S) (file : F) : Inv b view [state] (start state file) :=
  ⟨rfl,Nat.le_refl 0,rfl,rfl,trivial,.inl rfl⟩

/-- The states that an action adds. -/
def mutated : Action S W → List S
  | .mutate state => [state]
  | _ => []

theorem Inv.step {s t : System S V F} {action : Action S W} (hi : Inv b view states s)
    (h : s.step b view action = some t) : Inv b view (states ++ mutated action) t := by
  obtain ⟨hm,hp,hlen,hlast,hphase,hc⟩ := hi
  have hquiet (h : mutated action = []) : states ++ mutated action = states := by
    rw [h,List.append_nil]
  cases action with
  | mutate state =>
    cases h
    refine ⟨by simp only [← hm]; omega,hp,?_,?_,hphase.mutate state _,hc.imp id (·.append _)⟩
    · rw [mutated,List.length_append,hlen]
      rfl
    · show (states ++ [state])[s.mutations + 1]? = _
      rw [← hlen,List.getElem?_concat_length]
  | markMutation =>
    simp only [System.step] at h
    split at h
    · cases h
    next hu =>
    cases h
    rw [hquiet rfl]
    refine ⟨?_,Nat.le_succ_of_le hp,hlen,hlast,hphase.markMutation _,hc⟩
    simp only [PersistenceStateTracker.markMutation]
    omega
  | lock =>
    simp only [System.step] at h
    split at h <;> cases h
    rw [hquiet rfl]
    exact ⟨hm,hp,hlen,hlast,trivial,hc⟩
  | captureSaveEpoch =>
    simp only [System.step] at h
    split at h <;> cases h
    rw [hquiet rfl]
    exact ⟨hm,hp,hlen,hlast,⟨hp,Nat.le_refl _⟩,hc⟩
  | copy =>
    simp only [System.step] at h
    rw [hquiet rfl]
    split at h
    · next epoch hph =>
      cases h
      obtain ⟨hpe,hem⟩ := hphase.captured hph
      exact ⟨hm,hp,hlen,hlast,⟨hpe,hem,s.mutations,s.state,by omega,hlast,rfl⟩,hc⟩
    · cases h
  | write w =>
    simp only [System.step] at h
    rw [hquiet rfl]
    split at h
    · next epoch v hph =>
      obtain ⟨hpe,hem,hv⟩ := hphase.copied hph
      rcases hw : b.write w v s.file with ⟨_ | _,file⟩
      · rw [hw] at h
        cases h
        have hkept := b.holds_kept w v s.file (by rw [hw])
        rw [hw] at hkept
        exact ⟨hm,hp,hlen,hlast,trivial,hc.imp id fun ⟨u,hu,hf⟩ => ⟨u,hu,hkept u hf⟩⟩
      · rw [hw] at h
        cases h
        have hwritten := b.holds_written w v s.file (by rw [hw])
        rw [hw] at hwritten
        exact ⟨hm,hp,hlen,hlast,⟨hem,v,hv,hwritten⟩,.inr ⟨v,hv.anti hpe,hwritten⟩⟩
    · cases h
  | readPersisted =>
    simp only [System.step] at h
    rw [hquiet rfl]
    split at h
    · next epoch hph =>
      cases h
      exact ⟨hm,hp,hlen,hlast,hphase.saved (.inl hph),hc⟩
    · cases h
  | compareAndSet =>
    simp only [System.step] at h
    rw [hquiet rfl]
    split at h
    · next epoch current hph =>
      have hsaved := hphase.saved (.inr ⟨current,hph⟩)
      rcases s.tracker.tryPersisted_cases epoch current with ht | ⟨-,ht⟩ | ht
      · rw [ht] at h
        cases h
        exact ⟨hm,hp,hlen,hlast,trivial,hc⟩
      · rw [ht] at h
        cases h
        exact ⟨hm,hsaved.1,hlen,hlast,trivial,.inr hsaved.2⟩
      · rw [ht] at h
        cases h
        exact ⟨hm,hp,hlen,hlast,hsaved,hc⟩
    · cases h

theorem persisted_mono {s t : System S V F} {action : Action S W}
    (h : s.step b view action = some t) :
    s.tracker.persistedEpoch ≤ t.tracker.persistedEpoch := by
  cases action with
  | mutate state =>
    cases h
    exact Nat.le_refl _
  | markMutation =>
    simp only [System.step] at h
    split at h <;> cases h
    exact Nat.le_refl _
  | write w =>
    simp only [System.step] at h
    split at h
    · split at h <;> cases h <;> exact Nat.le_refl _
    · cases h
  | compareAndSet =>
    simp only [System.step] at h
    split at h
    · next epoch current hph =>
      rcases s.tracker.tryPersisted_cases epoch current with ht | ⟨hlt,ht⟩ | ht
      · rw [ht] at h
        cases h
        exact Nat.le_refl _
      · rw [ht] at h
        cases h
        exact Nat.le_of_lt hlt
      · rw [ht] at h
        cases h
        exact Nat.le_refl _
    · cases h
  | lock | captureSaveEpoch | copy | readPersisted =>
    simp only [System.step] at h
    split at h <;> cases h
    exact Nat.le_refl _

theorem Inv.saved {s : System S V F} (hi : Inv b view states s) (hu : s.unmarked = 0)
    (he : s.tracker.mutationEpoch = s.tracker.persistedEpoch) :
    s.mutations = 0 ∨ b.Holds s.file (view s.state) := by
  have hm := hi.marked
  rcases hi.current with h₀ | ⟨v,⟨n,state,hn,hs,rfl⟩,hf⟩
  · exact .inl (by omega)
  · have hlen := hi.length
    obtain ⟨hlt,-⟩ := List.getElem?_eq_some_iff.mp hs
    obtain rfl : n = s.mutations := by omega
    obtain rfl : s.state = state := Option.some.inj (hi.last.symm.trans hs)
    exact .inr hf

end System

/-- The calls of `requiresSave` beside it that have read the mutation epoch and not yet
the persisted one, as what they read. -/
structure Watched (S V F : Type) where
  system : System S V F
  looks : List ℕ

inductive WatchedAction (S W : Type)
  | act (action : Action S W)
  | readMutationEpoch
  | readPersistedEpoch (i : ℕ)

def WatchedAction.marks {S W : Type} : WatchedAction S W → Bool
  | .act .markMutation => true
  | _ => false

namespace Watched

variable {S V F W : Type}

def start (state : S) (file : F) : Watched S V F := ⟨.start state file,[]⟩

def step (b : Backing V F W) (view : S → V) (s : Watched S V F) : WatchedAction S W → Option (Watched S V F)
  | .act action => (s.system.step b view action).map ({ s with system := · })
  | .readMutationEpoch => some { s with looks := s.looks ++ [s.system.tracker.mutationEpoch] }
  | .readPersistedEpoch i =>
    if i < s.looks.length then some { s with looks := s.looks.eraseIdx i } else none

/-- What the call number `i` answers that reads the persisted epoch now. -/
def answer (s : Watched S V F) (i : ℕ) : Option Bool := (s.looks[i]?).map s.system.tracker.differsFrom

/-- No mutation is marked while a call stands between its two reads. -/
def Undisturbed (s : Watched S V F) (action : WatchedAction S W) : Prop :=
  action.marks = true → s.looks = []

instance (s : Watched S V F) (action : WatchedAction S W) : Decidable (s.Undisturbed action) :=
  inferInstanceAs (Decidable (_ → _))

def mutated : WatchedAction S W → List S
  | .act action => System.mutated action
  | _ => []

variable {b : Backing V F W} {view : S → V} {states : List S} {s t : Watched S V F}
variable {action : WatchedAction S W}

theorem answer_eq_false {i : ℕ} (h : s.answer i = some false) :
    s.looks[i]? = some s.system.tracker.persistedEpoch := by
  obtain ⟨epoch,hl,hd⟩ := Option.map_eq_some_iff.mp h
  rw [hl,PersistenceStateTracker.differsFrom_eq_false.mp hd]

theorem inv_step (hi : System.Inv b view states s.system) (h : s.step b view action = some t) :
    System.Inv b view (states ++ mutated action) t.system := by
  cases action with
  | act action =>
    obtain ⟨system,hs,rfl⟩ := Option.map_eq_some_iff.mp h
    exact hi.step hs
  | readMutationEpoch =>
    cases h
    exact (List.append_nil states).symm ▸ hi
  | readPersistedEpoch i =>
    simp only [step] at h
    split at h <;> cases h
    exact (List.append_nil states).symm ▸ hi

theorem inv_exec {actions : List (WatchedAction S W)} (hi : System.Inv b view states s.system)
    (h : Transition.exec (Watched.step b view) s actions = some t) :
    System.Inv b view (states ++ actions.flatMap mutated) t.system := by
  induction actions generalizing s states with
  | nil =>
    cases h
    rw [List.flatMap_nil,List.append_nil]
    exact hi
  | cons action actions ih =>
    obtain ⟨u,hu,hr⟩ := Option.bind_eq_some_iff.mp h
    rw [List.flatMap_cons,← List.append_assoc]
    exact ih (inv_step hi hu) hr

theorem persisted_mono (h : s.step b view action = some t) :
    s.system.tracker.persistedEpoch ≤ t.system.tracker.persistedEpoch := by
  cases action with
  | act action =>
    obtain ⟨system,hs,rfl⟩ := Option.map_eq_some_iff.mp h
    exact System.persisted_mono hs
  | readMutationEpoch => cases h; exact Nat.le_refl _
  | readPersistedEpoch i =>
    simp only [step] at h
    split at h <;> cases h
    exact Nat.le_refl _

theorem mutationEpoch_step {s t : System S V F} {action : Action S W} (ha : action ≠ .markMutation)
    (h : s.step b view action = some t) : t.tracker.mutationEpoch = s.tracker.mutationEpoch := by
  cases action with
  | mutate state => cases h; rfl
  | markMutation => exact absurd rfl ha
  | write w =>
    simp only [System.step] at h
    split at h
    · split at h <;> cases h <;> rfl
    · cases h
  | compareAndSet =>
    simp only [System.step] at h
    split at h
    · next epoch current hph =>
      rcases s.tracker.tryPersisted_cases epoch current with ht | ⟨-,ht⟩ | ht <;>
        (rw [ht] at h; cases h; rfl)
    · cases h
  | lock | captureSaveEpoch | copy | readPersisted =>
    simp only [System.step] at h
    split at h <;> cases h
    rfl

/-- What the calls have read is the mutation epoch still. -/
def Fresh (s : Watched S V F) : Prop := ∀ epoch ∈ s.looks, epoch = s.system.tracker.mutationEpoch

theorem Fresh.step (hf : s.Fresh) (hu : s.Undisturbed action) (h : s.step b view action = some t) :
    t.Fresh := by
  cases action with
  | act action =>
    obtain ⟨system,hs,rfl⟩ := Option.map_eq_some_iff.mp h
    by_cases ha : action = .markMutation
    · subst ha
      have hnil : s.looks = [] := hu rfl
      intro epoch he
      rw [hnil] at he
      cases he
    · exact fun epoch he => (hf epoch he).trans (mutationEpoch_step ha hs).symm
  | readMutationEpoch =>
    cases h
    intro epoch he
    rcases List.mem_append.mp he with he | he
    · exact hf epoch he
    · exact List.mem_singleton.mp he
  | readPersistedEpoch i =>
    simp only [Watched.step] at h
    split at h <;> cases h
    exact fun epoch he => hf epoch (List.mem_of_mem_eraseIdx he)

end Watched

end Saving
