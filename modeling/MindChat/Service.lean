import MindChat.PersistenceTracker

/-! A service whose calls run side by side over one shared state. A call is a
procedure of atomic actions, and between two of them any other call may act. Calls
mark the state dirty, savers take turns, and the process may restart at any point.
The rules here say when a call leaves no durable change behind without a mark. -/

/-- What is left of a call: atomic actions on the state, dirty marks, looks at the
dirty flag, saves, and points where it waits and may be cancelled. What follows an
action depends on the state that it found. A look has read the mutation epoch when it
comes to compare it with the persisted one. -/
inductive Proc (S R : Type)
  | ret (result : R)
  | act (f : S → S) (next : S → Proc S R)
  | mark (next : Proc S R)
  | requiresSave (next : Bool → Proc S R)
  | comparing (epoch : ℕ) (next : Bool → Proc S R)
  | save (next : Proc S R)
  | suspend (next : Proc S R)

namespace Proc

variable {S R Q V : Type}

def bind : Proc S R → (R → Proc S Q) → Proc S Q
  | .ret result, k => k result
  | .act f next, k => .act f fun s => (next s).bind k
  | .mark next, k => .mark (next.bind k)
  | .requiresSave next, k => .requiresSave fun due => (next due).bind k
  | .comparing epoch next, k => .comparing epoch fun due => (next due).bind k
  | .save next, k => .save (next.bind k)
  | .suspend next, k => .suspend (next.bind k)

def call {A : Type} (f : S → A × S) (next : A → Proc S R) : Proc S R :=
  .act (fun s => (f s).2) fun s => next (f s).1

def modify (f : S → S) (next : Proc S R) : Proc S R := .act f fun _ => next

def read {A : Type} (f : S → A) (next : A → Proc S R) : Proc S R := .act id fun s => next (f s)

/-- The call alone takes `s` to `t` and gives back `result`. A look at the dirty flag
may find either. -/
inductive Performs : Proc S R → S → R → S → Prop
  | ret (result : R) (s : S) : Performs (.ret result) s result s
  | act {f : S → S} {next : S → Proc S R} {s : S} {result : R} {t : S}
      (h : Performs (next s) (f s) result t) : Performs (.act f next) s result t
  | mark {next : Proc S R} {s : S} {result : R} {t : S} (h : Performs next s result t) :
      Performs (.mark next) s result t
  | requiresSave {next : Bool → Proc S R} {s : S} {result : R} {t : S} (due : Bool)
      (h : Performs (next due) s result t) : Performs (.requiresSave next) s result t
  | comparing {epoch : ℕ} {next : Bool → Proc S R} {s : S} {result : R} {t : S} (due : Bool)
      (h : Performs (next due) s result t) : Performs (.comparing epoch next) s result t
  | save {next : Proc S R} {s : S} {result : R} {t : S} (h : Performs next s result t) :
      Performs (.save next) s result t
  | suspend {next : Proc S R} {s : S} {result : R} {t : S} (h : Performs next s result t) :
      Performs (.suspend next) s result t

/-- What the call does alone when every look at the dirty flag finds `due`. -/
def perform (due : Bool) : Proc S R → S → R × S
  | .ret result, s => (result,s)
  | .act f next, s => (next s).perform due (f s)
  | .mark next, s => next.perform due s
  | .requiresSave next, s => (next due).perform due s
  | .comparing _ next, s => (next due).perform due s
  | .save next, s => next.perform due s
  | .suspend next, s => next.perform due s

theorem performs_perform (due : Bool) (p : Proc S R) (s : S) :
    p.Performs s (p.perform due s).1 (p.perform due s).2 := by
  induction p generalizing s with
  | ret result => exact .ret _ _
  | act f next ih => exact .act (ih s (f s))
  | mark next ih => exact .mark (ih s)
  | requiresSave next ih => exact .requiresSave due (ih due s)
  | comparing epoch next ih => exact .comparing due (ih due s)
  | save next ih => exact .save (ih s)
  | suspend next ih => exact .suspend (ih s)

section Performs

variable {s t : S} {result : R}

@[simp] theorem performs_ret {r : R} : (ret r : Proc S R).Performs s result t ↔ result = r ∧ t = s :=
  ⟨fun h => by cases h; exact ⟨rfl,rfl⟩,fun ⟨hr,ht⟩ => hr ▸ ht ▸ .ret _ _⟩

@[simp] theorem performs_act {f : S → S} {next : S → Proc S R} :
    (act f next).Performs s result t ↔ (next s).Performs (f s) result t :=
  ⟨fun | .act h => h,.act⟩

@[simp] theorem performs_mark {next : Proc S R} :
    (mark next).Performs s result t ↔ next.Performs s result t := ⟨fun | .mark h => h,.mark⟩

@[simp] theorem performs_modify {f : S → S} {next : Proc S R} :
    (modify f next).Performs s result t ↔ next.Performs (f s) result t := performs_act

@[simp] theorem performs_read {A : Type} {f : S → A} {next : A → Proc S R} :
    (read f next).Performs s result t ↔ (next (f s)).Performs s result t := performs_act

end Performs

/-- The call returns here or can be cancelled here. -/
def leaves : Proc S R → Bool
  | .ret _ | .save _ | .suspend _ => true
  | _ => false

section Covers

variable (I : S → Prop) (durable : S → V)

/-- From any states that satisfy `I`, every durable change is marked before the
call leaves; `pending` says that one is not marked yet. -/
def Covers : Proc S R → Prop → Prop
  | .ret _, pending => ¬ pending
  | .act f next, pending => ∀ s, I s →
      I (f s) ∧ (next s).Covers (pending ∨ durable (f s) ≠ durable s)
  | .mark next, _ => next.Covers False
  | .requiresSave next, pending => ∀ due, (next due).Covers pending
  | .comparing _ next, pending => ∀ due, (next due).Covers pending
  | .save next, pending => ¬ pending ∧ next.Covers False
  | .suspend next, pending => ¬ pending ∧ next.Covers False

/-- The same of a call whose first action finds the state `ok`. -/
def CoversFrom (ok : S → Prop) : Proc S R → Prop
  | .act f next => ∀ s, I s → ok s → (next s).Covers I durable (durable (f s) ≠ durable s)
  | p => p.Covers I durable False

/-- What is left changes nothing durable, and it neither marks nor saves. -/
def Still : Proc S R → Prop
  | .ret _ => True
  | .act f next => ∀ s, durable (f s) = durable s ∧ (next s).Still
  | _ => False

end Covers

variable {I : S → Prop} {durable : S → V} {p : Proc S R}

theorem Covers.mono {pending pending' : Prop} (h : p.Covers I durable pending)
    (hp : pending' → pending) : p.Covers I durable pending' := by
  induction p generalizing pending pending' with
  | ret result => exact fun hr => h (hp hr)
  | act f next ih =>
    exact fun s hs => ⟨(h s hs).1,ih _ (h s hs).2 (Or.imp_left hp)⟩
  | mark next ih => exact h
  | requiresSave next ih => exact fun due => ih due (h due) hp
  | comparing epoch next ih => exact fun due => ih due (h due) hp
  | save next ih => exact ⟨fun hr => h.1 (hp hr),h.2⟩
  | suspend next ih => exact ⟨fun hr => h.1 (hp hr),h.2⟩

def Keeps (I : S → Prop) (p : Proc S R) : Prop := p.Covers I (fun _ => ()) False

theorem Covers.keeps {pending : Prop} (h : p.Covers I durable pending) : p.Keeps I := by
  have keeps {pending' : Prop} (hp : ¬ pending') : p.Covers I (fun _ => ()) pending' := by
    induction p generalizing pending pending' with
    | ret result => exact hp
    | act f next ih =>
      exact fun s hs => ⟨(h s hs).1,ih s (h s hs).2 fun hr => hr.elim hp fun hd => hd rfl⟩
    | mark next ih => exact ih h id
    | requiresSave next ih => exact fun due => ih due (h due) hp
    | comparing epoch next ih => exact fun due => ih due (h due) hp
    | save next ih => exact ⟨hp,ih h.2 id⟩
    | suspend next ih => exact ⟨hp,ih h.2 id⟩
  exact keeps id

theorem Covers.not_pending {pending : Prop} (h : p.Covers I durable pending) (hl : p.leaves = true) :
    ¬ pending := by
  cases p with
  | ret result => exact h
  | save next => exact h.1
  | suspend next => exact h.1
  | act | mark | requiresSave | comparing => cases hl

theorem Covers.still {pending : Prop} {f : S → S} {next : S → Proc S R}
    (hf : ∀ s, I s → I (f s) ∧ durable (f s) = durable s)
    (h : ∀ s, I s → (next s).Covers I durable pending) : (act f next).Covers I durable pending :=
  fun s hs => ⟨(hf s hs).1,(h s hs).mono fun hp => hp.resolve_right fun hd => hd (hf s hs).2⟩

theorem Covers.modify {pending : Prop} {f : S → S}
    (hf : ∀ s, I s → I (f s) ∧ durable (f s) = durable s) (h : p.Covers I durable pending) :
    (Proc.modify f p).Covers I durable pending := Covers.still hf fun _ _ => h

theorem Covers.read {pending : Prop} {A : Type} {f : S → A} {next : A → Proc S R}
    (h : ∀ a, (next a).Covers I durable pending) : (Proc.read f next).Covers I durable pending :=
  Covers.still (fun _ hs => ⟨hs,rfl⟩) fun _ _ => h _

theorem Covers.from (h : p.Covers I durable False) (ok : S → Prop) : p.CoversFrom I durable ok := by
  cases p with
  | act f next => exact fun s hs _ => (h s hs).2.mono .inr
  | ret | mark | requiresSave | comparing | save | suspend => exact h

end Proc

/-- A call in progress. `last` is the number of its latest durable change, or 0,
and `begun` says that it has made a step. -/
structure Call (Op S R : Type) where
  op : Op
  proc : Proc S R
  last : ℕ
  begun : Bool

/-- What the calls do and which thread may run them, what of the state is saved
and where, what moves by itself, and how a new process starts. -/
structure Service (ι Op S R V F W E X : Type) where
  body : Op → Proc S R
  allowed : ι → Op → Bool
  view : S → V
  durable : S → V
  backing : Saving.Backing V F W
  environment : E → S → S
  restart : X → S → F → S × F

namespace Service

/-- A running service. Durable changes are counted by `system.mutations`: `marked`
counts those before the latest mark, `copied` those in the saver's copy, `saved`
those in the copy of the latest completed save. -/
structure State (ι Op S R V F : Type) where
  system : Saving.System S V F
  owner : Option ι
  calls : ι → Option (Call Op S R)
  marked : ℕ
  copied : ℕ
  saved : ℕ

inductive Action (ι Op W E X : Type)
  | begin (i : ι) (op : Op)
  | advance (i : ι)
  | saver (i : ι) (w : W)
  | cancel (i : ι)
  | environment (e : E)
  | restart (x : X)

variable {ι Op S R V F W E X : Type}

namespace State

abbrev state (s : State ι Op S R V F) : S := s.system.state

abbrev tracker (s : State ι Op S R V F) : PersistenceStateTracker := s.system.tracker

def start (state : S) (file : F) : State ι Op S R V F :=
  ⟨.start state file,none,fun _ => none,0,0,0⟩

def setCall [DecidableEq ι] (s : State ι Op S R V F) (i : ι) (call : Option (Call Op S R)) :
    State ι Op S R V F :=
  { s with calls := Function.update s.calls i call }

theorem calls_setCall_of_ne [DecidableEq ι] (s : State ι Op S R V F) {i j : ι} (h : j ≠ i)
    (call : Option (Call Op S R)) : (s.setCall i call).calls j = s.calls j := by
  simp only [setCall,Function.update_of_ne h]

@[simp] theorem calls_setCall [DecidableEq ι] (s : State ι Op S R V F) (i : ι)
    (call : Option (Call Op S R)) : (s.setCall i call).calls i = call := by
  simp only [setCall,Function.update_self]

/-- The changes up to `n` are none, or a save is due that will take them, or a save
whose copy was made after them has completed. -/
def Secured (s : State ι Op S R V F) (n : ℕ) : Prop :=
  n = 0 ∨ s.tracker.requiresSave = true ∨ n ≤ s.saved

end State

/-- What the saver that holds the mutex knows of its epoch and its copy. -/
def SaverOk (s : State ι Op S R V F) : Prop :=
  match s.system.phase with
  | .idle | .locked => True
  | .captured epoch => s.tracker.persistedEpoch ≤ epoch ∧ epoch ≤ s.tracker.mutationEpoch
  | .copied epoch _ =>
    s.tracker.persistedEpoch ≤ epoch ∧ epoch ≤ s.tracker.mutationEpoch ∧
      (epoch = s.tracker.mutationEpoch → s.marked ≤ s.copied)
  | .written epoch | .comparing epoch _ =>
    epoch ≤ s.tracker.mutationEpoch ∧ (epoch = s.tracker.mutationEpoch → s.marked ≤ s.saved)

/-- The epochs tell which marked changes are saved. -/
structure Ledger (s : State ι Op S R V F) : Prop where
  persisted_le : s.tracker.persistedEpoch ≤ s.tracker.mutationEpoch
  current : s.tracker.mutationEpoch = s.tracker.persistedEpoch → s.marked ≤ s.saved
  saver : SaverOk s
  marked_le : s.marked ≤ s.system.mutations
  copied_le : s.copied ≤ s.system.mutations
  saved_le : s.saved ≤ s.system.mutations

namespace Ledger

variable {s t : State ι Op S R V F}

theorem start (state : S) (file : F) : Ledger (State.start state file : State ι Op S R V F) :=
  ⟨Nat.le_refl 0,fun _ => Nat.le_refl 0,trivial,Nat.le_refl 0,Nat.le_refl 0,Nat.le_refl 0⟩

theorem of_still (h : Ledger s) (ht : t.tracker = s.tracker) (hp : t.system.phase = s.system.phase)
    (hn : s.system.mutations ≤ t.system.mutations) (hm : t.marked = s.marked)
    (hc : t.copied = s.copied) (hs : t.saved = s.saved) : Ledger t where
  persisted_le := ht ▸ h.persisted_le
  current := by
    rw [ht,hm,hs]
    exact h.current
  saver := by
    have hk := h.saver
    unfold SaverOk at hk ⊢
    rw [hp,ht,hm,hc,hs]
    exact hk
  marked_le := hm ▸ Nat.le_trans h.marked_le hn
  copied_le := hc ▸ Nat.le_trans h.copied_le hn
  saved_le := hs ▸ Nat.le_trans h.saved_le hn

/-- A mark is newer than every epoch that a saver has taken. -/
theorem mark (h : Ledger s) : Ledger
    { s with system := { s.system with tracker := s.tracker.markMutation },
             marked := s.system.mutations } where
  persisted_le := Nat.le_succ_of_le h.persisted_le
  current he := by
    have hp := h.persisted_le
    simp only [PersistenceStateTracker.markMutation] at he
    omega
  saver := by
    have hk := h.saver
    unfold SaverOk at hk ⊢
    cases hp : s.system.phase <;> simp only [hp,PersistenceStateTracker.markMutation] at hk ⊢
    · exact ⟨hk.1,Nat.le_succ_of_le hk.2⟩
    · exact ⟨hk.1,Nat.le_succ_of_le hk.2.1,fun he => by omega⟩
    · exact ⟨Nat.le_succ_of_le hk.1,fun he => by omega⟩
    · exact ⟨Nat.le_succ_of_le hk.1,fun he => by omega⟩
  marked_le := Nat.le_refl _
  copied_le := h.copied_le
  saved_le := h.saved_le

theorem secured (h : Ledger s) {n : ℕ} (hn : n ≤ s.marked) : s.Secured n := by
  cases hd : s.tracker.requiresSave with
  | true => exact .inr (.inl hd)
  | false =>
    have he := PersistenceStateTracker.requiresSave_eq_false.mp hd
    exact .inr (.inr (Nat.le_trans hn (h.current he)))

end Ledger

def saverAction (w : W) : Saving.Phase V → Saving.Action S W
  | .idle => .lock
  | .locked => .captureSaveEpoch
  | .captured _ => .copy
  | .copied _ _ => .write w
  | .written _ => .readPersisted
  | .comparing _ _ => .compareAndSet

variable (v : Service ι Op S R V F W E X)

/-- One step of the saver that holds the mutex or takes it. -/
def saverStep (s : State ι Op S R V F) (w : W) : Option (State ι Op S R V F) :=
  (s.system.step v.backing v.view (saverAction w s.system.phase)).map fun t =>
    match s.system.phase,t.phase with
    | .captured _,_ => { s with system := t, copied := s.system.mutations }
    | .copied _ _,.written _ => { s with system := t, saved := s.copied }
    | _,_ => { s with system := t }

variable {v} in
theorem Ledger.saverStep {s t : State ι Op S R V F} {w : W} (h : Ledger s)
    (hs : v.saverStep s w = some t) :
    Ledger t := by
  obtain ⟨⟨tracker,state,file,phase,unmarked,mutations⟩,owner,calls,marked,copied,saved⟩ := s
  obtain ⟨hp,hc,hk,hm,hcl,hsl⟩ := h
  unfold SaverOk at hk
  simp only at hp hc hk hm hcl hsl
  cases phase with
  | idle =>
    cases hs
    exact ⟨hp,hc,trivial,hm,hcl,hsl⟩
  | locked =>
    cases hs
    exact ⟨hp,hc,⟨hp,Nat.le_refl _⟩,hm,hcl,hsl⟩
  | captured epoch =>
    cases hs
    exact ⟨hp,hc,⟨hk.1,hk.2,fun _ => hm⟩,hm,Nat.le_refl _,hsl⟩
  | copied epoch copy =>
    simp only [Service.saverStep,saverAction,Saving.System.step] at hs
    rcases hw : v.backing.write w copy file with ⟨_ | _,file'⟩
    · rw [hw] at hs
      cases hs
      exact ⟨hp,hc,trivial,hm,hcl,hsl⟩
    · rw [hw] at hs
      cases hs
      -- if everything marked is persisted, this saver's epoch is the latest one
      obtain ⟨hle,hm',hmc⟩ := hk
      exact ⟨hp,fun he => hmc (Nat.le_antisymm hm' (Nat.le_trans (Nat.le_of_eq he) hle)),
        ⟨hm',hmc⟩,hm,hcl,hcl⟩
  | written epoch =>
    cases hs
    exact ⟨hp,hc,hk,hm,hcl,hsl⟩
  | comparing epoch current =>
    simp only [Service.saverStep,saverAction,Saving.System.step] at hs
    rcases tracker.tryPersisted_cases epoch current with ht | ⟨-,ht⟩ | ht
    · rw [ht] at hs
      cases hs
      exact ⟨hp,hc,trivial,hm,hcl,hsl⟩
    · rw [ht] at hs
      cases hs
      exact ⟨hk.1,fun he => hk.2 he.symm,trivial,hm,hcl,hsl⟩
    · rw [ht] at hs
      cases hs
      exact ⟨hp,hc,hk,hm,hcl,hsl⟩

theorem saverStep_same {v : Service ι Op S R V F W E X} {s t : State ι Op S R V F} {w : W}
    (hs : v.saverStep s w = some t) : t.state = s.state ∧ t.calls = s.calls ∧ t.marked = s.marked ∧
      t.system.mutations = s.system.mutations := by
  obtain ⟨⟨tracker,state,file,phase,unmarked,mutations⟩,owner,calls,marked,copied,saved⟩ := s
  cases phase with
  | copied epoch copy =>
    simp only [saverStep,saverAction,Saving.System.step] at hs
    rcases hw : v.backing.write w copy file with ⟨_ | _,file'⟩ <;> rw [hw] at hs <;> cases hs <;>
      exact ⟨rfl,rfl,rfl,rfl⟩
  | comparing epoch current =>
    simp only [saverStep,saverAction,Saving.System.step] at hs
    rcases ht : tracker.tryPersisted epoch current with ⟨_ | _,tracker'⟩ <;> rw [ht] at hs <;> cases hs <;>
      exact ⟨rfl,rfl,rfl,rfl⟩
  | idle | locked | captured | written =>
    cases hs
    exact ⟨rfl,rfl,rfl,rfl⟩

def countChange [DecidableEq V] (s : State ι Op S R V F) (state : S) : ℕ :=
  if v.durable state = v.durable s.state then s.system.mutations else s.system.mutations + 1

def advance [DecidableEq ι] [DecidableEq V] (s : State ι Op S R V F) (i : ι) (op : Op) (last : ℕ) :
    Proc S R → Option (State ι Op S R V F)
  | .ret _ => some (s.setCall i none)
  | .act f next =>
    let n := v.countChange s (f s.state)
    some ({ s with system := { s.system with state := f s.state, mutations := n } }.setCall i
      (some ⟨op,next s.state,if v.durable (f s.state) = v.durable s.state then last else n,true⟩))
  | .mark next =>
    some ({ s with system := { s.system with tracker := s.tracker.markMutation },
                   marked := s.system.mutations }.setCall i (some ⟨op,next,last,true⟩))
  | .requiresSave next => some (s.setCall i (some ⟨op,.comparing s.tracker.mutationEpoch next,last,true⟩))
  | .comparing epoch next => some (s.setCall i (some ⟨op,next (s.tracker.differsFrom epoch),last,true⟩))
  | .save _ => none
  | .suspend next => some (s.setCall i (some ⟨op,next,last,true⟩))

def step [DecidableEq ι] [DecidableEq V] (s : State ι Op S R V F) :
    Action ι Op W E X → Option (State ι Op S R V F)
  | .begin i op =>
    if v.allowed i op ∧ (s.calls i).isNone then some (s.setCall i (some ⟨op,v.body op,0,false⟩))
    else none
  | .advance i => (s.calls i).bind fun call => v.advance s i call.op call.last call.proc
  | .saver i w =>
    match s.calls i with
    | some ⟨op,.save next,last,_⟩ =>
      if s.owner = none ∨ s.owner = some i then
        (v.saverStep s w).map fun t =>
          match t.system.phase with
          | .idle => { t with owner := none }.setCall i (some ⟨op,next,last,true⟩)
          | _ => { t with owner := some i }
      else none
    | _ => none
  | .cancel i =>
    match s.calls i with
    | some ⟨_,.suspend _,_,_⟩ => some (s.setCall i none)
    | some ⟨_,.save _,_,_⟩ => if s.owner = some i then none else some (s.setCall i none)
    | _ => none
  | .environment e => some { s with system := { s.system with state := v.environment e s.state } }
  | .restart x =>
    let r := v.restart x s.state s.system.file
    some (.start r.1 r.2)

section Inversion

variable [DecidableEq ι] [DecidableEq V] {v} {s t : State ι Op S R V F} {i : ι}

theorem step_begin {op : Op} (h : v.step s (.begin i op) = some t) :
    v.allowed i op = true ∧ s.calls i = none ∧ t = s.setCall i (some ⟨op,v.body op,0,false⟩) := by
  simp only [step] at h
  split at h
  · next hb =>
    cases h
    exact ⟨hb.1,Option.isNone_iff_eq_none.mp hb.2,rfl⟩
  · cases h

theorem step_advance (h : v.step s (.advance i) = some t) :
    ∃ op proc last begun, s.calls i = some ⟨op,proc,last,begun⟩ ∧
      v.advance s i op last proc = some t := by
  obtain ⟨⟨op,proc,last,begun⟩,hc,h⟩ := Option.bind_eq_some_iff.mp h
  exact ⟨op,proc,last,begun,hc,h⟩

theorem step_saver {w : W} (h : v.step s (.saver i w) = some t) :
    ∃ op next last begun u, s.calls i = some ⟨op,.save next,last,begun⟩ ∧ v.saverStep s w = some u ∧
      (t = { u with owner := none }.setCall i (some ⟨op,next,last,true⟩) ∨
        t = { u with owner := some i }) := by
  simp only [step] at h
  split at h
  · next op next last begun hc =>
    split at h
    · obtain ⟨u,hu,h⟩ := Option.map_eq_some_iff.mp h
      refine ⟨op,next,last,begun,u,hc,hu,?_⟩
      split at h
      · exact .inl h.symm
      · exact .inr h.symm
    · cases h
  · cases h

theorem step_cancel (h : v.step s (.cancel i) = some t) :
    t = s.setCall i none ∧ ∃ call, s.calls i = some call ∧ call.proc.leaves = true := by
  simp only [step] at h
  split at h
  · next hc =>
    cases h
    exact ⟨rfl,_,hc,rfl⟩
  · next hc =>
    split at h <;> cases h
    exact ⟨rfl,_,hc,rfl⟩
  · cases h

end Inversion

/-- The state is good, and what is left of every call keeps it so. -/
structure Kept (I : S → Prop) (s : State ι Op S R V F) : Prop where
  good : I s.state
  calls : ∀ i call, s.calls i = some call → call.proc.Keeps I

/-- A call has not begun to act, or it covers its changes from where it is. -/
def CallOk (I : S → Prop) (s : State ι Op S R V F) (call : Call Op S R) : Prop :=
  call.last ≤ s.system.mutations ∧
    ((call.begun = false ∧ call.proc = v.body call.op ∧ call.last = 0) ∨
      call.proc.Covers I v.durable (s.marked < call.last))

/-- Every call of the threads `J` covers its changes. -/
def Covered (J : ι → Prop) (I : S → Prop) (s : State ι Op S R V F) : Prop :=
  ∀ i call, J i → s.calls i = some call → v.CallOk I s call

/-- The first step of a call finds a state that is `ok` for its operation. -/
def Meets (ok : Op → S → Prop) (s : State ι Op S R V F) : Action ι Op W E X → Prop
  | .advance i => ∀ call, s.calls i = some call → call.begun = false → ok call.op s.state
  | _ => True

def Action.Of (i : ι) : Action ι Op W E X → Prop
  | .advance j | .saver j _ => j = i
  | _ => False

/-- Calls, the environment and restarts keep `I`. -/
structure Sound (I : S → Prop) : Prop where
  body : ∀ op, (v.body op).Keeps I
  environment : ∀ e s, I s → I (v.environment e s)
  restart : ∀ x s f, I s → I (v.restart x s f).1

variable {v} {J : ι → Prop} {I : S → Prop} {ok : Op → S → Prop} {s t : State ι Op S R V F}

theorem CallOk.mono {call : Call Op S R} (h : v.CallOk I s call)
    (hn : s.system.mutations ≤ t.system.mutations) (hm : s.marked ≤ t.marked) : v.CallOk I t call :=
  ⟨Nat.le_trans h.1 hn,h.2.imp_right fun hc => hc.mono fun hp => Nat.lt_of_le_of_lt hm hp⟩

theorem CallOk.covers {op : Op} {proc : Proc S R} {last : ℕ} {begun : Bool}
    (h : v.CallOk I s ⟨op,proc,last,begun⟩)
    (hb : proc = v.body op → proc.Covers I v.durable False) :
    proc.Covers I v.durable (s.marked < last) := by
  rcases h.2 with ⟨-,hp,h0⟩ | hc
  · have hl : last = 0 := h0
    exact (hb hp).mono (by omega)
  · exact hc

/-- Where a call returns or can be cancelled, its durable changes are secured. -/
theorem Covered.secured (hc : v.Covered J I s) (hl : Ledger s)
    (hb : ∀ op, (v.body op).CoversFrom I v.durable (ok op)) {i : ι} {call : Call Op S R} (hj : J i)
    (hi : s.calls i = some call) (hleaves : call.proc.leaves = true) : s.Secured call.last := by
  obtain ⟨op,proc,last,begun⟩ := call
  have hcovers : proc.Covers I v.durable (s.marked < last) := by
    refine (hc i _ hj hi).covers fun hp => ?_
    have hf := hb op
    rw [← hp] at hf
    cases proc with
    | act f next => cases hleaves
    | ret | mark | requiresSave | comparing | save | suspend => exact hf
  exact hl.secured (Nat.le_of_not_lt (hcovers.not_pending hleaves))

theorem Kept.start {state : S} (h : I state) (file : F) :
    Kept I (State.start state file : State ι Op S R V F) :=
  ⟨h,fun _ _ hc => by cases hc⟩

theorem le_countChange [DecidableEq V] (s : State ι Op S R V F) (state : S) :
    s.system.mutations ≤ v.countChange s state := by
  unfold countChange
  split <;> omega

/-- What the thread runs, if anything, is the call, and as long as that has not begun
the state is the given one. -/
def Running (i : ι) (op : Op) (state : S) (s : State ι Op S R V F) : Prop :=
  ∀ call, s.calls i = some call → call.op = op ∧ (call.begun = false → s.state = state)

theorem Running.meets {i : ι} {op : Op} {state : S} (h : Running i op state s)
    {a : Action ι Op W E X} (ha : a.Of i) (hok : ok op state) : Meets ok s a := by
  cases a with
  | advance j =>
    cases ha
    intro c hc hn
    rw [(h c hc).1,(h c hc).2 hn]
    exact hok
  | begin | saver | cancel | environment | restart => trivial

variable [DecidableEq ι]

theorem Kept.setCall (h : Kept I s) {i : ι} {call : Option (Call Op S R)}
    (hi : ∀ c, call = some c → c.proc.Keeps I) : Kept I (s.setCall i call) := by
  refine ⟨h.good,fun j c hj => ?_⟩
  simp only [State.setCall,Function.update_apply] at hj
  split at hj
  · exact hi c hj
  · exact h.calls j c hj

theorem Covered.setCall (h : v.Covered J I s) {i : ι} {call : Option (Call Op S R)}
    (hi : J i → ∀ c, call = some c → v.CallOk I s c) : v.Covered J I (s.setCall i call) := by
  intro j c hj hc
  simp only [State.setCall,Function.update_apply] at hc
  split at hc
  · next he => exact hi (he ▸ hj) c hc
  · exact h j c hj hc

theorem running_begin (v : Service ι Op S R V F W E X) (s : State ι Op S R V F) (i : ι) (op : Op) :
    Running i op s.state (s.setCall i (some ⟨op,v.body op,0,false⟩)) := by
  intro call hc
  rw [State.calls_setCall] at hc
  cases hc
  exact ⟨rfl,fun _ => rfl⟩

variable [DecidableEq V]

theorem Ledger.advance (h : Ledger s) {i : ι} {op : Op} {proc : Proc S R} {last : ℕ}
    (hs : v.advance s i op last proc = some t) : Ledger t := by
  have still (call : Option (Call Op S R)) : Ledger (s.setCall i call) :=
    h.of_still rfl rfl (Nat.le_refl _) rfl rfl rfl
  cases proc with
  | ret result =>
    cases hs
    exact still _
  | act f next =>
    cases hs
    exact h.of_still rfl rfl (le_countChange s _) rfl rfl rfl
  | mark next =>
    cases hs
    exact h.mark.of_still rfl rfl (Nat.le_refl _) rfl rfl rfl
  | requiresSave | comparing =>
    cases hs
    exact still _
  | save next => cases hs
  | suspend next =>
    cases hs
    exact still _

theorem Ledger.step (h : Ledger s) {a : Action ι Op W E X} (hs : v.step s a = some t) : Ledger t := by
  cases a with
  | begin i op =>
    obtain ⟨-,-,rfl⟩ := step_begin hs
    exact h.of_still rfl rfl (Nat.le_refl _) rfl rfl rfl
  | advance i =>
    obtain ⟨op,proc,last,begun,-,hs⟩ := step_advance hs
    exact h.advance hs
  | saver i w =>
    obtain ⟨op,next,last,begun,u,-,hu,rfl | rfl⟩ := step_saver hs
    all_goals exact (h.saverStep hu).of_still rfl rfl (Nat.le_refl _) rfl rfl rfl
  | cancel i =>
    obtain ⟨rfl,-⟩ := step_cancel hs
    exact h.of_still rfl rfl (Nat.le_refl _) rfl rfl rfl
  | environment e =>
    cases hs
    exact h.of_still rfl rfl (Nat.le_refl _) rfl rfl rfl
  | restart x =>
    cases hs
    exact .start _ _

theorem Kept.advance (h : Kept I s) {i : ι} {op : Op} {proc : Proc S R} {last : ℕ}
    (hk : proc.Keeps I) (hs : v.advance s i op last proc = some t) : Kept I t := by
  have go {next : Proc S R} (hn : next.Keeps I) : Kept I (s.setCall i (some ⟨op,next,last,true⟩)) :=
    h.setCall fun c hc => by cases hc; exact hn
  cases proc with
  | ret result =>
    cases hs
    exact h.setCall fun c hc => by cases hc
  | act f next =>
    cases hs
    obtain ⟨hg,hn⟩ := hk s.state h.good
    have hu : Kept I { s with system :=
        { s.system with state := f s.state, mutations := v.countChange s (f s.state) } } := ⟨hg,h.calls⟩
    refine hu.setCall ?_
    rintro c ⟨rfl⟩
    exact hn.keeps
  | mark next =>
    cases hs
    exact ⟨h.good,(@go next hk).calls⟩
  | requiresSave next =>
    cases hs
    exact go hk
  | comparing epoch next =>
    cases hs
    exact go (hk _)
  | save next => cases hs
  | suspend next =>
    cases hs
    exact go hk.2

theorem Kept.step (hv : v.Sound I) (h : Kept I s) {a : Action ι Op W E X}
    (hs : v.step s a = some t) : Kept I t := by
  cases a with
  | begin i op =>
    obtain ⟨-,-,rfl⟩ := step_begin hs
    exact h.setCall fun c hc => by cases hc; exact hv.body op
  | advance i =>
    obtain ⟨op,proc,last,begun,hc,hs⟩ := step_advance hs
    exact h.advance (h.calls i _ hc) hs
  | saver i w =>
    obtain ⟨op,next,last,begun,u,hc,hu,hs⟩ := step_saver hs
    obtain ⟨hstate,hcalls,-,-⟩ := saverStep_same hu
    have hk : Kept I u := ⟨hstate ▸ h.good,hcalls ▸ h.calls⟩
    rcases hs with rfl | rfl
    · have ho : Kept I { u with owner := none } := ⟨hk.good,hk.calls⟩
      exact ho.setCall fun c hn => by cases hn; exact (h.calls i _ hc).2
    · exact ⟨hk.good,hk.calls⟩
  | cancel i =>
    obtain ⟨rfl,-⟩ := step_cancel hs
    exact h.setCall fun c hc => by cases hc
  | environment e =>
    cases hs
    exact ⟨hv.environment e _ h.good,h.calls⟩
  | restart x =>
    cases hs
    exact .start (hv.restart x _ _ h.good) _

theorem advance_others {i j : ι} (hj : j ≠ i) {op : Op} {proc : Proc S R} {last : ℕ}
    (hs : v.advance s i op last proc = some t) : t.calls j = s.calls j := by
  cases proc with
  | save next => cases hs
  | ret | act | mark | requiresSave | comparing | suspend =>
    cases hs
    exact State.calls_setCall_of_ne _ hj _

theorem advance_mono (hl : Ledger s) {i : ι} {op : Op} {proc : Proc S R} {last : ℕ}
    (hs : v.advance s i op last proc = some t) :
    s.system.mutations ≤ t.system.mutations ∧ s.marked ≤ t.marked := by
  cases proc with
  | ret | requiresSave | comparing | suspend =>
    cases hs
    exact ⟨Nat.le_refl _,Nat.le_refl _⟩
  | act f next =>
    cases hs
    exact ⟨le_countChange s _,Nat.le_refl _⟩
  | mark next =>
    cases hs
    exact ⟨Nat.le_refl _,hl.marked_le⟩
  | save next => cases hs

theorem CallOk.advance {i : ι} {op : Op} {proc : Proc S R} {last : ℕ} {begun : Bool}
    (h : v.CallOk I s ⟨op,proc,last,begun⟩) (hg : I s.state)
    (hb : (v.body op).CoversFrom I v.durable (ok op)) (hm : begun = false → ok op s.state)
    (hs : v.advance s i op last proc = some t) {call : Call Op S R} (hc : t.calls i = some call) :
    v.CallOk I t call := by
  have hlast : last ≤ s.system.mutations := h.1
  have fresh (hp : proc = v.body op) : proc.CoversFrom I v.durable (ok op) := hp ▸ hb
  cases proc with
  | ret result =>
    cases hs
    rw [State.calls_setCall] at hc
    cases hc
  | act f next =>
    cases hs
    rw [State.calls_setCall] at hc
    cases hc
    have hcovers : (next s.state).Covers I v.durable
        (s.marked < last ∨ v.durable (f s.state) ≠ v.durable s.state) := by
      rcases h.2 with ⟨hn,hp,h0⟩ | hc
      · have hn0 : last = 0 := h0
        exact (fresh hp s.state hg (hm hn)).mono fun hr => hr.resolve_left (by omega)
      · exact (hc s.state hg).2
    by_cases hd : v.durable (f s.state) = v.durable s.state
    · simp only [hd,if_true]
      exact ⟨Nat.le_trans hlast (le_countChange s _),.inr (hcovers.mono .inl)⟩
    · simp only [hd,if_false]
      exact ⟨Nat.le_refl _,.inr (hcovers.mono fun _ => .inr hd)⟩
  | mark next =>
    cases hs
    rw [State.calls_setCall] at hc
    cases hc
    have hcovers : next.Covers I v.durable False := h.covers fresh
    exact ⟨hlast,.inr (hcovers.mono fun hp => Nat.not_le_of_lt hp hlast)⟩
  | requiresSave next =>
    cases hs
    rw [State.calls_setCall] at hc
    cases hc
    exact ⟨hlast,.inr (h.covers fresh)⟩
  | comparing epoch next =>
    cases hs
    rw [State.calls_setCall] at hc
    cases hc
    exact ⟨hlast,.inr (h.covers fresh _)⟩
  | save next => cases hs
  | suspend next =>
    cases hs
    rw [State.calls_setCall] at hc
    cases hc
    obtain ⟨hp,hcovers⟩ := h.covers fresh
    exact ⟨hlast,.inr (hcovers.mono hp)⟩

theorem Covered.step (h : v.Covered J I s) (hl : Ledger s) (hk : Kept I s)
    (hb : ∀ op, (v.body op).CoversFrom I v.durable (ok op)) {a : Action ι Op W E X}
    (hm : Meets ok s a) (hs : v.step s a = some t) : v.Covered J I t := by
  cases a with
  | begin i op =>
    obtain ⟨-,-,rfl⟩ := step_begin hs
    refine h.setCall ?_
    rintro - c ⟨rfl⟩
    exact ⟨Nat.zero_le _,.inl ⟨rfl,rfl,rfl⟩⟩
  | advance i =>
    obtain ⟨op,proc,last,begun,hc,hs⟩ := step_advance hs
    obtain ⟨hn,hmarked⟩ := advance_mono hl hs
    intro j call hj hcall
    by_cases he : j = i
    · subst he
      exact (h j _ hj hc).advance hk.good (hb op) (fun hp => hm _ hc hp) hs hcall
    · rw [advance_others he hs] at hcall
      exact (h j call hj hcall).mono hn hmarked
  | saver i w =>
    obtain ⟨op,next,last,begun,u,hc,hu,hs⟩ := step_saver hs
    obtain ⟨-,hcalls,hmarked,hn⟩ := saverStep_same hu
    have hcovered : v.Covered J I u := fun j c hj hcall =>
      (h j c hj (hcalls ▸ hcall)).mono (Nat.le_of_eq hn.symm) (Nat.le_of_eq hmarked.symm)
    rcases hs with rfl | rfl
    · have ho : v.Covered J I { u with owner := none } := hcovered
      refine ho.setCall ?_
      rintro hj c ⟨rfl⟩
      have hcall := hcovered i _ hj (hcalls.symm ▸ hc)
      obtain ⟨hp,hcovers⟩ : ¬ u.marked < last ∧ next.Covers I v.durable False :=
        hcall.covers fun hp => by
          have hf := hb op
          rw [← hp] at hf
          exact hf
      exact ⟨hcall.1,.inr (hcovers.mono hp)⟩
    · exact hcovered
  | cancel i =>
    obtain ⟨rfl,-⟩ := step_cancel hs
    exact h.setCall fun _ c hc => by cases hc
  | environment e =>
    cases hs
    exact fun j c hj hc => (h j c hj hc).mono (Nat.le_refl _) (Nat.le_refl _)
  | restart x =>
    cases hs
    exact fun j c _ hc => by cases hc

/-- From `s`, the thread `i` runs the call and nothing else happens. -/
def RunsAlone (v : Service ι Op S R V F W E X) (i : ι) (op : Op) (s t : State ι Op S R V F) : Prop :=
  ∃ actions : List (Action ι Op W E X), (∀ a ∈ actions, a.Of i) ∧
    Transition.Run (fun s a t => v.step s a = some t) s (.begin i op :: actions) t

theorem RunsAlone.invariant {i : ι} {op : Op} (h : v.RunsAlone i op s t) {P : State ι Op S R V F → Prop}
    (hb : P (s.setCall i (some ⟨op,v.body op,0,false⟩)))
    (hs : ∀ u a w, a.Of i → P u → v.step u a = some w → P w) : P t := by
  obtain ⟨actions,hof,hr⟩ := h
  cases hr with
  | cons hbegin hr =>
    obtain ⟨-,-,rfl⟩ := step_begin hbegin
    exact hr.invariant_of_labels (fun u a w ha hu hw => hs u a w ha hu hw) hof hb

theorem RunsAlone.last_pos {i : ι} {op : Op} (h : v.RunsAlone i op s t) {call : Call Op S R}
    (hc : t.calls i = some call) (hd : v.durable t.state ≠ v.durable s.state) : 0 < call.last := by
  have hlast := h.invariant (P := fun u => ∀ call, u.calls i = some call → call.last = 0 →
    v.durable u.state = v.durable s.state) (fun _ _ _ => rfl) ?_
  · exact Nat.pos_of_ne_zero fun h0 => hd (hlast call hc h0)
  · intro u a w ha hu hs call hc h0
    cases a with
    | begin | cancel | environment | restart => cases ha
    | advance j =>
      cases ha
      obtain ⟨op,proc,last,begun,hcall,hs⟩ := step_advance hs
      cases proc with
      | ret result =>
        cases hs
        rw [State.calls_setCall] at hc
        cases hc
      | act f next =>
        cases hs
        rw [State.calls_setCall] at hc
        cases hc
        by_cases hf : v.durable (f u.state) = v.durable u.state
        · simp only [hf,if_true] at h0
          exact hf.trans (hu _ hcall h0)
        · simp only [hf,if_false,countChange] at h0
          omega
      | mark | requiresSave | comparing | suspend =>
        cases hs
        rw [State.calls_setCall] at hc
        cases hc
        exact hu _ hcall h0
      | save next => cases hs
    | saver j w =>
      cases ha
      obtain ⟨op,next,last,begun,r,hcall,hr,hs⟩ := step_saver hs
      obtain ⟨hstate,hcalls,-,-⟩ := saverStep_same hr
      rcases hs with rfl | rfl
      · rw [State.calls_setCall] at hc
        cases hc
        exact (congrArg v.durable hstate).trans (hu _ hcall h0)
      · exact (congrArg v.durable hstate).trans (hu call (hcalls ▸ hc) h0)

theorem run_still {i : ι} {actions : List (Action ι Op W E X)} (hof : ∀ a ∈ actions, a.Of i)
    (hr : Transition.Run (fun s a t => v.step s a = some t) s actions t) {op : Op} {proc : Proc S R}
    {last : ℕ} {begun : Bool} (hc : s.calls i = some ⟨op,proc,last,begun⟩)
    (hp : proc.Still v.durable) {call : Call Op S R}
    (ht : t.calls i = some call) : call.last = last ∧ t.tracker = s.tracker ∧ t.saved = s.saved ∧
      v.durable t.state = v.durable s.state := by
  have hstill := hr.invariant_of_labels (p := fun a => a.Of i) (I := fun u => ∀ call,
    u.calls i = some call → call.proc.Still v.durable ∧ call.last = last ∧ u.tracker = s.tracker ∧
      u.saved = s.saved ∧ v.durable u.state = v.durable s.state) ?_ hof ?_
  · exact (hstill call ht).2
  · intro u a w ha hu hs call hc
    cases a with
    | begin | cancel | environment | restart => cases ha
    | advance j =>
      cases ha
      obtain ⟨op,proc,last',begun,hcall,hs⟩ := step_advance hs
      obtain ⟨hproc,hkept⟩ := hu _ hcall
      cases proc with
      | ret result =>
        cases hs
        rw [State.calls_setCall] at hc
        cases hc
      | act f next =>
        obtain ⟨hf,hnext⟩ := hproc u.state
        cases hs
        rw [State.calls_setCall] at hc
        cases hc
        simp only [hf,if_true]
        exact ⟨hnext,hkept.1,hkept.2.1,hkept.2.2.1,hf.trans hkept.2.2.2⟩
      | mark | requiresSave | comparing | save | suspend => exact hproc.elim
    | saver j w =>
      cases ha
      obtain ⟨op,next,last',begun,r,hcall,-,-⟩ := step_saver hs
      exact (hu _ hcall).1.elim
  · intro call hcall
    rw [hc] at hcall
    cases hcall
    exact ⟨hp,rfl,rfl,rfl,rfl⟩

theorem run_kept (hv : v.Sound I) (hl : Ledger s) (hk : Kept I s) {actions : List (Action ι Op W E X)}
    (hr : Transition.Run (fun s a t => v.step s a = some t) s actions t) : Ledger t ∧ Kept I t :=
  hr.invariant (I := fun s => Ledger s ∧ Kept I s) (fun _ _ _ h hs => ⟨h.1.step hs,h.2.step hv hs⟩)
    ⟨hl,hk⟩

/-- Over a run whose calls all begin to act in states that are `ok`, every call
covers its changes. -/
theorem run_covered (hv : v.Sound I) (hb : ∀ op, (v.body op).CoversFrom I v.durable (ok op))
    (hl : Ledger s) (hk : Kept I s) (hc : v.Covered J I s) {actions : List (Action ι Op W E X)}
    (hr : Transition.Run (Transition.Meeting (Meets ok) fun s a t => v.step s a = some t) s actions t) :
    Ledger t ∧ Kept I t ∧ v.Covered J I t :=
  hr.invariant (I := fun s => Ledger s ∧ Kept I s ∧ v.Covered J I s)
    (fun _ _ _ h hs => ⟨h.1.step hs.2,h.2.1.step hv hs.2,h.2.2.step h.1 h.2.1 hb hs.1 hs.2⟩)
    ⟨hl,hk,hc⟩

theorem Running.step {i : ι} {op : Op} {state : S} (h : Running i op state s)
    {a : Action ι Op W E X} (ha : a.Of i) (hs : v.step s a = some t) : Running i op state t := by
  intro call hc
  cases a with
  | begin | cancel | environment | restart => cases ha
  | advance j =>
    cases ha
    obtain ⟨op',proc,last,begun,hcall,hs⟩ := step_advance hs
    have hop := (h _ hcall).1
    cases proc with
    | save next => cases hs
    | ret result =>
      cases hs
      rw [State.calls_setCall] at hc
      cases hc
    | act | mark | requiresSave | comparing | suspend =>
      cases hs
      rw [State.calls_setCall] at hc
      cases hc
      exact ⟨hop,fun hn => by cases hn⟩
  | saver j w =>
    cases ha
    obtain ⟨op',next,last,begun,u,hcall,hu,hs⟩ := step_saver hs
    obtain ⟨hstate,hcalls,-,-⟩ := saverStep_same hu
    rcases hs with rfl | rfl
    · rw [State.calls_setCall] at hc
      cases hc
      exact ⟨(h _ hcall).1,fun hn => by cases hn⟩
    · exact ⟨(h call (hcalls ▸ hc)).1,fun hn => hstate.trans ((h call (hcalls ▸ hc)).2 hn)⟩

theorem RunsAlone.op_eq {i : ι} {op : Op} (h : v.RunsAlone i op s t) {call : Call Op S R}
    (hc : t.calls i = some call) : call.op = op := by
  have hend := h.invariant (running_begin v s i op) fun _ _ _ ha hu hs => hu.step ha hs
  exact (hend call hc).1

/-- A call that ran alone and returned did what its procedure performs. -/
theorem RunsAlone.performs {i : ι} {op op' : Op} {result : R} {last : ℕ} {begun : Bool}
    (h : v.RunsAlone i op s t) (hc : t.calls i = some ⟨op',.ret result,last,begun⟩) :
    (v.body op).Performs s.state result t.state := by
  have hrest := h.invariant (P := fun u => ∀ call, u.calls i = some call → ∀ r state,
    call.proc.Performs u.state r state → (v.body op).Performs s.state r state) ?_ ?_
  · exact hrest _ hc result t.state (.ret _ _)
  · intro call hcall r state hr
    rw [State.calls_setCall] at hcall
    cases hcall
    exact hr
  · intro u a w ha hu hs call hcall r state hr
    cases a with
    | begin | cancel | environment | restart => cases ha
    | advance j =>
      cases ha
      obtain ⟨op,proc,last,begun,hold,hs⟩ := step_advance hs
      have hgo := hu _ hold r state
      cases proc with
      | save next => cases hs
      | ret result =>
        cases hs
        rw [State.calls_setCall] at hcall
        cases hcall
      | act | mark | suspend =>
        cases hs
        rw [State.calls_setCall] at hcall
        cases hcall
        exact hgo (by constructor; exact hr)
      | requiresSave next =>
        cases hs
        rw [State.calls_setCall] at hcall
        cases hcall
        cases hr with
        | comparing due hr => exact hgo (.requiresSave due hr)
      | comparing epoch next =>
        cases hs
        rw [State.calls_setCall] at hcall
        cases hcall
        exact hgo (.comparing _ hr)
    | saver j w =>
      cases ha
      obtain ⟨op,next,last,begun,x,hold,hx,hs⟩ := step_saver hs
      obtain ⟨hstate,hcalls,-,-⟩ := saverStep_same hx
      rcases hs with rfl | rfl
      · rw [State.calls_setCall] at hcall
        cases hcall
        have hr : next.Performs u.state r state := by rw [← hstate]; exact hr
        exact hu _ hold r state (.save hr)
      · have hr : call.proc.Performs u.state r state := by rw [← hstate]; exact hr
        exact hu call (hcalls ▸ hcall) r state hr

theorem RunsAlone.meeting {i : ι} {op : Op} (h : v.RunsAlone i op s t)
    (cond : State ι Op S R V F → Action ι Op W E X → Prop) (hb : cond s (.begin i op))
    (hc : ∀ u a, a.Of i → Running i op s.state u → cond u a) :
    ∃ actions, Transition.Run (Transition.Meeting cond fun s a t => v.step s a = some t) s actions t := by
  obtain ⟨actions,hof,hr⟩ := h
  cases hr with
  | cons hbegin hr =>
    refine ⟨.begin i op :: actions,.cons ⟨hb,hbegin⟩ (hr.meeting (p := fun a => a.Of i)
      (I := Running i op s.state) (fun u a w ha hu hs => ⟨hc u a ha hu,hu.step ha hs⟩) hof ?_)⟩
    obtain ⟨-,-,rfl⟩ := step_begin hbegin
    exact running_begin v s i op

/-- A call that runs alone from a state that is `ok` for it secures its changes. -/
theorem RunsAlone.secured (hv : v.Sound I) (hb : ∀ op, (v.body op).CoversFrom I v.durable (ok op))
    (hl : Ledger s) (hk : Kept I s) {i : ι} {op : Op} (h : v.RunsAlone i op s t) (hok : ok op s.state)
    {call : Call Op S R} (hc : t.calls i = some call) (hleaves : call.proc.leaves = true) :
    t.Secured call.last := by
  have hidle : s.calls i = none := by
    obtain ⟨actions,-,hr⟩ := h
    cases hr with
    | cons hbegin => exact (step_begin hbegin).2.1
  obtain ⟨actions,hr⟩ := h.meeting (Meets ok) trivial fun _ _ ha hu => hu.meets ha hok
  obtain ⟨hl,-,hcovered⟩ := run_covered (J := fun j => j = i) hv hb hl hk
    (fun j c hj hcall => by rw [hj,hidle] at hcall; cases hcall) hr
  exact hcovered.secured hl hb rfl hc hleaves

/-- A call whose first action is its only durable change and that neither marks nor
saves afterwards. -/
theorem RunsAlone.unmarked {i : ι} {op : Op} (h : v.RunsAlone i op s t) {f : S → S} {next : S → Proc S R}
    (hb : v.body op = .act f next) (hd : v.durable (f s.state) ≠ v.durable s.state)
    (hn : (next s.state).Still v.durable) {call : Call Op S R} (hc : t.calls i = some call)
    (hleaves : call.proc.leaves = true) : call.last = s.system.mutations + 1 ∧ t.tracker = s.tracker ∧
      t.saved = s.saved ∧ v.durable t.state = v.durable (f s.state) := by
  obtain ⟨actions,hof,hr⟩ := h
  cases hr with
  | cons hbegin hr =>
  obtain ⟨-,-,rfl⟩ := step_begin hbegin
  rw [hb] at hr
  cases hr with
  | nil =>
    rw [State.calls_setCall] at hc
    cases hc
    cases hleaves
  | @cons _ a u rest _ hs hr =>
    have ha := hof a List.mem_cons_self
    have hrest (b) (hm : b ∈ rest) : b.Of i := hof b (List.mem_cons_of_mem _ hm)
    cases a with
    | begin | cancel | environment | restart => cases ha
    | advance j =>
      cases ha
      obtain ⟨op',proc,last,begun,hcall,hs⟩ := step_advance hs
      rw [State.calls_setCall] at hcall
      cases hcall
      cases hs
      obtain ⟨hlast,htracker,hsaved,hdurable⟩ := run_still hrest hr (State.calls_setCall _ _ _) hn hc
      exact ⟨hlast.trans ((if_neg hd).trans (if_neg hd)),htracker,hsaved,hdurable⟩
    | saver j w =>
      cases ha
      obtain ⟨op',next',last,begun,u',hcall,-,-⟩ := step_saver hs
      rw [State.calls_setCall] at hcall
      cases hcall

end Service
