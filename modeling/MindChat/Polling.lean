import Mathlib.Logic.Relation

/-! Computations of a task that is polled: every step may have to wait, may fail
and may panic, and what was done to the state before that stays done. -/

namespace Polling

inductive Poll (α : Type)
  | pending
  | ready (value : α)
  deriving DecidableEq

/-- How far one poll of a computation got. -/
inductive Progress (E α : Type)
  | panicked
  | pending
  | failed (error : E)
  | done (value : α)
  deriving DecidableEq

/-- A polled computation over the state of its task. -/
def PollM (S E α : Type) := S → Progress E α × S

namespace PollM

variable {S E α β : Type}

def pure (value : α) : PollM S E α := fun s => (.done value,s)

def bind (m : PollM S E α) (k : α → PollM S E β) : PollM S E β := fun s =>
  match m s with
  | (.panicked,t) => (.panicked,t)
  | (.pending,t) => (.pending,t)
  | (.failed error,t) => (.failed error,t)
  | (.done value,t) => k value t

instance : Monad (PollM S E) where
  pure := pure
  bind := bind

def panic : PollM S E α := fun s => (.panicked,s)

def pending : PollM S E α := fun s => (.pending,s)

def get : PollM S E S := fun s => (.done s,s)

def modify (f : S → S) : PollM S E Unit := fun s => (.done (),f s)

theorem bind_assoc {γ : Type} (m : PollM S E α) (f : α → PollM S E β) (g : β → PollM S E γ) :
    m >>= f >>= g = m >>= fun value => f value >>= g := by
  funext s
  show bind (bind m f) g s = bind m (fun value => bind (f value) g) s
  unfold bind
  generalize m s = r
  obtain ⟨progress,t⟩ := r
  cases progress <;> rfl

theorem bind_of_done {m : PollM S E α} {s t : S} {value : α} (h : m s = (.done value,t))
    (k : α → PollM S E β) : (m >>= k) s = k value t := by
  show bind m k s = _
  rw [bind,h]

theorem bind_of_panicked {m : PollM S E α} {s : S} (h : (m s).1 = .panicked) (k : α → PollM S E β) :
    ((m >>= k) s).1 = .panicked := by
  show (bind m k s).1 = _
  unfold bind
  generalize m s = r at h ⊢
  obtain ⟨progress,t⟩ := r
  obtain rfl : progress = .panicked := h
  rfl

/-- From a state with `P`, unless the computation panics, the state has moved along
`R` whatever comes out, and a value comes with `Q`. -/
def Moves (R : S → S → Prop) (P : S → Prop) (m : PollM S E α) (Q : α → S → Prop) : Prop :=
  ∀ s, P s → (m s).1 = .panicked ∨ R s (m s).2 ∧ ∀ value, (m s).1 = .done value → Q value (m s).2

section Moves

variable {R : S → S → Prop} {P P' : S → Prop} {m : PollM S E α} {Q Q' : α → S → Prop}

theorem moves_pure (hr : ∀ s, R s s) {value : α} (h : ∀ s, P s → Q value s) :
    Moves R P (Pure.pure value : PollM S E α) Q := by
  refine fun s hs => .inr ⟨hr s,fun v hv => ?_⟩
  cases hv
  exact h s hs

theorem moves_panic : Moves R P (panic : PollM S E α) Q := fun _ _ => .inl rfl

theorem moves_pending (hr : ∀ s, R s s) : Moves R P (pending : PollM S E α) Q :=
  fun s _ => .inr ⟨hr s,nofun⟩

theorem moves_modify {f : S → S} {Q : Unit → S → Prop} (hr : ∀ s, P s → R s (f s))
    (hq : ∀ s, P s → Q () (f s)) : Moves R P (modify f : PollM S E Unit) Q :=
  fun s hs => .inr ⟨hr s hs,fun _ _ => hq s hs⟩

theorem Moves.mono (h : Moves R P m Q) (hp : ∀ s, P' s → P s) (hq : ∀ v s, Q v s → Q' v s) :
    Moves R P' m Q' :=
  fun s hs => (h s (hp s hs)).imp_right fun ⟨hr,hv⟩ => ⟨hr,fun v e => hq v _ (hv v e)⟩

theorem Moves.bind (ht : ∀ {s t u}, R s t → R t u → R s u) {k : α → PollM S E β}
    {Q' : β → S → Prop} (hm : Moves R P m Q) (hk : ∀ value, Moves R (Q value) (k value) Q') :
    Moves R P (m >>= k) Q' := by
  intro s hp
  have hs := hm s hp
  show (PollM.bind m k s).1 = .panicked ∨
    R s (PollM.bind m k s).2 ∧ ∀ v, (PollM.bind m k s).1 = .done v → Q' v (PollM.bind m k s).2
  unfold PollM.bind
  generalize m s = r at hs
  obtain ⟨p,t⟩ := r
  cases p with
  | panicked => exact .inl rfl
  | pending => exact .inr ⟨(hs.resolve_left nofun).1,nofun⟩
  | failed error => exact .inr ⟨(hs.resolve_left nofun).1,nofun⟩
  | done value =>
    obtain ⟨hst,hv⟩ := hs.resolve_left nofun
    exact (hk value t (hv value rfl)).imp_right fun ⟨hr,hw⟩ => ⟨ht hst hr,hw⟩

theorem Moves.frame {I : S → Prop} (hi : ∀ {s t}, R s t → I s → I t) (h : Moves R P m Q) :
    Moves R (fun s => P s ∧ I s) m fun value s => Q value s ∧ I s :=
  fun s hs => (h s hs.1).imp_right fun ⟨hr,hv⟩ => ⟨hr,fun v e => ⟨hv v e,hi hr hs.2⟩⟩

/-- A look at the state: what follows starts in the state that it saw. -/
theorem moves_get_bind {k : S → PollM S E β} {Q' : β → S → Prop}
    (hk : ∀ s, P s → Moves R (fun t => t = s) (k s) Q') :
    Moves R P ((get : PollM S E S) >>= k) Q' := fun s hs => hk s hs s rfl

end Moves

end PollM

end Polling
