import Mathlib.Data.List.Basic

/-! Finite runs of labelled transition systems, the induction rules for their
invariants and preserved orders, and execution of deterministic systems. -/

namespace Transition

variable {S L : Type}

/-- A finite run with the list of its labels. -/
inductive Run (step : S → L → S → Prop) : S → List L → S → Prop
  | nil (s) : Run step s [] s
  | cons {s l t ls u} : step s l t → Run step t ls u → Run step s (l :: ls) u

/-- Restrict a step relation to the steps that meet a condition on the state
before the step and on its label. -/
def Meeting (cond : S → L → Prop) (step : S → L → S → Prop) (s : S) (l : L) (t : S) : Prop :=
  cond s l ∧ step s l t

namespace Run

variable {step : S → L → S → Prop}

theorem single {s t : S} {l : L} (h : step s l t) : Run step s [l] t := cons h (nil t)

theorem append {s t u : S} {ls ms : List L} (h : Run step s ls t) (k : Run step t ms u) :
    Run step s (ls ++ ms) u := by
  induction h with
  | nil => exact k
  | cons hs _ ih => exact cons hs (ih k)

theorem split {s u : S} {ls ms : List L} (h : Run step s (ls ++ ms) u) :
    ∃ t, Run step s ls t ∧ Run step t ms u := by
  induction ls generalizing s with
  | nil => exact ⟨s,nil s,h⟩
  | cons l ls ih =>
    cases h with
    | cons hs ht =>
      obtain ⟨t,h₁,h₂⟩ := ih ht
      exact ⟨t,cons hs h₁,h₂⟩

theorem cases_last {s t : S} {ls : List L} (h : Run step s ls t) :
    (ls = [] ∧ t = s) ∨ ∃ ms l u, ls = ms ++ [l] ∧ Run step s ms u ∧ step u l t := by
  induction h with
  | nil s => exact .inl ⟨rfl,rfl⟩
  | @cons s l t ls u hs ht ih =>
    rcases ih with ⟨rfl,rfl⟩ | ⟨ms,l',v,rfl,hr,hl⟩
    · exact .inr ⟨[],l,s,rfl,nil s,hs⟩
    · exact .inr ⟨l :: ms,l',v,rfl,cons hs hr,hl⟩

/-- A state predicate kept by every step holds at the end of every run. -/
theorem invariant {I : S → Prop} (hs : ∀ s l t, I s → step s l t → I t)
    {s t : S} {ls : List L} (h : Run step s ls t) (hi : I s) : I t := by
  induction h with
  | nil => exact hi
  | cons hst _ ih => exact ih (hs _ _ _ hi hst)

theorem invariant_of_labels {I : S → Prop} {p : L → Prop}
    (hs : ∀ s l t, p l → I s → step s l t → I t) {s t : S} {ls : List L}
    (h : Run step s ls t) (hp : ∀ l ∈ ls, p l) (hi : I s) : I t := by
  induction h with
  | nil => exact hi
  | cons hst _ ih =>
    exact ih (fun l hl => hp l (List.mem_cons_of_mem _ hl)) (hs _ _ _ (hp _ List.mem_cons_self) hi hst)

theorem preorder {I : S → Prop} {R : S → S → Prop} (hr : ∀ s, R s s)
    (ht : ∀ s t u, R s t → R t u → R s u) (hi : ∀ s l t, I s → step s l t → I t)
    (hs : ∀ s l t, I s → step s l t → R s t)
    {s t : S} {ls : List L} (h : Run step s ls t) (h₀ : I s) : R s t := by
  induction h with
  | nil => exact hr _
  | cons hst _ ih => exact ht _ _ _ (hs _ _ _ h₀ hst) (ih (hi _ _ _ h₀ hst))

theorem mono {step' : S → L → S → Prop} (hs : ∀ s l t, step s l t → step' s l t)
    {s t : S} {ls : List L} (h : Run step s ls t) : Run step' s ls t := by
  induction h with
  | nil => exact nil _
  | cons hst _ ih => exact cons (hs _ _ _ hst) ih

theorem meeting {cond : S → L → Prop} {I : S → Prop} {p : L → Prop}
    (hs : ∀ s l t, p l → I s → step s l t → cond s l ∧ I t) {s t : S} {ls : List L}
    (h : Run step s ls t) (hp : ∀ l ∈ ls, p l) (hi : I s) : Run (Meeting cond step) s ls t := by
  induction h with
  | nil => exact nil _
  | cons hst _ ih =>
    obtain ⟨hc,ht⟩ := hs _ _ _ (hp _ List.mem_cons_self) hi hst
    exact cons ⟨hc,hst⟩ (ih (fun l hl => hp l (List.mem_cons_of_mem _ hl)) ht)

/-- Where an invariant makes a condition before each step tell what the step leaves, the
runs of steps that leave it are the runs of steps that meet the condition. -/
theorem leaving_iff_meeting {good : S → L → S → Prop} {cond : S → L → Prop} {I : S → Prop}
    (hiff : ∀ s l t, I s → step s l t → (good s l t ↔ cond s l))
    (hkeep : ∀ s l t, I s → step s l t → good s l t → I t) {s t : S} {ls : List L} (hi : I s) :
    Run (fun s l t => step s l t ∧ good s l t) s ls t ↔ Run (Meeting cond step) s ls t := by
  constructor
  · intro h
    induction h with
    | nil => exact nil _
    | cons hst _ ih => exact cons ⟨(hiff _ _ _ hi hst.1).mp hst.2,hst.1⟩ (ih (hkeep _ _ _ hi hst.1 hst.2))
  · intro h
    induction h with
    | nil => exact nil _
    | cons hst _ ih =>
      have hg := (hiff _ _ _ hi hst.2).mpr hst.1
      exact cons ⟨hst.2,hg⟩ (ih (hkeep _ _ _ hi hst.2 hg))

end Run

/-- Execute a deterministic partial step along a label list. -/
def exec (step : S → L → Option S) : S → List L → Option S
  | s, [] => some s
  | s, l :: ls => (step s l).bind (fun t => exec step t ls)

/-- Execution computes exactly the runs of the step's graph. -/
theorem run_iff_exec {step : S → L → Option S} {s t : S} {ls : List L} :
    Run (fun s l t => step s l = some t) s ls t ↔ exec step s ls = some t := by
  constructor
  · intro h
    induction h with
    | nil => rfl
    | cons hs _ ih => simp [exec,hs,ih]
  · intro h
    induction ls generalizing s with
    | nil =>
      cases h
      exact .nil _
    | cons l ls ih =>
      obtain ⟨u,hu,hr⟩ := Option.bind_eq_some_iff.mp h
      exact .cons hu (ih hr)

/-- A partial step that refuses what fails a decidable condition. -/
def guarded (cond : S → L → Prop) [∀ s l, Decidable (cond s l)] (step : S → L → Option S)
    (s : S) (l : L) : Option S :=
  if cond s l then step s l else none

theorem run_meeting_iff_exec {cond : S → L → Prop} [∀ s l, Decidable (cond s l)]
    {step : S → L → Option S} {s t : S} {ls : List L} :
    Run (Meeting cond (fun s l t => step s l = some t)) s ls t ↔
      exec (guarded cond step) s ls = some t := by
  have he : Meeting cond (fun s l t => step s l = some t) =
      fun s l t => guarded cond step s l = some t := by
    funext s l t
    simp [Meeting,guarded]
  rw [he,run_iff_exec]

end Transition
