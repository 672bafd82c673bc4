import MindChat.Transition
import Mathlib.Tactic.Common

/-! The local screen lock: its state machine, and its runs with the prompts that
are open behind it and report back at any time. -/

namespace MindChat

inductive AppLockStatus
  | unlocked | locked | authenticating
  deriving DecidableEq

structure AppLockUiState where
  isEnabled : Bool
  status : AppLockStatus
  automaticPromptNonce : Int64
  deriving DecidableEq

namespace AppLockUiState

def default : AppLockUiState := ⟨false,.unlocked,0⟩

def blocksContent (s : AppLockUiState) : Bool := s.isEnabled && decide (s.status ≠ .unlocked)

def canRequestAuthentication (s : AppLockUiState) : Bool := s.isEnabled && decide (s.status = .locked)

/-- The nonce is a `Long`, so it wraps. -/
def lockWithAutomaticPrompt (s : AppLockUiState) : AppLockUiState :=
  ⟨true,.locked,s.automaticPromptNonce + 1⟩

def setEnabled (enabled : Bool) (s : AppLockUiState) : AppLockUiState :=
  if enabled = false then ⟨false,.unlocked,s.automaticPromptNonce⟩
  else if s.isEnabled = false then s.lockWithAutomaticPrompt
  else s

def onAppBackgrounded (s : AppLockUiState) : AppLockUiState :=
  if s.isEnabled = true ∧ s.status ≠ .authenticating then s.lockWithAutomaticPrompt else s

def beginAuthentication (s : AppLockUiState) : Bool × AppLockUiState :=
  if s.canRequestAuthentication = false then (false,s)
  else (true,{ s with status := .authenticating })

def onAuthenticationSucceeded (s : AppLockUiState) : AppLockUiState :=
  if s.isEnabled = true ∧ s.status = .authenticating then { s with status := .unlocked } else s

def onAuthenticationCancelled (s : AppLockUiState) : AppLockUiState :=
  if s.isEnabled = true ∧ s.status = .authenticating then { s with status := .locked } else s

end AppLockUiState

/-- A call of the machine; a callback names the attempt whose prompt it comes from. -/
inductive AppLockEvent
  | setEnabled (enabled : Bool)
  | onAppBackgrounded
  | beginAuthentication
  | onAuthenticationSucceeded (attempt : ℕ)
  | onAuthenticationCancelled (attempt : ℕ)
  deriving DecidableEq

/-- The machine with the history that it does not keep: how many attempts have
begun, the last of them since the last locking, and which have reported what. -/
structure AppLockHistory where
  machine : AppLockUiState
  attempts : ℕ
  current : Option ℕ
  succeeded : List ℕ
  cancelled : List ℕ
  deriving DecidableEq

namespace AppLockHistory

def start : AppLockHistory := ⟨.default,0,none,[],[]⟩

def locks (h : AppLockHistory) : AppLockEvent → Bool
  | .setEnabled enabled => enabled && !h.machine.isEnabled
  | .onAppBackgrounded => h.machine.isEnabled && decide (h.machine.status ≠ .authenticating)
  | _ => false

/-- A callback comes from an attempt that has begun. -/
def step (h : AppLockHistory) (event : AppLockEvent) : Option AppLockHistory :=
  let current := if h.locks event then none else h.current
  match event with
  | .setEnabled enabled => some { h with machine := h.machine.setEnabled enabled, current := current }
  | .onAppBackgrounded => some { h with machine := h.machine.onAppBackgrounded, current := current }
  | .beginAuthentication =>
    if h.machine.beginAuthentication.1 then
      some { h with machine := h.machine.beginAuthentication.2, attempts := h.attempts + 1,
                    current := some h.attempts }
    else some { h with machine := h.machine.beginAuthentication.2 }
  | .onAuthenticationSucceeded attempt =>
    if attempt < h.attempts then
      some { h with machine := h.machine.onAuthenticationSucceeded,
                    succeeded := attempt :: h.succeeded }
    else none
  | .onAuthenticationCancelled attempt =>
    if attempt < h.attempts then
      some { h with machine := h.machine.onAuthenticationCancelled,
                    cancelled := attempt :: h.cancelled }
    else none

/-- While enabled the machine shows content only behind a success of the current attempt. -/
def Guarded (h : AppLockHistory) : Prop :=
  h.machine.isEnabled = true → h.machine.blocksContent = false →
    ∃ attempt, h.current = some attempt ∧ attempt ∈ h.succeeded

/-- What a call leaves: the machine guarded, unlocked by a success of the current
attempt only and not of one that was cancelled, and the nonce not smaller. -/
structure KeepsGate (h : AppLockHistory) (event : AppLockEvent) (h' : AppLockHistory) : Prop where
  guarded : h'.Guarded
  unlocked : ∀ attempt, event = .onAuthenticationSucceeded attempt →
    h.machine.blocksContent = true → h'.machine.blocksContent = false →
      h.current = some attempt ∧ attempt ∉ h.cancelled
  nonce : h.machine.automaticPromptNonce ≤ h'.machine.automaticPromptNonce

/-- A success that arrives while a prompt is open comes from that prompt, and the
nonce has a successor. -/
structure Timely (h : AppLockHistory) (event : AppLockEvent) : Prop where
  success : ∀ attempt, event = .onAuthenticationSucceeded attempt → h.machine.isEnabled = true →
    h.machine.status = .authenticating → h.current = some attempt
  nonce : h.locks event = true → h.machine.automaticPromptNonce ≠ Int64.maxValue

/-- Callbacks come from attempts that have begun, and the attempt whose prompt is
open has not reported yet. -/
structure PromptOpen (h : AppLockHistory) : Prop where
  begun : ∀ attempt, attempt ∈ h.succeeded ∨ attempt ∈ h.cancelled → attempt < h.attempts
  pending : h.machine.isEnabled = true → h.machine.status = .authenticating →
    ∃ attempt, h.current = some attempt ∧ attempt ∉ h.succeeded ∧ attempt ∉ h.cancelled

def Step (h : AppLockHistory) (event : AppLockEvent) (h' : AppLockHistory) : Prop :=
  h.step event = some h'

theorem promptOpen_start : start.PromptOpen := ⟨by simp [start],nofun⟩

theorem guarded_start : start.Guarded := nofun

theorem nonce_lt {n : Int64} (h : n ≠ Int64.maxValue) : n ≤ n + 1 := by
  have hmax : n.toInt ≠ 2^63 - 1 := fun hn => h (Int64.toInt_inj.mp hn)
  have hlo := Int64.le_toInt n
  have hhi := Int64.toInt_lt n
  rw [Int64.le_iff_toInt_le,Int64.toInt_add,Int64.toInt_one,Int.bmod_eq_of_le] <;> omega

variable {h h' : AppLockHistory} {event : AppLockEvent}

theorem setting_cases {machine : AppLockUiState}
    (he : (∃ enabled, event = .setEnabled enabled ∧ machine = h.machine.setEnabled enabled) ∨
      event = .onAppBackgrounded ∧ machine = h.machine.onAppBackgrounded) :
    (h.locks event = true ∧ machine = h.machine.lockWithAutomaticPrompt) ∨
    (h.locks event = false ∧ event = .setEnabled false ∧
      machine = ⟨false,.unlocked,h.machine.automaticPromptNonce⟩) ∨
    (h.locks event = false ∧ machine = h.machine) := by
  rcases he with ⟨enabled,rfl,rfl⟩ | ⟨rfl,rfl⟩
  · cases enabled with
    | false => exact .inr (.inl ⟨by simp [locks],rfl,rfl⟩)
    | true =>
      cases hm : h.machine.isEnabled with
      | false => exact .inl ⟨by simp [locks,hm],by simp [AppLockUiState.setEnabled,hm]⟩
      | true => exact .inr (.inr ⟨by simp [locks,hm],by simp [AppLockUiState.setEnabled,hm]⟩)
  · by_cases hm : h.machine.isEnabled = true ∧ h.machine.status ≠ .authenticating
    · exact .inl ⟨by simp [locks,hm],by rw [AppLockUiState.onAppBackgrounded,if_pos hm]⟩
    · refine .inr (.inr ⟨?_,by rw [AppLockUiState.onAppBackgrounded,if_neg hm]⟩)
      rw [Bool.eq_false_iff]
      simpa [locks] using hm

/-- What one call can do: lock, disable, leave everything, open a prompt for a new
attempt, or deliver the report of an attempt. -/
theorem step_cases (hs : Step h event h') :
    (h.locks event = true ∧ h' = { h with machine := h.machine.lockWithAutomaticPrompt, current := none }) ∨
    (h.locks event = false ∧ event = .setEnabled false ∧
      h' = { h with machine := ⟨false,.unlocked,h.machine.automaticPromptNonce⟩ }) ∨
    (h.locks event = false ∧ h' = h) ∨
    (h.locks event = false ∧ event = .beginAuthentication ∧ h.machine.isEnabled = true ∧
      h' = { h with machine := { h.machine with status := .authenticating },
                    attempts := h.attempts + 1, current := some h.attempts }) ∨
    (∃ attempt, event = .onAuthenticationSucceeded attempt ∧ attempt < h.attempts ∧
      h' = { h with machine := h.machine.onAuthenticationSucceeded,
                    succeeded := attempt :: h.succeeded }) ∨
    ∃ attempt, event = .onAuthenticationCancelled attempt ∧ attempt < h.attempts ∧
      h' = { h with machine := h.machine.onAuthenticationCancelled,
                    cancelled := attempt :: h.cancelled } := by
  unfold Step step at hs
  cases event with
  | setEnabled enabled =>
    obtain rfl := Option.some.inj hs
    rcases setting_cases (h := h) (.inl ⟨enabled,rfl,rfl⟩) with ⟨hl,hm⟩ | ⟨hl,he,hm⟩ | ⟨hl,hm⟩
    · exact .inl ⟨hl,by simp only [hm,hl,if_true]⟩
    · exact .inr (.inl ⟨hl,he,by simp [hm,hl]⟩)
    · exact .inr (.inr (.inl ⟨hl,by simp [hm,hl]⟩))
  | onAppBackgrounded =>
    obtain rfl := Option.some.inj hs
    rcases setting_cases (h := h) (.inr ⟨rfl,rfl⟩) with ⟨hl,hm⟩ | ⟨hl,he,hm⟩ | ⟨hl,hm⟩
    · exact .inl ⟨hl,by simp only [hm,hl,if_true]⟩
    · exact .inr (.inl ⟨hl,he,by simp [hm,hl]⟩)
    · exact .inr (.inr (.inl ⟨hl,by simp [hm,hl]⟩))
  | beginAuthentication =>
    cases hc : h.machine.canRequestAuthentication with
    | false =>
      simp only [AppLockUiState.beginAuthentication,hc,if_true,Bool.false_eq_true,if_false,
        Option.some.injEq] at hs
      exact .inr (.inr (.inl ⟨rfl,hs.symm⟩))
    | true =>
      simp only [AppLockUiState.beginAuthentication,hc,Bool.true_eq_false,if_true,if_false,
        Option.some.injEq] at hs
      exact .inr (.inr (.inr (.inl ⟨rfl,rfl,(Bool.and_eq_true_iff.mp hc).1,hs.symm⟩)))
  | onAuthenticationSucceeded attempt =>
    simp only [Option.ite_none_right_eq_some,Option.some.injEq] at hs
    exact .inr (.inr (.inr (.inr (.inl ⟨attempt,rfl,hs.1,hs.2.symm⟩))))
  | onAuthenticationCancelled attempt =>
    simp only [Option.ite_none_right_eq_some,Option.some.injEq] at hs
    exact .inr (.inr (.inr (.inr (.inr ⟨attempt,rfl,hs.1,hs.2.symm⟩))))

theorem PromptOpen.step (hi : h.PromptOpen) (hs : Step h event h') : h'.PromptOpen := by
  rcases step_cases hs with ⟨-,rfl⟩ | ⟨-,-,rfl⟩ | ⟨-,rfl⟩ | ⟨-,rfl,-,rfl⟩ |
    ⟨attempt,rfl,hn,rfl⟩ | ⟨attempt,rfl,hn,rfl⟩
  · exact ⟨hi.begun,nofun⟩
  · exact ⟨hi.begun,nofun⟩
  · exact hi
  · refine ⟨fun n hn => Nat.lt_succ_of_lt (hi.begun n hn),fun _ _ => ⟨h.attempts,rfl,?_,?_⟩⟩
    · exact fun hn => Nat.lt_irrefl _ (hi.begun _ (.inl hn))
    · exact fun hn => Nat.lt_irrefl _ (hi.begun _ (.inr hn))
  · refine ⟨?_,fun he ha => ?_⟩
    · rintro n (hm | hm)
      · rcases List.mem_cons.mp hm with rfl | hm
        · exact hn
        · exact hi.begun n (.inl hm)
      · exact hi.begun n (.inr hm)
    · simp only [AppLockUiState.onAuthenticationSucceeded] at he ha
      split at ha
      · cases ha
      · simp_all
  · refine ⟨?_,fun he ha => ?_⟩
    · rintro n (hm | hm)
      · exact hi.begun n (.inl hm)
      · rcases List.mem_cons.mp hm with rfl | hm
        · exact hn
        · exact hi.begun n (.inr hm)
    · simp only [AppLockUiState.onAuthenticationCancelled] at he ha
      split at ha
      · cases ha
      · simp_all

theorem KeepsGate.of_timely (hi : h.PromptOpen) (hg : h.Guarded) (ht : h.Timely event)
    (hs : Step h event h') : h.KeepsGate event h' := by
  rcases step_cases hs with ⟨hl,rfl⟩ | ⟨-,rfl,rfl⟩ | ⟨-,rfl⟩ | ⟨-,rfl,he,rfl⟩ |
    ⟨attempt,rfl,-,rfl⟩ | ⟨attempt,rfl,-,rfl⟩
  · exact ⟨nofun,fun _ _ _ hu => Bool.noConfusion hu,nonce_lt (ht.nonce hl)⟩
  · exact ⟨nofun,nofun,Int64.le_refl _⟩
  · exact ⟨hg,fun _ _ hb hu => absurd hb (by simp [hu]),Int64.le_refl _⟩
  · exact ⟨fun _ hu => absurd hu (by simp [AppLockUiState.blocksContent,he]),nofun,Int64.le_refl _⟩
  · by_cases hopen : h.machine.isEnabled = true ∧ h.machine.status = .authenticating
    · have hc : h.current = some attempt := ht.success attempt rfl hopen.1 hopen.2
      obtain ⟨pending,hp,-,hcancelled⟩ := hi.pending hopen.1 hopen.2
      rw [hc,Option.some.injEq] at hp
      subst hp
      refine ⟨fun _ _ => ⟨attempt,hc,List.mem_cons_self⟩,fun other hother _ _ => ?_,?_⟩
      · cases hother
        exact ⟨hc,hcancelled⟩
      · rw [AppLockUiState.onAuthenticationSucceeded,if_pos hopen]
        exact Int64.le_refl _
    · have hsame : h.machine.onAuthenticationSucceeded = h.machine := if_neg hopen
      rw [hsame]
      refine ⟨fun he hu => ?_,fun _ _ hb hu => absurd hb (by simp [hu]),Int64.le_refl _⟩
      obtain ⟨current,hc,hm⟩ := hg he hu
      exact ⟨current,hc,List.mem_cons_of_mem _ hm⟩
  · by_cases hopen : h.machine.isEnabled = true ∧ h.machine.status = .authenticating
    · have hlocked : h.machine.onAuthenticationCancelled = { h.machine with status := .locked } :=
        if_pos hopen
      rw [hlocked]
      exact ⟨fun _ hu => absurd hu (by simp [AppLockUiState.blocksContent,hopen.1]),nofun,
        Int64.le_refl _⟩
    · have hsame : h.machine.onAuthenticationCancelled = h.machine := if_neg hopen
      rw [hsame]
      exact ⟨hg,nofun,Int64.le_refl _⟩

theorem KeepsGate.timely (hk : h.KeepsGate event h') (hs : Step h event h') : h.Timely event := by
  refine ⟨?_,?_⟩
  · rintro attempt rfl he ha
    refine (hk.unlocked attempt rfl (by simp [AppLockUiState.blocksContent,he,ha]) ?_).1
    simp only [Step,step,Option.ite_none_right_eq_some,Option.some.injEq] at hs
    obtain ⟨-,rfl⟩ := hs
    simp [AppLockUiState.blocksContent,AppLockUiState.onAuthenticationSucceeded,he,ha]
  · intro hl hmax
    rcases step_cases hs with ⟨-,rfl⟩ | ⟨hn,-⟩ | ⟨hn,-⟩ | ⟨hn,-⟩ | ⟨_,rfl,-⟩ | ⟨_,rfl,-⟩
    · have hle := hk.nonce
      have hwraps : ¬ Int64.maxValue ≤ Int64.maxValue + 1 := by decide
      rw [AppLockUiState.lockWithAutomaticPrompt,hmax] at hle
      exact hwraps hle
    · simp [hl] at hn
    · simp [hl] at hn
    · simp [hl] at hn
    · cases hl
    · cases hl

def SafeStep (h : AppLockHistory) (event : AppLockEvent) (h' : AppLockHistory) : Prop :=
  Step h event h' ∧ h.KeepsGate event h'

/-- From the start, the runs whose calls all keep the gate shut are the runs whose
calls are all timely. -/
theorem app_lock_gate_iff (events : List AppLockEvent) (h : AppLockHistory) :
    Transition.Run SafeStep start events h ↔
      Transition.Run (Transition.Meeting Timely Step) start events h :=
  Transition.Run.leaving_iff_meeting (I := fun h => h.PromptOpen ∧ h.Guarded)
    (fun _ _ _ hi hs => ⟨fun hk => hk.timely hs,fun ht => .of_timely hi.1 hi.2 ht hs⟩)
    (fun _ _ _ hi hs hk => ⟨hi.1.step hs,hk.guarded⟩) ⟨promptOpen_start,guarded_start⟩

/-- The lock is enabled, disabled while its prompt is open, and enabled again; then
the success of the first prompt arrives behind the second. -/
def disabledAndEnabled : List AppLockEvent :=
  [.setEnabled true,.beginAuthentication,.setEnabled false,.setEnabled true,.beginAuthentication,
    .onAuthenticationSucceeded 0]

/-- The late success of the first attempt shows the content while the second is current. -/
theorem stale_success_unlocks :
    ∃ h, Transition.Run Step start disabledAndEnabled h ∧ h.machine.isEnabled = true ∧
      h.machine.blocksContent = false ∧ h.current = some 1 ∧ h.succeeded = [0] := by
  refine ⟨⟨⟨true,.unlocked,2⟩,2,some 1,[0],[]⟩,?_,rfl,rfl,rfl,rfl⟩
  exact Transition.run_iff_exec.mpr (by decide)

end AppLockHistory

end MindChat
