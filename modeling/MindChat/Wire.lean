import Mathlib.Data.List.Basic
import Mathlib.Tactic.Common

/-! Exchanges over one byte stream: a party writes messages and reads exact
numbers of bytes, every read and write can fail, and the record keeps both in
their order. An exchange is verified by two postconditions, one for its value
and one for its error, composed along its sequencing. -/

/-- What happened on the wire; a failing write leaves a prefix of its message. -/
inductive WireEvent (M : Type)
  | wrote (message : M) (bytes : List UInt8)
  | read (bytes : List UInt8)
  deriving DecidableEq

/-- The bytes the peer sends, the error past their end, and for each write to
come whether it fails, after how many bytes and with which error. -/
structure Wire (M : Type) where
  unread : List UInt8
  ending : String
  faults : List (Option (ℕ × String))
  log : List (WireEvent M)

namespace Wire

variable {M : Type}

def opened (unread : List UInt8) (ending : String) (faults : List (Option (ℕ × String))) : Wire M :=
  ⟨unread,ending,faults,[]⟩

def record (w : Wire M) (event : WireEvent M) : Wire M := { w with log := w.log ++ [event] }

/-- Every write in the log is justified by the events before it. -/
def Justified (why : M → List UInt8 → List (WireEvent M) → Prop) (log : List (WireEvent M)) : Prop :=
  ∀ before message bytes after, log = before ++ .wrote message bytes :: after →
    why message bytes before

namespace Justified

variable {why : M → List UInt8 → List (WireEvent M) → Prop} {log : List (WireEvent M)}

theorem nil : Justified why [] := by
  intro before message bytes after h
  simp at h

theorem snoc (h : Justified why log) {event : WireEvent M}
    (he : ∀ message bytes, event = .wrote message bytes → why message bytes log) :
    Justified why (log ++ [event]) := by
  intro before message bytes after hs
  rcases List.eq_nil_or_concat after with rfl | ⟨init,last,rfl⟩
  · obtain ⟨rfl,hw⟩ := List.append_inj' hs rfl
    exact he message bytes (List.singleton_inj.mp hw)
  · rw [List.concat_eq_append,← List.cons_append,← List.append_assoc] at hs
    exact h before message bytes init (List.append_inj' hs rfl).1

theorem read (h : Justified why log) (bytes : List UInt8) :
    Justified why (log ++ [.read bytes]) :=
  h.snoc (nofun)

theorem wrote (h : Justified why log) {message : M} {bytes : List UInt8}
    (hw : why message bytes log) : Justified why (log ++ [.wrote message bytes]) :=
  h.snoc (by intro _ _ he; cases he; exact hw)

theorem of_mem (h : Justified why log) {message : M} {bytes : List UInt8}
    (hm : .wrote message bytes ∈ log) : ∃ before, why message bytes before := by
  obtain ⟨before,after,hlog⟩ := List.append_of_mem hm
  exact ⟨before,h before message bytes after hlog⟩

end Justified

/-- On a wire whose peer sends `sent`, these justified events happened and these
bytes were taken. -/
structure At (why : M → List UInt8 → List (WireEvent M) → Prop) (sent : List UInt8)
    (log : List (WireEvent M)) (taken : List UInt8) (w : Wire M) : Prop where
  log_eq : w.log = log
  justified : Justified why log
  taken_eq : sent = taken ++ w.unread

theorem At.justified_log {why : M → List UInt8 → List (WireEvent M) → Prop}
    {sent taken : List UInt8} {log : List (WireEvent M)} {w : Wire M}
    (h : At why sent log taken w) : Justified why w.log :=
  h.log_eq ▸ h.justified

theorem at_opened {why : M → List UInt8 → List (WireEvent M) → Prop} {sent : List UInt8}
    {ending : String} {faults : List (Option (ℕ × String))} :
    At why sent [] [] (opened sent ending faults) :=
  ⟨rfl,.nil,rfl⟩

end Wire

/-- A computation on a wire that can fail. -/
structure Exchange (M E α : Type) where
  run : Wire M → Except E α × Wire M

namespace Exchange

variable {M E α β : Type}

def done (a : α) : Exchange M E α := ⟨fun w => (.ok a,w)⟩

def fail (e : E) : Exchange M E α := ⟨fun w => (.error e,w)⟩

def andThen (x : Exchange M E α) (f : α → Exchange M E β) : Exchange M E β where
  run w :=
    match x.run w with
    | (.ok a,w') => (f a).run w'
    | (.error e,w') => (.error e,w')

instance : Monad (Exchange M E) where
  pure := done
  bind := andThen

/-- A pure check of the party, which touches nothing on the wire. -/
def check (r : Except E α) : Exchange M E α := ⟨fun w => (r,w)⟩

def writeAll (io : String → E) (message : M) (bytes : List UInt8) : Exchange M E Unit where
  run w :=
    match w.faults with
    | some (sent,error) :: faults =>
      (.error (io error),{ w with faults := faults }.record (.wrote message (bytes.take sent)))
    | none :: faults => (.ok (),{ w with faults := faults }.record (.wrote message bytes))
    | [] => (.ok (),w.record (.wrote message bytes))

def readExact (io : String → E) (n : ℕ) : Exchange M E (List UInt8) where
  run w :=
    if n ≤ w.unread.length then
      (.ok (w.unread.take n),{ w with unread := w.unread.drop n }.record (.read (w.unread.take n)))
    else (.error (io w.ending),{ w with unread := [] }.record (.read w.unread))

theorem run_bind (x : Exchange M E α) (f : α → Exchange M E β) (w : Wire M) :
    (x >>= f).run w = match x.run w with
      | (.ok a,w') => (f a).run w'
      | (.error e,w') => (.error e,w') := rfl

theorem run_bind_ok {x : Exchange M E α} {f : α → Exchange M E β} {w w' : Wire M} {a : α}
    (h : x.run w = (.ok a,w')) : (x >>= f).run w = (f a).run w' := by
  rw [run_bind,h]

theorem readExact_append {io : String → E} {n : ℕ} {got : List UInt8} (hn : got.length = n)
    (rest : List UInt8) (ending : String) (faults : List (Option (ℕ × String)))
    (log : List (WireEvent M)) :
    (readExact io n).run ⟨got ++ rest,ending,faults,log⟩ =
      (.ok got,⟨rest,ending,faults,log ++ [.read got]⟩) := by
  subst hn
  have hle : got.length ≤ (got ++ rest).length := by
    rw [List.length_append]
    exact Nat.le_add_right _ _
  simp only [readExact]
  rw [if_pos hle,List.take_left,List.drop_left]
  rfl

/-- From every wire in `P` the exchange ends in `Q` with its value, or in `F`
with its error. -/
def Spec (P : Wire M → Prop) (x : Exchange M E α) (Q : α → Wire M → Prop)
    (F : E → Wire M → Prop) : Prop :=
  ∀ w, P w → (∀ a, (x.run w).1 = .ok a → Q a (x.run w).2) ∧
    (∀ e, (x.run w).1 = .error e → F e (x.run w).2)

namespace Spec

variable {P : Wire M → Prop} {Q : α → Wire M → Prop} {R : β → Wire M → Prop}
  {F : E → Wire M → Prop} {x : Exchange M E α} {f : α → Exchange M E β}

theorem weaken {P' : Wire M → Prop} {Q' : α → Wire M → Prop} {F' : E → Wire M → Prop}
    (h : Spec P x Q F) (hp : ∀ w, P' w → P w) (hq : ∀ a w, Q a w → Q' a w)
    (hf : ∀ e w, F e w → F' e w) : Spec P' x Q' F' := by
  intro w hw
  obtain ⟨hv,he⟩ := h w (hp w hw)
  exact ⟨fun a ha => hq _ _ (hv a ha),fun e hx => hf _ _ (he e hx)⟩

theorem pure {a : α} (h : ∀ w, P w → Q a w) : Spec P (Pure.pure a : Exchange M E α) Q F := by
  intro w hw
  refine ⟨?_,nofun⟩
  intro b hb
  cases hb
  exact h w hw

theorem check {r : Except E α} (hq : ∀ a w, r = .ok a → P w → Q a w)
    (hf : ∀ e w, r = .error e → P w → F e w) : Spec P (Exchange.check r) Q F := by
  intro w hw
  exact ⟨fun a ha => hq a w ha hw,fun e he => hf e w he hw⟩

theorem fail {e : E} (h : ∀ w, P w → F e w) : Spec P (Exchange.fail e : Exchange M E α) Q F := by
  intro w hw
  refine ⟨nofun,?_⟩
  intro e' he
  cases he
  exact h w hw

theorem bind (hx : Spec P x Q F) (hf : ∀ a, Spec (Q a) (f a) R F) : Spec P (x >>= f) R F := by
  intro w hw
  obtain ⟨hv,he⟩ := hx w hw
  rcases hr : x.run w with ⟨r,w'⟩
  rw [hr] at hv he
  rw [run_bind,hr]
  cases r with
  | ok a => exact hf a w' (hv a rfl)
  | error e =>
    refine ⟨nofun,?_⟩
    intro e' he'
    cases he'
    exact he e rfl

theorem of_and {p : Prop} (h : p → Spec P x Q F) : Spec (fun w => p ∧ P w) x Q F :=
  fun w hw => h hw.1 w hw.2

theorem of_exists {ι : Sort*} {P : ι → Wire M → Prop} (h : ∀ i, Spec (P i) x Q F) :
    Spec (fun w => ∃ i, P i w) x Q F := by
  rintro w ⟨i,hw⟩
  exact h i w hw

variable {why : M → List UInt8 → List (WireEvent M) → Prop} {sent taken : List UInt8}
  {log : List (WireEvent M)} {io : String → E}

theorem writeAll {message : M} {bytes : List UInt8}
    (hw : ∀ part, part <+: bytes → why message part log) :
    Spec (Wire.At why sent log taken) (Exchange.writeAll io message bytes)
      (fun _ => Wire.At why sent (log ++ [.wrote message bytes]) taken)
      (fun _ w => Wire.Justified why w.log) := by
  rintro w ⟨rfl,hj,hu⟩
  simp only [Exchange.writeAll]
  rcases w.faults with _ | ⟨_ | ⟨n,error⟩,faults⟩
  · exact ⟨fun _ _ => ⟨rfl,hj.wrote (hw bytes List.prefix_rfl),hu⟩,nofun⟩
  · exact ⟨fun _ _ => ⟨rfl,hj.wrote (hw bytes List.prefix_rfl),hu⟩,nofun⟩
  · exact ⟨nofun,fun _ _ => hj.wrote (hw _ (List.take_prefix n bytes))⟩

/-- A read takes what it returns; past the end it fails. -/
theorem readExact {n : ℕ} :
    Spec (Wire.At why sent log taken) (Exchange.readExact io n)
      (fun got w => got.length = n ∧ Wire.At why sent (log ++ [.read got]) (taken ++ got) w)
      (fun _ w => Wire.Justified why w.log) := by
  rintro w ⟨rfl,hj,hu⟩
  simp only [Exchange.readExact]
  by_cases hn : n ≤ w.unread.length
  · rw [if_pos hn]
    refine ⟨?_,nofun⟩
    intro got hg
    cases hg
    refine ⟨List.length_take_of_le hn,rfl,hj.read _,?_⟩
    simp [Wire.record,hu]
  · rw [if_neg hn]
    exact ⟨nofun,fun _ _ => hj.read _⟩

theorem readExact_taken {n : ℕ} :
    Spec (fun w : Wire M => sent = taken ++ w.unread) (Exchange.readExact io n)
      (fun got w => got.length = n ∧ sent = taken ++ got ++ w.unread)
      (fun _ w => w.unread = [] ∧ taken <+: sent ∧ sent.length < taken.length + n) := by
  rintro w hw
  simp only [Exchange.readExact]
  by_cases hn : n ≤ w.unread.length
  · rw [if_pos hn]
    refine ⟨?_,nofun⟩
    intro got hg
    cases hg
    refine ⟨List.length_take_of_le hn,?_⟩
    simp [Wire.record,hw]
  · rw [if_neg hn]
    refine ⟨nofun,fun _ _ => ⟨rfl,⟨w.unread,hw.symm⟩,?_⟩⟩
    rw [hw,List.length_append]
    omega

end Spec

end Exchange
