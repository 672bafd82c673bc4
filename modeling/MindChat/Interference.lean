import MindChat.Service

/-! One thread of a service that alone may do certain things, among threads that
only do harmless ones: what its calls do is known from what each action may do when
the others act in between. -/

namespace Proc

variable {S R Q : Type}

/-- Every action of the procedure is one that `P` allows. -/
def Acts (P : S → S → Prop) : Proc S R → Prop
  | .ret _ => True
  | .act f next => ∀ s, P s (f s) ∧ (next s).Acts P
  | .mark next => next.Acts P
  | .requiresSave next => ∀ due, (next due).Acts P
  | .comparing _ next => ∀ due, (next due).Acts P
  | .save next => next.Acts P
  | .suspend next => next.Acts P

variable {P : S → S → Prop}

theorem Acts.bind {p : Proc S R} {k : R → Proc S Q} (h : p.Acts P) (hk : ∀ r, (k r).Acts P) :
    (p.bind k).Acts P := by
  induction p with
  | ret result => exact hk result
  | act f next ih => exact fun s => ⟨(h s).1,ih s (h s).2⟩
  | mark next ih => exact ih h
  | requiresSave next ih => exact fun due => ih due (h due)
  | comparing epoch next ih => exact fun due => ih due (h due)
  | save next ih => exact ih h
  | suspend next ih => exact ih h

theorem Acts.read {A : Type} {f : S → A} {next : A → Proc S R} (hrefl : ∀ s, P s s)
    (h : ∀ a, (next a).Acts P) : (Proc.read f next).Acts P :=
  fun s => ⟨hrefl s,h (f s)⟩

end Proc

/-- What other threads may do between two actions, what the thread itself may do in
one, and how it finds and leaves the state between its calls. -/
structure Contract (S : Type) where
  rely : S → S → Prop
  guarantee : S → S → Prop
  idle : S → Prop
  refl : ∀ s, rely s s
  trans : ∀ s t u, rely s t → rely t u → rely s u
  allows : ∀ s t, rely s t → guarantee s t
  rests : ∀ s t, idle s → rely s t → idle t

namespace Contract

variable {S R : Type} (c : Contract S)

/-- From this state on every action keeps the contract, and where the call ends or
may be cancelled the thread can be idle. -/
def Safe : Proc S R → S → Prop
  | .ret _,s => c.idle s
  | .act f next,s => ∀ t, c.rely s t → c.guarantee t (f t) ∧ Safe (next t) (f t)
  | .mark next,s => Safe next s
  | .requiresSave next,s => ∀ due, Safe (next due) s
  | .comparing _ next,s => ∀ due, Safe (next due) s
  | .save next,s => c.idle s ∧ Safe next s
  | .suspend next,s => c.idle s ∧ Safe next s

/-- The same of a call that begins in an idle state, `ok` if it acts there. -/
def SafeFrom (ok : S → Prop) : Proc S R → Prop
  | .act f next => ∀ s, c.idle s → ok s → c.guarantee s (f s) ∧ c.Safe (next s) (f s)
  | p => ∀ s, c.idle s → c.Safe p s

variable {c} {p : Proc S R} {s t : S}

theorem Safe.rely (h : c.Safe p s) (hr : c.rely s t) : c.Safe p t := by
  induction p generalizing s t with
  | ret result => exact c.rests s t h hr
  | act f next ih => exact fun u hu => h u (c.trans s t u hr hu)
  | mark next ih => exact ih h hr
  | requiresSave next ih => exact fun due => ih due (h due) hr
  | comparing epoch next ih => exact fun due => ih due (h due) hr
  | save next ih => exact ⟨c.rests s t h.1 hr,ih h.2 hr⟩
  | suspend next ih => exact ⟨c.rests s t h.1 hr,ih h.2 hr⟩

/-- A procedure that only does what the others may do. -/
theorem safe_of_acts (h : p.Acts c.rely) (hs : c.idle s) : c.Safe p s := by
  induction p generalizing s with
  | ret result => exact hs
  | act f next ih =>
    intro t ht
    obtain ⟨hf,hn⟩ := h t
    exact ⟨c.allows _ _ hf,ih t hn (c.rests _ _ (c.rests _ _ hs ht) hf)⟩
  | mark next ih => exact ih h hs
  | requiresSave next ih => exact fun due => ih due (h due) hs
  | comparing epoch next ih => exact fun due => ih due (h due) hs
  | save next ih => exact ⟨hs,ih h hs⟩
  | suspend next ih => exact ⟨hs,ih h hs⟩

theorem safeFrom_of_acts (h : p.Acts c.rely) (ok : S → Prop) : c.SafeFrom ok p := by
  cases p with
  | act f next =>
    intro s hs _
    obtain ⟨hf,hn⟩ := h s
    exact ⟨c.allows _ _ hf,safe_of_acts hn (c.rests _ _ hs hf)⟩
  | ret | mark | requiresSave | comparing | save | suspend => exact fun s hs => safe_of_acts h hs

/-- The next action keeps the contract now, when nothing comes before it. -/
def Enters (c : Contract S) : Proc S R → S → Prop
  | .act f next,s => c.guarantee s (f s) ∧ c.Safe (next s) (f s)
  | p,s => c.Safe p s

theorem Safe.enters (h : c.Safe p s) : c.Enters p s := by
  cases p with
  | act f next => exact h s (c.refl s)
  | ret | mark | requiresSave | comparing | save | suspend => exact h

theorem SafeFrom.enters {ok : S → Prop} (h : c.SafeFrom ok p) (hs : c.idle s) (hok : ok s) :
    c.Enters p s := by
  cases p with
  | act f next => exact h s hs hok
  | ret | mark | requiresSave | comparing | save | suspend => exact h s hs

theorem Safe.idle (h : c.Safe p s) (hleaves : p.leaves = true) : c.idle s := by
  cases p with
  | ret result => exact h
  | save next => exact h.1
  | suspend next => exact h.1
  | act | mark | requiresSave | comparing => cases hleaves

theorem SafeFrom.leaves {ok : S → Prop} (h : c.SafeFrom ok p) (hleaves : p.leaves = true)
    (hs : c.idle s) : c.Safe p s := by
  cases p with
  | ret | save | suspend => exact h s hs
  | act | mark | requiresSave | comparing => cases hleaves

end Contract

namespace Service

variable {ι Op S R V F W E X : Type} {v : Service ι Op S R V F W E X} {c : Contract S} {i : ι}
  {ok : Op → S → Prop} {s t : State ι Op S R V F}

/-- The calls of the thread `i` keep the contract, and the other threads and the
environment only do what it allows them. -/
structure Respects (v : Service ι Op S R V F W E X) (c : Contract S) (i : ι) (ok : Op → S → Prop) :
    Prop where
  main : ∀ op, v.allowed i op = true → c.SafeFrom (ok op) (v.body op)
  others : ∀ j op, j ≠ i → v.allowed j op = true → (v.body op).Acts c.rely
  environment : ∀ e s, c.rely s (v.environment e s)

/-- The thread `i` is idle, or its call has not begun, or the rest of it is safe; the
other calls stay within what they may do. -/
structure Guarded (v : Service ι Op S R V F W E X) (c : Contract S) (i : ι) (ok : Op → S → Prop)
    (s : State ι Op S R V F) : Prop where
  main : match s.calls i with
    | none => c.idle s.state
    | some call => (call.begun = false ∧ c.idle s.state ∧ c.SafeFrom (ok call.op) call.proc) ∨
      c.Safe call.proc s.state
  others : ∀ j call, j ≠ i → s.calls j = some call → call.proc.Acts c.rely

/-- The process may start again in this state. -/
def Resumes (v : Service ι Op S R V F W E X) (idle : S → Prop) (s : State ι Op S R V F) :
    Action ι Op W E X → Prop
  | .restart x => idle (v.restart x s.state s.system.file).1
  | _ => True

theorem Guarded.start {state : S} (h : c.idle state) (file : F) :
    v.Guarded c i ok (State.start state file : State ι Op S R V F) :=
  ⟨h,fun _ _ _ hc => by cases hc⟩

theorem Guarded.own (h : v.Guarded c i ok s) (hcalls : ∀ k, k ≠ i → t.calls k = s.calls k)
    (hmain : match t.calls i with
      | none => c.idle t.state
      | some call => (call.begun = false ∧ c.idle t.state ∧ c.SafeFrom (ok call.op) call.proc) ∨
        c.Safe call.proc t.state) : v.Guarded c i ok t :=
  ⟨hmain,fun k call hk hc => h.others k call hk (hcalls k hk ▸ hc)⟩

theorem Guarded.other (h : v.Guarded c i ok s) (hr : c.rely s.state t.state)
    (hi : t.calls i = s.calls i)
    (ho : ∀ k call, k ≠ i → t.calls k = some call → call.proc.Acts c.rely) : v.Guarded c i ok t := by
  refine ⟨?_,ho⟩
  have hmain := h.main
  rw [hi]
  cases hc : s.calls i with
  | none =>
    rw [hc] at hmain
    exact c.rests _ _ hmain hr
  | some call =>
    rw [hc] at hmain
    rcases hmain with ⟨hn,hidle,hfrom⟩ | hsafe
    · exact .inl ⟨hn,c.rests _ _ hidle hr,hfrom⟩
    · exact .inr (hsafe.rely hr)

theorem Guarded.enters (h : v.Guarded c i ok s) {call : Call Op S R} (hc : s.calls i = some call)
    (hok : call.begun = false → ok call.op s.state) : c.Enters call.proc s.state := by
  have hmain := h.main
  rw [hc] at hmain
  rcases hmain with ⟨hn,hidle,hfrom⟩ | hsafe
  · exact hfrom.enters hidle (hok hn)
  · exact hsafe.enters

/-- Where the call leaves, it is safe without having begun as well. -/
theorem Guarded.safe (h : v.Guarded c i ok s) {call : Call Op S R} (hc : s.calls i = some call)
    (hleaves : call.proc.leaves = true) : c.Safe call.proc s.state := by
  have hmain := h.main
  rw [hc] at hmain
  rcases hmain with ⟨-,hidle,hfrom⟩ | hsafe
  · exact hfrom.leaves hleaves hidle
  · exact hsafe

theorem Guarded.others_of (h : v.Guarded c i ok s) {j : ι} (hcalls : ∀ k, k ≠ j → t.calls k = s.calls k)
    (hc : ∀ call, t.calls j = some call → call.proc.Acts c.rely) (k : ι) (call : Call Op S R)
    (hk : k ≠ i) (hcall : t.calls k = some call) : call.proc.Acts c.rely := by
  by_cases hkj : k = j
  · exact hc call (hkj ▸ hcall)
  · exact h.others k call hk (hcalls k hkj ▸ hcall)

variable [DecidableEq ι] [DecidableEq V]

theorem acts_advance {j : ι} {op : Op} {proc : Proc S R} {last : ℕ} (h : proc.Acts c.rely)
    (hs : v.advance s j op last proc = some t) :
    c.rely s.state t.state ∧ ∀ call, t.calls j = some call → call.proc.Acts c.rely := by
  cases proc with
  | save next => cases hs
  | act f next =>
    obtain ⟨hf,hn⟩ := h s.state
    cases hs
    refine ⟨hf,fun call hc => ?_⟩
    rw [State.calls_setCall] at hc
    cases hc
    exact hn
  | ret result =>
    cases hs
    refine ⟨c.refl _,fun call hc => ?_⟩
    rw [State.calls_setCall] at hc
    cases hc
  | comparing epoch next =>
    cases hs
    refine ⟨c.refl _,fun call hc => ?_⟩
    rw [State.calls_setCall] at hc
    cases hc
    exact h _
  | mark | requiresSave | suspend =>
    cases hs
    refine ⟨c.refl _,fun call hc => ?_⟩
    rw [State.calls_setCall] at hc
    cases hc
    exact h

theorem enters_advance {op : Op} {proc : Proc S R} {last : ℕ} (h : c.Enters proc s.state)
    (hs : v.advance s i op last proc = some t) : c.guarantee s.state t.state ∧
      match t.calls i with
      | none => c.idle t.state
      | some call => c.Safe call.proc t.state := by
  have still (u : S) : c.guarantee u u := c.allows u u (c.refl u)
  cases proc with
  | save next => cases hs
  | act f next =>
    cases hs
    rw [State.calls_setCall]
    exact h
  | ret | mark | requiresSave =>
    cases hs
    rw [State.calls_setCall]
    exact ⟨still _,h⟩
  | comparing epoch next =>
    cases hs
    rw [State.calls_setCall]
    exact ⟨still _,h _⟩
  | suspend next =>
    cases hs
    rw [State.calls_setCall]
    exact ⟨still _,h.2⟩

theorem Guarded.step (hv : v.Respects c i ok) (h : v.Guarded c i ok s) {a : Action ι Op W E X}
    (hm : Meets ok s a) (hx : v.Resumes c.idle s a) (hs : v.step s a = some t) :
    v.Guarded c i ok t ∧ ((∀ x, a ≠ .restart x) → c.guarantee s.state t.state) := by
  have still (u : S) : c.guarantee u u := c.allows u u (c.refl u)
  cases a with
  | begin j op =>
    obtain ⟨hallowed,hidle,rfl⟩ := step_begin hs
    have hcalls (k : ι) (hk : k ≠ j) := State.calls_setCall_of_ne s hk (some ⟨op,v.body op,0,false⟩)
    refine ⟨?_,fun _ => still _⟩
    by_cases hj : j = i
    · subst hj
      refine h.own hcalls ?_
      have hmain := h.main
      rw [hidle] at hmain
      rw [State.calls_setCall]
      exact .inl ⟨rfl,hmain,hv.main op hallowed⟩
    · refine h.other (c.refl _) (hcalls i (Ne.symm hj)) (h.others_of hcalls fun call hc => ?_)
      rw [State.calls_setCall] at hc
      cases hc
      exact hv.others j op hj hallowed
  | advance j =>
    obtain ⟨op,proc,last,begun,hc,hs⟩ := step_advance hs
    have hcalls (k : ι) (hk : k ≠ j) : t.calls k = s.calls k := advance_others hk hs
    by_cases hj : j = i
    · subst hj
      obtain ⟨hg,hmain⟩ := enters_advance (h.enters hc (hm _ hc)) hs
      refine ⟨h.own hcalls ?_,fun _ => hg⟩
      cases ht : t.calls j with
      | none =>
        rw [ht] at hmain
        exact hmain
      | some call =>
        rw [ht] at hmain
        exact .inr hmain
    · obtain ⟨hr,hacts⟩ := acts_advance (h.others j _ hj hc) hs
      exact ⟨h.other hr (hcalls i (Ne.symm hj)) (h.others_of hcalls hacts),fun _ => c.allows _ _ hr⟩
  | saver j w =>
    obtain ⟨op,next,last,begun,u,hc,hu,hs⟩ := step_saver hs
    obtain ⟨hstate,hsame,-,-⟩ := saverStep_same hu
    rcases hs with rfl | rfl
    · have hr : c.rely s.state ({ u with owner := none }.setCall j (some ⟨op,next,last,true⟩)).state :=
        hstate ▸ c.refl s.state
      have hcalls (k : ι) (hk : k ≠ j) :
          ({ u with owner := none }.setCall j (some ⟨op,next,last,true⟩)).calls k = s.calls k :=
        (State.calls_setCall_of_ne _ hk _).trans (congrFun hsame k)
      refine ⟨?_,fun _ => c.allows _ _ hr⟩
      by_cases hj : j = i
      · subst hj
        refine h.own hcalls ?_
        rw [State.calls_setCall]
        exact .inr ((h.safe hc rfl).2.rely hr)
      · refine h.other hr (hcalls i (Ne.symm hj)) (h.others_of hcalls fun call hn => ?_)
        rw [State.calls_setCall] at hn
        cases hn
        have hacts : (Proc.save next).Acts c.rely := h.others j _ hj hc
        exact hacts
    · have hr : c.rely s.state u.state := hstate ▸ c.refl s.state
      exact ⟨h.other hr (congrFun hsame i) fun k call hk hn => h.others k call hk (hsame ▸ hn),
        fun _ => c.allows _ _ hr⟩
  | cancel j =>
    obtain ⟨rfl,call,hc,hleaves⟩ := step_cancel hs
    have hcalls (k : ι) (hk : k ≠ j) := State.calls_setCall_of_ne s hk none
    refine ⟨?_,fun _ => still _⟩
    by_cases hj : j = i
    · subst hj
      refine h.own hcalls ?_
      rw [State.calls_setCall]
      exact (h.safe hc hleaves).idle hleaves
    · refine h.other (c.refl _) (hcalls i (Ne.symm hj)) (h.others_of hcalls fun call hn => ?_)
      rw [State.calls_setCall] at hn
      cases hn
  | environment e =>
    cases hs
    have hr := hv.environment e s.state
    exact ⟨h.other hr rfl h.others,fun _ => c.allows _ _ hr⟩
  | restart x =>
    cases hs
    exact ⟨.start hx _,fun hn => absurd rfl (hn x)⟩

end Service
