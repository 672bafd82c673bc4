import MindChat.FreshAccounts
import MindChat.MarkedChanges

/-! A new account takes over no profile and no proxy assignment, in every run whose
processes start above the names that the preferences keep. -/

namespace MindChat

open MindChatCore NativeGateway

variable {T : Type} {codec : Codec} {backend : CryptoBackend} {path : String}

/-- The restored core has yet to hand out ids above its accounts and above every
name in the preferences. -/
def RestoresAbove (codec : Codec) (backend : CryptoBackend) (path : String) (start : GatewayStart T)
    (s : NativeGateway T) (disk : Disk) : Prop :=
  let core := (restoreState codec backend path start disk).1
  (∀ k, (core.accounts.lookup k).isSome → k < allocated core.nextAccountId) ∧
    ∀ a, (s.preferences.readProfiles.lookup a).isSome ∨ (s.book.store.readAssignments.lookup a).isSome →
      toULong a < allocated core.nextAccountId

theorem reserved_launch {start : GatewayStart T} {s : NativeGateway T} {disk : Disk}
    (hb : s.book.Storable) (h : RestoresAbove codec backend path start s disk) :
    (NativeGateway.launch codec backend path start s disk).1.Reserved :=
  ⟨hb.run .restart,h.1,fun a ha => h.2 a (ha.imp (fun hp => hp.elim id id) fun hn => hn.elim id id)⟩

theorem reserved_installed (t : T) : (NativeGateway.installed t).Reserved := by
  refine ⟨ProxyBook.storable_empty,nofun,fun a ha => ?_⟩
  rcases ha with (h | h) | (h | h) <;> cases h

/-- The step neither uses up the ids nor names an id to come. -/
def KeepsReserve (codec : Codec) (backend : CryptoBackend) (path : String) (s : GatewayState T)
    (action : GatewayAction T) : Prop :=
  Service.Meets GatewayCall.KeepsReserve s action ∧
    match action with
    | .restart start => RestoresAbove codec backend path start s.state s.system.file
    | _ => True

theorem keepsReserve_begun {s : GatewayState T} {i : GatewayThread}
    (h : (s.calls i).all (fun call => call.begun) = true) : KeepsReserve codec backend path s (.advance i) := by
  refine ⟨fun call hc hn => ?_,trivial⟩
  rw [hc] at h
  exact absurd (hn.symm.trans h) Bool.false_ne_true

variable [XmppTransport T]

theorem gatewayService_respects :
    (gatewayService codec backend path : Service _ (GatewayCall T) _ _ _ _ _ _ _).Respects
      (mainContract T) .main GatewayCall.KeepsReserve where
  main call _ := NativeGateway.observes_body call
  others i call hi hallowed := by
    cases i with
    | main => exact absurd rfl hi
    | coroutine n =>
      cases call with
      | pollTransport elapsed => exact NativeGateway.harmless_pollTransport elapsed
      | persistNow => exact NativeGateway.harmless_persistNow
      | _ => cases hallowed
  environment t s hs := ⟨.refl s.core,hs,fun _ => id,fun _ => id⟩

/-- A run of the gateway whose steps all do so. -/
def ReservedRun (codec : Codec) (backend : CryptoBackend) (path : String)
    (actions : List (GatewayAction T)) (s : GatewayState T) : Prop :=
  ∃ t disk, Transition.Run (Transition.Meeting (KeepsReserve codec backend path)
    fun s a u => GatewayState.step codec backend path s a = some u) (.start (.installed t) disk) actions s

/-- The main thread is within its contract, and what the book keeps can be stored. -/
def Ordered (codec : Codec) (backend : CryptoBackend) (path : String) (s : GatewayState T) : Prop :=
  (gatewayService codec backend path).Guarded (mainContract T) .main GatewayCall.KeepsReserve s ∧
    s.state.book.Storable

theorem Ordered.step {s t : GatewayState T} (h : Ordered codec backend path s) {action : GatewayAction T}
    (hk : KeepsReserve codec backend path s action) (hs : s.step codec backend path action = some t) :
    Ordered codec backend path t ∧ ((∀ start, action ≠ .restart start) → Unclaimed s.state t.state) := by
  have hresumes : (gatewayService codec backend path).Resumes (mainContract T).idle s action := by
    cases action with
    | restart start => exact reserved_launch h.2 hk.2
    | begin | advance | saver | cancel | environment => trivial
  obtain ⟨hguarded,hguarantee⟩ := h.1.step gatewayService_respects hk.1 hresumes hs
  have hunclaimed (hn : ∀ start, action ≠ .restart start) : Unclaimed s.state t.state := hguarantee hn h.2
  refine ⟨⟨hguarded,?_⟩,hunclaimed⟩
  cases action with
  | restart start =>
    cases hs
    exact h.2.run .restart
  | begin | advance | saver | cancel | environment => exact (hunclaimed fun _ => by nofun).book

theorem ReservedRun.ordered {actions : List (GatewayAction T)} {s : GatewayState T}
    (h : ReservedRun codec backend path actions s) : Ordered codec backend path s := by
  obtain ⟨t,disk,hr⟩ := h
  exact hr.invariant (I := Ordered codec backend path) (fun _ _ _ hi hs => (hi.step hs.1 hs.2).1)
    ⟨.start (reserved_installed t) disk,ProxyBook.storable_empty⟩

/-- Nothing that the preferences keep or that is loaded belongs to the account. -/
def NativeGateway.InheritsNothing (s : NativeGateway T) (accountId : Int64) : Prop :=
  s.preferences.readProfiles.lookup accountId = none ∧ s.profilesCache.lookup accountId = none ∧
    s.book.store.readAssignments.lookup accountId = none ∧ s.book.assignments.lookup accountId = none

/-- Where an account appears in a running process, it inherits nothing, if so far every
process started above the names in the preferences and no step used up or named the
ids to come. -/
theorem new_account_inherits_nothing (codec : Codec) (backend : CryptoBackend) (path : String)
    (actions : List (GatewayAction T)) (s t : GatewayState T) (action : GatewayAction T) (id : AccountId)
    (hr : ReservedRun codec backend path actions s) (hk : KeepsReserve codec backend path s action)
    (ha : ∀ start, action ≠ .restart start) (hs : s.step codec backend path action = some t)
    (hold : s.state.core.accounts.lookup id = none) (hnew : (t.state.core.accounts.lookup id).isSome) :
    t.state.InheritsNothing (toLong id) := by
  have hfresh := ((hr.ordered.step hk hs).2 ha).fresh id hold hnew
  have absent {V : Type} {o : Option V} (h : o.isSome → t.state.Named (toLong id)) : o = none :=
    Option.not_isSome_iff_eq_none.mp fun ho => hfresh (h ho)
  exact ⟨absent fun h => .inl (.inl h),absent fun h => .inl (.inr h),absent fun h => .inr (.inr h),
    absent fun h => .inr (.inl h)⟩

def emptyStart : GatewayStart TokioXmppTransport where
  stateKey := some zeroKey
  faults := .none
  resave := ⟨⟨1,0,.none⟩,none,none⟩
  renamed := true
  now := 0
  transport := .new

def otherCall : GatewayCall TokioXmppTransport := .addAccount "eve@host" "host" "Eve" "secret" none

/-- An account gets a profile, the process ends before a save, and the next process
adds an account of another address, which takes the id of the first. -/
def unsavedAccount : List (GatewayAction TokioXmppTransport) :=
  mainSteps joinedCall 9 ++ mainSteps (.updateProfile 1 ⟨none,some "Busy",none,none,none⟩) 4 ++
    [.restart emptyStart,.begin .main otherCall,.advance .main]

theorem new_account_inherits_profile :
    ¬ ∀ actions (s t : GatewayState TokioXmppTransport) action id,
      GatewayServiceRun (jsonCodec (readerOf [])) plainBackend "state" actions s →
      (∀ start, action ≠ .restart start) → deviceStep s action = some t →
      s.state.core.accounts.lookup id = none → (t.state.core.accounts.lookup id).isSome →
      t.state.InheritsNothing (toLong id) := by
  have hs : (Transition.exec deviceStep firstStart unsavedAccount).any (fun s =>
      (s.state.core.accounts.lookup 1).isNone && (deviceStep s (.advance .main)).any fun t =>
        (t.state.core.accounts.lookup 1).isSome && (t.state.profilesCache.lookup (toLong 1)).isSome) = true := by
    decide +kernel
  intro h
  obtain ⟨s,hr,hd⟩ := (Option.any_eq_true _ _).mp hs
  obtain ⟨hold,hd⟩ := Bool.and_eq_true_iff.mp hd
  obtain ⟨t,ht,hd⟩ := (Option.any_eq_true _ _).mp hd
  obtain ⟨hnew,hprofile⟩ := Bool.and_eq_true_iff.mp hd
  have hrun : GatewayServiceRun (jsonCodec (readerOf [])) plainBackend "state" unsavedAccount s :=
    ⟨.new,∅,Transition.run_iff_exec.mpr hr⟩
  have hnone := (h unsavedAccount s t (.advance .main) 1 hrun (fun _ => by nofun) ht
    (Option.isNone_iff_eq_none.mp hold) hnew).2.1
  exact Bool.false_ne_true ((congrArg Option.isSome hnone).symm.trans hprofile)

theorem firstStart_reserve : joinedCall.KeepsReserve firstStart.state :=
  (by decide : (0 : ℕ) < u64Max)

theorem new_account_inherits_nothing_ada : ∃ s t : GatewayState TokioXmppTransport,
    deviceStep s (.advance .main) = some t ∧ s.state.core.accounts.lookup 1 = none ∧
      (t.state.core.accounts.lookup 1).isSome ∧ t.state.InheritsNothing 1 := by
  have hs : (Transition.exec deviceStep firstStart (mainSteps joinedCall 1)).any (fun s =>
      (s.calls .main).all (fun call => call.begun) && (s.state.core.accounts.lookup 1).isNone &&
        (deviceStep s (.advance .main)).any fun t => (t.state.core.accounts.lookup 1).isSome) = true := by
    decide +kernel
  obtain ⟨s,hr,hd⟩ := (Option.any_eq_true _ _).mp hs
  obtain ⟨hd,hstep⟩ := Bool.and_eq_true_iff.mp hd
  obtain ⟨hbegun,hold⟩ := Bool.and_eq_true_iff.mp hd
  obtain ⟨t,ht,hnew⟩ := (Option.any_eq_true _ _).mp hstep
  obtain ⟨actions,hrun⟩ := (runsAlone_mainSteps hr).meeting
    (KeepsReserve (jsonCodec (readerOf [])) plainBackend "state") ⟨trivial,trivial⟩ fun u a ha hu => by
      refine ⟨hu.meets ha firstStart_reserve,?_⟩
      cases a with
      | begin | cancel | environment | restart => cases ha
      | advance | saver => trivial
  refine ⟨s,t,ht,Option.isNone_iff_eq_none.mp hold,hnew,?_⟩
  exact new_account_inherits_nothing (jsonCodec (readerOf [])) plainBackend "state" actions s t
    (.advance .main) 1 ⟨.new,∅,hrun⟩ (keepsReserve_begun hbegun) (fun _ => by nofun) ht
    (Option.isNone_iff_eq_none.mp hold) hnew

end MindChat
