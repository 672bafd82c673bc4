import MindChat.MainThread

/-! A new account has no profile and no proxy assignment, as long as every process
starts from a state whose ids lie above all names in the preferences. -/

namespace MindChat

open MindChatCore

theorem toULong_toLong {id : AccountId} (h : id < 2^64) : toULong (toLong id) = id := by
  unfold toULong toLong
  rw [UInt64.toUInt64_toInt64,UInt64.toNat_ofNat_of_lt' h]

structure CoreJoins (c d : MindChatCore) : Prop where
  next : d.nextAccountId = u64Succ (allocated c.nextAccountId)
  accounts : ∀ k, (d.accounts.lookup k).isSome → k = allocated c.nextAccountId ∨ (c.accounts.lookup k).isSome

theorem CoreJoins.shrinks {c d e : MindChatCore} (h : CoreJoins c d) (k : CoreShrinks d e) : CoreJoins c e :=
  ⟨k.next.trans h.next,fun a ha => h.accounts a (k.accounts a ha)⟩

theorem joins_addAccount {c d : MindChatCore} {setup : AccountSetup} {id : AccountId}
    (h : c.addAccount setup = (.ok id,d)) : CoreJoins c d := by
  obtain ⟨hj,hs⟩ := addAccount_ok (congrArg Prod.fst h)
  have hd := congrArg Prod.snd (h.symm.trans (addAccount_valid hj hs))
  simp only at hd
  subst hd
  refine ⟨rfl,fun k hk => ?_⟩
  simp only [push,Table.lookup_insert_if] at hk
  split_ifs at hk with he
  · exact .inl he
  · exact .inr hk

namespace NativeGateway

variable {T : Type} {s : NativeGateway T}

/-- An account joins: nothing names it, and the next id moves on. -/
theorem Reserved.joins (h : s.Reserved) (hn : s.core.nextAccountId < u64Max) {k : TransportCoordinator T}
    (hj : CoreJoins s.core k.core) : Unclaimed s (s.withSession k) ∧ (s.withSession k).Reserved := by
  have hnext : allocated k.core.nextAccountId = allocated s.core.nextAccountId + 1 := by
    rw [hj.next,allocated_u64Succ hn]
  refine ⟨⟨h.book,fun id hid hsome hnamed => ?_⟩,h.book,fun id hid => ?_,fun a ha => ?_⟩
  · rcases hj.accounts id hsome with rfl | hold
    · have hlt := h.named _ hnamed
      have hbound : allocated s.core.nextAccountId < 2^64 :=
        Nat.lt_of_le_of_lt (max_le (Nat.le_of_lt hn) (by decide)) (by decide : u64Max < 2^64)
      rw [toULong_toLong hbound] at hlt
      exact Nat.lt_irrefl _ hlt
    · rw [hid] at hold
      cases hold
  · rw [core_withSession,hnext]
    rcases hj.accounts id hid with rfl | hold
    · exact Nat.lt_succ_self _
    · exact Nat.lt_succ_of_lt (h.below id hold)
  · rw [core_withSession,hnext]
    exact Nat.lt_succ_of_lt (h.named a ha)

end NativeGateway

/-- The calls that bring in accounts or names keep the reserve: the account counter
is below its end, and a profile that is not empty goes to an id that was handed out. -/
def GatewayCall.KeepsReserve {T : Type} (call : GatewayCall T) (s : NativeGateway T) : Prop :=
  match call with
  | .addAccount .. | .registerAccount .. => s.core.nextAccountId < u64Max
  | .updateProfile accountId profile =>
    profile.isEmpty = true ∨ toULong accountId < allocated s.core.nextAccountId
  | _ => True

namespace NativeGateway

variable {T : Type} {s : NativeGateway T}

/-- A call that observes the contract when it begins where `ok` holds. -/
abbrev Observes (p : GatewayProc T) (ok : NativeGateway T → Prop) : Prop := (mainContract T).SafeFrom ok p

theorem unclaimed_of_core {t : NativeGateway T} (hc : t.core = s.core) (hb : t.book.Storable) :
    Unclaimed s t :=
  ⟨hb,fun k hk hsome => by rw [hc,hk] at hsome; cases hsome⟩

theorem named_writeProfile {accountId a : Int64} {profile : Ui.AccountProfile}
    (h : (s.withPreferences (s.preferences.writeProfile accountId profile)).Named a) :
    (a = accountId ∧ profile.isEmpty = false) ∨ s.Named a := by
  have hread (hn : ((s.preferences.writeProfile accountId profile).readProfiles.lookup a).isSome) :
      (a = accountId ∧ profile.isEmpty = false) ∨ (s.preferences.readProfiles.lookup a).isSome := by
    unfold MindChatPreferences.readProfiles MindChatPreferences.writeProfile at *
    rw [Table.lookup_retain,Table.lookup_insert_if] at hn
    rw [Table.lookup_retain]
    split_ifs at hn with ha
    · refine .inl ⟨ha,?_⟩
      by_contra he
      rw [Bool.not_eq_false] at he
      simp [Option.filter,he] at hn
    · exact .inr hn
  rcases h with h | h
  · exact (h.elim hread hread).imp_right fun hold => .inl (.inl hold)
  · exact .inr (.inr h)

theorem observes_updateProfile (accountId : Int64) (profile : Ui.AccountProfile) :
    Observes (updateProfile accountId profile : GatewayProc T)
      (GatewayCall.KeepsReserve (.updateProfile accountId profile)) := by
  intro s hs hok
  refine ⟨fun _ => unclaimed_of_core (core_withPreferences s _) hs.book,
    Contract.safe_of_acts (harmless_refresh_ret _) ⟨hs.book,hs.below,fun a ha => ?_⟩⟩
  rcases named_writeProfile ha with ⟨rfl,hempty⟩ | hold
  · exact hok.resolve_left (by rw [hempty]; exact Bool.false_ne_true)
  · exact hs.named a hold

theorem assignProxy_known {accountId : Int64} {config : UiProxyConfig} {c : MindChatCore}
    (h : (assignProxy accountId config c).1 = some ()) : (c.accounts.lookup (toULong accountId)).isSome := by
  unfold assignProxy at h
  split at h
  · cases h
  · split at h
    · cases h
    · next hset =>
      unfold setAccountProxies updateAccount at hset
      split at hset
      · cases hset
      · next ha =>
        rw [ha]
        rfl

/-- In `t` the proxy of the account was assigned in the book, at some time after `s`. -/
structure Assigning (accountId : Int64) (s t : NativeGateway T) : Prop where
  core : CoreShrinks s.core t.core
  book : t.book.Storable
  profiled : ∀ a, t.Profiled a → s.Profiled a
  names : ∀ a, t.book.Names a → a = accountId ∨ s.book.Names a

theorem Assigning.shrinks {accountId : Int64} {t u : NativeGateway T} (h : Assigning accountId s t)
    (hu : Shrinks t u) : Assigning accountId s u :=
  ⟨h.core.trans hu.core,hu.book,fun a ha => h.profiled a (hu.profiled a ha),
    fun a ha => h.names a (hu.names a ha)⟩

theorem Assigning.below {accountId : Int64} {t : NativeGateway T} (h : Assigning accountId s t)
    (hs : s.Reserved) (k : AccountId) (hk : (t.core.accounts.lookup k).isSome) :
    k < allocated t.core.nextAccountId := by
  rw [h.core.next]
  exact hs.below k (h.core.accounts k hk)

/-- The new name is harmless once the core knows the account. -/
theorem Assigning.reserved {accountId : Int64} {t : NativeGateway T} (h : Assigning accountId s t)
    (hs : s.Reserved) (hk : (t.core.accounts.lookup (toULong accountId)).isSome) : t.Reserved := by
  refine ⟨h.book,h.below hs,fun a ha => ?_⟩
  have old (hn : s.Named a) : toULong a < allocated t.core.nextAccountId := by
    rw [h.core.next]
    exact hs.named a hn
  rcases ha with ha | ha
  · exact old (.inl (h.profiled a ha))
  · rcases h.names a ha with rfl | ha
    · exact h.below hs _ hk
    · exact old (.inr ha)

theorem Assigning.rolledBack {accountId : Int64} {t : NativeGateway T} (h : Assigning accountId s t)
    (hs : s.Reserved) : (t.withBook (t.book.writeAssignments s.book.assignments)).Reserved := by
  refine ⟨h.book.writeAssignments hs.book.assigned,h.below hs,fun a ha => ?_⟩
  rw [core_withBook,h.core.next]
  rcases ha with ha | ha
  · exact hs.named a (.inl (h.profiled a ha))
  · exact hs.named a (.inr (.inl (ProxyBook.names_writeAssignments hs.book.assigned ha)))

theorem safe_afterAssignment {accountId : Int64} {t : NativeGateway T} (h : Assigning accountId s t)
    (hs : s.Reserved) {r : Option Unit}
    (hr : r = some () → (t.core.accounts.lookup (toULong accountId)).isSome) :
    (mainContract T).Safe (afterAssignment s.book.assignments r) t := by
  cases r with
  | some _ => exact Contract.safe_of_acts (harmless_refresh_ret _) (h.reserved hs (hr rfl))
  | none =>
    intro u hu
    have ha := (h.shrinks (hu h.book))
    refine ⟨fun _ => unclaimed_of_core rfl (ha.rolledBack hs).book,?_⟩
    exact Contract.safe_of_acts (harmless_refresh_ret _) (ha.rolledBack hs)

theorem safe_coreCall_of {A : Type} {f : MindChatCore → A × MindChatCore} {next : A → GatewayProc T}
    (h : ∀ t, (mainContract T).rely s t →
      let u := t.withSession { t.session with core := (f t.core).2 }
      Unclaimed t u ∧ (mainContract T).Safe (next (f t.core).1) u) :
    (mainContract T).Safe (coreCall f next) s :=
  fun t ht => ⟨fun _ => (h t ht).1,(h t ht).2⟩

theorem safe_assignment {accountId : Int64} {t : NativeGateway T} (h : Assigning accountId s t)
    (hs : s.Reserved) {f : MindChatCore → Option Unit × MindChatCore}
    (hkept : ∀ c, AccountsKept c (f c).2)
    (hknown : ∀ c, (f c).1 = some () → (c.accounts.lookup (toULong accountId)).isSome) :
    (mainContract T).Safe (coreCall f (afterAssignment s.book.assignments)) t := by
  refine safe_coreCall_of fun u hu => ?_
  have ha := h.shrinks (hu h.book)
  have hk : Shrinks u (u.withSession { u.session with core := (f u.core).2 }) :=
    ⟨.of_kept (hkept u.core),ha.book,fun _ => id,fun _ => id⟩
  refine ⟨hk.unclaimed,safe_afterAssignment (ha.shrinks hk) hs fun hr => ?_⟩
  exact ((hkept u.core).isSome _).trans (hknown u.core hr)

/-- The assignment of an unknown account is taken back before the call returns. -/
theorem observes_setAccountProxy (accountId : Int64) (config : Option UiProxyConfig) :
    Observes (setAccountProxy accountId config : GatewayProc T) fun _ => True := by
  cases config with
  | none =>
    exact Contract.safeFrom_of_acts (harmless_eraseAssignment (harmless_coreCall
      (fun _ => .setAccountProxies _ _) fun r => harmless_marked _ r) accountId) _
  | some config =>
    simp only [setAccountProxy]
    split
    · exact fun s hs => hs
    · intro s hs _
      refine ⟨(mainContract T).allows _ _ ((mainContract T).refl s),?_⟩
      dsimp only
      cases hfound : s.book.library.find? (fun entry => entry.toConfig = config) with
      | none => exact hs
      | some entry =>
        have hid : Plain entry.id.toList := (hs.book.entries entry (List.mem_of_find?_eq_some hfound)).id
        intro t ht
        have hst : Shrinks s t := ht hs.book
        have hassigned := Table.forall_insert (P := fun (_ : Int64) (proxyId : String) => Plain proxyId.toList)
          (k := accountId) hid hst.book.assigned
        let b := t.book.writeAssignments (t.book.assignments.insert accountId entry.id)
        have hassigning : Assigning accountId s (t.withBook b) := by
          refine ⟨hst.core,hst.book.writeAssignments hassigned,hst.profiled,fun a ha => ?_⟩
          have hin := ProxyBook.names_writeAssignments hassigned ha
          rw [Table.lookup_insert_if] at hin
          split_ifs at hin with he
          · exact .inl he
          · exact .inr (hst.names a (.inl hin))
        exact ⟨fun _ => unclaimed_of_core rfl hassigning.book,safe_assignment hassigning hs
          (fun c => (assignProxy_kept accountId config c).1) fun _ => assignProxy_known⟩

theorem enters_native {A : Type} {f : TransportCoordinator T → A × TransportCoordinator T}
    {next : A → GatewayProc T}
    (hf : ∀ k, CoreShrinks k.core (f k).2.core ∨ CoreJoins k.core (f k).2.core)
    (h : ∀ a, Harmless (next a)) (hs : s.Reserved) (hn : s.core.nextAccountId < u64Max) :
    (mainContract T).guarantee s (s.withSession (f s.session).2) ∧
      (mainContract T).Safe (next (f s.session).1) (s.withSession (f s.session).2) := by
  have hr : Unclaimed s (s.withSession (f s.session).2) ∧ (s.withSession (f s.session).2).Reserved := by
    rcases hf s.session with hshrinks | hjoins
    · have ht : Shrinks s (s.withSession (f s.session).2) := ⟨hshrinks,hs.book,fun _ => id,fun _ => id⟩
      exact ⟨ht.unclaimed,hs.shrinks ht⟩
    · exact hs.joins hn hjoins
  exact ⟨fun _ => hr.1,Contract.safe_of_acts (h _) hr.2⟩

theorem safe_coreCall {A : Type} {f : MindChatCore → A × MindChatCore} {next : A → GatewayProc T}
    (hf : ∀ c, CoreShrinks c (f c).2 ∨ CoreJoins c (f c).2) (h : ∀ a, Harmless (next a))
    (hs : s.Reserved) (hn : s.core.nextAccountId < u64Max) : (mainContract T).Safe (coreCall f next) s := by
  intro t ht
  have hst : Shrinks s t := ht hs.book
  have hnt : t.core.nextAccountId < u64Max := by rw [hst.core.next]; exact hn
  exact enters_native (f := fun k => ((f k.core).1,{ k with core := (f k.core).2 }))
    (fun k => hf k.core) h (hs.shrinks hst) hnt

theorem grows_addAccount (c : MindChatCore) (setup : AccountSetup) :
    CoreShrinks c (c.addAccount setup).2 ∨ CoreJoins c (c.addAccount setup).2 := by
  rcases hadd : c.addAccount setup with ⟨e | id,d⟩
  · obtain rfl := addAccount_error hadd
    exact .inl (.refl d)
  · exact .inr (joins_addAccount hadd)

variable [XmppTransport T]

theorem grows_bindingRegister (input : RegistrationInput) (exchange : T → Bool × T)
    (k : TransportCoordinator T) : CoreShrinks k.core (bindingRegister input exchange k).2.core ∨
      CoreJoins k.core (bindingRegister input exchange k).2.core := by
  unfold bindingRegister MindChatCoreHandle.registerAccount
  split
  · exact .inl (.refl k.core)
  split
  · exact .inl (.refl k.core)
  · have hgrows := grows_addAccount k.core input.setup
    rcases hadd : k.core.addAccount input.setup with ⟨e | accountId,c⟩
    · rw [hadd] at hgrows
      exact hgrows
    · have hjoins := joins_addAccount hadd
      have hkept : CoreShrinks c (TransportCoordinator.connectWithProxy ⟨c,(exchange k.transport).2⟩
          accountId input.password none none).2.core :=
        .of_kept (.connectWithProxy (k := ⟨c,(exchange k.transport).2⟩) _ _ _ _)
      dsimp only
      rcases hconnect : TransportCoordinator.connectWithProxy ⟨c,(exchange k.transport).2⟩ accountId
          input.password none none with ⟨_ | _,k'⟩
      all_goals
        rw [hconnect] at hkept
        exact .inr (hjoins.shrinks hkept)

theorem observes_addAccount (jid server displayName password : String) (proxyPassword : Option String) :
    Observes (addAccount jid server displayName password proxyPassword : GatewayProc T)
      (GatewayCall.KeepsReserve (.addAccount jid server displayName password proxyPassword)) := by
  unfold addAccount
  split
  · exact fun s hs => hs
  · dsimp only
    intro s hs hok
    refine ⟨(mainContract T).allows _ _ ((mainContract T).refl s),?_⟩
    dsimp only
    split
    · exact Contract.safe_of_acts (harmless_joinAccount _ password proxyPassword) hs
    · refine safe_coreCall (fun c => grows_addAccount c _) (fun r => ?_) hs hok
      cases r with
      | error e => exact harmless_refresh_ret _
      | ok accountId => exact harmless_joinAccount accountId password proxyPassword

theorem observes_registerAccount (jid server displayName password : String) (exchange : T → Bool × T)
    (message : Option String) :
    Observes (registerAccount jid server displayName password exchange message)
      (GatewayCall.KeepsReserve (.registerAccount jid server displayName password exchange message)) := by
  unfold registerAccount
  split
  · exact fun s hs => hs
  · intro s hs hok
    refine enters_native (grows_bindingRegister _ exchange) (fun r => ?_) hs hok
    cases r with
    | none => exact harmless_refresh_ret _
    | some accountId => exact harmless_withActive (harmless_refresh_ret _) accountId

theorem observes_body (call : GatewayCall T) : Observes call.body call.KeepsReserve := by
  have harmless {p : GatewayProc T} (h : Harmless p) : Observes p call.KeepsReserve :=
    Contract.safeFrom_of_acts h _
  cases call with
  | selectAccount accountId => exact harmless (harmless_selectAccount accountId)
  | addAccount => exact observes_addAccount _ _ _ _ _
  | registerAccount => exact observes_registerAccount _ _ _ _ _ _
  | reconnectAccount => exact harmless (harmless_reconnectAccount _ _ _)
  | disconnectAccount accountId =>
    exact harmless (harmless_native (fun k => .of_kept (.disconnect _)) fun r => harmless_marked _ r)
  | markConversationRead =>
    exact harmless (harmless_coreCall (fun _ => .markConversationRead _) fun r => harmless_marked _ r)
  | updateProfile accountId profile => exact observes_updateProfile accountId profile
  | deleteAccount accountId tracked => exact harmless (harmless_deleteAccount accountId tracked)
  | renameAccount accountId displayName => exact harmless (harmless_renameAccount accountId displayName)
  | deleteConversation =>
    exact harmless (harmless_coreCall (fun _ => .deleteConversation _) fun r => harmless_marked _ r)
  | addContact jid displayName => exact harmless (harmless_addContact jid displayName)
  | openConversation address title group now =>
    exact harmless (harmless_openConversation address title group now)
  | sendText conversationId text now => exact harmless (harmless_sendText conversationId text now)
  | addProxy config => exact harmless (harmless_addProxy config)
  | updateProxy proxyId config => exact harmless (harmless_updateProxy proxyId config)
  | deleteProxy proxyId => exact harmless (harmless_deleteProxy proxyId)
  | pingProxy proxyId outcome => exact harmless (harmless_pingProxy proxyId outcome)
  | setAccountProxy accountId config => exact observes_setAccountProxy accountId config
  | pollTransport elapsed => exact harmless (harmless_pollTransport elapsed)
  | persistNow => exact harmless harmless_persistNow

end NativeGateway

end MindChat
