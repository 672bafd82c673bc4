import MindChat.Durable
import MindChat.GatewayCalls

/-! Every call of the gateway marks the durable changes it made before it returns,
whatever the core answers it, except for one: a registration whose account is in the
core when the session of that account cannot be opened. -/

namespace MindChat

open MindChatCore

namespace NativeGateway

variable {T : Type}

/-- What of the gateway outlives the process. -/
def durable (s : NativeGateway T) : CoreSnapshot := s.core.durable

def Good (s : NativeGateway T) : Prop := s.core.AccountsKeyed

/-- Every durable change of the procedure is marked before it leaves. -/
abbrev Marks (p : GatewayProc T) (pending : Prop) : Prop := p.Covers Good durable pending

variable {pending : Prop} {A E B : Type}

theorem marks_refreshWith {next : GatewayProc T} (h : Marks next pending) (snapshot : CoreSnapshot) :
    Marks (refreshWith snapshot next) pending :=
  h.modify fun _ hs => ⟨hs,rfl⟩

theorem marks_refresh {next : GatewayProc T} (h : Marks next pending) : Marks (refresh next) pending :=
  Proc.Covers.read fun snapshot => marks_refreshWith h snapshot

theorem marks_ret (reply : Reply) : Marks (.ret reply : GatewayProc T) False := id

theorem marks_refresh_ret (reply : Reply) : Marks (refresh (.ret reply) : GatewayProc T) False :=
  marks_refresh (marks_ret reply)

theorem marks_mark {next : GatewayProc T} (h : Marks next False) : Marks (.mark next) pending := h

theorem marks_save {next : GatewayProc T} (h : Marks next False) : Marks (.save next) False := ⟨id,h⟩

theorem marks_suspend {next : GatewayProc T} (h : Marks next False) : Marks (.suspend next) False :=
  ⟨id,h⟩

theorem marks_beside {next : GatewayProc T} {f : NativeGateway T → NativeGateway T}
    (h : Marks next pending) (hf : ∀ s, (f s).core = s.core) : Marks (.modify f next) pending := by
  refine h.modify fun s hs => ?_
  unfold Good durable at *
  rw [hf]
  exact ⟨hs,rfl⟩

theorem marks_native {f : TransportCoordinator T → A × TransportCoordinator T} {next : A → GatewayProc T}
    (hk : ∀ k, k.core.AccountsKeyed → (f k).2.core.AccountsKeyed)
    (h : ∀ k, k.core.AccountsKeyed →
      Marks (next (f k).1) (pending ∨ (f k).2.core.durable ≠ k.core.durable)) :
    Marks (native f next) pending :=
  fun s hs => ⟨hk s.session hs,h s.session hs⟩

theorem marks_coreCall {f : MindChatCore → Except E B × MindChatCore} {next : Except E B → GatewayProc T}
    (hk : ∀ c, c.AccountsKeyed → (f c).2.AccountsKeyed)
    (he : ∀ c d e, f c = (.error e,d) → d = c) (hok : ∀ b, Marks (next (.ok b)) True)
    (herr : ∀ e, Marks (next (.error e)) pending) : Marks (coreCall f next) pending := by
  refine marks_native (fun k hs => hk k.core hs) fun k hs => ?_
  rcases hr : f k.core with ⟨e | b,d⟩
  · refine (herr e).mono fun hp => hp.resolve_right fun hd => hd ?_
    rw [he _ _ _ hr]
  · exact (hok b).mono fun _ => trivial

theorem marks_marked {reply : Except E B → Reply} (r : Except E B)
    (h : ∀ e, r = .error e → ¬ pending) : Marks (marked reply r : GatewayProc T) pending := by
  cases r with
  | ok b => exact marks_mark (marks_refresh_ret _)
  | error e => exact marks_refresh (h e rfl)

theorem still_refresh (reply : Reply) : (refresh (.ret reply) : GatewayProc T).Still durable :=
  fun _ => ⟨rfl,fun _ => ⟨rfl,trivial⟩⟩

theorem marks_joined (accountId : AccountId) (reply : Reply) (pending : Prop) :
    Marks (.modify (fun s => s.withActive accountId) (.mark (refresh (.ret reply))) : GatewayProc T)
      pending :=
  marks_beside (marks_mark (marks_refresh_ret _)) fun s => core_withActive s accountId

theorem marks_coreMarked {f : MindChatCore → Except E B × MindChatCore} {reply : Except E B → Reply}
    (hk : ∀ c, c.AccountsKeyed → (f c).2.AccountsKeyed)
    (he : ∀ c d e, f c = (.error e,d) → d = c) :
    Marks (coreCall f (marked reply) : GatewayProc T) False :=
  marks_coreCall hk he (fun _ => marks_marked _ fun _ h => by cases h) fun _ => marks_marked _ fun _ _ => id

theorem marks_selectAccount (accountId : Int64) : Marks (selectAccount accountId : GatewayProc T) False := by
  refine Proc.Covers.read fun known => ?_
  split
  · exact marks_beside (marks_refresh_ret _) fun _ => rfl
  · exact marks_ret _

theorem marks_markConversationRead (conversationId : Int64) :
    Marks (markConversationRead conversationId : GatewayProc T) False :=
  marks_coreMarked (fun _ hc => (AccountsKept.markConversationRead _).keyed hc)
    fun _ _ _ h => markConversationRead_error h

theorem marks_renameAccount (accountId : Int64) (displayName : String) :
    Marks (renameAccount accountId displayName : GatewayProc T) False := by
  unfold renameAccount
  dsimp only
  split
  · exact marks_ret _
  · exact marks_coreMarked (fun _ hc => (AccountsKept.updateAccountDisplayName _ _).keyed hc)
      fun _ _ _ h => updateAccountDisplayName_error h

theorem marks_deleteConversation (conversationId : Int64) :
    Marks (deleteConversation conversationId : GatewayProc T) False :=
  marks_coreMarked (fun _ hc => (AccountsKept.deleteConversation _).keyed hc)
    fun _ _ _ h => deleteConversation_error h

theorem marks_updateProfile (accountId : Int64) (profile : Ui.AccountProfile) :
    Marks (updateProfile accountId profile : GatewayProc T) False := by
  unfold updateProfile
  exact marks_beside (marks_refresh_ret _) fun s => core_withPreferences s _

theorem marks_addContact (jid displayName : String) :
    Marks (addContact jid displayName : GatewayProc T) False := by
  unfold addContact
  refine Proc.Covers.read fun activeAccountId => ?_
  split
  · exact marks_ret _
  · exact marks_coreCall (fun _ hc => (AccountsKept.upsertContact _ _ _ _ _).keyed hc)
      (fun _ _ _ h => upsertContact_error h) (fun _ => marks_mark (marks_refresh_ret _)) fun _ => marks_ret _

theorem marks_openLocalConversation (accountId : AccountId) (address title : String) (group : Bool)
    (now : ℕ) : Marks (openLocalConversation accountId address title group now : GatewayProc T) False := by
  unfold openLocalConversation
  exact marks_coreCall (fun _ hc => (AccountsKept.openConversation _ _ _ _ _).keyed hc)
    (fun _ _ _ h => openConversation_error h) (fun _ => marks_mark (marks_refresh_ret _)) fun _ => marks_ret _

theorem marks_openConversation (address title : String) (group : Bool) (now : ℕ) :
    Marks (openConversation address title group now : GatewayProc T) False := by
  refine Proc.Covers.read fun activeAccountId => ?_
  split
  · exact marks_ret _
  · exact marks_openLocalConversation activeAccountId address title group now

theorem marks_sendText (conversationId : Int64) (text : String) (now : ℕ) :
    Marks (sendText conversationId text now : GatewayProc T) False := by
  refine Proc.Covers.read fun account => ?_
  cases account with
  | none => exact marks_ret _
  | some account =>
    exact marks_coreCall (fun _ hc => (AccountsKept.sendText _ _ _ _ _).keyed hc)
      (fun _ _ _ h => sendText_error h) (fun _ => marks_mark (marks_beside (marks_refresh_ret _) fun _ => rfl))
      fun _ => marks_ret _

theorem marks_addProxy (config : UiProxyConfig) : Marks (addProxy config : GatewayProc T) False := by
  unfold addProxy
  split
  · exact marks_ret _
  · exact marks_beside (marks_refresh_ret _) fun _ => rfl

theorem marks_updateProxy (proxyId : String) (config : UiProxyConfig) :
    Marks (updateProxy proxyId config : GatewayProc T) False := by
  unfold updateProxy
  split
  · exact marks_ret _
  · refine Proc.Covers.read fun known => ?_
    split
    · exact marks_beside (marks_refresh_ret _) fun _ => rfl
    · exact marks_ret _

theorem marks_pingProxy (proxyId : String) (outcome : Option (Except ProxyError Unit × ℕ)) :
    Marks (pingProxy proxyId outcome : GatewayProc T) False := by
  refine Proc.Covers.read fun entry => ?_
  cases entry with
  | none => exact marks_ret _
  | some entry => exact marks_beside (marks_refresh_ret _) fun _ => rfl

theorem marks_clearProxies {next : GatewayProc T} (h : Marks next False) (affectedAccounts : List Int64) :
    Marks (clearProxies next affectedAccounts) False := by
  induction affectedAccounts with
  | nil => exact h
  | cons accountId rest ih =>
    exact marks_coreCall (fun _ hc => (AccountsKept.setAccountProxies _ _).keyed hc)
      (fun _ _ _ h => setAccountProxies_error h) (fun _ => marks_mark ih) fun _ => ih

theorem marks_deleteProxy (proxyId : String) : Marks (deleteProxy proxyId : GatewayProc T) False := by
  refine Proc.Covers.read fun known => ?_
  split
  · refine marks_beside (Proc.Covers.read fun affectedAccounts => marks_beside ?_ fun _ => rfl) fun _ => rfl
    exact marks_clearProxies (marks_refresh_ret _) affectedAccounts
  · exact marks_ret _

theorem assignProxy_kept (accountId : Int64) (config : UiProxyConfig) (c : MindChatCore) :
    AccountsKept c (assignProxy accountId config c).2 ∧
      ((assignProxy accountId config c).1 = none → (assignProxy accountId config c).2 = c) := by
  unfold assignProxy
  split
  · exact ⟨.refl c,fun _ => rfl⟩
  · next proxy _ =>
    have hk : AccountsKept c (c.setAccountProxies (toULong accountId) [proxy]).2 := .setAccountProxies _ _
    split
    · next hs =>
      rw [hs] at hk
      exact ⟨hk,fun _ => setAccountProxies_error hs⟩
    · next hs =>
      rw [hs] at hk
      exact ⟨hk,fun h => by cases h⟩

theorem marks_setAccountProxy (accountId : Int64) (config : Option UiProxyConfig) :
    Marks (setAccountProxy accountId config : GatewayProc T) False := by
  cases config with
  | none =>
    exact marks_beside (marks_coreMarked (fun _ hc => (AccountsKept.setAccountProxies _ _).keyed hc)
      fun _ _ _ h => setAccountProxies_error h) fun _ => rfl
  | some config =>
    simp only [setAccountProxy]
    split
    · exact marks_ret _
    · refine Proc.Covers.read fun found => ?_
      obtain ⟨_ | entry,previousAssignments⟩ := found
      · exact marks_ret _
      · refine marks_beside ?_ fun _ => rfl
        refine marks_native (fun k hk => (assignProxy_kept accountId config k.core).1.keyed hk) fun k hk => ?_
        have hn := (assignProxy_kept accountId config k.core).2
        cases hr : (assignProxy accountId config k.core).1 with
        | some u => exact marks_mark (marks_refresh_ret _)
        | none =>
          refine (marks_beside (marks_refresh_ret _) fun _ => rfl : Marks _ False).mono fun hp => ?_
          exact hp.resolve_left id (congrArg MindChatCore.durable (hn hr))

theorem marks_finishPoll (onlineBefore : List AccountId) (snapshot : CoreSnapshot)
    (flushedAccounts : List AccountId) :
    Marks (finishPoll onlineBefore snapshot flushedAccounts : GatewayProc T) False :=
  marks_suspend (marks_beside (marks_refreshWith (marks_ret _) snapshot) fun _ => rfl)

theorem marks_persistNow : Marks (persistNow : GatewayProc T) False := by
  refine ⟨id,fun due => ?_⟩
  cases due with
  | true => exact marks_save (marks_suspend (marks_ret _))
  | false => exact marks_suspend (marks_ret _)

variable [XmppTransport T]

theorem connect_still (accountId : Int64) (password : String) (proxyPassword : Option String)
    (s : NativeGateway T) (hs : Good s) :
    Good (s.connect accountId password proxyPassword).2 ∧
      durable (s.connect accountId password proxyPassword).2 = durable s := by
  have still (proxy : Option ProxyConfig) (proxyPassword : Option String) :
      (s.session.connectWithProxy (toULong accountId) password proxy proxyPassword).2.core.AccountsKeyed ∧
        (s.session.connectWithProxy (toULong accountId) password proxy proxyPassword).2.core.durable =
          s.core.durable :=
    ⟨(AccountsKept.connectWithProxy _ _ _ _).keyed hs,durable_connectWithProxy hs _ _ _ _⟩
  unfold connect
  split
  · exact still none none
  · dsimp only
    split
    · exact ⟨hs,rfl⟩
    · exact still _ proxyPassword

theorem marks_reconnectAccount (accountId : Int64) (password : String) (proxyPassword : Option String) :
    Marks (reconnectAccount accountId password proxyPassword : GatewayProc T) False := by
  unfold reconnectAccount
  split
  · exact marks_ret _
  · refine Proc.Covers.still (connect_still accountId password proxyPassword) fun s _ => ?_
    cases (s.connect accountId password proxyPassword).1 with
    | true => exact marks_mark (marks_refresh_ret _)
    | false => exact marks_refresh_ret _

/-- The mark of `addAccount` comes whether or not the session was opened. -/
theorem marks_joinAccount (accountId : AccountId) (password : String) (proxyPassword : Option String) :
    Marks (joinAccount accountId password proxyPassword : GatewayProc T) pending := by
  have last (reply : Reply) : Marks (.mark (.ret reply) : GatewayProc T) pending :=
    marks_mark (marks_ret reply)
  unfold joinAccount reconnectAccount
  refine marks_beside ?_ fun s => core_withActive s accountId
  split
  · exact last _
  · refine Proc.Covers.still (connect_still _ password proxyPassword) fun s _ => ?_
    dsimp only
    cases (s.connect (toLong accountId) password proxyPassword).1 with
    | true => exact marks_mark (marks_refresh (marks_mark (marks_ret _)))
    | false => exact marks_refresh (last _)

theorem marks_addAccount (jid server displayName password : String) (proxyPassword : Option String) :
    Marks (addAccount jid server displayName password proxyPassword : GatewayProc T) False := by
  unfold addAccount
  split
  · exact marks_ret _
  · dsimp only
    refine Proc.Covers.read fun found => ?_
    cases found with
    | some account => exact marks_joinAccount account.id password proxyPassword
    | none =>
      exact marks_coreCall (fun _ hc => hc.addAccount _) (fun _ _ _ h => addAccount_error h)
        (fun accountId => marks_joinAccount accountId password proxyPassword) fun _ => marks_refresh_ret _

theorem marks_disconnectAccount (accountId : Int64) :
    Marks (disconnectAccount accountId : GatewayProc T) False := by
  unfold disconnectAccount
  refine marks_native (fun k hk => (AccountsKept.disconnect _).keyed hk) fun k hk => ?_
  refine marks_marked _ fun e _ hp => hp.resolve_left id ?_
  exact durable_disconnect hk _

theorem deleteAccount_spec (k : TransportCoordinator T) (accountId : AccountId) (tracked : Bool) :
    (MindChatCoreHandle.deleteAccount k accountId tracked).2.core = (k.core.deleteAccount accountId).2 ∧
      ((MindChatCoreHandle.deleteAccount k accountId tracked).1 = .ok () ↔
        (k.core.accounts.lookup accountId).isSome) := by
  unfold MindChatCoreHandle.deleteAccount MindChatCore.deleteAccount
  by_cases ha : (k.core.accounts.lookup accountId).isNone
  · rw [if_pos ha,if_pos ha]
    refine ⟨rfl,⟨fun h => (by cases h),fun h => ?_⟩⟩
    rw [Option.isNone_iff_eq_none.mp ha] at h
    cases h
  · rw [if_neg ha,if_neg ha]
    exact ⟨rfl,⟨fun _ => (by simpa [Option.isSome_iff_ne_none] using ha),fun _ => rfl⟩⟩

theorem marks_deleteAccount (accountId : Int64) (tracked : T → Bool) :
    Marks (deleteAccount accountId tracked : GatewayProc T) False := by
  unfold deleteAccount
  refine marks_native (fun k hk => ?_) fun k hk => ?_
  · rw [(deleteAccount_spec k _ _).1]
    exact hk.deleteAccount _
  · have hspec := deleteAccount_spec k (toULong accountId) (tracked k.transport)
    cases hr : (MindChatCoreHandle.deleteAccount k (toULong accountId) (tracked k.transport)).1 with
    | error e =>
      refine (marks_refresh_ret _ : Marks _ False).mono fun hp => hp.resolve_left id ?_
      have hn : (k.core.accounts.lookup (toULong accountId)).isNone := by
        cases ha : k.core.accounts.lookup (toULong accountId) with
        | none => rfl
        | some account =>
          rw [hspec.2.mpr (by rw [ha]; rfl)] at hr
          cases hr
      rw [hspec.1,MindChatCore.deleteAccount,if_pos hn]
    | ok u =>
      refine marks_beside (marks_beside (marks_mark (marks_refresh ?_)) fun _ => rfl) fun s =>
        core_withPreferences s _
      exact marks_beside (marks_ret _) fun _ => rfl

theorem marks_drainTransportEvents {next : Option ℕ → GatewayProc T} (hfail : Marks (next none) True)
    (hok : ∀ n, Marks (next (some n)) (0 < n)) (left previousBatchSize batchesUsed eventsProcessed : ℕ) :
    Marks (drainTransportEvents next left previousBatchSize batchesUsed eventsProcessed)
      (0 < eventsProcessed) := by
  induction left generalizing previousBatchSize batchesUsed eventsProcessed with
  | zero => exact hok eventsProcessed
  | succ left ih =>
    unfold drainTransportEvents
    dsimp only
    split
    · refine marks_native (fun k hk => (AccountsKept.pollTransportEvents k _).keyed hk) fun k hk => ?_
      cases hr : (MindChatCoreHandle.pollTransportEvents k
          (nextDrainStep previousBatchSize batchesUsed eventsProcessed).batchSize).1 with
      | error e => exact hfail.mono fun _ => trivial
      | ok batch =>
        refine (ih batch (batchesUsed + 1) (eventsProcessed + batch)).mono fun hp => ?_
        rcases hp with hp | hd
        · exact Nat.lt_of_lt_of_le hp (Nat.le_add_right _ _)
        · rcases Nat.eq_zero_or_pos batch with rfl | hb
          · exact absurd (congrArg MindChatCore.durable (pollTransportEvents_none hr)) hd
          · exact Nat.add_pos_right _ hb
    · exact hok eventsProcessed

theorem marks_flushAccounts (elapsed : AccountId → ℕ → ℕ) {next : GatewayProc T}
    (h : Marks next True) (accountIds : List AccountId) :
    Marks (flushAccounts elapsed next accountIds) True := by
  induction accountIds with
  | nil => exact h
  | cons accountId rest ih =>
    exact marks_native (fun k hk => (AccountsKept.flushOutbox _ k accountId).keyed hk)
      fun k hk => ih.mono fun _ => trivial

theorem marks_settlePoll (elapsed : AccountId → ℕ → ℕ) (pendingAccounts onlineBefore : List AccountId)
    (processedEvents : ℕ) :
    Marks (settlePoll elapsed pendingAccounts onlineBefore (some processedEvents) : GatewayProc T)
      (0 < processedEvents) := by
  simp only [settlePoll]
  split
  · next hq => exact ⟨by omega,marks_ret _⟩
  · next hq =>
    have hmark : 0 < processedEvents ∨ pendingAccounts ≠ [] := by
      by_contra hn
      push Not at hn
      exact hq ⟨Nat.le_zero.mp hn.1,by simp [hn.2]⟩
    rw [if_pos hmark]
    refine (marks_flushAccounts elapsed (marks_mark ?_) pendingAccounts).mono fun _ => trivial
    refine Proc.Covers.read fun snapshot due => ?_
    cases due with
    | true => exact marks_save (marks_finishPoll _ _ _)
    | false => exact marks_finishPoll _ _ _

theorem marks_pollTransport (elapsed : AccountId → ℕ → ℕ) :
    Marks (pollTransport elapsed : GatewayProc T) False := by
  refine Proc.Covers.read fun start => ⟨id,?_⟩
  have hfail : Marks (settlePoll elapsed start.1 start.2 none : GatewayProc T) True := by
    unfold settlePoll
    exact Proc.Covers.read fun snapshot => marks_mark (marks_save (marks_finishPoll _ snapshot []))
  exact (marks_drainTransportEvents hfail (marks_settlePoll elapsed start.1 start.2) _ _ 0 0).mono
    fun hp => hp.elim

end NativeGateway

end MindChat
