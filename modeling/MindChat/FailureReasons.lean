import MindChat.Coordinator
import MindChat.RaceGroup
import MindChat.Sessions

/-! The connection state of an account and the reason kept beside it: prose and a
typed kind. Three places write them; a connection attempt that the transport
refuses leaves a failed account without a kind. Then one library error as the layers
read it: whether it is recoverable, its kind, whether the worker goes on, and the
bucket that the UI shows. -/

namespace MindChat

open MindChatCore

/-- A live account shows no reason, a failed one has a typed reason. -/
structure Account.ReasonAgrees (account : Account) : Prop where
  live : account.connectionState = .connecting ∨ account.connectionState = .online →
    account.connectionError = none ∧ account.disconnectKind = none
  failed : account.connectionState = .failed → account.disconnectKind.isSome

def ReasonsAgree (c : MindChatCore) : Prop :=
  ∀ k account, c.accounts.lookup k = some account → account.ReasonAgrees

def NoFailureYet (c : MindChatCore) : Prop :=
  ∀ k account, c.accounts.lookup k = some account → account.connectionState ≠ .failed ∧
    account.connectionError = none ∧ account.disconnectKind = none

namespace Account.ReasonAgrees

variable {account : Account}

theorem of_eq {account' : Account} (h : account.ReasonAgrees)
    (hs : account'.connectionState = account.connectionState)
    (he : account'.connectionError = account.connectionError)
    (hk : account'.disconnectKind = account.disconnectKind) : account'.ReasonAgrees := by
  refine ⟨?_,?_⟩
  · rw [hs,he,hk]
    exact h.live
  · rw [hs,hk]
    exact h.failed

theorem of_cleared (he : account.connectionError = none) (hk : account.disconnectKind = none)
    (hs : account.connectionState ≠ .failed) : account.ReasonAgrees :=
  ⟨fun _ => ⟨he,hk⟩,fun h => (hs h).elim⟩

theorem of_disconnected {account' : Account} {recoverable : Bool} {kind : DisconnectKind}
    (hs : account'.connectionState = if recoverable then .offline else .failed)
    (hk : account'.disconnectKind = some kind) : account'.ReasonAgrees := by
  refine ⟨fun h => ?_,fun _ => by rw [hk]; rfl⟩
  rw [hs] at h
  cases recoverable <;> rcases h with h | h <;> cases h

end Account.ReasonAgrees

theorem NoFailureYet.reasonsAgree {c : MindChatCore} (h : NoFailureYet c) : ReasonsAgree c := by
  intro k account ha
  obtain ⟨hs,he,hk⟩ := h k account ha
  exact .of_cleared he hk hs

namespace ReasonsAgree

variable {c d : MindChatCore}

theorem of_accounts (h : ReasonsAgree c) (he : d.accounts = c.accounts) : ReasonsAgree d := by
  intro k account hk
  exact h k account (he ▸ hk)

theorem updateAccount (h : ReasonsAgree c) (accountId : AccountId) {change : Account → Account}
    (hc : ∀ account, account.ReasonAgrees → (change account).ReasonAgrees) :
    ReasonsAgree (c.updateAccount accountId change).2 := by
  unfold MindChatCore.updateAccount
  cases ha : c.accounts.lookup accountId with
  | none => exact h
  | some account => exact Table.forall_insert (hc account (h accountId account ha)) h

theorem setConnectionState (h : ReasonsAgree c) (accountId : AccountId) {state : ConnectionState}
    (hs : state ≠ .failed) : ReasonsAgree (c.setConnectionState accountId state).2 := by
  refine h.updateAccount accountId fun account ha => ?_
  split_ifs with hl
  · exact .of_cleared rfl rfl hs
  · exact ⟨fun h => (hl h).elim,fun h => (hs h).elim⟩

theorem addAccount (h : ReasonsAgree c) (setup : AccountSetup) : ReasonsAgree (c.addAccount setup).2 := by
  unfold MindChatCore.addAccount
  split
  · exact h
  split
  · exact h
  · exact Table.forall_insert (.of_cleared rfl rfl nofun) h

theorem deleteAccount (h : ReasonsAgree c) (accountId : AccountId) :
    ReasonsAgree (c.deleteAccount accountId).2 := by
  unfold MindChatCore.deleteAccount
  split
  · exact h
  · intro k account ha
    simp only [push] at ha
    rw [accounts_foldl accounts_removeConversationState] at ha
    exact Table.forall_erase h k account ha

theorem applyTransportEvent (h : ReasonsAgree c) (event : TransportEvent) :
    ReasonsAgree (c.applyTransportEvent event).2 := by
  cases event with
  | connected accountId capabilities =>
    exact h.updateAccount accountId fun _ _ => .of_cleared rfl rfl nofun
  | disconnected accountId recoverable detail kind =>
    exact h.updateAccount accountId fun _ _ => .of_disconnected rfl rfl
  | capabilitiesDiscovered accountId capabilities =>
    have hs : ReasonsAgree (c.setCapabilities accountId capabilities).2 :=
      h.updateAccount accountId fun _ ha => ha.of_eq rfl rfl rfl
    simp only [MindChatCore.applyTransportEvent]
    split
    · split <;> rename_i hr <;> rw [hr] at hs <;> exact hs
    · exact h
  | rosterContactUpsert | rosterContactRemoved | contactPresenceUpdated | incomingText
    | deliveryUpdated =>
    exact h.of_accounts (c.accounts_applyTransportEvent fun _ _ _ _ _ => by simp)

/-- No mutator but a direct write of the failed state breaks the agreement. -/
theorem op (h : ReasonsAgree c) {o : CoreOp} (ho : ∀ accountId, o ≠ .setConnectionState accountId .failed) :
    ReasonsAgree (o.run c) := by
  cases o with
  | addAccount setup => exact h.addAccount setup
  | setConnectionState accountId state =>
    exact h.setConnectionState accountId fun hs => ho accountId (by rw [hs])
  | setCapabilities accountId capabilities =>
    exact h.updateAccount accountId fun _ ha => ha.of_eq rfl rfl rfl
  | setAccountProxies accountId proxies =>
    exact h.updateAccount accountId fun _ ha => ha.of_eq rfl rfl rfl
  | updateAccountDisplayName accountId displayName =>
    simp only [CoreOp.run,MindChatCore.updateAccountDisplayName]
    split
    · exact h
    · exact h.updateAccount accountId fun _ ha => ha.of_eq rfl rfl rfl
  | applyTransportEvent event => exact h.applyTransportEvent event
  | deleteAccount accountId => exact h.deleteAccount accountId
  | syncRosterContact | removeContact | updateContactPresence =>
    exact h.of_accounts (by simp only [CoreOp.run,accounts_syncRosterContact,accounts_removeContact,
      accounts_updateContactPresence])
  | sendText => exact h.of_accounts (accounts_sendText ..)
  | receiveText => exact h.of_accounts (accounts_receiveText ..)
  | setDeliveryState => exact h.of_accounts (accounts_setDeliveryState ..)
  | upsertContact | openConversation | attach | addReaction | markConversationRead =>
    simp only [CoreOp.run,MindChatCore.upsertContact,MindChatCore.openConversation,insertConversation,
      MindChatCore.attach,MindChatCore.addReaction,MindChatCore.markConversationRead]
    repeat' split
    all_goals exact h
  | deleteConversation conversationId =>
    refine h.of_accounts ?_
    simp only [CoreOp.run,MindChatCore.deleteConversation]
    split
    · rfl
    · exact accounts_removeConversationState c conversationId
  | drainEvents => exact h

end ReasonsAgree

namespace TransportCoordinator

variable {T : Type} [XmppTransport T] {k : TransportCoordinator T}

def connectionRequest (account : Account) (accountId : AccountId) (password : String)
    (proxy : Option ProxyConfig) (proxyPassword : Option String) : ConnectionRequest :=
  { accountId := accountId, jid := account.jid, server := account.server, password := password,
    autoReconnect := account.autoReconnect, proxy := proxy, proxyPassword := proxyPassword }

def Refuses (k : TransportCoordinator T) (accountId : AccountId) (password : String)
    (proxy : Option ProxyConfig) (proxyPassword : Option String) : Prop :=
  ∃ account, k.core.accounts.lookup accountId = some account ∧
    ∃ e, (XmppTransport.connect k.transport
      (connectionRequest account accountId password proxy proxyPassword)).1 = .error e

theorem connectWithProxy_refused {accountId : AccountId} {password : String} {proxy : Option ProxyConfig}
    {proxyPassword : Option String} {account : Account}
    (ha : k.core.accounts.lookup accountId = some account) {e : TransportError} {t : T}
    (ht : XmppTransport.connect k.transport
      (connectionRequest account accountId password proxy proxyPassword) = (.error e,t)) :
    let failed : Account :=
      { account with connectionState := .failed, connectionError := none, disconnectKind := none }
    let connecting : Account := { failed with connectionState := .connecting }
    k.connectWithProxy accountId password proxy proxyPassword =
      (.error (.transport e),⟨{ k.core with
        accounts := (k.core.accounts.insert accountId connecting).insert accountId failed
        events := k.core.events ++ [.accountChanged accountId] ++ [.accountChanged accountId] },t⟩) := by
  simp only [connectionRequest] at ht
  simp only [connectWithProxy,ha,setConnectionState,updateAccount,push,true_or,if_true,ht,
    AList.lookup_insert,reduceCtorEq,or_self,if_false]

theorem connectWithProxy_accepted {accountId : AccountId} {password : String} {proxy : Option ProxyConfig}
    {proxyPassword : Option String} (h : ¬ k.Refuses accountId password proxy proxyPassword) :
    (k.connectWithProxy accountId password proxy proxyPassword).2.core =
      (k.core.setConnectionState accountId .connecting).2 := by
  unfold connectWithProxy
  cases ha : k.core.accounts.lookup accountId with
  | none => simp only [setConnectionState,updateAccount,ha]
  | some account =>
    dsimp only
    split
    · next hc => rw [hc]
    · next c hc =>
      split
      · rw [hc]
      · next e t ht =>
        exact (h ⟨account,ha,e,congrArg Prod.fst ht⟩).elim

end TransportCoordinator

/-- What moves a coordinator: its own calls, a mutator of its core, or the adapter by itself. -/
inductive CoordinatorCall (T : Type)
  | connectWithProxy (accountId : AccountId) (password : String) (proxy : Option ProxyConfig)
      (proxyPassword : Option String)
  | disconnect (accountId : AccountId)
  | flushOutbox (accountId : AccountId) (elapsed : ℕ → ℕ)
  | pollTransportEvents (maxEvents : ℕ)
  | core (op : CoreOp)
  | adapter (transport : T)

namespace CoordinatorCall

variable {T : Type} [XmppTransport T] {k : TransportCoordinator T}

def run (k : TransportCoordinator T) : CoordinatorCall T → TransportCoordinator T
  | connectWithProxy accountId password proxy proxyPassword =>
    (k.connectWithProxy accountId password proxy proxyPassword).2
  | disconnect accountId => (k.disconnect accountId).2
  | flushOutbox accountId elapsed => (k.flushOutbox elapsed accountId).2
  | pollTransportEvents maxEvents => (k.pollTransportEvents maxEvents).2
  | core op => { k with core := op.run k.core }
  | adapter transport => { k with transport := transport }

def WritesNoFailure : CoordinatorCall T → Prop
  | core op => ∀ accountId, op ≠ .setConnectionState accountId .failed
  | _ => True

def IsRefused (k : TransportCoordinator T) : CoordinatorCall T → Prop
  | connectWithProxy accountId password proxy proxyPassword =>
    k.Refuses accountId password proxy proxyPassword
  | _ => False

theorem reasonsAgree_pollLoop (left processed : ℕ) (k : TransportCoordinator T) (h : ReasonsAgree k.core) :
    ReasonsAgree (TransportCoordinator.pollLoop left processed k).2.core :=
  TransportCoordinator.core_pollLoop_all (R := fun c d => ReasonsAgree c → ReasonsAgree d)
    (fun _ h => h) (fun _ _ _ h j hc => j (h hc)) (fun _ event h => h.applyTransportEvent event)
    left processed k h

theorem reasonsAgree_run {call : CoordinatorCall T} (h : ReasonsAgree k.core) (hw : call.WritesNoFailure)
    (hr : ¬ call.IsRefused k) : ReasonsAgree (call.run k).core := by
  cases call with
  | connectWithProxy accountId password proxy proxyPassword =>
    have hc := TransportCoordinator.connectWithProxy_accepted hr
    simp only [run,hc]
    exact h.setConnectionState accountId nofun
  | disconnect accountId =>
    exact TransportCoordinator.core_disconnect (R := fun c d => ReasonsAgree c → ReasonsAgree d)
      (fun _ h => h) (fun h => h.applyTransportEvent _) h
  | flushOutbox accountId elapsed =>
    exact h.of_accounts (TransportCoordinator.accounts_flushOutbox k elapsed accountId)
  | pollTransportEvents maxEvents => exact reasonsAgree_pollLoop maxEvents 0 k h
  | core op => exact h.op hw
  | adapter transport => exact h

theorem not_reasonsAgree_run {call : CoordinatorCall T} (hr : call.IsRefused k) :
    ¬ ReasonsAgree (call.run k).core := by
  cases call with
  | connectWithProxy accountId password proxy proxyPassword =>
    obtain ⟨account,ha,e,he⟩ := hr
    have hc := TransportCoordinator.connectWithProxy_refused ha (Prod.ext he rfl)
    intro h
    have hk := (h accountId { account with
      connectionState := .failed, connectionError := none, disconnectKind := none } (by
        simp only [run,hc,AList.lookup_insert])).failed rfl
    cases hk
  | _ => exact hr.elim

end CoordinatorCall

/-- Of a run that starts in agreement, all states agree exactly when the transport
refuses no connection attempt of a known account in it. -/
theorem failure_reasons_agree {T : Type} [XmppTransport T] (k : TransportCoordinator T)
    (calls : List (CoordinatorCall T)) (h : ReasonsAgree k.core)
    (hw : ∀ call ∈ calls, call.WritesNoFailure) :
    (∀ before, before <+: calls → ReasonsAgree (before.foldl CoordinatorCall.run k).core) ↔
      ∀ before call, before ++ [call] <+: calls →
        ¬ call.IsRefused (before.foldl CoordinatorCall.run k) := by
  constructor
  · intro ha before call hp hr
    have hs := ha (before ++ [call]) hp
    rw [List.foldl_append] at hs
    exact CoordinatorCall.not_reasonsAgree_run hr hs
  · intro hn before hp
    induction before using List.reverseRecOn with
    | nil => exact h
    | append_singleton before call ih =>
      rw [List.foldl_append]
      exact CoordinatorCall.reasonsAgree_run (ih ((List.prefix_append _ _).trans hp))
        (hw call (hp.subset (List.mem_append_right _ List.mem_cons_self))) (hn before call hp)

/-- Ada connects, loses the connection and connects again. -/
def reconnecting : List (CoordinatorCall Scripted) :=
  [.connectWithProxy 1 "secret" none none,.pollTransportEvents 8,.connectWithProxy 1 "secret" none none]

def lostConnection : TransportCoordinator Scripted :=
  ⟨(MindChatCore.default.addAccount demoSetup).2,⟨[],[.disconnected 1 false none .networkLost]⟩⟩

theorem noFailureYet_lostConnection : NoFailureYet lostConnection.core :=
  Table.forall_insert ⟨nofun,rfl,rfl⟩ (fun k account ha => by cases ha)

theorem failure_reasons_agree_reconnecting :
    (∀ before, before <+: reconnecting →
        ReasonsAgree (before.foldl CoordinatorCall.run lostConnection).core) ↔
      ∀ before call, before ++ [call] <+: reconnecting →
        ¬ call.IsRefused (before.foldl CoordinatorCall.run lostConnection) :=
  failure_reasons_agree lostConnection reconnecting noFailureYet_lostConnection.reasonsAgree
    (by simp [reconnecting,CoordinatorCall.WritesNoFailure])

/-- A second attempt while the first worker is tracked is refused. -/
theorem refused_connect_gives_no_reason :
    ¬ ∀ (k : System) (calls : List (CoordinatorCall TokioXmppTransport)), NoFailureYet k.core →
      (∀ call ∈ calls, call.WritesNoFailure) → ReasonsAgree (calls.foldl CoordinatorCall.run k).core := by
  intro h
  have hk : NoFailureYet adaOffline.core :=
    Table.forall_insert ⟨nofun,rfl,rfl⟩ (fun k account ha => by cases ha)
  have ha := h adaOffline [.connectWithProxy 1 "secret" none none,.connectWithProxy 1 "secret" none none] hk
    (by simp [CoordinatorCall.WritesNoFailure])
  have hf := (ha 1 ⟨1,"ada@host","host","Ada",.failed,∅,none,none,true,[]⟩ (by decide +kernel)).failed rfl
  cases hf

inductive DisconnectBucket
  | terminal | retryable | configuration | internalPersistence | neutral
  deriving DecidableEq

def disconnectBucket : DisconnectKind → DisconnectBucket
  | .authenticationFailed => .terminal
  | .tlsVerificationFailed => .terminal
  | .serverRefused => .configuration
  | .networkLost => .retryable
  | .cancelled => .neutral
  | .unknown => .internalPersistence

/-- The layers agree on an error: it is shown as terminal exactly when it is not
recoverable, a worker goes on only after a recoverable one and with auto-reconnect,
and a worker reports it the same before and within its session. -/
structure CoherentFailure (error : XmppError) : Prop where
  terminal : error.disconnectedIsRecoverable = false ↔
    disconnectBucket error.classifyDisconnect = .terminal
  keeps : ∀ autoReconnect, reconnectDecision (.disconnected error) autoReconnect = .keep →
    error.disconnectedIsRecoverable = true ∧ autoReconnect = true
  reports : ∀ (w : Worker) (readings : Readings) (s : SessionState),
    ∃ failure, terminalFailureForEvent (.disconnected error) = some failure ∧
      w.connectPhase (.connectFailed failure) = some (w.finish,
        [.event (.disconnected w.accountId failure.recoverable (some failure.detail) failure.kind)]) ∧
      (handleClientEvent w.accountId w.autoReconnect (.disconnected error) readings s).2.2 =
        [.event (.disconnected w.accountId failure.recoverable (some failure.detail) failure.kind)]

/-- A transient failure of the authentication: recoverable, and shown as terminal. -/
def temporaryAuthFailure : XmppError := .auth (.fail .temporaryAuthFailure)

/-- The two classifiers disagree on the transient authentication failure only. -/
theorem recoverable_iff_not_terminal (error : XmppError) :
    (error.disconnectedIsRecoverable = false ↔
        disconnectBucket error.classifyDisconnect = .terminal) ↔ error ≠ temporaryAuthFailure := by
  cases error
  case' auth error => rcases error with _ | _ | ⟨_ | _⟩ | _
  case' tls error => rcases error with ⟨_ | _,_⟩ | _
  all_goals simp [temporaryAuthFailure,XmppError.disconnectedIsRecoverable,XmppError.isAuthError,
    XmppError.isTlsVerificationError,XmppError.classifyDisconnect,disconnectBucket]

theorem recoverable_of_keep {error : XmppError} {autoReconnect : Bool}
    (h : reconnectDecision (.disconnected error) autoReconnect = .keep) :
    error.disconnectedIsRecoverable = true ∧ autoReconnect = true := by
  simp only [reconnectDecision] at h
  split at h
  · cases h
  · split at h <;> rename_i hkeep
    · exact Bool.and_eq_true_iff.mp hkeep
    · cases h

/-- The layers agree on every error but the transient authentication failure. -/
theorem coherentFailure_iff (error : XmppError) :
    CoherentFailure error ↔ error ≠ temporaryAuthFailure := by
  constructor
  · intro h
    exact (recoverable_iff_not_terminal error).mp h.terminal
  · intro h
    exact ⟨(recoverable_iff_not_terminal error).mpr h,fun _ => recoverable_of_keep,
      fun w readings s => ⟨_,rfl,rfl,rfl⟩⟩

/-- The transient failure is recoverable, kept with auto-reconnect, and shown as terminal. -/
theorem temporary_auth_failure_terminal :
    temporaryAuthFailure.disconnectedIsRecoverable = true ∧
      reconnectDecision (.disconnected temporaryAuthFailure) true = .keep ∧
      disconnectBucket temporaryAuthFailure.classifyDisconnect = .terminal ∧
      ¬ CoherentFailure temporaryAuthFailure := by
  refine ⟨rfl,by decide,rfl,fun h => ?_⟩
  have hr := h.terminal.mpr rfl
  cases hr

end MindChat
