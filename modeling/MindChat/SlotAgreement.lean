import MindChat.FailureReasons
import MindChat.Gateway
import MindChat.SessionIsolation

/-! The projected connection of an account and its slot in the transport, where the
two are written by one call of the coordinator: a connect that the occupied slot
refuses, and a disconnect that empties the slot and may fail afterwards. -/

namespace MindChat

open MindChatCore

def Account.shown (account : Account) : ConnectionState × Option String × Option DisconnectKind :=
  (account.connectionState,account.connectionError,account.disconnectKind)

/-- From `k` to `l` the account shows the same connection, the transport is the same,
and a flush of the outbox gives the same answer. -/
structure LeftAlone (accountId : AccountId) (k l : System) : Prop where
  shown : (l.core.accounts.lookup accountId).map Account.shown =
    (k.core.accounts.lookup accountId).map Account.shown
  transport : l.transport = k.transport
  flush : ∀ elapsed, (MindChatCoreHandle.flushOutbox elapsed l accountId).1 =
    (MindChatCoreHandle.flushOutbox elapsed k accountId).1

/-- The account is unknown, or it already shows a failure without any reason. -/
def ShowsBareFailure (c : MindChatCore) (accountId : AccountId) : Prop :=
  ∀ account, c.accounts.lookup accountId = some account → account.shown = (.failed,none,none)

namespace System

variable {k : System} {accountId : AccountId} {password : String} {proxy : Option ProxyConfig}
  {proxyPassword : Option String}

theorem connect_occupied {t : TokioXmppTransport} (request : ConnectionRequest)
    (h : (t.workers.lookup request.accountId).isSome) :
    XmppTransport.connect t request = (.error (.unsupported "account is already connecting"),t) :=
  if_pos h

/-- All a refused connect writes is the projection of the account. -/
theorem connectWithProxy_occupied (h : (k.transport.workers.lookup accountId).isSome) {account : Account}
    (ha : k.core.accounts.lookup accountId = some account) (password : String)
    (proxy : Option ProxyConfig) (proxyPassword : Option String) :
    let r := k.connectWithProxy accountId password proxy proxyPassword
    r.1 = .error (.transport (.unsupported "account is already connecting")) ∧
      r.2.transport = k.transport ∧ ∃ failed, r.2.core.accounts.lookup accountId = some failed ∧
        failed.shown = (.failed,none,none) := by
  have hc := connect_occupied
    (TransportCoordinator.connectionRequest account accountId password proxy proxyPassword) h
  have hr := TransportCoordinator.connectWithProxy_refused ha hc
  dsimp only
  rw [hr]
  exact ⟨rfl,rfl,_,AList.lookup_insert _,rfl⟩

theorem connectWithProxy_unknown (ha : k.core.accounts.lookup accountId = none) :
    k.connectWithProxy accountId password proxy proxyPassword =
      (.error (.core (.unknownAccount accountId)),k) := by
  unfold TransportCoordinator.connectWithProxy
  rw [ha]

theorem flushOutbox_failed {account : Account} (ha : k.core.accounts.lookup accountId = some account)
    (hs : account.shown = (.failed,none,none)) (elapsed : ℕ → ℕ) :
    MindChatCoreHandle.flushOutbox elapsed k accountId = (.ok 0,k) := by
  have hf : account.connectionState = .failed := (Prod.mk.inj hs).1
  have hc : k.core.connection accountId = some .failed := by
    rw [MindChatCore.connection,ha,Option.map_some,hf]
  unfold MindChatCoreHandle.flushOutbox
  rw [hc]
  rfl

/-- A connect to an occupied slot fails; it leaves the account undisturbed exactly when
the account is unknown or already shows a failure without any reason. -/
theorem refused_connect_disturbs (k : System) (accountId : AccountId) (password : String)
    (proxy : Option ProxyConfig) (proxyPassword : Option String)
    (h : (k.transport.workers.lookup accountId).isSome) :
    let r := k.connectWithProxy accountId password proxy proxyPassword
    ((∃ e, r.1 = .error e) ∧ LeftAlone accountId k r.2) ↔ ShowsBareFailure k.core accountId := by
  dsimp only
  cases ha : k.core.accounts.lookup accountId with
  | none =>
    rw [connectWithProxy_unknown ha]
    refine iff_of_true ⟨⟨_,rfl⟩,rfl,rfl,fun _ => rfl⟩ fun account hb => ?_
    rw [ha] at hb
    cases hb
  | some account =>
    obtain ⟨he,ht,failed,hf,hs⟩ := connectWithProxy_occupied h ha password proxy proxyPassword
    constructor
    · rintro ⟨-,hu⟩ other ho
      have hk := hu.shown
      rw [hf,ho,Option.map_some,Option.map_some,hs] at hk
      exact (Option.some.inj hk).symm
    · intro hb
      have hshown := hb account ha
      refine ⟨⟨_,he⟩,?_,ht,fun elapsed => ?_⟩
      · rw [hf,ha,Option.map_some,Option.map_some,hs,hshown]
      · rw [flushOutbox_failed hf hs,flushOutbox_failed ha hshown]

def adaTalking : System := adaOnline.pollNextEvent.2

theorem refused_connect_disturbs_talking :
    let r := adaTalking.connectWithProxy 1 "secret" none none
    ((∃ e, r.1 = .error e) ∧ LeftAlone 1 adaTalking r.2) ↔ ShowsBareFailure adaTalking.core 1 :=
  refused_connect_disturbs adaTalking 1 "secret" none none (by decide)

/-- A second connect shows a failure while the session goes on. -/
theorem refused_connect_fails_online :
    ¬ ∀ (k : System) (accountId : AccountId) (password : String) (proxy : Option ProxyConfig)
      (proxyPassword : Option String), (k.transport.workers.lookup accountId).isSome →
        let r := k.connectWithProxy accountId password proxy proxyPassword
        (∃ e, r.1 = .error e) ∧ LeftAlone accountId k r.2 := by
  intro h
  have hu := (h adaTalking 1 "secret" none none (by decide)).2
  have hs : (adaTalking.core.accounts.lookup 1).map Account.shown = some (.online,none,none) := by
    decide +kernel
  have hf : ((adaTalking.connectWithProxy 1 "secret" none none).2.core.accounts.lookup 1).map
      Account.shown = some (.failed,none,none) := by decide +kernel
  have hk := hu.shown
  rw [hs,hf] at hk
  cases hk

end System

namespace TokioXmppTransport

variable {t : TokioXmppTransport} {accountId : AccountId} {i : SessionId}

/-- The transport once it has waited for the worker to take the disconnect command. -/
def closing (t : TokioXmppTransport) (accountId : AccountId) (i : SessionId) : TokioXmppTransport :=
  (({ t with workers := t.workers.erase accountId } : TokioXmppTransport).sendCommand i
    (.disconnect t.nextCall)).wait

/-- The tracked worker takes the command and answers `Ok` in time. -/
def ClosesCleanly (t : TokioXmppTransport) (accountId : AccountId) : Prop :=
  ∃ i, t.workers.lookup accountId = some i ∧ t.hasReturned i = false ∧
    (t.closing accountId i).replies.lookup t.nextCall = some (.ok ())

theorem response_isOk {call : ℕ} {timedOut stopped : String} :
    t.response i call timedOut stopped = .ok () ↔ t.replies.lookup call = some (.ok ()) := by
  unfold response
  cases t.replies.lookup call <;> simp

theorem disconnect_isOk : (t.disconnect accountId).1 = .ok () ↔ t.ClosesCleanly accountId := by
  unfold disconnect ClosesCleanly
  cases hw : t.workers.lookup accountId with
  | none => simp
  | some i =>
    have hr : ({ t with workers := t.workers.erase accountId } : TokioXmppTransport).hasReturned i =
        t.hasReturned i := rfl
    simp only [hr,Option.some.injEq,exists_eq_left']
    cases t.hasReturned i with
    | true => simp
    | false =>
      simp only [Bool.false_eq_true,if_false,true_and]
      exact response_isOk

end TokioXmppTransport

namespace MindChatCore

def ShowsLive (c : MindChatCore) (accountId : AccountId) : Prop :=
  c.connection accountId = some .connecting ∨ c.connection accountId = some .online

end MindChatCore

namespace System

variable {k : System} {accountId : AccountId}

/-- An account without a worker is not shown as live. -/
def SlotAgrees (k : System) (accountId : AccountId) : Prop :=
  k.transport.workers.lookup accountId = none → ¬ k.core.ShowsLive accountId

/-- Every disconnect empties the slot, whatever it returns. -/
theorem lookup_disconnect_self (k : System) (accountId : AccountId) :
    (TransportCoordinator.disconnect k accountId).2.transport.workers.lookup accountId = none := by
  rw [TransportCoordinator.transport_disconnect]
  exact (k.transport.lookup_disconnect accountId accountId).trans (if_pos rfl)

theorem not_showsLive_disconnected (h : (XmppTransport.disconnect k.transport accountId).1 = .ok ()) :
    ¬ (TransportCoordinator.disconnect k accountId).2.core.ShowsLive accountId := by
  have hc := k.core.connection_applyTransportEvent (.disconnected accountId true none .cancelled) accountId
  simp only [TransportEvent.projects,if_true,Option.getD_some] at hc
  unfold TransportCoordinator.disconnect
  rcases hd : XmppTransport.disconnect k.transport accountId with ⟨e | u,t⟩
  · rw [hd] at h
    cases h
  · dsimp only
    split <;> rename_i he <;> rw [he] at hc <;> dsimp only at hc ⊢ <;> unfold MindChatCore.ShowsLive <;>
      rw [hc] <;> cases k.core.connection accountId <;> simp

/-- After a disconnect, transport and core agree exactly when the worker closed cleanly or
the account was not shown as live before. -/
theorem disconnect_agrees (k : System) (accountId : AccountId) :
    SlotAgrees (TransportCoordinator.disconnect k accountId).2 accountId ↔
      k.transport.ClosesCleanly accountId ∨ ¬ k.core.ShowsLive accountId := by
  have hslot := lookup_disconnect_self k accountId
  constructor
  · intro h
    rcases hd : (XmppTransport.disconnect k.transport accountId).1 with e | u
    · have hc := TransportCoordinator.core_disconnect_error hd
      have hn := h hslot
      rw [hc] at hn
      exact .inr hn
    · exact .inl (TokioXmppTransport.disconnect_isOk.mp hd)
  · intro h _
    rcases hd : (XmppTransport.disconnect k.transport accountId).1 with e | u
    · rw [TransportCoordinator.core_disconnect_error hd]
      refine h.resolve_left fun hclean => ?_
      have hok := TokioXmppTransport.disconnect_isOk.mpr hclean
      cases hd.symm.trans hok
    · exact not_showsLive_disconnected hd

/-- The worker does not answer in time: its slot is gone, the account stays online. -/
theorem disconnect_timeout_stays_online :
    ¬ ∀ (k : System) (accountId : AccountId),
      SlotAgrees (TransportCoordinator.disconnect k accountId).2 accountId := by
  intro h
  exact h (adaTalking.waiting []) 1 (lookup_disconnect_self _ _) (.inr (by decide +kernel))

end System
end MindChat
