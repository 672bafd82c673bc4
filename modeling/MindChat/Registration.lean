import MindChat.DirtyMarks

/-! A registration puts its account into the core and then opens the session. Where
the adapter refuses the session, the account stays, and the gateway does not mark
what it only knows as a failure. -/

namespace MindChat

open MindChatCore

def AccountSetup.fresh (setup : AccountSetup) (id : AccountId) : Account :=
  { id := id, jid := setup.jid, server := setup.server, displayName := setup.displayName,
    connectionState := .offline, capabilities := ∅, connectionError := none,
    disconnectKind := none, autoReconnect := true, proxies := [] }

namespace MindChatCore

variable {c : MindChatCore} {setup : AccountSetup}

theorem addAccount_valid (hj : validateJid setup.jid = .ok ()) (hs : validateServer setup.server = .ok ()) :
    c.addAccount setup =
      let id := allocated c.nextAccountId
      (.ok id,{ c.allocateAccountId.2 with
        accounts := c.accounts.insert id (setup.fresh id) }.push (.accountChanged id)) := by
  unfold addAccount
  rw [hj,hs]
  rfl

theorem addAccount_ok {id : AccountId} (h : (c.addAccount setup).1 = .ok id) :
    validateJid setup.jid = .ok () ∧ validateServer setup.server = .ok () := by
  unfold addAccount at h
  split at h
  · cases h
  · next hj =>
    split at h
    · cases h
    · next hs => exact ⟨hj,hs⟩

theorem durable_addAccount (h : c.AccountsKeyed) (hj : validateJid setup.jid = .ok ())
    (hs : validateServer setup.server = .ok ()) :
    (c.addAccount setup).2.durable = c.durable ↔
      (c.accounts.lookup (allocated c.nextAccountId)).map sanitizeAccount =
        some (setup.fresh (allocated c.nextAccountId)) := by
  have hk := h.addAccount setup
  rw [addAccount_valid hj hs] at hk ⊢
  dsimp only at hk ⊢
  have hself : sanitizeAccount (setup.fresh (allocated c.nextAccountId)) =
      setup.fresh (allocated c.nextAccountId) := rfl
  refine ⟨fun he => ?_,fun he => ?_⟩
  · have hmem : setup.fresh (allocated c.nextAccountId) ∈ c.durable.accounts := by
      rw [← he]
      refine List.mem_map.mpr ⟨_,Listing.mem_sortByKey.mpr (Table.mem_values.mpr ?_),hself⟩
      exact ⟨allocated c.nextAccountId,by simp only [push,Table.lookup_insert_if,if_true]⟩
    obtain ⟨a,ha,hfresh⟩ := List.mem_map.mp hmem
    obtain ⟨k,hlookup⟩ := Table.mem_values.mp (Listing.mem_sortByKey.mp ha)
    have hid : k = allocated c.nextAccountId :=
      calc k = a.id := (h k a hlookup).symm
        _ = (sanitizeAccount a).id := rfl
        _ = allocated c.nextAccountId := by rw [hfresh]; rfl
    rw [← hid,hlookup,Option.map_some,hfresh,hid]
  · refine durable_congr h hk (fun k => ?_) rfl rfl rfl rfl
    simp only [push,Table.lookup_insert_if]
    split_ifs with hid
    · rw [hid,he,Option.map_some,hself]
    · rfl

theorem setConnectionState_isOk {accountId : AccountId} (h : (c.accounts.lookup accountId).isSome)
    (state : ConnectionState) : (c.setConnectionState accountId state).1 = .ok () := by
  obtain ⟨account,ha⟩ := Option.isSome_iff_exists.mp h
  simp only [setConnectionState,updateAccount,ha]

end MindChatCore

section

variable {T : Type} [XmppTransport T]

theorem TransportCoordinator.connectWithProxy_isOk {k : TransportCoordinator T} {accountId : AccountId}
    {account : Account} (h : k.core.accounts.lookup accountId = some account) (password : String)
    (proxy : Option ProxyConfig) (proxyPassword : Option String) :
    (k.connectWithProxy accountId password proxy proxyPassword).1.isOk =
      (XmppTransport.connect k.transport
        { accountId := accountId, jid := account.jid, server := account.server, password := password,
          autoReconnect := account.autoReconnect, proxy := proxy, proxyPassword := proxyPassword }).1.isOk := by
  have hok : (k.core.setConnectionState accountId .connecting).1 = .ok () :=
    setConnectionState_isOk (by rw [h]; rfl) .connecting
  unfold connectWithProxy
  rw [h]
  dsimp only
  rcases hc : k.core.setConnectionState accountId .connecting with ⟨_ | _,c⟩
  · rw [hc] at hok
    cases hok
  · dsimp only
    rcases XmppTransport.connect k.transport _ with ⟨_ | _,t⟩
    · dsimp only
      rcases c.setConnectionState accountId .failed with ⟨_ | _,d⟩ <;> rfl
    · rfl

namespace RegistrationInput

/-- The session that follows a registration is a direct one. -/
def request (input : RegistrationInput) (accountId : AccountId) : ConnectionRequest :=
  { accountId := accountId, jid := input.setup.jid, server := input.setup.server,
    password := input.password, autoReconnect := true, proxy := none, proxyPassword := none }

/-- The server registers the account, the core takes it as a new one, and the adapter
does not open its session. -/
structure Strands (input : RegistrationInput) (exchange : T → Bool × T) (k : TransportCoordinator T) :
    Prop where
  password : input.password ≠ ""
  username : Text.trim input.username ≠ ""
  server : Text.trim input.server ≠ ""
  registered : (exchange k.transport).1 = true
  jid : validateJid input.setup.jid = .ok ()
  host : validateServer input.setup.server = .ok ()
  new : (k.core.accounts.lookup (allocated k.core.nextAccountId)).map sanitizeAccount ≠
    some (input.setup.fresh (allocated k.core.nextAccountId))
  refused : (XmppTransport.connect (exchange k.transport).2
    (input.request (allocated k.core.nextAccountId))).1.isOk = false

end RegistrationInput

namespace NativeGateway

variable {input : RegistrationInput} {exchange : T → Bool × T} {k : TransportCoordinator T}

theorem bindingRegister_keyed (h : k.core.AccountsKeyed) (input : RegistrationInput)
    (exchange : T → Bool × T) : (bindingRegister input exchange k).2.core.AccountsKeyed := by
  unfold bindingRegister MindChatCoreHandle.registerAccount
  split
  · exact h
  split
  · exact h
  · have ha := h.addAccount input.setup
    rcases hadd : k.core.addAccount input.setup with ⟨e | accountId,c⟩
    · rw [hadd] at ha
      exact ha
    · rw [hadd] at ha
      have hk := (AccountsKept.connectWithProxy (k := ⟨c,(exchange k.transport).2⟩) accountId
        input.password none none).keyed ha
      dsimp only
      rcases hconnect : TransportCoordinator.connectWithProxy ⟨c,(exchange k.transport).2⟩ accountId
          input.password none none with ⟨_ | _,k'⟩
      all_goals
        rw [hconnect] at hk
        exact hk

/-- A registration that fails after it changed the durable state. -/
theorem strands_iff (h : k.core.AccountsKeyed) : input.Strands exchange k ↔
    (bindingRegister input exchange k).1 = none ∧
      (bindingRegister input exchange k).2.core.durable ≠ k.core.durable := by
  unfold bindingRegister
  by_cases hempty : input.password = "" ∨ Text.trim input.username = "" ∨ Text.trim input.server = ""
  · rw [if_pos hempty]
    refine ⟨fun hs => ?_,fun hr => (hr.2 rfl).elim⟩
    simp only [hs.password,hs.username,hs.server,or_self] at hempty
  rw [if_neg hempty]
  push Not at hempty
  obtain ⟨hpassword,husername,hserver⟩ := hempty
  unfold MindChatCoreHandle.registerAccount
  by_cases hregistered : (exchange k.transport).1 = false
  · rw [if_pos hregistered]
    refine ⟨fun hs => ?_,fun hr => (hr.2 rfl).elim⟩
    rw [hs.registered] at hregistered
    cases hregistered
  rw [if_neg hregistered]
  rcases hadd : k.core.addAccount input.setup with ⟨e | accountId,c⟩
  · dsimp only
    refine ⟨fun hs => ?_,fun hr => (hr.2 (congrArg MindChatCore.durable (addAccount_error hadd))).elim⟩
    rw [addAccount_valid hs.jid hs.host] at hadd
    cases hadd
  · obtain ⟨hj,hs⟩ := addAccount_ok (congrArg Prod.fst hadd)
    have hkeyed := h.addAccount input.setup
    have hdurable := durable_addAccount h hj hs
    obtain ⟨hid,hlookup⟩ : accountId = allocated k.core.nextAccountId ∧
        c.accounts.lookup accountId = some (input.setup.fresh accountId) := by
      have hvalid := hadd.symm.trans (addAccount_valid hj hs)
      simp only [Prod.mk.injEq,Except.ok.injEq] at hvalid
      obtain ⟨rfl,rfl⟩ := hvalid
      exact ⟨rfl,by simp only [push,Table.lookup_insert_if,if_true]⟩
    rw [hadd] at hkeyed hdurable
    have hstill := durable_connectWithProxy (k := ⟨c,(exchange k.transport).2⟩) hkeyed accountId
      input.password none none
    have hok := TransportCoordinator.connectWithProxy_isOk (k := ⟨c,(exchange k.transport).2⟩) hlookup
      input.password none none
    dsimp only
    rcases hconnect : TransportCoordinator.connectWithProxy ⟨c,(exchange k.transport).2⟩ accountId
        input.password none none with ⟨e | u,k'⟩
    · rw [hconnect] at hstill hok
      refine ⟨fun hr => ⟨rfl,fun he => hr.new (hdurable.mp (hstill.symm.trans he))⟩,fun hr => ?_⟩
      exact { password := hpassword, username := husername, server := hserver,
              registered := by simpa using hregistered, jid := hj, host := hs,
              new := fun hn => hr.2 (hstill.trans (hdurable.mpr hn)),
              refused := by rw [← hid]; exact hok.symm }
    · rw [hconnect] at hok
      refine ⟨fun hr => ?_,fun hr => by cases hr.1⟩
      have hrefused := hr.refused
      rw [← hid] at hrefused
      cases hok.trans hrefused

end NativeGateway

/-- The call is a registration that strands its account in the core. -/
def GatewayCall.Loses (call : GatewayCall T) (s : NativeGateway T) : Prop :=
  match call with
  | .registerAccount jid server displayName password exchange _ =>
    ∃ input, validateRegistration jid server displayName password = .ok input ∧
      input.Strands exchange s.session
  | _ => False

namespace NativeGateway

variable (jid server displayName password : String) (exchange : T → Bool × T) (message : Option String)

theorem keeps_registerAccount :
    (registerAccount jid server displayName password exchange message).Keeps Good := by
  unfold registerAccount
  cases validateRegistration jid server displayName password with
  | error refusal => exact id
  | ok input =>
    intro s hs
    refine ⟨bindingRegister_keyed hs input exchange,?_⟩
    dsimp only
    cases (bindingRegister input exchange s.session).1 with
    | none => exact (marks_refresh_ret _).keeps.mono fun h => h.elim id fun h => h rfl
    | some accountId => exact (marks_joined accountId _ False).keeps.mono fun h => h.elim id fun h => h rfl

theorem marks_registerAccount :
    (registerAccount jid server displayName password exchange message).CoversFrom Good durable fun s =>
      ¬ (GatewayCall.registerAccount jid server displayName password exchange message).Loses s := by
  unfold registerAccount GatewayCall.Loses
  cases hv : validateRegistration jid server displayName password with
  | error refusal => exact id
  | ok input =>
    intro s hs hok
    dsimp only
    cases hr : (bindingRegister input exchange s.session).1 with
    | none =>
      refine (marks_refresh_ret _).mono fun hd => hok ⟨input,hv,?_⟩
      exact (strands_iff hs).mpr ⟨hr,hd⟩
    | some accountId => exact marks_joined accountId _ _

end NativeGateway

namespace GatewayCall

open NativeGateway

/-- A registration aside, a call marks what it changes whatever state it finds. -/
theorem marks_body (call : GatewayCall T) :
    (∃ jid server displayName password exchange message,
      call = .registerAccount jid server displayName password exchange message) ∨
    Marks call.body False := by
  cases call with
  | registerAccount jid server displayName password exchange message =>
    exact .inl ⟨jid,server,displayName,password,exchange,message,rfl⟩
  | selectAccount accountId => exact .inr (marks_selectAccount accountId)
  | addAccount jid server displayName password proxyPassword =>
    exact .inr (marks_addAccount jid server displayName password proxyPassword)
  | reconnectAccount accountId password proxyPassword =>
    exact .inr (marks_reconnectAccount accountId password proxyPassword)
  | disconnectAccount accountId => exact .inr (marks_disconnectAccount accountId)
  | markConversationRead conversationId => exact .inr (marks_markConversationRead conversationId)
  | updateProfile accountId profile => exact .inr (marks_updateProfile accountId profile)
  | deleteAccount accountId tracked => exact .inr (marks_deleteAccount accountId tracked)
  | renameAccount accountId displayName => exact .inr (marks_renameAccount accountId displayName)
  | deleteConversation conversationId => exact .inr (marks_deleteConversation conversationId)
  | addContact jid displayName => exact .inr (marks_addContact jid displayName)
  | openConversation address title group now =>
    exact .inr (marks_openConversation address title group now)
  | sendText conversationId text now => exact .inr (marks_sendText conversationId text now)
  | addProxy config => exact .inr (marks_addProxy config)
  | updateProxy proxyId config => exact .inr (marks_updateProxy proxyId config)
  | deleteProxy proxyId => exact .inr (marks_deleteProxy proxyId)
  | pingProxy proxyId outcome => exact .inr (marks_pingProxy proxyId outcome)
  | setAccountProxy accountId config => exact .inr (marks_setAccountProxy accountId config)
  | pollTransport elapsed => exact .inr (marks_pollTransport elapsed)
  | persistNow => exact .inr marks_persistNow

theorem keeps_body (call : GatewayCall T) : call.body.Keeps Good := by
  rcases marks_body call with ⟨jid,server,displayName,password,exchange,message,rfl⟩ | h
  · exact keeps_registerAccount jid server displayName password exchange message
  · exact h.keeps

theorem coversFrom_body (call : GatewayCall T) :
    call.body.CoversFrom Good durable fun s => ¬ call.Loses s := by
  rcases marks_body call with ⟨jid,server,displayName,password,exchange,message,rfl⟩ | h
  · exact marks_registerAccount jid server displayName password exchange message
  · exact h.from _

end GatewayCall

end

end MindChat
