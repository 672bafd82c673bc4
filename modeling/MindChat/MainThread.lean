import MindChat.GatewayService
import MindChat.Interference
import MindChat.ProxyRoundTrip

/-! Which calls of the gateway may bring a new account into the core or a new name
into the stored profiles and assignments. Most calls do neither, whatever comes
between their steps. -/

namespace MindChat

open MindChatCore

/-- No account appears and no id is handed out. -/
structure CoreShrinks (c d : MindChatCore) : Prop where
  next : d.nextAccountId = c.nextAccountId
  accounts : ∀ k, (d.accounts.lookup k).isSome → (c.accounts.lookup k).isSome

namespace CoreShrinks

theorem of_kept {c d : MindChatCore} (h : AccountsKept c d) : CoreShrinks c d :=
  ⟨h.next,fun k hk => by rwa [h.isSome k] at hk⟩

theorem refl (c : MindChatCore) : CoreShrinks c c := ⟨rfl,fun _ => id⟩

theorem trans {c d e : MindChatCore} (h : CoreShrinks c d) (k : CoreShrinks d e) : CoreShrinks c e :=
  ⟨k.next.trans h.next,fun a ha => h.accounts a (k.accounts a ha)⟩

theorem deleteAccount (c : MindChatCore) (accountId : AccountId) :
    CoreShrinks c (c.deleteAccount accountId).2 := by
  have hremoved (ids : List ConversationId) : AccountsKept c (ids.foldl removeConversationState c) := by
    induction ids generalizing c with
    | nil => exact .refl c
    | cons id ids ih =>
      have hid : AccountsKept c (c.removeConversationState id) := by
        rw [removeConversationState_eq]
        exact .of_eq rfl rfl
      exact hid.trans (ih _)
  unfold MindChatCore.deleteAccount
  split
  · exact refl c
  · refine ⟨(hremoved _).next,fun k hk => ?_⟩
    rw [← (hremoved _).isSome k]
    simp only [push,Table.lookup_erase_if] at hk
    split_ifs at hk
    · cases hk
    · exact hk

end CoreShrinks

namespace ProxyBook

/-- An assignment, loaded or stored, names the account. -/
def Names (book : ProxyBook) (accountId : Int64) : Prop :=
  (book.assignments.lookup accountId).isSome ∨ (book.store.readAssignments.lookup accountId).isSome

variable {book : ProxyBook} {accountId : Int64}

theorem names_writeAssignments {assignments : Table Int64 String}
    (h : ∀ a proxyId, assignments.lookup a = some proxyId → Plain proxyId.toList)
    (hn : (book.writeAssignments assignments).Names accountId) :
    (assignments.lookup accountId).isSome := by
  rcases hn with hn | hn
  · exact hn
  · rw [writeAssignments,lookup_readAssignments_writeAssignments h] at hn
    obtain ⟨proxyId,hp⟩ := Option.isSome_iff_exists.mp hn
    rw [(Option.filter_eq_some_iff.mp hp).1]
    rfl

theorem names_of_le (h : book.Storable) {assignments : Table Int64 String}
    (hle : ∀ a proxyId, assignments.lookup a = some proxyId → book.assignments.lookup a = some proxyId)
    (hn : (book.writeAssignments assignments).Names accountId) : book.Names accountId := by
  have ha := names_writeAssignments (fun a proxyId hp => h.assigned a proxyId (hle a proxyId hp)) hn
  obtain ⟨proxyId,hp⟩ := Option.isSome_iff_exists.mp ha
  exact .inl (by rw [hle _ _ hp]; rfl)

end ProxyBook

namespace NativeGateway

variable {T : Type}

def Profiled (s : NativeGateway T) (accountId : Int64) : Prop :=
  (s.preferences.readProfiles.lookup accountId).isSome ∨ (s.profilesCache.lookup accountId).isSome

/-- A profile or an assignment names the account. -/
def Named (s : NativeGateway T) (accountId : Int64) : Prop :=
  s.Profiled accountId ∨ s.book.Names accountId

/-- Neither an account nor a name appears. -/
structure Shrinks (s t : NativeGateway T) : Prop where
  core : CoreShrinks s.core t.core
  book : t.book.Storable
  profiled : ∀ a, t.Profiled a → s.Profiled a
  names : ∀ a, t.book.Names a → s.book.Names a

/-- No id that the core has yet to hand out is named. -/
structure Reserved (s : NativeGateway T) : Prop where
  book : s.book.Storable
  below : ∀ k, (s.core.accounts.lookup k).isSome → k < allocated s.core.nextAccountId
  named : ∀ a, s.Named a → toULong a < allocated s.core.nextAccountId

/-- An account that appears is named by no profile and no assignment. -/
structure Unclaimed (s t : NativeGateway T) : Prop where
  book : t.book.Storable
  fresh : ∀ k, s.core.accounts.lookup k = none → (t.core.accounts.lookup k).isSome → ¬ t.Named (toLong k)

theorem Shrinks.named {s t : NativeGateway T} (h : Shrinks s t) {a : Int64} (ha : t.Named a) : s.Named a :=
  ha.imp (h.profiled a) (h.names a)

theorem Shrinks.unclaimed {s t : NativeGateway T} (h : Shrinks s t) : Unclaimed s t := by
  refine ⟨h.book,fun k hk hsome => ?_⟩
  have hs := h.core.accounts k hsome
  rw [hk] at hs
  cases hs

theorem Reserved.shrinks {s t : NativeGateway T} (h : s.Reserved) (ht : Shrinks s t) : t.Reserved := by
  refine ⟨ht.book,fun k hk => ?_,fun a ha => ?_⟩
  · rw [ht.core.next]
    exact h.below k (ht.core.accounts k hk)
  · rw [ht.core.next]
    exact h.named a (ht.named ha)

/-- The main thread alone may add accounts and names. -/
def mainContract (T : Type) : Contract (NativeGateway T) where
  rely s t := s.book.Storable → Shrinks s t
  guarantee s t := s.book.Storable → Unclaimed s t
  idle := Reserved
  refl s h := ⟨.refl s.core,h,fun _ => id,fun _ => id⟩
  trans _ _ _ hst htu h :=
    have ht := hst h
    have hu := htu ht.book
    ⟨ht.core.trans hu.core,hu.book,fun a ha => ht.profiled a (hu.profiled a ha),
      fun a ha => ht.names a (hu.names a ha)⟩
  allows _ _ hst h := (hst h).unclaimed
  rests _ _ hs hst := hs.shrinks (hst hs.book)

/-- Every step does what any thread may do. -/
abbrev Harmless (p : GatewayProc T) : Prop := p.Acts (mainContract T).rely

variable {A E B : Type}

theorem harmless_act {f : NativeGateway T → NativeGateway T} {next : NativeGateway T → GatewayProc T}
    (hf : ∀ s, s.book.Storable → Shrinks s (f s)) (h : ∀ s, Harmless (next s)) :
    Harmless (.act f next) := fun s => ⟨hf s,h s⟩

theorem harmless_read {f : NativeGateway T → A} {next : A → GatewayProc T}
    (h : ∀ a, Harmless (next a)) : Harmless (.read f next) :=
  Proc.Acts.read (mainContract T).refl h

theorem harmless_native {f : TransportCoordinator T → A × TransportCoordinator T} {next : A → GatewayProc T}
    (hf : ∀ k, CoreShrinks k.core (f k).2.core) (h : ∀ a, Harmless (next a)) : Harmless (native f next) :=
  harmless_act (fun s hs => ⟨hf s.session,hs,fun _ => id,fun _ => id⟩) fun _ => h _

theorem harmless_coreCall {f : MindChatCore → A × MindChatCore} {next : A → GatewayProc T}
    (hf : ∀ c, AccountsKept c (f c).2) (h : ∀ a, Harmless (next a)) : Harmless (coreCall f next) :=
  harmless_native (fun k => .of_kept (hf k.core)) h

theorem harmless_shown {f : NativeGateway T → NativeGateway T} {next : GatewayProc T}
    (hf : ∀ s, AccountsKept s.core (f s).core ∧ (f s).book = s.book ∧
      (f s).preferences = s.preferences ∧ (f s).profilesCache = s.profilesCache)
    (h : Harmless next) : Harmless (.modify f next) := by
  refine harmless_act (fun s hs => ?_) fun _ => h
  obtain ⟨hc,hb,hp,hl⟩ := hf s
  refine ⟨.of_kept hc,hb ▸ hs,fun a ha => ?_,fun a ha => hb ▸ ha⟩
  unfold Profiled at ha ⊢
  rwa [hp,hl] at ha

theorem harmless_ret (reply : Reply) : Harmless (.ret reply : GatewayProc T) := trivial

theorem harmless_refreshWith {next : GatewayProc T} (h : Harmless next) (snapshot : CoreSnapshot) :
    Harmless (refreshWith snapshot next) :=
  harmless_shown (fun _ => ⟨.of_eq rfl rfl,rfl,rfl,rfl⟩) h

theorem harmless_refresh {next : GatewayProc T} (h : Harmless next) : Harmless (refresh next) :=
  harmless_read fun snapshot => harmless_refreshWith h snapshot

theorem harmless_refresh_ret (reply : Reply) : Harmless (refresh (.ret reply) : GatewayProc T) :=
  harmless_refresh (harmless_ret reply)

theorem harmless_marked (reply : Except E B → Reply) (r : Except E B) :
    Harmless (marked reply r : GatewayProc T) := by
  cases r <;> exact harmless_refresh_ret _

theorem harmless_withActive {next : GatewayProc T} (h : Harmless next) (accountId : AccountId) :
    Harmless (.modify (fun s => s.withActive accountId) next) :=
  harmless_shown (fun s => ⟨.refl s.core,rfl,rfl,rfl⟩) h

theorem harmless_book {f : NativeGateway T → ProxyBook} {next : GatewayProc T}
    (hf : ∀ s, s.book.Storable → (f s).Storable ∧ ∀ a, (f s).Names a → s.book.Names a)
    (h : Harmless next) : Harmless (.modify (fun s => s.withBook (f s)) next) :=
  harmless_act (fun s hs => ⟨.refl s.core,(hf s hs).1,fun _ => id,(hf s hs).2⟩) fun _ => h

theorem harmless_writeAssignments {f : NativeGateway T → Table Int64 String} {next : GatewayProc T}
    (hf : ∀ s a proxyId, (f s).lookup a = some proxyId → s.book.assignments.lookup a = some proxyId)
    (h : Harmless next) : Harmless (.modify (fun s => s.withBook (s.book.writeAssignments (f s))) next) :=
  harmless_book (fun s hs => ⟨hs.writeAssignments fun a proxyId hp => hs.assigned a proxyId (hf s a proxyId hp),
    fun _ => ProxyBook.names_of_le hs (hf s)⟩) h

theorem harmless_updateProxy (proxyId : String) (config : UiProxyConfig) :
    Harmless (updateProxy proxyId config : GatewayProc T) := by
  unfold updateProxy
  split
  · trivial
  · refine harmless_read fun known => ?_
    split
    · refine harmless_book (fun s hs => ⟨hs.updateProxy proxyId config,fun a ha => ?_⟩)
        (harmless_refresh_ret _)
      unfold ProxyBook.updateProxy at ha
      repeat' split at ha
      all_goals exact ha
    · trivial

theorem harmless_addProxy (config : UiProxyConfig) : Harmless (addProxy config : GatewayProc T) := by
  unfold addProxy
  split
  · trivial
  · refine harmless_book (fun s hs => ⟨hs.addProxy config,fun a ha => ?_⟩) (harmless_refresh_ret _)
    unfold ProxyBook.addProxy at ha
    split at ha <;> exact ha

theorem harmless_pingProxy (proxyId : String) (outcome : Option (Except ProxyError Unit × ℕ)) :
    Harmless (pingProxy proxyId outcome : GatewayProc T) := by
  refine harmless_read fun entry => ?_
  cases entry with
  | none => trivial
  | some entry =>
    refine harmless_book (fun s hs => ⟨hs.pingProxy proxyId outcome,fun a ha => ?_⟩)
      (harmless_refresh_ret _)
    unfold ProxyBook.pingProxy at ha
    split at ha <;> exact ha

theorem harmless_selectAccount (accountId : Int64) :
    Harmless (selectAccount accountId : GatewayProc T) := by
  refine harmless_read fun known => ?_
  split
  · exact harmless_withActive (harmless_refresh_ret _) _
  · trivial

theorem harmless_renameAccount (accountId : Int64) (displayName : String) :
    Harmless (renameAccount accountId displayName : GatewayProc T) := by
  unfold renameAccount
  dsimp only
  split
  · trivial
  · exact harmless_coreCall (fun _ => .updateAccountDisplayName _ _) fun r => harmless_marked _ r

theorem harmless_addContact (jid displayName : String) :
    Harmless (addContact jid displayName : GatewayProc T) := by
  refine harmless_read fun activeAccountId => ?_
  split
  · trivial
  · refine harmless_coreCall (fun _ => .upsertContact _ _ _ _ _) fun r => ?_
    cases r with
    | error e => exact harmless_ret (T := T) .done
    | ok u => exact harmless_refresh_ret _

theorem harmless_openConversation (address title : String) (group : Bool) (now : ℕ) :
    Harmless (openConversation address title group now : GatewayProc T) := by
  refine harmless_read fun activeAccountId => ?_
  split
  · trivial
  · unfold openLocalConversation
    refine harmless_coreCall (fun _ => .openConversation _ _ _ _ _) fun r => ?_
    cases r with
    | error e => exact harmless_ret (T := T) (.conversation none)
    | ok id => exact harmless_refresh_ret _

theorem harmless_sendText (conversationId : Int64) (text : String) (now : ℕ) :
    Harmless (sendText conversationId text now : GatewayProc T) := by
  refine harmless_read fun account => ?_
  cases account with
  | none => trivial
  | some account =>
    refine harmless_coreCall (fun _ => .sendText _ _ _ _ _) fun r => ?_
    cases r with
    | error e => exact harmless_ret (T := T) .done
    | ok id => exact harmless_shown (fun s => ⟨.refl s.core,rfl,rfl,rfl⟩) (harmless_refresh_ret _)

theorem harmless_clearProxies {next : GatewayProc T} (h : Harmless next) (accounts : List Int64) :
    Harmless (clearProxies next accounts) := by
  induction accounts with
  | nil => exact h
  | cons accountId rest ih =>
    refine harmless_coreCall (fun _ => .setAccountProxies _ _) fun r => ?_
    cases r <;> exact ih

theorem harmless_deleteProxy (proxyId : String) : Harmless (deleteProxy proxyId : GatewayProc T) := by
  refine harmless_read fun known => ?_
  split
  · refine harmless_book (fun s hs => ⟨hs.writeLibrary fun e he => ?_,fun _ => id⟩) ?_
    · exact hs.entries e (List.mem_filter.mp he).1
    · refine harmless_read fun accounts => harmless_writeAssignments (fun s a id ha => ?_)
        (harmless_clearProxies (harmless_refresh_ret _) accounts)
      rw [Table.lookup_retain] at ha
      exact (Option.filter_eq_some_iff.mp ha).1
  · trivial

theorem harmless_eraseAssignment {next : GatewayProc T} (h : Harmless next) (accountId : Int64) :
    Harmless (.modify (fun s => s.withBook
      (s.book.writeAssignments (s.book.assignments.erase accountId))) next) := by
  refine harmless_writeAssignments (fun s a id ha => ?_) h
  rw [Table.lookup_erase_if] at ha
  split_ifs at ha
  exact ha

theorem harmless_removeProfile {next : GatewayProc T} (h : Harmless next) (accountId : Int64) :
    Harmless (.modify (fun s => s.withPreferences (s.preferences.removeProfile accountId)) next) := by
  refine harmless_act (fun s hs => ⟨.refl s.core,hs,fun a ha => ?_,fun _ => id⟩) fun _ => h
  have hle (hn : ((s.preferences.removeProfile accountId).readProfiles.lookup a).isSome) :
      (s.preferences.readProfiles.lookup a).isSome := by
    unfold MindChatPreferences.readProfiles MindChatPreferences.removeProfile at *
    rw [Table.lookup_retain,Table.lookup_erase_if] at hn
    rw [Table.lookup_retain]
    split_ifs at hn
    · cases hn
    · exact hn
  exact .inl (ha.elim hle hle)

theorem harmless_flushAccounts [XmppTransport T] (elapsed : AccountId → ℕ → ℕ) {next : GatewayProc T}
    (h : Harmless next) (accountIds : List AccountId) : Harmless (flushAccounts elapsed next accountIds) := by
  induction accountIds with
  | nil => exact h
  | cons accountId rest ih =>
    exact harmless_native (fun k => .of_kept (.flushOutbox _ k accountId)) fun _ => ih

theorem harmless_finishPoll (onlineBefore : List AccountId) (snapshot : CoreSnapshot)
    (flushedAccounts : List AccountId) :
    Harmless (finishPoll onlineBefore snapshot flushedAccounts : GatewayProc T) :=
  harmless_shown (fun s => ⟨.refl s.core,rfl,rfl,rfl⟩) (harmless_refreshWith (harmless_ret _) snapshot)

theorem harmless_persistNow : Harmless (persistNow : GatewayProc T) := by
  intro due
  cases due <;> exact harmless_ret (T := T) .done

variable [XmppTransport T]

theorem harmless_settlePoll (elapsed : AccountId → ℕ → ℕ) (pendingAccounts onlineBefore : List AccountId)
    (processedEvents : Option ℕ) :
    Harmless (settlePoll elapsed pendingAccounts onlineBefore processedEvents : GatewayProc T) := by
  cases processedEvents with
  | none =>
    unfold settlePoll
    exact harmless_read fun snapshot => harmless_finishPoll onlineBefore snapshot []
  | some processedEvents =>
    simp only [settlePoll]
    split
    · trivial
    · have hcapture : Harmless (.read (fun s => s.core.snapshot) fun snapshot =>
          .requiresSave fun due =>
            if due then .save (finishPoll onlineBefore snapshot pendingAccounts)
            else finishPoll onlineBefore snapshot pendingAccounts : GatewayProc T) := by
        refine harmless_read fun snapshot due => ?_
        cases due <;> exact harmless_finishPoll onlineBefore snapshot pendingAccounts
      refine harmless_flushAccounts elapsed ?_ pendingAccounts
      split <;> exact hcapture

theorem harmless_drainTransportEvents {next : Option ℕ → GatewayProc T} (h : ∀ n, Harmless (next n))
    (left previousBatchSize batchesUsed eventsProcessed : ℕ) :
    Harmless (drainTransportEvents next left previousBatchSize batchesUsed eventsProcessed) := by
  induction left generalizing previousBatchSize batchesUsed eventsProcessed with
  | zero => exact h _
  | succ left ih =>
    unfold drainTransportEvents
    dsimp only
    split
    · refine harmless_native (fun k => .of_kept (.pollTransportEvents k _)) fun r => ?_
      cases r with
      | error e => exact h none
      | ok batch => exact ih batch _ _
    · exact h _

theorem harmless_pollTransport (elapsed : AccountId → ℕ → ℕ) :
    Harmless (pollTransport elapsed : GatewayProc T) :=
  harmless_read fun start => harmless_drainTransportEvents
    (harmless_settlePoll elapsed start.1 start.2) _ _ _ _

theorem harmless_connect (accountId : Int64) (password : String) (proxyPassword : Option String)
    {next : Bool → GatewayProc T} (h : ∀ connected, Harmless (next connected)) :
    Harmless (.call (fun s => s.connect accountId password proxyPassword) next) := by
  refine harmless_act (fun s hs => ?_) fun s => h _
  change s.Shrinks (s.connect accountId password proxyPassword).2
  unfold connect
  split
  · exact ⟨.of_kept (.connectWithProxy _ _ _ _),hs,fun _ => id,fun _ => id⟩
  · dsimp only
    split
    · exact ⟨.refl s.core,hs,fun _ => id,fun _ => id⟩
    · exact ⟨.of_kept (.connectWithProxy _ _ _ _),hs,fun _ => id,fun _ => id⟩

theorem harmless_reconnectAccount (accountId : Int64) (password : String) (proxyPassword : Option String) :
    Harmless (reconnectAccount accountId password proxyPassword : GatewayProc T) := by
  unfold reconnectAccount
  split
  · trivial
  · refine harmless_connect accountId password proxyPassword fun connected => ?_
    cases connected <;> exact harmless_refresh_ret _

theorem harmless_joinAccount (accountId : AccountId) (password : String) (proxyPassword : Option String) :
    Harmless (joinAccount accountId password proxyPassword : GatewayProc T) := by
  unfold joinAccount
  refine harmless_withActive (Proc.Acts.bind (harmless_reconnectAccount _ password proxyPassword) ?_) accountId
  exact fun reply => harmless_ret (T := T) reply

theorem harmless_deleteAccount (accountId : Int64) (tracked : T → Bool) :
    Harmless (deleteAccount accountId tracked : GatewayProc T) := by
  refine harmless_native (fun k => ?_) fun r => ?_
  · rw [(deleteAccount_spec k _ _).1]
    exact .deleteAccount _ _
  · cases r with
    | error e => exact harmless_refresh_ret _
    | ok u =>
      refine harmless_removeProfile (harmless_eraseAssignment (harmless_refresh ?_) accountId) accountId
      exact harmless_shown (fun s => ⟨.refl s.core,rfl,rfl,rfl⟩) trivial

end NativeGateway

end MindChat
