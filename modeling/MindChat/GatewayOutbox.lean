import MindChat.Gateway
import MindChat.Recovery

/-! The outbox of an online account is scheduled in the gateway over whole runs,
as long as no poll drops an account whose outbox it has not emptied. -/

namespace MindChat

open MindChatCore

/-- The step from `c` to `d` puts nothing into an outbox and brings no account online. -/
structure Hushed (c d : MindChatCore) : Prop where
  integrity : Integrity c → Integrity d
  drained : Integrity c → Drained c d
  online : ∀ a, d.connection a = some .online → c.connection a = some .online

namespace Hushed

variable {c d e : MindChatCore}

theorem refl (c : MindChatCore) : Hushed c c := ⟨id,fun _ => .refl c,fun _ => id⟩

theorem trans (h : Hushed c d) (j : Hushed d e) : Hushed c e where
  integrity hi := j.integrity (h.integrity hi)
  drained hi := (h.drained hi).trans (j.drained (h.integrity hi))
  online a ho := h.online a (j.online a ho)

theorem of_accounts (hi : Integrity c → Integrity d) (hd : Integrity c → Drained c d)
    (ha : d.accounts = c.accounts) : Hushed c d :=
  ⟨hi,hd,fun a ho => by rwa [connection_of_accounts ha] at ho⟩

theorem updateAccount (a : AccountId) {change : Account → Account}
    (hid : ∀ account, (change account).id = account.id)
    (ho : ∀ account, (change account).connectionState = .online → account.connectionState = .online) :
    Hushed c (c.updateAccount a change).2 where
  integrity hi := hi.edited (updateAccount_any hid)
  drained _ := .updateAccount a change
  online b hb := by
    unfold MindChatCore.updateAccount at hb
    split at hb
    · exact hb
    · rename_i account hl
      simp only [connection,push,Option.map_eq_some_iff,Table.lookup_insert_if] at hb ⊢
      obtain ⟨x,hx,hs⟩ := hb
      split_ifs at hx with he
      · cases hx
        exact ⟨account,he ▸ hl,ho account hs⟩
      · exact ⟨x,hx,hs⟩

theorem setConnectionState (a : AccountId) {state : ConnectionState} (hs : state ≠ .online) :
    Hushed c (c.setConnectionState a state).2 := by
  refine updateAccount a (fun _ => by split_ifs <;> rfl) (fun account h => ?_)
  split_ifs at h <;> exact (hs h).elim

theorem disconnected (a : AccountId) (recoverable : Bool) (detail : Option String)
    (kind : DisconnectKind) :
    Hushed c (c.applyTransportEvent (.disconnected a recoverable detail kind)).2 := by
  refine updateAccount a (fun _ => rfl) (fun account h => ?_)
  cases recoverable <;> cases h

theorem addAccount (hf : c.CountersBelowMax) (setup : AccountSetup) :
    Hushed c (c.addAccount setup).2 := by
  have integrity : Integrity c → Integrity (c.addAccount setup).2 :=
    fun hi => hi.edited (addAccount_any fun _ => hf)
  refine ⟨integrity,fun _ => ?_,fun a ho => ?_⟩
  · unfold MindChatCore.addAccount
    split
    · exact .refl c
    · split
      · exact .refl c
      · exact .of_eq rfl rfl
  · unfold MindChatCore.addAccount at ho
    split at ho
    · exact ho
    · split at ho
      · exact ho
      · simp only [connection,push,Option.map_eq_some_iff,allocateAccountId] at ho ⊢
        obtain ⟨x,hx,hs⟩ := ho
        rw [Table.lookup_insert_if] at hx
        split_ifs at hx
        · cases hx
          cases hs
        · exact ⟨x,hx,hs⟩

theorem upsertContact (a : AccountId) (jid displayName : String) (presence : ContactPresence)
    (status : Option String) : Hushed c (c.upsertContact a jid displayName presence status).2 := by
  have integrity : Integrity c → Integrity (c.upsertContact a jid displayName presence status).2 :=
    fun hi => hi.edited upsertContact_any
  refine .of_accounts integrity (fun _ => .of_eq ?_ ?_) ?_
  all_goals
    unfold MindChatCore.upsertContact
    repeat' split
    all_goals rfl

theorem openConversation (hf : c.CountersBelowMax) (a : AccountId) (kind : ConversationKind)
    (address title : String) (now : ℕ) : Hushed c (c.openConversation a kind address title now).2 := by
  have integrity : Integrity c → Integrity (c.openConversation a kind address title now).2 :=
    fun hi => hi.edited (openConversation_any fun _ => hf)
  refine .of_accounts integrity (fun hi => .openConversation hi a kind address title now) ?_
  unfold MindChatCore.openConversation
  split
  · rfl
  · split
    · rfl
    · split
      · rfl
      · split <;> rfl

theorem markConversationRead (id : ConversationId) : Hushed c (c.markConversationRead id).2 := by
  refine .of_accounts (fun hi => hi.edited markConversationRead_any)
    (fun hi => .markConversationRead hi id) ?_
  unfold MindChatCore.markConversationRead
  split <;> rfl

theorem deleteConversation (id : ConversationId) : Hushed c (c.deleteConversation id).2 := by
  refine .of_accounts (fun hi => hi.edited deleteConversation_any)
    (fun hi => .deleteConversation hi.toKeyed id) ?_
  unfold MindChatCore.deleteConversation
  split
  · rfl
  · exact accounts_removeConversationState c id

theorem deleteAccount (a : AccountId) : Hushed c (c.deleteAccount a).2 where
  integrity hi := hi.edited (deleteAccount_any hi.conversationKey)
  drained hi := .deleteAccount hi.toKeyed a
  online b ho := by
    rw [connection_deleteAccount] at ho
    split_ifs at ho
    exact ho

theorem updateAccountDisplayName (a : AccountId) (displayName : String) :
    Hushed c (c.updateAccountDisplayName a displayName).2 := by
  unfold MindChatCore.updateAccountDisplayName
  split
  · exact .refl c
  · exact updateAccount a (fun _ => rfl) (fun _ h => h)

theorem setAccountProxies (a : AccountId) (proxies : List ProxyConfig) :
    Hushed c (c.setAccountProxies a proxies).2 :=
  updateAccount a (fun _ => rfl) (fun _ h => h)

theorem drainEvents (c : MindChatCore) : Hushed c c.drainEvents.2 := by
  have h : Edited True AnyEdit c c.drainEvents.2 := .one .drain trivial trivial
  exact .of_accounts (fun hi => hi.edited h) (fun _ => .of_eq rfl rfl) rfl

theorem connectWithProxy {T : Type} [XmppTransport T] (k : TransportCoordinator T) (a : AccountId)
    (password : String) (proxy : Option ProxyConfig) (proxyPassword : Option String) :
    Hushed k.core (k.connectWithProxy a password proxy proxyPassword).2.core :=
  TransportCoordinator.core_connectWithProxy refl (fun _ _ _ h j => h.trans j)
    (fun _ _ hs => setConnectionState a hs) password proxy proxyPassword

theorem disconnect {T : Type} [XmppTransport T] (k : TransportCoordinator T) (a : AccountId) :
    Hushed k.core (k.disconnect a).2.core :=
  TransportCoordinator.core_disconnect refl (disconnected a true none .cancelled)

end Hushed

section Gateway

variable {T : Type} {g h l : Gateway T}

theorem mem_setPlus {xs ys : List AccountId} {a : AccountId} :
    a ∈ setPlus xs ys ↔ a ∈ xs ∨ a ∈ ys := by
  simp only [setPlus,List.mem_append,List.mem_filter,decide_eq_true_eq]
  tauto

theorem mem_onlineAccounts {c : MindChatCore} (hi : Keyed c) (a : AccountId) :
    a ∈ c.snapshot.onlineAccounts ↔ c.connection a = some .online := by
  simp only [CoreSnapshot.onlineAccounts,snapshot,List.mem_map,List.mem_filter,
    Listing.mem_sortByKey,Table.mem_values,decide_eq_true_eq,connection,Option.map_eq_some_iff]
  constructor
  · rintro ⟨account,⟨⟨k,hk⟩,ho⟩,rfl⟩
    exact ⟨account,by rwa [hi.accountKey k account hk],ho⟩
  · rintro ⟨account,hl,ho⟩
    exact ⟨account,⟨⟨a,hl⟩,ho⟩,hi.accountKey a account hl⟩

namespace Gateway

/-- The outbox of every account that is online, in the core or on the screen, is
empty or scheduled. -/
def Covered (g : Gateway T) : Prop :=
  ∀ a, g.core.connection a = some .online ∨ a ∈ g.onlineAccounts →
    ∀ id, g.core.Unsent a id → a ∈ g.pendingOutboxAccounts

/-- The step from `g` to `h` is one of the main thread that schedules nothing. -/
structure Calm (g h : Gateway T) : Prop where
  hushed : Hushed g.core h.core
  shown : Integrity g.core → ∀ a ∈ h.onlineAccounts,
    a ∈ g.onlineAccounts ∨ g.core.connection a = some .online
  pending : h.pendingOutboxAccounts = g.pendingOutboxAccounts
  poll : h.poll = g.poll

@[simp] theorem onlineAccounts_refreshWith (g : Gateway T) (snapshot : CoreSnapshot) :
    (g.refreshWith snapshot).onlineAccounts = snapshot.onlineAccounts := by
  simp [refreshWith,mapSnapshotToUiState,onlineAccounts,CoreSnapshot.onlineAccounts,
    List.filter_map,Function.comp_def]

theorem mem_onlineAccounts_refresh (hi : Integrity g.core) (a : AccountId) :
    a ∈ g.refresh.onlineAccounts ↔ g.core.connection a = some .online := by
  rw [refresh,onlineAccounts_refreshWith,mem_onlineAccounts hi.toKeyed]

namespace Calm

theorem trans (h₁ : Calm g h) (h₂ : Calm h l) : Calm g l where
  hushed := h₁.hushed.trans h₂.hushed
  shown hi a ha := by
    rcases h₂.shown (h₁.hushed.integrity hi) a ha with ha | ha
    · exact h₁.shown hi a ha
    · exact .inr (h₁.hushed.online a ha)
  pending := h₂.pending.trans h₁.pending
  poll := h₂.poll.trans h₁.poll

theorem of_hushed (hc : Hushed g.core h.core) (ha : h.accounts = g.accounts)
    (hp : h.pendingOutboxAccounts = g.pendingOutboxAccounts) (ho : h.poll = g.poll) : Calm g h :=
  ⟨hc,fun _ a hm => .inl (by rwa [onlineAccounts,ha] at hm),hp,ho⟩

theorem refresh (g : Gateway T) : Calm g g.refresh where
  hushed := .drainEvents g.core
  shown hi a ha := .inr ((mem_onlineAccounts_refresh hi a).mp ha)
  pending := rfl
  poll := rfl

theorem refl (g : Gateway T) : Calm g g := .of_hushed (.refl _) rfl rfl rfl

theorem withCore {c : MindChatCore} (hc : Hushed g.core c) : Calm g (g.withCore c) :=
  .of_hushed hc rfl rfl rfl

theorem withCore_refresh {c : MindChatCore} (hc : Hushed g.core c) : Calm g (g.withCore c).refresh :=
  (withCore hc).trans (refresh _)

theorem session_refresh {k : TransportCoordinator T} (hc : Hushed g.core k.core)
    (active : AccountId) : Calm g { g with session := k, activeAccountId := active }.refresh := by
  have hs : Calm g { g with session := k, activeAccountId := active } := .of_hushed hc rfl rfl rfl
  exact hs.trans (refresh _)

theorem adapter (g : Gateway T) (t : T) :
    Calm g { g with session := { g.session with transport := t } } :=
  .of_hushed (.refl _) rfl rfl rfl

theorem selectAccount (g : Gateway T) (a : AccountId) : Calm g (g.selectAccount a) := by
  unfold Gateway.selectAccount
  split
  · exact session_refresh (.refl _) a
  · exact refl g

theorem createAccount (hf : g.core.CountersBelowMax) (jid server displayName : String) :
    Calm g (g.createAccount jid server displayName) := by
  unfold Gateway.createAccount
  dsimp only
  split
  · exact .of_hushed (.refl _) rfl rfl rfl
  · generalize AccountSetup.mk _ _ _ = setup
    have hc := Hushed.addAccount hf setup
    split <;> rename_i hd <;> rw [hd] at hc
    · exact withCore_refresh hc
    · exact .of_hushed hc rfl rfl rfl

theorem renameAccount (g : Gateway T) (a : AccountId) (displayName : String) :
    Calm g (g.renameAccount a displayName) := by
  unfold Gateway.renameAccount
  dsimp only
  split
  · exact refl g
  · exact withCore_refresh (.updateAccountDisplayName a _)

theorem addContact (g : Gateway T) (jid displayName : String) :
    Calm g (g.addContact jid displayName) := by
  unfold Gateway.addContact
  split
  · exact refl g
  · have hc : Hushed g.core (g.core.upsertContact g.activeAccountId (Text.trimKotlin jid)
        (Text.trimKotlin displayName) .offline none).2 := .upsertContact ..
    split <;> rename_i hd <;> rw [hd] at hc
    · exact withCore hc
    · exact withCore_refresh hc

theorem openLocalConversation (hf : g.core.CountersBelowMax) (a : AccountId)
    (address title : String) (group : Bool) (now : ℕ) :
    Calm g (g.openLocalConversation a address title group now) := by
  unfold Gateway.openLocalConversation
  dsimp only
  generalize (if group = true then ConversationKind.multiUserChat else .direct) = kind
  generalize (if Text.trimKotlin title = "" then Text.before '@' address else _) = name
  have hc := Hushed.openConversation hf a kind (Text.trimKotlin address) name now
  split <;> rename_i hd <;> rw [hd] at hc
  · exact withCore hc
  · exact withCore_refresh hc

variable [XmppTransport T]

theorem reconnectAccount (g : Gateway T) (a : AccountId) (password : String)
    (proxy : Option ProxyConfig) (proxyPassword : Option String) :
    Calm g (g.reconnectAccount a password proxy proxyPassword) := by
  unfold Gateway.reconnectAccount
  split
  · exact refl g
  · exact session_refresh (.connectWithProxy g.session a password proxy proxyPassword) _

theorem registerAccount (hf : g.core.CountersBelowMax) (registered : Bool) (t : T)
    (setup : AccountSetup) (password : String) :
    Calm g (g.registerAccount registered t setup password) := by
  have hc : Hushed g.core
      (MindChatCoreHandle.registerAccount g.session registered t setup password).2.core := by
    unfold MindChatCoreHandle.registerAccount
    split
    · exact .refl _
    · have ha : Hushed g.session.core (g.session.core.addAccount setup).2 := .addAccount hf setup
      split <;> rename_i hd <;> rw [hd] at ha
      · exact ha
      · rename_i id c
        have hk := Hushed.connectWithProxy ⟨c,t⟩ id password none none
        split <;> rename_i hd <;> rw [hd] at hk <;> exact ha.trans hk
  unfold Gateway.registerAccount
  split <;> rename_i hd <;> rw [hd] at hc
  · exact session_refresh hc _
  · exact session_refresh hc _

theorem disconnectAccount (g : Gateway T) (a : AccountId) : Calm g (g.disconnectAccount a) :=
  session_refresh (.disconnect g.session a) _

theorem deleteAccount (g : Gateway T) (a : AccountId) (tracked : Bool) :
    Calm g (g.deleteAccount a tracked) := by
  have hc : Hushed g.core (MindChatCoreHandle.deleteAccount g.session a tracked).2.core := by
    unfold MindChatCoreHandle.deleteAccount
    split
    · exact .refl _
    · exact .deleteAccount a
  unfold Gateway.deleteAccount
  split <;> rename_i hd <;> rw [hd] at hc
  · exact session_refresh hc _
  · exact (session_refresh hc _).trans (.of_hushed (.refl _) rfl rfl rfl)

end Calm
end Gateway

def PollPhase.flushed : PollPhase → List AccountId
  | .draining _ _ _ => []
  | .flushing flushedAccounts _ => flushedAccounts
  | .capturing flushedAccounts => flushedAccounts
  | .captured result => (result.map TransportPollResult.flushedAccounts).getD []

/-- A flushed account that was online at the start and is live still has an
empty outbox. -/
def Poll.Emptied (p : Poll) (c : MindChatCore) (live : AccountId → Prop) : Prop :=
  ∀ a ∈ p.phase.flushed, a ∈ p.onlineBefore → live a → ∀ id, ¬ c.Unsent a id

namespace Gateway

/-- What the phases of a poll rely on: while nothing was processed the gateway is
as covered as before, and what was flushed stays empty. -/
def PhaseTracked (g : Gateway T) (p : Poll) : Prop :=
  match p.phase with
  | .draining _ _ eventsProcessed => eventsProcessed = 0 → g.Covered
  | .flushing _ _ => p.Emptied g.core (fun a => g.core.connection a = some .online)
  | .capturing _ => p.Emptied g.core (fun a => g.core.connection a = some .online)
  | .captured none => g.Covered
  | .captured (some result) => p.Emptied g.core (fun a => a ∈ result.snapshot.onlineAccounts) ∧
      ∀ a, g.core.connection a = some .online → a ∈ result.snapshot.onlineAccounts

structure Tracked (g : Gateway T) : Prop where
  integrity : Integrity g.core
  idle : g.poll = none → g.Covered
  scheduled : ∀ p, g.poll = some p → ∀ a ∈ p.onlineBefore, ∀ id, g.core.Unsent a id →
    a ∈ g.pendingOutboxAccounts
  phase : ∀ p, g.poll = some p → g.PhaseTracked p

theorem Calm.covered (hi : Integrity g.core) (h₁ : Calm g h) (hc : g.Covered) : h.Covered := by
  intro a ha id hu
  rw [h₁.pending]
  refine hc a ?_ id (h₁.hushed.drained hi a id hu)
  rcases ha with ha | ha
  · exact .inl (h₁.hushed.online a ha)
  · exact (h₁.shown hi a ha).symm

namespace Tracked

/-- A step beside the poll: it brings no account online and puts nothing into the
outbox of an account that the poll has flushed. -/
theorem beside (ht : Tracked g) (hi : Integrity h.core) (hp : h.poll = g.poll)
    (hc : g.Covered → h.Covered)
    (hs : ∀ p, g.poll = some p → ∀ a ∈ p.onlineBefore, ∀ id, h.core.Unsent a id →
      a ∈ h.pendingOutboxAccounts)
    (he : ∀ p, g.poll = some p → ∀ a ∈ p.phase.flushed, a ∈ p.onlineBefore →
      ∀ id, h.core.Unsent a id → g.core.Unsent a id)
    (ho : ∀ a, h.core.connection a = some .online → g.core.connection a = some .online) :
    Tracked h where
  integrity := hi
  idle hn := hc (ht.idle (hp ▸ hn))
  scheduled p hq := hs p (hp ▸ hq)
  phase p hq := by
    rw [hp] at hq
    have hph := ht.phase p hq
    have emptied : ∀ {live : AccountId → Prop}, p.Emptied g.core live → p.Emptied h.core live :=
      fun hg a ha hb hl id hu => hg a ha hb hl id (he p hq a ha hb id hu)
    have emptied_online : p.Emptied g.core (fun a => g.core.connection a = some .online) →
        p.Emptied h.core (fun a => h.core.connection a = some .online) :=
      fun hg a ha hb hl id hu => hg a ha hb (ho a hl) id (he p hq a ha hb id hu)
    unfold PhaseTracked at hph ⊢
    split at hph
    · exact fun h₀ => hc (hph h₀)
    · exact emptied_online hph
    · exact emptied_online hph
    · exact hc hph
    · exact ⟨emptied hph.1,fun a ha => hph.2 a (ho a ha)⟩

theorem calm (ht : Tracked g) (h₁ : Calm g h) : Tracked h := by
  have hd := h₁.hushed.drained ht.integrity
  refine ht.beside (h₁.hushed.integrity ht.integrity) h₁.poll (h₁.covered ht.integrity) ?_ ?_
    h₁.hushed.online
  · intro p hp a ha id hu
    rw [h₁.pending]
    exact ht.scheduled p hp a ha id (hd a id hu)
  · exact fun _ _ a _ _ id hu => hd a id hu

end Tracked

def Accepts (g : Gateway T) (conversationId : ConversationId) (text : String) (now : ℕ) : Prop :=
  ∃ account id, g.accounts.find? (fun account => account.id = g.activeAccountId) = some account ∧
    (g.core.sendText conversationId account.jid text none now).1 = .ok id

/-- A text enters the outbox of the active account, or of one that is not online
and was not when the running poll began; and not of one that the running poll
found online and has flushed. -/
def SendScheduled (g : Gateway T) (conversationId : ConversationId) : Prop :=
  ∀ v, g.core.conversations.lookup conversationId = some v →
    (v.accountId = g.activeAccountId ∨ (g.core.connection v.accountId ≠ some .online ∧
      ∀ p, g.poll = some p → v.accountId ∉ p.onlineBefore)) ∧
    ∀ p, g.poll = some p → v.accountId ∈ p.onlineBefore → v.accountId ∉ p.phase.flushed

theorem Tracked.sendText (ht : Tracked g) (hf : g.core.CountersBelowMax)
    {conversationId : ConversationId} {text : String} {now : ℕ}
    (hs : g.Accepts conversationId text now → g.SendScheduled conversationId) :
    Tracked (g.sendText conversationId text now) := by
  unfold Gateway.sendText
  split
  · exact ht
  rename_i account hfind
  have hid : account.id = g.activeAccountId := by simpa using List.find?_some hfind
  rcases sendText_cases g.core conversationId account.jid text none now with
    ⟨e,he⟩ | ⟨id,d,v,he,hv,hu⟩
  · rw [he]
    exact ht
  obtain ⟨howner,hflushed⟩ := hs ⟨account,id,hfind,by rw [he]⟩ v hv
  have hacc : d.accounts = g.core.accounts := by
    have h := accounts_sendText g.core conversationId account.jid text none now
    rwa [he] at h
  have hi : Integrity d := by
    have h := ht.integrity.edited
      ((CoreOp.sendText conversationId account.jid text none now).edited ht.integrity.filed fun _ => hf)
    rwa [CoreOp.run,he] at h
  rw [he]
  dsimp only
  set h : Gateway T := { g.withCore d with
    pendingOutboxAccounts := setPlus g.pendingOutboxAccounts [account.id] }.refresh with hh
  have hd := Hushed.drainEvents d
  have hunsent : ∀ a key, h.core.Unsent a key → g.core.Unsent a key ∨ a = v.accountId :=
    fun a key hk => hu a key (hd.drained hi a key hk)
  have hold : ∀ a ∈ g.pendingOutboxAccounts, a ∈ h.pendingOutboxAccounts :=
    fun a ha => mem_setPlus.mpr (.inl ha)
  have hactive : g.activeAccountId ∈ h.pendingOutboxAccounts :=
    mem_setPlus.mpr (.inr (by simp [hid]))
  have honline : ∀ a, h.core.connection a = some .online ↔ g.core.connection a = some .online := by
    intro a
    have : h.core.connection a = g.core.connection a := connection_of_accounts hacc a
    rw [this]
  refine ht.beside (hd.integrity hi) rfl ?_ ?_ ?_ (fun a => (honline a).mp)
  · intro hc a ha key hk
    have ha : g.core.connection a = some .online := by
      rcases ha with ha | ha
      · exact (honline a).mp ha
      · have hmem := (mem_onlineAccounts_refresh (g := { g.withCore d with
          pendingOutboxAccounts := setPlus g.pendingOutboxAccounts [account.id] }) hi a).mp ha
        exact (honline a).mp hmem
    rcases hunsent a key hk with hk | rfl
    · exact hold a (hc a (.inl ha) key hk)
    · rcases howner with ho | ⟨ho,-⟩
      · exact ho ▸ hactive
      · exact (ho ha).elim
  · intro p hp a ha key hk
    rcases hunsent a key hk with hk | rfl
    · exact hold a (ht.scheduled p hp a ha key hk)
    · rcases howner with ho | ⟨-,ho⟩
      · exact ho ▸ hactive
      · exact (ho p hp ha).elim
  · intro p hp a ha hb key hk
    rcases hunsent a key hk with hk | rfl
    · exact hk
    · exact (hflushed p hp hb ha).elim

theorem Tracked.toPhase (ht : Tracked g) {p : Poll} (hp : g.poll = some p)
    {k : TransportCoordinator T} {phase : PollPhase} (hi : Integrity k.core)
    (hd : Drained g.core k.core)
    (hph : PhaseTracked { g with session := k } { p with phase := phase }) :
    Tracked ({ g with session := k }.toPhase p phase) where
  integrity := hi
  idle hn := by cases hn
  scheduled q hq a ha id hu := by
    cases hq
    exact ht.scheduled p hp a ha id (hd a id hu)
  phase q hq := by
    cases hq
    exact hph

theorem Tracked.of_covered (hi : Integrity g.core) (hn : g.poll = none) (hc : g.Covered) :
    Tracked g where
  integrity := hi
  idle _ := hc
  scheduled p hp := by
    rw [hn] at hp
    cases hp
  phase p hp := by
    rw [hn] at hp
    cases hp

theorem Tracked.startPoll (ht : Tracked g) (hs : g.startPoll = some h) : Tracked h := by
  unfold Gateway.startPoll at hs
  split at hs
  · rename_i hn
    have hc := ht.idle (Option.isNone_iff_eq_none.mp hn)
    cases hs
    refine ⟨ht.integrity,nofun,?_,?_⟩
    · rintro p ⟨⟩ a ha id hu
      exact hc a (.inr ha) id hu
    · rintro p ⟨⟩
      exact fun _ => hc
  · cases hs

/-- What a finished poll dropped was empty, and what it brought online is added. -/
theorem Tracked.finishPoll (ht : Tracked g) (hs : g.finishPoll = some h) : Tracked h := by
  unfold Gateway.finishPoll at hs
  split at hs
  · rename_i pendingAccounts onlineBefore hp
    cases hs
    exact .of_covered ht.integrity rfl (ht.phase _ hp)
  · rename_i pendingAccounts onlineBefore result hp
    obtain ⟨hemptied,hshown⟩ := ht.phase _ hp
    have hd := Hushed.drainEvents g.core
    cases hs
    refine .of_covered (hd.integrity ht.integrity) rfl ?_
    intro a ha id hu
    have hu : g.core.Unsent a id := hd.drained ht.integrity a id hu
    have ha : a ∈ result.snapshot.onlineAccounts := by
      rcases ha with ha | ha
      · exact hshown a ha
      · rwa [onlineAccounts_refreshWith] at ha
    refine mem_setPlus.mpr ?_
    by_cases hb : a ∈ onlineBefore
    · have hm := ht.scheduled _ hp a hb id hu
      by_cases hfl : a ∈ result.flushedAccounts
      · exact (hemptied a hfl hb ha id hu).elim
      · exact .inl (by simp [hm,hfl])
    · exact .inr (by simp [ha,hb])
  · cases hs

/-- No account has come online during a poll that is cancelled after its work. -/
def CancelClean (g : Gateway T) : Prop :=
  ∀ p result, g.poll = some p → p.phase = .captured (some result) →
    ∀ a, g.core.connection a = some .online ∨ a ∈ g.onlineAccounts → a ∈ p.onlineBefore

theorem Tracked.cancelPoll (ht : Tracked g) (hc : g.CancelClean) (hs : g.cancelPoll = some h) :
    Tracked h := by
  unfold Gateway.cancelPoll at hs
  split at hs
  · rename_i hp
    cases hs
    exact .of_covered ht.integrity rfl (ht.phase _ hp rfl)
  · rename_i result hp
    cases hs
    cases result with
    | none => exact .of_covered ht.integrity rfl (ht.phase _ hp)
    | some result =>
      exact .of_covered ht.integrity rfl
        (fun a ha id hu => ht.scheduled _ hp a (hc _ result hp rfl a ha) id hu)
  · cases hs

section Polls

variable [XmppTransport T]

/-- A core call of the poll that drops nothing: every event is applied below
`u64::MAX`, and a flush empties the outbox of an account that is online and was
when the poll began. -/
def IoClean (g : Gateway T) (elapsed : ℕ → ℕ) (p : Poll) : Prop :=
  match p.phase with
  | .draining previousBatchSize batchesUsed eventsProcessed =>
    TransportCoordinator.PollsInRange
      (min (nextDrainStep previousBatchSize batchesUsed eventsProcessed).batchSize
        MindChatCoreHandle.maxTransportEventsPerPoll) g.session
  | .flushing _ (a :: _) => a ∈ p.onlineBefore → g.core.connection a = some .online →
      g.session.Empties elapsed a
  | .flushing _ [] => True
  | .capturing _ => True
  | .captured _ => True

theorem Tracked.drain (ht : Tracked g) {p : Poll} (hp : g.poll = some p)
    {previousBatchSize batchesUsed eventsProcessed : ℕ}
    (hph : p.phase = .draining previousBatchSize batchesUsed eventsProcessed) {left : ℕ}
    {r : Except TransportCoordinatorError ℕ} {k : TransportCoordinator T}
    (hf : TransportCoordinator.PollsInRange left g.session)
    (hk : TransportCoordinator.pollLoop left 0 g.session = (r,k)) :
    (∀ batch, r = .ok batch → Tracked ({ g with session := k }.toPhase p
      (.draining batch (batchesUsed + 1) (eventsProcessed + batch)))) ∧
    Tracked ({ g with session := k }.toPhase p (.capturing [])) := by
  have hcore : Integrity g.core → Integrity k.core ∧ Drained g.core k.core := by
    have h := TransportCoordinator.core_pollLoop
      (R := fun c d => Integrity c → Integrity d ∧ Drained c d) (fun c hi => ⟨hi,.refl c⟩)
      (fun c d e hcd hde hi => ⟨(hde (hcd hi).1).1,(hcd hi).2.trans (hde (hcd hi).1).2⟩)
      (fun c event hf hi => ⟨hi.edited (applyTransportEvent_edited hi.toKeyed hf event),
        .event hi hf event⟩) left 0 g.session hf
    rwa [hk] at h
  obtain ⟨hi,hd⟩ := hcore ht.integrity
  refine ⟨?_,ht.toPhase hp hi hd (fun a ha => by cases ha)⟩
  rintro batch rfl
  refine ht.toPhase hp hi hd (fun h₀ => ?_)
  have hprev := ht.phase p hp
  rw [PhaseTracked,hph] at hprev
  obtain ⟨h₁,h₂⟩ := Nat.add_eq_zero_iff.mp h₀
  have hsame : k.core = g.core := (TransportCoordinator.pollLoop_ok hk).2 h₂
  intro a ha id hu
  change k.core.connection a = some .online ∨ a ∈ g.onlineAccounts at ha
  change k.core.Unsent a id at hu
  rw [hsame] at ha hu
  exact hprev h₁ a ha id hu

theorem Tracked.flush (ht : Tracked g) {p : Poll} (hp : g.poll = some p)
    {flushedAccounts left : List AccountId} {b : AccountId}
    (hph : p.phase = .flushing flushedAccounts (b :: left)) (elapsed : ℕ → ℕ)
    (he : b ∈ p.onlineBefore → g.core.connection b = some .online → g.session.Empties elapsed b) :
    Tracked ({ g with session := (MindChatCoreHandle.flushOutbox elapsed g.session b).2 }.toPhase p
      (.flushing (flushedAccounts ++ [b]) left)) := by
  have hk := ht.integrity.toKeyed
  have hprev := ht.phase p hp
  rw [PhaseTracked,hph] at hprev
  by_cases hb : g.session.core.connection b = some .online
  · have hflush : (MindChatCoreHandle.flushOutbox elapsed g.session b).2 =
        (g.session.flushOutbox elapsed b).2 := by
      simp [MindChatCoreHandle.flushOutbox,hb]
    have hd := TransportCoordinator.drained_flushOutbox hk elapsed b
    have hi : Integrity (g.session.flushOutbox elapsed b).2.core :=
      TransportCoordinator.core_flushOutbox (R := fun c d => Integrity c → Integrity d)
        (fun _ h => h) (fun _ _ _ h j hi => j (h hi))
        (fun _ _ _ _ _ hi => hi.edited setDeliveryState_any) hk elapsed b ht.integrity
    have ha := TransportCoordinator.accounts_flushOutbox g.session elapsed b
    rw [hflush]
    refine ht.toPhase hp hi hd ?_
    intro a hm hbefore hon id hu
    change (g.session.flushOutbox elapsed b).2.core.connection a = some .online at hon
    rw [connection_of_accounts ha] at hon
    rcases List.mem_append.mp hm with hm | hm
    · exact hprev a (by rw [hph]; exact hm) hbefore hon id (hd a id hu)
    · obtain ⟨account,hl,-⟩ := Option.map_eq_some_iff.mp hb
      have hpending : ∃ pending, g.session.core.pendingOutgoingMessages b = .ok pending := by
        simp [pendingOutgoingMessages,hl]
      obtain ⟨pending,hpending⟩ := hpending
      cases List.mem_singleton.mp hm
      exact TransportCoordinator.flushOutbox_empties hk elapsed b (he hbefore hon) hpending id hu
  · have hflush : (MindChatCoreHandle.flushOutbox elapsed g.session b).2 = g.session := by
      unfold MindChatCoreHandle.flushOutbox
      split
      · rfl
      · rename_i state hs
        rw [if_pos (fun h => hb (by rw [hs,h]))]
    rw [hflush]
    refine ht.toPhase hp ht.integrity (.refl _) ?_
    intro a hm hbefore hon id hu
    rcases List.mem_append.mp hm with hm | hm
    · exact hprev a (by rw [hph]; exact hm) hbefore hon id hu
    · cases List.mem_singleton.mp hm
      exact (hb hon).elim

theorem Tracked.pollIo (ht : Tracked g) {p : Poll} (hp : g.poll = some p) {elapsed : ℕ → ℕ}
    (hc : g.IoClean elapsed p) (hs : g.pollIo elapsed p = some h) : Tracked h := by
  have hprev := ht.phase p hp
  unfold Gateway.pollIo at hs
  unfold IoClean at hc
  split at hs
  · rename_i previousBatchSize batchesUsed eventsProcessed hph
    rw [hph] at hc
    dsimp only at hs
    split_ifs at hs with hcont hquiet
    · split at hs <;> rename_i hk <;> cases hs
      · exact (ht.drain hp hph hc hk).1 _ rfl
      · exact (ht.drain hp hph hc hk).2
    · cases hs
      rw [PhaseTracked,hph] at hprev
      exact ht.toPhase hp ht.integrity (.refl _) (hprev hquiet.1)
    · cases hs
      exact ht.toPhase hp ht.integrity (.refl _) (fun a ha => by cases ha)
  · rename_i flushedAccounts hph
    cases hs
    rw [PhaseTracked,hph] at hprev
    refine ht.toPhase hp ht.integrity (.refl _) (fun a ha => hprev a (by rw [hph]; exact ha))
  · rename_i flushedAccounts b left hph
    cases hs
    rw [hph] at hc
    exact ht.flush hp hph elapsed hc
  · rename_i flushedAccounts hph
    cases hs
    rw [PhaseTracked,hph] at hprev
    have hon := mem_onlineAccounts ht.integrity.toKeyed
    refine ht.toPhase hp ht.integrity (.refl _) ⟨fun a ha hb hl => ?_,fun a ha => (hon a).mpr ha⟩
    exact hprev a (by rw [hph]; exact ha) hb ((hon a).mp hl)
  · cases hs

/-- The steps after which no outbox of an online account is left unscheduled. -/
def KeepsScheduled (g : Gateway T) (op : GatewayOp T) : Prop :=
  g.core.CountersBelowMax ∧
  match op with
  | .sendText conversationId text now =>
    g.Accepts conversationId text now → g.SendScheduled conversationId
  | .pollIo elapsed => ∀ p, g.poll = some p → g.IoClean elapsed p
  | .cancelPoll => g.CancelClean
  | _ => True

theorem Tracked.step (ht : Tracked g) {op : GatewayOp T} (hc : g.KeepsScheduled op)
    (hs : g.step op = some h) : Tracked h := by
  obtain ⟨hf,hc⟩ := hc
  have calm : ∀ {h' : Gateway T}, Calm g h' → some h' = some h → Tracked h :=
    fun h₁ he => Option.some.inj he ▸ ht.calm h₁
  cases op with
  | selectAccount a => exact calm (.selectAccount g a) hs
  | createAccount jid server displayName => exact calm (.createAccount hf jid server displayName) hs
  | reconnectAccount a password proxy proxyPassword =>
    exact calm (.reconnectAccount g a password proxy proxyPassword) hs
  | registerAccount registered t setup password =>
    exact calm (.registerAccount hf registered t setup password) hs
  | disconnectAccount a => exact calm (.disconnectAccount g a) hs
  | deleteAccount a tracked => exact calm (.deleteAccount g a tracked) hs
  | markConversationRead id => exact calm (.withCore_refresh (.markConversationRead id)) hs
  | renameAccount a displayName => exact calm (.renameAccount g a displayName) hs
  | deleteConversation id => exact calm (.withCore_refresh (.deleteConversation id)) hs
  | setAccountProxies a proxies => exact calm (.withCore_refresh (.setAccountProxies a proxies)) hs
  | addContact jid displayName => exact calm (.addContact g jid displayName) hs
  | openLocalConversation a address title group now =>
    exact calm (.openLocalConversation hf a address title group now) hs
  | sendText id text now => exact Option.some.inj hs ▸ ht.sendText hf hc
  | refresh => exact calm (.refresh g) hs
  | startPoll => exact ht.startPoll hs
  | pollIo elapsed =>
    obtain ⟨p,hp,hs⟩ := Option.bind_eq_some_iff.mp hs
    exact ht.pollIo hp (hc p hp) hs
  | finishPoll => exact ht.finishPoll hs
  | cancelPoll => exact ht.cancelPoll hc hs
  | adapter t => exact calm (.adapter g t) hs

end Polls

/-- Between polls, an account that is online and whose outbox is not empty is
among those the next poll flushes. -/
def NoStranded (g : Gateway T) : Prop :=
  g.poll = none → ∀ a pending, g.core.connection a = some .online →
    g.core.pendingOutgoingMessages a = .ok pending → pending ≠ [] → a ∈ g.pendingOutboxAccounts

theorem Tracked.noStranded (ht : Tracked g) : g.NoStranded := by
  intro hn a pending ha hp hne
  obtain ⟨o,ho⟩ := List.exists_mem_of_ne_nil pending hne
  exact ht.idle hn a (.inl ha) o.messageId
    ((mem_pendingOutgoingMessages ht.integrity.toKeyed hp o.messageId).mp ⟨o,ho,rfl⟩)

end Gateway
end Gateway

structure Restored (c : MindChatCore) : Prop where
  integrity : Integrity c
  offline : ∀ a, c.connection a ≠ some .online

theorem Restored.default : Restored MindChatCore.default := ⟨.default,fun _ => nofun⟩

theorem Restored.hushed {c d : MindChatCore} (hr : Restored c) (h : Hushed c d) : Restored d :=
  ⟨h.integrity hr.integrity,fun a ha => hr.offline a (h.online a ha)⟩

/-- What a process saves, the next one starts with. -/
theorem Restored.sanitizeSnapshot {c : MindChatCore} (hi : Integrity c) (hf : c.CountersBelowMax) :
    Restored (fromSnapshot (sanitizeSnapshot c.snapshot)) where
  integrity := fromSnapshot_integrity hi hf sanitize_keepsKeys
  offline a ha := by
    rw [connection,MindChat.sanitizeSnapshot,
      (fromSnapshot_restores hi.toKeyed sanitize_keepsKeys).accounts a] at ha
    obtain ⟨b,hb,ho⟩ := Option.map_eq_some_iff.mp ha
    obtain ⟨account,-,rfl⟩ := Option.map_eq_some_iff.mp hb
    cases ho

section Runs

variable {T : Type}

theorem Gateway.Tracked.start {k : TransportCoordinator T} (hr : Restored k.core) :
    (Gateway.start k).Tracked := by
  have hd := Hushed.drainEvents k.core
  refine .of_covered (hd.integrity hr.integrity) rfl ?_
  intro a ha
  rcases ha with ha | ha
  · exact (hr.offline a (hd.online a ha)).elim
  · rw [Gateway.start,Gateway.refresh,Gateway.onlineAccounts_refreshWith] at ha
    exact (hr.offline a ((mem_onlineAccounts hr.integrity.toKeyed a).mp ha)).elim

variable [XmppTransport T]

abbrev GatewayRun (cond : Gateway T → GatewayOp T → Prop) (g : Gateway T) (ops : List (GatewayOp T))
    (h : Gateway T) : Prop :=
  Transition.Run (Transition.Meeting cond (fun g op h => g.step op = some h)) g ops h

/-- In every run whose steps drop nothing, no outbox of an online account is
stranded. -/
theorem no_stranded_outbox {k : TransportCoordinator T} {ops : List (GatewayOp T)} {g : Gateway T}
    (hr : Restored k.core) (h : GatewayRun Gateway.KeepsScheduled (Gateway.start k) ops g) :
    g.NoStranded := by
  have ht : g.Tracked :=
    h.invariant (I := Gateway.Tracked) (fun _ _ _ hi hs => hi.step hs.1 hs.2) (.start hr)
  exact ht.noStranded

end Runs

/-- Ada has a conversation with Bob; her session comes up when it is polled. -/
def scriptedSession (sends : List (Except TransportError Unit)) : TransportCoordinator Scripted where
  core := ((MindChatCore.default.addAccount demoSetup).2.openConversation 1 .direct "bob@host" "Bob" 10).2
  transport := { sends := sends, events := [.connected 1 ∅] }

theorem scriptedSession_restored (sends : List (Except TransportError Unit)) :
    Restored (scriptedSession sends).core :=
  (Restored.default.hushed (.addAccount (by decide) demoSetup)).hushed
    (.openConversation (by decide) 1 .direct "bob@host" "Bob" 10)

def noWait : ℕ → ℕ := fun _ => 0

def flushingPoll : List (GatewayOp Scripted) :=
  [.startPoll,.pollIo noWait,.pollIo noWait,.pollIo noWait,.pollIo noWait,.pollIo noWait,.finishPoll]

/-- A text waits for the session to come up; two polls flush it. -/
def twoPolls : List (GatewayOp Scripted) :=
  [.reconnectAccount 1 "secret" none none,.sendText 1 "hello" 11] ++ flushingPoll ++ flushingPoll

def linkDown : Except TransportError Unit := .error (.connectionFailed "link down")

def gatewayEnd (sends : List (Except TransportError Unit)) (ops : List (GatewayOp Scripted)) :
    Gateway Scripted :=
  (Transition.exec Gateway.step (Gateway.start (scriptedSession sends)) ops).getD
    (Gateway.start (scriptedSession sends))

/-- The first poll brings the account online and fails to send, the second one
empties its outbox, and the next text is scheduled again. -/
theorem no_stranded_outbox_retried :
    (gatewayEnd [linkDown] (twoPolls ++ [.sendText 1 "again" 12])).NoStranded ∧
    (gatewayEnd [linkDown] (twoPolls ++ [.sendText 1 "again" 12])).pendingOutboxAccounts = [1] ∧
    (gatewayEnd [linkDown] twoPolls).pendingOutboxAccounts = [] := by
  have scheduled : ∀ g : Gateway Scripted, g.poll = none →
      (∀ v, g.core.conversations.lookup 1 = some v → v.accountId = g.activeAccountId) →
      g.SendScheduled 1 := fun g hn hv v h => ⟨.inl (hv v h),by simp [hn]⟩
  have run : GatewayRun Gateway.KeepsScheduled (Gateway.start (scriptedSession [linkDown]))
      (twoPolls ++ [.sendText 1 "again" 12])
      (gatewayEnd [linkDown] (twoPolls ++ [.sendText 1 "again" 12])) := by
    refine .cons ⟨⟨by decide,trivial⟩,rfl⟩ ?_
    refine .cons ⟨⟨by decide,fun _ => scheduled _ rfl (by rintro v ⟨⟩; rfl)⟩,rfl⟩ ?_
    refine .cons ⟨⟨by decide,trivial⟩,rfl⟩ ?_
    refine .cons ⟨⟨by decide,by rintro p ⟨⟩; exact ⟨by decide,by decide,trivial⟩⟩,rfl⟩ ?_
    refine .cons ⟨⟨by decide,by rintro p ⟨⟩; trivial⟩,rfl⟩ ?_
    refine .cons ⟨⟨by decide,by rintro p ⟨⟩; exact nofun⟩,rfl⟩ ?_
    refine .cons ⟨⟨by decide,by rintro p ⟨⟩; trivial⟩,rfl⟩ ?_
    refine .cons ⟨⟨by decide,by rintro p ⟨⟩; trivial⟩,rfl⟩ ?_
    refine .cons ⟨⟨by decide,trivial⟩,rfl⟩ ?_
    refine .cons ⟨⟨by decide,trivial⟩,rfl⟩ ?_
    refine .cons ⟨⟨by decide,by rintro p ⟨⟩; exact ⟨by decide,trivial⟩⟩,rfl⟩ ?_
    refine .cons ⟨⟨by decide,by rintro p ⟨⟩; trivial⟩,rfl⟩ ?_
    refine .cons ⟨⟨by decide,?_⟩,rfl⟩ ?_
    · rintro p ⟨⟩ _ _ pending ⟨⟩
      exact ⟨by decide,by decide,rfl,trivial⟩
    refine .cons ⟨⟨by decide,by rintro p ⟨⟩; trivial⟩,rfl⟩ ?_
    refine .cons ⟨⟨by decide,by rintro p ⟨⟩; trivial⟩,rfl⟩ ?_
    refine .cons ⟨⟨by decide,trivial⟩,rfl⟩ ?_
    exact .single ⟨⟨by decide,fun _ => scheduled _ rfl (by rintro v ⟨⟩; rfl)⟩,rfl⟩
  exact ⟨no_stranded_outbox (scriptedSession_restored [linkDown]) run,by decide,by decide⟩

/-- The text is sent between the flush of its account and the end of the poll. -/
def racingOps : List (GatewayOp Scripted) :=
  [.reconnectAccount 1 "secret" none none,
    .startPoll,.pollIo noWait,.pollIo noWait,.pollIo noWait,.pollIo noWait,.finishPoll,
    .startPoll,.pollIo noWait,.pollIo noWait,.pollIo noWait,.sendText 1 "hello" 11,
    .pollIo noWait,.pollIo noWait,.finishPoll]

theorem stranded_outbox :
    Transition.exec Gateway.step (Gateway.start (scriptedSession [linkDown,linkDown])) twoPolls =
        some (gatewayEnd [linkDown,linkDown] twoPolls) ∧
      ¬ (gatewayEnd [linkDown,linkDown] twoPolls).NoStranded ∧
    Transition.exec Gateway.step (Gateway.start (scriptedSession [])) racingOps =
        some (gatewayEnd [] racingOps) ∧
      ¬ (gatewayEnd [] racingOps).NoStranded := by
  refine ⟨rfl,fun h => ?_,rfl,fun h => ?_⟩
  · exact absurd (h rfl 1 _ (by decide) rfl (by decide)) (by decide)
  · exact absurd (h rfl 1 _ (by decide) rfl (by decide)) (by decide)

end MindChat
