import MindChat.Persistence

/-! What a restart through the state file keeps: the durable records and the
outboxes in their order, and nothing of the old session. -/

namespace MindChat

open MindChatCore Json

/-- `d` holds the durable state of `c` and no session of it. -/
structure DurableStateKept (c d : MindChatCore) : Prop where
  conversations : ∀ k, d.conversations.lookup k = c.conversations.lookup k
  messages : ∀ k, d.messages.lookup k = c.messages.lookup k
  reactions : ∀ k, d.reactions.lookup k = c.reactions.lookup k
  accounts : ∀ k a, c.accounts.lookup k = some a → ∃ b, d.accounts.lookup k = some b ∧ b.id = a.id ∧
    b.jid = a.jid ∧ b.server = a.server ∧ b.displayName = a.displayName ∧
    b.autoReconnect = a.autoReconnect ∧ b.proxies = a.proxies
  offline : ∀ k b, d.accounts.lookup k = some b → (c.accounts.lookup k).isSome ∧
    b.connectionState = .offline ∧ b.connectionError = none ∧ b.disconnectKind = none ∧
    b.capabilities = ∅
  contacts : ∀ k t, c.contacts.lookup k = some t → ∃ u, d.contacts.lookup k = some u ∧
    u.accountId = t.accountId ∧ u.jid = t.jid ∧ u.displayName = t.displayName ∧
    u.subscription = t.subscription
  absent : ∀ k u, d.contacts.lookup k = some u → (c.contacts.lookup k).isSome ∧
    u.presence = .offline ∧ u.status = none

theorem sanitize_keepsKeys : KeepsKeys sanitizeAccount sanitizeContact :=
  ⟨fun _ => rfl,fun _ => rfl⟩

variable {c d : MindChatCore} {codec : Codec} {process : Process} {path : String} {disk disk' : Disk}
  {s : CoreSnapshot} {bytes : Bytes}

theorem durableStateKept_of_restores (hr : Restores sanitizeAccount sanitizeContact c d) :
    DurableStateKept c d where
  conversations := hr.conversations
  messages := hr.messages
  reactions := hr.reactions
  accounts k a h := ⟨sanitizeAccount a,by rw [hr.accounts,h]; rfl,rfl,rfl,rfl,rfl,rfl,rfl⟩
  offline k b h := by
    rw [hr.accounts,Option.map_eq_some_iff] at h
    obtain ⟨a,ha,rfl⟩ := h
    exact ⟨by simp [ha],rfl,rfl,rfl,rfl⟩
  contacts k t h := ⟨sanitizeContact t,by rw [hr.contacts,h]; rfl,rfl,rfl,rfl,rfl⟩
  absent k u h := by
    rw [hr.contacts,Option.map_eq_some_iff] at h
    obtain ⟨t,ht,rfl⟩ := h
    exact ⟨by simp [ht],rfl,rfl⟩

theorem saveState_cases (codec : Codec) (process : Process) (s : CoreSnapshot) (path : String)
    (disk : Disk) :
    (∃ e, (saveState codec process s path disk).1 = .error e ∧
      (saveState codec process s path disk).2.lookup path = disk.lookup path) ∨
    ∃ bytes, codec.toVecPretty ⟨currentSchemaVersion,s⟩ = .ok bytes ∧
      bytes.length ≤ maxStateFileBytes ∧ (saveState codec process s path disk).1 = .ok () ∧
      (saveState codec process s path disk).2.lookup path = some bytes := by
  unfold saveState
  cases codec.toVecPretty ⟨currentSchemaVersion,s⟩ with
  | error e => exact .inl ⟨_,rfl,rfl⟩
  | ok bytes =>
    by_cases hl : maxStateFileBytes < bytes.length
    · simp only [if_pos hl]
      exact .inl ⟨_,rfl,trivial⟩
    · simp only [if_neg hl]
      rcases writeAtomic_cases process path bytes disk with h | ⟨h₁,h₂⟩
      · exact .inl h
      · exact .inr ⟨bytes,rfl,not_lt.mp hl,h₁,h₂⟩

theorem saveState_none (hf : process.faults = .none)
    (he : codec.toVecPretty ⟨currentSchemaVersion,s⟩ = .ok bytes) (hl : bytes.length ≤ maxStateFileBytes)
    (path : String) (disk : Disk) : (saveState codec process s path disk).1 = .ok () := by
  simp only [saveState,he,if_neg (not_lt.mpr hl),writeAtomic_none hf]

theorem loadState_encoded (hr : codec.RoundTrips ⟨currentSchemaVersion,s⟩)
    (he : codec.toVecPretty ⟨currentSchemaVersion,s⟩ = .ok bytes) (hl : bytes.length ≤ maxStateFileBytes)
    (hd : disk.lookup path = some bytes) :
    loadState codec .none path disk = .ok (some (sanitizeSnapshot s)) := by
  simp only [loadState,loadStateWithMetadata,readStateFile_none hd,if_neg (not_lt.mpr hl),
    parseStateBytes_encoded hr he]
  rfl

/-- What was saved is loaded, and loading is not disturbed by a further save of
the restored state, whether that succeeds or fails. -/
theorem saveState_loadState (hr : codec.RoundTrips ⟨currentSchemaVersion,s⟩)
    (hr' : codec.RoundTrips ⟨currentSchemaVersion,sanitizeSnapshot s⟩)
    (hs : saveState codec process s path disk = (.ok (),disk')) :
    loadState codec .none path disk' = .ok (some (sanitizeSnapshot s)) ∧
      ∀ process', loadState codec .none path
        (saveState codec process' (sanitizeSnapshot s) path disk').2 =
          .ok (some (sanitizeSnapshot s)) := by
  rcases saveState_cases codec process s path disk with ⟨e,h,-⟩ | ⟨bytes,he,hl,-,hd⟩
  · rw [hs] at h
    cases h
  · rw [hs] at hd
    refine ⟨loadState_encoded hr he hl hd,fun process' => ?_⟩
    rcases saveState_cases codec process' (sanitizeSnapshot s) path disk' with
      ⟨e,-,hd'⟩ | ⟨bytes',he',hl',-,hd'⟩
    · exact loadState_encoded hr he hl (hd'.trans hd)
    · rw [loadState_encoded hr' he' hl' hd',sanitizeSnapshot_idem]

/-- A restart through the state file keeps the durable state of every core that
fits the file: without faults it is saved, and from any saved file the restored
core exports the sanitized snapshot, keeps every outbox in its order, and saves
and loads to itself. -/
theorem restart_keeps_durable_state (hc : Constructible c)
    (hr : codec.RoundTrips ⟨currentSchemaVersion,c.snapshot⟩)
    (hr' : codec.RoundTrips ⟨currentSchemaVersion,sanitizeSnapshot c.snapshot⟩)
    (he : codec.toVecPretty ⟨currentSchemaVersion,c.snapshot⟩ = .ok bytes)
    (hl : bytes.length ≤ maxStateFileBytes) (path : String) :
    (∀ process disk, process.faults = .none →
      (saveState codec process c.snapshot path disk).1 = .ok ()) ∧
    ∀ process disk disk', saveState codec process c.snapshot path disk = (.ok (),disk') →
      ∃ d, (∃ loaded, loadState codec .none path disk' = .ok (some loaded) ∧ d = fromSnapshot loaded) ∧
        d.snapshot = sanitizeSnapshot c.snapshot ∧ DurableStateKept c d ∧
        (∀ accountId, d.pendingOutgoingMessages accountId = c.pendingOutgoingMessages accountId) ∧
        ∀ process', ∃ reloaded,
          loadState codec .none path (saveState codec process' d.snapshot path disk').2 =
            .ok (some reloaded) ∧ fromSnapshot reloaded = d := by
  have hi := hc.keyed
  have hrest := fromSnapshot_restores hi sanitize_keepsKeys
  have hsnap : (fromSnapshot (sanitizeSnapshot c.snapshot)).snapshot = sanitizeSnapshot c.snapshot :=
    snapshot_of_restores hi sanitize_keepsKeys hrest
  refine ⟨fun process disk hf => saveState_none hf he hl path disk,fun process disk disk' hs => ?_⟩
  obtain ⟨hload,hagain⟩ := saveState_loadState hr hr' hs
  refine ⟨fromSnapshot (sanitizeSnapshot c.snapshot),⟨_,hload,rfl⟩,hsnap,
    durableStateKept_of_restores hrest,pendingOutgoingMessages_of_restores hi hrest,fun process' => ?_⟩
  rw [hsnap]
  exact ⟨_,hagain process',rfl⟩

def onlineSession : List SessionStep :=
  [.op (.addAccount demoSetup),.op (.openConversation 1 .direct "bob@host" "Bob" 10),
    .op (.applyTransportEvent (.connected 1 {.receipts})),
    .op (.upsertContact 1 "bob@host" "Bob" .away (some "out")),
    .op (.sendText 1 "ada@host" "first" none 11),.op (.setDeliveryState 1 .sent),
    .op (.sendText 1 "ada@host" "second" (some 1) 12)]

def onlineCore : MindChatCore := onlineSession.foldl SessionStep.run MindChatCore.default

theorem onlineCore_reachable : Reachable onlineCore := ⟨onlineSession,rfl⟩

def onlineStates : List PersistedState :=
  [⟨currentSchemaVersion,onlineCore.snapshot⟩,⟨currentSchemaVersion,sanitizeSnapshot onlineCore.snapshot⟩]

theorem onlineStates_nodup : (onlineStates.map PersistedState.bytes).Nodup := by decide +kernel

theorem restart_keeps_online_state :
    ∃ disk',
      saveState (jsonCodec (readerOf onlineStates)) ⟨1,0,.none⟩ onlineCore.snapshot "state" ∅ =
        (.ok (),disk') ∧
      ∃ d, (∃ loaded, loadState (jsonCodec (readerOf onlineStates)) .none "state" disk' =
          .ok (some loaded) ∧ d = fromSnapshot loaded) ∧
        d.snapshot = sanitizeSnapshot onlineCore.snapshot ∧ DurableStateKept onlineCore d ∧
        ∀ accountId, d.pendingOutgoingMessages accountId = onlineCore.pendingOutgoingMessages accountId := by
  have hn := onlineStates_nodup
  obtain ⟨hsaved,hkept⟩ := restart_keeps_durable_state onlineCore_reachable.constructible
    (readerOf_roundTrips hn (by simp [onlineStates])) (readerOf_roundTrips hn (by simp [onlineStates]))
    rfl (by decide +kernel) "state"
  have hok := hsaved ⟨1,0,.none⟩ ∅ rfl
  cases hs : saveState (jsonCodec (readerOf onlineStates)) ⟨1,0,.none⟩ onlineCore.snapshot "state" ∅ with
  | mk r disk' =>
    rw [hs] at hok
    cases hok
    obtain ⟨d,hd,h₁,h₂,h₃,-⟩ := hkept _ _ _ hs
    exact ⟨disk',rfl,d,hd,h₁,h₂,h₃⟩

end MindChat
