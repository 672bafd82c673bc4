import MindChat.Deletion
import MindChat.Persistence
import MindChat.StableIds
import MindChat.Trace

/-! The ids of a core that a snapshot was restored into. The counters start after the largest
restored ids, which a state file may put anywhere in `u64`, and an addition at the limit wraps
around. -/

namespace MindChat

open MindChatCore

/-- The ids that the records of a kind carry. -/
def CoreSnapshot.ids (s : CoreSnapshot) : IdKind → List ℕ
  | .account => s.accounts.map Account.id
  | .conversation => s.conversations.map Conversation.id
  | .message => s.messages.map Message.id
  | .reaction => s.reactions.map Reaction.id

/-- `iter().map(id).max().unwrap_or(0)`. -/
def CoreSnapshot.largestId (s : CoreSnapshot) (kind : IdKind) : ℕ := (s.ids kind).foldl max 0

/-- The ids that the allocator of a kind hands out in a call. -/
def CoreOp.newIds (c : MindChatCore) (op : CoreOp) (kind : IdKind) : List ℕ :=
  (op.edits c).filterMap (Edit.newId kind)

/-- The ids that the allocator of a kind hands out in a run. -/
def newIdsOf (kind : IdKind) : MindChatCore → List CoreOp → List ℕ
  | _, [] => []
  | c, op :: rest => op.newIds c kind ++ newIdsOf kind (op.run c) rest

/-- `from_snapshot` and the allocators add one to the largest restored ids and to the new ids. No
such addition leaves `u64`, and no new id is a restored one. -/
def RestoredSafely (s : CoreSnapshot) (ops : List CoreOp) : Prop :=
  ∀ kind, s.largestId kind + 1 ≤ u64Max ∧
    ∀ id ∈ newIdsOf kind (fromSnapshot s) ops, id + 1 ≤ u64Max ∧ id ∉ s.ids kind

namespace Edit

theorem counter_apply (c : MindChatCore) (edit : Edit) (kind : IdKind) :
    (edit.apply c).counter kind = ((edit.newId kind).map u64Succ).getD (c.counter kind) := by
  cases edit with
  | dropConversation id =>
    simp only [apply]
    rw [removeConversationState_eq]
    cases kind <;> rfl
  | _ => cases kind <;> rfl

theorem counter_replay {kind : IdKind} {es : List Edit} (c : MindChatCore)
    (h : es.filterMap (newId kind) = []) : (c.replay es).counter kind = c.counter kind := by
  induction es generalizing c with
  | nil => rfl
  | cons edit es ih =>
    rw [List.filterMap_eq_nil_iff] at h ih
    have hn := h edit List.mem_cons_self
    rw [replay,List.foldl_cons,← replay,ih _ fun e he => h e (List.mem_cons_of_mem _ he),counter_apply,hn]
    rfl

theorem counter_replay_one {kind : IdKind} {es : List Edit} {id : ℕ} (c : MindChatCore)
    (h : es.filterMap (newId kind) = [id]) : (c.replay es).counter kind = u64Succ id := by
  induction es generalizing c with
  | nil => cases h
  | cons edit es ih =>
    cases hn : edit.newId kind with
    | none =>
      rw [List.filterMap_cons_none hn] at h
      exact ih _ h
    | some k =>
      rw [List.filterMap_cons_some hn,List.cons.injEq] at h
      rw [replay,List.foldl_cons,← replay,counter_replay _ h.2,counter_apply,hn,h.1]
      rfl

end Edit

def Edit.creates : Edit → Bool
  | newAccount _ | newConversation _ | newMessage _ | newReaction _ => true
  | _ => false

theorem Edit.newId_eq_none {edit : Edit} (h : edit.creates = false) (kind : IdKind) :
    edit.newId kind = none := by
  cases edit with
  | newAccount | newConversation | newMessage | newReaction => cases h
  | _ => cases kind <;> rfl

/-- At most one new record of each kind, under the next id. -/
def NextIdOnly (c : MindChatCore) (es : List Edit) : Prop :=
  ∀ kind, es.filterMap (Edit.newId kind) = [] ∨ es.filterMap (Edit.newId kind) = [allocated (c.counter kind)]

namespace NextIdOnly

variable {c d : MindChatCore}

theorem filterMap_newId {es : List Edit} (h : es.any Edit.creates = false) (kind : IdKind) :
    es.filterMap (Edit.newId kind) = [] := by
  rw [List.any_eq_false] at h
  exact List.filterMap_eq_nil_iff.mpr fun edit he => Edit.newId_eq_none (by simpa using h edit he) kind

theorem of_none {es : List Edit} (h : es.any Edit.creates = false) : NextIdOnly c es :=
  fun kind => .inl (filterMap_newId h kind)

theorem cons {es : List Edit} {edit : Edit} (h : es.any Edit.creates = false)
    (he : ∀ kind id, edit.newId kind = some id → id = allocated (c.counter kind)) :
    NextIdOnly c (edit :: es) := by
  intro kind
  have hn := filterMap_newId h kind
  cases hk : edit.newId kind with
  | none =>
    rw [List.filterMap_cons_none hk]
    exact .inl hn
  | some id =>
    rw [List.filterMap_cons_some hk,hn,he kind id hk]
    exact .inr rfl

theorem append {es fs : List Edit} (he : NextIdOnly c es) (hf : NextIdOnly c fs)
    (h : ∀ kind, es.filterMap (Edit.newId kind) = [] ∨ fs.filterMap (Edit.newId kind) = []) :
    NextIdOnly c (es ++ fs) := by
  intro kind
  rw [List.filterMap_append]
  rcases h kind with hn | hn
  · rw [hn,List.nil_append]
    exact hf kind
  · rw [hn,List.append_nil]
    exact he kind

theorem storing {K V : Type} [DecidableEq K] {t : Table K V} {key : K} {edits : V → List Edit}
    (h : ∀ v, t.lookup key = some v → NextIdOnly c (edits v)) : NextIdOnly c (storing t key edits) := by
  unfold MindChat.storing
  cases hv : t.lookup key with
  | none => exact of_none rfl
  | some v => exact h v hv

theorem accountEdits (accountId : AccountId) : NextIdOnly c (d.accountEdits accountId) :=
  storing fun _ _ => of_none rfl

theorem contactEdits (accountId : AccountId) (jid : String) : NextIdOnly c (d.contactEdits accountId jid) :=
  storing fun _ _ => of_none rfl

theorem messageEdits (id : MessageId) : NextIdOnly c (d.messageEdits id) := storing fun _ _ => of_none rfl

theorem insertConversation (accountId : AccountId) (kind : ConversationKind) (address title : String)
    (now : ℕ) : NextIdOnly c ((c.insertConversation accountId kind address title now).2.newConversationEdits
      (c.insertConversation accountId kind address title now).1) := by
  simp only [newConversationEdits,MindChatCore.insertConversation,allocateConversationId,push,storing_insert]
  refine cons rfl fun kind id h => ?_
  cases kind <;> cases h
  rfl

theorem any_conversationEdits (id : ConversationId) : (d.conversationEdits id).any Edit.creates = false := by
  unfold conversationEdits MindChat.storing
  cases d.conversations.lookup id <;> rfl

theorem insertMessage {message : MessageId → Message} (hid : ∀ id, (message id).id = id)
    (hc : ∀ id, (c.conversations.lookup (message id).conversationId).isSome) (incrementUnread : Bool) :
    NextIdOnly c ((c.insertMessage message incrementUnread).2.textEdits (allocated c.nextMessageId)) := by
  obtain ⟨v,hv⟩ := Option.isSome_iff_exists.mp (hc (allocated c.nextMessageId))
  rw [insertMessage_eq hv]
  simp only [textEdits,push,storing_insert]
  refine cons ?_ fun kind id h => ?_
  · rw [List.any_append,any_conversationEdits]
    rfl
  · cases kind <;> cases h
    exact hid _

theorem inserts {id : MessageId} (h : c.Inserts d id) : NextIdOnly c (d.textEdits id) := by
  obtain ⟨message,incrementUnread,hid,hc,rfl,rfl⟩ := h
  exact insertMessage hid hc incrementUnread

theorem filterMap_textEdits {kind : IdKind} (hk : kind ≠ .message) (id : MessageId) :
    (d.textEdits id).filterMap (Edit.newId kind) = [] := by
  unfold textEdits MindChat.storing
  cases d.messages.lookup id with
  | none => rfl
  | some m =>
    have hn : Edit.newId kind (.newMessage m) = none := by cases kind <;> first | rfl | exact absurd rfl hk
    simp only [Option.map_some,Option.getD_some,List.filterMap_cons_none hn]
    refine filterMap_newId ?_ kind
    rw [List.any_append,any_conversationEdits]
    rfl

theorem targetConversation (accountId : AccountId) (kind : ConversationKind) (address : String) (now : ℕ) :
    NextIdOnly c (if (c.findConversation accountId kind address).isNone then
      (c.targetConversation accountId kind address now).2.newConversationEdits
        (c.targetConversation accountId kind address now).1 else []) := by
  unfold MindChatCore.targetConversation
  cases c.findConversation accountId kind address with
  | some v => exact of_none rfl
  | none => exact insertConversation accountId kind address _ now

theorem filterMap_newConversationEdits {kind : IdKind} (hk : kind ≠ .conversation) (id : ConversationId) :
    (d.newConversationEdits id).filterMap (Edit.newId kind) = [] := by
  unfold newConversationEdits MindChat.storing
  cases d.conversations.lookup id with
  | none => rfl
  | some v => cases kind <;> first | rfl | exact absurd rfl hk

theorem nextMessageId_targetConversation (accountId : AccountId) (kind : ConversationKind) (address : String)
    (now : ℕ) : (c.targetConversation accountId kind address now).2.nextMessageId = c.nextMessageId := by
  unfold MindChatCore.targetConversation
  cases c.findConversation accountId kind address <;> rfl

theorem incomingText (accountId : AccountId) (kind : ConversationKind) (address sender body : String)
    (now : ℕ) :
    NextIdOnly c ((TransportEvent.incomingText accountId kind address sender body now).edits c) := by
  simp only [TransportEvent.edits,applyTransportEvent]
  rcases hr : c.receiveTransportText accountId kind address sender body now with ⟨e | id,d⟩
  · exact of_none rfl
  cases id with
  | none => exact of_none rfl
  | some id =>
    unfold receiveTransportText at hr
    split at hr
    · cases hr
    split at hr
    · cases hr
    split at hr
    · cases hr
    dsimp only at hr ⊢
    split at hr <;> cases hr
    next hs =>
    have hi := inserts (receiveText_inserts hs)
    refine append (targetConversation accountId kind address now) (fun k => ?_) fun k => ?_
    · by_cases hk : k = .message
      · subst hk
        rw [← show (c.targetConversation accountId kind address now).2.counter .message = c.counter .message
          from nextMessageId_targetConversation accountId kind address now]
        exact hi .message
      · exact .inl (filterMap_textEdits hk id)
    · by_cases hk : k = .message
      · refine .inl ?_
        split
        · exact filterMap_newConversationEdits (by simp [hk]) _
        · rfl
      · exact .inr (filterMap_textEdits hk id)

theorem event (event : TransportEvent) : NextIdOnly c (event.edits c) := by
  cases event with
  | connected | disconnected | capabilitiesDiscovered => exact accountEdits _
  | rosterContactUpsert | contactPresenceUpdated =>
    simp only [TransportEvent.edits]
    split
    · exact contactEdits _ _
    · exact of_none rfl
  | rosterContactRemoved =>
    simp only [TransportEvent.edits]
    split <;> exact of_none rfl
  | incomingText accountId kind address sender body now =>
    exact incomingText accountId kind address sender body now
  | deliveryUpdated =>
    simp only [TransportEvent.edits]
    split
    · exact messageEdits _
    · exact of_none rfl

theorem any_dropConversation (ids : List ConversationId) (accountId : AccountId) :
    (ids.map Edit.dropConversation ++
      [Edit.dropAccount accountId,Edit.announce (.accountChanged accountId)]).any Edit.creates = false := by
  rw [List.any_append,List.any_map]
  simp [Edit.creates]

theorem op (op : CoreOp) : NextIdOnly c (op.edits c) := by
  by_cases he : (op.error c).isSome
  · rw [CoreOp.edits,if_pos he]
    exact of_none rfl
  rw [CoreOp.edits,if_neg he]
  cases op with
  | addAccount setup =>
    simp only [CoreOp.error,CoreOp.written,CoreOp.run] at he ⊢
    obtain ⟨id,hr⟩ := not_failed he
    simp only [MindChatCore.addAccount] at hr ⊢
    split at hr
    · cases hr
    split at hr
    · cases hr
    · simp only [allocateAccountId,push,storing_insert]
      refine cons rfl fun kind id h => ?_
      cases kind <;> cases h
      rfl
  | setConnectionState accountId | setCapabilities accountId | setAccountProxies accountId
      | updateAccountDisplayName accountId => exact accountEdits accountId
  | upsertContact accountId jid => exact contactEdits accountId jid
  | syncRosterContact | removeContact | updateContactPresence | applyTransportEvent =>
    simp only [CoreOp.written]
    exact event _
  | openConversation accountId kind address title now =>
    simp only [CoreOp.error,CoreOp.written,CoreOp.run] at he ⊢
    obtain ⟨id,hr⟩ := not_failed he
    obtain ⟨v,hv,hd⟩ | ⟨hn,hd⟩ := openConversation_snd hr
    · rw [hv]
      exact of_none rfl
    · rw [hd,hn]
      exact insertConversation accountId kind address title now
  | sendText id sender body inReplyTo now =>
    simp only [CoreOp.error] at he
    obtain ⟨messageId,hr⟩ := not_failed he
    have hi := sendText_inserts (Prod.ext hr rfl : _ = (_,_))
    have hs := inserts hi
    rw [hi.replay.1] at hs
    exact hs
  | receiveText id sender body now =>
    simp only [CoreOp.error] at he
    obtain ⟨messageId,hr⟩ := not_failed he
    have hi := receiveText_inserts (Prod.ext hr rfl : _ = (_,_))
    have hs := inserts hi
    rw [hi.replay.1] at hs
    exact hs
  | attach messageId | setDeliveryState messageId => exact messageEdits messageId
  | addReaction messageId actor emoji =>
    simp only [CoreOp.error,CoreOp.written,CoreOp.run] at he ⊢
    obtain ⟨id,hr⟩ := not_failed he
    simp only [MindChatCore.addReaction] at hr ⊢
    split at hr
    · cases hr
    split at hr
    · cases hr
    split at hr
    · cases hr
    · next hb =>
      simp only [if_neg hb,allocateReactionId,push,storing_insert]
      refine cons rfl fun kind id h => ?_
      cases kind <;> cases h
      rfl
  | markConversationRead => exact of_none (any_conversationEdits _)
  | deleteAccount accountId => exact of_none (any_dropConversation _ accountId)
  | deleteConversation | drainEvents => exact of_none rfl

end NextIdOnly

section Runs

variable {c : MindChatCore} {kind : IdKind}

/-- A call hands out at most the next id of a kind and moves the counter behind it. -/
theorem CoreOp.newIds_cases (hf : Filed c) (op : CoreOp) (kind : IdKind) :
    (op.newIds c kind = [] ∧ (op.run c).counter kind = c.counter kind) ∨
      (op.newIds c kind = [allocated (c.counter kind)] ∧
        (op.run c).counter kind = u64Succ (allocated (c.counter kind))) := by
  rw [← op.replay_edits hf.contactKey]
  rcases NextIdOnly.op (c := c) op kind with h | h
  · exact .inl ⟨h,Edit.counter_replay c h⟩
  · exact .inr ⟨h,Edit.counter_replay_one c h⟩

theorem u64Succ_eq {n : ℕ} (h : n < u64Max) : u64Succ n = n + 1 := by
  simp only [u64Succ,u64Max] at *
  omega

/-- The ids of a run follow each other as long as no addition leaves `u64`. -/
theorem newIdsOf_eq (hf : Filed c) (h₁ : 1 ≤ c.counter kind) {ops : List CoreOp}
    (h : c.counter kind + (newIdsOf kind c ops).length ≤ u64Max) :
    newIdsOf kind c ops = List.range' (c.counter kind) (newIdsOf kind c ops).length := by
  induction ops generalizing c with
  | nil => rfl
  | cons op rest ih =>
    simp only [newIdsOf] at h ⊢
    rcases op.newIds_cases hf kind with ⟨hn,hc⟩ | ⟨hn,hc⟩
    · rw [hn,List.nil_append] at h ⊢
      rw [← hc] at h h₁ ⊢
      exact ih (hf.op op) h₁ h
    · have ha : allocated (c.counter kind) = c.counter kind := max_eq_left h₁
      rw [ha] at hn hc
      rw [hn,List.length_append,List.length_singleton] at h
      rw [u64Succ_eq (by omega)] at hc
      have hi := ih (hf.op op) (by omega) (by omega)
      rw [hc] at hi
      rw [hn,List.singleton_append,List.length_cons,List.range'_succ]
      exact congrArg _ hi

theorem length_newIdsOf_le (hf : Filed c) (h₁ : 1 ≤ c.counter kind) (hm : c.counter kind ≤ u64Max)
    {ops : List CoreOp} (h : ∀ id ∈ newIdsOf kind c ops, id + 1 ≤ u64Max) :
    c.counter kind + (newIdsOf kind c ops).length ≤ u64Max := by
  induction ops generalizing c with
  | nil => exact hm
  | cons op rest ih =>
    simp only [newIdsOf] at h ⊢
    rcases op.newIds_cases hf kind with ⟨hn,hc⟩ | ⟨hn,hc⟩
    · rw [hn,List.nil_append] at h ⊢
      rw [← hc] at hm h₁ ⊢
      exact ih (hf.op op) h₁ hm h
    · have ha : allocated (c.counter kind) = c.counter kind := max_eq_left h₁
      rw [ha] at hn hc
      rw [hn] at h ⊢
      have hl := h (c.counter kind) (by simp)
      rw [u64Succ_eq (by omega)] at hc
      have hi := ih (hf.op op) (by omega) (by omega) fun id hid => h id (List.mem_append_right _ hid)
      rw [List.length_append,List.length_singleton]
      omega

theorem counter_fromSnapshot (s : CoreSnapshot) (kind : IdKind) :
    (fromSnapshot s).counter kind = u64Succ (s.largestId kind) := by
  cases kind <;> rfl

end Runs

/-- A restored core is safe exactly as long as, for each kind of records, the largest restored id
and the number of records made since stay below the limit together. -/
theorem restored_safely_iff (s : CoreSnapshot) (ops : List CoreOp) :
    RestoredSafely s ops ↔
      ∀ kind, s.largestId kind + (newIdsOf kind (fromSnapshot s) ops).length < u64Max := by
  refine forall_congr' fun kind => ?_
  have hf := Filed.imported s
  constructor
  · rintro ⟨hl,h⟩
    have hc := counter_fromSnapshot s kind
    rw [u64Succ_eq (by omega)] at hc
    have hle := length_newIdsOf_le hf (by omega) (by omega) fun id hid => (h id hid).1
    omega
  · intro h
    have hc := counter_fromSnapshot s kind
    rw [u64Succ_eq (by omega)] at hc
    have he : newIdsOf kind (fromSnapshot s) ops = _ := newIdsOf_eq hf (by omega) (by omega)
    refine ⟨by omega,fun id hid => ?_⟩
    rw [he,List.mem_range'_1,hc] at hid
    refine ⟨by omega,fun hm => ?_⟩
    have hle := ((foldl_max_le_iff (s.ids kind) 0 _).mp le_rfl).2 id hm
    have : id ≤ s.largestId kind := hle
    omega

def limitState : PersistedState :=
  ⟨currentSchemaVersion,⟨[titledAccount,{ titledAccount with id := u64Max, jid := "bob@host" }],[],[],[],[]⟩⟩

/-- A file with such an account is loaded, the counter starts over, and the next account takes the
place of the first one. -/
theorem restored_id_reused :
    loadState (jsonCodec (readerOf [limitState])) .none "state" (AList.insert "state" limitState.bytes ∅) =
        .ok (some limitState.snapshot) ∧
      u64Max < limitState.snapshot.largestId .account + 1 ∧
      ((fromSnapshot limitState.snapshot).addAccount ⟨"eve@host","host","Eve"⟩).1 = .ok 1 ∧
      1 ∈ limitState.snapshot.ids .account ∧
      ¬ RestoredSafely limitState.snapshot [.addAccount ⟨"eve@host","host","Eve"⟩] := by
  refine ⟨by decide +kernel,by decide +kernel,by decide +kernel,by decide +kernel,fun h => ?_⟩
  have hl := (h .account).1
  revert hl
  decide +kernel

end MindChat
