import MindChat.Announcements

/-! The unread badge counts. It shows the number of incoming messages stored in a
conversation since it was made or last read, up to the limit of its type. -/

namespace MindChat

open MindChatCore

/-- What the badge of a conversation depends on. -/
inductive Moment
  | created (id : ConversationId)
  | stored (id : ConversationId)
  | read (id : ConversationId)
  deriving DecidableEq

/-- The conversation is made or read. -/
def Moment.startsOver (id : ConversationId) : Moment → Bool
  | created k | read k => k = id
  | stored _ => false

def Edit.moment : Edit → Option Moment
  | newConversation v => some (.created v.id)
  | newMessage m => if m.direction = .incoming then some (.stored m.conversationId) else none
  | _ => none

/-- Conversations are made by opening them and by a text of a new peer, incoming messages are
stored by the two receive paths. -/
def CoreOp.moments (c : MindChatCore) (op : CoreOp) : List Moment :=
  match op with
  | openConversation .. | receiveText .. | applyTransportEvent (.incomingText ..) =>
    (op.edits c).filterMap Edit.moment
  | markConversationRead id => if (op.error c).isSome then [] else [.read id]
  | _ => []

def SessionStep.moments (c : MindChatCore) : SessionStep → List Moment
  | op o => o.moments c
  | restart => []

def badgeHistory : MindChatCore → List SessionStep → List Moment
  | _, [] => []
  | c, s :: rest => s.moments c ++ badgeHistory (s.run c) rest

/-- The incoming messages stored in the conversation since it was made or last read. -/
def unreadIn (moments : List Moment) (id : ConversationId) : ℕ :=
  (moments.reverse.takeWhile fun moment => !moment.startsOver id).count (.stored id)

theorem unreadIn_concat (moments : List Moment) (moment : Moment) (id : ConversationId) :
    unreadIn (moments ++ [moment]) id = if moment.startsOver id then 0
      else unreadIn moments id + if moment = .stored id then 1 else 0 := by
  simp only [unreadIn,List.reverse_append,List.reverse_cons,List.reverse_nil,List.nil_append,
    List.cons_append,List.takeWhile_cons]
  cases h : moment.startsOver id with
  | true => rfl
  | false => simp [List.count_cons]

theorem badgeHistory_concat (c : MindChatCore) (steps : List SessionStep) (s : SessionStep) :
    badgeHistory c (steps ++ [s]) = badgeHistory c steps ++ s.moments (steps.foldl SessionStep.run c) := by
  induction steps generalizing c with
  | nil => simp [badgeHistory]
  | cons first rest ih => simp [badgeHistory,ih]

/-- Every conversation shows the count of its moments. -/
def Counts (c : MindChatCore) (moments : List Moment) : Prop :=
  ∀ k v, c.conversations.lookup k = some v → v.unreadCount = min u32Max (unreadIn moments k)

namespace Counts

variable {c d : MindChatCore} {moments : List Moment}

theorem of_subset (h : Counts c moments)
    (hs : ∀ k v, d.conversations.lookup k = some v → c.conversations.lookup k = some v) : Counts d moments :=
  fun k v hv => h k v (hs k v hv)

theorem of_eq (h : Counts c moments) (he : d.conversations = c.conversations) : Counts d moments :=
  h.of_subset fun _ _ hv => he ▸ hv

theorem insert (h : Counts c moments) {id : ConversationId} {v : Conversation} {moment : Moment}
    (hd : d.conversations = c.conversations.insert id v)
    (hne : ∀ k, k ≠ id → moment.startsOver k = false ∧ moment ≠ .stored k)
    (hv : v.unreadCount = min u32Max (unreadIn (moments ++ [moment]) id)) :
    Counts d (moments ++ [moment]) := by
  intro k w hw
  rw [hd,Table.lookup_insert_if] at hw
  split at hw
  · next hk =>
    cases hw
    rw [hk]
    exact hv
  · next hk =>
    obtain ⟨h₁,h₂⟩ := hne k hk
    rw [unreadIn_concat,h₁,if_neg h₂]
    exact h k w hw

theorem created (h : Counts c moments) {id : ConversationId} {v : Conversation} (hv : v.unreadCount = 0)
    (hd : d.conversations = c.conversations.insert id v) : Counts d (moments ++ [.created id]) := by
  refine h.insert hd (fun k hk => ⟨?_,by simp⟩) ?_
  · exact decide_eq_false (Ne.symm hk)
  · simp [unreadIn_concat,Moment.startsOver,hv]

theorem read (h : Counts c moments) {id : ConversationId} {v : Conversation} (hv : v.unreadCount = 0)
    (hd : d.conversations = c.conversations.insert id v) : Counts d (moments ++ [.read id]) := by
  refine h.insert hd (fun k hk => ⟨?_,by simp⟩) ?_
  · exact decide_eq_false (Ne.symm hk)
  · simp [unreadIn_concat,Moment.startsOver,hv]

theorem stored (h : Counts c moments) {id : ConversationId} {old v : Conversation}
    (ho : c.conversations.lookup id = some old) (hv : v.unreadCount = u32SaturatingSucc old.unreadCount)
    (hd : d.conversations = c.conversations.insert id v) : Counts d (moments ++ [.stored id]) := by
  refine h.insert hd (fun k hk => ⟨rfl,by simpa using Ne.symm hk⟩) ?_
  have hold := h id old ho
  simp only [unreadIn_concat,Moment.startsOver,if_true,Bool.false_eq_true,if_false]
  rw [hv,u32SaturatingSucc,hold]
  omega

theorem touched (h : Counts c moments) {id : ConversationId} {old v : Conversation}
    (ho : c.conversations.lookup id = some old) (hv : v.unreadCount = old.unreadCount)
    (hd : d.conversations = c.conversations.insert id v) : Counts d moments := by
  intro k w hw
  rw [hd,Table.lookup_insert_if] at hw
  split at hw
  · next hk =>
    cases hw
    rw [hk,hv]
    exact h id old ho
  · exact h k w hw

end Counts

section Steps

variable {c d : MindChatCore} {moments : List Moment}

theorem conversations_updateAccount (accountId : AccountId) (change : Account → Account) :
    (c.updateAccount accountId change).2.conversations = c.conversations := by
  unfold updateAccount
  split <;> rfl

theorem conversations_applyTransportEvent {event : TransportEvent}
    (h : ∀ accountId kind address sender body now,
      event ≠ .incomingText accountId kind address sender body now) :
    (c.applyTransportEvent event).2.conversations = c.conversations := by
  cases event with
  | connected | disconnected => exact conversations_updateAccount _ _
  | capabilitiesDiscovered accountId capabilities =>
    have hs : (c.setCapabilities accountId capabilities).2.conversations = c.conversations :=
      conversations_updateAccount accountId _
    simp only [applyTransportEvent]
    split
    · split <;> rename_i hr <;> rw [hr] at hs <;> exact hs
    · rfl
  | rosterContactUpsert =>
    rw [applyTransportEvent_snd.1]
    unfold syncRosterContact
    repeat' split
    all_goals rfl
  | rosterContactRemoved =>
    rw [applyTransportEvent_snd.2.1]
    unfold removeContact
    repeat' split
    all_goals rfl
  | contactPresenceUpdated =>
    rw [applyTransportEvent_snd.2.2]
    unfold updateContactPresence
    repeat' split
    all_goals rfl
  | incomingText => exact absurd rfl (h _ _ _ _ _ _)
  | deliveryUpdated accountId sender messageId state =>
    simp only [applyTransportEvent]
    rcases applyDeliveryUpdate_cases c accountId sender messageId state with
      he | ⟨m,v,-,-,-,-,-,-,-,he⟩ <;> rw [he]
    rfl

theorem Counts.receiveText (h : Counts c moments) {id : ConversationId} {sender body : String} {now : ℕ}
    {messageId : MessageId} (hr : c.receiveText id sender body now = (.ok messageId,d)) :
    Counts d (moments ++ [.stored id]) ∧ (d.textEdits messageId).filterMap Edit.moment = [.stored id] := by
  unfold MindChatCore.receiveText at hr
  split at hr
  · cases hr
  next hc =>
  split at hr
  · cases hr
  next trimmed hb =>
  obtain ⟨v,hv⟩ := Option.isSome_iff_exists.mp (ensureConversation_ok.mp hc)
  rw [insertMessage_eq hv] at hr
  cases hr
  refine ⟨h.stored hv rfl rfl,?_⟩
  simp [textEdits,conversationEdits,push,storing_insert,Edit.moment]

theorem Counts.sendText (h : Counts c moments) (id : ConversationId) (sender body : String)
    (inReplyTo : Option MessageId) (now : ℕ) :
    Counts (c.sendText id sender body inReplyTo now).2 moments := by
  unfold MindChatCore.sendText
  split
  · exact h
  next hc =>
  split
  · exact h
  split
  · exact h
  obtain ⟨v,hv⟩ := Option.isSome_iff_exists.mp (ensureConversation_ok.mp hc)
  rw [insertMessage_eq hv]
  exact h.touched (v := { v with lastActivityEpochMs := now }) hv rfl rfl

theorem Counts.insertConversation (h : Counts c moments) (accountId : AccountId) (kind : ConversationKind)
    (address title : String) (now : ℕ) :
    Counts (c.insertConversation accountId kind address title now).2 (moments ++
      ((c.insertConversation accountId kind address title now).2.newConversationEdits
        (c.insertConversation accountId kind address title now).1).filterMap Edit.moment) := by
  have hm : ((c.insertConversation accountId kind address title now).2.newConversationEdits
      (c.insertConversation accountId kind address title now).1).filterMap Edit.moment =
        [.created (allocated c.nextConversationId)] := by
    simp [newConversationEdits,MindChatCore.insertConversation,allocateConversationId,push,storing_insert,
      Edit.moment]
  rw [hm]
  exact h.created (v := Conversation.mk _ accountId kind address title 0 now) rfl rfl

theorem Counts.targetConversation (h : Counts c moments) (accountId : AccountId) (kind : ConversationKind)
    (address : String) (now : ℕ) :
    Counts (c.targetConversation accountId kind address now).2 (moments ++
      (if (c.findConversation accountId kind address).isNone then
        (c.targetConversation accountId kind address now).2.newConversationEdits
          (c.targetConversation accountId kind address now).1 else []).filterMap Edit.moment) := by
  unfold MindChatCore.targetConversation
  cases c.findConversation accountId kind address with
  | some v => simpa using h
  | none => exact h.insertConversation accountId kind address _ now

theorem Counts.incomingText (h : Counts c moments) (accountId : AccountId) (kind : ConversationKind)
    (address sender body : String) (now : ℕ) :
    let event := TransportEvent.incomingText accountId kind address sender body now
    Counts (c.applyTransportEvent event).2 (moments ++ (event.edits c).filterMap Edit.moment) := by
  have ht := h.targetConversation accountId kind address now
  simp only [TransportEvent.edits,applyTransportEvent]
  rcases hr : c.receiveTransportText accountId kind address sender body now with ⟨e | id,d⟩
  · rw [(receiveTransportText_skipped hr).resolve_right fun hk => by obtain ⟨id,hk⟩ := hk; cases hk]
    simpa using h
  cases id with
  | none =>
    rw [(receiveTransportText_skipped hr).resolve_right fun hk => by obtain ⟨id,hk⟩ := hk; cases hk]
    simpa using h
  | some id =>
    unfold receiveTransportText at hr
    split at hr
    · cases hr
    split at hr
    · cases hr
    split at hr
    · cases hr
    dsimp only at hr ⊢
    split at hr <;> cases hr
    next hs =>
    obtain ⟨hc,hm⟩ := ht.receiveText hs
    rw [List.filterMap_append,← List.append_assoc,hm]
    exact hc

theorem Counts.failed (h : Counts c moments) {op : CoreOp} (he : (op.error c).isSome) :
    Counts (op.run c) (moments ++ (op.edits c).filterMap Edit.moment) := by
  obtain ⟨e,hs⟩ := Option.isSome_iff_exists.mp he
  rw [op.run_of_error hs,CoreOp.edits,if_pos he]
  simpa using h

theorem Counts.openConversation (h : Counts c moments) (accountId : AccountId) (kind : ConversationKind)
    (address title : String) (now : ℕ) :
    let op := CoreOp.openConversation accountId kind address title now
    Counts (op.run c) (moments ++ (op.edits c).filterMap Edit.moment) := by
  intro op
  by_cases he : (op.error c).isSome
  · exact h.failed he
  rw [CoreOp.edits,if_neg he]
  simp only [op,CoreOp.error,CoreOp.written,CoreOp.run] at he ⊢
  obtain ⟨id,hr⟩ := not_failed he
  obtain ⟨v,hv,hd⟩ | ⟨hn,hd⟩ := openConversation_snd hr
  · rw [hd,hv]
    simpa using h
  · rw [hd,hn]
    exact h.insertConversation accountId kind address title now

theorem Counts.received (h : Counts c moments) (id : ConversationId) (sender body : String) (now : ℕ) :
    let op := CoreOp.receiveText id sender body now
    Counts (op.run c) (moments ++ (op.edits c).filterMap Edit.moment) := by
  intro op
  by_cases he : (op.error c).isSome
  · exact h.failed he
  rw [CoreOp.edits,if_neg he]
  simp only [op,CoreOp.error,CoreOp.written,CoreOp.run] at he ⊢
  obtain ⟨messageId,hr⟩ := not_failed he
  have hp : c.receiveText id sender body now = (.ok messageId,(c.receiveText id sender body now).2) :=
    Prod.ext hr rfl
  obtain ⟨hc,hm⟩ := h.receiveText hp
  rw [(receiveText_inserts hp).replay.1] at hm
  rw [← hm] at hc
  exact hc

theorem Counts.markConversationRead (h : Counts c moments) (id : ConversationId) :
    let op := CoreOp.markConversationRead id
    Counts (op.run c) (moments ++ op.moments c) := by
  intro op
  simp only [op,CoreOp.moments]
  split
  · next he =>
    obtain ⟨e,hs⟩ := Option.isSome_iff_exists.mp he
    rw [CoreOp.run_of_error hs]
    simpa using h
  · next he =>
    simp only [CoreOp.error,CoreOp.run] at he ⊢
    obtain ⟨u,hr⟩ := not_failed he
    simp only [MindChatCore.markConversationRead] at hr ⊢
    split at hr
    · cases hr
    · next v hv =>
      exact h.read (v := { v with unreadCount := 0 }) rfl rfl

theorem Counts.transportText (h : Counts c moments) (accountId : AccountId) (kind : ConversationKind)
    (address sender body : String) (now : ℕ) :
    let op := CoreOp.applyTransportEvent (.incomingText accountId kind address sender body now)
    Counts (op.run c) (moments ++ (op.edits c).filterMap Edit.moment) := by
  intro op
  by_cases he : (op.error c).isSome
  · exact h.failed he
  rw [CoreOp.edits,if_neg he]
  exact h.incomingText accountId kind address sender body now

theorem Counts.deleteAccount (h : Counts c moments) (hc : Reached c) (a : AccountId) :
    Counts (c.deleteAccount a).2 moments := by
  by_cases ha : (c.accounts.lookup a).isSome
  · obtain ⟨-,-,-,hd⟩ := deleteAccount_spec hc.grounded ha
    exact h.of_subset fun k v hv => ((hd.conversations k v).mp hv).1
  · have hn : (c.accounts.lookup a).isNone := by simpa using ha
    rw [MindChatCore.deleteAccount,if_pos hn]
    exact h

theorem Counts.deleteConversation (h : Counts c moments) (hc : Reached c) (id : ConversationId) :
    Counts (c.deleteConversation id).2 moments := by
  by_cases hv : (c.conversations.lookup id).isSome
  · obtain ⟨-,-,-,hd⟩ := deleteConversation_spec hc.grounded hv
    exact h.of_subset fun k v hv => ((hd.conversations k v).mp hv).1
  · have hn : (c.conversations.lookup id).isNone := by simpa using hv
    rw [MindChatCore.deleteConversation,if_pos hn]
    exact h

theorem Counts.op (h : Counts c moments) (hc : Reached c) (op : CoreOp) :
    Counts (op.run c) (moments ++ op.moments c) := by
  cases op with
  | openConversation accountId kind address title now =>
    exact h.openConversation accountId kind address title now
  | receiveText id sender body now => exact h.received id sender body now
  | markConversationRead id => exact h.markConversationRead id
  | applyTransportEvent event =>
    cases event with
    | incomingText accountId kind address sender body now =>
      exact h.transportText accountId kind address sender body now
    | _ =>
      simp only [CoreOp.moments,List.append_nil]
      exact h.of_eq (conversations_applyTransportEvent (by simp))
  | sendText id sender body inReplyTo now =>
    simp only [CoreOp.moments,List.append_nil]
    exact h.sendText id sender body inReplyTo now
  | deleteAccount a =>
    simp only [CoreOp.moments,List.append_nil]
    exact h.deleteAccount hc a
  | deleteConversation id =>
    simp only [CoreOp.moments,List.append_nil]
    exact h.deleteConversation hc id
  | setConnectionState | setCapabilities | setAccountProxies =>
    simp only [CoreOp.moments,List.append_nil]
    exact h.of_eq (conversations_updateAccount _ _)
  | updateAccountDisplayName =>
    simp only [CoreOp.moments,List.append_nil,CoreOp.run,MindChatCore.updateAccountDisplayName]
    split
    · exact h
    · exact h.of_eq (conversations_updateAccount _ _)
  | addAccount | upsertContact | attach | setDeliveryState | addReaction | drainEvents | syncRosterContact
      | removeContact | updateContactPresence =>
    simp only [CoreOp.moments,List.append_nil,CoreOp.run,MindChatCore.addAccount,
      MindChatCore.upsertContact,MindChatCore.attach,MindChatCore.setDeliveryState,MindChatCore.addReaction,
      MindChatCore.drainEvents,MindChatCore.syncRosterContact,MindChatCore.removeContact,
      MindChatCore.updateContactPresence]
    refine h.of_eq ?_
    repeat' split
    all_goals rfl

theorem Counts.step (h : Counts c moments) (hc : Reached c) (s : SessionStep) :
    Counts (s.run c) (moments ++ s.moments c) := by
  cases s with
  | op o => exact h.op hc o
  | restart =>
    simp only [SessionStep.moments,List.append_nil]
    exact h.of_subset hc.grounded.conversations_restart

theorem counts_badgeHistory (steps : List SessionStep) :
    Counts (steps.foldl SessionStep.run default) (badgeHistory default steps) := by
  induction steps using List.reverseRecOn with
  | nil => simp [Counts,badgeHistory,MindChatCore.default]
  | append_singleton steps s ih =>
    rw [List.foldl_append,List.foldl_cons,List.foldl_nil,badgeHistory_concat]
    exact ih.step ⟨steps,rfl⟩ s

end Steps

/-- In every run the badge of a conversation is the number of incoming messages stored in it
since it was made or last read, up to the limit of its type. -/
theorem unread_badge_counts (steps : List SessionStep) {id : ConversationId} {v : Conversation}
    (hv : (steps.foldl SessionStep.run default).conversations.lookup id = some v) :
    v.unreadCount = min u32Max (unreadIn (badgeHistory default steps) id) :=
  counts_badgeHistory steps id v hv

/-- Three texts from both receive paths, one of them before the conversation is read. -/
def badgeSession : List SessionStep :=
  [.op (.addAccount demoSetup),
    .op (.applyTransportEvent (.incomingText 1 .direct "bob@host" "bob@host" "hi" 10)),
    .op (.markConversationRead 1),.op (.receiveText 1 "bob@host" "still there?" 11),
    .op (.openConversation 1 .direct "bob@host" "Bob" 12),.restart,
    .op (.applyTransportEvent (.incomingText 1 .direct "bob@host" "bob@host" "hello" 13)),
    .op (.sendText 1 "ada@host" "yes" none 14)]

theorem unread_badge_counts_session :
    ∃ v, (badgeSession.foldl SessionStep.run default).conversations.lookup 1 = some v ∧
      v.unreadCount = 2 := by
  obtain ⟨v,hv⟩ := Option.isSome_iff_exists.mp (show
    ((badgeSession.foldl SessionStep.run default).conversations.lookup 1).isSome by decide +kernel)
  have hc : unreadIn (badgeHistory default badgeSession) 1 = 2 := by decide +kernel
  have h := unread_badge_counts badgeSession hv
  rw [hc] at h
  exact ⟨v,hv,h⟩

end MindChat
