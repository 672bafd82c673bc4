import MindChat.UiRefresh

/-! The messages, the reactions and the previews of a snapshot, which the mapping
finds through groups built in one pass, by the filters that the groups replace. -/

namespace MindChat.Ui

open Grouping

def conversationMessages (snapshot : FfiCoreSnapshot) (id : UInt64) : List FfiMessage :=
  snapshot.messages.filter (fun message => decide (message.conversationId = id))

def messageReactions (snapshot : FfiCoreSnapshot) (message : FfiMessage) : List FfiReaction :=
  snapshot.reactions.filter (fun reaction => decide (reaction.messageId = message.id))

/-- The emoji, each once, in the order of their first appearance. -/
def distinctEmoji (reactions : List FfiReaction) : List String :=
  (reactions.map FfiReaction.emoji).eraseDups

def emojiCount (reactions : List FfiReaction) (emoji : String) : ℕ :=
  reactions.countP (fun reaction => decide (reaction.emoji = emoji))

def naiveLabels (reactions : List FfiReaction) : List String :=
  (distinctEmoji reactions).map fun emoji => emoji ++ " " ++ toString (emojiCount reactions emoji)

/-- The message as shown, its reactions found by a filter over all of them. -/
def naiveMessage (timestampFormatter : Int64 → String) (snapshot : FfiCoreSnapshot)
    (message : FfiMessage) : MessageUi where
  id := message.id.toInt64
  sender := message.sender
  body := message.body
  timestamp := timestampFormatter message.sentAtEpochMs.toInt64
  mine := decide (message.direction = .outgoing)
  delivery :=
    if message.direction = .outgoing then some (deliveryToUiModel message.deliveryState) else none
  reactions := naiveLabels (messageReactions snapshot message)

def naivePreview (snapshot : FfiCoreSnapshot) (conversation : FfiConversation) : String :=
  (((conversationMessages snapshot conversation.id).getLast?).map FfiMessage.body).getD ""

theorem toInt64_inj {a b : UInt64} : a.toInt64 = b.toInt64 ↔ a = b :=
  ⟨fun h => by simpa using congrArg Int64.toUInt64 h,fun h => by rw [h]⟩

theorem reactionLabels_eq (reactions : List FfiReaction) :
    reactionLabels reactions = naiveLabels reactions := by
  rw [reactionLabels,groupBy_eq,List.map_map]
  refine List.map_congr_left fun emoji _ => ?_
  simp only [Function.comp_apply,itemsOf,emojiCount,List.countP_eq_length_filter]

section

variable (timestampFormatter : Int64 → String) (snapshot : FfiCoreSnapshot)

theorem mapMessage_eq (message : FfiMessage) :
    mapMessage timestampFormatter (groupBy FfiReaction.messageId snapshot.reactions) message =
      naiveMessage timestampFormatter snapshot message := by
  have hlabels : ((group (groupBy FfiReaction.messageId snapshot.reactions) message.id).map
      reactionLabels).getD [] = naiveLabels (messageReactions snapshot message) := by
    have hitems := group_groupBy FfiReaction.messageId snapshot.reactions message.id
    rw [messageReactions,← itemsOf,← hitems,← reactionLabels_eq]
    cases group (groupBy FfiReaction.messageId snapshot.reactions) message.id <;> rfl
  simp only [mapMessage,naiveMessage,hlabels]

theorem mem_conversation_keys {k : Int64} :
    k ∈ keysOf (fun message : FfiMessage => message.conversationId.toInt64) snapshot.messages ↔
      ∃ id : UInt64, k = id.toInt64 ∧ conversationMessages snapshot id ≠ [] := by
  rw [mem_keysOf]
  constructor
  · rintro ⟨message,hm,rfl⟩
    exact ⟨message.conversationId,rfl,List.ne_nil_of_mem (List.mem_filter.mpr ⟨hm,by simp⟩)⟩
  · rintro ⟨id,rfl,hne⟩
    obtain ⟨message,hm⟩ := List.exists_mem_of_ne_nil _ hne
    obtain ⟨hm,hid⟩ := List.mem_filter.mp hm
    exact ⟨message,hm,by rw [of_decide_eq_true hid]⟩

theorem itemsOf_conversation (id : UInt64) :
    itemsOf (fun message : FfiMessage => message.conversationId.toInt64) id.toInt64 snapshot.messages =
      conversationMessages snapshot id := by
  simp only [itemsOf,conversationMessages,toInt64_inj]

theorem mapMessages_eq :
    mapMessages timestampFormatter snapshot =
      (keysOf (fun message : FfiMessage => message.conversationId.toInt64) snapshot.messages).map
        fun k => (k,(itemsOf (fun message : FfiMessage => message.conversationId.toInt64) k
          snapshot.messages).map (naiveMessage timestampFormatter snapshot)) := by
  have hshown : mapMessage timestampFormatter (groupBy FfiReaction.messageId snapshot.reactions) =
      naiveMessage timestampFormatter snapshot := funext (mapMessage_eq timestampFormatter snapshot)
  simp only [mapMessages,hshown]
  rw [groupBy_eq,List.map_map]
  rfl

theorem group_mapMessages (id : UInt64) :
    (group (mapMessages timestampFormatter snapshot) id.toInt64).getD [] =
      (conversationMessages snapshot id).map (naiveMessage timestampFormatter snapshot) := by
  rw [mapMessages_eq,group_map]
  split <;> rename_i h
  · rw [itemsOf_conversation]
    rfl
  · have hnone : conversationMessages snapshot id = [] := by
      by_contra hne
      exact h ((mem_conversation_keys snapshot).mpr ⟨id,rfl,hne⟩)
    rw [hnone]
    rfl

theorem mapConversation_preview (conversation : FfiConversation) :
    (mapConversation timestampFormatter (mapMessages timestampFormatter snapshot)
      conversation).preview = naivePreview snapshot conversation := by
  simp only [mapConversation,naivePreview,group_mapMessages,List.getLast?_map,Option.map_map]
  rfl

/-- An account stays active only when it is there and its id is not 0. -/
theorem resolveActive_eq (accounts : List AccountUi) (activeAccountId : Int64) :
    resolveActive accounts activeAccountId =
      if activeAccountId ≠ 0 ∧ activeAccountId ∈ accounts.map AccountUi.id then activeAccountId
      else (accounts.map AccountUi.id).head?.getD 0 := by
  rw [List.head?_map,resolveActive]
  by_cases h : activeAccountId ≠ 0 ∧ activeAccountId ∈ accounts.map AccountUi.id
  · rw [if_pos h,if_neg]
    rintro (h0 | hnone)
    · exact h.1 h0
    · obtain ⟨account,hm,hid⟩ := List.mem_map.mp h.2
      exact hnone account hm hid
  · rw [if_neg h,if_pos]
    by_contra hn
    push Not at hn
    obtain ⟨h0,account,hm,hid⟩ := hn
    exact h ⟨h0,List.mem_map.mpr ⟨account,hm,hid⟩⟩

end

/-- The indexed mapping shows what the plain filters show: the messages of each
conversation, one label for each emoji of a message, the last body as the preview,
and the requested account when one is requested and there. -/
theorem indexed_mapping_eq_naive (timestampFormatter : Int64 → String) (snapshot : FfiCoreSnapshot)
    (activeAccountId : Int64) (connectingSince : Table Int64 Int64) (inputs : UiInputs) (now : Int64) :
    let mapping := mapSnapshotToUiState timestampFormatter snapshot activeAccountId connectingSince
      inputs now
    ((∀ id : UInt64, (group mapping.state.messagesByConversation id.toInt64).getD [] =
        (conversationMessages snapshot id).map (naiveMessage timestampFormatter snapshot)) ∧
      (mapping.state.messagesByConversation.map Prod.fst).Nodup ∧
      ∀ k ∈ mapping.state.messagesByConversation.map Prod.fst,
        ∃ id : UInt64, k = id.toInt64 ∧ conversationMessages snapshot id ≠ []) ∧
    (∀ message : FfiMessage, (distinctEmoji (messageReactions snapshot message)).Nodup ∧
      ((distinctEmoji (messageReactions snapshot message)).map
        (emojiCount (messageReactions snapshot message))).sum =
          (messageReactions snapshot message).length) ∧
    mapping.state.conversations.map ConversationUi.preview =
      snapshot.conversations.map (naivePreview snapshot) ∧
    mapping.state.activeAccountId = mapping.activeAccountId ∧
    mapping.activeAccountId =
      if activeAccountId ≠ 0 ∧
          activeAccountId ∈ snapshot.accounts.map (fun account => account.id.toInt64) then
        activeAccountId
      else (snapshot.accounts.map (fun account => account.id.toInt64)).head?.getD 0 := by
  intro mapping
  have hkeys : mapping.state.messagesByConversation.map Prod.fst =
      keysOf (fun message : FfiMessage => message.conversationId.toInt64) snapshot.messages := by
    have hm := congrArg (List.map Prod.fst) (mapMessages_eq timestampFormatter snapshot)
    rw [List.map_map] at hm
    exact hm.trans (List.map_id _)
  refine ⟨⟨group_mapMessages timestampFormatter snapshot,?_,?_⟩,?_,?_,rfl,?_⟩
  · rw [hkeys]
    exact keysOf_nodup _ _
  · intro k hk
    rw [hkeys] at hk
    exact (mem_conversation_keys snapshot).mp hk
  · intro message
    refine ⟨keysOf_nodup FfiReaction.emoji _,?_⟩
    rw [← sum_length_itemsOf FfiReaction.emoji]
    refine congrArg List.sum (List.map_congr_left fun emoji _ => ?_)
    exact List.countP_eq_length_filter
  · refine (List.map_map).trans (List.map_congr_left fun conversation _ => ?_)
    exact mapConversation_preview timestampFormatter snapshot conversation
  · have h := resolveActive_eq (mapAccounts now connectingSince snapshot.accounts).1 activeAccountId
    rwa [mapAccounts_ids] at h

def zeroIdSnapshot : FfiCoreSnapshot where
  accounts := [⟨1,"ada@example.org","example.org","Ada",.online,[],none,none⟩,
    ⟨0,"bob@example.org","example.org","Bob",.online,[],none,none⟩]
  contacts := []
  conversations := []
  messages := []
  reactions := []

/-- The account with id 0 is there, and a request for it yields the first account:
a requested 0 stands for no request. -/
theorem zero_request_not_kept :
    (0 : Int64) ∈ zeroIdSnapshot.accounts.map (fun account => account.id.toInt64) ∧
      (mapSnapshotToUiState toString zeroIdSnapshot 0 ∅ plainInputs 0).activeAccountId = 1 := by
  decide

end MindChat.Ui
