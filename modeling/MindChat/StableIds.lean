import MindChat.Runs
import Mathlib.Data.List.Range
import Mathlib.Data.Fintype.Defs

/-! Ids over whole histories: what the allocators hand out between restarts,
and when a restart can hand an id out again. -/

namespace MindChat

open MindChatCore

def stanzaPrefix : List Char := "mindchat-".toList

/-- `format!("mindchat-{}", message_id)`, the stanza id of a sent message. -/
def stanzaId (messageId : MessageId) : String :=
  String.ofList (stanzaPrefix ++ Nat.toDigits 10 messageId)

/-- `parse::<u64>` on decimal digits; zero and overflowing numbers are ignored. -/
def parseMessageNumber (digits : List Char) : Option MessageId :=
  if digits = [] ∨ digits.all Char.isDigit = false then none
  else if Nat.ofDigitChars 10 digits 0 ≤ u64Max ∧ Nat.ofDigitChars 10 digits 0 ≠ 0 then
    some (Nat.ofDigitChars 10 digits 0)
  else none

/-- A receipt names a message by the number after the prefix. -/
def parseReceiptMessageId (id : String) : Option MessageId :=
  (stanzaPrefix.isPrefixOf? id.toList).bind parseMessageNumber

theorem isPrefixOf?_append (xs ys : List Char) : xs.isPrefixOf? (xs ++ ys) = some ys := by
  induction xs with
  | nil => cases ys <;> rfl
  | cons x xs ih => simp [List.isPrefixOf?,ih]

theorem parseMessageNumber_toDigits {n : ℕ} (h₀ : n ≠ 0) (h : n ≤ u64Max) :
    parseMessageNumber (Nat.toDigits 10 n) = some n := by
  have hd : (Nat.toDigits 10 n).all Char.isDigit = true := by
    rw [List.all_eq_true]
    intro c hc
    exact Nat.isDigit_of_mem_toDigits (b := 10) (by omega) le_rfl hc
  have hn : Nat.toDigits 10 n ≠ [] := Nat.toDigits_ne_nil
  unfold parseMessageNumber
  rw [if_neg (by simp [hd,hn]),Nat.ofDigitChars_ten_toDigits,if_pos ⟨h,h₀⟩]

theorem parseReceiptMessageId_stanzaId {n : ℕ} (h₀ : n ≠ 0) (h : n ≤ u64Max) :
    parseReceiptMessageId (stanzaId n) = some n := by
  unfold parseReceiptMessageId stanzaId
  rw [String.toList_ofList,isPrefixOf?_append]
  exact parseMessageNumber_toDigits h₀ h

inductive IdKind
  | account | conversation | message | reaction
  deriving DecidableEq

instance : Fintype IdKind :=
  ⟨{.account,.conversation,.message,.reaction},by intro kind; cases kind <;> decide⟩

namespace MindChatCore

def counter (c : MindChatCore) : IdKind → ℕ
  | .account => c.nextAccountId
  | .conversation => c.nextConversationId
  | .message => c.nextMessageId
  | .reaction => c.nextReactionId

def stores (c : MindChatCore) (kind : IdKind) (id : ℕ) : Bool :=
  match kind with
  | .account => (c.accounts.lookup id).isSome
  | .conversation => (c.conversations.lookup id).isSome
  | .message => (c.messages.lookup id).isSome
  | .reaction => (c.reactions.lookup id).isSome

end MindChatCore

def Edit.newId : IdKind → Edit → Option ℕ
  | .account,.newAccount account => some account.id
  | .conversation,.newConversation conversation => some conversation.id
  | .message,.newMessage message => some message.id
  | .reaction,.newReaction reaction => some reaction.id
  | _,_ => none

/-- An edit either takes the next id of a kind or leaves its counter alone. -/
theorem Edit.newId_cases {c : MindChatCore} {edit : Edit} (hl : edit.Legal True c) (kind : IdKind) :
    (edit.newId kind = some (allocated (c.counter kind)) ∧
      allocated ((edit.apply c).counter kind) = allocated (c.counter kind) + 1) ∨
    (edit.newId kind = none ∧ (edit.apply c).counter kind = c.counter kind) := by
  cases edit with
  | newAccount account =>
    obtain ⟨hn,hid⟩ := hl
    cases kind
    · exact .inl ⟨congrArg some hid,by simp only [Edit.apply,counter,hid,allocated_u64Succ (hn trivial)]⟩
    all_goals exact .inr ⟨rfl,rfl⟩
  | newConversation conversation =>
    obtain ⟨hn,hid,-⟩ := hl
    cases kind
    case conversation =>
      exact .inl ⟨congrArg some hid,by simp only [Edit.apply,counter,hid,allocated_u64Succ (hn trivial)]⟩
    all_goals exact .inr ⟨rfl,rfl⟩
  | newMessage message =>
    obtain ⟨hn,hid,-⟩ := hl
    cases kind
    case message =>
      exact .inl ⟨congrArg some hid,by simp only [Edit.apply,counter,hid,allocated_u64Succ (hn trivial)]⟩
    all_goals exact .inr ⟨rfl,rfl⟩
  | newReaction reaction =>
    obtain ⟨hn,hid,-⟩ := hl
    cases kind
    case reaction =>
      exact .inl ⟨congrArg some hid,by simp only [Edit.apply,counter,hid,allocated_u64Succ (hn trivial)]⟩
    all_goals exact .inr ⟨rfl,rfl⟩
  | dropConversation id =>
    refine .inr ⟨by cases kind <;> rfl,?_⟩
    simp only [Edit.apply]
    rw [removeConversationState_eq]
    cases kind <;> rfl
  | _ => exact .inr ⟨by cases kind <;> rfl,by cases kind <;> rfl⟩

/-- The ids a kind's allocator hands out while the core moves from `c` to `d`:
each call returns `allocated` of the counter and moves the counter past it. -/
def issuedBetween (kind : IdKind) (c d : MindChatCore) : List ℕ :=
  List.range' (allocated (c.counter kind)) (allocated (d.counter kind) - allocated (c.counter kind))

theorem mem_issuedBetween {kind : IdKind} {c d : MindChatCore} {id : ℕ} :
    id ∈ issuedBetween kind c d ↔
      allocated (c.counter kind) ≤ id ∧ id < allocated (d.counter kind) := by
  rw [issuedBetween,List.mem_range'_1]
  omega

theorem edits_issue {cond : MindChatCore → Edit → Prop} {c d : MindChatCore} {es : List Edit}
    (h : Transition.Run (Transition.Meeting cond (Edit.Step True)) c es d) (kind : IdKind) :
    allocated (c.counter kind) ≤ allocated (d.counter kind) ∧
      es.filterMap (Edit.newId kind) = issuedBetween kind c d := by
  induction h with
  | nil => simp [issuedBetween]
  | cons hs _ ih =>
    obtain ⟨-,hl,rfl⟩ := hs
    obtain ⟨hle,he⟩ := ih
    rcases Edit.newId_cases hl kind with ⟨hn,ha⟩ | ⟨hn,ha⟩
    · refine ⟨by omega,?_⟩
      rw [List.filterMap_cons_some hn,he]
      simp only [issuedBetween,ha]
      rw [← List.range'_succ]
      congr 1
      omega
    · rw [List.filterMap_cons_none hn,he]
      rw [ha] at hle
      refine ⟨hle,?_⟩
      simp only [issuedBetween,ha]

/-- The ids of a kind handed out by one step; a restart hands out none. -/
def SessionStep.issues (kind : IdKind) (c : MindChatCore) : SessionStep → List ℕ
  | .op o => issuedBetween kind c (o.run c)
  | .restart => []

def issued (kind : IdKind) : MindChatCore → List SessionStep → List ℕ
  | _, [] => []
  | c, s :: steps => s.issues kind c ++ issued kind (s.run c) steps

/-- The newest id of every kind is still in use, or none was handed out yet. -/
def MindChatCore.NewestStored (c : MindChatCore) : Prop :=
  ∀ kind, c.counter kind ≤ 1 ∨ c.stores kind (c.counter kind - 1)

/-- No restart happens while the newest record of some kind is deleted. -/
def RestartSafe (c : MindChatCore) : SessionStep → Prop
  | .op _ => True
  | .restart => c.NewestStored

instance (c : MindChatCore) (s : SessionStep) : Decidable (RestartSafe c s) :=
  match s with
  | .op _ => .isTrue trivial
  | .restart => inferInstanceAs (Decidable (∀ _ : IdKind, _ ∨ _))

abbrev SessionRun (cond : MindChatCore → SessionStep → Prop) :=
  Transition.Run (Transition.Meeting cond (fun c s d => SessionStep.next c s = some d))

theorem le_allocated_nextAfter {V : Type} {t : Table ℕ V} {key : V → ℕ} {next : ℕ}
    (hn : next < u64Max) (hk : ∀ k v, t.lookup k = some v → key v = k)
    (h : ∀ k, (t.lookup k).isSome → k < allocated next)
    (hs : next ≤ 1 ∨ (t.lookup (next - 1)).isSome) :
    allocated next ≤ allocated (nextAfter ((Listing.sortByKey key t.values).map key)) := by
  rcases hs with hs | hs
  · simp only [allocated]
    omega
  · obtain ⟨v,hv⟩ := Option.isSome_iff_exists.mp hs
    have hm : v ∈ Listing.sortByKey key t.values :=
      Listing.mem_sortByKey.mpr (Table.mem_values.mpr ⟨_,hv⟩)
    have hlt := lt_nextAfter (by simpa using mem_sortByKey_below hn hk h)
      (List.mem_map_of_mem (f := key) hm)
    rw [hk _ v hv] at hlt
    simp only [allocated]
    omega

/-- With the newest records in place a restart lowers no counter. -/
theorem restart_counter {c : MindChatCore} (hi : Keyed c) (hf : c.CountersBelowMax)
    (hs : c.NewestStored) (kind : IdKind) :
    allocated (c.counter kind) ≤ allocated ((fromSnapshot c.snapshot).counter kind) := by
  cases kind with
  | account => exact le_allocated_nextAfter hf.1 hi.accountKey hi.accountBelow (hs .account)
  | conversation =>
    exact le_allocated_nextAfter hf.2.1 hi.conversationKey hi.conversationBelow (hs .conversation)
  | message => exact le_allocated_nextAfter hf.2.2.1 hi.messageKey hi.messageBelow (hs .message)
  | reaction => exact le_allocated_nextAfter hf.2.2.2 hi.reactionKey hi.reactionBelow (hs .reaction)

theorem SessionStep.counter_mono {c d : MindChatCore} {s : SessionStep} (hi : Keyed c)
    (hc : RestartSafe c s) (hs : s.next c = some d) (kind : IdKind) :
    allocated (c.counter kind) ≤ allocated (d.counter kind) ∧
      ∀ id ∈ s.issues kind c, allocated (c.counter kind) ≤ id ∧ id < allocated (d.counter kind) := by
  obtain ⟨hf,rfl⟩ := SessionStep.next_eq_some.mp hs
  cases s with
  | op o =>
    obtain ⟨es,hr⟩ := o.edited hi.filed fun _ => hf
    exact ⟨(edits_issue hr kind).1,fun id h => mem_issuedBetween.mp h⟩
  | restart => exact ⟨restart_counter hi hf hc kind,by simp [SessionStep.issues]⟩

/-- Along a safe session ids are handed out at most once and only from the
counters on. -/
theorem issued_nodup {c d : MindChatCore} {steps : List SessionStep}
    (h : SessionRun RestartSafe c steps d) (hi : Keyed c) (kind : IdKind) :
    (issued kind c steps).Nodup ∧ ∀ id ∈ issued kind c steps, allocated (c.counter kind) ≤ id := by
  induction h with
  | nil => simp [issued]
  | @cons c s t steps d hs _ ih =>
    obtain ⟨hc,hs⟩ := hs
    obtain ⟨hle,hm⟩ := SessionStep.counter_mono hi hc hs kind
    obtain ⟨hn,hl⟩ := ih (SessionStep.keyed hi hs)
    have ht := (SessionStep.next_eq_some.mp hs).2
    simp only [issued,ht]
    constructor
    · refine List.Nodup.append ?_ hn ?_
      · cases s with
        | op o => exact List.nodup_range'
        | restart => exact List.nodup_nil
      · intro id h₁ h₂
        have h₁ := (hm id h₁).2
        have h₂ := hl id h₂
        omega
    · intro id h
      rcases List.mem_append.mp h with h | h
      · exact (hm id h).1
      · exact hle.trans (hl id h)

theorem issued_lt {c d : MindChatCore} {steps : List SessionStep}
    (h : SessionRun RestartSafe c steps d) (hi : Keyed c) (kind : IdKind) :
    allocated (c.counter kind) ≤ allocated (d.counter kind) ∧
      ∀ id ∈ issued kind c steps, id < allocated (d.counter kind) := by
  induction h with
  | nil => simp [issued]
  | @cons c s t steps d hs _ ih =>
    obtain ⟨hc,hs⟩ := hs
    obtain ⟨hle,hm⟩ := SessionStep.counter_mono hi hc hs kind
    obtain ⟨hle',hl⟩ := ih (SessionStep.keyed hi hs)
    have ht := (SessionStep.next_eq_some.mp hs).2
    simp only [issued,ht]
    refine ⟨hle.trans hle',fun id h => ?_⟩
    rcases List.mem_append.mp h with h | h
    · exact lt_of_lt_of_le (hm id h).2 hle'
    · exact hl id h

/-- A message id that was handed out and is no longer in use. -/
def MindChatCore.MessageGone (c : MindChatCore) (id : ℕ) : Prop :=
  id < allocated c.nextMessageId ∧ c.messages.lookup id = none

theorem messageGone_edit {c : MindChatCore} {edit : Edit} (hi : Keyed c) (hl : edit.Legal True c)
    {id : ℕ} (hg : c.MessageGone id) : (edit.apply c).MessageGone id := by
  obtain ⟨hlt,hn⟩ := hg
  cases edit with
  | newMessage message =>
    obtain ⟨hf,hid,-⟩ := hl
    constructor
    · simp only [Edit.apply,hid,allocated_u64Succ (hf trivial)]
      omega
    · have hne : id ≠ message.id := hid ▸ Nat.ne_of_lt hlt
      simpa only [Edit.apply,AList.lookup_insert_ne hne] using hn
  | setMessage key message =>
    obtain ⟨old,ho,-⟩ := hl
    refine ⟨hlt,?_⟩
    have hne : id ≠ key := by
      rintro rfl
      rw [hn] at ho
      cases ho
    simpa only [Edit.apply,AList.lookup_insert_ne hne] using hn
  | dropConversation conversationId =>
    refine ⟨?_,?_⟩
    · simp only [Edit.apply]
      rwa [removeConversationState_eq]
    · simp only [Edit.apply,messages_removeConversationState hi.messageKey,hn,Option.filter_none]
  | _ => exact ⟨hlt,hn⟩

theorem messageGone_step {c d : MindChatCore} {s : SessionStep} (hi : Keyed c)
    (hc : RestartSafe c s) (hs : s.next c = some d) {id : ℕ} (hg : c.MessageGone id) :
    d.MessageGone id := by
  obtain ⟨hf,rfl⟩ := SessionStep.next_eq_some.mp hs
  cases s with
  | op o =>
    exact ((o.edited hi.filed fun _ => hf).invariant (I := fun c => Keyed c ∧ c.MessageGone id)
      (fun _ _ h _ hl => ⟨h.1.edit hl,messageGone_edit h.1 hl h.2⟩) ⟨hi,hg⟩).2
  | restart =>
    have hr := fromSnapshot_restores hi KeepsKeys.id
    rw [CoreSnapshot.mapRecords_id] at hr
    exact ⟨lt_of_lt_of_le hg.1 (restart_counter hi hf hc .message),by rw [SessionStep.run,hr.messages,hg.2]⟩

theorem messageGone_run {c d : MindChatCore} {steps : List SessionStep}
    (h : SessionRun RestartSafe c steps d) (hi : Keyed c) {id : ℕ}
    (hg : c.MessageGone id) : d.MessageGone id :=
  (h.invariant (I := fun c => Keyed c ∧ c.MessageGone id)
    (fun _ _ _ hI hs => ⟨SessionStep.keyed hI.1 hs.2,messageGone_step hI.1 hs.1 hs.2 hI.2⟩)
    ⟨hi,hg⟩).2

/-- A receipt for a message that is gone changes nothing. -/
theorem MindChatCore.MessageGone.receipt {c : MindChatCore} {id : ℕ} (hg : c.MessageGone id)
    (accountId : AccountId) (sender : String) (state : DeliveryState) :
    c.applyTransportEvent (.deliveryUpdated accountId sender id state) = (.ok none,c) := by
  have h : c.applyDeliveryUpdate accountId sender id state = (.ok false,c) := by
    unfold applyDeliveryUpdate
    split
    · rfl
    · simp only [hg.2]
  simp only [applyTransportEvent,h]

/-- The first conversation is deleted, but the newest message is in the second. -/
def keptSession : List SessionStep :=
  [.op (.addAccount demoSetup),.op (.openConversation 1 .direct "bob@host" "Bob" 10),
    .op (.openConversation 1 .direct "eve@host" "Eve" 11),.op (.sendText 1 "ada@host" "first" none 12),
    .op (.sendText 2 "ada@host" "kept" none 13),.op (.deleteConversation 1),.restart]

def laterSession : List SessionStep :=
  [.op (.openConversation 1 .direct "bob@host" "Bob" 20),
    .op (.sendText 3 "ada@host" "second" none 21)]

def after (c : MindChatCore) (steps : List SessionStep) : MindChatCore := steps.foldl SessionStep.run c

/-- The only conversation is deleted before the restart and opened again after it. -/
def forgetfulSession : List SessionStep :=
  [.op (.addAccount demoSetup),.op (.openConversation 1 .direct "bob@host" "Bob" 10),
    .op (.sendText 1 "ada@host" "first" none 11),.op (.deleteConversation 1),.restart]

def renewedSession : List SessionStep :=
  [.op (.openConversation 1 .direct "bob@host" "Bob" 20),.op (.sendText 1 "ada@host" "second" none 21)]

end MindChat
