import MindChat.Handover
import MindChat.RegistrationExchange

/-! The ids the client gives its stanzas. All begin alike; a receipt can name
those of messages, and the ids of its other stanzas are never read as such. -/

namespace MindChat

/-- Digits that `parse::<u64>` reads as a number; a sign is not one of them. -/
def IsNumeral (n : ℕ) (digits : List Char) : Prop :=
  digits ≠ [] ∧ (∀ c ∈ digits, c.isDigit) ∧ Nat.ofDigitChars 10 digits 0 = n

/-- The ids of the stanzas that are not messages. -/
inductive IdFamily
  | ping (counter : ℕ)
  | roster (accountId : AccountId)
  | disco (accountId : AccountId)
  | receipt (accountId : AccountId) (now : ℕ)
  | registerGet (now : ℕ)
  | registerSet (now : ℕ)

def IdFamily.id : IdFamily → String
  | .ping counter => "mindchat-ping-" ++ toString counter
  | .roster accountId => rosterRequestId accountId
  | .disco accountId => discoRequestId accountId
  | .receipt accountId now => "mindchat-receipt-" ++ toString accountId ++ "-" ++ toString now
  | .registerGet now => "mindchat-register-get-" ++ toString now
  | .registerSet now => "mindchat-register-set-" ++ toString now

/-- The id the client chose for a stanza; the answer to a roster push has that of the push. -/
def ClientStanza.ownId : ClientStanza → Option String
  | .rosterQuery id | .discoQuery id _ | .acknowledgement id _ _ | .ping id | .message _ _ id _ _ => some id
  | .available | .rosterResult _ _ => none

theorem isPrefixOf?_eq_some {α : Type} [BEq α] [LawfulBEq α] {xs ys zs : List α} :
    xs.isPrefixOf? zs = some ys ↔ zs = xs ++ ys := by
  induction xs generalizing zs with
  | nil => exact Option.some_inj
  | cons x xs ih =>
    cases zs with
    | nil => simp [List.isPrefixOf?]
    | cons z zs =>
      by_cases hx : x = z
      · simp [List.isPrefixOf?,ih,hx]
      · simp [List.isPrefixOf?,hx,Ne.symm hx]

theorem parseMessageNumber_eq_some {digits : List Char} {n : ℕ} :
    parseMessageNumber digits = some n ↔ IsNumeral n digits ∧ 1 ≤ n ∧ n ≤ u64Max := by
  unfold parseMessageNumber IsNumeral
  by_cases hd : digits = [] ∨ digits.all Char.isDigit = false
  · rw [if_pos hd]
    refine ⟨fun h => (by cases h),fun ⟨⟨hne,hall,_⟩,_⟩ => ?_⟩
    rcases hd with rfl | hd
    · exact (hne rfl).elim
    · rw [List.all_eq_true.mpr hall] at hd
      cases hd
  · rw [if_neg hd]
    obtain ⟨hne,hall⟩ := not_or.mp hd
    have hall : ∀ c ∈ digits, c.isDigit := List.all_eq_true.mp (Bool.eq_true_of_not_eq_false hall)
    by_cases hb : Nat.ofDigitChars 10 digits 0 ≤ u64Max ∧ Nat.ofDigitChars 10 digits 0 ≠ 0
    · rw [if_pos hb,Option.some_inj]
      refine ⟨?_,fun h => h.1.2.2⟩
      rintro rfl
      exact ⟨⟨hne,hall,rfl⟩,Nat.one_le_iff_ne_zero.mpr hb.2,hb.1⟩
    · rw [if_neg hb]
      refine ⟨fun h => (by cases h),fun ⟨⟨_,_,hn⟩,h₁,h₂⟩ => ?_⟩
      exact (hb (hn ▸ ⟨h₂,Nat.one_le_iff_ne_zero.mp h₁⟩)).elim

theorem toList_prefixed (rest : List Char) :
    ("mindchat-" ++ String.ofList rest).toList = stanzaPrefix ++ rest := by
  rw [String.toList_append]
  exact congrArg (stanzaPrefix ++ ·) String.toList_ofList

theorem parseReceiptMessageId_prefixed (rest : List Char) :
    parseReceiptMessageId ("mindchat-" ++ String.ofList rest) = parseMessageNumber rest := by
  rw [parseReceiptMessageId,toList_prefixed,isPrefixOf?_append,Option.bind_some]

theorem parseReceiptMessageId_eq_some {s : String} {n : ℕ} :
    parseReceiptMessageId s = some n ↔
      ∃ digits, s = "mindchat-" ++ String.ofList digits ∧ IsNumeral n digits ∧ 1 ≤ n ∧ n ≤ u64Max := by
  have hs : ∀ digits, s.toList = stanzaPrefix ++ digits ↔ s = "mindchat-" ++ String.ofList digits := by
    intro digits
    rw [← String.toList_inj,toList_prefixed]
  simp only [parseReceiptMessageId,Option.bind_eq_some_iff,isPrefixOf?_eq_some,
    parseMessageNumber_eq_some,hs]

theorem parseReceiptMessageId_letter {c : Char} (rest : List Char) (hc : c.isDigit = false) :
    parseReceiptMessageId ("mindchat-" ++ String.ofList (c :: rest)) = none := by
  rw [parseReceiptMessageId_prefixed,parseMessageNumber,if_pos (.inr (by simp [hc]))]

theorem parseReceiptMessageId_stanzaId_eq_some {messageId : MessageId} {n : ℕ} :
    parseReceiptMessageId (stanzaId messageId) = some n ↔ messageId = n ∧ 1 ≤ n ∧ n ≤ u64Max := by
  have hs : stanzaId messageId = "mindchat-" ++ String.ofList (Nat.toDigits 10 messageId) := by
    rw [← String.toList_inj,toList_prefixed]
    exact String.toList_ofList
  rw [hs,parseReceiptMessageId_prefixed,parseMessageNumber_eq_some,IsNumeral,
    Nat.ofDigitChars_ten_toDigits]
  refine ⟨fun h => ⟨h.1.2.2,h.2⟩,fun h => ⟨⟨Nat.toDigits_ne_nil,?_,h.1⟩,h.2⟩⟩
  exact fun c hc => Nat.isDigit_of_mem_toDigits (b := 10) (by omega) le_rfl hc

theorem parseReceiptMessageId_text {front : String} {c : Char} {name : List Char} (tail : String)
    (h : front.toList = stanzaPrefix ++ c :: name) (hc : c.isDigit = false) :
    parseReceiptMessageId (front ++ tail) = none := by
  have hs : front ++ tail = "mindchat-" ++ String.ofList (c :: (name ++ tail.toList)) := by
    rw [← String.toList_inj,toList_prefixed,String.toList_append,h,List.append_assoc,List.cons_append]
  rw [hs,parseReceiptMessageId_letter _ hc]

theorem IdFamily.parse_id (family : IdFamily) : parseReceiptMessageId family.id = none := by
  cases family with
  | ping counter =>
    have h : "mindchat-ping-".toList = stanzaPrefix ++ 'p' :: "ing-".toList := by decide
    exact parseReceiptMessageId_text (toString counter) h rfl
  | roster accountId =>
    have h : "mindchat-roster-".toList = stanzaPrefix ++ 'r' :: "oster-".toList := by decide
    exact parseReceiptMessageId_text (toString accountId) h rfl
  | disco accountId =>
    have h : "mindchat-disco-".toList = stanzaPrefix ++ 'd' :: "isco-".toList := by decide
    exact parseReceiptMessageId_text (toString accountId) h rfl
  | receipt accountId now =>
    have h : "mindchat-receipt-".toList = stanzaPrefix ++ 'r' :: "eceipt-".toList := by decide
    have assoc : ∀ a b c d : String, a ++ b ++ c ++ d = a ++ (b ++ c ++ d) := by
      intro a b c d
      rw [String.append_assoc,String.append_assoc,String.append_assoc]
    exact (congrArg parseReceiptMessageId (assoc _ _ _ _)).trans (parseReceiptMessageId_text _ h rfl)
  | registerGet now =>
    have h : "mindchat-register-get-".toList = stanzaPrefix ++ 'r' :: "egister-get-".toList := by decide
    exact parseReceiptMessageId_text (toString now) h rfl
  | registerSet now =>
    have h : "mindchat-register-set-".toList = stanzaPrefix ++ 'r' :: "egister-set-".toList := by decide
    exact parseReceiptMessageId_text (toString now) h rfl

theorem Worker.step_ownId {w w' : Worker} {input : WorkerInput} {outputs : List WorkerOutput}
    (h : w.step input = some (w',outputs)) {stanza : ClientStanza} (hs : .stanza stanza ∈ outputs)
    {id : String} (hid : stanza.ownId = some id) :
    (∃ message, stanza = buildMessageStanza message) ∨ ∃ family : IdFamily, id = family.id := by
  have unasked : (WorkerOutput.stanza stanza).Unasked w.accountId → ∃ family : IdFamily, id = family.id := by
    intro hu
    cases hu <;> cases hid
    · exact ⟨.roster w.accountId,rfl⟩
    · exact ⟨.disco w.accountId,rfl⟩
    · exact ⟨.receipt w.accountId _,rfl⟩
    · exact ⟨.ping _,rfl⟩
  cases input with
  | send message call outcome =>
    rcases Worker.step_send h with ⟨-,-,rfl⟩ | ⟨-,-,rfl⟩
    · cases List.mem_singleton.mp hs
    · split_ifs at hs
      · cases List.mem_singleton.mp hs
      · rcases List.mem_cons.mp hs with hs | hs
        · cases hs
          exact .inl ⟨message,rfl⟩
        · cases List.mem_singleton.mp hs
  | disconnect call outcome =>
    rcases Worker.step_disconnect h with rfl | rfl
    · cases List.mem_singleton.mp hs
    · rcases List.mem_cons.mp hs with hs | hs
      · cases hs
      · cases List.mem_singleton.mp hs
  | _ => exact .inr (unasked (Worker.step_unasked h rfl _ hs))

/-- Over a whole run, a stanza whose id reads as a number was made for the message of that number. -/
theorem WorkerRun.named_message {accountId : AccountId} {autoReconnect : Bool}
    {inputs : List WorkerInput} {w : Worker} {outputs : List WorkerOutput}
    (h : WorkerRun (.start accountId autoReconnect) inputs w outputs) {stanza : ClientStanza}
    (hs : .stanza stanza ∈ outputs) {id : String} (hid : stanza.ownId = some id) {n : ℕ}
    (hn : parseReceiptMessageId id = some n) :
    ∃ message : OutgoingMessage, stanza = buildMessageStanza message ∧ message.messageId = n := by
  have hrun : ∀ o ∈ outputs, o = .stanza stanza →
      (∃ message, stanza = buildMessageStanza message) ∨ ∃ family : IdFamily, id = family.id := by
    refine h.invariant (I := fun s => ∀ o ∈ s.2, o = .stanza stanza →
      (∃ message, stanza = buildMessageStanza message) ∨ ∃ family : IdFamily, id = family.id) ?_
      (fun _ ho => by cases ho)
    intro s input t hi ha o ho he
    obtain ⟨new,hstep,hout⟩ := Worker.advance_eq_some ha
    rw [hout] at ho
    rcases List.mem_append.mp ho with ho | ho
    · exact hi o ho he
    · exact Worker.step_ownId hstep (he ▸ ho) hid
  rcases hrun _ hs rfl with ⟨message,rfl⟩ | ⟨family,rfl⟩
  · refine ⟨message,rfl,?_⟩
    have hm : id = stanzaId message.messageId := by
      unfold buildMessageStanza at hid
      split at hid <;> exact (Option.some.inj hid).symm
    exact (parseReceiptMessageId_stanzaId_eq_some.mp (hm ▸ hn)).1
  · rw [family.parse_id] at hn
    cases hn

theorem Server.ids_family (s : Server) :
    s.fieldsId = (IdFamily.registerGet s.fieldsEpochMs).id ∧
      s.submitId = (IdFamily.registerSet s.submitEpochMs).id := ⟨rfl,rfl⟩

theorem buildMessageStanza_ownId (message : OutgoingMessage) :
    (buildMessageStanza message).ownId = some (stanzaId message.messageId) := by
  unfold buildMessageStanza
  split <;> rfl

/-- The id of a message comes back from its receipt. What is read as a message id is the prefix
with a decimal number of 64 bits other than zero, so no other id of the client is, nor a number
that is too large or has a sign. -/
theorem receipt_id_codec :
    (∀ (fromStr : String → Option Jid) (message : OutgoingMessage) (stanza : ClientStanza),
      sendableStanza fromStr message = .ok stanza →
      1 ≤ message.messageId → message.messageId ≤ 2 ^ 64 - 1 →
      ∃ id, stanza.ownId = some id ∧ parseReceiptMessageId id = some message.messageId) ∧
    (∀ (s : String) (n : ℕ), parseReceiptMessageId s = some n ↔
      ∃ digits : List Char, s = "mindchat-" ++ String.ofList digits ∧ digits ≠ [] ∧
        (∀ c ∈ digits, c.isDigit) ∧ Nat.ofDigitChars 10 digits 0 = n ∧ 1 ≤ n ∧ n ≤ 2 ^ 64 - 1) ∧
    (∀ family : IdFamily, parseReceiptMessageId family.id = none) ∧
    (∀ digits : List Char, 2 ^ 64 ≤ Nat.ofDigitChars 10 digits 0 →
      parseReceiptMessageId ("mindchat-" ++ String.ofList digits) = none) ∧
    ∀ (sign : Char) (rest : List Char), sign = '+' ∨ sign = '-' →
      parseReceiptMessageId ("mindchat-" ++ String.ofList (sign :: rest)) = none := by
  refine ⟨?_,fun s n => ?_,IdFamily.parse_id,fun digits h => ?_,fun sign rest hsign => ?_⟩
  · intro fromStr message stanza h h₁ h₂
    have hs : buildMessageStanza message = stanza := by
      unfold sendableStanza at h
      split at h <;> cases h
      rfl
    refine ⟨stanzaId message.messageId,?_,?_⟩
    · rw [← hs,buildMessageStanza_ownId]
    · exact parseReceiptMessageId_stanzaId_eq_some.mpr ⟨rfl,h₁,h₂⟩
  · rw [parseReceiptMessageId_eq_some]
    refine exists_congr fun digits => and_congr_right fun _ => ?_
    exact and_assoc.trans (and_congr_right fun _ => and_assoc)
  · rw [Option.eq_none_iff_forall_ne_some]
    intro n hn
    rw [parseReceiptMessageId_prefixed,parseMessageNumber_eq_some] at hn
    obtain ⟨⟨-,-,rfl⟩,-,hmax⟩ := hn
    rw [u64Max] at hmax
    omega
  · refine parseReceiptMessageId_letter rest ?_
    rcases hsign with rfl | rfl <;> rfl

/-- The receipt of message 42, with its number written the usual way and with zeros in front. -/
theorem receipt_id_codec_42 :
    parseReceiptMessageId "mindchat-42" = some 42 ∧ parseReceiptMessageId "mindchat-0042" = some 42 :=
  ⟨(receipt_id_codec.2.1 _ 42).mpr ⟨['4','2'],by decide,by decide,List.all_eq_true.mp rfl,by decide,by decide,by decide⟩,
    (receipt_id_codec.2.1 _ 42).mpr
      ⟨['0','0','4','2'],by decide,by decide,List.all_eq_true.mp rfl,by decide,by decide,by decide⟩⟩

end MindChat
