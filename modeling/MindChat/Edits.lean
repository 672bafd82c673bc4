import MindChat.Core
import MindChat.Transition

/-! Primitive edits of the core. Every mutator is a run of legal edits, so a
property is checked once for each edit and holds of every operation. -/

namespace MindChat

/-- One elementary change; record changes name the key they are stored under. -/
inductive Edit
  | newAccount (account : Account)
  | setAccount (key : AccountId) (account : Account)
  | putContact (contact : Contact)
  | dropContact (accountId : AccountId) (jid : String)
  | newConversation (conversation : Conversation)
  | setConversation (key : ConversationId) (conversation : Conversation)
  | newMessage (message : Message)
  | setMessage (key : MessageId) (message : Message)
  | newReaction (reaction : Reaction)
  | dropConversation (conversationId : ConversationId)
  | dropAccount (accountId : AccountId)
  | announce (event : CoreEvent)
  | drain

namespace Edit

open MindChatCore

def apply (c : MindChatCore) : Edit → MindChatCore
  | newAccount account =>
    { c with nextAccountId := u64Succ account.id, accounts := c.accounts.insert account.id account }
  | setAccount key account => { c with accounts := c.accounts.insert key account }
  | putContact contact =>
    { c with contacts := c.contacts.insert (contact.accountId,contact.jid) contact }
  | dropContact accountId jid => { c with contacts := c.contacts.erase (accountId,jid) }
  | newConversation conversation =>
    { c with nextConversationId := u64Succ conversation.id
             conversations := c.conversations.insert conversation.id conversation }
  | setConversation key conversation =>
    { c with conversations := c.conversations.insert key conversation }
  | newMessage message =>
    { c with nextMessageId := u64Succ message.id, messages := c.messages.insert message.id message }
  | setMessage key message => { c with messages := c.messages.insert key message }
  | newReaction reaction =>
    { c with nextReactionId := u64Succ reaction.id
             reactions := c.reactions.insert reaction.id reaction }
  | dropConversation conversationId => c.removeConversationState conversationId
  | dropAccount accountId =>
    { c with contacts := c.contacts.retain (fun key _ => key.1 ≠ accountId)
             accounts := c.accounts.erase accountId }
  | announce event => c.push event
  | drain => { c with events := [] }

/-- What the core has checked when it makes the edit. New records take the id
their allocator returns, where `bounded` from a counter below `u64::MAX`. -/
def Legal (bounded : Prop) (c : MindChatCore) : Edit → Prop
  | newAccount account =>
    (bounded → c.nextAccountId < u64Max) ∧ account.id = allocated c.nextAccountId
  | setAccount key account => ∃ old, c.accounts.lookup key = some old ∧ account.id = old.id
  | putContact contact => (c.accounts.lookup contact.accountId).isSome
  | dropContact _ _ => True
  | newConversation conversation =>
    (bounded → c.nextConversationId < u64Max) ∧ conversation.id = allocated c.nextConversationId ∧
      (c.accounts.lookup conversation.accountId).isSome
  | setConversation key conversation =>
    ∃ old, c.conversations.lookup key = some old ∧ conversation.id = old.id ∧
      conversation.accountId = old.accountId ∧ conversation.kind = old.kind ∧
      conversation.address = old.address
  | newMessage message =>
    (bounded → c.nextMessageId < u64Max) ∧ message.id = allocated c.nextMessageId ∧
      (c.conversations.lookup message.conversationId).isSome ∧
      c.checkReply message.conversationId message.inReplyTo = .ok ()
  | setMessage key message =>
    ∃ old, c.messages.lookup key = some old ∧ message.id = old.id ∧
      message.conversationId = old.conversationId ∧ message.direction = old.direction ∧
      message.inReplyTo = old.inReplyTo
  | newReaction reaction =>
    (bounded → c.nextReactionId < u64Max) ∧ reaction.id = allocated c.nextReactionId ∧
      (c.messages.lookup reaction.messageId).isSome
  | dropConversation _ => True
  | dropAccount accountId =>
    ∀ key conversation, c.conversations.lookup key = some conversation →
      conversation.accountId ≠ accountId
  | announce _ => True
  | drain => True

def Step (bounded : Prop) (c : MindChatCore) (e : Edit) (d : MindChatCore) : Prop :=
  e.Legal bounded c ∧ d = e.apply c

end Edit

/-- `d` arises from `c` by legal edits that all meet a condition. -/
def Edited (bounded : Prop) (cond : MindChatCore → Edit → Prop) (c d : MindChatCore) : Prop :=
  ∃ es, Transition.Run (Transition.Meeting cond (Edit.Step bounded)) c es d

namespace Edited

variable {bounded : Prop} {cond : MindChatCore → Edit → Prop} {c d e : MindChatCore}

theorem refl (c : MindChatCore) : Edited bounded cond c c := ⟨[],.nil c⟩

theorem one (edit : Edit) (hc : cond c edit) (hl : edit.Legal bounded c) :
    Edited bounded cond c (edit.apply c) :=
  ⟨[edit],.single ⟨hc,hl,rfl⟩⟩

theorem trans (h : Edited bounded cond c d) (k : Edited bounded cond d e) : Edited bounded cond c e := by
  obtain ⟨es,h⟩ := h
  obtain ⟨fs,k⟩ := k
  exact ⟨es ++ fs,h.append k⟩

theorem step (h : Edited bounded cond c d) (edit : Edit) (hc : cond d edit) (hl : edit.Legal bounded d) :
    Edited bounded cond c (edit.apply d) :=
  h.trans (one edit hc hl)

theorem weaken {cond' : MindChatCore → Edit → Prop} (hw : ∀ c e, cond c e → cond' c e)
    (h : Edited bounded cond c d) : Edited bounded cond' c d := by
  obtain ⟨es,h⟩ := h
  exact ⟨es,h.mono (fun _ _ _ hs => ⟨hw _ _ hs.1,hs.2⟩)⟩

theorem invariant {I : MindChatCore → Prop}
    (hs : ∀ c edit, I c → cond c edit → edit.Legal bounded c → I (edit.apply c))
    (h : Edited bounded cond c d) (hi : I c) : I d := by
  obtain ⟨es,h⟩ := h
  refine h.invariant ?_ hi
  rintro s l t hi ⟨hc,hl,rfl⟩
  exact hs s l hi hc hl

theorem preorder {I : MindChatCore → Prop} {R : MindChatCore → MindChatCore → Prop}
    (hr : ∀ c, R c c) (ht : ∀ c d e, R c d → R d e → R c e)
    (hi : ∀ c edit, I c → cond c edit → edit.Legal bounded c → I (edit.apply c))
    (hs : ∀ c edit, I c → cond c edit → edit.Legal bounded c → R c (edit.apply c))
    (h : Edited bounded cond c d) (h₀ : I c) : R c d := by
  obtain ⟨es,h⟩ := h
  refine h.preorder hr ht ?_ ?_ h₀
  · rintro s l t hI ⟨hc,hl,rfl⟩
    exact hi s l hI hc hl
  · rintro s l t hI ⟨hc,hl,rfl⟩
    exact hs s l hI hc hl

end Edited
end MindChat
