import MindChat.AccountScope
import MindChat.Coordinator
import MindChat.GatewayService
import MindChat.GatewayOutbox

/-! Who a sent text speaks for. The gateway sends under the active account, whoever owns the
conversation. -/

namespace MindChat

open MindChatCore

namespace NativeGateway

variable {T : Type}

/-- The account that a text goes out under. -/
def activeAccount (s : NativeGateway T) : Option AccountUi :=
  s.gateway.accounts.find? fun account => account.id = s.gateway.activeAccountId

def Accepts (s : NativeGateway T) (conversationId : Int64) (text : String) (now : ℕ) (id : MessageId) :
    Prop :=
  ∃ account, s.activeAccount = some account ∧
    (s.core.sendText (toULong conversationId) account.jid text none now).1 = .ok id

/-- The stored message carries the address of the account that owns the conversation, and that
account is scheduled. -/
def SpeaksForOwner (s t : NativeGateway T) (conversationId : Int64) (id : MessageId) : Prop :=
  ∃ v owner m, s.core.conversations.lookup (toULong conversationId) = some v ∧
    s.core.accounts.lookup v.accountId = some owner ∧ t.core.messages.lookup id = some m ∧
    m.sender = owner.jid ∧ v.accountId ∈ t.gateway.pendingOutboxAccounts

/-- The active account shows the address of the owner, and it is the owner or the owner is
scheduled already. -/
def ActsForOwner (s : NativeGateway T) (conversationId : Int64) : Prop :=
  ∃ v owner account, s.core.conversations.lookup (toULong conversationId) = some v ∧
    s.core.accounts.lookup v.accountId = some owner ∧ s.activeAccount = some account ∧
    account.jid = owner.jid ∧
    (account.id = v.accountId ∨ v.accountId ∈ s.gateway.pendingOutboxAccounts)

variable {s t : NativeGateway T}

theorem sendText_ok {c : MindChatCore} {conversationId : ConversationId} {sender body : String}
    {inReplyTo : Option MessageId} {now : ℕ} {id : MessageId}
    (h : (c.sendText conversationId sender body inReplyTo now).1 = .ok id) :
    ∃ m, (c.sendText conversationId sender body inReplyTo now).2.messages.lookup id = some m ∧
      m.sender = sender := by
  unfold MindChatCore.sendText at h ⊢
  split at h
  · cases h
  next hc =>
  split at h
  · cases h
  split at h
  · cases h
  obtain ⟨v,hv⟩ := Option.isSome_iff_exists.mp (ensureConversation_ok.mp hc)
  rw [insertMessage_eq hv] at h ⊢
  cases h
  exact ⟨_,AList.lookup_insert _,rfl⟩

theorem performs_sendText {conversationId : Int64} {text : String} {now : ℕ} {r : Reply} {id : MessageId}
    {account : AccountUi} (hp : (sendText conversationId text now).Performs s r t)
    (ha : s.activeAccount = some account)
    (hs : (s.core.sendText (toULong conversationId) account.jid text none now).1 = .ok id) :
    t.core.messages = (s.core.sendText (toULong conversationId) account.jid text none now).2.messages ∧
      t.gateway.pendingOutboxAccounts = setPlus s.gateway.pendingOutboxAccounts [account.id] := by
  simp only [activeAccount] at ha
  simp only [sendText,Proc.performs_read,ha,coreCall,native,Proc.call,Proc.performs_act] at hp
  have hok : (s.session.core.sendText (toULong conversationId) account.jid text none now).1 = .ok id := hs
  rw [hok] at hp
  simp only [Proc.performs_mark,Proc.performs_modify,refresh,refreshWith,Proc.performs_read,
    Proc.performs_ret] at hp
  obtain ⟨-,rfl⟩ := hp
  exact ⟨rfl,rfl⟩

/-- A text that the core takes speaks for the owner of its conversation exactly when the active
account acts for the owner. -/
theorem sent_text_speaks_iff {conversationId : Int64} {text : String} {now : ℕ} {r : Reply} {id : MessageId}
    (hp : (sendText conversationId text now).Performs s r t) (hs : s.Accepts conversationId text now id) :
    s.SpeaksForOwner t conversationId id ↔ s.ActsForOwner conversationId := by
  obtain ⟨account,ha,hok⟩ := hs
  obtain ⟨hm,hpending⟩ := performs_sendText hp ha hok
  obtain ⟨m,hl,hsender⟩ := sendText_ok hok
  rw [← hm] at hl
  have hscheduled (accountId : AccountId) : accountId ∈ t.gateway.pendingOutboxAccounts ↔
      account.id = accountId ∨ accountId ∈ s.gateway.pendingOutboxAccounts := by
    rw [hpending,mem_setPlus,List.mem_singleton,eq_comm,or_comm]
  constructor
  · rintro ⟨v,owner,m',hv,ho,hm',hjid,hmem⟩
    rw [hl] at hm'
    cases hm'
    exact ⟨v,owner,account,hv,ho,ha,hsender ▸ hjid,(hscheduled v.accountId).mp hmem⟩
  · rintro ⟨v,owner,account',hv,ho,ha',hjid,hmem⟩
    rw [ha] at ha'
    cases ha'
    exact ⟨v,owner,m,hv,ho,hl,hsender.trans hjid,(hscheduled v.accountId).mpr hmem⟩

/-- The gateway of a new process: Eve's conversation is open, Ada's account is active. -/
def reopened : NativeGateway Scripted where
  gateway := .start ⟨fromSnapshot (twoAccounts.foldl SessionStep.run default).snapshot,⟨[],[]⟩⟩
  book := .empty
  preferences := ⟨∅⟩
  profilesCache := ∅

/-- Eve's account was made the active one again. -/
def reselected : NativeGateway Scripted := ((selectAccount 2).perform true reopened).2

def afterHello (s : NativeGateway Scripted) : NativeGateway Scripted :=
  ((sendText 1 "hello" 12).perform true s).2

theorem performs_hello (s : NativeGateway Scripted) :
    (sendText 1 "hello" 12).Performs s ((sendText 1 "hello" 12).perform true s).1 (afterHello s) :=
  Proc.performs_perform true _ s

theorem sent_text_speaks_iff_eve : reselected.SpeaksForOwner (afterHello reselected) 1 2 := by
  have ha : reselected.activeAccount = some ⟨2,"eve@host",.offline⟩ := by decide +kernel
  have hid : (reselected.core.conversations.lookup 1).map Conversation.accountId = some 2 := by decide +kernel
  have hjid : (reselected.core.accounts.lookup 2).map Account.jid = some "eve@host" := by decide +kernel
  obtain ⟨v,hv,hid⟩ := Option.map_eq_some_iff.mp hid
  obtain ⟨owner,ho,hjid⟩ := Option.map_eq_some_iff.mp hjid
  refine (sent_text_speaks_iff (performs_hello reselected) ⟨_,ha,by decide +kernel⟩).mpr
    ⟨v,owner,_,hv,?_,ha,hjid.symm,.inl hid.symm⟩
  rw [hid]
  exact ho

/-- The text in Eve's conversation goes out as Ada's, and Ada's account is scheduled. -/
theorem sent_text_speaks_for_another :
    (reopened.core.conversations.lookup 1).map Conversation.accountId = some 2 ∧
      reopened.gateway.activeAccountId = 1 ∧ reopened.Accepts 1 "hello" 12 2 ∧
      ((afterHello reopened).core.messages.lookup 2).map Message.sender = some "ada@host" ∧
      (afterHello reopened).gateway.pendingOutboxAccounts = [1] ∧
      ¬ reopened.SpeaksForOwner (afterHello reopened) 1 2 := by
  have hv : (reopened.core.conversations.lookup 1).map Conversation.accountId = some 2 := by decide +kernel
  have hp : (afterHello reopened).gateway.pendingOutboxAccounts = [1] := by decide +kernel
  refine ⟨hv,by decide +kernel,⟨⟨1,"ada@host",.offline⟩,by decide +kernel,by decide +kernel⟩,
    by decide +kernel,hp,?_⟩
  rintro ⟨v,owner,m,hl,-,-,-,hmem⟩
  rw [show toULong 1 = 1 by decide] at hl
  obtain ⟨v',hv,hid⟩ := Option.map_eq_some_iff.mp hv
  rw [hl] at hv
  cases hv
  rw [hid,hp] at hmem
  exact absurd hmem (by decide)

end NativeGateway

end MindChat
