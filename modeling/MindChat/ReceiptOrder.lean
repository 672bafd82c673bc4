import MindChat.Peers

/-! Receipts in any order and any number: the state of a message is the highest in
delivery rank of the one it had and of those of the receipts in scope for it. -/

namespace MindChat

open MindChatCore

/-- The content of a `DeliveryUpdated` event. -/
structure DeliveryUpdate where
  accountId : AccountId
  sender : String
  messageId : MessageId
  state : DeliveryState
  deriving DecidableEq

namespace DeliveryUpdate

def event (u : DeliveryUpdate) : TransportEvent := .deliveryUpdated u.accountId u.sender u.messageId u.state

def apply (c : MindChatCore) (u : DeliveryUpdate) : MindChatCore := (c.applyTransportEvent u.event).2

/-- The receipt is about this outgoing message, and its sender is the peer the message
was sent to in a direct conversation of the account. -/
def InScope (c : MindChatCore) (id : MessageId) (u : DeliveryUpdate) : Prop :=
  u.messageId = id ∧ ∃ m v, c.messages.lookup id = some m ∧ m.direction = .outgoing ∧
    c.conversations.lookup m.conversationId = some v ∧ v.peer = (u.accountId,.direct,u.sender)

variable {c d : MindChatCore} {u : DeliveryUpdate} {id : MessageId} {m : Message}

theorem apply_eq (c : MindChatCore) (u : DeliveryUpdate) :
    apply c u = (c.applyDeliveryUpdate u.accountId u.sender u.messageId u.state).2 := by
  simp only [apply,event,applyTransportEvent]
  split <;> rename_i h <;> rw [h]

theorem apply_cases (c : MindChatCore) (u : DeliveryUpdate) : apply c u = c ∨
    ∃ m, c.messages.lookup u.messageId = some m ∧ u.InScope c u.messageId ∧
      deliveryRank m.deliveryState < deliveryRank u.state ∧ apply c u = { c with
        messages := c.messages.insert u.messageId { m with deliveryState := u.state } }.push
          (.messageChanged u.messageId) := by
  rw [apply_eq]
  rcases applyDeliveryUpdate_cases c u.accountId u.sender u.messageId u.state with
    h | ⟨m,v,hm,hd,hv,ha,hk,hs,hr,h⟩
  · exact .inl (congrArg Prod.snd h)
  · refine .inr ⟨m,hm,⟨rfl,m,v,hm,hd,hv,?_⟩,hr,congrArg Prod.snd h⟩
    simp only [Conversation.peer,ha,hk,hs]

/-- In a core of a run no receipt in scope is turned away by the checks. -/
theorem lookup_apply_of_inScope (hg : Grounded c) (hs : u.InScope c id)
    (hm : c.messages.lookup id = some m) (hr : deliveryRank m.deliveryState < deliveryRank u.state) :
    (apply c u).messages.lookup id = some { m with deliveryState := u.state } := by
  obtain ⟨rfl,m',v,hm',hd,hv,hp⟩ := hs
  obtain rfl := Option.some.inj (hm'.symm.trans hm)
  have ho := hg.owner _ v hv
  have hc := hg.checked _ v hv
  obtain ⟨ha,hp'⟩ := Prod.mk.inj hp
  rw [ha] at ho
  rw [(Prod.mk.inj hp').2] at hc
  rw [apply_eq,applyDeliveryUpdate_ok ho (validateConversationAddress_eq_ok.mp hc) hm hd hv hp hr]
  exact AList.lookup_insert _

theorem lookup_apply (c : MindChatCore) (u : DeliveryUpdate) (id : MessageId) :
    (apply c u).messages.lookup id = c.messages.lookup id ∨ ∃ m, c.messages.lookup id = some m ∧
      u.InScope c id ∧ deliveryRank m.deliveryState < deliveryRank u.state ∧
      (apply c u).messages.lookup id = some { m with deliveryState := u.state } := by
  rcases apply_cases c u with h | ⟨m,hm,hs,hr,h⟩
  · exact .inl (by rw [h])
  · by_cases hid : id = u.messageId
    · subst hid
      exact .inr ⟨m,hm,hs,hr,by rw [h]; exact AList.lookup_insert _⟩
    · exact .inl (by rw [h]; exact AList.lookup_insert_ne hid)

theorem conversations_apply (c : MindChatCore) (u : DeliveryUpdate) :
    (apply c u).conversations = c.conversations := by
  rcases apply_cases c u with h | ⟨m,-,-,-,h⟩ <;> rw [h]
  rfl

theorem inScope_apply (w : DeliveryUpdate) : u.InScope (apply c w) id ↔ u.InScope c id := by
  unfold InScope
  rw [conversations_apply]
  refine and_congr_right fun _ => ?_
  rcases lookup_apply c w id with h | ⟨m,hm,-,-,h⟩
  · rw [h]
  · rw [h,hm]
    simp only [Option.some.injEq,exists_and_left]
    constructor
    · rintro ⟨_,rfl,hd,hv⟩
      exact ⟨m,rfl,hd,hv⟩
    · rintro ⟨_,rfl,hd,hv⟩
      exact ⟨_,rfl,hd,hv⟩

end DeliveryUpdate

namespace MindChatCore

variable {c : MindChatCore} {id : MessageId} {m : Message} {updates : List DeliveryUpdate}

def applyUpdates (c : MindChatCore) (updates : List DeliveryUpdate) : MindChatCore :=
  updates.foldl DeliveryUpdate.apply c

/-- The state the message had, and those of the receipts in scope for it. -/
def ReceivedStates (c : MindChatCore) (id : MessageId) (m : Message) (updates : List DeliveryUpdate) :
    Set DeliveryState :=
  {s | s = m.deliveryState ∨ ∃ u ∈ updates, u.InScope c id ∧ u.state = s}

/-- `s` is the maximum of `S` by delivery rank. -/
def HighestRank (S : Set DeliveryState) (s : DeliveryState) : Prop :=
  s ∈ S ∧ ∀ s' ∈ S, deliveryRank s' ≤ deliveryRank s

theorem deliveryRank_injective : Function.Injective deliveryRank := by
  intro s t
  cases s <;> cases t <;> simp [deliveryRank]

theorem HighestRank.unique {S : Set DeliveryState} {s t : DeliveryState} (hs : HighestRank S s)
    (ht : HighestRank S t) : s = t :=
  deliveryRank_injective (le_antisymm (ht.2 s hs.1) (hs.2 t ht.1))

theorem grounded_applyUpdates (h : Grounded c) : Grounded (c.applyUpdates updates) := by
  induction updates generalizing c with
  | nil => exact h
  | cons u updates ih => exact ih (h.op (.applyTransportEvent u.event))

theorem inScope_applyUpdates {u : DeliveryUpdate} :
    u.InScope (c.applyUpdates updates) id ↔ u.InScope c id := by
  induction updates generalizing c with
  | nil => rfl
  | cons w updates ih => exact ih.trans (DeliveryUpdate.inScope_apply w)

/-- After any receipts the message has the highest of the states in question. -/
theorem lookup_applyUpdates (hg : Grounded c) (hm : c.messages.lookup id = some m) :
    ∃ s, (c.applyUpdates updates).messages.lookup id = some { m with deliveryState := s } ∧
      HighestRank (c.ReceivedStates id m updates) s := by
  induction updates using List.reverseRecOn with
  | nil =>
    refine ⟨m.deliveryState,hm,.inl rfl,?_⟩
    rintro s (rfl | ⟨u,hu,-⟩)
    · exact le_rfl
    · cases hu
  | append_singleton updates u ih =>
    obtain ⟨s,hs,hin,hmax⟩ := ih
    have hd := @grounded_applyUpdates c updates hg
    have grow : c.ReceivedStates id m updates ⊆ c.ReceivedStates id m (updates ++ [u]) :=
      fun t => .imp_right fun ⟨w,hw,h⟩ => ⟨w,List.mem_append_left _ hw,h⟩
    have bound {t : DeliveryState} (ht : deliveryRank s ≤ deliveryRank t)
        (hu : u.InScope c id → deliveryRank u.state ≤ deliveryRank t) :
        ∀ t' ∈ c.ReceivedStates id m (updates ++ [u]), deliveryRank t' ≤ deliveryRank t := by
      rintro t' (he | ⟨w,hw,hscope,rfl⟩)
      · exact (hmax t' (.inl he)).trans ht
      · rcases List.mem_append.mp hw with hw | hw
        · exact (hmax _ (.inr ⟨w,hw,hscope,rfl⟩)).trans ht
        · obtain rfl := List.mem_singleton.mp hw
          exact hu hscope
    have hstep : c.applyUpdates (updates ++ [u]) = DeliveryUpdate.apply (c.applyUpdates updates) u := by
      simp [applyUpdates]
    rw [hstep]
    rcases DeliveryUpdate.lookup_apply (c.applyUpdates updates) u id with h | ⟨m',hm',hscope,hr,h⟩
    · refine ⟨s,h.trans hs,grow hin,bound le_rfl fun hscope => ?_⟩
      by_contra hr
      have hraised := DeliveryUpdate.lookup_apply_of_inScope hd (inScope_applyUpdates.mpr hscope) hs
        (not_le.mp hr)
      rw [h,hs] at hraised
      have he : s = u.state := congrArg Message.deliveryState (Option.some.inj hraised)
      exact hr (by rw [he])
    · rw [hs] at hm'
      cases hm'
      exact ⟨u.state,h,.inr ⟨u,List.mem_append_right _ List.mem_cons_self,inScope_applyUpdates.mp hscope,rfl⟩,
        bound hr.le fun _ => le_rfl⟩

theorem lookup_applyUpdates_none (hn : c.messages.lookup id = none) :
    (c.applyUpdates updates).messages.lookup id = none := by
  induction updates generalizing c with
  | nil => exact hn
  | cons u updates ih =>
    refine ih ?_
    rcases DeliveryUpdate.lookup_apply c u id with h | ⟨m,hm,-⟩
    · rw [h,hn]
    · rw [hn] at hm
      cases hm

end MindChatCore

/-- In every core of a run, receipts applied in any order and with any repetitions leave
the same messages: each has, of its state before and of the states of the receipts in
scope for it, the highest in delivery rank. -/
theorem receipts_commute {c : MindChatCore} (h : Reached c) (updates : List DeliveryUpdate) :
    (∀ id m, c.messages.lookup id = some m → ∃ s,
        (c.applyUpdates updates).messages.lookup id = some { m with deliveryState := s } ∧
          HighestRank (c.ReceivedStates id m updates) s) ∧
      ∀ again : List DeliveryUpdate, (∀ u, u ∈ again ↔ u ∈ updates) → ∀ id,
        (c.applyUpdates again).messages.lookup id = (c.applyUpdates updates).messages.lookup id := by
  have hg := h.grounded
  refine ⟨fun id m hm => lookup_applyUpdates hg hm,fun again hsame id => ?_⟩
  cases hm : c.messages.lookup id with
  | none => rw [lookup_applyUpdates_none hm,lookup_applyUpdates_none hm]
  | some m =>
    obtain ⟨s,hs,hmax⟩ := @lookup_applyUpdates c id m updates hg hm
    obtain ⟨t,ht,hmax'⟩ := @lookup_applyUpdates c id m again hg hm
    have he : c.ReceivedStates id m again = c.ReceivedStates id m updates := by
      simp only [ReceivedStates,hsame]
    rw [he] at hmax'
    rw [hs,ht,hmax'.unique hmax]

def bobDelivered : DeliveryUpdate := ⟨1,"bob@host",1,.delivered⟩
def bobRead : DeliveryUpdate := ⟨1,"bob@host",1,.read⟩

/-- Bob's two receipts the other way around, one of them twice. -/
theorem receipts_commute_bob :
    (demoCore.applyUpdates [bobRead,bobDelivered,bobRead]).messages.lookup 1 =
      (demoCore.applyUpdates [bobDelivered,bobRead]).messages.lookup 1 := by
  refine (receipts_commute demoCore_reachable.reached [bobDelivered,bobRead]).2 _ (fun u => ?_) 1
  simp only [List.mem_cons,List.not_mem_nil,or_false]
  tauto

example : ((demoCore.applyUpdates [bobRead,bobDelivered,bobRead]).messages.lookup 1).map
    Message.deliveryState = some .read := by decide +kernel

end MindChat
