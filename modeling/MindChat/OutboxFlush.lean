import MindChat.Outbox
import MindChat.Reached
import Mathlib.Algebra.Order.Floor.Div

/-! One flush of the outbox of an account, whatever the adapter answers and the
clock reads: which messages are offered, what is written back, and what is
returned; and how many flushes empty an outbox whose sends all succeed. -/

namespace List

theorem mem_and_not_mem_map_take {α : Type} {key : α → ℕ} {xs : List α} {n : ℕ} {x : α}
    (h : xs.Pairwise (fun x y => key x < key y)) :
    x ∈ xs ∧ key x ∉ (xs.take n).map key ↔ x ∈ xs.drop n := by
  rw [← List.take_append_drop n xs,List.pairwise_append] at h
  constructor
  · rintro ⟨hm,hn⟩
    rw [← List.take_append_drop n xs,List.mem_append] at hm
    exact hm.resolve_left (fun ht => hn (List.mem_map_of_mem ht))
  · intro hx
    refine ⟨List.drop_subset n xs hx,fun hm => ?_⟩
    obtain ⟨y,hy,he⟩ := List.mem_map.mp hm
    exact absurd he (h.2.2 y hy x hx).ne

end List

namespace MindChat

open MindChatCore

/-- A message offered to the adapter, and what the adapter said. -/
structure Answer where
  message : OutgoingMessage
  outcome : Except TransportError Unit

namespace Answer

def accepted (a : Answer) : Bool := a.outcome.isOk

def refusal (a : Answer) : Option TransportError :=
  match a.outcome with
  | .error e => some e
  | .ok () => none

def state (a : Answer) : DeliveryState := if a.accepted then .sent else .failed

def ids (answers : List Answer) : List MessageId := answers.map (fun a => a.message.messageId)

end Answer

/-- An adapter that forwards every call and records its answers to sends. -/
structure Recorded (T : Type) where
  inner : T
  answers : List Answer

instance {T : Type} [XmppTransport T] : XmppTransport (Recorded T) where
  connect t request :=
    let (r,inner) := XmppTransport.connect t.inner request
    (r,{ t with inner := inner })
  disconnect t accountId :=
    let (r,inner) := XmppTransport.disconnect t.inner accountId
    (r,{ t with inner := inner })
  send t message :=
    let (r,inner) := XmppTransport.send t.inner message
    (r,⟨inner,t.answers ++ [⟨message,r⟩]⟩)
  nextEvent t :=
    let (r,inner) := XmppTransport.nextEvent t.inner
    (r,{ t with inner := inner })

namespace MindChatCore

variable {c : MindChatCore}

/-- The answers are written back in order. -/
def deliver (c : MindChatCore) (answers : List Answer) : MindChatCore :=
  answers.foldl (fun c a => (c.setDeliveryState a.message.messageId a.state).2) c

theorem deliver_cons (c : MindChatCore) (a : Answer) (answers : List Answer) :
    c.deliver (a :: answers) = (c.setDeliveryState a.message.messageId a.state).2.deliver answers := rfl

theorem lookup_setDeliveryState_ne {id key : MessageId} (h : id ≠ key) (state : DeliveryState) :
    (c.setDeliveryState key state).2.messages.lookup id = c.messages.lookup id := by
  unfold setDeliveryState
  cases c.messages.lookup key with
  | none => rfl
  | some m => exact AList.lookup_insert_ne h

theorem lookup_deliver_of_not_mem {answers : List Answer} {id : MessageId} (h : id ∉ Answer.ids answers) :
    (c.deliver answers).messages.lookup id = c.messages.lookup id := by
  induction answers generalizing c with
  | nil => rfl
  | cons a answers ih =>
    obtain ⟨hne,hr⟩ := List.ne_and_not_mem_of_not_mem_cons h
    rw [deliver_cons,ih hr,lookup_setDeliveryState_ne hne]

theorem lookup_deliver_of_mem {answers : List Answer} {a : Answer} (hn : (Answer.ids answers).Nodup)
    (ha : a ∈ answers) {m : Message} (hm : c.messages.lookup a.message.messageId = some m) :
    (c.deliver answers).messages.lookup a.message.messageId = some { m with deliveryState := a.state } := by
  induction answers generalizing c with
  | nil => cases ha
  | cons b answers ih =>
    have hb := List.nodup_cons.mp hn
    rw [deliver_cons]
    rcases List.mem_cons.mp ha with rfl | ha
    · rw [lookup_deliver_of_not_mem hb.1,setDeliveryState_eq hm]
      exact AList.lookup_insert _
    · have hne : a.message.messageId ≠ b.message.messageId := fun he =>
        hb.1 (List.mem_map.mpr ⟨a,ha,he⟩)
      exact ih hb.2 ha ((lookup_setDeliveryState_ne hne b.state).trans hm)

/-- Only messages are written, and each write is announced. -/
theorem deliver_frame {answers : List Answer}
    (hs : ∀ a ∈ answers, (c.messages.lookup a.message.messageId).isSome) :
    c.deliver answers = { c with
      messages := (c.deliver answers).messages
      events := c.events ++ (Answer.ids answers).map .messageChanged } := by
  induction answers generalizing c with
  | nil => simp [deliver,Answer.ids]
  | cons a answers ih =>
    obtain ⟨m,hm⟩ := Option.isSome_iff_exists.mp (hs a List.mem_cons_self)
    have hrest : ∀ b ∈ answers, ((c.setDeliveryState a.message.messageId a.state).2.messages.lookup
        b.message.messageId).isSome := by
      intro b hb
      by_cases he : b.message.messageId = a.message.messageId
      · rw [he,setDeliveryState_eq hm]
        change ((c.messages.insert _ _).lookup _).isSome
        rw [AList.lookup_insert]
        rfl
      · rw [lookup_setDeliveryState_ne he]
        exact hs b (List.mem_cons_of_mem _ hb)
    rw [deliver_cons,ih hrest]
    simp [setDeliveryState_eq hm,push,Answer.ids]

theorem deliver_edited (c : MindChatCore) (answers : List Answer) :
    Edited False Edit.Opening c (c.deliver answers) := by
  induction answers generalizing c with
  | nil => exact .refl c
  | cons a answers ih => exact setDeliveryState_any.trans (ih _)

theorem stored_of_pending (hg : Grounded c) {accountId : AccountId} {pending : List OutgoingMessage}
    (hp : c.pendingOutgoingMessages accountId = .ok pending) {o : OutgoingMessage} (ho : o ∈ pending) :
    ∃ m, c.messages.lookup o.messageId = some m := by
  obtain ⟨m,hl,-⟩ := (mem_pendingOutgoingMessages_iff hg.messageKey hp o).mp ho
  exact ⟨m,hl⟩

theorem pendingOutgoingMessages_ok {accountId : AccountId} :
    (∃ pending, c.pendingOutgoingMessages accountId = .ok pending) ↔
      (c.accounts.lookup accountId).isSome := by
  unfold pendingOutgoingMessages
  cases c.accounts.lookup accountId <;> simp

theorem mem_pendingOutgoingMessages_deliver (hg : Grounded c) {accountId : AccountId}
    {pending rest : List OutgoingMessage} {answers : List Answer}
    (hp : c.pendingOutgoingMessages accountId = .ok pending)
    (hr : (c.deliver answers).pendingOutgoingMessages accountId = .ok rest)
    (hs : ∀ a ∈ answers, a.message ∈ pending) (hn : (Answer.ids answers).Nodup)
    (ha : ∀ a ∈ answers, a.accepted) (o : OutgoingMessage) :
    o ∈ rest ↔ o ∈ pending ∧ o.messageId ∉ Answer.ids answers := by
  have hstored : ∀ a ∈ answers, ∃ m, c.messages.lookup a.message.messageId = some m :=
    fun a hm => stored_of_pending hg hp (hs a hm)
  have hframe : c.deliver answers = _ := deliver_frame (fun a hm => by
    obtain ⟨m,hl⟩ := hstored a hm
    rw [hl]
    rfl)
  have ho : (c.deliver answers).outgoing accountId = c.outgoing accountId := by
    rw [hframe]
    rfl
  rw [mem_pendingOutgoingMessages_iff (hg.edited (c.deliver_edited answers)).messageKey hr,
    mem_pendingOutgoingMessages_iff hg.messageKey hp,ho]
  by_cases hid : o.messageId ∈ Answer.ids answers
  · obtain ⟨a,hm,he⟩ := List.mem_map.mp hid
    obtain ⟨m,hl⟩ := hstored a hm
    refine ⟨?_,fun h => (h.2 hid).elim⟩
    rintro ⟨n,hln,-,hw,-⟩
    rw [← he,lookup_deliver_of_mem hn hm hl] at hln
    cases hln
    simp only [Answer.state,ha a hm,if_true] at hw
    rcases hw with hw | hw <;> cases hw
  · rw [lookup_deliver_of_not_mem hid]
    exact ⟨fun h => ⟨h,hid⟩,And.left⟩

end MindChatCore

/-- What a flush returns: the first refusal, or the number of accepted messages. -/
def flushResult (sentCount : ℕ) (answers : List Answer) : Except TransportCoordinatorError ℕ :=
  match answers.findSome? Answer.refusal with
  | some e => .error (.transport e)
  | none => .ok (sentCount + answers.countP Answer.accepted)

namespace TransportCoordinator

variable {T : Type} [XmppTransport T]

/-- A batch and the answers it got: an initial segment of it is offered, up to the
end, the clock or the first refusal, and the answers decide all the rest. -/
structure BatchFlush (elapsed : ℕ → ℕ) (batch : List OutgoingMessage) (sentCount : ℕ)
    (k : TransportCoordinator (Recorded T)) (answers : List Answer) : Prop where
  offered : answers.map Answer.message <+: batch
  accepted : ∀ a ∈ answers.dropLast, a.accepted
  stopped : answers.length = batch.length ∨ flushSendTimeoutMs ≤ elapsed (sentCount + answers.length) ∨
    ∃ a ∈ answers, ¬ a.accepted
  recorded : (flushBatch elapsed batch sentCount k).2.transport.answers = k.transport.answers ++ answers
  core : (flushBatch elapsed batch sentCount k).2.core = k.core.deliver answers
  result : (flushBatch elapsed batch sentCount k).1 = flushResult sentCount answers

namespace BatchFlush

variable {elapsed : ℕ → ℕ} {message : OutgoingMessage} {rest : List OutgoingMessage} {sentCount : ℕ}
  {k : TransportCoordinator (Recorded T)} {inner : T}

theorem late (h : flushSendTimeoutMs ≤ elapsed sentCount) :
    BatchFlush elapsed (message :: rest) sentCount k [] := by
  refine ⟨List.nil_prefix,by simp,.inr (.inl h),?_,?_,?_⟩ <;> rw [flushBatch_late h]
  · rw [List.append_nil]
  · rfl
  · rfl

theorem refused (h : elapsed sentCount < flushSendTimeoutMs)
    (hm : (k.core.messages.lookup message.messageId).isSome) {e : TransportError}
    (hs : XmppTransport.send k.transport message =
      (.error e,⟨inner,k.transport.answers ++ [⟨message,.error e⟩]⟩)) :
    BatchFlush elapsed (message :: rest) sentCount k [⟨message,.error e⟩] := by
  refine ⟨by simp,by simp,.inr (.inr ⟨_,List.mem_singleton_self _,?_⟩),?_,?_,?_⟩
  · simp [Answer.accepted,Except.isOk,Except.toBool]
  all_goals rw [flushBatch_refused h hm hs]
  · rfl
  · rfl

theorem accepted_cons (h : elapsed sentCount < flushSendTimeoutMs)
    (hm : (k.core.messages.lookup message.messageId).isSome)
    (hs : XmppTransport.send k.transport message =
      (.ok (),⟨inner,k.transport.answers ++ [⟨message,.ok ()⟩]⟩)) {answers : List Answer}
    (hrest : BatchFlush elapsed rest (sentCount + 1)
      ⟨(k.core.setDeliveryState message.messageId .sent).2,
        ⟨inner,k.transport.answers ++ [⟨message,.ok ()⟩]⟩⟩ answers) :
    BatchFlush elapsed (message :: rest) sentCount k (⟨message,.ok ()⟩ :: answers) := by
  have he : flushBatch elapsed (message :: rest) sentCount k = _ := flushBatch_accepted h hm hs
  refine ⟨List.cons_prefix_cons.mpr ⟨rfl,hrest.offered⟩,?_,?_,?_,?_,?_⟩
  · cases answers with
    | nil => simp
    | cons a answers =>
      rw [List.dropLast_cons_cons]
      exact List.forall_mem_cons.mpr ⟨rfl,hrest.accepted⟩
  · rcases hrest.stopped with hl | hc | ⟨a,ha,hna⟩
    · exact .inl (by simp [hl])
    · exact .inr (.inl (by rwa [List.length_cons,Nat.add_comm answers.length,← Nat.add_assoc]))
    · exact .inr (.inr ⟨a,List.mem_cons_of_mem _ ha,hna⟩)
  · rw [he,hrest.recorded,List.append_assoc]
    rfl
  · rw [he,hrest.core]
    rfl
  · rw [he,hrest.result]
    simp only [flushResult,List.findSome?_cons,Answer.refusal,List.countP_cons,Answer.accepted]
    cases answers.findSome? Answer.refusal with
    | some e => rfl
    | none =>
      simp only [Except.isOk,Except.toBool,if_true]
      rw [Nat.add_assoc,Nat.add_comm 1]

end BatchFlush

theorem flushBatch_spec (elapsed : ℕ → ℕ) (batch : List OutgoingMessage) (sentCount : ℕ)
    (k : TransportCoordinator (Recorded T))
    (hs : ∀ o ∈ batch, (k.core.messages.lookup o.messageId).isSome) :
    ∃ answers, BatchFlush elapsed batch sentCount k answers := by
  induction batch generalizing sentCount k with
  | nil => exact ⟨[],List.nil_prefix,by simp,.inl rfl,by simp [flushBatch],rfl,rfl⟩
  | cons message rest ih =>
    by_cases ht : flushSendTimeoutMs ≤ elapsed sentCount
    · exact ⟨[],.late ht⟩
    have ht := not_le.mp ht
    have hstored := hs message List.mem_cons_self
    cases hr : XmppTransport.send k.transport.inner message with
    | mk outcome inner =>
      have hsend : XmppTransport.send k.transport message =
          (outcome,⟨inner,k.transport.answers ++ [⟨message,outcome⟩]⟩) := by
        simp only [XmppTransport.send,hr]
      cases outcome with
      | error e => exact ⟨_,.refused ht hstored hsend⟩
      | ok u =>
        obtain ⟨answers,h⟩ := ih (sentCount + 1) ⟨_,_⟩ (fun o ho =>
          (isSome_messages_setDeliveryState k.core message.messageId o.messageId .sent).trans
            (hs o (List.mem_cons_of_mem _ ho)))
        exact ⟨_,h.accepted_cons ht hstored hsend⟩

/-- A flush of the outbox `pending`, whose sends were answered by `answers`. -/
structure Flush (elapsed : ℕ → ℕ) (accountId : AccountId) (pending : List OutgoingMessage)
    (k : TransportCoordinator (Recorded T)) (answers : List Answer) : Prop where
  offered : answers.map Answer.message <+: pending
  bounded : answers.length ≤ flushOutboxMaxBatch
  accepted : ∀ a ∈ answers.dropLast, a.accepted
  stopped : answers.length = min flushOutboxMaxBatch pending.length ∨
    flushSendTimeoutMs ≤ elapsed answers.length ∨ ∃ a ∈ answers, ¬ a.accepted
  recorded : (k.flushOutbox elapsed accountId).2.transport.answers = k.transport.answers ++ answers
  result : (k.flushOutbox elapsed accountId).1 = flushResult 0 answers
  written : ∀ a ∈ answers, ∃ m, k.core.messages.lookup a.message.messageId = some m ∧
    (k.flushOutbox elapsed accountId).2.core.messages.lookup a.message.messageId =
      some { m with deliveryState := a.state }
  kept : ∀ id ∉ Answer.ids answers,
    (k.flushOutbox elapsed accountId).2.core.messages.lookup id = k.core.messages.lookup id
  frame : (k.flushOutbox elapsed accountId).2.core = { k.core with
    messages := (k.flushOutbox elapsed accountId).2.core.messages
    events := k.core.events ++ (Answer.ids answers).map .messageChanged }

section Outbox

variable {k : TransportCoordinator (Recorded T)} {accountId : AccountId}
  {pending rest : List OutgoingMessage} {elapsed : ℕ → ℕ} {answers : List Answer}

theorem flushOutbox_eq (hp : k.core.pendingOutgoingMessages accountId = .ok pending) :
    k.flushOutbox elapsed accountId = flushBatch elapsed (pending.take flushOutboxMaxBatch) 0 k := by
  simp only [flushOutbox,hp]

theorem flushOutbox_batch (hg : Grounded k.core)
    (hp : k.core.pendingOutgoingMessages accountId = .ok pending) (elapsed : ℕ → ℕ) :
    ∃ answers, BatchFlush elapsed (pending.take flushOutboxMaxBatch) 0 k answers := by
  refine flushBatch_spec elapsed _ 0 k (fun o ho => ?_)
  obtain ⟨m,hl⟩ := stored_of_pending hg hp ((List.take_subset _ _) ho)
  rw [hl]
  rfl

theorem BatchFlush.mem_pending (h : BatchFlush elapsed (pending.take flushOutboxMaxBatch) 0 k answers) :
    ∀ a ∈ answers, a.message ∈ pending :=
  fun _ ha => List.take_subset _ _ (h.offered.subset (List.mem_map_of_mem ha))

theorem BatchFlush.ids_nodup (h : BatchFlush elapsed (pending.take flushOutboxMaxBatch) 0 k answers)
    (hg : Grounded k.core) (hp : k.core.pendingOutgoingMessages accountId = .ok pending) :
    (Answer.ids answers).Nodup := by
  have hn : (pending.map OutgoingMessage.messageId).Nodup :=
    List.pairwise_map.mpr ((pendingOutgoingMessages_sorted hg.messageKey hp).imp ne_of_lt)
  have hs := (h.offered.sublist.trans (List.take_sublist _ _)).map OutgoingMessage.messageId
  rw [List.map_map] at hs
  exact hn.sublist hs

theorem BatchFlush.flush (h : BatchFlush elapsed (pending.take flushOutboxMaxBatch) 0 k answers)
    (hg : Grounded k.core) (hp : k.core.pendingOutgoingMessages accountId = .ok pending) :
    Flush elapsed accountId pending k answers := by
  have hlen := h.offered.length_le
  rw [List.length_map,List.length_take] at hlen
  have hstored : ∀ a ∈ answers, ∃ m, k.core.messages.lookup a.message.messageId = some m :=
    fun a ha => stored_of_pending hg hp (h.mem_pending a ha)
  refine ⟨h.offered.trans (List.take_prefix _ _),hlen.trans (min_le_left _ _),h.accepted,?_,?_,?_,?_,?_,?_⟩
  · simpa using h.stopped
  · rw [flushOutbox_eq hp,h.recorded]
  · rw [flushOutbox_eq hp,h.result]
  · intro a ha
    obtain ⟨m,hl⟩ := hstored a ha
    rw [flushOutbox_eq hp,h.core]
    exact ⟨m,hl,lookup_deliver_of_mem (h.ids_nodup hg hp) ha hl⟩
  · intro id hid
    rw [flushOutbox_eq hp,h.core,lookup_deliver_of_not_mem hid]
  · rw [flushOutbox_eq hp,h.core]
    refine deliver_frame (fun a ha => ?_)
    obtain ⟨m,hl⟩ := hstored a ha
    rw [hl]
    rfl

/-- With every send accepted in time a flush takes the first messages out of the outbox. -/
theorem BatchFlush.drains (h : BatchFlush elapsed (pending.take flushOutboxMaxBatch) 0 k answers)
    (hg : Grounded k.core) (hp : k.core.pendingOutgoingMessages accountId = .ok pending)
    (hr : (k.flushOutbox elapsed accountId).2.core.pendingOutgoingMessages accountId = .ok rest)
    (he : ∀ i < flushOutboxMaxBatch, elapsed i < flushSendTimeoutMs) (ha : ∀ a ∈ answers, a.accepted) :
    answers.map Answer.message = pending.take flushOutboxMaxBatch ∧
      rest = pending.drop flushOutboxMaxBatch := by
  have hlen := h.offered.length_le
  rw [List.length_map] at hlen
  have hall : answers.map Answer.message = pending.take flushOutboxMaxBatch := by
    refine h.offered.eq_of_length ?_
    rw [List.length_map]
    rcases h.stopped with hl | hc | ⟨a,hm,hna⟩
    · exact hl
    · rw [Nat.zero_add] at hc
      have hcap : flushOutboxMaxBatch ≤ answers.length := by
        by_contra hlt
        have := he _ (Nat.lt_of_not_le hlt)
        omega
      exact le_antisymm hlen ((List.length_take_le _ _).trans hcap)
    · exact (hna (ha a hm)).elim
  refine ⟨hall,?_⟩
  rw [flushOutbox_eq hp,h.core] at hr
  have hsorted := pendingOutgoingMessages_sorted hg.messageKey hp
  have hirrefl : Std.Irrefl (fun o p : OutgoingMessage => o.messageId < p.messageId) :=
    ⟨fun o => lt_irrefl o.messageId⟩
  have hids : Answer.ids answers = (pending.take flushOutboxMaxBatch).map OutgoingMessage.messageId := by
    rw [← hall,List.map_map]
    rfl
  refine (pendingOutgoingMessages_sorted (hg.edited (deliver_edited _ _)).messageKey hr).eq_of_mem_iff
    (hsorted.sublist (List.drop_sublist _ _)) (fun o => ?_)
  rw [mem_pendingOutgoingMessages_deliver hg hp hr h.mem_pending (h.ids_nodup hg hp) ha,hids]
  exact List.mem_and_not_mem_map_take hsorted

end Outbox

/-- `n` flushes one after the other, each with its own clock. -/
def flushRounds (elapsed : ℕ → ℕ → ℕ) (accountId : AccountId) : ℕ → TransportCoordinator T →
    TransportCoordinator T
  | 0, k => k
  | n + 1, k => ((flushRounds elapsed accountId n k).flushOutbox (elapsed n) accountId).2

/-- The rounds keep the invariant; with every send accepted in time they have offered
the first messages in order, and the others are left. -/
theorem flushRounds_spec {k : TransportCoordinator (Recorded T)} {accountId : AccountId}
    {pending : List OutgoingMessage} {elapsed : ℕ → ℕ → ℕ} (hg : Grounded k.core)
    (hp : k.core.pendingOutgoingMessages accountId = .ok pending) (n : ℕ)
    (he : ∀ j < n, ∀ i < flushOutboxMaxBatch, elapsed j i < flushSendTimeoutMs) :
    ∃ answers rest, (flushRounds elapsed accountId n k).transport.answers = k.transport.answers ++ answers ∧
      Grounded (flushRounds elapsed accountId n k).core ∧
      (flushRounds elapsed accountId n k).core.pendingOutgoingMessages accountId = .ok rest ∧
      ((∀ a ∈ answers, a.accepted) →
        answers.map Answer.message = pending.take (n * flushOutboxMaxBatch) ∧
          rest = pending.drop (n * flushOutboxMaxBatch)) := by
  induction n with
  | zero => exact ⟨[],pending,by simp [flushRounds],hg,hp,fun _ => by simp⟩
  | succ n ih =>
    obtain ⟨answers,rest,hlog,hgn,hrest,hdrained⟩ := ih (fun j hj => he j (Nat.lt_succ_of_lt hj))
    obtain ⟨more,hb⟩ := flushOutbox_batch hgn hrest (elapsed n)
    have hf := hb.flush hgn hrest
    have hs : ((flushRounds elapsed accountId (n + 1) k).core.accounts.lookup accountId).isSome := by
      have hn := pendingOutgoingMessages_ok.mp ⟨rest,hrest⟩
      rw [flushRounds,hf.frame]
      exact hn
    obtain ⟨left,hleft⟩ := pendingOutgoingMessages_ok.mpr hs
    refine ⟨answers ++ more,left,?_,?_,hleft,fun ha => ?_⟩
    · rw [flushRounds,hf.recorded,hlog,List.append_assoc]
    · rw [flushRounds,flushOutbox_eq hrest,hb.core]
      exact hgn.edited (deliver_edited _ _)
    · rw [List.forall_mem_append] at ha
      obtain ⟨htaken,hdropped⟩ := hdrained ha.1
      obtain ⟨hfirst,hothers⟩ := hb.drains hgn hrest hleft (he n (Nat.lt_succ_self n)) ha.2
      rw [List.map_append,htaken,hfirst,hothers,hdropped,Nat.succ_mul,List.take_add,List.drop_drop]
      exact ⟨rfl,rfl⟩

/-- A flush of any account in any core of a run, and the flushes that empty an outbox. -/
theorem outbox_flushed_in_order {k : TransportCoordinator (Recorded T)} (h : Reached k.core)
    (accountId : AccountId) :
    (k.core.accounts.lookup accountId = none → ∀ elapsed,
      k.flushOutbox elapsed accountId = (.error (.core (.unknownAccount accountId)),k)) ∧
    ∀ a, k.core.accounts.lookup accountId = some a → ∃ pending,
      k.core.pendingOutgoingMessages accountId = .ok pending ∧
      pending.Pairwise (fun o p => o.messageId < p.messageId) ∧
      (∀ elapsed, ∃ answers, Flush elapsed accountId pending k answers) ∧
      ∀ elapsed : ℕ → ℕ → ℕ, (∀ j < pending.length ⌈/⌉ flushOutboxMaxBatch, ∀ i < flushOutboxMaxBatch,
          elapsed j i < flushSendTimeoutMs) →
        let l := flushRounds elapsed accountId (pending.length ⌈/⌉ flushOutboxMaxBatch) k
        ∃ answers, l.transport.answers = k.transport.answers ++ answers ∧
          ((∀ a ∈ answers, a.accepted) → answers.map Answer.message = pending ∧
            l.core.pendingOutgoingMessages accountId = .ok []) := by
  have hg := h.grounded
  refine ⟨fun hn elapsed => ?_,fun a ha => ?_⟩
  · simp [flushOutbox,pendingOutgoingMessages,hn]
  obtain ⟨pending,hp⟩ := pendingOutgoingMessages_ok.mpr (Option.isSome_of_eq_some ha)
  refine ⟨pending,hp,pendingOutgoingMessages_sorted hg.messageKey hp,fun elapsed => ?_,fun elapsed he => ?_⟩
  · obtain ⟨answers,hb⟩ := flushOutbox_batch hg hp elapsed
    exact ⟨answers,hb.flush hg hp⟩
  · obtain ⟨answers,rest,hlog,-,hrest,hdrained⟩ := flushRounds_spec hg hp _ he
    have hcap : pending.length ≤ (pending.length ⌈/⌉ flushOutboxMaxBatch) * flushOutboxMaxBatch := by
      rw [Nat.mul_comm]
      exact le_smul_ceilDiv (a := flushOutboxMaxBatch) (by decide)
    refine ⟨answers,hlog,fun hall => ?_⟩
    obtain ⟨htaken,hleft⟩ := hdrained hall
    rw [List.take_of_length_le hcap] at htaken
    rw [List.drop_of_length_le hcap] at hleft
    exact ⟨htaken,hleft ▸ hrest⟩

def waitingTwo : TransportCoordinator (Recorded Scripted) := ⟨demoCore,⟨⟨[],[]⟩,[]⟩⟩

theorem outbox_flushed_in_order_two : ∃ pending, demoCore.pendingOutgoingMessages 1 = .ok pending ∧
    pending.map OutgoingMessage.messageId = [1,2] ∧
    (∃ answers, Flush (fun _ => 0) 1 pending waitingTwo answers) ∧
    (flushRounds (fun _ _ => 0) 1 1 waitingTwo).core.pendingOutgoingMessages 1 = .ok [] := by
  obtain ⟨a,ha⟩ := Option.isSome_iff_exists.mp (by decide : (demoCore.accounts.lookup 1).isSome)
  obtain ⟨pending,hp,-,hflush,hrounds⟩ :=
    (outbox_flushed_in_order (k := waitingTwo) demoCore_reachable.reached 1).2 a ha
  have hids : (demoCore.pendingOutgoingMessages 1).map (List.map OutgoingMessage.messageId) =
      .ok [1,2] := by decide +kernel
  have hp' : demoCore.pendingOutgoingMessages 1 = .ok pending := hp
  rw [hp'] at hids
  have hids' : pending.map OutgoingMessage.messageId = [1,2] := Except.ok.inj hids
  have hlen : pending.length = 2 := by
    have := congrArg List.length hids'
    rwa [List.length_map] at this
  obtain ⟨answers,hlog,hall⟩ := hrounds (fun _ _ => 0) (fun _ _ _ _ => by decide)
  rw [hlen] at hlog hall
  have hok : ∀ b ∈ (flushRounds (fun _ _ => 0) 1 1 waitingTwo).transport.answers, b.accepted := by
    decide +kernel
  have hempty := (hall (fun b hb => hok b (hlog ▸ List.mem_append_right _ hb))).2
  exact ⟨pending,hp',hids',hflush _,hempty⟩

end TransportCoordinator

end MindChat
