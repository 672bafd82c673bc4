import MindChat.GatewayCalls
import MindChat.PollBatch

/-! One drain cycle of the gateway on the unsigned counters of its source: the
planner, the clamp of the binding and the poll loop below it. -/

namespace MindChat

open MindChatCore

namespace GatewayPoll

variable {T : Type} [XmppTransport T]

/-- The call of the binding; its count is `u32::try_from(count).unwrap_or(u32::MAX)`. -/
def pollTransportEvents (k : TransportCoordinator T) (maxEvents : UInt32) :
    Except TransportCoordinatorError UInt32 × TransportCoordinator T :=
  match MindChatCoreHandle.pollTransportEvents k maxEvents.toNat with
  | (.error e,k) => (.error e,k)
  | (.ok count,k) => (.ok (if count < 2^32 then UInt32.ofNat count else 4294967295),k)

/-- The variables of `drainTransportEvents` beside the session it polls. -/
structure DrainLoop (T : Type) where
  session : TransportCoordinator T
  eventsProcessed : UInt32
  batchesUsed : ℕ
  previousBatchSize : UInt32

/-- What one round of the loop comes to; `asked` is the size it asked for. -/
inductive Round (T : Type)
  | returned (eventsProcessed : UInt32)
  | threw (error : TransportCoordinatorError) (session : TransportCoordinator T)
  | polled (asked : UInt32) (loop : DrainLoop T)

namespace DrainLoop

def start (k : TransportCoordinator T) : DrainLoop T := ⟨k,0,0,maxEventsPerDrainBatch⟩

def step (l : DrainLoop T) : DrainStep UInt32 :=
  nextDrainStep l.previousBatchSize l.batchesUsed l.eventsProcessed

def round (l : DrainLoop T) : Round T :=
  if l.step.continueDraining then
    match GatewayPoll.pollTransportEvents l.session l.step.batchSize with
    | (.error e,k) => .threw e k
    | (.ok batch,k) => .polled l.step.batchSize ⟨k,l.eventsProcessed + batch,l.batchesUsed + 1,batch⟩
  else .returned l.eventsProcessed

/-- The rounds of a cycle so far, by the sizes they asked for. -/
abbrev Rounds : DrainLoop T → List UInt32 → DrainLoop T → Prop :=
  Transition.Run fun l asked m => l.round = .polled asked m

end DrainLoop

variable [QueuedEvents T] {k : TransportCoordinator T} {l m : DrainLoop T}

/-- After `b` polls: what was consumed is the first `128 * b` events, as far as there
were that many, and a batch that was not full ended the queue. -/
structure Drained (k : TransportCoordinator T) (l : DrainLoop T) : Prop where
  batches : l.batchesUsed ≤ 4
  processed : l.eventsProcessed.toNat = min (128 * l.batchesUsed) (queued k.transport).length
  full : 128 ≤ l.previousBatchSize.toNat ↔ 128 * l.batchesUsed ≤ (queued k.transport).length
  left : queued l.session.transport = (queued k.transport).drop (128 * l.batchesUsed)
  core : l.session.core = k.core.applyTransportEvents ((queued k.transport).take (128 * l.batchesUsed))

theorem Drained.start (k : TransportCoordinator T) : Drained k (.start k) :=
  ⟨Nat.zero_le 4,by simp [DrainLoop.start],by simp [DrainLoop.start,maxEventsPerDrainBatch],rfl,rfl⟩

theorem nextDrainStep_continues {p e : UInt32} {b : ℕ} :
    (nextDrainStep p b e).continueDraining = true ↔ b < 4 ∧ e.toNat < 512 ∧ 128 ≤ p.toNat := by
  unfold nextDrainStep maxDrainBatchesPerCycle maxEventsPerDrainCycle maxEventsPerDrainBatch
  split_ifs with h₁ h₂ h₃ <;> simp_all [UInt32.le_iff_toNat_le,UInt32.lt_iff_toNat_lt]

theorem toNat_maxEvents_sub {e : UInt32} (h : e.toNat ≤ 512) :
    (maxEventsPerDrainCycle - e).toNat = 512 - e.toNat := by
  rw [UInt32.toNat_sub_of_le]
  · rfl
  · exact UInt32.le_iff_toNat_le.mpr h

theorem toNat_min (a b : UInt32) : (min a b).toNat = min a.toNat b.toNat := by
  have h : min a b = if a ≤ b then a else b := rfl
  rw [h]
  split <;> rename_i hle <;> rw [UInt32.le_iff_toNat_le] at hle <;> omega

theorem toNat_batchSize {p e : UInt32} {b : ℕ} (h : (nextDrainStep p b e).continueDraining = true) :
    (nextDrainStep p b e).batchSize.toNat = min 128 (512 - e.toNat) := by
  have hc := nextDrainStep_continues.mp h
  have hs := toNat_maxEvents_sub (by omega : e.toNat ≤ 512)
  unfold nextDrainStep at h ⊢
  split_ifs at h ⊢
  simp only [toNat_min,hs]
  rfl

theorem pollTransportEvents_queued (k : TransportCoordinator T) {size : UInt32} (hs : size.toNat ≤ 128) :
    ∃ batch : UInt32, pollTransportEvents k size = (.ok batch,(k.pollTransportEvents size.toNat).2) ∧
      batch.toNat = min size.toNat (queued k.transport).length := by
  have hm : min size.toNat MindChatCoreHandle.maxTransportEventsPerPoll = size.toNat := Nat.min_eq_left hs
  have hp := (TransportCoordinator.pollLoop_queued size.toNat 0 k).1
  rw [Nat.zero_add] at hp
  have hlt : min size.toNat (queued k.transport).length < 2^32 := by omega
  refine ⟨UInt32.ofNat (min size.toNat (queued k.transport).length),?_,UInt32.toNat_ofNat_of_lt' hlt⟩
  have hr : k.pollTransportEvents size.toNat =
      (.ok (min size.toNat (queued k.transport).length),(k.pollTransportEvents size.toNat).2) :=
    Prod.ext hp rfl
  rw [pollTransportEvents,MindChatCoreHandle.pollTransportEvents,hm,hr]
  simp only [if_pos hlt]

/-- A round of a cycle asks for a full batch, since nothing but full ones came before. -/
theorem Drained.polls (h : Drained k l) {asked : UInt32} (hr : l.round = .polled asked m) :
    l.step.continueDraining = true ∧
      l.batchesUsed < 4 ∧ asked.toNat = 128 ∧ l.eventsProcessed.toNat = 128 * l.batchesUsed ∧
      m = ⟨(l.session.pollTransportEvents 128).2,l.eventsProcessed + m.previousBatchSize,l.batchesUsed + 1,
        m.previousBatchSize⟩ ∧
      m.previousBatchSize.toNat = min 128 (queued l.session.transport).length := by
  unfold DrainLoop.round at hr
  split at hr
  · next hc =>
    obtain ⟨hb,he,hp⟩ := nextDrainStep_continues.mp hc
    have hprocessed := h.processed
    rw [Nat.min_eq_left (h.full.mp hp)] at hprocessed
    have hsize : l.step.batchSize.toNat = 128 := (toNat_batchSize hc).trans (by omega)
    obtain ⟨batch,hpoll,hbatch⟩ := pollTransportEvents_queued l.session (Nat.le_of_eq hsize)
    rw [hsize] at hpoll hbatch
    simp only [hpoll] at hr
    cases hr
    exact ⟨hc,hb,hsize,hprocessed,rfl,hbatch⟩
  · cases hr

theorem Drained.polled (h : Drained k l) {asked : UInt32} (hr : l.round = .polled asked m) :
    Drained k m ∧ l.eventsProcessed.toNat + asked.toNat ≤ 512 ∧ m.batchesUsed = l.batchesUsed + 1 := by
  obtain ⟨-,hb,hsize,hprocessed,hm,hbatch⟩ := h.polls hr
  have hfull := h.processed
  obtain ⟨-,hq,hcore⟩ := TransportCoordinator.pollLoop_queued 128 0 l.session
  generalize m.previousBatchSize = batch at hm hbatch
  subst hm
  rw [h.left,List.length_drop] at hbatch
  refine ⟨⟨?_,?_,?_,?_,?_⟩,?_,rfl⟩
  · show l.batchesUsed + 1 ≤ 4
    omega
  · show (l.eventsProcessed + batch).toNat = min (128 * (l.batchesUsed + 1)) _
    rw [UInt32.toNat_add,hprocessed,hbatch]
    omega
  · show 128 ≤ batch.toNat ↔ 128 * (l.batchesUsed + 1) ≤ _
    rw [hbatch]
    omega
  · refine hq.trans ?_
    rw [h.left,List.drop_drop]
    rfl
  · refine hcore.trans ?_
    rw [h.core,h.left,← applyTransportEvents_append,← List.take_add]
    rfl
  · omega

theorem Drained.rounds {asked : List UInt32} (h : Drained k l) (hr : DrainLoop.Rounds l asked m) :
    Drained k m ∧ m.batchesUsed = l.batchesUsed + asked.length := by
  induction hr with
  | nil => exact ⟨h,rfl⟩
  | cons hs _ ih =>
    obtain ⟨ht,-,hb⟩ := h.polled hs
    obtain ⟨hm,hc⟩ := ih ht
    refine ⟨hm,?_⟩
    rw [hc,hb,List.length_cons]
    omega

theorem Drained.round (h : Drained k l) :
    (∃ asked m, l.round = .polled asked m) ∨
      (l.round = .returned l.eventsProcessed ∧
        (l.batchesUsed = 4 ∨ (queued k.transport).length < 128 * l.batchesUsed)) := by
  unfold DrainLoop.round
  split
  · next hc =>
    have hle : l.step.batchSize.toNat ≤ 128 := (toNat_batchSize hc).le.trans (Nat.min_le_left _ _)
    obtain ⟨batch,hpoll,-⟩ := pollTransportEvents_queued l.session hle
    rw [hpoll]
    exact .inl ⟨_,_,rfl⟩
  · next hc =>
    refine .inr ⟨rfl,?_⟩
    rw [DrainLoop.step,nextDrainStep_continues,h.processed,h.full] at hc
    have hb := h.batches
    omega

/-- Each poll uses up one of the batches, so the loop comes to its end. -/
theorem Drained.returns (left : ℕ) (h : Drained k l) (hl : 4 ≤ l.batchesUsed + left) :
    ∃ asked m, DrainLoop.Rounds l asked m ∧ m.round = .returned m.eventsProcessed := by
  induction left generalizing l with
  | zero =>
    refine ⟨[],l,.nil l,(h.round.resolve_left ?_).1⟩
    rintro ⟨asked,m,hm⟩
    obtain ⟨hd,-,hb⟩ := h.polled hm
    have hlast := hd.batches
    omega
  | succ left ih =>
    rcases h.round with ⟨asked,m,hm⟩ | ⟨hr,-⟩
    · obtain ⟨hd,-,hb⟩ := h.polled hm
      obtain ⟨more,n,hn,hr⟩ := ih hd (by omega)
      exact ⟨asked :: more,n,.cons hm hn,hr⟩
    · exact ⟨[],l,.nil l,hr⟩

theorem Drained.returned (h : Drained k l)
    (hn : l.batchesUsed = 4 ∨ (queued k.transport).length < 128 * l.batchesUsed) :
    l.eventsProcessed.toNat = min (queued k.transport).length 512 ∧
      l.session.core = k.core.applyTransportEvents ((queued k.transport).take 512) ∧
      queued l.session.transport = (queued k.transport).drop 512 := by
  have hb := h.batches
  rcases hn with hn | hn
  · have hall : 128 * l.batchesUsed = 512 := by omega
    refine ⟨?_,?_,?_⟩
    · rw [h.processed,hall,Nat.min_comm]
    · rw [h.core,hall]
    · rw [h.left,hall]
  · have hlast : (queued k.transport).length ≤ 512 := by omega
    refine ⟨?_,?_,?_⟩
    · rw [h.processed]
      omega
    · rw [h.core,List.take_of_length_le hn.le,List.take_of_length_le hlast]
    · rw [h.left,List.drop_of_length_le hn.le,List.drop_of_length_le hlast]

/-- For every queue, one cycle comes to its end after at most four polls. No poll asks for
more than is left of the budget, whose subtraction never wraps, and no poll throws. What the
cycle applied are the first 512 events in order, and it stopped short only of an empty queue. -/
theorem drain_cycle (k : TransportCoordinator T) :
    (∃ asked l n, DrainLoop.Rounds (.start k) asked l ∧ l.round = .returned n) ∧
      ∀ asked l, DrainLoop.Rounds (.start k) asked l → asked.length ≤ 4 ∧
        (∀ e k', l.round ≠ .threw e k') ∧
        (∀ size m, l.round = .polled size m → l.eventsProcessed ≤ maxEventsPerDrainCycle ∧
          size.toNat ≤ 512 - l.eventsProcessed.toNat ∧
          (maxEventsPerDrainCycle - l.eventsProcessed).toNat = 512 - l.eventsProcessed.toNat) ∧
        ∀ n, l.round = .returned n → n.toNat = min (queued k.transport).length 512 ∧
          l.session.core = k.core.applyTransportEvents ((queued k.transport).take 512) ∧
          queued l.session.transport = (queued k.transport).drop 512 ∧
          ((asked.length < 4 ∨ n.toNat < 512) → queued l.session.transport = []) := by
  constructor
  · obtain ⟨asked,l,hr,hn⟩ := (Drained.start k).returns 4 (by simp [DrainLoop.start])
    exact ⟨asked,l,_,hr,hn⟩
  · intro asked l hr
    obtain ⟨h,hb⟩ := (Drained.start k).rounds hr
    have hcount : l.batchesUsed = asked.length := by rw [hb]; exact Nat.zero_add _
    have hmax := h.batches
    refine ⟨by omega,fun e k' ht => ?_,fun size m hp => ?_,fun n hn => ?_⟩
    · rcases h.round with ⟨asked,m,hm⟩ | ⟨hm,-⟩ <;> rw [hm] at ht <;> cases ht
    · obtain ⟨-,hbudget,-⟩ := h.polled hp
      have hle : l.eventsProcessed.toNat ≤ 512 := by omega
      exact ⟨UInt32.le_iff_toNat_le.mpr hle,by omega,toNat_maxEvents_sub hle⟩
    · rcases h.round with ⟨asked,m,hm⟩ | ⟨hm,hend⟩ <;> rw [hm] at hn <;> cases hn
      obtain ⟨hcountn,hcore,hleft⟩ := h.returned hend
      refine ⟨hcountn,hcore,hleft,fun hshort => ?_⟩
      rw [hleft,List.drop_eq_nil_iff]
      omega

/-- The planner of the natural numbers decides the same as long as the budget holds. -/
theorem nextDrainStep_toNat {p e : UInt32} {b : ℕ} :
    ((nextDrainStep p.toNat b e.toNat).continueDraining = (nextDrainStep p b e).continueDraining) ∧
      ((nextDrainStep p b e).continueDraining = true →
        (nextDrainStep p.toNat b e.toNat).batchSize = (nextDrainStep p b e).batchSize.toNat) := by
  have hc : (nextDrainStep p.toNat b e.toNat).continueDraining = true ↔
      b < 4 ∧ e.toNat < 512 ∧ 128 ≤ p.toNat := by
    unfold nextDrainStep maxDrainBatchesPerCycle maxEventsPerDrainCycle
      maxEventsPerDrainBatch
    split_ifs with h₁ h₂ h₃ <;> simp_all
  refine ⟨?_,fun h => ?_⟩
  · rw [Bool.eq_iff_iff,hc,nextDrainStep_continues]
  · rw [toNat_batchSize h]
    rw [nextDrainStep_continues,← hc] at h
    unfold nextDrainStep at h ⊢
    split_ifs at h ⊢
    rfl

/-- The call of the gateway goes on after its drain as it does after these rounds. -/
theorem performs_drainTransportEvents (next : Option ℕ → GatewayProc T) {asked : List UInt32}
    (h : Drained k l) (hr : DrainLoop.Rounds l asked m) (hm : m.round = .returned m.eventsProcessed)
    {left : ℕ} (hl : asked.length < left) (s : NativeGateway T) (reply : Reply) (t : NativeGateway T) :
    Proc.Performs (NativeGateway.drainTransportEvents next left l.previousBatchSize.toNat l.batchesUsed
        l.eventsProcessed.toNat) (s.withSession l.session) reply t ↔
      Proc.Performs (next (some m.eventsProcessed.toNat)) (s.withSession m.session) reply t := by
  induction hr generalizing left with
  | nil l =>
    obtain ⟨left,rfl⟩ := Nat.exists_eq_succ_of_ne_zero (Nat.ne_zero_of_lt hl)
    have hstop : l.step.continueDraining = false := by
      cases hc : l.step.continueDraining with
      | false => rfl
      | true =>
        unfold DrainLoop.round at hm
        simp only [hc,if_true] at hm
        split at hm <;> cases hm
    have hstep := nextDrainStep_toNat.1.trans hstop
    simp only [NativeGateway.drainTransportEvents,hstep]
    rfl
  | @cons l asked l' rest m hs hrest ih =>
    obtain ⟨hc,hb,hasked,hprocessed,hl',hbatch⟩ := h.polls hs
    obtain ⟨hd,-,-⟩ := h.polled hs
    rw [List.length_cons] at hl
    obtain ⟨left,rfl⟩ := Nat.exists_eq_succ_of_ne_zero (Nat.ne_zero_of_lt hl)
    have hsize := (nextDrainStep_toNat.2 hc).trans (toNat_batchSize hc)
    have hstep := nextDrainStep_toNat.1.trans hc
    obtain ⟨hcount,-,-⟩ := TransportCoordinator.pollLoop_queued 128 0 l.session
    rw [Nat.zero_add,← hbatch] at hcount
    have hall : min (min 128 (512 - l.eventsProcessed.toNat))
        MindChatCoreHandle.maxTransportEventsPerPoll = 128 := by
      unfold MindChatCoreHandle.maxTransportEventsPerPoll
      omega
    have hpoll : MindChatCoreHandle.pollTransportEvents l.session
        (nextDrainStep l.previousBatchSize.toNat l.batchesUsed l.eventsProcessed.toNat).batchSize =
          (.ok l'.previousBatchSize.toNat,(l.session.pollTransportEvents 128).2) := by
      rw [MindChatCoreHandle.pollTransportEvents,hsize,hall]
      exact Prod.ext hcount rfl
    have hleft : rest.length < left := by omega
    have hnext := ih hd hm hleft
    generalize l'.previousBatchSize = batch at hl' hbatch hpoll
    subst hl'
    rw [← hnext]
    have hadd : (l.eventsProcessed + batch).toNat = l.eventsProcessed.toNat + batch.toNat := by
      rw [UInt32.toNat_add]
      omega
    conv_lhs => unfold NativeGateway.drainTransportEvents
    simp only [hstep,if_true]
    rw [NativeGateway.native,Proc.call,Proc.performs_act]
    simp only [NativeGateway.session,NativeGateway.withSession,hpoll]
    rw [hadd]

theorem performs_drain (next : Option ℕ → GatewayProc T) (s : NativeGateway T) (reply : Reply)
    (t : NativeGateway T) :
    ∃ k : TransportCoordinator T,
      k.core = s.core.applyTransportEvents ((queued s.session.transport).take 512) ∧
      queued k.transport = (queued s.session.transport).drop 512 ∧
      (Proc.Performs (NativeGateway.drainTransportEvents next (maxDrainBatchesPerCycle + 1)
          maxEventsPerDrainBatch 0 0) s reply t ↔
        Proc.Performs (next (some (min (queued s.session.transport).length 512))) (s.withSession k)
          reply t) := by
  have h := Drained.start s.session
  obtain ⟨asked,l,hr,hn⟩ := h.returns 4 (Nat.le_of_eq rfl)
  obtain ⟨hl,hb⟩ := h.rounds hr
  have hmax := hl.batches
  have hshort : asked.length < maxDrainBatchesPerCycle + 1 := by
    show asked.length < 5
    omega
  have hend : l.batchesUsed = 4 ∨ (queued s.session.transport).length < 128 * l.batchesUsed := by
    rcases hl.round with ⟨size,m,hm⟩ | ⟨-,hend⟩
    · rw [hn] at hm
      cases hm
    · exact hend
  obtain ⟨hcount,hcore,hleft⟩ := hl.returned hend
  rw [← hcount]
  exact ⟨l.session,hcore,hleft,performs_drainTransportEvents next h hr hn hshort s reply t⟩

end GatewayPoll

end MindChat
