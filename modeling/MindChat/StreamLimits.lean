import MindChat.StreamDelivery

/-! The limits of a steady run: how often a write pass asks the transport, and exactly
which rounds the worker does not survive. -/

namespace MindChat.StanzaStream

open Polling

variable {ε : Type} {lib : Library ε}

/-- How often the transport says that it is ready before it has to wait or fails. -/
def Answers.grants (answers : Answers ε) : ℕ := (answers.ready.takeWhile Except.isOk).length

def QueueEntry.sendable (lib : Library ε) (entry : QueueEntry ε) : Bool :=
  (lib.serialise entry.stanza).isNone

def Tx.ready (tx : Tx ε) : List (Except OpaqueIoError Unit) := tx.io.answers.ready

/-- The acknowledgements that the peer still waits for. -/
def Tx.owed (tx : Tx ε) : ℕ := tx.sm.elim 0 SmState.pendingAcks

theorem Answers.grants_nil {answers : Answers ε} (h : answers.ready = []) : answers.grants = 0 := by
  rw [grants,h]
  rfl

theorem Answers.grants_error {answers : Answers ε} {error : OpaqueIoError}
    {ready : List (Except OpaqueIoError Unit)} (h : answers.ready = .error error :: ready) :
    answers.grants = 0 := by
  rw [grants,h]
  rfl

theorem Answers.grants_ok {answers answers' : Answers ε} {ready : List (Except OpaqueIoError Unit)}
    (h : answers.ready = .ok () :: ready) (h' : answers'.ready = ready) :
    answers.grants = answers'.grants + 1 := by
  rw [grants,h,grants,h']
  rfl

theorem Tx.grants_drop {tx t : Tx ε} {k : ℕ} (hk : k ≤ tx.ready.length)
    (hall : ∀ answer ∈ tx.ready.take k, answer.isOk = true) (ht : t.ready = tx.ready.drop k) :
    t.io.answers.grants = tx.io.answers.grants - k := by
  have hready : tx.ready = tx.ready.take k ++ t.ready := by rw [ht,List.take_append_drop]
  show (t.ready.takeWhile Except.isOk).length = (tx.ready.takeWhile Except.isOk).length - k
  rw [hready,List.takeWhile_append_of_pos hall,List.length_append,List.length_take_of_le hk]
  omega

theorem Tx.grants_short {tx : Tx ε} {k : ℕ} (hk : tx.ready.length < k) : tx.io.answers.grants - k = 0 := by
  have hle : tx.io.answers.grants ≤ tx.ready.length := (List.takeWhile_sublist _).length_le
  omega

theorem Tx.grants_failed {tx : Tx ε} {k : ℕ} (he : ∃ answer ∈ tx.ready.take k, answer.isOk = false) :
    tx.io.answers.grants - k = 0 := by
  obtain ⟨answer,hm,ha⟩ := he
  refine Nat.sub_eq_zero_of_le (Nat.le_of_lt (Nat.lt_of_not_le fun hk => ?_))
  have htake : tx.ready.take k = (tx.ready.takeWhile Except.isOk).take k := by
    obtain ⟨rest,hrest⟩ := List.takeWhile_prefix Except.isOk (l := tx.ready)
    conv_lhs => rw [← hrest]
    exact List.take_append_of_le_length hk
  rw [htake] at hm
  cases ha.symm.trans (List.all_eq_true.mp List.all_takeWhile answer (List.mem_of_mem_take hm))

namespace Write

/-- What becomes of a computation that asks the transport `k` times whether it is ready,
and sends no acknowledgement. -/
inductive Asks {α : Type} (k : ℕ) (tx : Tx ε) (Q : α → Tx ε → Prop) :
    Polling.Progress OpaqueIoError α × Tx ε → Prop
  | done {value : α} {t : Tx ε} (hk : k ≤ tx.ready.length)
      (hall : ∀ answer ∈ tx.ready.take k, answer.isOk = true) (ht : t.ready = tx.ready.drop k)
      (ho : t.owed = tx.owed) (hq : Q value t) : Asks k tx Q (.done value,t)
  | pending {t : Tx ε} (hk : tx.ready.length < k) (hall : ∀ answer ∈ tx.ready, answer.isOk = true)
      (ho : t.owed = tx.owed) : Asks k tx Q (.pending,t)
  | failed {error : OpaqueIoError} {t : Tx ε}
      (he : ∃ answer ∈ tx.ready.take k, answer.isOk = false) : Asks k tx Q (.failed error,t)

namespace Asks

variable {α β : Type} {k k' : ℕ} {tx : Tx ε} {Q : α → Tx ε → Prop} {Q' : β → Tx ε → Prop}

theorem of_done {value : α} {t : Tx ε} (ht : t.ready = tx.ready) (ho : t.owed = tx.owed)
    (hq : Q value t) : Asks 0 tx Q (.done value,t) := .done (Nat.zero_le _) nofun ht ho hq

theorem mono {Q' : α → Tx ε → Prop} {result : Polling.Progress OpaqueIoError α × Tx ε} (h : Asks k tx Q result)
    (hq : ∀ value t, Q value t → Q' value t) : Asks k tx Q' result := by
  cases h with
  | done hk hall ht ho h => exact .done hk hall ht ho (hq _ _ h)
  | pending hk hall ho => exact .pending hk hall ho
  | failed he => exact .failed he

theorem after_ok {k : ℕ} {t : Tx ε} {ready : List (Except OpaqueIoError Unit)}
    {result : Polling.Progress OpaqueIoError α × Tx ε} (hr : tx.ready = .ok () :: ready) (ht : t.ready = ready)
    (ho : t.owed = tx.owed) (h : Asks k t Q result) : Asks (k + 1) tx Q result := by
  subst ht
  cases h with
  | done hk hall ht ho' hq =>
    refine .done (by simpa [hr] using hk) ?_ (by rw [ht,hr,List.drop_succ_cons]) (ho'.trans ho) hq
    simpa [hr,Except.isOk,Except.toBool] using hall
  | pending hk hall ho' =>
    refine .pending (by simpa [hr] using hk) ?_ (ho'.trans ho)
    simpa [hr,Except.isOk,Except.toBool] using hall
  | failed he =>
    obtain ⟨answer,hm,ha⟩ := he
    exact .failed ⟨answer,by rw [hr,List.take_succ_cons]; exact List.mem_cons_of_mem _ hm,ha⟩

theorem bind {m : Write ε α} {f : α → Write ε β} (hm : Asks k tx Q (m tx))
    (hf : ∀ value t, Q value t → Asks k' t Q' (f value t)) : Asks (k + k') tx Q' ((m >>= f) tx) := by
  show Asks (k + k') tx Q' (PollM.bind m f tx)
  unfold PollM.bind
  generalize m tx = r at hm
  cases hm with
  | pending hk hall ho => exact .pending (Nat.lt_add_right k' hk) hall ho
  | failed he =>
    obtain ⟨answer,hm,ha⟩ := he
    exact .failed ⟨answer,List.take_subset_take_left _ (Nat.le_add_right k k') hm,ha⟩
  | @done value t hk hall ht ho hq =>
    have hlen : t.ready.length = tx.ready.length - k := by rw [ht,List.length_drop]
    have htake : tx.ready.take (k + k') = tx.ready.take k ++ t.ready.take k' := by
      rw [ht,List.take_add]
    have hready : tx.ready = tx.ready.take k ++ t.ready := by rw [ht,List.take_append_drop]
    dsimp only
    generalize hr : f value t = r
    have hf := hf value t hq
    rw [hr] at hf
    cases hf with
    | done hk' hall' ht' ho' hq' =>
      refine .done (by omega) ?_ (by rw [ht',ht,List.drop_drop]) (ho'.trans ho) hq'
      intro answer hm
      rw [htake] at hm
      rcases List.mem_append.mp hm with hm | hm
      · exact hall answer hm
      · exact hall' answer hm
    | pending hk' hall' ho' =>
      refine .pending (by omega) ?_ (ho'.trans ho)
      intro answer hm
      rw [hready] at hm
      rcases List.mem_append.mp hm with hm | hm
      · exact hall answer hm
      · exact hall' answer hm
    | failed he =>
      obtain ⟨answer,hm,ha⟩ := he
      exact .failed ⟨answer,htake ▸ List.mem_append_right _ hm,ha⟩

end Asks

variable {tx : Tx ε} {st : SmState ε}

theorem asks_pollReady (tx : Tx ε) : Asks 1 tx (fun _ t => t.sm = tx.sm ∧ t.io.queue = tx.io.queue)
    (pollReady tx : Polling.Progress OpaqueIoError Unit × Tx ε) := by
  unfold pollReady Io.pollReady
  cases hr : tx.io.answers.ready with
  | nil => exact .pending (by simp [Tx.ready,hr]) (by simp [Tx.ready,hr]) rfl
  | cons answer ready =>
    cases answer with
    | error e => exact .failed ⟨.error e,by simp [Tx.ready,hr],rfl⟩
    | ok value =>
      refine .done (by simp [Tx.ready,hr]) (by simp [Tx.ready,hr,Except.isOk,Except.toBool]) ?_ rfl ⟨rfl,rfl⟩
      show ready = (tx.io.answers.ready).drop 1
      rw [hr]
      rfl

theorem asks_pollWriteSmReq (hsm : tx.sm = some st) : Asks st.pendingReq.toNat tx
    (fun _ t => t.sm = some { st with pendingReq := false } ∧ t.io.queue = tx.io.queue)
    ((pollWriteSmReq : Write ε Unit) tx) := by
  have hrun : (pollWriteSmReq : Write ε Unit) tx = (if st.pendingReq then do
      pollReady
      startSend (.sm .req)
      PollM.modify fun tx => { tx with sm := tx.sm.map ({ · with pendingReq := false }) }
    else return () : Write ε Unit) tx := by
    simp only [pollWriteSmReq,Bind.bind,PollM.bind,PollM.get,hsm]
  rw [hrun]
  cases hp : st.pendingReq with
  | false =>
    refine .of_done rfl rfl ⟨?_,rfl⟩
    rw [hsm,← hp]
  | true =>
    refine @Asks.bind _ _ _ 1 0 _ _ _ _ _ (asks_pollReady tx) fun _ t hsame => ?_
    obtain ⟨ht,hq⟩ := hsame
    refine .of_done rfl ?_ ⟨?_,hq⟩
    · show Option.elim (Option.map _ t.sm) 0 _ = t.sm.elim 0 _
      rw [ht,hsm]
      rfl
    · show Option.map _ t.sm = _
      rw [ht,hsm]
      rfl

theorem transmitEntry_of_not_sendable {entry : QueueEntry ε} (h : entry.sendable lib = false) (tx : Tx ε) :
    ∃ tokens, transmitEntry lib entry tx = (.done false,{ tx with io.tokens := tokens }) := by
  unfold transmitEntry
  cases hs : lib.serialise entry.stanza with
  | none => simp [QueueEntry.sendable,hs] at h
  | some error => exact ⟨_,rfl⟩

theorem transmitEntry_of_full {entry : QueueEntry ε} (h : entry.sendable lib = true)
    (hsm : tx.sm = some st) (hfull : SmState.maxQueueSize ≤ st.unackedStanzas.length) :
    (transmitEntry lib entry tx).1 = .panicked := by
  have he : st.enqueue entry = none := if_pos hfull
  unfold transmitEntry
  cases hs : lib.serialise entry.stanza with
  | some error => simp [QueueEntry.sendable,hs] at h
  | none =>
    obtain ⟨sm,io⟩ := tx
    obtain rfl : sm = some st := hsm
    simp only [Bind.bind,PollM.bind,startSend,PollM.modify,PollM.get,he]
    rfl

theorem transmitEntry_of_room {entry : QueueEntry ε} (h : entry.sendable lib = true)
    (hsm : tx.sm = some st) (hroom : st.unackedStanzas.length < SmState.maxQueueSize) :
    ∃ stream tokens, transmitEntry lib entry tx = (.done true,
      ⟨some { st with unackedStanzas := st.unackedStanzas ++ [entry] },
        { tx.io with stream := stream, tokens := tokens }⟩) := by
  have he : st.enqueue entry = some { st with unackedStanzas := st.unackedStanzas ++ [entry] } :=
    if_neg (Nat.not_le.mpr hroom)
  unfold transmitEntry
  cases hs : lib.serialise entry.stanza with
  | some error => simp [QueueEntry.sendable,hs] at h
  | none =>
    obtain ⟨sm,io⟩ := tx
    obtain rfl : sm = some st := hsm
    simp only [Bind.bind,PollM.bind,startSend,PollM.modify,PollM.get,he]
    exact ⟨_,_,rfl⟩

theorem transmitAll_nil (n : ℕ) (transmitted : Bool) (h : tx.io.queue.entries = []) :
    ∃ depleted, transmitAll lib n transmitted tx = (.done (depleted,transmitted),tx) := by
  obtain ⟨sm,⟨stream,⟨inner,closed,peek⟩,tokens,answers⟩⟩ := tx
  obtain ⟨rfl,rfl⟩ : peek = [] ∧ inner = [] := List.append_eq_nil_iff.mp h
  cases n with
  | zero => exact ⟨_,rfl⟩
  | succ n => cases closed <;> exact ⟨_,rfl⟩

theorem transmitAll_cons (n : ℕ) (transmitted : Bool) {entry : QueueEntry ε} {entries : List (QueueEntry ε)}
    (h : tx.io.queue.entries = entry :: entries) :
    (∃ t, tx.ready = [] ∧ t.owed = tx.owed ∧ transmitAll lib (n + 1) transmitted tx = (.pending,t)) ∨
    (∃ error ready t, tx.ready = .error error :: ready ∧
      transmitAll lib (n + 1) transmitted tx = (.failed error,t)) ∨
    ∃ ready t, tx.ready = .ok () :: ready ∧ t.ready = ready ∧ t.sm = tx.sm ∧
      t.io.queue.entries = entries ∧ transmitAll lib (n + 1) transmitted tx =
        (transmitEntry lib entry >>= fun sent => transmitAll lib n (transmitted || sent)) t := by
  have hshow : ∃ queue taken, tx.io.queue.pollNext = (.ready (some entry),queue) ∧
      queue.take = some (entry,taken) ∧ taken.entries = entries := by
    obtain ⟨sm,⟨stream,⟨inner,closed,peek⟩,tokens,answers⟩⟩ := tx
    cases peek with
    | cons first peek =>
      obtain ⟨rfl,rfl⟩ := List.cons.inj h
      exact ⟨_,_,rfl,rfl,rfl⟩
    | nil =>
      obtain rfl : inner = entry :: entries := h
      exact ⟨_,_,rfl,rfl,rfl⟩
  obtain ⟨queue,taken,hnext,htake,hentries⟩ := hshow
  have hrun : transmitAll lib (n + 1) transmitted tx = (pollReady >>= fun _ =>
      transmit lib >>= fun sent => transmitAll lib n (transmitted || sent))
        { tx with io.queue := queue } := by
    simp only [transmitAll,Bind.bind,PollM.bind,PollM.get,PollM.modify,hnext]
  rw [hrun]
  obtain ⟨sm,⟨stream,queue₀,tokens,⟨ready,flush,read,deadline⟩⟩⟩ := tx
  cases ready with
  | nil => exact .inl ⟨⟨sm,⟨stream,queue,tokens,⟨[],flush,read,deadline⟩⟩⟩,rfl,rfl,rfl⟩
  | cons answer ready =>
    cases answer with
    | error e => exact .inr (.inl ⟨_,_,_,rfl,rfl⟩)
    | ok value =>
      refine .inr (.inr ⟨ready,⟨sm,⟨stream,taken,tokens,⟨ready,flush,read,deadline⟩⟩⟩,rfl,rfl,rfl,hentries,?_⟩)
      simp only [Bind.bind,PollM.bind,pollReady,Io.pollReady,transmit,PollM.get,PollM.modify,htake]

/-- The stanzas that a write pass gets to and that can be sent. -/
def reached (lib : Library ε) (entries : List (QueueEntry ε)) (grants : ℕ) : ℕ :=
  (entries.take grants).countP (·.sendable lib)

theorem reached_cons (lib : Library ε) (entry : QueueEntry ε) (entries : List (QueueEntry ε)) (n : ℕ) :
    reached lib (entry :: entries) (n + 1) = (entry.sendable lib).toNat + reached lib entries n := by
  unfold reached
  rw [List.take_succ_cons,List.countP_cons]
  cases entry.sendable lib <;> simp [Nat.add_comm]

/-- The loop over the queue panics exactly where the stanzas that it gets to do not fit
with those that the peer has not acknowledged; otherwise it asks once for each stanza. -/
theorem transmitAll_cases {n : ℕ} (transmitted : Bool) {entries : List (QueueEntry ε)}
    (hsm : tx.sm = some st) (hroom : st.unackedStanzas.length ≤ SmState.maxQueueSize)
    (hq : tx.io.queue.entries = entries) (hn : entries.length ≤ n) :
    ((transmitAll lib n transmitted tx).1 = .panicked ∧
      SmState.maxQueueSize < st.unackedStanzas.length + reached lib entries tx.io.answers.grants) ∨
    (Asks entries.length tx (fun sent t => sent.2 = (transmitted || entries.any (·.sendable lib)) ∧
      ∃ st', t.sm = some st') (transmitAll lib n transmitted tx) ∧
      st.unackedStanzas.length + reached lib entries tx.io.answers.grants ≤ SmState.maxQueueSize) := by
  induction entries generalizing n tx transmitted st with
  | nil =>
    obtain ⟨depleted,hr⟩ := @transmitAll_nil _ lib _ n transmitted hq
    rw [hr]
    refine .inr ⟨.of_done rfl rfl ⟨by simp,st,hsm⟩,?_⟩
    simpa [reached] using hroom
  | cons entry entries ih =>
    obtain ⟨n,rfl⟩ : ∃ m, n = m + 1 := ⟨n - 1,by simp at hn; omega⟩
    have hn : entries.length ≤ n := by simpa using hn
    rcases @transmitAll_cons _ lib _ n transmitted _ _ hq with ⟨t,hready,ho,hr⟩ | ⟨error,ready,t,hready,hr⟩ |
      ⟨ready,t,hready,hready',hsm',hq',hr⟩
    · rw [hr,Answers.grants_nil hready]
      exact .inr ⟨.pending (by simp [hready]) (by simp [hready]) ho,hroom⟩
    · rw [hr,Answers.grants_error hready]
      exact .inr ⟨.failed ⟨.error error,by simp [hready],rfl⟩,hroom⟩
    · rw [hr,Answers.grants_ok hready hready']
      have ho : t.owed = tx.owed := by rw [Tx.owed,Tx.owed,hsm']
      rw [reached_cons,List.length_cons,List.any_cons,← Bool.or_assoc]
      cases hs : entry.sendable lib with
      | false =>
        obtain ⟨tokens,ht⟩ := transmitEntry_of_not_sendable hs t
        rw [PollM.bind_of_done ht,Bool.toNat_false,Nat.zero_add]
        have ih := @ih { t with io.tokens := tokens } st n (transmitted || false) (hsm'.trans hsm) hroom hq' hn
        refine ih.imp_right fun h => ⟨Asks.after_ok hready ?_ ?_ h.1,h.2⟩
        · exact hready'
        · exact ho
      | true =>
        rw [Bool.toNat_true]
        by_cases hfull : SmState.maxQueueSize ≤ st.unackedStanzas.length
        · have ht := transmitEntry_of_full hs (hsm'.trans hsm) hfull
          exact .inl ⟨PollM.bind_of_panicked ht _,by omega⟩
        · obtain ⟨stream,tokens,ht⟩ := transmitEntry_of_room hs (hsm'.trans hsm) (Nat.lt_of_not_le hfull)
          generalize ht' : Tx.mk _ _ = t' at ht
          rw [PollM.bind_of_done ht]
          have hroom' : (st.unackedStanzas ++ [entry]).length ≤ SmState.maxQueueSize := by
            rw [List.length_append,List.length_singleton]
            omega
          have ih := @ih t' { st with unackedStanzas := st.unackedStanzas ++ [entry] } n (transmitted || true)
            (by rw [← ht']) hroom' (by rw [← ht']; exact hq') hn
          have ho' : t'.owed = tx.owed := by
            rw [← ho,← ht',Tx.owed,Tx.owed,hsm',hsm]
            rfl
          have hlen : (st.unackedStanzas ++ [entry]).length = st.unackedStanzas.length + 1 := by simp
          have hg : t'.io.answers.grants = t.io.answers.grants := by rw [← ht']
          rw [hg,hlen] at ih
          rcases ih with ⟨hp,hlt⟩ | ⟨ha,hle⟩
          · exact .inl ⟨hp,by omega⟩
          · exact .inr ⟨ha.after_ok hready (by rw [← ht']; exact hready') ho',by omega⟩

def writesBeforeAcks (lib : Library ε) : Write ε Bool := do
  pollWriteSmReq
  let (depleted,transmitted) ← transmitAll lib ((← PollM.get).io.queue.entries.length + 1) false
  PollM.modify fun tx => { tx with sm := tx.sm.map ({ · with pendingReq := transmitted }) }
  pollWriteSmReq
  return depleted

def flushAll (depleted : Bool) : Write ε Unit := do
  pollFlush
  if depleted then return () else PollM.pending

theorem pollWritesInner_eq (lib : Library ε) : pollWritesInner lib =
    writesBeforeAcks lib >>= fun depleted => sendPendingAcks >>= fun _ => flushAll depleted := by
  unfold writesBeforeAcks
  simp only [PollM.bind_assoc]
  rfl

/-- How often the transport is asked before the first acknowledgement. -/
def asked (lib : Library ε) (st : SmState ε) (entries : List (QueueEntry ε)) : ℕ :=
  st.pendingReq.toNat + (entries.length + (entries.any (·.sendable lib)).toNat)

theorem asks_setRequest (transmitted : Bool) (hsm : tx.sm = some st) :
    Asks transmitted.toNat tx (fun _ t => ∃ st', t.sm = some st') ((do
      PollM.modify fun tx => { tx with sm := tx.sm.map ({ · with pendingReq := transmitted }) }
      pollWriteSmReq : Write ε Unit) tx) := by
  rw [← Nat.zero_add transmitted.toNat]
  refine Asks.bind (Q := fun _ t => t.sm = some { st with pendingReq := transmitted }) ?_ fun _ t ht => ?_
  · refine .of_done rfl ?_ ?_
    · show Option.elim (Option.map _ tx.sm) 0 _ = tx.sm.elim 0 _
      rw [hsm]
      rfl
    · show Option.map _ tx.sm = _
      rw [hsm]
      rfl
  · exact (asks_pollWriteSmReq ht).mono fun _ _ h => ⟨_,h.1⟩

theorem writesBeforeAcks_cases (hsm : tx.sm = some st)
    (hroom : st.unackedStanzas.length ≤ SmState.maxQueueSize) :
    ((writesBeforeAcks lib tx).1 = .panicked ∧ SmState.maxQueueSize < st.unackedStanzas.length +
      reached lib tx.io.queue.entries (tx.io.answers.grants - st.pendingReq.toNat)) ∨
    (Asks (asked lib st tx.io.queue.entries) tx (fun _ t => ∃ st', t.sm = some st') (writesBeforeAcks lib tx) ∧
      st.unackedStanzas.length +
        reached lib tx.io.queue.entries (tx.io.answers.grants - st.pendingReq.toNat) ≤
        SmState.maxQueueSize) := by
  have hreq := asks_pollWriteSmReq hsm
  generalize hr : (pollWriteSmReq : Write ε Unit) tx = r at hreq
  cases hreq with
  | pending hk hall ho =>
    rw [Tx.grants_short hk]
    have hreq : Asks st.pendingReq.toNat tx (fun _ _ => False) ((pollWriteSmReq : Write ε Unit) tx) :=
      hr ▸ .pending hk hall ho
    exact .inr ⟨hreq.bind fun _ _ => False.elim,hroom⟩
  | failed he =>
    rw [Tx.grants_failed he]
    have hreq : Asks st.pendingReq.toNat tx (fun _ _ => False) ((pollWriteSmReq : Write ε Unit) tx) :=
      hr ▸ .failed he
    exact .inr ⟨hreq.bind fun _ _ => False.elim,hroom⟩
  | @done _ t hk hall ht ho hq =>
    obtain ⟨hsm',hqueue⟩ := hq
    have hdone : Asks st.pendingReq.toNat tx (fun _ t' => t' = t) ((pollWriteSmReq : Write ε Unit) tx) :=
      hr ▸ .done hk hall ht ho rfl
    rw [← Tx.grants_drop hk hall ht,← hqueue]
    rcases @transmitAll_cases _ lib t _ (t.io.queue.entries.length + 1) false _ hsm' hroom rfl
      (Nat.le_succ _) with ⟨hp,hlt⟩ | ⟨ha,hle⟩
    · refine .inl ⟨?_,hlt⟩
      rw [writesBeforeAcks,PollM.bind_of_done hr]
      exact PollM.bind_of_panicked hp _
    · refine .inr ⟨hdone.bind fun _ t' ht' => ?_,hle⟩
      subst ht'
      refine Asks.bind (m := transmitAll lib _ false) ha fun sent t'' hsent => ?_
      obtain ⟨depleted,transmitted⟩ := sent
      obtain ⟨hsent,st',ht''⟩ := hsent
      obtain rfl : transmitted = _ := hsent
      rw [Bool.false_or,← Nat.add_zero (Bool.toNat _)]
      have hset := asks_setRequest (t'.io.queue.entries.any (·.sendable lib)) ht''
      have hreturn : ∀ (_ : Unit) (t : Tx ε), (∃ st', t.sm = some st') →
          Asks 0 t (fun _ t => ∃ st', t.sm = some st') ((return depleted : Write ε Bool) t) :=
        fun _ t ht => .of_done rfl rfl ht
      have hend := hset.bind hreturn
      simp only [PollM.bind_assoc] at hend
      exact hend

theorem sendAcks_cases {n : ℕ} (hsm : tx.sm = some st) (hn : st.pendingAcks = n) :
    (tx.ready.length < n ∧ (∀ answer ∈ tx.ready, answer.isOk = true) ∧
      ∃ t, sendAcks n tx = (.pending,t) ∧ t.owed = n - tx.ready.length) ∨
    ((∃ answer ∈ tx.ready, answer.isOk = false) ∧ ∃ error t, sendAcks n tx = (.failed error,t)) ∨
    (n ≤ tx.ready.length ∧ ∃ t, sendAcks n tx = (.done (),t) ∧ t.owed = 0) := by
  induction n generalizing tx st with
  | zero => exact .inr (.inr ⟨Nat.zero_le _,tx,rfl,by rw [Tx.owed,hsm]; exact hn⟩)
  | succ n ih =>
    obtain ⟨sm,⟨stream,queue,tokens,⟨ready,flush,read,deadline⟩⟩⟩ := tx
    obtain rfl : sm = some st := hsm
    cases ready with
    | nil => exact .inl ⟨Nat.succ_pos n,fun _ hm => (List.not_mem_nil hm).elim,_,rfl,hn⟩
    | cons answer ready =>
      cases answer with
      | error e => exact .inr (.inl ⟨⟨.error e,List.mem_cons_self,rfl⟩,_,_,rfl⟩)
      | ok value =>
        let t : Tx ε := ⟨some { st with pendingAcks := n },
          ⟨{ stream with up := stream.up ++ [.sm (.ack st.inboundCtr)] },queue,tokens,
            ⟨ready,flush,read,deadline⟩⟩⟩
        have hrun : sendAcks (n + 1) ⟨some st,⟨stream,queue,tokens,⟨.ok value :: ready,flush,read,deadline⟩⟩⟩ =
            sendAcks n t := rfl
        rw [hrun]
        rcases @ih t _ rfl rfl with ⟨hlt,hall,t',hr,ho⟩ | ⟨⟨answer,hm,ha⟩,error,t',hr⟩ | ⟨hle,t',hr,ho⟩
        · refine .inl ⟨Nat.succ_lt_succ hlt,fun answer hm => ?_,t',hr,?_⟩
          · rcases List.mem_cons.mp hm with rfl | hm
            · rfl
            · exact hall answer hm
          · rw [ho]
            exact (Nat.succ_sub_succ n ready.length).symm
        · exact .inr (.inl ⟨⟨answer,List.mem_cons_of_mem _ hm,ha⟩,error,t',hr⟩)
        · exact .inr (.inr ⟨Nat.succ_le_succ hle,t',hr,ho⟩)

theorem flushAll_cases (depleted : Bool) (tx : Tx ε) : ∃ progress : Polling.Progress OpaqueIoError Unit,
    flushAll depleted tx = (progress,tx) ∧ progress ≠ .panicked := by
  simp only [flushAll,Bind.bind,PollM.bind,pollFlush]
  cases tx.io.answers.flush with
  | pending => exact ⟨_,rfl,by simp⟩
  | ready answer =>
    cases answer with
    | error e => exact ⟨_,rfl,by simp⟩
    | ok value => cases depleted <;> exact ⟨_,rfl,by simp⟩

theorem pollWritesInner_cases (hsm : tx.sm = some st)
    (hroom : st.unackedStanzas.length ≤ SmState.maxQueueSize) :
    ((pollWritesInner lib tx).1 = .panicked ∧ SmState.maxQueueSize < st.unackedStanzas.length +
      reached lib tx.io.queue.entries (tx.io.answers.grants - st.pendingReq.toNat)) ∨
    (st.unackedStanzas.length +
        reached lib tx.io.queue.entries (tx.io.answers.grants - st.pendingReq.toNat) ≤
        SmState.maxQueueSize ∧
      ∃ progress t, pollWritesInner lib tx = (progress,t) ∧ progress ≠ .panicked ∧
        ((progress = .pending ∧ (∀ answer ∈ tx.ready, answer.isOk = true) ∧
          t.owed = st.pendingAcks - (tx.ready.length - asked lib st tx.io.queue.entries)) ∨
        ((progress = .pending → t.owed = 0) ∧ ((∃ answer ∈ tx.ready, answer.isOk = false) ∨
          st.pendingAcks - (tx.ready.length - asked lib st tx.io.queue.entries) = 0)))) := by
  have howed : tx.owed = st.pendingAcks := by rw [Tx.owed,hsm]; rfl
  have hall := @writesBeforeAcks_cases _ lib tx st hsm hroom
  rw [pollWritesInner_eq]
  simp only [Bind.bind,PollM.bind]
  generalize asked lib st tx.io.queue.entries = k at hall ⊢
  generalize writesBeforeAcks lib tx = r at hall ⊢
  rcases hall with ⟨hp,hlt⟩ | ⟨ha,hle⟩
  · obtain ⟨progress,t⟩ := r
    obtain rfl : progress = .panicked := hp
    exact .inl ⟨rfl,hlt⟩
  refine .inr ⟨hle,?_⟩
  cases ha with
  | @pending t hk hok ho =>
    refine ⟨.pending,t,rfl,by simp,.inl ⟨rfl,hok,?_⟩⟩
    rw [ho,howed,Nat.sub_eq_zero_of_le (Nat.le_of_lt hk),Nat.sub_zero]
  | @failed error t he =>
    obtain ⟨answer,hm,ha⟩ := he
    exact ⟨.failed error,t,rfl,by simp,.inr ⟨by simp,.inl ⟨answer,List.mem_of_mem_take hm,ha⟩⟩⟩
  | @done depleted t hk hok ht ho hq =>
    obtain ⟨st',hsm'⟩ := hq
    have hacks : st'.pendingAcks = st.pendingAcks := by
      rw [← howed,← ho,Tx.owed,hsm']
      rfl
    have hlen : t.ready.length = tx.ready.length - k := by rw [ht,List.length_drop]
    have hready : tx.ready = tx.ready.take k ++ t.ready := by rw [ht,List.take_append_drop]
    have hrun : (sendPendingAcks : Write ε Unit) t = sendAcks st.pendingAcks t := by
      simp only [sendPendingAcks,Bind.bind,PollM.bind,PollM.get,hsm',hacks]
    rw [← hlen]
    dsimp only
    rw [hrun]
    rcases sendAcks_cases hsm' hacks with ⟨hlt,hok',t',hr,ho'⟩ | ⟨⟨answer,hm,ha⟩,error,t',hr⟩ | ⟨hle',t',hr,ho'⟩
    · rw [hr]
      refine ⟨.pending,t',rfl,by simp,.inl ⟨rfl,fun answer hm => ?_,ho'⟩⟩
      rw [hready] at hm
      rcases List.mem_append.mp hm with hm | hm
      · exact hok answer hm
      · exact hok' answer hm
    · rw [hr]
      refine ⟨.failed error,t',rfl,by simp,.inr ⟨by simp,.inl ⟨answer,?_,ha⟩⟩⟩
      rw [hready]
      exact List.mem_append_right _ hm
    · rw [hr]
      obtain ⟨progress,hf,hne⟩ := flushAll_cases depleted t'
      exact ⟨progress,t',hf,hne,.inr ⟨fun _ => ho',.inr (Nat.sub_eq_zero_of_le hle')⟩⟩

/-- A write pass panics exactly where the stanzas that it gets to do not fit. -/
theorem pollWritesInner_panicked_iff (hsm : tx.sm = some st)
    (hroom : st.unackedStanzas.length ≤ SmState.maxQueueSize) :
    (pollWritesInner lib tx).1 = .panicked ↔ SmState.maxQueueSize < st.unackedStanzas.length +
      reached lib tx.io.queue.entries (tx.io.answers.grants - st.pendingReq.toNat) := by
  rcases @pollWritesInner_cases _ lib tx st hsm hroom with ⟨hp,hlt⟩ | ⟨hle,progress,t,hr,hne,-⟩
  · exact iff_of_true hp hlt
  · rw [hr]
    exact iff_of_false hne (Nat.not_lt.mpr hle)

theorem pollWritesInner_owed_iff {m : ℕ} (hsm : tx.sm = some st)
    (hroom : st.unackedStanzas.length ≤ SmState.maxQueueSize)
    (hfits : (pollWritesInner lib tx).1 ≠ .panicked) (hm : 0 < m) :
    (∃ t, pollWritesInner lib tx = (.pending,t) ∧ t.owed = m) ↔
      (∀ answer ∈ tx.ready, answer.isOk = true) ∧
        st.pendingAcks - (tx.ready.length - asked lib st tx.io.queue.entries) = m := by
  rcases @pollWritesInner_cases _ lib tx st hsm hroom with ⟨hp,-⟩ | ⟨-,progress,t,hr,-,hcase⟩
  · exact absurd hp hfits
  rw [hr]
  constructor
  · rintro ⟨t',he,ho⟩
    cases he
    rcases hcase with ⟨-,hok,ho'⟩ | ⟨ho',-⟩
    · exact ⟨hok,ho'.symm.trans ho⟩
    · have := ho' rfl
      omega
  · rintro ⟨hok,ho⟩
    rcases hcase with ⟨rfl,-,ho'⟩ | ⟨-,⟨answer,hm',ha⟩ | ho'⟩
    · exact ⟨t,rfl,ho'.trans ho⟩
    · cases ha.symm.trans (hok answer hm')
    · omega

end Write

theorem down_of_writes {tx tx' : Tx ε} (h : Write.Writes lib tx tx') :
    tx'.io.stream.down = tx.io.stream.down := by
  induction h with
  | refl => rfl
  | tail _ hw ih =>
    refine Eq.trans ?_ ih
    cases hw with
    | quiet h => exact congrArg XmppStream.down h.stream
    | nonza hsm hn => rfl
    | stanza hs hq hc hsm hk => rfl
    | failed hs hq hc => rfl

namespace ConnectedState

variable {sm : Option (SmState ε)} {io : Io ε}

theorem receive_panicked_iff {item : Item ε} : (receive lib sm io item).1 = .panicked ↔
    item = reqItem ∧ ∃ st, sm = some st ∧ st.pendingAcks = usizeMax := by
  constructor
  · intro h
    unfold receive at h
    split at h
    all_goals try cases h
    · split at h
      · cases h
      · split at h <;> cases h
    · split at h
      · cases h
      · split at h
        · rename_i st hm
          exact ⟨rfl,st,rfl,hm⟩
        · cases h
  · rintro ⟨rfl,st,rfl,hm⟩
    show (if st.pendingAcks = usizeMax then _ else _ : Turn (ConnectedEvent ε) × ConnectedState ε × Io ε).1 = _
    rw [if_pos hm]

theorem owed_eq_iff {tx : Tx ε} {m : ℕ} (hm : 0 < m) :
    tx.owed = m ↔ ∃ st, tx.sm = some st ∧ st.pendingAcks = m := by
  unfold Tx.owed
  cases tx.sm with
  | none => exact iff_of_false hm.ne nofun
  | some st => exact ⟨fun h => ⟨st,rfl,h⟩,fun ⟨_,he,h⟩ => by cases he; exact h⟩

/-- A round of a ready session panics where its stanzas do not fit, or where it reads a
request while as many acknowledgements are owed as can be counted. -/
theorem pollReady_panicked_iff {st : SmState ε} (hroom : st.unackedStanzas.length ≤ SmState.maxQueueSize)
    (hclean : io.answers.read.clean) : (pollReady lib (some st) io).1 = .panicked ↔
      SmState.maxQueueSize < st.unackedStanzas.length +
        Write.reached lib io.queue.entries (io.answers.grants - st.pendingReq.toNat) ∨
      (io.answers.read = .next ∧ ∃ down, io.stream.down = reqItem :: down) ∧
        (∀ answer ∈ io.answers.ready, answer.isOk = true) ∧
        st.pendingAcks - (io.answers.ready.length - Write.asked lib st io.queue.entries) = usizeMax := by
  have hpos : 0 < usizeMax := by decide
  have hfull := @Write.pollWritesInner_panicked_iff _ lib ⟨some st,io⟩ st rfl hroom
  have howed := @Write.pollWritesInner_owed_iff _ lib ⟨some st,io⟩ st usizeMax rfl hroom
  have hmoves := (Write.moves_pollWritesInner : PollM.Moves (Write.Writes lib) _ _ _) ⟨some st,io⟩ trivial
  unfold pollReady
  rw [← hfull]
  generalize Write.pollWritesInner lib ⟨some st,io⟩ = r at *
  obtain ⟨progress,t⟩ := r
  cases progress with
  | panicked => exact iff_of_true rfl (.inl rfl)
  | done value =>
    refine iff_of_false nofun ?_
    rintro (hp | ⟨-,hov⟩)
    · cases hp
    · obtain ⟨t',he,-⟩ := (howed nofun hpos).mpr hov
      cases he
  | failed e =>
    refine iff_of_false nofun ?_
    rintro (hp | ⟨-,hov⟩)
    · cases hp
    · obtain ⟨t',he,-⟩ := (howed nofun hpos).mpr hov
      cases he
  | pending =>
    have hw := (hmoves.resolve_left nofun).1
    have hread : t.io.answers.read = io.answers.read := read_of_writes hw
    have hdown : t.io.stream.down = io.stream.down := down_of_writes hw
    have hov : (∀ answer ∈ io.answers.ready, answer.isOk = true) ∧
        st.pendingAcks - (io.answers.ready.length - Write.asked lib st io.queue.entries) = usizeMax ↔
        t.owed = usizeMax :=
      (howed nofun hpos).symm.trans ⟨fun ⟨_,he,ho⟩ => by cases he; exact ho,fun ho => ⟨t,rfl,ho⟩⟩
    rw [hov,owed_eq_iff hpos,← hread,← hdown]
    rw [← hread] at hclean
    obtain ⟨sm',⟨⟨up,down⟩,queue,tokens,⟨ready,flush,read,deadline⟩⟩⟩ := t
    cases read with
    | pending => exact iff_of_false nofun (by rintro (hp | ⟨⟨hp,-⟩,-⟩) <;> cases hp)
    | eof =>
      refine receive_panicked_iff.trans (iff_of_false (fun h => ?_) ?_)
      · cases h.1
      · rintro (hp | ⟨⟨hp,-⟩,-⟩) <;> cases hp
    | item item =>
      refine receive_panicked_iff.trans (iff_of_false (fun h => ?_) ?_)
      · obtain rfl : item = reqItem := h.1
        cases hclean
      · rintro (hp | ⟨⟨hp,-⟩,-⟩) <;> cases hp
    | next =>
      cases down with
      | nil => exact iff_of_false nofun (by rintro (hp | ⟨⟨-,_,hp⟩,-⟩) <;> cases hp)
      | cons item down =>
        refine receive_panicked_iff.trans ⟨fun ⟨he,hst⟩ => ?_,?_⟩
        · exact .inr ⟨⟨rfl,down,congrArg (· :: down) he⟩,hst⟩
        · rintro (hp | ⟨⟨-,_,hp⟩,hst⟩)
          · cases hp
          · exact ⟨(List.cons.inj hp).1,hst⟩

end ConnectedState

namespace NegotiationState

variable {io io' : Io ε} {state next : NegotiationState ε}

theorem giveUp_not_panicked {phase : String} {sm : Option (SmState ε)}
    {item : Except ReadError (XmppStreamElement ε)} :
    (giveUp lib phase sm state io item).1 ≠ .panicked := by
  unfold giveUp
  split <;> nofun

theorem receiveBind_not_panicked {smSupported : Bool} {item : Except ReadError (XmppStreamElement ε)} :
    (receiveBind lib smSupported io item).1 ≠ .panicked := by
  unfold receiveBind
  dsimp only
  split
  · split
    · split
      · split <;> nofun
      · nofun
    · nofun
  · nofun
  · exact giveUp_not_panicked

theorem receiveSm_panicked {sm : Option (SmState ε)} {jid : Option Jid}
    {item : Except ReadError (XmppStreamElement ε)} (h : (receiveSm lib sm jid io item).1 = .panicked) :
    jid = none ∧ (sm = none ∨ ∃ enabled, item = .ok (.sm (.enabled enabled))) := by
  unfold receiveSm at h
  dsimp only at h
  split at h
  · cases h
  · rename_i enabled
    split at h
    · exact ⟨rfl,.inr ⟨enabled,rfl⟩⟩
    · cases h
  · split at h
    · split at h <;> cases h
    · cases h
  · split at h
    · cases h
    · split at h
      · exact ⟨rfl,.inl rfl⟩
      · cases h
  · exact absurd h giveUp_not_panicked

theorem whenReady_not_panicked {sm : Option (SmState ε)}
    {send : Io ε → Advance ε × NegotiationState ε × Io ε} (hs : ∀ io, (send io).1 ≠ .panicked) :
    (whenReady sm state io send).1 ≠ .panicked := by
  unfold whenReady
  split
  · nofun
  · nofun
  · exact hs _

/-- Where the peer answers what it was asked, a negotiation does not panic. -/
theorem advance_not_panicked {inbox : List (Stanza ε)} {peer : Peer ε} {lost : List (QueueEntry ε)}
    {later : List (Item ε)} {jid : Jid} (hclean : io.answers.read.clean)
    (hw : Wired False inbox peer (.negotiating state) io.stream lost later) :
    (state.advance lib jid io).1 ≠ .panicked := by
  cases state with
  | sendBindRequest smSupported => exact whenReady_not_panicked fun _ => by simp
  | sendSmRequest sm boundJid => exact whenReady_not_panicked fun _ => by simp
  | receiveBindResponse smSupported =>
    simp only [advance,whenRead]
    split
    · simp
    · split
      · simp
      · exact receiveBind_not_panicked
  | receiveSmResponse sm boundJid =>
    simp only [advance,whenRead]
    split
    · simp
    · have hsm : boundJid = none → sm ≠ none := by
        rintro rfl rfl
        cases hw
      obtain ⟨⟨up,down⟩,queue,tokens,⟨ready,flush,read,deadline⟩⟩ := io
      intro h
      cases read with
      | pending => cases h
      | eof =>
        obtain ⟨hjid,hn | ⟨enabled,he⟩⟩ := receiveSm_panicked h
        · exact hsm hjid hn
        · cases he
      | item item =>
        obtain ⟨hjid,hn | ⟨enabled,he⟩⟩ := receiveSm_panicked h
        · exact hsm hjid hn
        · rcases item with e | e | element
          · cases he
          · cases hclean
          · cases hclean
      | next =>
        cases down with
        | nil => cases h
        | cons item down =>
          obtain ⟨rfl,hn | ⟨enabled,he⟩⟩ := receiveSm_panicked h
          · exact hsm rfl hn
          · cases hw with
            | refusedResume hl => exact hl
            | resumed => cases he

end NegotiationState

theorem NegotiationState.new_error_iff {features : StreamFeatures} {sm : Option (SmState ε)} :
    (∃ error, NegotiationState.new features sm = .error error) ↔
      ¬ (sm.isSome ∧ features.streamManagement) ∧ features.bind = false := by
  unfold NegotiationState.new
  by_cases hsm : sm.isSome ∧ features.streamManagement
  · rw [if_pos hsm]
    exact iff_of_false nofun fun h => h.1 hsm
  · rw [if_neg hsm]
    cases hb : features.bind with
    | false => exact iff_of_true ⟨_,rfl⟩ ⟨hsm,rfl⟩
    | true => exact iff_of_false nofun nofun

theorem WorkerStream.turn_connected_iff {substate : ConnectedState ε} {features : StreamFeatures}
    {identity : Jid} {io : Io ε} : ((connected substate features identity).turn lib io).1 = .panicked ↔
      (substate.poll lib identity features io).1 = .panicked := by
  unfold turn
  dsimp only
  generalize substate.poll lib identity features io = r
  obtain ⟨turn,substate,io⟩ := r
  cases turn with
  | event event =>
    cases event with
    | worker event => cases event <;> exact iff_of_false nofun nofun
    | _ => exact iff_of_false nofun nofun
  | panicked => exact iff_of_true rfl rfl
  | _ => exact iff_of_false nofun nofun

theorem ConnectedState.pollNegotiation_panicked {jid : Jid} {features : StreamFeatures}
    {substate : NegotiationState ε} {io : Io ε}
    (h : (pollNegotiation lib jid features substate io).1 = .panicked) :
    (substate.advance lib jid io).1 = .panicked := by
  unfold pollNegotiation at h
  generalize substate.advance lib jid io = r at h
  obtain ⟨advance,substate,io⟩ := r
  cases advance with
  | panicked => rfl
  | pending => cases h
  | next stanza => cases stanza <;> cases h
  | done result => cases result <;> cases h

theorem ConnectedState.pollStreamError_not_panicked {streamError : Option StreamError}
    {ioError : Option OpaqueIoError} {io : Io ε} :
    (pollStreamError lib streamError ioError io).1 ≠ .panicked := by
  have hflush : ∀ {e ioError} {io : Io ε}, (pollStreamError.flush lib e ioError io).1 ≠ .panicked := by
    intro e ioError io
    unfold pollStreamError.flush
    split <;> nofun
  unfold pollStreamError
  dsimp only
  split
  · nofun
  · split
    · exact hflush
    · split
      · nofun
      · nofun
      · exact hflush

def Outcome.isPanicked {α : Type} : Outcome α → Bool
  | .panicked => true
  | _ => false

namespace System

variable {s s' : System ε} {answers : Answers ε}

/-- A write pass gets to more stanzas than the session can keep. -/
def Full (lib : Library ε) (s : System ε) (answers : Answers ε) : Prop :=
  ∃ sm features identity, s.worker.stream = .connected (.ready (some sm)) features identity ∧
    SmState.maxQueueSize < sm.unackedStanzas.length +
      Write.reached lib s.worker.transmitQueue.entries (answers.grants - sm.pendingReq.toNat)

/-- A request comes in while as many acknowledgements are owed as can be counted. -/
def Overdue (lib : Library ε) (s : System ε) (answers : Answers ε) : Prop :=
  ∃ sm features identity, s.worker.stream = .connected (.ready (some sm)) features identity ∧
    (answers.read = .next ∧ ∃ down, s.net.down = reqItem :: down) ∧
    (∀ answer ∈ answers.ready, answer.isOk = true) ∧
    sm.pendingAcks - (answers.ready.length - Write.asked lib sm s.worker.transmitQueue.entries) = usizeMax

/-- A connection is there on which no resource can be bound, and no session to resume. -/
def Unbindable (s : System ε) : Prop :=
  ∃ features identity, s.worker.stream = .connecting (.filled (.ok (features,identity))) none ∧
    features.bind = false

/-- What a round of the worker does not survive. -/
def Overtaxed (lib : Library ε) (s : System ε) (answers : Answers ε) : Prop :=
  s.Unbindable ∨ s.Full lib answers ∨ s.Overdue lib answers

/-- The state after rounds each of which asks for another one. -/
def rounds (lib : Library ε) : List (Answers ε) → System ε → Option (System ε)
  | [],s => some s
  | answers :: rest,s =>
    match s.worker.stream.turn lib { s.io with answers := answers } with
    | (.again,stream,io) => rounds lib rest (s.put stream io)
    | _ => none

/-- What the worker does not survive in a steady run. -/
def Overtaxes (lib : Library ε) (s : System ε) : Action ε → Prop
  | .poll answers => s.worker.phase = .running ∧ ∃ before answer after s',
      answers = before ++ answer :: after ∧ s.rounds lib before = some s' ∧ s'.Overtaxed lib answer
  | .drive answers => (∃ event after, s.worker.phase = .sending event after) ∧ s.Full lib answers
  | _ => False

theorem turn_filled_panicked_iff {features : StreamFeatures} {identity : Jid} {sm : Option (SmState ε)}
    (hstream : s.worker.stream = .connecting (.filled (.ok (features,identity))) sm)
    (hmanaged : features.streamManagement = true) :
    (s.worker.stream.turn lib { s.io with answers := answers }).1 = .panicked ↔ s.Overtaxed lib answers := by
  have hturn : (s.worker.stream.turn lib { s.io with answers := answers }).1 = .panicked ↔
      ∃ error, NegotiationState.new features sm = .error error := by
    rw [hstream]
    unfold WorkerStream.turn
    dsimp only
    cases NegotiationState.new features sm with
    | error error => exact iff_of_true rfl ⟨error,rfl⟩
    | ok substate => exact iff_of_false nofun nofun
  rw [hturn,NegotiationState.new_error_iff]
  constructor
  · rintro ⟨hsm,hb⟩
    cases sm with
    | none => exact .inl ⟨features,identity,hstream,hb⟩
    | some sm => exact absurd ⟨rfl,hmanaged⟩ hsm
  · rintro (⟨_,_,h,hb⟩ | ⟨_,_,_,h,-⟩ | ⟨_,_,_,h,-⟩) <;> cases hstream.symm.trans h
    exact ⟨nofun,hb⟩

theorem turn_panicked_iff {names : List (Stanza ε)} {lost : List (QueueEntry ε)} {later : List (Item ε)}
    (hs : Invariant lib False names s lost later) (hrun : s.worker.phase = .running)
    (hclean : answers.read.clean) :
    (s.worker.stream.turn lib { s.io with answers := answers }).1 = .panicked ↔ s.Overtaxed lib answers := by
  have ha := (hs.alive id).stream
  have hw : Wired False s.inbox s.peer s.worker.view s.net lost later := hs.together
  have hview : s.worker.view = s.worker.stream.view := by
    unfold StanzaStreamWorker.view
    rw [hrun]
  rw [hview] at hw
  generalize hstream : s.worker.stream = stream at ha hw ⊢
  match stream with
  | .terminated => cases ha
  | .connecting .dropped sm => cases ha
  | .connecting (.filled (.error error)) sm => cases ha
  | .connecting .unassigned sm =>
    refine iff_of_false nofun ?_
    rintro (⟨_,_,h,-⟩ | ⟨_,_,_,h,-⟩ | ⟨_,_,_,h,-⟩) <;> cases hstream.symm.trans h
  | .connecting .waiting sm =>
    refine iff_of_false nofun ?_
    rintro (⟨_,_,h,-⟩ | ⟨_,_,_,h,-⟩ | ⟨_,_,_,h,-⟩) <;> cases hstream.symm.trans h
  | .connecting (.filled (.ok (features,identity))) sm =>
    have hmanaged : features.streamManagement = true := by
      generalize s.net = net at hw
      cases hw with
      | opened hc hf => exact hf.resolve_left id
      | openedHeld h hc hf => exact hf.resolve_left id
    rw [← hstream]
    exact turn_filled_panicked_iff hstream hmanaged
  | .connected substate features identity =>
    rw [WorkerStream.turn_connected_iff]
    have hnot : (∀ sm, substate ≠ .ready (some sm)) → ¬ s.Overtaxed lib answers := by
      rintro hne (⟨_,_,h,-⟩ | ⟨sm,_,_,h,-⟩ | ⟨sm,_,_,h,-⟩) <;> cases hstream.symm.trans h
      · exact hne sm rfl
      · exact hne sm rfl
    cases substate with
    | negotiating substate =>
      refine iff_of_false (fun h => absurd (ConnectedState.pollNegotiation_panicked h) ?_) (hnot nofun)
      exact NegotiationState.advance_not_panicked hclean hw
    | sendStreamError streamError ioError =>
      exact iff_of_false ConnectedState.pollStreamError_not_panicked (hnot nofun)
    | failed error sm => exact iff_of_false nofun (hnot nofun)
    | remoteShutdown sm => exact iff_of_false nofun (hnot nofun)
    | localShutdown txClosed rx => cases ha
    | localShutdownComplete => cases ha
    | ready sm =>
      cases hw with
      | readyPlain hl => exact hl.elim
      | @ready sm _ _ _ _ h hc hm =>
        refine (ConnectedState.pollReady_panicked_iff h.small hclean).trans ⟨?_,?_⟩
        · rintro (hfull | hover)
          · exact .inr (.inl ⟨sm,features,identity,hstream,hfull⟩)
          · exact .inr (.inr ⟨sm,features,identity,hstream,hover⟩)
        · rintro (⟨_,_,h,-⟩ | ⟨_,_,_,h,hfull⟩ | ⟨_,_,_,h,hover⟩) <;> cases hstream.symm.trans h
          · exact .inl hfull
          · exact .inr hover

theorem pollDuplex_fst (stream : WorkerStream ε) (io : Io ε) (last : Answers ε) (answers : List (Answers ε)) :
    (stream.pollDuplex lib answers { io with answers := last }).1 = (stream.pollDuplex lib answers io).1 := by
  cases answers <;> rfl

theorem stray_of_clean {read : Read ε} (h : read.clean) : read.stray := by
  match read with
  | .pending => rfl
  | .eof => rfl
  | .next => rfl
  | .item (.error .softTimeout) => rfl
  | .item (.error (.hardError e)) => rfl
  | .item (.error .streamFooterReceived) => rfl
  | .item (.error (.parseError e)) => rfl
  | .item (.ok element) => cases h

theorem step_again {answer : Answers ε} {stream : WorkerStream ε} {io : Io ε}
    (hrun : s.worker.phase = .running) (hclean : answer.read.clean)
    (h : s.worker.stream.turn lib { s.io with answers := answer } = (.again,stream,io)) :
    s.step lib (.poll [answer]) = .moved (s.put stream io) := by
  have hpoll : s.poll lib [answer] = .moved (s.put stream io) := by
    simp only [poll,WorkerStream.pollDuplex,h]
  simp only [step,hrun,List.all_cons,List.all_nil,Bool.and_true,stray_of_clean hclean,if_true,hpoll]

theorem pollDuplex_panicked_iff {names : List (Stanza ε)} {lost : List (QueueEntry ε)}
    {later : List (Item ε)} {answers : List (Answers ε)} (hs : Invariant lib False names s lost later)
    (hrun : s.worker.phase = .running) (ho : s.Open) (hclean : answers.all (·.read.clean)) :
    (s.worker.stream.pollDuplex lib answers s.io).1 = .panicked ↔ ∃ before answer after s',
      answers = before ++ answer :: after ∧ s.rounds lib before = some s' ∧ s'.Overtaxed lib answer := by
  induction answers generalizing s lost later with
  | nil =>
    refine iff_of_false nofun ?_
    rintro ⟨before,answer,after,s',he,-⟩
    cases before <;> cases he
  | cons answer answers ih =>
    rw [List.all_cons,Bool.and_eq_true] at hclean
    have hturn := turn_panicked_iff hs hrun hclean.1
    have hhead : (∃ before answer' after s', answer :: answers = before ++ answer' :: after ∧
        s.rounds lib before = some s' ∧ s'.Overtaxed lib answer') ↔ s.Overtaxed lib answer ∨
        ∃ before answer' after s', answers = before ++ answer' :: after ∧
          s.rounds lib (answer :: before) = some s' ∧ s'.Overtaxed lib answer' := by
      constructor
      · rintro ⟨before,answer',after,s',he,hr,ht⟩
        cases before with
        | nil =>
          cases he
          cases hr
          exact .inl ht
        | cons first before =>
          obtain ⟨rfl,rfl⟩ := List.cons.inj he
          exact .inr ⟨before,answer',after,s',rfl,hr,ht⟩
      · rintro (ht | ⟨before,answer',after,s',rfl,hr,ht⟩)
        · exact ⟨[],answer,answers,s,rfl,rfl,ht⟩
        · exact ⟨answer :: before,answer',after,s',rfl,hr,ht⟩
    rw [hhead,← hturn]
    unfold WorkerStream.pollDuplex
    simp only [rounds]
    generalize hr : s.worker.stream.turn lib { s.io with answers := answer } = r
    obtain ⟨event,stream,io⟩ := r
    cases event with
    | panicked => exact iff_of_true rfl (.inl rfl)
    | pending => exact iff_of_false nofun (by rintro (h | ⟨_,_,_,_,_,h,_⟩) <;> cases h)
    | event event => exact iff_of_false nofun (by rintro (h | ⟨_,_,_,_,_,h,_⟩) <;> cases h)
    | again =>
      have hstep := step_again hrun hclean.1 hr
      have hsteady : Action.clean (.poll [answer]) = true := by
        show [answer].all (·.read.clean) = true
        rw [List.all_cons,hclean.1]
        rfl
      obtain ⟨lost',later',hs',-⟩ := invariant_step hs (.inr ⟨hsteady,ho⟩) hstep
      have hclosed : io.queue.closed = false :=
        ((WorkerStream.turn_lasting (hs.alive id).stream ho.2 hr).resolve_left nofun).closed.trans ho.2
      have ih := @ih (s.put stream io) lost' later' ((List.append_nil names) ▸ hs') hrun ⟨ho.1,hclosed⟩ hclean.2
      refine Iff.trans ?_ (ih.trans (or_iff_right nofun).symm)
      rw [← pollDuplex_fst stream io .none]
      exact Iff.rfl

theorem poll_panicked_iff {names : List (Stanza ε)} {lost : List (QueueEntry ε)} {later : List (Item ε)}
    {answers : List (Answers ε)} (hs : Invariant lib False names s lost later) (ho : s.Open) :
    s.poll lib answers = .panicked ↔ (s.worker.stream.pollDuplex lib answers s.io).1 = .panicked := by
  have ha := (hs.alive id).stream
  have hlasting := fun event stream io =>
    @WorkerStream.pollDuplex_lasting _ lib s.io io s.worker.stream stream event answers ha ho.2
  unfold poll
  generalize s.worker.stream.pollDuplex lib answers s.io = r at hlasting ⊢
  obtain ⟨event,stream,io⟩ := r
  cases event with
  | panicked => exact iff_of_true rfl rfl
  | pending => exact iff_of_false nofun nofun
  | again => exact iff_of_false nofun nofun
  | event event =>
    refine iff_of_false (fun h => ?_) nofun
    have hl := (hlasting _ _ _ rfl).resolve_left nofun
    have hhandled : ∃ worker, (s.put stream io).worker.handle lib event = some worker := by
      cases event with
      | none => exact ⟨_,rfl⟩
      | some event =>
        cases event with
        | reconnectAborted => exact absurd rfl hl.notAborted
        | softTimeout =>
          unfold StanzaStreamWorker.handle
          dsimp only
          split <;> exact ⟨_,rfl⟩
        | _ => exact ⟨_,rfl⟩
    obtain ⟨worker,hw⟩ := hhandled
    simp only [hw] at h
    cases h

theorem drive_panicked_iff {names : List (Stanza ε)} {lost : List (QueueEntry ε)} {later : List (Item ε)}
    {event : Event ε} {after : After} (hs : Invariant lib False names s lost later)
    (hphase : s.worker.phase = .sending event after) :
    s.drive lib answers = .panicked ↔ s.Full lib answers := by
  have hw : Wired False s.inbox s.peer s.worker.view s.net lost later := hs.together
  have hview : s.worker.view = s.worker.stream.view := by
    have hp := (hs.alive id).phase
    unfold StanzaStreamWorker.view
    rw [hphase] at hp ⊢
    cases after with
    | again => rfl
    | reconnect => rfl
    | stop => exact absurd rfl hp.1
  rw [hview] at hw
  have hnone : s.drive lib answers = .panicked ↔
      s.worker.stream.pollWrites lib { s.io with answers := answers } = none := by
    unfold drive
    cases s.worker.stream.pollWrites lib { s.io with answers := answers } with
    | none => exact iff_of_true rfl rfl
    | some moved => exact iff_of_false nofun nofun
  rw [hnone]
  unfold Full
  generalize s.worker.stream = stream at hw ⊢
  cases stream with
  | terminated => exact iff_of_false nofun (by rintro ⟨_,_,_,h,-⟩; cases h)
  | connecting slot sm => exact iff_of_false nofun (by rintro ⟨_,_,_,h,-⟩; cases h)
  | connected substate features identity =>
    have hmap : (WorkerStream.connected substate features identity).pollWrites lib
        { s.io with answers := answers } = none ↔
        substate.pollWrites lib { s.io with answers := answers } = none := Option.map_eq_none_iff
    rw [hmap]
    cases substate with
    | ready sm =>
      cases hw with
      | readyPlain hl => exact hl.elim
      | @ready sm _ _ _ _ h hc hm =>
        have hpass := @Write.pollWritesInner_panicked_iff _ lib ⟨some sm,{ s.io with answers := answers }⟩ sm
          rfl h.small
        have hwrites : (ConnectedState.ready (some sm)).pollWrites lib { s.io with answers := answers } =
            none ↔ (Write.pollWritesInner lib ⟨some sm,{ s.io with answers := answers }⟩).1 = .panicked := by
          unfold ConnectedState.pollWrites
          dsimp only
          generalize Write.pollWritesInner lib ⟨some sm,{ s.io with answers := answers }⟩ = r
          obtain ⟨progress,tx⟩ := r
          cases progress with
          | panicked => exact iff_of_true rfl rfl
          | _ => exact iff_of_false nofun nofun
        rw [hwrites,hpass]
        constructor
        · exact fun hlt => ⟨sm,features,identity,rfl,hlt⟩
        · rintro ⟨_,_,_,he,hlt⟩
          cases he
          exact hlt
    | _ => exact iff_of_false nofun (by rintro ⟨_,_,_,h,-⟩; cases h)

theorem fill_not_panicked (s : System ε) (slot : Slot) : s.fill slot ≠ .panicked := by
  unfold fill
  split <;> nofun

/-- What an action of a steady run panics at. -/
theorem step_panicked_iff {names : List (Stanza ε)} {lost : List (QueueEntry ε)} {later : List (Item ε)}
    {action : Action ε} (hs : Invariant lib False names s lost later) (ho : s.Open)
    (hclean : action.clean) : s.step lib action = .panicked ↔ s.Overtaxes lib action := by
  cases action with
  | poll answers =>
    have hstray : answers.all (·.read.stray) = true :=
      List.all_eq_true.mpr fun answer hm => stray_of_clean (List.all_eq_true.mp hclean answer hm)
    by_cases hrun : s.worker.phase = .running
    · have hstep : s.step lib (.poll answers) = s.poll lib answers := by
        simp only [step,hrun,hstray,if_true]
      rw [hstep,poll_panicked_iff hs ho,pollDuplex_panicked_iff hs hrun ho hclean]
      exact (and_iff_right hrun).symm
    · refine iff_of_false (fun h => ?_) fun h => hrun h.1
      unfold step at h
      dsimp only at h
      split at h
      · rename_i hp
        exact hrun hp
      · cases h
  | drive answers =>
    unfold step
    dsimp only
    split
    · rename_i event after hphase
      rw [drive_panicked_iff hs hphase]
      exact (and_iff_right ⟨event,after,hphase⟩).symm
    · rename_i hphase
      exact iff_of_false nofun fun ⟨⟨event,after,h⟩,_⟩ => hphase event after h
  | submit stanza =>
    refine iff_of_false ?_ id
    unfold step
    dsimp only
    split
    · nofun
    · split <;> nofun
  | accept =>
    refine iff_of_false ?_ id
    unfold step
    dsimp only
    split <;> nofun
  | requestReconnect =>
    refine iff_of_false ?_ id
    unfold step
    dsimp only
    split <;> nofun
  | connect features identity =>
    refine iff_of_false ?_ id
    have hf := fill_not_panicked s (.filled (.ok (features,identity)))
    unfold step
    dsimp only
    generalize s.fill (.filled (.ok (features,identity))) = outcome at hf ⊢
    cases outcome with
    | panicked => exact absurd rfl hf
    | _ => nofun
  | peer action =>
    refine iff_of_false ?_ id
    unfold step
    dsimp only
    split <;> nofun
  | closeQueue => cases hclean
  | closeFrontend => cases hclean
  | giveUp => cases hclean
  | connectFails error => cases hclean
  | connectorDrops => cases hclean

variable {actions : List (Action ε)} {ctr : BitVec 64}

/-- Where the session can always go on the worker does not stop, nor does it tell the
frontend that it has to, and it panics exactly at what overtaxes it. -/
theorem steady_goes_on (h : run lib steady actions (start ctr) = some s) :
    GoesOn s.worker.phase ∧ s.worker.stream.alive ∧ (∀ error, .stream (.fatal error) ∉ s.events) ∧
    ∀ action, steady s action → (s.step lib action = .panicked ↔ s.Overtaxes lib action) := by
  obtain ⟨lost,later,hs⟩ := invariant_steady h
  have ha := hs.alive id
  refine ⟨ha.phase,ha.stream,ha.events,fun action hsteady => ?_⟩
  unfold steady at hsteady
  rw [Bool.and_eq_true,decide_eq_true_eq] at hsteady
  exact step_panicked_iff hs hsteady.2 hsteady.1

theorem steady_goes_on_resumption : ∃ s,
    run withoutPresence steady (interrupted ++ resumption) (start 0) = some s ∧
    GoesOn s.worker.phase ∧ s.worker.stream.alive ∧ (∀ error, .stream (.fatal error) ∉ s.events) ∧
    ∀ action, steady s action →
      (s.step withoutPresence action = .panicked ↔ s.Overtaxes withoutPresence action) := by
  obtain ⟨s,hs⟩ := exists_resumption
  exact ⟨s,hs,steady_goes_on hs⟩

example : (run withoutPresence steady [.connect ⟨false,true⟩ ⟨"romeo@example.org",none⟩] (start 0)).map
    (fun s => (s.step withoutPresence (.poll [ready])).isPanicked) = some true := by decide +kernel

end System

end MindChat.StanzaStream
