import MindChat.ClientWorker

/-! Requests and their responses: the tracker that a client shares among all of its requests
serves each of them as if it were alone. -/

namespace MindChat.StanzaStream

variable {ε : Type}

inductive IqAction (ε : Type)
  /-- A stream was bound to this account. -/
  | account (jid : Jid)
  | request (sender recipient : Option Jid) (request : IqRequest ε) (id : String)
  | incoming (iq : Iq ε)
  /-- The token of a request is dropped, or done with. -/
  | drop (token : ℕ)

def IqAction.id? : IqAction ε → Option String
  | .request _ _ _ id => some id
  | _ => none

/-- The tracker with the keys that its tokens hold. -/
structure Tracking (ε : Type) where
  tracker : IqResponseTracker ε
  tokens : List IqKey

namespace Tracking

def new : Tracking ε := ⟨.new,[]⟩

/-- The state after an action, with the stanza that goes out or on; `none` is a panic. -/
def step (t : Tracking ε) : IqAction ε → Option (Tracking ε × Option (Iq ε))
  | .account jid => some ({ t with tracker := t.tracker.setAccountJid jid },none)
  | .request sender recipient request id =>
    match t.tracker.allocateIqHandle sender recipient request id with
    | some (iq,key,tracker) => some (⟨tracker,t.tokens ++ [key]⟩,some iq)
    | none => none
  | .incoming iq =>
    match t.tracker.handleIq iq with
    | (tracker,out) => some ({ t with tracker := tracker },out)
  | .drop token =>
    match t.tokens[token]? with
    | some key => some ({ t with tracker := t.tracker.release key },none)
    | none => some (t,none)

def run : Tracking ε → List (IqAction ε) → Option (Tracking ε × List (Iq ε))
  | t,[] => some (t,[])
  | t,action :: actions =>
    match t.step action with
    | none => none
    | some (t,out) =>
      match t.run actions with
      | none => none
      | some (t,outs) => some (t,out.toList ++ outs)

end Tracking

/-- What an event of the stream is to the tracker. -/
def Event.iqAction? : Event ε → Option (IqAction ε)
  | .stanza (.iq iq) => some (.incoming iq)
  | .stream (.reset boundJid _) => some (.account { boundJid with resource := none })
  | _ => none

/-- The worker of the client does to its tracker what such an action does. -/
theorem ClientWorker.run_of_handleEvent {w w' : ClientWorker ε} {event : Event ε}
    {sent : Option (TokioXmppEvent ε)} (h : w.handleEvent event = some (w',sent))
    (tokens : List IqKey) : ∃ out, (Tracking.mk w.iqResponseTracker tokens).run
      event.iqAction?.toList = some (⟨w'.iqResponseTracker,tokens⟩,out) := by
  unfold ClientWorker.handleEvent at h
  split at h
  · rename_i iq
    simp only [Event.iqAction?,Option.toList,Tracking.run,Tracking.step]
    split at h
    · rename_i he
      cases h
      rw [he]
      exact ⟨_,rfl⟩
    · rename_i he
      cases h
      rw [he]
      exact ⟨_,rfl⟩
  · rename_i data hne
    cases h
    cases data with
    | iq iq => exact absurd rfl (hne iq)
    | message id content => exact ⟨_,rfl⟩
    | presence id content => exact ⟨_,rfl⟩
  · split at h <;> cases h
    exact ⟨_,rfl⟩
  · split at h <;> cases h
    exact ⟨_,rfl⟩
  · cases h; exact ⟨_,rfl⟩
  · cases h; exact ⟨_,rfl⟩

def Oneshot.isAwaited {α : Type} : Oneshot α → Bool
  | .awaited => true
  | _ => false

structure Request (ε : Type) where
  key : IqKey
  state : Oneshot (IqResponse ε)

namespace Request

def waits (q : Request ε) (key : IqKey) : Bool := q.key = key && q.state.isAwaited

def settle (q : Request ε) (answer : Oneshot (IqResponse ε)) : Request ε :=
  if q.state.isAwaited then { q with state := answer } else q

/-- The first response to its key is for a request. -/
def respond (key : IqKey) (response : IqResponse ε) (q : Request ε) : Request ε :=
  if q.key = key then q.settle (.arrived response) else q

end Request

/-- The account and its requests, each of which looks after itself. -/
structure Requests (ε : Type) where
  account : Option Jid
  requests : List (Request ε)

namespace Requests

def new : Requests ε := ⟨none,[]⟩

def step (r : Requests ε) : IqAction ε → Requests ε × Option (Iq ε)
  | .account jid => ({ r with account := some jid },none)
  | .request sender recipient request id =>
    let recipient := recipient.or r.account
    ({ r with requests := r.requests ++ [⟨(recipient,id),.awaited⟩] },
      some (request.intoIq sender recipient id))
  | .incoming iq =>
    match iq.response with
    | none => (r,some iq)
    | some (sender,recipient,id,response) =>
      let key := (sender.or r.account,id)
      ({ r with requests := r.requests.map (Request.respond key response) },
        if r.requests.any (·.waits key) then none
        else some (response.intoIq key.1 recipient id))
  | .drop token => ({ r with requests := r.requests.modify token (·.settle .lost) },none)

def run : Requests ε → List (IqAction ε) → Requests ε × List (Iq ε)
  | r,[] => (r,[])
  | r,action :: actions =>
    let (r,out) := r.step action
    let (r,outs) := r.run actions
    (r,out.toList ++ outs)

def ids (r : Requests ε) : List String := r.requests.map (·.key.2)

end Requests

theorem lookup_filter_ne {α β : Type} [BEq α] [LawfulBEq α] [DecidableEq α] (xs : List (α × β))
    (key key' : α) : (xs.filter fun entry => entry.1 ≠ key).lookup key' =
      if key' = key then none else xs.lookup key' := by
  induction xs with
  | nil => split_ifs <;> rfl
  | cons entry xs ih =>
    obtain ⟨k,v⟩ := entry
    by_cases hk : k = key
    · rw [List.filter_cons_of_neg (by simp [hk]),ih]
      split_ifs with h
      · rfl
      · simp only [List.lookup_cons,beq_false_of_ne (hk ▸ h : key' ≠ k)]
    · rw [List.filter_cons_of_pos (by simp [hk])]
      by_cases h : key' = k
      · simp only [List.lookup_cons,h,beq_self_eq_true,if_neg hk]
      · simp only [List.lookup_cons,beq_false_of_ne h,ih]

namespace Request

variable {q : Request ε} {key : IqKey} {answer : Oneshot (IqResponse ε)} {response : IqResponse ε}

@[simp] theorem settle_key : (q.settle answer).key = q.key := by
  unfold settle
  split <;> rfl

theorem settle_of_awaited (h : q.state.isAwaited) : q.settle answer = { q with state := answer } :=
  if_pos h

theorem settle_of_not_awaited (h : q.state.isAwaited = false) : q.settle answer = q :=
  if_neg (by simp [h])

@[simp] theorem respond_key : (q.respond key response).key = q.key := by
  unfold respond
  split
  · exact settle_key
  · rfl

theorem waits_iff : q.waits key ↔ q.key = key ∧ q.state.isAwaited := by
  simp [waits]

theorem respond_of_not_waits (h : q.waits key = false) : q.respond key response = q := by
  unfold respond
  split_ifs with hk
  · exact settle_of_not_awaited (by simpa [waits,hk] using h)
  · rfl

end Request

/-- The tracker finds exactly the requests that still wait. -/
structure Tracks (t : Tracking ε) (r : Requests ε) : Prop where
  account : t.tracker.accountJid = r.account
  tokens : t.tokens = r.requests.map Request.key
  channels : t.tracker.channels = r.requests.map Request.state
  find : ∀ key n, t.tracker.find key = some n ↔ ∃ q, r.requests[n]? = some q ∧ q.waits key

theorem exists_getElem?_concat {α : Type} {xs : List α} {x : α} {p : α → Bool} {m : ℕ} :
    (∃ y, (xs ++ [x])[m]? = some y ∧ p y) ↔
      (∃ y, xs[m]? = some y ∧ p y) ∨ m = xs.length ∧ p x := by
  rcases Nat.lt_trichotomy m xs.length with hm | hm | hm
  · simp [List.getElem?_append_left hm,hm.ne]
  · simp [hm]
  · have hlen : (xs ++ [x]).length ≤ m := by rw [List.length_append]; exact hm
    simp [List.getElem?_eq_none hlen,List.getElem?_eq_none hm.le,hm.ne']

namespace Tracks

variable {t : Tracking ε} {r : Requests ε} {key : IqKey} {n : ℕ} {q : Request ε}

theorem tracks_new : Tracks (.new : Tracking ε) .new :=
  ⟨rfl,rfl,rfl,fun _ _ => ⟨fun h => (by cases h),fun h => (by obtain ⟨q,hq,-⟩ := h; cases hq)⟩⟩

theorem not_waits (h : Tracks t r) (hf : t.tracker.find key = none) (hq : q ∈ r.requests) :
    q.waits key = false := by
  obtain ⟨n,hn⟩ := List.getElem?_of_mem hq
  by_contra hw
  have hfind := (h.find key n).mpr ⟨q,hn,by simpa using hw⟩
  rw [hf] at hfind
  cases hfind

theorem settle (h : Tracks t r) (hf : t.tracker.find key = some n) {answer : Oneshot (IqResponse ε)}
    (ha : answer.isAwaited = false) : Tracks { t with tracker := t.tracker.settle key n answer }
      { r with requests := r.requests.modify n (·.settle answer) } := by
  obtain ⟨q,hq,hw⟩ := (h.find key n).mp hf
  have hget (m : ℕ) : (r.requests.modify n (·.settle answer))[m]? =
      if m = n then some { q with state := answer } else r.requests[m]? := by
    rw [List.getElem?_modify]
    split_ifs with hn hm hm
    · rw [← hn,hq]
      exact congrArg some (Request.settle_of_awaited (Request.waits_iff.mp hw).2)
    · exact absurd hn.symm hm
    · exact absurd hm.symm hn
    · simp
  refine ⟨h.account,?_,?_,?_⟩
  · refine h.tokens.trans (List.ext_getElem? fun m => ?_)
    rw [List.getElem?_map,List.getElem?_map,hget]
    split_ifs with hm
    · rw [hm,hq]; rfl
    · rfl
  · refine List.ext_getElem? fun m => ?_
    show (t.tracker.channels.set n answer)[m]? = _
    have hlt : n < t.tracker.channels.length := by
      rw [h.channels,List.length_map]
      exact (List.getElem?_eq_some_iff.mp hq).1
    rw [List.getElem?_map,hget]
    by_cases hm : m = n
    · rw [hm,List.getElem?_set_self hlt,if_pos rfl]
      rfl
    · rw [List.getElem?_set_ne (Ne.symm hm),if_neg hm,h.channels,List.getElem?_map]
  · intro key' m
    show ((t.tracker.map.filter fun entry => entry.1 ≠ key).lookup key' = some m) ↔ _
    rw [lookup_filter_ne]
    simp only [hget]
    by_cases hk : key' = key
    · rw [if_pos hk]
      refine ⟨fun hf => (by cases hf),fun hex => ?_⟩
      obtain ⟨q',hq',hw'⟩ := hex
      split_ifs at hq' with hm
      · cases hq'
        rw [Request.waits_iff,ha] at hw'
        cases hw'.2
      · have hfind := (h.find key m).mpr ⟨q',hq',hk ▸ hw'⟩
        exact absurd (Option.some.inj (hfind.symm.trans hf)) hm
    · rw [if_neg hk]
      refine (h.find key' m).trans ?_
      by_cases hm : m = n
      · have hne : ∀ {answer : Oneshot (IqResponse ε)}, Request.waits ⟨q.key,answer⟩ key' ≠ true :=
          fun hw' => hk ((Request.waits_iff.mp hw').1.symm.trans (Request.waits_iff.mp hw).1)
        rw [hm,if_pos rfl,hq]
        refine ⟨fun hex => ?_,fun hex => ?_⟩
        all_goals
          obtain ⟨q',hq',hw'⟩ := hex
          cases hq'
          exact absurd hw' hne
      · rw [if_neg hm]

theorem map_respond (h : Tracks t r) (hf : t.tracker.find key = some n)
    (response : IqResponse ε) : r.requests.map (Request.respond key response) =
      r.requests.modify n (·.settle (.arrived response)) := by
  refine List.ext_getElem? fun m => ?_
  rw [List.getElem?_map,List.getElem?_modify]
  cases hq : r.requests[m]? with
  | none => rfl
  | some q =>
    refine congrArg some ?_
    split_ifs with hn
    · obtain ⟨q',hq',hw⟩ := (h.find key n).mp hf
      cases hq'.symm.trans (hn ▸ hq)
      exact if_pos (Request.waits_iff.mp hw).1
    · refine Request.respond_of_not_waits ?_
      by_contra hw
      have hfind := (h.find key m).mpr ⟨q,hq,by simpa using hw⟩
      exact hn (Option.some.inj (hf.symm.trans hfind))

theorem map_respond_self (h : Tracks t r) (hf : t.tracker.find key = none) (response : IqResponse ε) :
    r.requests.map (Request.respond key response) = r.requests :=
  (List.map_congr_left fun _ hq => Request.respond_of_not_waits (h.not_waits hf hq)).trans
    (List.map_id _)

theorem any_waits (h : Tracks t r) :
    r.requests.any (·.waits key) = (t.tracker.find key).isSome := by
  cases hf : t.tracker.find key with
  | none =>
    rw [List.any_eq_false.mpr fun q hq => by simp [h.not_waits hf hq]]
    rfl
  | some n =>
    obtain ⟨q,hq,hw⟩ := (h.find key n).mp hf
    exact List.any_eq_true.mpr ⟨q,List.mem_of_getElem? hq,hw⟩

theorem release (h : Tracks t r) (hids : r.ids.Nodup) {token : ℕ} (hq : r.requests[token]? = some q) :
    Tracks { t with tracker := t.tracker.release q.key }
      { r with requests := r.requests.modify token (·.settle .lost) } := by
  unfold IqResponseTracker.release
  cases hf : t.tracker.find q.key with
  | none =>
    have hw := h.not_waits hf (List.mem_of_getElem? hq)
    have hself : r.requests.modify token (·.settle .lost) = r.requests := by
      refine List.ext_getElem? fun m => ?_
      rw [List.getElem?_modify]
      split_ifs with hm
      · rw [← hm,hq]
        exact congrArg some (Request.settle_of_not_awaited (by simpa [Request.waits] using hw))
      · simp
    rw [hself]
    exact h
  | some n =>
    obtain ⟨q',hq',hw⟩ := (h.find q.key n).mp hf
    have hn : n = token := by
      refine (List.getElem?_inj ?_ hids).mp ?_
      · rw [Requests.ids,List.length_map]
        exact (List.getElem?_eq_some_iff.mp hq').1
      · rw [Requests.ids,List.getElem?_map,List.getElem?_map,hq,hq']
        exact congrArg (fun key => some key.2) (Request.waits_iff.mp hw).1
    rw [← hn]
    exact h.settle hf rfl

theorem request (h : Tracks t r) {id : String} (hid : id ∉ r.ids) (recipient : Option Jid) :
    t.tracker.find (recipient,id) = none ∧ Tracks
      ⟨{ t.tracker with
        map := ((recipient,id),t.tracker.channels.length) :: t.tracker.map
        channels := t.tracker.channels ++ [.awaited] },t.tokens ++ [(recipient,id)]⟩
      { r with requests := r.requests ++ [⟨(recipient,id),.awaited⟩] } := by
  have hnew : ∀ q ∈ r.requests, q.key ≠ (recipient,id) := fun q hq hk =>
    hid (List.mem_map.mpr ⟨q,hq,congrArg Prod.snd hk⟩)
  have hnone : t.tracker.find (recipient,id) = none := by
    cases hf : t.tracker.find (recipient,id) with
    | none => rfl
    | some n =>
      obtain ⟨q,hq,hw⟩ := (h.find _ n).mp hf
      exact absurd (Request.waits_iff.mp hw).1 (hnew q (List.mem_of_getElem? hq))
  have hlen : t.tracker.channels.length = r.requests.length := by rw [h.channels,List.length_map]
  refine ⟨hnone,h.account,?_,?_,fun key m => ?_⟩
  · rw [h.tokens,List.map_append]; rfl
  · rw [h.channels,List.map_append]; rfl
  · show ((((recipient,id),t.tracker.channels.length) :: t.tracker.map).lookup key = some m) ↔ _
    rw [exists_getElem?_concat,← h.find key m,← hlen]
    by_cases hk : key = (recipient,id)
    · rw [hk,hnone,List.lookup_cons,beq_self_eq_true]
      simp [Request.waits,Oneshot.isAwaited,eq_comm]
    · have hw : Request.waits (ε := ε) ⟨(recipient,id),.awaited⟩ key = false := by
        simp [Request.waits,Ne.symm hk]
      rw [List.lookup_cons,beq_false_of_ne hk,hw]
      simp [IqResponseTracker.find]

end Tracks

/-- What the shared tracker does with an action is what the requests do, each by itself. -/
theorem Tracks.step {t : Tracking ε} {r : Requests ε} (h : Tracks t r) {action : IqAction ε}
    (hids : (r.ids ++ action.id?.toList).Nodup) :
    ∃ t', t.step action = some (t',(r.step action).2) ∧ Tracks t' (r.step action).1 := by
  cases action with
  | account jid => exact ⟨_,rfl,rfl,h.tokens,h.channels,h.find⟩
  | request sender recipient request id =>
    have hid : id ∉ r.ids := fun hm =>
      (List.nodup_append.mp hids).2.2 id hm id (List.mem_singleton_self id) rfl
    obtain ⟨hnone,ht⟩ := h.request hid (recipient.or r.account)
    refine ⟨_,?_,ht⟩
    simp only [Tracking.step,IqResponseTracker.allocateIqHandle,h.account,hnone,Requests.step]
  | incoming iq =>
    simp only [Tracking.step,IqResponseTracker.handleIq,Requests.step]
    cases iq.response with
    | none => exact ⟨_,rfl,h⟩
    | some response =>
      obtain ⟨sender,recipient,id,response⟩ := response
      simp only [h.account,h.any_waits]
      cases hf : t.tracker.find (sender.or r.account,id) with
      | none =>
        rw [h.map_respond_self hf]
        exact ⟨_,rfl,h⟩
      | some n =>
        rw [h.map_respond hf]
        exact ⟨_,rfl,h.settle hf rfl⟩
  | drop token =>
    simp only [Tracking.step,Requests.step,h.tokens,List.getElem?_map]
    cases hq : r.requests[token]? with
    | none =>
      refine ⟨_,rfl,?_⟩
      rw [List.modify_eq_self (List.getElem?_eq_none_iff.mp hq)]
      exact h
    | some q =>
      have ht := h.release (List.nodup_append.mp hids).1 hq
      rw [h.tokens] at ht
      exact ⟨_,rfl,ht⟩

namespace Requests

variable {r : Requests ε}

theorem ids_step (action : IqAction ε) : (r.step action).1.ids = r.ids ++ action.id?.toList := by
  cases action with
  | account jid => exact (List.append_nil _).symm
  | request sender recipient request id => exact List.map_append
  | incoming iq =>
    simp only [step]
    cases iq.response with
    | none => exact (List.append_nil _).symm
    | some response =>
      refine Eq.trans ?_ (List.append_nil _).symm
      simp [ids,Function.comp_def]
  | drop token =>
    refine Eq.trans (List.ext_getElem? fun m => ?_) (List.append_nil _).symm
    simp only [step,ids,List.getElem?_map,List.getElem?_modify]
    split_ifs <;> cases r.requests[m]? <;> simp

end Requests

theorem Tracks.run {t : Tracking ε} {r : Requests ε} (h : Tracks t r) {actions : List (IqAction ε)}
    (hids : (r.ids ++ actions.filterMap IqAction.id?).Nodup) :
    ∃ t', t.run actions = some (t',(r.run actions).2) ∧ Tracks t' (r.run actions).1 := by
  induction actions generalizing t r with
  | nil => exact ⟨t,rfl,h⟩
  | cons action actions ih =>
    have hcons : (action :: actions).filterMap IqAction.id? =
        action.id?.toList ++ actions.filterMap IqAction.id? := by
      cases ha : action.id? <;> simp [ha]
    rw [hcons,← List.append_assoc] at hids
    obtain ⟨t₁,hs,h₁⟩ := h.step (List.nodup_append.mp hids).1
    rw [← Requests.ids_step] at hids
    obtain ⟨t₂,hr,h₂⟩ := ih h₁ hids
    refine ⟨t₂,?_,h₂⟩
    simp only [Tracking.run,hs,hr,Requests.run]

/-- Where the ids of the requests differ, the tracker they share never panics, passes on what
the requests pass on, and tells each of them what it would be told if it were alone. -/
theorem requests_served (actions : List (IqAction ε)) (hids : (actions.filterMap IqAction.id?).Nodup) :
    ∃ t, Tracking.new.run actions = some (t,(Requests.new.run actions).2) ∧
      t.tracker.channels = (Requests.new.run actions).1.requests.map Request.state := by
  obtain ⟨t,hr,ht⟩ := Tracks.tracks_new.run hids
  exact ⟨t,hr,ht.channels⟩

/-- Two requests: the second is answered, the first is given up before its response comes. -/
def answeredAndDropped : List (IqAction Unit) :=
  [.request none none (.get ()) "a",.request none none (.set ()) "b",
    .incoming (.result none none "b" none),.drop 0,.incoming (.result none none "a" none)]

theorem requests_served_dropped : ∃ t, Tracking.new.run answeredAndDropped = some (t,
      [.get none none "a" (),.set none none "b" (),.result none none "a" none]) ∧
    t.tracker.channels = [.lost,.arrived (.result none)] :=
  requests_served answeredAndDropped (by decide)

end MindChat.StanzaStream
