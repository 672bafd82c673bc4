import MindChat.ReliableLink
import MindChat.StanzaPipeline
import MindChat.StreamRuns

/-! What worker and peer know of each other: the session that both hold, what is on its
way in both directions, and what was lost with earlier connections. -/

namespace MindChat.StanzaStream

open ReliableLink

variable {ε : Type}

/-- The count of received stanzas that an element reports. -/
def Outgoing.count : Outgoing ε → Option (BitVec 32)
  | .sm (.ack h) => some h
  | .sm (.resume h _) => some h
  | _ => none

def countsOf (up : List (Outgoing ε)) : List (BitVec 32) := up.filterMap Outgoing.count

def Item.ack : Item ε → Option (BitVec 32)
  | .ok (.ok (.sm (.ack h))) => some h
  | _ => none

def acksOf (down : List (Item ε)) : List (BitVec 32) := down.filterMap Item.ack

def stanzasOf (items : List (Item ε)) : List (Stanza ε) := items.filterMap Item.parsed

@[simp] theorem entriesOf_append (xs ys : List (Outgoing ε)) :
    entriesOf (xs ++ ys) = entriesOf xs ++ entriesOf ys := List.filterMap_append

@[simp] theorem countsOf_append (xs ys : List (Outgoing ε)) :
    countsOf (xs ++ ys) = countsOf xs ++ countsOf ys := List.filterMap_append

@[simp] theorem acksOf_append (xs ys : List (Item ε)) : acksOf (xs ++ ys) = acksOf xs ++ acksOf ys :=
  List.filterMap_append

@[simp] theorem stanzasOf_append (xs ys : List (Item ε)) :
    stanzasOf (xs ++ ys) = stanzasOf xs ++ stanzasOf ys := List.filterMap_append

/-- Items of a peer that is not under stream management. -/
def Plain (down : List (Item ε)) : Prop := ∀ item ∈ down, Item.counted item

/-- What the peer sends under stream management: the stanzas from number `c` on,
requests, and reports of its count from `b` on. -/
structure Managed (down : List (Item ε)) (s : Session ε) (b c : ℕ) : Prop where
  items : down.filter Item.counted = s.sent.drop c
  acks : Reports b s.received.length (acksOf down)
  kinds : ∀ item ∈ down, Item.counted item ∨ (∃ h, item = ackItem h) ∨ item = reqItem

/-- Both hold the session `s`, with `up` on its way to the peer and `inbox` handed on. The
worker knows that `b` of its stanzas have arrived and has counted `c` of the peer's. What may
come in on a connection that was left is what was lost first. -/
structure Held (up : List (Outgoing ε)) (inbox : List (Stanza ε)) (peer : Peer ε) (sm : SmState ε)
    (lost : List (QueueEntry ε)) (s : Session ε) (b c : ℕ) : Prop where
  session : peer.session = some s
  base : sm.outboundBase = BitVec.ofNat 32 b
  link : Link.Coherent ⟨b,s.received,entriesOf up,sm.unackedStanzas⟩ lost
  small : sm.unackedStanzas.length ≤ SmState.maxQueueSize
  handled : ∀ entry ∈ s.received, entry ∈ peer.handled
  ctr : sm.inboundCtr = BitVec.ofNat 32 c
  counts : Reports s.acked c (countsOf up)
  sent : c ≤ s.sent.length
  window : s.sent.length - s.acked < 2 ^ 32
  sentCounted : ∀ item ∈ s.sent, Item.counted item
  conn : peer.conn = .managed ∨ peer.conn = .fresh ∧ entriesOf up = []
  apart : lost = [] ∨ entriesOf up = []
  left : under s.stream peer.left <+: lost
  noBind : ∀ resource, .bind resource ∉ up
  got : stanzasOf (s.sent.take c) <:+ inbox

/-- How worker, connection and peer fit together, with the stanzas that were lost on the
way to the peer and the items that are still to come from it. -/
inductive Wired (lossy : Prop) (inbox : List (Stanza ε)) (peer : Peer ε) :
    View ε → XmppStream ε → List (QueueEntry ε) → List (Item ε) → Prop
  | away {net : XmppStream ε} (hu : lossy ∨ entriesOf net.up = []) :
      Wired lossy inbox peer (.away none) net [] []
  | finished {net : XmppStream ε} : Wired lossy inbox peer .finished net [] []
  | opened {features : StreamFeatures} (hc : peer.conn = .fresh)
      (hf : lossy ∨ features.streamManagement) :
      Wired lossy inbox peer (.opened features none) ⟨[],[]⟩ [] []
  | sendBind {smSupported : Bool} (hc : peer.conn = .fresh) (hf : lossy ∨ smSupported) :
      Wired lossy inbox peer (.negotiating (.sendBindRequest smSupported)) ⟨[],[]⟩ [] []
  | askedBind {smSupported : Bool} {resource : Option String} (hc : peer.conn = .fresh)
      (hf : lossy ∨ smSupported) :
      Wired lossy inbox peer (.negotiating (.receiveBindResponse smSupported))
        ⟨[.bind resource],[]⟩ [] []
  | answeredBind {smSupported : Bool} {payload : ε} {plain : List (Item ε)}
      (hc : peer.conn = .bound) (hf : lossy ∨ smSupported) (hp : Plain plain) :
      Wired lossy inbox peer (.negotiating (.receiveBindResponse smSupported))
        ⟨[],bindItem payload :: plain⟩ [] plain
  | sendEnable {jid : Jid} {plain : List (Item ε)} (hc : peer.conn = .bound) (hp : Plain plain) :
      Wired lossy inbox peer (.negotiating (.sendSmRequest none (some jid))) ⟨[],plain⟩ [] plain
  | askedEnable {jid : Jid} {plain : List (Item ε)} {max : Option (BitVec 32)} {resume : Bool}
      (hc : peer.conn = .bound) (hp : Plain plain) :
      Wired lossy inbox peer (.negotiating (.receiveSmResponse none (some jid)))
        ⟨[.sm (.enable max resume)],plain⟩ [] plain
  | refusedEnable {jid : Jid} {pre post : List (Item ε)} (hl : lossy) (hc : peer.conn = .bound)
      (hp : Plain pre) (hq : Plain post) :
      Wired lossy inbox peer (.negotiating (.receiveSmResponse none (some jid)))
        ⟨[],pre ++ failedItem none :: post⟩ [] (pre ++ post)
  | enabled {jid : Jid} {pre post : List (Item ε)} {enabled : Enabled} {s : Session ε}
      (hc : peer.conn = .managed) (hp : Plain pre) (hs : peer.session = some s)
      (hl : under s.stream peer.left = []) (hr : s.received = []) (ha : s.acked = 0)
      (hw : s.sent.length < 2 ^ 32) (hm : Managed post s 0 0) :
      Wired lossy inbox peer (.negotiating (.receiveSmResponse none (some jid)))
        ⟨[],pre ++ enabledItem enabled :: post⟩ [] (pre ++ s.sent)
  | readyPlain {net : XmppStream ε} (hl : lossy) (hc : peer.conn = .bound) (hp : Plain net.down)
      (hu : ∀ element ∈ net.up, ∃ entry, element = .stanza entry) :
      Wired lossy inbox peer (.ready none) net [] net.down
  | awayHeld {sm : SmState ε} {net : XmppStream ε} {lost : List (QueueEntry ε)} {s : Session ε}
      {b c : ℕ} (h : Held net.up inbox peer sm lost s b c) :
      Wired lossy inbox peer (.away (some sm)) net lost (s.sent.drop c)
  | openedHeld {sm : SmState ε} {lost : List (QueueEntry ε)} {s : Session ε} {b c : ℕ}
      {features : StreamFeatures} (h : Held [] inbox peer sm lost s b c) (hc : peer.conn = .fresh)
      (hf : lossy ∨ features.streamManagement) :
      Wired lossy inbox peer (.opened features (some sm)) ⟨[],[]⟩ lost (s.sent.drop c)
  | sendResume {sm : SmState ε} {lost : List (QueueEntry ε)} {s : Session ε} {b c : ℕ}
      (h : Held [] inbox peer sm lost s b c) (hc : peer.conn = .fresh) :
      Wired lossy inbox peer (.negotiating (.sendSmRequest (some sm) none)) ⟨[],[]⟩ lost
        (s.sent.drop c)
  | askedResume {sm : SmState ε} {lost : List (QueueEntry ε)} {s : Session ε} {b c : ℕ}
      (h : Held [.sm (NegotiationState.smRequest (some sm))] inbox peer sm lost s b c)
      (hc : peer.conn = .fresh) :
      Wired lossy inbox peer (.negotiating (.receiveSmResponse (some sm) none))
        ⟨[.sm (NegotiationState.smRequest (some sm))],[]⟩ lost (s.sent.drop c)
  | refusedResume {sm : SmState ε} {lost : List (QueueEntry ε)} {s : Session ε} {b c : ℕ}
      {n : Option (BitVec 32)} (hl : lossy) (h : Held [] inbox peer sm lost s b c)
      (hc : peer.conn = .fresh)
      (hh : n = none ∨ ∃ m, b ≤ m ∧ m ≤ s.received.length ∧ n = some (BitVec.ofNat 32 m)) :
      Wired lossy inbox peer (.negotiating (.receiveSmResponse (some sm) none))
        ⟨[],[failedItem n]⟩ lost (s.sent.drop c)
  | resumed {sm : SmState ε} {lost : List (QueueEntry ε)} {s : Session ε} {b c : ℕ} {id : String}
      {post : List (Item ε)} (h : Held [] inbox peer sm lost s b c) (hc : peer.conn = .managed)
      (hl : under s.stream peer.left = []) (hm : Managed post s s.received.length c) :
      Wired lossy inbox peer (.negotiating (.receiveSmResponse (some sm) none))
        ⟨[],resumedItem s.count id :: post⟩ lost (s.sent.drop c)
  | ready {sm : SmState ε} {net : XmppStream ε} {s : Session ε} {b c : ℕ}
      (h : Held net.up inbox peer sm [] s b c) (hc : peer.conn = .managed)
      (hm : Managed net.down s b c) :
      Wired lossy inbox peer (.ready (some sm)) net [] (s.sent.drop c)

theorem Peer.takeLate_held {p : Peer ε} {s : Session ε} (hs : p.session = some s) (entry : QueueEntry ε)
    (left : List (ℕ × QueueEntry ε)) : p.takeLate s.stream entry left = { p with
      log := p.log ++ [(s.stream,entry)], left := left
      session := some { s with received := s.received ++ [entry] } } := by
  simp [takeLate,hs]

theorem Peer.takeLate_other {p : Peer ε} {s : Session ε} {n : ℕ} (hs : p.session = some s)
    (hn : s.stream ≠ n) (entry : QueueEntry ε) (left : List (ℕ × QueueEntry ε)) :
    p.takeLate n entry left =
      { p with log := p.log ++ [(n,entry)], left := left, session := some s } := by
  simp [takeLate,hs,hn]

/-- What may come in on connections that were left. Of a session that the worker holds it
counts as lost instead, for it will be sent again. -/
def Peer.strays (p : Peer ε) : Bool → List (ℕ × QueueEntry ε)
  | true => p.left.filter fun x => p.session.map Session.stream ≠ some x.1
  | false => p.left

theorem Peer.strays_held {p : Peer ε} {s : Session ε} (hs : p.session = some s) :
    p.strays true = p.left.filter (·.1 ≠ s.stream) := by
  rw [strays,hs]
  exact List.filter_congr fun x _ => by simp [eq_comm]

theorem Peer.strays_idle {p : Peer ε} {s : Session ε} (hs : p.session = some s)
    (hl : under s.stream p.left = []) : p.strays true = p.left := by
  rw [strays_held hs]
  refine List.filter_eq_self.mpr fun x hx => ?_
  have hn : ¬ x.1 = s.stream := under_eq_nil.mp hl x hx
  simp [hn]

theorem Peer.strays_eq {p q : Peer ε} (hl : q.left = p.left)
    (hs : q.session.map Session.stream = p.session.map Session.stream) (held : Bool) :
    q.strays held = p.strays held := by
  cases held with
  | true => rw [strays,strays,hl,hs]
  | false => exact hl

theorem Peer.strays_session {p : Peer ε} {s s' : Session ε} (hs : p.session = some s)
    (hn : s'.stream = s.stream) (held : Bool) :
    Peer.strays { p with session := some s' } held = p.strays held := by
  refine strays_eq ?_ ?_ held
  · rfl
  · rw [hs,Option.map_some,Option.map_some,hn]

theorem Session.stream_learn (s : Session ε) (n : BitVec 32) : (s.learn n).stream = s.stream := rfl

theorem Peer.strays_forget (p : Peer ε) (held : Bool) :
    Peer.strays { p with session := p.session.map ({ · with resumable := false }) } held =
      p.strays held := by
  refine strays_eq ?_ ?_ held
  · rfl
  · exact Option.map_map ..

theorem Peer.stream_takeLate (p : Peer ε) (n : ℕ) (entry : QueueEntry ε) (left : List (ℕ × QueueEntry ε)) :
    (p.takeLate n entry left).session.map Session.stream = p.session.map Session.stream := by
  show (p.session.map _).map _ = _
  rw [Option.map_map]
  refine congrArg (Option.map · p.session) (funext fun s => ?_)
  show Session.stream (if s.stream = n then _ else s) = s.stream
  split <;> rfl

theorem Peer.strays_takeLate {p : Peer ε} {n : ℕ} {entry : QueueEntry ε} {left : List (ℕ × QueueEntry ε)}
    {held : Bool} (ht : takeUnder n p.left = some (entry,left))
    (hn : held = true → p.session.map Session.stream ≠ some n) : ∃ front back,
      p.strays held = front ++ (n,entry) :: back ∧ (p.takeLate n entry left).strays held = front ++ back ∧
        under n front = [] := by
  obtain ⟨front,back,hl,rfl,hf⟩ := takeUnder_eq_some ht
  cases held with
  | false => exact ⟨front,back,hl,rfl,hf⟩
  | true =>
    let kept (x : ℕ × QueueEntry ε) : Bool := p.session.map Session.stream ≠ some x.1
    refine ⟨front.filter kept,back.filter kept,?_,?_,?_⟩
    · rw [strays,hl,List.filter_append,List.filter_cons_of_pos (by simpa using hn rfl)]
    · rw [strays,stream_takeLate]
      exact List.filter_append ..
    · exact List.sublist_nil.mp (hf ▸ List.filter_sublist.filterMap _)

def pipeline (client : Client ε) (peer : Peer ε) (lost : List (QueueEntry ε)) : Pipeline ε where
  handled := peer.log
  strays := peer.strays client.view.sm.isSome
  rest := entriesOf client.net.up ++ lost ++ client.queue
  tokens := client.tokens

namespace Plain

variable {item : Item ε} {down : List (Item ε)}

theorem nil : Plain ([] : List (Item ε)) := fun _ hm => absurd hm List.not_mem_nil

theorem head (h : Plain (item :: down)) : Item.counted item := h item List.mem_cons_self

theorem tail (h : Plain (item :: down)) : Plain down := fun i hi => h i (List.mem_cons_of_mem _ hi)

theorem snoc (h : Plain down) (hi : Item.counted item) : Plain (down ++ [item]) := by
  intro i hm
  rcases List.mem_append.mp hm with hm | hm
  · exact h i hm
  · rw [List.mem_singleton.mp hm]
    exact hi

end Plain

namespace Managed

variable {down : List (Item ε)} {s : Session ε} {b c : ℕ} {item : Item ε}

theorem nil (stream : ℕ) (enabled : Enabled) : Managed ([] : List (Item ε)) (.new stream enabled) 0 0 where
  items := rfl
  acks := Nat.le_refl 0
  kinds _ hm := absurd hm List.not_mem_nil

theorem snoc_counted (h : Managed down s b c) (hc : c ≤ s.sent.length) (hi : Item.counted item) :
    Managed (down ++ [item]) { s with sent := s.sent ++ [item] } b c where
  items := by
    rw [List.filter_append,List.filter_singleton,hi,h.items]
    exact (List.drop_append_of_le_length hc).symm
  acks := by
    have ha : acksOf [item] = [] := by
      match item with
      | .ok (.ok (.stanza stanza)) => rfl
      | .ok (.error (.invalidStanza text e)) => rfl
    rw [acksOf_append,ha,List.append_nil]
    exact h.acks
  kinds i hm := by
    rcases List.mem_append.mp hm with hm | hm
    · exact h.kinds i hm
    · rw [List.mem_singleton.mp hm]
      exact .inl hi

theorem snoc_ack (h : Managed down s b c) : Managed (down ++ [ackItem s.count]) s b c where
  items := by
    rw [List.filter_append,h.items]
    exact List.append_nil _
  acks := by
    rw [acksOf_append]
    exact h.acks.report
  kinds i hm := by
    rcases List.mem_append.mp hm with hm | hm
    · exact h.kinds i hm
    · exact .inr (.inl ⟨_,List.mem_singleton.mp hm⟩)

theorem snoc_req (h : Managed down s b c) : Managed (down ++ [reqItem]) s b c where
  items := by
    rw [List.filter_append,h.items]
    exact List.append_nil _
  acks := by
    rw [acksOf_append]
    exact (List.append_nil (acksOf down)).symm ▸ h.acks
  kinds i hm := by
    rcases List.mem_append.mp hm with hm | hm
    · exact h.kinds i hm
    · exact .inr (.inr (List.mem_singleton.mp hm))

theorem receive (h : Managed down s b c) (entry : QueueEntry ε) :
    Managed down { s with received := s.received ++ [entry] } b c where
  items := h.items
  acks := h.acks.mono (by simp)
  kinds := h.kinds

theorem acknowledge (h : Managed down s b c) (acked : ℕ) : Managed down { s with acked := acked } b c where
  items := h.items
  acks := h.acks
  kinds := h.kinds

theorem forget (h : Managed down s b c) : Managed down { s with resumable := false } b c where
  items := h.items
  acks := h.acks
  kinds := h.kinds

theorem counted (h : Managed (item :: down) s b c) (hi : Item.counted item) :
    s.sent.drop c = item :: down.filter Item.counted := by
  rw [← h.items,List.filter_cons_of_pos hi]

theorem tail {m c' : ℕ} (h : Managed (item :: down) s b c)
    (hi : down.filter Item.counted = s.sent.drop c') (ha : Reports m s.received.length (acksOf down)) :
    Managed down s m c' where
  items := hi
  acks := ha
  kinds i hm := h.kinds i (List.mem_cons_of_mem _ hm)

theorem tail_counted (h : Managed (item :: down) s b c) (hi : Item.counted item)
    (hc : s.sent.drop (c + 1) = down.filter Item.counted) : Managed down s b (c + 1) := by
  refine h.tail hc.symm ?_
  have ha : Item.ack item = none := by
    match item with
    | .ok (.ok (.stanza stanza)) => rfl
    | .ok (.error (.invalidStanza text e)) => rfl
  have hacks := h.acks
  unfold acksOf at hacks
  rwa [List.filterMap_cons_none ha] at hacks

theorem tail_req (h : Managed (reqItem :: down) s b c) : Managed down s b c := h.tail h.items h.acks

/-- A report in front is a count between the last one known and the present one. -/
theorem tail_ack {n : BitVec 32} (h : Managed (ackItem n :: down) s b c)
    (hw : s.received.length - b < 2 ^ 32) : ∃ m, b ≤ m ∧ m ≤ s.received.length ∧
      n = BitVec.ofNat 32 m ∧ Managed down s m c := by
  obtain ⟨m,hb,hm,hn,-,hacks⟩ := h.acks.exact (Nat.le_refl _) hw
  exact ⟨m,hb,hm,hn,h.tail h.items hacks⟩

end Managed

namespace Held

variable {up : List (Outgoing ε)} {inbox : List (Stanza ε)} {peer : Peer ε} {sm : SmState ε}
variable {lost : List (QueueEntry ε)} {s : Session ε} {b c : ℕ}

theorem le_counted (h : Held up inbox peer sm lost s b c) : s.acked ≤ c := h.counts.le

theorem length_lt (h : Held up inbox peer sm lost s b c) : sm.unackedStanzas.length < 2 ^ 31 := by
  have := h.small
  have hmax : SmState.maxQueueSize = 2147483646 := rfl
  omega

theorem received_sub_lt (h : Held up inbox peer sm lost s b c) : s.received.length - b < 2 ^ 32 := by
  have hl : sm.unackedStanzas.length = s.received.length - b + _ + _ := h.link.length
  have := h.length_lt
  omega

theorem notes (h : Held up inbox peer sm lost s b c) (acks : ℕ) (req : Bool) :
    Held up inbox peer { sm with pendingAcks := acks, pendingReq := req } lost s b c := { h with }

theorem request (h : Held up inbox peer sm lost s b c) :
    Held (up ++ [.sm .req]) inbox peer sm lost s b c := { h with
  link := by
    rw [entriesOf_append]
    exact (List.append_nil (entriesOf up)).symm ▸ h.link
  counts := by
    rw [countsOf_append]
    exact (List.append_nil (countsOf up)).symm ▸ h.counts
  conn := by
    rw [entriesOf_append]
    exact (List.append_nil (entriesOf up)).symm ▸ h.conn
  apart := by
    rw [entriesOf_append]
    exact (List.append_nil (entriesOf up)).symm ▸ h.apart
  noBind := fun resource hm => by
    rcases List.mem_append.mp hm with hm | hm
    · exact h.noBind resource hm
    · cases List.mem_singleton.mp hm }

theorem acknowledge (h : Held up inbox peer sm lost s b c) :
    Held (up ++ [.sm (.ack sm.inboundCtr)]) inbox peer sm lost s b c := { h with
  link := by
    rw [entriesOf_append]
    exact (List.append_nil (entriesOf up)).symm ▸ h.link
  counts := by
    rw [countsOf_append,h.ctr]
    exact h.counts.report
  conn := by
    rw [entriesOf_append]
    exact (List.append_nil (entriesOf up)).symm ▸ h.conn
  apart := by
    rw [entriesOf_append]
    exact (List.append_nil (entriesOf up)).symm ▸ h.apart
  noBind := fun resource hm => by
    rcases List.mem_append.mp hm with hm | hm
    · exact h.noBind resource hm
    · cases List.mem_singleton.mp hm }

theorem transmit (h : Held up inbox peer sm [] s b c) (hc : peer.conn = .managed)
    (hroom : sm.unackedStanzas.length < SmState.maxQueueSize) (entry : QueueEntry ε) :
    Held (up ++ [.stanza entry]) inbox peer
      { sm with unackedStanzas := sm.unackedStanzas ++ [entry] } [] s b c := { h with
  link := by
    rw [entriesOf_append]
    exact h.link.send entry
  small := by simpa using Nat.succ_le_of_lt hroom
  counts := by
    rw [countsOf_append]
    exact (List.append_nil (countsOf up)).symm ▸ h.counts
  conn := .inl hc
  apart := .inl rfl
  noBind := fun resource hm => by
    rcases List.mem_append.mp hm with hm | hm
    · exact h.noBind resource hm
    · cases List.mem_singleton.mp hm }

theorem connect (h : Held up inbox peer sm lost s b c)
    (hl : peer.conn = .managed → under s.stream peer.left = []) :
    Held [] inbox (peer.leave up) sm (entriesOf up ++ lost) s b c := { h with
  link := h.link.cut
  counts := h.le_counted
  conn := .inr ⟨rfl,rfl⟩
  apart := .inr rfl
  left := by
    show under s.stream (peer.left ++ _) <+: _
    rw [under_append]
    rcases h.conn with hc | ⟨hc,hu⟩
    · rw [hl hc,Peer.present,hc,h.session]
      show [] ++ under s.stream ((entriesOf up).map (s.stream,·)) <+: _
      rw [under_map,if_pos rfl,List.nil_append]
      exact List.prefix_append _ _
    · rw [Peer.present,hc,hu]
      exact (List.append_nil _).symm ▸ h.left
  noBind := fun _ => List.not_mem_nil }

theorem askResume (h : Held [] inbox peer sm lost s b c) :
    Held [.sm (NegotiationState.smRequest (some sm))] inbox peer sm lost s b c := by
  unfold NegotiationState.smRequest SmState.resumeInfo
  rw [Option.bind_some]
  cases sm.resumption with
  | notResumable => exact { h with noBind := fun _ hm => by cases List.mem_singleton.mp hm }
  | resumable id location => exact { h with
      counts := ⟨c,h.le_counted,h.ctr,Nat.le_refl c⟩
      noBind := fun _ hm => by cases List.mem_singleton.mp hm }

theorem receive {item : Item ε} {rest : List (Item ε)} (h : Held up inbox peer sm lost s b c)
    (hi : s.sent.drop c = item :: rest) :
    Held up (inbox ++ (Item.parsed item).toList) peer sm.received lost s b (c + 1) ∧
      s.sent.drop (c + 1) = rest := by
  have hlt : c < s.sent.length := by
    by_contra hc
    rw [List.drop_of_length_le (by omega)] at hi
    cases hi
  have hget : s.sent[c]? = some item := by
    have := congrArg List.head? hi
    rwa [List.head?_drop] at this
  have htake : s.sent.take (c + 1) = s.sent.take c ++ [item] := by
    rw [List.take_add_one,hget]
    rfl
  refine ⟨{ h with
    ctr := by
      show sm.inboundCtr + 1 = _
      rw [h.ctr]
      exact (SerialNumber.ofNat_succ c).symm
    counts := h.counts.mono (Nat.le_succ c)
    sent := hlt
    got := by
      obtain ⟨pre,hpre⟩ := h.got
      refine ⟨pre,?_⟩
      rw [htake,stanzasOf_append,← List.append_assoc,hpre]
      cases hp : Item.parsed item <;> simp [stanzasOf,hp] },?_⟩
  have := congrArg List.tail hi
  rwa [List.tail_drop] at this

theorem learn {m : ℕ} (h : Held up inbox peer sm lost s b c) (hb : b ≤ m)
    (hm : m ≤ s.received.length) : Held up inbox peer (sm.acknowledged b m) lost s m c := { h with
  base := rfl
  link := h.link.learn hb hm
  small := by
    have := h.small
    show (sm.unackedStanzas.drop (m - b)).length ≤ _
    rw [List.length_drop]
    omega }

theorem remoteAcked {m : ℕ} (h : Held up inbox peer sm lost s b c) (hb : b ≤ m)
    (hm : m ≤ s.received.length) (tokens : Tokens) :
    sm.remoteAcked tokens (BitVec.ofNat 32 m) = .ok (sm.acknowledged b m,
      tokens.sendReplaceAll (sm.unackedStanzas.take (m - b)) .acked) :=
  SmState.remoteAcked_of_le h.base hb (h.link.le_sent hm) (by have := h.length_lt; omega)

theorem confirmed {m : ℕ} (h : Held up inbox peer sm lost s b c) (hm : m ≤ s.received.length)
    {entry : QueueEntry ε} (he : entry ∈ sm.unackedStanzas.take (m - b)) : entry ∈ peer.handled :=
  h.handled entry (h.link.confirmed hm he)

/-- After resumption the worker keeps nothing: what was lost is back in its queue. -/
theorem resumed (h : Held [] inbox peer sm lost s b c) (hl : under s.stream peer.left = []) :
    Held [] inbox peer { sm.acknowledged b s.received.length with unackedStanzas := [] } [] s
      s.received.length c := { h with
  base := rfl
  link := .resent ⟨b,s.received,[],sm.unackedStanzas⟩ rfl
  apart := .inl rfl
  left := hl ▸ List.prefix_refl []
  small := Nat.zero_le _ }

theorem ofEnabled {enabled : Enabled} {post : List (Item ε)} (hs : peer.session = some s)
    (hl : under s.stream peer.left = []) (hr : s.received = []) (ha : s.acked = 0)
    (hw : s.sent.length < 2 ^ 32) (hc : peer.conn = .managed) (hm : Managed post s 0 0) :
    Held [] inbox peer (.ofEnabled enabled) [] s 0 0 where
  session := hs
  base := rfl
  link := ⟨Nat.zero_le _,by rw [hr]; rfl⟩
  small := Nat.zero_le _
  handled := by simp [hr]
  ctr := rfl
  counts := Nat.le_of_eq ha
  sent := Nat.zero_le _
  window := by omega
  sentCounted item hi := (List.mem_filter.mp (hm.items.symm ▸ hi : item ∈ post.filter _)).2
  conn := .inl hc
  apart := .inl rfl
  left := hl ▸ List.prefix_refl []
  noBind := fun _ => List.not_mem_nil
  got := List.nil_suffix

theorem take {entry : QueueEntry ε} (h : Held (.stanza entry :: up) inbox peer sm lost s b c) :
    Held up inbox { peer with
      log := peer.log ++ [(s.stream,entry)]
      session := some { s with received := s.received ++ [entry] } }
      sm lost { s with received := s.received ++ [entry] } b c := { h with
  session := rfl
  link := h.link.arrive rfl
  handled := fun e he => by
    rw [Peer.handled,List.map_append]
    rcases List.mem_append.mp he with he | he
    · exact List.mem_append_left _ (h.handled e he)
    · exact List.mem_append_right _ he
  conn := h.conn.imp_right fun hc => nomatch hc.2
  apart := h.apart.imp_right nofun
  noBind := fun resource hm => h.noBind resource (List.mem_cons_of_mem _ hm) }

theorem pop {element : Outgoing ε} (h : Held (element :: up) inbox peer sm lost s b c)
    (he : element.entry = none) : Held up inbox peer sm lost s b c := by
  have hentries : entriesOf (element :: up) = entriesOf up := List.filterMap_cons_none he
  exact { h with
    link := hentries ▸ h.link
    counts := by
      have hr := h.counts
      unfold countsOf at hr
      cases hc : element.count with
      | none => rwa [List.filterMap_cons_none hc] at hr
      | some n =>
        rw [List.filterMap_cons_some hc] at hr
        exact hr.tail
    conn := hentries ▸ h.conn
    apart := hentries ▸ h.apart
    noBind := fun resource hm => h.noBind resource (List.mem_cons_of_mem _ hm) }

theorem peerLearns {element : Outgoing ε} {n : BitVec 32}
    (h : Held (element :: up) inbox peer sm lost s b c) (he : element.entry = none)
    (hn : element.count = some n) :
    Held up inbox { peer with session := some (s.learn n) } sm lost (s.learn n) b c := by
  have hr := h.counts
  unfold countsOf at hr
  rw [List.filterMap_cons_some hn] at hr
  obtain ⟨m,hm,hmc,-,ha,hrest⟩ := hr.exact h.sent h.window
  have hacked : (s.learn n).acked = m := by
    show s.acked + SerialNumber.ahead _ n = m
    omega
  have hpop := h.pop he
  exact { hpop with
    session := rfl
    counts := hacked ▸ hrest
    window := by
      have := h.window
      rw [hacked]
      show s.sent.length - m < _
      omega }

theorem learn_request {n : BitVec 32} {id : String} (h : Held up inbox peer sm lost s b c)
    (hn : NegotiationState.smRequest (some sm) = .resume n id) : (s.learn n).acked = c := by
  have hctr : n = sm.inboundCtr := by
    unfold NegotiationState.smRequest SmState.resumeInfo at hn
    rw [Option.bind_some] at hn
    cases hr : sm.resumption with
    | notResumable => rw [hr] at hn; cases hn
    | resumable id' location => rw [hr] at hn; cases hn; rfl
  have hle := h.le_counted
  have := h.sent
  have := h.window
  show s.acked + SerialNumber.ahead _ n = c
  rw [hctr,h.ctr,SerialNumber.ahead_ofNat hle (by omega)]
  omega

theorem again (h : Held up inbox peer sm lost s b c) :
    Managed (s.sent.drop c) s s.received.length c := by
  have hcounted : ∀ item ∈ s.sent.drop c, Item.counted item := fun item hi =>
    h.sentCounted item (List.mem_of_mem_drop hi)
  refine ⟨List.filter_eq_self.mpr hcounted,?_,fun item hi => .inl (hcounted item hi)⟩
  have ha : acksOf (s.sent.drop c) = [] := by
    refine List.filterMap_eq_nil_iff.mpr fun item hi => ?_
    match item,hcounted item hi with
    | .ok (.ok (.stanza stanza)),_ => rfl
    | .ok (.error (.invalidStanza text e)),_ => rfl
  rw [ha]
  exact Nat.le_refl _

theorem peerSends (h : Held up inbox peer sm lost s b c) {item : Item ε} (hi : Item.counted item)
    (hw : s.sent.length + 1 - s.acked < 2 ^ 32) : Held up inbox { peer with
      session := some { s with sent := s.sent ++ [item] }, sentAll := peer.sentAll ++ [item] }
      sm lost { s with sent := s.sent ++ [item] } b c := { h with
  session := rfl
  sent := by
    have := h.sent
    simp
    omega
  window := by simpa using hw
  sentCounted := fun i hm => by
    rcases List.mem_append.mp hm with hm | hm
    · exact h.sentCounted i hm
    · exact List.mem_singleton.mp hm ▸ hi
  got := by
    rw [List.take_append_of_le_length h.sent]
    exact h.got }

theorem forget (h : Held up inbox peer sm lost s b c) : Held up inbox
    { peer with session := peer.session.map ({ · with resumable := false }) }
    sm lost { s with resumable := false } b c := { h with
  session := by
    show peer.session.map _ = _
    rw [h.session]
    rfl }

theorem manage (h : Held up inbox peer sm lost s b c) :
    Held up inbox { peer with conn := .managed, left := peer.left.filter (·.1 ≠ s.stream) }
      sm lost s b c := { h with
  conn := .inl rfl
  left := by
    rw [under_filter_ne,if_pos rfl]
    exact List.nil_prefix }

theorem takeLeft {entry : QueueEntry ε} {left : List (ℕ × QueueEntry ε)}
    (h : Held up inbox peer sm lost s b c) (ht : takeUnder s.stream peer.left = some (entry,left)) :
    ∃ lost', lost = entry :: lost' ∧ entriesOf up = [] ∧ Held up inbox (peer.takeLate s.stream entry left)
      sm lost' { s with received := s.received ++ [entry] } b c := by
  rw [Peer.takeLate_held h.session]
  obtain ⟨front,back,hl,rfl,hf⟩ := takeUnder_eq_some ht
  obtain ⟨lost',hlost⟩ := h.left
  rw [hl,under_append,under_cons,if_pos rfl,hf] at hlost
  have hu : entriesOf up = [] := h.apart.resolve_left fun hn => by
    rw [hn] at hlost
    cases hlost
  refine ⟨under s.stream back ++ lost',hlost.symm,hu,{ h with
    session := rfl
    link := (show Link.Coherent _ (entry :: _) from hlost ▸ h.link).arriveLate hu
    handled := fun e he => ?_
    apart := .inr hu
    left := ?_ }⟩
  · rw [Peer.handled,List.map_append]
    rcases List.mem_append.mp he with he | he
    · exact List.mem_append_left _ (h.handled e he)
    · exact List.mem_append_right _ he
  · rw [under_append,hf]
    exact List.prefix_append _ _

theorem takeOther {n : ℕ} {entry : QueueEntry ε} {left : List (ℕ × QueueEntry ε)}
    (h : Held up inbox peer sm lost s b c) (ht : takeUnder n peer.left = some (entry,left))
    (hn : s.stream ≠ n) : Held up inbox (peer.takeLate n entry left) sm lost s b c := by
  rw [Peer.takeLate_other h.session hn]
  exact { h with
    session := rfl
    handled := fun e he => by
      rw [Peer.handled,List.map_append]
      exact List.mem_append_left _ (h.handled e he)
    left := by
      show under s.stream left <+: lost
      rw [under_takeUnder ht hn]
      exact h.left }

theorem strays_leave (h : Held up inbox peer sm lost s b c) :
    (peer.leave up).strays true = peer.strays true := by
  have hs : (peer.leave up).session = some s := h.session
  rw [Peer.strays_held hs,Peer.strays_held h.session]
  show (peer.left ++ _).filter _ = _
  rcases h.conn with hc | ⟨hc,-⟩
  · have hp : peer.present = some s.stream := by
      rw [Peer.present,hc,h.session]
      rfl
    rw [hp,List.filter_append,List.append_right_eq_self]
    simp
  · rw [Peer.present,hc]
    exact congrArg _ (List.append_nil _)

end Held

end MindChat.StanzaStream
