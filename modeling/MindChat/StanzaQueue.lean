import MindChat.Receipts
import MindChat.Deque
import MindChat.Polling

/-! The transmit queue of a stanza stream: stanzas on their way to the peer, the
stages they go through, and the queue between the senders and the worker. -/

namespace MindChat.StanzaStream

open Polling

inductive ErrorKind
  | connectionAborted
  | connectionReset
  | invalidData
  | invalidInput
  | notConnected
  | timedOut
  | unexpectedEof
  | other
  | os (code : ℕ)
  deriving DecidableEq

/-- `io::Error` as it is kept: its kind and its text. -/
structure OpaqueIoError where
  kind : ErrorKind
  message : String
  deriving DecidableEq

inductive StanzaStage
  | queued
  | sent
  | acked
  | failed
  | dropped
  deriving DecidableEq

def StanzaStage.rank : StanzaStage → ℕ
  | .queued => 0
  | .sent => 1
  | .acked => 2
  | .failed => 3
  | .dropped => 4

instance : LE StanzaStage := ⟨fun a b => a.rank ≤ b.rank⟩

instance (a b : StanzaStage) : Decidable (a ≤ b) := inferInstanceAs (Decidable (a.rank ≤ b.rank))

inductive StanzaState
  | queued
  | sent
  | acked
  | failed (error : OpaqueIoError)
  | dropped
  deriving DecidableEq

def StanzaState.stage : StanzaState → StanzaStage
  | .queued => .queued
  | .sent => .sent
  | .acked => .acked
  | .failed _ => .failed
  | .dropped => .dropped

/-- Neither waiting nor merely sent: what became of the stanza is decided. -/
def StanzaState.settled (state : StanzaState) : Bool := ¬ state.stage ≤ .sent

/-- An IQ stanza; `ε` stands for the elements that the stanzas carry. -/
inductive Iq (ε : Type)
  | get (sender recipient : Option Jid) (id : String) (payload : ε)
  | set (sender recipient : Option Jid) (id : String) (payload : ε)
  | result (sender recipient : Option Jid) (id : String) (payload : Option ε)
  | error (sender recipient : Option Jid) (id : String) (error : String) (payload : Option ε)
  deriving DecidableEq

def Iq.id {ε : Type} : Iq ε → String
  | .get _ _ id _ => id
  | .set _ _ id _ => id
  | .result _ _ id _ => id
  | .error _ _ id _ _ => id

inductive Stanza (ε : Type)
  | iq (iq : Iq ε)
  | message (id : Option String) (content : ε)
  | presence (id : Option String) (content : ε)
  deriving DecidableEq

/-- A queued stanza with the number of the watch channel that follows it; nobody
follows the stanzas that the worker queues itself. -/
structure QueueEntry (ε : Type) where
  stanza : Stanza ε
  token : Option ℕ
  deriving DecidableEq

variable {ε : Type}

def QueueEntry.untracked (stanza : Stanza ε) : QueueEntry ε := ⟨stanza,none⟩

/-- The watch channels by number, each with its present state. -/
abbrev Tokens := List StanzaState

def QueueEntry.tracked (tokens : Tokens) (stanza : Stanza ε) : QueueEntry ε × Tokens :=
  (⟨stanza,some tokens.length⟩,tokens ++ [.queued])

/-- `send_replace` on the sending half that the entry owns. -/
def Tokens.sendReplace (tokens : Tokens) (entry : QueueEntry ε) (state : StanzaState) : Tokens :=
  match entry.token with
  | none => tokens
  | some token => tokens.set token state

/-- The queue of the worker: what was taken back or looked at, in front of the
channel from the senders. -/
structure TransmitQueue (ε : Type) where
  inner : List (QueueEntry ε)
  closed : Bool
  peek : List (QueueEntry ε)

namespace TransmitQueue

/-- Every entry of the queue in the order in which it gives them out. -/
def entries (q : TransmitQueue ε) : List (QueueEntry ε) := q.peek ++ q.inner

/-- The next item to transmit stays in `peek` until it is taken. -/
def pollNext (q : TransmitQueue ε) : Polling.Poll (Option (QueueEntry ε)) × TransmitQueue ε :=
  match q.peek with
  | entry :: _ => (.ready (some entry),q)
  | [] =>
    match q.inner with
    | entry :: inner => (.ready (some entry),{ q with inner := inner, peek := [entry] })
    | [] => (if q.closed then .ready none else .pending,q)

/-- `TransmitQueueRef::take`; there is such a reference only while `peek` has an item. -/
def take (q : TransmitQueue ε) : Option (QueueEntry ε × TransmitQueue ε) :=
  match q.peek with
  | [] => none
  | entry :: peek => some (entry,{ q with peek := peek })

/-- Push the items to the front and mirror them there, so that they keep their order. -/
def requeueAll (q : TransmitQueue ε) (items : List (QueueEntry ε)) : TransmitQueue ε :=
  let pushed := Deque.pushFrontAll items q.peek
  { q with peek := Deque.swapEnds items.length (items.length / 2) pushed }

def enqueue (q : TransmitQueue ε) (entry : QueueEntry ε) : TransmitQueue ε :=
  { q with peek := q.peek ++ [entry] }

def isClosed (q : TransmitQueue ε) : Bool := q.closed

/-- Fail what is queued now; the channel stays open for what comes later. -/
def fail (q : TransmitQueue ε) (tokens : Tokens) (error : OpaqueIoError) :
    TransmitQueue ε × Tokens :=
  ({ q with inner := [], peek := [] },
    q.entries.foldl (fun tokens entry => tokens.sendReplace entry (.failed error)) tokens)

@[simp] theorem entries_requeueAll (q : TransmitQueue ε) (items : List (QueueEntry ε)) :
    (q.requeueAll items).entries = items ++ q.entries := by
  simp [requeueAll,entries,Deque.swapEnds_pushFrontAll]

@[simp] theorem entries_pollNext (q : TransmitQueue ε) : q.pollNext.2.entries = q.entries := by
  obtain ⟨inner,closed,peek⟩ := q
  cases peek with
  | cons entry peek => rfl
  | nil =>
    cases inner with
    | cons entry inner => rfl
    | nil => rfl

@[simp] theorem closed_pollNext (q : TransmitQueue ε) : q.pollNext.2.closed = q.closed := by
  obtain ⟨inner,closed,peek⟩ := q
  cases peek with
  | cons entry peek => rfl
  | nil =>
    cases inner with
    | cons entry inner => rfl
    | nil => rfl

theorem closed_of_pollNext {q q' : TransmitQueue ε} (h : q.pollNext = (.ready none,q')) :
    q'.closed = true := by
  obtain ⟨inner,closed,peek⟩ := q
  cases peek with
  | cons entry peek => cases h
  | nil =>
    cases inner with
    | cons entry inner => cases h
    | nil =>
      cases closed with
      | false => cases h
      | true => cases h; rfl

theorem entries_of_take {q q' : TransmitQueue ε} {entry : QueueEntry ε}
    (h : q.take = some (entry,q')) : q.entries = entry :: q'.entries ∧ q'.closed = q.closed := by
  obtain ⟨inner,closed,peek⟩ := q
  cases peek with
  | nil => cases h
  | cons first peek =>
    cases h
    exact ⟨rfl,rfl⟩

end TransmitQueue

section Under

variable {α : Type} {n m : ℕ} {items : List (ℕ × α)}

def under (n : ℕ) (items : List (ℕ × α)) : List α :=
  items.filterMap fun item => if item.1 = n then some item.2 else none

def takeUnder (n : ℕ) : List (ℕ × α) → Option (α × List (ℕ × α))
  | [] => none
  | item :: items =>
    if item.1 = n then some (item.2,items)
    else (takeUnder n items).map fun (found,rest) => (found,item :: rest)

@[simp] theorem under_nil : under n ([] : List (ℕ × α)) = [] := rfl

@[simp] theorem under_append (xs ys : List (ℕ × α)) : under n (xs ++ ys) = under n xs ++ under n ys :=
  List.filterMap_append

theorem under_cons (m : ℕ) (a : α) (items : List (ℕ × α)) :
    under n ((m,a) :: items) = (if m = n then [a] else []) ++ under n items := by
  by_cases h : m = n <;> simp [under,h]

theorem under_map (m : ℕ) (as : List α) : under n (as.map (m,·)) = if m = n then as else [] := by
  induction as with
  | nil => simp
  | cons a as ih =>
    rw [List.map_cons,under_cons,ih]
    split <;> rfl

theorem under_eq_nil : under n items = [] ↔ ∀ item ∈ items, item.1 ≠ n := by
  simp [under]

theorem mem_under {a : α} : a ∈ under n items ↔ (n,a) ∈ items := by
  simp [under]

theorem under_filter_ne : under m (items.filter (·.1 ≠ n)) = if m = n then [] else under m items := by
  induction items with
  | nil => simp
  | cons item items ih =>
    obtain ⟨k,a⟩ := item
    by_cases hk : k = n
    · rw [List.filter_cons_of_neg (by simp [hk]),ih,under_cons]
      split
      · rfl
      · rename_i hm
        rw [if_neg (fun h => hm (h.symm.trans hk)),List.nil_append]
    · rw [List.filter_cons_of_pos (by simp [hk]),under_cons,ih,under_cons]
      by_cases hm : m = n
      · rw [if_pos hm,if_pos hm,if_neg (fun h => hk (h.trans hm))]
        rfl
      · rw [if_neg hm,if_neg hm]

theorem takeUnder_eq_some {a : α} {rest : List (ℕ × α)} (h : takeUnder n items = some (a,rest)) :
    ∃ front back, items = front ++ (n,a) :: back ∧ rest = front ++ back ∧ under n front = [] := by
  induction items generalizing rest with
  | nil => cases h
  | cons item items ih =>
    obtain ⟨k,b⟩ := item
    simp only [takeUnder] at h
    split at h
    · rename_i hk
      cases h
      exact ⟨[],items,by rw [← hk]; rfl,rfl,rfl⟩
    · rename_i hk
      obtain ⟨⟨found,left⟩,ht,he⟩ := Option.map_eq_some_iff.mp h
      cases he
      obtain ⟨front,back,rfl,rfl,hf⟩ := ih ht
      refine ⟨(k,b) :: front,back,rfl,rfl,?_⟩
      rw [under_cons,if_neg hk,hf]
      rfl

theorem filter_takeUnder {a : α} {rest : List (ℕ × α)} (h : takeUnder n items = some (a,rest)) :
    rest.filter (·.1 ≠ n) = items.filter (·.1 ≠ n) := by
  obtain ⟨front,back,rfl,rfl,-⟩ := takeUnder_eq_some h
  simp

theorem under_takeUnder {a : α} {rest : List (ℕ × α)} (h : takeUnder n items = some (a,rest))
    (hm : m ≠ n) : under m rest = under m items := by
  obtain ⟨front,back,rfl,rfl,-⟩ := takeUnder_eq_some h
  rw [under_append,under_append,under_cons,if_neg hm.symm,List.nil_append]

end Under

end MindChat.StanzaStream
