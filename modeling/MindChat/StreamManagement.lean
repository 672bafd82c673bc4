import MindChat.ReliableLink
import MindChat.StanzaQueue

/-! Stream management as the stanza stream keeps it: the counters of both
directions and the stanzas that the peer has not acknowledged yet. -/

namespace MindChat.StanzaStream

open SerialNumber

structure Enabled where
  id : Option String
  location : Option String
  max : Option (BitVec 32)
  resume : Bool
  deriving DecidableEq

inductive SmResumeInfo
  | notResumable
  | resumable (id : String) (location : Option String)
  deriving DecidableEq

structure SmState (ε : Type) where
  outboundBase : BitVec 32
  inboundCtr : BitVec 32
  pendingAcks : ℕ
  pendingReq : Bool
  resumption : SmResumeInfo
  unackedStanzas : List (QueueEntry ε)
  deriving DecidableEq

inductive SmError
  | remoteAckedMoreStanzas (localBase queueLen remoteCtr : BitVec 32)
  | remoteAckWentBackwards (localBase queueLen remoteCtr : BitVec 32)
  deriving DecidableEq

/-- `sm::HandledCountTooHigh`, the condition that the peer is told. -/
structure HandledCountTooHigh where
  h : BitVec 32
  sendCount : BitVec 32
  deriving DecidableEq

def SmError.handledCountTooHigh : SmError → HandledCountTooHigh
  | .remoteAckedMoreStanzas localBase queueLen remoteCtr => ⟨remoteCtr,localBase + queueLen⟩
  | .remoteAckWentBackwards localBase queueLen remoteCtr => ⟨remoteCtr,localBase + queueLen⟩

variable {ε : Type}

/-- The tokens after the entries reached a stage one after the other. -/
def Tokens.sendReplaceAll (tokens : Tokens) (entries : List (QueueEntry ε)) (state : StanzaState) :
    Tokens :=
  entries.foldl (fun tokens entry => tokens.sendReplace entry state) tokens

namespace SmState

def halfRange : ℕ := (2 ^ 32 - 1) / 2

def maxQueueSize : ℕ := halfRange - 1

/-- Keep a stanza that was sent; with too many pending stanzas this panics. -/
def enqueue (sm : SmState ε) (entry : QueueEntry ε) : Option (SmState ε) :=
  if maxQueueSize ≤ sm.unackedStanzas.length then none
  else some { sm with unackedStanzas := sm.unackedStanzas ++ [entry] }

/-- Process the `h` of a remote `<a/>`. -/
def remoteAcked (sm : SmState ε) (tokens : Tokens) (h : BitVec 32) :
    Except SmError (SmState ε × Tokens) :=
  let toDrop := (h - sm.outboundBase).toNat
  if 0 < toDrop then
    if sm.unackedStanzas.length < toDrop then
      let queueLen := BitVec.ofNat 32 sm.unackedStanzas.length
      if halfRange < toDrop then .error (.remoteAckWentBackwards sm.outboundBase queueLen h)
      else .error (.remoteAckedMoreStanzas sm.outboundBase queueLen h)
    else
      .ok ({ sm with outboundBase := h, unackedStanzas := sm.unackedStanzas.drop toDrop },
        tokens.sendReplaceAll (sm.unackedStanzas.take toDrop) .acked)
  else .ok (sm,tokens)

/-- Process resumption: what is left of the queue is to be sent again. -/
def resume (sm : SmState ε) (tokens : Tokens) (h : BitVec 32) :
    Except SmError (List (QueueEntry ε) × SmState ε × Tokens) :=
  match sm.remoteAcked tokens h with
  | .error e => .error e
  | .ok (sm,tokens) => .ok (sm.unackedStanzas,{ sm with unackedStanzas := [] },tokens)

def received (sm : SmState ε) : SmState ε := { sm with inboundCtr := sm.inboundCtr + 1 }

def resumeInfo (sm : SmState ε) : Option (String × BitVec 32) :=
  match sm.resumption with
  | .resumable id _ => some (id,sm.inboundCtr)
  | .notResumable => none

/-- The state of a session that the peer has just enabled. -/
def ofEnabled (other : Enabled) : SmState ε where
  outboundBase := 0
  inboundCtr := 0
  pendingAcks := 0
  pendingReq := false
  resumption :=
    match other.resume,other.id with
    | true,some id => .resumable id other.location
    | _,_ => .notResumable
  unackedStanzas := []

/-- What an acknowledgement up to `n` stanzas leaves, counted from `b`. -/
def acknowledged (sm : SmState ε) (b n : ℕ) : SmState ε :=
  { sm with
    outboundBase := BitVec.ofNat 32 n
    unackedStanzas := sm.unackedStanzas.drop (n - b) }

variable {sm : SmState ε} {tokens : Tokens} {b n : ℕ}

theorem sub_toNat (hb : sm.outboundBase = BitVec.ofNat 32 b) :
    (BitVec.ofNat 32 n - sm.outboundBase).toNat =
      ahead (BitVec.ofNat 32 b) (BitVec.ofNat 32 n) := by
  rw [hb]
  rfl

/-- A count between the stanzas acknowledged before and the stanzas sent is taken:
the stanzas up to it leave the queue as acknowledged. -/
theorem remoteAcked_of_le (hb : sm.outboundBase = BitVec.ofNat 32 b) (hn : b ≤ n)
    (hsent : n ≤ b + sm.unackedStanzas.length) (hlen : sm.unackedStanzas.length < 2 ^ 32) :
    sm.remoteAcked tokens (BitVec.ofNat 32 n) =
      .ok (sm.acknowledged b n,
        tokens.sendReplaceAll (sm.unackedStanzas.take (n - b)) .acked) := by
  have hd : ahead (BitVec.ofNat 32 b) (BitVec.ofNat 32 n) = n - b := ahead_ofNat hn (by omega)
  unfold remoteAcked acknowledged
  simp only [sub_toNat hb,hd]
  by_cases hpos : 0 < n - b
  · rw [if_pos hpos,if_neg (by omega)]
  · have hnb : n = b := by omega
    subst hnb
    simp only [Nat.sub_self,Nat.lt_irrefl,if_false,List.drop_zero,List.take_zero,← hb]
    rfl

theorem remoteAcked_of_gt (hb : sm.outboundBase = BitVec.ofNat 32 b)
    (hsent : b + sm.unackedStanzas.length < n) (hn : n - b ≤ halfRange) :
    sm.remoteAcked tokens (BitVec.ofNat 32 n) = .error (.remoteAckedMoreStanzas
      (BitVec.ofNat 32 b) (BitVec.ofNat 32 sm.unackedStanzas.length) (BitVec.ofNat 32 n)) := by
  have hhalf : halfRange = 2147483647 := rfl
  have hd : ahead (BitVec.ofNat 32 b) (BitVec.ofNat 32 n) = n - b :=
    ahead_ofNat (by omega) (by omega)
  unfold remoteAcked
  simp only [sub_toNat hb,hd]
  rw [if_pos (by omega),if_pos (by omega),if_neg (by omega),hb]

theorem remoteAcked_of_lt (hb : sm.outboundBase = BitVec.ofNat 32 b) (hn : n < b)
    (hback : b - n ≤ halfRange) (hlen : sm.unackedStanzas.length ≤ maxQueueSize) :
    sm.remoteAcked tokens (BitVec.ofNat 32 n) = .error (.remoteAckWentBackwards
      (BitVec.ofNat 32 b) (BitVec.ofNat 32 sm.unackedStanzas.length) (BitVec.ofNat 32 n)) := by
  have hhalf : halfRange = 2147483647 := rfl
  have hmax : maxQueueSize = 2147483646 := rfl
  have hd : ahead (BitVec.ofNat 32 b) (BitVec.ofNat 32 n) = 2 ^ 32 - (b - n) := by
    rw [ahead_ofNat_of_lt hn (by omega),Nat.mod_eq_of_lt (by omega)]
  unfold remoteAcked
  simp only [sub_toNat hb,hd]
  rw [if_pos (by omega),if_pos (by omega),if_pos (by omega),hb]

end SmState

end MindChat.StanzaStream
