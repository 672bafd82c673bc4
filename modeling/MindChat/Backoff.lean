import Mathlib.Algebra.BigOperators.Group.List.Basic
import Mathlib.Algebra.GroupWithZero.Nat
import Mathlib.Algebra.Order.Group.Nat

/-! The pauses between two attempts to reconnect: jitter, doubling, and a budget.
Durations are nanoseconds. -/

namespace MindChat.StanzaStream

def fromSecs (secs : ℕ) : ℕ := secs * 10 ^ 9

def fromMillis (millis : ℕ) : ℕ := millis * 10 ^ 6

def asMillis (duration : ℕ) : ℕ := duration / 10 ^ 6

def initialBackoffBase : ℕ := fromSecs 1

def maxBackoffBase : ℕ := fromSecs 30

def reconnectBudget : ℕ := fromSecs 300

structure SplitMix64 where
  state : UInt64

namespace SplitMix64

def seed (seed : UInt64) : SplitMix64 := ⟨seed⟩

def nextU64 (r : SplitMix64) : UInt64 × SplitMix64 :=
  let state := r.state + 0x9E3779B97F4A7C15
  let z := (state ^^^ (state >>> 30)) * 0xBF58476D1CE4E5B9
  let z := (z ^^^ (z >>> 27)) * 0x94D049BB133111EB
  (z ^^^ (z >>> 31),⟨state⟩)

def nextBelow (r : SplitMix64) (bound : UInt64) : UInt64 × SplitMix64 :=
  let (value,r) := r.nextU64
  (value % bound,r)

theorem nextBelow_lt (r : SplitMix64) {bound : UInt64} (h : 0 < bound) :
    (r.nextBelow bound).1 < bound := UInt64.mod_lt _ h

end SplitMix64

structure Backoff where
  base : ℕ
  budget : ℕ
  rng : SplitMix64

namespace Backoff

def new (seed : UInt64) (budget : ℕ) : Backoff := ⟨initialBackoffBase,budget,.seed seed⟩

def newWithDefaultBudget (seed : UInt64) : Backoff := new seed reconnectBudget

def doubled (base : ℕ) : ℕ := if base * 2 > maxBackoffBase then maxBackoffBase else base * 2

def jitter (rng : SplitMix64) (half : ℕ) : ℕ × SplitMix64 :=
  if half = 0 then (0,rng)
  else
    let (value,rng) := rng.nextBelow (UInt64.ofNat (asMillis half) + 1)
    (fromMillis value.toNat,rng)

/-- A pause that the budget does not cover ends the cycle. -/
def nextSleep (b : Backoff) : Option ℕ × Backoff :=
  let half := b.base / 2
  let (jitter,rng) := jitter b.rng half
  let sleep := half + jitter
  if sleep > b.budget then (none,{ b with rng := rng })
  else (some sleep,⟨doubled b.base,b.budget - sleep,rng⟩)

/-- The pauses until one is refused, at most `n`. -/
def delays : ℕ → Backoff → List ℕ
  | 0,_ => []
  | n + 1,b =>
    match b.nextSleep with
    | (none,_) => []
    | (some delay,b) => delay :: delays n b

theorem length_delays_le (n : ℕ) (b : Backoff) : (delays n b).length ≤ n := by
  induction n generalizing b with
  | zero => exact le_rfl
  | succ n ih =>
    unfold delays
    split
    · exact Nat.zero_le _
    · exact Nat.succ_le_succ (ih _)

def baseAt : ℕ → ℕ
  | 0 => initialBackoffBase
  | n + 1 => doubled (baseAt n)

theorem baseAt_le (n : ℕ) : baseAt n ≤ maxBackoffBase := by
  cases n with
  | zero => decide
  | succ n =>
    show doubled (baseAt n) ≤ maxBackoffBase
    unfold doubled
    split
    · exact le_rfl
    · omega

theorem jitter_le (rng : SplitMix64) {half : ℕ} (h : half ≤ maxBackoffBase) :
    (jitter rng half).1 ≤ half := by
  unfold jitter
  split_ifs
  · exact Nat.zero_le half
  · have hm : asMillis half < 2 ^ 64 - 1 := by
      unfold asMillis maxBackoffBase fromSecs at *
      omega
    have hb : (UInt64.ofNat (asMillis half) + 1).toNat = asMillis half + 1 := by
      rw [UInt64.toNat_add,UInt64.toNat_ofNat_of_lt' (by show _ < 2 ^ 64; omega)]
      show (asMillis half + 1) % 2 ^ 64 = asMillis half + 1
      omega
    have hlt := UInt64.lt_iff_toNat_lt.mp (rng.nextBelow_lt (UInt64.lt_iff_toNat_lt.mpr (by
      rw [hb]
      exact Nat.succ_pos _)))
    rw [hb] at hlt
    show fromMillis (rng.nextBelow (UInt64.ofNat (asMillis half) + 1)).1.toNat ≤ half
    unfold fromMillis
    unfold asMillis at hlt ⊢
    omega

section

variable {b b' : Backoff} {delay n : ℕ}

theorem nextSleep_some (hb : b.base ≤ maxBackoffBase) (h : b.nextSleep = (some delay,b')) :
    b.base / 2 ≤ delay ∧ delay ≤ b.base ∧ b'.base = doubled b.base ∧
      delay + b'.budget = b.budget := by
  have hj := jitter_le b.rng (show b.base / 2 ≤ maxBackoffBase by omega)
  unfold nextSleep at h
  dsimp only at h
  split_ifs at h with hs
  · cases h
  · cases h
    exact ⟨Nat.le_add_right _ _,by omega,rfl,Nat.add_sub_cancel' (not_lt.mp hs)⟩

/-- A refused pause would have been no longer than the base. -/
theorem nextSleep_none (hb : b.base ≤ maxBackoffBase) (h : b.nextSleep = (none,b')) :
    b.budget < b.base := by
  have hj := jitter_le b.rng (show b.base / 2 ≤ maxBackoffBase by omega)
  unfold nextSleep at h
  dsimp only at h
  split_ifs at h with hs
  · omega
  · cases h

/-- Between the least and the most that pauses can come to, from the one with number `k` on. -/
def Within (k : ℕ) : List ℕ → Prop
  | [] => True
  | delay :: delays => baseAt k / 2 ≤ delay ∧ delay ≤ baseAt k ∧ Within (k + 1) delays

/-- What the pauses of a cycle come to, and that what is left does not cover another one. -/
theorem delays_within {k : ℕ} (hb : b.base = baseAt k) :
    Within k (delays n b) ∧ (delays n b).sum ≤ b.budget ∧
      ((delays n b).length < n → b.budget < (delays n b).sum + baseAt (k + (delays n b).length)) := by
  induction n generalizing b k with
  | zero => exact ⟨trivial,Nat.zero_le _,fun h => absurd h (Nat.lt_irrefl 0)⟩
  | succ n ih =>
    unfold delays
    have hle : b.base ≤ maxBackoffBase := hb ▸ baseAt_le k
    split
    · rename_i hs
      refine ⟨trivial,Nat.zero_le _,fun _ => ?_⟩
      show b.budget < 0 + baseAt (k + 0)
      rw [zero_add,Nat.add_zero,← hb]
      exact nextSleep_none hle hs
    · rename_i delay b₁ hs
      obtain ⟨hmin,hmax,hbase,hbudget⟩ := nextSleep_some hle hs
      obtain ⟨hw,hsum,hend⟩ := ih (b := b₁) (k := k + 1) (by rw [hbase,hb]; rfl)
      refine ⟨⟨hb ▸ hmin,hb ▸ hmax,hw⟩,?_,fun hl => ?_⟩
      · rw [List.sum_cons]
        omega
      · have hend := hend (Nat.lt_of_succ_lt_succ hl)
        have hk : k + ((delays n b₁).length + 1) = k + 1 + (delays n b₁).length := by omega
        rw [List.sum_cons,List.length_cons,hk]
        omega

/-- The least and the most that `n` pauses can come to, from the one with number `k` on. -/
def least : ℕ → ℕ → ℕ
  | _,0 => 0
  | k,n + 1 => baseAt k / 2 + least (k + 1) n

def most : ℕ → ℕ → ℕ
  | _,0 => 0
  | k,n + 1 => baseAt k + most (k + 1) n

theorem Within.sum {k : ℕ} {delays : List ℕ} (h : Within k delays) :
    least k delays.length ≤ delays.sum ∧ delays.sum ≤ most k delays.length := by
  induction delays generalizing k with
  | nil => exact ⟨le_rfl,le_rfl⟩
  | cons delay delays ih =>
    obtain ⟨hmin,hmax,hw⟩ := h
    obtain ⟨hl,hm⟩ := ih hw
    exact ⟨Nat.add_le_add hmin hl,Nat.add_le_add hmax hm⟩

/-- Under the default budget a cycle has at least 13 and at most 23 pauses, which come to
more than 270 seconds, whatever the seed. -/
theorem delays_default (seed : UInt64) :
    13 ≤ (delays 24 (newWithDefaultBudget seed)).length ∧
    (delays 24 (newWithDefaultBudget seed)).length < 24 ∧
    fromSecs 270 < (delays 24 (newWithDefaultBudget seed)).sum ∧
    (delays 24 (newWithDefaultBudget seed)).sum ≤ fromSecs 300 := by
  obtain ⟨hw,hsum,hend⟩ := delays_within (b := newWithDefaultBudget seed) (n := 24) (k := 0) rfl
  obtain ⟨hl,hm⟩ := hw.sum
  have hlen := length_delays_le 24 (newWithDefaultBudget seed)
  generalize delays 24 (newWithDefaultBudget seed) = ds at *
  change ds.sum ≤ fromSecs 300 at hsum
  change ds.length < 24 → fromSecs 300 < ds.sum + baseAt (0 + ds.length) at hend
  have hlt : ds.length < 24 := by
    refine lt_of_le_of_ne hlen fun h24 => ?_
    rw [h24] at hl
    exact absurd (hl.trans hsum) (by decide)
  have hend := hend hlt
  have hb := baseAt_le (0 + ds.length)
  refine ⟨?_,hlt,?_,hsum⟩
  · have hfew : ∀ n < 13, most 0 n + baseAt (0 + n) ≤ fromSecs 300 := by decide
    by_contra hn
    have := hfew ds.length (not_le.mp hn)
    omega
  · unfold maxBackoffBase fromSecs at *
    omega

end

end Backoff

end MindChat.StanzaStream
