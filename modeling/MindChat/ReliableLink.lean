import Mathlib.Algebra.Group.Nat.Defs
import Mathlib.Data.List.Basic
import Mathlib.Data.Nat.Basic

/-! One direction of a link that survives the loss of its connection. The sender
keeps what the receiver has not confirmed; the receiver counts what arrives and
reports the count, as far as a counter of `w` bits holds it: how far one reading of
such a counter is ahead of another tells how many events lie between them. -/

namespace SerialNumber

variable {w : ℕ}

/-- How far `h` is ahead of `base`, going up and wrapping around. -/
def ahead (base h : BitVec w) : ℕ := (h - base).toNat

@[simp] theorem ahead_self (base : BitVec w) : ahead base base = 0 := by
  simp [ahead]

/-- Within one turn of the counter the distance is the number of events between. -/
theorem ahead_ofNat {b n : ℕ} (hb : b ≤ n) (hn : n - b < 2 ^ w) :
    ahead (BitVec.ofNat w b) (BitVec.ofNat w n) = n - b := by
  obtain ⟨d,rfl⟩ := Nat.exists_eq_add_of_le hb
  have hd : d < 2 ^ w := by omega
  rw [ahead,BitVec.ofNat_add,BitVec.add_comm,BitVec.add_sub_cancel,BitVec.toNat_ofNat,
    Nat.mod_eq_of_lt hd]
  omega

theorem ahead_ofNat_of_lt {b n : ℕ} (hn : n < b) (hb : b - n ≤ 2 ^ w) :
    ahead (BitVec.ofNat w b) (BitVec.ofNat w n) = (2 ^ w - (b - n)) % 2 ^ w := by
  have hw : BitVec.ofNat w n = BitVec.ofNat w (n + 2 ^ w) := by
    apply BitVec.eq_of_toNat_eq
    simp
  rw [hw]
  rcases Nat.lt_or_eq_of_le hb with hlt | heq
  · rw [ahead_ofNat (by omega) (by omega),Nat.mod_eq_of_lt (by omega)]
    omega
  · rw [show n + 2 ^ w = b by omega,ahead_self,heq,Nat.sub_self,Nat.zero_mod]

theorem ofNat_succ (n : ℕ) : BitVec.ofNat w (n + 1) = BitVec.ofNat w n + 1#w :=
  BitVec.ofNat_add n 1

end SerialNumber

namespace ReliableLink

open SerialNumber

/-- The sender has `base` items confirmed and keeps the rest, the receiver has taken
`arrived`, and `wire` is on its way. -/
structure Link (α : Type) where
  base : ℕ
  arrived : List α
  wire : List α
  unacked : List α

namespace Link

variable {α : Type} {l : Link α} {lost : List α}

/-- What the sender keeps is what has arrived since the last report, then what is on
its way, then what was lost with earlier connections. -/
structure Coherent (l : Link α) (lost : List α) : Prop where
  le : l.base ≤ l.arrived.length
  eq : l.unacked = l.arrived.drop l.base ++ l.wire ++ lost

namespace Coherent

theorem length (h : l.Coherent lost) :
    l.unacked.length = l.arrived.length - l.base + l.wire.length + lost.length := by
  rw [h.eq]
  simp [Nat.add_assoc]

theorem le_sent (h : l.Coherent lost) {n : ℕ} (hn : n ≤ l.arrived.length) :
    n ≤ l.base + l.unacked.length := by
  have := h.length
  have := h.le
  omega

theorem send (h : l.Coherent []) (item : α) :
    Coherent { l with wire := l.wire ++ [item], unacked := l.unacked ++ [item] } [] where
  le := h.le
  eq := by
    have he := h.eq
    simp only [List.append_nil] at he ⊢
    simp [he]

theorem arrive (h : l.Coherent lost) {item : α} {wire : List α} (hw : l.wire = item :: wire) :
    Coherent { l with arrived := l.arrived ++ [item], wire := wire } lost where
  le := by
    have := h.le
    simp
    omega
  eq := by
    show l.unacked = (l.arrived ++ [item]).drop l.base ++ wire ++ lost
    rw [h.eq,hw,List.drop_append_of_le_length h.le]
    simp

theorem arriveLate {item : α} (h : l.Coherent (item :: lost)) (hw : l.wire = []) :
    Coherent { l with arrived := l.arrived ++ [item] } lost where
  le := by
    have := h.le
    simp
    omega
  eq := by
    show l.unacked = (l.arrived ++ [item]).drop l.base ++ l.wire ++ lost
    rw [h.eq,hw,List.drop_append_of_le_length h.le]
    simp

theorem learn (h : l.Coherent lost) {n : ℕ} (hb : l.base ≤ n) (hn : n ≤ l.arrived.length) :
    Coherent { l with base := n, unacked := l.unacked.drop (n - l.base) } lost where
  le := hn
  eq := by
    show l.unacked.drop (n - l.base) = l.arrived.drop n ++ l.wire ++ lost
    have hd : n - l.base ≤ (l.arrived.drop l.base).length := by
      rw [List.length_drop]
      omega
    rw [h.eq,List.append_assoc,List.drop_append_of_le_length hd,List.drop_drop,
      Nat.add_sub_cancel' hb,List.append_assoc]

/-- What a report confirms is what has arrived between the last one and it. -/
theorem take_eq (h : l.Coherent lost) {n : ℕ} (hn : n ≤ l.arrived.length) :
    l.unacked.take (n - l.base) = (l.arrived.take n).drop l.base := by
  have hd : n - l.base ≤ (l.arrived.drop l.base).length := by
    rw [List.length_drop]
    omega
  rw [h.eq,List.append_assoc,List.take_append_of_le_length hd,List.drop_take]

theorem confirmed (h : l.Coherent lost) {n : ℕ} (hn : n ≤ l.arrived.length) {item : α}
    (hi : item ∈ l.unacked.take (n - l.base)) : item ∈ l.arrived := by
  rw [h.take_eq hn] at hi
  exact List.mem_of_mem_take (List.mem_of_mem_drop hi)

theorem cut (h : l.Coherent lost) : Coherent { l with wire := [] } (l.wire ++ lost) where
  le := h.le
  eq := by
    rw [h.eq]
    simp

/-- On a new connection, once the sender knows what has arrived, it keeps exactly what
was lost. -/
theorem lost_eq (h : l.Coherent lost) (hw : l.wire = []) :
    l.unacked.drop (l.arrived.length - l.base) = lost := by
  rw [h.eq,hw]
  simp

theorem arrived_eq (h : l.Coherent lost) (hw : l.wire = []) :
    l.unacked.take (l.arrived.length - l.base) = l.arrived.drop l.base := by
  rw [h.eq,hw]
  simp

theorem resent (l : Link α) (hw : l.wire = []) :
    Coherent { l with base := l.arrived.length, unacked := [] } [] where
  le := le_rfl
  eq := by simp [hw]

end Coherent

end Link

/-- Reports of a count that has gone from `lo` up to at most `hi`, oldest first, as
readings of a counter of `w` bits. -/
def Reports {w : ℕ} (lo hi : ℕ) : List (BitVec w) → Prop
  | [] => lo ≤ hi
  | h :: hs => ∃ m, lo ≤ m ∧ h = BitVec.ofNat w m ∧ Reports m hi hs

namespace Reports

variable {w lo hi : ℕ} {h : BitVec w} {hs : List (BitVec w)}

theorem le (hr : Reports lo hi hs) : lo ≤ hi := by
  induction hs generalizing lo with
  | nil => exact hr
  | cons h hs ih =>
    obtain ⟨m,hm,-,hr⟩ := hr
    exact Nat.le_trans hm (ih hr)

theorem mono {hi' : ℕ} (hr : Reports lo hi hs) (hh : hi ≤ hi') : Reports lo hi' hs := by
  induction hs generalizing lo with
  | nil => exact Nat.le_trans hr hh
  | cons h hs ih =>
    obtain ⟨m,hm,he,hr⟩ := hr
    exact ⟨m,hm,he,ih hr⟩

theorem anti {lo' : ℕ} (hr : Reports lo hi hs) (hl : lo' ≤ lo) : Reports lo' hi hs := by
  cases hs with
  | nil => exact Nat.le_trans hl hr
  | cons h hs =>
    obtain ⟨m,hm,he,hr⟩ := hr
    exact ⟨m,Nat.le_trans hl hm,he,hr⟩

theorem tail (hr : Reports lo hi (h :: hs)) : Reports lo hi hs := by
  obtain ⟨m,hm,-,hr⟩ := hr
  exact hr.anti hm

theorem report (hr : Reports lo hi hs) : Reports lo hi (hs ++ [BitVec.ofNat w hi]) := by
  induction hs generalizing lo with
  | nil => exact ⟨hi,hr,rfl,le_rfl⟩
  | cons h hs ih =>
    obtain ⟨m,hm,he,hr⟩ := hr
    exact ⟨m,hm,he,ih hr⟩

/-- Within one turn of the counter a report says exactly which count it is. -/
theorem exact {hi' : ℕ} (hr : Reports lo hi (h :: hs)) (hh : hi ≤ hi') (hw : hi' - lo < 2 ^ w) :
    ∃ m, lo ≤ m ∧ m ≤ hi ∧ h = BitVec.ofNat w m ∧ ahead (BitVec.ofNat w lo) h = m - lo ∧
      Reports m hi hs := by
  obtain ⟨m,hm,he,hr⟩ := hr
  have hle := hr.le
  exact ⟨m,hm,hle,he,by rw [he,ahead_ofNat hm (by omega)],hr⟩

end Reports

end ReliableLink
