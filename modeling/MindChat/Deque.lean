import Mathlib.Data.List.Basic

/-! Putting a batch back to the front of a double-ended queue, in its own order,
with single pushes and swaps. -/

namespace Deque

variable {α : Type}

def pushFrontAll (items q : List α) : List α := items.foldl (fun q item => item :: q) q

/-- Swap the positions from `0` up to `m` with those from `n` down. -/
def swapEnds (n m : ℕ) (q : List α) : List α :=
  (List.range m).foldl (fun q i => q.swap i (n - (i + 1))) q

theorem pushFrontAll_eq (items q : List α) : pushFrontAll items q = items.reverse ++ q := by
  induction items generalizing q with
  | nil => rfl
  | cons item items ih =>
    have h : pushFrontAll (item :: items) q = items.reverse ++ item :: q := ih (item :: q)
    simp [h]

theorem swapEnds_succ (n m : ℕ) (q : List α) :
    swapEnds n (m + 1) q = (swapEnds n m q).swap m (n - (m + 1)) := by
  simp [swapEnds,List.range_succ]

@[simp] theorem length_swapEnds (n m : ℕ) (q : List α) : (swapEnds n m q).length = q.length := by
  induction m with
  | zero => rfl
  | succ m ih => simp [swapEnds_succ,ih]

/-- After `m` swaps the outer `m` positions at both ends are mirrored. -/
theorem getElem?_swapEnds {n m : ℕ} {q : List α} (hm : 2 * m ≤ n) (hn : n ≤ q.length) (j : ℕ) :
    (swapEnds n m q)[j]? = if j < m ∨ (n - m ≤ j ∧ j < n) then q[n - 1 - j]? else q[j]? := by
  induction m generalizing j with
  | zero =>
    have hj : ¬ (j < 0 ∨ (n - 0 ≤ j ∧ j < n)) := by omega
    rw [if_neg hj]
    rfl
  | succ m ih =>
    have ih := fun i => ih (by omega) i
    have hl := length_swapEnds n m q
    have h₁ : m < (swapEnds n m q).length := by omega
    have h₂ : n - (m + 1) < (swapEnds n m q).length := by omega
    -- the two positions that this swap exchanges are still as they were
    have hleft : (swapEnds n m q)[m]? = q[m]? := by rw [ih,if_neg (by omega)]
    have hright : (swapEnds n m q)[n - (m + 1)]? = q[n - (m + 1)]? := by rw [ih,if_neg (by omega)]
    rw [swapEnds_succ,List.swap_eq_of_lt h₁ h₂]
    by_cases hjr : j = n - (m + 1)
    · subst hjr
      rw [List.getElem?_set_self (by simpa using h₂),← List.getElem?_eq_getElem h₁,hleft,
        if_pos (by omega)]
      congr 1
      omega
    · rw [List.getElem?_set_ne (Ne.symm hjr)]
      by_cases hjl : j = m
      · subst hjl
        rw [List.getElem?_set_self h₁,← List.getElem?_eq_getElem h₂,hright,if_pos (by omega)]
        congr 1
        omega
      · rw [List.getElem?_set_ne (Ne.symm hjl),ih]
        have hsame : (j < m ∨ (n - m ≤ j ∧ j < n)) ↔ (j < m + 1 ∨ (n - (m + 1) ≤ j ∧ j < n)) := by
          omega
        simp only [hsame]

theorem swapEnds_half (front q : List α) :
    swapEnds front.length (front.length / 2) (front ++ q) = front.reverse ++ q := by
  apply List.ext_getElem?
  intro j
  rw [getElem?_swapEnds (by omega) (by simp)]
  rcases Nat.lt_or_ge j front.length with hj | hj
  · have hr : (front.reverse ++ q)[j]? = front[front.length - 1 - j]? := by
      rw [List.getElem?_append_left (by simpa using hj),List.getElem?_reverse hj]
    rw [hr]
    split
    · exact List.getElem?_append_left (by omega)
    · rw [List.getElem?_append_left hj]
      congr 1
      omega
  · rw [if_neg (by omega),List.getElem?_append_right hj,
      List.getElem?_append_right (by simpa using hj),List.length_reverse]

/-- Pushing the batch and mirroring it puts it in front as it was. -/
theorem swapEnds_pushFrontAll (items q : List α) :
    swapEnds items.length (items.length / 2) (pushFrontAll items q) = items ++ q := by
  have h := swapEnds_half items.reverse q
  rwa [List.length_reverse,List.reverse_reverse,← pushFrontAll_eq] at h

end Deque
