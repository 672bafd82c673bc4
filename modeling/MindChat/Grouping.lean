import Mathlib.Algebra.BigOperators.Group.List.Lemmas
import Mathlib.Algebra.GroupWithZero.Nat
import Mathlib.Data.List.Induction
import Mathlib.Tactic.Common

/-! Grouping a list by a key as Kotlin's `groupBy` does: the groups stand in the
order of their first items, the items of a group in the order of the list. -/

namespace Grouping

variable {α κ : Type} [DecidableEq κ]

/-- Insert an item into the group of its key, a new group at the end. -/
def insertGroup (k : κ) (x : α) : List (κ × List α) → List (κ × List α)
  | [] => [(k,[x])]
  | (j,ys) :: groups => if j = k then (j,ys ++ [x]) :: groups else (j,ys) :: insertGroup k x groups

def groupBy (key : α → κ) (xs : List α) : List (κ × List α) :=
  xs.foldl (fun groups x => insertGroup (key x) x groups) []

def group (groups : List (κ × List α)) (k : κ) : Option (List α) :=
  (groups.find? (fun entry => entry.1 = k)).map Prod.snd

/-- The keys in the order of their first appearance. -/
def keysOf (key : α → κ) (xs : List α) : List κ := (xs.map key).eraseDups

def itemsOf (key : α → κ) (k : κ) (xs : List α) : List α := xs.filter (fun x => decide (key x = k))

theorem mem_keysOf {key : α → κ} {xs : List α} {k : κ} :
    k ∈ keysOf key xs ↔ ∃ x ∈ xs, key x = k := by
  simp [keysOf,List.mem_eraseDups]

theorem keysOf_concat (key : α → κ) (xs : List α) (x : α) :
    keysOf key (xs ++ [x]) =
      if key x ∈ keysOf key xs then keysOf key xs else keysOf key xs ++ [key x] := by
  have hone : [key x].removeAll (xs.map key) = if key x ∈ xs.map key then [] else [key x] := by
    rw [List.removeAll,List.filter_singleton]
    by_cases h : key x ∈ xs.map key
    · rw [if_pos h,List.elem_eq_true_of_mem h]
      rfl
    · rw [if_neg h]
      simp only [List.elem_eq_mem,h,decide_false,Bool.not_false,cond_true]
  simp only [keysOf,List.map_append,List.map_cons,List.map_nil,List.eraseDups_append,
    List.mem_eraseDups,hone]
  split
  · rw [List.eraseDups_nil,List.append_nil]
  · rfl

theorem keysOf_nodup (key : α → κ) (xs : List α) : (keysOf key xs).Nodup := by
  induction xs using List.reverseRecOn with
  | nil => simp [keysOf]
  | append_singleton xs x ih =>
    rw [keysOf_concat]
    split <;> rename_i h
    · exact ih
    · exact List.nodup_append.mpr ⟨ih,by simp,by rintro k hk _ hx rfl; simp_all⟩

theorem itemsOf_concat (key : α → κ) (k : κ) (xs : List α) (x : α) :
    itemsOf key k (xs ++ [x]) = itemsOf key k xs ++ if key x = k then [x] else [] := by
  simp only [itemsOf,List.filter_append]
  by_cases h : key x = k <;> simp [h]

theorem insertGroup_map {ks : List κ} (hks : ks.Nodup) (f : κ → List α) (k : κ) (x : α) :
    insertGroup k x (ks.map fun j => (j,f j)) =
      if k ∈ ks then ks.map (fun j => (j,f j ++ if k = j then [x] else []))
      else ks.map (fun j => (j,f j)) ++ [(k,[x])] := by
  induction ks with
  | nil => rfl
  | cons j ks ih =>
    obtain ⟨hj,hks⟩ := List.nodup_cons.mp hks
    simp only [List.map_cons,insertGroup]
    by_cases h : j = k
    · subst h
      have hrest : ks.map (fun i => (i,f i ++ if j = i then [x] else [])) = ks.map fun i => (i,f i) := by
        refine List.map_congr_left fun i hi => ?_
        have hne : j ≠ i := fun h => hj (by rwa [h])
        rw [if_neg hne,List.append_nil]
      simp [hrest]
    · have h' : ¬ k = j := Ne.symm h
      rw [if_neg h,ih hks]
      by_cases hm : k ∈ ks <;> simp [hm,h']

/-- One pass yields the groups that a filter for each key yields. -/
theorem groupBy_eq (key : α → κ) (xs : List α) :
    groupBy key xs = (keysOf key xs).map fun k => (k,itemsOf key k xs) := by
  induction xs using List.reverseRecOn with
  | nil => rfl
  | append_singleton xs x ih =>
    have hstep : groupBy key (xs ++ [x]) = insertGroup (key x) x (groupBy key xs) := by
      simp [groupBy]
    rw [hstep,ih,insertGroup_map (keysOf_nodup key xs),keysOf_concat]
    split <;> rename_i h
    · simp only [itemsOf_concat]
    · have hold : ∀ k ∈ keysOf key xs, itemsOf key k (xs ++ [x]) = itemsOf key k xs := by
        intro k hk
        have hne : key x ≠ k := fun heq => h (by rwa [heq])
        rw [itemsOf_concat,if_neg hne,List.append_nil]
      have hnew : itemsOf key (key x) xs = [] := by
        refine List.filter_eq_nil_iff.mpr fun y hy hkey => h (mem_keysOf.mpr ⟨y,hy,?_⟩)
        simpa using hkey
      have hgroups : (keysOf key xs).map (fun k => (k,itemsOf key k (xs ++ [x]))) =
          (keysOf key xs).map fun k => (k,itemsOf key k xs) :=
        List.map_congr_left fun k hk => by rw [hold k hk]
      rw [List.map_append,hgroups]
      simp [itemsOf_concat,hnew]

theorem group_map {ks : List κ} (f : κ → List α) (k : κ) :
    group (ks.map fun j => (j,f j)) k = if k ∈ ks then some (f k) else none := by
  induction ks with
  | nil => rfl
  | cons j ks ih =>
    unfold group at ih ⊢
    by_cases h : j = k
    · subst h
      simp
    · have h' : ¬ k = j := Ne.symm h
      simpa [h,h'] using ih

theorem group_groupBy (key : α → κ) (xs : List α) (k : κ) :
    (group (groupBy key xs) k).getD [] = itemsOf key k xs := by
  rw [groupBy_eq,group_map]
  split <;> rename_i h
  · rfl
  · refine (List.filter_eq_nil_iff.mpr fun x hx hkey => h (mem_keysOf.mpr ⟨x,hx,?_⟩)).symm
    simpa using hkey

theorem sum_length_itemsOf (key : α → κ) (xs : List α) :
    ((keysOf key xs).map fun k => (itemsOf key k xs).length).sum = xs.length := by
  have hperm : (keysOf key xs).Perm (xs.map key).dedup :=
    (List.perm_ext_iff_of_nodup (keysOf_nodup key xs) (List.nodup_dedup _)).mpr fun k => by
      simp [keysOf,List.mem_eraseDups]
  have hcount : ∀ k, (itemsOf key k xs).length = (xs.map key).count k := by
    intro k
    rw [itemsOf,← List.countP_eq_length_filter,List.count,List.countP_map]
    rfl
  simp only [hcount]
  rw [(hperm.map _).sum_eq,List.sum_map_count_dedup_eq_length,List.length_map]

end Grouping
