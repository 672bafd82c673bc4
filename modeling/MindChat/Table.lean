import Mathlib.Data.List.AList
import Mathlib.Data.List.Sort
import Mathlib.Data.List.Induction

/-! Hash maps as Mathlib's association lists with distinct keys. The order of
the entries stands for the unspecified iteration order of a hash map; listings
that need an order sort the values by a key. -/

abbrev Table (K V : Type) := AList (fun _ : K => V)

namespace Table

variable {K V : Type}

def values (t : Table K V) : List V := t.entries.map Sigma.snd

def retain (p : K → V → Bool) (t : Table K V) : Table K V where
  entries := t.entries.filter (fun e => p e.1 e.2)
  nodupKeys := t.nodupKeys.sublist List.filter_sublist

variable [DecidableEq K]

/-- Store every value under its own key; a later value replaces an earlier one. -/
def collect (key : V → K) (xs : List V) : Table K V :=
  xs.foldl (fun t v => t.insert (key v) v) ∅

theorem lookup_insert_if (t : Table K V) (k j : K) (v : V) :
    (t.insert k v).lookup j = if j = k then some v else t.lookup j := by
  by_cases h : j = k
  · subst h; simp
  · simp [h,AList.lookup_insert_ne h]

theorem erase_insert (t : Table K V) (k : K) (v : V) : (t.insert k v).erase k = t.erase k :=
  AList.ext (List.kerase_cons_eq rfl)

theorem lookup_erase_if (t : Table K V) (k j : K) :
    (t.erase k).lookup j = if j = k then none else t.lookup j := by
  by_cases h : j = k
  · subst h; simp
  · simp [h,AList.lookup_erase_ne h]

theorem forall_insert {P : K → V → Prop} {t : Table K V} {k : K} {v : V} (hv : P k v)
    (h : ∀ j w, t.lookup j = some w → P j w) (j : K) (w : V)
    (hj : (t.insert k v).lookup j = some w) : P j w := by
  rw [lookup_insert_if] at hj
  split at hj
  · cases hj
    subst j
    exact hv
  · exact h j w hj

theorem forall_erase {P : K → V → Prop} {t : Table K V} {k : K}
    (h : ∀ j w, t.lookup j = some w → P j w) (j : K) (w : V)
    (hj : (t.erase k).lookup j = some w) : P j w := by
  rw [lookup_erase_if] at hj
  split at hj
  · cases hj
  · exact h j w hj

theorem isSome_insert {t : Table K V} {k j : K} {v : V} (h : (t.lookup j).isSome) :
    ((t.insert k v).lookup j).isSome := by
  rw [lookup_insert_if]
  split
  · rfl
  · exact h

theorem isSome_insert_iff {t : Table K V} {k j : K} {v : V} (h : (t.lookup k).isSome) :
    ((t.insert k v).lookup j).isSome ↔ (t.lookup j).isSome := by
  rw [lookup_insert_if]
  split
  · subst j
    simp [h]
  · rfl

theorem lookup_eq_some {t : Table K V} {k : K} {v : V} :
    t.lookup k = some v ↔ (⟨k,v⟩ : Sigma fun _ : K => V) ∈ t.entries :=
  AList.mem_lookup_iff

theorem mem_values {t : Table K V} {v : V} : v ∈ t.values ↔ ∃ k, t.lookup k = some v := by
  simp only [values,List.mem_map,lookup_eq_some]
  constructor
  · rintro ⟨⟨k,w⟩,hm,rfl⟩
    exact ⟨k,hm⟩
  · rintro ⟨k,hm⟩
    exact ⟨_,hm,rfl⟩

theorem lookup_retain (p : K → V → Bool) (t : Table K V) (k : K) :
    (t.retain p).lookup k = (t.lookup k).filter (p k) := by
  ext v
  rw [lookup_eq_some,Option.filter_eq_some_iff,lookup_eq_some]
  simp [retain,List.mem_filter]

theorem lookup_collect_some {key : V → K} {xs : List V} {k : K} {v : V}
    (h : (collect key xs).lookup k = some v) : key v = k ∧ v ∈ xs := by
  induction xs using List.reverseRecOn with
  | nil => simp [collect] at h
  | append_singleton xs x ih =>
    simp only [collect,List.foldl_append,List.foldl_cons,List.foldl_nil,lookup_insert_if] at h ih
    split at h
    · cases h
      subst k
      exact ⟨rfl,by simp⟩
    · obtain ⟨hk,hm⟩ := ih h
      exact ⟨hk,by simp [hm]⟩

theorem lookup_collect_isSome {key : V → K} {xs : List V} {v : V} (h : v ∈ xs) :
    ((collect key xs).lookup (key v)).isSome := by
  induction xs using List.reverseRecOn with
  | nil => simp at h
  | append_singleton xs x ih =>
    simp only [collect,List.foldl_append,List.foldl_cons,List.foldl_nil,lookup_insert_if] at ih ⊢
    split
    · rfl
    · rcases List.mem_append.mp h with h | h
      · exact ih h
      · simp_all

/-- With distinct keys nothing is overwritten. -/
theorem lookup_collect {key : V → K} {xs : List V} (hn : (xs.map key).Nodup) {k : K} {v : V} :
    (collect key xs).lookup k = some v ↔ key v = k ∧ v ∈ xs := by
  constructor
  · exact lookup_collect_some
  · rintro ⟨rfl,hm⟩
    have hs : ((collect key xs).lookup (key v)).isSome := lookup_collect_isSome hm
    obtain ⟨w,hw⟩ := Option.isSome_iff_exists.mp hs
    obtain ⟨hk,hm'⟩ := lookup_collect_some hw
    rw [hw,List.inj_on_of_nodup_map hn hm' hm hk]

/-- Store pairs in order; a later pair replaces an earlier one of the same key. -/
def insertAll (pairs : List (K × V)) : Table K V :=
  pairs.foldl (fun t pair => t.insert pair.1 pair.2) ∅

theorem insertAll_append_singleton (pairs : List (K × V)) (pair : K × V) :
    insertAll (pairs ++ [pair]) = (insertAll pairs).insert pair.1 pair.2 := by
  simp [insertAll,List.foldl_append]

theorem lookup_insertAll_some {pairs : List (K × V)} {k : K} {v : V}
    (h : (insertAll pairs).lookup k = some v) : (k,v) ∈ pairs := by
  induction pairs using List.reverseRecOn with
  | nil => simp [insertAll] at h
  | append_singleton pairs pair ih =>
    rw [insertAll_append_singleton,lookup_insert_if] at h
    split at h
    · cases h
      subst k
      simp
    · exact List.mem_append_left _ (ih h)

theorem lookup_insertAll {pairs : List (K × V)} (hn : (pairs.map Prod.fst).Nodup) {k : K} {v : V} :
    (insertAll pairs).lookup k = some v ↔ (k,v) ∈ pairs := by
  refine ⟨lookup_insertAll_some,fun h => ?_⟩
  induction pairs using List.reverseRecOn with
  | nil => exact absurd h List.not_mem_nil
  | append_singleton pairs pair ih =>
    rw [insertAll_append_singleton,lookup_insert_if]
    rw [List.map_append,List.nodup_append] at hn
    obtain ⟨hn,-,hd⟩ := hn
    rcases List.mem_append.mp h with h | h
    · rw [if_neg (hd k (List.mem_map_of_mem h) _ (by simp))]
      exact ih hn h
    · cases List.mem_singleton.mp h
      rw [if_pos rfl]

theorem values_perm_map {t u : Table K V} {f : V → V}
    (h : ∀ k, u.lookup k = (t.lookup k).map f) : u.values.Perm (t.values.map f) := by
  let g : (Sigma fun _ : K => V) → Sigma fun _ : K => V := fun e => ⟨e.1,f e.2⟩
  have hn : (t.entries.map g).Nodup := by
    have hk : (t.entries.map g).map Sigma.fst = t.keys := by simp [AList.keys,List.keys,g]
    exact List.Nodup.of_map Sigma.fst (hk ▸ t.keys_nodup)
  have hp : u.entries.Perm (t.entries.map g) := by
    rw [List.perm_ext_iff_of_nodup u.nodupKeys.nodup hn]
    rintro ⟨k,v⟩
    rw [← lookup_eq_some,h k,Option.map_eq_some_iff,List.mem_map]
    constructor
    · rintro ⟨w,hw,rfl⟩
      exact ⟨⟨k,w⟩,lookup_eq_some.mp hw,rfl⟩
    · rintro ⟨⟨j,w⟩,hw,he⟩
      cases he
      exact ⟨w,lookup_eq_some.mpr hw,rfl⟩
  simpa [values,List.map_map,Function.comp_def,g] using hp.map Sigma.snd

theorem values_map_perm {W : Type} {t u : Table K V} {f : V → W}
    (h : ∀ k, (u.lookup k).map f = (t.lookup k).map f) : (u.values.map f).Perm (t.values.map f) := by
  let g : (Sigma fun _ : K => V) → Sigma fun _ : K => W := fun e => ⟨e.1,f e.2⟩
  have nodup (t : Table K V) : (t.entries.map g).Nodup := by
    have hk : (t.entries.map g).map Sigma.fst = t.keys := by simp [AList.keys,List.keys,g]
    exact List.Nodup.of_map Sigma.fst (hk ▸ t.keys_nodup)
  have mem (t : Table K V) (k : K) (w : W) : ⟨k,w⟩ ∈ t.entries.map g ↔ (t.lookup k).map f = some w := by
    rw [List.mem_map,Option.map_eq_some_iff]
    constructor
    · rintro ⟨⟨j,v⟩,hv,he⟩
      cases he
      exact ⟨v,lookup_eq_some.mpr hv,rfl⟩
    · rintro ⟨v,hv,rfl⟩
      exact ⟨⟨k,v⟩,lookup_eq_some.mp hv,rfl⟩
  have hp : (u.entries.map g).Perm (t.entries.map g) := by
    rw [List.perm_ext_iff_of_nodup (nodup u) (nodup t)]
    rintro ⟨k,w⟩
    rw [mem,mem,h]
  simpa [values,List.map_map,Function.comp_def,g] using hp.map Sigma.snd

theorem values_map_nodup {t : Table K V} {key : V → K}
    (hk : ∀ k v, t.lookup k = some v → key v = k) : (t.values.map key).Nodup := by
  have he : t.values.map key = t.keys := by
    simp only [values,AList.keys,List.keys,List.map_map]
    apply List.map_congr_left
    rintro ⟨k,v⟩ hm
    exact hk k v (lookup_eq_some.mpr hm)
  rw [he]
  exact t.keys_nodup

/-- Collecting a table's values after a change that keeps their keys changes
every record in place. -/
theorem lookup_collect_map {t : Table K V} {key : V → K} {f : V → V} {xs : List V}
    (hk : ∀ k v, t.lookup k = some v → key v = k) (hf : ∀ v, key (f v) = key v)
    (hp : xs.Perm t.values) (k : K) :
    (collect key (xs.map f)).lookup k = (t.lookup k).map f := by
  have hn : ((xs.map f).map key).Nodup := by
    rw [List.map_map,show key ∘ f = key from funext hf]
    exact (hp.map key).nodup_iff.mpr (values_map_nodup hk)
  ext v
  rw [lookup_collect hn,List.mem_map,Option.map_eq_some_iff]
  simp only [hp.mem_iff,mem_values]
  constructor
  · rintro ⟨rfl,w,⟨j,hj⟩,rfl⟩
    rw [hf,hk j w hj]
    exact ⟨w,hj,rfl⟩
  · rintro ⟨w,hw,rfl⟩
    exact ⟨(hf w).trans (hk k w hw),w,⟨k,hw⟩,rfl⟩

end Table

namespace Listing

variable {α κ : Type} [LinearOrder κ]

def sortByKey (key : α → κ) (xs : List α) : List α :=
  xs.insertionSort (fun x y => key x ≤ key y)

variable {key : α → κ}

theorem sortByKey_perm (key : α → κ) (xs : List α) : (sortByKey key xs).Perm xs :=
  List.perm_insertionSort _ xs

@[simp] theorem mem_sortByKey {xs : List α} {x : α} : x ∈ sortByKey key xs ↔ x ∈ xs :=
  (sortByKey_perm key xs).mem_iff

theorem sortByKey_pairwise (key : α → κ) (xs : List α) :
    (sortByKey key xs).Pairwise (fun x y => key x ≤ key y) := by
  have : Std.Total (fun x y : α => key x ≤ key y) := ⟨fun x y => le_total (key x) (key y)⟩
  have : IsTrans α (fun x y => key x ≤ key y) := ⟨fun x y z h k => le_trans h k⟩
  exact List.pairwise_insertionSort _ xs

theorem sortByKey_pairwise_lt {xs : List α} (hn : (xs.map key).Nodup) :
    (sortByKey key xs).Pairwise (fun x y => key x < key y) := by
  have hd := ((sortByKey_perm key xs).map key).nodup_iff.mpr hn
  exact ((sortByKey_pairwise key xs).and (List.pairwise_map.mp hd)).imp
    (fun h => lt_of_le_of_ne h.1 h.2)

theorem eq_of_perm_of_pairwise {xs ys : List α} (hp : xs.Perm ys)
    (hn : (ys.map key).Nodup)
    (hx : xs.Pairwise (fun x y => key x ≤ key y))
    (hy : ys.Pairwise (fun x y => key x ≤ key y)) : xs = ys := by
  apply List.Perm.eq_of_pairwise _ hx hy hp
  intro a b ha hb hab hba
  exact List.inj_on_of_nodup_map hn (hp.mem_iff.mp ha) hb (le_antisymm hab hba)

theorem sortByKey_congr {xs ys : List α} (hp : xs.Perm ys) (hn : (ys.map key).Nodup) :
    sortByKey key xs = sortByKey key ys :=
  eq_of_perm_of_pairwise
    ((sortByKey_perm key xs).trans (hp.trans (sortByKey_perm key ys).symm))
    (((sortByKey_perm key ys).map key).nodup_iff.mpr hn)
    (sortByKey_pairwise key xs) (sortByKey_pairwise key ys)

theorem sortByKey_map {f : α → α} {xs ys : List α} (hf : ∀ x, key (f x) = key x)
    (hp : xs.Perm (ys.map f)) (hn : (ys.map key).Nodup) :
    sortByKey key xs = (sortByKey key ys).map f := by
  have hk : (fun x y => key (f x) ≤ key (f y)) = fun x y => key x ≤ key y := by
    funext x y
    rw [hf,hf]
  have hm : ((sortByKey key ys).map f).Pairwise (fun x y => key x ≤ key y) := by
    rw [List.pairwise_map,hk]
    exact sortByKey_pairwise key ys
  have hd : (((sortByKey key ys).map f).map key).Nodup := by
    rw [List.map_map,show key ∘ f = key from funext hf]
    exact ((sortByKey_perm key ys).map key).nodup_iff.mpr hn
  exact eq_of_perm_of_pairwise
    ((sortByKey_perm key xs).trans (hp.trans ((sortByKey_perm key ys).symm.map f)))
    hd (sortByKey_pairwise key xs) hm

end Listing
