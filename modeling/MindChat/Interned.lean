import MindChat.Table

/-! Tables that store each record under its own key and hold at most one record
of each view, as a find-or-create allocator keeps them: what the operations of a
table preserve, and that a search by the view does not depend on the order in
which the records are visited. -/

namespace List

variable {α : Type} {p : α → Bool}

theorem find?_perm {xs ys : List α} (h : xs.Perm ys) (hu : ∀ x ∈ ys, ∀ y ∈ ys, p x → p y → x = y) :
    xs.find? p = ys.find? p := by
  cases hy : ys.find? p with
  | none =>
    rw [find?_eq_none] at hy ⊢
    exact fun x hx => hy x (h.mem_iff.mp hx)
  | some y =>
    have hm := mem_of_find?_eq_some hy
    have hs : (xs.find? p).isSome := find?_isSome.mpr ⟨y,h.mem_iff.mpr hm,find?_some hy⟩
    obtain ⟨x,hx⟩ := Option.isSome_iff_exists.mp hs
    rw [hx,hu x (h.mem_iff.mp (mem_of_find?_eq_some hx)) y hm (find?_some hx) (find?_some hy)]

end List

namespace Table

variable {K V P : Type} [DecidableEq K]

structure Interned (key : V → K) (view : V → P) (t : Table K V) : Prop where
  keyed : ∀ k v, t.lookup k = some v → key v = k
  unique : ∀ j k v w, t.lookup j = some v → t.lookup k = some w → view v = view w → j = k

namespace Interned

variable {key : V → K} {view : V → P} {t u : Table K V}

theorem empty : Interned key view (∅ : Table K V) := by
  refine ⟨?_,?_⟩ <;> simp

theorem of_subset (h : Interned key view t) (hs : ∀ k v, u.lookup k = some v → t.lookup k = some v) :
    Interned key view u :=
  ⟨fun k v hv => h.keyed k v (hs k v hv),
    fun j k v w hv hw => h.unique j k v w (hs j v hv) (hs k w hw)⟩

theorem erase (h : Interned key view t) (k : K) : Interned key view (t.erase k) :=
  h.of_subset (Table.forall_erase (fun _ _ hv => hv))

theorem insert_fresh (h : Interned key view t) {v : V}
    (hn : ∀ k w, t.lookup k = some w → view w ≠ view v) : Interned key view (t.insert (key v) v) := by
  refine ⟨Table.forall_insert rfl h.keyed,?_⟩
  intro j k w x hw hx he
  rw [lookup_insert_if] at hw hx
  split at hw <;> split at hx
  · simp_all
  · cases hw
    exact (hn k x hx he.symm).elim
  · cases hx
    exact (hn j w hw he).elim
  · exact h.unique j k w x hw hx he

theorem insert_same (h : Interned key view t) {k : K} {v w : V} (ho : t.lookup k = some v)
    (hk : key w = key v) (hv : view w = view v) : Interned key view (t.insert k w) := by
  have kept : ∀ j x, (t.insert k w).lookup j = some x → ∃ y, t.lookup j = some y ∧ view y = view x :=
    Table.forall_insert ⟨v,ho,hv.symm⟩ (fun _ x hx => ⟨x,hx,rfl⟩)
  refine ⟨Table.forall_insert (hk.trans (h.keyed k v ho)) h.keyed,?_⟩
  intro i j x y hx hy he
  obtain ⟨x',hx',h₁⟩ := kept i x hx
  obtain ⟨y',hy',h₂⟩ := kept j y hy
  exact h.unique i j x' y' hx' hy' (h₁.trans (he.trans h₂.symm))

theorem collect (h : Interned key view t) {xs : List V} (hp : xs.Perm t.values) :
    Interned key view (Table.collect key xs) := by
  refine h.of_subset fun k v hv => ?_
  obtain ⟨hk,hm⟩ := lookup_collect_some hv
  obtain ⟨j,hj⟩ := Table.mem_values.mp (hp.mem_iff.mp hm)
  rwa [← hk,h.keyed j v hj]

theorem eq_of_view (h : Interned key view t) {v w : V} (hv : v ∈ t.values) (hw : w ∈ t.values)
    (he : view v = view w) : v = w := by
  obtain ⟨j,hj⟩ := Table.mem_values.mp hv
  obtain ⟨k,hk⟩ := Table.mem_values.mp hw
  cases h.unique j k v w hj hk he
  exact Option.some.inj (hj.symm.trans hk)

variable {p : V → Bool} {x : P}

theorem find?_perm (h : Interned key view t) (hp : ∀ v, p v ↔ view v = x) {xs : List V}
    (hx : xs.Perm t.values) : xs.find? p = t.values.find? p :=
  List.find?_perm hx fun v hv w hw hpv hpw =>
    h.eq_of_view hv hw (((hp v).mp hpv).trans ((hp w).mp hpw).symm)

theorem find?_eq (h : Interned key view t) (hp : ∀ v, p v ↔ view v = x) {k : K} {v : V}
    (hv : t.lookup k = some v) (he : view v = x) : t.values.find? p = some v := by
  have hm : v ∈ t.values := Table.mem_values.mpr ⟨k,hv⟩
  have hs : (t.values.find? p).isSome := List.find?_isSome.mpr ⟨v,hm,(hp v).mpr he⟩
  obtain ⟨w,hw⟩ := Option.isSome_iff_exists.mp hs
  rw [hw,h.eq_of_view (List.mem_of_find?_eq_some hw) hm (((hp w).mp (List.find?_some hw)).trans he.symm)]

theorem lookup_of_find? (h : Interned key view t) (hp : ∀ v, p v ↔ view v = x) {v : V}
    (hf : t.values.find? p = some v) : t.lookup (key v) = some v ∧ view v = x := by
  obtain ⟨k,hk⟩ := Table.mem_values.mp (List.mem_of_find?_eq_some hf)
  exact ⟨by rwa [h.keyed k v hk],(hp v).mp (List.find?_some hf)⟩

theorem find?_eq_none (hp : ∀ v, p v ↔ view v = x) (hf : t.values.find? p = none) (k : K) (v : V)
    (hv : t.lookup k = some v) : view v ≠ x := fun he =>
  List.find?_eq_none.mp hf v (Table.mem_values.mpr ⟨k,hv⟩) ((hp v).mpr he)

end Interned
end Table
