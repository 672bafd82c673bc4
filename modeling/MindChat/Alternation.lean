import Mathlib.Data.List.Basic

/-! Histories in which something goes up and down: it does not go up twice without
going down in between. -/

namespace Alternation

variable {α : Type} {mark : α → Option Bool}

/-- Where an item with the mark leads, from being up or not; an item without a mark
does not matter. -/
def next (live : Bool) : Option Bool → Option Bool
  | none => some live
  | some true => if live then none else some true
  | some false => some false

/-- Whether it is up after the items, where it never goes up twice. -/
def after (mark : α → Option Bool) (live : Bool) (items : List α) : Option Bool :=
  items.foldlM (fun live item => next live (mark item)) live

@[simp] theorem after_nil (live : Bool) : after mark live [] = some live := rfl

theorem after_cons (live : Bool) (item : α) (items : List α) :
    after mark live (item :: items) = (next live (mark item)).bind (after mark · items) := rfl

theorem after_append (live : Bool) (xs ys : List α) :
    after mark live (xs ++ ys) = (after mark live xs).bind (after mark · ys) := by
  induction xs generalizing live with
  | nil => rfl
  | cons x xs ih =>
    rw [List.cons_append,after_cons,after_cons]
    cases next live (mark x) with
    | none => rfl
    | some live' => exact ih live'

theorem next_mono {live live' r : Bool} {m : Option Bool} (hl : live' = true → live = true)
    (h : next live m = some r) : ∃ r', next live' m = some r' ∧ (r' = true → r = true) := by
  match m with
  | none =>
    cases h
    exact ⟨live',rfl,hl⟩
  | some true =>
    cases live with
    | true => cases h
    | false =>
      cases live' with
      | true => cases hl rfl
      | false => exact ⟨r,h,id⟩
  | some false => exact ⟨false,rfl,nofun⟩

theorem isSome_of_prefix {live : Bool} {xs ys : List α} (hp : xs <+: ys)
    (h : (after mark live ys).isSome) : (after mark live xs).isSome := by
  obtain ⟨zs,rfl⟩ := hp
  rw [after_append] at h
  cases hx : after mark live xs with
  | none => rw [hx] at h; cases h
  | some live' => rfl

theorem after_filterMap (live : Bool) (xs : List α) :
    after mark live xs = after some live (xs.filterMap mark) := by
  induction xs generalizing live with
  | nil => rfl
  | cons x xs ih =>
    rw [after_cons]
    cases hx : mark x with
    | none =>
      rw [List.filterMap_cons_none hx]
      exact ih live
    | some m =>
      rw [List.filterMap_cons_some hx,after_cons]
      cases next live (some m) with
      | none => rfl
      | some live' => exact ih live'

theorem after_eq_of_marks {β : Type} {mark' : β → Option Bool} {live : Bool} {xs : List α}
    {ys : List β} (h : xs.filterMap mark = ys.filterMap mark') :
    after mark live xs = after mark' live ys := by
  rw [after_filterMap,h,← after_filterMap]

theorem after_of_mark {live : Bool} {m : Option Bool} {xs : List α}
    (h : xs.filterMap mark = m.toList) : after mark live xs = next live m := by
  rw [after_filterMap,h]
  cases m with
  | none => rfl
  | some m =>
    rw [Option.toList_some,after_cons]
    exact Option.bind_fun_some _

end Alternation
