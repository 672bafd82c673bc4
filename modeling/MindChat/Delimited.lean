import Mathlib.Data.List.Basic
import Mathlib.Tactic.Common

/-! Records written one after the other with a separator between them, and read
back by splitting at it with a decoder that may drop a record. -/

namespace Delimited

variable {C α : Type} [DecidableEq C]

def write (sep : C) (encode : α → List C) (xs : List α) : List C :=
  [sep].intercalate (xs.map encode)

def read (sep : C) (decode : List C → Option α) (text : List C) : List α :=
  (text.splitOn sep).filterMap decode

def firstPiece (sep : C) (text : List C) : List C := text.takeWhile (fun c => c ≠ sep)

variable {sep : C} {encode : α → List C} {decode : List C → Option α}

theorem firstPiece_cons (c : C) (text : List C) :
    firstPiece sep (c :: text) = if c = sep then [] else c :: firstPiece sep text := by
  by_cases hc : c = sep <;> simp [firstPiece,hc]

theorem firstPiece_append (front back : List C) :
    firstPiece sep (front ++ back) =
      if sep ∈ front then firstPiece sep front else front ++ firstPiece sep back := by
  induction front with
  | nil => simp
  | cons c front ih =>
    rw [List.cons_append,firstPiece_cons,firstPiece_cons,ih]
    by_cases hc : c = sep
    · simp [hc]
    · by_cases hf : sep ∈ front <;> simp [hc,hf,Ne.symm hc]

theorem not_mem_firstPiece (text : List C) : sep ∉ firstPiece sep text := by
  induction text with
  | nil => exact List.not_mem_nil
  | cons c text ih =>
    rw [firstPiece_cons]
    by_cases hc : c = sep
    · simp [hc]
    · simp [hc,ih,Ne.symm hc]

theorem firstPiece_eq_self {text : List C} : firstPiece sep text = text ↔ sep ∉ text := by
  constructor
  · intro h
    rw [← h]
    exact not_mem_firstPiece text
  · intro h
    have ha : firstPiece sep (text ++ []) = _ := firstPiece_append text []
    rwa [if_neg h,List.append_nil,show firstPiece sep [] = [] from rfl,List.append_nil] at ha

theorem splitOn_eq_cons (sep : C) (text : List C) :
    ∃ pieces, text.splitOn sep = firstPiece sep text :: pieces := by
  induction text with
  | nil => exact ⟨[],rfl⟩
  | cons c text ih =>
    obtain ⟨pieces,hp⟩ := ih
    rw [List.splitOn_cons_eq_if_modifyHead,hp]
    by_cases hc : c = sep
    · exact ⟨firstPiece sep text :: pieces,by simp [firstPiece_cons,hc]⟩
    · exact ⟨pieces,by simp [firstPiece_cons,hc]⟩

theorem mem_splitOn {text piece : List C} (h : piece ∈ text.splitOn sep) :
    sep ∉ piece ∧ ∀ c ∈ piece, c ∈ text := by
  induction text generalizing piece with
  | nil =>
    rw [List.splitOn_nil,List.mem_singleton] at h
    subst h
    exact ⟨List.not_mem_nil,fun c hc => hc⟩
  | cons d text ih =>
    rw [List.splitOn_cons_eq_if_modifyHead] at h
    split at h
    · rcases List.mem_cons.mp h with rfl | h
      · exact ⟨List.not_mem_nil,fun c hc => absurd hc List.not_mem_nil⟩
      · exact ⟨(ih h).1,fun c hc => List.mem_cons_of_mem _ ((ih h).2 c hc)⟩
    · next hd =>
      obtain ⟨first,pieces,hp⟩ := List.exists_cons_of_ne_nil (List.splitOn_ne_nil sep text)
      rw [hp,List.modifyHead_cons] at h
      rcases List.mem_cons.mp h with rfl | h
      · obtain ⟨hs,hm⟩ := ih (hp ▸ List.mem_cons_self : first ∈ text.splitOn sep)
        refine ⟨?_,fun c hc => ?_⟩
        · rw [List.mem_cons]
          rintro (rfl | hs')
          · exact hd (beq_self_eq_true _)
          · exact hs hs'
        · rcases List.mem_cons.mp hc with rfl | hc
          · exact List.mem_cons_self
          · exact List.mem_cons_of_mem _ (hm c hc)
      · obtain ⟨hs,hm⟩ := ih (hp ▸ List.mem_cons_of_mem _ h)
        exact ⟨hs,fun c hc => List.mem_cons_of_mem _ (hm c hc)⟩

section

omit [DecidableEq C]

theorem write_singleton (x : α) : write sep encode [x] = encode x := by simp [write]

theorem write_cons_cons (x y : α) (xs : List α) :
    write sep encode (x :: y :: xs) = encode x ++ sep :: write sep encode (y :: xs) := by
  simp [write,List.intercalate_cons_cons]

end

theorem read_write_cons (hnil : decode [] = none) {x : α} (hx : sep ∉ encode x) (xs : List α) :
    read sep decode (write sep encode (x :: xs)) =
      (decode (encode x)).toList ++ read sep decode (write sep encode xs) := by
  cases xs with
  | nil =>
    rw [write_singleton,read,List.splitOn_eq_singleton hx]
    cases h : decode (encode x) <;> simp [h,read,write,hnil]
  | cons y xs =>
    rw [write_cons_cons,read,List.splitOn_append_cons_self_of_not_mem hx]
    cases h : decode (encode x) <;> simp [h,read]

theorem read_write (hnil : decode [] = none) {xs : List α} (hs : ∀ x ∈ xs, sep ∉ encode x) :
    read sep decode (write sep encode xs) = xs.filterMap (fun x => decode (encode x)) := by
  induction xs with
  | nil => simp [read,write,hnil]
  | cons x xs ih =>
    rw [read_write_cons hnil (hs x List.mem_cons_self),ih fun y hy => hs y (List.mem_cons_of_mem _ hy)]
    cases h : decode (encode x) <;> simp [h]

theorem head_read_write {x y : α} (hy : decode (firstPiece sep (encode x)) = some y) (xs : List α) :
    (read sep decode (write sep encode (x :: xs))).head? = some y := by
  have hw : ∃ back, write sep encode (x :: xs) = encode x ++ back ∧ firstPiece sep back = [] := by
    cases xs with
    | nil => exact ⟨[],by simp [write_singleton],rfl⟩
    | cons z xs => exact ⟨_,write_cons_cons x z xs,by simp [firstPiece_cons]⟩
  obtain ⟨back,hw,hback⟩ := hw
  have hf : firstPiece sep (encode x ++ back) = firstPiece sep (encode x) := by
    rw [firstPiece_append,hback,List.append_nil]
    by_cases hx : sep ∈ encode x
    · rw [if_pos hx]
    · rw [if_neg hx,firstPiece_eq_self.mpr hx]
  obtain ⟨pieces,hp⟩ := splitOn_eq_cons sep (encode x ++ back)
  rw [read,hw,hp,hf]
  simp [hy]

/-- If every record is read back from its first piece as itself when it is
`Good` and as something else when it is not, the records survive exactly when
all are. -/
theorem read_write_iff {Good : α → Prop} (hnil : decode [] = none) {xs : List α}
    (hfirst : ∀ x ∈ xs, ∃ y, decode (firstPiece sep (encode x)) = some y ∧ (y = x → Good x))
    (hgood : ∀ x ∈ xs, Good x → sep ∉ encode x ∧ decode (encode x) = some x) :
    read sep decode (write sep encode xs) = xs ↔ ∀ x ∈ xs, Good x := by
  constructor
  · induction xs with
    | nil => intro _ x hx; exact absurd hx List.not_mem_nil
    | cons x xs ih =>
      intro h
      obtain ⟨y,hy,hyx⟩ := hfirst x List.mem_cons_self
      have hhead := head_read_write hy xs
      rw [h,List.head?_cons] at hhead
      have hx := hyx (Option.some.inj hhead).symm
      obtain ⟨hs,hd⟩ := hgood x List.mem_cons_self hx
      rw [read_write_cons hnil hs,hd] at h
      have hrest := ih (fun z hz => hfirst z (List.mem_cons_of_mem _ hz))
        (fun z hz => hgood z (List.mem_cons_of_mem _ hz)) (List.cons.inj h).2
      intro z hz
      rcases List.mem_cons.mp hz with rfl | hz
      · exact hx
      · exact hrest z hz
  · intro h
    rw [read_write hnil (fun x hx => (hgood x hx (h x hx)).1)]
    calc xs.filterMap (fun x => decode (encode x)) = xs.filterMap some :=
          List.filterMap_congr fun x hx => (hgood x hx (h x hx)).2
      _ = xs := List.filterMap_some

end Delimited
