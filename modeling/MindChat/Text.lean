import Mathlib.Data.List.Basic

/-! Text operations of the Rust and Kotlin standard libraries on Unicode strings:
the white space tests, trimming, and splitting at a character. -/

namespace Text

/-- The Unicode `White_Space` property, as `char::is_whitespace` tests it. -/
def isWhitespace (c : Char) : Bool :=
  let n := c.toNat
  (9 ≤ n && n ≤ 13) || n == 0x20 || n == 0x85 || n == 0xA0 || n == 0x1680 ||
    (0x2000 ≤ n && n ≤ 0x200A) || n == 0x2028 || n == 0x2029 || n == 0x202F ||
    n == 0x205F || n == 0x3000

def trimChars (cs : List Char) : List Char :=
  ((cs.dropWhile isWhitespace).reverse.dropWhile isWhitespace).reverse

def trim (s : String) : String := String.ofList (trimChars s.toList)

/-- `Char.isWhitespace` of Kotlin. -/
def isWhitespaceKotlin (c : Char) : Bool :=
  (isWhitespace c && c.toNat != 0x85) || (0x1C ≤ c.toNat && c.toNat ≤ 0x1F)

def trimKotlin (s : String) : String :=
  String.ofList ((s.toList.dropWhile isWhitespaceKotlin).reverse.dropWhile isWhitespaceKotlin).reverse

/-- The items of `str::split` at one character; never empty. -/
def split (sep : Char) (s : String) : List String :=
  (s.toList.splitOn sep).map String.ofList

def splitWhitespace (cs : List Char) : List (List Char) :=
  (cs.splitOnP isWhitespace).filter (fun word => word ≠ [])

/-- `str::contains(char::is_whitespace)`. -/
def containsWhitespace (s : String) : Bool := s.toList.any isWhitespace

/-- `str::chars().count()`. -/
def charCount (s : String) : ℕ := s.toList.length

def stripPrefix (c : Char) (s : String) : Option String :=
  match s.toList with
  | [] => none
  | d :: cs => if d = c then some (String.ofList cs) else none

/-- `str::split_once`, at the first separator. -/
def splitOnce (sep : Char) (s : String) : Option (String × String) :=
  match s.toList.dropWhile (· ≠ sep) with
  | [] => none
  | _ :: back => some (String.ofList (s.toList.takeWhile (· ≠ sep)),String.ofList back)

/-- `str::rsplit_once`, at the last separator. -/
def rsplitOnce (sep : Char) (s : String) : Option (String × String) :=
  match s.toList.reverse.dropWhile (· ≠ sep) with
  | [] => none
  | _ :: front =>
    some (String.ofList front.reverse,String.ofList (s.toList.reverse.takeWhile (· ≠ sep)).reverse)

/-- The text before the first separator, or all of it. -/
def before (sep : Char) (s : String) : String := ((split sep s).head?).getD s

theorem isWhitespace_of_isDigit {c : Char} (h : c.isDigit) : isWhitespace c = false := by
  simp only [Char.isDigit,Bool.and_eq_true,decide_eq_true_eq] at h
  have h₁ : 48 ≤ c.toNat := h.1
  have h₂ : c.toNat ≤ 57 := h.2
  simp only [isWhitespace,Bool.or_eq_false_iff,Bool.and_eq_false_iff,decide_eq_false_iff_not,
    beq_eq_false_iff_ne]
  omega

theorem trim_eq_self {s : String} (h : containsWhitespace s = false) : trim s = s := by
  have hs : ∀ c ∈ s.toList, ¬ isWhitespace c = true := by simpa [containsWhitespace] using h
  have hdrop : ∀ cs : List Char, (∀ c ∈ cs, ¬ isWhitespace c = true) → cs.dropWhile isWhitespace = cs := by
    intro cs hcs
    cases cs with
    | nil => rfl
    | cons c cs => exact List.dropWhile_cons_of_neg (hcs c List.mem_cons_self)
  rw [trim,trimChars,hdrop s.toList hs,
    hdrop _ (fun c hc => hs c (List.mem_reverse.mp hc)),List.reverse_reverse,String.ofList_toList]

theorem containsWhitespace_of_subset {s t : String} (h : ∀ c ∈ s.toList, c ∈ t.toList)
    (ht : containsWhitespace t = false) : containsWhitespace s = false := by
  simp only [containsWhitespace,List.any_eq_false] at ht ⊢
  exact fun c hc => ht c (h c hc)

theorem mem_of_splitOnce {sep : Char} {s front back : String} (h : splitOnce sep s = some (front,back)) :
    (∀ c ∈ front.toList, c ∈ s.toList) ∧ ∀ c ∈ back.toList, c ∈ s.toList := by
  unfold splitOnce at h
  split at h
  · cases h
  · next d tail hd =>
    cases h
    simp only [String.toList_ofList]
    refine ⟨fun c hc => (List.takeWhile_prefix _).mem hc,fun c hc => ?_⟩
    exact (List.dropWhile_suffix (· ≠ sep)).mem (hd ▸ List.mem_cons_of_mem d hc)

theorem mem_of_rsplitOnce {sep : Char} {s front back : String} (h : rsplitOnce sep s = some (front,back)) :
    (∀ c ∈ front.toList, c ∈ s.toList) ∧ ∀ c ∈ back.toList, c ∈ s.toList := by
  unfold rsplitOnce at h
  split at h
  · cases h
  · next d tail hd =>
    cases h
    simp only [String.toList_ofList,List.mem_reverse]
    refine ⟨fun c hc => ?_,fun c hc => List.mem_reverse.mp ((List.takeWhile_prefix _).mem hc)⟩
    exact List.mem_reverse.mp ((List.dropWhile_suffix (· ≠ sep)).mem (hd ▸ List.mem_cons_of_mem d hc))

theorem splitOnce_append {sep : Char} {front : List Char} (h : sep ∉ front) (back : List Char) :
    splitOnce sep (String.ofList (front ++ sep :: back)) =
      some (String.ofList front,String.ofList back) := by
  have hf : ∀ c ∈ front, decide (c ≠ sep) = true := by
    intro c hc
    exact decide_eq_true (ne_of_mem_of_not_mem hc h)
  have hd : (front ++ sep :: back).dropWhile (· ≠ sep) = sep :: back := by
    rw [List.dropWhile_append_of_pos hf,List.dropWhile_cons_of_neg (by simp)]
  have ht : (front ++ sep :: back).takeWhile (· ≠ sep) = front := by
    rw [List.takeWhile_append_of_pos hf,List.takeWhile_cons_of_neg (by simp),List.append_nil]
  simp only [splitOnce,String.toList_ofList,hd,ht]

theorem stripPrefix_cons (c : Char) (cs : List Char) :
    stripPrefix c (String.ofList (c :: cs)) = some (String.ofList cs) := by
  simp [stripPrefix]

theorem stripPrefix_eq_none {c : Char} {s : String} (h : c ∉ s.toList) : stripPrefix c s = none := by
  unfold stripPrefix
  split
  · rfl
  · next d cs hs =>
    have hne : d ≠ c := by
      rintro rfl
      exact h (hs ▸ List.mem_cons_self)
    exact if_neg hne

theorem mem_of_stripPrefix {c : Char} {s rest : String} (h : stripPrefix c s = some rest) :
    s.toList = c :: rest.toList := by
  unfold stripPrefix at h
  split at h
  · cases h
  · next d cs hs =>
    split at h
    · next hd =>
      cases h
      rw [hs,hd,String.toList_ofList]
    · cases h

theorem splitWhitespace_append (front back : List Char) {sep : Char} (hsep : isWhitespace sep = true) :
    splitWhitespace (front ++ sep :: back) = splitWhitespace front ++ splitWhitespace back := by
  rw [splitWhitespace,List.splitOnP_append_cons front back hsep,List.filter_append]
  rfl

theorem ne_nil_of_mem_splitWhitespace {cs word : List Char} (h : word ∈ splitWhitespace cs) : word ≠ [] := by
  simpa using (List.mem_filter.mp h).2

theorem prefix_head_splitWhitespace {front cs : List Char} (hne : front ≠ [])
    (hf : ∀ c ∈ front, isWhitespace c = false) (h : front <+: cs) :
    ∃ word words, splitWhitespace cs = word :: words ∧ front <+: word := by
  obtain ⟨tail,rfl⟩ := h
  let run := tail.takeWhile (fun c => !isWhitespace c)
  have hrun : ∀ c ∈ front ++ run, isWhitespace c = false := by
    intro c hc
    rcases List.mem_append.mp hc with hc | hc
    · exact hf c hc
    · have hall := List.all_takeWhile (p := fun c => !isWhitespace c) (l := tail)
      simpa using List.all_eq_true.mp hall c hc
  have hword : front ++ run ≠ [] := fun hn => hne (List.append_eq_nil_iff.mp hn).1
  have htail : tail = run ++ tail.dropWhile (fun c => !isWhitespace c) :=
    (List.takeWhile_append_dropWhile).symm
  cases hd : tail.dropWhile (fun c => !isWhitespace c) with
  | nil =>
    rw [hd,List.append_nil] at htail
    refine ⟨front ++ run,[],?_,List.prefix_append _ _⟩
    rw [htail,splitWhitespace,List.splitOnP_eq_singleton hrun]
    exact List.filter_eq_self.mpr (by simp [hne])
  | cons sep back =>
    have hsep : isWhitespace sep = true := by
      have hh := List.head_dropWhile_not (fun c => !isWhitespace c) (w := by rw [hd]; simp)
      simpa [hd] using hh
    rw [hd] at htail
    refine ⟨front ++ run,splitWhitespace back,?_,List.prefix_append _ _⟩
    rw [htail,← List.append_assoc,splitWhitespace,
      List.splitOnP_append_cons_of_forall_mem hrun sep hsep]
    exact List.filter_cons_of_pos (decide_eq_true hword)

end Text
