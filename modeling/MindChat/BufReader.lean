import Mathlib.Data.List.Basic
import Mathlib.Tactic.Common

/-! Buffered readers over a stream that arrives in chunks. What reading up to a delimiter returns
and leaves does not depend on the chunks, and how much a reader has taken does. -/

section

variable {α : Type} [DecidableEq α]

/-- Up to and with the first delimiter, and the rest; all of it if there is none. -/
def splitAfter (delim : α) : List α → List α × List α
  | [] => ([],[])
  | a :: as =>
    if a = delim then ([a],as) else (a :: (splitAfter delim as).1,(splitAfter delim as).2)

theorem splitAfter_append (delim : α) (s : List α) :
    (splitAfter delim s).1 ++ (splitAfter delim s).2 = s := by
  induction s with
  | nil => rfl
  | cons a as ih =>
    rw [splitAfter]
    split
    · rfl
    · exact congrArg (a :: ·) ih

theorem length_splitAfter_snd_le (delim : α) (s : List α) : (splitAfter delim s).2.length ≤ s.length := by
  have h := congrArg List.length (splitAfter_append delim s)
  rw [List.length_append] at h
  omega

theorem splitAfter_of_not_mem {delim : α} {s : List α} (h : delim ∉ s) : splitAfter delim s = (s,[]) := by
  induction s with
  | nil => rfl
  | cons a as ih =>
    rw [List.mem_cons,not_or] at h
    rw [splitAfter,if_neg (Ne.symm h.1),ih h.2]

theorem splitAfter_line {delim : α} {body : List α} (h : delim ∉ body) (rest : List α) :
    splitAfter delim (body ++ delim :: rest) = (body ++ [delim],rest) := by
  induction body with
  | nil => exact if_pos rfl
  | cons a as ih =>
    rw [List.mem_cons,not_or] at h
    rw [List.cons_append,splitAfter,if_neg (Ne.symm h.1),ih h.2]
    rfl

theorem splitAfter_of_mem {delim : α} {s : List α} (h : delim ∈ s) (more : List α) :
    splitAfter delim (s ++ more) = ((splitAfter delim s).1,(splitAfter delim s).2 ++ more) := by
  obtain ⟨body,rest,rfl,hbody⟩ := List.eq_append_cons_of_mem h
  rw [List.append_assoc,List.cons_append,splitAfter_line hbody,splitAfter_line hbody]

theorem splitAfter_of_not_mem_left {delim : α} {s : List α} (h : delim ∉ s) (more : List α) :
    splitAfter delim (s ++ more) = (s ++ (splitAfter delim more).1,(splitAfter delim more).2) := by
  induction s with
  | nil => rfl
  | cons a as ih =>
    rw [List.mem_cons,not_or] at h
    rw [List.cons_append,splitAfter,if_neg (Ne.symm h.1),ih h.2]
    rfl

theorem splitAfter_snd_le {delim : α} (s : List α) :
    (splitAfter delim s).2.length ≤ s.length - 1 := by
  cases s with
  | nil => exact Nat.le_refl 0
  | cons a as =>
    rw [splitAfter]
    split
    · exact Nat.le_refl _
    · exact length_splitAfter_snd_le delim as

theorem splitAfter_snd_lt {delim : α} {s : List α} (h : delim ∈ s) :
    (splitAfter delim s).2.length < s.length := by
  obtain ⟨body,rest,rfl,hbody⟩ := List.eq_append_cons_of_mem h
  rw [splitAfter_line hbody,List.length_append,List.length_cons]
  exact Nat.lt_add_left _ (Nat.lt_succ_self rest.length)

end

/-- What one read of the stream brings. -/
structure Chunk (α : Type) (capacity : ℕ) where
  bytes : List α
  ne_nil : bytes ≠ []
  fits : bytes.length ≤ capacity

theorem Chunk.length_flatMap_le {α : Type} {capacity : ℕ} {later chunks : List (Chunk α capacity)}
    (h : later <:+ chunks) : (later.flatMap bytes).length ≤ (chunks.flatMap bytes).length := by
  obtain ⟨before,rfl⟩ := h
  rw [List.flatMap_append,List.length_append]
  exact Nat.le_add_left _ _

theorem Chunk.suffix_of_taken {α : Type} {capacity : ℕ} {later before after : List (Chunk α capacity)}
    {chunk : Chunk α capacity} (h : later <:+ before ++ chunk :: after)
    (ht : ¬ chunk :: after <:+ later) : later <:+ after := by
  rcases List.suffix_or_suffix_of_suffix h (List.suffix_append _ _) with hs | hs
  · rcases List.suffix_cons_iff.mp hs with rfl | hs
    · exact absurd List.suffix_rfl ht
    · exact hs
  · exact absurd hs ht

/-- A reader as its user knows it: the buffer, the chunks to come, the error behind them unless the
stream just ends, and reading up to a delimiter. -/
structure BufRead (R α E : Type) (capacity : ℕ) where
  new : List (Chunk α capacity) → Option E → R
  buffered : R → List α
  arriving : R → List (Chunk α capacity)
  failure : R → Option E
  readUntil : α → R → Except E (List α) × R

namespace BufRead

variable {R α E : Type} {capacity : ℕ} (io : BufRead R α E capacity)

def inFlight (r : R) : List α := (io.arriving r).flatMap Chunk.bytes

/-- What the reads to come find, whichever chunks it comes in. -/
def unread (r : R) : List α := io.buffered r ++ io.inFlight r

/-- What came from the stream between two states of a reader. -/
def taken (r r' : R) : ℕ := (io.inFlight r).length - (io.inFlight r').length

end BufRead

/-- A reader that keeps to the documentation. Up to a delimiter it takes whole chunks, no more than
it needs, and drops what it returns; without a delimiter it takes all and then reports what stands
behind. -/
structure BufferedReader (R α E : Type) [DecidableEq α] (capacity : ℕ) extends BufRead R α E capacity where
  buffered_new : ∀ chunks error, buffered (new chunks error) = []
  arriving_new : ∀ chunks error, arriving (new chunks error) = chunks
  fits : ∀ r, (buffered r).length ≤ capacity
  readUntil_mem : ∀ {delim r}, delim ∈ toBufRead.unread r → ∃ r',
    readUntil delim r = (.ok (splitAfter delim (toBufRead.unread r)).1,r') ∧
      toBufRead.unread r' = (splitAfter delim (toBufRead.unread r)).2 ∧ failure r' = failure r ∧
      arriving r' <:+ arriving r ∧ (buffered r').length < capacity
  readUntil_not_mem : ∀ {delim r}, delim ∉ toBufRead.unread r →
    (readUntil delim r).1 = (failure r).elim (.ok (toBufRead.unread r)) .error ∧
      toBufRead.unread (readUntil delim r).2 = []

namespace BufferedReader

variable {R α E : Type} [DecidableEq α] {capacity : ℕ} (io : BufferedReader R α E capacity)

@[simp] theorem inFlight_new (arriving : List (Chunk α capacity)) (failure : Option E) :
    io.inFlight (io.new arriving failure) = arriving.flatMap Chunk.bytes := by
  rw [BufRead.inFlight,io.arriving_new]

@[simp] theorem unread_new (arriving : List (Chunk α capacity)) (failure : Option E) :
    io.unread (io.new arriving failure) = arriving.flatMap Chunk.bytes := by
  rw [BufRead.unread,io.buffered_new,List.nil_append,inFlight_new]

theorem taken_new {arriving : List (Chunk α capacity)} (failure : Option E) {r : R}
    (hle : (io.unread r).length ≤ (arriving.flatMap Chunk.bytes).length) :
    io.taken (io.new arriving failure) r + (io.unread r).length =
      (arriving.flatMap Chunk.bytes).length + (io.buffered r).length := by
  rw [BufRead.taken,inFlight_new]
  rw [BufRead.unread,List.length_append] at hle ⊢
  omega

theorem arriving_eq_nil {r : R} (h : io.unread r = []) : io.arriving r = [] := by
  cases ha : io.arriving r with
  | nil => rfl
  | cons chunk more =>
    rw [BufRead.unread,BufRead.inFlight,ha,List.append_eq_nil_iff,List.flatMap_cons,
      List.append_eq_nil_iff] at h
    exact absurd h.2.1 chunk.ne_nil

/-- A read takes whole chunks, and leaves none of them whole in the buffer. -/
theorem readUntil_arriving (delim : α) (r : R) :
    io.arriving (io.readUntil delim r).2 <:+ io.arriving r ∧
      (io.buffered (io.readUntil delim r).2).length ≤ capacity - 1 := by
  by_cases h : delim ∈ io.unread r
  · obtain ⟨r',hr,-,-,harriving,hlt⟩ := io.readUntil_mem h
    rw [hr]
    exact ⟨harriving,Nat.le_sub_one_of_lt hlt⟩
  · have hended := (io.readUntil_not_mem h).2
    rw [io.arriving_eq_nil hended,(List.append_eq_nil_iff.mp hended).1]
    exact ⟨List.nil_suffix,Nat.zero_le _⟩

end BufferedReader

structure BufReader (α E : Type) (capacity : ℕ) where
  buffered : List α
  fits : buffered.length ≤ capacity
  arriving : List (Chunk α capacity)
  failure : Option E

namespace BufReader

variable {α E : Type} {capacity : ℕ}

def new (arriving : List (Chunk α capacity)) (failure : Option E) : BufReader α E capacity :=
  ⟨[],Nat.zero_le _,arriving,failure⟩

def inFlight (r : BufReader α E capacity) : List α := r.arriving.flatMap Chunk.bytes

def unread (r : BufReader α E capacity) : List α := r.buffered ++ r.inFlight

variable [DecidableEq α]

def advance (delim : α) (r : BufReader α E capacity) : BufReader α E capacity where
  buffered := (splitAfter delim r.buffered).2
  fits := Nat.le_trans (length_splitAfter_snd_le delim r.buffered) r.fits
  arriving := r.arriving
  failure := r.failure

/-- The loop of `readUntil`: the buffer goes to the line up to a delimiter, and once it is empty the
next chunk takes its place. -/
def readUntilFrom (delim : α) (failure : Option E) :
    (arriving : List (Chunk α capacity)) → (line buffered : List α) → buffered.length ≤ capacity →
      Except E (List α) × BufReader α E capacity
  | [],line,buffered,fits =>
    if delim ∈ buffered then
      (.ok (line ++ (splitAfter delim buffered).1),advance delim ⟨buffered,fits,[],failure⟩)
    else (failure.elim (.ok (line ++ buffered)) .error,new [] failure)
  | chunk :: more,line,buffered,fits =>
    if delim ∈ buffered then
      (.ok (line ++ (splitAfter delim buffered).1),advance delim ⟨buffered,fits,chunk :: more,failure⟩)
    else readUntilFrom delim failure more (line ++ buffered) chunk.bytes chunk.fits

/-- The next bytes up to and with a delimiter, or to the end of the stream; none at the end. -/
def readUntil (delim : α) (r : BufReader α E capacity) : Except E (List α) × BufReader α E capacity :=
  readUntilFrom delim r.failure r.arriving [] r.buffered r.fits

/-- A line that has its delimiter is read whole, from chunks that came in order, and of the last one
the delimiter at least has left the buffer. -/
theorem readUntilFrom_mem {delim : α} (failure : Option E) (arriving : List (Chunk α capacity))
    (line : List α) {buffered : List α} (fits : buffered.length ≤ capacity)
    (h : delim ∈ buffered ++ arriving.flatMap Chunk.bytes) :
    ∃ r' : BufReader α E capacity, readUntilFrom delim failure arriving line buffered fits =
        (.ok (line ++ (splitAfter delim (buffered ++ arriving.flatMap Chunk.bytes)).1),r') ∧
      r'.unread = (splitAfter delim (buffered ++ arriving.flatMap Chunk.bytes)).2 ∧
      r'.failure = failure ∧ r'.arriving <:+ arriving ∧ r'.buffered.length < capacity := by
  induction arriving generalizing line buffered with
  | nil =>
    rw [List.flatMap_nil,List.append_nil] at h ⊢
    rw [readUntilFrom,if_pos h]
    exact ⟨_,rfl,List.append_nil _,rfl,List.suffix_rfl,Nat.lt_of_lt_of_le (splitAfter_snd_lt h) fits⟩
  | cons chunk more ih =>
    rw [readUntilFrom]
    by_cases hb : delim ∈ buffered
    · rw [if_pos hb,splitAfter_of_mem hb]
      exact ⟨_,rfl,rfl,rfl,List.suffix_rfl,Nat.lt_of_lt_of_le (splitAfter_snd_lt hb) fits⟩
    · rw [if_neg hb]
      have hmore : delim ∈ chunk.bytes ++ more.flatMap Chunk.bytes :=
        (List.mem_append.mp h).resolve_left hb
      obtain ⟨r',hr,hunread,hfailure,harriving,hlt⟩ := ih (line ++ buffered) chunk.fits hmore
      rw [List.flatMap_cons,splitAfter_of_not_mem_left hb,← List.append_assoc]
      exact ⟨r',hr,hunread,hfailure,harriving.trans (List.suffix_cons chunk more),hlt⟩

theorem readUntilFrom_not_mem {delim : α} (failure : Option E) (arriving : List (Chunk α capacity))
    (line : List α) {buffered : List α} (fits : buffered.length ≤ capacity)
    (h : delim ∉ buffered ++ arriving.flatMap Chunk.bytes) :
    readUntilFrom delim failure arriving line buffered fits =
      (failure.elim (.ok (line ++ (buffered ++ arriving.flatMap Chunk.bytes))) .error,new [] failure) := by
  induction arriving generalizing line buffered with
  | nil =>
    rw [List.flatMap_nil,List.append_nil] at h ⊢
    rw [readUntilFrom,if_neg h]
  | cons chunk more ih =>
    rw [List.mem_append,not_or] at h
    rw [readUntilFrom,if_neg h.1,ih (line ++ buffered) chunk.fits h.2,List.flatMap_cons,List.append_assoc]

variable {r : BufReader α E capacity} {delim : α}

theorem readUntil_mem (h : delim ∈ r.unread) :
    ∃ r', r.readUntil delim = (.ok (splitAfter delim r.unread).1,r') ∧
      r'.unread = (splitAfter delim r.unread).2 ∧ r'.failure = r.failure ∧
      r'.arriving <:+ r.arriving ∧ r'.buffered.length < capacity :=
  readUntilFrom_mem r.failure r.arriving [] r.fits h

theorem readUntil_not_mem (h : delim ∉ r.unread) :
    r.readUntil delim = (r.failure.elim (.ok r.unread) .error,new [] r.failure) :=
  readUntilFrom_not_mem r.failure r.arriving [] r.fits h

def reader : BufferedReader (BufReader α E capacity) α E capacity where
  new := new
  buffered := buffered
  arriving := arriving
  failure := failure
  readUntil := readUntil
  buffered_new := fun _ _ => rfl
  arriving_new := fun _ _ => rfl
  fits := fits
  readUntil_mem := readUntil_mem
  readUntil_not_mem := by
    intro delim r h
    rw [readUntil_not_mem h]
    exact ⟨rfl,rfl⟩

end BufReader
