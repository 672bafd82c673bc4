import Mathlib.Data.List.TakeWhile
import Mathlib.Data.Vector.Defs
import Mathlib.Tactic.Common

/-! IP address literals as `Ipv4Addr::from_str` and `Ipv6Addr::from_str` of the
Rust standard library read them. A reader that fails leaves its text unread. -/

abbrev Ipv4Addr := List.Vector UInt8 4

abbrev Ipv6Addr := List.Vector UInt16 8

def Ipv6Addr.octets (ip : Ipv6Addr) : List UInt8 :=
  ip.toList.flatMap fun group : UInt16 => [(group >>> 8).toUInt8,group.toUInt8]

namespace IpLiteral

abbrev Reader (α : Type) := List Char → Option (α × List Char)

/-- `char::to_digit` for a radix up to 16. -/
def toDigit (radix : ℕ) (c : Char) : Option ℕ :=
  let n := c.toNat
  let digit :=
    if 0x30 ≤ n ∧ n ≤ 0x39 then some (n - 0x30)
    else if 0x61 ≤ n ∧ n ≤ 0x66 then some (n - 0x61 + 10)
    else if 0x41 ≤ n ∧ n ≤ 0x46 then some (n - 0x41 + 10)
    else none
  digit.filter (· < radix)

def readGivenChar (target : Char) : Reader Unit
  | [] => none
  | c :: cs => if c = target then some ((),cs) else none

/-- A separator stands before every item but the first. -/
def readSeparator {α : Type} (sep : Char) (index : ℕ) (inner : Reader α) : Reader α := fun cs =>
  if index = 0 then inner cs else (readGivenChar sep cs).bind fun r => inner r.2

/-- A number of at most `maxDigits` digits below `bound`. -/
def readNumber (radix maxDigits : ℕ) (allowZeroPrefix : Bool) (bound : ℕ) : Reader ℕ := fun cs =>
  let isDigit := fun c => (toDigit radix c).isSome
  let digits := cs.takeWhile isDigit
  let value := digits.foldl (fun value c => value * radix + (toDigit radix c).getD 0) 0
  if digits.length = 0 ∨ maxDigits < digits.length then none
  else if allowZeroPrefix = false ∧ digits.head? = some '0' ∧ 1 < digits.length then none
  else if value < bound then some (value,cs.dropWhile isDigit)
  else none

def readOctet (index : ℕ) : Reader UInt8 := fun cs =>
  (readSeparator '.' index (readNumber 10 3 false 256) cs).map fun r => (UInt8.ofNat r.1,r.2)

def readIpv4Addr : Reader Ipv4Addr := fun cs => do
  let (a,cs) ← readOctet 0 cs
  let (b,cs) ← readOctet 1 cs
  let (c,cs) ← readOctet 2 cs
  let (d,cs) ← readOctet 3 cs
  some (⟨[a,b,c,d],rfl⟩,cs)

/-- The two groups of an embedded IPv4 address. -/
def embedded (ip : Ipv4Addr) : List UInt16 :=
  [(ip.get 0).toUInt16 <<< 8 ||| (ip.get 1).toUInt16,(ip.get 2).toUInt16 <<< 8 ||| (ip.get 3).toUInt16]

/-- At most `slots` groups from the `index`-th on, and whether the last two are
an embedded IPv4 address. -/
def readGroups (index : ℕ) : ℕ → List Char → List UInt16 × Bool × List Char
  | 0,cs => ([],false,cs)
  | slots+1,cs =>
    match if 0 < slots then readSeparator ':' index readIpv4Addr cs else none with
    | some (ip,rest) => (embedded ip,true,rest)
    | none =>
      match readSeparator ':' index (readNumber 16 4 true 65536) cs with
      | some (group,rest) =>
        let (groups,ipv4,rest) := readGroups (index + 1) slots rest
        (UInt16.ofNat group :: groups,ipv4,rest)
      | none => ([],false,cs)

theorem length_readGroups_le (slots index : ℕ) (cs : List Char) :
    (readGroups index slots cs).1.length ≤ slots := by
  induction slots generalizing index cs with
  | zero => exact Nat.le_refl 0
  | succ slots ih =>
    unfold readGroups
    split
    · next ip rest hip =>
      by_cases hs : 0 < slots
      · simp only [embedded,List.length_cons,List.length_nil]
        omega
      · simp [if_neg hs] at hip
    · split
      · exact Nat.succ_le_succ (ih _ _)
      · exact Nat.zero_le _

/-- The groups before `::`, then the zeros it stands for, then those after it. -/
def fill (head tail : List UInt16) : List UInt16 :=
  head ++ List.replicate (8 - tail.length - head.length) 0 ++ tail

theorem length_fill {head tail : List UInt16} (h : head.length + tail.length ≤ 8) :
    (fill head tail).length = 8 := by
  simp only [fill,List.length_append,List.length_replicate]
  omega

def readIpv6Addr : Reader Ipv6Addr := fun cs =>
  let front := readGroups 0 8 cs
  if h : front.1.length = 8 then some (⟨front.1,h⟩,front.2.2)
  else if front.2.1 then none
  else do
    let ((),rest) ← readGivenChar ':' front.2.2
    let ((),rest) ← readGivenChar ':' rest
    -- `::` stands for at least one group
    let back := readGroups 0 (8 - (front.1.length + 1)) rest
    have hf : front.1.length ≤ 8 := length_readGroups_le 8 0 cs
    have hb : back.1.length ≤ 8 - (front.1.length + 1) := length_readGroups_le _ 0 rest
    some (⟨fill front.1 back.1,length_fill (by omega)⟩,back.2.2)

def parseWith {α : Type} (inner : Reader α) (s : String) : Option α :=
  match inner s.toList with
  | some (a,[]) => some a
  | _ => none

def parseIpv4 (s : String) : Option Ipv4Addr :=
  if 15 < s.utf8ByteSize then none else parseWith readIpv4Addr s

def parseIpv6 (s : String) : Option Ipv6Addr := parseWith readIpv6Addr s

/-- What a reader takes is made of such characters. -/
def Takes {α : Type} (P : Char → Prop) (inner : Reader α) : Prop :=
  ∀ cs a rest, inner cs = some (a,rest) → ∃ front, cs = front ++ rest ∧ ∀ c ∈ front, P c

def Dotted (c : Char) : Prop := (toDigit 10 c).isSome ∨ c = '.'

def Hextet (c : Char) : Prop := (toDigit 16 c).isSome ∨ c = '.' ∨ c = ':'

theorem isSome_toDigit {radix : ℕ} {c : Char} (h : (toDigit radix c).isSome) :
    (0x30 ≤ c.toNat ∧ c.toNat ≤ 0x39) ∨ (0x61 ≤ c.toNat ∧ c.toNat ≤ 0x66 ∧ 10 < radix) ∨
      0x41 ≤ c.toNat ∧ c.toNat ≤ 0x46 ∧ 10 < radix := by
  simp only [toDigit,Option.isSome_filter] at h
  split at h
  · next hc => exact .inl hc
  · split at h
    · next hc =>
      simp only [Option.any_some,decide_eq_true_eq] at h
      exact .inr (.inl ⟨hc.1,hc.2,by omega⟩)
    · split at h
      · next hc =>
        simp only [Option.any_some,decide_eq_true_eq] at h
        exact .inr (.inr ⟨hc.1,hc.2,by omega⟩)
      · simp at h

theorem Hextet.toNat {c : Char} (h : Hextet c) :
    (0x30 ≤ c.toNat ∧ c.toNat ≤ 0x3A) ∨ c.toNat = 0x2E ∨ (0x61 ≤ c.toNat ∧ c.toNat ≤ 0x66) ∨
      0x41 ≤ c.toNat ∧ c.toNat ≤ 0x46 := by
  rcases h with h | rfl | rfl
  · have := isSome_toDigit h
    omega
  · exact .inr (.inl rfl)
  · exact .inl (by decide)

theorem Dotted.toNat {c : Char} (h : Dotted c) :
    (0x30 ≤ c.toNat ∧ c.toNat ≤ 0x39) ∨ c.toNat = 0x2E := by
  rcases h with h | rfl
  · have := isSome_toDigit h
    omega
  · exact .inr rfl

theorem Dotted.hextet {c : Char} (h : Dotted c) : Hextet c := by
  rcases h with h | h
  · refine .inl ?_
    have hd := isSome_toDigit h
    have hdigit : 0x30 ≤ c.toNat ∧ c.toNat ≤ 0x39 := by omega
    simp only [toDigit,if_pos hdigit,Option.isSome_filter,Option.any_some,decide_eq_true_eq]
    omega
  · exact .inr (.inl h)

section Takes

variable {α : Type} {P Q : Char → Prop} {inner : Reader α}

theorem Takes.mono (h : Takes P inner) (hpq : ∀ c, P c → Q c) : Takes Q inner := by
  intro cs a rest hr
  obtain ⟨front,hcs,hf⟩ := h cs a rest hr
  exact ⟨front,hcs,fun c hc => hpq c (hf c hc)⟩

theorem readGivenChar_eq_some {target : Char} {cs rest : List Char} {u : Unit}
    (h : readGivenChar target cs = some (u,rest)) : cs = target :: rest := by
  unfold readGivenChar at h
  split at h
  · cases h
  · split at h
    · next hc =>
      cases h
      rw [hc]
    · cases h

theorem takes_givenChar {target : Char} (h : P target) : Takes P (readGivenChar target) := by
  intro cs a rest hr
  exact ⟨[target],readGivenChar_eq_some hr,by simpa using h⟩

theorem takes_separator {sep : Char} {index : ℕ} (hsep : P sep) (h : Takes P inner) :
    Takes P (readSeparator sep index inner) := by
  intro cs a rest hr
  unfold readSeparator at hr
  split at hr
  · exact h cs a rest hr
  · obtain ⟨⟨u,mid⟩,hg,hi⟩ := Option.bind_eq_some_iff.mp hr
    obtain ⟨front,rfl,hf⟩ := takes_givenChar hsep _ _ _ hg
    obtain ⟨back,rfl,hb⟩ := h _ _ _ hi
    refine ⟨front ++ back,(List.append_assoc front back rest).symm,fun c hc => ?_⟩
    exact (List.mem_append.mp hc).elim (hf c) (hb c)

theorem takes_number {radix maxDigits bound : ℕ} {allowZeroPrefix : Bool}
    (h : ∀ c, (toDigit radix c).isSome → P c) :
    Takes P (readNumber radix maxDigits allowZeroPrefix bound) := by
  intro cs a rest hr
  simp only [readNumber] at hr
  split at hr
  · cases hr
  split at hr
  · cases hr
  split at hr
  · cases hr
    exact ⟨_,List.takeWhile_append_dropWhile.symm,fun c hc =>
      h c (List.mem_takeWhile_imp (p := fun c => (toDigit radix c).isSome) hc)⟩
  · cases hr

theorem takes_octet (index : ℕ) : Takes Dotted (readOctet index) := by
  intro cs a rest hr
  obtain ⟨r,hn,he⟩ := Option.map_eq_some_iff.mp hr
  cases he
  exact takes_separator (.inr rfl) (takes_number fun c hc => .inl hc) cs r.1 r.2 hn

theorem takes_ipv4 : Takes Dotted readIpv4Addr := by
  intro cs ip rest hr
  simp only [readIpv4Addr,Option.bind_eq_bind,Option.bind_eq_some_iff,Prod.exists,
    Option.some.injEq] at hr
  obtain ⟨a,cs₁,ha,b,cs₂,hb,c,cs₃,hc,d,cs₄,hd,-,rfl⟩ := hr
  obtain ⟨w,rfl,hw⟩ := takes_octet 0 _ _ _ ha
  obtain ⟨x,rfl,hx⟩ := takes_octet 1 _ _ _ hb
  obtain ⟨y,rfl,hy⟩ := takes_octet 2 _ _ _ hc
  obtain ⟨z,rfl,hz⟩ := takes_octet 3 _ _ _ hd
  refine ⟨w ++ (x ++ (y ++ z)),by simp only [List.append_assoc],fun c hc => ?_⟩
  simp only [List.mem_append] at hc
  rcases hc with hc | hc | hc | hc
  · exact hw c hc
  · exact hx c hc
  · exact hy c hc
  · exact hz c hc

theorem separator_counts {sep : Char} {index : ℕ} (hsep : P sep) (h : Takes P inner) {cs rest : List Char}
    {a : α} (hr : readSeparator sep index inner cs = some (a,rest)) :
    ∃ front, cs = front ++ rest ∧ (∀ c ∈ front, P c) ∧ (if index = 0 then 0 else 1) ≤ front.count sep := by
  by_cases hindex : index = 0
  · obtain ⟨front,hcs,hf⟩ := takes_separator hsep h cs a rest hr
    exact ⟨front,hcs,hf,by simp [hindex]⟩
  · unfold readSeparator at hr
    rw [if_neg hindex] at hr
    obtain ⟨⟨u,mid⟩,hg,hi⟩ := Option.bind_eq_some_iff.mp hr
    obtain ⟨front,rfl,hf⟩ := h _ _ _ hi
    refine ⟨sep :: front,readGivenChar_eq_some hg,List.forall_mem_cons.mpr ⟨hsep,hf⟩,?_⟩
    simp [hindex]

end Takes

theorem readGroups_takes (slots index : ℕ) (cs : List Char) :
    ∃ front, cs = front ++ (readGroups index slots cs).2.2 ∧ (∀ c ∈ front, Hextet c) ∧
      (readGroups index slots cs).1.length ≤ front.count ':' + if index = 0 then 2 else 1 := by
  induction slots generalizing index cs with
  | zero => exact ⟨[],rfl,by simp,by simp [readGroups]⟩
  | succ slots ih =>
    have hcolon : Hextet ':' := .inr (.inr rfl)
    unfold readGroups
    split
    · next ip rest hip =>
      obtain ⟨-,hip⟩ := Option.ite_none_right_eq_some.mp hip
      obtain ⟨front,hcs,hf,hn⟩ := separator_counts hcolon (takes_ipv4.mono fun c => Dotted.hextet) hip
      refine ⟨front,hcs,hf,?_⟩
      simp only [embedded,List.length_cons,List.length_nil]
      by_cases hi : index = 0
      · rw [if_pos hi]
        omega
      · simp only [if_neg hi] at hn ⊢
        omega
    · split
      · next group rest hgroup =>
        obtain ⟨front,hcs,hf,hn⟩ :=
          separator_counts hcolon (takes_number fun c hc => .inl hc) hgroup
        obtain ⟨back,hrest,hb,hm⟩ := ih (index + 1) rest
        refine ⟨front ++ back,?_,fun c hc => (List.mem_append.mp hc).elim (hf c) (hb c),?_⟩
        · rw [List.append_assoc,← hrest]
          exact hcs
        · rw [if_neg (Nat.succ_ne_zero index)] at hm
          simp only [List.length_cons,List.count_append]
          by_cases hi : index = 0
          · rw [if_pos hi]
            omega
          · simp only [if_neg hi] at hn ⊢
            omega
      · exact ⟨[],rfl,by simp,by simp⟩

theorem takes_ipv6 {cs rest : List Char} {ip : Ipv6Addr} (h : readIpv6Addr cs = some (ip,rest)) :
    ∃ front, cs = front ++ rest ∧ (∀ c ∈ front, Hextet c) ∧ 2 ≤ front.count ':' := by
  obtain ⟨front,hcs,hf,hn⟩ := readGroups_takes 8 0 cs
  unfold readIpv6Addr at h
  dsimp only at h
  split at h
  · next h8 =>
    cases h
    rw [h8,if_pos rfl] at hn
    exact ⟨front,hcs,hf,by omega⟩
  · split at h
    · cases h
    · simp only [Option.bind_eq_bind,Option.bind_eq_some_iff,Prod.exists] at h
      obtain ⟨u,mid,hfirst,v,mid',hsecond,hback⟩ := h
      cases hback
      obtain ⟨back,hrest,hb,-⟩ := readGroups_takes (8 - ((readGroups 0 8 cs).1.length + 1)) 0 mid'
      have hcolon : Hextet ':' := .inr (.inr rfl)
      refine ⟨front ++ ':' :: ':' :: back,?_,?_,?_⟩
      · rw [List.append_assoc,List.cons_append,List.cons_append,← hrest,← readGivenChar_eq_some hsecond,
          ← readGivenChar_eq_some hfirst]
        exact hcs
      · intro c hc
        simp only [List.mem_append,List.mem_cons] at hc
        rcases hc with hc | rfl | rfl | hc
        · exact hf c hc
        · exact hcolon
        · exact hcolon
        · exact hb c hc
      · simp only [List.count_append,List.count_cons_self]
        omega

section Literals

variable {s : String}

theorem parseWith_eq_some {α : Type} {inner : Reader α} {a : α} (h : parseWith inner s = some a) :
    inner s.toList = some (a,[]) := by
  unfold parseWith at h
  split at h
  · next b hb =>
    cases h
    exact hb
  · cases h

theorem dotted_of_parseIpv4 {ip : Ipv4Addr} (h : parseIpv4 s = some ip) : ∀ c ∈ s.toList, Dotted c := by
  unfold parseIpv4 at h
  split at h
  · cases h
  · obtain ⟨front,hs,hf⟩ := takes_ipv4 _ _ _ (parseWith_eq_some h)
    rw [List.append_nil] at hs
    rwa [hs]

theorem hextet_of_parseIpv6 {ip : Ipv6Addr} (h : parseIpv6 s = some ip) :
    (∀ c ∈ s.toList, Hextet c) ∧ 2 ≤ s.toList.count ':' := by
  obtain ⟨front,hs,hf⟩ := takes_ipv6 (parseWith_eq_some h)
  rw [List.append_nil] at hs
  rwa [hs]

theorem readIpv4Addr_of_parseIpv6 {ip : Ipv6Addr} (h : parseIpv6 s = some ip) :
    readIpv4Addr s.toList = none := by
  have hr := parseWith_eq_some h
  cases hv : readIpv4Addr s.toList with
  | none => rfl
  | some r =>
    obtain ⟨ip',rest⟩ := r
    have hfront : readGroups 0 8 s.toList = (embedded ip',true,rest) := by
      have hsep : readSeparator ':' 0 readIpv4Addr s.toList = some (ip',rest) := by
        rw [readSeparator,if_pos rfl,hv]
      rw [readGroups,if_pos (by omega),hsep]
    have hnot : ¬ (embedded ip').length = 8 := by simp [embedded]
    simp only [readIpv6Addr,hfront] at hr
    rw [dif_neg hnot,if_pos trivial] at hr
    cases hr

theorem parseIpv4_of_parseIpv6 {ip : Ipv6Addr} (h : parseIpv6 s = some ip) : parseIpv4 s = none := by
  unfold parseIpv4 parseWith
  rw [readIpv4Addr_of_parseIpv6 h]
  simp

end Literals

end IpLiteral
