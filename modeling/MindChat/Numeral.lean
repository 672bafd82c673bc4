import Mathlib.Algebra.Group.Nat.Defs
import Mathlib.Data.List.Basic
import Mathlib.Data.Int.Init
import Mathlib.Tactic.Common

/-! Decimal numerals as the Kotlin and Rust standard libraries write and read
them, and that reading undoes writing. -/

namespace Numeral

/-- The zeros of the decimal digits in the basic multilingual plane. -/
def decimalZeros : List ℕ :=
  [0x30,0x660,0x6F0,0x7C0,0x966,0x9E6,0xA66,0xAE6,0xB66,0xBE6,0xC66,0xCE6,0xD66,0xDE6,0xE50,0xED0,
    0xF20,0x1040,0x1090,0x17E0,0x1810,0x1946,0x19D0,0x1A80,0x1A90,0x1B50,0x1BB0,0x1C40,0x1C50,0xA620,
    0xA8D0,0xA900,0xA9D0,0xA9F0,0xAA50,0xABF0,0xFF10]

/-- `digitOf` of Kotlin at radix 10. -/
def digitOf (c : Char) : Option ℕ :=
  (decimalZeros.find? (fun z => z ≤ c.toNat ∧ c.toNat < z + 10)).map (fun z => c.toNat - z)

def magnitude (digits : List Char) : Option ℕ :=
  if digits = [] then none
  else digits.foldlM (fun n c => (digitOf c).map (fun digit => 10 * n + digit)) 0

/-- A sign and digits, for the numbers from `-bound` up to `bound`. -/
def signedOrNull (bound : ℕ) : List Char → Option ℤ
  | [] => none
  | c :: cs =>
    if c = '-' then (magnitude cs).bind fun n => if n ≤ bound then some (-(n : ℤ)) else none
    else
      (magnitude (if c = '+' then cs else c :: cs)).bind fun n => if n < bound then some (n : ℤ) else none

def toIntOrNull (text : List Char) : Option Int32 := (signedOrNull (2 ^ 31) text).map Int32.ofInt

def toLongOrNull (text : List Char) : Option Int64 := (signedOrNull (2 ^ 63) text).map Int64.ofInt

/-- `str::parse` of an unsigned Rust integer up to `max`. -/
def parseUnsigned (max : ℕ) (text : List Char) : Option ℕ :=
  let digits := if text.head? = some '+' then text.tail else text
  if digits = [] ∨ digits.all Char.isDigit = false then none
  else if Nat.ofDigitChars 10 digits 0 ≤ max then some (Nat.ofDigitChars 10 digits 0)
  else none

def signed (n : ℤ) : List Char :=
  if n < 0 then '-' :: Nat.toDigits 10 n.natAbs else Nat.toDigits 10 n.natAbs

theorem digitOf_eq {c : Char} (h : c.isDigit) : digitOf c = some (c.toNat - '0'.toNat) := by
  have hc : 0x30 ≤ c.toNat ∧ c.toNat < 0x30 + 10 := by
    simp only [Char.isDigit,Bool.and_eq_true,decide_eq_true_eq,UInt32.le_iff_toNat_le,ge_iff_le] at h
    obtain ⟨h₁,h₂⟩ := h
    change 48 ≤ c.toNat at h₁
    change c.toNat ≤ 57 at h₂
    omega
  unfold digitOf decimalZeros
  rw [List.find?_cons_of_pos (by simpa using hc)]
  rfl

theorem foldlM_digits {digits : List Char} (h : ∀ c ∈ digits, c.isDigit) (n : ℕ) :
    digits.foldlM (fun n c => (digitOf c).map (fun digit => 10 * n + digit)) n =
      some (Nat.ofDigitChars 10 digits n) := by
  induction digits generalizing n with
  | nil => rfl
  | cons c digits ih =>
    rw [List.foldlM_cons,digitOf_eq (h c List.mem_cons_self),Nat.ofDigitChars_cons]
    exact ih (fun d hd => h d (List.mem_cons_of_mem _ hd)) _

theorem isDigit_toDigits {n : ℕ} {c : Char} (h : c ∈ Nat.toDigits 10 n) : c.isDigit :=
  Nat.isDigit_of_mem_toDigits (b := 10) (by omega) (Nat.le_refl 10) h

theorem head_toDigits_zero {n : ℕ} (h : (Nat.toDigits 10 n).head? = some '0') : n = 0 := by
  induction n using Nat.strongRecOn with
  | ind n ih =>
    have small : ∀ d < 10, Nat.digitChar d = '0' → d = 0 := by decide
    rw [Nat.toDigits_eq_if (by decide)] at h
    split at h
    · next hn => exact small n hn (Option.some.inj h)
    · next hn =>
      obtain ⟨c,cs,hc⟩ := List.exists_cons_of_ne_nil (Nat.toDigits_ne_nil (b := 10) (n := n / 10))
      have hz := ih (n / 10) (by omega) (by rw [hc] at h ⊢; exact h)
      omega

theorem magnitude_toDigits (n : ℕ) : magnitude (Nat.toDigits 10 n) = some n := by
  rw [magnitude,if_neg Nat.toDigits_ne_nil,foldlM_digits (fun c hc => isDigit_toDigits hc),
    Nat.ofDigitChars_ten_toDigits]

theorem signedOrNull_signed {bound : ℕ} {n : ℤ} (hl : -(bound : ℤ) ≤ n) (hu : n < bound) :
    signedOrNull bound (signed n) = some n := by
  unfold signed
  by_cases hn : n < 0
  · rw [if_pos hn,signedOrNull,if_pos rfl,magnitude_toDigits,Option.bind_some,if_pos (by omega)]
    congr 1
    omega
  · rw [if_neg hn]
    obtain ⟨c,cs,hc⟩ := List.exists_cons_of_ne_nil (Nat.toDigits_ne_nil (b := 10) (n := n.natAbs))
    have hd : c.isDigit := isDigit_toDigits (n := n.natAbs) (hc ▸ List.mem_cons_self)
    have hminus : c ≠ '-' := by rintro rfl; exact absurd hd (by decide)
    have hplus : c ≠ '+' := by rintro rfl; exact absurd hd (by decide)
    rw [hc,signedOrNull,if_neg hminus,if_neg hplus,← hc,magnitude_toDigits,Option.bind_some,
      if_pos (by omega)]
    congr 1
    omega

theorem toIntOrNull_signed (n : Int32) : toIntOrNull (signed n.toInt) = some n := by
  rw [toIntOrNull,signedOrNull_signed (by have := n.le_toInt; omega) (by have := n.toInt_lt; omega)]
  simp

theorem toLongOrNull_signed (n : Int64) : toLongOrNull (signed n.toInt) = some n := by
  rw [toLongOrNull,signedOrNull_signed (by have := n.le_toInt; omega) (by have := n.toInt_lt; omega)]
  simp

theorem mem_signed {n : ℤ} {c : Char} (h : c ∈ signed n) : c = '-' ∨ c.isDigit := by
  unfold signed at h
  split at h
  · rcases List.mem_cons.mp h with rfl | h
    · exact .inl rfl
    · exact .inr (isDigit_toDigits h)
  · exact .inr (isDigit_toDigits h)

theorem parseUnsigned_toDigits {max n : ℕ} (h : n ≤ max) :
    parseUnsigned max (Nat.toDigits 10 n) = some n := by
  obtain ⟨c,cs,hc⟩ := List.exists_cons_of_ne_nil (Nat.toDigits_ne_nil (b := 10) (n := n))
  have hplus : (Nat.toDigits 10 n).head? ≠ some '+' := by
    rw [hc,List.head?_cons]
    intro he
    cases he
    exact absurd (isDigit_toDigits (n := n) (hc ▸ List.mem_cons_self)) (by decide)
  have hall : (Nat.toDigits 10 n).all Char.isDigit = true :=
    List.all_eq_true.mpr fun d hd => isDigit_toDigits hd
  simp only [parseUnsigned]
  rw [if_neg hplus,if_neg (by simp [hall]),Nat.ofDigitChars_ten_toDigits,if_pos h]

end Numeral
