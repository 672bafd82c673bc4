import Mathlib.Data.List.Basic
import Mathlib.Tactic.Common

/-! A streaming JSON writer in the usual pretty layout: two spaces for each
level, one member or element a line, empty containers closed at once. A writer
takes the current depth. Sizes are counted in UTF-8 bytes. -/

namespace Json

abbrev Bytes := List UInt8

abbrev Writer := ℕ → List Char

def utf8 (cs : List Char) : Bytes := cs.flatMap String.utf8EncodeChar

def quote : Char := Char.ofNat 0x22
def backslash : Char := Char.ofNat 0x5c

def hexDigit (n : ℕ) : Char := Nat.digitChar n

/-- Quotes, backslashes and control characters are escaped, all else is kept. -/
def escapeChar (c : Char) : List Char :=
  if c = quote then [backslash,quote]
  else if c = backslash then [backslash,backslash]
  else if c.toNat = 0x08 then [backslash,'b']
  else if c.toNat = 0x09 then [backslash,'t']
  else if c.toNat = 0x0a then [backslash,'n']
  else if c.toNat = 0x0c then [backslash,'f']
  else if c.toNat = 0x0d then [backslash,'r']
  else if c.toNat < 0x20 then [backslash,'u','0','0',hexDigit (c.toNat / 16),hexDigit (c.toNat % 16)]
  else [c]

def escape (cs : List Char) : List Char := cs.flatMap escapeChar

def null : Writer := fun _ => "null".toList
def bool (b : Bool) : Writer := fun _ => if b then "true".toList else "false".toList
def num (n : ℕ) : Writer := fun _ => Nat.toDigits 10 n
def str (s : String) : Writer := fun _ => [quote] ++ escape s.toList ++ [quote]

def nullable {α : Type} (w : α → Writer) : Option α → Writer
  | none => null
  | some a => w a

def newline (depth : ℕ) : List Char := '\n' :: List.replicate (2 * depth) ' '

/-- Lines between two brackets, separated by commas. -/
def block (opening closing : Char) (lines : List (List Char)) (depth : ℕ) : List Char :=
  match lines with
  | [] => [opening,closing]
  | line :: rest =>
    [opening] ++ newline (depth + 1) ++ line ++
      rest.flatMap (fun line => [','] ++ newline (depth + 1) ++ line) ++ newline depth ++ [closing]

def arr (items : List Writer) : Writer := fun depth =>
  block '[' ']' (items.map (fun item => item (depth + 1))) depth

def obj (fields : List (String × Writer)) : Writer := fun depth =>
  block (Char.ofNat 0x7b) (Char.ofNat 0x7d)
    (fields.map (fun field => str field.1 depth ++ ": ".toList ++ field.2 (depth + 1))) depth

def size (cs : List Char) : ℕ := (utf8 cs).length

@[simp] theorem size_append (xs ys : List Char) : size (xs ++ ys) = size xs + size ys := by
  simp [size,utf8]

theorem size_cons (c : Char) (cs : List Char) : size (c :: cs) = size [c] + size cs :=
  size_append [c] cs

theorem size_str (s : String) (depth : ℕ) : size (str s depth) = size (escape s.toList) + 2 := by
  have hq : size [quote] = 1 := by decide
  simp only [str,size_append,hq]
  omega

theorem escape_replicate (n : ℕ) : escape (List.replicate n 'a') = List.replicate n 'a' := by
  induction n with
  | zero => rfl
  | succ n ih =>
    have ha : escapeChar 'a' = ['a'] := by decide
    rw [List.replicate_succ]
    simp only [escape,List.flatMap_cons,ha] at ih ⊢
    rw [ih]
    rfl

theorem size_replicate (n : ℕ) : size (List.replicate n 'a') = n := by
  induction n with
  | zero => rfl
  | succ n ih =>
    have ha : size ['a'] = 1 := by decide
    rw [List.replicate_succ,size_cons,ih,ha]
    omega

end Json
