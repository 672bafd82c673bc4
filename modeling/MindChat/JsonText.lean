import MindChat.Numeral
import Mathlib.Data.List.TakeWhile
import Mathlib.Tactic.Common

/-! JSON texts as sequences of UTF-16 code units. A lexer takes one unit at a
time and a parser one token; a text has at most one value, the one it decodes to. -/

namespace JsonText

abbrev CodeUnit := UInt16

def unit (c : Char) : CodeUnit := UInt16.ofNat c.toNat

/-- One unit in the basic plane, else two surrogates. -/
def utf16Char (c : Char) : List CodeUnit :=
  if c.toNat < 0x10000 then [unit c]
  else
    let n := c.toNat - 0x10000
    [UInt16.ofNat (0xd800 + n / 0x400),UInt16.ofNat (0xdc00 + n % 0x400)]

def utf16 (s : String) : List CodeUnit := s.toList.flatMap utf16Char

def quote : CodeUnit := 0x22
def backslash : CodeUnit := 0x5c

/-- The number `mantissa * 10 ^ exponent`. -/
structure Decimal where
  mantissa : ℤ
  exponent : ℤ
  deriving DecidableEq

inductive Scalar
  | null
  | bool (b : Bool)
  | number (n : Decimal)
  | string (s : List CodeUnit)
  deriving DecidableEq

/-- Members keep their order, and a name may occur twice. -/
inductive Value
  | scalar (s : Scalar)
  | array (items : List Value)
  | object (members : List (List CodeUnit × Value))

inductive Token
  | leftBrace | rightBrace | leftBracket | rightBracket | colon | comma
  | scalar (s : Scalar)
  deriving DecidableEq

/-! ### Words -/

def isDigit (u : CodeUnit) : Bool := unit '0' ≤ u && u ≤ unit '9'

def digitsValue (us : List CodeUnit) : ℕ := us.foldl (fun n u => 10 * n + (u.toNat - 0x30)) 0

/-- The digits of a fraction, if there is a point, and what follows them. -/
def readFraction : List CodeUnit → Option (List CodeUnit × List CodeUnit)
  | [] => some ([],[])
  | u :: us =>
    if u = unit '.' then
      if us.takeWhile isDigit = [] then none else some (us.takeWhile isDigit,us.dropWhile isDigit)
    else some ([],u :: us)

/-- An exponent is the last part of a number. -/
def readExponent : List CodeUnit → Option ℤ
  | [] => some 0
  | u :: us =>
    if u = unit 'e' ∨ u = unit 'E' then
      let digits := if us.head? = some (unit '+') ∨ us.head? = some (unit '-') then us.tail else us
      if digits = [] ∨ digits.all isDigit = false then none
      else if us.head? = some (unit '-') then some (-(digitsValue digits : ℤ))
      else some (digitsValue digits : ℤ)
    else none

/-- A number has no plus sign and no needless zeros in front. -/
def readNumber (word : List CodeUnit) : Option Decimal :=
  let body := if word.head? = some (unit '-') then word.tail else word
  let whole := body.takeWhile isDigit
  if whole = [] ∨ whole.head? = some (unit '0') ∧ whole.length ≠ 1 then none
  else
    (readFraction (body.dropWhile isDigit)).bind fun (fraction,rest) =>
      (readExponent rest).map fun exponent =>
        let n : ℤ := digitsValue (whole ++ fraction)
        ⟨if word.head? = some (unit '-') then -n else n,exponent - fraction.length⟩

def readWord (word : List CodeUnit) : Option Scalar :=
  if word = utf16 "null" then some .null
  else if word = utf16 "true" then some (.bool true)
  else if word = utf16 "false" then some (.bool false)
  else (readNumber word).map .number

/-! ### Lexer -/

def isSpace (u : CodeUnit) : Bool := u = 0x20 || u = 0x09 || u = 0x0a || u = 0x0d

def structural (u : CodeUnit) : Option Token :=
  if u = 0x7b then some .leftBrace
  else if u = 0x7d then some .rightBrace
  else if u = unit '[' then some .leftBracket
  else if u = unit ']' then some .rightBracket
  else if u = unit ':' then some .colon
  else if u = unit ',' then some .comma
  else none

def hexDigit (u : CodeUnit) : Option ℕ :=
  if unit '0' ≤ u ∧ u ≤ unit '9' then some (u.toNat - 0x30)
  else if unit 'a' ≤ u ∧ u ≤ unit 'f' then some (u.toNat - 0x61 + 10)
  else if unit 'A' ≤ u ∧ u ≤ unit 'F' then some (u.toNat - 0x41 + 10)
  else none

/-- What a backslash and one unit stand for. -/
def shortEscape (u : CodeUnit) : Option CodeUnit :=
  if u = quote ∨ u = backslash ∨ u = unit '/' then some u
  else if u = unit 'b' then some 0x08
  else if u = unit 'f' then some 0x0c
  else if u = unit 'n' then some 0x0a
  else if u = unit 'r' then some 0x0d
  else if u = unit 't' then some 0x09
  else none

/-- Where the lexer is: between tokens, in a word, or in a string, of which `s`
has been read; an escape with four hexadecimal digits is read one by one. -/
inductive Mode
  | gap
  | word (word : List CodeUnit)
  | chars (s : List CodeUnit)
  | escape (s : List CodeUnit)
  | hex (s : List CodeUnit) (seen value : ℕ)

structure Lexer where
  mode : Mode
  tokens : List Token

namespace Lexer

def between (tokens : List Token) (u : CodeUnit) : Lexer :=
  if isSpace u then ⟨.gap,tokens⟩
  else if u = quote then ⟨.chars [],tokens⟩
  else
    match structural u with
    | some token => ⟨.gap,tokens ++ [token]⟩
    | none => ⟨.word [u],tokens⟩

def step (l : Lexer) (u : CodeUnit) : Option Lexer :=
  match l.mode with
  | .gap => some (between l.tokens u)
  | .word word =>
    if isSpace u ∨ structural u ≠ none then
      (readWord word).map fun s => between (l.tokens ++ [.scalar s]) u
    else some ⟨.word (word ++ [u]),l.tokens⟩
  | .chars s =>
    if u = quote then some ⟨.gap,l.tokens ++ [.scalar (.string s)]⟩
    else if u = backslash then some ⟨.escape s,l.tokens⟩
    else if u < 0x20 then none
    else some ⟨.chars (s ++ [u]),l.tokens⟩
  | .escape s =>
    if u = unit 'u' then some ⟨.hex s 0 0,l.tokens⟩
    else (shortEscape u).map fun v => ⟨.chars (s ++ [v]),l.tokens⟩
  | .hex s seen value =>
    (hexDigit u).map fun d =>
      if seen = 3 then ⟨.chars (s ++ [UInt16.ofNat (16 * value + d)]),l.tokens⟩
      else ⟨.hex s (seen + 1) (16 * value + d),l.tokens⟩

section Step

variable (tokens : List Token) (u : CodeUnit)

theorem step_word (word : List CodeUnit) : step ⟨.word word,tokens⟩ u =
    if isSpace u ∨ structural u ≠ none then
      (readWord word).map fun s => between (tokens ++ [.scalar s]) u
    else some ⟨.word (word ++ [u]),tokens⟩ := rfl

theorem step_chars (s : List CodeUnit) : step ⟨.chars s,tokens⟩ u =
    if u = quote then some ⟨.gap,tokens ++ [.scalar (.string s)]⟩
    else if u = backslash then some ⟨.escape s,tokens⟩
    else if u < 0x20 then none
    else some ⟨.chars (s ++ [u]),tokens⟩ := rfl

theorem step_escape (s : List CodeUnit) : step ⟨.escape s,tokens⟩ u =
    if u = unit 'u' then some ⟨.hex s 0 0,tokens⟩
    else (shortEscape u).map fun v => ⟨.chars (s ++ [v]),tokens⟩ := rfl

theorem step_hex (s : List CodeUnit) (seen value : ℕ) : step ⟨.hex s seen value,tokens⟩ u =
    (hexDigit u).map fun d =>
      if seen = 3 then ⟨.chars (s ++ [UInt16.ofNat (16 * value + d)]),tokens⟩
      else ⟨.hex s (seen + 1) (16 * value + d),tokens⟩ := rfl

end Step

def finish (l : Lexer) : Option (List Token) :=
  match l.mode with
  | .gap => some l.tokens
  | .word word => (readWord word).map fun s => l.tokens ++ [.scalar s]
  | _ => none

end Lexer

def lex (text : List CodeUnit) : Option (List Token) :=
  (text.foldlM Lexer.step ⟨.gap,[]⟩).bind Lexer.finish

/-! ### Parser -/

/-- What encloses the value that is read next: the items or members before it. -/
inductive Frame
  | items (before : List Value)
  | members (before : List (List CodeUnit × Value))
  | named (before : List (List CodeUnit × Value)) (name : List CodeUnit)

inductive Phase
  | value
  | valueOrClose
  | name
  | nameOrClose
  | colon (name : List CodeUnit)
  | complete (v : Value)

structure Parser where
  stack : List Frame
  phase : Phase

namespace Parser

def enter (stack : List Frame) : Token → Option Parser
  | .scalar s => some ⟨stack,.complete (.scalar s)⟩
  | .leftBracket => some ⟨.items [] :: stack,.valueOrClose⟩
  | .leftBrace => some ⟨.members [] :: stack,.nameOrClose⟩
  | _ => none

def step (p : Parser) (token : Token) : Option Parser :=
  match p.phase, p.stack, token with
  | .value, stack, token => enter stack token
  | .valueOrClose, .items [] :: stack, .rightBracket => some ⟨stack,.complete (.array [])⟩
  | .valueOrClose, stack, token => enter stack token
  | .nameOrClose, .members [] :: stack, .rightBrace => some ⟨stack,.complete (.object [])⟩
  | .nameOrClose, stack, .scalar (.string name) => some ⟨stack,.colon name⟩
  | .name, stack, .scalar (.string name) => some ⟨stack,.colon name⟩
  | .colon name, .members before :: stack, .colon => some ⟨.named before name :: stack,.value⟩
  | .complete v, .items before :: stack, .comma => some ⟨.items (before ++ [v]) :: stack,.value⟩
  | .complete v, .items before :: stack, .rightBracket =>
    some ⟨stack,.complete (.array (before ++ [v]))⟩
  | .complete v, .named before name :: stack, .comma =>
    some ⟨.members (before ++ [(name,v)]) :: stack,.name⟩
  | .complete v, .named before name :: stack, .rightBrace =>
    some ⟨stack,.complete (.object (before ++ [(name,v)]))⟩
  | _, _, _ => none

def finish (p : Parser) : Option Value :=
  match p.phase, p.stack with
  | .complete v, [] => some v
  | _, _ => none

end Parser

def parse (tokens : List Token) : Option Value :=
  (tokens.foldlM Parser.step ⟨[],.value⟩).bind Parser.finish

def decode (text : List CodeUnit) : Option Value := (lex text).bind parse

/-! ### The grammar -/

mutual

/-- The tokens of a value, as the grammar has them. -/
def Value.tokens : Value → List Token
  | .scalar s => [.scalar s]
  | .array [] => [.leftBracket,.rightBracket]
  | .array (v :: vs) => .leftBracket :: (v.tokens ++ (moreItems vs ++ [.rightBracket]))
  | .object [] => [.leftBrace,.rightBrace]
  | .object ((name,v) :: ms) =>
    .leftBrace :: .scalar (.string name) :: .colon :: (v.tokens ++ (moreMembers ms ++ [.rightBrace]))

def moreItems : List Value → List Token
  | [] => []
  | v :: vs => .comma :: (v.tokens ++ moreItems vs)

def moreMembers : List (List CodeUnit × Value) → List Token
  | [] => []
  | (name,v) :: ms => .comma :: .scalar (.string name) :: .colon :: (v.tokens ++ moreMembers ms)

end

/-- The text is a JSON text of this value. -/
def IsText (v : Value) (text : List CodeUnit) : Prop := lex text = some v.tokens

theorem foldlM_firstItem (v : Value) (stack : List Frame) (rest : List Token) :
    (v.tokens ++ rest).foldlM Parser.step ⟨.items [] :: stack,.valueOrClose⟩ =
      (v.tokens ++ rest).foldlM Parser.step ⟨.items [] :: stack,.value⟩ := by
  match v with
  | .scalar _ | .array [] | .array (_ :: _) | .object [] | .object (_ :: _) =>
    rw [Value.tokens]
    rfl

mutual

theorem foldlM_tokens (v : Value) (stack : List Frame) :
    v.tokens.foldlM Parser.step ⟨stack,.value⟩ = some ⟨stack,.complete v⟩ := by
  match v with
  | .scalar s => rfl
  | .array [] => rfl
  | .array (v :: vs) =>
    rw [Value.tokens]
    change (v.tokens ++ (moreItems vs ++ [Token.rightBracket])).foldlM Parser.step
      ⟨.items [] :: stack,.valueOrClose⟩ = _
    rw [foldlM_firstItem,List.foldlM_append,foldlM_tokens v]
    exact foldlM_moreItems vs [] v stack
  | .object [] => rfl
  | .object ((name,v) :: ms) =>
    rw [Value.tokens]
    change (v.tokens ++ (moreMembers ms ++ [Token.rightBrace])).foldlM Parser.step
      ⟨.named [] name :: stack,.value⟩ = _
    rw [List.foldlM_append,foldlM_tokens v]
    exact foldlM_moreMembers ms [] name v stack

theorem foldlM_moreItems (vs before : List Value) (v : Value) (stack : List Frame) :
    (moreItems vs ++ [Token.rightBracket]).foldlM Parser.step ⟨.items before :: stack,.complete v⟩ =
      some ⟨stack,.complete (.array (before ++ v :: vs))⟩ := by
  match vs with
  | [] => rfl
  | w :: vs =>
    rw [moreItems]
    change ((w.tokens ++ moreItems vs) ++ [Token.rightBracket]).foldlM Parser.step
      ⟨.items (before ++ [v]) :: stack,.value⟩ = _
    rw [List.append_assoc,List.foldlM_append,foldlM_tokens w]
    refine (foldlM_moreItems vs (before ++ [v]) w stack).trans ?_
    rw [List.append_assoc,List.singleton_append]

theorem foldlM_moreMembers (ms before : List (List CodeUnit × Value)) (name : List CodeUnit) (v : Value)
    (stack : List Frame) :
    (moreMembers ms ++ [Token.rightBrace]).foldlM Parser.step
        ⟨.named before name :: stack,.complete v⟩ =
      some ⟨stack,.complete (.object (before ++ (name,v) :: ms))⟩ := by
  match ms with
  | [] => rfl
  | (other,w) :: ms =>
    rw [moreMembers]
    change ((w.tokens ++ moreMembers ms) ++ [Token.rightBrace]).foldlM Parser.step
      ⟨.named (before ++ [(name,v)]) other :: stack,.value⟩ = _
    rw [List.append_assoc,List.foldlM_append,foldlM_tokens w]
    refine (foldlM_moreMembers ms (before ++ [(name,v)]) other w stack).trans ?_
    rw [List.append_assoc,List.singleton_append]

end

theorem parse_tokens (v : Value) : parse v.tokens = some v := by
  rw [parse,foldlM_tokens]
  rfl

theorem decode_of_isText {v : Value} {text : List CodeUnit} (h : IsText v text) :
    decode text = some v := by
  rw [decode,h]
  exact parse_tokens v

/-- A text has at most one value. -/
theorem IsText.unique {v w : Value} {text : List CodeUnit} (hv : IsText v text) (hw : IsText w text) :
    v = w :=
  Option.some.inj ((decode_of_isText hv).symm.trans (decode_of_isText hw))

example : decode (utf16 "[1, -2.50e1]") =
    some (.array [.scalar (.number ⟨1,0⟩),.scalar (.number ⟨-250,-1⟩)]) := rfl

example : (decode (utf16 "[01]")).isNone ∧ (decode (utf16 "[1,]")).isNone ∧
    (decode (utf16 "[1] 2")).isNone := by decide

/-! ### Reading what was written -/

/-- Before a structural unit, the text reads as these tokens. -/
def Reads (text : List CodeUnit) (tokens : List Token) : Prop :=
  ∀ (before : List Token) (u : CodeUnit) (token : Token) (rest : List CodeUnit),
    structural u = some token →
      (text ++ u :: rest).foldlM Lexer.step ⟨.gap,before⟩ =
        rest.foldlM Lexer.step ⟨.gap,before ++ tokens ++ [token]⟩

/-- Within quotes, the text reads as these units. -/
def Spells (text s : List CodeUnit) : Prop :=
  ∀ (before : List CodeUnit) (tokens : List Token),
    text.foldlM Lexer.step ⟨.chars before,tokens⟩ = some ⟨.chars (before ++ s),tokens⟩

def IsWordUnit (u : CodeUnit) : Prop := isSpace u = false ∧ u ≠ quote ∧ structural u = none

instance (u : CodeUnit) : Decidable (IsWordUnit u) := inferInstanceAs (Decidable (_ ∧ _))

theorem between_structural {u : CodeUnit} {token : Token} (h : structural u = some token)
    (tokens : List Token) : Lexer.between tokens u = ⟨.gap,tokens ++ [token]⟩ := by
  have hu : isSpace u = false ∧ u ≠ quote := by
    unfold structural at h
    split_ifs at h with h₁ h₂ h₃ h₄ h₅ h₆
    · exact h₁ ▸ (by decide)
    · exact h₂ ▸ (by decide)
    · exact h₃ ▸ (by decide)
    · exact h₄ ▸ (by decide)
    · exact h₅ ▸ (by decide)
    · exact h₆ ▸ (by decide)
  rw [Lexer.between,if_neg (by rw [hu.1]; exact Bool.false_ne_true),if_neg hu.2,h]

theorem between_wordUnit {u : CodeUnit} (h : IsWordUnit u) (tokens : List Token) :
    Lexer.between tokens u = ⟨.word [u],tokens⟩ := by
  obtain ⟨hs,hq,hn⟩ := h
  rw [Lexer.between,if_neg (by rw [hs]; exact Bool.false_ne_true),if_neg hq,hn]

theorem foldlM_word {units : List CodeUnit} (h : ∀ u ∈ units, IsWordUnit u) (word : List CodeUnit)
    (tokens : List Token) :
    units.foldlM Lexer.step ⟨.word word,tokens⟩ = some ⟨.word (word ++ units),tokens⟩ := by
  induction units generalizing word with
  | nil => rw [List.append_nil]; rfl
  | cons u units ih =>
    obtain ⟨hs,-,hn⟩ := h u List.mem_cons_self
    have hstep : Lexer.step ⟨.word word,tokens⟩ u = some ⟨.word (word ++ [u]),tokens⟩ :=
      if_neg (by simp [hs,hn])
    rw [List.foldlM_cons,hstep]
    refine (ih (fun v hv => h v (List.mem_cons_of_mem u hv)) _).trans ?_
    rw [List.append_assoc,List.singleton_append]

theorem reads_word {word : List CodeUnit} {s : Scalar} (hw : ∀ u ∈ word, IsWordUnit u) (hne : word ≠ [])
    (hs : readWord word = some s) : Reads word [.scalar s] := by
  intro before u token rest hu
  obtain ⟨first,units,rfl⟩ := List.exists_cons_of_ne_nil hne
  have hfirst : Lexer.step ⟨.gap,before⟩ first = some ⟨.word [first],before⟩ :=
    congrArg some (between_wordUnit (hw first List.mem_cons_self) before)
  have hlast : Lexer.step ⟨.word (first :: units),before⟩ u =
      some ⟨.gap,before ++ [.scalar s] ++ [token]⟩ := by
    have hd : isSpace u = true ∨ structural u ≠ none := .inr (by rw [hu]; exact Option.some_ne_none token)
    rw [Lexer.step_word,if_pos hd,hs,Option.map_some,between_structural hu]
  rw [List.foldlM_append,List.foldlM_cons,hfirst]
  change ((units.foldlM Lexer.step ⟨.word [first],before⟩).bind fun l =>
    (u :: rest).foldlM Lexer.step l) = _
  rw [foldlM_word (fun v hv => hw v (List.mem_cons_of_mem first hv)),Option.bind_some,List.foldlM_cons]
  exact congrArg (fun l => Option.bind l fun l => rest.foldlM Lexer.step l) hlast

theorem Spells.append {text more s t : List CodeUnit} (h : Spells text s) (k : Spells more t) :
    Spells (text ++ more) (s ++ t) := by
  intro before tokens
  rw [List.foldlM_append,h before tokens,← List.append_assoc]
  exact k (before ++ s) tokens

theorem spells_flatMap {f : CodeUnit → List CodeUnit} (h : ∀ u, Spells (f u) [u]) (s : List CodeUnit) :
    Spells (s.flatMap f) s := by
  induction s with
  | nil =>
    intro before tokens
    rw [List.append_nil]
    rfl
  | cons u s ih =>
    rw [List.flatMap_cons]
    exact (h u).append ih

theorem spells_plain {u : CodeUnit} (hq : u ≠ quote) (hb : u ≠ backslash) (hc : ¬ u < 0x20) :
    Spells [u] [u] := by
  intro before tokens
  have hstep : Lexer.step ⟨.chars before,tokens⟩ u = some ⟨.chars (before ++ [u]),tokens⟩ := by
    rw [Lexer.step_chars,if_neg hq,if_neg hb,if_neg hc]
  rw [List.foldlM_cons,hstep]
  rfl

theorem step_backslash (before : List CodeUnit) (tokens : List Token) :
    Lexer.step ⟨.chars before,tokens⟩ backslash = some ⟨.escape before,tokens⟩ := by
  rw [Lexer.step_chars,if_neg (by decide),if_pos rfl]

theorem spells_escape {u v : CodeUnit} (h : shortEscape u = some v) : Spells [backslash,u] [v] := by
  intro before tokens
  have hu : u ≠ unit 'u' := by
    rintro rfl
    have hn : shortEscape (unit 'u') = none := by decide
    rw [hn] at h
    cases h
  have hstep : Lexer.step ⟨.escape before,tokens⟩ u = some ⟨.chars (before ++ [v]),tokens⟩ := by
    rw [Lexer.step_escape,if_neg hu,h,Option.map_some]
  rw [List.foldlM_cons,step_backslash,Option.bind_eq_bind,Option.bind_some,List.foldlM_cons,hstep]
  rfl

theorem spells_hex {a b c d : CodeUnit} {i j k l : ℕ} (ha : hexDigit a = some i) (hb : hexDigit b = some j)
    (hc : hexDigit c = some k) (hd : hexDigit d = some l) :
    Spells [backslash,unit 'u',a,b,c,d]
      [UInt16.ofNat (16 * (16 * (16 * (16 * 0 + i) + j) + k) + l)] := by
  intro before tokens
  have hu : Lexer.step ⟨.escape before,tokens⟩ (unit 'u') = some ⟨.hex before 0 0,tokens⟩ := by
    rw [Lexer.step_escape,if_pos rfl]
  have more : ∀ {u : CodeUnit} {n : ℕ} (seen value : ℕ), hexDigit u = some n → seen ≠ 3 →
      Lexer.step ⟨.hex before seen value,tokens⟩ u =
        some ⟨.hex before (seen + 1) (16 * value + n),tokens⟩ := by
    intro u n seen value hn hs
    rw [Lexer.step_hex,hn,Option.map_some,if_neg hs]
  have last : ∀ value, Lexer.step ⟨.hex before 3 value,tokens⟩ d =
      some ⟨.chars (before ++ [UInt16.ofNat (16 * value + l)]),tokens⟩ := by
    intro value
    rw [Lexer.step_hex,hd,Option.map_some,if_pos rfl]
  simp only [List.foldlM_cons,List.foldlM_nil,Option.bind_eq_bind,Option.bind_some,step_backslash,hu,
    more 0 0 ha (by decide),more 1 _ hb (by decide),more 2 _ hc (by decide),last]
  rfl

theorem reads_string {text s : List CodeUnit} (h : Spells text s) :
    Reads (quote :: (text ++ [quote])) [.scalar (.string s)] := by
  intro before u token rest hu
  have hopen : Lexer.step ⟨.gap,before⟩ quote = some ⟨.chars [],before⟩ := rfl
  have hclose : Lexer.step ⟨.chars s,before⟩ quote =
      some ⟨.gap,before ++ [.scalar (.string s)]⟩ := by
    rw [Lexer.step_chars,if_pos rfl]
  have hnext : Lexer.step ⟨.gap,before ++ [.scalar (.string s)]⟩ u =
      some ⟨.gap,before ++ [.scalar (.string s)] ++ [token]⟩ :=
    congrArg some (between_structural hu _)
  rw [List.cons_append,List.append_assoc,List.singleton_append,List.foldlM_cons,hopen,
    Option.bind_eq_bind,Option.bind_some,List.foldlM_append,h [] before,Option.bind_eq_bind,
    Option.bind_some,List.nil_append,List.foldlM_cons,hclose,Option.bind_eq_bind,Option.bind_some,
    List.foldlM_cons,hnext]
  rfl

/-! ### Natural numbers -/

def decimal (n : ℕ) : List CodeUnit := (Nat.toDigits 10 n).map unit

theorem unit_toNat {c : Char} (h : c.toNat < 0x10000) : (unit c).toNat = c.toNat :=
  UInt16.toNat_ofNat_of_lt' h

theorem toNat_of_isDigit {c : Char} (h : c.isDigit) : 0x30 ≤ c.toNat ∧ c.toNat ≤ 0x39 := by
  simp only [Char.isDigit,Bool.and_eq_true,decide_eq_true_eq] at h
  exact h

theorem unit_digit {c : Char} (h : c.isDigit) : (unit c).toNat = c.toNat :=
  unit_toNat (by have := toNat_of_isDigit h; omega)

theorem isDigit_unit {c : Char} (h : c.isDigit) : isDigit (unit c) = true := by
  have hc := toNat_of_isDigit h
  rw [isDigit,Bool.and_eq_true,decide_eq_true_eq,decide_eq_true_eq,UInt16.le_iff_toNat_le,
    UInt16.le_iff_toNat_le,unit_digit h]
  exact hc

theorem isDigit_decimal {n : ℕ} {u : CodeUnit} (h : u ∈ decimal n) : isDigit u = true := by
  obtain ⟨c,hc,rfl⟩ := List.mem_map.mp h
  exact isDigit_unit (Numeral.isDigit_toDigits hc)

theorem decimal_ne_nil (n : ℕ) : decimal n ≠ [] := fun h =>
  Nat.toDigits_ne_nil (List.map_eq_nil_iff.mp h)

theorem digitsValue_units {cs : List Char} (h : ∀ c ∈ cs, c.isDigit) (n : ℕ) :
    (cs.map unit).foldl (fun n u => 10 * n + (u.toNat - 0x30)) n = Nat.ofDigitChars 10 cs n := by
  induction cs generalizing n with
  | nil => rfl
  | cons c cs ih =>
    rw [List.map_cons,List.foldl_cons,unit_digit (h c List.mem_cons_self),Nat.ofDigitChars_cons]
    exact ih (fun d hd => h d (List.mem_cons_of_mem c hd)) _

theorem digitsValue_decimal (n : ℕ) : digitsValue (decimal n) = n := by
  rw [digitsValue,decimal,digitsValue_units (fun c hc => Numeral.isDigit_toDigits hc),
    Nat.ofDigitChars_ten_toDigits]

theorem head_decimal_zero {n : ℕ} (h : (decimal n).head? = some (unit '0')) : n = 0 := by
  rw [decimal,List.head?_map] at h
  obtain ⟨c,hc,hu⟩ := Option.map_eq_some_iff.mp h
  have hd : c.isDigit := Numeral.isDigit_toDigits (List.mem_of_mem_head? hc)
  have hz : c.toNat = '0'.toNat := by
    rw [← unit_digit hd,hu]
    rfl
  exact Numeral.head_toDigits_zero (hc.trans (congrArg some (Char.toNat_inj.mp hz)))

theorem readNumber_decimal (n : ℕ) : readNumber (decimal n) = some ⟨n,0⟩ := by
  have hall : ∀ u ∈ decimal n, isDigit u = true := fun u hu => isDigit_decimal hu
  have hminus : (decimal n).head? ≠ some (unit '-') := fun h =>
    absurd (isDigit_decimal (List.mem_of_mem_head? h)) (by decide)
  have hzero : ¬ ((decimal n).head? = some (unit '0') ∧ (decimal n).length ≠ 1) := by
    rintro ⟨h,hl⟩
    rw [head_decimal_zero h] at hl
    exact hl rfl
  simp only [readNumber,if_neg hminus,List.takeWhile_eq_self_iff.mpr hall,
    List.dropWhile_eq_nil_iff.mpr hall]
  rw [if_neg (by simp only [decimal_ne_nil,hzero,or_self,not_false_eq_true])]
  simp only [readFraction,readExponent,Option.bind_some,Option.map_some,List.append_nil,
    digitsValue_decimal,List.length_nil]
  rfl

theorem isWordUnit_of_isDigit {u : CodeUnit} (h : isDigit u = true) : IsWordUnit u := by
  have all : ∀ n < 10, IsWordUnit (UInt16.ofNat (0x30 + n)) := by decide
  rw [isDigit,Bool.and_eq_true,decide_eq_true_eq,decide_eq_true_eq,UInt16.le_iff_toNat_le,
    UInt16.le_iff_toNat_le] at h
  have hl : 0x30 ≤ u.toNat := h.1
  have hu : u.toNat ≤ 0x39 := h.2
  have he : u = UInt16.ofNat (0x30 + (u.toNat - 0x30)) := by
    rw [show 0x30 + (u.toNat - 0x30) = u.toNat by omega,UInt16.ofNat_toNat]
  rw [he]
  exact all _ (by omega)

theorem reads_decimal (n : ℕ) : Reads (decimal n) [.scalar (.number ⟨n,0⟩)] := by
  have ne : ∀ {w : List CodeUnit} {u : CodeUnit}, u ∈ w → isDigit u = false → decimal n ≠ w := by
    rintro w u hu hd rfl
    rw [isDigit_decimal hu] at hd
    cases hd
  have hnull : decimal n ≠ utf16 "null" := ne (u := unit 'n') (by decide) (by decide)
  have htrue : decimal n ≠ utf16 "true" := ne (u := unit 't') (by decide) (by decide)
  have hfalse : decimal n ≠ utf16 "false" := ne (u := unit 'f') (by decide) (by decide)
  refine reads_word (fun u hu => isWordUnit_of_isDigit (isDigit_decimal hu)) (decimal_ne_nil n) ?_
  rw [readWord,if_neg hnull,if_neg htrue,if_neg hfalse,readNumber_decimal]
  rfl

theorem reads_null : Reads (utf16 "null") [.scalar .null] :=
  reads_word (List.forall_iff_forall_mem.mp (by decide)) (by decide) rfl

theorem reads_bool (b : Bool) : Reads (utf16 (if b then "true" else "false")) [.scalar (.bool b)] := by
  cases b
  · exact reads_word (List.forall_iff_forall_mem.mp (by decide)) (by decide) rfl
  · exact reads_word (List.forall_iff_forall_mem.mp (by decide)) (by decide) rfl

/-! ### Objects without white space -/

/-- What follows the first member, the closing brace with it. -/
def compactMore : List (List CodeUnit × List CodeUnit) → List CodeUnit
  | [] => [0x7d]
  | (name,text) :: more => unit ',' :: (name ++ unit ':' :: (text ++ compactMore more))

/-- An object from the texts of the names and values. -/
def compactObject : List (List CodeUnit × List CodeUnit) → List CodeUnit
  | [] => [0x7b,0x7d]
  | (name,text) :: more => 0x7b :: (name ++ unit ':' :: (text ++ compactMore more))

theorem compactMore_zip (names texts : List (List CodeUnit)) :
    compactMore (names.zip texts) =
      ((names.map fun name => unit ',' :: (name ++ [unit ':'])).zip texts).flatMap (fun p => p.1 ++ p.2) ++
        [0x7d] := by
  induction names generalizing texts with
  | nil => rfl
  | cons name names ih =>
    cases texts with
    | nil => rfl
    | cons text texts =>
      simp only [List.zip_cons_cons,List.map_cons,List.flatMap_cons,compactMore,ih texts,List.cons_append,
        List.append_assoc,List.nil_append]

/-- The texts read as the name and the value. -/
def ReadsMember (member : List CodeUnit × Value) (texts : List CodeUnit × List CodeUnit) : Prop :=
  Reads texts.1 [.scalar (.string member.1)] ∧ Reads texts.2 member.2.tokens

theorem foldlM_compactMore {members : List (List CodeUnit × Value)}
    {texts : List (List CodeUnit × List CodeUnit)} (h : List.Forall₂ ReadsMember members texts)
    {text : List CodeUnit} {tokens : List Token} (ht : Reads text tokens) (before : List Token) :
    (text ++ compactMore texts).foldlM Lexer.step ⟨.gap,before⟩ =
      some ⟨.gap,before ++ tokens ++ (moreMembers members ++ [.rightBrace])⟩ := by
  induction h generalizing text tokens before with
  | nil =>
    rw [compactMore,ht before 0x7d .rightBrace [] rfl,moreMembers,List.nil_append]
    rfl
  | @cons member pair members texts hm _ ih =>
    obtain ⟨name,value⟩ := pair
    obtain ⟨k,v⟩ := member
    rw [compactMore,ht before (unit ',') .comma _ rfl,hm.1 _ (unit ':') .colon _ rfl,ih hm.2]
    simp only [moreMembers,List.append_assoc,List.cons_append,List.nil_append]

theorem isText_compactObject {members : List (List CodeUnit × Value)}
    {texts : List (List CodeUnit × List CodeUnit)} (h : List.Forall₂ ReadsMember members texts) :
    IsText (.object members) (compactObject texts) := by
  cases h with
  | nil => rfl
  | @cons member pair members texts hm hmore =>
    obtain ⟨name,value⟩ := pair
    obtain ⟨k,v⟩ := member
    have hopen : Lexer.step ⟨.gap,[]⟩ 0x7b = some ⟨.gap,[.leftBrace]⟩ := rfl
    rw [IsText,lex,compactObject,List.foldlM_cons,hopen]
    change ((name ++ unit ':' :: (value ++ compactMore texts)).foldlM Lexer.step
      ⟨.gap,[.leftBrace]⟩).bind Lexer.finish = _
    rw [hm.1 _ (unit ':') .colon _ rfl,foldlM_compactMore hmore hm.2]
    simp only [Value.tokens,List.cons_append,List.nil_append]
    rfl

end JsonText
