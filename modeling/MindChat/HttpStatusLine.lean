import MindChat.HttpHeaders

/-! Where the parser finds the status of an answer to an HTTP CONNECT: it cuts at
CRLF, while the reader of the block also ends a line at a bare line feed. -/

namespace MindChat

open Json

/-- The first line, up to its CRLF or its bare line feed. -/
def firstLine : List Char → List Char
  | [] => []
  | c :: cs =>
    if c.toNat = 0x0a ∨ c.toNat = 0x0d ∧ (cs.head?).map Char.toNat = some 0x0a then []
    else c :: firstLine cs

/-- What follows a first line that ends in a bare line feed, up to the next CRLF. -/
def strayText : List Char → List Char
  | [] => []
  | c :: cs =>
    if c.toNat = 0x0a then statusLine cs
    else if c.toNat = 0x0d ∧ (cs.head?).map Char.toNat = some 0x0a then []
    else strayText cs

def firstWords (text : List Char) : List (List Char) := Text.splitWhitespace (firstLine text)

def strayWords (text : List Char) : List (List Char) := Text.splitWhitespace (strayText text)

def statusAmong (words : List (List Char)) : Option ℕ :=
  ((words.tail).head?).bind (Numeral.parseUnsigned 65535)

def beginsHttp (text : List Char) : Bool := "HTTP/".toList.isPrefixOf text

def reasonOf (words : List (List Char)) : String := String.ofList ([' '].intercalate (words.drop 2))

/-- The answer is taken exactly for a first line that begins with `HTTP/` and has
200 as its second word, and the reason of a refusal is what stands behind the
status on that line. -/
def StatusFromFirstLine (printable : Char → Bool) (block : Bytes) : Prop :=
  (parseHttpConnectResponse printable block = .ok () ↔
    ∃ text, block.toByteArray.utf8Decode? = some text ∧ beginsHttp (firstLine text.toList) = true ∧
      statusAmong (firstWords text.toList) = some 200) ∧
  ∀ status reason, parseHttpConnectResponse printable block = .error (.httpStatus status reason) →
    ∃ text, block.toByteArray.utf8Decode? = some text ∧ reason = reasonOf (firstWords text.toList)

/-- The kinds of text whose first line is misread: white space stands before a good
answer, stray words stand behind a refusal, or the status, or the whole answer, is
only found among the stray words. -/
inductive Misread (text : List Char) : Prop
  | indented {version status : List Char} {more : List (List Char)}
      (line : firstWords text = version :: status :: more) (http : beginsHttp version = true)
      (begins : beginsHttp (firstLine text) = false)
      (parsed : Numeral.parseUnsigned 65535 status = some 200)
  | trailed {version status : List Char} {more : List (List Char)} {code : ℕ}
      (line : firstWords text = version :: status :: more) (http : beginsHttp version = true)
      (parsed : Numeral.parseUnsigned 65535 status = some code) (refused : code ≠ 200)
      (stray : strayWords text ≠ [])
  | broken {version status : List Char} {more : List (List Char)} {code : ℕ}
      (line : firstWords text = [version]) (http : beginsHttp version = true)
      (stray : strayWords text = status :: more)
      (parsed : Numeral.parseUnsigned 65535 status = some code) (told : code = 200 ∨ more ≠ [])
  | late {version status : List Char} {more : List (List Char)} {code : ℕ}
      (line : firstWords text = []) (stray : strayWords text = version :: status :: more)
      (http : beginsHttp version = true)
      (parsed : Numeral.parseUnsigned 65535 status = some code) (told : code = 200 ∨ more ≠ [])

/-- The words that the parser reads begin with `HTTP/` and a status. -/
def Answers (text : List Char) (status : ℕ) : Prop :=
  beginsHttp (((firstWords text ++ strayWords text).head?).getD []) = true ∧
    statusAmong (firstWords text ++ strayWords text) = some status

section

variable {printable : Char → Bool} {block : Bytes}

theorem splitWhitespace_statusLine (text : List Char) :
    Text.splitWhitespace (statusLine text) = firstWords text ++ strayWords text := by
  have hsplit : statusLine text = firstLine text ∧ strayText text = [] ∨
      ∃ c, Text.isWhitespace c = true ∧ statusLine text = firstLine text ++ c :: strayText text := by
    induction text with
    | nil => exact .inl ⟨rfl,rfl⟩
    | cons c cs ih =>
      simp only [statusLine,firstLine,strayText]
      by_cases hlf : c.toNat = 0x0a
      · have hcr : ¬ (c.toNat = 0x0d ∧ (cs.head?).map Char.toNat = some 0x0a) := by omega
        rw [if_neg hcr,if_pos (Or.inl hlf),if_pos hlf]
        exact .inr ⟨c,by simp [Text.isWhitespace,hlf],rfl⟩
      · by_cases hcr : c.toNat = 0x0d ∧ (cs.head?).map Char.toNat = some 0x0a
        · rw [if_pos hcr,if_pos (Or.inr hcr),if_neg hlf,if_pos hcr]
          exact .inl ⟨rfl,rfl⟩
        · rw [if_neg hcr,if_neg (not_or.mpr ⟨hlf,hcr⟩),if_neg hlf,if_neg hcr]
          rcases ih with ⟨hl,hs⟩ | ⟨d,hd,hl⟩
          · exact .inl ⟨by rw [hl],hs⟩
          · exact .inr ⟨d,hd,by rw [hl]; rfl⟩
  unfold firstWords strayWords
  rcases hsplit with ⟨hl,hs⟩ | ⟨c,hc,hl⟩
  · rw [hl,hs]
    exact (List.append_nil _).symm
  · rw [hl,Text.splitWhitespace_append _ _ hc]

theorem Answers.unique {text : List Char} {status other : ℕ} (h : Answers text status)
    (k : Answers text other) : status = other :=
  Option.some.inj (h.2.symm.trans k.2)

/-- What the parser makes of a block that decodes: an answer is taken or refused for its status,
and anything else is malformed. -/
theorem parse_decoded (printable : Char → Bool) {text : Array Char}
    (hd : block.toByteArray.utf8Decode? = some text) :
    (parseHttpConnectResponse printable block = .ok () ∧ Answers text.toList 200) ∨
    (∃ status, status ≠ 200 ∧ Answers text.toList status ∧
      parseHttpConnectResponse printable block =
        .error (.httpStatus status (reasonOf (firstWords text.toList ++ strayWords text.toList)))) ∨
    (∃ detail, parseHttpConnectResponse printable block = .error (.httpMalformed detail)) ∧
      ∀ status, ¬ Answers text.toList status := by
  unfold parseHttpConnectResponse Answers beginsHttp statusAmong reasonOf
  rw [hd]
  dsimp only
  rw [splitWhitespace_statusLine]
  generalize firstWords text.toList ++ strayWords text.toList = words
  generalize "HTTP/".toList.isPrefixOf ((words.head?).getD []) = begins
  cases begins with
  | false => exact .inr (.inr ⟨⟨_,rfl⟩,fun _ h => by cases h.1⟩)
  | true =>
    cases (words.tail.head?).bind (Numeral.parseUnsigned 65535) with
    | none => exact .inr (.inr ⟨⟨_,rfl⟩,fun _ h => by cases h.2⟩)
    | some status =>
      by_cases h : status = 200
      · exact .inl ⟨if_pos h,rfl,congrArg some h⟩
      · exact .inr (.inl ⟨status,h,⟨rfl,rfl⟩,if_neg h⟩)

theorem parse_ok_iff {text : Array Char} (hd : block.toByteArray.utf8Decode? = some text) :
    parseHttpConnectResponse printable block = .ok () ↔ Answers text.toList 200 := by
  rcases parse_decoded printable hd with ⟨hp,ha⟩ | ⟨status,hne,ha,hp⟩ | ⟨⟨detail,hp⟩,hn⟩
  · exact iff_of_true hp ha
  · exact iff_of_false (by simp [hp]) (fun h => hne (ha.unique h))
  · exact iff_of_false (by simp [hp]) (hn 200)

theorem parse_refused_iff {text : Array Char} (hd : block.toByteArray.utf8Decode? = some text)
    {status : ℕ} {reason : String} :
    parseHttpConnectResponse printable block = .error (.httpStatus status reason) ↔
      status ≠ 200 ∧ Answers text.toList status ∧
        reason = reasonOf (firstWords text.toList ++ strayWords text.toList) := by
  rcases parse_decoded printable hd with ⟨hp,ha⟩ | ⟨found,hne,ha,hp⟩ | ⟨⟨detail,hp⟩,hn⟩
  · rw [hp]
    exact iff_of_false (fun h => by cases h) (fun h => h.1 (h.2.1.unique ha))
  · rw [hp]
    constructor
    · rintro ⟨⟩
      exact ⟨hne,ha,rfl⟩
    · rintro ⟨-,hs,rfl⟩
      rw [ha.unique hs]
  · rw [hp]
    exact iff_of_false (fun h => by cases h) (fun h => hn status h.2.1)

theorem parse_undecoded (hd : block.toByteArray.utf8Decode? = none) :
    parseHttpConnectResponse printable block =
      .error (.httpMalformed "the proxy response is not valid UTF-8") := by
  unfold parseHttpConnectResponse
  rw [hd]

variable {text : List Char}

theorem beginsHttp_head (h : beginsHttp (firstLine text) = true) :
    ∃ word words, firstWords text = word :: words ∧ beginsHttp word = true := by
  have hletters : ∀ c ∈ "HTTP/".toList, Text.isWhitespace c = false := by simp [Text.isWhitespace]
  obtain ⟨word,words,hw,hp⟩ := Text.prefix_head_splitWhitespace (by decide) hletters
    (List.isPrefixOf_iff_prefix.mp h)
  exact ⟨word,words,hw,List.isPrefixOf_iff_prefix.mpr hp⟩

theorem statusAmong_append {words : List (List Char)} (h : 2 ≤ words.length) (more : List (List Char)) :
    statusAmong (words ++ more) = statusAmong words := by
  rcases words with _ | ⟨a,_ | ⟨b,words⟩⟩
  · simp at h
  · simp at h
  · rfl

theorem two_le_of_statusAmong {words : List (List Char)} {status : ℕ} (h : statusAmong words = some status) :
    2 ≤ words.length := by
  rcases words with _ | ⟨a,_ | ⟨b,words⟩⟩
  · cases h
  · cases h
  · simp

theorem answers_of_firstLine {status : ℕ} (hb : beginsHttp (firstLine text) = true)
    (hs : statusAmong (firstWords text) = some status) : Answers text status := by
  obtain ⟨word,words,hw,hword⟩ := beginsHttp_head hb
  exact ⟨by rw [hw]; exact hword,by rw [statusAmong_append (two_le_of_statusAmong hs),hs]⟩

/-- Where the words of an answer stand: on the first line, across its end, or behind it. -/
theorem Answers.cases {status : ℕ} (h : Answers text status) :
    (∃ version word more, firstWords text = version :: word :: more ∧ beginsHttp version = true ∧
      Numeral.parseUnsigned 65535 word = some status) ∨
    (∃ version word more, firstWords text = [version] ∧ beginsHttp version = true ∧
      strayWords text = word :: more ∧ Numeral.parseUnsigned 65535 word = some status) ∨
    ∃ version word more, firstWords text = [] ∧ strayWords text = version :: word :: more ∧
      beginsHttp version = true ∧ Numeral.parseUnsigned 65535 word = some status := by
  obtain ⟨hb,hs⟩ := h
  rcases hf : firstWords text with _ | ⟨version,_ | ⟨word,more⟩⟩
  · rw [hf,List.nil_append] at hb hs
    rcases hstray : strayWords text with _ | ⟨version,_ | ⟨word,more⟩⟩ <;> rw [hstray] at hb hs
    · cases hs
    · cases hs
    · exact .inr (.inr ⟨version,word,more,rfl,rfl,hb,hs⟩)
  · rw [hf] at hb hs
    rcases hstray : strayWords text with _ | ⟨word,more⟩ <;> rw [hstray] at hs
    · cases hs
    · exact .inr (.inl ⟨version,word,more,rfl,hb,rfl,hs⟩)
  · rw [hf] at hb hs
    exact .inl ⟨version,word,more,rfl,hb,hs⟩

/-- An answer 200 that is not the first line's own comes of a misread text. -/
theorem Answers.misread (h : Answers text 200)
    (hn : ¬ (beginsHttp (firstLine text) = true ∧ statusAmong (firstWords text) = some 200)) :
    Misread text := by
  rcases h.cases with ⟨version,word,more,hf,hb,hs⟩ | ⟨version,word,more,hf,hb,hstray,hs⟩ |
    ⟨version,word,more,hf,hstray,hb,hs⟩
  · refine .indented hf hb (Bool.eq_false_iff.mpr fun hbegins => hn ⟨hbegins,?_⟩) hs
    rw [hf]
    exact hs
  · exact .broken hf hb hstray hs (.inl rfl)
  · exact .late hf hstray hb hs (.inl rfl)

theorem Answers.misread_of_stray {status : ℕ} (h : Answers text status) (hne : status ≠ 200)
    (hstray : strayWords text ≠ []) (hlen : 2 < (firstWords text ++ strayWords text).length) :
    Misread text := by
  rcases h.cases with ⟨version,word,more,hf,hb,hs⟩ | ⟨version,word,more,hf,hb,hw,hs⟩ |
    ⟨version,word,more,hf,hw,hb,hs⟩
  · exact .trailed hf hb hs hne hstray
  · refine .broken hf hb hw hs (.inr ?_)
    rintro rfl
    rw [hf,hw] at hlen
    exact absurd hlen (lt_irrefl 2)
  · refine .late hf hw hb hs (.inr ?_)
    rintro rfl
    rw [hf,hw] at hlen
    exact absurd hlen (lt_irrefl 2)

/-- An answer that the first line is too short for is not its own, or is refused with
a stray word behind its status. -/
theorem Answers.of_short {status : ℕ} (h : Answers text status) (hf : (firstWords text).length < 2)
    (htold : status = 200 ∨ 2 < (firstWords text ++ strayWords text).length) :
    (Answers text 200 ∧
      ¬ (beginsHttp (firstLine text) = true ∧ statusAmong (firstWords text) = some 200)) ∨
    ∃ status, status ≠ 200 ∧ Answers text status ∧ strayWords text ≠ [] ∧
      2 < (firstWords text ++ strayWords text).length := by
  by_cases h200 : status = 200
  · subst h200
    exact .inl ⟨h,fun hline => absurd (two_le_of_statusAmong hline.2) (not_le.mpr hf)⟩
  · have hlen := htold.resolve_left h200
    refine .inr ⟨status,h200,h,fun hnil => ?_,hlen⟩
    rw [hnil,List.append_nil] at hlen
    omega

theorem Misread.answers (h : Misread text) :
    (Answers text 200 ∧
      ¬ (beginsHttp (firstLine text) = true ∧ statusAmong (firstWords text) = some 200)) ∨
    ∃ status, status ≠ 200 ∧ Answers text status ∧ strayWords text ≠ [] ∧
      2 < (firstWords text ++ strayWords text).length := by
  cases h with
  | indented hf hb hbegins hs =>
    refine .inl ⟨⟨by rw [hf]; exact hb,by rw [hf]; exact hs⟩,fun h => ?_⟩
    rw [hbegins] at h
    cases h.1
  | trailed hf hb hs hne hstray =>
    refine .inr ⟨_,hne,⟨by rw [hf]; exact hb,by rw [hf]; exact hs⟩,hstray,?_⟩
    have := List.length_pos_iff.mpr hstray
    simp only [hf,List.length_append,List.length_cons]
    omega
  | @broken version word more status hf hb hw hs htold =>
    refine @Answers.of_short text status ⟨by rw [hf]; exact hb,by rw [hf,hw]; exact hs⟩
      (by simp [hf]) (htold.imp_right fun hmore => ?_)
    have := List.length_pos_iff.mpr hmore
    simp only [hf,hw,List.length_append,List.length_cons]
    omega
  | @late version word more status hf hw hb hs htold =>
    refine @Answers.of_short text status ⟨by rw [hf,hw]; exact hb,by rw [hf,hw]; exact hs⟩
      (by simp [hf]) (htold.imp_right fun hmore => ?_)
    have := List.length_pos_iff.mpr hmore
    simp only [hf,hw,List.length_append,List.length_cons]
    omega

theorem length_intercalate_append (words : List (List Char)) {word : List Char} (hw : word ≠ [])
    (more : List (List Char)) :
    ([' '].intercalate words).length < ([' '].intercalate (words ++ word :: more)).length := by
  have hpos : 0 < word.length := List.length_pos_iff.mpr hw
  induction words with
  | nil =>
    cases more with
    | nil => simpa [List.intercalate_singleton] using hpos
    | cons next more =>
      rw [List.nil_append,List.intercalate_cons_cons,List.length_append,List.length_append]
      exact Nat.lt_of_lt_of_le hpos (by omega)
  | cons first words ih =>
    cases words with
    | nil =>
      rw [List.singleton_append,List.intercalate_cons_cons,List.intercalate_singleton,
        List.length_append,List.length_append,List.length_singleton]
      omega
    | cons second words =>
      have hcons : first :: second :: words ++ word :: more =
          first :: second :: (words ++ word :: more) := rfl
      have hlen : ∀ tail : List Char, (first ++ [' '] ++ tail).length =
          (first ++ [' ']).length + tail.length := fun tail => List.length_append
      rw [hcons,List.intercalate_cons_cons,List.intercalate_cons_cons,hlen,hlen]
      exact Nat.add_lt_add_left ih _

/-- The reason is that of the first line exactly where no stray word stands behind the status. -/
theorem reasonOf_append_iff :
    reasonOf (firstWords text ++ strayWords text) = reasonOf (firstWords text) ↔
      strayWords text = [] ∨ (firstWords text ++ strayWords text).length ≤ 2 := by
  constructor
  · intro h
    by_contra hn
    rw [not_or,not_le] at hn
    obtain ⟨hne,hlen⟩ := hn
    have hl := congrArg (fun s : String => s.toList.length) h
    simp only [reasonOf,String.toList_ofList,List.drop_append] at hl
    have hstray : (strayWords text).drop (2 - (firstWords text).length) ≠ [] := by
      rw [Ne,List.drop_eq_nil_iff,not_le]
      rw [List.length_append] at hlen
      have := List.length_pos_iff.mpr hne
      omega
    obtain ⟨word,more,hd⟩ := List.exists_cons_of_ne_nil hstray
    have hword : word ≠ [] := Text.ne_nil_of_mem_splitWhitespace
      (List.mem_of_mem_drop (hd ▸ List.mem_cons_self))
    have hlt := length_intercalate_append ((firstWords text).drop 2) hword more
    rw [hd] at hl
    omega
  · rintro (h | h)
    · rw [h,List.append_nil]
    · have hw : (firstWords text).length ≤ 2 := by
        rw [List.length_append] at h
        omega
      rw [reasonOf,reasonOf,List.drop_eq_nil_of_le h,List.drop_eq_nil_of_le hw]

/-- The status comes from the first line exactly for the blocks that are not misread. -/
theorem status_from_first_line_iff (printable : Char → Bool) (block : Bytes) :
    StatusFromFirstLine printable block ↔ ∀ text, block.toByteArray.utf8Decode? = some text →
      ¬ Misread text.toList := by
  unfold StatusFromFirstLine
  cases hd : block.toByteArray.utf8Decode? with
  | none =>
    rw [parse_undecoded hd]
    simp
  | some text =>
    simp only [parse_ok_iff hd,parse_refused_iff hd,Option.some.injEq,exists_eq_left',forall_eq']
    constructor
    · rintro ⟨hok,hreason⟩ hmisread
      rcases hmisread.answers with ⟨ha,hn⟩ | ⟨status,hne,ha,hstray,hlen⟩
      · exact hn (hok.mp ha)
      · rcases reasonOf_append_iff.mp (hreason status _ ⟨hne,ha,rfl⟩) with hnil | hshort
        · exact hstray hnil
        · omega
    · intro h
      refine ⟨⟨fun ha => ?_,fun hf => answers_of_firstLine hf.1 hf.2⟩,?_⟩
      · by_contra hn
        exact h (ha.misread hn)
      · rintro status reason ⟨hne,ha,rfl⟩
        refine reasonOf_append_iff.mpr ?_
        by_contra hn
        rw [not_or,not_le] at hn
        exact h (ha.misread_of_stray hne hn.1 hn.2)

end

/-- Lines ended by bare line feeds; the status stands on the second. -/
def bareBlock : Bytes := utf8 ("HTTP/1.1".toList ++ ['\n'] ++ "200 OK".toList ++ ['\n','\n'])

/-- The reader returns the block, and the parser takes it for a 200, though its
first line has no status. -/
theorem status_on_second_line :
    (readHttpResponseHeaders BufReader.reader 4 (BufReader.new [⟨bareBlock,by decide,by decide⟩] none :
        BufReader UInt8 String 8192)).map Prod.fst = some (.ok bareBlock) ∧
      parseHttpConnectResponse (fun _ => true) bareBlock = .ok () ∧
      ¬ StatusFromFirstLine (fun _ => true) bareBlock := by
  have hd : bareBlock.toByteArray.utf8Decode? =
      some ("HTTP/1.1".toList ++ ['\n'] ++ "200 OK".toList ++ ['\n','\n']).toArray :=
    List.utf8Decode?_utf8Encode
  have hok : parseHttpConnectResponse (fun _ => true) bareBlock = .ok () :=
    (parse_ok_iff hd).mpr (by unfold Answers; decide)
  refine ⟨by decide,hok,fun h => ?_⟩
  obtain ⟨text,ht,-,hs⟩ := h.1.mp hok
  rw [hd] at ht
  cases ht
  have hnone : statusAmong (firstWords
      ("HTTP/1.1".toList ++ ['\n'] ++ "200 OK".toList ++ ['\n','\n'])) = none := by decide
  rw [List.toList_toArray,hnone] at hs
  cases hs

end MindChat
