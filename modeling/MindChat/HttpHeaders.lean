import MindChat.BufReader
import MindChat.ProxyProtocol

/-! The header block of an answer to an HTTP CONNECT: it is read line by line, and the reader that
did it becomes the tunnel. -/

namespace MindChat

open Json

def maxHttpResponseHeaderBytes : ℕ := 16 * 1024

def lineFeed : UInt8 := 10
def carriageReturn : UInt8 := 13

def closedHeaders : ProxyError :=
  .httpMalformed "the proxy closed the connection before the response completed"

def oversizedHeaders : ProxyError :=
  .httpMalformed "the proxy response headers exceeded the size bound"

def EmptyLine (line : Bytes) : Prop := line = [carriageReturn,lineFeed] ∨ line = [lineFeed]

instance (line : Bytes) : Decidable (EmptyLine line) := inferInstanceAs (Decidable (_ ∨ _))

section

variable {R : Type} {capacity : ℕ} (io : BufferedReader R UInt8 String capacity)

/-- The lines of the block, for so many rounds; the size is checked before the end. -/
def readHeaderLines : ℕ → Bytes → R → Option (Except ProxyError Bytes × R)
  | 0,_,_ => none
  | rounds + 1,headers,reader =>
    match io.readUntil lineFeed reader with
    | (.error e,reader) => some (.error (.io e),reader)
    | (.ok line,reader) =>
      if line.length = 0 then
        some (.error closedHeaders,reader)
      else if maxHttpResponseHeaderBytes < (headers ++ line).length then
        some (.error oversizedHeaders,reader)
      else if EmptyLine line then some (.ok (headers ++ line),reader)
      else readHeaderLines rounds (headers ++ line) reader

def readHttpResponseHeaders (rounds : ℕ) (reader : R) : Option (Except ProxyError Bytes × R) :=
  readHeaderLines io rounds [] reader

end

/-- The last line is empty, and it is a line of its own. -/
def EndsInEmptyLine (block : Bytes) : Prop :=
  ∃ before line, block = before ++ line ∧ EmptyLine line ∧ ∀ b ∈ before.getLast?, b = lineFeed

/-- The shortest beginning of a stream that ends in an empty line. -/
structure IsHeaderBlock (block stream : Bytes) : Prop where
  begins : block <+: stream
  ends : EndsInEmptyLine block
  shortest : ∀ other, other <+: stream → EndsInEmptyLine other → block.length ≤ other.length

theorem EmptyLine.eq_body {line : Bytes} (h : EmptyLine line) :
    ∃ body, line = body ++ [lineFeed] ∧ lineFeed ∉ body := by
  rcases h with rfl | rfl
  · exact ⟨[carriageReturn],rfl,by decide⟩
  · exact ⟨[],rfl,by decide⟩

theorem EmptyLine.eq_nil {more block : Bytes} (h : EmptyLine (more ++ block)) (hm : lineFeed ∈ more) :
    block = [] := by
  obtain ⟨body,he,hbody⟩ := h.eq_body
  rcases List.eq_nil_or_concat block with rfl | ⟨init,last,rfl⟩
  · rfl
  · rw [List.concat_eq_append,← List.append_assoc] at he
    obtain ⟨rfl,-⟩ := List.append_inj' he rfl
    exact absurd (List.mem_append_left init hm) hbody

theorem EmptyLine.ends {line : Bytes} (h : EmptyLine line) : EndsInEmptyLine line :=
  ⟨[],line,rfl,h,nofun⟩

theorem EndsInEmptyLine.mem {block : Bytes} (h : EndsInEmptyLine block) : lineFeed ∈ block := by
  obtain ⟨before,line,rfl,hl,-⟩ := h
  obtain ⟨body,rfl,-⟩ := hl.eq_body
  simp

section

variable {body rest block : Bytes}

theorem line_prefix (hbody : lineFeed ∉ body) (h : block <+: body ++ lineFeed :: rest)
    (hm : lineFeed ∈ block) : body ++ [lineFeed] <+: block := by
  have hline : body ++ [lineFeed] <+: body ++ lineFeed :: rest :=
    ⟨rest,by rw [List.append_assoc,List.singleton_append]⟩
  rcases List.prefix_or_prefix_of_prefix h hline with hp | hp
  · rcases List.prefix_concat_iff.mp hp with rfl | hp
    · exact List.prefix_rfl
    · exact absurd (hp.subset hm) hbody
  · exact hp

theorem endsInEmptyLine_line (hbody : lineFeed ∉ body) (hline : ¬ EmptyLine (body ++ [lineFeed])) :
    EndsInEmptyLine (body ++ [lineFeed] ++ block) ↔ EndsInEmptyLine block := by
  constructor
  · rintro ⟨before,line,he,hl,hlast⟩
    rcases List.append_eq_append_iff.mp he with ⟨more,rfl,rfl⟩ | ⟨more,hb,rfl⟩
    · refine ⟨more,line,rfl,hl,fun b hb => hlast b ?_⟩
      rw [List.getLast?_append,hb]
      rfl
    rcases List.eq_nil_or_concat more with rfl | ⟨init,last,rfl⟩
    · exact hl.ends
    rw [List.concat_eq_append,← List.append_assoc] at hb
    obtain ⟨rfl,hlf⟩ := List.append_inj' hb rfl
    have hm : lineFeed ∈ init.concat last := by
      rw [List.concat_eq_append,← hlf]
      exact List.mem_append_right init (List.mem_singleton_self lineFeed)
    obtain rfl := hl.eq_nil hm
    rw [List.append_nil,List.concat_eq_append,← hlf] at hl
    rcases List.eq_nil_or_concat before with rfl | ⟨start,b,rfl⟩
    · exact absurd hl hline
    · have hb : b = lineFeed := hlast b (by rw [List.concat_eq_append,List.getLast?_concat]; rfl)
      refine absurd ?_ hbody
      rw [hb,List.concat_eq_append]
      simp
  · rintro ⟨before,line,rfl,hl,hlast⟩
    refine ⟨body ++ [lineFeed] ++ before,line,(List.append_assoc _ _ _).symm,hl,fun b hb => ?_⟩
    rw [List.getLast?_append,List.getLast?_concat] at hb
    rcases hb' : before.getLast? with _ | last
    · rw [hb'] at hb
      exact (Option.some.inj hb).symm
    · rw [hb'] at hb
      exact hlast b (hb'.trans hb)

theorem IsHeaderBlock.of_line (hbody : lineFeed ∉ body)
    (h : IsHeaderBlock block (body ++ lineFeed :: rest)) :
    EmptyLine (body ++ [lineFeed]) ∧ block = body ++ [lineFeed] ∨
      ¬ EmptyLine (body ++ [lineFeed]) ∧
        ∃ more, block = body ++ [lineFeed] ++ more ∧ IsHeaderBlock more rest := by
  have hsplit : body ++ lineFeed :: rest = body ++ [lineFeed] ++ rest := List.append_cons body lineFeed rest
  obtain ⟨more,rfl⟩ := line_prefix hbody h.begins h.ends.mem
  by_cases hline : EmptyLine (body ++ [lineFeed])
  · have hle := h.shortest (body ++ [lineFeed]) ⟨rest,hsplit.symm⟩ hline.ends
    rw [List.length_append] at hle
    obtain rfl : more = [] := List.length_eq_zero_iff.mp (by omega)
    exact .inl ⟨hline,List.append_nil _⟩
  · refine .inr ⟨hline,more,rfl,?_,(endsInEmptyLine_line hbody hline).mp h.ends,fun other ho he => ?_⟩
    · exact (List.prefix_append_right_inj _).mp (hsplit ▸ h.begins)
    · have hle := h.shortest (body ++ [lineFeed] ++ other)
        (hsplit ▸ (List.prefix_append_right_inj _).mpr ho) ((endsInEmptyLine_line hbody hline).mpr he)
      have hlen : (body ++ [lineFeed] ++ other).length = (body ++ [lineFeed]).length + other.length :=
        List.length_append
      rw [List.length_append,hlen] at hle
      exact Nat.le_of_add_le_add_left hle

theorem IsHeaderBlock.unique {stream other : Bytes} (h : IsHeaderBlock block stream)
    (ho : IsHeaderBlock other stream) : block = other := by
  have hlen : block.length = other.length :=
    le_antisymm (h.shortest other ho.begins ho.ends) (ho.shortest block h.begins h.ends)
  rw [List.prefix_iff_eq_take.mp h.begins,List.prefix_iff_eq_take.mp ho.begins,hlen]

end

theorem EndsInEmptyLine.exists_isHeaderBlock {block stream : Bytes} (he : EndsInEmptyLine block)
    (hp : block <+: stream) :
    ∃ shortest, IsHeaderBlock shortest stream ∧ shortest.length ≤ block.length := by
  induction hn : block.length using Nat.strong_induction_on generalizing block with
  | _ n ih =>
    subst hn
    by_cases h : ∃ other, other <+: stream ∧ EndsInEmptyLine other ∧ other.length < block.length
    · obtain ⟨other,ho,hoe,hlt⟩ := h
      obtain ⟨shortest,hs,hle⟩ := ih other.length hlt hoe ho rfl
      exact ⟨shortest,hs,hle.trans hlt.le⟩
    · refine ⟨block,⟨hp,he,fun other ho hoe => not_lt.mp fun hlt => ?_⟩,le_rfl⟩
      exact h ⟨other,ho,hoe,hlt⟩

section

variable {R : Type} {capacity : ℕ} {io : BufferedReader R UInt8 String capacity} {reader : R}

theorem readHeaderLines_line (hm : lineFeed ∈ io.unread reader) :
    ∃ (body : Bytes) (next : R), lineFeed ∉ body ∧
      io.unread reader = body ++ lineFeed :: io.unread next ∧ io.failure next = io.failure reader ∧
      ∀ rounds headers, readHeaderLines io (rounds + 1) headers reader =
        if maxHttpResponseHeaderBytes < (headers ++ (body ++ [lineFeed])).length then
          some (.error oversizedHeaders,next)
        else if EmptyLine (body ++ [lineFeed]) then some (.ok (headers ++ (body ++ [lineFeed])),next)
        else readHeaderLines io rounds (headers ++ (body ++ [lineFeed])) next := by
  obtain ⟨body,rest,hunread,hbody⟩ := List.eq_append_cons_of_mem hm
  obtain ⟨next,hread,hnext,hfailure,-,-⟩ := io.readUntil_mem hm
  rw [hunread,splitAfter_line hbody] at hread hnext
  refine ⟨body,next,hbody,by rw [hunread,hnext],hfailure,fun rounds headers => ?_⟩
  rw [readHeaderLines,hread]
  exact if_neg (by simp)

theorem readHeaderLines_end (headers : Bytes) (h : lineFeed ∉ io.unread reader) :
    ∃ ended, io.unread ended = [] ∧
      ((∃ e, ∀ rounds, readHeaderLines io (rounds + 1) headers reader = some (.error e,ended)) ∨
        io.unread reader ≠ [] ∧ (headers ++ io.unread reader).length ≤ maxHttpResponseHeaderBytes ∧
          ∀ rounds, readHeaderLines io (rounds + 1) headers reader =
            readHeaderLines io rounds (headers ++ io.unread reader) ended) := by
  obtain ⟨hread,hended⟩ := io.readUntil_not_mem h
  refine ⟨_,hended,?_⟩
  have hpair : io.readUntil lineFeed reader = (_,_) := Prod.ext hread rfl
  simp only [readHeaderLines]
  rw [hpair]
  cases io.failure reader with
  | some e => exact .inl ⟨.io e,fun _ => rfl⟩
  | none =>
    have hline : ¬ EmptyLine (io.unread reader) := fun hline => h hline.ends.mem
    simp only [if_neg hline]
    split
    · exact .inl ⟨closedHeaders,fun _ => rfl⟩
    next hne =>
    split
    · exact .inl ⟨oversizedHeaders,fun _ => rfl⟩
    next hfits => exact .inr ⟨fun h0 => hne (congrArg List.length h0),not_lt.mp hfits,fun _ => rfl⟩

/-- Bytes without a line feed are taken, and then there are none: the reader fails. -/
theorem readHeaderLines_tail (headers : Bytes) (h : lineFeed ∉ io.unread reader) :
    ∃ e ended, (∀ rounds, (io.unread reader).length < rounds →
      readHeaderLines io rounds headers reader = some (.error e,ended)) ∧ io.unread ended = [] := by
  obtain ⟨ended,hended,⟨e,hrun⟩ | ⟨hne,-,hround⟩⟩ := readHeaderLines_end headers h
  · refine ⟨e,ended,fun rounds hlt => ?_,hended⟩
    obtain ⟨r,rfl⟩ := Nat.exists_eq_add_one_of_ne_zero (Nat.ne_zero_of_lt hlt)
    exact hrun r
  have hmore : lineFeed ∉ io.unread ended := hended ▸ List.not_mem_nil
  obtain ⟨last,hlast,⟨e,hrun⟩ | ⟨hne',-,-⟩⟩ :=
    readHeaderLines_end (headers ++ io.unread reader) hmore
  · refine ⟨e,last,fun rounds hlt => ?_,hlast⟩
    have hpos : 0 < (io.unread reader).length := List.length_pos_iff.mpr hne
    obtain ⟨r,rfl⟩ : ∃ r, rounds = r + 1 + 1 := ⟨rounds - 2,by omega⟩
    rw [hround]
    exact hrun r
  · exact absurd hended hne'

theorem exists_round {body rest : Bytes} {rounds : ℕ}
    (h : (body ++ lineFeed :: rest).length < rounds) : ∃ r, rounds = r + 1 ∧ rest.length < r := by
  rw [List.length_append,List.length_cons] at h
  exact ⟨rounds - 1,by omega,by omega⟩

theorem length_rest_lt (body rest : Bytes) : rest.length < (body ++ lineFeed :: rest).length := by
  rw [List.length_append,List.length_cons]
  omega

theorem readHeaderLines_block {block : Bytes} (headers : Bytes) (h : IsHeaderBlock block (io.unread reader))
    (hfits : (headers ++ block).length ≤ maxHttpResponseHeaderBytes) :
    ∃ reader', (∀ rounds, (io.unread reader).length < rounds →
        readHeaderLines io rounds headers reader = some (.ok (headers ++ block),reader')) ∧
      io.unread reader = block ++ io.unread reader' ∧ io.failure reader' = io.failure reader := by
  induction hn : (io.unread reader).length using Nat.strong_induction_on generalizing block headers reader with
  | _ n ih =>
    subst hn
    obtain ⟨body,next,hbody,hunread,hfailure,hround⟩ :=
      readHeaderLines_line (h.begins.subset h.ends.mem)
    rw [hunread] at h ih ⊢
    rcases h.of_line hbody with ⟨hline,rfl⟩ | ⟨hline,more,rfl,hmore⟩
    · refine ⟨next,fun rounds hlt => ?_,List.append_cons body lineFeed (io.unread next),hfailure⟩
      obtain ⟨r,rfl,-⟩ := exists_round hlt
      rw [hround,if_neg (not_lt.mpr hfits),if_pos hline]
    · rw [← List.append_assoc] at hfits ⊢
      have hle : (headers ++ (body ++ [lineFeed])).length ≤ maxHttpResponseHeaderBytes := by
        rw [List.length_append] at hfits
        omega
      obtain ⟨reader',hrun,hrest,hf⟩ := ih (io.unread next).length (length_rest_lt body _) _ hmore hfits rfl
      refine ⟨reader',fun rounds hlt => ?_,?_,hf.trans hfailure⟩
      · obtain ⟨r,rfl,hr⟩ := exists_round hlt
        rw [hround,if_neg (not_lt.mpr hle),if_neg hline,hrun r hr]
      · rw [List.append_assoc,← hrest,← List.append_cons]

/-- Without a block that fits the reader fails. By then it has taken the bound, and what is left of
the line that stands there. -/
theorem readHeaderLines_error (headers : Bytes) (hle : headers.length ≤ maxHttpResponseHeaderBytes)
    (h : ∀ block, block <+: io.unread reader → EndsInEmptyLine block →
      maxHttpResponseHeaderBytes < (headers ++ block).length) :
    ∃ e reader', (∀ rounds, (io.unread reader).length < rounds →
        readHeaderLines io rounds headers reader = some (.error e,reader')) ∧
      io.unread reader' = (splitAfter lineFeed
        ((io.unread reader).drop (maxHttpResponseHeaderBytes - headers.length))).2 := by
  induction hn : (io.unread reader).length using Nat.strong_induction_on generalizing headers reader with
  | _ n ih =>
    subst hn
    by_cases hm : lineFeed ∈ io.unread reader
    · obtain ⟨body,next,hbody,hunread,-,hround⟩ := readHeaderLines_line hm
      rw [hunread] at h ih ⊢
      by_cases hlong : maxHttpResponseHeaderBytes < (headers ++ (body ++ [lineFeed])).length
      · refine ⟨oversizedHeaders,next,fun rounds hlt => ?_,?_⟩
        · obtain ⟨r,rfl,-⟩ := exists_round hlt
          rw [hround,if_pos hlong]
        · rw [List.length_append,List.length_append,List.length_singleton] at hlong
          rw [List.drop_append_of_le_length (by omega),
            splitAfter_line fun hd => hbody (List.mem_of_mem_drop hd)]
      · rw [List.append_cons] at h
        have hline : ¬ EmptyLine (body ++ [lineFeed]) := fun hline =>
          hlong (h _ (List.prefix_append _ _) hline.ends)
        have hmore : ∀ block, block <+: io.unread next → EndsInEmptyLine block →
            maxHttpResponseHeaderBytes < (headers ++ (body ++ [lineFeed]) ++ block).length := by
          intro block hp he
          rw [List.append_assoc]
          exact h _ ((List.prefix_append_right_inj _).mpr hp) ((endsInEmptyLine_line hbody hline).mpr he)
        obtain ⟨e,reader',hrun,hrest⟩ :=
          ih (io.unread next).length (length_rest_lt body _) _ (not_lt.mp hlong) hmore rfl
        refine ⟨e,reader',fun rounds hlt => ?_,?_⟩
        · obtain ⟨r,rfl,hr⟩ := exists_round hlt
          rw [hround,if_neg hlong,if_neg hline,hrun r hr]
        · have hfits : (body ++ [lineFeed]).length ≤ maxHttpResponseHeaderBytes - headers.length := by
            rw [List.length_append] at hlong
            omega
          rw [hrest,List.append_cons body lineFeed (io.unread next),List.drop_append,
            List.drop_eq_nil_of_le hfits,List.nil_append,List.length_append,Nat.sub_sub]
    · obtain ⟨e,ended,hrun,hended⟩ := readHeaderLines_tail headers hm
      refine ⟨e,ended,hrun,?_⟩
      rw [splitAfter_of_not_mem fun hd => hm (List.mem_of_mem_drop hd),hended]

/-- The reader comes to an end on every stream and however that arrives. It returns the header block
if that fits, and leaves everything behind it to the tunnel; where no block fits it fails. -/
theorem http_header_framing (io : BufferedReader R UInt8 String capacity) (reader : R) :
    ∃ result reader', (∀ rounds, (io.unread reader).length < rounds →
        readHttpResponseHeaders io rounds reader = some (result,reader')) ∧
      (∀ block, IsHeaderBlock block (io.unread reader) → block.length ≤ maxHttpResponseHeaderBytes →
        result = .ok block ∧ io.unread reader = block ++ io.unread reader' ∧
          io.failure reader' = io.failure reader) ∧
      ((∀ block, block <+: io.unread reader → EndsInEmptyLine block →
        maxHttpResponseHeaderBytes < block.length) → ∃ e, result = .error e) := by
  by_cases h : ∃ block, block <+: io.unread reader ∧ EndsInEmptyLine block ∧
    block.length ≤ maxHttpResponseHeaderBytes
  · obtain ⟨block,hp,he,hle⟩ := h
    obtain ⟨shortest,hs,hlen⟩ := he.exists_isHeaderBlock hp
    obtain ⟨reader',hrun,hrest,hfailure⟩ := readHeaderLines_block [] hs (hlen.trans hle)
    refine ⟨.ok shortest,reader',hrun,fun other ho _ => ?_,fun hno => ?_⟩
    · obtain rfl := hs.unique ho
      exact ⟨rfl,hrest,hfailure⟩
    · exact absurd hle (not_le.mpr (hno block hp he))
  · have hno : ∀ block, block <+: io.unread reader → EndsInEmptyLine block →
        maxHttpResponseHeaderBytes < block.length :=
      fun block hp he => not_le.mp fun hle => h ⟨block,hp,he,hle⟩
    obtain ⟨e,reader',hrun,-⟩ := readHeaderLines_error [] (Nat.zero_le _) hno
    refine ⟨.error e,reader',hrun,fun block hb hle => ?_,fun _ => ⟨e,rfl⟩⟩
    exact absurd hle (not_le.mpr (hno block hb.begins hb.ends))

/-- A block that arrives in two chunks, the second with the first byte of the tunnel. -/
example : (readHttpResponseHeaders BufReader.reader 3
    (BufReader.new [⟨[65,10,13],by decide,by decide⟩,⟨[10,66],by decide,by decide⟩] none :
      BufReader UInt8 String 8)).map (fun p => (p.1,p.2.unread)) = some (.ok [65,10,13,10],[66]) := by
  decide

end

end MindChat
