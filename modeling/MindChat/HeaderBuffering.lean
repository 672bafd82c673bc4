import MindChat.HttpHeaders

/-! How much the header reader takes from a proxy: the bound is checked between lines, so a line that
goes on behind it is read to its end. -/

namespace MindChat

open Json

/-- The buffer of `BufReader::new`. -/
def defaultBufSize : ℕ := 8 * 1024

theorem one_le_defaultBufSize : 1 ≤ defaultBufSize := by decide

abbrev HttpChunk := Chunk UInt8 defaultBufSize

/-- However the stream arrives, the reader returns with the bound taken and one buffer more at most. -/
def BoundedBuffering {R : Type} (io : BufferedReader R UInt8 String defaultBufSize) (stream : Bytes) : Prop :=
  ∀ (arriving : List HttpChunk) (failure : Option String), arriving.flatMap Chunk.bytes = stream →
    ∀ rounds result reader',
      readHttpResponseHeaders io rounds (io.new arriving failure) = some (result,reader') →
      io.taken (io.new arriving failure) reader' ≤ maxHttpResponseHeaderBytes + defaultBufSize

section

variable {R : Type} {capacity : ℕ} {io : BufferedReader R UInt8 String capacity} {reader reader' : R}
  {headers : Bytes} {result : Except ProxyError Bytes}

theorem readHeaderLines_succ (io : BufferedReader R UInt8 String capacity) (headers : Bytes) (reader : R) :
    (∃ result, ∀ rounds, readHeaderLines io (rounds + 1) headers reader =
        some (result,(io.readUntil lineFeed reader).2)) ∨
      ∃ line, ∀ rounds, readHeaderLines io (rounds + 1) headers reader =
        readHeaderLines io rounds (headers ++ line) (io.readUntil lineFeed reader).2 := by
  simp only [readHeaderLines]
  rcases io.readUntil lineFeed reader with ⟨e | line,next⟩
  · exact .inl ⟨.error (.io e),fun _ => rfl⟩
  dsimp only
  split
  · exact .inl ⟨.error closedHeaders,fun _ => rfl⟩
  split
  · exact .inl ⟨.error oversizedHeaders,fun _ => rfl⟩
  split
  · exact .inl ⟨.ok (headers ++ line),fun _ => rfl⟩
  · exact .inr ⟨line,fun _ => rfl⟩

theorem readHeaderLines_mono {rounds more : ℕ} (hle : rounds ≤ more)
    (h : readHeaderLines io rounds headers reader = some (result,reader')) :
    readHeaderLines io more headers reader = some (result,reader') := by
  induction rounds generalizing more headers reader with
  | zero => cases h
  | succ rounds ih =>
    obtain ⟨more,rfl⟩ := Nat.exists_eq_add_one_of_ne_zero (show more ≠ 0 by omega)
    rcases readHeaderLines_succ io headers reader with ⟨_,hround⟩ | ⟨line,hround⟩
    · rwa [hround,← hround rounds]
    · rw [hround] at h ⊢
      exact ih (Nat.le_of_add_le_add_right hle) h

/-- When the loop is over, whole chunks have been taken and none of them is whole in the buffer. -/
theorem readHeaderLines_stop {rounds : ℕ}
    (h : readHeaderLines io rounds headers reader = some (result,reader')) :
    io.arriving reader' <:+ io.arriving reader ∧ (io.buffered reader').length ≤ capacity - 1 := by
  induction rounds generalizing headers reader with
  | zero => cases h
  | succ rounds ih =>
    have hread := io.readUntil_arriving lineFeed reader
    rcases readHeaderLines_succ io headers reader with ⟨_,hround⟩ | ⟨line,hround⟩
    · rw [hround] at h
      cases h
      exact hread
    · rw [hround] at h
      exact (ih h).imp (fun harriving => harriving.trans hread.1) id

theorem readHeaderLines_unique {rounds enough : ℕ}
    {outcome : Except ProxyError Bytes × R}
    (hall : ∀ rounds, enough < rounds → readHeaderLines io rounds headers reader = some outcome)
    (h : readHeaderLines io rounds headers reader = some (result,reader')) : outcome = (result,reader') := by
  have hmax := readHeaderLines_mono (le_max_left rounds (enough + 1)) h
  rw [hall _ (le_max_right rounds (enough + 1))] at hmax
  exact Option.some.inj hmax

end

def HasShortBlock (stream : Bytes) : Prop :=
  ∃ block, block <+: stream ∧ EndsInEmptyLine block ∧ block.length ≤ maxHttpResponseHeaderBytes

section

variable {R : Type} {io : BufferedReader R UInt8 String defaultBufSize} {stream : Bytes}

theorem boundedBuffering_of_length (h : stream.length ≤ maxHttpResponseHeaderBytes + defaultBufSize) :
    BoundedBuffering io stream := by
  rintro arriving failure rfl rounds result reader' -
  rw [BufRead.taken,io.inFlight_new]
  exact (Nat.sub_le _ _).trans h

theorem boundedBuffering_of_block (h : HasShortBlock stream) : BoundedBuffering io stream := by
  rintro arriving failure rfl rounds result reader' hrun
  obtain ⟨block,hp,he,hle⟩ := h
  obtain ⟨shortest,hs,hlen⟩ := he.exists_isHeaderBlock hp
  have hblock : IsHeaderBlock shortest (io.unread (io.new arriving failure)) := by rwa [io.unread_new]
  obtain ⟨last,hall,hrest,-⟩ := readHeaderLines_block [] hblock (hlen.trans hle)
  rw [io.unread_new] at hrest
  cases readHeaderLines_unique hall hrun
  have hunread : (arriving.flatMap Chunk.bytes).length = shortest.length + (io.unread reader').length :=
    (congrArg List.length hrest).trans List.length_append
  have htaken := io.taken_new failure (hunread ▸ Nat.le_add_left _ _)
  have hfits := io.fits reader'
  omega

theorem unread_of_not_hasShortBlock {arriving : List HttpChunk} (failure : Option String)
    (hno : ¬ HasShortBlock (arriving.flatMap Chunk.bytes)) :
    ∃ result reader', (∀ rounds, (arriving.flatMap Chunk.bytes).length < rounds →
        readHttpResponseHeaders io rounds (io.new arriving failure) = some (result,reader')) ∧
      io.unread reader' =
        (splitAfter lineFeed ((arriving.flatMap Chunk.bytes).drop maxHttpResponseHeaderBytes)).2 := by
  have hlong : ∀ block, block <+: (io.unread (io.new arriving failure)) → EndsInEmptyLine block →
      maxHttpResponseHeaderBytes < block.length :=
    fun block hp he => not_le.mp fun hle => hno ⟨block,io.unread_new arriving failure ▸ hp,he,hle⟩
  obtain ⟨e,reader',hall,hrest⟩ := readHeaderLines_error [] (Nat.zero_le _) hlong
  rw [io.unread_new] at hall hrest
  exact ⟨.error e,reader',hall,hrest⟩

theorem boundedBuffering_of_lineFeed (h : stream[maxHttpResponseHeaderBytes]? = some lineFeed)
    (hno : ¬ HasShortBlock stream) : BoundedBuffering io stream := by
  rintro arriving failure rfl rounds result reader' hrun
  obtain ⟨_,_,hall,hrest⟩ := unread_of_not_hasShortBlock failure hno
  cases readHeaderLines_unique hall hrun
  obtain ⟨hlt,hlf⟩ := List.getElem?_eq_some_iff.mp h
  rw [List.drop_eq_getElem_cons hlt,hlf,← List.nil_append (lineFeed :: _),
    splitAfter_line List.not_mem_nil] at hrest
  have hunread := congrArg List.length hrest
  rw [List.length_drop] at hunread
  have htaken := io.taken_new failure (hunread ▸ Nat.sub_le _ _)
  have hbuffered := (readHeaderLines_stop hrun).2
  have hpos := one_le_defaultBufSize
  omega

end

def bytewise (bytes : Bytes) : List HttpChunk :=
  bytes.map fun b => ⟨[b],List.cons_ne_nil b [],one_le_defaultBufSize⟩

theorem flatMap_bytewise (bytes : Bytes) : (bytewise bytes).flatMap Chunk.bytes = bytes := by
  induction bytes with
  | nil => rfl
  | cons b bytes ih => exact congrArg (b :: ·) ih

theorem exists_split {stream : Bytes}
    (hlen : maxHttpResponseHeaderBytes + defaultBufSize < stream.length) :
    ∃ init b full rest, stream = init ++ b :: (full ++ rest) ∧
      init.length = maxHttpResponseHeaderBytes ∧ full.length = defaultBufSize := by
  have hm : maxHttpResponseHeaderBytes < stream.length := by omega
  refine ⟨stream.take maxHttpResponseHeaderBytes,stream[maxHttpResponseHeaderBytes],
    (stream.drop (maxHttpResponseHeaderBytes + 1)).take defaultBufSize,
    (stream.drop (maxHttpResponseHeaderBytes + 1)).drop defaultBufSize,?_,
    List.length_take_of_le (by omega),List.length_take_of_le (by rw [List.length_drop]; omega)⟩
  rw [List.take_append_drop,← List.drop_eq_getElem_cons,List.take_append_drop]

/-- Bytes one by one to the first behind the bound, then a full buffer: the reader takes that as soon
as it needs one byte of it. -/
theorem not_boundedBuffering {R : Type} (io : BufferedReader R UInt8 String defaultBufSize)
    {stream : Bytes} (hno : ¬ HasShortBlock stream)
    (hlf : stream[maxHttpResponseHeaderBytes]? ≠ some lineFeed)
    (hlen : maxHttpResponseHeaderBytes + defaultBufSize < stream.length) : ¬ BoundedBuffering io stream := by
  obtain ⟨init,b,full,rest,rfl,hinit,hfull⟩ := exists_split hlen
  have hb : b ≠ lineFeed := by
    rintro rfl
    exact hlf (by rw [← hinit,List.getElem?_append_right le_rfl,Nat.sub_self]; rfl)
  have hpos := one_le_defaultBufSize
  let big : HttpChunk := ⟨full,List.ne_nil_of_length_pos (by omega),hfull.le⟩
  have hstream : (bytewise (init ++ [b]) ++ big :: bytewise rest).flatMap Chunk.bytes =
      init ++ b :: (full ++ rest) := by
    rw [List.flatMap_append,List.flatMap_cons,flatMap_bytewise,flatMap_bytewise,List.append_assoc]
    rfl
  intro h
  obtain ⟨result,reader',hall,hrest⟩ := unread_of_not_hasShortBlock none (hstream.symm ▸ hno)
  have hrun := hall _ (Nat.lt_succ_self _)
  have hbound := h _ none hstream _ _ _ hrun
  have hunread : (io.unread reader').length ≤ (full ++ rest).length - 1 := by
    rw [hrest,hstream,← hinit,List.drop_left,splitAfter,if_neg hb]
    exact splitAfter_snd_le _
  have hread : ¬ big :: bytewise rest <:+ io.arriving reader' := by
    intro hs
    have hle := Chunk.length_flatMap_le hs
    rw [List.flatMap_cons,flatMap_bytewise,List.length_append,hfull] at hle
    rw [BufRead.unread,BufRead.inFlight,List.length_append,List.length_append,hfull] at hunread
    omega
  have hcome := (readHeaderLines_stop hrun).1
  rw [io.arriving_new] at hcome
  have hleft := Chunk.length_flatMap_le (Chunk.suffix_of_taken hcome hread)
  rw [flatMap_bytewise] at hleft
  rw [BufRead.taken,io.inFlight_new,BufRead.inFlight,hstream] at hbound
  simp only [List.length_append,List.length_cons] at hbound
  omega

/-- What the reader takes is bounded exactly if the block ends within the bound, or a line ends right
behind it, or the stream is itself no longer than the bound and a buffer. -/
theorem header_buffering_iff {R : Type} (io : BufferedReader R UInt8 String defaultBufSize) (stream : Bytes) :
    BoundedBuffering io stream ↔ HasShortBlock stream ∨
      stream[maxHttpResponseHeaderBytes]? = some lineFeed ∨
      stream.length ≤ maxHttpResponseHeaderBytes + defaultBufSize := by
  constructor
  · intro h
    by_contra hnot
    simp only [not_or,not_le] at hnot
    exact not_boundedBuffering io hnot.1 hnot.2.1 hnot.2.2 h
  · rintro (h | h | h)
    · exact boundedBuffering_of_block h
    · by_cases hblock : HasShortBlock stream
      · exact boundedBuffering_of_block hblock
      · exact boundedBuffering_of_lineFeed h hblock
    · exact boundedBuffering_of_length h

/-- A stream without a line end is taken whole, as far as it goes. -/
theorem endless_line_taken : ¬ BoundedBuffering BufReader.reader (List.replicate 32768 97) := by
  refine not_boundedBuffering _ ?_ ?_ ?_
  · rintro ⟨block,hp,he,-⟩
    exact absurd (List.eq_of_mem_replicate (hp.subset he.mem)) (by decide)
  · rw [List.getElem?_replicate]
    decide
  · rw [List.length_replicate]
    decide

end MindChat
