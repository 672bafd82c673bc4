import MindChat.ProxyLibrary

/-! What the proxy library store gives back of what it was given: a probe error
with a separator in it is the one way to lose, alter or invent an entry. -/

namespace MindChat

open Delimited

def Plain (text : List Char) : Prop := fieldSep ∉ text ∧ recordSep ∉ text

instance (text : List Char) : Decidable (Plain text) := by unfold Plain; infer_instance

theorem plain_of_forall {text : List Char} (h : ∀ c ∈ text, c ≠ fieldSep ∧ c ≠ recordSep) : Plain text :=
  ⟨fun hm => (h _ hm).1 rfl,fun hm => (h _ hm).2 rfl⟩

theorem plain_signed (n : ℤ) : Plain (Numeral.signed n) := by
  refine plain_of_forall fun c hc => ?_
  have hd : ∀ sep : Char, sep ≠ '-' → sep.isDigit = false → c ≠ sep := by
    rintro sep hm hs rfl
    rcases Numeral.mem_signed hc with rfl | h
    · exact hm rfl
    · exact absurd h (by simp [hs])
  exact ⟨hd _ (by decide) (by decide),hd _ (by decide) (by decide)⟩

theorem ProxyKind.plain_name (kind : ProxyKind) : Plain kind.name.toList := by
  cases kind <;> decide

theorem ProxyKind.named_name (kind : ProxyKind) : ProxyKind.named kind.name.toList = some kind := by
  cases kind <;> decide

/-- The separators are white space to Kotlin, so no accepted host has one. -/
theorem plain_of_valid {config : UiProxyConfig} (h : ¬ (validateProxyConfig config).isSome) :
    Plain config.host.toList := by
  have hw : config.host.toList.any Text.isWhitespaceKotlin = false := by
    unfold validateProxyConfig at h
    split at h
    · exact absurd rfl h
    · split at h
      · exact absurd rfl h
      · next hn => simpa using hn
  refine plain_of_forall fun c hc => ?_
  have hc' := List.any_eq_false.mp hw c hc
  constructor
  · rintro rfl
    exact hc' (by decide)
  · rintro rfl
    exact hc' (by decide)

/-- What every entry of a library keeps to. -/
structure ProxyLibraryEntry.Storable (entry : ProxyLibraryEntry) : Prop where
  id : Plain entry.id.toList
  host : Plain entry.host.toList
  error : entry.status.error ≠ some ""

/-- All of an encoded entry up to the error text. -/
def ProxyLibraryEntry.front (entry : ProxyLibraryEntry) : List Char :=
  entry.id.toList ++ fieldSep :: (entry.host.toList ++ fieldSep :: (Numeral.signed entry.port.toInt ++
    fieldSep :: (entry.kind.name.toList ++ fieldSep ::
      ((entry.status.latencyMs.map (fun n => Numeral.signed n.toInt)).getD [] ++ [fieldSep]))))

theorem encodeProxyEntry_eq (entry : ProxyLibraryEntry) :
    encodeProxyEntry entry = entry.front ++ (entry.status.error.getD "").toList := by
  simp [encodeProxyEntry,ProxyLibraryEntry.front,List.intercalate_cons_cons]

theorem plain_latency (latency : Option Int64) :
    Plain ((latency.map (fun n => Numeral.signed n.toInt)).getD []) := by
  cases latency with
  | none => exact ⟨List.not_mem_nil,List.not_mem_nil⟩
  | some n => exact plain_signed n.toInt

theorem recordSep_front {entry : ProxyLibraryEntry} (h : entry.Storable) : recordSep ∉ entry.front := by
  have hsep : recordSep ≠ fieldSep := by decide
  simp [ProxyLibraryEntry.front,h.id.2,h.host.2,(plain_signed _).2,(ProxyKind.plain_name _).2,
    (plain_latency _).2,hsep]

theorem splitOn_front {entry : ProxyLibraryEntry} (h : entry.Storable) (tail : List Char) :
    (entry.front ++ tail).splitOn fieldSep =
      entry.id.toList :: entry.host.toList :: Numeral.signed entry.port.toInt ::
        entry.kind.name.toList :: (entry.status.latencyMs.map (fun n => Numeral.signed n.toInt)).getD [] ::
        tail.splitOn fieldSep := by
  simp only [ProxyLibraryEntry.front,List.append_assoc,List.cons_append,List.nil_append]
  rw [List.splitOn_append_cons_self_of_not_mem h.id.1,
    List.splitOn_append_cons_self_of_not_mem h.host.1,
    List.splitOn_append_cons_self_of_not_mem (plain_signed _).1,
    List.splitOn_append_cons_self_of_not_mem (ProxyKind.plain_name _).1,
    List.splitOn_append_cons_self_of_not_mem (plain_latency _).1]

/-- The error of a decoded entry: the text up to the first separator, if any. -/
def storedError (text : List Char) : Option String :=
  if firstPiece fieldSep text = [] then none else some (String.ofList (firstPiece fieldSep text))

theorem decode_front {entry : ProxyLibraryEntry} (h : entry.Storable) (tail : List Char) :
    decodeProxyEntry (entry.front ++ tail) =
      some { entry with status := ⟨entry.status.latencyMs,storedError tail⟩ } := by
  obtain ⟨pieces,hp⟩ := splitOn_eq_cons fieldSep tail
  have hlatency : ∀ latency : Option Int64,
      ((some ((latency.map (fun n => Numeral.signed n.toInt)).getD [])).filter
        (fun text => text ≠ [])).bind Numeral.toLongOrNull = latency := by
    intro latency
    cases latency with
    | none => rfl
    | some n =>
      have hn : Numeral.signed n.toInt ≠ [] := by
        intro he
        have := Numeral.toLongOrNull_signed n
        rw [he] at this
        cases this
      rw [Option.map_some,Option.getD_some,Option.filter_some_pos (by simpa using hn),Option.bind_some,
        Numeral.toLongOrNull_signed]
  have herror : ((some (firstPiece fieldSep tail)).filter (fun text => text ≠ [])).map String.ofList =
      storedError tail := by
    unfold storedError
    by_cases ht : firstPiece fieldSep tail = []
    · simp [ht]
    · simp [ht]
  unfold decodeProxyEntry
  rw [splitOn_front h,hp]
  simp only [Numeral.toIntOrNull_signed,Option.bind_some,ProxyKind.named_name,Option.map_some,
    List.getElem?_cons_zero,List.getElem?_cons_succ,String.ofList_toList,hlatency,herror]

def ProxyLibraryEntry.PlainError (entry : ProxyLibraryEntry) : Prop :=
  ∀ text ∈ entry.status.error, Plain text.toList

theorem encodeProxyEntry_good {entry : ProxyLibraryEntry} (h : entry.Storable)
    (hp : entry.PlainError) :
    recordSep ∉ encodeProxyEntry entry ∧ decodeProxyEntry (encodeProxyEntry entry) = some entry := by
  have herror : Plain (entry.status.error.getD "").toList := by
    cases he : entry.status.error with
    | none => exact ⟨List.not_mem_nil,List.not_mem_nil⟩
    | some text => exact hp text he
  rw [encodeProxyEntry_eq]
  refine ⟨?_,?_⟩
  · rw [List.mem_append,not_or]
    exact ⟨recordSep_front h,herror.2⟩
  · have hs : storedError (entry.status.error.getD "").toList = entry.status.error := by
      rw [storedError,firstPiece_eq_self.mpr herror.1]
      cases he : entry.status.error with
      | none => rfl
      | some text =>
        have ht : text.toList ≠ [] := by
          intro hn
          exact h.error (he.trans (congrArg some (String.toList_eq_nil_iff.mp hn)))
        rw [Option.getD_some,if_neg ht,String.ofList_toList]
    rw [decode_front h,hs]

/-- The first piece of an encoded entry decodes to it with a shortened error. -/
theorem decode_firstPiece {entry : ProxyLibraryEntry} (h : entry.Storable) :
    ∃ read, decodeProxyEntry (firstPiece recordSep (encodeProxyEntry entry)) = some read ∧
      (read = entry → entry.PlainError) := by
  rw [encodeProxyEntry_eq,firstPiece_append,if_neg (recordSep_front h),decode_front h]
  refine ⟨_,rfl,fun he text ht => ?_⟩
  have hs := congrArg (fun entry => entry.status.error) he
  rw [Option.mem_def] at ht
  simp only [ht,Option.getD_some,storedError] at hs
  split at hs
  · cases hs
  · have hl := congrArg String.toList (Option.some.inj hs)
    rw [String.toList_ofList] at hl
    have hrecord : recordSep ∉ text.toList := by
      rw [← hl]
      intro hm
      exact not_mem_firstPiece _ ((List.takeWhile_prefix _).subset hm)
    rw [firstPiece_eq_self.mpr hrecord] at hl
    exact ⟨firstPiece_eq_self.mp hl,hrecord⟩

theorem readEntries_writeEntries_iff {library : List ProxyLibraryEntry}
    (h : ∀ entry ∈ library, entry.Storable) (store : ProxyLibraryStore) :
    (store.writeEntries library).readEntries = library ↔ ∀ entry ∈ library, entry.PlainError :=
  read_write_iff rfl (fun entry he => decode_firstPiece (h entry he))
    (fun entry he => encodeProxyEntry_good (h entry he))

theorem decodeAssignment_encode {accountId : Int64} {proxyId : String} :
    decodeAssignment (encodeAssignment (accountId,proxyId)) =
      if proxyId = "" then none else some (accountId,proxyId) := by
  have hf : firstPiece fieldSep (encodeAssignment (accountId,proxyId)) =
      Numeral.signed accountId.toInt := by
    rw [encodeAssignment,firstPiece_append,if_neg (plain_signed _).1,firstPiece_cons,if_pos rfl,
      List.append_nil]
  have hd : (encodeAssignment (accountId,proxyId)).drop ((Numeral.signed accountId.toInt).length + 1) =
      proxyId.toList := by
    rw [encodeAssignment,List.append_cons]
    exact List.drop_left' (by simp)
  unfold decodeAssignment
  rw [hf,hd,Numeral.toLongOrNull_signed,Option.bind_some]
  simp only [String.toList_eq_nil_iff,String.ofList_toList]

/-- Every assignment is read back but those that name the empty id. -/
theorem lookup_readAssignments_writeAssignments {assignments : Table Int64 String}
    (h : ∀ a proxyId, assignments.lookup a = some proxyId → Plain proxyId.toList)
    (store : ProxyLibraryStore) (a : Int64) :
    (store.writeAssignments assignments).readAssignments.lookup a =
      (assignments.lookup a).filter (fun proxyId => proxyId ≠ "") := by
  have hplain : ∀ record ∈ assignments.entries.map (fun e => (e.1,e.2)),
      recordSep ∉ encodeAssignment record := by
    intro record hr
    obtain ⟨⟨b,proxyId⟩,he,rfl⟩ := List.mem_map.mp hr
    have hsep : recordSep ≠ fieldSep := by decide
    simp [encodeAssignment,(plain_signed _).2,hsep,(h b proxyId (Table.lookup_eq_some.mpr he)).2]
  have hread : read recordSep decodeAssignment
      (write recordSep encodeAssignment (assignments.entries.map fun e => (e.1,e.2))) =
      (assignments.entries.map fun e => (e.1,e.2)).filter (fun record => record.2 ≠ "") := by
    rw [read_write rfl hplain,← List.filterMap_eq_filter]
    refine List.filterMap_congr fun record _ => ?_
    obtain ⟨b,proxyId⟩ := record
    rw [decodeAssignment_encode]
    by_cases hp : proxyId = "" <;> simp [hp,Option.guard]
  have hn : (((assignments.entries.map fun e => (e.1,e.2)).filter
      (fun record => record.2 ≠ "")).map Prod.fst).Nodup := by
    refine List.Nodup.sublist (List.Sublist.map _ List.filter_sublist) ?_
    rw [List.map_map]
    exact assignments.keys_nodup
  ext proxyId
  simp only [ProxyLibraryStore.readAssignments,ProxyLibraryStore.writeAssignments,Option.map_some,
    Option.getD_some]
  rw [hread,Table.lookup_insertAll hn,Option.filter_eq_some_iff,Table.lookup_eq_some,List.mem_filter]
  simp

theorem storable_of_read {entry : ProxyLibraryEntry} {store : ProxyLibraryStore}
    (h : entry ∈ store.readEntries) : entry.Storable := by
  unfold ProxyLibraryStore.readEntries at h
  cases ht : store.proxyLibrary with
  | none => simp [ht] at h
  | some text =>
    rw [ht,Option.map_some,Option.getD_some,Delimited.read,List.mem_filterMap] at h
    obtain ⟨raw,hraw,hd⟩ := h
    have hrecord := (mem_splitOn hraw).1
    have hpiece : ∀ piece ∈ raw.splitOn fieldSep, Plain piece := fun piece hp =>
      ⟨(mem_splitOn hp).1,fun hm => hrecord ((mem_splitOn hp).2 _ hm)⟩
    unfold decodeProxyEntry at hd
    split at hd
    · next id host port kind rest hs =>
      obtain ⟨n,-,hd⟩ := Option.bind_eq_some_iff.mp hd
      obtain ⟨k,-,rfl⟩ := Option.map_eq_some_iff.mp hd
      refine ⟨?_,?_,?_⟩
      · exact (String.toList_ofList (l := id)).symm ▸ hpiece id (by simp [hs])
      · exact (String.toList_ofList (l := host)).symm ▸ hpiece host (by simp [hs])
      · intro he
        obtain ⟨text,htext,hempty⟩ := Option.map_eq_some_iff.mp he
        have hne := (Option.filter_eq_some_iff.mp htext).2
        rw [← String.toList_inj,String.toList_ofList] at hempty
        simp [hempty] at hne
    · cases hd

/-- What every library and every assignment keep to, in memory and stored. -/
structure ProxyBook.Storable (book : ProxyBook) : Prop where
  entries : ∀ entry ∈ book.library, entry.Storable
  assigned : ∀ a proxyId, book.assignments.lookup a = some proxyId → Plain proxyId.toList
  stored : ∀ a proxyId, book.store.readAssignments.lookup a = some proxyId → Plain proxyId.toList

namespace ProxyBook

theorem storable_empty : empty.Storable where
  entries _ he := absurd he List.not_mem_nil
  assigned _ _ h := by cases h
  stored _ _ h := by cases h

namespace Storable

variable {book : ProxyBook}

theorem writeLibrary (h : book.Storable) {library : List ProxyLibraryEntry}
    (hl : ∀ entry ∈ library, entry.Storable) : (book.writeLibrary library).Storable :=
  ⟨hl,h.assigned,h.stored⟩

theorem writeAssignments (h : book.Storable) {assignments : Table Int64 String}
    (ha : ∀ a proxyId, assignments.lookup a = some proxyId → Plain proxyId.toList) :
    (book.writeAssignments assignments).Storable := by
  refine ⟨h.entries,ha,fun a proxyId hs => ?_⟩
  rw [ProxyBook.writeAssignments,lookup_readAssignments_writeAssignments ha] at hs
  exact ha a proxyId (Option.filter_eq_some_iff.mp hs).1

theorem entry {config : UiProxyConfig} (hc : ¬ (validateProxyConfig config).isSome) {proxyId : String}
    (hp : Plain proxyId.toList) : (config.entry proxyId).Storable :=
  ⟨hp,plain_of_valid hc,by simp [UiProxyConfig.entry]⟩

theorem addProxy (h : book.Storable) (config : UiProxyConfig) : (book.addProxy config).Storable := by
  unfold ProxyBook.addProxy
  split
  · exact h
  · next hc =>
    refine h.writeLibrary fun e he => ?_
    rcases List.mem_append.mp he with he | he
    · exact h.entries e he
    · cases List.mem_singleton.mp he
      refine entry hc ?_
      unfold nextProxyId
      rw [String.toList_ofList]
      have hn := plain_signed ((((book.library.filterMap fun entry => Numeral.toLongOrNull
        (if entry.id.toList.head? = some 'p' then entry.id.toList.tail
          else entry.id.toList)).max?.getD 0) + 1).toInt)
      refine ⟨?_,?_⟩
      · rw [List.mem_cons,not_or]
        exact ⟨by decide,hn.1⟩
      · rw [List.mem_cons,not_or]
        exact ⟨by decide,hn.2⟩

theorem updateProxy (h : book.Storable) (proxyId : String) (config : UiProxyConfig) :
    (book.updateProxy proxyId config).Storable := by
  unfold ProxyBook.updateProxy
  split
  · exact h
  next hc =>
  split
  · exact h
  refine h.writeLibrary fun e he => ?_
  obtain ⟨e',he',rfl⟩ := List.mem_map.mp he
  split
  · next hid => exact entry hc (hid ▸ (h.entries e' he').id)
  · exact h.entries e' he'

theorem deleteProxy (h : book.Storable) (proxyId : String) : (book.deleteProxy proxyId).Storable := by
  unfold ProxyBook.deleteProxy
  split
  · exact h
  have hl : (book.writeLibrary (book.library.filter fun entry => entry.id ≠ proxyId)).Storable :=
    h.writeLibrary fun e he => h.entries e (List.mem_filter.mp he).1
  refine hl.writeAssignments fun a id ha => ?_
  rw [Table.lookup_retain] at ha
  exact h.assigned a id (Option.filter_eq_some_iff.mp ha).1

theorem testProxy_error (config : UiProxyConfig) (outcome : Option (Except ProxyError Unit × ℕ)) :
    (testProxy config outcome).error ≠ some "" := by
  unfold testProxy
  split
  · simp
  · rcases outcome with _ | ⟨_ | _,elapsedMs⟩
    · simp
    · next e =>
      intro he
      exact e.text_ne_empty (Option.some.inj he)
    · simp [probeFromResult]

theorem pingProxy (h : book.Storable) (proxyId : String)
    (outcome : Option (Except ProxyError Unit × ℕ)) : (book.pingProxy proxyId outcome).Storable := by
  unfold ProxyBook.pingProxy
  split
  · exact h
  · next probed _ =>
    refine h.writeLibrary fun e he => ?_
    obtain ⟨e',he',rfl⟩ := List.mem_map.mp he
    have hs := h.entries e' he'
    split
    · exact ⟨hs.id,hs.host,testProxy_error _ _⟩
    · exact hs

theorem setAccountProxy (h : book.Storable) (accountId : Int64) (config : Option UiProxyConfig)
    (accepted : Bool) : (book.setAccountProxy accountId config accepted).Storable := by
  cases config with
  | none => exact h.writeAssignments (Table.forall_erase h.assigned)
  | some config =>
    simp only [ProxyBook.setAccountProxy]
    split
    · exact h
    split
    · exact h
    · next e he =>
      have hid := (h.entries e (List.mem_of_find?_eq_some he)).id
      have ha := h.writeAssignments (Table.forall_insert (k := accountId) hid h.assigned)
      split
      · exact ha
      · exact ha.writeAssignments h.assigned

theorem deleteAccount (h : book.Storable) (accountId : Int64) (deleted : Bool) :
    (book.deleteAccount accountId deleted).Storable := by
  unfold ProxyBook.deleteAccount
  split
  · exact h.writeAssignments (Table.forall_erase h.assigned)
  · exact h

theorem run (h : book.Storable) (op : ProxyOp) : (book.run op).Storable := by
  cases op with
  | addProxy config => exact h.addProxy config
  | updateProxy proxyId config => exact h.updateProxy proxyId config
  | deleteProxy proxyId => exact h.deleteProxy proxyId
  | pingProxy proxyId outcome => exact h.pingProxy proxyId outcome
  | setAccountProxy accountId config accepted => exact h.setAccountProxy accountId config accepted
  | deleteAccount accountId deleted => exact h.deleteAccount accountId deleted
  | restart => exact ⟨fun _ he => storable_of_read he,h.stored,h.stored⟩

theorem runs (ops : List ProxyOp) (h : book.Storable) : (ops.foldl ProxyBook.run book).Storable := by
  induction ops generalizing book with
  | nil => exact h
  | cons op ops ih => exact ih (h.run op)

end Storable

/-- No probe error has a separator, and no assignment names an empty id. -/
def Readable (book : ProxyBook) : Prop :=
  (∀ entry ∈ book.library, entry.PlainError) ∧ ∀ a, book.assignments.lookup a ≠ some ""

/-- The store gives back the library and the assignments it is given. -/
def RoundTrips (book : ProxyBook) : Prop :=
  (book.store.writeEntries book.library).readEntries = book.library ∧
    ∀ a, (book.store.writeAssignments book.assignments).readAssignments.lookup a =
      book.assignments.lookup a

theorem Storable.roundTrips {book : ProxyBook} (h : book.Storable) :
    book.RoundTrips ↔ book.Readable := by
  refine and_congr (readEntries_writeEntries_iff h.entries book.store) (forall_congr' fun a => ?_)
  rw [lookup_readAssignments_writeAssignments h.assigned]
  cases book.assignments.lookup a with
  | none => simp
  | some proxyId => simp [Option.filter_some]

/-- The store gives back what any gateway hands it exactly when it is readable. -/
theorem roundTrips_iff_readable (ops : List ProxyOp) :
    (ops.foldl run empty).RoundTrips ↔ (ops.foldl run empty).Readable :=
  (storable_empty.runs ops).roundTrips

end ProxyBook

def userProxy : UiProxyConfig := ⟨"proxy.example",8080,.httpConnect⟩

/-- A reason phrase that holds a whole record. -/
def hostileReason : List Char :=
  'x' :: recordSep :: ("p9".toList ++ fieldSep :: ("evil.example".toList ++ fieldSep ::
    ("1080".toList ++ fieldSep :: "SOCKS5".toList)))

def hostileResponse : Json.Bytes := Json.utf8 ("HTTP/1.1 502 ".toList ++ hostileReason)

theorem parse_hostileResponse : parseHttpConnectResponse (fun _ => true) hostileResponse =
    .error (.httpStatus 502 (String.ofList hostileReason)) := by
  have hd : hostileResponse.toByteArray.utf8Decode? =
      some ("HTTP/1.1 502 ".toList ++ hostileReason).toArray := List.utf8Decode?_utf8Encode
  unfold parseHttpConnectResponse
  rw [hd]
  decide

def probing : List ProxyOp :=
  [.addProxy userProxy,.pingProxy "p1" (some (parseHttpConnectResponse (fun _ => true) hostileResponse,20))]

/-- After one probe of a hostile proxy the store does not give the library back. -/
theorem probe_not_roundTrips : ¬ (probing.foldl ProxyBook.run .empty).RoundTrips := by
  rw [(ProxyBook.storable_empty.runs probing).roundTrips]
  rintro ⟨hl,-⟩
  have hlib : (probing.foldl ProxyBook.run .empty).library =
      [⟨"p1","proxy.example",8080,.httpConnect,
        ⟨none,some (ProxyError.httpStatus 502 (String.ofList hostileReason)).text⟩⟩] := by
    unfold probing
    rw [parse_hostileResponse]
    decide
  rw [hlib] at hl
  have := hl _ (List.mem_singleton.mpr rfl) _ rfl
  revert this
  decide

end MindChat
