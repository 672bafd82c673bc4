import MindChat.RegistrationExchange

/-! What a server has to send before a registration hands over the password, and before it reports
success: the exchange against every sequence of stream elements. -/

namespace MindChat

def StreamItem.unrelated (id : String) : StreamItem → Bool
  | .other => true
  | .iq answered _ => answered ≠ id
  | .elapsed | .closed | .invalid _ | .streamError _ => false

def StreamItem.ends : StreamItem → Bool
  | .elapsed | .closed | .invalid _ | .streamError _ => true
  | .other | .iq _ _ => false

/-- The first element with the id of the request is this answer. -/
def Answered (id : String) (items : List StreamItem) (iq : RegistrationIq) (rest : List StreamItem) : Prop :=
  ∃ before, items = before ++ .iq id iq :: rest ∧ ∀ item ∈ before, item.unrelated id

def behindResponse (id : String) (items : List StreamItem) : List StreamItem :=
  (items.dropWhile (StreamItem.unrelated id)).tail

/-- Both waits of the attempt read from one stream. -/
def Server.onStream (s : Server) (items : List StreamItem) : Server :=
  { s with fieldsItems := items, submitItems := behindResponse s.fieldsId items }

/-- The server offers the registration and answers the fields query with an open legacy form. -/
structure Server.Granted (s : Server) (items rest : List StreamItem) : Prop where
  connected : s.connect = some (.ok ())
  advertised : s.features = some (.ok true)
  asked : s.sendFields = .sent
  answered : Answered s.fieldsId items (.result (some (.legacy false))) rest

/-- The connection, the features and both sends come to a result. -/
structure Server.Responsive (s : Server) : Prop where
  connect : s.connect ≠ none
  features : s.features ≠ none
  sendFields : ∀ written, s.sendFields ≠ .stalled written
  sendSubmission : ∀ written, s.sendSubmission ≠ .stalled written

section Await

variable {id : String} {items rest : List StreamItem} {iq : RegistrationIq}

theorem awaitResponse_cons_unrelated {item : StreamItem} (h : item.unrelated id) (rest : List StreamItem) :
    awaitResponse id (item :: rest) = awaitResponse id rest := by
  cases item with
  | other => rfl
  | iq answered iq =>
    have hne : answered ≠ id := by simpa [StreamItem.unrelated] using h
    simp only [awaitResponse,readRegistrationElement,if_neg hne]
  | _ => cases h

theorem awaitResponse_unrelated {before : List StreamItem} (h : ∀ item ∈ before, item.unrelated id)
    (rest : List StreamItem) : awaitResponse id (before ++ rest) = awaitResponse id rest := by
  induction before with
  | nil => rfl
  | cons item before ih =>
    rw [List.forall_mem_cons] at h
    rw [List.cons_append,awaitResponse_cons_unrelated h.1,ih h.2]

theorem awaitResponse_eq_ok : awaitResponse id items = some (.ok iq) ↔ ∃ rest, Answered id items iq rest := by
  constructor
  · intro h
    induction items with
    | nil => cases h
    | cons item items ih =>
      by_cases hu : item.unrelated id
      · rw [awaitResponse_cons_unrelated hu] at h
        obtain ⟨rest,before,rfl,hb⟩ := ih h
        exact ⟨rest,item :: before,rfl,List.forall_mem_cons.mpr ⟨hu,hb⟩⟩
      · cases item with
        | iq answered found =>
          obtain rfl : answered = id := by simpa [StreamItem.unrelated] using hu
          simp only [awaitResponse,readRegistrationElement,if_true] at h
          cases h
          exact ⟨items,[],rfl,by simp⟩
        | other => exact absurd rfl hu
        | _ => cases h
  · rintro ⟨rest,before,rfl,hb⟩
    rw [awaitResponse_unrelated hb]
    simp only [awaitResponse,readRegistrationElement,if_true]

theorem Answered.behind (h : Answered id items iq rest) : behindResponse id items = rest := by
  obtain ⟨before,rfl,hb⟩ := h
  have hd : (before ++ .iq id iq :: rest).dropWhile (StreamItem.unrelated id) = .iq id iq :: rest := by
    rw [List.dropWhile_append_of_pos hb,List.dropWhile_cons_of_neg (by simp [StreamItem.unrelated])]
  rw [behindResponse,hd,List.tail_cons]

theorem awaitResponse_ne_none (h : ∃ item ∈ items, item.ends) : awaitResponse id items ≠ none := by
  induction items with
  | nil => simp at h
  | cons item items ih =>
    by_cases hu : item.unrelated id
    · rw [awaitResponse_cons_unrelated hu]
      refine ih ?_
      obtain ⟨found,hf,he⟩ := h
      rcases List.mem_cons.mp hf with rfl | hf
      · cases found <;> simp_all [StreamItem.unrelated,StreamItem.ends]
      · exact ⟨found,hf,he⟩
    · cases item with
      | iq answered found =>
        obtain rfl : answered = id := by simpa [StreamItem.unrelated] using hu
        simp [awaitResponse,readRegistrationElement]
      | other => exact absurd rfl hu
      | _ => simp [awaitResponse,readRegistrationElement]

theorem Answered.ends_behind (h : Answered id items iq rest) (he : ∃ item ∈ items, item.ends) :
    ∃ item ∈ rest, item.ends := by
  obtain ⟨before,rfl,hb⟩ := h
  obtain ⟨item,hi,he⟩ := he
  rcases List.mem_append.mp hi with hi | hi
  · have hu := hb item hi
    cases item <;> simp_all [StreamItem.unrelated,StreamItem.ends]
  · rcases List.mem_cons.mp hi with rfl | hi
    · cases he
    · exact ⟨item,hi,he⟩

/-- Unrelated elements leave a wait as it is, wherever they stand. -/
theorem awaitResponse_insert {noise : List StreamItem} (hn : ∀ item ∈ noise, item.unrelated id)
    (before rest : List StreamItem) :
    awaitResponse id (before ++ (noise ++ rest)) = awaitResponse id (before ++ rest) := by
  induction before with
  | nil => exact awaitResponse_unrelated hn rest
  | cons item before ih =>
    simp only [List.cons_append,awaitResponse,ih]

theorem behindResponse_insert {noise : List StreamItem} (hn : ∀ item ∈ noise, item.unrelated id)
    (before rest : List StreamItem) :
    (∃ front, behindResponse id (before ++ (noise ++ rest)) = front ++ (noise ++ rest) ∧
      behindResponse id (before ++ rest) = front ++ rest) ∨
    behindResponse id (before ++ (noise ++ rest)) = behindResponse id (before ++ rest) := by
  unfold behindResponse
  induction before with
  | nil =>
    right
    rw [List.nil_append,List.nil_append,List.dropWhile_append_of_pos hn]
  | cons item before ih =>
    by_cases hu : item.unrelated id
    · simpa only [List.cons_append,List.dropWhile_cons_of_pos hu] using ih
    · left
      refine ⟨before,?_,?_⟩ <;> simp only [List.cons_append,List.dropWhile_cons_of_neg hu,List.tail_cons]

end Await

theorem checkFields_eq_ok {fields : RegistrationIq} :
    checkFields fields = .ok () ↔ fields = .result (some (.legacy false)) := by
  constructor
  · intro h
    unfold checkFields at h
    split at h <;> first | rfl | cases h
  · rintro rfl
    rfl

theorem checkSubmission_eq_ok {iq : RegistrationIq} :
    checkSubmission iq = .ok () ↔ ∃ payload, iq = .result payload := by
  constructor
  · intro h
    unfold checkSubmission at h
    split at h
    · exact ⟨_,rfl⟩
    all_goals cases h
  · rintro ⟨payload,rfl⟩
    rfl

section Gate

variable {s : Server} {items : List StreamItem}

theorem offers_onStream : (s.onStream items).Offers ↔ ∃ rest, s.Granted items rest := by
  constructor
  · rintro ⟨hc,hf,hq,fields,ha,hk⟩
    obtain rfl := checkFields_eq_ok.mp hk
    obtain ⟨rest,hrest⟩ := awaitResponse_eq_ok.mp ha
    exact ⟨rest,hc,hf,hq,hrest⟩
  · rintro ⟨rest,h⟩
    exact ⟨h.connected,h.advertised,h.asked,_,awaitResponse_eq_ok.mpr ⟨rest,h.answered⟩,rfl⟩

/-- The password is written exactly behind an open legacy form. -/
theorem password_written_iff (request : RegisterRequest) (domain : String) :
    (registrationAttempt request domain (s.onStream items)).1 ≠ [] ↔
      (∃ rest, s.Granted items rest) ∧ s.sendSubmission.written = true := by
  have hreceives : (s.onStream items).Receives ↔
      (∃ rest, s.Granted items rest) ∧ s.sendSubmission.written = true :=
    and_congr_left fun _ => offers_onStream
  rw [← hreceives]
  rcases registrationAttempt_submits request domain (s.onStream items) with ⟨hr,he⟩ | ⟨hr,he⟩
  · simp [hr,he]
  · simp [hr,he]

theorem offers_of_success {request : RegisterRequest} {domain : String}
    (h : (registrationAttempt request domain s).2 = some (.ok ())) : s.Offers := by
  unfold registrationAttempt at h
  rcases hc : s.connect with _ | (error | ⟨⟩) <;> rw [hc] at h
  · cases h
  · by_cases ht : error.isTlsVerificationError <;> simp [ht] at h
  rcases hf : s.features with _ | (text | inBand) <;> rw [hf] at h
  · cases h
  · cases h
  cases inBand with
  | false => simp [registrationRefusal] at h
  | true =>
    cases hq : s.sendFields with
    | stalled written => simp [registrationRefusal,hq] at h
    | failed written text => simp [registrationRefusal,hq] at h
    | sent =>
      rcases ha : awaitResponse s.fieldsId s.fieldsItems with _ | (e | fields)
      · simp [registrationRefusal,hq,ha] at h
      · simp [registrationRefusal,hq,ha] at h
      cases hk : checkFields fields with
      | error e => simp [registrationRefusal,hq,ha,hk] at h
      | ok u => exact ⟨hc,hf,hq,fields,ha,hk⟩

/-- What the attempt makes of its submission and of the wait for the answer. -/
def submissionResult (response : Option (Except RegistrationAttemptError RegistrationIq)) :
    SendResult → Option (Except RegistrationAttemptError Unit)
  | .stalled _ => none
  | .failed _ text => some (.error (.connection text))
  | .sent => response.map fun r => r.bind checkSubmission

theorem attempt_granted (request : RegisterRequest) (domain : String) {rest : List StreamItem}
    (h : s.Granted items rest) :
    (registrationAttempt request domain (s.onStream items)).2 =
      submissionResult (awaitResponse s.submitId rest) s.sendSubmission := by
  have hsubmit : (s.onStream items).submitItems = rest := h.answered.behind
  rw [registrationAttempt_offered request domain (offers_onStream.mpr ⟨rest,h⟩),hsubmit]
  change _ = submissionResult _ (s.onStream items).sendSubmission
  cases (s.onStream items).sendSubmission <;> rfl

theorem success_iff (request : RegisterRequest) (domain : String) :
    (registrationAttempt request domain (s.onStream items)).2 = some (.ok ()) ↔
      ∃ rest payload after, s.Granted items rest ∧ s.sendSubmission = .sent ∧
        Answered s.submitId rest (.result payload) after := by
  constructor
  · intro h
    obtain ⟨rest,hg⟩ := offers_onStream.mp (offers_of_success h)
    rw [attempt_granted request domain hg] at h
    cases hs : s.sendSubmission with
    | sent =>
      rw [hs] at h
      obtain ⟨r,hr,hb⟩ := Option.map_eq_some_iff.mp h
      cases r with
      | error e => cases hb
      | ok iq =>
        obtain ⟨payload,rfl⟩ := checkSubmission_eq_ok.mp hb
        obtain ⟨after,ha⟩ := awaitResponse_eq_ok.mp hr
        exact ⟨rest,payload,after,hg,rfl,ha⟩
    | failed written text =>
      rw [hs] at h
      cases h
    | stalled written =>
      rw [hs] at h
      cases h
  · rintro ⟨rest,payload,after,hg,hs,ha⟩
    rw [attempt_granted request domain hg,hs,awaitResponse_eq_ok.mpr ⟨after,ha⟩]
    rfl

theorem attempt_returns (request : RegisterRequest) (domain : String) (hs : s.Responsive)
    (hfields : awaitResponse s.fieldsId s.fieldsItems ≠ none)
    (hsubmit : s.Offers → awaitResponse s.submitId s.submitItems ≠ none) :
    (registrationAttempt request domain s).2 ≠ none := by
  by_cases ho : s.Offers
  · rw [registrationAttempt_offered request domain ho]
    cases hsend : s.sendSubmission with
    | sent => simpa using hsubmit ho
    | failed written text => simp
    | stalled written => exact absurd hsend (hs.sendSubmission written)
  · unfold registrationAttempt
    rcases hc : s.connect with _ | (error | ⟨⟩)
    · exact absurd hc hs.connect
    · simp
    rcases hf : s.features with _ | (text | inBand)
    · exact absurd hf hs.features
    · simp
    cases inBand with
    | false => simp [registrationRefusal]
    | true =>
      cases hq : s.sendFields with
      | stalled written => exact absurd hq (hs.sendFields written)
      | failed written text => simp [registrationRefusal]
      | sent =>
        rcases ha : awaitResponse s.fieldsId s.fieldsItems with _ | (e | fields)
        · exact absurd ha hfields
        · simp [registrationRefusal]
        cases hk : checkFields fields with
        | error e => simp [registrationRefusal,hk]
        | ok u => exact absurd ⟨hc,hf,hq,fields,ha,hk⟩ ho

theorem attempt_returns_onStream (request : RegisterRequest) (domain : String) (hs : s.Responsive)
    (he : ∃ item ∈ items, item.ends) :
    (registrationAttempt request domain (s.onStream items)).2 ≠ none := by
  refine attempt_returns request domain ⟨hs.connect,hs.features,hs.sendFields,hs.sendSubmission⟩
    (awaitResponse_ne_none he) fun ho => ?_
  obtain ⟨rest,hg⟩ := offers_onStream.mp ho
  have hrest : (s.onStream items).submitItems = rest := hg.answered.behind
  rw [hrest]
  exact awaitResponse_ne_none (hg.answered.ends_behind he)

/-- Two servers that differ in what an attempt waits through give it the same course. -/
theorem attempt_congr (request : RegisterRequest) (domain : String) {items' : List StreamItem}
    (hfields : awaitResponse s.fieldsId items' = awaitResponse s.fieldsId items)
    (hsubmit : awaitResponse s.submitId (behindResponse s.fieldsId items') =
      awaitResponse s.submitId (behindResponse s.fieldsId items)) :
    registrationAttempt request domain (s.onStream items') =
      registrationAttempt request domain (s.onStream items) := by
  change awaitResponse (s.onStream items').fieldsId (s.onStream items').fieldsItems =
    awaitResponse (s.onStream items).fieldsId (s.onStream items).fieldsItems at hfields
  change awaitResponse (s.onStream items').submitId (s.onStream items').submitItems =
    awaitResponse (s.onStream items).submitId (s.onStream items).submitItems at hsubmit
  unfold registrationAttempt
  rw [hfields,hsubmit]
  rfl

end Gate

/-- The exchange against every sequence of stream elements: the password is written exactly behind
an advertised registration and an open legacy form, success takes a result with the id of the
submission, unrelated elements change nothing, and every other end of the stream is an error. -/
theorem registration_exchange_gate (request : RegisterRequest) (domain : String) (s : Server)
    (items : List StreamItem) :
    let run := registrationAttempt request domain (s.onStream items)
    (run.1 ≠ [] ↔ (∃ rest, s.Granted items rest) ∧ s.sendSubmission.written = true) ∧
    (run.2 = some (.ok ()) ↔ ∃ rest payload after, s.Granted items rest ∧ s.sendSubmission = .sent ∧
      Answered s.submitId rest (.result payload) after) ∧
    (∀ before noise after, items = before ++ (noise ++ after) →
      (∀ item ∈ noise, item.unrelated s.fieldsId ∧ item.unrelated s.submitId) →
      run = registrationAttempt request domain (s.onStream (before ++ after))) ∧
    (s.Responsive → (∃ item ∈ items, item.ends) → run.2 ≠ some (.ok ()) →
      ∃ e, run.2 = some (.error e)) := by
  intro run
  refine ⟨password_written_iff request domain,success_iff request domain,?_,?_⟩
  · rintro before noise after rfl hn
    have hfields : ∀ item ∈ noise, item.unrelated s.fieldsId := fun item hi => (hn item hi).1
    refine attempt_congr request domain (awaitResponse_insert hfields before after) ?_
    rcases behindResponse_insert hfields before after with ⟨front,hl,hr⟩ | he
    · rw [hl,hr]
      exact awaitResponse_insert (fun item hi => (hn item hi).2) front after
    · rw [he]
  · intro hs he hne
    have hret : run.2 ≠ none := attempt_returns_onStream request domain hs he
    rcases hr : run.2 with _ | (e | ⟨⟩)
    · exact absurd hr hret
    · exact ⟨e,rfl⟩
    · exact absurd hr hne

end MindChat
