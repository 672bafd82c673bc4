import MindChat.Candidates

/-! The in-band registration of an account over the endpoints of its server, and how often the
request that creates the account goes out. -/

namespace MindChat

/-- The error condition of a stanza, as far as its text depends on it. -/
inductive DefinedCondition
  | conflict | notAcceptable | notAllowed | forbidden | serviceUnavailable | featureNotImplemented
  | other (name : String)
  deriving DecidableEq

def registrationErrorDetail : DefinedCondition → String
  | .conflict => "this username is already registered"
  | .notAcceptable => "the server did not accept the registration details"
  | .notAllowed | .forbidden => "this server does not allow registration"
  | .serviceUnavailable => "registration is temporarily unavailable"
  | .featureNotImplemented => "this server does not support in-band registration"
  | .other _ => "the server refused the registration"

def registrationRefusal (inBandRegistration : Bool) : Option String :=
  if inBandRegistration then none else some "this server does not support in-band registration"

inductive RegistrationAttemptError
  | tlsVerification (detail : String)
  | connection (detail : String)
  | protocol (detail : String)
  deriving DecidableEq

/-- What the parsers make of the payload of an answer. -/
inductive RegistrationPayload
  | form
  | legacy (registered : Bool)
  | unexpected
  deriving DecidableEq

inductive RegistrationIq
  | result (payload : Option RegistrationPayload)
  | error (condition : DefinedCondition)
  | get
  | set
  deriving DecidableEq

inductive StreamItem
  | elapsed
  | closed
  | invalid (text : String)
  | streamError (text : String)
  | iq (id : String) (iq : RegistrationIq)
  | other
  deriving DecidableEq

def readRegistrationElement : StreamItem → Except RegistrationAttemptError StreamItem
  | .elapsed => .error (.connection "timed out waiting for the server during registration")
  | .closed => .error (.connection "the server closed the stream during registration")
  | .invalid text => .error (.connection ("invalid data from the server during registration: " ++ text))
  | .streamError text => .error (.protocol ("the server closed the stream during registration: " ++ text))
  | item => .ok item

/-- Reads until the answer to a request. Without an answer the call waits until it is dropped. -/
def awaitResponse (id : String) : List StreamItem → Option (Except RegistrationAttemptError RegistrationIq)
  | [] => none
  | item :: rest =>
    match readRegistrationElement item with
    | .error e => some (.error e)
    | .ok (.iq answered iq) => if answered = id then some (.ok iq) else awaitResponse id rest
    | .ok _ => awaitResponse id rest

/-- The answer to the fields query has to be an open form of the legacy kind. -/
def checkFields : RegistrationIq → Except RegistrationAttemptError Unit
  | .result (some .form) => .error (.protocol "server requires additional registration fields")
  | .result (some (.legacy true)) => .error (.protocol "this username is already registered")
  | .result (some (.legacy false)) => .ok ()
  | .result (some .unexpected) | .result none | .get | .set =>
    .error (.protocol "unexpected response to registration fields query")
  | .error condition => .error (.protocol (registrationErrorDetail condition))

def checkSubmission : RegistrationIq → Except RegistrationAttemptError Unit
  | .result _ => .ok ()
  | .error condition => .error (.protocol (registrationErrorDetail condition))
  | .get | .set => .error (.protocol "unexpected response to registration submission")

/-- How a send ends. One that fails or stalls may have written the stanza nevertheless. -/
inductive SendResult
  | sent
  | failed (written : Bool) (text : String)
  | stalled (written : Bool)
  deriving DecidableEq

def SendResult.written : SendResult → Bool
  | sent => true
  | failed written _ | stalled written => written

/-- What one endpoint makes of an attempt, step by step, and the clock when the ids of the two
requests are made; `none` where it never comes back. -/
structure Server where
  connect : Option (Except XmppError Unit)
  features : Option (Except String Bool)
  fieldsEpochMs : ℕ
  sendFields : SendResult
  fieldsItems : List StreamItem
  submitEpochMs : ℕ
  sendSubmission : SendResult
  submitItems : List StreamItem

structure RegisterRequest where
  username : String
  server : String
  password : String

structure Submission where
  id : String
  username : String
  password : String
  deriving DecidableEq

def Server.fieldsId (s : Server) : String := "mindchat-register-get-" ++ toString s.fieldsEpochMs

def Server.submitId (s : Server) : String := "mindchat-register-set-" ++ toString s.submitEpochMs

/-- The submissions that were written, and the result if the attempt comes to one. -/
def registrationAttempt (request : RegisterRequest) (domain : String) (s : Server) :
    List Submission × Option (Except RegistrationAttemptError Unit) :=
  match s.connect with
  | none => ([],none)
  | some (.error error) =>
    ([],some (.error (if error.isTlsVerificationError then
      .tlsVerification ("TLS certificate verification failed for " ++ domain ++ ": " ++ error.text)
      else .connection error.text)))
  | some (.ok ()) =>
    match s.features with
    | none => ([],none)
    | some (.error text) => ([],some (.error (.connection text)))
    | some (.ok inBandRegistration) =>
      match registrationRefusal inBandRegistration with
      | some detail => ([],some (.error (.protocol detail)))
      | none =>
        match s.sendFields with
        | .stalled _ => ([],none)
        | .failed _ text => ([],some (.error (.connection text)))
        | .sent =>
          match awaitResponse s.fieldsId s.fieldsItems with
          | none => ([],none)
          | some (.error e) => ([],some (.error e))
          | some (.ok fields) =>
            match checkFields fields with
            | .error e => ([],some (.error e))
            | .ok () =>
              let submissions := if s.sendSubmission.written then
                [⟨s.submitId,request.username,request.password⟩] else []
              match s.sendSubmission with
              | .stalled _ => (submissions,none)
              | .failed _ text => (submissions,some (.error (.connection text)))
              | .sent =>
                (submissions,(awaitResponse s.submitId s.submitItems).map fun r => r.bind checkSubmission)

/-- The endpoints one by one: what was submitted where, and the result. -/
def registerAt (request : RegisterRequest) (domain : String) :
    String → List (Candidate × Server) → List (Candidate × Submission) × Option (Except TransportError Unit)
  | lastConnectionError, [] => ([],some (.error (.connectionFailed lastConnectionError)))
  | _, (endpoint,s) :: rest =>
    let (submissions,result) := registrationAttempt request domain s
    let submitted := submissions.map fun submission => (endpoint,submission)
    match result with
    | none => (submitted,none)
    | some (.ok ()) => (submitted,some (.ok ()))
    | some (.error (.tlsVerification detail)) => (submitted,some (.error (.tlsVerification detail)))
    | some (.error (.protocol detail)) => (submitted,some (.error (.connectionFailed detail)))
    | some (.error (.connection detail)) =>
      let (others,result) := registerAt request domain detail rest
      (submitted ++ others,result)

/-- `domainOf` parses the address of the account, and `resolve` finds the endpoints. -/
def runRegistration (domainOf : String → Option String)
    (resolve : String → Except String (List (Candidate × Server))) (request : RegisterRequest) :
    List (Candidate × Submission) × Option (Except TransportError Unit) :=
  match domainOf (request.username ++ "@" ++ request.server) with
  | none =>
    ([],some (.error (.protocolViolation "invalid username or server supplied for XMPP registration")))
  | some domain =>
    match resolve request.server with
    | .error detail => ([],some (.error (.connectionFailed detail)))
    | .ok attempts => registerAt request domain "no connection candidates" attempts

/-- The exchange is cut off while an answer is awaited. -/
def CutOff (r : Option (Except RegistrationAttemptError RegistrationIq)) : Prop :=
  ∃ detail, r = some (.error (.connection detail))

namespace Server

/-- The server offers the registration and answers the fields query with an open form. -/
def Offers (s : Server) : Prop :=
  s.connect = some (.ok ()) ∧ s.features = some (.ok true) ∧ s.sendFields = .sent ∧
    ∃ fields, awaitResponse s.fieldsId s.fieldsItems = some (.ok fields) ∧ checkFields fields = .ok ()

def Receives (s : Server) : Prop := s.Offers ∧ s.sendSubmission.written = true

/-- The connection fails before anything can be submitted. -/
def LostBefore (s : Server) : Prop :=
  (∃ error, s.connect = some (.error error) ∧ error.isTlsVerificationError = false) ∨
    s.connect = some (.ok ()) ∧ ((∃ text, s.features = some (.error text)) ∨
      s.features = some (.ok true) ∧ ((∃ written text, s.sendFields = .failed written text) ∨
        s.sendFields = .sent ∧ CutOff (awaitResponse s.fieldsId s.fieldsItems)))

/-- The connection fails while the request is sent or its answer awaited. -/
def LostAfter (s : Server) : Prop :=
  s.Offers ∧ ((∃ written text, s.sendSubmission = .failed written text) ∨
    s.sendSubmission = .sent ∧ CutOff (awaitResponse s.submitId s.submitItems))

def Passes (s : Server) : Prop := s.LostBefore ∨ s.LostAfter

end Server

section Attempt

variable {request : RegisterRequest} {domain : String} {s : Server}

/-- Once the server has offered the registration, the rest is about the submission. -/
theorem registrationAttempt_offered (request : RegisterRequest) (domain : String) (h : s.Offers) :
    registrationAttempt request domain s =
      (if s.sendSubmission.written then [⟨s.submitId,request.username,request.password⟩] else [],
        match s.sendSubmission with
        | .stalled _ => none
        | .failed _ text => some (.error (.connection text))
        | .sent => (awaitResponse s.submitId s.submitItems).map fun r => r.bind checkSubmission) := by
  obtain ⟨hc,hf,hq,fields,ha,hk⟩ := h
  simp only [registrationAttempt,hc,hf,hq,ha,hk,registrationRefusal,if_true]
  cases s.sendSubmission <;> rfl

/-- Before that nothing is submitted, and only a lost connection leads to the next endpoint. -/
theorem registrationAttempt_not_offered (request : RegisterRequest) (domain : String) (h : ¬ s.Offers) :
    (registrationAttempt request domain s).1 = [] ∧
      ((∃ detail, (registrationAttempt request domain s).2 = some (.error (.connection detail))) ↔
        s.LostBefore) := by
  unfold registrationAttempt Server.LostBefore
  rcases hc : s.connect with _ | (error | ⟨⟩)
  · simp
  · by_cases ht : error.isTlsVerificationError <;> simp [ht]
  rcases hf : s.features with _ | (text | inBand)
  · simp
  · simp
  cases inBand with
  | false => simp [registrationRefusal]
  | true =>
    cases hq : s.sendFields with
    | stalled written => simp [registrationRefusal]
    | failed written text => simp [registrationRefusal]
    | sent =>
      rcases ha : awaitResponse s.fieldsId s.fieldsItems with _ | (e | fields)
      · simp [registrationRefusal,CutOff]
      · simp [registrationRefusal,CutOff]
      cases hk : checkFields fields with
      | error e =>
        have hp : ∀ detail, e ≠ .connection detail := by
          rintro detail rfl
          unfold checkFields at hk
          split at hk <;> cases hk
        simp [registrationRefusal,CutOff,hk,hp]
      | ok u => exact absurd ⟨hc,hf,hq,fields,ha,hk⟩ h

theorem not_connection_of_checkSubmission {iq : RegistrationIq} {detail : String} :
    checkSubmission iq ≠ .error (.connection detail) := by
  intro h
  unfold checkSubmission at h
  split at h <;> cases h

theorem registrationAttempt_submits (request : RegisterRequest) (domain : String) (s : Server) :
    (s.Receives ∧ (registrationAttempt request domain s).1 =
      [⟨s.submitId,request.username,request.password⟩]) ∨
    (¬ s.Receives ∧ (registrationAttempt request domain s).1 = []) := by
  by_cases h : s.Offers
  · rw [registrationAttempt_offered request domain h]
    by_cases hw : s.sendSubmission.written = true
    · exact .inl ⟨⟨h,hw⟩,if_pos hw⟩
    · exact .inr ⟨fun hr => hw hr.2,if_neg hw⟩
  · exact .inr ⟨fun hr => h hr.1,(registrationAttempt_not_offered request domain h).1⟩

theorem registrationAttempt_passes (request : RegisterRequest) (domain : String) (s : Server) :
    (∃ detail, (registrationAttempt request domain s).2 = some (.error (.connection detail))) ↔ s.Passes := by
  by_cases h : s.Offers
  · have hbefore : ¬ s.LostBefore := by
      obtain ⟨hc,hf,hq,fields,ha,-⟩ := h
      simp [Server.LostBefore,hc,hf,hq,ha,CutOff]
    have hafter : s.Passes ↔ (∃ written text, s.sendSubmission = .failed written text) ∨
        s.sendSubmission = .sent ∧ CutOff (awaitResponse s.submitId s.submitItems) := by
      simp only [Server.Passes,Server.LostAfter,hbefore,h,false_or,true_and]
    rw [registrationAttempt_offered request domain h,hafter]
    cases hs : s.sendSubmission with
    | stalled written => simp
    | failed written text => simp
    | sent =>
      rcases ha : awaitResponse s.submitId s.submitItems with _ | (e | iq)
      · simp [CutOff]
      · simp [CutOff,Except.bind]
      · simp [CutOff,Except.bind,not_connection_of_checkSubmission]
  · rw [(registrationAttempt_not_offered request domain h).2,Server.Passes]
    exact ⟨.inl,fun hp => hp.resolve_right fun ha => h ha.1⟩

end Attempt

/-- A server that receives the submission after every one before it has lost its connection. -/
def Submits (attempts : List (Candidate × Server)) : Prop :=
  ∃ before t after, attempts = before ++ t :: after ∧ (∀ r ∈ before, r.2.Passes) ∧ t.2.Receives

/-- Two servers receive the submission: the connection of the first is lost behind it, and the
connections in front of the second are lost as well. -/
def SubmitsAgain (attempts : List (Candidate × Server)) : Prop :=
  ∃ before s between t after, attempts = before ++ s :: (between ++ t :: after) ∧
    (∀ r ∈ before ++ s :: between, r.2.Passes) ∧ s.2.Receives ∧ t.2.Receives

section Endpoints

variable {request : RegisterRequest} {domain : String}

theorem registerAt_cons (request : RegisterRequest) (domain last : String) (x : Candidate × Server)
    (rest : List (Candidate × Server)) :
    ∃ own others, (registerAt request domain last (x :: rest)).1 = own ++ others ∧
      (x.2.Receives ∧ own.length = 1 ∨ ¬ x.2.Receives ∧ own = []) ∧
      (x.2.Passes ∧ (∃ detail, others = (registerAt request domain detail rest).1) ∨
        ¬ x.2.Passes ∧ others = []) := by
  obtain ⟨endpoint,x⟩ := x
  have hown := registrationAttempt_submits request domain x
  have hpass := registrationAttempt_passes request domain x
  simp only [registerAt]
  generalize registrationAttempt request domain x = r at hown hpass
  obtain ⟨submissions,result⟩ := r
  dsimp only at hown hpass
  have hmap : x.Receives ∧ (submissions.map fun submission => (endpoint,submission)).length = 1 ∨
      ¬ x.Receives ∧ (submissions.map fun submission => (endpoint,submission)) = [] := by
    rcases hown with ⟨hr,rfl⟩ | ⟨hr,rfl⟩
    · exact .inl ⟨hr,rfl⟩
    · exact .inr ⟨hr,rfl⟩
  by_cases hp : x.Passes
  · obtain ⟨detail,rfl⟩ := hpass.mpr hp
    exact ⟨_,_,rfl,hmap,.inl ⟨hp,detail,rfl⟩⟩
  · refine ⟨_,[],?_,hmap,.inr ⟨hp,rfl⟩⟩
    rw [List.append_nil]
    rcases result with _ | (e | ⟨⟩)
    · rfl
    · cases e with
      | connection detail => exact absurd (hpass.mp ⟨detail,rfl⟩) hp
      | _ => rfl
    · rfl

theorem submits_cons {x : Candidate × Server} {rest : List (Candidate × Server)} :
    Submits (x :: rest) ↔ x.2.Receives ∨ x.2.Passes ∧ Submits rest := by
  constructor
  · rintro ⟨before,t,after,he,hb,ht⟩
    cases before with
    | nil =>
      cases he
      exact .inl ht
    | cons y before =>
      cases he
      rw [List.forall_mem_cons] at hb
      exact .inr ⟨hb.1,before,t,after,rfl,hb.2,ht⟩
  · rintro (hr | ⟨hp,before,t,after,rfl,hb,ht⟩)
    · exact ⟨[],x,rest,rfl,by simp,hr⟩
    · exact ⟨x :: before,t,after,rfl,List.forall_mem_cons.mpr ⟨hp,hb⟩,ht⟩

theorem submitsAgain_cons {x : Candidate × Server} {rest : List (Candidate × Server)} :
    SubmitsAgain (x :: rest) ↔ x.2.Passes ∧ (x.2.Receives ∧ Submits rest ∨ SubmitsAgain rest) := by
  constructor
  · rintro ⟨before,s,between,t,after,he,hp,hs,ht⟩
    cases before with
    | nil =>
      cases he
      rw [List.nil_append,List.forall_mem_cons] at hp
      exact ⟨hp.1,.inl ⟨hs,between,t,after,rfl,hp.2,ht⟩⟩
    | cons y before =>
      cases he
      rw [List.cons_append,List.forall_mem_cons] at hp
      exact ⟨hp.1,.inr ⟨before,s,between,t,after,rfl,hp.2,hs,ht⟩⟩
  · rintro ⟨hp,⟨hr,between,t,after,rfl,hb,ht⟩ | ⟨before,s,between,t,after,rfl,hb,hs,ht⟩⟩
    · exact ⟨[],x,between,t,after,rfl,List.forall_mem_cons.mpr ⟨hp,hb⟩,hr,ht⟩
    · exact ⟨x :: before,s,between,t,after,rfl,List.forall_mem_cons.mpr ⟨hp,hb⟩,hs,ht⟩

theorem SubmitsAgain.submits {attempts : List (Candidate × Server)} (h : SubmitsAgain attempts) :
    Submits attempts := by
  obtain ⟨before,s,between,t,after,he,hp,hs,-⟩ := h
  exact ⟨before,s,_,he,fun r hr => hp r (List.mem_append_left _ hr),hs⟩

theorem registerAt_nil_iff (request : RegisterRequest) (domain last : String)
    (attempts : List (Candidate × Server)) :
    (registerAt request domain last attempts).1 = [] ↔ ¬ Submits attempts := by
  induction attempts generalizing last with
  | nil =>
    refine ⟨fun _ => ?_,fun _ => rfl⟩
    rintro ⟨before,t,after,he,-⟩
    cases before <;> cases he
  | cons x rest ih =>
    obtain ⟨own,others,he,hown,hothers⟩ := registerAt_cons request domain last x rest
    rw [he,List.append_eq_nil_iff,submits_cons]
    rcases hown with ⟨hr,hl⟩ | ⟨hr,rfl⟩
    · have hne : own ≠ [] := List.ne_nil_of_length_eq_add_one hl
      simp [hr,hne]
    · rcases hothers with ⟨hp,detail,rfl⟩ | ⟨hp,rfl⟩
      · simp [hr,hp,ih]
      · simp [hr,hp]

theorem registerAt_length_le_iff (last : String) (attempts : List (Candidate × Server)) :
    (registerAt request domain last attempts).1.length ≤ 1 ↔ ¬ SubmitsAgain attempts := by
  induction attempts generalizing last with
  | nil =>
    refine ⟨fun _ => ?_,fun _ => Nat.zero_le _⟩
    rintro ⟨before,s,between,t,after,he,-⟩
    cases before <;> cases he
  | cons x rest ih =>
    obtain ⟨own,others,he,hown,hothers⟩ := registerAt_cons request domain last x rest
    rw [he,List.length_append,submitsAgain_cons]
    rcases hothers with ⟨hp,detail,rfl⟩ | ⟨hp,rfl⟩
    · rcases hown with ⟨hr,hl⟩ | ⟨hr,rfl⟩
      · have hagain : x.2.Passes ∧ (x.2.Receives ∧ Submits rest ∨ SubmitsAgain rest) ↔ Submits rest :=
          ⟨fun h => h.2.elim And.right SubmitsAgain.submits,fun h => ⟨hp,.inl ⟨hr,h⟩⟩⟩
        have hnone := registerAt_nil_iff request domain detail rest
        rw [hagain,← hnone,← List.length_eq_zero_iff,hl]
        omega
      · simp [hr,hp,ih]
    · rcases hown with ⟨hr,hl⟩ | ⟨hr,rfl⟩
      · simp [hp,hl]
      · simp [hp]

end Endpoints

/-- One call submits at most once exactly if no server receives the submission after another whose
connection was lost behind it. -/
theorem run_registration_submits_once_iff (domainOf : String → Option String)
    (resolve : String → Except String (List (Candidate × Server))) (request : RegisterRequest) :
    (runRegistration domainOf resolve request).1.length ≤ 1 ↔
      ∀ domain attempts, domainOf (request.username ++ "@" ++ request.server) = some domain →
        resolve request.server = .ok attempts → ¬ SubmitsAgain attempts := by
  unfold runRegistration
  cases hd : domainOf (request.username ++ "@" ++ request.server) with
  | none => simp
  | some domain =>
    cases hr : resolve request.server with
    | error detail => simp
    | ok attempts =>
      simp only [registerAt_length_le_iff]
      exact ⟨fun h _ _ _ ha => by cases ha; exact h,fun h => h domain attempts rfl rfl⟩

/-- A server that offers the registration, with what comes after the submission. -/
def openServer (submitItems : List StreamItem) : Server where
  connect := some (.ok ())
  features := some (.ok true)
  fieldsEpochMs := 1
  sendFields := .sent
  fieldsItems := [.other,.iq "mindchat-register-get-1" (.result (some (.legacy false)))]
  submitEpochMs := 2
  sendSubmission := .sent
  submitItems := submitItems

def plainEndpoint : Candidate := (.v4 demoHost 5222,false)

def tlsEndpoint : Candidate := (.v4 demoHost 5223,true)

/-- A server that stays silent after the submission, and its other endpoint, where the name is
taken by now. -/
def silentEndpoints : List (Candidate × Server) :=
  [(plainEndpoint,openServer [.elapsed]),
    (tlsEndpoint,openServer [.iq "mindchat-register-set-2" (.error .conflict)])]

/-- The password is submitted to both endpoints, and the user is told that the name is taken. -/
theorem run_registration_submits_twice :
    let run := runRegistration (fun _ => some "host") (fun _ => .ok silentEndpoints) ⟨"ada","host","secret"⟩
    run = ([(plainEndpoint,⟨"mindchat-register-set-2","ada","secret"⟩),
        (tlsEndpoint,⟨"mindchat-register-set-2","ada","secret"⟩)],
      some (.error (.connectionFailed "this username is already registered"))) ∧
    ¬ run.1.length ≤ 1 := by
  decide

end MindChat
