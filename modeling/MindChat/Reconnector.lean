import MindChat.Backoff
import MindChat.Login
import MindChat.StreamWorker

/-! The task that makes the next connection of a stanza stream: attempts to log in, with a
pause after each one that fails, until its slot is filled. -/

namespace MindChat.StanzaStream

def isAuth : XmppError → Bool
  | .auth _ => true
  | _ => false

/-- What `new_c2s` is given for an account, with the name in its address. -/
structure C2s where
  lib : SaslLibrary
  server : ServerConnector
  jid : Jid
  username : String
  password : String

/-- One turn of the loop: whether the worker has gone away before it or while it goes on, and
what the login finds. -/
structure Attempt where
  slotClosed : Bool
  found : Server
  slotGone : Bool

/-- How the task ends: it sends into the slot, or the worker has gone away. -/
inductive CycleEnd
  | filled (result : Except XmppError (StreamFeatures × Jid))
  | abandoned

/-- What has become of a cycle, with its pauses and what it wrote. -/
structure Cycle where
  ending : Option CycleEnd
  pauses : List ℕ
  sent : List (Layer × Sent)

namespace C2s

variable (c : C2s)

def clientAuth (a : Attempt) : Dial StreamFeatures :=
  StanzaStream.clientAuth c.lib c.server c.username c.password a.found

end C2s

/-- `slot.send`; it fails where nobody waits any more. -/
def Attempt.send (a : Attempt) (result : Except XmppError (StreamFeatures × Jid)) : CycleEnd :=
  if a.slotGone then .abandoned else .filled result

namespace C2s

/-- The loop of the reconnector; without an attempt to make it waits. -/
def reconnect (c : C2s) : Backoff → List Attempt → Cycle
  | _,[] => ⟨none,[],[]⟩
  | backoff,a :: attempts =>
    if a.slotClosed then ⟨some .abandoned,[],[]⟩
    else
      match c.clientAuth a with
      | (.ok features,sent) => ⟨some (a.send (.ok (features,c.jid))),[],sent⟩
      | (.error error,sent) =>
        if isAuth error then ⟨some (a.send (.error error)),[],sent⟩
        else
          match backoff.nextSleep with
          | (none,_) => ⟨some (a.send (.error .reconnectBudgetExhausted)),[],sent⟩
          | (some delay,backoff) =>
            let rest := c.reconnect backoff attempts
            ⟨rest.ending,delay :: rest.pauses,sent ++ rest.sent⟩

def retries (c : C2s) (a : Attempt) : Bool :=
  !a.slotClosed &&
    match (c.clientAuth a).1 with
    | .ok _ => false
    | .error error => !isAuth error

/-- What an attempt that ends the cycle makes of it. -/
def verdict (c : C2s) (a : Attempt) : CycleEnd :=
  if a.slotClosed then .abandoned else a.send ((c.clientAuth a).1.map (·,c.jid))

variable {c : C2s} {a : Attempt}

theorem reconnect_cons_ends (h : c.retries a = false) (backoff : Backoff) (attempts : List Attempt) :
    (c.reconnect backoff (a :: attempts)).ending = some (c.verdict a) ∧
      (c.reconnect backoff (a :: attempts)).pauses = [] := by
  unfold reconnect verdict
  unfold retries at h
  split_ifs with hclosed
  · exact ⟨rfl,rfl⟩
  · rw [Bool.not_eq_true] at hclosed
    rw [hclosed] at h
    cases hlogin : c.clientAuth a with
    | mk result sent =>
      rw [hlogin] at h
      cases result with
      | ok features => exact ⟨rfl,rfl⟩
      | error error =>
        have hauth : isAuth error = true := by simpa using h
        dsimp only
        rw [if_pos hauth]
        exact ⟨rfl,rfl⟩

theorem retries_error (h : c.retries a = true) :
    a.slotClosed = false ∧ ∃ error sent, c.clientAuth a = (.error error,sent) ∧ isAuth error = false := by
  unfold retries at h
  rw [Bool.and_eq_true,Bool.not_eq_true'] at h
  obtain ⟨hclosed,h⟩ := h
  refine ⟨hclosed,?_⟩
  cases hlogin : c.clientAuth a with
  | mk result sent =>
    rw [hlogin] at h
    cases result with
    | ok => cases h
    | error error => exact ⟨error,sent,rfl,by simpa using h⟩

theorem reconnect_cons_exhausted {backoff b : Backoff} (h : c.retries a = true)
    (hb : backoff.nextSleep = (none,b)) (attempts : List Attempt) :
    (c.reconnect backoff (a :: attempts)).ending = some (a.send (.error .reconnectBudgetExhausted)) ∧
      (c.reconnect backoff (a :: attempts)).pauses = [] := by
  obtain ⟨hclosed,error,sent,hlogin,hauth⟩ := retries_error h
  unfold reconnect
  simp [hclosed,hlogin,hauth,hb]

theorem reconnect_cons_sleeps {backoff b : Backoff} {delay : ℕ} (h : c.retries a = true)
    (hb : backoff.nextSleep = (some delay,b)) (attempts : List Attempt) :
    (c.reconnect backoff (a :: attempts)).ending = (c.reconnect b attempts).ending ∧
      (c.reconnect backoff (a :: attempts)).pauses = delay :: (c.reconnect b attempts).pauses := by
  obtain ⟨hclosed,error,sent,hlogin,hauth⟩ := retries_error h
  have heq : c.reconnect backoff (a :: attempts) = ⟨(c.reconnect b attempts).ending,
      delay :: (c.reconnect b attempts).pauses,sent ++ (c.reconnect b attempts).sent⟩ := by
    conv_lhs => unfold reconnect
    simp [hclosed,hlogin,hauth,hb]
  rw [heq]
  exact ⟨rfl,rfl⟩

def failures (c : C2s) (attempts : List Attempt) : ℕ := (attempts.takeWhile c.retries).length

theorem reconnect_eq (backoff : Backoff) {n : ℕ} (hn : (backoff.delays n).length < n)
    (attempts : List Attempt) :
    (c.failures attempts ≤ (backoff.delays n).length →
      (c.reconnect backoff attempts).ending = attempts[c.failures attempts]?.map c.verdict ∧
      (c.reconnect backoff attempts).pauses = (backoff.delays n).take (c.failures attempts)) ∧
    ((backoff.delays n).length < c.failures attempts →
      (c.reconnect backoff attempts).ending = attempts[(backoff.delays n).length]?.map
        (·.send (.error .reconnectBudgetExhausted)) ∧
      (c.reconnect backoff attempts).pauses = backoff.delays n) := by
  induction n generalizing backoff attempts with
  | zero => cases hn
  | succ n ih =>
    match attempts with
    | [] => exact ⟨fun _ => ⟨rfl,rfl⟩,fun h => absurd h (Nat.not_lt_zero _)⟩
    | a :: attempts =>
      cases ha : c.retries a with
      | false =>
        have hf : c.failures (a :: attempts) = 0 := by
          unfold failures
          rw [List.takeWhile_cons_of_neg (by simp [ha])]
          rfl
        obtain ⟨hend,hpauses⟩ := reconnect_cons_ends ha backoff attempts
        rw [hf,hend,hpauses]
        exact ⟨fun _ => ⟨rfl,rfl⟩,fun h => absurd h (Nat.not_lt_zero _)⟩
      | true =>
        have hf : c.failures (a :: attempts) = c.failures attempts + 1 := by
          unfold failures
          rw [List.takeWhile_cons_of_pos ha]
          rfl
        rw [hf]
        cases hb : backoff.nextSleep with
        | mk pause b =>
          cases pause with
          | none =>
            have hd : backoff.delays (n + 1) = [] := by
              unfold Backoff.delays
              rw [hb]
            obtain ⟨hend,hpauses⟩ := reconnect_cons_exhausted ha hb attempts
            rw [hd,hend,hpauses]
            exact ⟨fun h => absurd h (Nat.not_succ_le_zero _),fun _ => ⟨rfl,rfl⟩⟩
          | some delay =>
            have hd : backoff.delays (n + 1) = delay :: b.delays n := by
              conv_lhs => unfold Backoff.delays
              rw [hb]
            obtain ⟨hend,hpauses⟩ := reconnect_cons_sleeps ha hb attempts
            rw [hd] at hn
            obtain ⟨hfew,hmany⟩ := ih b (Nat.lt_of_succ_lt_succ hn) attempts
            rw [hd,hend,hpauses]
            refine ⟨fun h => ?_,fun h => ?_⟩
            · obtain ⟨he,hp⟩ := hfew (Nat.le_of_succ_le_succ h)
              rw [he,hp]
              exact ⟨rfl,rfl⟩
            · obtain ⟨he,hp⟩ := hmany (Nat.lt_of_succ_lt_succ h)
              rw [he,hp]
              exact ⟨rfl,rfl⟩

/-- Every cycle ends, whatever the seed of its jitter. Between 13 and 23 attempts may fail and
are followed by their pauses; the first attempt that does not fail so ends the cycle, and so
does one more failure, which comes after more than 270 and at most 300 seconds of pauses. -/
theorem reconnect_cycle (c : C2s) (seed : UInt64) :
    ∃ delays : List ℕ, 13 ≤ delays.length ∧ delays.length ≤ 23 ∧ Backoff.Within 0 delays ∧
      fromSecs 270 < delays.sum ∧ delays.sum ≤ fromSecs 300 ∧
      ∀ attempts : List Attempt,
        (c.failures attempts ≤ delays.length →
          (c.reconnect (.newWithDefaultBudget seed) attempts).ending =
              attempts[c.failures attempts]?.map c.verdict ∧
            (c.reconnect (.newWithDefaultBudget seed) attempts).pauses =
              delays.take (c.failures attempts)) ∧
        (delays.length < c.failures attempts →
          (c.reconnect (.newWithDefaultBudget seed) attempts).ending =
              attempts[delays.length]?.map (·.send (.error .reconnectBudgetExhausted)) ∧
            (c.reconnect (.newWithDefaultBudget seed) attempts).pauses = delays) := by
  obtain ⟨hmin,hmax,hmore,hless⟩ := Backoff.delays_default seed
  obtain ⟨hw,-,-⟩ := Backoff.delays_within (b := .newWithDefaultBudget seed) (n := 24) (k := 0) rfl
  exact ⟨_,hmin,Nat.le_of_lt_succ hmax,hw,hmore,hless,reconnect_eq _ hmax⟩

/-- The errors with which a cycle may end: a server that has proved who it is refuses the
account, or one attempt after the other has failed. -/
inductive Terminal (c : C2s) : XmppError → Prop
  | refused (found : Server) (e : AuthError) (h : Refuses c.lib c.username c.password found e) :
    Terminal c (.auth e)
  | exhausted (attempts : List Attempt) (pauses : List ℕ) (hmany : attempts.length = pauses.length + 1)
    (hfail : ∀ a ∈ attempts, c.retries a) (hmin : fromSecs 270 < pauses.sum)
    (hmax : pauses.sum ≤ fromSecs 300) : Terminal c .reconnectBudgetExhausted

theorem send_filled {result result' : Except XmppError (StreamFeatures × Jid)}
    (h : a.send result = .filled result') : result' = result := by
  unfold Attempt.send at h
  split_ifs at h
  cases h
  rfl

theorem not_retries_failures {attempts : List Attempt}
    (h : attempts[c.failures attempts]? = some a) : c.retries a = false := by
  unfold failures at h
  induction attempts with
  | nil => cases h
  | cons b attempts ih =>
    cases hb : c.retries b with
    | false =>
      rw [List.takeWhile_cons_of_neg (by simp [hb])] at h
      cases h
      exact hb
    | true =>
      rw [List.takeWhile_cons_of_pos hb] at h
      exact ih h

theorem retries_take_failures (attempts : List Attempt) {n : ℕ} (hn : n ≤ c.failures attempts) :
    ∀ a ∈ attempts.take n, c.retries a := by
  intro a ha
  have hp : attempts.take n <+: attempts.takeWhile c.retries := by
    refine List.prefix_of_prefix_length_le (List.take_prefix n attempts)
      (List.takeWhile_prefix c.retries) ?_
    exact (List.length_take_le n attempts).trans hn
  exact List.all_eq_true.mp (List.all_takeWhile) a (hp.subset ha)

theorem terminal_of_filled {seed : UInt64} {attempts : List Attempt} {error : XmppError}
    (h : (c.reconnect (.newWithDefaultBudget seed) attempts).ending = some (.filled (.error error))) :
    c.Terminal error := by
  obtain ⟨-,hmax,hmore,hless⟩ := Backoff.delays_default seed
  obtain ⟨hfew,hmany⟩ := reconnect_eq (c := c) (.newWithDefaultBudget seed) hmax attempts
  rcases Nat.lt_or_ge (Backoff.delays 24 (.newWithDefaultBudget seed)).length (c.failures attempts) with
    hlt | hge
  · rw [(hmany hlt).1] at h
    obtain ⟨a,-,ha⟩ := Option.map_eq_some_iff.mp h
    cases send_filled ha
    have hlen : c.failures attempts ≤ attempts.length :=
      (List.takeWhile_prefix c.retries).length_le
    refine .exhausted (attempts.take ((Backoff.delays 24 (.newWithDefaultBudget seed)).length + 1)) _ ?_
      (retries_take_failures attempts hlt) hmore hless
    rw [List.length_take]
    omega
  · rw [(hfew hge).1] at h
    obtain ⟨a,ha,hv⟩ := Option.map_eq_some_iff.mp h
    have hr := not_retries_failures ha
    unfold verdict at hv
    split_ifs at hv with hclosed
    have he := send_filled hv
    cases hlogin : c.clientAuth a with
    | mk result sent =>
      rw [hlogin] at he
      cases result with
      | ok => cases he
      | error error' =>
        cases he
        unfold retries at hr
        rw [hlogin] at hr
        have hauth : isAuth error = true := by simpa [hclosed] using hr
        cases error with
        | auth e =>
          exact .refused a.found e (clientAuth_auth (show (c.clientAuth a).1 = .error (.auth e) by rw [hlogin]))
        | _ => cases hauth

end C2s

end MindChat.StanzaStream
