import MindChat.IpLiteral
import MindChat.Worker

/-! The candidates of a connection attempt: duplicates are dropped, neighbours of one port and
TLS mode are raced as a group, and the groups are tried one after the other. -/

namespace MindChat

inductive SocketAddr
  | v4 (ip : Ipv4Addr) (port : UInt16)
  | v6 (ip : Ipv6Addr) (port : UInt16) (flowinfo scopeId : UInt32)
  deriving DecidableEq

def SocketAddr.port : SocketAddr → UInt16
  | v4 _ port => port
  | v6 _ port _ _ => port

def demoHost : Ipv4Addr := ⟨[192,0,2,1],rfl⟩

abbrev Candidate := SocketAddr × Bool

/-- `filter` with a `HashSet` of what came before. -/
def dedupeFrom (seen : Finset Candidate) : List Candidate → List Candidate
  | [] => []
  | candidate :: rest =>
    if candidate ∈ seen then dedupeFrom seen rest
    else candidate :: dedupeFrom (insert candidate seen) rest

def dedupeCandidates (attempts : List Candidate) : List Candidate := dedupeFrom ∅ attempts

structure AttemptGroup where
  port : UInt16
  directTls : Bool
  addresses : List SocketAddr
  deriving DecidableEq

def AttemptGroup.candidates (g : AttemptGroup) : List Candidate :=
  g.addresses.map fun address => (address,g.directTls)

/-- A candidate joins the last group or opens one. -/
def addCandidate (groups : List AttemptGroup) (candidate : Candidate) : List AttemptGroup :=
  let opened : AttemptGroup := ⟨candidate.1.port,candidate.2,[candidate.1]⟩
  match groups.getLast? with
  | none => groups ++ [opened]
  | some group =>
    if group.port = candidate.1.port ∧ group.directTls = candidate.2 then
      groups.dropLast ++ [{ group with addresses := group.addresses ++ [candidate.1] }]
    else groups ++ [opened]

def groupAttempts (attempts : List Candidate) : List AttemptGroup := attempts.foldl addCandidate []

inductive ConnectStrategy
  | direct | httpConnect | socks5
  deriving DecidableEq

def ConnectStrategy.asStr : ConnectStrategy → String
  | direct => "direct"
  | httpConnect => "http_connect"
  | socks5 => "socks5"

def strategyConnectFailure (strategy : ConnectStrategy) (proxyConfigured : Bool) : Option ConnectFailure :=
  match strategy,proxyConfigured with
  | .direct,_ | .httpConnect,true | .socks5,true => none
  | strategy,false =>
    some ⟨strategy.asStr ++ " connect strategy has no proxy configuration",true,.unknown⟩

/-- The failure if no other candidate can help. -/
def terminalIfAuth (failure : ConnectFailure) : Option ConnectFailure :=
  if failure.recoverable then none else some failure

def noCandidates : ConnectFailure := ⟨"no connection candidates",true,.networkLost⟩

section Attempts

variable {R : Type}

/-- The groups one by one from attempt `i` on: those that were tried, and the result. `tryGroup i`
is what a group comes to in attempt `i`. -/
def tryGroups (tryGroup : ℕ → AttemptGroup → Except ConnectFailure R) :
    ℕ → ConnectFailure → List AttemptGroup → List AttemptGroup × Except ConnectFailure R
  | _, lastFailure, [] => ([],.error lastFailure)
  | i, _, group :: rest =>
    match tryGroup i group with
    | .ok ready => ([group],.ok ready)
    | .error failure =>
      match terminalIfAuth failure with
      | some terminal => ([group],.error terminal)
      | none => (tryGroups tryGroup (i + 1) failure rest).map (group :: ·) id

def connectAttempt (strategy : ConnectStrategy) (proxyConfigured : Bool)
    (tryGroup : ℕ → AttemptGroup → Except ConnectFailure R) (attempts : List Candidate) :
    List AttemptGroup × Except ConnectFailure R :=
  match strategyConnectFailure strategy proxyConfigured with
  | some failure => ([],.error failure)
  | none => tryGroups tryGroup 0 noCandidates (groupAttempts attempts)

end Attempts

def firstOccurrences {α : Type} [DecidableEq α] (xs : List α) : List α :=
  (xs.zipIdx.filter fun p => p.1 ∉ xs.take p.2).map Prod.fst

theorem firstOccurrences_concat {α : Type} [DecidableEq α] (xs : List α) (x : α) :
    firstOccurrences (xs ++ [x]) = firstOccurrences xs ++ if x ∈ xs then [] else [x] := by
  have hold : xs.zipIdx.filter (fun p => p.1 ∉ (xs ++ [x]).take p.2) =
      xs.zipIdx.filter fun p => p.1 ∉ xs.take p.2 := by
    refine List.filter_congr fun p hp => ?_
    have hlt : p.2 < xs.length := by simpa using List.snd_lt_of_mem_zipIdx hp
    rw [List.take_append_of_le_length hlt.le]
  rw [firstOccurrences,List.zipIdx_append,List.filter_append,hold,List.map_append]
  refine congrArg _ ?_
  by_cases hx : x ∈ xs <;> simp [hx]

theorem dedupeFrom_concat (seen : Finset Candidate) (attempts : List Candidate) (candidate : Candidate) :
    dedupeFrom seen (attempts ++ [candidate]) =
      dedupeFrom seen attempts ++ if candidate ∈ seen ∨ candidate ∈ attempts then [] else [candidate] := by
  induction attempts generalizing seen with
  | nil => by_cases h : candidate ∈ seen <;> simp [dedupeFrom,h]
  | cons first rest ih =>
    simp only [List.cons_append,dedupeFrom]
    by_cases hf : first ∈ seen
    · have hc : candidate ∈ seen ∨ candidate ∈ first :: rest ↔ candidate ∈ seen ∨ candidate ∈ rest := by
        rw [List.mem_cons]
        constructor
        · rintro (h | rfl | h)
          · exact .inl h
          · exact .inl hf
          · exact .inr h
        · exact Or.imp_right .inr
      rw [if_pos hf,if_pos hf,ih]
      simp only [hc]
    · rw [if_neg hf,if_neg hf,ih,List.cons_append]
      simp only [Finset.mem_insert,List.mem_cons,or_left_comm,or_assoc]

theorem dedupeCandidates_eq (attempts : List Candidate) :
    dedupeCandidates attempts = firstOccurrences attempts := by
  induction attempts using List.reverseRecOn with
  | nil => rfl
  | append_singleton attempts candidate ih =>
    rw [dedupeCandidates] at ih ⊢
    rw [dedupeFrom_concat,firstOccurrences_concat,ih]
    by_cases hc : candidate ∈ attempts <;> simp [hc]

/-- The groups are the candidates cut at every change of port or TLS mode. -/
structure Grouped (attempts : List Candidate) (groups : List AttemptGroup) : Prop where
  candidates : groups.flatMap AttemptGroup.candidates = attempts
  nonempty : ∀ g ∈ groups, g.addresses ≠ []
  uniform : ∀ g ∈ groups, ∀ address ∈ g.addresses, address.port = g.port
  adjacent : groups.IsChain fun g h => g.port ≠ h.port ∨ g.directTls ≠ h.directTls

namespace Grouped

variable {attempts : List Candidate} {groups : List AttemptGroup} {candidate : Candidate}

theorem nil : Grouped [] [] := ⟨rfl,by simp,by simp,.nil⟩

theorem joins {g : AttemptGroup} (h : Grouped attempts (groups ++ [g])) (hp : g.port = candidate.1.port)
    (ht : g.directTls = candidate.2) :
    Grouped (attempts ++ [candidate]) (groups ++ [{ g with addresses := g.addresses ++ [candidate.1] }]) := by
  refine ⟨?_,?_,?_,?_⟩
  · rw [← h.candidates]
    simp [AttemptGroup.candidates,ht]
  · intro k hk
    rcases List.mem_append.mp hk with hk | hk
    · exact h.nonempty k (List.mem_append_left _ hk)
    · rw [List.mem_singleton.mp hk]
      simp
  · intro k hk address ha
    rcases List.mem_append.mp hk with hk | hk
    · exact h.uniform k (List.mem_append_left _ hk) address ha
    · rw [List.mem_singleton.mp hk] at ha ⊢
      rcases List.mem_append.mp ha with ha | ha
      · exact h.uniform g (by simp) address ha
      · rw [List.mem_singleton.mp ha]
        exact hp.symm
  · have ha := h.adjacent
    rw [List.isChain_append] at ha ⊢
    refine ⟨ha.1,.singleton _,fun k hk l hl => ?_⟩
    simp only [List.head?_cons,Option.mem_def,Option.some.injEq] at hl
    subst hl
    exact ha.2.2 k hk g rfl

theorem opens (h : Grouped attempts groups)
    (hn : ∀ g ∈ groups.getLast?, g.port ≠ candidate.1.port ∨ g.directTls ≠ candidate.2) :
    Grouped (attempts ++ [candidate]) (groups ++ [⟨candidate.1.port,candidate.2,[candidate.1]⟩]) := by
  refine ⟨?_,?_,?_,?_⟩
  · rw [← h.candidates]
    simp [AttemptGroup.candidates]
  · intro k hk
    rcases List.mem_append.mp hk with hk | hk
    · exact h.nonempty k hk
    · rw [List.mem_singleton.mp hk]
      simp
  · intro k hk address ha
    rcases List.mem_append.mp hk with hk | hk
    · exact h.uniform k hk address ha
    · rw [List.mem_singleton.mp hk] at ha ⊢
      rw [List.mem_singleton.mp ha]
  · rw [List.isChain_append]
    refine ⟨h.adjacent,.singleton _,fun k hk l hl => ?_⟩
    simp only [List.head?_cons,Option.mem_def,Option.some.injEq] at hl
    subst hl
    exact hn k hk

theorem add (h : Grouped attempts groups) (candidate : Candidate) :
    Grouped (attempts ++ [candidate]) (addCandidate groups candidate) := by
  rcases List.eq_nil_or_concat groups with rfl | ⟨before,g,rfl⟩
  · exact h.opens (by simp)
  · rw [List.concat_eq_append] at h ⊢
    simp only [addCandidate,List.getLast?_concat,List.dropLast_concat]
    split
    · next hs => exact h.joins hs.1 hs.2
    · next hs =>
      refine h.opens fun k hk => ?_
      rw [List.getLast?_concat,Option.mem_some] at hk
      subst hk
      exact not_and_or.mp hs

theorem groupAttempts (attempts : List Candidate) : Grouped attempts (groupAttempts attempts) := by
  induction attempts using List.reverseRecOn with
  | nil => exact nil
  | append_singleton attempts candidate ih =>
    rw [MindChat.groupAttempts,List.foldl_append]
    exact ih.add candidate

end Grouped

section Schedule

variable {R : Type}

def Retryable (r : Except ConnectFailure R) : Prop :=
  ∃ failure, r = .error failure ∧ failure.recoverable = true

/-- The groups up to the first success or final failure are tried, which is the result, or all of
them, and the last failure is the result. -/
def ScheduledFrom (tryGroup : ℕ → AttemptGroup → Except ConnectFailure R) (i : ℕ) (default : ConnectFailure)
    (groups : List AttemptGroup) (run : List AttemptGroup × Except ConnectFailure R) : Prop :=
  (∃ before group after, groups = before ++ group :: after ∧
    (∀ p ∈ before.zipIdx i, Retryable (tryGroup p.2 p.1)) ∧
    ¬ Retryable (tryGroup (i + before.length) group) ∧
    run = (before ++ [group],tryGroup (i + before.length) group)) ∨
  ((∀ p ∈ groups.zipIdx i, Retryable (tryGroup p.2 p.1)) ∧
    run = (groups,((groups.zipIdx i).getLast?.map fun p => tryGroup p.2 p.1).getD (.error default)))

variable {tryGroup : ℕ → AttemptGroup → Except ConnectFailure R}

theorem scheduled_tryGroups (i : ℕ) (lastFailure : ConnectFailure) (groups : List AttemptGroup) :
    ScheduledFrom tryGroup i lastFailure groups (tryGroups tryGroup i lastFailure groups) := by
  induction groups generalizing i lastFailure with
  | nil => exact .inr ⟨by simp,rfl⟩
  | cons group rest ih =>
    simp only [tryGroups]
    have final (h : ¬ Retryable (tryGroup i group)) :
        ScheduledFrom tryGroup i lastFailure (group :: rest) ([group],tryGroup i group) :=
      .inl ⟨[],group,rest,rfl,by simp,h,rfl⟩
    cases hr : tryGroup i group with
    | ok ready =>
      rw [hr] at final
      exact final (by simp [Retryable])
    | error failure =>
      simp only [terminalIfAuth]
      by_cases hf : failure.recoverable = true
      · have first : Retryable (tryGroup i group) := ⟨failure,hr,hf⟩
        rw [if_pos hf]
        dsimp only
        rcases ih (i + 1) failure with ⟨before,g,after,hs,hb,hg,hrun⟩ | ⟨hall,hrun⟩
        · refine .inl ⟨group :: before,g,after,by rw [hs]; rfl,?_,?_,?_⟩
          · rw [List.zipIdx_cons]
            exact List.forall_mem_cons.mpr ⟨first,hb⟩
          · rwa [List.length_cons,Nat.add_comm before.length,← Nat.add_assoc]
          · rw [hrun,List.length_cons,Nat.add_comm before.length,← Nat.add_assoc]
            rfl
        · refine .inr ⟨?_,?_⟩
          · rw [List.zipIdx_cons]
            exact List.forall_mem_cons.mpr ⟨first,hall⟩
          · rw [hrun,List.zipIdx_cons,List.getLast?_cons]
            cases (rest.zipIdx (i + 1)).getLast? with
            | none => simp [hr]
            | some p => rfl
      · rw [if_neg hf]
        rw [hr] at final
        exact final (by simpa [Retryable] using hf)

end Schedule

/-- Duplicates are dropped behind their first occurrence; the groups are the candidates cut at
every change of port or TLS mode; and they are tried in order up to the first success or final
failure. -/
theorem candidate_scheduling (attempts : List Candidate) :
    dedupeCandidates attempts = firstOccurrences attempts ∧ Grouped attempts (groupAttempts attempts) ∧
      ∀ (R : Type) (strategy : ConnectStrategy) (proxyConfigured : Bool)
        (tryGroup : ℕ → AttemptGroup → Except ConnectFailure R),
        match strategyConnectFailure strategy proxyConfigured with
        | some failure => connectAttempt strategy proxyConfigured tryGroup attempts = ([],.error failure)
        | none => ScheduledFrom tryGroup 0 noCandidates (groupAttempts attempts)
            (connectAttempt strategy proxyConfigured tryGroup attempts) := by
  refine ⟨dedupeCandidates_eq attempts,.groupAttempts attempts,fun R strategy proxyConfigured tryGroup => ?_⟩
  unfold connectAttempt
  cases strategyConnectFailure strategy proxyConfigured with
  | some failure => rfl
  | none => exact scheduled_tryGroups 0 noCandidates _

end MindChat
