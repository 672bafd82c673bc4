import MindChat.Candidates

/-! The race of the addresses of one group. The first address has a head start, then all
addresses run against each other and against the budget of the attempt. -/

namespace MindChat

namespace SocketAddr

def ipv4Text (ip : Ipv4Addr) : String := ".".intercalate (ip.toList.map fun octet => toString octet.toNat)

/-- Groups in hexadecimal with colons between them. -/
def groupsText (groups : List UInt16) : String :=
  ":".intercalate (groups.map fun group => String.ofList (Nat.toDigits 16 group.toNat))

/-- The first longest run of zeros, its start and its length, from group `i` on; `run` is the
length of the run that ends there. -/
def longestZeros (i run : ℕ) (longest : ℕ × ℕ) : List UInt16 → ℕ × ℕ
  | [] => longest
  | group :: rest =>
    if group = 0 then
      longestZeros (i + 1) (run + 1) (if longest.2 < run + 1 then (i - run,run + 1) else longest) rest
    else longestZeros (i + 1) 0 longest rest

/-- A mapped IPv4 address is written as one, and a run of zeros is left out. -/
def ipv6Text (ip : Ipv6Addr) : String :=
  match ip.toList with
  | [0,0,0,0,0,0xffff,high,low] =>
    "::ffff:" ++ ipv4Text ⟨[(high >>> 8).toUInt8,high.toUInt8,(low >>> 8).toUInt8,low.toUInt8],rfl⟩
  | groups =>
    let (start,length) := longestZeros 0 0 (0,0) groups
    if 1 < length then groupsText (groups.take start) ++ "::" ++ groupsText (groups.drop (start + length))
    else groupsText groups

def text : SocketAddr → String
  | v4 ip port => ipv4Text ip ++ ":" ++ toString port.toNat
  | v6 ip port _ scopeId =>
    "[" ++ ipv6Text ip ++ (if scopeId = 0 then "" else "%" ++ toString scopeId.toNat) ++ "]:" ++
      toString port.toNat

end SocketAddr

def happyEyeballsHeadStartMs : ℕ := 250

def connectAttemptTimeoutMs : ℕ := 10000

/-- A connected client, named by its address, and the first event it received. -/
structure ReadyClient where
  client : SocketAddr
  pendingEvent : Option ClientEvent
  deriving DecidableEq

def terminalFailureForEvent : ClientEvent → Option ConnectFailure
  | .disconnected error => some ⟨error.text,error.disconnectedIsRecoverable,error.classifyDisconnect⟩
  | _ => none

def firstEventToReady (client : SocketAddr) (event : ClientEvent) : Except ConnectFailure ReadyClient :=
  match terminalFailureForEvent event with
  | some failure => .error failure
  | none => .ok ⟨client,some event⟩

/-- A client comes back, with its first event or because its stream closed. The time is in
milliseconds since the group began. -/
structure Arrival where
  client : SocketAddr
  time : ℕ
  event : Option ClientEvent
  deriving DecidableEq

/-- The race of `pending` clients that come back in this order before the budget is used up. -/
def raceClients (port : UInt16) : ℕ → List Arrival → Except ConnectFailure ReadyClient
  | _, [] =>
    .error ⟨"connection to port " ++ toString port.toNat ++ " timed out after " ++
      toString (connectAttemptTimeoutMs / 1000) ++ " seconds",true,.networkLost⟩
  | pending, arrival :: rest =>
    match arrival.event with
    | some event => firstEventToReady arrival.client event
    | none =>
      if pending - 1 = 0 then
        .error ⟨"connection to port " ++ toString port.toNat ++ " closed during handshake",true,.networkLost⟩
      else raceClients port (pending - 1) rest

/-- `headStart` is what the first client came back with in its head start, if it did, and `race`
who came back in the race. A group without addresses panics. -/
def tryGroup (g : AttemptGroup) (headStart : Option (Option ClientEvent)) (race : List Arrival) :
    Option (Except ConnectFailure ReadyClient) :=
  match g.addresses with
  | [] => none
  | firstAddress :: rest =>
    some <| match headStart with
    | some (some event) => firstEventToReady firstAddress event
    | some none =>
      .error ⟨"connection to " ++ firstAddress.text ++ " closed during handshake",true,.networkLost⟩
    | none => raceClients g.port (rest.length + 1) race

/-- When the client of an address comes back, in milliseconds since it was made, and with what, if
it ever does. -/
structure Racer where
  address : SocketAddr
  finish : Option (ℕ × Option ClientEvent)
  deriving DecidableEq

namespace Racer

def arrival (start : ℕ) (r : Racer) : Option Arrival := r.finish.map fun f => ⟨r.address,start + f.1,f.2⟩

/-- What the client comes back with during the head start. A result in the last moment still
counts: a timeout looks at its future first. -/
def early (r : Racer) : Option (Option ClientEvent) :=
  (r.finish.filter fun f => f.1 ≤ happyEyeballsHeadStartMs).map Prod.snd

end Racer

/-- The first client is made at once, the others after the head start. -/
def arrivals : List Racer → List Arrival
  | [] => []
  | first :: rest =>
    (first.arrival 0).toList ++ rest.filterMap (Racer.arrival happyEyeballsHeadStartMs)

namespace Arrival

def InTime (a : Arrival) : Prop := a.time ≤ happyEyeballsHeadStartMs + connectAttemptTimeoutMs

instance (a : Arrival) : Decidable a.InTime := inferInstanceAs (Decidable (_ ≤ _))

def failure (a : Arrival) : Option ConnectFailure := a.event.bind terminalFailureForEvent

def Usable (a : Arrival) : Prop := a.event.isSome ∧ a.failure = none

instance (a : Arrival) : Decidable a.Usable := inferInstanceAs (Decidable (_ ∧ _))

end Arrival

/-- What the runtime may hand to an attempt: the clients come back in the order of their times,
those of one moment in any order. -/
structure Plays (racers : List Racer) (headStart : Option (Option ClientEvent)) (race : List Arrival) :
    Prop where
  headStart : headStart = racers.head?.bind Racer.early
  perm : race.Perm ((arrivals racers).filter fun a => a.InTime)
  sorted : race.Pairwise fun a b => a.time ≤ b.time

/-- Some address would yield a usable first event in time, and none reports a failure that is
final. -/
structure Promising (racers : List Racer) : Prop where
  usable : ∃ a ∈ arrivals racers, a.InTime ∧ a.Usable
  recoverable : ∀ a ∈ arrivals racers, ∀ failure, a.failure = some failure → failure.recoverable = true

/-- In its head start the first address comes back with a usable event or not at all, and in the
latter case a usable event comes before every failure. -/
def UsableFirst (racers : List Racer) : Prop :=
  match racers.head?.bind Racer.early with
  | some event => ∃ e, event = some e ∧ terminalFailureForEvent e = none
  | none => ∀ a ∈ arrivals racers, a.failure.isSome → ∃ b ∈ arrivals racers, b.Usable ∧ b.time < a.time

section Race

variable {racers : List Racer} {headStart : Option (Option ClientEvent)} {race : List Arrival}

theorem isOk_firstEventToReady (client : SocketAddr) (event : ClientEvent) :
    (firstEventToReady client event).isOk = true ↔ terminalFailureForEvent event = none := by
  unfold firstEventToReady
  cases terminalFailureForEvent event <;> simp [Except.isOk,Except.toBool]

/-- The first event decides the race; streams that close before it are left out. -/
theorem raceClients_first (port : UInt16) {pending : ℕ} {closed rest : List Arrival} {a : Arrival}
    {event : ClientEvent} (hc : ∀ b ∈ closed, b.event = none) (ha : a.event = some event)
    (hp : (closed ++ a :: rest).length ≤ pending) :
    raceClients port pending (closed ++ a :: rest) = firstEventToReady a.client event := by
  induction closed generalizing pending with
  | nil => simp only [List.nil_append,raceClients,ha]
  | cons b closed ih =>
    rw [List.cons_append,List.length_cons] at hp
    have hl : 0 < (closed ++ a :: rest).length := by simp
    simp only [List.cons_append,raceClients,hc b List.mem_cons_self]
    rw [if_neg (by omega)]
    exact ih (fun b hb => hc b (List.mem_cons_of_mem _ hb)) (by omega)

theorem length_arrivals_le (racers : List Racer) : (arrivals racers).length ≤ racers.length := by
  cases racers with
  | nil => exact Nat.zero_le _
  | cons first rest =>
    have hr := List.length_filterMap_le (Racer.arrival happyEyeballsHeadStartMs) rest
    have hf : (first.arrival 0).toList.length ≤ 1 := by cases first.arrival 0 <;> simp
    simp only [arrivals,List.length_append,List.length_cons]
    omega

theorem Plays.length_le (h : Plays racers headStart race) : race.length ≤ racers.length := by
  rw [h.perm.length_eq]
  exact (List.length_filter_le _ _).trans (length_arrivals_le racers)

theorem Plays.mem_iff (h : Plays racers headStart race) (a : Arrival) :
    a ∈ race ↔ a ∈ arrivals racers ∧ a.InTime := by
  rw [h.perm.mem_iff,List.mem_filter,decide_eq_true_eq]

theorem race_decided (port : UInt16) {key : Arrival → ℕ} (hs : race.Pairwise fun a b => key a ≤ key b)
    (hp : race.length ≤ racers.length) {a : Arrival} (ha : a ∈ race) (he : a.event.isSome) :
    ∃ b ∈ race, b.event.isSome ∧ (∀ x ∈ race, x.event.isSome → key b ≤ key x) ∧
      ((raceClients port racers.length race).isOk = true ↔ b.failure = none) := by
  have hf : (race.find? fun x => x.event.isSome).isSome := List.find?_isSome.mpr ⟨a,ha,he⟩
  obtain ⟨b,hb⟩ := Option.isSome_iff_exists.mp hf
  obtain ⟨hbe,closed,rest,hr,hc⟩ := List.find?_eq_some_iff_append.mp hb
  obtain ⟨event,hevent⟩ := Option.isSome_iff_exists.mp hbe
  have hclosed : ∀ x ∈ closed, x.event = none := fun x hx => by simpa using hc x hx
  refine ⟨b,by rw [hr]; simp,hbe,fun x hx hxe => ?_,?_⟩
  · rw [hr,List.pairwise_append] at hs
    rw [hr,List.mem_append,List.mem_cons] at hx
    rcases hx with hx | rfl | hx
    · rw [hclosed x hx] at hxe
      cases hxe
    · exact Nat.le_refl _
    · exact (List.pairwise_cons.mp hs.2.1).1 x hx
  · rw [hr] at hp ⊢
    rw [raceClients_first port hclosed hevent hp,isOk_firstEventToReady,Arrival.failure,hevent,
      Option.bind_some]

/-- The order of times, failures first among those of one moment. -/
def failuresFirst (a : Arrival) : ℕ := 2 * a.time + if a.failure.isSome then 0 else 1

theorem plays_failuresFirst (racers : List Racer) :
    Plays racers (racers.head?.bind Racer.early)
      (Listing.sortByKey failuresFirst ((arrivals racers).filter fun a => a.InTime)) := by
  refine ⟨rfl,Listing.sortByKey_perm _ _,?_⟩
  refine (Listing.sortByKey_pairwise failuresFirst _).imp fun h => ?_
  simp only [failuresFirst] at h
  split at h <;> split at h <;> omega

theorem isSome_event_of_failure {a : Arrival} (h : a.failure.isSome) : a.event.isSome := by
  unfold Arrival.failure at h
  cases he : a.event with
  | none => simp [he] at h
  | some event => rfl

theorem isOk_iff {E A : Type} {r : Except E A} : r.isOk = true ↔ ∃ a, r = .ok a := by
  cases r <;> simp [Except.isOk,Except.toBool]

theorem tryGroup_eq {g : AttemptGroup} (hg : racers.map Racer.address = g.addresses) (hne : racers ≠ []) :
    tryGroup g headStart race = some (match headStart with
      | some (some event) => firstEventToReady (racers.head hne).address event
      | some none => .error ⟨"connection to " ++ (racers.head hne).address.text ++ " closed during handshake",
          true,.networkLost⟩
      | none => raceClients g.port racers.length race) := by
  cases racers with
  | nil => exact absurd rfl hne
  | cons first rest =>
    have hl : rest.length = (rest.map Racer.address).length := List.length_map _ |>.symm
    simp only [tryGroup,← hg,List.map_cons,List.head_cons,List.length_cons,hl]

def AlwaysReady (g : AttemptGroup) (racers : List Racer) : Prop :=
  ∀ headStart race, Plays racers headStart race → ∃ ready, tryGroup g headStart race = some (.ok ready)

theorem alwaysReady_early {g : AttemptGroup} (hg : racers.map Racer.address = g.addresses) (hne : racers ≠ [])
    {back : Option ClientEvent} (hearly : racers.head?.bind Racer.early = some back) :
    AlwaysReady g racers ↔ ∃ event, back = some event ∧ terminalFailureForEvent event = none := by
  simp only [AlwaysReady,tryGroup_eq hg hne,Option.some.injEq,← isOk_iff]
  constructor
  · intro h
    have hr := h _ _ (plays_failuresFirst racers)
    rw [hearly] at hr
    cases back with
    | none => cases hr
    | some event => exact ⟨event,rfl,(isOk_firstEventToReady _ event).mp hr⟩
  · rintro ⟨event,rfl,ht⟩ headStart race hplay
    rw [hplay.headStart,hearly]
    exact (isOk_firstEventToReady _ event).mpr ht

/-- A race with a usable event in time is won in every order exactly if each failure comes behind
a usable event. -/
theorem alwaysReady_race {g : AttemptGroup} (hg : racers.map Racer.address = g.addresses) {u : Arrival}
    (hu : u ∈ arrivals racers) (htime : u.InTime) (huse : u.Usable)
    (hearly : racers.head?.bind Racer.early = none) :
    AlwaysReady g racers ↔
      ∀ a ∈ arrivals racers, a.failure.isSome → ∃ b ∈ arrivals racers, b.Usable ∧ b.time < a.time := by
  have hne : racers ≠ [] := by
    rintro rfl
    cases hu
  simp only [AlwaysReady,tryGroup_eq hg hne,Option.some.injEq,← isOk_iff]
  constructor
  · intro h a ha hfail
    by_contra hnone
    push Not at hnone
    -- the order that puts failures first would be lost
    have hplay := plays_failuresFirst racers
    have hr := h _ _ hplay
    rw [hearly] at hr
    obtain ⟨b,hb,hbe,hfirst,hok⟩ := race_decided g.port (Listing.sortByKey_pairwise failuresFirst _)
      hplay.length_le ((hplay.mem_iff u).mpr ⟨hu,htime⟩) huse.1
    have hbuse := hok.mp hr
    have hbm := (hplay.mem_iff b).mp hb
    have hlate := hnone b hbm.1 ⟨hbe,hbuse⟩
    have ham : a.InTime := Nat.le_trans hlate hbm.2
    have hle := hfirst a ((hplay.mem_iff a).mpr ⟨ha,ham⟩) (isSome_event_of_failure hfail)
    simp only [failuresFirst,hfail,hbuse,Option.isSome_none,if_true,Bool.false_eq_true,if_false] at hle
    omega
  · intro h headStart race hplay
    rw [hplay.headStart,hearly]
    obtain ⟨b,hb,hbe,hfirst,hok⟩ := race_decided g.port hplay.sorted hplay.length_le
      ((hplay.mem_iff u).mpr ⟨hu,htime⟩) huse.1
    refine hok.mpr (Option.not_isSome_iff_eq_none.mp fun hfail => ?_)
    have hbm := (hplay.mem_iff b).mp hb
    obtain ⟨x,hx,hxuse,hlt⟩ := h b hbm.1 hfail
    have hxm : x.InTime := Nat.le_trans hlt.le hbm.2
    have := hfirst x ((hplay.mem_iff x).mpr ⟨hx,hxm⟩) hxuse.1
    omega

end Race

/-- A group with an address that would be usable in time, and without a final failure, always gives
a ready client exactly when the first address does not come back in vain in its head start and no
failure comes before the usable events of the race, nor with the first of them. -/
theorem try_group_ready_iff {g : AttemptGroup} {racers : List Racer}
    (hg : racers.map Racer.address = g.addresses) (hp : Promising racers) :
    AlwaysReady g racers ↔ UsableFirst racers := by
  obtain ⟨u,hu,htime,huse⟩ := hp.usable
  have hne : racers ≠ [] := by
    rintro rfl
    cases hu
  unfold UsableFirst
  cases hearly : racers.head?.bind Racer.early with
  | some back => exact alwaysReady_early hg hne hearly
  | none => exact alwaysReady_race hg hu htime huse hearly

/-- One host with an address of each family. -/
def bothFamilies : AttemptGroup where
  port := 5222
  directTls := false
  addresses := [.v6 ⟨[0x2001,0xdb8,0,0,0,0,0,1],rfl⟩ 5222 0 0,.v4 demoHost 5222]

/-- The server answers over IPv4 and not at all over IPv6. -/
def deadFamily : List Racer :=
  [⟨.v6 ⟨[0x2001,0xdb8,0,0,0,0,0,1],rfl⟩ 5222 0 0,none⟩,
    ⟨.v4 demoHost 5222,some (120,some (.online none false))⟩]

theorem try_group_ready_iff_deadFamily : AlwaysReady bothFamilies deadFamily := by
  have hp : Promising deadFamily := ⟨by decide,by decide⟩
  refine (try_group_ready_iff rfl hp).mpr ?_
  simp only [UsableFirst,deadFamily,List.head?_cons,Option.bind_some,Racer.early,Option.filter_none,
    Option.map_none]
  decide

def temporaryFailure : ClientEvent := .disconnected (.auth (.fail .temporaryAuthFailure))

/-- The node behind IPv6 cannot authenticate for the moment and says so at once. -/
def busyNode : List Racer :=
  [⟨.v6 ⟨[0x2001,0xdb8,0,0,0,0,0,1],rfl⟩ 5222 0 0,
      some (100,some temporaryFailure)⟩,
    ⟨.v4 demoHost 5222,some (120,some (.online none false))⟩]

def busyRace : List Arrival :=
  [⟨.v6 ⟨[0x2001,0xdb8,0,0,0,0,0,1],rfl⟩ 5222 0 0,100,some temporaryFailure⟩,
    ⟨.v4 demoHost 5222,370,some (.online none false)⟩]

/-- The attempt fails with that answer; the other address is never tried. -/
theorem try_group_gives_up : busyNode.map Racer.address = bothFamilies.addresses ∧ Promising busyNode ∧
    Plays busyNode (some (some temporaryFailure)) busyRace ∧
    tryGroup bothFamilies (some (some temporaryFailure)) busyRace =
      some (.error ⟨"authentication error: failure from the server: TemporaryAuthFailure",true,
        .authenticationFailed⟩) ∧
    ¬ AlwaysReady bothFamilies busyNode := by
  have hplay : Plays busyNode (some (some temporaryFailure)) busyRace :=
    ⟨by decide,by decide,by decide⟩
  have hfail : tryGroup bothFamilies (some (some temporaryFailure)) busyRace =
      some (.error ⟨"authentication error: failure from the server: TemporaryAuthFailure",true,
        .authenticationFailed⟩) := by decide
  refine ⟨rfl,⟨by decide,by decide⟩,hplay,hfail,fun h => ?_⟩
  obtain ⟨ready,hr⟩ := h _ _ hplay
  rw [hfail] at hr
  cases hr

end MindChat
