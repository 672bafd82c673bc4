import MindChat.UiRefresh
import Mathlib.Data.List.DropRight

/-! Stall detection over whole histories: what the times of connecting, threaded
from refresh to refresh, say about the current connecting period of an account. -/

namespace MindChat.Ui

variable (timestampFormatter : Int64 → String)

def rowsOf (id : Int64) (call : RefreshCall) : List FfiAccount :=
  call.snapshot.accounts.filter (fun account => decide (account.id.toInt64 = id))

def shows (id : Int64) (call : RefreshCall) : Bool := decide (rowsOf id call ≠ [])

def showsConnecting (id : Int64) (call : RefreshCall) : Bool :=
  shows id call && (rowsOf id call).all (fun account => decide (account.connectionState = .connecting))

def refreshMapping (call : RefreshCall) (connectingSince : Table Int64 Int64) : SnapshotMapping :=
  mapSnapshotToUiState timestampFormatter call.snapshot call.activeAccountId connectingSince call.inputs
    call.now

/-- The times of connecting after some refreshes, each fed with those of the one before. -/
def connectingSinceAfter (calls : List RefreshCall) : Table Int64 Int64 :=
  calls.foldl (fun since call => (refreshMapping timestampFormatter call since).connectingSince) ∅

def reportsStalled (id : Int64) (past : List RefreshCall) (call : RefreshCall) : Bool :=
  (refreshMapping timestampFormatter call
    (connectingSinceAfter timestampFormatter past)).state.accounts.any
      (fun account => decide (account.id = id) && account.connectionStalled)

/-- The longest run of refreshes, up to the last one, that all show the account connecting. -/
def currentPeriod (id : Int64) (calls : List RefreshCall) : List RefreshCall :=
  calls.rtakeWhile (showsConnecting id)

/-- The account is connecting, and the current period began more than the threshold ago. -/
def stalledNow (id : Int64) (past : List RefreshCall) (call : RefreshCall) : Bool :=
  showsConnecting id call && ((currentPeriod id (past ++ [call])).head?).any
    (fun first => decide (stallThresholdMs.toInt < call.now.toInt - first.now.toInt))

def lastShowing (id : Int64) (past : List RefreshCall) : Option RefreshCall :=
  (past.filter (shows id)).getLast?

/-- The account is connecting again after refreshes without it, and it was
connecting when it was last shown. -/
def ReturnsConnecting (id : Int64) (past : List RefreshCall) (call : RefreshCall) : Prop :=
  showsConnecting id call = true ∧ (past.getLast?).any (shows id) = false ∧
    (lastShowing id past).any (showsConnecting id) = true

/-- Not both a row that is connecting and one that is not. -/
def ShowsOneState (id : Int64) (call : RefreshCall) : Prop :=
  showsConnecting id call = true ∨ ∀ row ∈ rowsOf id call, row.connectionState ≠ .connecting

/-- The clock has not gone back, and the time since any earlier refresh fits its type. -/
def TimesFit (past : List RefreshCall) (call : RefreshCall) : Prop :=
  ∀ earlier ∈ past, earlier.now ≤ call.now ∧ call.now.toInt - earlier.now.toInt < 2^63

section

variable {id now : Int64} {since : Table Int64 Int64}

theorem mapAccount_lookup_ne {account : FfiAccount} (h : account.id.toInt64 ≠ id) :
    (mapAccount now since account).2.lookup id = since.lookup id := by
  simp only [mapAccount]
  split
  · split
    · rfl
    · exact AList.lookup_insert_ne (Ne.symm h)
  · exact AList.lookup_erase_ne (Ne.symm h)

theorem mapAccount_connecting (now : Int64) (since : Table Int64 Int64) {account : FfiAccount}
    (hid : account.id.toInt64 = id)
    (hc : account.connectionState = .connecting) :
    (mapAccount now since account).2.lookup id = some ((since.lookup id).getD now) ∧
      (mapAccount now since account).1.connectionStalled =
        decide (stallThresholdMs < now - (since.lookup id).getD now) := by
  subst hid
  simp only [mapAccount,hc,connectionToUiModel,if_true,decide_true,Bool.true_and,Option.any_some]
  cases h : since.lookup account.id.toInt64 with
  | none => simp [AList.lookup_insert]
  | some start => simp [h]

theorem mapAccount_settled (now : Int64) (since : Table Int64 Int64) {account : FfiAccount}
    (hid : account.id.toInt64 = id)
    (hc : account.connectionState ≠ .connecting) :
    (mapAccount now since account).2.lookup id = none ∧
      (mapAccount now since account).1.connectionStalled = false := by
  subst hid
  have hstate : connectionToUiModel account.connectionState ≠ .connecting := by
    cases hs : account.connectionState <;> simp_all [connectionToUiModel]
  simp only [mapAccount,hstate,if_false,decide_false,Bool.false_and]
  exact ⟨AList.lookup_erase _ _,trivial⟩

theorem mapAccount_id (account : FfiAccount) :
    (mapAccount now since account).1.id = account.id.toInt64 := rfl

/-- Rows that all do the same to the stored time do it once: `entry` is what they leave of
it, and `stalled` what they show. -/
theorem mapAccounts_uniform (entry : Option Int64 → Option Int64) (stalled : Option Int64 → Bool)
    (he : ∀ start, entry (entry start) = entry start) (hs : ∀ start, stalled (entry start) = stalled start)
    {accounts : List FfiAccount} (since : Table Int64 Int64)
    (h : ∀ account ∈ accounts, account.id.toInt64 = id → ∀ since : Table Int64 Int64,
      (mapAccount now since account).2.lookup id = entry (since.lookup id) ∧
        (mapAccount now since account).1.connectionStalled = stalled (since.lookup id)) :
    ((mapAccounts now since accounts).2.lookup id =
        if ∃ account ∈ accounts, account.id.toInt64 = id then entry (since.lookup id)
        else since.lookup id) ∧
      ∀ shown ∈ (mapAccounts now since accounts).1, shown.id = id →
        shown.connectionStalled = stalled (since.lookup id) := by
  induction accounts generalizing since with
  | nil => simp [mapAccounts]
  | cons account accounts ih =>
    obtain ⟨hrest,hshown⟩ := ih (mapAccount now since account).2
      (fun a ha => h a (List.mem_cons_of_mem _ ha))
    simp only [mapAccounts,List.mem_cons,forall_eq_or_imp,exists_eq_or_imp,mapAccount_id]
    by_cases hid : account.id.toInt64 = id
    · obtain ⟨hleft,hfirst⟩ := h account List.mem_cons_self hid since
      rw [hleft,he] at hrest
      rw [hleft,hs] at hshown
      refine ⟨?_,fun _ => hfirst,hshown⟩
      rw [hrest,if_pos (Or.inl hid),ite_self]
    · rw [mapAccount_lookup_ne hid] at hrest hshown
      refine ⟨?_,fun h => absurd h hid,hshown⟩
      rw [hrest]
      simp [hid]

theorem mapAccounts_connecting (now : Int64) (since : Table Int64 Int64) {accounts : List FfiAccount}
    (h : ∀ account ∈ accounts, account.id.toInt64 = id → account.connectionState = .connecting) :
    ((mapAccounts now since accounts).2.lookup id =
        if ∃ account ∈ accounts, account.id.toInt64 = id then some ((since.lookup id).getD now)
        else since.lookup id) ∧
      ∀ shown ∈ (mapAccounts now since accounts).1, shown.id = id →
        shown.connectionStalled = decide (stallThresholdMs < now - (since.lookup id).getD now) :=
  mapAccounts_uniform (fun start => some (start.getD now))
    (fun start => decide (stallThresholdMs < now - start.getD now)) (fun _ => rfl) (fun _ => rfl) since
    fun account ha hid since => mapAccount_connecting now since hid (h account ha hid)

theorem mapAccounts_not_connecting (now : Int64) (since : Table Int64 Int64) {accounts : List FfiAccount}
    (h : ∀ account ∈ accounts, account.id.toInt64 = id → account.connectionState ≠ .connecting) :
    ((mapAccounts now since accounts).2.lookup id =
        if ∃ account ∈ accounts, account.id.toInt64 = id then none else since.lookup id) ∧
      ∀ shown ∈ (mapAccounts now since accounts).1, shown.id = id → shown.connectionStalled = false :=
  mapAccounts_uniform (fun _ => none) (fun _ => false) (fun _ => rfl) (fun _ => rfl) since
    fun account ha hid since => mapAccount_settled now since hid (h account ha hid)

end

/-- The time between two refreshes, computed by the machine, is the time between them. -/
theorem threshold_lt_sub_iff {start now : Int64} (h : start ≤ now)
    (hfit : now.toInt - start.toInt < 2^63) :
    stallThresholdMs < now - start ↔ stallThresholdMs.toInt < now.toInt - start.toInt := by
  have hle := Int64.le_iff_toInt_le.mp h
  have hsub : (now - start).toInt = now.toInt - start.toInt := by
    rw [Int64.toInt_sub,Int.bmod_eq_of_le] <;> omega
  rw [Int64.lt_iff_toInt_lt,hsub]

variable {timestampFormatter} {id : Int64}

section

variable {call : RefreshCall} {since : Table Int64 Int64}

theorem shows_iff : shows id call = true ↔ ∃ account ∈ call.snapshot.accounts, account.id.toInt64 = id := by
  simp [shows,rowsOf,List.filter_eq_nil_iff]

theorem showsConnecting_iff : showsConnecting id call = true ↔ shows id call = true ∧
    ∀ account ∈ call.snapshot.accounts, account.id.toInt64 = id →
      account.connectionState = .connecting := by
  simp only [showsConnecting,rowsOf,Bool.and_eq_true,List.all_eq_true,List.mem_filter,
    decide_eq_true_eq,and_imp]

theorem refresh_connecting (h : showsConnecting id call = true) :
    (refreshMapping timestampFormatter call since).connectingSince.lookup id =
        some ((since.lookup id).getD call.now) ∧
      (refreshMapping timestampFormatter call since).state.accounts.any
          (fun account => decide (account.id = id) && account.connectionStalled) =
        decide (stallThresholdMs < call.now - (since.lookup id).getD call.now) := by
  obtain ⟨hshown,hrows⟩ := showsConnecting_iff.mp h
  have hexists := shows_iff.mp hshown
  obtain ⟨hl,hs⟩ := mapAccounts_connecting call.now since hrows
  refine ⟨hl.trans (if_pos hexists),?_⟩
  obtain ⟨account,ha,hid⟩ := hexists
  have hids : id ∈ (mapAccounts call.now since call.snapshot.accounts).1.map AccountUi.id := by
    rw [mapAccounts_ids,← hid]
    exact List.mem_map_of_mem ha
  obtain ⟨shown,hm,hshown⟩ := List.mem_map.mp hids
  rw [Bool.eq_iff_iff,List.any_eq_true]
  constructor
  · rintro ⟨other,ho,hstalled⟩
    obtain ⟨hother,hstalled⟩ := Bool.and_eq_true_iff.mp hstalled
    rw [← hs other ho (of_decide_eq_true hother)]
    exact hstalled
  · intro hlong
    refine ⟨shown,hm,?_⟩
    rw [hs shown hm hshown,hlong,decide_eq_true hshown]
    rfl

theorem refresh_not_connecting (h : ∀ row ∈ rowsOf id call, row.connectionState ≠ .connecting) :
    (refreshMapping timestampFormatter call since).connectingSince.lookup id =
        (if shows id call = true then none else since.lookup id) ∧
      (refreshMapping timestampFormatter call since).state.accounts.any
        (fun account => decide (account.id = id) && account.connectionStalled) = false := by
  have hrows : ∀ account ∈ call.snapshot.accounts, account.id.toInt64 = id →
      account.connectionState ≠ .connecting := by
    intro account ha hid
    exact h account (List.mem_filter.mpr ⟨ha,decide_eq_true hid⟩)
  obtain ⟨hl,hs⟩ := mapAccounts_not_connecting call.now since hrows
  refine ⟨?_,List.any_eq_false.mpr ?_⟩
  · by_cases hshown : shows id call = true
    · rw [if_pos hshown]
      exact hl.trans (if_pos (shows_iff.mp hshown))
    · rw [if_neg hshown]
      exact hl.trans (if_neg (mt shows_iff.mpr hshown))
  · intro account ha hstalled
    obtain ⟨hid,hstalled⟩ := Bool.and_eq_true_iff.mp hstalled
    rw [hs account ha (of_decide_eq_true hid)] at hstalled
    cases hstalled

theorem showsConnecting_eq_false (h : ∀ row ∈ rowsOf id call, row.connectionState ≠ .connecting) :
    showsConnecting id call = false := by
  rw [Bool.eq_false_iff]
  intro hc
  obtain ⟨hshown,hrows⟩ := showsConnecting_iff.mp hc
  obtain ⟨account,ha,hid⟩ := shows_iff.mp hshown
  exact h account (List.mem_filter.mpr ⟨ha,decide_eq_true hid⟩) (hrows account ha hid)

end

/-- The stored time of an account is the beginning of its current period, and there
is none once it was last shown in another state. -/
structure TracksPeriod (id : Int64) (past : List RefreshCall) (since : Table Int64 Int64) : Prop where
  current : (past.getLast?).any (showsConnecting id) = true →
    since.lookup id = ((currentPeriod id past).head?).map RefreshCall.now
  left : (lastShowing id past).any (showsConnecting id) = false → since.lookup id = none

theorem currentPeriod_concat {past : List RefreshCall} {call : RefreshCall}
    (h : showsConnecting id call = true) :
    currentPeriod id (past ++ [call]) = currentPeriod id past ++ [call] :=
  List.rtakeWhile_concat_pos _ _ _ h

theorem currentPeriod_eq_nil {past : List RefreshCall}
    (h : (past.getLast?).any (showsConnecting id) = false) : currentPeriod id past = [] := by
  induction past using List.reverseRecOn with
  | nil => rfl
  | append_singleton past last _ =>
    rw [List.getLast?_concat,Option.any_some] at h
    exact List.rtakeWhile_concat_neg _ _ _ (by simp [h])

theorem lastShowing_concat (past : List RefreshCall) (call : RefreshCall) :
    lastShowing id (past ++ [call]) = if shows id call = true then some call else lastShowing id past := by
  unfold lastShowing
  rw [List.filter_append]
  cases h : shows id call <;> simp [h]

namespace TracksPeriod

variable {past : List RefreshCall} {call : RefreshCall} {since : Table Int64 Int64}

theorem nil : TracksPeriod id [] ∅ := ⟨nofun,fun _ => AList.lookup_empty _⟩

theorem lookup_eq_none (h : TracksPeriod id past since)
    (hlast : (past.getLast?).any (showsConnecting id) = false) (hc : showsConnecting id call = true)
    (hr : ¬ ReturnsConnecting id past call) : since.lookup id = none := by
  refine h.left (Bool.eq_false_iff.mpr fun hshowing => hr ⟨hc,?_,hshowing⟩)
  rw [Bool.eq_false_iff]
  intro hshown
  induction past using List.reverseRecOn with
  | nil => cases hshown
  | append_singleton past last _ =>
    rw [List.getLast?_concat,Option.any_some] at hlast hshown
    rw [lastShowing_concat,if_pos hshown,Option.any_some,hlast] at hshowing
    cases hshowing

theorem start_eq (h : TracksPeriod id past since) (hc : showsConnecting id call = true)
    (hr : ¬ ReturnsConnecting id past call) :
    ((currentPeriod id (past ++ [call])).head?).map RefreshCall.now =
      some ((since.lookup id).getD call.now) := by
  rw [currentPeriod_concat hc]
  cases hlast : (past.getLast?).any (showsConnecting id) with
  | false =>
    rw [currentPeriod_eq_nil hlast,h.lookup_eq_none hlast hc hr]
    rfl
  | true =>
    rw [h.current hlast,List.head?_append]
    cases (currentPeriod id past).head? <;> rfl

/-- A refresh keeps the stored time right, unless the account returns connecting. -/
theorem step (h : TracksPeriod id past since) (hone : ShowsOneState id call)
    (hr : ¬ ReturnsConnecting id past call) :
    TracksPeriod id (past ++ [call]) (refreshMapping timestampFormatter call since).connectingSince := by
  rcases hone with hc | hn
  · refine ⟨fun _ => ?_,fun hleft => ?_⟩
    · rw [(refresh_connecting hc).1,h.start_eq hc hr]
    · rw [lastShowing_concat,if_pos (showsConnecting_iff.mp hc).1,Option.any_some,hc] at hleft
      cases hleft
  · have hf := showsConnecting_eq_false hn
    refine ⟨fun hcurrent => ?_,fun hleft => ?_⟩
    · rw [List.getLast?_concat,Option.any_some,hf] at hcurrent
      cases hcurrent
    · rw [(refresh_not_connecting hn).1]
      rw [lastShowing_concat] at hleft
      split <;> rename_i hshown
      · rfl
      · rw [if_neg hshown] at hleft
        exact h.left hleft

/-- After any refreshes that meet the condition the stored time is right. -/
theorem refreshes {calls : List RefreshCall}
    (hcalls : ∀ past call, past ++ [call] <+: calls →
      ShowsOneState id call ∧ ¬ ReturnsConnecting id past call) :
    TracksPeriod id calls (connectingSinceAfter timestampFormatter calls) := by
  induction calls using List.reverseRecOn with
  | nil => exact nil
  | append_singleton calls call ih =>
    obtain ⟨hone,hr⟩ := hcalls calls call (List.prefix_refl _)
    have hbefore := ih fun past call hp => hcalls past call (hp.trans (List.prefix_append _ _))
    have hfold : connectingSinceAfter timestampFormatter (calls ++ [call]) =
        (refreshMapping timestampFormatter call
          (connectingSinceAfter timestampFormatter calls)).connectingSince := by
      simp [connectingSinceAfter]
    rw [hfold]
    exact hbefore.step hone hr

end TracksPeriod

/-- Stall detection measures the current period at every refresh of a history in
which no account returns connecting after refreshes without it. -/
theorem stalled_iff_current_period (timestampFormatter : Int64 → String) (id : Int64)
    (calls : List RefreshCall)
    (hcalls : ∀ past call, past ++ [call] <+: calls →
      TimesFit past call ∧ ShowsOneState id call ∧ ¬ ReturnsConnecting id past call)
    (past : List RefreshCall) (call : RefreshCall) (hp : past ++ [call] <+: calls) :
    reportsStalled timestampFormatter id past call = stalledNow id past call := by
  obtain ⟨htimes,hone,hr⟩ := hcalls past call hp
  have htracked : TracksPeriod id past (connectingSinceAfter timestampFormatter past) :=
    .refreshes fun before next hb =>
      (hcalls before next (hb.trans ((List.prefix_append _ _).trans hp))).2
  unfold reportsStalled stalledNow
  rcases hone with hc | hn
  · rw [(refresh_connecting hc).2,hc,Bool.true_and]
    have hstart := htracked.start_eq hc hr
    obtain ⟨first,hfirst,hnow⟩ := Option.map_eq_some_iff.mp hstart
    rw [hfirst,Option.any_some,← hnow]
    have hmem : first ∈ past ++ [call] :=
      List.rtakeWhile_suffix _ _ |>.subset (List.mem_of_head? hfirst)
    refine decide_eq_decide.mpr ?_
    rcases List.mem_append.mp hmem with hm | hm
    · obtain ⟨hle,hfit⟩ := htimes first hm
      exact threshold_lt_sub_iff hle hfit
    · obtain rfl := List.mem_singleton.mp hm
      exact threshold_lt_sub_iff (Int64.le_refl _) (by omega)
  · rw [(refresh_not_connecting hn).2,showsConnecting_eq_false hn,Bool.false_and]

def connectingSnapshot : FfiCoreSnapshot :=
  { onlineSnapshot with
    accounts := [⟨1,"ada@example.org","example.org","Ada",.connecting,[],none,none⟩] }

def refreshAt (snapshot : FfiCoreSnapshot) (now : Int64) : RefreshCall := ⟨1,plainInputs,snapshot,now⟩

/-- An account that connects all along stalls. -/
theorem stalled_iff_current_period_connecting :
    stalledNow 1 [refreshAt connectingSnapshot 1000] (refreshAt connectingSnapshot 36001) = true ∧
      reportsStalled toString 1 [refreshAt connectingSnapshot 1000]
        (refreshAt connectingSnapshot 36001) = true := by
  have hnow : stalledNow 1 [refreshAt connectingSnapshot 1000] (refreshAt connectingSnapshot 36001) =
      true := by decide
  refine ⟨hnow,?_⟩
  rw [stalled_iff_current_period toString 1
    [refreshAt connectingSnapshot 1000,refreshAt connectingSnapshot 36001] ?_
    [refreshAt connectingSnapshot 1000] (refreshAt connectingSnapshot 36001) (List.prefix_refl _)]
  · exact hnow
  · intro past call hp
    obtain ⟨rest,hrest⟩ := hp
    rcases past with _ | ⟨first,_ | ⟨second,past⟩⟩
    · obtain ⟨rfl,-⟩ := List.cons.inj hrest
      exact ⟨by simp [TimesFit],.inl (by decide),by unfold ReturnsConnecting; decide⟩
    · obtain ⟨rfl,h⟩ := List.cons.inj hrest
      obtain ⟨rfl,-⟩ := List.cons.inj h
      exact ⟨by unfold TimesFit; decide,.inl (by decide),by unfold ReturnsConnecting; decide⟩
    · simp at hrest

/-- An account that was gone in between is reported as stalled in the refresh that
shows it again, since the time of the period before. -/
theorem stalled_after_absence :
    reportsStalled toString 1 [refreshAt connectingSnapshot 0,
        refreshAt { onlineSnapshot with accounts := [] } 35500] (refreshAt connectingSnapshot 36000) = true ∧
      stalledNow 1 [refreshAt connectingSnapshot 0,
        refreshAt { onlineSnapshot with accounts := [] } 35500] (refreshAt connectingSnapshot 36000) =
          false := by
  decide

end MindChat.Ui
