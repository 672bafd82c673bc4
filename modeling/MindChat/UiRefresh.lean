import MindChat.Gateway
import MindChat.UiMapping

/-! The refresh of the UI state: it maps the snapshot again only when something
that the mapping reads has changed. What the gateway of the runs keeps of this
state is its projection. -/

namespace MindChat.Ui

/-- The inputs of the mapping that the gateway holds, and what it published last. -/
structure UiGateway where
  activeAccountId : Int64
  inputs : UiInputs
  connectingSince : Table Int64 Int64
  state : MindChatUiState
  lastSnapshot : Option FfiCoreSnapshot
  lastInputs : UiInputs

def shouldSkipUiRebuild (snapshot : FfiCoreSnapshot) (lastSnapshot : Option FfiCoreSnapshot)
    (publishedActiveAccountId activeAccountId : Int64) (inputs last : UiInputs) : Bool :=
  if lastSnapshot ≠ some snapshot then false
  else if activeAccountId ≠ publishedActiveAccountId then false
  else if inputs.settings ≠ last.settings then false
  else if inputs.profiles ≠ last.profiles then false
  else if inputs.appearance ≠ last.appearance then false
  else if inputs.proxyLibrary ≠ last.proxyLibrary then false
  else if inputs.proxyAssignments ≠ last.proxyAssignments then false
  else if inputs.diagnosticsQuarantined ≠ last.diagnosticsQuarantined then false
  else if inputs.diagnosticsNoticeDismissed ≠ last.diagnosticsNoticeDismissed then false
  else snapshot.accounts.all (fun account => decide (account.connectionState ≠ .connecting))

namespace UiGateway

variable (timestampFormatter : Int64 → String)

def mapping (g : UiGateway) (snapshot : FfiCoreSnapshot) (now : Int64) : SnapshotMapping :=
  mapSnapshotToUiState timestampFormatter snapshot g.activeAccountId g.connectingSince g.inputs now

def shouldSkip (g : UiGateway) (snapshot : FfiCoreSnapshot) : Bool :=
  shouldSkipUiRebuild snapshot g.lastSnapshot g.state.activeAccountId g.activeAccountId g.inputs
    g.lastInputs

/-- The mapping also settles the active account and the times of connecting. -/
def snapshotToUiState (g : UiGateway) (snapshot : FfiCoreSnapshot) (now : Int64) : UiGateway :=
  let mapping := g.mapping timestampFormatter snapshot now
  { g with state := mapping.state, activeAccountId := mapping.activeAccountId,
           connectingSince := mapping.connectingSince }

def refresh (g : UiGateway) (snapshot : FfiCoreSnapshot) (now : Int64) : UiGateway :=
  if g.shouldSkip snapshot then g
  else
    { g.snapshotToUiState timestampFormatter snapshot now with
      lastSnapshot := some snapshot, lastInputs := g.inputs }

def start (inputs : UiInputs) (snapshot : FfiCoreSnapshot) (now : Int64) : UiGateway :=
  let mapping := mapSnapshotToUiState timestampFormatter snapshot 0 ∅ inputs now
  { activeAccountId := mapping.activeAccountId, inputs := inputs,
    connectingSince := mapping.connectingSince, state := mapping.state, lastSnapshot := none,
    lastInputs := inputs }

/-- Whatever calls of the gateway do to what the mapping reads. -/
def change (g : UiGateway) (activeAccountId : Int64) (inputs : UiInputs) : UiGateway :=
  { g with activeAccountId := activeAccountId, inputs := inputs }

end UiGateway

/-- A refresh after any change of the active account and of the inputs. -/
structure RefreshCall where
  activeAccountId : Int64
  inputs : UiInputs
  snapshot : FfiCoreSnapshot
  now : Int64

def UiGateway.run (timestampFormatter : Int64 → String) (g : UiGateway) (call : RefreshCall) : UiGateway :=
  (g.change call.activeAccountId call.inputs).refresh timestampFormatter call.snapshot call.now

theorem mapAccounts_settled {accounts : List FfiAccount}
    (h : ∀ account ∈ accounts, account.connectionState ≠ .connecting) (now now' : Int64)
    (since since' : Table Int64 Int64) :
    (mapAccounts now since accounts).1 = (mapAccounts now' since' accounts).1 := by
  induction accounts generalizing since since' with
  | nil => rfl
  | cons account accounts ih =>
    have hc : connectionToUiModel account.connectionState ≠ .connecting := by
      have := h account List.mem_cons_self
      cases hs : account.connectionState <;> simp_all [connectionToUiModel]
    simp only [mapAccounts,mapAccount,hc,if_false,decide_false,Bool.false_and]
    rw [ih (fun a ha => h a (List.mem_cons_of_mem _ ha))]

theorem mapAccounts_ids (now : Int64) (since : Table Int64 Int64) (accounts : List FfiAccount) :
    (mapAccounts now since accounts).1.map AccountUi.id =
      accounts.map (fun account => account.id.toInt64) := by
  induction accounts generalizing since with
  | nil => rfl
  | cons account accounts ih =>
    simp only [mapAccounts,List.map_cons,ih]
    rfl

theorem resolveActive_resolveActive (accounts : List AccountUi) (activeAccountId : Int64) :
    resolveActive accounts (resolveActive accounts activeAccountId) =
      resolveActive accounts activeAccountId := by
  by_cases h : activeAccountId = 0 ∨ ∀ account ∈ accounts, account.id ≠ activeAccountId
  · rw [resolveActive.eq_def accounts activeAccountId,if_pos h]
    unfold resolveActive
    split <;> rfl
  · have hr : resolveActive accounts activeAccountId = activeAccountId := by
      rw [resolveActive,if_neg h]
    rw [hr,hr]

/-- A skipped rebuild means that every input of the mapping is the published one
and that no account is connecting. -/
theorem shouldSkipUiRebuild_eq_true {snapshot : FfiCoreSnapshot} {lastSnapshot : Option FfiCoreSnapshot}
    {published activeAccountId : Int64} {inputs last : UiInputs}
    (h : shouldSkipUiRebuild snapshot lastSnapshot published activeAccountId inputs last = true) :
    lastSnapshot = some snapshot ∧ activeAccountId = published ∧ inputs = last ∧
      ∀ account ∈ snapshot.accounts, account.connectionState ≠ .connecting := by
  unfold shouldSkipUiRebuild at h
  simp only [ite_not,Bool.if_false_right,Bool.and_eq_true,
    decide_eq_true_eq,List.all_eq_true] at h
  obtain ⟨hs,ha,h₁,h₂,h₃,h₄,h₅,h₆,h₇,hc⟩ := h
  refine ⟨hs,ha,?_,hc⟩
  cases inputs
  cases last
  simp_all

section

variable {timestampFormatter : Int64 → String} {snapshot : FfiCoreSnapshot}

theorem mapping_settled
    (h : ∀ account ∈ snapshot.accounts, account.connectionState ≠ .connecting) {a a' : Int64}
    (inputs : UiInputs) (now now' : Int64) (since since' : Table Int64 Int64)
    (ha : a' = (mapSnapshotToUiState timestampFormatter snapshot a since inputs now).activeAccountId) :
    (mapSnapshotToUiState timestampFormatter snapshot a' since' inputs now').state =
        (mapSnapshotToUiState timestampFormatter snapshot a since inputs now).state ∧
      (mapSnapshotToUiState timestampFormatter snapshot a' since' inputs now').activeAccountId =
        (mapSnapshotToUiState timestampFormatter snapshot a since inputs now).activeAccountId := by
  have hm := mapAccounts_settled h now' now since' since
  simp only [mapSnapshotToUiState] at ha ⊢
  rw [hm,ha,resolveActive_resolveActive]
  exact ⟨rfl,rfl⟩

namespace UiGateway

/-- The published state is a mapping of the last snapshot and the last inputs. -/
def Published (timestampFormatter : Int64 → String) (g : UiGateway) : Prop :=
  ∀ snapshot, g.lastSnapshot = some snapshot → ∃ a since now,
    g.state = (mapSnapshotToUiState timestampFormatter snapshot a since g.lastInputs now).state

theorem published_start (inputs : UiInputs) (snapshot : FfiCoreSnapshot) (now : Int64) :
    (start timestampFormatter inputs snapshot now).Published timestampFormatter := by
  intro s h
  cases h

theorem Published.run {g : UiGateway} (h : g.Published timestampFormatter) (call : RefreshCall) :
    (g.run timestampFormatter call).Published timestampFormatter := by
  unfold UiGateway.run refresh
  split
  · exact h
  · intro s hs
    obtain rfl : call.snapshot = s := Option.some.inj hs
    exact ⟨_,_,_,rfl⟩

theorem Published.runs {g : UiGateway} (h : g.Published timestampFormatter) (calls : List RefreshCall) :
    (calls.foldl (UiGateway.run timestampFormatter) g).Published timestampFormatter := by
  induction calls generalizing g with
  | nil => exact h
  | cons call calls ih => exact ih (h.run call)

/-- A skipped rebuild would have published what is published already. -/
theorem Published.mapping {g : UiGateway} (h : g.Published timestampFormatter)
    (hskip : g.shouldSkip snapshot = true) (now : Int64) :
    (g.mapping timestampFormatter snapshot now).state = g.state ∧
      (g.mapping timestampFormatter snapshot now).activeAccountId = g.state.activeAccountId := by
  obtain ⟨hlast,hactive,hinputs,hsettled⟩ := shouldSkipUiRebuild_eq_true hskip
  obtain ⟨a,since,now',hstate⟩ := h snapshot hlast
  unfold UiGateway.mapping
  rw [hinputs,hstate]
  refine mapping_settled hsettled g.lastInputs now' now since g.connectingSince ?_
  rw [hactive,hstate]
  rfl

/-- The fast path agrees with the full rebuild: after any refreshes and any change
of the active account and the inputs, a skipped rebuild loses nothing. -/
theorem skipped_rebuild_agrees (timestampFormatter : Int64 → String) (inputs : UiInputs)
    (first : FfiCoreSnapshot) (opened : Int64) (calls : List RefreshCall) (call : RefreshCall)
    (now : Int64) :
    let g := (calls.foldl (UiGateway.run timestampFormatter)
      (start timestampFormatter inputs first opened)).change call.activeAccountId call.inputs
    g.shouldSkip call.snapshot = true →
      (g.mapping timestampFormatter call.snapshot now).state = g.state ∧
        (g.mapping timestampFormatter call.snapshot now).activeAccountId = g.state.activeAccountId := by
  intro g hskip
  have hp : g.Published timestampFormatter := Published.runs (published_start inputs first opened) calls
  exact hp.mapping hskip now

end UiGateway

end

def plainInputs : UiInputs where
  profiles := ∅
  settings := ∅
  appearance := ⟨.expressive,.comfortable,.default,.default,.default,.default⟩
  proxyLibrary := []
  proxyAssignments := ∅
  diagnosticsQuarantined := false
  diagnosticsNoticeDismissed := false

def onlineSnapshot : FfiCoreSnapshot where
  accounts := [⟨1,"ada@example.org","example.org","Ada",.online,[.multiUserChat],none,none⟩]
  contacts := []
  conversations := []
  messages := []
  reactions := []

/-- The second refresh of an unchanged snapshot skips the rebuild. -/
theorem skipped_rebuild_agrees_online :
    let g := UiGateway.refresh toString (.start toString plainInputs onlineSnapshot 0) onlineSnapshot 1000
    g.shouldSkip onlineSnapshot = true ∧ (g.mapping toString onlineSnapshot 60000).state = g.state := by
  have hskip : (UiGateway.refresh toString (.start toString plainInputs onlineSnapshot 0)
      onlineSnapshot 1000).shouldSkip onlineSnapshot = true := by decide
  refine ⟨hskip,?_⟩
  exact (UiGateway.skipped_rebuild_agrees toString plainInputs onlineSnapshot 0
    [⟨1,plainInputs,onlineSnapshot,1000⟩] ⟨1,plainInputs,onlineSnapshot,60000⟩ 60000 hskip).1

/-- An id of the core as the UI writes it. -/
def shownId (id : ℕ) : Int64 := (UInt64.ofNat id).toInt64

theorem shownId_injective {i j : ℕ} (hi : i ≤ u64Max) (hj : j ≤ u64Max) (h : shownId i = shownId j) :
    i = j := by
  have hm : u64Max < UInt64.size := by decide
  have hu := congrArg Int64.toUInt64 h
  simp only [shownId,UInt64.toUInt64_toInt64] at hu
  have hn := congrArg UInt64.toNat hu
  rwa [UInt64.toNat_ofNat_of_lt' (by omega),UInt64.toNat_ofNat_of_lt' (by omega)] at hn

def FfiAccount.ofAccount (account : Account) : FfiAccount where
  id := UInt64.ofNat account.id
  jid := account.jid
  server := account.server
  displayName := account.displayName
  connectionState := account.connectionState
  capabilities := ProtocolCapability.all.filter (fun capability => capability ∈ account.capabilities)
  connectionError := account.connectionError
  disconnectKind := account.disconnectKind

theorem mapAccounts_ofAccount (now : Int64) (since : Table Int64 Int64) (accounts : List Account) :
    (mapAccounts now since (accounts.map FfiAccount.ofAccount)).1.map
        (fun account => (account.id,account.jid,account.connectionState)) =
      accounts.map (fun account =>
        (shownId account.id,account.jid,connectionToUiModel account.connectionState)) := by
  induction accounts generalizing since with
  | nil => rfl
  | cons account accounts ih =>
    simp only [List.map_cons,mapAccounts]
    exact congrArg₂ _ rfl (ih _)

theorem mapSnapshotToUiState_projects (timestampFormatter : Int64 → String) {snapshot : CoreSnapshot}
    {shown : FfiCoreSnapshot} (hs : shown.accounts = snapshot.accounts.map FfiAccount.ofAccount)
    (hid : ∀ account ∈ snapshot.accounts, account.id ≤ u64Max) {active : AccountId}
    (ha : active ≤ u64Max) (since : Table Int64 Int64) (inputs : UiInputs) (now : Int64) :
    let full := mapSnapshotToUiState timestampFormatter shown (shownId active) since inputs now
    let kept := MindChat.mapSnapshotToUiState snapshot active
    full.state.accounts.map (fun account => (account.id,account.jid,account.connectionState)) =
        kept.1.map (fun account =>
          (shownId account.id,account.jid,connectionToUiModel account.connectionState)) ∧
      full.activeAccountId = shownId kept.2 := by
  have hm := mapAccounts_ofAccount now since snapshot.accounts
  have hids : (mapAccounts now since shown.accounts).1.map AccountUi.id =
      snapshot.accounts.map (fun account => shownId account.id) := by
    rw [hs]
    simpa [List.map_map,Function.comp_def] using congrArg (List.map Prod.fst) hm
  refine ⟨?_,?_⟩
  · simp only [mapSnapshotToUiState,MindChat.mapSnapshotToUiState]
    rw [hs,hm,List.map_map]
    rfl
  · have hcond : (shownId active = 0 ∨ ∀ account ∈ (mapAccounts now since shown.accounts).1,
        account.id ≠ shownId active) ↔ (active = 0 ∨ ∀ account ∈ snapshot.accounts, account.id ≠ active) := by
      refine or_congr ⟨fun h => shownId_injective ha (Nat.zero_le _) h,fun h => by rw [h]; rfl⟩ ?_
      have hl : (∀ account ∈ (mapAccounts now since shown.accounts).1, account.id ≠ shownId active) ↔
          ∀ id ∈ (mapAccounts now since shown.accounts).1.map AccountUi.id, id ≠ shownId active := by
        simp
      rw [hl,hids]
      simp only [List.forall_mem_map]
      refine forall₂_congr fun account hm => not_congr ⟨shownId_injective (hid account hm) ha,?_⟩
      intro h
      rw [h]
    have hhead : ((mapAccounts now since shown.accounts).1.head?.map AccountUi.id).getD 0 =
        shownId ((snapshot.accounts.head?.map Account.id).getD 0) := by
      rw [← List.head?_map,hids]
      cases snapshot.accounts <;> rfl
    simp only [mapSnapshotToUiState,MindChat.mapSnapshotToUiState,resolveActive]
    by_cases h : active = 0 ∨ ∀ account ∈ snapshot.accounts, account.id ≠ active
    · rw [if_pos (hcond.mpr h),if_pos (by simpa using h),hhead]
      cases snapshot.accounts <;> rfl
    · rw [if_neg (mt hcond.mp h),if_neg (by simpa using h)]

end MindChat.Ui
