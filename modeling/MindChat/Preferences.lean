import MindChat.UiRefresh
import MindChat.Transition
import Mathlib.Logic.Function.Basic

/-! The preference file behind the settings and the appearance, the two caches of the
gateway over it, and what the UI state shows of both after any writes. -/

namespace MindChat.Ui

/-- An enumeration whose options are stored under names of their own. -/
class KeyedEnum (α : Type) where
  key : α → String
  entries : List α
  mem_entries : ∀ v, v ∈ entries
  key_injective : Function.Injective key

/-- The option of a stored name; an unknown name falls back to the default. -/
def fromKey {α : Type} [KeyedEnum α] (stored : Option String) (default : α) : α :=
  (KeyedEnum.entries.find? fun v => stored = some (KeyedEnum.key v)).getD default

theorem fromKey_key {α : Type} [KeyedEnum α] (v default : α) :
    fromKey (some (KeyedEnum.key v)) default = v := by
  have hs : (KeyedEnum.entries.find? fun w : α =>
      some (KeyedEnum.key v) = some (KeyedEnum.key w)).isSome :=
    List.find?_isSome.mpr ⟨v,KeyedEnum.mem_entries v,decide_eq_true rfl⟩
  obtain ⟨w,hw⟩ := Option.isSome_iff_exists.mp hs
  have he : some (KeyedEnum.key v) = some (KeyedEnum.key w) := by simpa using List.find?_some hw
  rw [fromKey,hw,Option.getD_some]
  exact (KeyedEnum.key_injective (Option.some.inj he)).symm

instance : KeyedEnum ShapeScale where
  key
    | .compact => "compact"
    | .standard => "standard"
    | .expressive => "expressive"
  entries := [.compact,.standard,.expressive]
  mem_entries v := by cases v <;> decide
  key_injective v w h := by cases v <;> cases w <;> simp_all

instance : KeyedEnum Density where
  key
    | .compact => "compact"
    | .standard => "standard"
    | .comfortable => "comfortable"
  entries := [.compact,.standard,.comfortable]
  mem_entries v := by cases v <;> decide
  key_injective v w h := by cases v <;> cases w <;> simp_all

instance : KeyedEnum TextScale where
  key
    | .compact => "compact"
    | .default => "default"
    | .large => "large"
  entries := [.compact,.default,.large]
  mem_entries v := by cases v <;> decide
  key_injective v w h := by cases v <;> cases w <;> simp_all

instance : KeyedEnum AnimationSpeed where
  key
    | .faster => "faster"
    | .default => "default"
    | .slower => "slower"
  entries := [.faster,.default,.slower]
  mem_entries v := by cases v <;> decide
  key_injective v w h := by cases v <;> cases w <;> simp_all

instance : KeyedEnum BubbleStyle where
  key
    | .default => "default"
    | .rounded => "rounded"
    | .outlined => "outlined"
  entries := [.default,.rounded,.outlined]
  mem_entries v := by cases v <;> decide
  key_injective v w h := by cases v <;> cases w <;> simp_all

instance : KeyedEnum ChatBackground where
  key
    | .default => "default"
    | .tinted => "tinted"
  entries := [.default,.tinted]
  mem_entries v := by cases v <;> decide
  key_injective v w h := by cases v <;> cases w <;> simp_all

/-- The layout switch of earlier releases as a density. -/
def densityFromLegacy : Option Bool → Density
  | some true => .comfortable
  | some false => .standard
  | none => .comfortable

namespace SettingKey

def default : SettingKey → Bool
  | .dynamicColor | .comfortableLayout => true
  | _ => false

def all : List SettingKey :=
  [.dynamicColor,.comfortableLayout,.appLockEnabled,.messageSearch,.encryption,.messageNotifications,
    .groupNotifications]

theorem mem_all (key : SettingKey) : key ∈ all := by
  cases key <;> decide

end SettingKey

/-- `raw` is none for a value that is no Boolean. -/
def sanitizeSetting (key : SettingKey) (raw : Option Bool) : Bool := raw.getD key.default

inductive AppearanceKey
  | shapeScale | density | textScale | animationSpeed | bubbleStyle | chatBackground
  deriving DecidableEq

structure MindChatCustomization where
  dynamicColor : Bool
  appearance : AppearanceProfile
  appLockEnabled : Bool
  deriving DecidableEq

/-- The switches and the names of the appearance options that are stored. -/
structure PreferenceStore where
  switches : SettingKey → Option Bool
  names : AppearanceKey → Option String

namespace PreferenceStore

def read (store : PreferenceStore) (key : SettingKey) : Bool := (store.switches key).getD key.default

def write (store : PreferenceStore) (key : SettingKey) (value : Bool) : PreferenceStore :=
  { store with switches := Function.update store.switches key (some value) }

def override (store : PreferenceStore) (key : SettingKey) : Option Bool :=
  (store.switches key).filter fun value => value ≠ key.default

def readAll (store : PreferenceStore) : SettingsSnapshot :=
  (SettingKey.all.filterMap fun key => (store.override key).map (Sigma.mk key)).toFinmap

/-- A stored density wins over the layout switch. -/
def readAppearance (store : PreferenceStore) : AppearanceProfile where
  shapeScale := fromKey (store.names .shapeScale) .expressive
  density :=
    if (store.names .density).isSome then fromKey (store.names .density) .comfortable
    else densityFromLegacy (store.switches .comfortableLayout)
  textScale := fromKey (store.names .textScale) .default
  animationSpeed := fromKey (store.names .animationSpeed) .default
  bubbleStyle := fromKey (store.names .bubbleStyle) .default
  chatBackground := fromKey (store.names .chatBackground) .default

/-- The six names and the layout switch derived from the density. -/
def writeAppearance (store : PreferenceStore) (appearance : AppearanceProfile) : PreferenceStore :=
  { (store.write .comfortableLayout (decide (appearance.density = .comfortable))) with
    names
      | .shapeScale => some (KeyedEnum.key appearance.shapeScale)
      | .density => some (KeyedEnum.key appearance.density)
      | .textScale => some (KeyedEnum.key appearance.textScale)
      | .animationSpeed => some (KeyedEnum.key appearance.animationSpeed)
      | .bubbleStyle => some (KeyedEnum.key appearance.bubbleStyle)
      | .chatBackground => some (KeyedEnum.key appearance.chatBackground) }

def readCustomization (store : PreferenceStore) : MindChatCustomization where
  dynamicColor := store.read .dynamicColor
  appearance := store.readAppearance
  appLockEnabled := store.read .appLockEnabled

def writeCustomization (store : PreferenceStore) (customization : MindChatCustomization) :
    PreferenceStore :=
  ((store.write .dynamicColor customization.dynamicColor).writeAppearance
    customization.appearance).write .appLockEnabled customization.appLockEnabled

end PreferenceStore

/-- The gateway over its preferences. -/
structure PreferenceGateway where
  preferences : PreferenceStore
  gateway : UiGateway

/-- A call, with the snapshot and the clock of the refresh that ends it. -/
inductive PreferenceCall
  | setSetting (key : SettingKey) (raw : Option Bool) (snapshot : FfiCoreSnapshot) (now : Int64)
  | setAppearance (appearance : AppearanceProfile) (snapshot : FfiCoreSnapshot) (now : Int64)

namespace PreferenceGateway

variable (timestampFormatter : Int64 → String)

/-- A gateway starts with both caches read from the store. -/
def start (preferences : PreferenceStore) (inputs : UiInputs) (snapshot : FfiCoreSnapshot)
    (now : Int64) : PreferenceGateway :=
  ⟨preferences,.start timestampFormatter
    { inputs with settings := preferences.readAll, appearance := preferences.readAppearance }
    snapshot now⟩

def refreshWith (s : PreferenceGateway) (preferences : PreferenceStore) (inputs : UiInputs)
    (snapshot : FfiCoreSnapshot) (now : Int64) : PreferenceGateway :=
  ⟨preferences,(s.gateway.change s.gateway.activeAccountId inputs).refresh timestampFormatter snapshot now⟩

/-- The appearance cache is left alone. -/
def setSetting (s : PreferenceGateway) (key : SettingKey) (raw : Option Bool)
    (snapshot : FfiCoreSnapshot) (now : Int64) : PreferenceGateway :=
  let preferences := s.preferences.write key (sanitizeSetting key raw)
  s.refreshWith timestampFormatter preferences
    { s.gateway.inputs with settings := preferences.readAll } snapshot now

/-- The settings cache is left alone. -/
def setAppearance (s : PreferenceGateway) (appearance : AppearanceProfile)
    (snapshot : FfiCoreSnapshot) (now : Int64) : PreferenceGateway :=
  let current := s.preferences.readCustomization
  s.refreshWith timestampFormatter
    (s.preferences.writeCustomization { current with appearance := appearance })
    { s.gateway.inputs with appearance := appearance } snapshot now

def step (s : PreferenceGateway) : PreferenceCall → PreferenceGateway
  | .setSetting key raw snapshot now => s.setSetting timestampFormatter key raw snapshot now
  | .setAppearance appearance snapshot now => s.setAppearance timestampFormatter appearance snapshot now

def Step (s : PreferenceGateway) (call : PreferenceCall) (t : PreferenceGateway) : Prop :=
  t = s.step timestampFormatter call

/-- The switch says whether the density is the comfortable one, and the UI state shows
what the preferences would return. -/
structure InStep (s : PreferenceGateway) : Prop where
  layout : s.preferences.read .comfortableLayout =
    decide (s.preferences.readAppearance.density = .comfortable)
  settings : s.gateway.state.settings = s.preferences.readAll
  appearance : s.gateway.state.appearance = s.preferences.readAppearance

/-- No call moves the layout switch away from the density, or it from the switch. -/
def KeepsLayout (s : PreferenceGateway) : PreferenceCall → Prop
  | .setSetting key raw _ _ =>
    (if key = .comfortableLayout then sanitizeSetting key raw
      else s.preferences.read .comfortableLayout) =
      decide (s.preferences.readAppearance.density = .comfortable)
  | .setAppearance appearance _ _ =>
    decide (appearance.density = .comfortable) = s.preferences.read .comfortableLayout

end PreferenceGateway

theorem dlookup_filterMap {K V : Type} [DecidableEq K] (f : K → Option V) (keys : List K) (key : K) :
    (keys.filterMap fun k => (f k).map (Sigma.mk (β := fun _ => V) k)).dlookup key =
      if key ∈ keys then f key else none := by
  induction keys with
  | nil => rfl
  | cons k keys ih =>
    rw [List.filterMap_cons]
    cases hf : f k with
    | none =>
      simp only [Option.map_none,ih,List.mem_cons]
      by_cases he : key = k
      · simp [he,hf]
      · simp [he]
    | some v =>
      simp only [Option.map_some,List.mem_cons]
      by_cases he : key = k
      · rw [he,List.dlookup_cons_eq,if_pos (.inl rfl),hf]
      · rw [List.dlookup_cons_ne _ _ he,ih]
        simp [he]

namespace PreferenceStore

variable (store : PreferenceStore)

theorem read_write (key other : SettingKey) (value : Bool) :
    (store.write key value).read other = if other = key then value else store.read other := by
  by_cases h : other = key
  · subst h
    simp [read,write]
  · simp [read,write,h]

/-- The overrides are the values that are read and differ from their default. -/
theorem override_eq (key : SettingKey) :
    store.override key = if store.read key = key.default then none else some (store.read key) := by
  cases h : store.switches key with
  | none => simp [override,read,h]
  | some value => simp [override,read,h,Option.filter]

theorem lookup_readAll (key : SettingKey) : store.readAll.lookup key = store.override key := by
  rw [readAll,Finmap.dlookup_list_toFinmap,dlookup_filterMap,if_pos key.mem_all]

theorem readAll_eq_iff {store other : PreferenceStore} :
    store.readAll = other.readAll ↔ ∀ key, store.read key = other.read key := by
  constructor
  · intro h key
    have hk := congrArg (Finmap.lookup key) h
    rw [lookup_readAll,lookup_readAll,override_eq,override_eq] at hk
    split_ifs at hk with hs ho ho
    · rw [hs,ho]
    · exact Option.some.inj hk
  · intro h
    refine Finmap.ext_lookup fun key => ?_
    rw [lookup_readAll,lookup_readAll,override_eq,override_eq,h key]

theorem read_writeCustomization (customization : MindChatCustomization) (key : SettingKey) :
    (store.writeCustomization customization).read key =
      if key = .appLockEnabled then customization.appLockEnabled
      else if key = .comfortableLayout then decide (customization.appearance.density = .comfortable)
      else if key = .dynamicColor then customization.dynamicColor
      else store.read key := by
  have hnames (t : PreferenceStore) (appearance : AppearanceProfile) (k : SettingKey) :
      (t.writeAppearance appearance).read k =
        (t.write .comfortableLayout (decide (appearance.density = .comfortable))).read k := rfl
  rw [writeCustomization,read_write,hnames,read_write,read_write]

/-- What is read after an appearance is set: the layout switch follows, the rest stays. -/
theorem read_setAppearance (appearance : AppearanceProfile) (key : SettingKey) :
    (store.writeCustomization { store.readCustomization with appearance := appearance }).read key =
      if key = .comfortableLayout then decide (appearance.density = .comfortable)
      else store.read key := by
  rw [read_writeCustomization]
  cases key <;> rfl

theorem readAppearance_write_of_ne {key : SettingKey} (hk : key ≠ .comfortableLayout) (value : Bool) :
    (store.write key value).readAppearance = store.readAppearance := by
  have hs : (store.write key value).switches .comfortableLayout = store.switches .comfortableLayout :=
    Function.update_of_ne hk.symm _ _
  simp only [readAppearance,hs]
  rfl

theorem readAppearance_writeCustomization (customization : MindChatCustomization) :
    (store.writeCustomization customization).readAppearance = customization.appearance := by
  rw [writeCustomization,readAppearance_write_of_ne _ (by decide)]
  simp only [readAppearance,writeAppearance,Option.isSome_some,if_true,fromKey_key]

end PreferenceStore

namespace PreferenceStore

variable {store : PreferenceStore}

theorem readAppearance_eq_iff {other : PreferenceStore} (hn : other.names = store.names) :
    store.readAppearance = other.readAppearance ↔
      store.readAppearance.density = other.readAppearance.density := by
  constructor
  · exact congrArg AppearanceProfile.density
  · intro hd
    simp only [readAppearance,hn] at hd ⊢
    rw [hd]

/-- Writing the switch keeps it and the appearance in step if and only if it already
says what the density says. -/
theorem write_comfortableLayout_iff (value : Bool) :
    (value = decide ((store.write .comfortableLayout value).readAppearance.density = .comfortable) ∧
      store.readAppearance = (store.write .comfortableLayout value).readAppearance) ↔
    value = decide (store.readAppearance.density = .comfortable) := by
  have hn : (store.write .comfortableLayout value).names = store.names := rfl
  rw [readAppearance_eq_iff hn]
  cases hstored : (store.names .density).isSome with
  | true =>
    have hd : (store.write .comfortableLayout value).readAppearance.density =
        store.readAppearance.density := by
      simp only [readAppearance,hn,hstored,if_true]
    rw [hd]
    exact and_iff_left rfl
  | false =>
    have hnew : (store.write .comfortableLayout value).readAppearance.density =
        densityFromLegacy (some value) := by
      simp [readAppearance,hstored,write]
    have hold : store.readAppearance.density = densityFromLegacy (store.switches .comfortableLayout) := by
      simp [readAppearance,hstored]
    rw [hnew,hold]
    cases store.switches .comfortableLayout with
    | none => cases value <;> decide
    | some old => cases value <;> cases old <;> decide

end PreferenceStore

namespace UiGateway

/-- The inputs behind the published state are those that the last rebuild read. -/
def Shows (g : UiGateway) : Prop := g.lastSnapshot.isSome → g.state.toUiInputs = g.lastInputs

theorem Shows.refresh (timestampFormatter : Int64 → String) {g : UiGateway} (h : g.Shows)
    (snapshot : FfiCoreSnapshot) (now : Int64) :
    (g.refresh timestampFormatter snapshot now).state.toUiInputs = g.inputs ∧
      (g.refresh timestampFormatter snapshot now).inputs = g.inputs ∧
      (g.refresh timestampFormatter snapshot now).Shows := by
  unfold UiGateway.refresh
  split
  · rename_i hskip
    obtain ⟨hlast,-,hinputs,-⟩ := shouldSkipUiRebuild_eq_true hskip
    refine ⟨?_,rfl,h⟩
    rw [h (by rw [hlast]; rfl),← hinputs]
  · exact ⟨rfl,rfl,fun _ => rfl⟩

end UiGateway

namespace PreferenceGateway

variable {timestampFormatter : Int64 → String} {s t : PreferenceGateway} {call : PreferenceCall}

structure Fresh (s : PreferenceGateway) : Prop where
  settings : s.gateway.inputs.settings = s.preferences.readAll
  appearance : s.gateway.inputs.appearance = s.preferences.readAppearance
  shows : s.gateway.Shows

theorem fresh_start (preferences : PreferenceStore) (inputs : UiInputs) (snapshot : FfiCoreSnapshot)
    (now : Int64) : (start timestampFormatter preferences inputs snapshot now).Fresh :=
  ⟨rfl,rfl,nofun⟩

theorem refreshWith_inStep_iff (hs : s.gateway.Shows) (preferences : PreferenceStore) (inputs : UiInputs)
    (snapshot : FfiCoreSnapshot) (now : Int64) :
    (s.refreshWith timestampFormatter preferences inputs snapshot now).InStep ↔
      preferences.read .comfortableLayout =
          decide (preferences.readAppearance.density = .comfortable) ∧
        inputs.settings = preferences.readAll ∧ inputs.appearance = preferences.readAppearance := by
  have hshown : (s.refreshWith timestampFormatter preferences inputs snapshot now).gateway.state.toUiInputs =
      inputs :=
    (UiGateway.Shows.refresh timestampFormatter
      (g := s.gateway.change s.gateway.activeAccountId inputs) hs snapshot now).1
  constructor
  · intro h
    exact ⟨h.layout,hshown ▸ h.settings,hshown ▸ h.appearance⟩
  · rintro ⟨hl,hset,happ⟩
    exact ⟨hl,by rw [hshown,hset]; rfl,by rw [hshown,happ]; rfl⟩

theorem setSetting_inStep_iff (hf : s.Fresh) (key : SettingKey) (raw : Option Bool)
    (snapshot : FfiCoreSnapshot) (now : Int64) :
    (s.setSetting timestampFormatter key raw snapshot now).InStep ↔
      s.KeepsLayout (.setSetting key raw snapshot now) := by
  rw [setSetting,refreshWith_inStep_iff hf.shows,PreferenceStore.read_write,hf.appearance,KeepsLayout]
  by_cases hk : key = .comfortableLayout
  · subst hk
    simp only [if_true,true_and]
    exact PreferenceStore.write_comfortableLayout_iff _
  · have ha := s.preferences.readAppearance_write_of_ne hk (sanitizeSetting key raw)
    rw [if_neg (Ne.symm hk),if_neg hk,ha]
    exact and_iff_left ⟨rfl,rfl⟩

theorem setAppearance_inStep_iff (hf : s.Fresh) (appearance : AppearanceProfile)
    (snapshot : FfiCoreSnapshot) (now : Int64) :
    (s.setAppearance timestampFormatter appearance snapshot now).InStep ↔
      s.KeepsLayout (.setAppearance appearance snapshot now) := by
  rw [setAppearance,refreshWith_inStep_iff hf.shows,PreferenceStore.readAppearance_writeCustomization,
    PreferenceStore.read_setAppearance,if_pos rfl,hf.settings,PreferenceStore.readAll_eq_iff,KeepsLayout]
  constructor
  · rintro ⟨-,hsame,-⟩
    have hk := hsame .comfortableLayout
    rw [PreferenceStore.read_setAppearance,if_pos rfl] at hk
    exact hk.symm
  · intro hk
    refine ⟨rfl,fun key => ?_,rfl⟩
    rw [PreferenceStore.read_setAppearance]
    split_ifs with he
    · rw [he,hk]
    · rfl

theorem inStep_step_iff (hf : s.Fresh) (hs : Step timestampFormatter s call t) :
    t.InStep ↔ s.KeepsLayout call := by
  obtain rfl : t = s.step timestampFormatter call := hs
  cases call with
  | setSetting key raw snapshot now => exact setSetting_inStep_iff hf key raw snapshot now
  | setAppearance appearance snapshot now => exact setAppearance_inStep_iff hf appearance snapshot now

theorem Fresh.step (hf : s.Fresh) (hs : Step timestampFormatter s call t) (ht : t.InStep) : t.Fresh := by
  obtain rfl : t = s.step timestampFormatter call := hs
  have hrefresh (preferences : PreferenceStore) (inputs : UiInputs) (snapshot : FfiCoreSnapshot)
      (now : Int64) (h : (s.refreshWith timestampFormatter preferences inputs snapshot now).InStep) :
      (s.refreshWith timestampFormatter preferences inputs snapshot now).Fresh := by
    obtain ⟨hstate,hinputs,hshows⟩ := UiGateway.Shows.refresh timestampFormatter
      (g := s.gateway.change s.gateway.activeAccountId inputs) hf.shows snapshot now
    have hsame : (s.refreshWith timestampFormatter preferences inputs snapshot now).gateway.inputs =
        (s.refreshWith timestampFormatter preferences inputs snapshot now).gateway.state.toUiInputs :=
      hinputs.trans hstate.symm
    exact ⟨by rw [hsame,← h.settings],by rw [hsame,← h.appearance],hshows⟩
  cases call with
  | setSetting key raw snapshot now => exact hrefresh _ _ snapshot now ht
  | setAppearance appearance snapshot now => exact hrefresh _ _ snapshot now ht

def SafeStep (timestampFormatter : Int64 → String) (s : PreferenceGateway) (call : PreferenceCall)
    (t : PreferenceGateway) : Prop :=
  Step timestampFormatter s call t ∧ t.InStep

/-- From any store, the runs after whose every call the layout switch agrees with the
density and the UI state with the preferences are those whose calls all keep the layout. -/
theorem layout_in_step_iff (timestampFormatter : Int64 → String) (preferences : PreferenceStore)
    (inputs : UiInputs) (snapshot : FfiCoreSnapshot) (now : Int64) (calls : List PreferenceCall)
    (t : PreferenceGateway) :
    Transition.Run (SafeStep timestampFormatter)
        (start timestampFormatter preferences inputs snapshot now) calls t ↔
      Transition.Run (Transition.Meeting KeepsLayout (Step timestampFormatter))
        (start timestampFormatter preferences inputs snapshot now) calls t :=
  Transition.Run.leaving_iff_meeting (I := Fresh) (fun _ _ _ hf hs => inStep_step_iff hf hs)
    (fun _ _ _ hf hs ht => hf.step hs ht) (fresh_start preferences inputs snapshot now)

def freshStart : PreferenceGateway :=
  start toString ⟨fun _ => none,fun _ => none⟩ plainInputs onlineSnapshot 0

/-- A choice of density leaves the switch of the UI state behind; a write of the switch
leaves the chosen density behind. -/
theorem layout_out_of_step :
    (∃ t, Transition.Run (Step toString) freshStart
        [.setAppearance { plainInputs.appearance with density := .standard } onlineSnapshot 1000] t ∧
      t.preferences.read .comfortableLayout = false ∧
      t.gateway.state.settings.lookup .comfortableLayout = none ∧ ¬ t.InStep) ∧
    ∃ t, Transition.Run (Step toString) freshStart
        [.setAppearance plainInputs.appearance onlineSnapshot 1000,
          .setSetting .comfortableLayout (some false) onlineSnapshot 2000] t ∧
      t.preferences.read .comfortableLayout = false ∧
      t.preferences.readAppearance.density = .comfortable ∧ ¬ t.InStep := by
  refine ⟨⟨_,.single rfl,by decide,by decide,fun h => ?_⟩,
    ⟨_,.cons rfl (.single rfl),by decide,by decide,fun h => ?_⟩⟩
  · have hs := congrArg (Finmap.lookup .comfortableLayout) h.settings
    revert hs
    decide
  · have hl := h.layout
    revert hl
    decide

end PreferenceGateway

end MindChat.Ui
