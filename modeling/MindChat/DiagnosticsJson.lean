import MindChat.DiagnosticsTrack
import MindChat.JsonText
import Mathlib.Data.List.Forall2

/-! The diagnostics export of the Android client: the JSON text of a report, and
that it decodes to the fields of the report and nothing else. -/

namespace MindChat.Diagnostics

open JsonText

/-- The report as the bindings hand it to Kotlin, whose strings are UTF-16 code
units and need not be well formed. -/
@[ext] structure FfiDiagnosticsReport where
  accountCount : UInt64
  contactCount : UInt64
  conversationCount : UInt64
  messageCount : UInt64
  reactionCount : UInt64
  statePath : Option (List CodeUnit)
  stateSizeBytes : Option UInt64
  stateSchemaVersion : Option UInt32
  stateQuarantined : Bool
  stateLastSavedAtEpochMs : Option UInt64
  stateLastLoadedAtEpochMs : Option UInt64
  deriving DecidableEq

/-- `String.format("%04x", n)`. -/
def formatHex4 (n : ℕ) : List CodeUnit :=
  let digits := (Nat.toDigits 16 n).map unit
  List.replicate (4 - digits.length) (unit '0') ++ digits

def jsonChar (char : CodeUnit) : List CodeUnit :=
  if char = quote then [backslash,quote]
  else if char = backslash then [backslash,backslash]
  else if char = 0x08 then [backslash,unit 'b']
  else if char = 0x0c then [backslash,unit 'f']
  else if char = 0x0a then [backslash,unit 'n']
  else if char = 0x0d then [backslash,unit 'r']
  else if char = 0x09 then [backslash,unit 't']
  else if char < 0x20 then [backslash,unit 'u'] ++ formatHex4 char.toNat
  else [char]

def jsonString : Option (List CodeUnit) → List CodeUnit
  | none => utf16 "null"
  | some value => [quote] ++ value.flatMap jsonChar ++ [quote]

/-- `n?.toString() ?: "null"`. -/
def orNull (n : Option ℕ) : List CodeUnit := (n.map decimal).getD (utf16 "null")

/-- The pieces that `buildString` appends. -/
def serializeDiagnosticsReport (report : FfiDiagnosticsReport) : List CodeUnit :=
  List.flatten [
    utf16 "\x7b",
    utf16 "\"accountCount\":",decimal report.accountCount.toNat,
    utf16 ",\"contactCount\":",decimal report.contactCount.toNat,
    utf16 ",\"conversationCount\":",decimal report.conversationCount.toNat,
    utf16 ",\"messageCount\":",decimal report.messageCount.toNat,
    utf16 ",\"reactionCount\":",decimal report.reactionCount.toNat,
    utf16 ",\"statePath\":",jsonString report.statePath,
    utf16 ",\"stateSizeBytes\":",orNull (report.stateSizeBytes.map UInt64.toNat),
    utf16 ",\"stateSchemaVersion\":",orNull (report.stateSchemaVersion.map UInt32.toNat),
    utf16 ",\"stateQuarantined\":",utf16 (if report.stateQuarantined then "true" else "false"),
    utf16 ",\"stateLastSavedAtEpochMs\":",orNull (report.stateLastSavedAtEpochMs.map UInt64.toNat),
    utf16 ",\"stateLastLoadedAtEpochMs\":",orNull (report.stateLastLoadedAtEpochMs.map UInt64.toNat),
    utf16 "\x7d"]

def reportFields : List String :=
  ["accountCount","contactCount","conversationCount","messageCount","reactionCount","statePath",
    "stateSizeBytes","stateSchemaVersion","stateQuarantined","stateLastSavedAtEpochMs",
    "stateLastLoadedAtEpochMs"]

def count (n : ℕ) : Value := .scalar (.number ⟨n,0⟩)

def nullable {α : Type} (value : α → Value) (field : Option α) : Value :=
  (field.map value).getD (.scalar .null)

def FfiDiagnosticsReport.members (report : FfiDiagnosticsReport) : List (List CodeUnit × Value) :=
  [(utf16 "accountCount",count report.accountCount.toNat),
    (utf16 "contactCount",count report.contactCount.toNat),
    (utf16 "conversationCount",count report.conversationCount.toNat),
    (utf16 "messageCount",count report.messageCount.toNat),
    (utf16 "reactionCount",count report.reactionCount.toNat),
    (utf16 "statePath",nullable (fun path => .scalar (.string path)) report.statePath),
    (utf16 "stateSizeBytes",nullable (fun n => count n.toNat) report.stateSizeBytes),
    (utf16 "stateSchemaVersion",nullable (fun n => count n.toNat) report.stateSchemaVersion),
    (utf16 "stateQuarantined",.scalar (.bool report.stateQuarantined)),
    (utf16 "stateLastSavedAtEpochMs",nullable (fun n => count n.toNat) report.stateLastSavedAtEpochMs),
    (utf16 "stateLastLoadedAtEpochMs",
      nullable (fun n => count n.toNat) report.stateLastLoadedAtEpochMs)]

/-! ### Strings -/

theorem formatHex4_control : ∀ n < 0x20, formatHex4 n =
    [unit '0',unit '0',unit (Nat.digitChar (n / 16)),unit (Nat.digitChar (n % 16))] := by decide

theorem hexDigit_digitChar : ∀ d < 16, hexDigit (unit (Nat.digitChar d)) = some d := by decide

theorem spells_jsonChar (char : CodeUnit) : Spells (jsonChar char) [char] := by
  unfold jsonChar
  split_ifs with h₁ h₂ h₃ h₄ h₅ h₆ h₇ h₈
  · exact spells_escape (by rw [h₁]; decide)
  · exact spells_escape (by rw [h₂]; decide)
  · exact spells_escape (by rw [h₃]; decide)
  · exact spells_escape (by rw [h₄]; decide)
  · exact spells_escape (by rw [h₅]; decide)
  · exact spells_escape (by rw [h₆]; decide)
  · exact spells_escape (by rw [h₇]; decide)
  · have hn : char.toNat < 0x20 := UInt16.lt_iff_toNat_lt.mp h₈
    have hs := spells_hex (hexDigit_digitChar 0 (by decide)) (hexDigit_digitChar 0 (by decide))
      (hexDigit_digitChar (char.toNat / 16) (by omega)) (hexDigit_digitChar (char.toNat % 16) (by omega))
    have hc : UInt16.ofNat (16 * (16 * (16 * (16 * 0 + 0) + 0) + char.toNat / 16) + char.toNat % 16) =
        char := by
      rw [show 16 * (16 * (16 * (16 * 0 + 0) + 0) + char.toNat / 16) + char.toNat % 16 = char.toNat by omega,
        UInt16.ofNat_toNat]
    rw [hc] at hs
    rw [formatHex4_control _ hn]
    exact hs
  · exact spells_plain h₁ h₂ h₈

theorem reads_jsonString (field : Option (List CodeUnit)) :
    Reads (jsonString field) (nullable (fun path => .scalar (.string path)) field).tokens := by
  cases field with
  | none => exact reads_null
  | some path => exact reads_string (spells_flatMap spells_jsonChar path)

theorem reads_orNull {α : Type} (toNat : α → ℕ) (field : Option α) :
    Reads (orNull (field.map toNat)) (nullable (fun n => count (toNat n)) field).tokens := by
  cases field with
  | none => exact reads_null
  | some n => exact reads_decimal (toNat n)

def quoted (name : String) : List CodeUnit := quote :: (utf16 name ++ [quote])

theorem jsonChar_reportFields : ∀ name ∈ reportFields, (utf16 name).flatMap jsonChar = utf16 name := by
  decide +kernel

theorem reads_quoted {name : String} (h : name ∈ reportFields) :
    Reads (quoted name) [.scalar (.string (utf16 name))] := by
  have hs := spells_flatMap spells_jsonChar (utf16 name)
  rw [jsonChar_reportFields name h] at hs
  exact reads_string hs

/-! ### The report -/

def FfiDiagnosticsReport.texts (report : FfiDiagnosticsReport) : List (List CodeUnit) :=
  [decimal report.accountCount.toNat,decimal report.contactCount.toNat,
    decimal report.conversationCount.toNat,decimal report.messageCount.toNat,
    decimal report.reactionCount.toNat,jsonString report.statePath,
    orNull (report.stateSizeBytes.map UInt64.toNat),orNull (report.stateSchemaVersion.map UInt32.toNat),
    utf16 (if report.stateQuarantined then "true" else "false"),
    orNull (report.stateLastSavedAtEpochMs.map UInt64.toNat),
    orNull (report.stateLastLoadedAtEpochMs.map UInt64.toNat)]

theorem readsMember {name : String} {value : Value} {text : List CodeUnit} (hn : name ∈ reportFields)
    (h : Reads text value.tokens) : ReadsMember (utf16 name,value) (quoted name,text) :=
  ⟨reads_quoted hn,h⟩

theorem forall₂_readsMember (report : FfiDiagnosticsReport) :
    List.Forall₂ ReadsMember report.members ((reportFields.map quoted).zip report.texts) := by
  have number : ∀ n : ℕ, Reads (decimal n) (count n).tokens := reads_decimal
  have flag : Reads (utf16 (if report.stateQuarantined then "true" else "false"))
      (Value.scalar (.bool report.stateQuarantined)).tokens := reads_bool _
  refine .cons (readsMember (by decide) (number _)) ?_
  refine .cons (readsMember (by decide) (number _)) ?_
  refine .cons (readsMember (by decide) (number _)) ?_
  refine .cons (readsMember (by decide) (number _)) ?_
  refine .cons (readsMember (by decide) (number _)) ?_
  refine .cons (readsMember (by decide) (reads_jsonString _)) ?_
  refine .cons (readsMember (by decide) (reads_orNull UInt64.toNat _)) ?_
  refine .cons (readsMember (by decide) (reads_orNull UInt32.toNat _)) ?_
  refine .cons (readsMember (by decide) flag) ?_
  refine .cons (readsMember (by decide) (reads_orNull UInt64.toNat _)) ?_
  exact .cons (readsMember (by decide) (reads_orNull UInt64.toNat _)) .nil

def appendedNames : List String :=
  [",\"contactCount\":",",\"conversationCount\":",",\"messageCount\":",",\"reactionCount\":",
    ",\"statePath\":",",\"stateSizeBytes\":",",\"stateSchemaVersion\":",",\"stateQuarantined\":",
    ",\"stateLastSavedAtEpochMs\":",",\"stateLastLoadedAtEpochMs\":"]

theorem map_appendedNames : appendedNames.map utf16 =
    (reportFields.tail.map quoted).map fun name => unit ',' :: (name ++ [unit ':']) := by
  decide +kernel

theorem serializeDiagnosticsReport_eq (report : FfiDiagnosticsReport) :
    serializeDiagnosticsReport report = compactObject ((reportFields.map quoted).zip report.texts) := by
  let append := fun p : List CodeUnit × List CodeUnit => p.1 ++ p.2
  let first := decimal report.accountCount.toNat
  have hopen : utf16 "\x7b" ++ utf16 "\"accountCount\":" =
      0x7b :: (quoted "accountCount" ++ [unit ':']) := by decide
  have hclose : utf16 "\x7d" = [0x7d] := by decide
  calc serializeDiagnosticsReport report
    _ = utf16 "\x7b" ++ utf16 "\"accountCount\":" ++ (first ++
        (((appendedNames.map utf16).zip report.texts.tail).flatMap append ++ utf16 "\x7d")) := by
      simp only [serializeDiagnosticsReport,List.flatten_cons,List.flatten_nil,List.append_nil,
        appendedNames,FfiDiagnosticsReport.texts,List.tail_cons,List.map_cons,List.map_nil,
        List.zip_cons_cons,List.zip_nil_left,List.flatMap_cons,List.flatMap_nil,List.append_assoc,
        append,first]
    _ = 0x7b :: (quoted "accountCount" ++ [unit ':']) ++
        (first ++ compactMore ((reportFields.tail.map quoted).zip report.texts.tail)) := by
      rw [compactMore_zip,← map_appendedNames]
      exact congrArg₂ (fun front back => front ++ (first ++ (_ ++ back))) hopen hclose
    _ = compactObject ((reportFields.map quoted).zip report.texts) := by
      rw [List.cons_append,List.append_assoc]
      rfl

theorem isText_serializeDiagnosticsReport (report : FfiDiagnosticsReport) :
    IsText (.object report.members) (serializeDiagnosticsReport report) := by
  rw [serializeDiagnosticsReport_eq]
  exact isText_compactObject (forall₂_readsMember report)

theorem count_injective : Function.Injective count := by
  intro m n h
  cases h
  rfl

theorem nullable_injective {α : Type} {value : α → Value} (hi : Function.Injective value)
    (hn : ∀ a, value a ≠ .scalar .null) : Function.Injective (nullable value) := by
  intro a b h
  cases a with
  | none =>
    cases b with
    | none => rfl
    | some b => exact (hn b h.symm).elim
  | some a =>
    cases b with
    | none => exact (hn a h).elim
    | some b => exact congrArg some (hi h)

theorem serializeDiagnosticsReport_injective : Function.Injective serializeDiagnosticsReport := by
  intro report other h
  have hm := (isText_serializeDiagnosticsReport report).unique
    (h ▸ isText_serializeDiagnosticsReport other)
  have h64 : Function.Injective fun n : UInt64 => count n.toNat :=
    count_injective.comp fun _ _ => UInt64.toNat_inj.mp
  have h32 : Function.Injective fun n : UInt32 => count n.toNat :=
    count_injective.comp fun _ _ => UInt32.toNat_inj.mp
  have hpath : Function.Injective fun path : List CodeUnit => Value.scalar (.string path) := by
    intro a b hab
    cases hab
    rfl
  simp only [FfiDiagnosticsReport.members,Value.object.injEq,List.cons.injEq,Prod.mk.injEq,true_and,
    and_true] at hm
  obtain ⟨h₁,h₂,h₃,h₄,h₅,h₆,h₇,h₈,h₉,h₁₀,h₁₁⟩ := hm
  have null64 : ∀ n : UInt64, count n.toNat ≠ .scalar .null := fun _ => by simp [count]
  have null32 : ∀ n : UInt32, count n.toNat ≠ .scalar .null := fun _ => by simp [count]
  have e₁ := h64 h₁
  have e₂ := h64 h₂
  have e₃ := h64 h₃
  have e₄ := h64 h₄
  have e₅ := h64 h₅
  have e₆ := nullable_injective hpath (fun _ => by simp) h₆
  have e₇ := nullable_injective h64 null64 h₇
  have e₈ := nullable_injective h32 null32 h₈
  have e₉ : report.stateQuarantined = other.stateQuarantined := by simpa using h₉
  have e₁₀ := nullable_injective h64 null64 h₁₀
  have e₁₁ := nullable_injective h64 null64 h₁₁
  exact FfiDiagnosticsReport.ext e₁ e₂ e₃ e₄ e₅ e₆ e₇ e₈ e₉ e₁₀ e₁₁

/-- The export is a JSON object of the fields of the report, each once and with its value; it has
no other reading. -/
theorem diagnostics_json_faithful (report : FfiDiagnosticsReport) :
    decode (serializeDiagnosticsReport report) = some (.object report.members) ∧
    (∀ value, IsText value (serializeDiagnosticsReport report) ↔ value = .object report.members) ∧
    report.members.map Prod.fst = reportFields.map utf16 ∧ (reportFields.map utf16).Nodup := by
  have h := isText_serializeDiagnosticsReport report
  refine ⟨decode_of_isText h,fun value => ⟨fun hv => hv.unique h,?_⟩,rfl,by decide⟩
  rintro rfl
  exact h

/-! ### From the core to the export -/

/-- What the bindings make of a report of the core. -/
def FfiDiagnosticsReport.lift (report : MindChat.FfiDiagnosticsReport) : FfiDiagnosticsReport where
  accountCount := UInt64.ofNat report.accountCount
  contactCount := UInt64.ofNat report.contactCount
  conversationCount := UInt64.ofNat report.conversationCount
  messageCount := UInt64.ofNat report.messageCount
  reactionCount := UInt64.ofNat report.reactionCount
  statePath := report.statePath.map utf16
  stateSizeBytes := report.stateSizeBytes.map UInt64.ofNat
  stateSchemaVersion := report.stateSchemaVersion.map UInt32.ofNat
  stateQuarantined := report.stateQuarantined
  stateLastSavedAtEpochMs := report.stateLastSavedAtEpochMs.map UInt64.ofNat
  stateLastLoadedAtEpochMs := report.stateLastLoadedAtEpochMs.map UInt64.ofNat

structure Fits (report : MindChat.FfiDiagnosticsReport) : Prop where
  accountCount : report.accountCount < 2 ^ 64
  contactCount : report.contactCount < 2 ^ 64
  conversationCount : report.conversationCount < 2 ^ 64
  messageCount : report.messageCount < 2 ^ 64
  reactionCount : report.reactionCount < 2 ^ 64
  stateSizeBytes : ∀ n ∈ report.stateSizeBytes, n < 2 ^ 64
  stateSchemaVersion : ∀ n ∈ report.stateSchemaVersion, n < 2 ^ 32
  stateLastSavedAtEpochMs : ∀ n ∈ report.stateLastSavedAtEpochMs, n < 2 ^ 64
  stateLastLoadedAtEpochMs : ∀ n ∈ report.stateLastLoadedAtEpochMs, n < 2 ^ 64

/-- The counts of a report are cut off at 64 bits; the rest is what saving and loading noted. -/
theorem fits_diagnosticsReport {T : Type} (handle : MindChatCoreHandle T)
    (hsize : ∀ n ∈ handle.persistence.sizeBytes, n < 2 ^ 64)
    (hversion : ∀ n ∈ handle.persistence.schemaVersion, n < 2 ^ 32)
    (hsaved : ∀ n ∈ handle.persistence.lastSavedAtEpochMs, n < 2 ^ 64)
    (hloaded : ∀ n ∈ handle.persistence.lastLoadedAtEpochMs, n < 2 ^ 64) :
    Fits handle.diagnosticsReport := by
  have cut : ∀ n, min n u64Max < 2 ^ 64 := fun n => (min_le_right n u64Max).trans_lt (by decide)
  exact ⟨cut _,cut _,cut _,cut _,cut _,hsize,hversion,hsaved,hloaded⟩

theorem nullable_map {α β : Type} {value : β → Value} {other : α → Value} {f : α → β} {field : Option α}
    (h : ∀ a ∈ field, value (f a) = other a) : nullable value (field.map f) = nullable other field := by
  cases field with
  | none => rfl
  | some a => exact h a rfl

/-- The export shows the report of the core, number for number. -/
theorem decode_export {report : MindChat.FfiDiagnosticsReport} (h : Fits report) :
    decode (serializeDiagnosticsReport (.lift report)) = some (.object
      [(utf16 "accountCount",count report.accountCount),(utf16 "contactCount",count report.contactCount),
        (utf16 "conversationCount",count report.conversationCount),
        (utf16 "messageCount",count report.messageCount),
        (utf16 "reactionCount",count report.reactionCount),
        (utf16 "statePath",nullable (fun path => .scalar (.string (utf16 path))) report.statePath),
        (utf16 "stateSizeBytes",nullable count report.stateSizeBytes),
        (utf16 "stateSchemaVersion",nullable count report.stateSchemaVersion),
        (utf16 "stateQuarantined",.scalar (.bool report.stateQuarantined)),
        (utf16 "stateLastSavedAtEpochMs",nullable count report.stateLastSavedAtEpochMs),
        (utf16 "stateLastLoadedAtEpochMs",nullable count report.stateLastLoadedAtEpochMs)]) := by
  have wide : ∀ {n : ℕ}, n < 2 ^ 64 → (UInt64.ofNat n).toNat = n := UInt64.toNat_ofNat_of_lt'
  have narrow : ∀ {n : ℕ}, n < 2 ^ 32 → (UInt32.ofNat n).toNat = n := UInt32.toNat_ofNat_of_lt'
  have wideField : ∀ field : Option ℕ, (∀ n ∈ field, n < 2 ^ 64) →
      nullable (fun n : UInt64 => count n.toNat) (field.map UInt64.ofNat) = nullable count field :=
    fun field hf => nullable_map fun n hn => congrArg count (wide (hf n hn))
  have narrowField : nullable (fun n : UInt32 => count n.toNat)
      (report.stateSchemaVersion.map UInt32.ofNat) = nullable count report.stateSchemaVersion :=
    nullable_map fun n hn => congrArg count (narrow (h.stateSchemaVersion n hn))
  have hpath : nullable (fun path => Value.scalar (.string path)) (report.statePath.map utf16) =
      nullable (fun path => .scalar (.string (utf16 path))) report.statePath :=
    nullable_map fun _ _ => rfl
  rw [decode_of_isText (isText_serializeDiagnosticsReport _)]
  simp only [FfiDiagnosticsReport.members,FfiDiagnosticsReport.lift,wide h.accountCount,
    wide h.contactCount,wide h.conversationCount,wide h.messageCount,wide h.reactionCount,hpath,
    narrowField,wideField _ h.stateSizeBytes,wideField _ h.stateLastSavedAtEpochMs,
    wideField _ h.stateLastLoadedAtEpochMs]

end MindChat.Diagnostics
