import MindChat.GatewayService
import MindChat.ProxyRoundTrip

/-! The proxies of the accounts exist three times: as entries of the library, as
assignments of entries to accounts, and as configurations in the core. When the
calls that change them keep the three in agreement. -/

namespace MindChat

open MindChatCore

theorem toULong_injective : Function.Injective toULong := by
  intro a b h
  have hn : a.toUInt64 = b.toUInt64 := UInt64.toNat_inj.mp h
  rw [← Int64.toInt64_toUInt64 a,hn,Int64.toInt64_toUInt64]

def MindChatCore.accountProxies (c : MindChatCore) (accountId : AccountId) :
    Except CoreError (List ProxyConfig) :=
  match c.accounts.lookup accountId with
  | some account => .ok account.proxies
  | none => .error (.unknownAccount accountId)

namespace ProxyBook

def ids (book : ProxyBook) : List String := book.library.map ProxyLibraryEntry.id

def assignedEntry (book : ProxyBook) (accountId : Int64) : Option ProxyLibraryEntry :=
  (book.assignments.lookup accountId).bind fun id => book.library.find? fun entry => entry.id = id

/-- The configuration of the assigned entry, as the list that the core keeps. -/
def assignedConfigs (book : ProxyBook) (accountId : Int64) : List ProxyConfig :=
  ((book.assignedEntry accountId).map fun entry => entry.toConfig.toFfi).toList

end ProxyBook

/-- Ids are distinct, assignments name entries, and the core has the configuration
of the assigned entry for every account it knows. -/
structure ProxiesAgree (book : ProxyBook) (c : MindChatCore) : Prop where
  distinct : book.ids.Nodup
  assigned : ∀ a proxyId, book.assignments.lookup a = some proxyId → proxyId ∈ book.ids
  mirrored : ∀ a proxies, c.accountProxies (toULong a) = .ok proxies → proxies = book.assignedConfigs a

section Numbers

/-- The numbers of the ids that `nextProxyId` counts on from. -/
def proxyNumbers (library : List ProxyLibraryEntry) : List Int64 :=
  library.filterMap fun entry =>
    Numeral.toLongOrNull (if entry.id.toList.head? = some 'p' then entry.id.toList.tail else entry.id.toList)

def proxyIdOf (n : Int64) : String := String.ofList ('p' :: Numeral.signed n.toInt)

theorem nextProxyId_eq (library : List ProxyLibraryEntry) :
    nextProxyId library = proxyIdOf ((proxyNumbers library).max?.getD 0 + 1) := rfl

theorem mem_proxyNumbers {library : List ProxyLibraryEntry} {n : Int64}
    (h : proxyIdOf n ∈ library.map ProxyLibraryEntry.id) : n ∈ proxyNumbers library := by
  obtain ⟨entry,he,hid⟩ := List.mem_map.mp h
  refine List.mem_filterMap.mpr ⟨entry,he,?_⟩
  rw [hid]
  simp only [proxyIdOf,String.toList_ofList,List.head?_cons,if_true,List.tail_cons]
  exact Numeral.toLongOrNull_signed n

instance lawfulOrderMaxInt64 : Std.LawfulOrderMax Int64 where
  max_eq_or a b := by
    change (if a ≤ b then b else a) = a ∨ (if a ≤ b then b else a) = b
    split <;> simp
  max_le_iff a b c := by
    change (if a ≤ b then b else a) ≤ c ↔ _
    simp only [Int64.le_iff_toInt_le]
    split <;> constructor <;> intro h <;> omega

theorem not_succ_le {m : Int64} (h : m ≠ Int64.maxValue) : ¬ m + 1 ≤ m := by
  have hm : m.toInt ≠ 2^63 - 1 := fun he => h (Int64.toInt_inj.mp (he.trans (by decide)))
  have hlt := m.toInt_lt
  have hle := m.le_toInt
  rw [Int64.le_iff_toInt_le,Int64.toInt_add,Int64.toInt_one,
    Int.bmod_eq_of_le (by omega) (by omega)]
  omega

/-- The numbers have not come round to an id that is taken. -/
def NumbersLeft (library : List ProxyLibraryEntry) : Prop :=
  (proxyNumbers library).max?.getD 0 = Int64.maxValue →
    proxyIdOf Int64.minValue ∉ library.map ProxyLibraryEntry.id

theorem nextProxyId_fresh {library : List ProxyLibraryEntry} (h : NumbersLeft library) :
    nextProxyId library ∉ library.map ProxyLibraryEntry.id := by
  rw [nextProxyId_eq]
  by_cases hm : (proxyNumbers library).max?.getD 0 = Int64.maxValue
  · rw [hm]
    exact h hm
  · intro hin
    have hmem := mem_proxyNumbers hin
    cases hmax : (proxyNumbers library).max? with
    | none =>
      rw [List.max?_eq_none_iff.mp hmax] at hmem
      exact List.not_mem_nil hmem
    | some m =>
      rw [hmax,Option.getD_some] at hmem hm
      exact not_succ_le hm ((List.max?_eq_some_iff.mp hmax).2 _ hmem)

end Numbers

namespace ProxyBook

variable {book : ProxyBook}

theorem assignedEntry_map {change : ProxyLibraryEntry → ProxyLibraryEntry}
    (hid : ∀ entry, (change entry).id = entry.id) (a : Int64) :
    (book.writeLibrary (book.library.map change)).assignedEntry a = (book.assignedEntry a).map change := by
  unfold assignedEntry writeLibrary
  cases book.assignments.lookup a with
  | none => rfl
  | some proxyId =>
    simp only [Option.bind_some,List.find?_map,Function.comp_def,hid]

theorem ids_map {change : ProxyLibraryEntry → ProxyLibraryEntry}
    (hid : ∀ entry, (change entry).id = entry.id) :
    (book.writeLibrary (book.library.map change)).ids = book.ids := by
  simp only [ids,writeLibrary,List.map_map,Function.comp_def,hid]

theorem find_of_mem (hd : book.ids.Nodup) {entry : ProxyLibraryEntry} (he : entry ∈ book.library) :
    book.library.find? (fun e => e.id = entry.id) = some entry := by
  have hs : (book.library.find? fun e => e.id = entry.id).isSome :=
    List.find?_isSome.mpr ⟨entry,he,by simp⟩
  obtain ⟨found,hf⟩ := Option.isSome_iff_exists.mp hs
  have hid : found.id = entry.id := by simpa using List.find?_some hf
  rw [hf,List.inj_on_of_nodup_map hd (List.mem_of_find?_eq_some hf) he hid]

end ProxyBook

namespace ProxiesAgree

variable {book : ProxyBook} {c d : MindChatCore}

theorem of_accounts (h : ProxiesAgree book c) (hd : d.accounts = c.accounts) : ProxiesAgree book d := by
  refine ⟨h.distinct,h.assigned,fun a proxies hp => h.mirrored a proxies ?_⟩
  unfold accountProxies at hp ⊢
  rwa [hd] at hp

theorem addProxy (h : ProxiesAgree book c) {config : UiProxyConfig}
    (hleft : (validateProxyConfig config).isSome ∨ NumbersLeft book.library) :
    ProxiesAgree (book.addProxy config) c := by
  unfold ProxyBook.addProxy
  split
  · exact h
  · next hvalid =>
    have hfresh : nextProxyId book.library ∉ book.ids := nextProxyId_fresh (hleft.resolve_left hvalid)
    have hids : (book.writeLibrary (book.library ++ [config.entry (nextProxyId book.library)])).ids =
        book.ids ++ [nextProxyId book.library] := List.map_append
    refine ⟨?_,fun a proxyId ha => ?_,fun a proxies hp => ?_⟩
    · rw [hids]
      exact List.nodup_append.mpr ⟨h.distinct,List.nodup_singleton _,fun x hx y hy he =>
        hfresh (List.mem_singleton.mp hy ▸ he ▸ hx)⟩
    · rw [hids]
      exact List.mem_append_left _ (h.assigned a proxyId ha)
    · rw [h.mirrored a proxies hp]
      unfold ProxyBook.assignedConfigs ProxyBook.assignedEntry ProxyBook.writeLibrary
      cases ha : book.assignments.lookup a with
      | none => rfl
      | some proxyId =>
        obtain ⟨entry,he,hid⟩ := List.mem_map.mp (h.assigned a proxyId ha)
        subst hid
        simp only [Option.bind_some,List.find?_append,ProxyBook.find_of_mem h.distinct he,Option.some_or]

/-- Entries change, under their ids, and the assigned ones keep their configurations. -/
theorem changeEntries (h : ProxiesAgree book c) {change : ProxyLibraryEntry → ProxyLibraryEntry}
    (hid : ∀ entry, (change entry).id = entry.id)
    (hconfig : ∀ a entry, (c.accounts.lookup (toULong a)).isSome → book.assignedEntry a = some entry →
      (change entry).toConfig = entry.toConfig) :
    ProxiesAgree (book.writeLibrary (book.library.map change)) c := by
  refine ⟨?_,fun a proxyId ha => ?_,fun a proxies hp => ?_⟩
  · rw [ProxyBook.ids_map hid]
    exact h.distinct
  · rw [ProxyBook.ids_map hid]
    exact h.assigned a proxyId ha
  · rw [h.mirrored a proxies hp]
    unfold ProxyBook.assignedConfigs
    rw [ProxyBook.assignedEntry_map hid]
    cases ha : book.assignedEntry a with
    | none => rfl
    | some entry =>
      have hknown : (c.accounts.lookup (toULong a)).isSome := by
        unfold accountProxies at hp
        split at hp
        · next hc => rw [hc]; rfl
        · cases hp
      simp only [Option.map_some,hconfig a entry hknown ha]

/-- No account that the core knows has the entry, or its configuration stays. -/
def Unmoved (book : ProxyBook) (c : MindChatCore) (proxyId : String) (config : UiProxyConfig) : Prop :=
  ∀ a entry, (c.accounts.lookup (toULong a)).isSome → book.assignedEntry a = some entry →
    entry.id = proxyId → entry.toConfig = config

theorem updateProxy (h : ProxiesAgree book c) {proxyId : String} {config : UiProxyConfig}
    (hmoved : (validateProxyConfig config).isSome ∨ Unmoved book c proxyId config) :
    ProxiesAgree (book.updateProxy proxyId config) c := by
  unfold ProxyBook.updateProxy
  split
  · exact h
  · next hvalid =>
    split
    · exact h
    · refine h.changeEntries (fun entry => ?_) fun a entry ha he => ?_
      · split
        · next hid => exact hid.symm
        · rfl
      · split
        · next hid => exact (hmoved.resolve_left hvalid a entry ha he hid).symm
        · rfl

theorem pingProxy (h : ProxiesAgree book c) (proxyId : String)
    (outcome : Option (Except ProxyError Unit × ℕ)) : ProxiesAgree (book.pingProxy proxyId outcome) c := by
  unfold ProxyBook.pingProxy
  split
  · exact h
  · refine h.changeEntries (fun entry => ?_) fun a entry _ _ => ?_
    · split <;> rfl
    · split <;> rfl

theorem reassign (h : ProxiesAgree book c) {b : ProxyBook} (hd : b.ids.Nodup)
    (ha : ∀ a proxyId, b.assignments.lookup a = some proxyId → proxyId ∈ b.ids)
    (hp : ∀ a proxies, d.accountProxies (toULong a) = .ok proxies → proxies = b.assignedConfigs a ∨
      (b.assignedConfigs a = book.assignedConfigs a ∧ c.accountProxies (toULong a) = .ok proxies)) :
    ProxiesAgree b d := by
  refine ⟨hd,ha,fun a proxies hd => ?_⟩
  rcases hp a proxies hd with hb | ⟨hb,hc⟩
  · exact hb
  · rw [hb]
    exact h.mirrored a proxies hc

end ProxiesAgree

namespace MindChatCore

variable {c : MindChatCore}

theorem accountProxies_setAccountProxies (id k : AccountId) (proxies : List ProxyConfig) :
    (c.setAccountProxies id proxies).2.accountProxies k =
      if k = id ∧ (c.accounts.lookup id).isSome then .ok proxies else c.accountProxies k := by
  unfold setAccountProxies updateAccount accountProxies
  cases ha : c.accounts.lookup id with
  | none => simp
  | some account =>
    simp only [push,Table.lookup_insert_if,Option.isSome_some,and_true]
    split_ifs <;> rfl

theorem accountProxies_deleteAccount (id k : AccountId) :
    (c.deleteAccount id).2.accountProxies k =
      if k = id then .error (.unknownAccount k) else c.accountProxies k := by
  unfold deleteAccount accountProxies
  by_cases ha : (c.accounts.lookup id).isNone
  · rw [if_pos ha]
    split_ifs with hk
    · rw [hk,Option.isNone_iff_eq_none.mp ha]
    · rfl
  · rw [if_neg ha]
    simp only [push]
    rw [accounts_foldl accounts_removeConversationState,Table.lookup_erase_if]
    split_ifs <;> rfl

end MindChatCore

theorem setAccountProxies_cases {c : MindChatCore} {a b : Int64} {assigned proxies : List ProxyConfig}
    (h : (c.setAccountProxies (toULong a) assigned).2.accountProxies (toULong b) = .ok proxies) :
    (b = a ∧ proxies = assigned) ∨ (b ≠ a ∧ c.accountProxies (toULong b) = .ok proxies) := by
  rw [accountProxies_setAccountProxies] at h
  by_cases hb : b = a
  · subst hb
    refine .inl ⟨rfl,?_⟩
    split_ifs at h with hk
    · cases h
      rfl
    · rw [not_and] at hk
      rw [accountProxies,Option.not_isSome_iff_eq_none.mp (hk rfl)] at h
      cases h
  · rw [if_neg fun hk => hb (toULong_injective hk.1)] at h
    exact .inr ⟨hb,h⟩

/-- The core after the accounts were told to connect directly. -/
def clearedProxies (c : MindChatCore) (accounts : List Int64) : MindChatCore :=
  accounts.foldl (fun c a => (c.setAccountProxies (toULong a) []).2) c

theorem accountProxies_clearedProxies (c : MindChatCore) (accounts : List Int64) {a : Int64}
    {proxies : List ProxyConfig} (h : (clearedProxies c accounts).accountProxies (toULong a) = .ok proxies) :
    (a ∈ accounts ∧ proxies = []) ∨ (a ∉ accounts ∧ c.accountProxies (toULong a) = .ok proxies) := by
  induction accounts generalizing c with
  | nil => exact .inr ⟨List.not_mem_nil,h⟩
  | cons b rest ih =>
    rcases ih _ h with ⟨hin,hp⟩ | ⟨hout,hp⟩
    · exact .inl ⟨List.mem_cons_of_mem _ hin,hp⟩
    · rcases setAccountProxies_cases hp with ⟨rfl,hnil⟩ | ⟨hab,hold⟩
      · exact .inl ⟨List.mem_cons_self,hnil⟩
      · exact .inr ⟨List.not_mem_cons_of_ne_of_not_mem hab hout,hold⟩

namespace ProxiesAgree

variable {book : ProxyBook} {c : MindChatCore}

theorem deleteProxy (h : ProxiesAgree book c) {proxyId : String} (hin : proxyId ∈ book.ids) :
    ProxiesAgree (book.deleteProxy proxyId)
      (clearedProxies c (book.assignments.retain fun _ id => id = proxyId).keys) := by
  have hknown : ¬ ∀ entry ∈ book.library, entry.id ≠ proxyId := by
    obtain ⟨entry,he,hid⟩ := List.mem_map.mp hin
    exact fun hn => hn entry he hid
  unfold ProxyBook.deleteProxy
  rw [if_neg hknown]
  have kept {x : String} (hx : x ≠ proxyId) :
      (book.library.filter fun entry => entry.id ≠ proxyId).find? (fun entry => entry.id = x) =
        book.library.find? fun entry => entry.id = x := by
    rw [List.find?_filter]
    congr 1
    funext entry
    by_cases he : entry.id = x
    · simp [he,hx]
    · simp [he]
  refine h.reassign ?_ (fun a x ha => ?_) fun a proxies hp => ?_
  · exact h.distinct.sublist (List.Sublist.map _ List.filter_sublist)
  · simp only [ProxyBook.writeAssignments,Table.lookup_retain,Option.filter_eq_some_iff] at ha
    obtain ⟨entry,he,rfl⟩ := List.mem_map.mp (h.assigned a x ha.1)
    exact List.mem_map.mpr ⟨entry,List.mem_filter.mpr ⟨he,ha.2⟩,rfl⟩
  · have hassigned : a ∈ (book.assignments.retain fun _ id => id = proxyId).keys ↔
        book.assignments.lookup a = some proxyId := by
      rw [← AList.mem_keys,← AList.lookup_isSome,Table.lookup_retain,Option.isSome_filter,Option.any_eq_true]
      constructor
      · rintro ⟨x,hx,he⟩
        rw [hx,of_decide_eq_true he]
      · exact fun hx => ⟨proxyId,hx,by simp⟩
    unfold ProxyBook.assignedConfigs ProxyBook.assignedEntry ProxyBook.writeAssignments ProxyBook.writeLibrary
    simp only [Table.lookup_retain]
    rcases accountProxies_clearedProxies c _ hp with ⟨ha,rfl⟩ | ⟨ha,hp⟩
    · rw [hassigned.mp ha]
      simp [Option.filter]
    · rw [hassigned] at ha
      refine .inr ⟨?_,hp⟩
      cases hx : book.assignments.lookup a with
      | none => rfl
      | some x =>
        have hne : x ≠ proxyId := fun he => ha (he ▸ hx)
        simp only [Option.filter,hne,ne_eq,not_false_eq_true,decide_true,if_true,Option.bind_some,kept hne]

theorem eraseAssignment (h : ProxiesAgree book c) (a : Int64) {d : MindChatCore}
    (hd : ∀ b proxies, d.accountProxies (toULong b) = .ok proxies →
      (b = a ∧ proxies = []) ∨ (b ≠ a ∧ c.accountProxies (toULong b) = .ok proxies)) :
    ProxiesAgree (book.writeAssignments (book.assignments.erase a)) d := by
  refine h.reassign h.distinct (fun b x hb => ?_) fun b proxies hp => ?_
  · simp only [ProxyBook.writeAssignments,Table.lookup_erase_if] at hb
    split_ifs at hb
    exact h.assigned b x hb
  · unfold ProxyBook.assignedConfigs ProxyBook.assignedEntry ProxyBook.writeAssignments
    simp only [Table.lookup_erase_if]
    rcases hd b proxies hp with ⟨rfl,rfl⟩ | ⟨hb,hp⟩
    · rw [if_pos rfl]
      exact .inl rfl
    · rw [if_neg hb]
      exact .inr ⟨rfl,hp⟩

theorem assign (h : ProxiesAgree book c) (a : Int64) {entry : ProxyLibraryEntry}
    (he : entry ∈ book.library) {d : MindChatCore}
    (hd : ∀ b proxies, d.accountProxies (toULong b) = .ok proxies →
      (b = a ∧ proxies = [entry.toConfig.toFfi]) ∨ (b ≠ a ∧ c.accountProxies (toULong b) = .ok proxies)) :
    ProxiesAgree (book.writeAssignments (book.assignments.insert a entry.id)) d := by
  refine h.reassign h.distinct (fun b x hb => ?_) fun b proxies hp => ?_
  · simp only [ProxyBook.writeAssignments,Table.lookup_insert_if] at hb
    split_ifs at hb
    · cases hb
      exact List.mem_map.mpr ⟨entry,he,rfl⟩
    · exact h.assigned b x hb
  · unfold ProxyBook.assignedConfigs ProxyBook.assignedEntry ProxyBook.writeAssignments
    simp only [Table.lookup_insert_if]
    rcases hd b proxies hp with ⟨rfl,rfl⟩ | ⟨hb,hp⟩
    · rw [if_pos rfl,Option.bind_some,ProxyBook.find_of_mem h.distinct he]
      exact .inl rfl
    · rw [if_neg hb]
      exact .inr ⟨rfl,hp⟩

end ProxiesAgree

def GatewayCall.ofProxies {T : Type} : GatewayCall T → Bool
  | .addProxy _ | .updateProxy .. | .deleteProxy _ | .pingProxy .. | .setAccountProxy ..
  | .deleteAccount .. => true
  | _ => false

/-- An update does not change the configuration of an entry that a known account
has, and the numbers for new ids have not come round. -/
def GatewayCall.KeepsMirror {T : Type} (call : GatewayCall T) (s : NativeGateway T) : Prop :=
  match call with
  | .addProxy config => (validateProxyConfig config).isSome ∨ NumbersLeft s.book.library
  | .updateProxy proxyId config =>
    (validateProxyConfig config).isSome ∨ ProxiesAgree.Unmoved s.book s.core proxyId config
  | _ => True

namespace NativeGateway

variable {T : Type} {s t : NativeGateway T} {reply : Reply}

theorem performs_refresh {next : GatewayProc T} (h : (refresh next).Performs s reply t) :
    next.Performs { s with gateway := s.gateway.refreshWith s.core.snapshot } reply t := by
  unfold refresh refreshWith at h
  simpa using h

theorem performs_refresh_ret {r : Reply} (h : (refresh (.ret r)).Performs s reply t) :
    t.book = s.book ∧ t.core.accounts = s.core.accounts := by
  obtain ⟨-,rfl⟩ := Proc.performs_ret.mp (performs_refresh h)
  exact ⟨rfl,rfl⟩

theorem performs_addProxy {config : UiProxyConfig} (h : (addProxy config).Performs s reply t) :
    t.book = s.book.addProxy config ∧ t.core.accounts = s.core.accounts := by
  unfold addProxy at h
  split at h
  · next hv =>
    obtain ⟨-,rfl⟩ := Proc.performs_ret.mp h
    rw [ProxyBook.addProxy,if_pos hv]
    exact ⟨rfl,rfl⟩
  · exact performs_refresh_ret (Proc.performs_modify.mp h)

theorem performs_updateProxy {proxyId : String} {config : UiProxyConfig}
    (h : (updateProxy proxyId config).Performs s reply t) :
    t.book = s.book.updateProxy proxyId config ∧ t.core.accounts = s.core.accounts := by
  unfold updateProxy at h
  split at h
  · next hv =>
    obtain ⟨-,rfl⟩ := Proc.performs_ret.mp h
    rw [ProxyBook.updateProxy,if_pos hv]
    exact ⟨rfl,rfl⟩
  · rw [Proc.performs_read] at h
    split at h
    · exact performs_refresh_ret (Proc.performs_modify.mp h)
    · next hv hn =>
      obtain ⟨-,rfl⟩ := Proc.performs_ret.mp h
      have hnone : ∀ entry ∈ t.book.library, entry.id ≠ proxyId := by simpa using hn
      rw [ProxyBook.updateProxy,if_neg hv,if_pos hnone]
      exact ⟨rfl,rfl⟩

theorem performs_pingProxy {proxyId : String} {outcome : Option (Except ProxyError Unit × ℕ)}
    (h : (pingProxy proxyId outcome).Performs s reply t) :
    t.book = s.book.pingProxy proxyId outcome ∧ t.core.accounts = s.core.accounts := by
  unfold pingProxy at h
  rw [Proc.performs_read] at h
  split at h
  · next hn =>
    obtain ⟨-,rfl⟩ := Proc.performs_ret.mp h
    rw [ProxyBook.pingProxy,hn]
    exact ⟨rfl,rfl⟩
  · exact performs_refresh_ret (Proc.performs_modify.mp h)

theorem performs_clearProxies {next : GatewayProc T} {accounts : List Int64}
    (h : (clearProxies next accounts).Performs s reply t) :
    next.Performs (s.withSession { s.session with core := clearedProxies s.core accounts }) reply t := by
  induction accounts generalizing s with
  | nil => exact h
  | cons a rest ih =>
    have hr := Proc.performs_act.mp h
    dsimp only at hr
    split at hr
    · exact ih (Proc.performs_mark.mp hr)
    · exact ih hr

/-- After a call that keeps the mirror, the copies still agree. -/
theorem agree_deleteProxy {proxyId : String} (hs : ProxiesAgree s.book s.core)
    (h : (deleteProxy proxyId).Performs s reply t) : ProxiesAgree t.book t.core := by
  unfold deleteProxy at h
  rw [Proc.performs_read] at h
  split at h
  · next hk =>
    have hin : proxyId ∈ s.book.ids := by
      obtain ⟨entry,he,hid⟩ := List.any_eq_true.mp hk
      exact List.mem_map.mpr ⟨entry,he,of_decide_eq_true hid⟩
    rw [Proc.performs_modify,Proc.performs_read,Proc.performs_modify] at h
    obtain ⟨hb,hc⟩ := performs_refresh_ret (performs_clearProxies h)
    have hknown : ¬ ∀ entry ∈ s.book.library, entry.id ≠ proxyId := by simpa using hk
    have hagree := hs.deleteProxy hin
    rw [ProxyBook.deleteProxy,if_neg hknown] at hagree
    exact hb ▸ hagree.of_accounts hc
  · obtain ⟨-,rfl⟩ := Proc.performs_ret.mp h
    exact hs

theorem performs_marked {E B : Type} {answer : Except E B → Reply} {r : Except E B}
    (h : (marked answer r : GatewayProc T).Performs s reply t) :
    t.book = s.book ∧ t.core.accounts = s.core.accounts := by
  cases r with
  | error e => exact performs_refresh_ret h
  | ok b => exact performs_refresh_ret (Proc.performs_mark.mp h)

theorem assignProxy_cases (accountId : Int64) (config : UiProxyConfig) (c : MindChatCore) :
    assignProxy accountId config c = (none,c) ∨
      assignProxy accountId config c =
        (some (),(c.setAccountProxies (toULong accountId) [config.toFfi]).2) := by
  unfold assignProxy ProxyConfig.new
  cases validateHost config.toFfi.host with
  | error e => exact .inl rfl
  | ok u =>
    by_cases hp : config.toFfi.port = 0
    · exact .inl (by simp only [hp,if_true])
    · simp only [hp,if_false]
      cases hset : c.setAccountProxies (toULong accountId) [config.toFfi] with
      | mk r d =>
        cases r with
        | error e => exact .inl (by rw [setAccountProxies_error hset])
        | ok u => exact .inr rfl

theorem agree_setAccountProxy {accountId : Int64} {config : Option UiProxyConfig}
    (hs : ProxiesAgree s.book s.core) (h : (setAccountProxy accountId config).Performs s reply t) :
    ProxiesAgree t.book t.core := by
  unfold setAccountProxy at h
  cases config with
  | none =>
    rw [Proc.performs_modify] at h
    obtain ⟨hb,hc⟩ := performs_marked (Proc.performs_act.mp h)
    exact hb ▸ (hs.eraseAssignment accountId fun b proxies hp => setAccountProxies_cases hp).of_accounts hc
  | some config =>
    dsimp only at h
    split at h
    · obtain ⟨-,rfl⟩ := Proc.performs_ret.mp h
      exact hs
    · rw [Proc.performs_read] at h
      split at h
      · obtain ⟨-,rfl⟩ := Proc.performs_ret.mp h
        exact hs
      · next entry previous hfound =>
        obtain ⟨hentry,rfl⟩ := Prod.mk.inj hfound
        have he := List.mem_of_find?_eq_some hentry
        have hconfig : entry.toConfig = config := by
          simpa using List.find?_some hentry
        rw [Proc.performs_modify] at h
        have hr := Proc.performs_act.mp h
        rcases assignProxy_cases accountId config s.core with ha | ha
        · simp only [core_withBook,ha] at hr
          obtain ⟨hb,hc⟩ := performs_refresh_ret (Proc.performs_modify.mp hr)
          have hback (assigned : Table Int64 String) : ProxiesAgree
              ((s.book.writeAssignments assigned).writeAssignments s.book.assignments) s.core :=
            ⟨hs.distinct,hs.assigned,hs.mirrored⟩
          exact hb ▸ (hback _).of_accounts hc
        · simp only [core_withBook,ha] at hr
          obtain ⟨hb,hc⟩ := performs_refresh_ret (Proc.performs_mark.mp hr)
          have hassign := hs.assign accountId he (d := (s.core.setAccountProxies (toULong accountId)
            [config.toFfi]).2) fun b proxies hp => hconfig ▸ setAccountProxies_cases hp
          exact hb ▸ hassign.of_accounts hc

theorem agree_deleteAccount [XmppTransport T] {accountId : Int64} {tracked : T → Bool}
    (hs : ProxiesAgree s.book s.core) (h : (deleteAccount accountId tracked).Performs s reply t) :
    ProxiesAgree t.book t.core := by
  have hr := Proc.performs_act.mp h
  obtain ⟨hcore,hknown⟩ := deleteAccount_spec s.session (toULong accountId) (tracked s.session.transport)
  dsimp only at hr
  rcases hdel : MindChatCoreHandle.deleteAccount s.session (toULong accountId)
    (tracked s.session.transport) with ⟨r,k⟩
  rw [hdel] at hr hcore hknown
  cases r with
  | error e =>
    obtain ⟨hb,hc⟩ := performs_refresh_ret hr
    have hk : k.core = s.core := by
      have hnone : (s.core.accounts.lookup (toULong accountId)).isNone := by
        rw [Option.isNone_iff_eq_none,← Option.not_isSome_iff_eq_none]
        exact fun hsome => by cases hknown.mpr hsome
      rw [hcore,MindChatCore.deleteAccount,if_pos hnone]
    exact hb ▸ hs.of_accounts (hc.trans (congrArg MindChatCore.accounts hk))
  | ok u =>
    simp only [Proc.performs_modify,Proc.performs_mark] at hr
    obtain ⟨-,rfl⟩ := Proc.performs_ret.mp (Proc.performs_modify.mp (performs_refresh hr))
    refine (hs.eraseAssignment accountId (d := k.core) fun b proxies hp => ?_).of_accounts rfl
    rw [hcore,accountProxies_deleteAccount] at hp
    split_ifs at hp with he
    · exact .inr ⟨fun hb => he (congrArg toULong hb),hp⟩

end NativeGateway

structure NoProxies {T : Type} (s : NativeGateway T) : Prop where
  library : s.book.library = []
  assignments : s.book.assignments = ∅
  accounts : ∀ id proxies, s.core.accountProxies id = .ok proxies → proxies = []

theorem NoProxies.agree {T : Type} {s : NativeGateway T} (h : NoProxies s) : ProxiesAgree s.book s.core := by
  have hnone (a : Int64) : s.book.assignments.lookup a = none := by rw [h.assignments]; rfl
  refine ⟨?_,fun a proxyId ha => ?_,fun a proxies hp => ?_⟩
  · rw [ProxyBook.ids,h.library]
    exact List.nodup_nil
  · rw [hnone] at ha
    cases ha
  · rw [h.accounts _ _ hp,ProxyBook.assignedConfigs,ProxyBook.assignedEntry,hnone]
    rfl

variable {T : Type} [XmppTransport T]

def ProxyStep (s : NativeGateway T) (call : GatewayCall T) (t : NativeGateway T) : Prop :=
  call.ofProxies = true ∧ ∃ reply, call.body.Performs s reply t

theorem ProxyStep.agree {s t : NativeGateway T} {call : GatewayCall T} (h : ProxyStep s call t)
    (hk : call.KeepsMirror s) (hs : ProxiesAgree s.book s.core) : ProxiesAgree t.book t.core := by
  obtain ⟨hof,reply,hp⟩ := h
  cases call with
  | addProxy config =>
    obtain ⟨hb,hc⟩ := NativeGateway.performs_addProxy hp
    exact hb ▸ (hs.addProxy hk).of_accounts hc
  | updateProxy proxyId config =>
    obtain ⟨hb,hc⟩ := NativeGateway.performs_updateProxy hp
    exact hb ▸ (hs.updateProxy hk).of_accounts hc
  | deleteProxy proxyId => exact NativeGateway.agree_deleteProxy hs hp
  | pingProxy proxyId outcome =>
    obtain ⟨hb,hc⟩ := NativeGateway.performs_pingProxy hp
    exact hb ▸ (hs.pingProxy proxyId outcome).of_accounts hc
  | setAccountProxy accountId config => exact NativeGateway.agree_setAccountProxy hs hp
  | deleteAccount accountId tracked => exact NativeGateway.agree_deleteAccount hs hp
  | _ => cases hof

/-- In every run of the calls that change proxies, from an empty library, the library,
the assignments and the core agree, if no update changes the configuration of an
assigned entry and the numbers for new ids have not come round. -/
theorem proxies_agree (calls : List (GatewayCall T)) (s t : NativeGateway T) (hs : NoProxies s)
    (hr : Transition.Run
      (Transition.Meeting (fun s call => GatewayCall.KeepsMirror call s) ProxyStep) s calls t) :
    ProxiesAgree t.book t.core :=
  hr.invariant (I := fun s => ProxiesAgree s.book s.core) (fun _ _ _ h hst => hst.2.agree hst.1 h) hs.agree

def oneAccount : NativeGateway TokioXmppTransport :=
  { NativeGateway.installed TokioXmppTransport.new with
    gateway := .start ⟨(MindChatCore.default.addAccount ⟨"ada@host","host","Ada"⟩).2,TokioXmppTransport.new⟩ }

theorem noProxies_oneAccount : NoProxies oneAccount where
  library := rfl
  assignments := rfl
  accounts id proxies h := by
    unfold accountProxies at h
    split at h
    · next account ha =>
      cases h
      have hlookup : oneAccount.core.accounts.lookup id =
          if id = 1 then some (AccountSetup.fresh ⟨"ada@host","host","Ada"⟩ 1) else none :=
        Table.lookup_insert_if ∅ 1 id _
      rw [hlookup] at ha
      split_ifs at ha
      cases ha
      rfl
    · cases h

theorem proxyStep_perform (call : GatewayCall T) (h : call.ofProxies = true) (s : NativeGateway T) :
    ProxyStep s call (call.body.perform false s).2 :=
  ⟨h,_,Proc.performs_perform false call.body s⟩

def oldProxy : UiProxyConfig := ⟨"old.example",1080,.socks5⟩
def newProxy : UiProxyConfig := ⟨"new.example",1080,.socks5⟩

theorem updated_proxy_disagrees :
    ¬ ∀ calls (s t : NativeGateway TokioXmppTransport), NoProxies s → Transition.Run ProxyStep s calls t →
      ProxiesAgree t.book t.core := by
  intro h
  have hr := Transition.Run.cons (proxyStep_perform (.addProxy oldProxy) rfl oneAccount) <|
    .cons (proxyStep_perform (.setAccountProxy 1 (some oldProxy)) rfl _) <|
    .cons (proxyStep_perform (.updateProxy "p1" newProxy) rfl _) (.nil _)
  have hm := (h _ _ _ noProxies_oneAccount hr).mirrored 1 [oldProxy.toFfi] (by decide +kernel)
  revert hm
  decide +kernel

theorem proxies_agree_assigned : ∃ t : NativeGateway TokioXmppTransport,
    t.core.accountProxies 1 = .ok [oldProxy.toFfi] ∧ ProxiesAgree t.book t.core := by
  have hadd := proxyStep_perform (.addProxy oldProxy) rfl oneAccount
  have hset := proxyStep_perform (.setAccountProxy 1 (some oldProxy)) rfl
    ((NativeGateway.addProxy oldProxy).perform false oneAccount).2
  have hkeeps : (GatewayCall.addProxy oldProxy).KeepsMirror oneAccount :=
    .inr fun hmax => absurd hmax (by decide +kernel)
  exact ⟨_,by decide +kernel,proxies_agree _ oneAccount _ noProxies_oneAccount
    (.cons ⟨hkeeps,hadd⟩ (.cons (And.intro (by trivial) hset) (.nil _)))⟩

end MindChat
