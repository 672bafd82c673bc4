import MindChat.ProxyLibrary
import MindChat.Transition

/-! The calls that change the proxy library, side by side: each looks at the library,
a ping then waits for its probe, and each reads the library again before it assigns
the changed list. Entries carry the configuration that their result was measured for. -/

namespace MindChat

def ProxyStatus.tested (status : ProxyStatus) : Bool :=
  status.latencyMs.isSome || status.error.isSome

def ProxyProbeResult.status (result : ProxyProbeResult) : ProxyStatus :=
  ⟨if result.ok then result.latencyMs else none,result.error⟩

structure MeasuredEntry where
  entry : ProxyLibraryEntry
  measuredFor : Option UiProxyConfig
  deriving DecidableEq

/-- A recorded status was measured for the host, port and kind of the entry. -/
def MeasuredEntry.Accurate (e : MeasuredEntry) : Prop :=
  e.entry.status.tested = true → e.measuredFor = some e.entry.toConfig

/-- What a call does to the list that it reads before it assigns. -/
inductive LibraryEdit
  | add (id : String) (config : UiProxyConfig)
  | update (proxyId : String) (config : UiProxyConfig)
  | delete (proxyId : String)
  | record (proxyId : String) (config : UiProxyConfig) (outcome : Option (Except ProxyError Unit × ℕ))

def LibraryEdit.apply (library : List MeasuredEntry) : LibraryEdit → List MeasuredEntry
  | .add id config => library ++ [⟨config.entry id,none⟩]
  | .update proxyId config =>
    library.map fun e => if e.entry.id = proxyId then ⟨config.entry proxyId,none⟩ else e
  | .delete proxyId => library.filter fun e => e.entry.id ≠ proxyId
  | .record proxyId config outcome =>
    library.map fun e =>
      if e.entry.id = proxyId then
        ⟨{ e.entry with status := (testProxy config outcome).status },some config⟩
      else e

/-- A call under way: a probe that runs, an edit that is decided, or a list that was
read and is to be assigned with the edit done. -/
inductive ProxyTask
  | probing (proxyId : String) (config : UiProxyConfig)
  | decided (edit : LibraryEdit)
  | assigning (edit : LibraryEdit) (library : List MeasuredEntry)
  | done

inductive LibraryCall
  | addProxy (config : UiProxyConfig)
  | updateProxy (proxyId : String) (config : UiProxyConfig)
  | deleteProxy (proxyId : String)
  | pingProxy (proxyId : String)

/-- What the call finds at its first look at the library. -/
def LibraryCall.begin (library : List MeasuredEntry) : LibraryCall → ProxyTask
  | .addProxy config =>
    if (validateProxyConfig config).isSome then .done
    else .decided (.add (nextProxyId (library.map MeasuredEntry.entry)) config)
  | .updateProxy proxyId config =>
    if (validateProxyConfig config).isSome then .done
    else if ∀ e ∈ library, e.entry.id ≠ proxyId then .done
    else .decided (.update proxyId config)
  | .deleteProxy proxyId =>
    if ∀ e ∈ library, e.entry.id ≠ proxyId then .done else .decided (.delete proxyId)
  | .pingProxy proxyId =>
    match library.find? (fun e => e.entry.id = proxyId) with
    | none => .done
    | some e => .probing proxyId e.entry.toConfig

/-- The library of the gateway and the calls on it, finished or not. -/
structure ProbedLibrary where
  library : List MeasuredEntry
  tasks : List ProxyTask

inductive LibraryEvent
  | call (call : LibraryCall)
  | probed (task : ℕ) (outcome : Option (Except ProxyError Unit × ℕ))
  | read (task : ℕ)
  | assign (task : ℕ)

namespace ProbedLibrary

/-- A stored result counts as measured for the entry that it is stored with. -/
def start (library : List ProxyLibraryEntry) : ProbedLibrary :=
  ⟨library.map fun entry => ⟨entry,some entry.toConfig⟩,[]⟩

def step (s : ProbedLibrary) : LibraryEvent → Option ProbedLibrary
  | .call call => some { s with tasks := s.tasks ++ [call.begin s.library] }
  | .probed task outcome =>
    match s.tasks[task]? with
    | some (.probing proxyId config) =>
      some { s with tasks := s.tasks.set task (.decided (.record proxyId config outcome)) }
    | _ => none
  | .read task =>
    match s.tasks[task]? with
    | some (.decided edit) => some { s with tasks := s.tasks.set task (.assigning edit s.library) }
    | _ => none
  | .assign task =>
    match s.tasks[task]? with
    | some (.assigning edit library) => some ⟨edit.apply library,s.tasks.set task .done⟩
    | _ => none

def Step (s : ProbedLibrary) (event : LibraryEvent) (t : ProbedLibrary) : Prop := s.step event = some t

/-- Run to its end at once, a task leaves this list. -/
def finish (outcome : Option (Except ProxyError Unit × ℕ)) (library : List MeasuredEntry) :
    ProxyTask → List MeasuredEntry
  | .probing proxyId config => (LibraryEdit.record proxyId config outcome).apply library
  | .decided edit => edit.apply library
  | .assigning edit read => edit.apply read
  | .done => library

def Accurate (s : ProbedLibrary) : Prop := ∀ e ∈ s.library, e.Accurate

/-- A ping that records its result has read a library whose entry of that id, if there
is one, has the configuration that was probed. -/
def Unchanged (s : ProbedLibrary) : LibraryEvent → Prop
  | .assign task => ∀ proxyId config outcome library,
      s.tasks[task]? = some (.assigning (.record proxyId config outcome) library) →
        ∀ e ∈ library, e.entry.id = proxyId → e.entry.toConfig = config
  | _ => True

/-- The library and every list that was read and not yet assigned are accurate. -/
structure Sound (s : ProbedLibrary) : Prop where
  library : s.Accurate
  tasks : ∀ edit library, .assigning edit library ∈ s.tasks → ∀ e ∈ library, e.Accurate

end ProbedLibrary

theorem testProxy_tested (config : UiProxyConfig) (outcome : Option (Except ProxyError Unit × ℕ)) :
    (testProxy config outcome).status.tested = true := by
  unfold testProxy
  split_ifs with hv
  · rfl
  · cases outcome with
    | none => rfl
    | some measured =>
      obtain ⟨result,elapsedMs⟩ := measured
      cases result with
      | error e => rfl
      | ok u => rfl

namespace LibraryEdit

variable {library : List MeasuredEntry}

theorem accurate_add (h : ∀ e ∈ library, e.Accurate) (id : String) (config : UiProxyConfig) :
    ∀ e ∈ (add id config).apply library, e.Accurate := by
  intro e he
  rcases List.mem_append.mp he with he | he
  · exact h e he
  · obtain rfl := List.mem_singleton.mp he
    exact nofun

theorem accurate_update (h : ∀ e ∈ library, e.Accurate) (proxyId : String) (config : UiProxyConfig) :
    ∀ e ∈ (update proxyId config).apply library, e.Accurate := by
  intro e he
  obtain ⟨old,hold,rfl⟩ := List.mem_map.mp he
  split_ifs
  · exact nofun
  · exact h old hold

theorem accurate_record_iff (h : ∀ e ∈ library, e.Accurate) (proxyId : String) (config : UiProxyConfig)
    (outcome : Option (Except ProxyError Unit × ℕ)) :
    (∀ e ∈ (record proxyId config outcome).apply library, e.Accurate) ↔
      ∀ e ∈ library, e.entry.id = proxyId → e.entry.toConfig = config := by
  constructor
  · intro ha e he hid
    have hm := ha _ (List.mem_map_of_mem he)
    rw [if_pos hid] at hm
    exact (Option.some.inj (hm (testProxy_tested config outcome))).symm
  · intro hc e he
    obtain ⟨old,hold,rfl⟩ := List.mem_map.mp he
    split_ifs with hid
    · intro _
      exact congrArg some (hc old hold hid).symm
    · exact h old hold

end LibraryEdit

namespace ProbedLibrary

variable {s t : ProbedLibrary} {event : LibraryEvent}

theorem sound_start (library : List ProxyLibraryEntry) : (start library).Sound := by
  refine ⟨fun e he _ => ?_,nofun⟩
  obtain ⟨entry,-,rfl⟩ := List.mem_map.mp he
  rfl

def operation (outcome : Option (Except ProxyError Unit × ℕ)) : LibraryCall → ProxyOp
  | .addProxy config => .addProxy config
  | .updateProxy proxyId config => .updateProxy proxyId config
  | .deleteProxy proxyId => .deleteProxy proxyId
  | .pingProxy proxyId => .pingProxy proxyId outcome

theorem map_entry_of_id {proxyId : String} {f : MeasuredEntry → MeasuredEntry}
    {g : ProxyLibraryEntry → ProxyLibraryEntry} (h : ∀ e, (f e).entry = g e.entry)
    (library : List MeasuredEntry) :
    (library.map fun e => if e.entry.id = proxyId then f e else e).map MeasuredEntry.entry =
      (library.map MeasuredEntry.entry).map fun entry => if entry.id = proxyId then g entry else entry := by
  rw [List.map_map,List.map_map]
  refine List.map_congr_left fun e _ => ?_
  by_cases hid : e.entry.id = proxyId
  · simp only [Function.comp_apply,if_pos hid,h]
  · simp only [Function.comp_apply,if_neg hid]

theorem finish_begin {book : ProxyBook} {library : List MeasuredEntry}
    (hb : book.library = library.map MeasuredEntry.entry) (call : LibraryCall)
    (outcome : Option (Except ProxyError Unit × ℕ)) :
    (finish outcome library (call.begin library)).map MeasuredEntry.entry =
      (book.run (operation outcome call)).library := by
  have habsent (proxyId : String) : (∀ entry ∈ book.library, entry.id ≠ proxyId) ↔
      ∀ e ∈ library, e.entry.id ≠ proxyId := by
    rw [hb]
    simp
  cases call with
  | addProxy config =>
    dsimp only [LibraryCall.begin,operation,ProxyBook.run,ProxyBook.addProxy]
    split_ifs
    · exact hb.symm
    · simp [finish,LibraryEdit.apply,ProxyBook.writeLibrary,hb]
  | updateProxy proxyId config =>
    dsimp only [LibraryCall.begin,operation,ProxyBook.run,ProxyBook.updateProxy]
    simp only [habsent]
    split_ifs
    · exact hb.symm
    · exact hb.symm
    · exact (map_entry_of_id (fun _ => rfl) library).trans (by rw [← hb]; rfl)
  | deleteProxy proxyId =>
    dsimp only [LibraryCall.begin,operation,ProxyBook.run,ProxyBook.deleteProxy]
    simp only [habsent]
    split_ifs
    · exact hb.symm
    · simp only [finish,LibraryEdit.apply,ProxyBook.writeLibrary,ProxyBook.writeAssignments,hb,
        List.filter_map]
      rfl
  | pingProxy proxyId =>
    have hfind : book.library.find? (fun entry => entry.id = proxyId) =
        (library.find? fun e => e.entry.id = proxyId).map MeasuredEntry.entry := by
      rw [hb,List.find?_map]
      rfl
    dsimp only [LibraryCall.begin,operation,ProxyBook.run,ProxyBook.pingProxy]
    rw [hfind]
    cases library.find? fun e => e.entry.id = proxyId with
    | none => exact hb.symm
    | some found =>
      exact (map_entry_of_id (fun _ => rfl) library).trans (by rw [← hb]; rfl)

theorem begin_ne_assigning (library read : List MeasuredEntry) (call : LibraryCall) (edit : LibraryEdit) :
    call.begin library ≠ .assigning edit read := by
  cases call with
  | addProxy config =>
    dsimp only [LibraryCall.begin]
    split_ifs <;> exact nofun
  | updateProxy proxyId config =>
    dsimp only [LibraryCall.begin]
    split_ifs <;> exact nofun
  | deleteProxy proxyId =>
    dsimp only [LibraryCall.begin]
    split_ifs <;> exact nofun
  | pingProxy proxyId =>
    dsimp only [LibraryCall.begin]
    split <;> exact nofun

/-- An event assigns the list of a task with its edit done, or it leaves the library,
and then the only new list to assign is the library itself. -/
theorem step_cases (hs : Step s event t) :
    (∃ task edit library, event = .assign task ∧ s.tasks[task]? = some (.assigning edit library) ∧
      t = ⟨edit.apply library,s.tasks.set task .done⟩) ∨
    (∀ task, event ≠ .assign task) ∧ t.library = s.library ∧
      ∀ edit library, .assigning edit library ∈ t.tasks →
        .assigning edit library ∈ s.tasks ∨ library = s.library := by
  unfold Step step at hs
  cases event with
  | call call =>
    cases hs
    refine .inr ⟨nofun,rfl,fun edit library hm => .inl ?_⟩
    rcases List.mem_append.mp hm with hm | hm
    · exact hm
    · exact absurd (List.mem_singleton.mp hm).symm (begin_ne_assigning _ _ call edit)
  | probed task outcome =>
    dsimp only at hs
    split at hs
    · cases hs
      refine .inr ⟨nofun,rfl,fun edit library hm => .inl ?_⟩
      exact (List.mem_or_eq_of_mem_set hm).resolve_right nofun
    · cases hs
  | read task =>
    dsimp only at hs
    split at hs
    · cases hs
      refine .inr ⟨nofun,rfl,fun edit library hm => ?_⟩
      rcases List.mem_or_eq_of_mem_set hm with hm | he
      · exact .inl hm
      · cases he
        exact .inr rfl
    · cases hs
  | assign task =>
    dsimp only at hs
    split at hs
    · rename_i edit library htask
      cases hs
      exact .inl ⟨task,edit,library,rfl,htask,rfl⟩
    · cases hs

/-- The library goes on being accurate if and only if no ping records a result beside
an entry that changed. -/
theorem accurate_step_iff (hi : s.Sound) (hs : Step s event t) : t.Accurate ↔ s.Unchanged event := by
  rcases step_cases hs with ⟨task,edit,library,rfl,htask,rfl⟩ | ⟨hne,hlibrary,-⟩
  · have hread := hi.tasks edit library (List.mem_of_getElem? htask)
    simp only [Accurate,Unchanged,htask,Option.some.injEq,ProxyTask.assigning.injEq]
    cases edit with
    | add id config => exact iff_of_true (LibraryEdit.accurate_add hread id config) nofun
    | update proxyId config => exact iff_of_true (LibraryEdit.accurate_update hread proxyId config) nofun
    | delete proxyId =>
      exact iff_of_true (fun e he => hread e (List.mem_filter.mp he).1) nofun
    | record proxyId config outcome =>
      rw [LibraryEdit.accurate_record_iff hread]
      constructor
      · rintro hc _ _ _ _ ⟨he,rfl⟩
        cases he
        exact hc
      · exact fun hc => hc proxyId config outcome library ⟨rfl,rfl⟩
  · refine iff_of_true (fun e he => hi.library e (hlibrary ▸ he)) ?_
    cases event with
    | assign task => exact absurd rfl (hne task)
    | _ => trivial

theorem Sound.step (hi : s.Sound) (ha : t.Accurate) (hs : Step s event t) : t.Sound := by
  refine ⟨ha,fun edit library hm => ?_⟩
  rcases step_cases hs with ⟨task,_,_,-,-,rfl⟩ | ⟨-,-,htasks⟩
  · exact hi.tasks edit library ((List.mem_or_eq_of_mem_set hm).resolve_right nofun)
  · rcases htasks edit library hm with hm | rfl
    · exact hi.tasks edit library hm
    · exact hi.library

def SafeStep (s : ProbedLibrary) (event : LibraryEvent) (t : ProbedLibrary) : Prop :=
  Step s event t ∧ t.Accurate

/-- From any stored library, the runs in which every recorded status belongs to the
configuration that its entry has are those in which no ping records a result beside
an entry that changed meanwhile. -/
theorem probe_results_current_iff (library : List ProxyLibraryEntry) (events : List LibraryEvent)
    (t : ProbedLibrary) :
    Transition.Run SafeStep (start library) events t ↔
      Transition.Run (Transition.Meeting Unchanged Step) (start library) events t :=
  Transition.Run.leaving_iff_meeting (I := Sound) (fun _ _ _ hi hs => accurate_step_iff hi hs)
    (fun _ _ _ hi hs ha => hi.step ha hs) (sound_start library)

/-- A proxy is edited while its probe runs. -/
def editedWhileProbed : List LibraryEvent :=
  [.call (.addProxy ⟨"old.example",1080,.socks5⟩),.read 0,.assign 0,.call (.pingProxy "p1"),
    .call (.updateProxy "p1" ⟨"new.example",1080,.socks5⟩),.read 2,.assign 2,
    .probed 1 (some (.ok (),42)),.read 1,.assign 1]

/-- The new host has the latency of the old one. -/
theorem stale_result_recorded : ∃ s, Transition.Run Step (start []) editedWhileProbed s ∧
    s.library = [⟨⟨"p1","new.example",1080,.socks5,⟨some 42,none⟩⟩,
      some ⟨"old.example",1080,.socks5⟩⟩] ∧ ¬ s.Accurate := by
  have hrun : (Transition.exec step (start []) editedWhileProbed).map ProbedLibrary.library =
      some [⟨⟨"p1","new.example",1080,.socks5,⟨some 42,none⟩⟩,
        some ⟨"old.example",1080,.socks5⟩⟩] := by
    decide +kernel
  obtain ⟨s,hs,hlibrary⟩ := Option.map_eq_some_iff.mp hrun
  refine ⟨s,Transition.run_iff_exec.mpr hs,hlibrary,fun ha => ?_⟩
  exact absurd (ha _ (hlibrary ▸ List.mem_singleton_self _) rfl) (by decide)

end ProbedLibrary

end MindChat
