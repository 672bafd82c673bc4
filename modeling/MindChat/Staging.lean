import MindChat.Delimited
import MindChat.Persistence

/-! Saves of one state file side by side: every call writes a staging file of its own
and renames it over the path, any step may fail, and any process or the machine may
end between two steps. -/

namespace MindChat

open Json

inductive WriteStage
  | create
  | write (written : ℕ)
  | sync
  | rename
  | remove (error : IoError)
  | returned (result : Except IoError Unit)
  | dead

def WriteStage.running : WriteStage → Bool
  | .returned _ | .dead => false
  | _ => true

/-- A call with the process and the counter in its staging name. -/
structure StagedWrite where
  pid : ℕ
  counter : ℕ
  bytes : Bytes
  stage : WriteStage

def StagedWrite.tmpPath (call : StagedWrite) (path : String) : String :=
  tmpPathFor ⟨call.pid,call.counter,.none⟩ path

/-- The files, those of them with bytes that may not be on the disk, and what the renames
of the path have replaced: no save syncs the directory. -/
structure Files where
  disk : Disk
  unsynced : Finset String
  replaced : List (Option Bytes)

/-- The file after a write at the position `k`. -/
def overwrite (old : Bytes) (k : ℕ) (chunk : Bytes) : Bytes :=
  old.take k ++ List.replicate (k - old.length) 0 ++ chunk ++ old.drop (k + chunk.length)

/-- The next system call of a save. `write_all` writes at least the bytes that are
left in one or more calls; what fails leads to the removal of the staging file. -/
def StagedWrite.advance (path : String) (call : StagedWrite) (outcome : Except IoError ℕ) (files : Files) :
    Option (WriteStage × Files) :=
  let tmp := call.tmpPath path
  match call.stage,outcome with
  | .create,.ok _ =>
    some (.write 0,{ files with disk := files.disk.insert tmp [], unsynced := insert tmp files.unsynced })
  | .write k,.ok n =>
    some (if call.bytes.length ≤ k + n then .sync else .write (k + n),
      match files.disk.lookup tmp with
      | none => files
      | some old =>
        { files with
          disk := files.disk.insert tmp (overwrite old k ((call.bytes.drop k).take n))
          unsynced := insert tmp files.unsynced })
  | .sync,.ok _ => some (.rename,{ files with unsynced := files.unsynced.erase tmp })
  | .rename,.ok _ =>
    match files.disk.lookup tmp with
    | none => some (.remove .notFound,files)
    | some content =>
      let rest := files.unsynced.erase tmp
      some (.returned (.ok ()),
        { disk := (files.disk.erase tmp).insert path content
          unsynced := if tmp ∈ files.unsynced then insert path rest else rest
          replaced := files.disk.lookup path :: files.replaced })
  | .remove e,.ok _ =>
    some (.returned (.error e),
      { files with disk := files.disk.erase tmp, unsynced := files.unsynced.erase tmp })
  | .remove e,.error _ => some (.returned (.error e),files)
  | .create,.error e | .write _,.error e | .sync,.error e | .rename,.error e => some (.remove e,files)
  | .returned _,_ | .dead,_ => none

/-- The files, the staging counter of every process that runs, and all calls so far. -/
structure SaveFloor extends Files where
  counters : ℕ → Option ℕ
  calls : List StagedWrite

inductive SaveStep
  | begin (pid : ℕ) (bytes : Bytes)
  | advance (call : ℕ) (outcome : Except IoError ℕ)
  | crash (pid : ℕ)
  | powerLoss (left : Disk)
  | boot (pid : ℕ)

def StagedWrite.stop (ended : ℕ → Bool) (call : StagedWrite) : StagedWrite :=
  if ended call.pid && call.stage.running then { call with stage := .dead } else call

def SaveFloor.stop (ended : ℕ → Bool) (s : SaveFloor) : SaveFloor :=
  { s with counters := fun pid => if ended pid then none else s.counters pid
           calls := s.calls.map (StagedWrite.stop ended) }

/-- A process counts its calls from 0; its id may be one that was used before. After a
loss of power the path holds what it held last or before a rename when that is on the
disk, and else anything; what the other names hold is left open. -/
def SaveFloor.step (path : String) (s : SaveFloor) : SaveStep → Option SaveFloor
  | .begin pid bytes =>
    (s.counters pid).map fun n =>
      { s with counters := Function.update s.counters pid (some (n + 1))
               calls := s.calls ++ [⟨pid,n,bytes,.create⟩] }
  | .advance i outcome =>
    s.calls[i]?.bind fun call =>
      (call.advance path outcome s.toFiles).map fun r =>
        { s with toFiles := r.2, calls := s.calls.set i { call with stage := r.1 } }
  | .crash pid => some (s.stop (· == pid))
  | .powerLoss left =>
    if path ∈ s.unsynced ∨ left.lookup path ∈ s.disk.lookup path :: s.replaced then
      some { s.stop (fun _ => true) with disk := left, unsynced := ∅, replaced := [] }
    else none
  | .boot pid =>
    if s.counters pid = none then some { s with counters := Function.update s.counters pid (some 0) }
    else none

section Names

open Delimited

theorem plain_digits (n : ℕ) : '.' ∉ (toString n).toList := by
  rw [Nat.toString_eq_repr,Nat.toList_repr]
  intro h
  exact absurd (Nat.isDigit_of_mem_toDigits (by omega) (Nat.le_refl 10) h) (by decide)

theorem digits_inj {m n : ℕ} (h : (toString m).toList = (toString n).toList) : m = n := by
  have hd := congrArg (fun ds => Nat.ofDigitChars 10 ds 0) h
  simpa [Nat.toString_eq_repr,Nat.toList_repr] using hd

/-- The staging name determines the process and the counter. -/
theorem tmpPath_inj {path : String} {a b : StagedWrite} (h : a.tmpPath path = b.tmpPath path) :
    a.pid = b.pid ∧ a.counter = b.counter := by
  have hl := congrArg String.toList h
  simp only [StagedWrite.tmpPath,tmpPathFor,String.toList_append,List.append_assoc,
    List.append_cancel_left_eq] at hl
  have hdot : (".":String).toList = ['.'] := rfl
  simp only [hdot,List.singleton_append] at hl
  have hpid : a.pid = b.pid := by
    have hfirst := congrArg (firstPiece '.') hl
    rw [firstPiece_append,firstPiece_append,if_neg (plain_digits _),if_neg (plain_digits _)] at hfirst
    simp only [firstPiece_cons,if_true,List.append_nil] at hfirst
    exact digits_inj hfirst
  rw [hpid,List.append_cancel_left_eq,List.cons.injEq] at hl
  exact ⟨hpid,digits_inj (List.append_cancel_right hl.2)⟩

end Names

/-- What is written so far stands in the staging file, and is on the disk when the call
comes to rename it. -/
def StagedWrite.Staged (path : String) (files : Files) (call : StagedWrite) : Prop :=
  match call.stage with
  | .write k => k ≤ call.bytes.length ∧ files.disk.lookup (call.tmpPath path) = some (call.bytes.take k)
  | .sync => files.disk.lookup (call.tmpPath path) = some call.bytes
  | .rename => files.disk.lookup (call.tmpPath path) = some call.bytes ∧ call.tmpPath path ∉ files.unsynced
  | _ => True

/-- Where a call stands when nothing else happened since `disk`, and `left` is there now. -/
def StagedWrite.Alone (path : String) (disk : Disk) (call : StagedWrite) (left : Disk) : Prop :=
  let tmp := call.tmpPath path
  match call.stage with
  | .create => left = disk
  | .write k => k ≤ call.bytes.length ∧ left = disk.insert tmp (call.bytes.take k)
  | .sync | .rename => left = disk.insert tmp call.bytes
  | .remove e => ∃ faults : IoFaults, ∀ r, writeAtomic ⟨call.pid,call.counter,{ faults with remove := r }⟩
      path call.bytes disk = (.error (.io e),if r.isSome then left else left.erase tmp)
  | .returned result => ∃ faults, writeAtomic ⟨call.pid,call.counter,faults⟩ path call.bytes disk =
      (result.mapError .io,left)
  | .dead => True

/-- The system calls of one save, when no other is made. -/
def StagedWrite.Runs (path : String) (call : StagedWrite) :
    WriteStage × Files → List (Except IoError ℕ) → WriteStage × Files → Prop :=
  Transition.Run fun r outcome t => ({ call with stage := r.1 } : StagedWrite).advance path outcome r.2 = some t

theorem overwrite_take {bytes : Bytes} {k : ℕ} (hk : k ≤ bytes.length) (n : ℕ) :
    overwrite (bytes.take k) k ((bytes.drop k).take n) = bytes.take (k + n) := by
  have hlen : (bytes.take k).length = k := List.length_take_of_le hk
  have hend (m : ℕ) : (bytes.take k).drop (k + m) = [] := List.drop_of_length_le (by rw [hlen]; omega)
  rw [overwrite,hlen,Nat.sub_self,List.replicate_zero,List.append_nil,List.take_take,Nat.min_self,
    hend,List.append_nil,List.take_add]

section Advance

variable {path : String} {call : StagedWrite} {outcome : Except IoError ℕ} {files files' : Files}
  {stage : WriteStage} {disk : Disk}

theorem tmpPath_ne : call.tmpPath path ≠ path := tmpPathFor_ne

theorem advance_others (h : call.advance path outcome files = some (stage,files')) {name : String}
    (htmp : name ≠ call.tmpPath path) (hpath : name ≠ path) :
    files'.disk.lookup name = files.disk.lookup name ∧ (name ∈ files'.unsynced ↔ name ∈ files.unsynced) := by
  unfold StagedWrite.advance at h
  split at h
  · cases h
    exact ⟨by rw [Table.lookup_insert_if,if_neg htmp],by simp [htmp]⟩
  · cases h
    split
    · exact ⟨rfl,Iff.rfl⟩
    · exact ⟨by rw [Table.lookup_insert_if,if_neg htmp],by simp [htmp]⟩
  · cases h
    exact ⟨rfl,by simp [htmp]⟩
  · dsimp only at h
    split at h
    · cases h
      exact ⟨rfl,Iff.rfl⟩
    · cases h
      refine ⟨by rw [Table.lookup_insert_if,if_neg hpath,Table.lookup_erase_if,if_neg htmp],?_⟩
      split <;> simp [htmp,hpath]
  · cases h
    exact ⟨by rw [Table.lookup_erase_if,if_neg htmp],by simp [htmp]⟩
  all_goals cases h
  all_goals exact ⟨rfl,Iff.rfl⟩

/-- The path changes when the call renames, to all of its bytes, and the call
returns without an error. -/
theorem advance_path (hs : call.Staged path files) (h : call.advance path outcome files = some (stage,files')) :
    (files'.disk.lookup path = files.disk.lookup path ∧ files'.replaced = files.replaced) ∨
      (stage = .returned (.ok ()) ∧ files'.disk.lookup path = some call.bytes ∧
        files'.replaced = files.disk.lookup path :: files.replaced) := by
  have hne : path ≠ call.tmpPath path := tmpPath_ne.symm
  unfold StagedWrite.advance at h
  split at h
  · cases h
    exact .inl ⟨by rw [Table.lookup_insert_if,if_neg hne],rfl⟩
  · cases h
    split
    · exact .inl ⟨rfl,rfl⟩
    · exact .inl ⟨by rw [Table.lookup_insert_if,if_neg hne],rfl⟩
  · cases h
    exact .inl ⟨rfl,rfl⟩
  · next hstage =>
    unfold StagedWrite.Staged at hs
    rw [hstage] at hs
    simp only [hs.1] at h
    cases h
    exact .inr ⟨rfl,by rw [Table.lookup_insert_if,if_pos rfl],rfl⟩
  · cases h
    exact .inl ⟨by rw [Table.lookup_erase_if,if_neg hne],rfl⟩
  all_goals cases h
  all_goals exact .inl ⟨rfl,rfl⟩

theorem advance_synced (hs : call.Staged path files) (h : call.advance path outcome files = some (stage,files'))
    (hp : path ∉ files.unsynced) : path ∉ files'.unsynced := by
  have hne : path ≠ call.tmpPath path := tmpPath_ne.symm
  unfold StagedWrite.advance at h
  split at h
  · cases h
    simp [hne,hp]
  · cases h
    split
    · exact hp
    · simp [hne,hp]
  · cases h
    simp [hp]
  · next hstage =>
    unfold StagedWrite.Staged at hs
    rw [hstage] at hs
    simp only [hs.1,if_neg hs.2] at h
    cases h
    simp [hp]
  · cases h
    simp [hp]
  all_goals cases h
  all_goals exact hp

theorem advance_staged (hs : call.Staged path files) (h : call.advance path outcome files = some (stage,files')) :
    ({ call with stage := stage } : StagedWrite).Staged path files' := by
  unfold StagedWrite.Staged at hs
  unfold StagedWrite.advance at h
  split at h
  · cases h
    exact ⟨Nat.zero_le _,by rw [Table.lookup_insert_if]; exact if_pos rfl⟩
  · next k n hstage =>
    rw [hstage] at hs
    obtain ⟨hk,hlookup⟩ := hs
    simp only [hlookup,overwrite_take hk] at h
    cases h
    by_cases hlast : call.bytes.length ≤ k + n
    · simp only [hlast,if_true,List.take_of_length_le hlast]
      change (files.disk.insert _ _).lookup (call.tmpPath path) = _
      rw [Table.lookup_insert_if,if_pos rfl]
    · simp only [hlast,if_false]
      refine ⟨Nat.le_of_not_le hlast,?_⟩
      change (files.disk.insert _ _).lookup (call.tmpPath path) = _
      rw [Table.lookup_insert_if,if_pos rfl]
  · next hstage =>
    rw [hstage] at hs
    cases h
    exact ⟨hs,Finset.notMem_erase _ _⟩
  · dsimp only at h
    split at h
    · cases h
      trivial
    · cases h
      trivial
  all_goals cases h
  all_goals trivial

theorem advance_alone (ha : call.Alone path disk files.disk)
    (h : call.advance path outcome files = some (stage,files')) :
    ({ call with stage := stage } : StagedWrite).Alone path disk files'.disk := by
  unfold StagedWrite.Alone at ha
  unfold StagedWrite.advance at h
  split at h
  · next hstage =>
    rw [hstage] at ha
    cases h
    refine ⟨Nat.zero_le _,?_⟩
    change files.disk.insert (call.tmpPath path) [] = _
    rw [show files.disk = disk from ha]
    rfl
  · next k n hstage =>
    rw [hstage] at ha
    obtain ⟨hk,hleft⟩ := ha
    have hlookup : files.disk.lookup (call.tmpPath path) = some (call.bytes.take k) := by
      rw [hleft,Table.lookup_insert_if,if_pos rfl]
    have hnext : files.disk.insert (call.tmpPath path) (call.bytes.take (k + n)) =
        disk.insert (call.tmpPath path) (call.bytes.take (k + n)) := by
      rw [hleft,AList.insert_insert]
    simp only [hlookup,overwrite_take hk] at h
    cases h
    by_cases hlast : call.bytes.length ≤ k + n
    · rw [List.take_of_length_le hlast] at hnext ⊢
      simp only [hlast,if_true]
      exact hnext
    · simp only [hlast,if_false]
      exact ⟨Nat.le_of_not_le hlast,hnext⟩
  · next hstage =>
    rw [hstage] at ha
    cases h
    exact ha
  · next hstage =>
    rw [hstage] at ha
    have hlookup : files.disk.lookup (call.tmpPath path) = some call.bytes := by
      rw [show files.disk = _ from ha,Table.lookup_insert_if,if_pos rfl]
    simp only [hlookup] at h
    cases h
    refine ⟨.none,?_⟩
    change (Except.ok (),(disk.erase (call.tmpPath path)).insert path call.bytes) = _
    rw [show files.disk = _ from ha,Table.erase_insert]
    rfl
  · next hstage =>
    rw [hstage] at ha
    obtain ⟨faults,hf⟩ := ha
    cases h
    exact ⟨_,hf none⟩
  · next e e' hstage =>
    rw [hstage] at ha
    obtain ⟨faults,hf⟩ := ha
    cases h
    exact ⟨_,hf (some e')⟩
  · next e hstage =>
    rw [hstage] at ha
    cases h
    refine ⟨{ IoFaults.none with create := some e },fun r => ?_⟩
    rw [← show files.disk = disk from ha]
    rfl
  · next k e hstage =>
    rw [hstage] at ha
    cases h
    refine ⟨{ IoFaults.none with write := some e, written := k },fun r => ?_⟩
    rw [show files.disk = _ from ha.2]
    rfl
  · next e hstage =>
    rw [hstage] at ha
    cases h
    refine ⟨{ IoFaults.none with sync := some e },fun r => ?_⟩
    rw [show files.disk = _ from ha]
    rfl
  · next e hstage =>
    rw [hstage] at ha
    cases h
    refine ⟨{ IoFaults.none with rename := some e },fun r => ?_⟩
    rw [show files.disk = _ from ha]
    rfl
  · cases h
  · cases h

theorem advance_write (call : StagedWrite) (hlookup : files.disk.lookup (call.tmpPath path) = some []) (n : ℕ) :
    ∃ after, after.disk = files.disk.insert (call.tmpPath path) (call.bytes.take n) ∧
      ({ call with stage := .write 0 } : StagedWrite).advance path (.ok n) files =
        some (if call.bytes.length ≤ n then .sync else .write n,after) := by
  let chunk := overwrite [] 0 ((call.bytes.drop 0).take n)
  have hchunk : chunk = call.bytes.take n := by
    have h := overwrite_take (Nat.zero_le call.bytes.length) n
    rw [Nat.zero_add] at h
    exact h
  refine ⟨{ files with
    disk := files.disk.insert (call.tmpPath path) chunk
    unsynced := insert (call.tmpPath path) files.unsynced },by rw [hchunk],?_⟩
  have hfound : files.disk.lookup (({ call with stage := .write 0 } : StagedWrite).tmpPath path) = some [] :=
    hlookup
  simp only [StagedWrite.advance,hfound,Nat.zero_add]
  rfl

theorem advance_rename (call : StagedWrite) {content : Bytes}
    (hlookup : files.disk.lookup (call.tmpPath path) = some content) :
    ∃ after, after.disk = (files.disk.erase (call.tmpPath path)).insert path content ∧
      ({ call with stage := .rename } : StagedWrite).advance path (.ok 0) files =
        some (.returned (.ok ()),after) := by
  let rest := files.unsynced.erase (call.tmpPath path)
  refine ⟨⟨(files.disk.erase (call.tmpPath path)).insert path content,
    if call.tmpPath path ∈ files.unsynced then insert path rest else rest,
    files.disk.lookup path :: files.replaced⟩,rfl,?_⟩
  have hfound : files.disk.lookup (({ call with stage := .rename } : StagedWrite).tmpPath path) =
    some content := hlookup
  simp only [StagedWrite.advance,hfound]
  rfl

theorem runs_written (path : String) (call : StagedWrite) (files : Files) (n : ℕ) :
    ∃ after, after.disk = files.disk.insert (call.tmpPath path) (call.bytes.take n) ∧
      call.Runs path (.create,files) [.ok 0,.ok n]
        (if call.bytes.length ≤ n then .sync else .write n,after) := by
  let created : Files := { files with
    disk := files.disk.insert (call.tmpPath path) []
    unsynced := insert (call.tmpPath path) files.unsynced }
  have hcreated : created.disk.lookup (call.tmpPath path) = some [] := by
    rw [Table.lookup_insert_if,if_pos rfl]
  obtain ⟨after,hdisk,hwrite⟩ := advance_write call hcreated n
  exact ⟨after,hdisk.trans (AList.insert_insert _),.cons rfl (.cons hwrite (.nil _))⟩

section Returns

variable {result : Except IoError Unit} {left : Disk}

theorem runs_failed {e : IoError} {outcomes : List (Except IoError ℕ)}
    (hrun : call.Runs path (.create,files) outcomes (.remove e,files')) (remove : Option IoError)
    (h : (Except.error (PersistenceError.io e),
      if remove.isSome then files'.disk else files'.disk.erase (call.tmpPath path)) =
        (result.mapError PersistenceError.io,left)) :
    ∃ outcomes after, after.disk = left ∧
      call.Runs path (.create,files) outcomes (.returned result,after) := by
  cases result with
  | ok => cases (Prod.mk.inj h).1
  | error e' =>
    cases h
    cases remove with
    | some r =>
      have hkept : call.Runs path (.remove e,files') [.error r] (.returned (.error e),files') :=
        .cons rfl (.nil _)
      exact ⟨_,files',rfl,hrun.append hkept⟩
    | none =>
      let cleared : Files := { files' with
        disk := files'.disk.erase (call.tmpPath path)
        unsynced := files'.unsynced.erase (call.tmpPath path) }
      have hcleared : call.Runs path (.remove e,files') [.ok 0] (.returned (.error e),cleared) :=
        .cons rfl (.nil _)
      exact ⟨_,cleared,rfl,hrun.append hcleared⟩

theorem runs_of_writeAtomic (call : StagedWrite) {faults : IoFaults}
    (h : writeAtomic ⟨call.pid,call.counter,faults⟩ path call.bytes files.disk =
      (result.mapError .io,left)) :
    ∃ outcomes after, after.disk = left ∧
      call.Runs path (.create,files) outcomes (.returned result,after) := by
  unfold writeAtomic at h
  cases hcreate : faults.create with
  | some e =>
    simp only [hcreate] at h
    have hfailed : call.Runs path (.create,files) [.error e] (.remove e,files) := .cons rfl (.nil _)
    exact runs_failed hfailed _ h
  | none =>
    cases hwrite : faults.write with
    | some e =>
      simp only [hcreate,hwrite] at h
      obtain ⟨after,hdisk,hrun⟩ := runs_written path call files faults.written
      have hfailed : call.Runs path
          (if call.bytes.length ≤ faults.written then .sync else .write faults.written,after)
          [.error e] (.remove e,after) := by
        split <;> exact .cons rfl (.nil _)
      exact runs_failed (hrun.append hfailed) _ (hdisk ▸ h)
    | none =>
      obtain ⟨after,hdisk,hrun⟩ := runs_written path call files call.bytes.length
      rw [if_pos (Nat.le_refl _)] at hrun
      rw [List.take_length] at hdisk
      cases hsync : faults.sync with
      | some e =>
        simp only [hcreate,hwrite,hsync] at h
        have hfailed : call.Runs path (.sync,after) [.error e] (.remove e,after) := .cons rfl (.nil _)
        exact runs_failed (hrun.append hfailed) _ (hdisk ▸ h)
      | none =>
        let synced : Files := { after with unsynced := after.unsynced.erase (call.tmpPath path) }
        have hdisk : synced.disk = files.disk.insert (call.tmpPath path) call.bytes := hdisk
        have hsynced : call.Runs path (.sync,after) [.ok 0] (.rename,synced) := .cons rfl (.nil _)
        cases hrename : faults.rename with
        | some e =>
          simp only [hcreate,hwrite,hsync,hrename] at h
          have hfailed : call.Runs path (.rename,synced) [.error e] (.remove e,synced) := .cons rfl (.nil _)
          exact runs_failed ((hrun.append hsynced).append hfailed) _ (hdisk ▸ h)
        | none =>
          simp only [hcreate,hwrite,hsync,hrename,Prod.mk.injEq] at h
          have hlookup : synced.disk.lookup (call.tmpPath path) = some call.bytes := by
            rw [hdisk,Table.lookup_insert_if,if_pos rfl]
          cases result with
          | error e => cases h.1
          | ok =>
            obtain ⟨renamed,hleft,hrename⟩ := advance_rename call hlookup
            refine ⟨_,renamed,?_,(hrun.append hsynced).append (.cons hrename (.nil _))⟩
            rw [hleft,← h.2,hdisk,Table.erase_insert]
            rfl

/-- Whatever its system calls come to, one save does what `writeAtomic` does under some
faults, and under any faults it can come to what `writeAtomic` does. -/
theorem writeAtomic_iff_runs {pid counter : ℕ} {bytes : Bytes} :
    (∃ outcomes after, after.disk = left ∧
      (⟨pid,counter,bytes,.create⟩ : StagedWrite).Runs path (.create,files) outcomes (.returned result,after)) ↔
      ∃ faults, writeAtomic ⟨pid,counter,faults⟩ path bytes files.disk = (result.mapError .io,left) := by
  constructor
  · rintro ⟨outcomes,after,rfl,hrun⟩
    exact hrun.invariant
      (I := fun r => (⟨pid,counter,bytes,r.1⟩ : StagedWrite).Alone path files.disk r.2.disk)
      (fun r outcome t ha hs => advance_alone ha hs)
      (show StagedWrite.Alone path files.disk ⟨pid,counter,bytes,.create⟩ files.disk from rfl)
  · rintro ⟨faults,h⟩
    exact runs_of_writeAtomic ⟨pid,counter,bytes,.create⟩ h

end Returns

end Advance

/-- The calls that run belong to processes that run and have numbers of their own, each
has its staging file to itself, and what the path holds is on the disk. -/
structure SaveFloor.Orderly (path : String) (s : SaveFloor) : Prop where
  counted : ∀ (i : ℕ) (call : StagedWrite), s.calls[i]? = some call → call.stage.running = true →
    ∃ n, s.counters call.pid = some n ∧ call.counter < n
  distinct : ∀ (i j : ℕ) (a b : StagedWrite), s.calls[i]? = some a → s.calls[j]? = some b →
    a.stage.running = true → b.stage.running = true → a.pid = b.pid → a.counter = b.counter → i = j
  staged : ∀ (i : ℕ) (call : StagedWrite), s.calls[i]? = some call → call.Staged path s.toFiles
  synced : path ∉ s.unsynced

def SaveFloor.Held (path : String) (disk : Disk) (s : SaveFloor) (held : Option Bytes) : Prop :=
  held = disk.lookup path ∨
    ∃ call ∈ s.calls, call.stage = .returned (.ok ()) ∧ held = some call.bytes

section

variable {path : String} {files files' : Files} {call : StagedWrite}

theorem staged_of_not_running (h : call.stage.running = false) : call.Staged path files := by
  unfold StagedWrite.Staged
  cases hs : call.stage with
  | write | sync | rename => rw [hs] at h; cases h
  | create | remove | returned | dead => trivial

theorem staged_congr (h : files'.disk.lookup (call.tmpPath path) = files.disk.lookup (call.tmpPath path))
    (hu : call.tmpPath path ∈ files'.unsynced ↔ call.tmpPath path ∈ files.unsynced) :
    call.Staged path files → call.Staged path files' := by
  unfold StagedWrite.Staged
  rw [h,hu]
  exact id

theorem advance_running {outcome : Except IoError ℕ} {r : WriteStage × Files}
    (h : call.advance path outcome files = some r) : call.stage.running = true := by
  cases hs : call.stage with
  | returned | dead => simp only [StagedWrite.advance,hs] at h; cases h
  | create | write | sync | rename | remove => rfl

theorem stop_of_not_running {ended : ℕ → Bool} (h : call.stage.running = false) : call.stop ended = call := by
  simp [StagedWrite.stop,h]

theorem running_of_stop {ended : ℕ → Bool} (h : (call.stop ended).stage.running = true) :
    call.stop ended = call ∧ ended call.pid = false := by
  unfold StagedWrite.stop at h ⊢
  split at h
  · cases h
  · next hn =>
    rw [if_neg hn]
    exact ⟨rfl,by simpa [h] using hn⟩

theorem getElem?_set_cases {calls : List StagedWrite} {i j : ℕ} {new other : StagedWrite}
    (h : (calls.set i new)[j]? = some other) : (j = i ∧ other = new) ∨ (j ≠ i ∧ calls[j]? = some other) := by
  by_cases hj : j = i
  · subst hj
    rw [List.getElem?_set] at h
    simp only [if_true] at h
    split at h <;> cases h
    exact .inl ⟨rfl,rfl⟩
  · rw [List.getElem?_set_ne (Ne.symm hj)] at h
    exact .inr ⟨hj,h⟩

theorem getElem?_append_cases {calls : List StagedWrite} {j : ℕ} {new other : StagedWrite}
    (h : (calls ++ [new])[j]? = some other) :
    (j = calls.length ∧ other = new) ∨ (j < calls.length ∧ calls[j]? = some other) := by
  rcases Nat.lt_or_ge j calls.length with hj | hj
  · rw [List.getElem?_append_left hj] at h
    exact .inr ⟨hj,h⟩
  · rw [List.getElem?_append_right hj,List.getElem?_singleton] at h
    split at h <;> cases h
    exact .inl ⟨by omega,rfl⟩

end

namespace SaveFloor

variable {path : String} {disk : Disk} {s t : SaveFloor}

theorem stop_returned {ended : ℕ → Bool} {i : ℕ} {call : StagedWrite} (hc : s.calls[i]? = some call)
    (hr : call.stage.running = false) : (s.stop ended).calls[i]? = some call := by
  change (s.calls.map (StagedWrite.stop ended))[i]? = some call
  rw [List.getElem?_map,hc,Option.map_some,stop_of_not_running hr]

theorem step_returned {action : SaveStep} (h : s.step path action = some t) {i : ℕ} {call : StagedWrite}
    (hc : s.calls[i]? = some call) {result : Except IoError Unit} (hr : call.stage = .returned result) :
    t.calls[i]? = some call := by
  have hstopped : call.stage.running = false := by rw [hr]; rfl
  cases action with
  | begin pid bytes =>
    obtain ⟨n,-,rfl⟩ := Option.map_eq_some_iff.mp h
    exact (List.getElem?_append_left (List.getElem?_eq_some_iff.mp hc).1).trans hc
  | advance j outcome =>
    obtain ⟨other,hj,hs⟩ := Option.bind_eq_some_iff.mp h
    obtain ⟨r,hadvance,rfl⟩ := Option.map_eq_some_iff.mp hs
    by_cases hij : j = i
    · subst hij
      obtain rfl : other = call := Option.some.inj (hj.symm.trans hc)
      have hrunning := advance_running hadvance
      rw [hr] at hrunning
      cases hrunning
    · exact (List.getElem?_set_ne hij).trans hc
  | crash pid =>
    cases h
    exact stop_returned hc hstopped
  | powerLoss left =>
    simp only [step] at h
    split at h <;> cases h
    exact stop_returned (s := s) hc hstopped
  | boot pid =>
    simp only [step] at h
    split at h <;> cases h
    exact hc

theorem Held.step {held : Option Bytes} (hh : s.Held path disk held) {action : SaveStep}
    (h : s.step path action = some t) : t.Held path disk held := by
  refine hh.imp_right fun ⟨call,hc,hr,hheld⟩ => ⟨call,?_,hr,hheld⟩
  obtain ⟨i,hi⟩ := List.getElem?_of_mem hc
  exact List.mem_of_getElem? (step_returned h hi hr)

theorem orderly_begin (h : s.Orderly path) {pid n : ℕ} (hn : s.counters pid = some n) (bytes : Bytes) :
    Orderly path
      { s with counters := Function.update s.counters pid (some (n + 1))
               calls := s.calls ++ [⟨pid,n,bytes,.create⟩] } := by
  have hbelow (i : ℕ) (call : StagedWrite) (hc : s.calls[i]? = some call)
      (hr : call.stage.running = true) (hp : call.pid = pid) : call.counter < n := by
    obtain ⟨m,hm,hlt⟩ := h.counted i call hc hr
    rw [hp,hn] at hm
    cases hm
    exact hlt
  refine ⟨fun i call hc hr => ?_,fun i j a b ha hb hra hrb hp hcount => ?_,fun i call hc => ?_,h.synced⟩
  · rcases getElem?_append_cases hc with ⟨-,rfl⟩ | ⟨-,hc⟩
    · exact ⟨n + 1,Function.update_self ..,Nat.lt_succ_self n⟩
    · by_cases hp : call.pid = pid
      · exact ⟨n + 1,by rw [hp]; exact Function.update_self ..,Nat.lt_succ_of_lt (hbelow i call hc hr hp)⟩
      · obtain ⟨m,hm,hlt⟩ := h.counted i call hc hr
        exact ⟨m,(Function.update_of_ne hp ..).trans hm,hlt⟩
  · rcases getElem?_append_cases ha with ⟨hi,rfl⟩ | ⟨-,ha⟩
    · rcases getElem?_append_cases hb with ⟨hj,rfl⟩ | ⟨-,hb⟩
      · exact hi.trans hj.symm
      · exact absurd hcount (Nat.ne_of_gt (hbelow j b hb hrb hp.symm))
    · rcases getElem?_append_cases hb with ⟨hj,rfl⟩ | ⟨-,hb⟩
      · exact absurd hcount (Nat.ne_of_lt (hbelow i a ha hra hp))
      · exact h.distinct i j a b ha hb hra hrb hp hcount
  · rcases getElem?_append_cases hc with ⟨-,rfl⟩ | ⟨-,hc⟩
    · trivial
    · exact h.staged i call hc

theorem orderly_advance (h : s.Orderly path) {i : ℕ} {call : StagedWrite} (hc : s.calls[i]? = some call)
    {outcome : Except IoError ℕ} {stage : WriteStage} {files' : Files}
    (ha : call.advance path outcome s.toFiles = some (stage,files')) :
    Orderly path { s with toFiles := files', calls := s.calls.set i { call with stage := stage } } := by
  have hrunning := advance_running ha
  refine ⟨fun j other hj hr => ?_,fun j k a b hj hk hra hrb hp hcount => ?_,fun j other hj => ?_,
    advance_synced (h.staged i call hc) ha h.synced⟩
  · rcases getElem?_set_cases hj with ⟨-,rfl⟩ | ⟨-,hj⟩
    · exact h.counted i call hc hrunning
    · exact h.counted j other hj hr
  · rcases getElem?_set_cases hj with ⟨rfl,rfl⟩ | ⟨-,hja⟩
    · rcases getElem?_set_cases hk with ⟨rfl,rfl⟩ | ⟨-,hkb⟩
      · rfl
      · exact h.distinct j k call b hc hkb hrunning hrb hp hcount
    · rcases getElem?_set_cases hk with ⟨rfl,rfl⟩ | ⟨-,hkb⟩
      · exact h.distinct j k a call hja hc hra hrunning hp hcount
      · exact h.distinct j k a b hja hkb hra hrb hp hcount
  · rcases getElem?_set_cases hj with ⟨-,rfl⟩ | ⟨hne,hj⟩
    · exact advance_staged (h.staged i call hc) ha
    · cases hr : other.stage.running with
      | false => exact staged_of_not_running hr
      | true =>
        have htmp : other.tmpPath path ≠ call.tmpPath path := fun he =>
          hne (h.distinct j i other call hj hc hr hrunning (tmpPath_inj he).1 (tmpPath_inj he).2)
        obtain ⟨hlookup,hunsynced⟩ := advance_others ha htmp tmpPath_ne
        exact staged_congr hlookup hunsynced (h.staged j other hj)

theorem orderly_stop (h : s.Orderly path) (ended : ℕ → Bool) : (s.stop ended).Orderly path := by
  have hold {i : ℕ} {call : StagedWrite} (hc : (s.stop ended).calls[i]? = some call)
      (hr : call.stage.running = true) : s.calls[i]? = some call ∧ ended call.pid = false := by
    change (s.calls.map (StagedWrite.stop ended))[i]? = some call at hc
    rw [List.getElem?_map] at hc
    obtain ⟨old,ho,rfl⟩ := Option.map_eq_some_iff.mp hc
    obtain ⟨he,hend⟩ := running_of_stop hr
    rw [he]
    exact ⟨ho,hend⟩
  refine ⟨fun i call hc hr => ?_,fun i j a b ha hb hra hrb hp hcount => ?_,fun i call hc => ?_,h.synced⟩
  · obtain ⟨ho,hp⟩ := hold hc hr
    obtain ⟨n,hn,hlt⟩ := h.counted i call ho hr
    exact ⟨n,by simp [stop,hp,hn],hlt⟩
  · exact h.distinct i j a b (hold ha hra).1 (hold hb hrb).1 hra hrb hp hcount
  · cases hr : call.stage.running with
    | false => exact staged_of_not_running hr
    | true => exact h.staged i call (hold hc hr).1

/-- After a loss of power no call runs that could rely on what was lost. -/
theorem orderly_powerLoss (h : s.Orderly path) (left : Disk) :
    Orderly path { s.stop (fun _ => true) with disk := left, unsynced := ∅, replaced := [] } := by
  have hstop := orderly_stop h fun _ => true
  refine ⟨hstop.counted,hstop.distinct,fun i call hc => ?_,Finset.notMem_empty _⟩
  refine staged_of_not_running (Bool.eq_false_iff.mpr fun hr => ?_)
  obtain ⟨n,hn,-⟩ := hstop.counted i call hc hr
  cases hn

theorem orderly_boot (h : s.Orderly path) {pid : ℕ} (hn : s.counters pid = none) :
    Orderly path { s with counters := Function.update s.counters pid (some 0) } := by
  refine ⟨fun i call hc hr => ?_,h.distinct,h.staged,h.synced⟩
  obtain ⟨n,hcount,hlt⟩ := h.counted i call hc hr
  have hp : call.pid ≠ pid := fun hp => by rw [hp,hn] at hcount; cases hcount
  exact ⟨n,(Function.update_of_ne hp ..).trans hcount,hlt⟩

theorem Orderly.step (h : s.Orderly path) {action : SaveStep} (hs : s.step path action = some t) :
    t.Orderly path := by
  cases action with
  | begin pid bytes =>
    obtain ⟨n,hn,rfl⟩ := Option.map_eq_some_iff.mp hs
    exact orderly_begin h hn bytes
  | advance i outcome =>
    obtain ⟨call,hc,hs⟩ := Option.bind_eq_some_iff.mp hs
    obtain ⟨⟨stage,files'⟩,hadvance,rfl⟩ := Option.map_eq_some_iff.mp hs
    exact orderly_advance h hc hadvance
  | crash pid =>
    cases hs
    exact orderly_stop h _
  | powerLoss left =>
    simp only [SaveFloor.step] at hs
    split at hs <;> cases hs
    exact orderly_powerLoss h left
  | boot pid =>
    simp only [SaveFloor.step] at hs
    split at hs <;> cases hs
    next hn => exact orderly_boot h hn

/-- A step leaves the path and what was replaced as they are, or renames all bytes of a
call over it, or brings back what is on the disk. -/
theorem held_step (h : s.Orderly path) {action : SaveStep} (hs : s.step path action = some t)
    (hheld : ∀ held ∈ s.disk.lookup path :: s.replaced, s.Held path disk held) :
    ∀ held ∈ t.disk.lookup path :: t.replaced, t.Held path disk held := by
  have hkept : ∀ held ∈ s.disk.lookup path :: s.replaced, t.Held path disk held :=
    fun held hm => (hheld held hm).step hs
  cases action with
  | begin pid bytes =>
    obtain ⟨n,-,rfl⟩ := Option.map_eq_some_iff.mp hs
    exact hkept
  | advance i outcome =>
    obtain ⟨call,hc,hs⟩ := Option.bind_eq_some_iff.mp hs
    obtain ⟨⟨stage,files'⟩,hadvance,rfl⟩ := Option.map_eq_some_iff.mp hs
    rcases advance_path (h.staged i call hc) hadvance with ⟨hlookup,hreplaced⟩ | ⟨hstage,hnew,hreplaced⟩
    · rw [← hlookup,← hreplaced] at hkept
      exact hkept
    · rw [← hreplaced] at hkept
      refine List.forall_mem_cons.mpr ⟨.inr ⟨{ call with stage := stage },?_,hstage,hnew⟩,hkept⟩
      exact List.mem_set (List.getElem?_eq_some_iff.mp hc).1 _
  | crash pid =>
    cases hs
    exact hkept
  | powerLoss left =>
    simp only [SaveFloor.step] at hs
    split at hs <;> cases hs
    next hleft => exact List.forall_mem_singleton.mpr (hkept _ (hleft.resolve_left h.synced))
  | boot pid =>
    simp only [SaveFloor.step] at hs
    split at hs <;> cases hs
    exact hkept

end SaveFloor

def SaveRun (path : String) (s : SaveFloor) (steps : List SaveStep) (t : SaveFloor) : Prop :=
  Transition.Run (fun s a t => SaveFloor.step path s a = some t) s steps t

/-- At every moment the path holds its first content or all that one call wrote, which
then returns without an error, and a call whose step changed the path never returns
an error. -/
theorem state_file_atomic (path : String) (disk : Disk) (counters : ℕ → Option ℕ) :
    (∀ steps s, SaveRun path ⟨⟨disk,∅,[]⟩,counters,[]⟩ steps s →
      s.disk.lookup path = disk.lookup path ∨ ∃ call ∈ s.calls,
        call.stage = .returned (.ok ()) ∧ s.disk.lookup path = some call.bytes) ∧
    ∀ steps later s t u i outcome call, SaveRun path ⟨⟨disk,∅,[]⟩,counters,[]⟩ steps s →
      s.step path (.advance i outcome) = some t → t.disk.lookup path ≠ s.disk.lookup path →
      SaveRun path t later u → u.calls[i]? = some call → ∀ e, call.stage ≠ .returned (.error e) := by
  have hinvariant {steps : List SaveStep} {s : SaveFloor}
      (h : SaveRun path ⟨⟨disk,∅,[]⟩,counters,[]⟩ steps s) :
      s.Orderly path ∧ ∀ held ∈ s.disk.lookup path :: s.replaced, s.Held path disk held :=
    h.invariant (I := fun s => s.Orderly path ∧
        ∀ held ∈ s.disk.lookup path :: s.replaced, s.Held path disk held)
      (fun _ _ _ hi hs => ⟨hi.1.step hs,SaveFloor.held_step hi.1 hs hi.2⟩)
      ⟨⟨nofun,nofun,nofun,Finset.notMem_empty _⟩,List.forall_mem_singleton.mpr (.inl rfl)⟩
  refine ⟨fun steps s hr => ?_,fun steps later s t u i outcome call hr hs hchanged hlater hcall e he => ?_⟩
  · exact (hinvariant hr).2 _ List.mem_cons_self
  · obtain ⟨old,hold,hs⟩ := Option.bind_eq_some_iff.mp hs
    obtain ⟨⟨stage,files'⟩,hadvance,rfl⟩ := Option.map_eq_some_iff.mp hs
    have hstage : stage = .returned (.ok ()) := by
      rcases advance_path ((hinvariant hr).1.staged i old hold) hadvance with hsame | hrenamed
      · exact absurd hsame.1 hchanged
      · exact hrenamed.1
    have hkept := hlater.invariant (I := fun w => w.calls[i]? = some { old with stage := stage })
      (fun _ _ _ hi hw => SaveFloor.step_returned hw hi hstage) (by
        rw [List.getElem?_set,if_pos rfl,if_pos (List.getElem?_eq_some_iff.mp hold).1])
    rw [hkept] at hcall
    cases hcall
    rw [show stage = .returned (.ok ()) from hstage] at he
    cases he

/-- Two saves of one process, of which the second overtakes the first; the machine then
stops while a third one writes. -/
def twoSaves : List SaveStep :=
  [.boot 7,.begin 7 [1,2,3],.advance 0 (.ok 0),.advance 0 (.ok 2),.begin 7 [4,5],.advance 1 (.ok 0),
    .advance 1 (.ok 2),.advance 0 (.ok 1),.advance 1 (.ok 0),.advance 1 (.ok 0),
    .advance 0 (.error (.other "sync")),.advance 0 (.ok 0),.begin 7 [6],.advance 2 (.ok 0),
    .advance 2 (.ok 1),.powerLoss ((∅ : Disk).insert "state" [4,5])]

theorem state_file_atomic_two_saves : ∃ s : SaveFloor, s.disk.lookup "state" = some [4,5] ∧
    (s.disk.lookup "state" = (∅ : Disk).lookup "state" ∨ ∃ call ∈ s.calls,
      call.stage = .returned (.ok ()) ∧ s.disk.lookup "state" = some call.bytes) := by
  have hs : (Transition.exec (SaveFloor.step "state") ⟨⟨∅,∅,[]⟩,fun _ => none,[]⟩ twoSaves).any
      (fun s => decide (s.disk.lookup "state" = some [4,5])) = true := by decide +kernel
  obtain ⟨s,hr,hd⟩ := (Option.any_eq_true _ _).mp hs
  exact ⟨s,of_decide_eq_true hd,
    (state_file_atomic "state" ∅ fun _ => none).1 twoSaves s (Transition.run_iff_exec.mpr hr)⟩

end MindChat
