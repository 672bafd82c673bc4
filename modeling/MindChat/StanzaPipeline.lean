import MindChat.StreamWrites
import Mathlib.Data.List.Range
import Mathlib.Data.List.Sublists
import Mathlib.Data.List.Perm.Subperm

/-! What a stanza stream is for: stanzas go in at one end and are handled at the other,
each at most once and those of one stream in their order, and their tokens tell how far
they are. -/

namespace MindChat.StanzaStream

variable {ε : Type}

/-- What the peer has handled with the numbers of the streams, what was given up and may
still come in, what is on the way, and the tokens. -/
structure Pipeline (ε : Type) where
  handled : List (ℕ × QueueEntry ε)
  strays : List (ℕ × QueueEntry ε)
  rest : List (QueueEntry ε)
  tokens : Tokens

def numbers (entries : List (QueueEntry ε)) : List ℕ := entries.filterMap QueueEntry.token

/-- The entries that someone follows, as their stanzas with their numbers. -/
def followed (entries : List (QueueEntry ε)) : List (Stanza ε × ℕ) :=
  entries.filterMap fun entry => entry.token.map (entry.stanza,·)

/-- Some of what is given up may still come in on its stream. -/
def Astray (n : ℕ) (gone : List (QueueEntry ε)) (strays strays' : List (ℕ × QueueEntry ε)) : Prop :=
  ∃ astray, astray.Sublist gone ∧ strays'.Perm (strays ++ astray.map (n,·)) ∧
    ∀ m, under m strays' = under m strays ++ if m = n then astray else []

/-- What may happen to the stanzas in a pipeline. Only where `lossy` allows it they get
lost, or fail although they serialise. -/
inductive Flow (lib : Library ε) (lossy : Prop) : Pipeline ε → Pipeline ε → Prop
  /-- The stream sends a stanza of its own. -/
  | insert {p : Pipeline ε} {front back : List (QueueEntry ε)} (stanza : Stanza ε)
      (h : p.rest = front ++ back) :
      Flow lib lossy p { p with rest := front ++ .untracked stanza :: back }
  | sent {p : Pipeline ε} {entry : QueueEntry ε} (h : entry ∈ p.rest) :
      Flow lib lossy p { p with tokens := p.tokens.sendReplace entry .sent }
  | arrive {p : Pipeline ε} {n : ℕ} {entry : QueueEntry ε} {rest : List (QueueEntry ε)}
      (h : p.rest = entry :: rest) (hs : under n p.strays = []) :
      Flow lib lossy p { p with handled := p.handled ++ [(n,entry)], rest := rest }
  | stray {p : Pipeline ε} {n : ℕ} {entry : QueueEntry ε} {front back : List (ℕ × QueueEntry ε)}
      (h : p.strays = front ++ (n,entry) :: back) (hs : under n front = []) :
      Flow lib lossy p { p with handled := p.handled ++ [(n,entry)], strays := front ++ back }
  | acked {p : Pipeline ε} {entry : QueueEntry ε} (h : entry ∈ p.handled.map Prod.snd) :
      Flow lib lossy p { p with tokens := p.tokens.sendReplace entry .acked }
  | fail {p : Pipeline ε} {front back : List (QueueEntry ε)} {entry : QueueEntry ε}
      (h : p.rest = front ++ entry :: back) {error : OpaqueIoError}
      (hl : lossy ∨ lib.serialise entry.stanza = some error) :
      Flow lib lossy p { p with
        rest := front ++ back, tokens := p.tokens.sendReplace entry (.failed error) }
  | lose {p : Pipeline ε} {n : ℕ} {gone rest : List (QueueEntry ε)} {strays : List (ℕ × QueueEntry ε)}
      (hl : lossy) (h : p.rest = gone ++ rest) (hs : Astray n gone p.strays strays) :
      Flow lib lossy p { p with rest := rest, strays := strays }
  /-- What was given up can no longer come in. -/
  | close {p : Pipeline ε} {strays : List (ℕ × QueueEntry ε)} (h : strays.Sublist p.strays) :
      Flow lib lossy p { p with strays := strays }

variable {lib : Library ε}

namespace Pipeline

def start : Pipeline ε := ⟨[],[],[],[]⟩

def submit (p : Pipeline ε) (stanza : Stanza ε) : Pipeline ε := { p with
  rest := p.rest ++ [⟨stanza,some p.tokens.length⟩], tokens := p.tokens ++ [.queued] }

def all (p : Pipeline ε) : List (QueueEntry ε) :=
  p.handled.map Prod.snd ++ p.strays.map Prod.snd ++ p.rest

/-- What has come in on a stream and what may come in on it. -/
def through (n : ℕ) (p : Pipeline ε) : List (QueueEntry ε) :=
  under n p.handled ++ under n p.strays ++ p.rest

end Pipeline

/-- A later state of a stanza: not at an earlier stage, and the same once it is settled. -/
structure StanzaState.Leads (state state' : StanzaState) : Prop where
  stage : state.stage ≤ state'.stage
  settled : state.settled = true → state' = state

theorem StanzaState.Leads.refl (state : StanzaState) : state.Leads state := ⟨Nat.le_refl _,fun _ => rfl⟩

theorem StanzaState.Leads.trans {s t u : StanzaState} (h : s.Leads t) (h' : t.Leads u) : s.Leads u := by
  refine ⟨Nat.le_trans h.stage h'.stage,fun hs => ?_⟩
  obtain rfl := h.settled hs
  exact h'.settled hs

/-- No token goes away or back to an earlier stage, and a settled one stays as it is. -/
def Tokens.Ahead (tokens tokens' : Tokens) : Prop :=
  ∀ (k : ℕ) (state : StanzaState), tokens[k]? = some state →
    ∃ state', tokens'[k]? = some state' ∧ state.Leads state'

namespace Tokens.Ahead

theorem refl (tokens : Tokens) : tokens.Ahead tokens := fun _ state hs => ⟨state,hs,.refl _⟩

theorem trans {t u v : Tokens} (h : t.Ahead u) (h' : u.Ahead v) : t.Ahead v := by
  intro k state hs
  obtain ⟨state₁,hs₁,hle₁⟩ := h k state hs
  obtain ⟨state₂,hs₂,hle₂⟩ := h' k state₁ hs₁
  exact ⟨state₂,hs₂,hle₁.trans hle₂⟩

theorem snoc (tokens : Tokens) (state : StanzaState) : tokens.Ahead (tokens ++ [state]) := by
  intro k state hs
  obtain ⟨hl,-⟩ := List.getElem?_eq_some_iff.mp hs
  exact ⟨state,by rw [List.getElem?_append_left hl]; exact hs,.refl _⟩

end Tokens.Ahead

@[simp] theorem numbers_append (xs ys : List (QueueEntry ε)) :
    numbers (xs ++ ys) = numbers xs ++ numbers ys := List.filterMap_append

theorem numbers_perm {xs ys : List (QueueEntry ε)} (h : xs.Perm ys) : (numbers xs).Perm (numbers ys) :=
  h.filterMap _

theorem numbers_sublist {xs ys : List (QueueEntry ε)} (h : xs.Sublist ys) :
    (numbers xs).Sublist (numbers ys) := h.filterMap _

namespace Astray

variable {n : ℕ} {gone : List (QueueEntry ε)} {strays : List (ℕ × QueueEntry ε)}

theorem nothing (n : ℕ) (gone : List (QueueEntry ε)) (strays : List (ℕ × QueueEntry ε)) :
    Astray n gone strays strays :=
  ⟨[],List.nil_sublist _,by simp,fun m => by simp⟩

theorem everything (n : ℕ) (gone : List (QueueEntry ε)) (strays : List (ℕ × QueueEntry ε)) :
    Astray n gone strays (strays ++ gone.map (n,·)) := by
  refine ⟨gone,.refl _,.refl _,fun m => ?_⟩
  rw [under_append,under_map]
  by_cases h : n = m
  · rw [if_pos h,if_pos h.symm]
  · rw [if_neg h,if_neg (Ne.symm h)]

theorem of_under (h : (under n strays).Sublist gone) : Astray n gone (strays.filter (·.1 ≠ n)) strays := by
  refine ⟨_,h,?_,fun m => ?_⟩
  · clear h
    induction strays with
    | nil => exact .refl _
    | cons item strays ih =>
      obtain ⟨k,entry⟩ := item
      by_cases hk : k = n
      · rw [List.filter_cons_of_neg (by simp [hk]),under_cons,if_pos hk,List.singleton_append,
          List.map_cons,hk]
        exact (ih.cons _).trans List.perm_middle.symm
      · rw [List.filter_cons_of_pos (by simp [hk]),under_cons,if_neg hk,List.nil_append,
          List.cons_append]
        exact ih.cons _
  · rw [under_filter_ne]
    split
    · rename_i hm
      rw [hm,List.nil_append]
    · rw [List.append_nil]

end Astray

@[simp] theorem length_sendReplace (tokens : Tokens) (entry : QueueEntry ε) (state : StanzaState) :
    (tokens.sendReplace entry state).length = tokens.length := by
  unfold Tokens.sendReplace
  cases entry.token <;> simp

theorem getElem?_sendReplace (tokens : Tokens) (entry : QueueEntry ε) (state : StanzaState) (k : ℕ) :
    (tokens.sendReplace entry state)[k]? =
      if entry.token = some k ∧ k < tokens.length then some state else tokens[k]? := by
  unfold Tokens.sendReplace
  cases ht : entry.token with
  | none => simp
  | some token =>
    dsimp only
    rw [List.getElem?_set]
    by_cases hk : token = k
    · subst hk
      by_cases hl : token < tokens.length
      · simp [hl]
      · simp [hl]
    · simp [hk]

theorem eq_or_of_sendReplace {tokens : Tokens} {entry : QueueEntry ε} {state s : StanzaState} {k : ℕ}
    (h : (tokens.sendReplace entry state)[k]? = some s) :
    entry.token = some k ∧ s = state ∨ tokens[k]? = some s := by
  rw [getElem?_sendReplace] at h
  split at h
  · rename_i hk
    exact .inl ⟨hk.1,(Option.some.inj h).symm⟩
  · exact .inr h

theorem getElem?_snoc_queued {tokens : Tokens} {k : ℕ} {state : StanzaState}
    (h : (tokens ++ [.queued])[k]? = some state) : tokens[k]? = some state ∨ state = .queued := by
  rw [List.getElem?_append] at h
  split at h
  · exact .inl h
  · rw [List.getElem?_singleton] at h
    split at h
    · exact .inr (Option.some.inj h).symm
    · cases h

theorem mem_numbers {entries : List (QueueEntry ε)} {entry : QueueEntry ε} {k : ℕ}
    (h : entry ∈ entries) (ht : entry.token = some k) : k ∈ numbers entries :=
  List.mem_filterMap.mpr ⟨entry,h,ht⟩

namespace Pipeline

/-- Followed stanzas are never in two places and on each stream in the order in which they
were numbered, an acknowledged one was handled, and a failed one is nowhere on the way. -/
structure Orderly (p : Pipeline ε) : Prop where
  nodup : (numbers p.all).Nodup
  order : ∀ n, (numbers (p.through n)).Sublist (List.range p.tokens.length)
  acked : ∀ k : ℕ, p.tokens[k]? = some .acked → k ∈ numbers (p.handled.map Prod.snd)
  failed : ∀ (k : ℕ) (error : OpaqueIoError), p.tokens[k]? = some (.failed error) → k ∉ numbers p.all
  dropped : ∀ k : ℕ, p.tokens[k]? ≠ some .dropped

theorem orderly_start : (start : Pipeline ε).Orderly where
  nodup := List.nodup_nil
  order _ := List.nil_sublist _
  acked := by simp [start]
  failed := by simp [start]
  dropped := by simp [start]

theorem numbers_submit (p : Pipeline ε) (stanza : Stanza ε) (front : List (QueueEntry ε)) :
    numbers (front ++ (p.submit stanza).rest) = numbers (front ++ p.rest) ++ [p.tokens.length] := by
  show numbers (front ++ (p.rest ++ [⟨stanza,some p.tokens.length⟩])) = _
  rw [← List.append_assoc,numbers_append]
  rfl

namespace Orderly

variable {p q : Pipeline ε} {lossy : Prop}

theorem notMem_handled (h : p.Orderly) {entry : QueueEntry ε} {k : ℕ} (he : entry ∈ p.rest)
    (hk : entry.token = some k) : k ∉ numbers (p.handled.map Prod.snd) := by
  have hn := h.nodup
  rw [all,numbers_append,numbers_append,List.nodup_append] at hn
  exact fun hm => hn.2.2 k (List.mem_append_left _ hm) k (mem_numbers he hk) rfl

theorem lt_of_all (h : p.Orderly) {k : ℕ} (hk : k ∈ numbers p.all) : k < p.tokens.length := by
  obtain ⟨entry,he,ht⟩ := List.mem_filterMap.mp hk
  have hstream : ∃ n, entry ∈ p.through n := by
    rcases List.mem_append.mp he with he | he
    · rcases List.mem_append.mp he with he | he
      · obtain ⟨⟨n,_⟩,hm,rfl⟩ := List.mem_map.mp he
        exact ⟨n,List.mem_append_left _ (List.mem_append_left _ (mem_under.mpr hm))⟩
      · obtain ⟨⟨n,_⟩,hm,rfl⟩ := List.mem_map.mp he
        exact ⟨n,List.mem_append_left _ (List.mem_append_right _ (mem_under.mpr hm))⟩
    · exact ⟨0,List.mem_append_right _ he⟩
  obtain ⟨n,hm⟩ := hstream
  exact List.mem_range.mp ((h.order n).subset (mem_numbers hm ht))

theorem mem_all_of_rest {entry : QueueEntry ε} {k : ℕ} (he : entry ∈ p.rest)
    (hk : entry.token = some k) : k ∈ numbers p.all :=
  mem_numbers (List.mem_append_right _ he) hk

theorem mem_all_of_handled {entry : QueueEntry ε} {k : ℕ} (he : entry ∈ p.handled.map Prod.snd)
    (hk : entry.token = some k) : k ∈ numbers p.all :=
  mem_numbers (List.mem_append_left _ (List.mem_append_left _ he)) hk

theorem stage_of_rest (h : p.Orderly) {entry : QueueEntry ε} {k : ℕ} {state : StanzaState}
    (he : entry ∈ p.rest) (hk : entry.token = some k) (hs : p.tokens[k]? = some state) :
    state = .queued ∨ state = .sent := by
  cases state with
  | queued => exact .inl rfl
  | sent => exact .inr rfl
  | acked => exact absurd (h.acked k hs) (h.notMem_handled he hk)
  | failed error => exact absurd (mem_all_of_rest he hk) (h.failed k error hs)
  | dropped => exact absurd hs (h.dropped k)

/-- Where no entry comes in, it is enough that the entries and the tokens change
together. -/
theorem shrink (h : p.Orderly) (hl : q.tokens.length = p.tokens.length)
    (hall : (numbers q.all).Subperm (numbers p.all))
    (hthrough : ∀ n, (numbers (q.through n)).Sublist (numbers (p.through n)))
    (hh : ∀ k ∈ numbers (p.handled.map Prod.snd), k ∈ numbers (q.handled.map Prod.snd))
    (ht : ∀ (k : ℕ) (s : StanzaState), q.tokens[k]? = some s → p.tokens[k]? = some s ∨ s = .sent ∨
      s = .acked ∧ k ∈ numbers (q.handled.map Prod.snd) ∨ (∃ e, s = .failed e) ∧ k ∉ numbers q.all) :
    q.Orderly where
  nodup := by
    obtain ⟨l,hp,hs⟩ := hall
    exact hp.nodup (hs.nodup h.nodup)
  order n := hl ▸ (hthrough n).trans (h.order n)
  acked k hk := by
    rcases ht k _ hk with hk | hs | ⟨-,hm⟩ | ⟨⟨e,he⟩,-⟩
    · exact hh k (h.acked k hk)
    · cases hs
    · exact hm
    · cases he
  failed k error hk := by
    rcases ht k _ hk with hk | hs | ⟨hs,-⟩ | ⟨-,hm⟩
    · exact fun hm => h.failed k error hk (hall.subset hm)
    · cases hs
    · cases hs
    · exact hm
  dropped k hk := by
    rcases ht k _ hk with hk | hs | ⟨hs,-⟩ | ⟨⟨e,he⟩,-⟩
    · exact h.dropped k hk
    · cases hs
    · cases hs
    · cases he

theorem submit (h : p.Orderly) (stanza : Stanza ε) : (p.submit stanza).Orderly := by
  have he : numbers (p.submit stanza).all = numbers p.all ++ [p.tokens.length] :=
    numbers_submit p stanza _
  refine ⟨?_,fun n => ?_,fun k hk => ?_,fun k error hk hm => ?_,fun k hk => ?_⟩
  · rw [he,List.nodup_append]
    refine ⟨h.nodup,List.nodup_singleton _,fun k hk l hl => ?_⟩
    rw [List.mem_singleton.mp hl]
    exact (h.lt_of_all hk).ne
  · show (numbers ((p.submit stanza).through n)).Sublist (List.range (p.tokens ++ [_]).length)
    rw [show numbers ((p.submit stanza).through n) = numbers (p.through n) ++ [p.tokens.length] from
      numbers_submit p stanza _,List.length_append,List.length_singleton,List.range_succ]
    exact (h.order n).append (List.Sublist.refl _)
  · exact h.acked k ((getElem?_snoc_queued hk).resolve_right nofun)
  · have hk := (getElem?_snoc_queued hk).resolve_right nofun
    obtain ⟨hl,-⟩ := List.getElem?_eq_some_iff.mp hk
    rw [he,List.mem_append,List.mem_singleton] at hm
    exact hm.elim (h.failed k error hk) fun hm => by omega
  · exact h.dropped k ((getElem?_snoc_queued hk).resolve_right nofun)

theorem arrive (h : p.Orderly) {n : ℕ} {entry : QueueEntry ε} {rest : List (QueueEntry ε)}
    (hr : p.rest = entry :: rest) (hs : under n p.strays = []) :
    ({ p with handled := p.handled ++ [(n,entry)], rest := rest } : Pipeline ε).Orderly := by
  refine h.shrink rfl (numbers_perm ?_).subperm (fun m => ?_) (fun k hk => ?_) fun k s hk => .inl hk
  · show ((p.handled ++ [(n,entry)]).map Prod.snd ++ p.strays.map Prod.snd ++ rest).Perm
      (p.handled.map Prod.snd ++ p.strays.map Prod.snd ++ p.rest)
    rw [hr,List.map_append,List.append_assoc,List.append_assoc,List.append_assoc]
    exact List.Perm.append_left _ (@List.perm_middle _ entry (p.strays.map Prod.snd) rest).symm
  · refine numbers_sublist ?_
    show (under m (p.handled ++ [(n,entry)]) ++ under m p.strays ++ rest).Sublist
      (under m p.handled ++ under m p.strays ++ p.rest)
    rw [under_append,under_cons,hr,under_nil,List.append_nil]
    by_cases hm : n = m
    · subst hm
      simp [hs]
    · simp [hm]
  · rw [List.map_append,numbers_append]
    exact List.mem_append_left _ hk

theorem arriveStray (h : p.Orderly) {n : ℕ} {entry : QueueEntry ε} {front back : List (ℕ × QueueEntry ε)}
    (hr : p.strays = front ++ (n,entry) :: back) (hs : under n front = []) :
    ({ p with handled := p.handled ++ [(n,entry)], strays := front ++ back } : Pipeline ε).Orderly := by
  refine h.shrink rfl (numbers_perm ?_).subperm (fun m => ?_) (fun k hk => ?_) fun k s hk => .inl hk
  · show ((p.handled ++ [(n,entry)]).map Prod.snd ++ (front ++ back).map Prod.snd ++ p.rest).Perm
      (p.handled.map Prod.snd ++ p.strays.map Prod.snd ++ p.rest)
    rw [hr]
    simp only [List.map_append,List.map_cons,List.map_nil,List.append_assoc]
    exact List.Perm.append_left _
      (@List.perm_middle _ entry (front.map Prod.snd) (back.map Prod.snd ++ p.rest)).symm
  · refine numbers_sublist ?_
    show (under m (p.handled ++ [(n,entry)]) ++ under m (front ++ back) ++ p.rest).Sublist
      (under m p.handled ++ under m p.strays ++ p.rest)
    rw [hr]
    simp only [under_append,under_cons,under_nil,List.append_nil]
    by_cases hm : n = m
    · subst hm
      simp [hs]
    · simp [hm]
  · rw [List.map_append,numbers_append]
    exact List.mem_append_left _ hk

/-- The number of a failed entry was in one place only. -/
theorem failEntry (h : p.Orderly) {front back : List (QueueEntry ε)} {entry : QueueEntry ε}
    (hr : p.rest = front ++ entry :: back) (error : OpaqueIoError) :
    ({ p with
      rest := front ++ back, tokens := p.tokens.sendReplace entry (.failed error) } : Pipeline ε).Orderly := by
  have hsub : ∀ xs : List (QueueEntry ε), (xs ++ (front ++ back)).Sublist (xs ++ p.rest) := by
    intro xs
    rw [hr]
    simp
  refine h.shrink (length_sendReplace _ _ _) (numbers_sublist (hsub _)).subperm
    (fun _ => numbers_sublist (hsub _)) (fun _ hk => hk) fun k s hk => ?_
  refine (eq_or_of_sendReplace hk).symm.imp_right fun ⟨ht,hs⟩ => .inr (.inr ⟨⟨error,hs⟩,?_⟩)
  have hn := h.nodup
  rw [all,hr,← List.append_assoc,numbers_append] at hn
  have hc : numbers (entry :: back) = k :: numbers back := by simp [numbers,ht]
  rw [hc,List.nodup_append] at hn
  show k ∉ numbers (p.handled.map Prod.snd ++ p.strays.map Prod.snd ++ (front ++ back))
  rw [← List.append_assoc,numbers_append,List.mem_append]
  rintro (hm | hm)
  · exact hn.2.2 k hm k List.mem_cons_self rfl
  · exact (List.nodup_cons.mp hn.2.1).1 hm

theorem lose (h : p.Orderly) {n : ℕ} {gone rest : List (QueueEntry ε)} {strays : List (ℕ × QueueEntry ε)}
    (hr : p.rest = gone ++ rest) (hs : Astray n gone p.strays strays) :
    ({ p with rest := rest, strays := strays } : Pipeline ε).Orderly := by
  obtain ⟨astray,hsub,hperm,hunder⟩ := hs
  refine h.shrink rfl ?_ (fun m => ?_) (fun _ hk => hk) fun k s hk => .inl hk
  · have hp : (p.handled.map Prod.snd ++ strays.map Prod.snd ++ rest).Perm
        (p.handled.map Prod.snd ++ p.strays.map Prod.snd ++ (astray ++ rest)) := by
      have hm := hperm.map Prod.snd
      rw [List.map_append,List.map_map,@List.map_id'' _ (Prod.snd ∘ (n,·)) fun _ => rfl] at hm
      rw [List.append_assoc,List.append_assoc,← List.append_assoc (p.strays.map _)]
      exact List.Perm.append_left _ (hm.append_right _)
    refine (numbers_perm hp).subperm.trans (numbers_sublist ?_).subperm
    rw [all,hr]
    exact (List.Sublist.refl _).append (hsub.append (List.Sublist.refl _))
  · refine numbers_sublist ?_
    show (under m p.handled ++ under m strays ++ rest).Sublist
      (under m p.handled ++ under m p.strays ++ p.rest)
    rw [hunder m,hr,← List.append_assoc,List.append_assoc _ _ rest]
    refine (List.Sublist.refl _).append (List.Sublist.append ?_ (List.Sublist.refl _))
    split
    · exact hsub
    · exact List.nil_sublist _

theorem step (h : p.Orderly) (hf : Flow lib lossy p q) : q.Orderly := by
  cases hf with
  | @insert front back stanza hr =>
    have hn : ∀ xs : List (QueueEntry ε), numbers (xs ++ (front ++ .untracked stanza :: back)) =
        numbers (xs ++ p.rest) := by
      intro xs
      simp [hr,numbers,QueueEntry.untracked]
    refine h.shrink rfl ?_ (fun n => ?_) (fun _ hk => hk) fun k s hk => .inl hk
    · exact (List.Perm.of_eq (hn _)).subperm
    · have hm : numbers (through n { p with rest := front ++ .untracked stanza :: back }) =
          numbers (p.through n) := hn _
      rw [hm]
  | sent he =>
    refine h.shrink (length_sendReplace _ _ _) (.refl _) (fun _ => List.Sublist.refl _) (fun _ hk => hk) ?_
    exact fun k s hk => (eq_or_of_sendReplace hk).symm.imp_right fun ⟨_,hs⟩ => .inl hs
  | arrive hr hs => exact h.arrive hr hs
  | stray hr hs => exact h.arriveStray hr hs
  | acked he =>
    refine h.shrink (length_sendReplace _ _ _) (.refl _) (fun _ => List.Sublist.refl _) (fun _ hk => hk) ?_
    exact fun k s hk => (eq_or_of_sendReplace hk).symm.imp_right fun ⟨ht,hs⟩ =>
      .inr (.inl ⟨hs,mem_numbers he ht⟩)
  | @fail front back entry hr error hl => exact h.failEntry hr error
  | lose hl hr hs => exact h.lose hr hs
  | @close strays hs =>
    have hall : (p.handled.map Prod.snd ++ strays.map Prod.snd ++ p.rest).Sublist p.all :=
      ((List.Sublist.refl _).append (hs.map _)).append (List.Sublist.refl _)
    refine h.shrink rfl (numbers_sublist hall).subperm (fun m => numbers_sublist ?_) (fun _ hk => hk)
      fun k s hk => .inl hk
    exact ((List.Sublist.refl _).append (hs.filterMap _)).append (List.Sublist.refl _)

theorem leads (h : p.Orderly) (hf : Flow lib lossy p q) {k : ℕ} {s : StanzaState}
    (hs : p.tokens[k]? = some s) : ∃ s', q.tokens[k]? = some s' ∧ s.Leads s' := by
  have hset : ∀ (entry : QueueEntry ε) (state : StanzaState),
      (entry.token = some k → s.Leads state) →
      ∃ s', (p.tokens.sendReplace entry state)[k]? = some s' ∧ s.Leads s' := by
    intro entry state hle
    rw [getElem?_sendReplace]
    split
    · rename_i hk
      exact ⟨state,rfl,hle hk.1⟩
    · exact ⟨s,hs,.refl s⟩
  cases hf with
  | insert stanza hr => exact ⟨s,hs,.refl s⟩
  | sent he =>
    refine hset _ _ fun hk => ?_
    rcases h.stage_of_rest he hk hs with rfl | rfl
    · exact ⟨by decide,nofun⟩
    · exact .refl _
  | arrive hr => exact ⟨s,hs,.refl s⟩
  | @acked entry he =>
    refine hset _ _ fun hk => ?_
    cases s with
    | failed error => exact absurd (mem_all_of_handled he hk) (h.failed k error hs)
    | dropped => exact absurd hs (h.dropped k)
    | queued => exact ⟨by decide,nofun⟩
    | sent => exact ⟨by decide,nofun⟩
    | acked => exact .refl _
  | fail hr hl =>
    refine hset _ _ fun hk => ?_
    rcases h.stage_of_rest (by rw [hr]; simp) hk hs with rfl | rfl
    · exact ⟨Nat.zero_le _,nofun⟩
    · exact ⟨Nat.le_add_left 1 2,nofun⟩
  | stray hr hs' => exact ⟨s,hs,.refl s⟩
  | lose hl hr => exact ⟨s,hs,.refl s⟩
  | close hs' => exact ⟨s,hs,.refl s⟩

end Orderly

/-- The token does not say that its stanza failed. -/
def notFailed (tokens : Tokens) (k : ℕ) : Bool :=
  match tokens[k]? with
  | some (.failed _) => false
  | _ => true

/-- Every stanza that did not fail was handled or is on its way, and none has gone astray. -/
structure Complete (p : Pipeline ε) : Prop where
  strays : p.strays = []
  all : numbers p.all = (List.range p.tokens.length).filter (notFailed p.tokens)

theorem notFailed_sendReplace (tokens : Tokens) (entry : QueueEntry ε) (state : StanzaState) (k : ℕ) :
    notFailed (tokens.sendReplace entry state) k =
      if entry.token = some k ∧ k < tokens.length then decide (state.stage ≠ .failed)
      else notFailed tokens k := by
  unfold notFailed
  rw [getElem?_sendReplace]
  by_cases hk : entry.token = some k ∧ k < tokens.length
  · simp only [if_pos hk]
    cases state <;> simp [StanzaState.stage]
  · simp only [if_neg hk]

namespace Complete

variable {p q : Pipeline ε}

theorem start : (Pipeline.start : Pipeline ε).Complete := ⟨rfl,rfl⟩

theorem submit (h : p.Complete) (stanza : Stanza ε) : (p.submit stanza).Complete := by
  refine ⟨h.strays,?_⟩
  show numbers (p.submit stanza).all =
    (List.range (p.tokens ++ [_]).length).filter (notFailed (p.tokens ++ [_]))
  rw [show numbers (p.submit stanza).all = numbers p.all ++ [p.tokens.length] from
    numbers_submit p stanza _]
  have hold : (List.range p.tokens.length).filter (notFailed (p.tokens ++ [.queued])) =
      (List.range p.tokens.length).filter (notFailed p.tokens) := by
    refine List.filter_congr fun k hk => ?_
    rw [notFailed,notFailed,List.getElem?_append_left (List.mem_range.mp hk)]
  have hnew : notFailed (p.tokens ++ [.queued]) p.tokens.length = true := by
    simp [notFailed]
  rw [List.length_append,List.length_singleton,List.range_succ,List.filter_append,hold,← h.all,
    List.filter_singleton,hnew]
  rfl

theorem of_sendReplace (h : p.Complete) {entry : QueueEntry ε} {state : StanzaState}
    (hs : state.stage ≠ .failed) (he : ∀ k, entry.token = some k → k ∈ numbers p.all) :
    Complete { p with tokens := p.tokens.sendReplace entry state } := by
  refine ⟨h.strays,?_⟩
  show numbers p.all = (List.range (p.tokens.sendReplace entry state).length).filter _
  rw [length_sendReplace,h.all]
  refine List.filter_congr fun k _ => ?_
  show notFailed p.tokens k = notFailed (p.tokens.sendReplace entry state) k
  rw [notFailed_sendReplace]
  split
  · rename_i hk
    have hm := he k hk.1
    rw [h.all] at hm
    simp [hs,(List.mem_filter.mp hm).2]
  · rfl

theorem fail (ho : p.Orderly) (h : p.Complete) {front back : List (QueueEntry ε)}
    {entry : QueueEntry ε} (hr : p.rest = front ++ entry :: back) (error : OpaqueIoError) :
    Complete { p with
      rest := front ++ back, tokens := p.tokens.sendReplace entry (.failed error) } := by
  refine ⟨h.strays,?_⟩
  generalize hf : p.handled.map Prod.snd ++ p.strays.map Prod.snd ++ front = before
  have hall : p.all = before ++ entry :: back := by
    rw [Pipeline.all,hr,← hf,← List.append_assoc]
  show numbers (p.handled.map Prod.snd ++ p.strays.map Prod.snd ++ (front ++ back)) =
    (List.range (p.tokens.sendReplace entry (.failed error)).length).filter _
  rw [length_sendReplace,← List.append_assoc,hf]
  cases ht : entry.token with
  | none =>
    have hn : numbers (before ++ back) = numbers p.all := by
      rw [hall]
      simp [numbers,ht]
    have htk : p.tokens.sendReplace entry (.failed error) = p.tokens := by
      unfold Tokens.sendReplace
      rw [ht]
    rw [hn,htk,h.all]
  | some k =>
    have hn := ho.nodup
    have hc : numbers p.all = numbers before ++ k :: numbers back := by
      rw [hall,numbers_append]
      simp [numbers,ht]
    have hlt : k < p.tokens.length :=
      ho.lt_of_all (hc ▸ List.mem_append_right _ List.mem_cons_self)
    have hfilter : (List.range p.tokens.length).filter
        (notFailed (p.tokens.sendReplace entry (.failed error))) =
        (numbers p.all).filter (fun j => j ≠ k) := by
      rw [h.all,List.filter_filter]
      refine List.filter_congr fun j _ => ?_
      rw [notFailed_sendReplace,ht]
      by_cases hj : j = k
      · subst hj
        simp [hlt,StanzaState.stage]
      · have hjk : ¬ (some k = some j ∧ j < p.tokens.length) := fun hh => hj (Option.some.inj hh.1).symm
        rw [if_neg hjk]
        simp [hj]
    rw [hfilter,hc]
    rw [hc,List.nodup_append,List.nodup_cons] at hn
    have hfront : (numbers before).filter (fun j => j ≠ k) = numbers before := by
      refine List.filter_eq_self.mpr fun j hj => ?_
      simpa using hn.2.2 j hj k List.mem_cons_self
    have hback : (numbers back).filter (fun j => j ≠ k) = numbers back := by
      refine List.filter_eq_self.mpr fun j hj => ?_
      simp only [ne_eq,decide_not,Bool.not_eq_true',decide_eq_false_iff_not]
      rintro rfl
      exact hn.2.1.1 hj
    rw [List.filter_append,hfront,List.filter_cons_of_neg (by simp),hback,numbers_append]

theorem step {lossy : Prop} (hn : ¬ lossy) (hf : Flow lib lossy p q) (ho : p.Orderly) (h : p.Complete) :
    q.Complete := by
  cases hf with
  | @insert front back stanza hr =>
    refine ⟨h.strays,.trans ?_ h.all⟩
    simp [Pipeline.all,hr,numbers,QueueEntry.untracked]
  | sent he => exact h.of_sendReplace (by decide) fun k hk => Orderly.mem_all_of_rest he hk
  | arrive hr hs =>
    refine ⟨h.strays,.trans ?_ h.all⟩
    simp [Pipeline.all,hr,h.strays]
  | stray hr hs =>
    rw [h.strays] at hr
    cases List.append_eq_nil_iff.mp hr.symm |>.2
  | acked he => exact h.of_sendReplace (by decide) fun k hk => Orderly.mem_all_of_handled he hk
  | @fail _ _ _ hr error _ => exact fail ho h hr error
  | lose hl _ => exact absurd hl hn
  | @close strays hs =>
    obtain rfl : strays = [] := List.sublist_nil.mp (h.strays ▸ hs)
    refine ⟨rfl,.trans ?_ h.all⟩
    rw [Pipeline.all,Pipeline.all,h.strays]

end Complete

/-- The numbers are those of the stanzas that went in, one after the other. -/
structure Named (names : List (Stanza ε)) (p : Pipeline ε) : Prop where
  length : names.length = p.tokens.length
  named : ∀ entry ∈ p.all, ∀ k, entry.token = some k → names[k]? = some entry.stanza

namespace Named

variable {p q : Pipeline ε} {names : List (Stanza ε)}

theorem start : (Pipeline.start : Pipeline ε).Named [] := ⟨rfl,fun _ he => nomatch he⟩

theorem submit (h : p.Named names) (stanza : Stanza ε) :
    (p.submit stanza).Named (names ++ [stanza]) where
  length := by
    show (names ++ [stanza]).length = (p.tokens ++ [_]).length
    rw [List.length_append,List.length_append,h.length]
    rfl
  named entry he k hk := by
    change entry ∈ p.handled.map Prod.snd ++ p.strays.map Prod.snd ++ (p.rest ++ [_]) at he
    rw [← List.append_assoc,List.mem_append,List.mem_singleton] at he
    rcases he with he | rfl
    · have hn := h.named entry he k hk
      obtain ⟨hl,-⟩ := List.getElem?_eq_some_iff.mp hn
      rw [List.getElem?_append_left hl]
      exact hn
    · obtain rfl : p.tokens.length = k := Option.some.inj hk
      rw [← h.length]
      exact List.getElem?_concat_length

theorem of_subset (h : p.Named names) (hl : q.tokens.length = p.tokens.length)
    (hall : ∀ entry ∈ q.all, entry ∈ p.all ∨ entry.token = none) : q.Named names where
  length := h.length.trans hl.symm
  named entry he k hk := by
    rcases hall entry he with he | he
    · exact h.named entry he k hk
    · cases he.symm.trans hk

theorem step {lossy : Prop} (h : p.Named names) (hf : Flow lib lossy p q) : q.Named names := by
  cases hf with
  | @insert front back stanza hr =>
    refine h.of_subset rfl fun entry he => ?_
    simp only [all,hr,List.mem_append,List.mem_cons] at he ⊢
    rcases he with he | he | rfl | he
    · exact .inl (.inl he)
    · exact .inl (.inr (.inl he))
    · exact .inr rfl
    · exact .inl (.inr (.inr he))
  | sent he => exact h.of_subset (length_sendReplace _ _ _) fun entry he => .inl he
  | arrive hr hs =>
    refine h.of_subset rfl fun entry he => .inl ?_
    simp only [all,hr,List.map_append,List.map_cons,List.map_nil,List.mem_append,List.mem_cons,
      List.not_mem_nil,or_false] at he ⊢
    tauto
  | stray hr hs =>
    refine h.of_subset rfl fun entry he => .inl ?_
    simp only [all,hr,List.map_append,List.map_cons,List.map_nil,List.mem_append,List.mem_cons,
      List.not_mem_nil,or_false] at he ⊢
    tauto
  | acked he => exact h.of_subset (length_sendReplace _ _ _) fun entry he => .inl he
  | @fail front back failed hr error hl =>
    refine h.of_subset (length_sendReplace _ _ _) fun entry he => .inl ?_
    refine List.Sublist.subset ?_ he
    rw [all,all,hr]
    exact (List.Sublist.refl _).append ((List.Sublist.refl _).append (List.sublist_cons_self _ _))
  | @lose n gone rest strays hl hr hs =>
    obtain ⟨astray,hsub,hperm,-⟩ := hs
    refine h.of_subset rfl fun entry he => .inl ?_
    change entry ∈ p.handled.map Prod.snd ++ strays.map Prod.snd ++ rest at he
    rw [all,hr]
    simp only [List.mem_append] at he ⊢
    rcases he with (he | he) | he
    · exact .inl (.inl he)
    · have hm := (hperm.map Prod.snd).subset he
      rw [List.map_append,List.mem_append,List.map_map] at hm
      rcases hm with hm | hm
      · exact .inl (.inr hm)
      · obtain ⟨e,hea,rfl⟩ := List.mem_map.mp hm
        exact .inr (.inl (hsub.subset hea))
    · exact .inr (.inr he)
  | @close strays hs =>
    refine h.of_subset rfl fun entry he => .inl (List.Sublist.subset ?_ he)
    exact ((List.Sublist.refl _).append (hs.map _)).append (List.Sublist.refl _)

/-- What followed entries are is told by their numbers. -/
theorem followed_eq (h : p.Named names) {entries : List (QueueEntry ε)}
    (he : ∀ entry ∈ entries, entry ∈ p.all) :
    followed entries = (numbers entries).filterMap fun k => names[k]?.map (·,k) := by
  unfold followed numbers
  rw [List.filterMap_filterMap]
  refine List.filterMap_congr fun entry hm => ?_
  cases ht : entry.token with
  | none => rfl
  | some k =>
    show some (entry.stanza,k) = names[k]?.map (·,k)
    rw [h.named entry (he entry hm) k ht]
    rfl

end Named

/-- Only stanzas that do not serialise have failed. -/
def Justified (lib : Library ε) (names : List (Stanza ε)) (p : Pipeline ε) : Prop :=
  ∀ (k : ℕ) (error : OpaqueIoError), p.tokens[k]? = some (.failed error) →
    ∃ stanza, names[k]? = some stanza ∧ lib.serialise stanza = some error

namespace Justified

variable {p q : Pipeline ε} {names : List (Stanza ε)}

theorem start : (Pipeline.start : Pipeline ε).Justified lib [] := fun _ _ hk => nomatch hk

theorem submit (h : p.Justified lib names) (stanza : Stanza ε) :
    (p.submit stanza).Justified lib (names ++ [stanza]) := by
  intro k error hk
  obtain ⟨name,hn,hs⟩ := h k error ((getElem?_snoc_queued hk).resolve_right nofun)
  obtain ⟨hl,-⟩ := List.getElem?_eq_some_iff.mp hn
  exact ⟨name,by rw [List.getElem?_append_left hl]; exact hn,hs⟩

theorem step {lossy : Prop} (hn : ¬ lossy) (hf : Flow lib lossy p q) (hp : p.Named names)
    (h : p.Justified lib names) : q.Justified lib names := by
  intro k error hk
  cases hf with
  | insert stanza hr => exact h k error hk
  | sent he => exact h k error ((eq_or_of_sendReplace hk).resolve_left nofun)
  | arrive hr => exact h k error hk
  | stray hr => exact h k error hk
  | acked he => exact h k error ((eq_or_of_sendReplace hk).resolve_left nofun)
  | @fail front back entry hr _ hl =>
    rcases eq_or_of_sendReplace hk with ⟨ht,he⟩ | hk
    · cases he
      have hm : entry ∈ p.all := by simp [all,hr]
      exact ⟨entry.stanza,hp.named entry hm k ht,hl.resolve_left hn⟩
    · exact h k error hk
  | lose hl hr => exact absurd hl hn
  | close hs => exact h k error hk

end Justified

theorem zipIdx_eq_filterMap (names : List (Stanza ε)) :
    names.zipIdx = (List.range names.length).filterMap fun k => names[k]?.map (·,k) := by
  induction names using List.reverseRecOn with
  | nil => rfl
  | append_singleton names stanza ih =>
    have hold : (List.range names.length).filterMap (fun k => (names ++ [stanza])[k]?.map (·,k)) =
        (List.range names.length).filterMap fun k => names[k]?.map (·,k) := by
      refine List.filterMap_congr fun k hk => ?_
      rw [List.getElem?_append_left (List.mem_range.mp hk)]
    rw [List.length_append,List.length_singleton,List.range_succ,List.filterMap_append,hold,← ih,
      List.zipIdx_append]
    simp

variable {p : Pipeline ε} {names : List (Stanza ε)}

theorem mem_all_of_under {n : ℕ} {entry : QueueEntry ε} (h : entry ∈ under n p.handled) :
    entry ∈ p.all :=
  List.mem_append_left _ (List.mem_append_left _ (List.mem_map.mpr ⟨_,mem_under.mp h,rfl⟩))

/-- What was handled on one stream are stanzas that went in, in their order. -/
theorem Orderly.followed_under (h : p.Orderly) (hn : p.Named names) (n : ℕ) :
    (followed (under n p.handled)).Sublist names.zipIdx := by
  rw [hn.followed_eq fun entry he => mem_all_of_under he,zipIdx_eq_filterMap,hn.length]
  refine List.Sublist.filterMap _ (.trans ?_ (h.order n))
  rw [through,numbers_append,numbers_append]
  exact (List.sublist_append_left _ _).trans (List.sublist_append_left _ _)

theorem Orderly.followed_nodup (h : p.Orderly) : (followed (p.handled.map Prod.snd)).Nodup := by
  refine List.Nodup.of_map Prod.snd ?_
  have hn := h.nodup
  rw [all,numbers_append,numbers_append] at hn
  have hm : (followed (p.handled.map Prod.snd)).map Prod.snd = numbers (p.handled.map Prod.snd) := by
    rw [followed,numbers,List.map_filterMap]
    refine List.filterMap_congr fun entry _ => ?_
    cases entry.token <;> rfl
  rw [hm]
  exact (List.nodup_append.mp (List.nodup_append.mp hn).1).1

/-- Where nothing is lost, they and those on their way are all but the failed ones. -/
theorem Complete.followed_all (h : p.Complete) (hn : p.Named names) :
    followed (p.handled.map Prod.snd) ++ followed p.rest =
      names.zipIdx.filter fun x => notFailed p.tokens x.2 := by
  have hall : followed (p.handled.map Prod.snd) ++ followed p.rest = followed p.all := by
    rw [Pipeline.all,h.strays,List.map_nil,List.append_nil]
    exact List.filterMap_append.symm
  rw [hall,hn.followed_eq fun entry he => he,h.all,zipIdx_eq_filterMap,hn.length,
    List.filter_filterMap,List.filterMap_filter]
  refine List.filterMap_congr fun k hk => ?_
  obtain ⟨name,hk⟩ : ∃ name, names[k]? = some name :=
    ⟨_,List.getElem?_eq_getElem (hn.length ▸ List.mem_range.mp hk)⟩
  rw [hk]
  cases hf : notFailed p.tokens k <;> simp [hf,Option.filter]

end Pipeline

/-- Any number of changes to a pipeline. -/
abbrev Flows (lib : Library ε) (lossy : Prop) : Pipeline ε → Pipeline ε → Prop :=
  Relation.ReflTransGen (Flow lib lossy)

namespace Flows

open Pipeline

variable {lossy : Prop} {p q : Pipeline ε}

theorem ackAll {entries : List (QueueEntry ε)}
    (h : ∀ entry ∈ entries, entry ∈ p.handled.map Prod.snd) :
    Flows lib lossy p { p with tokens := p.tokens.sendReplaceAll entries .acked } := by
  induction entries generalizing p with
  | nil => exact .refl
  | cons entry entries ih =>
    refine .trans (.single (.acked (h entry List.mem_cons_self))) ?_
    exact ih (p := { p with tokens := p.tokens.sendReplace entry .acked })
      fun e he => h e (List.mem_cons_of_mem _ he)

theorem failAll (hl : lossy) {front back : List (QueueEntry ε)} (h : p.rest = front ++ back)
    (error : OpaqueIoError) : Flows lib lossy p { p with
      rest := front, tokens := p.tokens.sendReplaceAll back (.failed error) } := by
  induction back generalizing p with
  | nil =>
    have hp : { p with rest := front } = p := by rw [← List.append_nil front,← h]
    exact (congrArg (Flows lib lossy p) hp).mpr .refl
  | cons entry back ih =>
    have hf : Flow lib lossy p { p with
      rest := front ++ back, tokens := p.tokens.sendReplace entry (.failed error) } := .fail h (.inl hl)
    refine .trans (.single hf) ?_
    exact ih (p := { p with
      rest := front ++ back, tokens := p.tokens.sendReplace entry (.failed error) }) rfl

theorem orderly (h : Flows lib lossy p q) (ho : p.Orderly) : q.Orderly := by
  induction h with
  | refl => exact ho
  | tail _ hf ih => exact ih.step hf

theorem complete (hn : ¬ lossy) (h : Flows lib lossy p q) (ho : p.Orderly) (hc : p.Complete) :
    q.Complete := by
  induction h with
  | refl => exact hc
  | tail hpre hf ih => exact .step hn hf (orderly hpre ho) ih

theorem named {names : List (Stanza ε)} (h : Flows lib lossy p q) (hn : p.Named names) :
    q.Named names := by
  induction h with
  | refl => exact hn
  | tail _ hf ih => exact ih.step hf

theorem justified {names : List (Stanza ε)} (hn : ¬ lossy) (h : Flows lib lossy p q)
    (hp : p.Named names) (hj : p.Justified lib names) : q.Justified lib names := by
  induction h with
  | refl => exact hj
  | tail hpre hf ih => exact .step hn hf (named hpre hp) ih

theorem ahead (h : Flows lib lossy p q) (ho : p.Orderly) : p.tokens.Ahead q.tokens := by
  induction h with
  | refl => exact .refl _
  | tail hpre hf ih => exact ih.trans fun _ _ hs => (orderly hpre ho).leads hf hs

end Flows

end MindChat.StanzaStream
