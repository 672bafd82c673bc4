import MindChat.StreamSafety

/-! The other half: every step of the peer keeps worker and peer together. -/

namespace MindChat.StanzaStream

open ReliableLink
open Polling

variable {ε : Type} {lib : Library ε} {lossy : Prop}

/-- What a peer may do, with the present connection before and after. -/
inductive Served (lossy : Prop) : Peer ε → XmppStream ε → Peer ε → XmppStream ε → Prop
  | takeBound {p : Peer ε} {entry : QueueEntry ε} {up : List (Outgoing ε)} {down : List (Item ε)}
      (hc : p.conn = .bound) : Served lossy p ⟨.stanza entry :: up,down⟩
        { p with log := p.log ++ [(p.stream,entry)] } ⟨up,down⟩
  | takeManaged {p : Peer ε} {s : Session ε} {entry : QueueEntry ε} {up : List (Outgoing ε)}
      {down : List (Item ε)} (hc : p.conn = .managed) (hs : p.session = some s) :
      Served lossy p ⟨.stanza entry :: up,down⟩ { p with
        log := p.log ++ [(s.stream,entry)]
        session := some { s with received := s.received ++ [entry] } } ⟨up,down⟩
  | takeLate {p : Peer ε} {net : XmppStream ε} {n : ℕ} {entry : QueueEntry ε} {left : List (ℕ × QueueEntry ε)}
      (h : takeUnder n p.left = some (entry,left)) : Served lossy p net (p.takeLate n entry left) net
  | streamError {p : Peer ε} {error : StreamError} {up : List (Outgoing ε)} {down : List (Item ε)} :
      Served lossy p ⟨.streamError error :: up,down⟩ p ⟨up,down⟩
  | answer {p : Peer ε} {s : Session ε} {up : List (Outgoing ε)} {down : List (Item ε)}
      (hc : p.conn = .managed) (hs : p.session = some s) :
      Served lossy p ⟨.sm .req :: up,down⟩ p ⟨up,down ++ [ackItem s.count]⟩
  | learn {p : Peer ε} {s : Session ε} {h : BitVec 32} {up : List (Outgoing ε)}
      {down : List (Item ε)} (hc : p.conn = .managed) (hs : p.session = some s) :
      Served lossy p ⟨.sm (.ack h) :: up,down⟩ { p with session := some (s.learn h) } ⟨up,down⟩
  | bind {p : Peer ε} {resource : Option String} {up : List (Outgoing ε)} {down : List (Item ε)}
      (hc : p.conn = .fresh) (payload : ε) : Served lossy p ⟨.bind resource :: up,down⟩
        { p with conn := .bound, stream := p.stream + 1 } ⟨up,down ++ [bindItem payload]⟩
  | enable {p : Peer ε} {max : Option (BitVec 32)} {resume : Bool} {up : List (Outgoing ε)}
      {down : List (Item ε)} (hc : p.conn = .bound) (enabled : Enabled) :
      Served lossy p ⟨.sm (.enable max resume) :: up,down⟩
        { p with conn := .managed, session := some (.new p.stream enabled) }
        ⟨up,down ++ [enabledItem enabled]⟩
  | resume {p : Peer ε} {s : Session ε} {h : BitVec 32} {id : String} {up : List (Outgoing ε)}
      {down : List (Item ε)} (hc : p.conn = .fresh) (hs : p.session = some s) :
      Served lossy p ⟨.sm (.resume h id) :: up,down⟩
        { p with
          conn := .managed, session := some (s.learn h), left := p.left.filter (·.1 ≠ s.stream) }
        ⟨up,down ++ resumedItem (s.learn h).count id :: (s.learn h).sent.drop (s.learn h).acked⟩
  | refuseEnable {p : Peer ε} {max : Option (BitVec 32)} {resume : Bool} {up : List (Outgoing ε)}
      {down : List (Item ε)} (hl : lossy) (hc : p.conn ≠ .managed) :
      Served lossy p ⟨.sm (.enable max resume) :: up,down⟩ p ⟨up,down ++ [failedItem none]⟩
  | refuseResume {p : Peer ε} {h : BitVec 32} {id : String} {n : Option (BitVec 32)}
      {up : List (Outgoing ε)} {down : List (Item ε)} (hl : lossy) (hc : p.conn = .fresh)
      (hn : n = none ∨ n = p.session.map Session.count) :
      Served lossy p ⟨.sm (.resume h id) :: up,down⟩
        { p with session := p.session.map ({ · with resumable := false }) } ⟨up,down ++ [failedItem n]⟩
  | sendBound {p : Peer ε} {net : XmppStream ε} {item : Item ε} (hc : p.conn = .bound)
      (hi : Item.counted item) : Served lossy p net { p with sentAll := p.sentAll ++ [item] }
        ⟨net.up,net.down ++ [item]⟩
  | sendManaged {p : Peer ε} {net : XmppStream ε} {s : Session ε} {item : Item ε}
      (hc : p.conn = .managed) (hs : p.session = some s) (hi : Item.counted item)
      (hw : s.sent.length + 1 - s.acked < 2 ^ 32) : Served lossy p net { p with
        session := some { s with sent := s.sent ++ [item] }, sentAll := p.sentAll ++ [item] }
        ⟨net.up,net.down ++ [item]⟩
  | request {p : Peer ε} {net : XmppStream ε} (hc : p.conn = .managed) :
      Served lossy p net p ⟨net.up,net.down ++ [reqItem]⟩
  | acknowledge {p : Peer ε} {net : XmppStream ε} {s : Session ε} (hc : p.conn = .managed)
      (hs : p.session = some s) : Served lossy p net p ⟨net.up,net.down ++ [ackItem s.count]⟩
  | forget {p : Peer ε} {net : XmppStream ε} : Served lossy p net
      { p with session := p.session.map ({ · with resumable := false }) } net

namespace Peer

/-- Streams are numbered as they bind, and where a stream goes on nothing is left of it. -/
structure Sound (p : Peer ε) : Prop where
  left : ∀ x ∈ p.left, x.1 ≤ p.stream
  session : ∀ s ∈ p.session, s.stream ≤ p.stream
  idle : ∀ n, p.present = some n → under n p.left = []

variable {p p' : Peer ε} {net net' : XmppStream ε}

theorem take_served (h : p.take net = some (p',net')) : Served lossy p net p' net' := by
  obtain ⟨up,down⟩ := net
  unfold take at h
  match up with
  | [] => cases h
  | .bind resource :: up => cases h
  | .streamError error :: up => cases h; exact .streamError
  | .stanza entry :: up =>
    dsimp only at h
    split at h
    · rename_i hc
      cases h
      exact .takeBound hc
    · rename_i s hc hs
      cases h
      exact .takeManaged hc hs
    · cases h
  | .sm nonza :: up =>
    dsimp only at h
    split at h
    · rename_i s hc hs
      cases h
      exact .answer hc hs
    · rename_i s n hc hs
      cases h
      exact .learn hc hs
    · cases h

theorem send_served {item : Item ε} (h : p.send net item = some (p',net')) :
    Served lossy p net p' net' := by
  unfold send at h
  dsimp only at h
  split at h
  · rename_i hi
    split at h
    · rename_i hc
      cases h
      exact .sendBound hc hi
    · rename_i s hc hs
      split at h
      · rename_i hw
        cases h
        exact .sendManaged hc hs hi hw
      · cases h
    · cases h
  · cases h

theorem answerResume_served (h : p.answerResume net = some (p',net')) : Served lossy p net p' net' := by
  obtain ⟨up,down⟩ := net
  unfold answerResume at h
  split at h
  · rename_i n id rest s hc hup hs
    split at h
    · cases h
      obtain rfl : up = _ := hup
      exact .resume hc hs
    · cases h
  · cases h

theorem refuse_served {known : Bool} (hl : lossy) (h : p.refuse net known = some (p',net')) :
    Served lossy p net p' net' := by
  obtain ⟨up,down⟩ := net
  unfold refuse at h
  dsimp only at h
  split at h
  · rename_i hc
    cases h
    exact .refuseEnable hl (by rw [hc]; nofun)
  · rename_i hc
    cases h
    exact .refuseEnable hl (by rw [hc]; nofun)
  · rename_i hc
    cases h
    refine .refuseResume hl hc ?_
    cases known
    · exact .inl rfl
    · exact .inr rfl
  · cases h

theorem step_served {action : PeerAction ε} (hl : lossy ∨ action.clean)
    (h : p.step net action = some (p',net')) : Served lossy p net p' net' := by
  obtain ⟨up,down⟩ := net
  cases action with
  | take => exact take_served h
  | takeLeft stream =>
    obtain ⟨q,hq,he⟩ := Option.map_eq_some_iff.mp h
    cases he
    obtain ⟨⟨entry,left⟩,ht,rfl⟩ := Option.map_eq_some_iff.mp hq
    exact .takeLate ht
  | answerBind payload =>
    unfold step at h
    dsimp only at h
    split at h
    · rename_i hc
      cases h
      exact .bind hc payload
    · cases h
  | answerEnable enabled =>
    unfold step at h
    dsimp only at h
    split at h
    · rename_i hc
      cases h
      exact .enable hc enabled
    · cases h
  | answerResume => exact answerResume_served h
  | refuse known => exact refuse_served (hl.resolve_right Bool.false_ne_true) h
  | send item => exact send_served h
  | request =>
    unfold step at h
    dsimp only at h
    split at h
    · rename_i hc
      cases h
      exact .request hc
    · cases h
  | acknowledge =>
    unfold step at h
    dsimp only at h
    split at h
    · rename_i s hc hs
      cases h
      exact .acknowledge hc hs
    · cases h
  | forget => cases h; exact .forget

theorem sound_start : (start : Peer ε).Sound := ⟨nofun,nofun,nofun⟩

namespace Sound

theorem present_le (h : p.Sound) {n : ℕ} (hn : p.present = some n) : n ≤ p.stream := by
  unfold present at hn
  split at hn
  · cases hn
  · cases hn
    exact Nat.le_refl _
  · obtain ⟨s,hs,rfl⟩ := Option.map_eq_some_iff.mp hn
    exact h.session s hs

theorem strays_idle (h : p.Sound) {n : ℕ} (hn : p.present = some n) (held : Bool) :
    under n (p.strays held) = [] := by
  have hi := under_eq_nil.mp (h.idle n hn)
  refine under_eq_nil.mpr fun x hx => ?_
  cases held with
  | true => exact hi x (List.mem_of_mem_filter hx)
  | false => exact hi x hx

theorem of_eq (h : p.Sound) (hc : p'.conn = p.conn) (hn : p'.stream = p.stream)
    (hs : p'.session.map Session.stream = p.session.map Session.stream)
    (hl : p'.left.Sublist p.left) : p'.Sound where
  left x hx := hn ▸ h.left x (hl.subset hx)
  session s hs' := by
    have hm : p.session.map Session.stream = some s.stream := by rw [← hs,hs']; rfl
    obtain ⟨s₀,hs₀,he⟩ := Option.map_eq_some_iff.mp hm
    rw [hn,← he]
    exact h.session s₀ hs₀
  idle n hp := by
    have hp : p.present = some n := by
      unfold present at hp ⊢
      rwa [hc,hn,hs] at hp
    exact List.sublist_nil.mp (h.idle n hp ▸ hl.filterMap _)

theorem served (hs : p.Sound) (h : Served lossy p net p' net') : p'.Sound := by
  cases h with
  | takeBound hc => exact hs.of_eq rfl rfl rfl (List.Sublist.refl _)
  | takeManaged hc hses => exact hs.of_eq rfl rfl (by rw [hses]; rfl) (List.Sublist.refl _)
  | @takeLate _ n entry left ht =>
    obtain ⟨front,back,hl,rfl,-⟩ := takeUnder_eq_some ht
    refine hs.of_eq rfl rfl (p.stream_takeLate n entry _) ?_
    show (front ++ back).Sublist p.left
    rw [hl]
    exact (List.Sublist.refl _).append (List.sublist_cons_self _ _)
  | streamError => exact hs
  | answer hc hses => exact hs
  | learn hc hses => exact hs.of_eq rfl rfl (by rw [hses]; rfl) (List.Sublist.refl _)
  | bind hc payload =>
    refine ⟨fun x hx => Nat.le_succ_of_le (hs.left x hx),fun s hm => Nat.le_succ_of_le (hs.session s hm),?_⟩
    rintro n hn
    cases hn
    exact under_eq_nil.mpr fun x hx => (Nat.lt_succ_of_le (hs.left x hx)).ne
  | enable hc enabled =>
    refine ⟨hs.left,?_,?_⟩
    · rintro s hm
      cases hm
      exact Nat.le_refl _
    · rintro n hn
      cases hn
      exact hs.idle p.stream (by rw [present,hc])
  | @resume s _ _ _ _ hc hses =>
    refine ⟨fun x hx => hs.left x (List.mem_of_mem_filter hx),?_,?_⟩
    · rintro s' hm
      cases hm
      exact hs.session s hses
    · rintro n hn
      cases hn
      show under s.stream (p.left.filter _) = []
      rw [under_filter_ne,if_pos rfl]
  | refuseEnable hl hc => exact hs
  | refuseResume hl hc hn => exact hs.of_eq rfl rfl (Option.map_map ..) (List.Sublist.refl _)
  | sendBound hc hi => exact hs.of_eq rfl rfl rfl (List.Sublist.refl _)
  | sendManaged hc hses hi hw => exact hs.of_eq rfl rfl (by rw [hses]; rfl) (List.Sublist.refl _)
  | request hc => exact hs
  | acknowledge hc hses => exact hs
  | forget => exact hs.of_eq rfl rfl (Option.map_map ..) (List.Sublist.refl _)

theorem leave (hs : p.Sound) (up : List (Outgoing ε)) : (p.leave up).Sound where
  left x hx := by
    rcases List.mem_append.mp hx with hx | hx
    · exact hs.left x hx
    · cases hp : p.present with
      | none => rw [hp] at hx; cases hx
      | some n =>
        rw [hp] at hx
        obtain ⟨entry,-,rfl⟩ := List.mem_map.mp hx
        exact hs.present_le hp
  session := hs.session
  idle := nofun

end Sound

end Peer

variable {client : Client ε} {peer peer' : Peer ε} {net net' : XmppStream ε}
variable {inbox : List (Stanza ε)} {view : View ε}
variable {lost lost' : List (QueueEntry ε)} {later later' more : List (Item ε)}

theorem keeps_of_peer {queue : List (QueueEntry ε)} {tokens : Tokens}
    (hw : Wired lossy inbox peer' view net' lost later') (hu : entriesOf net'.up = entriesOf net.up)
    (hh : peer'.log = peer.log)
    (hst : (peer'.strays view.sm.isSome).Sublist (peer.strays view.sm.isSome))
    (hm : peer'.sentAll = peer.sentAll ++ more) (hs : later'.Sublist (later ++ more)) :
    Keeps lib lossy ⟨view,net,queue,tokens,inbox⟩ peer lost later ⟨view,net',queue,tokens,inbox⟩ peer' := by
  refine ⟨lost,later',more,hw,?_,hm,(List.Sublist.refl _).append (hs.filterMap _)⟩
  unfold pipeline
  dsimp only
  rw [hu,hh]
  exact .single (.close hst)

theorem keeps_quietly {queue : List (QueueEntry ε)} {tokens : Tokens}
    (hw : Wired lossy inbox peer' view net' lost later) (hu : entriesOf net'.up = entriesOf net.up)
    (hh : peer'.log = peer.log) (hst : peer'.strays view.sm.isSome = peer.strays view.sm.isSome)
    (hm : peer'.sentAll = peer.sentAll) :
    Keeps lib lossy ⟨view,net,queue,tokens,inbox⟩ peer lost later ⟨view,net',queue,tokens,inbox⟩ peer' :=
  keeps_of_peer hw hu hh (hst ▸ List.Sublist.refl _) (hm.trans (List.append_nil _).symm)
    (by rw [List.append_nil])

theorem keeps_take {n : ℕ} {entry : QueueEntry ε} {up : List (Outgoing ε)} {down : List (Item ε)}
    {queue : List (QueueEntry ε)} {tokens : Tokens} (hsound : peer.Sound) (hn : peer.present = some n)
    (hw : Wired lossy inbox peer' view ⟨up,down⟩ lost later)
    (hh : peer'.log = peer.log ++ [(n,entry)])
    (hst : peer'.strays view.sm.isSome = peer.strays view.sm.isSome)
    (hm : peer'.sentAll = peer.sentAll) :
    Keeps lib lossy ⟨view,⟨.stanza entry :: up,down⟩,queue,tokens,inbox⟩ peer lost later
      ⟨view,⟨up,down⟩,queue,tokens,inbox⟩ peer' := by
  refine ⟨lost,later,[],hw,?_,by rw [hm,List.append_nil],?_⟩
  · have hf : Flow lib lossy (pipeline ⟨view,⟨.stanza entry :: up,down⟩,queue,tokens,inbox⟩ peer lost) _ :=
      .arrive rfl (hsound.strays_idle hn _)
    refine .single ?_
    unfold pipeline
    dsimp only
    rw [hh,hst]
    exact hf
  · rw [List.append_nil]

theorem keeps_takeBound {entry : QueueEntry ε} {up : List (Outgoing ε)} {down : List (Item ε)}
    {queue : List (QueueEntry ε)} {tokens : Tokens} (hsound : peer.Sound) (hc : peer.conn = .bound)
    (hw : Wired lossy inbox peer view ⟨.stanza entry :: up,down⟩ lost later) :
    Keeps lib lossy ⟨view,⟨.stanza entry :: up,down⟩,queue,tokens,inbox⟩ peer lost later
      ⟨view,⟨up,down⟩,queue,tokens,inbox⟩ { peer with log := peer.log ++ [(peer.stream,entry)] } := by
  have hn : peer.present = some peer.stream := by rw [Peer.present,hc]
  generalize hnet : (⟨.stanza entry :: up,down⟩ : XmppStream ε) = net at hw
  cases hw with
  | away hu =>
    subst hnet
    exact keeps_take hsound hn (.away (.inl (hu.resolve_right (List.cons_ne_nil _ _)))) rfl rfl rfl
  | finished => subst hnet; exact keeps_take hsound hn .finished rfl rfl rfl
  | readyPlain hl hc hp hu =>
    subst hnet
    refine keeps_take hsound hn (.readyPlain hl hc hp fun e he => ?_) rfl rfl rfl
    exact hu e (List.mem_cons_of_mem _ he)
  | awayHeld h =>
    subst hnet
    rcases h.conn with hc' | ⟨hc',-⟩ <;> cases hc.symm.trans hc'
  | ready h hc' => cases hc.symm.trans hc'
  | _ => cases hnet

theorem keeps_takeManaged {s : Session ε} {entry : QueueEntry ε} {up : List (Outgoing ε)}
    {down : List (Item ε)} {queue : List (QueueEntry ε)} {tokens : Tokens}
    (hsound : peer.Sound) (hc : peer.conn = .managed) (hs : peer.session = some s)
    (hw : Wired lossy inbox peer view ⟨.stanza entry :: up,down⟩ lost later) :
    Keeps lib lossy ⟨view,⟨.stanza entry :: up,down⟩,queue,tokens,inbox⟩ peer lost later
      ⟨view,⟨up,down⟩,queue,tokens,inbox⟩ { peer with
        log := peer.log ++ [(s.stream,entry)]
        session := some { s with received := s.received ++ [entry] } } := by
  have hn : peer.present = some s.stream := by
    rw [Peer.present,hc,hs]
    rfl
  have hst : ∀ held, Peer.strays { peer with
      log := peer.log ++ [(s.stream,entry)]
      session := some { s with received := s.received ++ [entry] } } held = peer.strays held :=
    Peer.strays_session hs rfl
  generalize hnet : (⟨.stanza entry :: up,down⟩ : XmppStream ε) = net at hw
  cases hw with
  | away hu =>
    subst hnet
    exact keeps_take hsound hn (.away (.inl (hu.resolve_right (List.cons_ne_nil _ _)))) rfl (hst _) rfl
  | finished => subst hnet; exact keeps_take hsound hn .finished rfl (hst _) rfl
  | readyPlain hl hc' => cases hc.symm.trans hc'
  | awayHeld h =>
    subst hnet
    cases h.session.symm.trans hs
    have hw : Wired lossy inbox _ _ ⟨up,down⟩ _ _ := .awayHeld h.take
    exact keeps_take hsound hn hw rfl (hst _) rfl
  | ready h hc' hm =>
    subst hnet
    cases h.session.symm.trans hs
    have hw : Wired lossy inbox _ _ ⟨up,down⟩ _ _ := .ready h.take hc' (hm.receive entry)
    exact keeps_take hsound hn hw rfl (hst _) rfl
  | _ => cases hnet

theorem keeps_streamError {error : StreamError} {up : List (Outgoing ε)} {down : List (Item ε)}
    {queue : List (QueueEntry ε)} {tokens : Tokens}
    (hw : Wired lossy inbox peer view ⟨.streamError error :: up,down⟩ lost later) :
    Keeps lib lossy ⟨view,⟨.streamError error :: up,down⟩,queue,tokens,inbox⟩ peer lost later
      ⟨view,⟨up,down⟩,queue,tokens,inbox⟩ peer := by
  generalize hnet : (⟨.streamError error :: up,down⟩ : XmppStream ε) = net at hw
  cases hw with
  | away hu => subst hnet; exact keeps_quietly (.away hu) rfl rfl rfl rfl
  | finished => subst hnet; exact keeps_quietly .finished rfl rfl rfl rfl
  | readyPlain hl hc hp hu =>
    subst hnet
    cases (hu _ List.mem_cons_self).choose_spec
  | awayHeld h => subst hnet; exact keeps_quietly (.awayHeld (h.pop rfl)) rfl rfl rfl rfl
  | ready h hc hm => subst hnet; exact keeps_quietly (.ready (h.pop rfl) hc hm) rfl rfl rfl rfl
  | _ => cases hnet

theorem keeps_answer {s : Session ε} {up : List (Outgoing ε)} {down : List (Item ε)}
    {queue : List (QueueEntry ε)} {tokens : Tokens} (hc : peer.conn = .managed)
    (hs : peer.session = some s)
    (hw : Wired lossy inbox peer view ⟨.sm .req :: up,down⟩ lost later) :
    Keeps lib lossy ⟨view,⟨.sm .req :: up,down⟩,queue,tokens,inbox⟩ peer lost later
      ⟨view,⟨up,down ++ [ackItem s.count]⟩,queue,tokens,inbox⟩ peer := by
  generalize hnet : (⟨.sm .req :: up,down⟩ : XmppStream ε) = net at hw
  cases hw with
  | away hu => subst hnet; exact keeps_quietly (.away hu) rfl rfl rfl rfl
  | finished => subst hnet; exact keeps_quietly .finished rfl rfl rfl rfl
  | readyPlain hl hc' => cases hc.symm.trans hc'
  | awayHeld h => subst hnet; exact keeps_quietly (.awayHeld (h.pop rfl)) rfl rfl rfl rfl
  | ready h hc' hm =>
    subst hnet
    cases h.session.symm.trans hs
    exact keeps_quietly (.ready (h.pop rfl) hc' hm.snoc_ack) rfl rfl rfl rfl
  | askedResume h hc' => cases hc.symm.trans hc'
  | _ => cases hnet

theorem keeps_learn {s : Session ε} {n : BitVec 32} {up : List (Outgoing ε)} {down : List (Item ε)}
    {queue : List (QueueEntry ε)} {tokens : Tokens} (hc : peer.conn = .managed)
    (hs : peer.session = some s)
    (hw : Wired lossy inbox peer view ⟨.sm (.ack n) :: up,down⟩ lost later) :
    Keeps lib lossy ⟨view,⟨.sm (.ack n) :: up,down⟩,queue,tokens,inbox⟩ peer lost later
      ⟨view,⟨up,down⟩,queue,tokens,inbox⟩ { peer with session := some (s.learn n) } := by
  generalize hnet : (⟨.sm (.ack n) :: up,down⟩ : XmppStream ε) = net at hw
  cases hw with
  | away hu => subst hnet; exact keeps_quietly (.away hu) rfl rfl rfl rfl
  | finished => subst hnet; exact keeps_quietly .finished rfl rfl rfl rfl
  | readyPlain hl hc' => cases hc.symm.trans hc'
  | awayHeld h =>
    subst hnet
    cases h.session.symm.trans hs
    have hw : Wired lossy inbox _ _ ⟨up,down⟩ _ _ := .awayHeld (h.peerLearns rfl rfl)
    exact keeps_quietly hw rfl rfl (Peer.strays_session hs (s.stream_learn n) _) rfl
  | ready h hc' hm =>
    subst hnet
    cases h.session.symm.trans hs
    have hw : Wired lossy inbox _ _ ⟨up,down⟩ _ _ :=
      .ready (h.peerLearns rfl rfl) hc' (hm.acknowledge _)
    exact keeps_quietly hw rfl rfl (Peer.strays_session hs (s.stream_learn n) _) rfl
  | askedResume h hc' => cases hc.symm.trans hc'
  | _ => cases hnet

theorem keeps_answerBind {resource : Option String} {up : List (Outgoing ε)} {down : List (Item ε)}
    {queue : List (QueueEntry ε)} {tokens : Tokens} (hc : peer.conn = .fresh) (payload : ε)
    (hw : Wired lossy inbox peer view ⟨.bind resource :: up,down⟩ lost later) :
    Keeps lib lossy ⟨view,⟨.bind resource :: up,down⟩,queue,tokens,inbox⟩ peer lost later
      ⟨view,⟨up,down ++ [bindItem payload]⟩,queue,tokens,inbox⟩
      { peer with conn := .bound, stream := peer.stream + 1 } := by
  generalize hnet : (⟨.bind resource :: up,down⟩ : XmppStream ε) = net at hw
  cases hw with
  | away hu => subst hnet; exact keeps_quietly (.away hu) rfl rfl rfl rfl
  | finished => subst hnet; exact keeps_quietly .finished rfl rfl rfl rfl
  | askedBind hc' hf =>
    cases hnet
    exact keeps_quietly (.answeredBind rfl hf .nil) rfl rfl rfl rfl
  | readyPlain hl hc' => cases hc.symm.trans hc'
  | awayHeld h => subst hnet; exact absurd List.mem_cons_self (h.noBind resource)
  | ready h hc' hm => cases hc.symm.trans hc'
  | askedResume h hc' => cases hnet
  | _ => cases hnet

theorem keeps_answerEnable {max : Option (BitVec 32)} {resume : Bool} {up : List (Outgoing ε)}
    {down : List (Item ε)} {queue : List (QueueEntry ε)} {tokens : Tokens} (hsound : peer.Sound)
    (hc : peer.conn = .bound) (enabled : Enabled)
    (hw : Wired lossy inbox peer view ⟨.sm (.enable max resume) :: up,down⟩ lost later) :
    Keeps lib lossy ⟨view,⟨.sm (.enable max resume) :: up,down⟩,queue,tokens,inbox⟩ peer lost later
      ⟨view,⟨up,down ++ [enabledItem enabled]⟩,queue,tokens,inbox⟩
      { peer with conn := .managed, session := some (.new peer.stream enabled) } := by
  generalize hnet : (⟨.sm (.enable max resume) :: up,down⟩ : XmppStream ε) = net at hw
  cases hw with
  | away hu => subst hnet; exact keeps_quietly (.away hu) rfl rfl rfl rfl
  | finished => subst hnet; exact keeps_quietly .finished rfl rfl rfl rfl
  | askedEnable hc' hp =>
    cases hnet
    have hleft : under peer.stream peer.left = [] := hsound.idle _ (by rw [Peer.present,hc'])
    refine keeps_of_peer (.enabled rfl hp rfl hleft rfl rfl ?_ (.nil peer.stream enabled)) rfl rfl
      (List.Sublist.refl _) (List.append_nil _).symm (List.Sublist.refl _)
    simp [Session.new]
  | readyPlain hl hc' hp hu =>
    subst hnet
    cases (hu _ List.mem_cons_self).choose_spec
  | awayHeld h => rcases h.conn with hc' | ⟨hc',-⟩ <;> cases hc.symm.trans hc'
  | ready h hc' hm => cases hc.symm.trans hc'
  | askedResume h hc' => cases hc.symm.trans hc'
  | _ => cases hnet

theorem keeps_answerResume {s : Session ε} {n : BitVec 32} {id : String} {up : List (Outgoing ε)}
    {down : List (Item ε)} {queue : List (QueueEntry ε)} {tokens : Tokens} (hc : peer.conn = .fresh)
    (hs : peer.session = some s)
    (hw : Wired lossy inbox peer view ⟨.sm (.resume n id) :: up,down⟩ lost later) :
    Keeps lib lossy ⟨view,⟨.sm (.resume n id) :: up,down⟩,queue,tokens,inbox⟩ peer lost later
      ⟨view,⟨up,down ++ resumedItem (s.learn n).count id :: (s.learn n).sent.drop (s.learn n).acked⟩,
        queue,tokens,inbox⟩
      { peer with
        conn := .managed, session := some (s.learn n), left := peer.left.filter (·.1 ≠ s.stream) } := by
  have hst : Peer.strays { peer with
      conn := .managed, session := some (s.learn n), left := peer.left.filter (·.1 ≠ s.stream) } true =
      peer.strays true := by
    rw [Peer.strays_held hs,Peer.strays_held (s := s.learn n) rfl,List.filter_filter]
    exact List.filter_congr fun x _ => Bool.and_self _
  generalize hnet : (⟨.sm (.resume n id) :: up,down⟩ : XmppStream ε) = net at hw
  cases hw with
  | away hu =>
    subst hnet
    exact keeps_of_peer (.away hu) rfl rfl List.filter_sublist (List.append_nil _).symm (List.nil_sublist _)
  | finished =>
    subst hnet
    exact keeps_of_peer .finished rfl rfl List.filter_sublist (List.append_nil _).symm (List.nil_sublist _)
  | readyPlain hl hc' => cases hc.symm.trans hc'
  | awayHeld h =>
    subst hnet
    cases h.session.symm.trans hs
    have hw : ∀ down, Wired lossy inbox _ _ ⟨up,down⟩ _ _ := fun _ =>
      .awayHeld (h.peerLearns rfl rfl).manage
    exact keeps_quietly (hw _) rfl rfl hst rfl
  | ready h hc' hm => cases hc.symm.trans hc'
  | askedResume h hc' =>
    cases h.session.symm.trans hs
    obtain ⟨hup,rfl⟩ := XmppStream.mk.inj hnet
    obtain ⟨hreq,rfl⟩ := List.cons.inj hup
    have hreq : NegotiationState.smRequest (some _) = .resume n id := (Outgoing.sm.inj hreq).symm
    rw [hreq] at h
    have h' := (h.peerLearns rfl rfl).manage
    rw [h.learn_request hreq]
    have hleft : under s.stream (peer.left.filter (·.1 ≠ s.stream)) = [] := by
      rw [under_filter_ne,if_pos rfl]
    exact keeps_quietly (.resumed h' rfl hleft h'.again) rfl rfl hst rfl
  | _ => cases hnet

theorem keeps_refuseEnable {max : Option (BitVec 32)} {resume : Bool} {up : List (Outgoing ε)}
    {down : List (Item ε)} {queue : List (QueueEntry ε)} {tokens : Tokens} (hl : lossy)
    (hc : peer.conn ≠ .managed)
    (hw : Wired lossy inbox peer view ⟨.sm (.enable max resume) :: up,down⟩ lost later) :
    Keeps lib lossy ⟨view,⟨.sm (.enable max resume) :: up,down⟩,queue,tokens,inbox⟩ peer lost later
      ⟨view,⟨up,down ++ [failedItem none]⟩,queue,tokens,inbox⟩ peer := by
  generalize hnet : (⟨.sm (.enable max resume) :: up,down⟩ : XmppStream ε) = net at hw
  cases hw with
  | away hu => subst hnet; exact keeps_quietly (.away hu) rfl rfl rfl rfl
  | finished => subst hnet; exact keeps_quietly .finished rfl rfl rfl rfl
  | askedEnable hc' hp =>
    cases hnet
    exact keeps_of_peer (.refusedEnable hl hc' hp .nil) rfl rfl (List.Sublist.refl _)
      (List.append_nil _).symm (List.Sublist.refl _)
  | readyPlain hl hc' hp hu =>
    subst hnet
    cases (hu _ List.mem_cons_self).choose_spec
  | awayHeld h => subst hnet; exact keeps_quietly (.awayHeld (h.pop rfl)) rfl rfl rfl rfl
  | ready h hc' hm => exact absurd hc' hc
  | askedResume h hc' =>
    obtain ⟨hup,rfl⟩ := XmppStream.mk.inj hnet
    obtain ⟨-,rfl⟩ := List.cons.inj hup
    exact keeps_quietly (.refusedResume hl (h.pop rfl) hc' (.inl rfl)) rfl rfl rfl rfl
  | _ => cases hnet

theorem keeps_refuseResume {n : BitVec 32} {id : String} {r : Option (BitVec 32)}
    {up : List (Outgoing ε)} {down : List (Item ε)} {queue : List (QueueEntry ε)} {tokens : Tokens}
    (hl : lossy) (hc : peer.conn = .fresh) (hr : r = none ∨ r = peer.session.map Session.count)
    (hw : Wired lossy inbox peer view ⟨.sm (.resume n id) :: up,down⟩ lost later) :
    Keeps lib lossy ⟨view,⟨.sm (.resume n id) :: up,down⟩,queue,tokens,inbox⟩ peer lost later
      ⟨view,⟨up,down ++ [failedItem r]⟩,queue,tokens,inbox⟩
      { peer with session := peer.session.map ({ · with resumable := false }) } := by
  generalize hnet : (⟨.sm (.resume n id) :: up,down⟩ : XmppStream ε) = net at hw
  cases hw with
  | away hu => subst hnet; exact keeps_quietly (.away hu) rfl rfl rfl rfl
  | finished => subst hnet; exact keeps_quietly .finished rfl rfl rfl rfl
  | readyPlain hl hc' => cases hc.symm.trans hc'
  | awayHeld h =>
    subst hnet
    have hw : ∀ down, Wired lossy inbox _ _ ⟨up,down⟩ _ _ := fun _ => .awayHeld (h.pop rfl).forget
    exact keeps_quietly (hw _) rfl rfl (peer.strays_forget _) rfl
  | ready h hc' hm => cases hc.symm.trans hc'
  | askedResume h hc' =>
    obtain ⟨hup,rfl⟩ := XmppStream.mk.inj hnet
    obtain ⟨-,rfl⟩ := List.cons.inj hup
    have hw := Wired.refusedResume (n := r) hl (h.pop rfl).forget hc' (hr.imp_right fun hr =>
      ⟨_,h.link.le,Nat.le_refl _,by rw [hr,h.session]; rfl⟩)
    exact keeps_quietly hw rfl rfl (peer.strays_forget _) rfl
  | _ => cases hnet

theorem keeps_sendBound {item : Item ε} {queue : List (QueueEntry ε)} {tokens : Tokens}
    (hc : peer.conn = .bound) (hi : Item.counted item)
    (hw : Wired lossy inbox peer view net lost later) :
    Keeps lib lossy ⟨view,net,queue,tokens,inbox⟩ peer lost later
      ⟨view,⟨net.up,net.down ++ [item]⟩,queue,tokens,inbox⟩
      { peer with sentAll := peer.sentAll ++ [item] } := by
  have hgo : ∀ {later'}, Wired lossy inbox { peer with sentAll := peer.sentAll ++ [item] } view
      ⟨net.up,net.down ++ [item]⟩ lost later' → later'.Sublist (later ++ [item]) →
      Keeps lib lossy ⟨view,net,queue,tokens,inbox⟩ peer lost later
        ⟨view,⟨net.up,net.down ++ [item]⟩,queue,tokens,inbox⟩
        { peer with sentAll := peer.sentAll ++ [item] } :=
    fun hw hs => keeps_of_peer hw rfl rfl (List.Sublist.refl _) rfl hs
  cases hw with
  | away hu => exact hgo (.away hu) (List.nil_sublist _)
  | finished => exact hgo .finished (List.nil_sublist _)
  | answeredBind hc' hf hp => exact hgo (.answeredBind hc' hf (hp.snoc hi)) (List.Sublist.refl _)
  | sendEnable hc' hp => exact hgo (.sendEnable hc' (hp.snoc hi)) (List.Sublist.refl _)
  | askedEnable hc' hp => exact hgo (.askedEnable hc' (hp.snoc hi)) (List.Sublist.refl _)
  | @refusedEnable _ pre post hl hc' hp hq =>
    show Keeps lib lossy _ _ _ _ ⟨_,⟨[],(pre ++ failedItem none :: post) ++ [item]⟩,_,_,_⟩ _
    rw [List.append_assoc,List.cons_append]
    refine keeps_of_peer (.refusedEnable hl hc' hp (hq.snoc hi)) rfl rfl (List.Sublist.refl _) rfl ?_
    rw [List.append_assoc]
  | readyPlain hl hc' hp hu => exact hgo (.readyPlain hl hc' (hp.snoc hi) hu) (List.Sublist.refl _)
  | opened hc' => cases hc.symm.trans hc'
  | sendBind hc' => cases hc.symm.trans hc'
  | askedBind hc' => cases hc.symm.trans hc'
  | enabled hc' => cases hc.symm.trans hc'
  | awayHeld h => rcases h.conn with hc' | ⟨hc',-⟩ <;> cases hc.symm.trans hc'
  | openedHeld h => rcases h.conn with hc' | ⟨hc',-⟩ <;> cases hc.symm.trans hc'
  | sendResume h => rcases h.conn with hc' | ⟨hc',-⟩ <;> cases hc.symm.trans hc'
  | askedResume h => rcases h.conn with hc' | ⟨hc',-⟩ <;> cases hc.symm.trans hc'
  | refusedResume _ h => rcases h.conn with hc' | ⟨hc',-⟩ <;> cases hc.symm.trans hc'
  | resumed h hc' => cases hc.symm.trans hc'
  | ready h hc' => cases hc.symm.trans hc'

/-- Something goes down under stream management that is not counted. -/
theorem keeps_note {item : Item ε} {queue : List (QueueEntry ε)} {tokens : Tokens}
    (hc : peer.conn = .managed) (hi : item = reqItem ∨ ∀ s ∈ peer.session, item = ackItem s.count)
    (hw : Wired lossy inbox peer view net lost later) :
    Keeps lib lossy ⟨view,net,queue,tokens,inbox⟩ peer lost later
      ⟨view,⟨net.up,net.down ++ [item]⟩,queue,tokens,inbox⟩ peer := by
  have hsnoc : ∀ {down s b c}, peer.session = some s → Managed down s b c →
      Managed (down ++ [item]) s b c := by
    intro down s b c hs hm
    rcases hi with rfl | hi
    · exact hm.snoc_req
    · rw [hi s hs]
      exact hm.snoc_ack
  cases hw with
  | away hu => exact keeps_quietly (.away hu) rfl rfl rfl rfl
  | finished => exact keeps_quietly .finished rfl rfl rfl rfl
  | @enabled _ pre post _ s hc' hp hs hleft hr ha hlen hm =>
    refine keeps_quietly ?_ rfl rfl rfl rfl
    rw [List.append_assoc,List.cons_append]
    exact .enabled hc' hp hs hleft hr ha hlen (hsnoc hs hm)
  | awayHeld h => exact keeps_quietly (.awayHeld h) rfl rfl rfl rfl
  | resumed h hc' hleft hm =>
    exact keeps_quietly (.resumed h hc' hleft (hsnoc h.session hm)) rfl rfl rfl rfl
  | ready h hc' hm => exact keeps_quietly (.ready h hc' (hsnoc h.session hm)) rfl rfl rfl rfl
  | opened hc' => cases hc.symm.trans hc'
  | sendBind hc' => cases hc.symm.trans hc'
  | askedBind hc' => cases hc.symm.trans hc'
  | answeredBind hc' => cases hc.symm.trans hc'
  | sendEnable hc' => cases hc.symm.trans hc'
  | askedEnable hc' => cases hc.symm.trans hc'
  | refusedEnable _ hc' => cases hc.symm.trans hc'
  | readyPlain _ hc' => cases hc.symm.trans hc'
  | openedHeld _ hc' => cases hc.symm.trans hc'
  | sendResume _ hc' => cases hc.symm.trans hc'
  | askedResume _ hc' => cases hc.symm.trans hc'
  | refusedResume _ _ hc' => cases hc.symm.trans hc'

theorem keeps_sendManaged {s : Session ε} {item : Item ε} {queue : List (QueueEntry ε)}
    {tokens : Tokens} (hc : peer.conn = .managed) (hs : peer.session = some s)
    (hi : Item.counted item) (hwin : s.sent.length + 1 - s.acked < 2 ^ 32)
    (hw : Wired lossy inbox peer view net lost later) :
    Keeps lib lossy ⟨view,net,queue,tokens,inbox⟩ peer lost later
      ⟨view,⟨net.up,net.down ++ [item]⟩,queue,tokens,inbox⟩ { peer with
        session := some { s with sent := s.sent ++ [item] }, sentAll := peer.sentAll ++ [item] } := by
  have hst : ∀ held, Peer.strays { peer with
      session := some { s with sent := s.sent ++ [item] }, sentAll := peer.sentAll ++ [item] } held =
      peer.strays held := Peer.strays_session hs rfl
  have hgo : ∀ {net' : XmppStream ε} {lost later later'}, Wired lossy inbox { peer with
        session := some { s with sent := s.sent ++ [item] }, sentAll := peer.sentAll ++ [item] } view
      net' lost later' → net'.up = net.up → later'.Sublist (later ++ [item]) →
      Keeps lib lossy ⟨view,net,queue,tokens,inbox⟩ peer lost later ⟨view,net',queue,tokens,inbox⟩
        { peer with
          session := some { s with sent := s.sent ++ [item] }, sentAll := peer.sentAll ++ [item] } :=
    fun hw hup hsub => keeps_of_peer hw (congrArg entriesOf hup) rfl (hst _ ▸ List.Sublist.refl _) rfl hsub
  have hdrop : ∀ {c}, c ≤ s.sent.length →
      ((s.sent ++ [item]).drop c).Sublist (s.sent.drop c ++ [item]) := by
    intro c hle
    rw [List.drop_append_of_le_length hle]
  cases hw with
  | away hu => exact hgo (.away hu) rfl (List.nil_sublist _)
  | finished => exact hgo .finished rfl (List.nil_sublist _)
  | @enabled _ pre post _ s' hc' hp hs' hleft hr ha hlen hm =>
    cases hs'.symm.trans hs
    show Keeps lib lossy _ _ _ _ ⟨_,⟨[],(pre ++ enabledItem _ :: post) ++ [item]⟩,_,_,_⟩ _
    rw [List.append_assoc,List.cons_append]
    refine keeps_of_peer (.enabled hc' hp rfl hleft hr ha ?_ (hm.snoc_counted (Nat.zero_le _) hi)) rfl
      rfl (List.Sublist.refl _) rfl ?_
    · simpa [ha] using hwin
    · rw [List.append_assoc]
  | awayHeld h =>
    cases h.session.symm.trans hs
    exact hgo (.awayHeld (h.peerSends hi hwin)) rfl (hdrop h.sent)
  | @resumed _ _ _ _ _ id _ h hc' hleft hm =>
    cases h.session.symm.trans hs
    have hw := @Wired.resumed _ lossy _ _ _ _ _ _ _ id _ (h.peerSends hi hwin) hc' hleft
      (hm.snoc_counted h.sent hi)
    exact hgo hw rfl (hdrop h.sent)
  | ready h hc' hm =>
    cases h.session.symm.trans hs
    exact hgo (.ready (h.peerSends hi hwin) hc' (hm.snoc_counted h.sent hi)) rfl (hdrop h.sent)
  | opened hc' => cases hc.symm.trans hc'
  | sendBind hc' => cases hc.symm.trans hc'
  | askedBind hc' => cases hc.symm.trans hc'
  | answeredBind hc' => cases hc.symm.trans hc'
  | sendEnable hc' => cases hc.symm.trans hc'
  | askedEnable hc' => cases hc.symm.trans hc'
  | refusedEnable _ hc' => cases hc.symm.trans hc'
  | readyPlain _ hc' => cases hc.symm.trans hc'
  | openedHeld _ hc' => cases hc.symm.trans hc'
  | sendResume _ hc' => cases hc.symm.trans hc'
  | askedResume _ hc' => cases hc.symm.trans hc'
  | refusedResume _ _ hc' => cases hc.symm.trans hc'

theorem keeps_forget {queue : List (QueueEntry ε)} {tokens : Tokens}
    (hw : Wired lossy inbox peer view net lost later) :
    Keeps lib lossy ⟨view,net,queue,tokens,inbox⟩ peer lost later ⟨view,net,queue,tokens,inbox⟩
      { peer with session := peer.session.map ({ · with resumable := false }) } := by
  have hgo : ∀ {later'}, Wired lossy inbox
      { peer with session := peer.session.map ({ · with resumable := false }) } view net lost later' →
      later' = later → Keeps lib lossy ⟨view,net,queue,tokens,inbox⟩ peer lost later
        ⟨view,net,queue,tokens,inbox⟩
        { peer with session := peer.session.map ({ · with resumable := false }) } :=
    fun hw he => keeps_quietly (he ▸ hw) rfl rfl (peer.strays_forget _) rfl
  cases hw with
  | away hu => exact hgo (.away hu) rfl
  | finished => exact hgo .finished rfl
  | opened hc hf => exact hgo (.opened hc hf) rfl
  | sendBind hc hf => exact hgo (.sendBind hc hf) rfl
  | askedBind hc hf => exact hgo (.askedBind hc hf) rfl
  | answeredBind hc hf hp => exact hgo (.answeredBind hc hf hp) rfl
  | sendEnable hc hp => exact hgo (.sendEnable hc hp) rfl
  | askedEnable hc hp => exact hgo (.askedEnable hc hp) rfl
  | refusedEnable hl hc hp hq => exact hgo (.refusedEnable hl hc hp hq) rfl
  | @enabled _ _ _ _ s hc hp hs hleft hr ha hlen hm =>
    have hs' : peer.session.map ({ · with resumable := false }) =
        some { s with resumable := false } := by rw [hs]; rfl
    exact hgo (.enabled hc hp hs' hleft hr ha hlen hm.forget) rfl
  | readyPlain hl hc hp hu => exact hgo (.readyPlain hl hc hp hu) rfl
  | awayHeld h => exact hgo (.awayHeld h.forget) rfl
  | openedHeld h hc hf => exact hgo (.openedHeld h.forget hc hf) rfl
  | sendResume h hc => exact hgo (.sendResume h.forget hc) rfl
  | askedResume h hc => exact hgo (.askedResume h.forget hc) rfl
  | refusedResume hl h hc hn => exact hgo (.refusedResume hl h.forget hc hn) rfl
  | @resumed _ _ _ _ _ id _ h hc hleft hm =>
    have hw := @Wired.resumed _ lossy _ _ _ _ _ _ _ id _ h.forget hc hleft hm.forget
    exact hgo hw rfl
  | ready h hc hm => exact hgo (.ready h.forget hc hm.forget) rfl

theorem keeps_takeStray {n : ℕ} {entry : QueueEntry ε} {left : List (ℕ × QueueEntry ε)}
    {queue : List (QueueEntry ε)} {tokens : Tokens} (ht : takeUnder n peer.left = some (entry,left))
    (hw : Wired lossy inbox (peer.takeLate n entry left) view net lost later)
    (hn : view.sm.isSome → peer.session.map Session.stream ≠ some n) :
    Keeps lib lossy ⟨view,net,queue,tokens,inbox⟩ peer lost later ⟨view,net,queue,tokens,inbox⟩
      (peer.takeLate n entry left) := by
  refine ⟨lost,later,[],hw,.single ?_,(List.append_nil _).symm,?_⟩
  · obtain ⟨front,back,hs,hs',hf⟩ := Peer.strays_takeLate ht hn
    have hflow : Flow lib lossy (pipeline ⟨view,net,queue,tokens,inbox⟩ peer lost) _ := .stray hs hf
    rw [← hs'] at hflow
    exact hflow
  · rw [List.append_nil]

/-- A stanza of the session that the worker holds was lost first, so it arrives after all. -/
theorem keeps_takeHeld {n : ℕ} {entry : QueueEntry ε} {left : List (ℕ × QueueEntry ε)}
    {queue : List (QueueEntry ε)} {tokens : Tokens} {sm : SmState ε} {s : Session ε} {b c : ℕ}
    (ht : takeUnder n peer.left = some (entry,left)) (hsm : view.sm = some sm)
    (h : Held net.up inbox peer sm lost s b c)
    (hwired : ∀ {lost' : List (QueueEntry ε)} {s' : Session ε},
      Held net.up inbox (peer.takeLate n entry left) sm lost' s' b c → s'.sent = s.sent →
      s.received.length ≤ s'.received.length →
      Wired lossy inbox (peer.takeLate n entry left) view net lost' (s'.sent.drop c)) :
    Keeps lib lossy ⟨view,net,queue,tokens,inbox⟩ peer lost (s.sent.drop c) ⟨view,net,queue,tokens,inbox⟩
      (peer.takeLate n entry left) := by
  by_cases hn : s.stream = n
  · subst hn
    obtain ⟨lost',rfl,hu,h'⟩ := h.takeLeft ht
    have hw := hwired h' rfl (by simp)
    refine ⟨lost',s.sent.drop c,[],hw,.single ?_,(List.append_nil _).symm,?_⟩
    · have hr : (pipeline ⟨view,net,queue,tokens,inbox⟩ peer (entry :: lost')).rest =
          entry :: (entriesOf net.up ++ lost' ++ queue) := by
        show entriesOf net.up ++ entry :: lost' ++ queue = _
        rw [hu]
        rfl
      have hst : peer.strays view.sm.isSome = peer.left.filter (·.1 ≠ s.stream) := by
        rw [hsm]
        exact Peer.strays_held h.session
      have hst' : (peer.takeLate s.stream entry left).strays view.sm.isSome = peer.strays view.sm.isSome := by
        rw [hst,hsm]
        exact (Peer.strays_held h'.session).trans (filter_takeUnder ht)
      have hidle : under s.stream (peer.strays view.sm.isSome) = [] := by
        rw [hst,under_filter_ne,if_pos rfl]
      show Flow lib lossy _ ⟨_,(peer.takeLate s.stream entry left).strays view.sm.isSome,_,_⟩
      rw [hst']
      exact .arrive hr hidle
    · rw [List.append_nil]
  · refine keeps_takeStray ht (hwired (h.takeOther ht hn) rfl (Nat.le_refl _)) fun _ hm => hn ?_
    rw [h.session] at hm
    exact Option.some.inj hm

theorem keeps_takeLate {n : ℕ} {entry : QueueEntry ε} {left : List (ℕ × QueueEntry ε)}
    {queue : List (QueueEntry ε)} {tokens : Tokens} (ht : takeUnder n peer.left = some (entry,left))
    (hw : Wired lossy inbox peer view net lost later) :
    Keeps lib lossy ⟨view,net,queue,tokens,inbox⟩ peer lost later ⟨view,net,queue,tokens,inbox⟩
      (peer.takeLate n entry left) := by
  have hne : under n peer.left ≠ [] := by
    obtain ⟨front,back,hl,-,-⟩ := takeUnder_eq_some ht
    rw [hl,under_append,under_cons,if_pos rfl]
    simp
  cases hw with
  | away hu => exact keeps_takeStray ht (.away hu) nofun
  | finished => exact keeps_takeStray ht .finished nofun
  | opened hc hf => exact keeps_takeStray ht (.opened hc hf) nofun
  | sendBind hc hf => exact keeps_takeStray ht (.sendBind hc hf) nofun
  | askedBind hc hf => exact keeps_takeStray ht (.askedBind hc hf) nofun
  | answeredBind hc hf hp => exact keeps_takeStray ht (.answeredBind hc hf hp) nofun
  | sendEnable hc hp => exact keeps_takeStray ht (.sendEnable hc hp) nofun
  | askedEnable hc hp => exact keeps_takeStray ht (.askedEnable hc hp) nofun
  | refusedEnable hl hc hp hq => exact keeps_takeStray ht (.refusedEnable hl hc hp hq) nofun
  | @enabled _ _ _ _ s hc hp hs hleft hr ha hlen hm =>
    have hn : s.stream ≠ n := fun hn => hne (hn ▸ hleft)
    have hs' : (peer.takeLate n entry left).session = some s := by rw [Peer.takeLate_other hs hn]
    have hleft' : under s.stream left = [] := (under_takeUnder ht hn).trans hleft
    exact keeps_takeStray ht (.enabled hc hp hs' hleft' hr ha hlen hm) nofun
  | readyPlain hl hc hp hu => exact keeps_takeStray ht (.readyPlain hl hc hp hu) nofun
  | awayHeld h => exact keeps_takeHeld ht rfl h fun h' _ _ => .awayHeld h'
  | openedHeld h hc hf => exact keeps_takeHeld ht rfl h fun h' _ _ => .openedHeld h' hc hf
  | sendResume h hc => exact keeps_takeHeld ht rfl h fun h' _ _ => .sendResume h' hc
  | askedResume h hc => exact keeps_takeHeld ht rfl h fun h' _ _ => .askedResume h' hc
  | refusedResume hl h hc hn =>
    refine keeps_takeHeld ht rfl h fun h' _ hle => .refusedResume hl h' hc ?_
    exact hn.imp_right fun ⟨m,hb,hm,he⟩ => ⟨m,hb,hm.trans hle,he⟩
  | @resumed _ _ s _ _ _ _ h hc hleft hm =>
    have hn : s.stream ≠ n := fun hn => hne (hn ▸ hleft)
    have hleft' : under s.stream left = [] := (under_takeUnder ht hn).trans hleft
    refine keeps_takeStray ht (.resumed (h.takeOther ht hn) hc hleft' hm) fun _ hs => hn ?_
    rw [h.session] at hs
    exact Option.some.inj hs
  | @ready _ _ s _ _ h hc hm =>
    have hn : s.stream ≠ n := fun hn => hne (hn ▸ List.prefix_nil.mp h.left)
    refine keeps_takeStray ht (.ready (h.takeOther ht hn) hc hm) fun _ hs => hn ?_
    rw [h.session] at hs
    exact Option.some.inj hs

theorem keeps_served (hsound : peer.Sound) (h : Served lossy peer client.net peer' net')
    (hw : Together lossy client peer lost later) :
    Keeps lib lossy client peer lost later { client with net := net' } peer' := by
  obtain ⟨view,net,queue,tokens,inbox⟩ := client
  cases h with
  | takeBound hc => exact keeps_takeBound hsound hc hw
  | takeManaged hc hs => exact keeps_takeManaged hsound hc hs hw
  | takeLate ht => exact keeps_takeLate ht hw
  | streamError => exact keeps_streamError hw
  | answer hc hs => exact keeps_answer hc hs hw
  | learn hc hs => exact keeps_learn hc hs hw
  | bind hc payload => exact keeps_answerBind hc payload hw
  | enable hc enabled => exact keeps_answerEnable hsound hc enabled hw
  | resume hc hs => exact keeps_answerResume hc hs hw
  | refuseEnable hl hc => exact keeps_refuseEnable hl hc hw
  | refuseResume hl hc hn => exact keeps_refuseResume hl hc hn hw
  | sendBound hc hi => exact keeps_sendBound hc hi hw
  | sendManaged hc hs hi hwin => exact keeps_sendManaged hc hs hi hwin hw
  | request hc => exact keeps_note hc (.inl rfl) hw
  | acknowledge hc hs =>
    exact keeps_note hc (.inr fun s' hs' => by cases hs.symm.trans hs'; rfl) hw
  | forget => exact keeps_forget hw

/-- A new connection: what was on its way is lost or, with a session, sent again. -/
theorem keeps_connect {features : StreamFeatures} {sm : Option (SmState ε)} (hsound : peer.Sound)
    (hv : client.view = .away sm) (hl : lossy ∨ features.streamManagement)
    (hw : Together lossy client peer lost later) :
    Keeps lib lossy client peer lost later { client with view := .opened features sm, net := ⟨[],[]⟩ }
      (peer.leave client.net.up) := by
  obtain ⟨view,⟨up,down⟩,queue,tokens,inbox⟩ := client
  obtain rfl : view = .away sm := hv
  cases hw with
  | away hu =>
    refine ⟨[],[],[],.opened rfl hl,?_,(List.append_nil _).symm,List.Sublist.refl _⟩
    rcases hu with hu | hu
    · have hr : (pipeline ⟨.away none,⟨up,down⟩,queue,tokens,inbox⟩ peer []).rest =
          entriesOf up ++ ([] ++ queue) := List.append_assoc _ [] queue
      cases hp : peer.present with
      | none =>
        have hl : (peer.leave up).left = peer.left := by simp [Peer.leave,hp]
        refine .single ?_
        show Flow lib lossy _ ⟨_,(peer.leave up).left,_,_⟩
        rw [hl]
        exact .lose (n := 0) hu hr (.nothing _ _ _)
      | some n =>
        have hl : (peer.leave up).left = peer.left ++ (entriesOf up).map (n,·) := by simp [Peer.leave,hp]
        refine .single ?_
        show Flow lib lossy _ ⟨_,(peer.leave up).left,_,_⟩
        rw [hl]
        exact .lose hu hr (.everything _ _ _)
    · have hl : (peer.leave up).left = peer.left := by
        rw [Peer.leave,show entriesOf up = [] from hu]
        cases peer.present <;> simp
      show Flows lib lossy ⟨_,_,entriesOf up ++ [] ++ queue,_⟩ ⟨_,(peer.leave up).left,_,_⟩
      rw [show entriesOf up = [] from hu,hl]
      exact .refl
  | @awayHeld _ _ _ s b c h =>
    have hidle : peer.conn = .managed → under s.stream peer.left = [] := fun hc =>
      hsound.idle _ (by rw [Peer.present,hc,h.session]; rfl)
    refine ⟨entriesOf up ++ lost,s.sent.drop c,[],.openedHeld (h.connect hidle) rfl hl,?_,
      (List.append_nil _).symm,?_⟩
    · show Flows lib lossy ⟨_,peer.strays true,_,_⟩ ⟨_,(peer.leave up).strays true,_,_⟩
      rw [h.strays_leave]
      exact .refl
    · rw [List.append_nil]

theorem sound_step {client' : Client ε} (hs : peer.Sound)
    (h : SystemStep lib lossy (client,peer) (client',peer')) : peer'.Sound := by
  cases h with
  | client h => exact hs
  | connect hv hl => exact hs.leave _
  | peer hl h => exact hs.served (Peer.step_served hl h)

/-- Every step keeps worker and peer together. -/
theorem keeps_step {client' : Client ε} (hsound : peer.Sound)
    (h : SystemStep lib lossy (client,peer) (client',peer'))
    (hw : Together lossy client peer lost later) :
    Keeps lib lossy client peer lost later client' peer' := by
  cases h with
  | client h => exact keeps_clientStep h hw
  | connect hv hl => exact keeps_connect hsound hv hl hw
  | peer hl h => exact keeps_served hsound (Peer.step_served hl h) hw

end MindChat.StanzaStream
