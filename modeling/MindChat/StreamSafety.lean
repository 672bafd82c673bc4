import MindChat.StreamWires

/-! Every step of the worker and of the peer keeps them together: the stanzas to the
peer flow on, and what is handed on was sent and comes in its order. -/

namespace MindChat.StanzaStream

open ReliableLink
open Polling

variable {ε : Type} {lossy : Prop}
variable {client client' : Client ε} {peer peer' : Peer ε}
variable {lost : List (QueueEntry ε)} {later : List (Item ε)}

variable {lib : Library ε}

/-- The worker and the peer fit together. -/
def Together (lossy : Prop) (client : Client ε) (peer : Peer ε) (lost : List (QueueEntry ε))
    (later : List (Item ε)) : Prop :=
  Wired lossy client.inbox peer client.view client.net lost later

/-- A step keeps worker and peer together, with what it does to the stanzas of either
direction. -/
def Keeps (lib : Library ε) (lossy : Prop) (client : Client ε) (peer : Peer ε)
    (lost : List (QueueEntry ε)) (later : List (Item ε)) (client' : Client ε) (peer' : Peer ε) : Prop :=
  ∃ lost' later' more, Together lossy client' peer' lost' later' ∧
    Flows lib lossy (pipeline client peer lost) (pipeline client' peer' lost') ∧
    peer'.sentAll = peer.sentAll ++ more ∧
    (client'.inbox ++ stanzasOf later').Sublist (client.inbox ++ stanzasOf (later ++ more))

namespace Wired

variable {inbox : List (Stanza ε)} {view : View ε} {net : XmppStream ε}

/-- Without a session nothing is kept to be sent again, and where nothing may get lost
nothing is on its way. -/
theorem idle (hw : Wired lossy inbox peer view net lost later) (hsm : view.sm = none) :
    lost = [] ∧ (view = .finished ∨ lossy ∨ entriesOf net.up = []) := by
  cases hw with
  | away hu => exact ⟨rfl,.inr hu⟩
  | finished => exact ⟨rfl,.inl rfl⟩
  | refusedEnable hl => exact ⟨rfl,.inr (.inl hl)⟩
  | readyPlain hl => exact ⟨rfl,.inr (.inl hl)⟩
  | opened => exact ⟨rfl,.inr (.inr rfl)⟩
  | sendBind => exact ⟨rfl,.inr (.inr rfl)⟩
  | askedBind => exact ⟨rfl,.inr (.inr rfl)⟩
  | answeredBind => exact ⟨rfl,.inr (.inr rfl)⟩
  | sendEnable => exact ⟨rfl,.inr (.inr rfl)⟩
  | askedEnable => exact ⟨rfl,.inr (.inr rfl)⟩
  | enabled => exact ⟨rfl,.inr (.inr rfl)⟩
  | awayHeld => cases hsm
  | openedHeld => cases hsm
  | sendResume => cases hsm
  | askedResume => cases hsm
  | refusedResume => cases hsm
  | resumed => cases hsm
  | ready => cases hsm

theorem held {sm : SmState ε} (hw : Wired lossy inbox peer view net lost later)
    (hsm : view.sm = some sm) : ∃ s b c,
      Held net.up inbox peer sm lost s b c ∧ later = s.sent.drop c := by
  cases hw with
  | awayHeld h => cases hsm; exact ⟨_,_,_,h,rfl⟩
  | openedHeld h => cases hsm; exact ⟨_,_,_,h,rfl⟩
  | sendResume h => cases hsm; exact ⟨_,_,_,h,rfl⟩
  | askedResume h => cases hsm; exact ⟨_,_,_,h,rfl⟩
  | refusedResume _ h => cases hsm; exact ⟨_,_,_,h,rfl⟩
  | resumed h => cases hsm; exact ⟨_,_,_,h,rfl⟩
  | ready h => cases hsm; exact ⟨_,_,_,h,rfl⟩
  | _ => cases hsm

theorem lost_of_ready {sm : Option (SmState ε)}
    (hw : Wired lossy inbox peer (.ready sm) net lost later) : lost = [] := by
  cases hw <;> rfl

end Wired

theorem keeps_of_client {lost' : List (QueueEntry ε)} {later' : List (Item ε)}
    (hw : Together lossy client' peer lost' later')
    (hf : Flows lib lossy (pipeline client peer lost) (pipeline client' peer lost'))
    (hs : (client'.inbox ++ stanzasOf later').Sublist (client.inbox ++ stanzasOf later)) :
    Keeps lib lossy client peer lost later client' peer :=
  ⟨lost',later',[],hw,hf,(List.append_nil _).symm,by rwa [List.append_nil]⟩

/-- What was lost is given up, but some of it may still come in. -/
theorem flows_giveUp (hw : Together lossy client peer lost later) (hl : lossy ∨ lost = []) :
    Flows lib lossy (pipeline client peer lost) { pipeline client peer [] with strays := peer.left } := by
  cases hsm : client.view.sm with
  | none =>
    obtain ⟨rfl,-⟩ := hw.idle hsm
    have hp : peer.strays client.view.sm.isSome = peer.left := by
      rw [hsm]
      rfl
    rw [← hp]
    exact .refl
  | some sm =>
    obtain ⟨s,b,c,h,-⟩ := hw.held hsm
    have hp : peer.strays client.view.sm.isSome = peer.left.filter (·.1 ≠ s.stream) := by
      rw [hsm]
      exact Peer.strays_held h.session
    rcases hl with hl | rfl
    · have hr : (pipeline client peer lost).rest = lost ++ (entriesOf client.net.up ++ [] ++ client.queue) := by
        show entriesOf client.net.up ++ lost ++ client.queue = _
        rcases h.apart with rfl | hu
        · rfl
        · rw [hu]
          rfl
      refine .single (.lose (n := s.stream) hl hr ?_)
      show Astray s.stream lost (peer.strays client.view.sm.isSome) peer.left
      rw [hp]
      exact .of_under h.left.sublist
    · have hi : peer.strays client.view.sm.isSome = peer.left := by
        rw [hsm]
        exact Peer.strays_idle h.session (List.prefix_nil.mp h.left)
      rw [← hi]
      exact .refl

theorem keeps_giveUp (hw : Together lossy client peer lost later) (hw' : Together lossy client' peer [] [])
    (hf : Flows lib lossy { pipeline client peer [] with strays := peer.left } (pipeline client' peer []))
    (hi : client'.inbox <+: client.inbox) (hl : lossy ∨ lost = []) :
    Keeps lib lossy client peer lost later client' peer := by
  refine keeps_of_client hw' ((flows_giveUp hw hl).trans hf) ?_
  show (client'.inbox ++ []).Sublist _
  rw [List.append_nil]
  exact hi.sublist.trans (List.sublist_append_left _ _)

theorem keeps_drop (hw : Together lossy client peer lost later)
    (hl : lossy ∨ client.view.sm = none) (hv : client.view ≠ .finished) :
    Keeps lib lossy client peer lost later { client with view := .away none } peer := by
  rcases hl with hl | hsm
  · exact keeps_giveUp hw (.away (.inl hl)) .refl (List.prefix_refl _) (.inl hl)
  · obtain ⟨hlost,hu⟩ := hw.idle hsm
    exact keeps_giveUp hw (.away (hu.resolve_left hv)) .refl (List.prefix_refl _) (.inr hlost)

theorem keeps_leave (hw : Together lossy client peer lost later) (hv : client.view ≠ .finished) :
    Keeps lib lossy client peer lost later { client with view := .away client.view.sm } peer := by
  cases hsm : client.view.sm with
  | none => exact keeps_drop hw (.inr hsm) hv
  | some sm =>
    obtain ⟨s,b,c,h,rfl⟩ := hw.held hsm
    have hp : pipeline { client with view := .away (some sm) } peer lost = pipeline client peer lost := by
      unfold pipeline
      rw [hsm]
      rfl
    exact keeps_of_client (.awayHeld h) (hp ▸ .refl) (List.Sublist.refl _)

theorem keeps_finish {inbox : List (Stanza ε)} (hw : Together lossy client peer lost later)
    (hi : inbox <+: client.inbox)
    (hl : lossy ∨ client.view.sm = none ∨ ∃ sm, client.view = .ready sm) :
    Keeps lib lossy client peer lost later { client with view := .finished, inbox := inbox } peer := by
  refine keeps_giveUp hw .finished .refl hi ?_
  rcases hl with hl | hsm | ⟨sm,hr⟩
  · exact .inl hl
  · exact .inr (hw.idle hsm).1
  · unfold Together at hw
    rw [hr] at hw
    exact .inr hw.lost_of_ready

theorem keeps_fail (hw : Together lossy client peer lost later) (hl : lossy) (error : OpaqueIoError) :
    Keeps lib lossy client peer lost later { client with
      view := .away none, queue := []
      tokens := client.tokens.sendReplaceAll client.queue (.failed error) } peer := by
  refine keeps_giveUp hw (.away (.inl hl)) ?_ (List.prefix_refl _) (.inl hl)
  have hr : { pipeline client peer [] with strays := peer.left }.rest =
    (entriesOf client.net.up ++ []) ++ client.queue := rfl
  have hf : Flows lib lossy _ _ := .failAll hl hr error
  show Flows lib lossy _ ⟨peer.log,peer.left,_,_⟩
  simpa [pipeline] using hf

theorem keeps_quiet {tx tx' : Tx ε} {inbox : List (Stanza ε)} (h : tx.SameLink tx')
    (hw : Together lossy (.ofTx tx inbox) peer lost later) :
    Keeps lib lossy (.ofTx tx inbox) peer lost later (.ofTx tx' inbox) peer := by
  obtain ⟨acks,req,hsm⟩ := h.sm
  have hc' : Client.ofTx tx' inbox = { Client.ofTx tx inbox with view := .ready tx'.sm } := by
    simp only [Client.ofTx,Client.of,h.stream,h.entries,h.tokens]
  rw [hc',hsm]
  obtain ⟨sm,io⟩ := tx
  cases hw with
  | readyPlain hl hc hp hu =>
    exact keeps_of_client (.readyPlain hl hc hp hu) .refl (List.Sublist.refl _)
  | ready h hc hm =>
    exact keeps_of_client (.ready (h.notes acks req) hc hm) .refl (List.Sublist.refl _)

theorem keeps_nonza {sm : SmState ε} {io : Io ε} {nonza : Nonza} {inbox : List (Stanza ε)}
    (hn : nonza = .req ∨ nonza = .ack sm.inboundCtr)
    (hw : Together lossy (.ofTx ⟨some sm,io⟩ inbox) peer lost later) :
    Keeps lib lossy (.ofTx ⟨some sm,io⟩ inbox) peer lost later
      (.ofTx ⟨some sm,io.send (.sm nonza)⟩ inbox) peer := by
  have he : entriesOf (io.stream.up ++ [.sm nonza]) = entriesOf io.stream.up := by
    rw [entriesOf_append]
    exact List.append_nil _
  cases hw with
  | ready h hc hm =>
    rename_i s b c
    have hh : Held (io.stream.up ++ [.sm nonza]) inbox peer sm [] s b c := by
      rcases hn with rfl | rfl
      · exact h.request
      · exact h.acknowledge
    refine keeps_of_client (.ready hh hc hm) ?_ (List.Sublist.refl _)
    show Flows lib lossy _ ⟨_,_,entriesOf (io.stream.up ++ [.sm nonza]) ++ [] ++ _,_⟩
    rw [he]
    exact .refl

theorem keeps_transmit {tx : Tx ε} {entry : QueueEntry ε} {queue : TransmitQueue ε}
    {inbox : List (Stanza ε)} (hq : tx.io.queue.entries = entry :: queue.entries)
    (hroom : ∀ st ∈ tx.sm, st.unackedStanzas.length < SmState.maxQueueSize)
    (hw : Together lossy (.ofTx tx inbox) peer lost later) :
    Keeps lib lossy (.ofTx tx inbox) peer lost later (.ofTx
      ⟨tx.sm.map fun st => { st with unackedStanzas := st.unackedStanzas ++ [entry] },
        { tx.io.send (.stanza entry) with
          queue := queue, tokens := tx.io.tokens.sendReplace entry .sent }⟩ inbox) peer := by
  have hflow : Flows lib lossy (pipeline (.ofTx tx inbox) peer [])
      ⟨peer.log,peer.strays tx.sm.isSome,entriesOf (tx.io.stream.up ++ [.stanza entry]) ++ [] ++ queue.entries,
        tx.io.tokens.sendReplace entry .sent⟩ := by
    have he : entriesOf (tx.io.stream.up ++ [.stanza entry]) ++ [] ++ queue.entries =
        (pipeline (.ofTx tx inbox) peer []).rest := by
      show _ = entriesOf tx.io.stream.up ++ [] ++ tx.io.queue.entries
      rw [hq,entriesOf_append,List.append_nil,List.append_nil,List.append_assoc]
      rfl
    rw [he]
    refine .single (.sent (p := pipeline (.ofTx tx inbox) peer []) ?_)
    rw [← he]
    simp [entriesOf,Outgoing.entry]
  obtain ⟨sm,io⟩ := tx
  cases hw with
  | readyPlain hl hc hp hu =>
    refine keeps_of_client (.readyPlain hl hc hp fun element hm => ?_) hflow (List.Sublist.refl _)
    rcases List.mem_append.mp hm with hm | hm
    · exact hu element hm
    · exact ⟨entry,List.mem_singleton.mp hm⟩
  | ready h hc hm =>
    exact keeps_of_client (.ready (h.transmit hc (hroom _ rfl) entry) hc hm) hflow
      (List.Sublist.refl _)

theorem keeps_reject {tx : Tx ε} {entry : QueueEntry ε} {queue : TransmitQueue ε}
    {error : OpaqueIoError} {inbox : List (Stanza ε)}
    (hs : lib.serialise entry.stanza = some error)
    (hq : tx.io.queue.entries = entry :: queue.entries)
    (hw : Together lossy (.ofTx tx inbox) peer lost later) :
    Keeps lib lossy (.ofTx tx inbox) peer lost later (.ofTx { tx with io := { tx.io with
      queue := queue, tokens := tx.io.tokens.sendReplace entry (.failed error) } } inbox) peer := by
  obtain ⟨sm,io⟩ := tx
  obtain rfl : lost = [] := hw.lost_of_ready
  have hr : (pipeline (.ofTx ⟨sm,io⟩ inbox) peer []).rest =
      (entriesOf io.stream.up ++ []) ++ entry :: queue.entries := by
    show _ ++ io.queue.entries = _
    rw [hq]
    rfl
  refine keeps_of_client ?_ (.single (.fail hr (.inr hs))) (List.Sublist.refl _)
  cases hw with
  | readyPlain hl hc hp hu => exact .readyPlain hl hc hp hu
  | ready h hc hm => exact .ready h hc hm

theorem keeps_write {tx tx' : Tx ε} {inbox : List (Stanza ε)} (h : Wrote lib tx tx')
    (hw : Together lossy (.ofTx tx inbox) peer lost later) :
    Keeps lib lossy (.ofTx tx inbox) peer lost later (.ofTx tx' inbox) peer := by
  cases h with
  | quiet h => exact keeps_quiet h hw
  | nonza hsm hn =>
    obtain ⟨sm,io⟩ := tx
    cases hsm
    exact keeps_nonza hn hw
  | stanza hs hq hc hroom hk =>
    subst hk
    exact keeps_transmit hq hroom hw
  | failed hs hq hc => exact keeps_reject hs hq hw

theorem keeps_begin {features : StreamFeatures} {sm : Option (SmState ε)} {state : NegotiationState ε}
    (hv : client.view = .opened features sm) (hn : NegotiationState.new features sm = .ok state)
    (hw : Together lossy client peer lost later) :
    Keeps lib lossy client peer lost later { client with view := .negotiating state } peer := by
  obtain ⟨view,net,queue,tokens,inbox⟩ := client
  obtain rfl : view = .opened features sm := hv
  unfold NegotiationState.new at hn
  cases id hw with
  | opened hc hf =>
    rw [if_neg (by simp)] at hn
    split at hn
    · cases hn
      exact keeps_of_client (.sendBind hc hf) .refl (List.Sublist.refl _)
    · cases hn
  | openedHeld h hc hf =>
    split at hn
    · cases hn
      exact keeps_of_client (.sendResume h hc) .refl (List.Sublist.refl _)
    · rename_i hsm
      have hl : lossy := hf.resolve_right fun hf => hsm ⟨rfl,hf⟩
      split at hn
      · cases hn
        exact keeps_giveUp hw (.sendBind hc (.inl hl)) .refl (List.prefix_refl _) (.inl hl)
      · cases hn

theorem keeps_bind {smSupported : Bool} (resource : Option String)
    (hv : client.view = .negotiating (.sendBindRequest smSupported))
    (hw : Together lossy client peer lost later) :
    Keeps lib lossy client peer lost later { client with
      view := .negotiating (.receiveBindResponse smSupported)
      net.up := client.net.up ++ [.bind resource] } peer := by
  obtain ⟨view,net,queue,tokens,inbox⟩ := client
  obtain rfl : view = .negotiating (.sendBindRequest smSupported) := hv
  cases hw with
  | sendBind hc hf => exact keeps_of_client (.askedBind hc hf) .refl (List.Sublist.refl _)

theorem keeps_manage {sm : Option (SmState ε)} {jid : Option Jid}
    (hv : client.view = .negotiating (.sendSmRequest sm jid))
    (hw : Together lossy client peer lost later) :
    Keeps lib lossy client peer lost later { client with
      view := .negotiating (.receiveSmResponse sm jid)
      net.up := client.net.up ++ [.sm (NegotiationState.smRequest sm)] } peer := by
  obtain ⟨view,net,queue,tokens,inbox⟩ := client
  obtain rfl : view = .negotiating (.sendSmRequest sm jid) := hv
  cases hw with
  | sendEnable hc hp => exact keeps_of_client (.askedEnable hc hp) .refl (List.Sublist.refl _)
  | sendResume h hc => exact keeps_of_client (.askedResume h.askResume hc) .refl (List.Sublist.refl _)

theorem sublist_read (inbox : List (Stanza ε)) (item : Item ε) (rest : List (Item ε)) :
    (inbox ++ (Item.parsed item).toList ++ stanzasOf rest).Sublist
      (inbox ++ stanzasOf (item :: rest)) := by
  rw [List.append_assoc]
  refine List.Sublist.append (List.Sublist.refl _) ?_
  unfold stanzasOf
  cases hp : Item.parsed item with
  | none => rw [List.filterMap_cons_none hp]; exact List.Sublist.refl _
  | some stanza => rw [List.filterMap_cons_some hp]; exact List.Sublist.refl _

theorem keeps_readPlain {item : Item ε} {down : List (Item ε)} {view : View ε}
    {queue queue' : List (QueueEntry ε)} {tokens tokens' : Tokens} {got inbox : List (Stanza ε)}
    {up : List (Outgoing ε)} (hr : Reads lib item (.ready none) queue tokens view queue' tokens' got)
    (hl : lossy) (hc : peer.conn = .bound) (hp : Plain (item :: down))
    (hu : ∀ element ∈ up, ∃ entry, element = .stanza entry) :
    Keeps lib lossy ⟨.ready none,⟨up,item :: down⟩,queue,tokens,inbox⟩ peer [] (item :: down)
      ⟨view,⟨up,down⟩,queue',tokens',inbox ++ got⟩ peer := by
  have hw : Wired lossy (inbox ++ got) peer (.ready none) ⟨up,down⟩ [] down :=
    .readyPlain hl hc hp.tail hu
  cases hr with
  | stanza stanza =>
    exact keeps_of_client hw .refl (sublist_read inbox (.ok (.ok (.stanza stanza))) down)
  | @invalid _ _ _ text e =>
    exact keeps_of_client hw .refl (sublist_read inbox (.ok (.error (.invalidStanza text e))) down)
  | other h =>
    match item,hp.head with
    | .ok (.ok (.stanza stanza)),_ => cases h
    | .ok (.error (.invalidStanza text e)),_ => cases h

theorem keeps_readReady {sm : SmState ε} {item : Item ε} {down : List (Item ε)} {view : View ε}
    {queue queue' : List (QueueEntry ε)} {tokens tokens' : Tokens} {got inbox : List (Stanza ε)}
    {up : List (Outgoing ε)} {s : Session ε} {b c : ℕ}
    (hr : Reads lib item (.ready (some sm)) queue tokens view queue' tokens' got)
    (h : Held up inbox peer sm [] s b c) (hc : peer.conn = .managed)
    (hm : Managed (item :: down) s b c) :
    Keeps lib lossy ⟨.ready (some sm),⟨up,item :: down⟩,queue,tokens,inbox⟩ peer [] (s.sent.drop c)
      ⟨view,⟨up,down⟩,queue',tokens',inbox ++ got⟩ peer := by
  cases hr with
  | stanza stanza =>
    obtain ⟨h',hd⟩ := h.receive (hm.counted rfl)
    refine keeps_of_client (.ready h' hc (hm.tail_counted rfl hd)) .refl ?_
    rw [hm.counted rfl,hd]
    exact sublist_read inbox (.ok (.ok (.stanza stanza))) _
  | @invalid _ _ _ text e =>
    obtain ⟨h',hd⟩ := h.receive (hm.counted rfl)
    refine keeps_of_client (.ready h' hc (hm.tail_counted rfl hd)) .refl ?_
    rw [hm.counted rfl,hd]
    exact sublist_read inbox (.ok (.error (.invalidStanza text e))) _
  | acked hr =>
    obtain ⟨m,hb,hle,rfl,hm'⟩ := hm.tail_ack h.received_sub_lt
    rw [h.remoteAcked hb hle] at hr
    cases hr
    rw [List.append_nil]
    refine keeps_of_client (.ready (h.learn hb hle) hc hm') ?_ (List.Sublist.refl _)
    exact .ackAll (p := pipeline _ peer []) fun entry he => h.confirmed hle he
  | tooHigh hr =>
    obtain ⟨m,hb,hle,rfl,hm'⟩ := hm.tail_ack h.received_sub_lt
    rw [h.remoteAcked hb hle] at hr
    cases hr
  | req acks =>
    rw [List.append_nil]
    exact keeps_of_client (.ready (h.notes acks sm.pendingReq) hc hm.tail_req) .refl
      (List.Sublist.refl _)
  | other hother =>
    rcases hm.kinds item List.mem_cons_self with hi | ⟨n,rfl⟩ | rfl
    · match item,hi with
      | .ok (.ok (.stanza stanza)),_ => cases hother
      | .ok (.error (.invalidStanza text e)),_ => cases hother
    · cases hother
    · cases hother

theorem keeps_readBind {smSupported : Bool} {item : Item ε} {down : List (Item ε)} {view : View ε}
    {queue queue' : List (QueueEntry ε)} {tokens tokens' : Tokens} {got inbox : List (Stanza ε)}
    {up : List (Outgoing ε)}
    (hr : Reads lib item (.negotiating (.receiveBindResponse smSupported)) queue tokens
      view queue' tokens' got)
    (hw : Wired lossy inbox peer (.negotiating (.receiveBindResponse smSupported)) ⟨up,item :: down⟩
      lost later) :
    Keeps lib lossy ⟨.negotiating (.receiveBindResponse smSupported),⟨up,item :: down⟩,queue,tokens,inbox⟩
      peer lost later ⟨view,⟨up,down⟩,queue',tokens',inbox ++ got⟩ peer := by
  cases id hw with
  | answeredBind hc hf hp =>
    cases hr with
    | bound hid hb hv =>
      rw [List.append_nil]
      subst hv
      cases smSupported with
      | true => exact keeps_of_client (.sendEnable hc hp) .refl (List.Sublist.refl _)
      | false =>
        have hl : lossy := hf.resolve_right Bool.false_ne_true
        exact keeps_of_client (.readyPlain hl hc hp nofun) .refl (List.Sublist.refl _)
    | notBound =>
      rw [List.append_nil]
      exact keeps_giveUp hw (.away (.inr rfl)) .refl (List.prefix_refl _) (.inr rfl)
    | other h =>
      have ht : decide (bindReqId = bindReqId) = true := decide_eq_true rfl
      cases ht.symm.trans h

/-- Stanzas may come in front of the answer about stream management. -/
theorem keeps_readEarly {jid : Jid} {item : Item ε} {down later' : List (Item ε)} {view : View ε}
    {queue queue' : List (QueueEntry ε)} {tokens tokens' : Tokens} {got inbox : List (Stanza ε)}
    {up : List (Outgoing ε)}
    (hr : Reads lib item (.negotiating (.receiveSmResponse none (some jid))) queue tokens
      view queue' tokens' got) (hi : Item.counted item) (hup : entriesOf up = [])
    (hw : ∀ inbox, Wired lossy inbox peer (.negotiating (.receiveSmResponse none (some jid)))
      ⟨up,down⟩ [] later') :
    Keeps lib lossy
      ⟨.negotiating (.receiveSmResponse none (some jid)),⟨up,item :: down⟩,queue,tokens,inbox⟩
      peer [] (item :: later') ⟨view,⟨up,down⟩,queue',tokens',inbox ++ got⟩ peer := by
  cases hr with
  | early stanza =>
    exact keeps_of_client (hw _) .refl (sublist_read inbox (.ok (.ok (.stanza stanza))) later')
  | earlyInvalid =>
    rw [List.append_nil]
    exact keeps_of_client (.away (.inr hup)) .refl
      ((List.append_nil inbox).symm ▸ List.sublist_append_left _ _)
  | enabled => cases hi
  | notEnabled => cases hi
  | other h =>
    match item,hi with
    | .ok (.ok (.stanza stanza)),_ => cases h
    | .ok (.error (.invalidStanza text e)),_ => cases h

theorem keeps_readEnable {jid : Option Jid} {item : Item ε} {down : List (Item ε)} {view : View ε}
    {queue queue' : List (QueueEntry ε)} {tokens tokens' : Tokens} {got inbox : List (Stanza ε)}
    {up : List (Outgoing ε)}
    (hr : Reads lib item (.negotiating (.receiveSmResponse none jid)) queue tokens
      view queue' tokens' got)
    (hw : Wired lossy inbox peer (.negotiating (.receiveSmResponse none jid)) ⟨up,item :: down⟩
      lost later) :
    Keeps lib lossy ⟨.negotiating (.receiveSmResponse none jid),⟨up,item :: down⟩,queue,tokens,inbox⟩
      peer lost later ⟨view,⟨up,down⟩,queue',tokens',inbox ++ got⟩ peer := by
  generalize hnet : (⟨up,item :: down⟩ : XmppStream ε) = net at hw
  cases hw with
  | askedEnable hc hp =>
    obtain ⟨rfl,rfl⟩ := XmppStream.mk.inj hnet
    exact keeps_readEarly hr hp.head rfl fun _ => .askedEnable hc hp.tail
  | @refusedEnable _ pre post hl hc hp hq =>
    obtain ⟨rfl,hd⟩ := XmppStream.mk.inj hnet
    cases pre with
    | cons first pre =>
      obtain ⟨rfl,rfl⟩ := List.cons.inj hd
      exact keeps_readEarly hr hp.head rfl fun _ => .refusedEnable hl hc hp.tail hq
    | nil =>
      obtain ⟨rfl,rfl⟩ := List.cons.inj hd
      cases hr with
      | notEnabled =>
        rw [List.append_nil]
        exact keeps_of_client (.readyPlain hl hc hq nofun) .refl (List.Sublist.refl _)
      | other h => cases h
  | @enabled _ pre post enabled s hc hp hs hleft hrec ha hlen hm =>
    obtain ⟨rfl,hd⟩ := XmppStream.mk.inj hnet
    cases pre with
    | cons first pre =>
      obtain ⟨rfl,rfl⟩ := List.cons.inj hd
      exact keeps_readEarly hr hp.head rfl fun _ =>
        .enabled hc hp.tail hs hleft hrec ha hlen hm
    | nil =>
      obtain ⟨rfl,rfl⟩ := List.cons.inj hd
      cases hr with
      | enabled =>
        rw [List.append_nil]
        refine keeps_of_client (.ready (Held.ofEnabled hs hleft hrec ha hlen hc hm) hc hm) ?_
          (List.Sublist.refl _)
        show Flows lib lossy ⟨_,peer.left,_,_⟩ ⟨_,peer.strays true,_,_⟩
        rw [Peer.strays_idle hs hleft]
      | other h => cases h

theorem flows_failed {sm : SmState ε} {inbox : List (Stanza ε)} {s : Session ε} {b c : ℕ}
    {n : Option (BitVec 32)} (h : Held [] inbox peer sm lost s b c)
    (hn : n = none ∨ ∃ m, b ≤ m ∧ m ≤ s.received.length ∧ n = some (BitVec.ofNat 32 m))
    {p : Pipeline ε} (hp : p.handled = peer.log) :
    Flows lib lossy p { p with tokens := tokensOfFailed sm p.tokens n } := by
  rcases hn with rfl | ⟨m,hb,hm,rfl⟩
  · exact .refl
  · unfold tokensOfFailed
    rw [Option.map_some,h.remoteAcked hb hm]
    refine .ackAll fun entry he => ?_
    rw [hp]
    exact h.confirmed hm he

/-- The peer's count on resumption: what it has goes, the rest is sent again. -/
theorem resume_count {sm : SmState ε} {inbox : List (Stanza ε)} {s : Session ε} {b c : ℕ}
    (h : Held [] inbox peer sm lost s b c) (tokens : Tokens) : sm.resume tokens s.count =
      .ok (lost,{ sm.acknowledged b s.received.length with unackedStanzas := [] },
        tokens.sendReplaceAll (sm.unackedStanzas.take (s.received.length - b)) .acked) := by
  have hlost : sm.unackedStanzas.drop (s.received.length - b) = lost := h.link.lost_eq rfl
  unfold SmState.resume Session.count
  rw [h.remoteAcked h.link.le (Nat.le_refl _)]
  show Except.ok (sm.unackedStanzas.drop (s.received.length - b),_,_) = _
  rw [hlost]

theorem keeps_readResume {sm : SmState ε} {jid : Option Jid} {item : Item ε} {down : List (Item ε)}
    {view : View ε} {queue queue' : List (QueueEntry ε)} {tokens tokens' : Tokens}
    {got inbox : List (Stanza ε)} {up : List (Outgoing ε)}
    (hr : Reads lib item (.negotiating (.receiveSmResponse (some sm) jid)) queue tokens
      view queue' tokens' got)
    (hw : Wired lossy inbox peer (.negotiating (.receiveSmResponse (some sm) jid)) ⟨up,item :: down⟩
      lost later) :
    Keeps lib lossy ⟨.negotiating (.receiveSmResponse (some sm) jid),⟨up,item :: down⟩,queue,tokens,inbox⟩
      peer lost later ⟨view,⟨up,down⟩,queue',tokens',inbox ++ got⟩ peer := by
  cases id hw with
  | refusedResume hl h hc hn =>
    cases hr with
    | notResumed =>
      rw [List.append_nil]
      exact keeps_giveUp hw (.sendBind hc (.inl hl)) (flows_failed h hn rfl) (List.prefix_refl _) (.inl hl)
    | other h => cases h
  | resumed h hc hleft hm =>
    cases hr with
    | resumed hr =>
      rw [resume_count h] at hr
      cases hr
      rw [List.append_nil]
      refine keeps_of_client (.ready (h.resumed hleft) hc hm) ?_ (List.Sublist.refl _)
      exact .ackAll (p := pipeline _ peer lost) fun entry he => h.confirmed (Nat.le_refl _) he
    | resumedTooHigh hr =>
      rw [resume_count h] at hr
      cases hr
    | other h => cases h

theorem keeps_read {item : Item ε} {down : List (Item ε)} {view : View ε} {queue : List (QueueEntry ε)}
    {tokens : Tokens} {got : List (Stanza ε)} (hv : client.view.reading)
    (hd : client.net.down = item :: down)
    (hr : Reads lib item client.view client.queue client.tokens view queue tokens got)
    (hw : Together lossy client peer lost later) : Keeps lib lossy client peer lost later
      ⟨view,{ client.net with down := down },queue,tokens,client.inbox ++ got⟩ peer := by
  obtain ⟨view₀,⟨up,down₀⟩,queue₀,tokens₀,inbox⟩ := client
  obtain rfl : down₀ = item :: down := hd
  match view₀ with
  | .ready none =>
    obtain rfl : lost = [] := hw.lost_of_ready
    generalize hnet : (⟨up,item :: down⟩ : XmppStream ε) = net at hw
    cases hw with
    | readyPlain hl hc hp hu =>
      subst hnet
      exact keeps_readPlain hr hl hc hp hu
  | .ready (some sm) =>
    cases hw with
    | ready h hc hm => exact keeps_readReady hr h hc hm
  | .negotiating (.receiveBindResponse smSupported) => exact keeps_readBind hr hw
  | .negotiating (.receiveSmResponse none jid) => exact keeps_readEnable hr hw
  | .negotiating (.receiveSmResponse (some sm) jid) => exact keeps_readResume hr hw
  | .negotiating (.sendBindRequest smSupported) => cases hv
  | .negotiating (.sendSmRequest sm jid) => cases hv
  | .away sm => cases hv
  | .opened features sm => cases hv
  | .finished => cases hv

theorem keeps_clientStep (h : ClientStep lib lossy client client')
    (hw : Together lossy client peer lost later) :
    Keeps lib lossy client peer lost later client' peer := by
  cases h with
  | write h => exact keeps_write h hw
  | @insert _ front back stanza hq =>
    have hr : (pipeline client peer lost).rest =
        (entriesOf client.net.up ++ lost ++ front) ++ back := by
      show entriesOf client.net.up ++ lost ++ client.queue = _
      rw [hq,List.append_assoc _ front back]
    have hf : Flow lib lossy (pipeline client peer lost) _ := .insert stanza hr
    rw [List.append_assoc _ front] at hf
    exact keeps_of_client hw (.single hf) (List.Sublist.refl _)
  | leave hv => exact keeps_leave hw hv
  | drop hl hv => exact keeps_drop hw hl hv
  | fail hl hv error => exact keeps_fail hw hl error
  | finish hi hl => exact keeps_finish hw hi hl
  | begin hv hn => exact keeps_begin hv hn hw
  | bind resource hv => exact keeps_bind resource hv hw
  | manage hv => exact keeps_manage hv hw
  | read hv hd hr => exact keeps_read hv hd hr hw
  | ignore hv down =>
    obtain ⟨view,net,queue,tokens,inbox⟩ := client
    obtain rfl : view = .away none := hv
    cases hw with
    | away hu => exact keeps_of_client (.away hu) .refl (List.Sublist.refl _)
  | streamError hv error =>
    obtain ⟨view,⟨up,down⟩,queue,tokens,inbox⟩ := client
    obtain rfl : view = .away none := hv
    have he : entriesOf (up ++ [.streamError error]) = entriesOf up := by
      rw [entriesOf_append]
      exact List.append_nil _
    cases hw with
    | away hu =>
      refine keeps_of_client (.away (hu.imp_right he.trans)) ?_ (List.Sublist.refl _)
      show Flows lib lossy _ ⟨_,_,entriesOf (up ++ [.streamError error]) ++ [] ++ queue,_⟩
      rw [he]
      exact .refl

end MindChat.StanzaStream
