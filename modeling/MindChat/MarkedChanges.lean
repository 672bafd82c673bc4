import MindChat.GatewayService

/-! Every durable change of a call is marked or saved by the time the call returns,
unless the call is a registration that strands its account. -/

namespace MindChat

variable {T : Type} [XmppTransport T] {codec : Codec} {backend : CryptoBackend} {path : String}
  {s t : GatewayState T}

/-- A run in which no registration strands its account. -/
def SafeGatewayRun (codec : Codec) (backend : CryptoBackend) (path : String)
    (actions : List (GatewayAction T)) (s : GatewayState T) : Prop :=
  ∃ t disk, Transition.Run (Transition.Meeting (Service.Meets fun call s => ¬ GatewayCall.Loses call s)
    fun s a u => GatewayState.step codec backend path s a = some u) (.start (.installed t) disk) actions s

/-- A registration that strands its account returns with the tracker as it found it. -/
theorem loses_unmarked {i : GatewayThread} {call : GatewayCall T} (hk : NativeGateway.Good s.state)
    (hlose : call.Loses s.state) (h : (gatewayService codec backend path).RunsAlone i call s t)
    {reply : Reply} {last : ℕ} {begun : Bool} (hc : t.calls i = some ⟨call,.ret reply,last,begun⟩) :
    t.tracker = s.tracker ∧ t.saved = s.saved ∧ last = s.system.mutations + 1 ∧
      t.state.durable ≠ s.state.durable := by
  cases call with
  | registerAccount jid server displayName password exchange message =>
    obtain ⟨input,hv,hstrands⟩ := hlose
    obtain ⟨hnone,hchanged⟩ := (NativeGateway.strands_iff hk).mp hstrands
    have hbody : (GatewayCall.registerAccount jid server displayName password exchange message).body =
        NativeGateway.native (NativeGateway.bindingRegister input exchange) 
          (NativeGateway.afterRegistration message) := by
      simp only [GatewayCall.body,NativeGateway.registerAccount,hv]
    have htail : (NativeGateway.afterRegistration message
        (NativeGateway.bindingRegister input exchange s.state.session).1).Still
          (NativeGateway.durable (T := T)) := by
      rw [hnone]
      exact NativeGateway.still_refresh _
    obtain ⟨hlast,htracker,hsaved,hdurable⟩ := h.unmarked hbody hchanged htail hc rfl
    exact ⟨htracker,hsaved,hlast,fun he => hchanged (hdurable.symm.trans he)⟩
  | _ => exact hlose.elim

/-- A call that ran alone from `s` to `t` left no durable change behind, or a save
is due, or one that was taken after its last change, the one number `last`, has completed. -/
def Accounted (s t : GatewayState T) (last : ℕ) : Prop :=
  t.state.durable ≠ s.state.durable → t.tracker.requiresSave = true ∨ (0 < last ∧ last ≤ t.saved)

/-- From any state that the gateway reaches, a call that runs alone accounts for its
durable changes unless it strands an account while no save is due; and when other calls
go on between its steps, it accounts for its own wherever it returns or may be cancelled. -/
theorem durable_changes_marked (codec : Codec) (backend : CryptoBackend) (path : String) :
    (∀ actions (s t : GatewayState T) i call reply last begun,
      GatewayServiceRun codec backend path actions s →
      (gatewayService codec backend path).RunsAlone i call s t →
      t.calls i = some ⟨call,.ret reply,last,begun⟩ →
      (Accounted s t last ↔ ¬ (call.Loses s.state ∧ s.tracker.requiresSave = false))) ∧
    ∀ actions (s : GatewayState T) i call, SafeGatewayRun codec backend path actions s →
      s.calls i = some call → call.proc.leaves = true → s.Secured call.last := by
  refine ⟨fun actions s t i call reply last begun hr ha hc => ⟨?_,?_⟩,?_⟩
  · rintro hacc ⟨hlose,hdue⟩
    have hledger := hr.kept.1
    obtain ⟨htracker,hsaved,hlast,hchanged⟩ := loses_unmarked hr.kept.2.good hlose ha hc
    rcases hacc hchanged with hd | ⟨-,hd⟩
    · rw [htracker,hdue] at hd
      cases hd
    · have hle := hledger.saved_le
      omega
  · intro hn hchanged
    by_cases hlose : call.Loses s.state
    · obtain ⟨htracker,-⟩ := loses_unmarked hr.kept.2.good hlose ha hc
      rw [htracker]
      exact .inl (Bool.of_not_eq_false fun hdue => hn ⟨hlose,hdue⟩)
    · have hpos := ha.last_pos hc hchanged
      rcases ha.secured gatewayService_sound GatewayCall.coversFrom_body hr.kept.1 hr.kept.2 hlose hc rfl with
        h0 | hd | hd
      · exact absurd h0 (Nat.ne_of_gt hpos)
      · exact .inl hd
      · exact .inr ⟨hpos,hd⟩
  · rintro actions s i call ⟨t,disk,hr⟩ hc hleaves
    obtain ⟨hl,-,hcovered⟩ := Service.run_covered (J := fun _ => True) gatewayService_sound
      GatewayCall.coversFrom_body (.start _ _) (.start (good_installed t) disk)
      (fun _ _ _ h => by cases h) hr
    exact hcovered.secured hl GatewayCall.coversFrom_body trivial hc hleaves

/-- The server registers the account, and then the system has no thread left for its
session. -/
def strandedCall : GatewayCall TokioXmppTransport :=
  .registerAccount "ada@host" "host" "Ada" "secret"
    (fun t => (true,{ t with prepared := .error (.connectionFailed "Resource temporarily unavailable") }))
    (some "connection failed: Resource temporarily unavailable")

theorem stranded_registration_unmarked :
    ¬ ∀ actions (s t : GatewayState TokioXmppTransport) i call reply last begun,
      GatewayServiceRun (jsonCodec (readerOf [])) plainBackend "state" actions s →
      (gatewayService (jsonCodec (readerOf [])) plainBackend "state").RunsAlone i call s t →
      t.calls i = some ⟨call,.ret reply,last,begun⟩ → Accounted s t last := by
  have hs : (Transition.exec deviceStep firstStart (mainSteps strandedCall 3)).any (fun t =>
      t.returned .main && !t.tracker.requiresSave && decide (t.saved = 0) &&
        decide (t.state.durable ≠ firstStart.state.durable)) = true := by decide +kernel
  intro h
  obtain ⟨t,ht,hd⟩ := (Option.any_eq_true _ _).mp hs
  simp only [Bool.and_eq_true,Bool.not_eq_true',decide_eq_true_eq] at hd
  obtain ⟨⟨⟨hreturned,hdue⟩,hsaved⟩,hchanged⟩ := hd
  obtain ⟨call,reply,last,begun,hc⟩ := GatewayState.returned_cases hreturned
  have halone := runsAlone_mainSteps ht
  obtain rfl : call = strandedCall := halone.op_eq hc
  rcases h [] firstStart t .main _ reply last begun ⟨.new,∅,.nil _⟩ halone hc hchanged with hn | ⟨hpos,hle⟩
  · rw [hdue] at hn
    cases hn
  · omega

def joinedCall : GatewayCall TokioXmppTransport := .addAccount "ada@host" "host" "Ada" "secret" none

theorem durable_changes_marked_ada : ∃ t : GatewayState TokioXmppTransport,
    Transition.exec deviceStep firstStart (mainSteps joinedCall 8) = some t ∧
      t.state.durable ≠ firstStart.state.durable ∧
      (∃ last, Accounted firstStart t last ∧ t.Secured last) := by
  have hs : (Transition.exec deviceStep firstStart (mainSteps joinedCall 8)).any (fun t =>
      t.returned .main && decide (t.state.durable ≠ firstStart.state.durable)) = true := by decide +kernel
  obtain ⟨t,ht,hd⟩ := (Option.any_eq_true _ _).mp hs
  simp only [Bool.and_eq_true,decide_eq_true_eq] at hd
  obtain ⟨call,reply,last,begun,hc⟩ := GatewayState.returned_cases hd.1
  have halone := runsAlone_mainSteps ht
  obtain rfl : call = joinedCall := halone.op_eq hc
  have h := durable_changes_marked (T := TokioXmppTransport) (jsonCodec (readerOf [])) plainBackend "state"
  obtain ⟨actions,hr⟩ := halone.meeting (Service.Meets fun call s => ¬ GatewayCall.Loses call s) trivial
    fun _ _ ha hu => hu.meets ha id
  exact ⟨t,ht,hd.2,last,(h.1 [] firstStart t .main _ reply last begun ⟨.new,∅,.nil _⟩ halone hc).mpr
    fun hn => hn.1,h.2 actions t .main _ ⟨.new,∅,hr⟩ hc rfl⟩

end MindChat
