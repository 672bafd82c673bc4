import MindChat.Registration
import MindChat.SaveSnapshot
import MindChat.Sessions

/-! The gateway as a service: its main thread and its coroutines over one session,
the state file and the preferences, and a process that may end at any point and is
started again from these. -/

namespace MindChat

open MindChatCore

/-- The main thread makes the calls of the UI; the polls and the saves go on in
coroutines. -/
inductive GatewayThread
  | main
  | coroutine (n : ℕ)
  deriving DecidableEq

def GatewayCall.suspends {T : Type} : GatewayCall T → Bool
  | .pollTransport _ | .persistNow => true
  | _ => false

def GatewayThread.allowed {T : Type} : GatewayThread → GatewayCall T → Bool
  | .main,call => !call.suspends
  | .coroutine _,call => call.suspends

/-- What a new process meets: the key, the system calls of the load, the save of a
migrated file, whether a damaged file can be renamed and the clock in its new
name, and the adapter. -/
structure GatewayStart (T : Type) where
  stateKey : Option Key
  faults : IoFaults
  resave : SaveAttempt
  renamed : Bool
  now : ℕ
  transport : T

section

variable {T : Type} (codec : Codec) (backend : CryptoBackend) (path : String)

/-- A file that cannot be restored is moved away, if there is one. -/
def quarantine (start : GatewayStart T) (disk : Disk) : Disk :=
  match disk.lookup path with
  | none => disk
  | some bytes =>
    if start.renamed then
      (disk.erase path).insert (path ++ ".corrupt-" ++ toString start.now) bytes
    else disk

/-- `shouldResaveAfterLoad` holds of a legacy plaintext file alone. -/
def restoreState (start : GatewayStart T) (disk : Disk) : MindChatCore × Disk :=
  match start.stateKey with
  | none => (.default,quarantine path start disk)
  | some key =>
    match loadStateEncrypted codec backend start.faults path key disk with
    | .error _ => (.default,quarantine path start disk)
    | .ok .missing => (.default,disk)
    | .ok (.encrypted snapshot _) => (.fromSnapshot snapshot,disk)
    | .ok (.plaintextLegacy snapshot _) =>
      let core := MindChatCore.fromSnapshot snapshot
      (core,(saveStateSecured codec backend path start.resave core.snapshot disk).2)

def NativeGateway.launch (start : GatewayStart T) (s : NativeGateway T) (disk : Disk) :
    NativeGateway T × Disk :=
  let r := restoreState codec backend path start disk
  ({ gateway := .start ⟨r.1,start.transport⟩, book := .restore s.book.store,
     preferences := s.preferences, profilesCache := s.preferences.readProfiles },r.2)

def NativeGateway.installed (t : T) : NativeGateway T :=
  { gateway := .start ⟨.default,t⟩, book := .empty, preferences := ⟨∅⟩, profilesCache := ∅ }

section

variable {codec backend path}

theorem restoreState_keyed (start : GatewayStart T) (disk : Disk) :
    (restoreState codec backend path start disk).1.AccountsKeyed := by
  have hdefault : MindChatCore.default.AccountsKeyed := fun _ _ h => by cases h
  unfold restoreState
  split
  · exact hdefault
  · split
    · exact hdefault
    · exact hdefault
    · exact accountsKeyed_fromSnapshot _
    · exact accountsKeyed_fromSnapshot _

theorem good_installed (t : T) : (NativeGateway.installed t).Good := fun _ _ h => by cases h

end

variable [XmppTransport T]

/-- The adapter may do anything between two steps. -/
def gatewayService : Service GatewayThread (GatewayCall T) (NativeGateway T) Reply CoreSnapshot Disk
    SaveAttempt T (GatewayStart T) where
  body := GatewayCall.body
  allowed := GatewayThread.allowed
  view s := s.core.snapshot
  durable := NativeGateway.durable
  backing := stateFile codec backend path
  environment t s := s.withSession { s.session with transport := t }
  restart := NativeGateway.launch codec backend path

variable {codec backend path}

theorem gatewayService_sound :
    (gatewayService codec backend path : Service _ (GatewayCall T) _ _ _ _ _ _ _).Sound
      NativeGateway.Good where
  body := GatewayCall.keeps_body
  environment _ _ h := h
  restart start _ disk _ := restoreState_keyed start disk

end

abbrev GatewayState (T : Type) :=
  Service.State GatewayThread (GatewayCall T) (NativeGateway T) Reply CoreSnapshot Disk

abbrev GatewayAction (T : Type) :=
  Service.Action GatewayThread (GatewayCall T) SaveAttempt T (GatewayStart T)

def GatewayState.returned {T : Type} (s : GatewayState T) (i : GatewayThread) : Bool :=
  (s.calls i).any fun call =>
    match call.proc with
    | .ret _ => true
    | _ => false

theorem GatewayState.returned_cases {T : Type} {s : GatewayState T} {i : GatewayThread}
    (h : s.returned i = true) :
    ∃ call reply last begun, s.calls i = some ⟨call,.ret reply,last,begun⟩ := by
  obtain ⟨⟨call,proc,last,begun⟩,hc,hp⟩ := (Option.any_eq_true _ _).mp h
  cases proc with
  | ret reply => exact ⟨call,reply,last,begun,hc⟩
  | act | mark | requiresSave | comparing | save | suspend => cases hp

section

variable {T : Type} [XmppTransport T] (codec : Codec) (backend : CryptoBackend) (path : String)

def GatewayState.step (s : GatewayState T) (action : GatewayAction T) : Option (GatewayState T) :=
  (gatewayService codec backend path).step s action

/-- A run of the gateway from its first start on a device with any files. -/
def GatewayServiceRun (actions : List (GatewayAction T)) (s : GatewayState T) : Prop :=
  ∃ t disk, Transition.Run (fun s a u => GatewayState.step codec backend path s a = some u)
    (.start (.installed t) disk) actions s

variable {codec backend path} {s : GatewayState T} {actions : List (GatewayAction T)}

theorem GatewayServiceRun.kept (h : GatewayServiceRun codec backend path actions s) :
    Service.Ledger s ∧ Service.Kept NativeGateway.Good s := by
  obtain ⟨t,disk,hr⟩ := h
  exact Service.run_kept gatewayService_sound (.start _ _) (.start (good_installed t) disk) hr

end

def firstStart : GatewayState TokioXmppTransport := .start (.installed .new) ∅

def deviceStep (s : GatewayState TokioXmppTransport) (action : GatewayAction TokioXmppTransport) :
    Option (GatewayState TokioXmppTransport) :=
  s.step (jsonCodec (readerOf [])) plainBackend "state" action

def mainSteps (call : GatewayCall TokioXmppTransport) (n : ℕ) : List (GatewayAction TokioXmppTransport) :=
  .begin .main call :: List.replicate n (.advance .main)

theorem runsAlone_mainSteps {call : GatewayCall TokioXmppTransport} {n : ℕ}
    {s t : GatewayState TokioXmppTransport} (h : Transition.exec deviceStep s (mainSteps call n) = some t) :
    (gatewayService (jsonCodec (readerOf [])) plainBackend "state").RunsAlone .main call s t := by
  refine ⟨List.replicate n (.advance .main),fun a ha => ?_,Transition.run_iff_exec.mpr h⟩
  rw [List.eq_of_mem_replicate ha]
  rfl

end MindChat
