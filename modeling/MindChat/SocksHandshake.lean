import MindChat.ProxyProtocol
import MindChat.Wire

/-! The SOCKS5 handshake on an established connection, against every byte stream
a proxy can send and every failing read or write. -/

namespace MindChat

open Json

inductive Socks5Message
  | greeting | authentication | connect
  deriving DecidableEq

abbrev Socks5Exchange (α : Type) := Exchange Socks5Message ProxyError α

open Exchange

def offeredMethods (password : Option String) : Bytes :=
  if password.isSome then [socks5MethodNoAuth,socks5MethodUserPass] else [socks5MethodNoAuth]

/-- The address length of a reply; that of a domain is read from the stream. -/
def readAddressLength (atyp : UInt8) : Socks5Exchange ℕ :=
  if atyp = socks5AtypIpv4 then pure 4
  else if atyp = socks5AtypIpv6 then pure 16
  else if atyp = socks5AtypDomain then do
    let len ← readExact .io 1
    pure (len.getD 0 0).toNat
  else Exchange.fail (unsupportedAddressType atyp)

/-- The length byte of a domain, put back between the header and the rest. -/
def lengthByte (atyp : UInt8) (addressBytes : ℕ) : Bytes :=
  if atyp = socks5AtypDomain then [UInt8.ofNat addressBytes] else []

def readSocks5ConnectReply : Socks5Exchange Bytes := do
  let header ← readExact .io 4
  let addressBytes ← readAddressLength (header.getD 3 0)
  let tail ← readExact .io (addressBytes + 2)
  pure (header ++ lengthByte (header.getD 3 0) addressBytes ++ tail)

/-- The step between the method reply and the CONNECT request. -/
def authenticate (password : Option String) (method : UInt8) : Socks5Exchange Unit :=
  if method = socks5MethodNoAuth then pure ()
  else if method = socks5MethodUserPass then
    match password with
    | none => Exchange.fail (.socksProtocol "the proxy requires credentials but none were supplied")
    | some password => do
      writeAll .io .authentication (socks5AuthRequest "" password)
      let authReply ← readExact .io 2
      check (parseSocks5AuthReply authReply)
  else
    Exchange.fail (.socksProtocol
      ("the proxy selected unsupported authentication method " ++ toString method))

/-- On success the rest of the wire is the tunnel. -/
def socks5Handshake (password : Option String) (target : ProxyTarget) : Socks5Exchange Unit := do
  writeAll .io .greeting (socks5Greeting (offeredMethods password))
  let methodReply ← readExact .io 2
  let method ← check (parseSocks5MethodReply methodReply)
  authenticate password method
  let request ← check (socks5ConnectRequest target)
  writeAll .io .connect request
  let reply ← readSocks5ConnectReply
  check (parseSocks5ConnectReply reply)

abbrev Socks5Event := WireEvent Socks5Message

/-- The events up to a method reply. -/
def selected (password : Option String) (method : UInt8) : List Socks5Event :=
  [.wrote .greeting (socks5Greeting (offeredMethods password)),.read [5,method]]

/-- The events up to an accepted secret. -/
def authenticated (secret : String) : List Socks5Event :=
  selected (some secret) 2 ++
    [.wrote .authentication (socks5AuthRequest "" secret),.read [1,0]]

/-- When a message may leave, and what of it. -/
def Allowed (password : Option String) (target : ProxyTarget) :
    Socks5Message → Bytes → List Socks5Event → Prop
  | .greeting,bytes,before => before = [] ∧ bytes <+: socks5Greeting (offeredMethods password)
  | .authentication,bytes,before =>
    ∃ secret, password = some secret ∧ before = selected password 2 ∧
      bytes <+: socks5AuthRequest "" secret
  | .connect,bytes,before =>
    (before = selected password 0 ∨ ∃ secret, password = some secret ∧ before = authenticated secret) ∧
      ∃ request, socks5ConnectRequest target = .ok request ∧ bytes <+: request

/-- What a proxy has to send for a tunnel, before the tunnel's own bytes. -/
def grant (method : UInt8) (reply : Socks5Reply) : Bytes :=
  [5,method] ++ (if method = 2 then [1,0] else []) ++ reply.encode

section

variable {password : Option String} {target : ProxyTarget} {sent taken : Bytes}
  {log : List Socks5Event}

theorem readAddressLength_spec (atyp : UInt8) :
    Spec (Wire.At (Allowed password target) sent log taken) (readAddressLength atyp)
      (fun n w => ∃ log, Wire.At (Allowed password target) sent log (taken ++ lengthByte atyp n) w)
      (fun _ w => Wire.Justified (Allowed password target) w.log) := by
  unfold readAddressLength
  split
  · next ha =>
    refine Spec.pure fun w hw => ⟨log,?_⟩
    rwa [ha,lengthByte,if_neg (by decide),List.append_nil]
  · split
    · next ha =>
      refine Spec.pure fun w hw => ⟨log,?_⟩
      rwa [ha,lengthByte,if_neg (by decide),List.append_nil]
    · split
      · next ha =>
        refine Spec.bind Spec.readExact fun len => Spec.of_and fun hlen => Spec.pure fun w hw => ?_
        obtain ⟨b,rfl⟩ := List.length_eq_one_iff.mp hlen
        exact ⟨log ++ [.read [b]],by simpa [lengthByte,ha] using hw⟩
      · exact Spec.fail fun w hw => hw.justified_log

theorem readSocks5ConnectReply_spec :
    Spec (Wire.At (Allowed password target) sent log taken) readSocks5ConnectReply
      (fun reply w => ∃ log, Wire.At (Allowed password target) sent log (taken ++ reply) w)
      (fun _ w => Wire.Justified (Allowed password target) w.log) := by
  refine Spec.bind Spec.readExact fun header => Spec.of_and fun _ => ?_
  refine Spec.bind (readAddressLength_spec _) fun n => Spec.of_exists fun reads => ?_
  refine Spec.bind Spec.readExact fun tail => Spec.of_and fun _ => ?_
  refine Spec.pure fun w hw => ⟨reads ++ [.read tail],?_⟩
  simpa only [List.append_assoc] using hw

/-- An accepted method was offered, and the secret left only for method 2. -/
theorem authenticate_spec (method : UInt8) :
    Spec (Wire.At (Allowed password target) sent (selected password method) [5,method])
      (authenticate password method)
      (fun _ w => ∃ log, (method ∈ offeredMethods password ∧ (log = selected password 0 ∨
          ∃ secret, password = some secret ∧ log = authenticated secret)) ∧
        Wire.At (Allowed password target) sent log
          ([5,method] ++ if method = 2 then [1,0] else []) w)
      (fun _ w => Wire.Justified (Allowed password target) w.log) := by
  unfold authenticate
  split
  · next hm =>
    obtain rfl : method = 0 := hm
    refine Spec.pure fun w hw => ⟨_,⟨?_,.inl rfl⟩,?_⟩
    · cases password <;> simp [offeredMethods,socks5MethodNoAuth]
    · rwa [if_neg (by decide),List.append_nil]
  · split
    · next hm =>
      obtain rfl : method = 2 := hm
      cases password with
      | none => exact Spec.fail fun w hw => hw.justified_log
      | some secret =>
        refine Spec.bind (Spec.writeAll fun part hpart => ⟨secret,rfl,rfl,hpart⟩) fun _ => ?_
        refine Spec.bind Spec.readExact fun reply => Spec.of_and fun _ => ?_
        refine Spec.check (fun _ w hr hw => ?_) (fun _ w _ hw => hw.justified_log)
        obtain rfl := parseSocks5AuthReply_eq_ok hr
        refine ⟨_,⟨by simp [offeredMethods,socks5MethodUserPass],.inr ⟨secret,rfl,rfl⟩⟩,?_⟩
        simpa [authenticated] using hw
    · exact Spec.fail fun w hw => hw.justified_log

theorem socks5Handshake_spec :
    Spec (Wire.At (Allowed password target) sent [] []) (socks5Handshake password target)
      (fun _ w => Wire.Justified (Allowed password target) w.log ∧
        ∃ method ∈ offeredMethods password, ∃ reply : Socks5Reply,
          reply.code = 0 ∧ sent = grant method reply ++ w.unread)
      (fun _ w => Wire.Justified (Allowed password target) w.log) := by
  refine Spec.bind (Spec.writeAll fun part hpart => ⟨rfl,hpart⟩) fun _ => ?_
  refine Spec.bind Spec.readExact fun methodReply => Spec.of_and fun _ => ?_
  refine Spec.bind (Q := fun method => Wire.At (Allowed password target) sent
    (selected password method) [5,method]) ?_ fun method => ?_
  · refine Spec.check (fun method w hr hw => ?_) (fun _ w _ hw => hw.justified_log)
    obtain rfl := parseSocks5MethodReply_eq_ok hr
    exact hw
  refine Spec.bind (authenticate_spec method) fun _ => Spec.of_exists fun log => ?_
  refine Spec.of_and fun ⟨hoffered,hlog⟩ => ?_
  refine Spec.bind (Q := fun request w => socks5ConnectRequest target = .ok request ∧
    Wire.At (Allowed password target) sent log ([5,method] ++ if method = 2 then [1,0] else []) w)
    ?_ fun request => Spec.of_and fun hrequest => ?_
  · exact Spec.check (fun request w hr hw => ⟨hr,hw⟩) (fun _ w _ hw => hw.justified_log)
  refine Spec.bind (Spec.writeAll fun part hpart => ⟨hlog,request,hrequest,hpart⟩) fun _ => ?_
  refine Spec.bind readSocks5ConnectReply_spec fun bytes => Spec.of_exists fun log => ?_
  refine Spec.check (fun _ w hr hw => ?_) (fun _ w _ hw => hw.justified_log)
  obtain ⟨reply,hcode,rfl⟩ := parseSocks5ConnectReply_eq_ok hr
  exact ⟨hw.justified_log,method,hoffered,reply,hcode,hw.taken_eq⟩

end

theorem Socks5Address.encode_frame (address : Socks5Address) :
    ∃ (atyp : UInt8) (n : ℕ) (body : Bytes),
      address.encode = atyp :: (lengthByte atyp n ++ body) ∧
      body.length = n ∧ ∀ rest ending faults log, ∃ log',
        (readAddressLength atyp).run ⟨lengthByte atyp n ++ rest,ending,faults,log⟩ =
          (.ok n,⟨rest,ending,faults,log'⟩) := by
  cases address with
  | ipv4 octets => exact ⟨1,4,octets.toList,rfl,octets.2,fun _ _ _ log => ⟨log,rfl⟩⟩
  | ipv6 octets => exact ⟨4,16,octets.toList,rfl,octets.2,fun _ _ _ log => ⟨log,rfl⟩⟩
  | domain len name =>
    have hlen : UInt8.ofNat len.toNat = len := UInt8.ofNat_toNat
    refine ⟨3,len.toNat,name.toList,?_,name.2,fun rest ending faults log => ⟨log ++ [.read [len]],?_⟩⟩
    · rw [lengthByte,if_pos (by decide),hlen]
      rfl
    · rw [lengthByte,if_pos (by decide),hlen]
      change (readExact ProxyError.io 1 >>= _).run _ = _
      rw [run_bind_ok (readExact_append (n := 1) rfl _ _ _ _)]
      rfl

theorem readSocks5ConnectReply_frame (frame : Socks5Frame) (rest : Bytes) (ending : String)
    (faults : List (Option (ℕ × String))) (log : List Socks5Event) :
    ∃ log', readSocks5ConnectReply.run ⟨frame.encode ++ rest,ending,faults,log⟩ =
      (.ok frame.encode,⟨rest,ending,faults,log'⟩) := by
  obtain ⟨version,code,reserved,address,port⟩ := frame
  obtain ⟨atyp,n,body,he,hn,hread⟩ := address.encode_frame
  have hport : port.toList.length = 2 := port.2
  simp only [Socks5Frame.encode,he]
  have hframe : [version,code,reserved] ++ (atyp :: (lengthByte atyp n ++ body)) ++ port.toList ++ rest =
      [version,code,reserved,atyp] ++ (lengthByte atyp n ++ ((body ++ port.toList) ++ rest)) := by simp
  have htype : [version,code,reserved,atyp].getD 3 0 = atyp := rfl
  obtain ⟨log',haddress⟩ := hread ((body ++ port.toList) ++ rest) ending faults
    (log ++ [.read [version,code,reserved,atyp]])
  unfold readSocks5ConnectReply
  rw [hframe,run_bind_ok (readExact_append (n := 4) rfl _ _ _ _),htype,run_bind_ok haddress,
    run_bind_ok (readExact_append (by simp [hn]) _ _ _ _)]
  refine ⟨_,Prod.ext (congrArg Except.ok ?_) rfl⟩
  simp

theorem readSocks5ConnectReply_encode (reply : Socks5Reply) (rest : Bytes) (ending : String)
    (faults : List (Option (ℕ × String))) (log : List Socks5Event) :
    ∃ log', readSocks5ConnectReply.run ⟨reply.encode ++ rest,ending,faults,log⟩ =
      (.ok reply.encode,⟨rest,ending,faults,log'⟩) :=
  readSocks5ConnectReply_frame ⟨socks5Version,reply.code,0,reply.address,reply.port⟩ rest ending faults log

/-- A proxy that grants the tunnel gets it, and every byte behind the reply is
the tunnel's. -/
theorem socks5Handshake_granted {password : Option String} {target : ProxyTarget}
    {method : UInt8} {reply : Socks5Reply} {request : Bytes}
    (hm : method ∈ offeredMethods password) (hc : reply.code = 0)
    (hr : socks5ConnectRequest target = .ok request) (rest : Bytes) (ending : String) :
    ∃ log, (socks5Handshake password target).run (Wire.opened (grant method reply ++ rest) ending []) =
      (.ok (),⟨rest,ending,[],log⟩) := by
  have hmethod : method = 0 ∨ method = 2 ∧ password.isSome := by
    cases password <;> simpa [offeredMethods,socks5MethodNoAuth,socks5MethodUserPass] using hm
  have hend : ∀ log, ∃ log', (do
      let request ← check (socks5ConnectRequest target)
      writeAll .io .connect request
      let reply ← readSocks5ConnectReply
      check (parseSocks5ConnectReply reply) : Socks5Exchange Unit).run
      ⟨reply.encode ++ rest,ending,[],log⟩ = (.ok (),⟨rest,ending,[],log'⟩) := by
    intro log
    rw [hr]
    obtain ⟨log',hread⟩ := readSocks5ConnectReply_encode reply rest ending []
      (log ++ [.wrote .connect request])
    refine ⟨log',?_⟩
    change (readSocks5ConnectReply >>= fun reply => check (parseSocks5ConnectReply reply)).run
      ⟨reply.encode ++ rest,ending,[],log ++ [.wrote .connect request]⟩ = _
    rw [run_bind_ok hread]
    simp only [check]
    rw [parseSocks5ConnectReply_encode,if_pos hc]
  unfold socks5Handshake
  rcases hmethod with rfl | ⟨rfl,hsome⟩
  · exact hend (selected password 0)
  · obtain ⟨secret,rfl⟩ := Option.isSome_iff_exists.mp hsome
    exact hend (authenticated secret)

/-- Whatever a proxy sends and whichever reads and writes fail: every byte that
left was due, and a tunnel is reported only to a proxy that granted it. -/
theorem socks5Handshake_safe (password : Option String) (target : ProxyTarget) (sent : Bytes)
    (ending : String) (faults : List (Option (ℕ × String))) :
    let run := (socks5Handshake password target).run (Wire.opened sent ending faults)
    Wire.Justified (Allowed password target) run.2.log ∧
      ((∃ e, run.1 = .error e) ∨
        run.1 = .ok () ∧ ∃ method ∈ offeredMethods password, ∃ reply : Socks5Reply,
          reply.code = 0 ∧ sent = grant method reply ++ run.2.unread) := by
  intro run
  obtain ⟨hv,he⟩ := socks5Handshake_spec (Wire.opened sent ending faults) Wire.at_opened
  cases hr : run.1 with
  | ok _ =>
    obtain ⟨hj,method,hm,reply,hcode,hsent⟩ := hv () hr
    exact ⟨hj,.inr ⟨rfl,method,hm,reply,hcode,hsent⟩⟩
  | error e => exact ⟨he e hr,.inl ⟨e,rfl⟩⟩

end MindChat
