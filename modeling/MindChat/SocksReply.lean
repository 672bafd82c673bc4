import MindChat.SocksHandshake

/-! The CONNECT reply on the stream: its reader takes one frame and nothing of the tunnel behind it,
and hands the parser nothing of a wrong length. -/

namespace MindChat

open Json Exchange

/-- The address lengths of a frame, without the length byte of a domain. -/
def AddressLength (atyp : UInt8) (n : ℕ) : Prop :=
  atyp = socks5AtypIpv4 ∧ n = 4 ∨ atyp = socks5AtypIpv6 ∧ n = 16 ∨ atyp = socks5AtypDomain ∧ n < 256

def KnownType (atyp : UInt8) : Prop :=
  atyp = socks5AtypIpv4 ∨ atyp = socks5AtypIpv6 ∨ atyp = socks5AtypDomain

/-- The two computations of an address length agree: the parser counts the length byte, which the
reader has taken by itself. -/
theorem AddressLength.parsed {atyp : UInt8} {n : ℕ} (h : AddressLength atyp n) (tail : Bytes) :
    replyAddressLength atyp (lengthByte atyp n ++ tail) = .ok ((lengthByte atyp n).length + n) := by
  rcases h with ⟨rfl,rfl⟩ | ⟨rfl,rfl⟩ | ⟨rfl,hn⟩
  · rfl
  · rfl
  · have hlen : (UInt8.ofNat n).toNat + 1 = 1 + n := by
      rw [UInt8.toNat_ofNat',Nat.mod_eq_of_lt hn,Nat.add_comm]
    exact congrArg Except.ok hlen

theorem AddressLength.known {atyp : UInt8} {n : ℕ} (h : AddressLength atyp n) : KnownType atyp :=
  h.imp And.left (Or.imp And.left And.left)

theorem AddressLength.frame {header tail : Bytes} {n : ℕ} (h : AddressLength (header.getD 3 0) n)
    (hheader : header.length = 4) (htail : tail.length = n + 2) :
    ∃ frame : Socks5Frame, header ++ lengthByte (header.getD 3 0) n ++ tail = frame.encode := by
  obtain ⟨version,code,reserved,atyp,rfl⟩ : ∃ version code reserved atyp,
      header = [version,code,reserved,atyp] := by
    match header,hheader with
    | [version,code,reserved,atyp],_ => exact ⟨version,code,reserved,atyp,rfl⟩
  obtain ⟨address,port,he⟩ := replyAddressLength_frame (h.parsed tail) (by
    rw [List.length_append,htail,Nat.add_assoc])
  refine ⟨⟨version,code,reserved,address,port⟩,?_⟩
  simp only [Socks5Frame.encode,List.append_assoc,← he]
  rfl

theorem KnownType.split {atyp : UInt8} {rest : Bytes} (h : KnownType atyp)
    (hrest : 258 ≤ rest.length) : ∃ n tail more, AddressLength atyp n ∧ tail.length = n + 2 ∧
      rest = lengthByte atyp n ++ tail ++ more := by
  rcases h with rfl | rfl | rfl
  · refine ⟨4,rest.take 6,rest.drop 6,.inl ⟨rfl,rfl⟩,List.length_take_of_le (by omega),?_⟩
    exact (List.take_append_drop 6 rest).symm
  · refine ⟨16,rest.take 18,rest.drop 18,.inr (.inl ⟨rfl,rfl⟩),List.length_take_of_le (by omega),?_⟩
    exact (List.take_append_drop 18 rest).symm
  · cases rest with
    | nil => cases hrest
    | cons len rest =>
      have hlen := len.toNat_lt
      rw [List.length_cons] at hrest
      refine ⟨len.toNat,rest.take (len.toNat + 2),rest.drop (len.toNat + 2),
        .inr (.inr ⟨rfl,hlen⟩),List.length_take_of_le (by omega),?_⟩
      rw [lengthByte,if_pos rfl,UInt8.ofNat_toNat,List.append_assoc,List.take_append_drop]
      rfl

/-- A stream that names no unknown type is comparable to a frame: pad it until it holds one. -/
theorem KnownType.comparable {sent : Bytes} (h : KnownType (sent.getD 3 socks5AtypIpv4)) :
    ∃ frame : Socks5Frame, frame.encode <+: sent ∨ sent <+: frame.encode := by
  let padded := sent ++ List.replicate 262 socks5AtypIpv4
  have hsize : padded.length = sent.length + 262 := by
    rw [List.length_append,List.length_replicate]
  have htype : (padded.take 4).getD 3 0 = sent.getD 3 socks5AtypIpv4 := by
    rw [List.getD_eq_getElem?_getD,List.getD_eq_getElem?_getD,List.getElem?_take_of_lt (by decide),
      List.getElem?_append]
    split
    · next hlong => rw [List.getElem?_eq_getElem hlong,Option.getD_some,Option.getD_some]
    · next hshort =>
      rw [List.getElem?_replicate_of_lt (by omega),List.getElem?_eq_none (by omega)]
      rfl
  have hheader : (padded.take 4).length = 4 := List.length_take_of_le (by omega)
  have hrest : 258 ≤ (padded.drop 4).length := by
    rw [List.length_drop]
    omega
  obtain ⟨n,tail,more,hn,htail,hsplit⟩ := KnownType.split (htype ▸ h) hrest
  obtain ⟨frame,hframe⟩ := hn.frame hheader htail
  have hpadded : padded = frame.encode ++ more := by
    rw [← hframe,List.append_assoc,List.append_assoc,← List.append_assoc (lengthByte _ n),← hsplit,
      List.take_append_drop]
  refine ⟨frame,List.prefix_or_prefix_of_prefix ⟨more,hpadded.symm⟩ (List.prefix_append sent _)⟩

theorem getD_of_header {header sent : Bytes} (h : header <+: sent) (hl : header.length = 4)
    (a b : UInt8) : sent.getD 3 a = header.getD 3 b := by
  obtain ⟨rest,rfl⟩ := h
  rw [List.getD_eq_getElem?_getD,List.getD_eq_getElem?_getD,List.getElem?_append_left (by omega),
    List.getElem?_eq_getElem (by omega)]
  rfl

section

variable {sent taken : Bytes}

theorem readAddressLength_taken (atyp : UInt8) :
    Spec (fun w => sent = taken ++ w.unread) (readAddressLength atyp)
      (fun n w => AddressLength atyp n ∧ sent = taken ++ lengthByte atyp n ++ w.unread)
      (fun _ w => KnownType atyp ∧ w.unread = [] ∧ taken <+: sent ∨
        ¬ KnownType atyp ∧ sent = taken ++ w.unread) := by
  unfold readAddressLength
  split
  · next ha =>
    refine Spec.pure fun w hw => ⟨.inl ⟨ha,rfl⟩,?_⟩
    rwa [ha,lengthByte,if_neg (by decide),List.append_nil]
  split
  · next ha =>
    refine Spec.pure fun w hw => ⟨.inr (.inl ⟨ha,rfl⟩),?_⟩
    rwa [ha,lengthByte,if_neg (by decide),List.append_nil]
  split
  · next ha =>
    refine Spec.bind (Spec.readExact_taken.weaken (fun _ h => h) (fun _ _ h => h)
      fun _ _ h => .inl ⟨.inr (.inr ha),h.1,h.2.1⟩) fun len => Spec.of_and fun hlen => ?_
    obtain ⟨b,rfl⟩ := List.length_eq_one_iff.mp hlen
    refine Spec.pure fun w hw => ⟨.inr (.inr ⟨ha,b.toNat_lt⟩),?_⟩
    simpa [lengthByte,ha] using hw
  · next h4 h6 hd =>
    exact Spec.fail fun w hw => .inr ⟨by rintro (h | h | h) <;> contradiction,hw⟩

/-- The reader hands on a frame. It fails at the end of the stream, or behind the header if that
names an unknown type. -/
theorem readSocks5ConnectReply_taken :
    Spec (fun w => sent = w.unread) readSocks5ConnectReply
      (fun reply w => ∃ frame : Socks5Frame, reply = frame.encode ∧ sent = reply ++ w.unread)
      (fun _ w => KnownType (sent.getD 3 socks5AtypIpv4) ∧ w.unread = [] ∨
        ∃ header, header.length = 4 ∧ ¬ KnownType (header.getD 3 0) ∧ sent = header ++ w.unread) := by
  have hstart : Spec (fun w => sent = [] ++ w.unread) (readExact .io 4 : Socks5Exchange Bytes)
      (fun header w => header.length = 4 ∧ sent = [] ++ header ++ w.unread)
      (fun _ w => w.unread = [] ∧ [] <+: sent ∧ sent.length < 0 + 4) := Spec.readExact_taken
  refine Spec.bind (hstart.weaken (fun _ h => h) (fun _ _ h => h) fun _ w h => .inl ⟨?_,h.1⟩)
    fun header => Spec.of_and fun hheader => ?_
  · rw [List.getD_eq_getElem?_getD,List.getElem?_eq_none (by omega)]
    exact .inl rfl
  refine Spec.bind ((readAddressLength_taken (header.getD 3 0)).weaken (fun _ h => h) (fun _ _ h => h)
    fun _ w h => ?_) fun n => Spec.of_and fun hn => ?_
  · rcases h with ⟨hk,hw,hp⟩ | ⟨hk,hw⟩
    · rw [getD_of_header hp hheader _ 0]
      exact .inl ⟨hk,hw⟩
    · exact .inr ⟨header,hheader,hk,hw⟩
  refine Spec.bind (Spec.readExact_taken.weaken (fun _ h => h) (fun _ _ h => h)
    fun _ w h => .inl ⟨?_,h.1⟩) fun tail => Spec.of_and fun htail => Spec.pure fun w hw => ?_
  · rw [getD_of_header ((List.prefix_append header _).trans h.2.1) hheader _ 0]
    exact hn.known
  · obtain ⟨frame,hframe⟩ := hn.frame hheader htail
    exact ⟨frame,hframe,hw⟩

end

/-- A stream that begins with a framed reply gives that reply up and keeps the rest, and the parser
then looks at version, reserved byte and code alone. On any other stream the reader fails, with
nothing taken but the beginning of a reply or a header of an unknown type. -/
theorem socks5_reply_framing (sent : Bytes) (ending : String) (faults : List (Option (ℕ × String)))
    (log : List Socks5Event) :
    let run := readSocks5ConnectReply.run ⟨sent,ending,faults,log⟩
    (∀ (frame : Socks5Frame) (rest : Bytes), sent = frame.encode ++ rest →
      run.1 = .ok frame.encode ∧ run.2.unread = rest ∧
      parseSocks5ConnectReply frame.encode = frame.verdict ∧
      (parseSocks5ConnectReply frame.encode = .ok () ↔
        frame.version = 5 ∧ frame.reserved = 0 ∧ frame.code = 0)) ∧
    ((∀ frame : Socks5Frame, ¬ frame.encode <+: sent) →
      (∃ e, run.1 = .error e) ∧ ∃ taken, sent = taken ++ run.2.unread ∧
        ((∃ frame : Socks5Frame, taken <+: frame.encode) ∨
          taken.length = 4 ∧ ¬ KnownType (taken.getD 3 0))) := by
  intro run
  refine ⟨fun frame rest hsent => ?_,fun hframe => ?_⟩
  · obtain ⟨log',hread⟩ := readSocks5ConnectReply_frame frame rest ending faults log
    have hrun : run = (.ok frame.encode,⟨rest,ending,faults,log'⟩) := by
      rw [← hread,← hsent]
    refine ⟨congrArg Prod.fst hrun,by rw [hrun],parseSocks5ConnectReply_frame frame,?_⟩
    rw [parseSocks5ConnectReply_frame,frame.verdict_eq_ok_iff]
  · obtain ⟨hv,he⟩ := readSocks5ConnectReply_taken ⟨sent,ending,faults,log⟩ rfl
    cases hr : run.1 with
    | ok reply =>
      obtain ⟨frame,rfl,hsent⟩ := hv reply hr
      exact absurd ⟨run.2.unread,hsent.symm⟩ (hframe frame)
    | error e =>
      refine ⟨⟨e,rfl⟩,?_⟩
      rcases he e hr with ⟨hk,hunread⟩ | ⟨header,hl,hk,hsent⟩
      · obtain ⟨frame,hp | hp⟩ := hk.comparable
        · exact absurd hp (hframe frame)
        · exact ⟨sent,by rw [hunread,List.append_nil],.inl ⟨frame,hp⟩⟩
      · exact ⟨header,hsent,.inr ⟨hl,hk⟩⟩

end MindChat
