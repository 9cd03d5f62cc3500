import Mathlib.Data.List.Basic
import PolicyRouting.Proofs.Frame.RoundTrip

/-!
# Frames read by position

The same readers once more, each byte and each part of the input now taken at a
position that is computed from the lengths and the bytes read so far.  Such a
read fails where its position is not in the bytes it is made in.  None of them
ever does, since each reader then agrees with the one that takes the bytes from
the front; so every position lies within the input, whatever the bytes are.
By positions it is also said which bytes are decoded: as a frame, as an IPv4
header, and as each kind of transport.
-/

namespace PolicyRouting

section Results

variable {ε α β : Type}

theorem ok_bind (a : α) (next : α → Except ε β) : (Except.ok a >>= next) = next a := rfl

theorem pure_eq_ok (a : α) : (pure a : Except ε α) = .ok a := rfl

end Results

inductive Overrun where
  | byte (position length : Nat)
  | slice (first last length : Nat)
  deriving DecidableEq, Repr

namespace Bytes

variable {data : Bytes}

def byteAt (data : Bytes) (i : Nat) : Except Overrun UInt8 :=
  match data[i]? with
  | some b => .ok b
  | none => .error (.byte i data.length)

def slice (data : Bytes) (first last : Nat) : Except Overrun Bytes :=
  if first ≤ last ∧ last ≤ data.length then .ok ((data.take last).drop first)
  else .error (.slice first last data.length)

def wordAt (data : Bytes) (i : Nat) : Except Overrun UInt16 := do
  return word (← data.byteAt i) (← data.byteAt (i + 1))

def ipv4At (data : Bytes) (i : Nat) : Except Overrun Ipv4 := do
  return ⟨← data.byteAt i, ← data.byteAt (i + 1), ← data.byteAt (i + 2), ← data.byteAt (i + 3)⟩

theorem slice_to_end {first : Nat} (h : first ≤ data.length) :
    data.slice first data.length = .ok (data.drop first) := by
  rw [slice, if_pos ⟨h, Nat.le_refl _⟩, List.take_length]

theorem exists_front {n : Nat} (h : n ≤ data.length) :
    ∃ front rest, data = front ++ rest ∧ front.length = n :=
  ⟨data.take n, data.drop n, (List.take_append_drop n data).symm, List.length_take_of_le h⟩

theorem exists_two (h : 2 ≤ data.length) : ∃ a b rest, data = a :: b :: rest := by
  obtain ⟨front, rest, rfl, length⟩ := exists_front h
  obtain ⟨a, b, rfl⟩ := List.length_eq_two.1 length
  exact ⟨a, b, rest, rfl⟩

theorem exists_four (h : 4 ≤ data.length) : ∃ a b c d rest, data = a :: b :: c :: d :: rest := by
  obtain ⟨front, rest, rfl, length⟩ := exists_front h
  obtain ⟨a, b, c, d, rfl⟩ := List.length_eq_four.1 length
  exact ⟨a, b, c, d, rest, rfl⟩

end Bytes

/-! ## The readers by position -/

def Mac.read (data : Bytes) : Except Overrun (Option Mac) := do
  if data.length < 6 then return none
  return Mac.ofBytes? (← data.slice 0 6)

def Bytes.macAt (data : Bytes) (i : Nat) : Except Overrun (Option Mac) := do
  Mac.read (← data.slice i (i + 6))

def Transport.read (protocol : UInt8) (body : Bytes) : Except Overrun Transport := do
  if (protocol = IpProtocol.tcp ∨ protocol = IpProtocol.udp) ∧ 4 ≤ body.length then
    let srcPort ← body.wordAt 0
    let dstPort ← body.wordAt 2
    return if protocol = IpProtocol.tcp then .tcp srcPort dstPort else .udp srcPort dstPort
  else if protocol = IpProtocol.icmp ∧ 2 ≤ body.length then
    return .icmp (← body.byteAt 0) (← body.byteAt 1)
  else return .other

def Ipv4Header.read (data : Bytes) : Except Overrun (Option Ipv4Header) := do
  if data.length < 20 then return none
  let first ← data.byteAt 0
  if first.toNat / 16 ≠ 4 then return none
  let length := lengthOf first
  if length < 20 ∨ data.length < length then return none
  let protocol ← data.byteAt 9
  let src ← data.ipv4At 12
  let dst ← data.ipv4At 16
  let transport ← Transport.read protocol (← data.slice length data.length)
  return some { src, dst, protocol, dscp := (← data.byteAt 1) >>> 2, transport }

def Arp.read (data : Bytes) : Except Overrun (Option Arp) := do
  if data.length < 28 then return none
  let hardware ← data.wordAt 0
  let protocol ← data.wordAt 2
  if hardware ≠ 1 ∨ protocol ≠ EtherType.ipv4 then return none
  if (← data.byteAt 4) ≠ 6 then return none
  if (← data.byteAt 5) ≠ 4 then return none
  let opcode ← data.wordAt 6
  let some senderMac ← data.macAt 8 | return none
  let senderIp ← data.ipv4At 14
  let some targetMac ← data.macAt 18 | return none
  let targetIp ← data.ipv4At 24
  return some { opcode, senderMac, senderIp, targetMac, targetIp }

def Payload.read (etherType : UInt16) (body : Bytes) : Except Overrun Payload := do
  if etherType = EtherType.ipv4 then
    match ← Ipv4Header.read body with
    | some header => return .ipv4 header
    | none => return .unparsed
  else if etherType = EtherType.arp then
    match ← Arp.read body with
    | some message => return .arp message
    | none => return .unparsed
  else return .unparsed

def Frame.read (data : Bytes) : Except Overrun (Option Frame) := do
  if data.length < 14 then return none
  let some dst ← data.macAt 0 | return none
  let some src ← data.macAt 6 | return none
  let etherType ← data.wordAt 12
  if etherType = EtherType.vlan then
    if data.length < 18 then return none
    let tag ← data.wordAt 14
    let etherType ← data.wordAt 16
    let payload ← Payload.read etherType (← data.slice 18 data.length)
    return some { dst, src, vlan := some (tag &&& vlanMask), etherType, payload }
  else
    let payload ← Payload.read etherType (← data.slice 14 data.length)
    return some { dst, src, vlan := none, etherType, payload }

theorem Mac.ofBytes?_of_length_lt {data : Bytes} (short : data.length < 6) :
    ofBytes? data = none := by
  unfold ofBytes?
  split
  · simp at short
    omega
  · rfl

theorem Ipv4Header.ofBytes?_of_length_lt {data : Bytes} (short : data.length < 20) :
    ofBytes? data = none := by
  unfold ofBytes?
  split
  · simp at short
    omega
  · rfl

theorem Arp.ofBytes?_of_length_lt {data : Bytes} (short : data.length < 28) :
    ofBytes? data = none := by
  unfold ofBytes?
  split
  · simp at short
    omega
  · rfl

theorem Transport.ofBytes_ne_other_iff {protocol : UInt8} {body : Bytes} :
    ofBytes protocol body ≠ .other ↔
      (protocol = IpProtocol.tcp ∨ protocol = IpProtocol.udp) ∧ 4 ≤ body.length ∨
        protocol = IpProtocol.icmp ∧ 2 ≤ body.length := by
  constructor
  · intro known
    unfold ofBytes at known
    split at known
    · rename_i tcp
      split at known
      · exact .inl ⟨.inl tcp, by simp⟩
      · contradiction
    · split at known
      · rename_i udp
        split at known
        · exact .inl ⟨.inr udp, by simp⟩
        · contradiction
      · split at known
        · rename_i icmp
          split at known
          · exact .inr ⟨icmp, by simp⟩
          · contradiction
        · contradiction
  · rintro (⟨ports, long⟩ | ⟨rfl, long⟩) other
    · obtain ⟨a, b, c, d, rest, rfl⟩ := Bytes.exists_four long
      rcases ports with rfl | rfl <;> nomatch other
    · obtain ⟨type, code, rest, rfl⟩ := Bytes.exists_two long
      nomatch other

/-! ## Every read lies within the input -/

-- A reader is followed on an input that starts with the bytes it looks at, all by name; every read
-- then has its byte, and only the bounds that the bytes themselves decide are left to compare.

theorem Mac.read_eq (data : Bytes) : read data = .ok (ofBytes? data) := by
  by_cases short : data.length < 6
  · rw [ofBytes?_of_length_lt short, read, if_pos short]
    rfl
  · obtain ⟨front, rest, rfl, length⟩ := Bytes.exists_front (Nat.le_of_not_lt short)
    match front, length with
    | [a, b, c, d, e, f], _ =>
      rw [read, if_neg short, Bytes.slice, if_pos ⟨by simp, by simp⟩]
      rfl

theorem Bytes.macAt_eq {data : Bytes} {i : Nat} (h : i + 6 ≤ data.length) :
    data.macAt i = .ok (Mac.ofBytes? (data.drop i)) := by
  have room : 6 ≤ (data.drop i).length := by
    rw [List.length_drop]
    omega
  rw [macAt, slice, if_pos ⟨Nat.le_add_right i 6, h⟩, ok_bind, Mac.read_eq, List.drop_take,
    Nat.add_sub_cancel_left]
  obtain ⟨front, rest, whole, length⟩ := exists_front room
  rw [whole]
  match front, length with
  | [a, b, c, d, e, f], _ => rfl

theorem Transport.read_eq (protocol : UInt8) (body : Bytes) :
    read protocol body = .ok (ofBytes protocol body) := by
  unfold read
  split
  · rename_i h
    obtain ⟨ports, long⟩ := h
    obtain ⟨a, b, c, d, rest, rfl⟩ := Bytes.exists_four long
    rcases ports with rfl | rfl <;> rfl
  · rename_i noPorts
    split
    · rename_i h
      obtain ⟨rfl, long⟩ := h
      obtain ⟨type, code, rest, rfl⟩ := Bytes.exists_two long
      rfl
    · rename_i noEcho
      have unknown : ¬ ofBytes protocol body ≠ .other := fun known =>
        (ofBytes_ne_other_iff.1 known).elim noPorts noEcho
      rw [Classical.not_not.1 unknown, pure_eq_ok]

theorem Ipv4Header.read_eq (data : Bytes) : read data = .ok (ofBytes? data) := by
  by_cases short : data.length < 20
  · rw [ofBytes?_of_length_lt short, read, if_pos short]
    rfl
  · obtain ⟨front, rest, rfl, length⟩ := Bytes.exists_front (Nat.le_of_not_lt short)
    match front, length with
    | [first, tos, _, _, _, _, _, _, _, protocol, _, _, s0, s1, s2, s3, d0, d1, d2, d3], _ =>
      rw [read, if_neg short]
      simp only [Bytes.byteAt, Bytes.ipv4At, List.cons_append, List.nil_append,
        List.getElem?_cons_zero, List.getElem?_cons_succ, ok_bind, pure_eq_ok, ofBytes?]
      by_cases version : first.toNat / 16 = 4
      · rw [if_neg (not_not_intro version)]
        split
        · rw [if_neg (by omega)]
        · rw [if_pos (by omega), Bytes.slice_to_end (by omega), ok_bind, Transport.read_eq, ok_bind]
      · rw [if_pos version, if_neg fun h => version h.1]

theorem Arp.read_eq (data : Bytes) : read data = .ok (ofBytes? data) := by
  by_cases short : data.length < 28
  · rw [ofBytes?_of_length_lt short, read, if_pos short]
    rfl
  · obtain ⟨front, rest, rfl, length⟩ := Bytes.exists_front (Nat.le_of_not_lt short)
    match front, length with
    | [h0, h1, p0, p1, hardwareLength, protocolLength, o0, o1, s0, s1, s2, s3, s4, s5,
        i0, i1, i2, i3, t0, t1, t2, t3, t4, t5, j0, j1, j2, j3], _ =>
      rw [read, if_neg short]
      simp (disch := simp) only [Bytes.byteAt, Bytes.ipv4At, Bytes.wordAt, Bytes.macAt_eq,
        List.cons_append, List.nil_append, List.getElem?_cons_zero, List.getElem?_cons_succ,
        List.drop_succ_cons, List.drop_zero, Mac.ofBytes?, ok_bind, pure_eq_ok, ofBytes?]
      by_cases header : word h0 h1 = 1 ∧ word p0 p1 = EtherType.ipv4 ∧ hardwareLength = 6 ∧
          protocolLength = 4
      · obtain ⟨hardware, protocol, rfl, rfl⟩ := header
        simp [hardware, protocol]
      · rw [if_neg header]
        -- the four fields are looked at one after the other, and one of them is another
        split
        · rfl
        · split
          · rfl
          · split
            · rfl
            · simp_all

theorem Payload.read_eq (etherType : UInt16) (body : Bytes) :
    read etherType body = .ok (ofBytes etherType body) := by
  unfold read ofBytes
  split
  · rw [Ipv4Header.read_eq]
    cases Ipv4Header.ofBytes? body <;> rfl
  · split
    · rw [Arp.read_eq]
      cases Arp.ofBytes? body <;> rfl
    · rfl

theorem word_inj {a b c d : UInt8} : word a b = word c d ↔ a = c ∧ b = d := by
  constructor
  · intro h
    have ha := a.toNat_lt
    have hb := b.toNat_lt
    have hc := c.toNat_lt
    have hd := d.toNat_lt
    have h := UInt16.toNat_inj.2 h
    rw [word, word, UInt16.toNat_ofNat', UInt16.toNat_ofNat'] at h
    exact ⟨UInt8.toNat_inj.1 (by omega), UInt8.toNat_inj.1 (by omega)⟩
  · rintro ⟨rfl, rfl⟩
    rfl

namespace Frame

variable {data : Bytes}

def IsTagged (data : Bytes) : Prop := data[12]? = some 0x81 ∧ data[13]? = some 0x00

instance (data : Bytes) : Decidable (IsTagged data) := inferInstanceAs (Decidable (_ ∧ _))

/-- The body is behind the header and any tag; its type is in the two bytes before it. -/
def bodyStart (data : Bytes) : Nat := if IsTagged data then 18 else 14

theorem word_eq_vlan_iff {high low : UInt8} :
    word high low = EtherType.vlan ↔ high = 0x81 ∧ low = 0x00 :=
  word_inj (c := 0x81) (d := 0x00)

theorem word_eq_ipv4_iff {high low : UInt8} :
    word high low = EtherType.ipv4 ↔ high = 0x08 ∧ low = 0x00 :=
  word_inj (c := 0x08) (d := 0x00)

theorem isTagged_cons {d0 d1 d2 d3 d4 d5 s0 s1 s2 s3 s4 s5 e0 e1 : UInt8} {body : Bytes} :
    IsTagged (d0 :: d1 :: d2 :: d3 :: d4 :: d5 :: s0 :: s1 :: s2 :: s3 :: s4 :: s5 :: e0 :: e1 ::
      body) ↔ word e0 e1 = EtherType.vlan := by
  simp [IsTagged, word_eq_vlan_iff]

theorem ofBytes?_of_length_lt (cut : data.length < bodyStart data) : ofBytes? data = none := by
  unfold ofBytes?
  split
  · simp only [bodyStart, isTagged_cons, List.length_cons] at cut
    split
    · rename_i tagged
      rw [if_pos tagged] at cut
      split
      · simp at cut
        omega
      · rfl
    · rename_i untagged
      rw [if_neg untagged] at cut
      omega
  · rfl

theorem exists_ofBytes? (whole : bodyStart data ≤ data.length) :
    ∃ dst src vlan high low, data[bodyStart data - 2]? = some high ∧
      data[bodyStart data - 1]? = some low ∧
      ofBytes? data = some ⟨dst, src, vlan, word high low,
        Payload.ofBytes (word high low) (data.drop (bodyStart data))⟩ := by
  have header : 14 ≤ data.length := by
    unfold bodyStart at whole
    split at whole <;> omega
  obtain ⟨front, rest, rfl, length⟩ := Bytes.exists_front header
  match front, length with
  | [d0, d1, d2, d3, d4, d5, s0, s1, s2, s3, s4, s5, e0, e1], _ =>
    simp only [List.cons_append, List.nil_append, bodyStart, isTagged_cons] at whole ⊢
    by_cases tagged : word e0 e1 = EtherType.vlan
    · rw [if_pos tagged] at whole ⊢
      have tag : 4 ≤ rest.length := by simpa using whole
      obtain ⟨v0, v1, f0, f1, rest, rfl⟩ := Bytes.exists_four tag
      exact ⟨_, _, _, f0, f1, rfl, rfl, if_pos tagged⟩
    · rw [if_neg tagged]
      exact ⟨_, _, _, e0, e1, rfl, rfl, if_neg tagged⟩

theorem read_eq (data : Bytes) : read data = .ok (ofBytes? data) := by
  by_cases short : data.length < 14
  · have cut : data.length < bodyStart data := by
      unfold bodyStart
      split <;> omega
    rw [ofBytes?_of_length_lt cut, read, if_pos short]
    rfl
  · obtain ⟨front, rest, rfl, length⟩ := Bytes.exists_front (Nat.le_of_not_lt short)
    match front, length with
    | [d0, d1, d2, d3, d4, d5, s0, s1, s2, s3, s4, s5, e0, e1], _ =>
      rw [read, if_neg short]
      simp (disch := simp) only [Bytes.byteAt, Bytes.wordAt, Bytes.macAt_eq,
        List.cons_append, List.nil_append, List.getElem?_cons_zero, List.getElem?_cons_succ,
        List.drop_succ_cons, List.drop_zero, Mac.ofBytes?, ok_bind, pure_eq_ok, ofBytes?]
      split
      · by_cases cut : rest.length < 4
        · rw [if_pos (by simp; omega)]
          split
          · simp at cut
            omega
          · rfl
        · obtain ⟨v0, v1, f0, f1, rest, rfl⟩ := Bytes.exists_four (Nat.le_of_not_lt cut)
          rw [if_neg (by simp)]
          simp only [List.getElem?_cons_zero, List.getElem?_cons_succ, ok_bind]
          rw [Bytes.slice_to_end (by simp), ok_bind, Payload.read_eq]
          rfl
      · rw [Bytes.slice_to_end (by simp), ok_bind, Payload.read_eq]
        rfl

theorem ofBytes?_eq_none_iff :
    ofBytes? data = none ↔ data.length < 14 ∨ IsTagged data ∧ data.length < 18 := by
  have cut : ofBytes? data = none ↔ data.length < bodyStart data := by
    refine ⟨fun h => Nat.lt_of_not_le fun whole => ?_, ofBytes?_of_length_lt⟩
    obtain ⟨_, _, _, _, _, -, -, read⟩ := exists_ofBytes? whole
    rw [h] at read
    contradiction
  rw [cut, bodyStart]
  split
  · rename_i tagged
    rw [and_iff_right tagged]
    omega
  · rename_i untagged
    rw [or_iff_left fun h => untagged h.1]

end Frame

/-! ## Which headers are decoded -/

/-- What holds of the protocol and the transport of a header, said of the bytes it is read from. -/
theorem Ipv4Header.exists_ofBytes?_iff {data : Bytes} {P : UInt8 → Transport → Prop} :
    (∃ header, ofBytes? data = some header ∧ P header.protocol header.transport) ↔
      ∃ first protocol, data[0]? = some first ∧ data[9]? = some protocol ∧
        (first.toNat / 16 = 4 ∧ 20 ≤ lengthOf first ∧ lengthOf first ≤ data.length) ∧
        P protocol (Transport.ofBytes protocol (data.drop (lengthOf first))) := by
  by_cases short : data.length < 20
  · rw [ofBytes?_of_length_lt short]
    refine iff_of_false (by simp) ?_
    rintro ⟨first, protocol, -, -, ⟨-, long, within⟩, -⟩
    omega
  · obtain ⟨front, rest, rfl, length⟩ := Bytes.exists_front (Nat.le_of_not_lt short)
    match front, length with
    | [first, tos, _, _, _, _, _, _, _, protocol, _, _, s0, s1, s2, s3, d0, d1, d2, d3], _ =>
      simp only [List.cons_append, List.nil_append, ofBytes?, Option.ite_none_right_eq_some,
        Option.some.injEq, List.getElem?_cons_zero, List.getElem?_cons_succ]
      constructor
      · rintro ⟨header, ⟨opens, rfl⟩, h⟩
        exact ⟨first, protocol, rfl, rfl, opens, h⟩
      · rintro ⟨_, _, rfl, rfl, opens, h⟩
        exact ⟨_, ⟨opens, rfl⟩, h⟩

namespace Transport

variable {protocol : UInt8} {transport : Transport} {body : Bytes}

def IsTcp (transport : Transport) : Prop := ∃ srcPort dstPort, transport = .tcp srcPort dstPort

def IsUdp (transport : Transport) : Prop := ∃ srcPort dstPort, transport = .udp srcPort dstPort

def IsIcmp (transport : Transport) : Prop := ∃ type code, transport = .icmp type code

theorem Of.isTcp_iff (kind : transport.Of protocol) :
    transport.IsTcp ↔ protocol = 6 ∧ transport ≠ .other := by
  cases transport <;> simp_all [IsTcp, Of, IpProtocol.tcp, IpProtocol.udp, IpProtocol.icmp]

theorem Of.isUdp_iff (kind : transport.Of protocol) :
    transport.IsUdp ↔ protocol = 17 ∧ transport ≠ .other := by
  cases transport <;> simp_all [IsUdp, Of, IpProtocol.tcp, IpProtocol.udp, IpProtocol.icmp]

theorem Of.isIcmp_iff (kind : transport.Of protocol) :
    transport.IsIcmp ↔ protocol = 1 ∧ transport ≠ .other := by
  cases transport <;> simp_all [IsIcmp, Of, IpProtocol.tcp, IpProtocol.udp, IpProtocol.icmp]

theorem isTcp_ofBytes_iff : (ofBytes protocol body).IsTcp ↔ protocol = 6 ∧ 4 ≤ body.length := by
  rw [(ofBytes_of protocol body).isTcp_iff, ofBytes_ne_other_iff]
  refine and_congr_right ?_
  rintro rfl
  simp [IpProtocol.tcp, IpProtocol.udp, IpProtocol.icmp]

theorem isUdp_ofBytes_iff : (ofBytes protocol body).IsUdp ↔ protocol = 17 ∧ 4 ≤ body.length := by
  rw [(ofBytes_of protocol body).isUdp_iff, ofBytes_ne_other_iff]
  refine and_congr_right ?_
  rintro rfl
  simp [IpProtocol.tcp, IpProtocol.udp, IpProtocol.icmp]

theorem isIcmp_ofBytes_iff : (ofBytes protocol body).IsIcmp ↔ protocol = 1 ∧ 2 ≤ body.length := by
  rw [(ofBytes_of protocol body).isIcmp_iff, ofBytes_ne_other_iff]
  refine and_congr_right ?_
  rintro rfl
  simp [IpProtocol.tcp, IpProtocol.udp, IpProtocol.icmp]

end Transport

namespace Frame

variable {data : Bytes}

theorem ipv4?_ofBytes (dst src : Mac) (vlan : Option UInt16) (etherType : UInt16) (body : Bytes) :
    ipv4? ⟨dst, src, vlan, etherType, Payload.ofBytes etherType body⟩ =
      if etherType = EtherType.ipv4 then Ipv4Header.ofBytes? body else none := by
  unfold Payload.ofBytes
  split
  · cases Ipv4Header.ofBytes? body <;> rfl
  · split
    · cases Arp.ofBytes? body <;> rfl
    · rfl

theorem bind_ipv4?_eq_some_iff {header : Ipv4Header} :
    (ofBytes? data).bind ipv4? = some header ↔
      (data[bodyStart data - 2]? = some 0x08 ∧ data[bodyStart data - 1]? = some 0x00) ∧
        Ipv4Header.ofBytes? (data.drop (bodyStart data)) = some header := by
  by_cases whole : bodyStart data ≤ data.length
  · obtain ⟨dst, src, vlan, high, low, hhigh, hlow, read⟩ := exists_ofBytes? whole
    rw [read, Option.bind_some, ipv4?_ofBytes, hhigh, hlow, Option.ite_none_right_eq_some,
      word_eq_ipv4_iff, Option.some.injEq, Option.some.injEq]
  · rw [ofBytes?_of_length_lt (Nat.lt_of_not_le whole), List.drop_eq_nil_of_le (by omega)]
    exact iff_of_false nofun nofun

/--
The type is IPv4, and the body starts with a header of version four that has `words` words of four
bytes, at least five, all of them there.
-/
structure CarriesIpv4 (data : Bytes) (words : Nat) : Prop where
  etherType : data[bodyStart data - 2]? = some 0x08 ∧ data[bodyStart data - 1]? = some 0x00
  first : ∃ first, data[bodyStart data]? = some first ∧ first.toNat / 16 = 4 ∧
    first.toNat % 16 = words
  minimal : 5 ≤ words
  present : bodyStart data + max 20 (4 * words) ≤ data.length

theorem exists_ipv4_iff {P : UInt8 → Transport → Prop} :
    (∃ header, (ofBytes? data).bind ipv4? = some header ∧ P header.protocol header.transport) ↔
      ∃ words protocol, CarriesIpv4 data words ∧ data[bodyStart data + 9]? = some protocol ∧
        P protocol (Transport.ofBytes protocol (data.drop (bodyStart data + 4 * words))) := by
  have body : (∃ header, (ofBytes? data).bind ipv4? = some header ∧
      P header.protocol header.transport) ↔
      (data[bodyStart data - 2]? = some 0x08 ∧ data[bodyStart data - 1]? = some 0x00) ∧
        ∃ header, Ipv4Header.ofBytes? (data.drop (bodyStart data)) = some header ∧
          P header.protocol header.transport := by
    simp only [bind_ipv4?_eq_some_iff, and_assoc, exists_and_left]
  rw [body, Ipv4Header.exists_ofBytes?_iff]
  simp only [List.getElem?_drop, List.drop_drop, List.length_drop, Nat.add_zero,
    Ipv4Header.lengthOf]
  constructor
  · rintro ⟨etherType, first, protocol, hfirst, hprotocol, ⟨version, long, within⟩, h⟩
    have start : bodyStart data < data.length := (List.getElem?_eq_some_iff.1 hfirst).1
    have carries : CarriesIpv4 data (first.toNat % 16) :=
      ⟨etherType, ⟨first, hfirst, version, rfl⟩, by omega, by omega⟩
    exact ⟨first.toNat % 16, protocol, carries, hprotocol, h⟩
  · rintro ⟨_, protocol, ⟨etherType, ⟨first, hfirst, version, rfl⟩, minimal, present⟩, hprotocol, h⟩
    exact ⟨etherType, first, protocol, hfirst, hprotocol, ⟨version, by omega, by omega⟩, h⟩

theorem exists_kind_iff {Kind : Transport → Prop} {number : UInt8} {needed : Nat}
    (kind : ∀ protocol body,
      Kind (Transport.ofBytes protocol body) ↔ protocol = number ∧ needed ≤ body.length) :
    (∃ header, (ofBytes? data).bind ipv4? = some header ∧ Kind header.transport) ↔
      ∃ words, CarriesIpv4 data words ∧ data[bodyStart data + 9]? = some number ∧
        bodyStart data + 4 * words + needed ≤ data.length := by
  rw [exists_ipv4_iff (P := fun _ transport => Kind transport)]
  simp only [kind, List.length_drop]
  constructor
  · rintro ⟨words, _, carries, hprotocol, rfl, enough⟩
    have present := carries.present
    exact ⟨words, carries, hprotocol, by omega⟩
  · rintro ⟨words, carries, hprotocol, enough⟩
    exact ⟨words, number, carries, hprotocol, rfl, by omega⟩

/--
None of the readers ever reads outside its input.  A frame is read unless its header, or the tag
that the header announces, is cut short; an IPv4 header is decoded exactly where it is there in
full; and its transport is known by the protocol in its tenth byte, with four bytes of ports, or
two of an ICMP type and code, behind it.
-/
theorem reads_within_input :
    (∀ data, Mac.read data = .ok (Mac.ofBytes? data)) ∧
    (∀ data, Ipv4Header.read data = .ok (Ipv4Header.ofBytes? data)) ∧
    (∀ data, Arp.read data = .ok (Arp.ofBytes? data)) ∧
    (∀ data, Frame.read data = .ok (ofBytes? data)) ∧
    (∀ data, ofBytes? data = none ↔ data.length < 14 ∨ IsTagged data ∧ data.length < 18) ∧
    (∀ data, (∃ header, (ofBytes? data).bind ipv4? = some header) ↔
      ∃ words, CarriesIpv4 data words) ∧
    (∀ data, (∃ header, (ofBytes? data).bind ipv4? = some header ∧ header.transport.IsTcp) ↔
      ∃ words, CarriesIpv4 data words ∧ data[bodyStart data + 9]? = some 6 ∧
        bodyStart data + 4 * words + 4 ≤ data.length) ∧
    (∀ data, (∃ header, (ofBytes? data).bind ipv4? = some header ∧ header.transport.IsUdp) ↔
      ∃ words, CarriesIpv4 data words ∧ data[bodyStart data + 9]? = some 17 ∧
        bodyStart data + 4 * words + 4 ≤ data.length) ∧
    (∀ data, (∃ header, (ofBytes? data).bind ipv4? = some header ∧ header.transport.IsIcmp) ↔
      ∃ words, CarriesIpv4 data words ∧ data[bodyStart data + 9]? = some 1 ∧
        bodyStart data + 4 * words + 2 ≤ data.length) := by
  refine ⟨Mac.read_eq, Ipv4Header.read_eq, Arp.read_eq, read_eq, fun _ => ofBytes?_eq_none_iff,
    fun data => ?_, fun _ => exists_kind_iff fun _ _ => Transport.isTcp_ofBytes_iff,
    fun _ => exists_kind_iff fun _ _ => Transport.isUdp_ofBytes_iff,
    fun _ => exists_kind_iff fun _ _ => Transport.isIcmp_ofBytes_iff⟩
  constructor
  · rintro ⟨header, decoded⟩
    obtain ⟨words, _, carries, -⟩ :=
      (exists_ipv4_iff (P := fun _ _ => True)).1 ⟨header, decoded, trivial⟩
    exact ⟨words, carries⟩
  · rintro ⟨words, carries⟩
    have present := carries.present
    have tenth : bodyStart data + 9 < data.length := by omega
    obtain ⟨header, decoded, -⟩ := (exists_ipv4_iff (P := fun _ _ => True)).2
      ⟨words, _, carries, List.getElem?_eq_getElem tenth, trivial⟩
    exact ⟨header, decoded⟩

end Frame

end PolicyRouting
