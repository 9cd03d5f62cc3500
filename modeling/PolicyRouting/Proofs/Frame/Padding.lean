import PolicyRouting.Proofs.Frame.Positions

/-!
# Frames with bytes behind them

A short frame is padded on its way, so more bytes may arrive than were written.
They leave alone what was decoded without them: the addresses, the VLAN and the
type of a frame, an ARP message, the fields of an IPv4 header, and a transport
that is known.  All they can do is to complete what was cut short, which is a
body that did not decode or a transport that was not known.
-/

namespace PolicyRouting

theorem Transport.ofBytes_append {protocol : UInt8} {body : Bytes}
    (known : ofBytes protocol body ≠ .other) (more : Bytes) :
    ofBytes protocol (body ++ more) = ofBytes protocol body := by
  obtain ⟨ports, long⟩ | ⟨rfl, long⟩ := ofBytes_ne_other_iff.1 known
  · obtain ⟨a, b, c, d, rest, rfl⟩ := Bytes.exists_four long
    rcases ports with rfl | rfl <;> rfl
  · obtain ⟨type, code, rest, rfl⟩ := Bytes.exists_two long
    rfl

/-- Only an unknown transport is read as another one. -/
theorem Ipv4Header.ofBytes?_append {data : Bytes} {header : Ipv4Header}
    (h : ofBytes? data = some header) (more : Bytes) :
    ∃ transport, ofBytes? (data ++ more) = some { header with transport } ∧
      (header.transport ≠ .other → transport = header.transport) := by
  unfold ofBytes? at h
  split at h
  · simp only [Option.ite_none_right_eq_some, Option.some.injEq] at h
    obtain ⟨⟨version, minimal, present⟩, rfl⟩ := h
    have within := Nat.le_trans present (List.sublist_append_left _ more).length_le
    refine ⟨_, if_pos ⟨version, minimal, within⟩, fun known => ?_⟩
    rw [List.drop_append_of_le_length present]
    exact Transport.ofBytes_append known more
  · contradiction

theorem Arp.ofBytes?_append {data : Bytes} {message : Arp} (h : ofBytes? data = some message)
    (more : Bytes) : ofBytes? (data ++ more) = some message := by
  unfold ofBytes? at h
  split at h
  · exact h
  · contradiction

/-- The second payload says what the first one says, and may say more. -/
inductive Payload.Extends : Payload → Payload → Prop
  | unparsed (payload : Payload) : Extends .unparsed payload
  | arp (message : Arp) : Extends (.arp message) (.arp message)
  | ipv4 (header : Ipv4Header) (transport : Transport)
      (kept : header.transport ≠ .other → transport = header.transport) :
      Extends (.ipv4 header) (.ipv4 { header with transport })

theorem Payload.extends_ofBytes (etherType : UInt16) (body more : Bytes) :
    (ofBytes etherType body).Extends (ofBytes etherType (body ++ more)) := by
  unfold ofBytes
  split
  · cases h : Ipv4Header.ofBytes? body with
    | none => exact .unparsed _
    | some header =>
        obtain ⟨transport, longer, kept⟩ := Ipv4Header.ofBytes?_append h more
        rw [longer]
        exact .ipv4 header transport kept
  · split
    · cases h : Arp.ofBytes? body with
      | none => exact .unparsed _
      | some message =>
          rw [Arp.ofBytes?_append h more]
          exact .arp message
    · exact .unparsed _

namespace Frame

variable {data : Bytes} {frame : Frame}

theorem ofBytes?_append (h : ofBytes? data = some frame) (more : Bytes) :
    ∃ payload, ofBytes? (data ++ more) = some { frame with payload } ∧
      frame.payload.Extends payload := by
  unfold ofBytes? at h
  split at h
  · simp only at h
    split at h
    · rename_i tagged
      split at h
      · obtain rfl := Option.some.inj h
        exact ⟨_, if_pos tagged, Payload.extends_ofBytes _ _ more⟩
      · contradiction
    · rename_i untagged
      obtain rfl := Option.some.inj h
      exact ⟨_, if_neg untagged, Payload.extends_ofBytes _ _ more⟩
  · contradiction

theorem IsDecoded.eq_of_extends (decoded : frame.IsDecoded) {payload : Payload}
    (h : frame.payload.Extends payload) : { frame with payload } = frame := by
  obtain ⟨dst, src, vlan, etherType, content⟩ := frame
  cases h with
  | unparsed => exact absurd decoded id
  | arp message => rfl
  | ipv4 header transport kept => rw [kept decoded]

/--
Bytes behind a frame change nothing in what was decoded down to its transport, or to an ARP message;
and whatever the body is, they leave the frame readable, with the same addresses, VLAN and type.
-/
theorem padding_changes_nothing_decoded (data padding : Bytes) :
    (∀ frame, ofBytes? data = some frame → frame.IsDecoded →
      ofBytes? (data ++ padding) = some frame) ∧
    (∀ frame, ofBytes? data = some frame → ∃ longer, ofBytes? (data ++ padding) = some longer ∧
      longer.dst = frame.dst ∧ longer.src = frame.src ∧ longer.vlan = frame.vlan ∧
      longer.etherType = frame.etherType) := by
  constructor
  · intro frame h decoded
    obtain ⟨payload, longer, extended⟩ := ofBytes?_append h padding
    rw [longer, decoded.eq_of_extends extended]
  · intro frame h
    obtain ⟨payload, longer, -⟩ := ofBytes?_append h padding
    exact ⟨{ frame with payload }, longer, rfl, rfl, rfl, rfl⟩

def cutFrame : Frame := { optionedFrame with payload := .unparsed }

theorem optionedPacket_padded :
    (ofBytes? optionedPacket = some optionedFrame ∧ optionedFrame.IsDecoded ∧
      ofBytes? (optionedPacket ++ [0, 0, 0, 0]) = some optionedFrame) ∧
    ofBytes? (optionedPacket.take 40) = some cutFrame ∧
      ∃ longer, ofBytes? (optionedPacket.take 40 ++ optionedPacket.drop 40) = some longer ∧
        longer.dst = cutFrame.dst ∧ longer.src = cutFrame.src ∧ longer.vlan = cutFrame.vlan ∧
        longer.etherType = cutFrame.etherType := by
  have whole : ofBytes? optionedPacket = some optionedFrame := by decide +kernel
  have decoded : optionedFrame.IsDecoded := fun h => Transport.noConfusion h
  have cut : ofBytes? (optionedPacket.take 40) = some cutFrame := by decide +kernel
  exact ⟨⟨whole, decoded, (padding_changes_nothing_decoded _ _).1 optionedFrame whole decoded⟩,
    cut, (padding_changes_nothing_decoded _ _).2 cutFrame cut⟩

end Frame

end PolicyRouting
