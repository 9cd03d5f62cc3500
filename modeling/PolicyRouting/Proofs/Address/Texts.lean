import PolicyRouting.Address.Mac
import PolicyRouting.Address.Network
import PolicyRouting.Proofs.Text.Numerals

/-!
# Text forms of addresses

Each address and each IPv4 network is read from its own text form.  The text of
a MAC address has no blank, slash or comma in it, which the larger text forms
that contain one rely on.
-/

namespace PolicyRouting

namespace Text

section Joined

variable {mark : String} {sep : Char} (one : mark.toList = [sep])

include one

theorem toList_joined (part : String) (parts : List String) :
    (joined mark (part :: parts)).toList =
      part.toList ++ parts.flatMap fun part => sep :: part.toList := by
  rw [joined, String.toList_intercalate, one]
  induction parts generalizing part with
  | nil => simp [List.intercalate]
  | cons next parts ih =>
      have rest := ih next
      simp only [List.intercalate, List.map_cons, List.intersperse_cons_cons,
        List.flatten_cons] at rest ⊢
      rw [rest]
      simp

theorem mem_joined {parts : List String} {c : Char} (h : c ∈ (joined mark parts).toList) :
    c = sep ∨ ∃ part ∈ parts, c ∈ part.toList := by
  cases parts with
  | nil => simp [joined] at h
  | cons part parts =>
      rw [toList_joined one, List.mem_append, List.mem_flatMap] at h
      obtain first | ⟨part', mem, at'⟩ := h
      · exact .inr ⟨part, List.mem_cons_self, first⟩
      · obtain rfl | inside := List.mem_cons.1 at'
        · exact .inl rfl
        · exact .inr ⟨part', List.mem_cons_of_mem _ mem, inside⟩

theorem pieces_joined {parts : List String} (nonempty : parts ≠ [])
    (free : ∀ part ∈ parts, sep ∉ part.toList) :
    pieces sep (joined mark parts).toList = parts.map String.toList := by
  induction parts with
  | nil => contradiction
  | cons part parts ih =>
      have first := free part List.mem_cons_self
      rw [toList_joined one]
      cases parts with
      | nil => simpa using pieces_eq_singleton first
      | cons next parts =>
          have rest := ih (List.cons_ne_nil _ _) fun part mem =>
            free part (List.mem_cons_of_mem _ mem)
          rw [toList_joined one] at rest
          rw [List.flatMap_cons, List.cons_append, pieces_append first, rest]
          rfl

end Joined

end Text

namespace Mac

theorem octet?_octetText (b : UInt8) : octet? (octetText b) = some b := by
  have all : ∀ n < 256, octet? (octetText (UInt8.ofNat n)) = some (UInt8.ofNat n) := by
    decide +kernel
  simpa using all b.toNat b.toNat_lt

def isInside (c : Char) : Bool := !Text.isBlank c && c ≠ '/' && c ≠ ','

theorem octetText_inside {b : UInt8} {c : Char} (h : c ∈ octetText b) :
    isInside c = true ∧ c ≠ ':' := by
  have all : (List.range 256).all (fun n =>
      (octetText (UInt8.ofNat n)).all fun c => isInside c && c != ':') = true := by
    decide +kernel
  have octet := List.all_eq_true.1 all b.toNat (List.mem_range.2 b.toNat_lt)
  simpa using List.all_eq_true.1 octet c (by simpa using h)

theorem text_inside {m : Mac} {c : Char} (h : c ∈ m.text.toList) : isInside c = true := by
  obtain rfl | ⟨part, mem, inside⟩ := Text.mem_joined rfl h
  · decide
  · obtain ⟨b, -, rfl⟩ := List.mem_map.1 mem
    rw [String.toList_ofList] at inside
    exact (octetText_inside inside).1

theorem pieces_text (m : Mac) : Text.pieces ':' m.text.toList = m.octets.map octetText := by
  rw [text, Text.pieces_joined rfl (by simp [octets])]
  · simp [Function.comp_def]
  · intro part mem
    obtain ⟨b, -, rfl⟩ := List.mem_map.1 mem
    rw [String.toList_ofList]
    exact fun colon => (octetText_inside colon).2 rfl

theorem ofText_text (m : Mac) : ofText m.text = .ok m := by
  have plain : Text.trim m.text.toList = m.text.toList := by
    refine Text.trim_eq_self fun c mem => ?_
    have := text_inside mem
    simp_all [isInside]
  have read : (m.octets.map octetText).mapM octet? = some m.octets := by
    simp [octets, octet?_octetText]
  rw [ofText, plain, pieces_text, ofGroups?, read]
  rfl

end Mac

namespace Ipv4

theorem octet?_decimal (b : UInt8) : octet? (Text.decimal b.toNat) = some b := by
  have all : ∀ n < 256, octet? (Text.decimal n) = some (UInt8.ofNat n) := by decide +kernel
  simpa using all b.toNat b.toNat_lt

theorem ofChars?_text (ip : Ipv4) : ofChars? ip.text.toList = some ip := by
  have groups : Text.pieces '.' ip.text.toList = ip.octets.map fun b => Text.decimal b.toNat := by
    rw [text, Text.pieces_joined rfl (by simp [octets])]
    · simp [Function.comp_def, Text.decimalText]
    · intro part mem
      obtain ⟨b, -, rfl⟩ := List.mem_map.1 mem
      rw [Text.decimalText, String.toList_ofList]
      exact Text.not_mem_decimal rfl
  have read : (ip.octets.map fun b => Text.decimal b.toNat).mapM octet? = some ip.octets := by
    simp [octets, octet?_decimal]
  rw [ofChars?, groups, read]
  rfl

theorem noSlash_text (ip : Ipv4) : '/' ∉ ip.text.toList := by
  intro h
  obtain point | ⟨part, mem, inside⟩ := Text.mem_joined rfl h
  · exact absurd point (by decide)
  · obtain ⟨b, -, rfl⟩ := List.mem_map.1 mem
    rw [Text.decimalText, String.toList_ofList] at inside
    exact Text.not_mem_decimal rfl inside

end Ipv4

namespace Ipv4Net

/-- The length is not taken for a mask, which has points in it. -/
theorem length?_decimal (n : Fin 33) : length? (Text.decimal n) = some n.val := by
  have noPoint : '.' ∉ Text.decimal n := Text.not_mem_decimal rfl
  have noMask : Ipv4.ofChars? (Text.decimal n) = none := by
    rw [Ipv4.ofChars?, Text.pieces_eq_singleton noPoint]
    cases h : Ipv4.octet? (Text.decimal n) <;> simp [h]
  rw [length?, noMask]
  exact Text.numeral?_decimal n.isLt

theorem ofText?_text (net : Ipv4Net) : ofText? net.text = some net := by
  have noSlash : '/' ∉ Text.decimal net.length := Text.not_mem_decimal rfl
  have parts : slashParts? net.text.toList =
      some (net.address.text.toList, some (Text.decimal net.length)) := by
    have cut := Text.cutFirst_append (Ipv4.noSlash_text net.address) (Text.decimal net.length)
    simp [slashParts?, text, Text.decimalText, cut, noSlash]
  simp [ofText?, parts, Ipv4.ofChars?_text, length?_decimal, of?]

end Ipv4Net

end PolicyRouting
