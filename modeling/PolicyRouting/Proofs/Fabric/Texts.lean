import PolicyRouting.Fabric.Host
import PolicyRouting.Proofs.Address.Texts
import PolicyRouting.Proofs.Text.Items

/-!
# Text forms of hosts and connect points

Every host id is read from its own text form.  So is every connect point whose
device has a name that does not start with a blank: reading cuts at the last
slash, which stands before the port, and what trimming could take away at the
end is a digit.  What is read as a connect point is always of that kind.
-/

namespace PolicyRouting

namespace Text

theorem eq_of_cutFirst {sep : Char} {cs before after : List Char}
    (h : cutFirst sep cs = some (before, after)) : cs = before ++ sep :: after := by
  induction cs generalizing before with
  | nil => simp [cutFirst] at h
  | cons c cs ih =>
      rw [cutFirst] at h
      split at h
      · rename_i same
        obtain ⟨rfl, rfl⟩ : [] = before ∧ cs = after := by simpa using h
        rw [same, List.nil_append]
      · obtain ⟨⟨front, back⟩, cut, pair⟩ := Option.map_eq_some_iff.1 h
        obtain ⟨rfl, rfl⟩ : c :: front = before ∧ back = after := by simpa using pair
        rw [ih cut, List.cons_append]

theorem eq_of_cutLast {sep : Char} {cs before after : List Char}
    (h : cutLast sep cs = some (before, after)) : cs = before ++ sep :: after := by
  obtain ⟨⟨back, front⟩, cut, pair⟩ := Option.map_eq_some_iff.1 h
  obtain ⟨rfl, rfl⟩ : front.reverse = before ∧ back.reverse = after := by simpa using pair
  rw [← List.reverse_reverse cs, eq_of_cutFirst cut]
  simp

end Text

namespace HostId

theorem vlan?_decimal (v : UInt16) : vlan? (Text.decimal v.toNat) = some (some v) := by
  have notWord (word : List Char) (mark : Char) (mem : mark ∈ word)
      (notDigit : mark.isDigit = false) : Text.decimal v.toNat ≠ word := by
    rintro rfl
    exact Text.not_mem_decimal notDigit mem
  have notNone := notWord ['N', 'o', 'n', 'e'] 'N' (by decide) rfl
  have notMinusOne := notWord ['-', '1'] '-' (by decide) rfl
  simp [vlan?, notNone, notMinusOne]

def vlanChars (id : HostId) : List Char :=
  match id.vlan with
  | none => ['N', 'o', 'n', 'e']
  | some v => Text.decimal v.toNat

theorem toList_text (id : HostId) : id.text.toList = id.mac.text.toList ++ '/' :: id.vlanChars := by
  obtain ⟨mac, vlan⟩ := id
  cases vlan <;> simp [text, vlanChars, Text.decimalText]

theorem vlan?_vlanChars (id : HostId) : vlan? id.vlanChars = some id.vlan := by
  obtain ⟨mac, vlan⟩ := id
  cases vlan with
  | none => rfl
  | some v => exact vlan?_decimal v

theorem vlanChars_inside {id : HostId} {c : Char} (h : c ∈ id.vlanChars) :
    Mac.isInside c = true := by
  obtain ⟨mac, vlan⟩ := id
  cases vlan with
  | none =>
      have word : ['N', 'o', 'n', 'e'].all Mac.isInside = true := by decide
      exact List.all_eq_true.1 word c h
  | some v =>
      have digit := Text.isDigit_of_mem_decimal h
      simp [Mac.isInside, Text.isBlank_of_isDigit digit, Text.ne_of_isDigit digit]

theorem text_inside {id : HostId} {c : Char} (h : c ∈ id.text.toList) :
    c = '/' ∨ Mac.isInside c = true := by
  rw [toList_text] at h
  obtain mac | rfl | vlan : c ∈ id.mac.text.toList ∨ c = '/' ∨ c ∈ id.vlanChars := by
    simpa using h
  · exact .inr (Mac.text_inside mac)
  · exact .inl rfl
  · exact .inr (vlanChars_inside vlan)

theorem trim_text (id : HostId) : Text.trim id.text.toList = id.text.toList := by
  refine Text.trim_eq_self fun c mem => ?_
  obtain rfl | inside := text_inside mem
  · decide
  · simp_all [Mac.isInside]

theorem ofText_text (id : HostId) : ofText id.text = .ok id := by
  have slash : '/' ∉ id.mac.text.toList := fun mem => absurd (Mac.text_inside mem) (by decide)
  have cut := Text.cutFirst_append slash id.vlanChars
  rw [← toList_text] at cut
  simp [ofText, trim_text, ofChars?, cut, vlan?_vlanChars, Mac.ofText_text]

end HostId

namespace ConnectPoint

/-- The device has a name, which starts with no blank. -/
def IsReadable (p : ConnectPoint) : Prop :=
  p.device ≠ "" ∧ ∀ c ∈ p.device.toList.head?, Text.isBlank c = false

theorem toList_text (p : ConnectPoint) :
    p.text.toList = p.device.toList ++ '/' :: Text.decimal p.port.toNat := by
  simp [text, Text.decimalText]

theorem trim_text {p : ConnectPoint} (h : p.IsReadable) :
    Text.trim p.text.toList = p.text.toList := by
  obtain ⟨named, notBlank⟩ := h
  have start : Text.trimStart p.text.toList = p.text.toList := by
    obtain ⟨c, cs, device⟩ := List.exists_cons_of_ne_nil (mt String.toList_eq_nil_iff.1 named)
    rw [toList_text, device]
    exact Text.trimStart_eq_self (notBlank c (by simp [device]))
  have digits := Text.decimal_ne_nil p.port.toNat
  have lastDigit : Text.isBlank ((Text.decimal p.port.toNat).getLast digits) = false :=
    Text.isBlank_of_isDigit (Text.isDigit_of_mem_decimal (List.getLast_mem digits))
  rw [Text.trim, start, toList_text, ← List.dropLast_concat_getLast digits, ← List.cons_append,
    ← List.append_assoc]
  exact Text.trimEnd_concat lastDigit

theorem ofText_text {p : ConnectPoint} (h : p.IsReadable) : ofText p.text = .ok p := by
  have noSlash : '/' ∉ Text.decimal p.port.toNat := Text.not_mem_decimal rfl
  have cut := Text.cutLast_append noSlash p.device.toList
  rw [ofText, trim_text h, toList_text]
  simp [ofChars?, cut, h.1]

theorem isReadable_of_ofText {s : String} {p : ConnectPoint} (h : ofText s = .ok p) :
    p.IsReadable := by
  rw [ofText] at h
  cases read : ofChars? (Text.trim s.toList) with
  | none => simp [read] at h
  | some q =>
      obtain rfl : q = p := by simpa [read] using h
      simp only [ofChars?, Option.bind_eq_bind, Option.bind_eq_some_iff] at read
      obtain ⟨⟨device, port⟩, cut, read⟩ := read
      split at read
      · contradiction
      · rename_i named
        obtain ⟨n, -, rfl⟩ := Option.map_eq_some_iff.1 read
        have whole := Text.eq_of_cutLast cut
        obtain ⟨c, cs, rfl⟩ := List.exists_cons_of_ne_nil (mt List.isEmpty_iff.2 named)
        refine ⟨by simp, fun first mem => ?_⟩
        rw [String.toList_ofList] at mem
        have head : first ∈ (Text.trim s.toList).head? := by
          rw [whole]
          exact mem
        exact Text.head_trim head

end ConnectPoint

end PolicyRouting
