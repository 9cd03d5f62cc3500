import Mathlib.Data.List.Forall2
import PolicyRouting.Proofs.Address.Texts
import PolicyRouting.Proofs.Text.Items
import PolicyRouting.Proofs.Text.Names

/-!
# What is read as a MAC address

Six groups of two hexadecimal digits with colons between them are read as the
address that has the value of each group for its octet.  They are not all that
is read: the length of a group is checked first and its characters are then
read as a numeral, which takes a plus sign, so a sign and one digit are a group
as well.  The sign is the only exception: what is read without one is, but for
the case of its letters, the text form of the address.
-/

namespace PolicyRouting

namespace Text

def hexDigits : List Char := "0123456789ABCDEF".toList

def IsHexDigit (c : Char) (v : Nat) : Prop := ∃ digit, hexDigits[v]? = some digit ∧ Cased c digit

instance (c letter : Char) : Decidable (Cased c letter) :=
  inferInstanceAs (Decidable (c = letter ∨ c = letter.toLower))

theorem toNat_lt_of_digitValue? {c : Char} {base v : Nat} (h : digitValue? base c = some v) :
    c.toNat < 128 := by
  have decimal : '0' ≤ c ∧ c ≤ '9' ↔ 48 ≤ c.toNat ∧ c.toNat ≤ 57 := Iff.rfl
  have lower : 'a' ≤ c ∧ c ≤ 'f' ↔ 97 ≤ c.toNat ∧ c.toNat ≤ 102 := Iff.rfl
  have upper : 'A' ≤ c ∧ c ≤ 'F' ↔ 65 ≤ c.toNat ∧ c.toNat ≤ 70 := Iff.rfl
  unfold digitValue? at h
  simp only [decimal, lower, upper] at h
  split at h
  · omega
  · split at h
    · omega
    · split at h
      · omega
      · nomatch h

theorem ascii_of_digitsFrom? {base acc n : Nat} {cs : List Char}
    (h : digitsFrom? base acc cs = some n) : ∀ c ∈ cs, c.toNat < 128 := by
  induction cs generalizing acc with
  | nil => simp
  | cons c cs ih =>
      obtain ⟨d, digit, rest⟩ := Option.bind_eq_some_iff.1 h
      exact List.forall_mem_cons.2 ⟨toNat_lt_of_digitValue? digit, ih rest⟩

theorem ascii_of_numeral? {base bound n : Nat} {cs : List Char}
    (h : numeral? base bound cs = some n) : ∀ c ∈ cs, c.toNat < 128 := by
  obtain ⟨read, -⟩ := Option.filter_eq_some_iff.1 h
  have digits : ∀ c ∈ withoutPlus cs, c.toNat < 128 := by
    cases unsigned : withoutPlus cs with
    | nil => simp
    | cons c rest =>
        rw [unsigned] at read
        exact ascii_of_digitsFrom? read
  unfold withoutPlus at digits
  split at digits
  · exact List.forall_mem_cons.2 ⟨by decide, digits⟩
  · exact digits

theorem utf8ByteSize_ofList {cs : List Char} (ascii : ∀ c ∈ cs, c.toNat < 128) :
    (String.ofList cs).utf8ByteSize = cs.length := by
  induction cs with
  | nil => rfl
  | cons c cs ih =>
      obtain ⟨small, others⟩ := List.forall_mem_cons.1 ascii
      have one : c.utf8Size = 1 :=
        Char.utf8Size_eq_one_iff.2 (UInt32.le_iff_toNat_le.2 (Nat.le_of_lt_succ small))
      rw [String.ofList_cons, String.utf8ByteSize_append, String.utf8ByteSize_singleton, one,
        ih others, List.length_cons, Nat.add_comm]

theorem digitValue?_sixteen_eq_some_iff {c : Char} {v : Nat} :
    digitValue? 16 c = some v ↔ IsHexDigit c v := by
  constructor
  · intro h
    have all : (List.range 128).all (fun n => (digitValue? 16 (Char.ofNat n)).all fun v =>
        hexDigits[v]?.any fun digit => decide (Cased (Char.ofNat n) digit)) = true := by
      decide +kernel
    have char := List.all_eq_true.1 all c.toNat (List.mem_range.2 (toNat_lt_of_digitValue? h))
    rw [Char.ofNat_toNat, h, Option.all_some, Option.any_eq_true] at char
    obtain ⟨digit, found, cased⟩ := char
    exact ⟨digit, found, of_decide_eq_true cased⟩
  · rintro ⟨digit, found, cased⟩
    have all : (List.range 16).all (fun v => hexDigits[v]?.all fun digit =>
        digitValue? 16 digit = some v && digitValue? 16 digit.toLower = some v) = true := by
      decide +kernel
    obtain ⟨inside, -⟩ := List.getElem?_eq_some_iff.1 found
    have values := List.all_eq_true.1 all v (List.mem_range.2 inside)
    obtain ⟨written, lower⟩ : digitValue? 16 digit = some v ∧
        digitValue? 16 digit.toLower = some v := by
      simpa [found] using values
    obtain rfl | rfl := cased
    · exact written
    · exact lower

theorem isHexDigit_iff {c digit : Char} {v : Nat} (found : hexDigits[v]? = some digit) :
    IsHexDigit c v ↔ Cased c digit := by
  simp [IsHexDigit, found]

theorem IsHexDigit.lt {c : Char} {v : Nat} (h : IsHexDigit c v) : v < 16 := by
  obtain ⟨digit, found, -⟩ := h
  exact (List.getElem?_eq_some_iff.1 found).1

theorem IsHexDigit.ne {c mark : Char} {v : Nat} (h : IsHexDigit c v)
    (notDigit : digitValue? 16 mark = none) : c ≠ mark := by
  rintro rfl
  rw [digitValue?_sixteen_eq_some_iff.2 h] at notDigit
  nomatch notDigit

theorem digits?_one {c : Char} {n : Nat} : digits? 16 [c] = some n ↔ IsHexDigit c n := by
  simp [digits?, digitsFrom?, digitValue?_sixteen_eq_some_iff]

theorem digits?_two {c d : Char} {n : Nat} : digits? 16 [c, d] = some n ↔
    ∃ high low, IsHexDigit c high ∧ IsHexDigit d low ∧ 16 * high + low = n := by
  simp [digits?, digitsFrom?, digitValue?_sixteen_eq_some_iff, Option.bind_eq_some_iff,
    Nat.mul_comm]

end Text

namespace Mac

open Text (IsHexDigit)

/-! ## Groups -/

section Group

variable {group : List Char} {b : UInt8}

def IsPair (group : List Char) (b : UInt8) : Prop :=
  ∃ first second high low, group = [first, second] ∧
    IsHexDigit first high ∧ IsHexDigit second low ∧ b.toNat = 16 * high + low

/-- A plus sign and one hexadecimal digit. -/
def IsSigned (group : List Char) (b : UInt8) : Prop :=
  ∃ digit, group = ['+', digit] ∧ IsHexDigit digit b.toNat

def IsGroup (group : List Char) (b : UInt8) : Prop := IsPair group b ∨ IsSigned group b

theorem octet?_eq_some_iff_digits :
    octet? group = some b ↔
      group.length = 2 ∧ Text.digits? 16 (Text.withoutPlus group) = some b.toNat := by
  rw [octet?]
  split
  · rename_i two
    rw [and_iff_right two, Option.map_eq_some_iff]
    constructor
    · rintro ⟨n, read, rfl⟩
      obtain ⟨digits, below⟩ := Option.filter_eq_some_iff.1 read
      have small : n < 256 := of_decide_eq_true below
      rwa [UInt8.toNat_ofNat', Nat.mod_eq_of_lt small]
    · intro digits
      refine ⟨b.toNat, Option.filter_eq_some_iff.2 ⟨digits, ?_⟩, UInt8.ofNat_toNat⟩
      exact decide_eq_true b.toNat_lt
  · simp_all

theorem octet?_eq_some_iff : octet? group = some b ↔ IsGroup group b := by
  rw [octet?_eq_some_iff_digits]
  constructor
  · rintro ⟨two, digits⟩
    obtain ⟨first, second, rfl⟩ := List.length_eq_two.1 two
    by_cases sign : first = '+'
    · subst sign
      exact .inr ⟨second, rfl, Text.digits?_one.1 digits⟩
    · have unsigned : Text.withoutPlus [first, second] = [first, second] := by
        simp [Text.withoutPlus, sign]
      rw [unsigned] at digits
      obtain ⟨high, low, isHigh, isLow, value⟩ := Text.digits?_two.1 digits
      exact .inl ⟨first, second, high, low, rfl, isHigh, isLow, value.symm⟩
  · rintro (⟨first, second, high, low, rfl, isHigh, isLow, value⟩ | ⟨digit, rfl, isDigit⟩)
    · have unsigned : Text.withoutPlus [first, second] = [first, second] := by
        have noSign : first ≠ '+' := isHigh.ne (by decide)
        simp [Text.withoutPlus, noSign]
      rw [unsigned]
      exact ⟨rfl, Text.digits?_two.2 ⟨high, low, isHigh, isLow, value.symm⟩⟩
    · exact ⟨rfl, Text.digits?_one.2 isDigit⟩

/-- Two bytes are as good as two characters: a sign and a digit take one byte each. -/
theorem octet?_counting_bytes (group : List Char) :
    (if (String.ofList group).utf8ByteSize = 2
      then (Text.numeral? 16 UInt8.size group).map UInt8.ofNat else none) = octet? group := by
  cases read : Text.numeral? 16 UInt8.size group with
  | none => simp [octet?, read]
  | some n => rw [Text.utf8ByteSize_ofList (Text.ascii_of_numeral? read), octet?, read]

theorem IsPair.notMem {mark : Char} (h : IsPair group b)
    (notDigit : Text.digitValue? 16 mark = none) : mark ∉ group := by
  obtain ⟨first, second, high, low, rfl, isHigh, isLow, -⟩ := h
  simp [(isHigh.ne notDigit).symm, (isLow.ne notDigit).symm]

theorem colon_notMem (h : IsGroup group b) : ':' ∉ group := by
  obtain pair | ⟨digit, rfl, isDigit⟩ := h
  · exact pair.notMem (by decide)
  · have digitNot : digit ≠ ':' := isDigit.ne (by decide)
    simp [digitNot.symm]

theorem isPair_iff_unsigned : IsPair group b ↔ '+' ∉ group ∧ IsGroup group b := by
  constructor
  · intro pair
    exact ⟨pair.notMem (by decide), .inl pair⟩
  · rintro ⟨noSign, pair | ⟨digit, rfl, -⟩⟩
    · exact pair
    · simp at noSign

theorem octetText_eq (b : UInt8) : ∃ high low,
    Text.hexDigits[b.toNat / 16]? = some high ∧ Text.hexDigits[b.toNat % 16]? = some low ∧
      octetText b = [high, low] := by
  have all : ∀ n < 256, (octetText (UInt8.ofNat n)).map some =
      [Text.hexDigits[n / 16]?, Text.hexDigits[n % 16]?] := by
    decide +kernel
  have digits := all b.toNat b.toNat_lt
  rw [UInt8.ofNat_toNat] at digits
  obtain ⟨high, rest, written, found, digits⟩ := List.map_eq_cons_iff.1 digits
  obtain ⟨low, rest, rfl, found', digits⟩ := List.map_eq_cons_iff.1 digits
  obtain rfl := List.map_eq_nil_iff.1 digits
  exact ⟨high, low, found.symm, found'.symm, written⟩

theorem isPair_iff_toUpper : IsPair group b ↔ group.map Char.toUpper = octetText b := by
  obtain ⟨high, low, atHigh, atLow, written⟩ := octetText_eq b
  have plain : ∀ letter ∈ [high, low], letter.isLower = false := by
    have all : Text.hexDigits.all (fun digit => !digit.isLower) = true := by decide
    have digit {letter : Char} {v : Nat} (found : Text.hexDigits[v]? = some letter) :
        letter.isLower = false := by
      simpa using List.all_eq_true.1 all letter (List.mem_of_getElem? found)
    simp [digit atHigh, digit atLow]
  rw [written, Text.map_eq_iff_forall₂ fun c letter h => Text.toUpper_eq_iff (plain letter h)]
  constructor
  · rintro ⟨first, second, h, l, rfl, isHigh, isLow, value⟩
    have small := isLow.lt
    obtain rfl : b.toNat / 16 = h := by omega
    obtain rfl : b.toNat % 16 = l := by omega
    exact .cons ((Text.isHexDigit_iff atHigh).1 isHigh)
      (.cons ((Text.isHexDigit_iff atLow).1 isLow) .nil)
  · intro letters
    obtain ⟨first, _, isHigh, others, rfl⟩ := List.forall₂_cons_right_iff.1 letters
    obtain ⟨second, _, isLow, none, rfl⟩ := List.forall₂_cons_right_iff.1 others
    obtain rfl := List.forall₂_nil_right_iff.1 none
    exact ⟨first, second, _, _, rfl, (Text.isHexDigit_iff atHigh).2 isHigh,
      (Text.isHexDigit_iff atLow).2 isLow, (Nat.div_add_mod _ _).symm⟩

end Group

/-- Groups with a colon between each two of them, one for each octet. -/
def Spells (Group : List Char → UInt8 → Prop) (cs : List Char) (m : Mac) : Prop :=
  ∃ groups, cs = [':'].intercalate groups ∧ List.Forall₂ Group groups m.octets

section Address

variable {cs : List Char} {m : Mac}

theorem spells_iff {Group : List Char → UInt8 → Prop}
    (free : ∀ {group b}, Group group b → ':' ∉ group) :
    Spells Group cs m ↔ List.Forall₂ Group (Text.pieces ':' cs) m.octets := by
  constructor
  · rintro ⟨groups, rfl, spelled⟩
    have nonempty : groups ≠ [] := by
      rintro rfl
      nomatch spelled
    have freely := spelled.imp fun group b h => And.intro (free h) h
    rwa [Text.pieces_intercalate nonempty ((List.forall₂_and_left _ _).1 freely).1]
  · intro spelled
    exact ⟨_, (Text.intercalate_pieces cs).symm, spelled⟩

theorem mapM_octet?_eq_some_iff {groups : List (List Char)} {octets : List UInt8} :
    groups.mapM octet? = some octets ↔ List.Forall₂ IsGroup groups octets := by
  constructor
  · intro h
    induction groups generalizing octets with
    | nil =>
        obtain rfl := Option.some.inj h
        exact .nil
    | cons group groups ih =>
        simp only [List.mapM_cons, Option.bind_eq_bind, Option.bind_eq_some_iff, Option.pure_def,
          Option.some.injEq] at h
        obtain ⟨b, head, octets, tail, rfl⟩ := h
        exact .cons (octet?_eq_some_iff.1 head) (ih tail)
  · intro h
    induction h with
    | nil => rfl
    | cons head tail ih => simp [List.mapM_cons, octet?_eq_some_iff.2 head, ih]

theorem ofGroups?_eq_some_iff {groups : List (List Char)} :
    ofGroups? groups = some m ↔ groups.mapM octet? = some m.octets := by
  obtain ⟨a, b, c, d, e, f⟩ := m
  rw [ofGroups?]
  split
  · rename_i read
    simp [read, octets]
  · rename_i other
    exact iff_of_false (by simp) fun read => other _ _ _ _ _ _ read

theorem ofText_eq_ok_iff {s : String} :
    ofText s = .ok m ↔ Spells IsGroup (Text.trim s.toList) m := by
  rw [spells_iff colon_notMem, ← mapM_octet?_eq_some_iff, ← ofGroups?_eq_some_iff, ofText]
  cases ofGroups? (Text.pieces ':' (Text.trim s.toList)) <;> simp

theorem spells_isPair_iff : Spells IsPair cs m ↔ Spells IsGroup cs m ∧ '+' ∉ cs := by
  have unsigned : '+' ∉ cs ↔ ∀ group ∈ Text.pieces ':' cs, '+' ∉ group := by
    have signed : (∃ group ∈ Text.pieces ':' cs, '+' ∈ group) ↔ '+' ∈ cs :=
      Text.mem_pieces_iff (by decide)
    rw [← signed]
    simp
  rw [spells_iff fun pair => colon_notMem (.inl pair), spells_iff colon_notMem, unsigned,
    and_comm, ← List.forall₂_and_left]
  simp only [← isPair_iff_unsigned]

theorem map_toUpper_eq_text_iff :
    cs.map Char.toUpper = m.text.toList ↔ Spells IsPair cs m := by
  have colon : ∀ c : Char, c.toUpper = ':' ↔ c = ':' := fun c =>
    (Text.toUpper_eq_iff rfl).trans (or_self_iff)
  rw [spells_iff fun pair => colon_notMem (.inl pair)]
  calc cs.map Char.toUpper = m.text.toList
      ↔ Text.pieces ':' (cs.map Char.toUpper) = Text.pieces ':' m.text.toList := by
        refine ⟨fun same => by rw [same], fun same => ?_⟩
        rw [← Text.intercalate_pieces (cs.map Char.toUpper), same, Text.intercalate_pieces]
    _ ↔ (Text.pieces ':' cs).map (List.map Char.toUpper) = m.octets.map octetText := by
        rw [Text.pieces_map colon, pieces_text]
    _ ↔ List.Forall₂ IsPair (Text.pieces ':' cs) m.octets := by
        rw [← List.forall₂_eq_eq_eq, List.forall₂_map_left_iff, List.forall₂_map_right_iff]
        simp only [← isPair_iff_toUpper]

end Address

/-- An address is read from a group for each octet, signed ones among them.  What is read is pairs
of digits, and in upper case the text form of the address, exactly where it has no plus sign. -/
theorem accepts_pairs_iff_no_plus (s : String) (m : Mac) :
    (ofText s = .ok m ↔ Spells IsGroup (Text.trim s.toList) m) ∧
    (Spells IsPair (Text.trim s.toList) m ↔ ofText s = .ok m ∧ '+' ∉ s.toList) ∧
    ((Text.trim s.toList).map Char.toUpper = m.text.toList ↔
      ofText s = .ok m ∧ '+' ∉ s.toList) := by
  have pairs : Spells IsPair (Text.trim s.toList) m ↔ ofText s = .ok m ∧ '+' ∉ s.toList := by
    rw [spells_isPair_iff, Text.mem_trim_iff (by decide), ofText_eq_ok_iff]
  exact ⟨ofText_eq_ok_iff, pairs, map_toUpper_eq_text_iff.trans pairs⟩

theorem signed_octet_accepted :
    ofText "+1:00:00:00:00:00" = .ok ⟨1, 0, 0, 0, 0, 0⟩ ∧
    (∀ m, ¬ Spells IsPair (Text.trim "+1:00:00:00:00:00".toList) m) ∧
    (Text.trim "+1:00:00:00:00:00".toList).map Char.toUpper ≠
      (text ⟨1, 0, 0, 0, 0, 0⟩).toList := by
  refine ⟨by decide +kernel, fun m spelled => ?_, by decide +kernel⟩
  exact (spells_isPair_iff.1 spelled).2 (by decide +kernel)

end Mac

end PolicyRouting
