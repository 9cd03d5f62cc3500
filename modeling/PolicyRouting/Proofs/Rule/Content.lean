import PolicyRouting.Rule.Basic

/-!
# The content of a rule

The content from which the id of a rule is made is a row of bytes in which
every part ends where it says it ends: numbers have a fixed width, a text ends
at the one byte that no text has, a criterion has the width of its kind, and
the criteria are counted before they are listed.  So the content can be taken
apart again in one way only, and two rules share an id just where they match
the same packets on the same device, or the digest maps two contents to one id.
-/

namespace PolicyRouting

/-- What is written for one value never runs into what follows it. -/
def SelfDelimiting {α : Type} (bytes : α → List UInt8) : Prop :=
  ∀ (a b : α) (rest other : List UInt8), bytes a ++ rest = bytes b ++ other →
    a = b ∧ rest = other

namespace SelfDelimiting

variable {α : Type} {bytes : α → List UInt8}

theorem of_width (width : Nat) (length : ∀ a, (bytes a).length = width)
    (injective : ∀ a b, bytes a = bytes b → a = b) : SelfDelimiting bytes := by
  intro a b rest other h
  obtain ⟨same, rests⟩ := List.append_inj h (by rw [length, length])
  exact ⟨injective a b same, rests⟩

theorem flatMap (delimits : SelfDelimiting bytes) {as bs : List α} {rest other : List UInt8}
    (count : as.length = bs.length) (h : as.flatMap bytes ++ rest = bs.flatMap bytes ++ other) :
    as = bs ∧ rest = other := by
  induction as generalizing bs with
  | nil =>
      obtain rfl : bs = [] := List.length_eq_zero_iff.1 count.symm
      exact ⟨rfl, h⟩
  | cons a as ih =>
      cases bs with
      | nil => simp at count
      | cons b bs =>
          rw [List.flatMap_cons, List.flatMap_cons, List.append_assoc, List.append_assoc] at h
          obtain ⟨rfl, later⟩ := delimits _ _ _ _ h
          obtain ⟨rfl, rests⟩ := ih (Nat.succ.inj count) later
          exact ⟨rfl, rests⟩

end SelfDelimiting

namespace Rule

@[simp] theorem length_bytesOf (width n : Nat) : (bytesOf width n).length = width := by
  induction width generalizing n with
  | zero => rfl
  | succ width ih => simp [bytesOf, ih]

theorem littleEndian_bytesOf {width n : Nat} (h : n < Nat.pow 256 width) :
    Digest.littleEndian (bytesOf width n) = n := by
  induction width generalizing n with
  | zero => exact (Nat.lt_one_iff.1 h).symm
  | succ width ih =>
      have high : n / 256 < Nat.pow 256 width :=
        Nat.div_lt_of_lt_mul (Nat.mul_comm _ 256 ▸ h)
      have rest : Digest.littleEndian (bytesOf width (n / 256)) = n / 256 := ih high
      calc Digest.littleEndian (bytesOf (width + 1) n)
          = (UInt8.ofNat n).toNat + 256 * Digest.littleEndian (bytesOf width (n / 256)) := rfl
        _ = n % 256 + 256 * (n / 256) := by rw [rest, UInt8.toNat_ofNat']
        _ = n := Nat.mod_add_div n 256

theorem bytesOf_inj {width m n : Nat} (h : bytesOf width m = bytesOf width n)
    (hm : m < Nat.pow 256 width) (hn : n < Nat.pow 256 width) : m = n := by
  rw [← littleEndian_bytesOf hm, h, littleEndian_bytesOf hn]

theorem littleEndian_uint16 (n : UInt16) : Digest.littleEndian (bytesOf 2 n.toNat) = n.toNat :=
  littleEndian_bytesOf n.toNat_lt

theorem littleEndian_uint32 (n : UInt32) : Digest.littleEndian (bytesOf 4 n.toNat) = n.toNat :=
  littleEndian_bytesOf n.toNat_lt

theorem selfDelimiting_uint16 : SelfDelimiting fun n : UInt16 => bytesOf 2 n.toNat :=
  .of_width 2 (fun _ => length_bytesOf _ _) fun m n h =>
    UInt16.toNat_inj.1 (bytesOf_inj h m.toNat_lt n.toNat_lt)

theorem selfDelimiting_uint32 : SelfDelimiting fun n : UInt32 => bytesOf 4 n.toNat :=
  .of_width 4 (fun _ => length_bytesOf _ _) fun m n h =>
    UInt32.toNat_inj.1 (bytesOf_inj h m.toNat_lt n.toNat_lt)

theorem toList_loop (bytes : ByteArray) (i : Nat) (before : List UInt8) :
    ByteArray.toList.loop bytes i before = before.reverse ++ bytes.data.toList.drop i := by
  fun_induction ByteArray.toList.loop bytes i before with
  | case1 i before inside ih =>
      have bound : i < bytes.data.toList.length := by simpa using inside
      rw [ih, List.drop_eq_getElem_cons (l := bytes.data.toList) bound]
      simp [ByteArray.get!, inside]
  | case2 i before outside =>
      rw [List.drop_eq_nil_of_le (by simpa using Nat.le_of_not_lt outside)]
      simp

theorem toList_toUTF8 (s : String) :
    s.toUTF8.toList = s.toList.flatMap String.utf8EncodeChar := by
  rw [ByteArray.toList, toList_loop, String.toUTF8_eq_toByteArray, ← String.utf8Encode_toList,
    List.utf8Encode, List.toList_data_toByteArray]
  rfl

theorem toUTF8_toList_inj {s t : String} (h : s.toUTF8.toList = t.toUTF8.toList) : s = t := by
  rw [ByteArray.toList, ByteArray.toList, toList_loop, toList_loop] at h
  exact String.toByteArray_inj.1 (ByteArray.ext (Array.toList_inj.1 h))

/-- No byte of a character has all its bits set: one of the five highest is clear. -/
theorem ne_of_mem_utf8EncodeChar {c : Char} {b : UInt8} (h : b ∈ String.utf8EncodeChar c) :
    b ≠ 0xff := by
  rintro rfl
  have clear : ∀ n : Nat, n < 255 → (255 : UInt8) ≠ UInt8.ofNat n := by
    intro n small same
    have := congrArg UInt8.toNat same
    rw [UInt8.toNat_ofNat', Nat.mod_eq_of_lt (by omega)] at this
    exact absurd this (by simp; omega)
  -- one byte, or a first byte that tells how many follow it
  simp only [String.utf8EncodeChar] at h
  split at h
  · exact clear _ (by omega) (List.mem_singleton.1 h)
  · split at h
    · simp only [List.mem_cons, List.not_mem_nil, or_false] at h
      rcases h with h | h <;> exact clear _ (by omega) h
    · split at h
      · simp only [List.mem_cons, List.not_mem_nil, or_false] at h
        rcases h with h | h | h <;> exact clear _ (by omega) h
      · simp only [List.mem_cons, List.not_mem_nil, or_false] at h
        rcases h with h | h | h | h <;> exact clear _ (by omega) h

theorem ne_of_mem_toUTF8 {s : String} {b : UInt8} (h : b ∈ s.toUTF8.toList) : b ≠ 0xff := by
  rw [toList_toUTF8] at h
  obtain ⟨c, -, hb⟩ := List.mem_flatMap.1 h
  exact ne_of_mem_utf8EncodeChar hb

theorem append_cons_inj {x : UInt8} {front front' rest rest' : List UInt8} (absent : x ∉ front)
    (absent' : x ∉ front') (h : front ++ x :: rest = front' ++ x :: rest') :
    front = front' ∧ rest = rest' := by
  induction front generalizing front' with
  | nil =>
      cases front' with
      | nil => exact ⟨rfl, (List.cons.inj h).2⟩
      | cons y front' => exact absurd (List.cons.inj h).1 fun same => absent' (by simp [same])
  | cons y front ih =>
      cases front' with
      | nil => exact absurd (List.cons.inj h).1.symm fun same => absent (by simp [same])
      | cons y' front' =>
          obtain ⟨rfl, later⟩ := List.cons.inj h
          obtain ⟨rfl, rests⟩ := ih (fun mem => absent (List.mem_cons_of_mem _ mem))
            (fun mem => absent' (List.mem_cons_of_mem _ mem)) later
          exact ⟨rfl, rests⟩

theorem selfDelimiting_textBytes : SelfDelimiting textBytes := by
  intro s t rest other h
  simp only [textBytes, List.append_assoc, List.singleton_append] at h
  obtain ⟨same, rests⟩ := append_cons_inj (fun mem => ne_of_mem_toUTF8 mem rfl)
    (fun mem => ne_of_mem_toUTF8 mem rfl) h
  exact ⟨toUTF8_toList_inj same, rests⟩

def valueWidth : Fin 15 → Nat
  | 0 => 4
  | 1 | 4 | 9 | 10 | 11 | 12 => 2
  | 2 | 3 => 14
  | 5 | 6 | 13 | 14 => 1
  | 7 | 8 => 5

theorem length_valueBytes (c : Criterion) : (valueBytes c).length = valueWidth c.kind := by
  cases c <;> rfl

def netOf? : List UInt8 → Option Ipv4Net
  | [a, b, c, d, length] => Ipv4Net.of? ⟨a, b, c, d⟩ length.toNat
  | _ => none

def criterionOf? (kind : Fin 15) (bytes : List UInt8) : Option Criterion :=
  let n := Digest.littleEndian bytes
  match kind with
  | 0 => some (.inPort (UInt32.ofNat n))
  | 1 => some (.ethType (UInt16.ofNat n))
  | 2 => (Mac.ofBytes? (bytes.drop 8)).map .ethSrc
  | 3 => (Mac.ofBytes? (bytes.drop 8)).map .ethDst
  | 4 => some (.vlanId (UInt16.ofNat n))
  | 5 => some (.ipDscp (UInt8.ofNat n))
  | 6 => some (.ipProto (UInt8.ofNat n))
  | 7 => (netOf? bytes).map .ipv4Src
  | 8 => (netOf? bytes).map .ipv4Dst
  | 9 => some (.tcpSrc (UInt16.ofNat n))
  | 10 => some (.tcpDst (UInt16.ofNat n))
  | 11 => some (.udpSrc (UInt16.ofNat n))
  | 12 => some (.udpDst (UInt16.ofNat n))
  | 13 => some (.icmpType (UInt8.ofNat n))
  | 14 => some (.icmpCode (UInt8.ofNat n))

theorem macOf_macBytes (mac : Mac) : Mac.ofBytes? ((macBytes mac).drop 8) = some mac := rfl

theorem netOf?_netBytes (net : Ipv4Net) : netOf? (netBytes net) = some net := by
  obtain ⟨⟨a, b, c, d⟩, length⟩ := net
  have value : (UInt8.ofNat length.val).toNat = length.val := by
    rw [UInt8.toNat_ofNat']
    exact Nat.mod_eq_of_lt (Nat.lt_trans length.isLt (by decide))
  simp only [netBytes, Ipv4.octets, List.cons_append, List.nil_append, netOf?, Ipv4Net.of?, value,
    length.isLt, dite_true]

theorem littleEndian_byte (n : UInt8) : Digest.littleEndian [n] = n.toNat := by
  simp [Digest.littleEndian]

theorem criterionOf?_valueBytes (c : Criterion) :
    criterionOf? c.kind (valueBytes c) = some c := by
  cases c with
  | inPort n =>
      simp only [criterionOf?, Criterion.kind, valueBytes, littleEndian_uint32, UInt32.ofNat_toNat]
  | ethType n | vlanId n | tcpSrc n | tcpDst n | udpSrc n | udpDst n =>
      simp only [criterionOf?, Criterion.kind, valueBytes, littleEndian_uint16, UInt16.ofNat_toNat]
  | ipDscp n | ipProto n | icmpType n | icmpCode n =>
      simp only [criterionOf?, Criterion.kind, valueBytes, littleEndian_byte, UInt8.ofNat_toNat]
  | ethSrc mac | ethDst mac =>
      simp only [criterionOf?, Criterion.kind, valueBytes, macOf_macBytes, Option.map_some]
  | ipv4Src net | ipv4Dst net =>
      simp only [criterionOf?, Criterion.kind, valueBytes, netOf?_netBytes, Option.map_some]

theorem selfDelimiting_criterionBytes : SelfDelimiting criterionBytes := by
  intro c d rest other h
  simp only [criterionBytes, List.append_assoc] at h
  obtain ⟨places, values⟩ := List.append_inj h (by simp)
  -- the kind comes first and tells how wide the value is
  have kind : c.kind = d.kind := by
    refine Fin.ext (bytesOf_inj places ?_ ?_)
    · exact Nat.lt_trans c.kind.isLt (by decide)
    · exact Nat.lt_trans d.kind.isLt (by decide)
  obtain ⟨value, rests⟩ := List.append_inj values (by rw [length_valueBytes, length_valueBytes, kind])
  have same : some c = some d := by
    rw [← criterionOf?_valueBytes c, ← criterionOf?_valueBytes d, kind, value]
  exact ⟨Option.some.inj same, rests⟩

/-! ## The content as a whole -/

structure SameContent (rule other : Rule) : Prop where
  device : rule.device = other.device
  selector : rule.selector = other.selector
  priority : rule.priority = other.priority
  table : rule.table = other.table
  app : rule.app = other.app

instance (rule other : Rule) : Decidable (rule.SameContent other) :=
  decidable_of_iff
    (rule.device = other.device ∧ rule.selector = other.selector ∧
      rule.priority = other.priority ∧ rule.table = other.table ∧ rule.app = other.app)
    ⟨fun ⟨device, selector, priority, table, app⟩ => ⟨device, selector, priority, table, app⟩,
      fun ⟨device, selector, priority, table, app⟩ => ⟨device, selector, priority, table, app⟩⟩

variable {rule other : Rule}

theorem SameContent.content_eq (same : rule.SameContent other) : rule.content = other.content := by
  rw [Rule.content, Rule.content, same.device, same.selector, same.priority, same.table, same.app]

/-- The criteria are counted in one machine word. -/
def Sized (rule : Rule) : Prop := rule.selector.criteria.length < UInt64.size

theorem sameContent_of_content_eq (sized : rule.Sized) (sized' : other.Sized)
    (h : rule.content = other.content) : rule.SameContent other := by
  -- each step takes one part off the front of both contents
  simp only [content, contentBytes, List.append_assoc] at h
  obtain ⟨device, h⟩ := selfDelimiting_textBytes _ _ _ _ h
  obtain ⟨counts, h⟩ := List.append_inj h (by simp)
  obtain ⟨criteria, h⟩ :=
    selfDelimiting_criterionBytes.flatMap (bytesOf_inj counts sized sized') h
  obtain ⟨priority, h⟩ := selfDelimiting_uint16 _ _ _ _ h
  obtain ⟨table, h⟩ := selfDelimiting_uint32 _ _ _ _ h
  have app : rule.app = other.app :=
    (selfDelimiting_textBytes rule.app other.app [] [] (by rw [List.append_nil, List.append_nil, h])).1
  exact ⟨device, congrArg Selector.mk criteria, priority, table, app⟩

theorem content_eq_iff (sized : rule.Sized) (sized' : other.Sized) :
    rule.content = other.content ↔ rule.SameContent other :=
  ⟨sameContent_of_content_eq sized sized', SameContent.content_eq⟩

example : (make "of:1" .empty .drop 0x0102 .permanent 3 "").content =
    [0x6f, 0x66, 0x3a, 0x31, 0xff, 0, 0, 0, 0, 0, 0, 0, 0, 2, 1, 3, 0, 0, 0, 0xff] := by
  decide +kernel

/-! ## Ids -/

variable {device device' : String} {selector selector' : Selector}
  {treatment treatment' : Treatment} {priority priority' : UInt16} {timeout timeout' : Timeout}
  {table table' : UInt32} {app app' : String}

/--
Two rules have the same content just where they match the same packets on the same device, with the
same criteria in the same order, whatever they do and however long they stay; so an id that two
rules share is that of one match, or two contents have one digest.
-/
theorem id_eq_iff_same_match_or_collision (sized : selector.criteria.length < UInt64.size)
    (sized' : selector'.criteria.length < UInt64.size) :
    let rule := make device selector treatment priority timeout table app
    let other := make device' selector' treatment' priority' timeout' table' app'
    let sameMatch := device = device' ∧ selector.criteria = selector'.criteria ∧
      priority = priority' ∧ table = table' ∧ app = app'
    (rule.content = other.content ↔ sameMatch) ∧
    (rule.id = other.id ↔ sameMatch ∨
      (rule.content ≠ other.content ∧
        Digest.ofBytes rule.content = Digest.ofBytes other.content)) := by
  intro rule other sameMatch
  have same : rule.SameContent other ↔ sameMatch := by
    constructor
    · rintro ⟨device, selector, priority, table, app⟩
      exact ⟨device, congrArg Selector.criteria selector, priority, table, app⟩
    · rintro ⟨device, criteria, priority, table, app⟩
      exact ⟨device, congrArg Selector.mk criteria, priority, table, app⟩
  have counted : rule.Sized := sized
  have counted' : other.Sized := sized'
  have content : rule.content = other.content ↔ sameMatch :=
    (content_eq_iff counted counted').trans same
  refine ⟨content, ?_⟩
  have digests : rule.id = other.id ↔
      Digest.ofBytes rule.content = Digest.ofBytes other.content := Iff.rfl
  rw [digests, ← content]
  constructor
  · intro h
    by_cases equal : rule.content = other.content
    · exact .inl equal
    · exact .inr ⟨equal, h⟩
  · rintro (equal | ⟨-, h⟩)
    · rw [equal]
    · exact h

theorem reordered_criteria_differ :
    ([Criterion.ipProto 6, .tcpDst 80].length < UInt64.size ∧
      [Criterion.tcpDst 80, .ipProto 6].length < UInt64.size) ∧
    (make "größe/1" ⟨[.ipProto 6, .tcpDst 80]⟩ .drop 50 .permanent 0 "app").content ≠
      (make "größe/1" ⟨[.tcpDst 80, .ipProto 6]⟩ .drop 50 .permanent 0 "app").content := by
  refine ⟨by decide, ?_⟩
  rw [Ne, (id_eq_iff_same_match_or_collision (by decide) (by decide)).1]
  decide

end Rule

end PolicyRouting
