import Mathlib.Data.List.Forall2
import PolicyRouting.Json.Reader
import PolicyRouting.Json.Writer
import PolicyRouting.Proofs.Text.Numerals

/-!
# Spellings of JSON values

A value has one spelling for each way to put blanks between its tokens, as long
as its numbers are natural and its strings are escaped as they are written.
The reader finds the value in every spelling, whatever follows it, and both
layouts of the writer are spellings.  So a value whose numbers are natural is
read from the text that is written for it, in either layout.
-/

namespace PolicyRouting.Json

def Blanks (cs : List Char) : Prop := ∀ c ∈ cs, isJsonBlank c = true

theorem blanks_nil : Blanks [] := fun _ h => absurd h List.not_mem_nil

theorem skipBlanks_append {blanks : List Char} (h : Blanks blanks) (cs : List Char) :
    skipBlanks (blanks ++ cs) = skipBlanks cs := by
  induction blanks with
  | nil => rfl
  | cons c blanks ih =>
      have first : isJsonBlank c = true := h c List.mem_cons_self
      rw [List.cons_append, skipBlanks, List.dropWhile_cons_of_pos first]
      exact ih fun c mem => h c (List.mem_cons_of_mem _ mem)

theorem skipBlanks_cons {c : Char} (h : isJsonBlank c = false) (cs : List Char) :
    skipBlanks (c :: cs) = c :: cs := List.dropWhile_cons_of_neg (by simp [h])

theorem skipBlanks_skipBlanks (cs : List Char) : skipBlanks (skipBlanks cs) = skipBlanks cs := by
  induction cs with
  | nil => rfl
  | cons c cs ih =>
      cases h : isJsonBlank c with
      | true =>
          have skipped : skipBlanks (c :: cs) = skipBlanks cs := List.dropWhile_cons_of_pos h
          rw [skipped, ih]
      | false => rw [skipBlanks_cons h, skipBlanks_cons h]

/-! ## Spellings -/

mutual

/-- The value is spelled by the text, which starts with its first token. -/
inductive Spells : Json → List Char → Prop where
  | null : Spells .null ['n', 'u', 'l', 'l']
  | yes : Spells (.bool true) ['t', 'r', 'u', 'e']
  | no : Spells (.bool false) ['f', 'a', 'l', 's', 'e']
  | nat (n : Nat) : Spells (.nat n) (Text.decimal n)
  | string (s : Option String) : Spells (.string s) (quotedOption s)
  | emptyArray {inside : List Char} (blanks : Blanks inside) :
      Spells (.array []) ('[' :: (inside ++ [']']))
  | array {items : List Json} {cs : List Char} (spelled : SpellsItems items cs) :
      Spells (.array items) ('[' :: cs)
  | emptyObject {inside : List Char} (blanks : Blanks inside) :
      Spells (.object []) ('\x7b' :: (inside ++ ['\x7d']))
  | object {members : List (Option String × Json)} {cs : List Char}
      (spelled : SpellsMembers members cs) : Spells (.object members) ('\x7b' :: cs)

inductive SpellsItems : List Json → List Char → Prop where
  | last {item : Json} {before cs behind : List Char} (blanks : Blanks before)
      (spelled : Spells item cs) (blanks' : Blanks behind) :
      SpellsItems [item] (before ++ (cs ++ (behind ++ [']'])))
  | more {item : Json} {items : List Json} {before cs behind rest : List Char}
      (blanks : Blanks before) (spelled : Spells item cs) (blanks' : Blanks behind)
      (others : SpellsItems items rest) :
      SpellsItems (item :: items) (before ++ (cs ++ (behind ++ ',' :: rest)))

inductive SpellsMembers : List (Option String × Json) → List Char → Prop where
  | last {item : Json} {before cs behind gap : List Char} (blanks : Blanks before)
      (name : Option String) (blanks' : Blanks gap) (spelled : Spells item cs)
      (blanks'' : Blanks behind) :
      SpellsMembers [(name, item)]
        (before ++ (quotedOption name ++ ':' :: (gap ++ (cs ++ (behind ++ ['\x7d'])))))
  | more {item : Json} {members : List (Option String × Json)}
      {before cs behind gap rest : List Char} (blanks : Blanks before)
      (name : Option String) (blanks' : Blanks gap) (spelled : Spells item cs)
      (blanks'' : Blanks behind) (others : SpellsMembers members rest) :
      SpellsMembers ((name, item) :: members)
        (before ++ (quotedOption name ++ ':' :: (gap ++ (cs ++ (behind ++ ',' :: rest)))))

end

/-- The unit stands for the character; only a control character stands as a number. -/
def Stands (unit : Char ⊕ Nat) (c : Char) : Prop :=
  unit = .inl c ∨ unit = .inr c.toNat ∧ c.toNat < 0x20

def ReadsAs (cs : List Char) (c : Char) : Prop :=
  ∃ unit, Stands unit c ∧ ∀ rest, stringUnits (cs ++ rest) =
    (stringUnits rest).map fun (units, rest) => (unit :: units, rest)

theorem readsAs_control {c : Char} (control : c.toNat < 0x20) :
    ReadsAs (['\\', 'u'] ++ Text.padded 16 4 c.toNat) c := by
  have four : (Text.padded 16 4 c.toNat).length = 4 :=
    Text.length_padded (by decide) (by decide) (show _ < 0x10000 by omega)
  have read := @Text.digits?_padded 16 (by decide) (by decide) 4 c.toNat
  refine ⟨.inr c.toNat, .inr ⟨rfl, control⟩, fun rest => ?_⟩
  match Text.padded 16 4 c.toNat, four, read with
  | [w, x, y, z], _, read =>
      simp only [List.cons_append, List.nil_append, stringUnits, read]
      cases stringUnits rest <;> rfl

theorem readsAs_short {e c : Char} (h : simpleEscape? e = some c) (notU : e ≠ 'u') :
    ReadsAs ['\\', e] c := by
  refine ⟨.inl c, .inl rfl, fun rest => ?_⟩
  cases units : stringUnits rest <;> simp [stringUnits, h, notU, units]

theorem readsAs_plain {c : Char} (notQuote : c ≠ '"') (notBackslash : c ≠ '\\')
    (plain : ¬c.toNat < 0x20) : ReadsAs [c] c :=
  ⟨.inl c, .inl rfl, fun rest => by simp [stringUnits, notBackslash, plain]⟩

theorem readsAs_escaped (c : Char) : ReadsAs (escaped c) c := by
  unfold escaped
  split_ifs with quote backslash backspace formFeed newline carriage tab control
  · subst quote; exact readsAs_short rfl (by decide)
  · subst backslash; exact readsAs_short rfl (by decide)
  · subst backspace; exact readsAs_short rfl (by decide)
  · subst formFeed; exact readsAs_short rfl (by decide)
  · subst newline; exact readsAs_short rfl (by decide)
  · subst carriage; exact readsAs_short rfl (by decide)
  · subst tab; exact readsAs_short rfl (by decide)
  · exact readsAs_control control
  · exact readsAs_plain quote backslash control

theorem stringUnits_spelled (cs rest : List Char) :
    ∃ units, List.Forall₂ Stands units cs ∧
      stringUnits (cs.flatMap escaped ++ '"' :: rest) = some (units, rest) := by
  induction cs with
  | nil => exact ⟨[], .nil, rfl⟩
  | cons c cs ih =>
      obtain ⟨units, stand, read⟩ := ih
      obtain ⟨unit, stands, first⟩ := readsAs_escaped c
      refine ⟨unit :: units, .cons stands stand, ?_⟩
      rw [List.flatMap_cons, List.append_assoc, first, read, Option.map_some]

theorem unitsText_eq_some {units : List (Char ⊕ Nat)} {cs : List Char}
    (h : List.Forall₂ Stands units cs) : unitsText units = some cs := by
  induction h with
  | nil => rfl
  | @cons unit c units cs stands stand ih =>
      obtain rfl | ⟨rfl, control⟩ := stands
      · simp [unitsText, ih]
      · -- a number below the surrogates is a character by itself, whatever comes behind it
        have notHigh : isHighSurrogate c.toNat = false := by simp [isHighSurrogate]; omega
        have notLow : isLowSurrogate c.toNat = false := by simp [isLowSurrogate]; omega
        cases units with
        | nil => simp_all [unitsText]
        | cons unit units => cases unit <;> simp_all [unitsText]

theorem stringBody_spelled (s : String) (rest : List Char) :
    stringBody (s.toList.flatMap escaped ++ '"' :: rest) = some (some s, rest) := by
  obtain ⟨units, stand, read⟩ := stringUnits_spelled s.toList rest
  simp [stringBody, read, unitsText_eq_some stand]

theorem stringBody_quotedOption (s : Option String) :
    ∃ body, quotedOption s = '"' :: body ∧
      ∀ rest, stringBody (body ++ rest) = some (s, rest) := by
  cases s with
  | none => exact ⟨_, rfl, fun _ => rfl⟩
  | some s => exact ⟨_, rfl, fun rest => by simpa using stringBody_spelled s rest⟩

def endsNumber (c : Char) : Bool := !c.isDigit && c ≠ '.' && c ≠ 'e' && c ≠ 'E'

def Delimited (cs : List Char) : Prop := cs.head?.all endsNumber = true

theorem endsNumber_of_isJsonBlank {c : Char} (h : isJsonBlank c = true) : endsNumber c = true := by
  simp only [isJsonBlank, Bool.or_eq_true, decide_eq_true_eq] at h
  obtain ((rfl | rfl) | rfl) | rfl := h <;> rfl

theorem Delimited.blanks_append {blanks cs : List Char} (h : Blanks blanks) (rest : Delimited cs) :
    Delimited (blanks ++ cs) := by
  cases blanks with
  | nil => exact rest
  | cons c blanks => exact endsNumber_of_isJsonBlank (h c List.mem_cons_self)

theorem spanDigits_append {ds cs : List Char} (digits : ∀ c ∈ ds, c.isDigit = true)
    (some' : ds ≠ []) (rest : Delimited cs) : spanDigits (ds ++ cs) = some (ds, cs) := by
  have behind : cs.takeWhile Char.isDigit = [] := by
    cases cs with
    | nil => rfl
    | cons c cs => exact List.takeWhile_cons_of_neg (by simp_all [Delimited, endsNumber])
  simp [spanDigits, List.takeWhile_append_of_pos digits, behind, some']

theorem spanNumber_decimal (n : Nat) {cs : List Char} (rest : Delimited cs) :
    spanNumber (Text.decimal n ++ cs) = some (Text.decimal n, cs) := by
  have digits : ∀ c ∈ Text.decimal n, c.isDigit = true := fun c => Text.isDigit_of_mem_decimal
  have span := spanDigits_append digits (Text.decimal_ne_nil n) rest
  have whole : spanWhole (Text.decimal n ++ cs) = some (Text.decimal n, cs) := by
    rw [spanWhole, span]
    split
    · rename_i heq
      injection heq with heq
      injection heq with heq
      exact absurd (Text.decimal_eq_zero_cons heq) (by simp)
    · rfl
  have fraction : spanFraction cs = some ([], cs) := by
    cases cs with
    | nil => rfl
    | cons c cs => simp_all [Delimited, endsNumber, spanFraction]
  have exponent : spanExponent cs = some ([], cs) := by
    cases cs with
    | nil => rfl
    | cons c cs => simp_all [Delimited, endsNumber, spanExponent]
  have unsigned : spanUnsigned (Text.decimal n ++ cs) = some (Text.decimal n, cs) := by
    simp [spanUnsigned, whole, fraction, exponent]
  cases h : Text.decimal n with
  | nil => exact absurd h (Text.decimal_ne_nil n)
  | cons d ds =>
      have positive : d ≠ '-' := Text.ne_of_isDigit (digits d (by simp [h])) rfl
      rw [h] at unsigned
      rw [List.cons_append] at unsigned ⊢
      unfold spanNumber
      split
      · rename_i heq
        exact absurd (List.cons.inj heq).1 positive
      · exact unsigned

/-! ## Values -/

theorem value_skipBlanks (fuel : Nat) (cs : List Char) :
    value fuel (skipBlanks cs) = value fuel cs := by
  cases fuel with
  | zero => rfl
  | succ fuel => simp only [value, skipBlanks_skipBlanks]

theorem value_blanks {blanks : List Char} (h : Blanks blanks) (fuel : Nat) (cs : List Char) :
    value fuel (blanks ++ cs) = value fuel cs := by
  rw [← value_skipBlanks, skipBlanks_append h, value_skipBlanks]

theorem value_bracket (fuel : Nat) (cs : List Char) : value fuel (']' :: cs) = none := by
  cases fuel with
  | zero => rfl
  | succ fuel =>
      rw [value, skipBlanks_cons (by decide)]
      simp [literal?, spanNumber, spanUnsigned, spanWhole, spanDigits]

theorem elements_skipBlanks (fuel : Nat) (cs : List Char) :
    elements fuel (skipBlanks cs) = elements fuel cs := by
  cases fuel with
  | zero => rfl
  | succ fuel => simp only [elements, value_skipBlanks]

theorem members_skipBlanks (fuel : Nat) (cs : List Char) :
    members fuel (skipBlanks cs) = members fuel cs := by
  cases fuel with
  | zero => rfl
  | succ fuel => simp only [members, skipBlanks_skipBlanks]

theorem value_array {fuel : Nat} {cs rest : List Char} {items : List Json}
    (h : elements fuel cs = some (items, rest)) :
    value (fuel + 1) ('[' :: cs) = some (.array items, rest) := by
  rw [value, skipBlanks_cons (by decide)]
  simp only
  split
  · rename_i bracket
    rw [← elements_skipBlanks, bracket] at h
    cases fuel with
    | zero => contradiction
    | succ fuel => simp [elements, value_bracket] at h
  · rw [elements_skipBlanks, h, Option.map_some]

theorem value_object {fuel : Nat} {cs rest : List Char} {fields : List (Option String × Json)}
    (h : members fuel cs = some (fields, rest)) :
    value (fuel + 1) ('\x7b' :: cs) = some (.object fields, rest) := by
  rw [value, skipBlanks_cons (by decide)]
  simp only
  split
  · rename_i brace
    rw [← members_skipBlanks, brace] at h
    cases fuel with
    | zero => contradiction
    | succ fuel => simp [members, skipBlanks_cons (show isJsonBlank '\x7d' = false by decide)] at h
  · rw [members_skipBlanks, h, Option.map_some]

theorem value_decimal (fuel n : Nat) {rest : List Char} (behind : Delimited rest) :
    value (fuel + 1) (Text.decimal n ++ rest) = some (.nat n, rest) := by
  have span := spanNumber_decimal n behind
  obtain ⟨d, ds, numeral⟩ := List.exists_cons_of_ne_nil (Text.decimal_ne_nil n)
  have digit : d.isDigit = true := Text.isDigit_of_mem_decimal (n := n) (by simp [numeral])
  have notMark (mark : Char) (h : mark.isDigit = false) : d ≠ mark := Text.ne_of_isDigit digit h
  have notBlank : isJsonBlank d = false := by
    simp [isJsonBlank, notMark ' ' rfl, notMark '\t' rfl,
      notMark '\n' rfl, notMark '\r' rfl]
  have notLiteral : literal? (d :: (ds ++ rest)) = none := by
    simp [literal?, notMark 'n' rfl, notMark 't' rfl, notMark 'f' rfl]
  rw [numeral, List.cons_append] at span ⊢
  rw [value, skipBlanks_cons notBlank]
  simp [notMark '"' rfl, notMark '[' rfl, notMark '\x7b' rfl,
    notLiteral, span, -String.ofList_cons]
  rw [← numeral]
  rfl

/-- With this fuel the reader finds what a text that is not longer spells. -/
structure Finds (fuel : Nat) : Prop where
  value {json : Json} {cs rest : List Char} (spelled : Spells json cs) (short : cs.length ≤ fuel)
    (behind : Delimited rest) : value fuel (cs ++ rest) = some (json, rest)
  elements {items : List Json} {cs : List Char} (spelled : SpellsItems items cs)
    (short : cs.length ≤ fuel) (rest : List Char) :
    elements fuel (cs ++ rest) = some (items, rest)
  members {fields : List (Option String × Json)} {cs : List Char}
    (spelled : SpellsMembers fields cs) (short : cs.length ≤ fuel) (rest : List Char) :
    members fuel (cs ++ rest) = some (fields, rest)

theorem finds_zero : Finds 0 where
  value spelled short _ := by
    cases spelled with
    | nat n =>
        exact absurd (List.length_eq_zero_iff.1 (Nat.le_zero.1 short)) (Text.decimal_ne_nil n)
    | string s => cases s <;> simp [quotedOption, quoted] at short
    | _ => simp at short
  elements spelled short _ := by cases spelled <;> simp at short
  members spelled short _ := by cases spelled <;> simp at short

section Step

variable {fuel : Nat} (finds : Finds fuel)

include finds

theorem Finds.value_succ {json : Json} {cs rest : List Char} (spelled : Spells json cs)
    (short : cs.length ≤ fuel + 1) (behind : Delimited rest) :
    Json.value (fuel + 1) (cs ++ rest) = some (json, rest) := by
  cases spelled with
  | null | yes | no => rfl
  | nat n => exact value_decimal fuel n behind
  | string s =>
      obtain ⟨body, quote, read⟩ := stringBody_quotedOption s
      rw [quote, List.cons_append, Json.value, skipBlanks_cons rfl]
      simp [read]
  | emptyArray blanks =>
      rw [List.cons_append, List.append_assoc, Json.value, skipBlanks_cons rfl]
      simp [skipBlanks_append blanks, skipBlanks_cons (c := ']') rfl]
  | array spelled => exact value_array (finds.elements spelled (by simpa using short) rest)
  | emptyObject blanks =>
      rw [List.cons_append, List.append_assoc, Json.value, skipBlanks_cons rfl]
      simp [skipBlanks_append blanks, skipBlanks_cons (c := '\x7d') rfl]
  | object spelled => exact value_object (finds.members spelled (by simpa using short) rest)

theorem Finds.elements_succ {items : List Json} {cs : List Char} (spelled : SpellsItems items cs)
    (short : cs.length ≤ fuel + 1) (rest : List Char) :
    Json.elements (fuel + 1) (cs ++ rest) = some (items, rest) := by
  cases spelled with
  | last blanks spelled blanks' =>
      have first := finds.value spelled (by simp at short; omega)
        (Delimited.blanks_append blanks' (rfl : Delimited (']' :: rest)))
      simp [Json.elements, value_blanks blanks, first, skipBlanks_append blanks',
        skipBlanks_cons (c := ']') rfl]
  | @more item items before cs behind others blanks spelled blanks' spelledOthers =>
      have first := finds.value spelled (by simp at short; omega)
        (Delimited.blanks_append blanks' (rfl : Delimited (',' :: (others ++ rest))))
      have more := finds.elements spelledOthers (by simp at short; omega) rest
      simp [Json.elements, value_blanks blanks, first, skipBlanks_append blanks',
        skipBlanks_cons (c := ',') rfl, more]

theorem Finds.members_succ {fields : List (Option String × Json)} {cs : List Char}
    (spelled : SpellsMembers fields cs) (short : cs.length ≤ fuel + 1) (rest : List Char) :
    Json.members (fuel + 1) (cs ++ rest) = some (fields, rest) := by
  cases spelled with
  | last blanks name blanks' spelled blanks'' =>
      have first := finds.value spelled (by simp at short; omega)
        (Delimited.blanks_append blanks'' (rfl : Delimited ('\x7d' :: rest)))
      obtain ⟨body, quote, read⟩ := stringBody_quotedOption name
      simp [Json.members, skipBlanks_append blanks, quote, skipBlanks_cons (c := '"') rfl, read,
        skipBlanks_cons (c := ':') rfl, value_blanks blanks', first, skipBlanks_append blanks'',
        skipBlanks_cons (c := '\x7d') rfl]
  | @more item members before cs behind gap others blanks name blanks' spelled blanks'' others' =>
      have first := finds.value spelled (by simp at short; omega)
        (Delimited.blanks_append blanks'' (rfl : Delimited (',' :: (others ++ rest))))
      have more := finds.members others' (by simp at short; omega) rest
      obtain ⟨body, quote, read⟩ := stringBody_quotedOption name
      simp [Json.members, skipBlanks_append blanks, quote, skipBlanks_cons (c := '"') rfl, read,
        skipBlanks_cons (c := ':') rfl, value_blanks blanks', first, skipBlanks_append blanks'',
        skipBlanks_cons (c := ',') rfl, more]

end Step

theorem finds (fuel : Nat) : Finds fuel := by
  induction fuel with
  | zero => exact finds_zero
  | succ fuel ih => exact ⟨ih.value_succ, ih.elements_succ, ih.members_succ⟩

theorem ofChars?_of_spells {json : Json} {cs : List Char} (h : Spells json cs) :
    ofChars? cs = some json := by
  have read := (finds (cs.length + 1)).value h (Nat.le_succ _) (rfl : Delimited [])
  rw [List.append_nil] at read
  simp [ofChars?, read, skipBlanks]

end PolicyRouting.Json
