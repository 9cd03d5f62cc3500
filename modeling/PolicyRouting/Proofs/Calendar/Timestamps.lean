import Mathlib.Tactic.SplitIfs
import PolicyRouting.Calendar.Timestamp
import PolicyRouting.Proofs.Text.Numerals

/-!
# Points in time that are written and read

Every point in time is read from its own text, whatever its year, and a leap
second is kept.
-/

namespace PolicyRouting.Timestamp

theorem valueOf_padded (width n : Nat) : valueOf (Text.padded 10 width n) = n := by
  rw [valueOf, Text.digitsFrom?_padded (by decide) (by decide), Option.getD_some]

theorem padded_ne_nil (width n : Nat) : Text.padded 10 width n ≠ [] := by
  simp [Text.padded, Nat.toDigits_ne_nil]

theorem scanDigits_append {most : Nat} {ds : List Char} (rest : List Char) (nonempty : ds ≠ [])
    (digits : ∀ c ∈ ds, c.isDigit = true) (short : ds.length ≤ most)
    (bounded : ds.length = most ∨ ∀ c ∈ rest.head?, c.isDigit = false) :
    scanDigits most (ds ++ rest) = some (ds, rest) := by
  have behind : (rest.take (most - ds.length)).takeWhile Char.isDigit = [] := by
    obtain full | ended := bounded
    · simp [full]
    · cases rest with
      | nil => simp
      | cons c rest =>
          have notDigit := ended c rfl
          cases most - ds.length <;> simp [notDigit]
  have taken : ((ds ++ rest).take most).takeWhile Char.isDigit = ds := by
    rw [List.take_append, List.take_of_length_le short, List.takeWhile_append_of_pos digits, behind,
      List.append_nil]
  simp [scanDigits, taken, nonempty]

theorem exists_cons_padded (width n : Nat) :
    ∃ d ds, Text.padded 10 width n = d :: ds ∧ d.isDigit = true := by
  obtain ⟨d, ds, numeral⟩ := List.exists_cons_of_ne_nil (padded_ne_nil width n)
  exact ⟨d, ds, numeral, Text.isDigit_of_mem_padded (numeral ▸ List.mem_cons_self)⟩

theorem trimStart_padded (width n : Nat) (rest : List Char) :
    Text.trimStart (Text.padded 10 width n ++ rest) = Text.padded 10 width n ++ rest := by
  obtain ⟨d, ds, numeral, digit⟩ := exists_cons_padded width n
  rw [numeral]
  exact Text.trimStart_eq_self (Text.isBlank_of_isDigit digit)

theorem scanNumber_padded {n : Nat} (small : n < 100) (rest : List Char) :
    scanNumber 2 (Text.padded 10 2 n ++ rest) = some (n, rest) := by
  have two : (Text.padded 10 2 n).length = 2 := Text.length_padded (by decide) (by decide) small
  have scan := scanDigits_append rest (padded_ne_nil 2 n)
    (fun c => Text.isDigit_of_mem_padded) (Nat.le_of_eq two) (.inl two)
  simp [scanNumber, trimStart_padded, scan, valueOf_padded]

theorem scanMark_cons {mark : Char} (h : Text.isBlank mark = false) (rest : List Char) :
    scanMark mark (mark :: rest) = some rest := by
  simp [scanMark, Text.trimStart_eq_self h]

theorem scanYear_yearText (year : Int) (rest : List Char) :
    scanYear (Date.yearText year ++ '-' :: rest) = some (year, '-' :: rest) := by
  have ended : ∀ c ∈ ('-' :: rest).head?, c.isDigit = false := by simp
  have digits {n : Nat} : ∀ c ∈ Text.padded 10 4 n, c.isDigit = true := fun c =>
    Text.isDigit_of_mem_padded
  have signed (n : Nat) :
      scanDigits (Text.padded 10 4 n ++ '-' :: rest).length (Text.padded 10 4 n ++ '-' :: rest) =
        some (Text.padded 10 4 n, '-' :: rest) :=
    scanDigits_append _ (padded_ne_nil 4 n) digits (by simp) (.inr ended)
  unfold Date.yearText
  split
  case isTrue short =>
      have four : (Text.padded 10 4 year.toNat).length = 4 :=
        Text.length_padded (by decide) (by decide) (show _ < 10000 by omega)
      have scan := scanDigits_append ('-' :: rest) (padded_ne_nil 4 year.toNat) digits
        (Nat.le_of_eq four) (.inl four)
      have value := valueOf_padded 4 year.toNat
      obtain ⟨d, ds, numeral, digit⟩ := exists_cons_padded 4 year.toNat
      have notMinus : d ≠ '-' := Text.ne_of_isDigit digit rfl
      have notPlus : d ≠ '+' := Text.ne_of_isDigit digit rfl
      have start : Text.trimStart (d :: (ds ++ '-' :: rest)) = d :: (ds ++ '-' :: rest) :=
        Text.trimStart_eq_self (Text.isBlank_of_isDigit digit)
      rw [numeral] at scan value ⊢
      rw [List.cons_append] at scan ⊢
      simp [scanYear, start, notMinus, notPlus, scan, value]
      omega
  case isFalse long =>
      have minus : Text.isBlank '-' = false := by decide
      have plus : Text.isBlank '+' = false := by decide
      split
      · simp only [scanYear, List.cons_append, Text.trimStart_eq_self minus, signed,
          Option.map_some, valueOf_padded]
        congr 2
        omega
      · simp only [scanYear, List.cons_append, Text.trimStart_eq_self plus, signed,
          Option.map_some, valueOf_padded]
        congr 2
        omega

theorem scanDate_chars (date : Date) (rest : List Char) :
    scanDate (date.chars ++ rest) = some (date, rest) := by
  obtain ⟨year, month, day, valid⟩ := date
  have ⟨_, _, _, month12, _, inMonth⟩ := valid
  have day31 : Date.daysIn year month ≤ 31 := by
    unfold Date.daysIn
    split
    · split <;> decide
    · split <;> decide
  have scanMonth := fun rest => scanNumber_padded (show month < 100 by omega) rest
  have scanDay := fun rest => scanNumber_padded (show day < 100 by omega) rest
  have scanDash := fun rest => scanMark_cons (show Text.isBlank '-' = false by decide) rest
  simp [scanDate, Date.chars, scanYear_yearText, scanDash, scanMonth, scanDay, Date.of?, valid]

theorem scanFraction_padded {width n : Nat} (wide : 0 < width) (narrow : width ≤ 9)
    (fits : n < Nat.pow 10 width) :
    scanFraction ('.' :: Text.padded 10 width n ++ ['Z']) =
      some (n * Nat.pow 10 (9 - width), ['Z']) := by
  have exact' : (Text.padded 10 width n).length = width := Text.length_padded (by decide) wide fits
  have scan : scanDigits 9 (Text.padded 10 width n ++ ['Z']) =
      some (Text.padded 10 width n, ['Z']) :=
    scanDigits_append ['Z'] (padded_ne_nil width n) (fun c => Text.isDigit_of_mem_padded)
      (by omega) (.inr (by simp))
  simp [scanFraction, scan, valueOf_padded, exact']

/-- The digits that are left out are zeros. -/
theorem scanFraction_fractionText {nanos : Nat} (small : nanos < 1000000000) :
    scanFraction (fractionText nanos ++ ['Z']) = some (nanos, ['Z']) := by
  unfold fractionText
  split_ifs with none millis micros
  · rw [none]
    rfl
  · rw [scanFraction_padded (by decide) (by decide) (by show _ < 1000; omega)]
    simp
    omega
  · rw [scanFraction_padded (by decide) (by decide) (by show _ < 1000000; omega)]
    simp
    omega
  · rw [scanFraction_padded (by decide) (by decide) small]
    simp

theorem scanOffset_zulu : scanOffset ['Z'] = some (0, []) := by
  decide

theorem atOffset?_zero (t : Timestamp) :
    atOffset? t.date t.hour t.minute t.second t.nanos 0 = some t := by
  obtain ⟨date, hour, minute, second, nanos⟩ := t
  have sameDay : (60 * (hour : Int) + minute).fdiv 1440 = 0 := by
    rw [Int.fdiv_eq_ediv_of_nonneg _ (by decide)]
    omega
  have ofDay : ((60 * (hour : Int) + minute).fmod 1440).toNat = 60 * hour + minute := by
    rw [Int.fmod_eq_emod_of_nonneg _ (by decide)]
    omega
  have sameHour : (60 * hour.val + minute) / 60 = hour := by omega
  have sameMinute : (60 * hour.val + minute) % 60 = minute := by omega
  simp [atOffset?, sameDay, ofDay, Date.shift?, sameHour, sameMinute]

theorem ofText?_text (t : Timestamp) : ofText? t.text = some t := by
  have scanHour := fun rest => scanNumber_padded (show t.hour.val < 100 by omega) rest
  have scanMinute := fun rest => scanNumber_padded (show t.minute.val < 100 by omega) rest
  have scanSecond := fun rest => scanNumber_padded (show t.second.val < 100 by omega) rest
  have scanColon := fun rest => scanMark_cons (show Text.isBlank ':' = false by decide) rest
  have scanNanos := scanFraction_fractionText t.nanos.isLt
  simp only [ofText?, text, String.toList_ofList, ofChars?, chars, List.append_assoc,
    List.cons_append, scanDate_chars, scanHour, scanMinute, scanSecond, scanColon, scanNanos,
    scanOffset_zulu, Option.bind_eq_bind, Option.bind_some]
  exact atOffset?_zero t

end PolicyRouting.Timestamp
