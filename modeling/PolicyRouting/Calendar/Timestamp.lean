import PolicyRouting.Calendar.Date
import PolicyRouting.Text.Blank

/-!
# Points in time

A point in time is a date and a time of day in UTC, to the nanosecond, with
room for a leap second at the end of any minute.  It is written as RFC 3339
text that ends in `Z`, with the fewest of zero, three, six or nine fraction
digits that are exact.  Reading is wider: blanks between the parts, any UTC
offset below a day, a lower-case `t` or a space before the time, and fraction
digits beyond the ninth, which are dropped.  A clock counts from the first
moment of 1970, and every day has the same length for it.
-/

namespace PolicyRouting

def Date.epoch : Date := ⟨1970, 1, 1, by decide⟩

/-- The date that many days after the epoch; the last year has no successor. -/
def Date.afterEpoch : Nat → Date
  | 0 => epoch
  | days + 1 =>
      let date := afterEpoch days
      date.next?.getD date

structure Timestamp where
  date : Date
  hour : Fin 24
  minute : Fin 60
  second : Fin 61
  nanos : Fin 1000000000
  deriving DecidableEq, Repr

namespace Timestamp

def fractionText (nanos : Nat) : List Char :=
  if nanos = 0 then []
  else if nanos % 1000000 = 0 then '.' :: Text.padded 10 3 (nanos / 1000000)
  else if nanos % 1000 = 0 then '.' :: Text.padded 10 6 (nanos / 1000)
  else '.' :: Text.padded 10 9 nanos

def chars (t : Timestamp) : List Char :=
  t.date.chars ++ 'T' :: Text.padded 10 2 t.hour ++ ':' :: Text.padded 10 2 t.minute
    ++ ':' :: Text.padded 10 2 t.second ++ fractionText t.nanos ++ ['Z']

def text (t : Timestamp) : String := String.ofList t.chars

/-! ## Reading

Each scanner gives what it read and the text behind it.
-/

/-- The digits at the front, `most` of them at most and one at least. -/
def scanDigits (most : Nat) (cs : List Char) : Option (List Char × List Char) :=
  let ds := (cs.take most).takeWhile Char.isDigit
  if ds.isEmpty then none else some (ds, cs.drop ds.length)

def valueOf (ds : List Char) : Nat := (Text.digitsFrom? 10 0 ds).getD 0

def scanNumber (most : Nat) (cs : List Char) : Option (Nat × List Char) :=
  (scanDigits most (Text.trimStart cs)).map fun (ds, rest) => (valueOf ds, rest)

/-- A year has at most four digits unless it is signed. -/
def scanYear (cs : List Char) : Option (Int × List Char) :=
  match Text.trimStart cs with
  | '-' :: cs => (scanDigits cs.length cs).map fun (ds, rest) => (-(valueOf ds : Int), rest)
  | '+' :: cs => (scanDigits cs.length cs).map fun (ds, rest) => ((valueOf ds : Int), rest)
  | cs => (scanDigits 4 cs).map fun (ds, rest) => ((valueOf ds : Int), rest)

def scanMark (mark : Char) (cs : List Char) : Option (List Char) :=
  match Text.trimStart cs with
  | c :: rest => if c = mark then some rest else none
  | [] => none

def scanDate (cs : List Char) : Option (Date × List Char) := do
  let (year, cs) ← scanYear cs
  let cs ← scanMark '-' cs
  let (month, cs) ← scanNumber 2 cs
  let cs ← scanMark '-' cs
  let (day, cs) ← scanNumber 2 cs
  let date ← Date.of? year month day
  return (date, cs)

/-- The nanoseconds behind a point; digits beyond the ninth are dropped. -/
def scanFraction (cs : List Char) : Option (Nat × List Char) :=
  match cs with
  | '.' :: cs =>
      (scanDigits 9 cs).map fun (ds, rest) =>
        (valueOf ds * Nat.pow 10 (9 - ds.length), rest.dropWhile Char.isDigit)
  | cs => some (0, cs)

def lowered (cs : List Char) : List Char := cs.map Char.toLower

/-- The offset from UTC in minutes, less than a day in either direction. -/
def scanSignedOffset (negative : Bool) (cs : List Char) : Option (Int × List Char) :=
  match cs with
  | h1 :: h2 :: cs =>
      if h1.isDigit ∧ h2.isDigit then
        match cs.dropWhile fun c => c = ':' || Text.isBlank c with
        | m1 :: m2 :: rest =>
            let minutes := 60 * valueOf [h1, h2] + valueOf [m1, m2]
            if m1.isDigit ∧ m1 ≤ '5' ∧ m2.isDigit ∧ minutes < 1440 then
              some (if negative then -(minutes : Int) else minutes, rest)
            else none
        | _ => none
      else none
  | _ => none

def scanOffset (cs : List Char) : Option (Int × List Char) :=
  let cs := Text.trimStart cs
  if lowered (cs.take 3) = ['u', 't', 'c'] then some (0, cs.drop 3)
  else match cs with
    | 'Z' :: rest | 'z' :: rest => some (0, rest)
    | '+' :: rest => scanSignedOffset false rest
    | '-' :: rest | '\u2212' :: rest => scanSignedOffset true rest
    | _ => none

def atOffset? (date : Date) (hour minute second nanos : Nat) (offset : Int) : Option Timestamp := do
  let minutes : Int := 60 * hour + minute - offset
  let date ← date.shift? (minutes.fdiv 1440)
  let ofDay := (minutes.fmod 1440).toNat
  if h : hour < 24 ∧ minute < 60 ∧ second < 61 ∧ nanos < 1000000000 then
    some
      { date
        hour := Fin.ofNat 24 (ofDay / 60)
        minute := Fin.ofNat 60 (ofDay % 60)
        second := ⟨second, h.2.2.1⟩
        nanos := ⟨nanos, h.2.2.2⟩ }
  else none

def ofChars? (cs : List Char) : Option Timestamp := do
  let (date, cs) ← scanDate cs
  let cs ← match cs with
    | 'T' :: cs | 't' :: cs | ' ' :: cs => some cs
    | _ => none
  let (hour, cs) ← scanNumber 2 cs
  let cs ← scanMark ':' cs
  let (minute, cs) ← scanNumber 2 cs
  let cs ← scanMark ':' cs
  let (second, cs) ← scanNumber 2 cs
  let (nanos, cs) ← scanFraction cs
  let (offset, cs) ← scanOffset cs
  if (Text.trimStart cs).isEmpty then atOffset? date hour minute second nanos offset else none

def ofText? (s : String) : Option Timestamp := ofChars? s.toList

def nanosPerSecond : Nat := 1000000000

def ofEpochNanos (n : Nat) : Timestamp :=
  let seconds := n / nanosPerSecond
  { date := .afterEpoch (seconds / 86400)
    hour := ⟨seconds / 3600 % 24, Nat.mod_lt _ (by decide)⟩
    minute := ⟨seconds / 60 % 60, Nat.mod_lt _ (by decide)⟩
    second := ⟨seconds % 60, Nat.lt_trans (Nat.mod_lt _ (by decide)) (by decide)⟩
    nanos := ⟨n % nanosPerSecond, Nat.mod_lt _ (by decide)⟩ }

end Timestamp

end PolicyRouting
