import PolicyRouting.Text.Numeral

/-!
# Civil dates

Years, months and days of the proleptic Gregorian calendar, with year zero
and negative years, within the years that are kept.
-/

namespace PolicyRouting

namespace Date

def firstYear : Int := -262143
def lastYear : Int := 262142

def isLeap (year : Int) : Bool := year % 4 = 0 && (year % 100 ≠ 0 || year % 400 = 0)

def daysIn (year : Int) (month : Nat) : Nat :=
  if month = 2 then (if isLeap year then 29 else 28)
  else if month = 4 ∨ month = 6 ∨ month = 9 ∨ month = 11 then 30
  else 31

def Valid (year : Int) (month day : Nat) : Prop :=
  firstYear ≤ year ∧ year ≤ lastYear ∧ 1 ≤ month ∧ month ≤ 12 ∧ 1 ≤ day ∧ day ≤ daysIn year month

instance (year : Int) (month day : Nat) : Decidable (Valid year month day) := by
  unfold Valid; infer_instance

end Date

structure Date where
  year : Int
  month : Nat
  day : Nat
  valid : Date.Valid year month day
  deriving DecidableEq, Repr

namespace Date

def of? (year : Int) (month day : Nat) : Option Date :=
  if h : Valid year month day then some ⟨year, month, day, h⟩ else none

def next? (date : Date) : Option Date :=
  if date.day < daysIn date.year date.month then of? date.year date.month (date.day + 1)
  else if date.month < 12 then of? date.year (date.month + 1) 1
  else of? (date.year + 1) 1 1

def previous? (date : Date) : Option Date :=
  if 1 < date.day then of? date.year date.month (date.day - 1)
  else if 1 < date.month then of? date.year (date.month - 1) (daysIn date.year (date.month - 1))
  else of? (date.year - 1) 12 31

/-- The date as many days on, one at most in either direction. -/
def shift? (date : Date) (days : Int) : Option Date :=
  if days = 0 then some date
  else if days = 1 then date.next?
  else if days = -1 then date.previous?
  else none

/-- Four digits; a year that needs more, or is negative, carries its sign. -/
def yearText (year : Int) : List Char :=
  if 0 ≤ year ∧ year ≤ 9999 then Text.padded 10 4 year.toNat
  else (if year < 0 then '-' else '+') :: Text.padded 10 4 year.natAbs

def chars (date : Date) : List Char :=
  yearText date.year ++ '-' :: Text.padded 10 2 date.month ++ '-' :: Text.padded 10 2 date.day

end Date

end PolicyRouting
