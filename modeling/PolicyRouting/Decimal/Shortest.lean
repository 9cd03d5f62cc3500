/-!
# The shortest decimal that reads back

A binary fraction `m * 2 ^ q` stands for all real numbers that round to it.
Of the decimals among them, those with the fewest digits are wanted, and of
these the nearest to the fraction.  Grids of powers of ten are tried from
coarse to fine; on each only the two neighbours of the fraction can do.
-/

namespace PolicyRouting.Decimal

structure Digits where
  coefficient : Nat
  exponent : Int
  deriving DecidableEq, Repr

def powers (base : Nat) (exponent : Int) : Nat × Nat :=
  (base.pow exponent.toNat, base.pow (-exponent).toNat)

/--
A positive binary fraction in quarters: `4 * m * 2 ^ q`, with the bounds of the interval that rounds
to it.  The lower bound is nearer where `m` is a power of two with a finer grid below it.
-/
structure Interval where
  low : Nat
  middle : Nat
  high : Nat
  exponent : Int
  closed : Bool
  deriving Repr

def Interval.of (m : Nat) (q : Int) (finerBelow : Bool) : Interval where
  low := 4 * m - (if finerBelow then 1 else 2)
  middle := 4 * m
  high := 4 * m + 2
  exponent := q - 2
  closed := m % 2 = 0

def Interval.below (i : Interval) (k : Int) : Nat :=
  let (two, half) := powers 2 i.exponent
  let (ten, tenth) := powers 10 k
  i.middle * two * tenth / (ten * half)

/-- The distance of `c * 10 ^ k` from the middle, in a unit that depends on `k` only. -/
def Interval.distance (i : Interval) (k : Int) (c : Nat) : Nat :=
  let (two, half) := powers 2 i.exponent
  let (ten, tenth) := powers 10 k
  let there := c * ten * half
  let here := i.middle * two * tenth
  (there - here) + (here - there)

def Interval.contains (i : Interval) (k : Int) (c : Nat) : Bool :=
  let (two, half) := powers 2 i.exponent
  let (ten, tenth) := powers 10 k
  let there := c * ten * half
  let low := i.low * two * tenth
  let high := i.high * two * tenth
  if i.closed then low ≤ there && there ≤ high else low < there && there < high

/-- The better of the two neighbours on a grid, if one of them is in the interval. -/
def Interval.onGrid? (i : Interval) (k : Int) : Option Digits :=
  let c := i.below k
  let first := i.contains k c
  let second := i.contains k (c + 1)
  if first && second then
    let near := i.distance k c
    let far := i.distance k (c + 1)
    if near < far ∨ (near = far ∧ c % 2 = 0) then some ⟨c, k⟩ else some ⟨c + 1, k⟩
  else if first then some ⟨c, k⟩
  else if second then some ⟨c + 1, k⟩
  else none

def Interval.search (i : Interval) (k : Int) : Nat → Option Digits
  | 0 => none
  | count + 1 =>
      match i.onGrid? k with
      | some digits => some digits
      | none => i.search (k - 1) count

def Interval.ceiling (i : Interval) : Int :=
  let whole := i.below 0
  if whole = 0 then
    let (two, half) := powers 2 i.exponent
    2 - ((Nat.toDigits 10 (half / (i.middle * two))).length : Int)
  else (Nat.toDigits 10 whole).length

/-- The shortest decimal for `m * 2 ^ q`; seventeen digits always do for 53 binary ones. -/
def shortest (m : Nat) (q : Int) (finerBelow : Bool) : Digits :=
  let i := Interval.of m q finerBelow
  (i.search i.ceiling 20).getD ⟨0, 0⟩

end PolicyRouting.Decimal
