import PolicyRouting.Decimal.Shortest
import PolicyRouting.Text.Numeral

/-!
# Costs

A cost is a binary floating-point number.  It is written with the shortest
digits that read back, positionally while the point stands within sixteen
digits and at most four zeros follow it, and always with a fraction or an
exponent.

Reading gathers the digits of the token into a 64-bit number for as long as
they fit, counts what it leaves out in the exponent, and scales once by a
power of ten.  Long tokens may so be a unit off in the last place.
-/

namespace PolicyRouting

/-- A number in 64 bits: sign, exponent and fraction, in the widths 1, 11 and 52. -/
structure Cost where
  bits : UInt64
  deriving DecidableEq, Repr, Inhabited

namespace Cost

def isNegative (cost : Cost) : Bool := cost.bits.toNat >>> 63 = 1

/-- The exponent as it stands in the bits; the smallest numbers have 0 there. -/
def field (cost : Cost) : Nat := (cost.bits.toNat >>> 52) % 0x800

def fraction (cost : Cost) : Nat := cost.bits.toNat % 0x10000000000000

/-- The size of a finite number is its significand times `2 ^ exponent`. -/
def significand (cost : Cost) : Nat :=
  if cost.field = 0 then cost.fraction else 0x10000000000000 + cost.fraction

def exponent (cost : Cost) : Int := if cost.field = 0 then -1074 else (cost.field : Int) - 1075

/-- The number that is nearest to a count; of two such, the one with the even significand. -/
def ofCount (n : Nat) : Cost :=
  if n = 0 then ⟨0⟩
  else
    -- the first 53 binary digits, and what is left of the count behind them
    let shift := n.log2 - 52
    let kept := (n <<< (52 - n.log2)) >>> shift
    let unit := 1 <<< shift
    let rest := n % unit
    let up := unit < 2 * rest ∨ (unit = 2 * rest ∧ kept % 2 = 1)
    ⟨UInt64.ofNat (((n.log2 + 1022) <<< 52) + kept + (if up then 1 else 0))⟩

end Cost

namespace Decimal

def zeros (n : Nat) : List Char := List.replicate n '0'

def exponentText (e : Int) : List Char :=
  (if e < 0 then ['e', '-'] else ['e']) ++ Text.decimal e.natAbs

def layout (d : Digits) : List Char :=
  let ds := Text.decimal d.coefficient
  let point := (ds.length : Int) + d.exponent
  if 0 ≤ d.exponent ∧ point ≤ 16 then ds ++ zeros d.exponent.toNat ++ ['.', '0']
  else if 0 < point ∧ point ≤ 16 then ds.take point.toNat ++ '.' :: ds.drop point.toNat
  else if -5 < point ∧ point ≤ 0 then '0' :: '.' :: zeros (-point).toNat ++ ds
  else match ds with
    | [digit] => digit :: exponentText (point - 1)
    | digit :: rest => digit :: '.' :: rest ++ exponentText (point - 1)
    | [] => []

/-- Takes digits for as long as the number fits 64 bits; tells how many it took. -/
def gather : Nat → List Char → Nat × Nat
  | n, [] => (n, 0)
  | n, c :: cs =>
      let next := 10 * n + (c.toNat - '0'.toNat)
      if next < UInt64.size then
        let (value, taken) := gather next cs
        (value, taken + 1)
      else (n, 0)

def power (e : Nat) : Float := Float.ofScientific 1 false e

def scaled? (n : Nat) (exponent : Int) : Option Float :=
  let x := (UInt64.ofNat n).toFloat
  if 0 ≤ exponent then
    if exponent ≤ 308 then
      let y := x * power exponent.toNat
      if y.isInf then none else some y
    else if n = 0 then some x else none
  else if -308 ≤ exponent then some (x / power (-exponent).toNat)
  else if -616 ≤ exponent then some (x / power 308 / power (-exponent - 308).toNat)
  else some 0.0

structure Token where
  negative : Bool
  whole : List Char
  fraction : List Char
  exponent : Int
  deriving Repr

def Token.ofChars (cs : List Char) : Token :=
  let negative := cs.head? = some '-'
  let cs := if negative then cs.drop 1 else cs
  let whole := cs.takeWhile Char.isDigit
  let cs := cs.drop whole.length
  let fraction := if cs.head? = some '.' then (cs.drop 1).takeWhile Char.isDigit else []
  let cs := if cs.head? = some '.' then cs.drop (fraction.length + 1) else cs
  let cs := cs.drop 1
  let below := cs.head? = some '-'
  let digits := cs.filter Char.isDigit
  let size : Int := (Text.digitsFrom? 10 0 digits).getD 0
  { negative, whole, fraction, exponent := if below then -size else size }

/-- The largest exponent that is told apart from a larger one. -/
def exponentLimit : Int := 0x7fffffff

def Token.value? (t : Token) : Option Float :=
  let (n, taken) := gather 0 t.whole
  let (n, more) := gather n t.fraction
  let shift : Int := (t.whole.length : Int) - taken - more
  let size? :=
    if exponentLimit < t.exponent then (if n = 0 then some 0.0 else none)
    else if t.exponent < -exponentLimit then some 0.0
    else scaled? n (shift + t.exponent)
  size?.map fun x => if t.negative then -x else x

end Decimal

namespace Cost

def text (cost : Cost) : String :=
  let sign := if cost.isNegative then ['-'] else []
  let size :=
    if cost.significand = 0 then ['0', '.', '0']
    else
      let finerBelow := cost.fraction = 0 && 1 < cost.field
      Decimal.layout (Decimal.shortest cost.significand cost.exponent finerBelow)
  String.ofList (sign ++ size)

def ofText? (token : String) : Option Cost :=
  (Decimal.Token.ofChars token.toList).value?.map fun x => ⟨x.toBits⟩

end Cost

end PolicyRouting
