/-!
# Unsigned numerals

A numeral is written with the fewest digits.  It is read with one optional
plus sign and any number of leading zeros; nothing else may stand before,
between or after the digits, and a value at or above the bound is refused.
-/

namespace PolicyRouting.Text

/-- The value of a digit in a base of at most sixteen, in either case. -/
def digitValue? (base : Nat) (c : Char) : Option Nat :=
  let value? :=
    if '0' ≤ c ∧ c ≤ '9' then some (c.toNat - '0'.toNat)
    else if 'a' ≤ c ∧ c ≤ 'f' then some (c.toNat - 'a'.toNat + 10)
    else if 'A' ≤ c ∧ c ≤ 'F' then some (c.toNat - 'A'.toNat + 10)
    else none
  value?.filter (· < base)

def digitsFrom? (base : Nat) : Nat → List Char → Option Nat
  | acc, [] => some acc
  | acc, c :: cs => (digitValue? base c).bind fun d => digitsFrom? base (acc * base + d) cs

/-- One or more digits and nothing else. -/
def digits? (base : Nat) : List Char → Option Nat
  | [] => none
  | cs => digitsFrom? base 0 cs

def withoutPlus : List Char → List Char
  | '+' :: cs => cs
  | cs => cs

def numeral? (base bound : Nat) (cs : List Char) : Option Nat :=
  (digits? base (withoutPlus cs)).filter (· < bound)

def decimal (n : Nat) : List Char := Nat.toDigits 10 n

def decimalText (n : Nat) : String := String.ofList (decimal n)

def padded (base width n : Nat) : List Char :=
  let ds := Nat.toDigits base n
  List.replicate (width - ds.length) '0' ++ ds

def uint8? (cs : List Char) : Option UInt8 := (numeral? 10 UInt8.size cs).map UInt8.ofNat
def uint16? (cs : List Char) : Option UInt16 := (numeral? 10 UInt16.size cs).map UInt16.ofNat
def uint32? (cs : List Char) : Option UInt32 := (numeral? 10 UInt32.size cs).map UInt32.ofNat

end PolicyRouting.Text
