import PolicyRouting.Text.Numeral

/-!
# Bytes as hexadecimal text

Bytes are written with two lower-case digits each and read in either case.
Positions in a refusal count the bytes of the text, so the text is read as
its bytes.
-/

namespace PolicyRouting.Text

inductive HexFault where
  | oddLength
  | notADigit (byte : UInt8) (position : Nat)
  deriving DecidableEq, Repr

def hexOfByte (b : UInt8) : List Char := padded 16 2 b.toNat

def hexOfBytes (bytes : List UInt8) : String := String.ofList (bytes.flatMap hexOfByte)

def hexDigit? (position : Nat) (b : UInt8) : Except HexFault Nat :=
  match digitValue? 16 (Char.ofNat b.toNat) with
  | some d => .ok d
  | none => .error (.notADigit b position)

def bytesFrom? : Nat → List UInt8 → Except HexFault (List UInt8)
  | _, [] => .ok []
  | _, [_] => .error .oddLength
  | position, high :: low :: rest => do
      let h ← hexDigit? position high
      let l ← hexDigit? (position + 1) low
      let bytes ← bytesFrom? (position + 2) rest
      return UInt8.ofNat (16 * h + l) :: bytes

/-- An odd count of digits is refused before any digit is looked at. -/
def bytesOfHex? (s : String) : Except HexFault (List UInt8) :=
  let text := s.toUTF8.toList
  if text.length % 2 = 1 then .error .oddLength else bytesFrom? 0 text

def quotedByte (b : UInt8) : String :=
  let body :=
    if b = 0 then "\\0"
    else if b = 9 then "\\t"
    else if b = 10 then "\\n"
    else if b = 13 then "\\r"
    else if b = 39 then "\\'"
    else if b = 92 then "\\\\"
    else if b < 32 ∨ b = 127 then
      "\\u\x7b" ++ String.ofList (Nat.toDigits 16 b.toNat) ++ "\x7d"
    else String.singleton (Char.ofNat b.toNat)
  "'" ++ body ++ "'"

def HexFault.message : HexFault → String
  | .oddLength => "Odd number of digits"
  | .notADigit b position =>
      "Invalid character " ++ quotedByte b ++ " at position " ++ decimalText position

end PolicyRouting.Text
