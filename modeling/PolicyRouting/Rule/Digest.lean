/-!
# A keyed digest of bytes

SipHash with one round for each word and three at the end, under the zero
key.  The bytes are taken as little-endian words of eight; the last word is
filled up with zeros and carries the length of the input, modulo 256, in its
highest byte.
-/

namespace PolicyRouting.Digest

structure State where
  v0 : UInt64
  v1 : UInt64
  v2 : UInt64
  v3 : UInt64
  deriving DecidableEq, Repr

def start : State :=
  ⟨0x736f6d6570736575, 0x646f72616e646f6d, 0x6c7967656e657261, 0x7465646279746573⟩

def rotate (x k : UInt64) : UInt64 := (x <<< k) ||| (x >>> (64 - k))

def round (s : State) : State :=
  let a := s.v0 + s.v1
  let b := rotate s.v1 13 ^^^ a
  let a := rotate a 32
  let c := s.v2 + s.v3
  let d := rotate s.v3 16 ^^^ c
  let a := a + d
  let d := rotate d 21 ^^^ a
  let c := c + b
  let b := rotate b 17 ^^^ c
  let c := rotate c 32
  ⟨a, b, c, d⟩

def absorb (s : State) (word : UInt64) : State :=
  let s := round { s with v3 := s.v3 ^^^ word }
  { s with v0 := s.v0 ^^^ word }

def finish (s : State) : UInt64 :=
  let s := round (round (round { s with v2 := s.v2 ^^^ 0xff }))
  s.v0 ^^^ s.v1 ^^^ s.v2 ^^^ s.v3

def littleEndian (bytes : List UInt8) : Nat :=
  bytes.foldr (fun b n => b.toNat + 256 * n) 0

/-- Absorbs whole words; what is left is absorbed with the length `total`. -/
def absorbAll (total : Nat) (s : State) : List UInt8 → State
  | a :: b :: c :: d :: e :: f :: g :: h :: rest =>
      absorbAll total (absorb s (UInt64.ofNat (littleEndian [a, b, c, d, e, f, g, h]))) rest
  | rest => absorb s (UInt64.ofNat (littleEndian rest + (total % 256) <<< 56))

def ofBytes (bytes : List UInt8) : UInt64 := finish (absorbAll bytes.length start bytes)

end PolicyRouting.Digest
