import PolicyRouting.Fault
import PolicyRouting.Text.Blank
import PolicyRouting.Text.Split

/-!
# MAC addresses

Six octets.  The text form is six two-digit groups between colons, upper case
when written.  Reading takes blanks at the ends and either case; a group is
two characters that read as an unsigned numeral in base sixteen, so `+1` is a
group.
-/

namespace PolicyRouting

structure Mac where
  a : UInt8
  b : UInt8
  c : UInt8
  d : UInt8
  e : UInt8
  f : UInt8
  deriving DecidableEq, Repr, Inhabited

namespace Mac

def octets (m : Mac) : List UInt8 := [m.a, m.b, m.c, m.d, m.e, m.f]

def ofBytes? : List UInt8 → Option Mac
  | a :: b :: c :: d :: e :: f :: _ => some ⟨a, b, c, d, e, f⟩
  | _ => none

def isMulticast (m : Mac) : Bool := m.a &&& 1 != 0

def toNat (m : Mac) : Nat := m.octets.foldl (fun n b => 256 * n + b.toNat) 0

def octetText (b : UInt8) : List Char := (Text.padded 16 2 b.toNat).map Char.toUpper

def text (m : Mac) : String :=
  Text.joined ":" (m.octets.map fun b => String.ofList (octetText b))

def octet? (cs : List Char) : Option UInt8 :=
  if cs.length = 2 then (Text.numeral? 16 UInt8.size cs).map UInt8.ofNat else none

def ofGroups? (groups : List (List Char)) : Option Mac :=
  match groups.mapM octet? with
  | some [a, b, c, d, e, f] => some ⟨a, b, c, d, e, f⟩
  | _ => none

/-- The refusal repeats the text as it was given. -/
def ofText (s : String) : Except Fault Mac :=
  match ofGroups? (Text.pieces ':' (Text.trim s.toList)) with
  | some m => .ok m
  | none => .error (.malformedMac s)

end Mac

end PolicyRouting
