import PolicyRouting.Text.Numeral
import PolicyRouting.Text.Split

/-!
# IPv4 addresses

The text form is four decimal octets between dots.  An octet has one to three
digits and no leading zero, and nothing may stand around the address.
-/

namespace PolicyRouting

structure Ipv4 where
  a : UInt8
  b : UInt8
  c : UInt8
  d : UInt8
  deriving DecidableEq, Repr, Inhabited

namespace Ipv4

def octets (ip : Ipv4) : List UInt8 := [ip.a, ip.b, ip.c, ip.d]

def toNat (ip : Ipv4) : Nat := ip.octets.foldl (fun n b => 256 * n + b.toNat) 0

def ofNat (n : Nat) : Ipv4 :=
  ⟨UInt8.ofNat (n >>> 24), UInt8.ofNat (n >>> 16), UInt8.ofNat (n >>> 8), UInt8.ofNat n⟩

theorem toNat_injective {ip other : Ipv4} (h : ip.toNat = other.toNat) : ip = other := by
  obtain ⟨a, b, c, d⟩ := ip
  obtain ⟨a', b', c', d'⟩ := other
  simp only [toNat, octets, List.foldl_cons, List.foldl_nil] at h
  have := a.toNat_lt
  have := b.toNat_lt
  have := c.toNat_lt
  have := d.toNat_lt
  have := a'.toNat_lt
  have := b'.toNat_lt
  have := c'.toNat_lt
  have := d'.toNat_lt
  have ha : a.toNat = a'.toNat := by omega
  have hb : b.toNat = b'.toNat := by omega
  have hc : c.toNat = c'.toNat := by omega
  have hd : d.toNat = d'.toNat := by omega
  rw [UInt8.toNat_inj] at ha hb hc hd
  subst ha hb hc hd
  rfl

def text (ip : Ipv4) : String :=
  Text.joined "." (ip.octets.map fun b => Text.decimalText b.toNat)

def octet? (cs : List Char) : Option UInt8 :=
  if cs.length ≤ 3 ∧ (cs.head? = some '0' → cs.length = 1) then
    ((Text.digits? 10 cs).filter (· < UInt8.size)).map UInt8.ofNat
  else none

def ofChars? (cs : List Char) : Option Ipv4 :=
  match (Text.pieces '.' cs).mapM octet? with
  | some [a, b, c, d] => some ⟨a, b, c, d⟩
  | _ => none

def ofText? (s : String) : Option Ipv4 := ofChars? s.toList

end Ipv4

end PolicyRouting
