import PolicyRouting.Address.Ipv4

/-!
# IPv6 addresses

Eight groups of sixteen bits.  In the text form a double colon stands for
zero groups left out, a group has one to four digits, and the last two groups
may be written as an IPv4 address.  Writing leaves out the first longest run
of two or more zero groups and uses lower case; an IPv4-mapped address keeps
its dotted ending.
-/

namespace PolicyRouting

structure Ipv6 where
  groups : Vector UInt16 8
  deriving DecidableEq, Repr

namespace Ipv6

def toNat (ip : Ipv6) : Nat := ip.groups.toList.foldl (fun n g => 65536 * n + g.toNat) 0

def ofNat (n : Nat) : Ipv6 :=
  ⟨Vector.ofFn fun i : Fin 8 => UInt16.ofNat (n >>> (16 * (7 - i.val)))⟩

/-- Where the first longest run of zeros starts, and its length. -/
def longestZeros : List UInt16 → Nat × Nat
  | [] => (0, 0)
  | g :: gs =>
      let here := ((g :: gs).takeWhile (· = 0)).length
      let (start, length) := longestZeros gs
      if length ≤ here then (0, here) else (start + 1, length)

def groupText (g : UInt16) : String := String.ofList (Nat.toDigits 16 g.toNat)

def groupsText (gs : List UInt16) : String := Text.joined ":" (gs.map groupText)

def mapped? (ip : Ipv6) : Option Ipv4 :=
  match ip.groups.toList with
  | [0, 0, 0, 0, 0, 0xffff, g, h] => some (Ipv4.ofNat (65536 * g.toNat + h.toNat))
  | _ => none

def text (ip : Ipv6) : String :=
  match ip.mapped? with
  | some v4 => "::ffff:" ++ v4.text
  | none =>
      let gs := ip.groups.toList
      let (start, length) := longestZeros gs
      if length ≤ 1 then groupsText gs
      else groupsText (gs.take start) ++ "::" ++ groupsText (gs.drop (start + length))

def group? (cs : List Char) : Option UInt16 :=
  if cs.length ≤ 4 then (Text.digits? 16 cs).map UInt16.ofNat else none

/-- Groups between colons, of which the last may be a dotted IPv4 address. -/
def groups? : List (List Char) → Option (List UInt16)
  | [] => some []
  | [last] =>
      match group? last with
      | some g => some [g]
      | none =>
          (Ipv4.ofChars? last).map fun v4 =>
            [UInt16.ofNat (v4.toNat / 65536), UInt16.ofNat v4.toNat]
  | first :: rest => do
      let g ← group? first
      let gs ← groups? rest
      return g :: gs

def side? (cs : List Char) : Option (List UInt16) :=
  if cs.isEmpty then some [] else groups? (Text.pieces ':' cs)

def cutDoubleColon : List Char → Option (List Char × List Char)
  | ':' :: ':' :: rest => some ([], rest)
  | [] => none
  | c :: cs => (cutDoubleColon cs).map fun (before, after) => (c :: before, after)

def ofGroups? (gs : List UInt16) : Option Ipv6 :=
  if h : gs.length = 8 then some ⟨⟨gs.toArray, by simpa using h⟩⟩ else none

/-- A dotted part may stand only at the very end of the address. -/
def ofChars? (cs : List Char) : Option Ipv6 :=
  match cutDoubleColon cs with
  | none => (groups? (Text.pieces ':' cs)).bind ofGroups?
  | some (before, after) => do
      let left ← side? before
      let right ← side? after
      if before.contains '.' ∨ 7 < left.length + right.length then none
      else ofGroups? (left ++ List.replicate (8 - (left.length + right.length)) 0 ++ right)

def ofText? (s : String) : Option Ipv6 := ofChars? s.toList

end Ipv6

end PolicyRouting
