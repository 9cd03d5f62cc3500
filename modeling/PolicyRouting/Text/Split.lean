/-!
# Cutting a text at a separator

`pieces` cuts at every occurrence of the separator and always gives at least
one piece; `cutFirst` and `cutLast` cut once and fail where the separator does
not occur.
-/

namespace PolicyRouting.Text

def pieces (sep : Char) : List Char → List (List Char)
  | [] => [[]]
  | c :: cs =>
      if c = sep then [] :: pieces sep cs
      else match pieces sep cs with
        | [] => [[c]]
        | piece :: rest => (c :: piece) :: rest

def cutFirst (sep : Char) : List Char → Option (List Char × List Char)
  | [] => none
  | c :: cs =>
      if c = sep then some ([], cs)
      else (cutFirst sep cs).map fun (before, after) => (c :: before, after)

def cutLast (sep : Char) (cs : List Char) : Option (List Char × List Char) :=
  (cutFirst sep cs.reverse).map fun (after, before) => (before.reverse, after.reverse)

def joined (sep : String) (parts : List String) : String := sep.intercalate parts

theorem pieces_ne_nil (sep : Char) (cs : List Char) : pieces sep cs ≠ [] := by
  cases cs with
  | nil => simp [pieces]
  | cons c cs =>
      simp only [pieces]
      split
      · simp
      · split <;> simp

theorem pieces_eq_singleton {sep : Char} {cs : List Char} (h : sep ∉ cs) :
    pieces sep cs = [cs] := by
  induction cs with
  | nil => rfl
  | cons c cs ih =>
      obtain ⟨hc, hcs⟩ := not_or.1 (by simpa using h)
      simp [pieces, ih hcs, Ne.symm hc]

theorem pieces_append {sep : Char} {cs : List Char} (h : sep ∉ cs) (rest : List Char) :
    pieces sep (cs ++ sep :: rest) = cs :: pieces sep rest := by
  induction cs with
  | nil => simp [pieces]
  | cons c cs ih =>
      obtain ⟨hc, hcs⟩ := not_or.1 (by simpa using h)
      simp [pieces, ih hcs, Ne.symm hc]

theorem cutFirst_append {sep : Char} {cs : List Char} (h : sep ∉ cs) (rest : List Char) :
    cutFirst sep (cs ++ sep :: rest) = some (cs, rest) := by
  induction cs with
  | nil => simp [cutFirst]
  | cons c cs ih =>
      obtain ⟨hc, hcs⟩ := not_or.1 (by simpa using h)
      simp [cutFirst, ih hcs, Ne.symm hc]

theorem cutLast_append {sep : Char} {rest : List Char} (h : sep ∉ rest) (cs : List Char) :
    cutLast sep (cs ++ sep :: rest) = some (cs, rest) := by
  have h' : sep ∉ rest.reverse := by simpa using h
  simp [cutLast, cutFirst_append h']

end PolicyRouting.Text
