import PolicyRouting.Fabric.Path
import PolicyRouting.Policy.Basic

/-!
# Choosing one of several paths

Under the random preference any candidate may be chosen, as chance has it.
Every other preference takes the first candidate that visits all required
connect points, and the last candidate where there is no such.  The chooser
counts what it did.
-/

namespace PolicyRouting

inductive ChoiceKind where
  | random | satisfied | fallback
  deriving DecidableEq, Repr

def ChoiceKind.name : ChoiceKind → String
  | random => "random"
  | satisfied => "satisfied"
  | fallback => "fallback"

structure Choice where
  path : Path
  kind : ChoiceKind
  deriving DecidableEq, Repr

def Choice.meetsConstraint (choice : Choice) : Bool := choice.kind ≠ .fallback

/-- A 64-bit counter shows the same number as long as it has counted less than `2 ^ 64`. -/
structure ChoiceCounts where
  selections : Nat := 0
  random : Nat := 0
  satisfied : Nat := 0
  fallbacks : Nat := 0
  empty : Nat := 0
  deriving DecidableEq, Repr, Inhabited

def nextSeed (seed : Nat) : Nat := (6364136223846793005 * seed + 1442695040888963407) % UInt64.size

def scattered (n : Nat) : Nat := nextSeed (nextSeed n) / UInt32.size

structure Chooser where
  counts : ChoiceCounts := {}
  /-- The number that chance gives for each random choice, in their order. -/
  chance : Nat → Nat := scattered
  deriving Inhabited

/-- The first candidate that visits all required points, or else the last one. -/
def constrainedChoice (required : List ConnectPoint) (first : Path) (others : List Path) : Choice :=
  match (first :: others).find? fun path => path.visits required with
  | some path => ⟨path, .satisfied⟩
  | none => ⟨(first :: others).getLast (List.cons_ne_nil _ _), .fallback⟩

def randomChoice (number : Nat) (first : Path) (others : List Path) : Choice :=
  ⟨(first :: others).getD (number % (others.length + 1)) first, .random⟩

def ChoiceCounts.noted (counts : ChoiceCounts) : Option ChoiceKind → ChoiceCounts
  | none => { counts with empty := counts.empty + 1 }
  | some .random =>
      { counts with selections := counts.selections + 1, random := counts.random + 1 }
  | some .satisfied =>
      { counts with selections := counts.selections + 1, satisfied := counts.satisfied + 1 }
  | some .fallback =>
      { counts with selections := counts.selections + 1, fallbacks := counts.fallbacks + 1 }

def Chooser.noted (chooser : Chooser) (kind : Option ChoiceKind) : Chooser :=
  { chooser with counts := chooser.counts.noted kind }

def Chooser.choose (chooser : Chooser) (preference : PathPreference) (candidates : List Path)
    (required : List ConnectPoint) : Option Choice × Chooser :=
  match candidates with
  | [] => (none, chooser.noted none)
  | first :: others =>
      match preference with
      | .random =>
          let number := chooser.chance chooser.counts.random
          (some (randomChoice number first others), chooser.noted (some .random))
      | .equalCost | .bestPossible | .onDemand =>
          let choice := constrainedChoice required first others
          (some choice, chooser.noted (some choice.kind))

def Chooser.chooseFor (chooser : Chooser) (policy : Policy) (candidates : List Path) :
    Option Choice × Chooser :=
  chooser.choose policy.preference candidates policy.partialPath

end PolicyRouting
