import PolicyRouting.Fault
import PolicyRouting.Text.Split

/-!
# Files

A file tree holds texts and directories under their places.  A path is walked
name by name: every name is looked up in a directory, two points lead to the
directory above, and an empty name or a point stays where it is.  The root is
a directory and its own parent.
-/

namespace PolicyRouting.Console

inductive Node where
  | text (content : String)
  | directory
  deriving DecidableEq, Repr

abbrev Place := List String

inductive WriteEnd where
  | complete
  | refused (cause : FileFault)
  /-- The old text is gone, and of the new one no more than so many characters were written. -/
  | brokenOff (length : Nat) (cause : FileFault)
  deriving DecidableEq, Repr

structure FileTree where
  /-- Where a path starts that does not start at the root. -/
  working : Place
  nodes : List (Place × Node)
  medium : String → WriteEnd := fun _ => .complete
  deriving Inhabited

namespace FileTree

def empty (working : Place) : FileTree where
  working := working
  nodes := (List.range working.length).map fun n => (working.take (n + 1), .directory)

def node? (tree : FileTree) (place : Place) : Option Node :=
  if place = [] then some .directory else tree.nodes.lookup place

def isDirectory (tree : FileTree) (place : Place) : Bool := tree.node? place = some .directory

def put (tree : FileTree) (place : Place) (node : Node) : FileTree :=
  { tree with nodes := (place, node) :: tree.nodes.filter (·.1 ≠ place) }

def isRooted (path : String) : Bool := path.toList.head? = some '/'

def names (path : String) : List String :=
  let cs := path.toList
  (Text.pieces '/' (if isRooted path then cs.drop 1 else cs)).map String.ofList

def start (tree : FileTree) (path : String) : Place := if isRooted path then [] else tree.working

def under (place : Place) (name : String) : Place :=
  if name = "" ∨ name = "." then place
  else if name = ".." then place.dropLast
  else place ++ [name]

def walk (tree : FileTree) (place : Place) : List String → Except FileFault Place
  | [] => .ok place
  | name :: names =>
      if !tree.isDirectory place then .error .notADirectory
      else if (tree.node? (under place name)).isNone then .error .missing
      else walk tree (under place name) names

def locate (tree : FileTree) (path : String) : Except FileFault Place :=
  if path = "" then .error .missing else tree.walk (tree.start path) (names path)

def read (tree : FileTree) (path : String) : Except FileFault String := do
  match tree.node? (← tree.locate path) with
  | some (.text content) => .ok content
  | some .directory => .error .isDirectory
  | none => .error .missing

def makeAlong (tree : FileTree) (place : Place) : List String → Except FileFault FileTree
  | [] => if tree.isDirectory place then .ok tree else .error .alreadyExists
  | name :: names =>
      if !tree.isDirectory place then .error .notADirectory
      else
        let next := under place name
        let tree := if (tree.node? next).isNone then tree.put next .directory else tree
        makeAlong tree next names

/-- The names of a path up to its last one; blank names at the end do not count. -/
def parentNames (path : String) : List String :=
  let rec withoutTail : List String → List String
    | "" :: rest => withoutTail rest
    | "." :: rest => withoutTail rest
    | rest => rest
  ((withoutTail (names path).reverse).drop 1).reverse

def makeParents (tree : FileTree) (path : String) : Except FileFault FileTree :=
  tree.makeAlong (tree.start path) (parentNames path)

/--
The place of the text at a path.  The directory above has to exist, and a path that ends in a slash
names no text.
-/
def target (tree : FileTree) (path : String) : Except FileFault Place :=
  if path = "" then .error .missing
  else
    let reversed := (names path).reverse
    match reversed.dropWhile (· = "") with
    | [] => .error .isDirectory
    | last :: before => do
        let parent ← tree.walk (tree.start path) before.reverse
        let place := under parent last
        if !tree.isDirectory parent then .error .notADirectory
        else if reversed.head? = some "" ∨ tree.isDirectory place then .error .isDirectory
        else .ok place

def write (tree : FileTree) (place : Place) (content : String) : Except FileFault Unit × FileTree :=
  match tree.medium content with
  | .complete => (.ok (), tree.put place (.text content))
  | .refused cause => (.error cause, tree)
  | .brokenOff length cause =>
      (.error cause, tree.put place (.text (String.ofList (content.toList.take length))))

end FileTree

end PolicyRouting.Console
