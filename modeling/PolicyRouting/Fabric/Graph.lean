import PolicyRouting.Fabric.Path

/-!
# The link graph and its shortest paths

The graph is its links in the order they were added, each once.  A search in
breadth finds how many links away from a device every other one is.  A walk in
depth then follows the links in their order, each time to a device that is one
link further away, and keeps the links it stands on when it reaches the
destination.  It keeps `mostPaths` paths and no more.
-/

namespace PolicyRouting

structure Graph where
  links : List Link
  deriving DecidableEq, Repr, Inhabited

structure Search where
  distances : List (String × Nat)
  waiting : List String
  deriving DecidableEq, Repr, Inhabited

namespace Search

def start (src : String) : Search := ⟨[(src, 0)], [src]⟩

def distance? (s : Search) (device : String) : Option Nat := s.distances.lookup device

def reach (s : Search) (distance : Nat) (device : String) : Search :=
  if (s.distance? device).isSome then s
  else ⟨s.distances ++ [(device, distance)], s.waiting ++ [device]⟩

end Search

namespace Graph

def empty : Graph := ⟨[]⟩

def add (g : Graph) (link : Link) : Graph :=
  if g.links.contains link then g else ⟨g.links ++ [link]⟩

def addBoth (g : Graph) (link : Link) : Graph := (g.add link).add link.reversed

def remove (g : Graph) (link : Link) : Graph := ⟨g.links.filter (· ≠ link)⟩

def linkCount (g : Graph) : Nat := g.links.length

def linksFrom (g : Graph) (device : String) : List Link :=
  g.links.filter fun link => link.src.device = device

/-- Goes on from the device that has waited longest, until none waits or the rounds are over. -/
def searchOn (g : Graph) : Nat → Search → Search
  | 0, s => s
  | rounds + 1, s =>
      match s.waiting with
      | [] => s
      | device :: waiting =>
          -- a device that waits has a distance
          let next := (s.distance? device).getD 0 + 1
          searchOn g rounds <|
            (g.linksFrom device).foldl (fun s link => s.reach next link.dst.device)
              { s with waiting }

/-- The whole search; a device other than the first waits once and is the end of a link. -/
def search (g : Graph) (src : String) : Search :=
  g.searchOn (g.links.length + 1) (.start src)

def mostPaths : Nat := 64

/--
Goes on from a device that was reached over the links of the stack, with `room` links left to the
length of a shortest path, and adds to the paths that were found.
-/
def walk (g : Graph) (s : Search) (dst : String) (room : Nat) (device : String)
    (stack : List Link) (found : List Path) : List Path :=
  if mostPaths ≤ found.length then found
  else if device = dst then found ++ [Path.ofLinks stack]
  else match room with
    | 0 => found
    | room + 1 =>
        (g.linksFrom device).foldl
          (fun found link =>
            if s.distance? link.dst.device = some (stack.length + 1) then
              walk g s dst room link.dst.device (stack ++ [link]) found
            else found)
          found

/-- The shortest paths between two devices; there are none from a device to itself. -/
def shortestPaths (g : Graph) (src dst : String) : List Path :=
  if src = dst then []
  else
    let s := g.search src
    match s.distance? dst with
    | none => []
    | some target => g.walk s dst target src [] []

end Graph

end PolicyRouting
