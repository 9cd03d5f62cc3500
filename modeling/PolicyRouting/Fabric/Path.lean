import PolicyRouting.Decimal.Cost
import PolicyRouting.Fabric.Point

/-!
# Links and paths

A link leads from one connect point to another, in that direction only.  A
path is the links in the order they are crossed, with a cost of its own; a path
that is made of links costs their number.
-/

namespace PolicyRouting

structure Link where
  src : ConnectPoint
  dst : ConnectPoint
  deriving DecidableEq, Repr, Inhabited

def Link.reversed (link : Link) : Link := ⟨link.dst, link.src⟩

structure Path where
  links : List Link
  cost : Cost
  deriving DecidableEq, Repr, Inhabited

namespace Path

def ofLinks (links : List Link) : Path := ⟨links, Cost.ofCount links.length⟩

@[simp] theorem links_ofLinks (links : List Link) : (ofLinks links).links = links := rfl

def src? (path : Path) : Option ConnectPoint := path.links.head?.map (·.src)

def dst? (path : Path) : Option ConnectPoint := path.links.getLast?.map (·.dst)

def endpoints (path : Path) : List ConnectPoint :=
  (path.links.flatMap fun link => [link.src, link.dst]).eraseDups

def visits (path : Path) (required : List ConnectPoint) : Bool :=
  required.all path.endpoints.contains

end Path

end PolicyRouting
