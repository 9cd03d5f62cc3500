import PolicyRouting.Calendar.Timestamp
import PolicyRouting.Fabric.Host
import PolicyRouting.Policy.Application
import PolicyRouting.Rule.Criterion

/-!
# Policies

A policy says which traffic between two regions may be routed, for which
application and hosts, under which rule priority, and through which connect
points its path has to pass.  Policies are values: a change of state or id
gives another policy.
-/

namespace PolicyRouting

abbrev PolicyId := UInt32

def PolicyId.ofText (s : String) : Except Fault PolicyId :=
  match Text.uint32? (Text.trim s.toList) with
  | some id => .ok id
  | none => .error (.policyNotFound s)

def PolicyId.text (id : PolicyId) : String := Text.decimalText id.toNat

inductive PolicyState where
  | installRequested | installed | failed | withdrawRequested | withdrawn | corrupt | purged
  deriving DecidableEq, Repr, Inhabited

namespace PolicyState

def all : List PolicyState :=
  [installRequested, installed, failed, withdrawRequested, withdrawn, corrupt, purged]

def name : PolicyState → String
  | installRequested => "INSTALL_REQ"
  | installed => "INSTALLED"
  | failed => "FAILED"
  | withdrawRequested => "WITHDRAW_REQ"
  | withdrawn => "WITHDRAWN"
  | corrupt => "CORRUPT"
  | purged => "PURGED"

end PolicyState

inductive RouteClass where
  | intra | inter
  deriving DecidableEq, Repr, Inhabited

namespace RouteClass

def all : List RouteClass := [intra, inter]

def name : RouteClass → String
  | intra => "intra"
  | inter => "inter"

def actionName : RouteClass → String
  | intra => "INTRA_ROUTE"
  | inter => "INTER_ROUTE"

/-- Any case; a hyphen is no underscore here. -/
def ofActionText (s : String) : Except Fault RouteClass :=
  let name := (Text.trim s.toList).map Char.toUpper
  if name = "INTRA".toList ∨ name = "INTRA_ROUTE".toList then .ok intra
  else if name = "INTER".toList ∨ name = "INTER_ROUTE".toList then .ok inter
  else .error (.unknownAction s)

end RouteClass

inductive PathPreference where
  | equalCost | random | bestPossible | onDemand
  deriving DecidableEq, Repr

namespace PathPreference

instance : Inhabited PathPreference := ⟨bestPossible⟩

def all : List PathPreference := [equalCost, random, bestPossible, onDemand]

def name : PathPreference → String
  | equalCost => "ECMP"
  | random => "RANDOM"
  | bestPossible => "BEST_POSSIBLE_PATH"
  | onDemand => "ON_DEMAND"

/-- An unknown name means the best possible path. -/
def ofText (s : String) : PathPreference :=
  (all.find? fun preference => preference.name.toList = Text.folded s).getD bestPossible

end PathPreference

structure Profile where
  serial : UInt64
  name : String
  application : Application
  criteria : List Criterion
  deriving DecidableEq, Repr, Inhabited

structure Policy where
  id : PolicyId
  name : String
  priority : UInt16
  state : PolicyState
  version : UInt64
  action : RouteClass
  srcRegion : String
  dstRegion : String
  srcHosts : List HostId
  dstHosts : List HostId
  partialPath : List ConnectPoint
  preference : PathPreference
  profile : Profile
  createdAt : Timestamp
  deriving DecidableEq, Repr

namespace Policy

def application (policy : Policy) : Application := policy.profile.application

def withState (policy : Policy) (state : PolicyState) : Policy := { policy with state }

def withId (policy : Policy) (id : PolicyId) : Policy := { policy with id }

end Policy

end PolicyRouting
