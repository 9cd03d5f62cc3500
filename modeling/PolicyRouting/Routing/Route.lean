import PolicyRouting.Fabric.Directory
import PolicyRouting.Fabric.Graph
import PolicyRouting.Policy.Register
import PolicyRouting.Routing.Choice
import PolicyRouting.Routing.Match

/-!
# Routing one packet under one policy

The hosts at the two ends are found, the selector is made, a path is chosen,
and one rule for each device on it is installed: each link's source device
forwards onto the link, and the last device forwards to the host.  Between
regions the first of several hops readdresses the frame, since it may have
been sent to a gateway.  Hosts on one device need a single rule and no path.
-/

namespace PolicyRouting

inductive RouteOutcome where
  | installed (rules : Nat) (constraintMet : Bool)
  | noSelector
  | sourceUnknown
  | destinationUnknown
  | noPath
  | withdrawn
  deriving DecidableEq, Repr

/-- The host that the frame goes to: by address inside a region, by IP between regions. -/
def Directory.destination? (d : Directory) (class_ : RouteClass) (frame : Frame)
    (header : Ipv4Header) : Option Host :=
  match class_ with
  | .intra => d.host? (.untagged frame.dst)
  | .inter => (d.owners header.dst).head?

/-- The host that the frame comes from; between regions its IP may tell it too. -/
def Directory.source? (d : Directory) (class_ : RouteClass) (frame : Frame)
    (header : Ipv4Header) : Option Host :=
  match class_ with
  | .intra => d.host? (.untagged frame.src)
  | .inter => (d.host? (.untagged frame.src)).or (d.owners header.src).head?

structure RuleTemplate where
  selector : Selector
  priority : UInt16
  timeout : Timeout
  table : UInt32
  app : String
  deriving DecidableEq, Repr

def RuleTemplate.rule (t : RuleTemplate) (device : String) (treatment : Treatment) : Rule :=
  Rule.make device t.selector treatment t.priority t.timeout t.table t.app

/-- The treatment at the first hop; `readdressed` is the address it writes, if any. -/
def firstTreatment (readdressed : Option Mac) (port : UInt32) : Treatment :=
  match readdressed with
  | some mac => .readdress mac port
  | none => .forward port

def RuleTemplate.linkRules (t : RuleTemplate) (readdressed : Option Mac) : List Link → List Rule
  | [] => []
  | link :: links =>
      t.rule link.src.device (firstTreatment readdressed link.src.port)
        :: links.map fun link => t.rule link.src.device (.forward link.src.port)

/-- One rule for each link, then the rule of the last device. -/
def RuleTemplate.pathRules (t : RuleTemplate) (readdressed : Option Mac) (links : List Link)
    (dst : ConnectPoint) : List Rule :=
  t.linkRules readdressed links ++ [t.rule dst.device (.forward dst.port)]

/-- Installs rule after rule; a refusal ends it. -/
def Register.installRules (r : Register) (id : PolicyId) : List Rule → Bool × Register
  | [] => (true, r)
  | rule :: rules =>
      match r.installRule id rule with
      | (true, r) => r.installRules id rules
      | (false, r) => (false, r)

structure Scene where
  settings : Settings
  graph : Graph
  directory : Directory
  register : Register
  chooser : Chooser
  deriving Inhabited

namespace Scene

def idle (scene : Scene) : RouteClass → Timeout
  | .intra => .idle scene.settings.intraIdle
  | .inter => .idle scene.settings.interIdle

def install (scene : Scene) (policy : Policy) (rules : List Rule) (constraintMet : Bool) :
    RouteOutcome × Scene :=
  match scene.register.installRules policy.id rules with
  | (true, register) => (.installed rules.length constraintMet, { scene with register })
  | (false, register) => (.withdrawn, { scene with register })

def connect (scene : Scene) (class_ : RouteClass) (policy : Policy) (src dst : Host)
    (selector : Selector) : RouteOutcome × Scene :=
  let template : RuleTemplate :=
    ⟨selector, policy.priority, scene.idle class_, scene.settings.table, scene.settings.app⟩
  if src.location.device = dst.location.device then
    scene.install policy (template.pathRules none [] dst.location) true
  else
    let candidates := scene.graph.shortestPaths src.location.device dst.location.device
    match scene.chooser.chooseFor policy candidates with
    | (none, chooser) => (.noPath, { scene with chooser })
    | (some choice, chooser) =>
        let readdressed := match class_ with
          | .intra => none
          | .inter => some dst.id.mac
        { scene with chooser }.install policy
          (template.pathRules readdressed choice.path.links dst.location) choice.meetsConstraint

def route (scene : Scene) (class_ : RouteClass) (policy : Policy) (frame : Frame) :
    RouteOutcome × Scene :=
  match frame.ipv4? with
  | none => (.noSelector, scene)
  | some header =>
      match scene.directory.destination? class_ frame header with
      | none =>
          (.destinationUnknown, { scene with directory := scene.directory.watch header.dst })
      | some dst =>
          match scene.directory.source? class_ frame header with
          | none => (.sourceUnknown, scene)
          | some src =>
              let dstId := match class_ with
                | .intra => HostId.untagged frame.dst
                | .inter => dst.id
              match scene.settings.selector? class_ frame policy dstId with
              | none => (.noSelector, scene)
              | some selector => scene.connect class_ policy src dst selector

end Scene

end PolicyRouting
