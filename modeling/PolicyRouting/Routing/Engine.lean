import PolicyRouting.Fabric.Outbox
import PolicyRouting.Frame.Writer
import PolicyRouting.Routing.Regions
import PolicyRouting.Routing.Route

/-!
# The engine

Every packet passes the same tests in the same order and stops at the first
that applies: no frame, link discovery, ARP, not IPv4, no region at one end.
What remains is routed under every current policy that joins the two regions,
in the order of the policies' ids; priority only becomes the rules' priority.
-/

namespace PolicyRouting

inductive ArpReply where
  | replied | notRequest | notGateway | noGatewayMac
  deriving DecidableEq, Repr

def ArpReply.name : ArpReply → String
  | replied => "replied"
  | notRequest => "not_request"
  | notGateway => "not_gateway"
  | noGatewayMac => "no_gateway_mac"

inductive Disposition where
  | unparsed
  | control
  | arpHandled (reply : ArpReply)
  | notIpv4
  | unknownRegion
  | noMatch
  | routed (matched installed : Nat)
  deriving DecidableEq, Repr

/-- A 64-bit counter shows the same number as long as it has counted less than `2 ^ 64`. -/
structure Counters where
  packets : Nat := 0
  control : Nat := 0
  notIpv4 : Nat := 0
  arpReplies : Nat := 0
  unknownRegion : Nat := 0
  policyMatches : Nat := 0
  rulesInstalled : Nat := 0
  hostsUnknown : Nat := 0
  selectorsRejected : Nat := 0
  pathFallbacks : Nat := 0
  deriving DecidableEq, Repr, Inhabited

structure Engine where
  scene : Scene
  regions : RegionTable
  outbox : Outbox
  counters : Counters
  active : Bool
  deriving Inhabited

namespace Engine

def start (settings : Settings) (regions : Regions) (register : Register) : Engine where
  scene :=
    { settings, graph := .empty, directory := .empty, register, chooser := {} }
  regions := regions
  outbox := .empty
  counters := {}
  active := false

def reload (e : Engine) (regions : Regions) : Engine := { e with regions }

def activate (e : Engine) : Engine :=
  if e.active then e
  else
    { e with
      active := true
      outbox := (e.outbox.request EtherType.ipv4 .reactive).request EtherType.arp .reactive }

def deactivate (e : Engine) : Engine :=
  if e.active then
    { e with
      active := false
      outbox := (e.outbox.cancel EtherType.ipv4 .reactive).cancel EtherType.arp .reactive }
  else e

/-- Requests for a gateway are answered where they came in. -/
def answerArp (e : Engine) (receiver : ConnectPoint) (frame : Frame) (message : Arp) :
    ArpReply × Engine :=
  if message.isRequest then
    if e.regions.isGateway (.v4 message.targetIp) then
      match e.regions.gatewayMac with
      | none => (.noGatewayMac, e)
      | some mac =>
          (.replied,
            { e with
              outbox := e.outbox.send receiver (message.replyFrame mac frame.vlan)
              counters := { e.counters with arpReplies := e.counters.arpReplies + 1 } })
    else (.notGateway, e)
  else (.notRequest, e)

def Counters.noted (c : Counters) : RouteOutcome → Counters
  | .installed rules constraintMet =>
      { c with
        rulesInstalled := c.rulesInstalled + rules
        pathFallbacks := c.pathFallbacks + (if constraintMet then 0 else 1) }
  | .sourceUnknown | .destinationUnknown => { c with hostsUnknown := c.hostsUnknown + 1 }
  | .noSelector => { c with selectorsRejected := c.selectorsRejected + 1 }
  | .noPath | .withdrawn => c

def rulesIn : RouteOutcome → Nat
  | .installed rules _ => rules
  | _ => 0

def routeAll (e : Engine) (frame : Frame) : List Policy → Nat × Engine
  | [] => (0, e)
  | policy :: rest =>
      let (outcome, scene) := e.scene.route policy.action policy frame
      let e := { e with scene, counters := Counters.noted e.counters outcome }
      let (installed, e) := routeAll e frame rest
      (rulesIn outcome + installed, e)

def policiesFor (e : Engine) (src dst : String) : List Policy :=
  e.scene.register.policies.filter fun policy => policy.joins policy.action src dst

def dispatch (e : Engine) (frame : Frame) (src dst : String) : Disposition × Engine :=
  match e.policiesFor src dst with
  | [] => (.noMatch, e)
  | policies =>
      let (installed, e) := e.routeAll frame policies
      let counters :=
        { e.counters with policyMatches := e.counters.policyMatches + policies.length }
      (.routed policies.length installed, { e with counters })

def regionOf? (e : Engine) (ip : Ipv4) : Option String :=
  e.regions.regionOfIp? ip e.scene.settings.regionLength

/-- The tests behind the first one, on a frame that was decoded. -/
def classify (e : Engine) (receiver : ConnectPoint) (frame : Frame) : Disposition × Engine :=
  if frame.isControl then
    (.control, { e with counters := { e.counters with control := e.counters.control + 1 } })
  else if frame.etherType = EtherType.arp then
    match frame.arp? with
    | none => (.unparsed, e)
    | some message =>
        let (reply, e) := e.answerArp receiver frame message
        (.arpHandled reply, e)
  else match frame.ipv4? with
    | none =>
        (.notIpv4, { e with counters := { e.counters with notIpv4 := e.counters.notIpv4 + 1 } })
    | some header =>
        match e.regionOf? header.src, e.regionOf? header.dst with
        | some src, some dst => e.dispatch frame src dst
        | _, _ =>
            let counters := { e.counters with unknownRegion := e.counters.unknownRegion + 1 }
            (.unknownRegion, { e with counters })

def process (e : Engine) (receiver : ConnectPoint) (data : Bytes) : Disposition × Engine :=
  let e := { e with counters := { e.counters with packets := e.counters.packets + 1 } }
  match Frame.ofBytes? data with
  | none => (.unparsed, e)
  | some frame => e.classify receiver frame

def run (e : Engine) (packets : List (ConnectPoint × Bytes)) : Engine :=
  packets.foldl (fun e packet => (e.process packet.1 packet.2).2) e

end Engine

end PolicyRouting
