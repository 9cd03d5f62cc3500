import PolicyRouting.Form.Routing
import PolicyRouting.Text.Blank
import PolicyRouting.Text.Hex

/-!
# Replays

A scenario describes regions, links, hosts and the packets that were captured.
A replay runs them through an engine over the policies of a register and over
devices that hold no rules yet.  Its report lists the rules that reached the
devices, by policy; the register keeps all rules it owned before.  What can go
wrong in a command has one message, which names the outermost circumstance
first.
-/

namespace PolicyRouting

namespace Console

inductive Trouble where
  | homeless
  | malformedDefaults (message : String)
  | unreadable (path : String) (cause : FileFault)
  | malformed (path : String)
  | badFrame (receiver : ConnectPoint) (cause : Text.HexFault)
  | refused (cause : Fault)
  | noDirectory (cause : FileFault)
  | unwritable (path : String) (cause : FileFault)
  | defaultsUnwritable (cause : FileFault)
  deriving DecidableEq, Repr

/-- The cause of a fault with a file is told twice, as a part of the fault and on its own. -/
def refusalMessage : Fault → String
  | .unreadableFile cause => (Fault.unreadableFile cause).message ++ ": " ++ cause.message
  | fault => fault.message

def Trouble.message : Trouble → String
  | homeless => "Cannot find home directory"
  | malformedDefaults message => message
  | unreadable path cause => "reading " ++ path ++ ": " ++ cause.message
  | malformed path => "parsing " ++ path
  | badFrame receiver cause => "bad frame hex for " ++ receiver.text ++ ": " ++ cause.message
  | refused cause => refusalMessage cause
  | noDirectory cause => cause.message
  | unwritable path cause => "writing " ++ path ++ ": " ++ cause.message
  | defaultsUnwritable cause => cause.message

end Console

structure CapturedPacket where
  receiver : ConnectPoint
  /-- Hexadecimal text; blanks and colons in it do not count. -/
  frame : String
  deriving DecidableEq, Repr

structure Scenario where
  regions : Regions := {}
  settings : Option Settings := none
  links : List Link := []
  isBidirectional : Bool := true
  hosts : List Host := []
  packets : List CapturedPacket := []
  deriving Repr

namespace CapturedPacket

def ofJson? (json : Json) : Option CapturedPacket := do
  let [receiver, frame] ← json.fields? ["receiver", "frame"] | none
  return ⟨← receiver.required ConnectPoint.ofJson?, ← frame.required Json.text?⟩

def decode (packet : CapturedPacket) : Except Console.Trouble (ConnectPoint × Bytes) :=
  let digits := packet.frame.toList.filter fun c => !Text.isBlank c && c ≠ ':'
  match Text.bytesOfHex? (String.ofList digits) with
  | .ok bytes => .ok (packet.receiver, bytes)
  | .error cause => .error (.badFrame packet.receiver cause)

end CapturedPacket

namespace Scenario

def ofJson? (json : Json) : Option Scenario := do
  let [regions, settings, links, isBidirectional, hosts, packets] ←
    json.fields? ["regions", "engine", "links", "bidirectional", "hosts", "packets"] | none
  return {
    regions := ← regions.orElse {} Regions.ofJson?
    settings := ← settings.orElse none (Json.nullable? Settings.ofJson?)
    links := ← links.orElse [] (Json.listOf? Link.ofJson?)
    isBidirectional := ← isBidirectional.orElse true Json.bool?
    hosts := ← hosts.orElse [] (Json.listOf? Host.ofJson?)
    packets := ← packets.orElse [] (Json.listOf? CapturedPacket.ofJson?) }

def ofText? (s : String) : Option Scenario := (Json.ofText? s).bind ofJson?

def graph (scenario : Scenario) : Graph :=
  scenario.links.foldl (if scenario.isBidirectional then Graph.addBoth else Graph.add) .empty

end Scenario

/-- A scenario that is ready to run: its settings were checked and its frames decoded. -/
structure Replay where
  settings : Settings
  regions : Regions
  graph : Graph
  hosts : List Host
  packets : List (ConnectPoint × Bytes)
  deriving Inhabited

structure ReplayReport where
  processed : Nat
  arpReplies : Nat
  rules : List OwnedRules
  counters : Counters
  choices : ChoiceCounts
  installed : Nat
  deriving Inhabited

namespace Replay

def directory (replay : Replay) (order : Nat → HostOrder) : Directory :=
  replay.hosts.foldl Directory.add (.walkedIn order)

def engine (replay : Replay) (order : Nat → HostOrder) (register : Register) : Engine :=
  let engine := Engine.start replay.settings replay.regions { register with switches := .empty }
  { engine with
    scene := { engine.scene with graph := replay.graph, directory := replay.directory order } }

def reached (register : Register) : List OwnedRules :=
  (register.owned.entries.map fun (policy, rules) =>
    (⟨policy, rules.filter fun rule => register.switches.contains rule.id⟩ : OwnedRules)).filter
      fun owned => !owned.rules.isEmpty

def run (replay : Replay) (order : Nat → HostOrder) (register : Register) :
    ReplayReport × Register :=
  let e := ((replay.engine order register).activate.run replay.packets).deactivate
  ({ processed := replay.packets.length
     arpReplies := e.outbox.sent.length
     rules := reached e.scene.register
     counters := e.counters
     choices := e.scene.chooser.counts
     installed := e.scene.register.switches.rules.size },
    e.scene.register)

end Replay

def ReplayReport.toJson (report : ReplayReport) : Json :=
  .record
    [("processed", .nat report.processed), ("arp_replies_emitted", .nat report.arpReplies),
     ("rules", .array (report.rules.map OwnedRules.toJson)),
     ("stats", report.counters.toJson report.choices)]

end PolicyRouting
