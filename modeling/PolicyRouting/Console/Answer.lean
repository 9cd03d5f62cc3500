import PolicyRouting.Console.Invocation
import PolicyRouting.Console.Replay
import PolicyRouting.Json.Writer
import PolicyRouting.Text.Grid
import PolicyRouting.Yaml.Writer

/-!
# Tasks and their answers

A task is a command on the policies that needs no more files.  It answers and
changes the register, or is refused and changes nothing.  The answer has a text
in each of the three formats; changes of a policy are told in one sentence in
every format.
-/

namespace PolicyRouting.Console

inductive Answer where
  | created (id : PolicyId) (name : String) (priority : UInt16)
  | listed (summaries : List Summary)
  | shown (summary : Summary) (policy : PolicyId) (rules : List Rule)
  | removed (given : String) (withdrawn : Nat)
  | replayed (report : ReplayReport)

def listText (items : List String) : String :=
  if items.isEmpty then "-" else Text.joined "," items

def summaryRow (s : Summary) : List String :=
  [PolicyId.text s.id, s.profileName, Text.decimalText s.priority.toNat, s.application,
   listText s.devices, listText s.srcHosts, listText s.dstHosts,
   s.srcRegion ++ " -> " ++ s.dstRegion, s.action, Text.decimalText s.rules]

def summaryGrid (summaries : List Summary) : Text.Grid where
  header :=
    ["ID", "Profile", "Priority", "App", "Via", "Src hosts", "Dst hosts", "Regions", "Action",
     "Rules"]
  rows := summaries.map summaryRow

def timeoutText : Timeout → String
  | .permanent => "permanent"
  | .idle seconds => "idle " ++ Text.decimalText seconds.toNat ++ "s"
  | .hard seconds => "hard " ++ Text.decimalText seconds.toNat ++ "s"

def instructionText : Instruction → String
  | .setEthDst mac => "eth_dst=" ++ mac.text
  | .output port => "output:" ++ Text.decimalText port.toNat

def ruleRow (policy : PolicyId) (rule : Rule) : List String :=
  [PolicyId.text policy, Rule.idText rule.id, rule.device, Text.decimalText rule.priority.toNat,
   timeoutText rule.timeout, Text.decimalText rule.selector.criteria.length,
   Text.joined " " (rule.treatment.instructions.map instructionText)]

def ruleGrid (owned : List OwnedRules) : Text.Grid where
  header := ["Policy", "Rule", "Device", "Priority", "Timeout", "Match", "Actions"]
  rows := owned.flatMap fun owned => owned.rules.map (ruleRow owned.policy)

def counterGrid (c : Counters) (choices : ChoiceCounts) : Text.Grid where
  header := ["Counter", "Value"]
  rows :=
    [("packets seen", c.packets), ("control dropped", c.control),
     ("non-IPv4 dropped", c.notIpv4), ("ARP replies", c.arpReplies),
     ("unknown region", c.unknownRegion), ("policy matches", c.policyMatches),
     ("rules installed", c.rulesInstalled), ("hosts unknown", c.hostsUnknown),
     ("selectors rejected", c.selectorsRejected), ("path fallbacks", c.pathFallbacks),
     ("paths selected", choices.selections)].map fun (name, value) =>
      [name, Text.decimalText value]

def ruleLines (owned : List OwnedRules) : String :=
  let grid := ruleGrid owned
  if grid.rows.isEmpty then "" else grid.text ++ "\n"

/-- A value in one of the two formats for programs, or what stands in its place in a table. -/
def document (format : Format) (json : Json) (table : String) : String :=
  match format with
  | .json => json.toIndentedText ++ "\n"
  | .yaml => Yaml.text json ++ "\n"
  | .table => table

def Answer.text (format : Format) : Answer → String
  | created id name priority =>
      "Created policy " ++ PolicyId.text id ++ " (" ++ name ++ ") priority "
        ++ Text.decimalText priority.toNat ++ "\n"
  | listed summaries =>
      document format (.array (summaries.map Summary.toJson))
        (if summaries.isEmpty then "No policies\n" else (summaryGrid summaries).text ++ "\n")
  | shown summary policy rules =>
      document format summary.toJson
        ((summaryGrid [summary]).text ++ "\n" ++ ruleLines [⟨policy, rules⟩])
  | removed given withdrawn =>
      "Removed policy " ++ given ++ " (" ++ Text.decimalText withdrawn ++ " rules withdrawn)\n"
  | replayed report =>
      document format report.toJson
        ("Replayed " ++ Text.decimalText report.processed ++ " frames, "
          ++ Text.decimalText report.installed ++ " rules installed\n" ++ ruleLines report.rules
          ++ (counterGrid report.counters report.choices).text ++ "\n")

inductive Task where
  | create (request : Request)
  | list
  | get (id : String)
  | remove (id : String)
  | replay (replay : Replay)

namespace Task

def saves : Task → Bool
  | create _ | remove _ | replay _ => true
  | list | get _ => false

/-- Carries the task out; the profile of a policy that it makes is numbered `serial`. -/
def perform (serial : UInt64) (now : Timestamp) (order : Nat → HostOrder) (register : Register) :
    Task → Except Fault (Answer × Register)
  | create request => do
      let (policy, register) ← register.createRequest request serial now
      return (.created policy.id policy.name policy.priority, register)
  | list => return (.listed register.summaries, register)
  | get id => do
      let policy ← register.findText id
      return (.shown (register.summary policy) policy.id (register.rulesOf policy.id), register)
  | remove id => do
      let (withdrawn, register) ← register.removeText id
      return (.removed id withdrawn, register)
  | .replay prepared =>
      let (report, register) := prepared.run order register
      return (.replayed report, register)

end Task

end PolicyRouting.Console
