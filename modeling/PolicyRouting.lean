import PolicyRouting.Address.Ipv4
import PolicyRouting.Address.Ipv6
import PolicyRouting.Address.Mac
import PolicyRouting.Address.Network
import PolicyRouting.Calendar.Date
import PolicyRouting.Calendar.Timestamp
import PolicyRouting.Console.Answer
import PolicyRouting.Console.Defaults
import PolicyRouting.Console.Files
import PolicyRouting.Console.Grammar
import PolicyRouting.Console.Help
import PolicyRouting.Console.Invocation
import PolicyRouting.Console.Replay
import PolicyRouting.Console.Script
import PolicyRouting.Console.Session
import PolicyRouting.Decimal.Cost
import PolicyRouting.Decimal.Shortest
import PolicyRouting.Fabric.Directory
import PolicyRouting.Fabric.Graph
import PolicyRouting.Fabric.Host
import PolicyRouting.Fabric.Outbox
import PolicyRouting.Fabric.Path
import PolicyRouting.Fabric.Point
import PolicyRouting.Fabric.Switches
import PolicyRouting.Fault
import PolicyRouting.Form.Fabric
import PolicyRouting.Form.Policy
import PolicyRouting.Form.Routing
import PolicyRouting.Form.Rule
import PolicyRouting.Frame.Basic
import PolicyRouting.Frame.Reader
import PolicyRouting.Frame.Writer
import PolicyRouting.Json.Basic
import PolicyRouting.Json.Reader
import PolicyRouting.Json.Writer
import PolicyRouting.Keyed
import PolicyRouting.Main
import PolicyRouting.Policy.Application
import PolicyRouting.Policy.Basic
import PolicyRouting.Policy.Draft
import PolicyRouting.Policy.Register
import PolicyRouting.Policy.Request
import PolicyRouting.Proofs.Address.Groups
import PolicyRouting.Proofs.Address.Networks
import PolicyRouting.Proofs.Address.Texts
import PolicyRouting.Proofs.Calendar.Timestamps
import PolicyRouting.Proofs.Console.Errands
import PolicyRouting.Proofs.Console.Files
import PolicyRouting.Proofs.Console.Persistence
import PolicyRouting.Proofs.Console.Tasks
import PolicyRouting.Proofs.Fabric.Costs
import PolicyRouting.Proofs.Fabric.PathOrder
import PolicyRouting.Proofs.Fabric.PathSearch
import PolicyRouting.Proofs.Fabric.ShortestWalks
import PolicyRouting.Proofs.Fabric.Texts
import PolicyRouting.Proofs.Form.RoundTrip
import PolicyRouting.Proofs.Frame.Padding
import PolicyRouting.Proofs.Frame.Positions
import PolicyRouting.Proofs.Frame.RoundTrip
import PolicyRouting.Proofs.Json.Layouts
import PolicyRouting.Proofs.Json.Records
import PolicyRouting.Proofs.Json.Spelling
import PolicyRouting.Proofs.Policy.Admission
import PolicyRouting.Proofs.Policy.Attempts
import PolicyRouting.Proofs.Policy.Durable
import PolicyRouting.Proofs.Policy.EventLog
import PolicyRouting.Proofs.Policy.Installs
import PolicyRouting.Proofs.Policy.Numbering
import PolicyRouting.Proofs.Policy.Operations
import PolicyRouting.Proofs.Policy.Ownership
import PolicyRouting.Proofs.Policy.Parking
import PolicyRouting.Proofs.Policy.Reasons
import PolicyRouting.Proofs.Policy.Requests
import PolicyRouting.Proofs.Policy.Snapshots
import PolicyRouting.Proofs.Policy.Stamps
import PolicyRouting.Proofs.Routing.Accounting
import PolicyRouting.Proofs.Routing.Additions
import PolicyRouting.Proofs.Routing.Capture
import PolicyRouting.Proofs.Routing.CompletePath
import PolicyRouting.Proofs.Routing.Contribution
import PolicyRouting.Proofs.Routing.Criteria
import PolicyRouting.Proofs.Routing.Delivery
import PolicyRouting.Proofs.Routing.Gateways
import PolicyRouting.Proofs.Routing.HeldPolicy
import PolicyRouting.Proofs.Routing.History
import PolicyRouting.Proofs.Routing.Hops
import PolicyRouting.Proofs.Routing.HostFilter
import PolicyRouting.Proofs.Routing.HostOrders
import PolicyRouting.Proofs.Routing.Matching
import PolicyRouting.Proofs.Routing.PacketOrder
import PolicyRouting.Proofs.Routing.PathChoice
import PolicyRouting.Proofs.Routing.PathConstraint
import PolicyRouting.Proofs.Routing.Records
import PolicyRouting.Proofs.Routing.RegionLookup
import PolicyRouting.Proofs.Routing.RegionPairs
import PolicyRouting.Proofs.Routing.Repetition
import PolicyRouting.Proofs.Routing.Replies
import PolicyRouting.Proofs.Routing.Runs
import PolicyRouting.Proofs.Routing.Selectors
import PolicyRouting.Proofs.Routing.Stamps
import PolicyRouting.Proofs.Routing.TaggedHosts
import PolicyRouting.Proofs.Routing.Unnoticed
import PolicyRouting.Proofs.Routing.Withdrawal
import PolicyRouting.Proofs.Rule.Content
import PolicyRouting.Proofs.Rule.Kinds
import PolicyRouting.Proofs.Tables
import PolicyRouting.Proofs.Text.Identifiers
import PolicyRouting.Proofs.Text.Items
import PolicyRouting.Proofs.Text.Names
import PolicyRouting.Proofs.Text.Numerals
import PolicyRouting.Routing.Choice
import PolicyRouting.Routing.Engine
import PolicyRouting.Routing.Match
import PolicyRouting.Routing.Regions
import PolicyRouting.Routing.Route
import PolicyRouting.Rule.Basic
import PolicyRouting.Rule.Criterion
import PolicyRouting.Rule.Digest
import PolicyRouting.Text.Blank
import PolicyRouting.Text.Columns
import PolicyRouting.Text.Grid
import PolicyRouting.Text.Hex
import PolicyRouting.Text.Numeral
import PolicyRouting.Text.Split
import PolicyRouting.Toml.Reader
import PolicyRouting.Toml.Scalar
import PolicyRouting.Yaml.Scalar
import PolicyRouting.Yaml.Writer
