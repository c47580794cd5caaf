import Faultline.Analysis
import Faultline.Binary64
import Faultline.Callsite
import Faultline.Client
import Faultline.Clock
import Faultline.Config
import Faultline.Context
import Faultline.Counterexample
import Faultline.Decimal.Shortest
import Faultline.Device
import Faultline.Digest
import Faultline.Error
import Faultline.Execution
import Faultline.Exploration
import Faultline.Explorer
import Faultline.Fault
import Faultline.Harness
import Faultline.Index
import Faultline.Injection
import Faultline.Json.Parser
import Faultline.Json.Printer
import Faultline.Json.Record
import Faultline.Key
import Faultline.Ledger
import Faultline.Pattern.Parser
import Faultline.Phase
import Faultline.Proofs.Application.Basic
import Faultline.Proofs.Application.Carriage
import Faultline.Proofs.Application.Causality
import Faultline.Proofs.Application.FailOpen
import Faultline.Proofs.Application.Headroom
import Faultline.Proofs.Application.Provenance
import Faultline.Proofs.Application.Questions
import Faultline.Proofs.Application.Rendering
import Faultline.Proofs.Application.Scheduling
import Faultline.Proofs.Application.Siblings
import Faultline.Proofs.Client
import Faultline.Proofs.Clock
import Faultline.Proofs.Clock.Order
import Faultline.Proofs.Clock.Text
import Faultline.Proofs.Context
import Faultline.Proofs.Counterexample
import Faultline.Proofs.Counterexample.Spelling
import Faultline.Proofs.Decision
import Faultline.Proofs.Dialogue
import Faultline.Proofs.Explorer.Account
import Faultline.Proofs.Explorer.Bound
import Faultline.Proofs.Explorer.Coverage
import Faultline.Proofs.Explorer.Greeting
import Faultline.Proofs.Explorer.Newness
import Faultline.Proofs.Explorer.Numbering
import Faultline.Proofs.Explorer.Solo
import Faultline.Proofs.Explorer.Started
import Faultline.Proofs.Extension
import Faultline.Proofs.Frame
import Faultline.Proofs.Index
import Faultline.Proofs.Index.Nesting
import Faultline.Proofs.Index.Shape
import Faultline.Proofs.Index.Text
import Faultline.Proofs.Isolation
import Faultline.Proofs.Json.Divergence
import Faultline.Proofs.Json.Enclosed
import Faultline.Proofs.Json.Limit
import Faultline.Proofs.Json.Parsed
import Faultline.Proofs.Json.RoundTrip
import Faultline.Proofs.Json.Scan
import Faultline.Proofs.Key
import Faultline.Proofs.Key.Separation
import Faultline.Proofs.Latency
import Faultline.Proofs.Mutation.Codec
import Faultline.Proofs.Mutation.Devices
import Faultline.Proofs.Mutation.Ending
import Faultline.Proofs.Mutation.Enumeration
import Faultline.Proofs.Mutation.Fields
import Faultline.Proofs.Mutation.Frugality
import Faultline.Proofs.Mutation.Guard
import Faultline.Proofs.Mutation.Leaf
import Faultline.Proofs.Mutation.Leaves
import Faultline.Proofs.Mutation.Objects
import Faultline.Proofs.Mutation.Positions
import Faultline.Proofs.Mutation.Restart
import Faultline.Proofs.Mutation.Values
import Faultline.Proofs.Mutation.Walk
import Faultline.Proofs.Naming
import Faultline.Proofs.Operation
import Faultline.Proofs.Plan
import Faultline.Proofs.Registry
import Faultline.Proofs.Report.Adjacent
import Faultline.Proofs.Report.Redundant
import Faultline.Proofs.Sameness
import Faultline.Proofs.Server
import Faultline.Proofs.Slot
import Faultline.Proofs.Text.CommonRun
import Faultline.Proofs.Text.Rows
import Faultline.Proofs.Traffic.Agreement
import Faultline.Proofs.Traffic.Basic
import Faultline.Proofs.Traffic.Explored
import Faultline.Proofs.Traffic.Lockstep
import Faultline.Proofs.Traffic.Replay
import Faultline.Proofs.Traffic.Solo
import Faultline.Proofs.Traffic.Stability
import Faultline.Proofs.Trail
import Faultline.Proofs.Transformation
import Faultline.Proofs.Tree.Basic
import Faultline.Proofs.Tree.Counts
import Faultline.Proofs.Tree.Names
import Faultline.Registry
import Faultline.Report.Analyzer
import Faultline.Report.Basic
import Faultline.Server
import Faultline.Shape
import Faultline.Source.Remote
import Faultline.Source.Script
import Faultline.State
import Faultline.Table
import Faultline.Text.Blank
import Faultline.Text.Fragment
import Faultline.Text.Numeral
import Faultline.Trail
import Faultline.Transformer
import Faultline.Violation
