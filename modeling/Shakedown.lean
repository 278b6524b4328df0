import Shakedown.Text.Base64
import Shakedown.Text.Blank
import Shakedown.Text.Decimal
import Shakedown.Text.Hex
import Shakedown.Text.Quoted
import Shakedown.Text.Replace
import Shakedown.Text.Start
import Shakedown.Text.Utf8
import Shakedown.Text.Visible
import Shakedown.Path
import Shakedown.Time.Calendar
import Shakedown.Time.Duration
import Shakedown.Time.Moment
import Shakedown.Time.Rfc3339
import Shakedown.Sha256
import Shakedown.Uuid
import Shakedown.Json.Basic
import Shakedown.Json.Lookup
import Shakedown.Json.Reader
import Shakedown.Json.Record
import Shakedown.Json.Writer
import Shakedown.Net.Address
import Shakedown.Net.Form
import Shakedown.Net.Host
import Shakedown.Net.Percent
import Shakedown.Net.Punycode
import Shakedown.Net.Url
import Shakedown.Bind
import Shakedown.Wire.Container
import Shakedown.Wire.System
import Shakedown.Wire.Task
import Shakedown.Wire.Token
import Shakedown.Api.Behaviour
import Shakedown.Api.Fault
import Shakedown.Api.Request
import Shakedown.Http.Client
import Shakedown.Http.Exchange
import Shakedown.Plan
import Shakedown.Probe
import Shakedown.Readiness
import Shakedown.Token.Basic
import Shakedown.Token.Issue
import Shakedown.Token.Scopes
import Shakedown.Scenario.Basic
import Shakedown.Scenario.Cause
import Shakedown.PanelFlow
import Shakedown.Agent.Cleanup
import Shakedown.Agent.Exit
import Shakedown.Agent.Machine
import Shakedown.Agent.Process
import Shakedown.Agent.Watch
import Shakedown.Output.Capture
import Shakedown.Output.Lines
import Shakedown.Output.Tail
import Shakedown.Interrupt
import Shakedown.Disk
import Shakedown.Launch
import Shakedown.Toml.Basic
import Shakedown.Toml.Document
import Shakedown.Toml.Reader
import Shakedown.Toml.Scalar
import Shakedown.CommandLine.Grammar
import Shakedown.CommandLine.Invocation
import Shakedown.Settings.File
import Shakedown.Settings.Resolve
import Shakedown.Settings.Surroundings
import Shakedown.Run.Basic
import Shakedown.Run.Failure
import Shakedown.Run.Interruption
import Shakedown.Run.Lifecycle
import Shakedown.Run.Parameters
import Shakedown.Run.Pipeline
import Shakedown.Rehearsal.Agent
import Shakedown.Rehearsal.Api
import Shakedown.Rehearsal.Document
import Shakedown.Rehearsal.Run
import Shakedown.Stub.Agent
import Shakedown.Stub.Basic
import Shakedown.Stub.Handling
import Shakedown.Stub.Routes
import Shakedown.Stub.Server
import Shakedown.Program.Basic
import Shakedown.Program.Text
import Shakedown.Program.Usage
import Shakedown.Main
import Shakedown.Proofs.Plan.Course
import Shakedown.Proofs.Plan.Log
import Shakedown.Proofs.Plan.Budget
import Shakedown.Proofs.Readiness
import Shakedown.Proofs.Token.Issue
import Shakedown.Proofs.Scenario.Outcome
import Shakedown.Proofs.Agent.Cleanup
import Shakedown.Proofs.Agent.Machine
import Shakedown.Proofs.Run.Execution
import Shakedown.Proofs.Run.Interruption
import Shakedown.Proofs.Run.CallOrder
import Shakedown.Proofs.Run.Signals
import Shakedown.Proofs.Run.Verdict
import Shakedown.Proofs.Run.Budget
import Shakedown.Proofs.Plan.Trace
import Shakedown.Proofs.Path
import Shakedown.Proofs.Except
import Shakedown.Proofs.Settings.Locations
import Shakedown.Proofs.Run.Cleanup
import Shakedown.Proofs.Plan.Calls
import Shakedown.Proofs.Run.Revocation
import Shakedown.Proofs.Agent.SharedCleanup
import Shakedown.Proofs.Text.Utf8
import Shakedown.Proofs.Json.Text
import Shakedown.Proofs.Uuid
import Shakedown.Proofs.Wire
import Shakedown.Proofs.Wire.RoundTrip
import Shakedown.Proofs.Probe
import Shakedown.Proofs.Time.Calendar
import Shakedown.Proofs.Time.Rfc3339
import Shakedown.Proofs.Time.Timestamp
import Shakedown.Proofs.Token.Expiry
import Shakedown.Proofs.Net.Base
import Shakedown.Proofs.Net.Loopback
import Shakedown.Proofs.Stub.Network
import Shakedown.Proofs.Stub.Admission
import Shakedown.Proofs.Stub.Effects
import Shakedown.Proofs.Stub.Answers
import Shakedown.Proofs.Stub.Stages
import Shakedown.Proofs.Stub.Enforcement
import Shakedown.Proofs.Stub.Sizes
import Shakedown.Proofs.Stub.Rehearsal
import Shakedown.Proofs.Stub.Exercise
import Shakedown.Proofs.Stub.Run
import Shakedown.Proofs.Stub.History
import Shakedown.Proofs.Stub.Ledger
import Shakedown.Proofs.Stub.Serving
import Shakedown.Proofs.Stub.Authorisation
import Shakedown.Proofs.Stub.Conservation
import Shakedown.Proofs.Plan.Alike
import Shakedown.Proofs.Run.Opacity
import Shakedown.Proofs.Program.Opacity
import Shakedown.Proofs.Plan.Timing
import Shakedown.Proofs.Plan.Runs
import Shakedown.Proofs.Scenario.Looks
import Shakedown.Proofs.Scenario.Awaiting
import Shakedown.Proofs.Scenario.Course
import Shakedown.Proofs.Scenario.Messages
import Shakedown.Proofs.Stub.Visibility
import Shakedown.Proofs.Time.Grammar
import Shakedown.Proofs.Text.Blank
import Shakedown.Proofs.Token.Scopes
import Shakedown.Proofs.Token.Grant
import Shakedown.Proofs.Readiness.Race
import Shakedown.Proofs.Agent.Observation
import Shakedown.Proofs.Agent.Termination
import Shakedown.Proofs.Text.Decimal
import Shakedown.Proofs.Net.Address
import Shakedown.Proofs.Bind
import Shakedown.Proofs.Settings.Resolution
import Shakedown.Proofs.Settings.Target
import Shakedown.Proofs.Settings.Cargo
import Shakedown.Proofs.Text.Ascii
import Shakedown.Proofs.Output.Lines
import Shakedown.Proofs.Output.Tail
import Shakedown.Proofs.Http.Answers
import Shakedown.Proofs.Http.Health
import Shakedown.Proofs.Text.Cut
import Shakedown.Proofs.Http.Refusals
import Shakedown.Proofs.Wire.Leniency
import Shakedown.Proofs.Http.Acceptance
import Shakedown.Proofs.PanelFlow
import Shakedown.Proofs.CommandLine.Words
import Shakedown.Proofs.CommandLine.Grammar
import Shakedown.Proofs.CommandLine.Run
