import GridAgent.Acquisition.Decision
import GridAgent.Agent.Acquire
import GridAgent.Agent.Assembly
import GridAgent.Agent.Cancellation
import GridAgent.Agent.Handler
import GridAgent.Agent.Infrastructure
import GridAgent.Agent.Loop
import GridAgent.Agent.Prefetch
import GridAgent.Agent.Registry
import GridAgent.Agent.Request
import GridAgent.Agent.Succession
import GridAgent.Backoff
import GridAgent.Backoff.Retrying
import GridAgent.Backoff.Trial
import GridAgent.Decimal.Binary
import GridAgent.Decimal.Nearest
import GridAgent.Decimal.Shortest
import GridAgent.Demo
import GridAgent.Error
import GridAgent.Finalizer
import GridAgent.Health.Monitor
import GridAgent.Health.Report
import GridAgent.Id
import GridAgent.Id.Set
import GridAgent.Json
import GridAgent.Json.Draft
import GridAgent.Json.Fields
import GridAgent.Json.Reader
import GridAgent.Json.Record
import GridAgent.Json.Settings
import GridAgent.Json.Short
import GridAgent.Json.Writer
import GridAgent.Main
import GridAgent.Objects
import GridAgent.Pods
import GridAgent.Program
import GridAgent.Proofs.Accounting
import GridAgent.Proofs.Acquisition.Decision
import GridAgent.Proofs.Acquisition.Safety
import GridAgent.Proofs.Agreement
import GridAgent.Proofs.Atomicity
import GridAgent.Proofs.Attempt
import GridAgent.Proofs.Backoff
import GridAgent.Proofs.Budget
import GridAgent.Proofs.Cancellation
import GridAgent.Proofs.Cascade
import GridAgent.Proofs.Cluster.Aftermath
import GridAgent.Proofs.Cluster.Books
import GridAgent.Proofs.Cluster.Courses
import GridAgent.Proofs.Cluster.Custody
import GridAgent.Proofs.Cluster.Deeds
import GridAgent.Proofs.Cluster.Effect
import GridAgent.Proofs.Cluster.Executions
import GridAgent.Proofs.Cluster.Heirs
import GridAgent.Proofs.Cluster.Heritage
import GridAgent.Proofs.Cluster.Holding
import GridAgent.Proofs.Cluster.Lineages
import GridAgent.Proofs.Cluster.Lodgings
import GridAgent.Proofs.Cluster.Looks
import GridAgent.Proofs.Cluster.Needs
import GridAgent.Proofs.Cluster.Neighbours
import GridAgent.Proofs.Cluster.Operation
import GridAgent.Proofs.Cluster.Promises
import GridAgent.Proofs.Cluster.Releases
import GridAgent.Proofs.Cluster.Reliability
import GridAgent.Proofs.Cluster.Repairs
import GridAgent.Proofs.Cluster.Results
import GridAgent.Proofs.Cluster.Revisions
import GridAgent.Proofs.Cluster.Run
import GridAgent.Proofs.Cluster.Settlements
import GridAgent.Proofs.Cluster.Silence
import GridAgent.Proofs.Cluster.Solo
import GridAgent.Proofs.Cluster.Soundness
import GridAgent.Proofs.Cluster.Stand
import GridAgent.Proofs.Cluster.Stops
import GridAgent.Proofs.Cluster.Succession
import GridAgent.Proofs.Cluster.Supply
import GridAgent.Proofs.Cluster.Terms
import GridAgent.Proofs.Cluster.Tolerance
import GridAgent.Proofs.Cluster.Turns
import GridAgent.Proofs.Cluster.Writers
import GridAgent.Proofs.Coherence
import GridAgent.Proofs.Completion
import GridAgent.Proofs.Contest
import GridAgent.Proofs.Deadline
import GridAgent.Proofs.Delivery
import GridAgent.Proofs.Exclusivity
import GridAgent.Proofs.Finalizer.Desk
import GridAgent.Proofs.Handler.Acquiring
import GridAgent.Proofs.Handler.Attempt
import GridAgent.Proofs.Handler.Bench
import GridAgent.Proofs.Handler.Bidding
import GridAgent.Proofs.Handler.Calls
import GridAgent.Proofs.Handler.Course
import GridAgent.Proofs.Handler.Deadline
import GridAgent.Proofs.Handler.Docket
import GridAgent.Proofs.Handler.Errands
import GridAgent.Proofs.Handler.Executing
import GridAgent.Proofs.Handler.Handling
import GridAgent.Proofs.Handler.Kinship
import GridAgent.Proofs.Handler.Length
import GridAgent.Proofs.Handler.Lodging
import GridAgent.Proofs.Handler.Looking
import GridAgent.Proofs.Handler.Persisting
import GridAgent.Proofs.Handler.Redelivery
import GridAgent.Proofs.Handler.Repair
import GridAgent.Proofs.Handler.Rounds
import GridAgent.Proofs.Handler.Routine
import GridAgent.Proofs.Handler.Settling
import GridAgent.Proofs.Handler.Succession
import GridAgent.Proofs.Handler.Terms
import GridAgent.Proofs.Handler.Track
import GridAgent.Proofs.Handler.Undisturbed
import GridAgent.Proofs.Health.Budget
import GridAgent.Proofs.Health.History
import GridAgent.Proofs.Inputs
import GridAgent.Proofs.Interference
import GridAgent.Proofs.Isolation
import GridAgent.Proofs.Latch
import GridAgent.Proofs.Lifecycle
import GridAgent.Proofs.Lineage
import GridAgent.Proofs.Loop.Books
import GridAgent.Proofs.Loop.Custody
import GridAgent.Proofs.Loop.Station
import GridAgent.Proofs.Options
import GridAgent.Proofs.Ownership
import GridAgent.Proofs.Program.Conduct
import GridAgent.Proofs.Program.Length
import GridAgent.Proofs.Program.Respondent
import GridAgent.Proofs.Promotion
import GridAgent.Proofs.Queue.Balance
import GridAgent.Proofs.Queue.Conservation
import GridAgent.Proofs.Queue.Messages
import GridAgent.Proofs.Recovery
import GridAgent.Proofs.Redelivery
import GridAgent.Proofs.Resets
import GridAgent.Proofs.Results
import GridAgent.Proofs.Retries
import GridAgent.Proofs.Settlement
import GridAgent.Proofs.Simulation.Interleaving
import GridAgent.Proofs.Simulation.Scripts
import GridAgent.Proofs.Simulation.Wiring
import GridAgent.Proofs.Status
import GridAgent.Proofs.Stopping
import GridAgent.Proofs.Store.Arrivals
import GridAgent.Proofs.Store.Chain
import GridAgent.Proofs.Store.Edges
import GridAgent.Proofs.Store.Fallout
import GridAgent.Proofs.Store.Needs
import GridAgent.Proofs.Store.Records
import GridAgent.Proofs.Store.Settling
import GridAgent.Proofs.Store.Supply
import GridAgent.Proofs.Store.Trails
import GridAgent.Proofs.Store.Visits
import GridAgent.Proofs.Store.Waiting
import GridAgent.Proofs.Successor
import GridAgent.Proofs.Table
import GridAgent.Proofs.Terms
import GridAgent.Proofs.Tolerance
import GridAgent.Proofs.Wakeup
import GridAgent.Queue
import GridAgent.Queue.Pull
import GridAgent.Scratch
import GridAgent.Session
import GridAgent.Settings
import GridAgent.Simulation.Answer
import GridAgent.Simulation.Calls
import GridAgent.Simulation.LoopCalls
import GridAgent.Simulation.PlainStep
import GridAgent.Simulation.Scenario
import GridAgent.Simulation.Scheduler
import GridAgent.Simulation.Step
import GridAgent.Simulation.Thread
import GridAgent.Simulation.Token
import GridAgent.Simulation.World
import GridAgent.Status
import GridAgent.Store
import GridAgent.Store.Dependencies
import GridAgent.Table
import GridAgent.Task.Draft
import GridAgent.Task.Lineage
import GridAgent.Task.Options
import GridAgent.Task.Record
import GridAgent.Text.Base32
import GridAgent.Text.Blank
import GridAgent.Text.Dictionary
import GridAgent.Text.Digits
import GridAgent.Text.Printable
import GridAgent.Text.Quoted
import GridAgent.Time.Calendar
import GridAgent.Time.Date
import GridAgent.Time.Timestamp
import GridAgent.Toml.Document
import GridAgent.Toml.Moment
import GridAgent.Toml.Number
import GridAgent.Toml.Reader
import GridAgent.Toml.Text
import GridAgent.Toml.Value
import GridAgent.Worker
