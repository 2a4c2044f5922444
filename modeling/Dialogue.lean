import Dialogue.Text.Blank
import Dialogue.Text.Letters
import Dialogue.Text.Quoted
import Dialogue.Decimal.Power
import Dialogue.Decimal.Layout
import Dialogue.Decimal.Reader
import Dialogue.Json.Document
import Dialogue.Json.Decoder
import Dialogue.Json.Position
import Dialogue.Value
import Dialogue.Instant.Written
import Dialogue.Identifier
import Dialogue.Template
import Dialogue.Condition
import Dialogue.Flow
import Dialogue.Failure
import Dialogue.Run.Suspension
import Dialogue.Run.History
import Dialogue.Run.Basic
import Dialogue.Run.Stored
import Dialogue.Error
import Dialogue.Message
import Dialogue.Event
import Dialogue.Settings
import Dialogue.Behaviour.Basic
import Dialogue.Behaviour.Config
import Dialogue.Registry
import Dialogue.Graph
import Dialogue.Permits
import Dialogue.Timers
import Dialogue.Locks
import Dialogue.Interaction
import Dialogue.Step.Basic
import Dialogue.Step.Content
import Dialogue.Step.Menu
import Dialogue.Step.Subflow
import Dialogue.Step.Behaviour
import Dialogue.Drive
import Dialogue.Engine.Request
import Dialogue.Engine.Operation
import Dialogue.Catalog
import Dialogue.Store
import Dialogue.World
import Dialogue.Session
import Dialogue.Rehearsal
import Dialogue.Observer
import Dialogue.Files
import Dialogue.Folder
import Dialogue.Console.Basic
import Dialogue.Console.Parameter
import Dialogue.Console.Command
import Dialogue.Console.Report
import Dialogue.Console.Play
import Dialogue.Console.Example
import Dialogue.Console.Performance
import Dialogue.Console.Terminal
import Dialogue.Main
import Dialogue.Tasks
import Dialogue.Proofs.Basic
import Dialogue.Proofs.Fields
import Dialogue.Proofs.Interaction
import Dialogue.Proofs.World.Acting
import Dialogue.Proofs.Step.Visit
import Dialogue.Proofs.Drive.Course
import Dialogue.Proofs.Engine.Undisturbed
import Dialogue.Proofs.Engine.Effect
import Dialogue.Proofs.Engine.Smooth
import Dialogue.Proofs.Engine.Order
import Dialogue.Proofs.Drive.Shape
import Dialogue.Proofs.Drive.Part
import Dialogue.Proofs.Engine.Shape
import Dialogue.Proofs.Engine.Token
import Dialogue.Proofs.Drive.Variables
import Dialogue.Proofs.Step.Nested
import Dialogue.Proofs.Engine.Variables
import Dialogue.Proofs.Delay.Alike
import Dialogue.Proofs.Delay.Twin
import Dialogue.Proofs.Delay.InTime
import Dialogue.Proofs.Delay.Simulation
import Dialogue.Proofs.Decoding
import Dialogue.Proofs.Delay.Loading
import Dialogue.Proofs.Engine.Conversation
import Dialogue.Proofs.Delay.Conversation
import Dialogue.Proofs.Run.History
import Dialogue.Proofs.World.Telling
import Dialogue.Proofs.Step.Effect
import Dialogue.Proofs.Step.Failure
import Dialogue.Proofs.Graph.Loading
import Dialogue.Proofs.Graph.Paths
import Dialogue.Proofs.Graph.Acceptance
import Dialogue.Proofs.Drive.Steps
import Dialogue.Proofs.Drive.Writes
import Dialogue.Proofs.Drive.Path
import Dialogue.Proofs.Engine.Flows
import Dialogue.Proofs.Engine.Numbering
import Dialogue.Proofs.Engine.Writes
import Dialogue.Proofs.Engine.Path
import Dialogue.Proofs.World.Tale
import Dialogue.Proofs.Drive.Story
import Dialogue.Proofs.Drive.Recounting
import Dialogue.Proofs.Engine.Story
import Dialogue.Proofs.Engine.Opening
import Dialogue.Proofs.Engine.Ended
import Dialogue.Proofs.Timers
import Dialogue.Proofs.Permits
import Dialogue.Proofs.Engine.Change
import Dialogue.Proofs.Engine.Watch
import Dialogue.Proofs.Engine.Serving
import Dialogue.Proofs.Engine.Yields
import Dialogue.Proofs.Engine.Refusal
import Dialogue.Proofs.Engine.Transcript
import Dialogue.Proofs.Engine.Errand
import Dialogue.Proofs.Engine.Traffic
import Dialogue.Proofs.Engine.Contention
import Dialogue.Proofs.Engine.Exclusion
import Dialogue.Proofs.Engine.Turns
import Dialogue.Proofs.Engine.Serialization
import Dialogue.Proofs.Drive.Internal
import Dialogue.Proofs.Drive.Payload
import Dialogue.Proofs.Drive.Collapse
import Dialogue.Proofs.Engine.Drives
import Dialogue.Proofs.Engine.Steady
import Dialogue.Proofs.Engine.Internal
import Dialogue.Proofs.Engine.Payload
import Dialogue.Proofs.Engine.Collapse
import Dialogue.Proofs.Condition
import Dialogue.Proofs.Drive.Endings
import Dialogue.Proofs.Engine.Endings
import Dialogue.Proofs.Engine.Chronicle
import Dialogue.Proofs.Stored.Forms
import Dialogue.Proofs.Engine.Commuting
import Dialogue.Proofs.Engine.Overdue
import Dialogue.Proofs.Step.Answer
import Dialogue.Proofs.World.Asking
import Dialogue.Proofs.Drive.Sequence
import Dialogue.Proofs.Run.Traces
import Dialogue.Proofs.Step.Asking
import Dialogue.Proofs.Drive.Asking
import Dialogue.Proofs.Drive.Traces
import Dialogue.Proofs.Engine.Traces
import Dialogue.Proofs.Graph.Reachability
import Dialogue.Proofs.Locks.Table
import Dialogue.Proofs.Locks.Exclusion
import Dialogue.Proofs.Drive.Budget
import Dialogue.Proofs.Instant
import Dialogue.Proofs.Step.Deadlines
import Dialogue.Proofs.Catalog
import Dialogue.Proofs.Engine.Catalog
import Dialogue.Proofs.Tasks.Table
import Dialogue.Proofs.Tasks.Notices
import Dialogue.Proofs.Drive.Keeping
import Dialogue.Proofs.Drive.Verbatim
import Dialogue.Proofs.Engine.Verbatim
