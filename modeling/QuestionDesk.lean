import QuestionDesk.Cache.Dedup
import QuestionDesk.Cache.Entry
import QuestionDesk.Cache.Store
import QuestionDesk.Clock
import QuestionDesk.Database.Basic
import QuestionDesk.Database.Popularity
import QuestionDesk.Database.Questions
import QuestionDesk.Database.Records
import QuestionDesk.Decimal.Digits
import QuestionDesk.Decimal.Double
import QuestionDesk.Decimal.Number
import QuestionDesk.Decimal.Shortest
import QuestionDesk.Decimal.Spelling
import QuestionDesk.Desk.Action
import QuestionDesk.Desk.Basic
import QuestionDesk.Desk.Calls
import QuestionDesk.Desk.Reading
import QuestionDesk.Failure
import QuestionDesk.Fingerprint
import QuestionDesk.Jobs.Board
import QuestionDesk.Jobs.Job
import QuestionDesk.Json.Reader
import QuestionDesk.Json.Writer
import QuestionDesk.Keyed
import QuestionDesk.Pipeline.Log
import QuestionDesk.Pipeline.Run
import QuestionDesk.Pipeline.Turns
import QuestionDesk.Plan.Basic
import QuestionDesk.Plan.Document
import QuestionDesk.Plan.Reader
import QuestionDesk.Plan.Safety
import QuestionDesk.Promotion
import QuestionDesk.Proofs.Cache.Answers
import QuestionDesk.Proofs.Cache.Maps
import QuestionDesk.Proofs.Cache.Prompts
import QuestionDesk.Proofs.Database.Effects
import QuestionDesk.Proofs.Database.Integrity
import QuestionDesk.Proofs.Database.Ledger
import QuestionDesk.Proofs.Database.Operations
import QuestionDesk.Proofs.Database.Promotions
import QuestionDesk.Proofs.Database.Refusals
import QuestionDesk.Proofs.Database.Requests
import QuestionDesk.Proofs.Decimal.Digits
import QuestionDesk.Proofs.Decimal.Double
import QuestionDesk.Proofs.Decimal.Numeral
import QuestionDesk.Proofs.Decimal.Order
import QuestionDesk.Proofs.Decimal.Shortest
import QuestionDesk.Proofs.Desk.Addresses
import QuestionDesk.Proofs.Desk.Agreement
import QuestionDesk.Proofs.Desk.Asking
import QuestionDesk.Proofs.Desk.Attempts
import QuestionDesk.Proofs.Desk.Breakdowns
import QuestionDesk.Proofs.Desk.Chronicles
import QuestionDesk.Proofs.Desk.Courses
import QuestionDesk.Proofs.Desk.Developments
import QuestionDesk.Proofs.Desk.Endings
import QuestionDesk.Proofs.Desk.Failures
import QuestionDesk.Proofs.Desk.Fidelity
import QuestionDesk.Proofs.Desk.Frames
import QuestionDesk.Proofs.Desk.History
import QuestionDesk.Proofs.Desk.Keys
import QuestionDesk.Proofs.Desk.Knowledge
import QuestionDesk.Proofs.Desk.Latches
import QuestionDesk.Proofs.Desk.Listeners
import QuestionDesk.Proofs.Desk.Matters
import QuestionDesk.Proofs.Desk.Mishaps
import QuestionDesk.Proofs.Desk.Moves
import QuestionDesk.Proofs.Desk.Muting
import QuestionDesk.Proofs.Desk.Once
import QuestionDesk.Proofs.Desk.Order
import QuestionDesk.Proofs.Desk.Origin
import QuestionDesk.Proofs.Desk.Passage
import QuestionDesk.Proofs.Desk.Plays
import QuestionDesk.Proofs.Desk.Pointing
import QuestionDesk.Proofs.Desk.Pushes
import QuestionDesk.Proofs.Desk.Readings
import QuestionDesk.Proofs.Desk.Reasons
import QuestionDesk.Proofs.Desk.Requests
import QuestionDesk.Proofs.Desk.Retention
import QuestionDesk.Proofs.Desk.Runs
import QuestionDesk.Proofs.Desk.Scheduled
import QuestionDesk.Proofs.Desk.Seclusion
import QuestionDesk.Proofs.Desk.Settling
import QuestionDesk.Proofs.Desk.Sharing
import QuestionDesk.Proofs.Desk.Sources
import QuestionDesk.Proofs.Desk.Subscribers
import QuestionDesk.Proofs.Desk.Tallies
import QuestionDesk.Proofs.Desk.Tellings
import QuestionDesk.Proofs.Desk.Verdicts
import QuestionDesk.Proofs.Desk.Visits
import QuestionDesk.Proofs.Desk.Watching
import QuestionDesk.Proofs.Desk.Works
import QuestionDesk.Proofs.Jobs.Advance
import QuestionDesk.Proofs.Jobs.Announcements
import QuestionDesk.Proofs.Jobs.Board
import QuestionDesk.Proofs.Jobs.Chronicle
import QuestionDesk.Proofs.Jobs.Effects
import QuestionDesk.Proofs.Jobs.Endurance
import QuestionDesk.Proofs.Jobs.Expiry
import QuestionDesk.Proofs.Jobs.Handlers
import QuestionDesk.Proofs.Jobs.Lanes
import QuestionDesk.Proofs.Jobs.Lasting
import QuestionDesk.Proofs.Jobs.Line
import QuestionDesk.Proofs.Jobs.Lives
import QuestionDesk.Proofs.Jobs.Masks
import QuestionDesk.Proofs.Jobs.Outcomes
import QuestionDesk.Proofs.Jobs.Search
import QuestionDesk.Proofs.Jobs.Service
import QuestionDesk.Proofs.Jobs.Soundness
import QuestionDesk.Proofs.Jobs.Staff
import QuestionDesk.Proofs.Json.Grammar
import QuestionDesk.Proofs.Json.Numbers
import QuestionDesk.Proofs.Json.Printable
import QuestionDesk.Proofs.Json.RoundTrip
import QuestionDesk.Proofs.Json.Sending
import QuestionDesk.Proofs.Json.Texts
import QuestionDesk.Proofs.Pipeline.Accounts
import QuestionDesk.Proofs.Pipeline.Compilation
import QuestionDesk.Proofs.Pipeline.Latches
import QuestionDesk.Proofs.Pipeline.Logs
import QuestionDesk.Proofs.Pipeline.Muting
import QuestionDesk.Proofs.Pipeline.Scripts
import QuestionDesk.Proofs.Plan.Bounds
import QuestionDesk.Proofs.Plan.Grammar
import QuestionDesk.Proofs.Plan.Paths
import QuestionDesk.Proofs.Plan.Reader
import QuestionDesk.Proofs.Plan.Shards
import QuestionDesk.Proofs.Plan.Stalls
import QuestionDesk.Proofs.Promotion.Loops
import QuestionDesk.Proofs.Promotion.Pace
import QuestionDesk.Proofs.Push.Frames
import QuestionDesk.Proofs.Push.Lines
import QuestionDesk.Proofs.Push.Registrations
import QuestionDesk.Proofs.Push.Streams
import QuestionDesk.Proofs.Remote.Answers
import QuestionDesk.Proofs.Remote.Outcomes
import QuestionDesk.Proofs.Schema.Check
import QuestionDesk.Proofs.Sql.Faults
import QuestionDesk.Proofs.Sql.Grammar
import QuestionDesk.Proofs.Sql.Limit
import QuestionDesk.Proofs.Sql.Literals
import QuestionDesk.Proofs.Sql.Quoting
import QuestionDesk.Proofs.Sql.ReadBack
import QuestionDesk.Proofs.Sql.Tokens
import QuestionDesk.Proofs.Text.Halves
import QuestionDesk.Proofs.Text.Letters
import QuestionDesk.Proofs.Text.Trimming
import QuestionDesk.Proofs.Web.Discretion
import QuestionDesk.Push.Channel
import QuestionDesk.Push.Relay
import QuestionDesk.Push.State
import QuestionDesk.Remote.Exchange
import QuestionDesk.Remote.Executor
import QuestionDesk.Remote.Planner
import QuestionDesk.Schema.Check
import QuestionDesk.Schema.Convert
import QuestionDesk.Schema.Issue
import QuestionDesk.Settings
import QuestionDesk.Simulation.Promotions
import QuestionDesk.Simulation.Rehearsal
import QuestionDesk.Simulation.Session
import QuestionDesk.Simulation.Timeline
import QuestionDesk.Simulation.Workshop
import QuestionDesk.Sql.Condition
import QuestionDesk.Sql.Literal
import QuestionDesk.Sql.Statement
import QuestionDesk.Text.Blank
import QuestionDesk.Text.Digest
import QuestionDesk.Text.Half
import QuestionDesk.Text.Join
import QuestionDesk.Text.Letter.Table
import QuestionDesk.Text.Lowercase
import QuestionDesk.Value
import QuestionDesk.Web.Page
import QuestionDesk.Web.Record
