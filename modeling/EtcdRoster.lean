import EtcdRoster.Backoff.Conflict
import EtcdRoster.Backoff.Exponential
import EtcdRoster.Backoff.Policy
import EtcdRoster.Cluster.ApiError
import EtcdRoster.Cluster.Cache
import EtcdRoster.Cluster.Client
import EtcdRoster.Cluster.Recorder
import EtcdRoster.Cluster.Server
import EtcdRoster.Cluster.Site
import EtcdRoster.Cluster.Status
import EtcdRoster.Cluster.Target
import EtcdRoster.Controller.Basic
import EtcdRoster.Controller.Watch
import EtcdRoster.Controller.Worker
import EtcdRoster.Data.Dict
import EtcdRoster.Data.Entries
import EtcdRoster.Data.Except
import EtcdRoster.Data.Sorting
import EtcdRoster.Dialogue
import EtcdRoster.Dns.Label
import EtcdRoster.Dns.Member
import EtcdRoster.Dns.Name
import EtcdRoster.Dns.Reserved
import EtcdRoster.Dns.Zone
import EtcdRoster.Duration
import EtcdRoster.Ip.Basic
import EtcdRoster.Ip.Text
import EtcdRoster.Json.Basic
import EtcdRoster.Json.Decoder
import EtcdRoster.Json.Document
import EtcdRoster.Json.MergePatch
import EtcdRoster.Json.Parser
import EtcdRoster.Json.Printer
import EtcdRoster.Json.Token
import EtcdRoster.Main
import EtcdRoster.Metrics.Exposition
import EtcdRoster.Metrics.Registry
import EtcdRoster.Metrics.Server
import EtcdRoster.Names
import EtcdRoster.Number.Binary64
import EtcdRoster.Number.Decimal
import EtcdRoster.Number.Shortest
import EtcdRoster.Object.Condition
import EtcdRoster.Object.Config
import EtcdRoster.Object.Endpoints
import EtcdRoster.Object.Etcd
import EtcdRoster.Object.Family
import EtcdRoster.Object.Meta
import EtcdRoster.Object.Node
import EtcdRoster.Object.Resource
import EtcdRoster.Object.Timestamp
import EtcdRoster.Proofs.Backoff.Attempts
import EtcdRoster.Proofs.Backoff.Ceilings
import EtcdRoster.Proofs.Backoff.Entries
import EtcdRoster.Proofs.Backoff.Independence
import EtcdRoster.Proofs.Backoff.Intervals
import EtcdRoster.Proofs.Backoff.Keyed
import EtcdRoster.Proofs.Backoff.Retrying
import EtcdRoster.Proofs.Cluster.Operator
import EtcdRoster.Proofs.Conditions
import EtcdRoster.Proofs.Conditions.History
import EtcdRoster.Proofs.Conditions.Latest
import EtcdRoster.Proofs.Conditions.Merging
import EtcdRoster.Proofs.Conditions.Sameness
import EtcdRoster.Proofs.Controller.Courses
import EtcdRoster.Proofs.Controller.Moves
import EtcdRoster.Proofs.Desired.Addresses
import EtcdRoster.Proofs.Desired.Exactness
import EtcdRoster.Proofs.Desired.NameOrder
import EtcdRoster.Proofs.Desired.Roll
import EtcdRoster.Proofs.Desired.TrailingDots
import EtcdRoster.Proofs.Dialogue.Holding
import EtcdRoster.Proofs.Dialogue.Recording
import EtcdRoster.Proofs.Difference.Fixpoint
import EtcdRoster.Proofs.Difference.Likeness
import EtcdRoster.Proofs.Difference.Metadata
import EtcdRoster.Proofs.Difference.Patch
import EtcdRoster.Proofs.Difference.Requests
import EtcdRoster.Proofs.Difference.Subsets
import EtcdRoster.Proofs.Digits
import EtcdRoster.Proofs.Dns.Lookups
import EtcdRoster.Proofs.Dns.Member
import EtcdRoster.Proofs.Dns.Search
import EtcdRoster.Proofs.Json.Describable
import EtcdRoster.Proofs.Json.Lexing
import EtcdRoster.Proofs.Json.MergePatch
import EtcdRoster.Proofs.Json.Parsing
import EtcdRoster.Proofs.Json.Reading
import EtcdRoster.Proofs.Membership
import EtcdRoster.Proofs.Metrics.Counting
import EtcdRoster.Proofs.Number.Rounding
import EtcdRoster.Proofs.Number.Seconds
import EtcdRoster.Proofs.Object.Documents
import EtcdRoster.Proofs.Object.Rereading
import EtcdRoster.Proofs.Queue.Consistency
import EtcdRoster.Proofs.Queue.Crew
import EtcdRoster.Proofs.Queue.Exclusion
import EtcdRoster.Proofs.Queue.Losses
import EtcdRoster.Proofs.Queue.Notifier
import EtcdRoster.Proofs.Queue.Persistence
import EtcdRoster.Proofs.Queue.Wakeups
import EtcdRoster.Proofs.Reconcile.Books
import EtcdRoster.Proofs.Reconcile.Failures
import EtcdRoster.Proofs.Reconcile.Stages
import EtcdRoster.Proofs.Rehearsal.Accounts
import EtcdRoster.Proofs.Rehearsal.Alone
import EtcdRoster.Proofs.Rehearsal.Atomicity
import EtcdRoster.Proofs.Rehearsal.Bootstrap
import EtcdRoster.Proofs.Rehearsal.Circumstances
import EtcdRoster.Proofs.Rehearsal.Contest
import EtcdRoster.Proofs.Rehearsal.Convergence
import EtcdRoster.Proofs.Rehearsal.Idempotence
import EtcdRoster.Proofs.Rehearsal.Interference
import EtcdRoster.Proofs.Rehearsal.Ports
import EtcdRoster.Proofs.Rehearsal.Records
import EtcdRoster.Proofs.Rehearsal.Reporting
import EtcdRoster.Proofs.Rehearsal.Runs
import EtcdRoster.Proofs.Rehearsal.Telling
import EtcdRoster.Proofs.Rehearsal.Verdict
import EtcdRoster.Proofs.Reordering
import EtcdRoster.Proofs.Stability
import EtcdRoster.Proofs.Text.Boundaries
import EtcdRoster.Queue.Basic
import EtcdRoster.Queue.Delayed
import EtcdRoster.Queue.Session
import EtcdRoster.Reconcile.Apply
import EtcdRoster.Reconcile.Collaborator
import EtcdRoster.Reconcile.Conditions
import EtcdRoster.Reconcile.Desired
import EtcdRoster.Reconcile.Difference
import EtcdRoster.Reconcile.Report
import EtcdRoster.Reconcile.Sync
import EtcdRoster.Rehearsal.Cast
import EtcdRoster.Rehearsal.Stage
import EtcdRoster.Rehearsal.World
import EtcdRoster.Settings.Arguments
import EtcdRoster.Settings.Basic
import EtcdRoster.Settings.Filter
import EtcdRoster.Settings.Launch
import EtcdRoster.Settings.Logging
import EtcdRoster.SyncError
import EtcdRoster.Text.Alphabetic
import EtcdRoster.Text.Bytes
import EtcdRoster.Text.Digits
import EtcdRoster.Text.Insertions
import EtcdRoster.Text.Numeric
import EtcdRoster.Text.Pattern
import EtcdRoster.Text.Quoted
import EtcdRoster.Text.Ranges
import EtcdRoster.Text.Split
import EtcdRoster.Text.Unprintable
