import TokenPersistence.Access
import TokenPersistence.Adapter
import TokenPersistence.Bytes
import TokenPersistence.Cipher.Block
import TokenPersistence.Cipher.SealedPayload
import TokenPersistence.Cipher.Sealing
import TokenPersistence.Config.Lexical
import TokenPersistence.Config.Number
import TokenPersistence.Config.Options
import TokenPersistence.Config.Record
import TokenPersistence.Config.Skipping
import TokenPersistence.Config.Times
import TokenPersistence.Context
import TokenPersistence.Descriptions
import TokenPersistence.Failure
import TokenPersistence.Hints
import TokenPersistence.Hook
import TokenPersistence.HookKind
import TokenPersistence.Journal
import TokenPersistence.Key
import TokenPersistence.Memory.ByteCache
import TokenPersistence.Memory.Residents
import TokenPersistence.Memory.Store
import TokenPersistence.Number.Binary64
import TokenPersistence.Number.Layout
import TokenPersistence.Number.Seconds
import TokenPersistence.Number.Shortest
import TokenPersistence.Panic
import TokenPersistence.Proofs.Access.LiveHints
import TokenPersistence.Proofs.Adapter.Clearing
import TokenPersistence.Proofs.Adapter.Closure
import TokenPersistence.Proofs.Adapter.Containment
import TokenPersistence.Proofs.Adapter.Hooks
import TokenPersistence.Proofs.Adapter.Isolation
import TokenPersistence.Proofs.Adapter.Ledger
import TokenPersistence.Proofs.Adapter.Loading
import TokenPersistence.Proofs.Adapter.Masking
import TokenPersistence.Proofs.Adapter.Outage
import TokenPersistence.Proofs.Adapter.PersistSteps
import TokenPersistence.Proofs.Adapter.Persistence
import TokenPersistence.Proofs.Adapter.Release
import TokenPersistence.Proofs.Adapter.SingleChange
import TokenPersistence.Proofs.Adapter.Tenancy
import TokenPersistence.Proofs.Adapter.Watched
import TokenPersistence.Proofs.Cipher.Acceptance
import TokenPersistence.Proofs.Cipher.Keystream
import TokenPersistence.Proofs.Config.Amounts
import TokenPersistence.Proofs.Config.Grammar
import TokenPersistence.Proofs.Config.Listings
import TokenPersistence.Proofs.Config.RoundTrip
import TokenPersistence.Proofs.Config.Spellings
import TokenPersistence.Proofs.Config.Takes
import TokenPersistence.Proofs.Memory.Blanks
import TokenPersistence.Proofs.Memory.Capacity
import TokenPersistence.Proofs.Memory.Deadlines
import TokenPersistence.Proofs.Memory.Losses
import TokenPersistence.Proofs.Number.Overflow
import TokenPersistence.Proofs.Number.Rounding
import TokenPersistence.Proofs.Number.Scaling
import TokenPersistence.Proofs.Rehearsal.Cells
import TokenPersistence.Proofs.Rehearsal.Histories
import TokenPersistence.Proofs.Rehearsal.OverlapBench
import TokenPersistence.Proofs.Rehearsal.Replays
import TokenPersistence.Proofs.Rehearsal.StoreBench
import TokenPersistence.Proofs.Rehearsal.TieredBench
import TokenPersistence.Proofs.Routine.Closed
import TokenPersistence.Proofs.Routine.Company
import TokenPersistence.Proofs.Routine.Handlers
import TokenPersistence.Proofs.Routine.Leaves
import TokenPersistence.Proofs.Routine.Likeness
import TokenPersistence.Proofs.Routine.Notes
import TokenPersistence.Proofs.Routine.Polls
import TokenPersistence.Proofs.Routine.Races
import TokenPersistence.Proofs.Routine.Returns
import TokenPersistence.Proofs.Routine.Silence
import TokenPersistence.Proofs.Routine.Tells
import TokenPersistence.Proofs.Routine.Timing
import TokenPersistence.Proofs.Routine.Twins
import TokenPersistence.Proofs.Routine.Within
import TokenPersistence.Proofs.Store.Blindness
import TokenPersistence.Proofs.Store.Cancellation
import TokenPersistence.Proofs.Store.Hits
import TokenPersistence.Proofs.Store.Sessions
import TokenPersistence.Proofs.Store.Sinks
import TokenPersistence.Proofs.Store.Tasks
import TokenPersistence.Proofs.Tiered.Agreement
import TokenPersistence.Proofs.Tiered.Attempts
import TokenPersistence.Proofs.Tiered.BackgroundWrites
import TokenPersistence.Proofs.Tiered.Backing
import TokenPersistence.Proofs.Tiered.Building
import TokenPersistence.Proofs.Tiered.Calls
import TokenPersistence.Proofs.Tiered.Coherence
import TokenPersistence.Proofs.Tiered.Conduct
import TokenPersistence.Proofs.Tiered.Copies
import TokenPersistence.Proofs.Tiered.Exchanges
import TokenPersistence.Proofs.Tiered.Fleet
import TokenPersistence.Proofs.Tiered.Levels
import TokenPersistence.Proofs.Tiered.Lifetimes
import TokenPersistence.Proofs.Tiered.Order
import TokenPersistence.Proofs.Tiered.Overlap
import TokenPersistence.Proofs.Tiered.Provenance
import TokenPersistence.Proofs.Tiered.Staleness
import TokenPersistence.Proofs.Tiered.Tally
import TokenPersistence.Proofs.Tiered.Traffic
import TokenPersistence.Proofs.Tiered.Transparency
import TokenPersistence.Proofs.Tiered.Work
import TokenPersistence.Protector
import TokenPersistence.Rehearsal.Bench
import TokenPersistence.Rehearsal.CacheDrill
import TokenPersistence.Rehearsal.HookDrill
import TokenPersistence.Rehearsal.Inspection
import TokenPersistence.Rehearsal.Node
import TokenPersistence.Rehearsal.Parts
import TokenPersistence.Rehearsal.Portrait
import TokenPersistence.Rehearsal.ProtectorDrill
import TokenPersistence.Rehearsal.Race
import TokenPersistence.Rehearsal.RecordDescriptions
import TokenPersistence.Rehearsal.RecordingCache
import TokenPersistence.Rehearsal.RecordingCollection
import TokenPersistence.Rehearsal.RecordingStore
import TokenPersistence.Rehearsal.Scenario
import TokenPersistence.Rehearsal.ScriptedCache
import TokenPersistence.Rehearsal.SealingDrill
import TokenPersistence.Rehearsal.Stopwatch
import TokenPersistence.Routine.Basic
import TokenPersistence.Routine.Run
import TokenPersistence.SafeWiring
import TokenPersistence.Store
import TokenPersistence.Table
import TokenPersistence.Text.Description
import TokenPersistence.Text.Invisible
import TokenPersistence.Text.LogLine
import TokenPersistence.Text.Search
import TokenPersistence.Tiered.Options
import TokenPersistence.Tiered.SharedCache
import TokenPersistence.Tiered.Store
import TokenPersistence.Time
import TokenPersistence.Timed
