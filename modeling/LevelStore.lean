import LevelStore.Main
import LevelStore.Proofs.Soundness.Runs
import LevelStore.Proofs.Levels.Refusal
import LevelStore.Proofs.Levels.Persistence
import LevelStore.Proofs.Levels.Head
import LevelStore.Proofs.CommandLine.Status
import LevelStore.Proofs.Setup.Counter
import LevelStore.Proofs.Sessions.Atomic
import LevelStore.Proofs.Setup.Preservation
import LevelStore.Proofs.Setup.Indexes
import LevelStore.Proofs.Setup.Restart
import LevelStore.Proofs.Setup.Repetition
import LevelStore.Proofs.Levels.Selection
import LevelStore.Proofs.Levels.Paging
import LevelStore.Proofs.Connection.Failures
import LevelStore.Proofs.Levels.Agreement
import LevelStore.Proofs.CommandLine.Rejection
import LevelStore.Proofs.Levels.Deletion
import LevelStore.Proofs.Levels.Series
import LevelStore.Proofs.Levels.Content
import LevelStore.Proofs.Levels.Order
import LevelStore.Proofs.Engine.ConfiguredPath
import LevelStore.Proofs.Levels.Writers
import LevelStore.Proofs.Levels.HeadLookup
import LevelStore.Proofs.Records.Models
import LevelStore.Proofs.Levels.Backends
import LevelStore.Proofs.Json.RoundTrip
import LevelStore.Proofs.CommandLine.Summary
import LevelStore.Proofs.Engine.Directories
import LevelStore.Proofs.Engine.Security
import LevelStore.Proofs.Settings.Cache
