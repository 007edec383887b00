import EntityStore.Application
import EntityStore.Binary64
import EntityStore.Binary64.Shortest
import EntityStore.Column
import EntityStore.CommandLine.Arguments
import EntityStore.CommandLine.Execution
import EntityStore.CommandLine.Invocation
import EntityStore.Config.Properties
import EntityStore.Config.Settings
import EntityStore.Connection
import EntityStore.Context
import EntityStore.Database
import EntityStore.Deployment
import EntityStore.Deployment.Connections
import EntityStore.Deployment.Contexts
import EntityStore.Entity.Catalog
import EntityStore.Entity.Mapping
import EntityStore.Entity.RowReader
import EntityStore.Entity.Type
import EntityStore.Fault
import EntityStore.FileTree
import EntityStore.Key.Strategy
import EntityStore.Key.Uuid
import EntityStore.KeyMap
import EntityStore.Main
import EntityStore.MessagePack
import EntityStore.MessagePack.Record
import EntityStore.Model
import EntityStore.Pool
import EntityStore.Proofs.Checks
import EntityStore.Proofs.KeyMapLaws
import EntityStore.Query.Criteria
import EntityStore.Query.Like
import EntityStore.Query.Restriction
import EntityStore.Query.Selection
import EntityStore.Query.Truth
import EntityStore.Registry
import EntityStore.Report.Json
import EntityStore.Report.TextTable
import EntityStore.Snapshot
import EntityStore.Storage
import EntityStore.Table
import EntityStore.Text.Alphanumeric
import EntityStore.Text.Blank
import EntityStore.Text.Bytes
import EntityStore.Text.CaseFold
import EntityStore.Text.Positional
import EntityStore.Timestamp
import EntityStore.Value
import EntityStore.Proofs.TableContents
import EntityStore.Proofs.Writes
import EntityStore.Proofs.MessagePackRoundTrip
import EntityStore.Proofs.SnapshotRoundTrip
import EntityStore.Proofs.UndoLog
import EntityStore.Proofs.Reopening
import EntityStore.Proofs.Reachability
import EntityStore.Proofs.StoreInvariant
import EntityStore.Proofs.BatchSemantics
import EntityStore.Proofs.ReferentialIntegrity
import EntityStore.Proofs.Resolution
import EntityStore.Proofs.TransactionView
import EntityStore.Proofs.Autocommit
import EntityStore.Proofs.Histories
import EntityStore.Proofs.LentConnections
import EntityStore.Proofs.Serializability
import EntityStore.Proofs.Calendar
import EntityStore.Proofs.TimestampText
import EntityStore.Proofs.SnapshotOrder
import EntityStore.Proofs.SnapshotFiles
import EntityStore.Proofs.Durability
import EntityStore.Proofs.ThreeValuedLogic
import EntityStore.Proofs.MadeTables
import EntityStore.Proofs.EntityLaws
import EntityStore.Proofs.Saving
import EntityStore.Proofs.ContextStates
import EntityStore.Proofs.Listing
import EntityStore.Proofs.Upsert
import EntityStore.Proofs.ValidEntities
import EntityStore.Proofs.Authorship
import EntityStore.Proofs.KeyTexts
import EntityStore.Proofs.Initialization
import EntityStore.Proofs.DeploymentStates
import EntityStore.Proofs.PoolAccounts
import EntityStore.Proofs.EarlyValidation
import EntityStore.Proofs.PatternGrammar
import EntityStore.Proofs.Rounding
import EntityStore.Proofs.ValueOrder
import EntityStore.Proofs.StableSorting
import EntityStore.Proofs.OrderedResults
import EntityStore.Proofs.IncomparableRows
import EntityStore.Proofs.NegationNormalForm
import EntityStore.Proofs.MissingValues
import EntityStore.Proofs.ConnectionAges
import EntityStore.Proofs.RequestedTables
import EntityStore.Proofs.RestrictedDeletion
import EntityStore.Proofs.Ranges
import EntityStore.Proofs.Aggregates
import EntityStore.Proofs.ExactSums
import EntityStore.Proofs.LeastAndGreatest
import EntityStore.Proofs.TruncatedImages
import EntityStore.Proofs.StoredRows
import EntityStore.Proofs.DistinctValues
import EntityStore.Proofs.TableColumns
import EntityStore.Sorting
import EntityStore.Proofs.BreakingOff
import EntityStore.Proofs.Rankings
import EntityStore.Proofs.Merging
import EntityStore.Proofs.SortedRuns
import EntityStore.Proofs.Quicksort
