import FilterStore.Filter.Reader
import FilterStore.Main
import FilterStore.Store.Basic
import FilterStore.Proofs.Outcome
import FilterStore.Proofs.Query.Position
import FilterStore.Proofs.Query.Forest
import FilterStore.Proofs.Schema.Reachable
import FilterStore.Proofs.Query.Placeholder
import FilterStore.Proofs.Schema.Identifier
import FilterStore.Proofs.Query.Shape
import FilterStore.Proofs.Query.Parts
import FilterStore.Proofs.Query.Binding
import FilterStore.Proofs.Query.Meaning
import FilterStore.Proofs.Query.Phrase
import FilterStore.Proofs.Query.Precedence
import FilterStore.Proofs.Query.Vocabulary
import FilterStore.Proofs.Migration.Deed
import FilterStore.Proofs.Migration.Course
import FilterStore.Proofs.Migration.Ledger
import FilterStore.Proofs.Migration.Watch
import FilterStore.Proofs.Migration.Update
import FilterStore.Proofs.Migration.Init
import FilterStore.Proofs.Migration.History
import FilterStore.Proofs.Engine.Execution
import FilterStore.Proofs.Engine.Steady
import FilterStore.Proofs.Engine.Loyal
import FilterStore.Proofs.Engine.Database
import FilterStore.Proofs.Migration.VersionTable.Sound
import FilterStore.Proofs.Engine.Definition
import FilterStore.Proofs.Migration.VersionTable.Query
import FilterStore.Proofs.Migration.VersionTable.Append
import FilterStore.Proofs.Migration.VersionTable.Schema
import FilterStore.Proofs.Migration.VersionTable.Lawful
import FilterStore.Proofs.Migration.VersionTable.Tame
import FilterStore.Proofs.Schema.Named
import FilterStore.Proofs.Schema.Edit
import FilterStore.Proofs.Schema.Consistent
import FilterStore.Proofs.Schema.Listing
import FilterStore.Proofs.Schema.Atomic
import FilterStore.Proofs.Schema.Setup
import FilterStore.Proofs.Calendar.Date
import FilterStore.Proofs.Calendar.Stamp
import FilterStore.Proofs.Calendar.Order
import FilterStore.Proofs.Query.Field
import FilterStore.Proofs.Query.Agreement
import FilterStore.Proofs.Query.Row
import FilterStore.Proofs.Migration.Kept
import FilterStore.Proofs.Migration.Request
import FilterStore.Proofs.Migration.Lifecycle
import FilterStore.Proofs.Migration.Events
import FilterStore.Proofs.Migration.Numbering
import FilterStore.Proofs.Schema.Touch
import FilterStore.Proofs.Schema.Given
import FilterStore.Proofs.Schema.Outline
import FilterStore.Proofs.Schema.Columns
import FilterStore.Proofs.Config.Timestamps
import FilterStore.Proofs.Query.Restriction
import FilterStore.Proofs.Number.Finite
import FilterStore.Proofs.Number.Exact
import FilterStore.Proofs.Value.Interchange
import FilterStore.Proofs.Value.Record
import FilterStore.Proofs.Filter.Written
import FilterStore.Proofs.Sql.Cut
import FilterStore.Proofs.Sql.Reading
import FilterStore.Proofs.Sql.RowStatement
import FilterStore.Proofs.Engine.Transaction
import FilterStore.Proofs.Engine.Selection
import FilterStore.Proofs.Engine.RowQuery
import FilterStore.Proofs.Engine.Storing
import FilterStore.Proofs.Engine.Insertion
import FilterStore.Proofs.Engine.Creation
import FilterStore.Proofs.Engine.Growth
import FilterStore.Proofs.Store.Action
import FilterStore.Proofs.Dump.Snapshot
import FilterStore.Proofs.Dump.Complete
import FilterStore.Proofs.Dump.Columns
import FilterStore.Proofs.Dump.Load
import FilterStore.Proofs.Dump.Isolation
import FilterStore.Proofs.Dump.Rows
import FilterStore.Proofs.Dump.Replay
import FilterStore.Proofs.Dump.Remade
import FilterStore.Proofs.Dump.Restore
import FilterStore.Proofs.Dump.Order
import FilterStore.Proofs.Dump.Tolerant
import FilterStore.Proofs.Schema.Statements
import FilterStore.Proofs.Query.FirstError
import FilterStore.Proofs.Text.Words
import FilterStore.Proofs.Query.Spelling
import FilterStore.Proofs.Query.Wording
import FilterStore.Proofs.Value.Dates
import FilterStore.Proofs.Query.Expansion
import FilterStore.Proofs.Query.Assignment
import FilterStore.Proofs.Query.DateOrder
import FilterStore.Proofs.Query.Exclusive
import FilterStore.Proofs.Text.Commas
import FilterStore.Proofs.Config.Written
import FilterStore.Proofs.Dump.Naming
