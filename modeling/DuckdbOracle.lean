import DuckdbOracle.Foundations.StepRuns
import DuckdbOracle.Foundations.Tally
import DuckdbOracle.Foundations.QuotedText
import DuckdbOracle.Duckdb.Value
import DuckdbOracle.Catalog.Settings
import DuckdbOracle.Connection.Manager
import DuckdbOracle.Connection.PoolAccounting
import DuckdbOracle.Connection.PoolTimeout
import DuckdbOracle.Connection.Wakeups
import DuckdbOracle.Connection.SessionLimit
import DuckdbOracle.Connection.HeldSessions
import DuckdbOracle.Catalog.Attach
import DuckdbOracle.Write.CopyAtomicity
import DuckdbOracle.Scan.Bind
import DuckdbOracle.Scan.Pushdown
import DuckdbOracle.Scan.FilterColumn
import DuckdbOracle.Scan.ColumnMapping
import DuckdbOracle.Oracle.Condition
import DuckdbOracle.Scan.FilterMeaning
import DuckdbOracle.Foundations.StridedBuffer
import DuckdbOracle.Write.Sink
import DuckdbOracle.Write.Delivery
import DuckdbOracle.Connection.Generations
import DuckdbOracle.Transaction.Manager
import DuckdbOracle.Catalog.Credentials
import DuckdbOracle.Connection.ConnectionString
import DuckdbOracle.Oracle.Dictionary
import DuckdbOracle.Duckdb.Columns
import DuckdbOracle.Catalog.TableEntry
import DuckdbOracle.Catalog.Entries
import DuckdbOracle.Catalog.Enumeration
import DuckdbOracle.Duckdb.CatalogSet
import DuckdbOracle.Catalog.ClearCache
import DuckdbOracle.Scan.Fetch
import DuckdbOracle.Scan.RowsOnce
import DuckdbOracle.Scan.Truncation
import DuckdbOracle.Write.Bind
import DuckdbOracle.Catalog.Alias
import DuckdbOracle.Foundations.LockOrder
import DuckdbOracle.Catalog.LockTraces
import DuckdbOracle.Foundations.ThreeValued
import DuckdbOracle.Scan.PushdownSplit
import DuckdbOracle.Write.ColumnNames
import DuckdbOracle.Catalog.Execute
import DuckdbOracle.Scan.Conversions
import DuckdbOracle.Scan.VectorCell
import DuckdbOracle.Scan.NumberCell
import DuckdbOracle.Scan.TimestampCell
import DuckdbOracle.Scan.BinaryColumns
import DuckdbOracle.Write.InStep
import DuckdbOracle.Catalog.NumberType
import DuckdbOracle.Foundations.SqlTokens
import DuckdbOracle.Foundations.SqlTemplate
import DuckdbOracle.Catalog.QueryTexts
import DuckdbOracle.Write.MetadataNames
import DuckdbOracle.Connection.StringIndices
import DuckdbOracle.Foundations.StdString
import DuckdbOracle.Catalog.Clamping
import DuckdbOracle.Catalog.SessionSettings
import DuckdbOracle.Write.BestTable
import DuckdbOracle.Foundations.SqlInsert
import DuckdbOracle.Write.InsertText
import DuckdbOracle.Catalog.Version
import DuckdbOracle.Catalog.MetadataCache
import DuckdbOracle.Scan.Projection
import DuckdbOracle.Foundations.SqlSelect
import DuckdbOracle.Scan.SelectTexts
import DuckdbOracle.Scan.PushedTexts
import DuckdbOracle.Scan.PushedAnswers
import DuckdbOracle.Foundations.HandleTable
import DuckdbOracle.Foundations.Programs
import DuckdbOracle.Oci.Calls
import DuckdbOracle.Oci.Rules
import DuckdbOracle.Oci.Context
import DuckdbOracle.Oci.Statements
import DuckdbOracle.Oci.Stages
import DuckdbOracle.Foundations.SlotSum
import DuckdbOracle.Connection.References
import DuckdbOracle.Oci.System
import DuckdbOracle.Oci.Ledger
import DuckdbOracle.Oci.Sessions
import DuckdbOracle.Oci.Steps
import DuckdbOracle.Oci.Replies
import DuckdbOracle.Oci.Runs
