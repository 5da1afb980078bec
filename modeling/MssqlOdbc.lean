import MssqlOdbc.Lib.Run
import MssqlOdbc.Lib.TxStore
import MssqlOdbc.Lib.Proc
import MssqlOdbc.Lib.Cache
import MssqlOdbc.Lib.ErrStream
import MssqlOdbc.Lib.Utf
import MssqlOdbc.Text
import MssqlOdbc.Error
import MssqlOdbc.TypeInfo
import MssqlOdbc.Odbc
import MssqlOdbc.Connection.Helpers
import MssqlOdbc.Connection.Actor
import MssqlOdbc.Connection
import MssqlOdbc.Transaction
import MssqlOdbc.Execute.Paths
import MssqlOdbc.Connection.Frames
import MssqlOdbc.Transaction.Handlers
import MssqlOdbc.Transaction.Nested
import MssqlOdbc.Transaction.Depth
import MssqlOdbc.Migration
import MssqlOdbc.Transaction.Autocommit
import MssqlOdbc.Execute.Stream
import MssqlOdbc.Execute.Delivery
import MssqlOdbc.Execute.CachedHandle
import MssqlOdbc.Connection.Executor
import MssqlOdbc.Connection.Talk
import MssqlOdbc.Connection.Interleaving
import MssqlOdbc.Connection.Free
import MssqlOdbc.Connection.Confluence
import MssqlOdbc.Connection.Observed
import MssqlOdbc.Execute.Unprepared
import MssqlOdbc.Types
import MssqlOdbc.Value
import MssqlOdbc.Decode
import MssqlOdbc.Connection.Fetch
import MssqlOdbc.Fetch.Delivered
import MssqlOdbc.Fetch.Agreement
import MssqlOdbc.Fetch.Compatible
import MssqlOdbc.Arguments
import MssqlOdbc.Fetch.RoundTrip
import MssqlOdbc.Fetch.Uuid
import MssqlOdbc.Any
import MssqlOdbc.Lib.Record
import MssqlOdbc.Offline
import MssqlOdbc.Lib.Quoting
import MssqlOdbc.Lib.Tsql
import MssqlOdbc.Migrate
import MssqlOdbc.Lib.OdbcString
import MssqlOdbc.Options
import MssqlOdbc.Options.Url
import MssqlOdbc.Transaction.Dropped
import MssqlOdbc.Fetch.Positions
import MssqlOdbc.Lib.Civil
import MssqlOdbc.Temporal.Laws
import MssqlOdbc.Temporal.Encoded
import MssqlOdbc.Temporal.Narrowed
import MssqlOdbc.Temporal.Zones
import MssqlOdbc.Lib.Numeral
import MssqlOdbc.Numeric.Integers
import MssqlOdbc.Numeric.Exact
import MssqlOdbc.Numeric.Decimals
import MssqlOdbc.Temporal.Packed
import MssqlOdbc.Options.Builder
import MssqlOdbc.Options.Database
import MssqlOdbc.ColumnIndex
import MssqlOdbc.Lib.Unfinished
import MssqlOdbc.Options.FromStr
import MssqlOdbc.MigrateDatabase
import MssqlOdbc.Ledger
import MssqlOdbc.Transaction.Handle
import MssqlOdbc.Describe
import MssqlOdbc.Row
import MssqlOdbc.Echo
import MssqlOdbc.Diagnostics
import MssqlOdbc.Connection.Modes
import MssqlOdbc.Connection.Script
import MssqlOdbc.Parameters
