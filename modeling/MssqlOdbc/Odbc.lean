import MssqlOdbc.Lib.TxStore
import MssqlOdbc.Lib.Cache
import MssqlOdbc.TypeInfo

/-!
# The ODBC layer

What lies below the driver: the results of an executed batch, statement handles and cursors, the
connection's transaction mode, and the calls that can fail.

An executed batch answers with one `Reply` after the other.  The execution itself lands on the
first; `SQLMoreResults` steps to the next.  A `Result` says what every ODBC call made on it
answers: it is a *row-count result* when it has no columns and a *result set* otherwise.  A failed
reply does not end the batch — the server goes on with the next statement — so there may be
replies behind it, and they stay on the handle until they are read, until the cursor is closed, or
until the handle is freed.

`Env` collects what is not the driver's own code: the server, which runs a statement on the
contents of the database, and the conversions of single cells.  A prepared statement is executed by
the same function as its text is, and preparing has no access to the contents beyond reading them.
-/

set_option autoImplicit false

namespace MssqlOdbc

open TxStore

/-! ## Results -/

/-- `odbc_api::handles::SqlResult`, with the diagnostics an error leaves on the handle. -/
inductive SqlResult (α : Type) where
  | success (value : α)
  | successWithInfo (value : α)
  | noData
  | needData
  | stillExecuting
  | error (error : OdbcError)
deriving DecidableEq, Repr

inductive Nullability where
  | noNulls
  | nullable
  | unknown
deriving DecidableEq, Repr

/-- What `SQLDescribeCol` fills in; the name is `none` when it is not valid text. -/
structure ColumnDescription where
  name : Option String
  dataType : DataType
  nullability : Nullability
deriving DecidableEq, Repr

/-- The answers of `SQLNumResultCols` and of `SQLDescribeCol` for each column. -/
structure Metadata where
  numColsError : Option OdbcError
  columns : List (Except OdbcError ColumnDescription)

def Metadata.numResultCols (m : Metadata) : Except OdbcError ℕ :=
  match m.numColsError with
  | some e => .error e
  | none => .ok m.columns.length

/-- One result of a batch.  The rows of a result set come in the row sets the driver hands out,
each row as the cell in every column position, and `fetchError` is what the fetch behind the last
of them reports.  This is what one fetch mode meets.  The rows in front of an error depend on the
mode, as a block fetch that fails loses all the rows of its block; if no fetch fails, both modes
meet the same rows. -/
structure Result (κ : Type) extends Metadata where
  rowCount : Except OdbcError ℤ
  bindError : Option OdbcError
  rowsets : List (List (ℕ → κ))
  fetchError : Option OdbcError
  unbindError : Option OdbcError

/-- A handle that is on no result reports no columns, and `SQLRowCount` reports `-1`. -/
def Result.none (κ : Type) : Result κ where
  numColsError := .none
  columns := []
  rowCount := .ok (-1)
  bindError := .none
  rowsets := []
  fetchError := .none
  unbindError := .none

/-- The ways `SQLMoreResults` fails. -/
inductive AdvanceFailure where
  | error (error : OdbcError)
  | needData
  | stillExecuting
deriving DecidableEq, Repr

def AdvanceFailure.toSqlResult : AdvanceFailure → SqlResult Unit
  | .error e => .error e
  | .needData => .needData
  | .stillExecuting => .stillExecuting

/-- What a step to the next result of a batch finds. -/
inductive Reply (κ : Type) where
  | result (info : Bool) (result : Result κ)
  | failed (failure : AdvanceFailure)

/-- The answer to an execution: the first result or the error of the execution itself, and what
further steps find. -/
structure Batch (κ : Type) where
  head : Except OdbcError (Result κ)
  rest : List (Reply κ)

/-! ## Statement handles and cursors -/

/-- A statement handle: the result it is on and the replies not yet read. -/
structure StmtHandle (κ : Type) where
  current : Option (Result κ)
  unread : List (Reply κ)

namespace StmtHandle

variable {κ : Type}

/-- A handle nothing was executed on, or whose cursor was closed. -/
def closed : StmtHandle κ := ⟨.none, []⟩

def result (stmt : StmtHandle κ) : Result κ := stmt.current.getD (.none κ)

/-- A handle on a result set is in cursor state. -/
def cursorOpen (stmt : StmtHandle κ) : Bool := !stmt.result.columns.isEmpty

/-- No open cursor and nothing unread: the connection is free for the next statement. -/
def Idle (stmt : StmtHandle κ) : Prop := stmt.cursorOpen = false ∧ stmt.unread = []

/-- `SQLMoreResults`: gives up what is left of the current result and steps to the next reply.  An
error the current result set still had to report surfaces here if no fetch has run into it. -/
def moreResults (stmt : StmtHandle κ) : SqlResult Unit × StmtHandle κ :=
  match stmt.result.fetchError, stmt.unread with
  | some e, _ => (.error e, ⟨.none, stmt.unread⟩)
  | .none, [] => (.noData, closed)
  | .none, .result false r :: rest => (.success (), ⟨some r, rest⟩)
  | .none, .result true r :: rest => (.successWithInfo (), ⟨some r, rest⟩)
  | .none, .failed failure :: rest => (failure.toSqlResult, ⟨.none, rest⟩)

theorem idle_closed : (closed : StmtHandle κ).Idle := ⟨rfl, rfl⟩

end StmtHandle

/-- `odbc_api::CursorImpl`, a guard around a handle in cursor state. -/
structure CursorImpl (κ : Type) where
  stmt : StmtHandle κ

namespace CursorImpl

variable {κ : Type}

/-- Dropping the guard closes the cursor, which discards everything unread. -/
def drop (_cursor : CursorImpl κ) : StmtHandle κ := .closed

/-- Takes the handle out of the guard without closing the cursor. -/
def intoStmt (cursor : CursorImpl κ) : StmtHandle κ := cursor.stmt

end CursorImpl

/-- What executing a statement leaves: the guard if the first result has columns, and the handle.
Like `odbc_api`, this asks for the column count of the first result. -/
def Batch.executed {κ : Type} (batch : Batch κ) :
    Except OdbcError (Option (CursorImpl κ)) × StmtHandle κ :=
  match batch.head with
  | .error e => (.error e, ⟨none, batch.rest⟩)
  | .ok result =>
    let stmt : StmtHandle κ := ⟨some result, batch.rest⟩
    match result.numResultCols with
    | .error e => (.error e, stmt)
    | .ok 0 => (.ok none, stmt)
    | .ok (_ + 1) => (.ok (some ⟨stmt⟩), stmt)

/-! ## The connection -/

/-- The connection's transaction mode and the contents it works on. -/
abbrev Connection (C : Type) : Type := Store String C

/-- A statement text.  The actor composes the first two itself; every other text is assumed to
contain no transaction control. -/
inductive Sql where
  | saveTransaction (savepoint : String)
  | rollbackTransaction (savepoint : String)
  | text (sql : String)
deriving DecidableEq, Repr

/-- Which of the connection-level calls fail while a command is processed; `lock` says that the
mutex of the connection is poisoned. -/
structure Faults where
  lock : Bool
  setAutocommit : Bool → Option OdbcError
  commit : Option OdbcError
  rollback : Option OdbcError
  transactionSql : Option OdbcError
  preallocate : Option OdbcError

/-- Every call succeeds. -/
def Faults.none : Faults where
  lock := false
  setAutocommit _ := .none
  commit := .none
  rollback := .none
  transactionSql := .none
  preallocate := .none

/-- The calls that switch the transaction mode succeed, and so do the savepoint statements the
server does not refuse. -/
structure Faults.CallsSucceed (f : Faults) : Prop where
  lock : f.lock = false
  setAutocommit : ∀ on, f.setAutocommit on = .none
  commit : f.commit = .none
  rollback : f.rollback = .none
  transactionSql : f.transactionSql = .none

theorem Faults.callsSucceed_none : Faults.none.CallsSucceed := ⟨rfl, fun _ ↦ rfl, rfl, rfl, rfl⟩

/-- What preparing a statement finds out about it. -/
structure PreparedInfo extends Metadata where
  numParams : Except OdbcError ℕ
  describeParam : ℕ → Except OdbcError DataType

/-- A prepared statement: a handle with a text. -/
structure Prepared (κ : Type) where
  sql : String
  info : PreparedInfo
  stmt : StmtHandle κ

/-- What surrounds the driver's code: the server (`exec`, `prepare`, `refusal`), the conversions of
a cell (`fetchValue`, `bufferedColumn`, `getI64`, `getBinary`) and the statement cache.  `C` is the
type of the database contents, `κ` of a cell as the ODBC driver holds it, `A` of a bound parameter
and `V` of a fetched value. -/
structure Env (C κ A V : Type) where
  /-- Runs a statement with its parameters on the working contents.  The whole batch takes effect
  when it is executed, however far its results are read. -/
  exec : String → List A → C → Batch κ × C
  prepare : String → C → Except OdbcError PreparedInfo
  /-- The answer to a savepoint statement that cannot be carried out. -/
  refusal : Sql → OdbcError
  /-- Fetches one cell of the current row. -/
  fetchValue : MssqlColumn → κ → Except Error V
  /-- Converts a column buffer: the check of the buffer's kind, then the conversion of a cell. -/
  bufferedColumn : ColumnBinding → Except Error (κ → V)
  getI64 : κ → Except OdbcError (Option ℤ)
  getBinary : κ → Except OdbcError (Option (List UInt8))
  cache : CacheImpl String (Prepared κ)

/-! ## A recording server -/

/-- A row-count result. -/
def Result.ofCount {κ : Type} (count : ℤ) : Result κ := { Result.none κ with rowCount := .ok count }

/-- A result set of integer cells, in one row set. -/
def Result.ofRows {κ : Type} (columns : ℕ) (rows : List (ℕ → κ)) : Result κ :=
  { Result.none κ with
    columns := (List.range columns).map fun i ↦ .ok ⟨some s!"c{i}", .integer, .noNulls⟩
    rowsets := [rows] }

/-- The server that keeps a list of the statements it has run, answering each as `answer` says; it
prepares everything, and its cells are the values themselves. -/
def Env.recorder (answer : String → Batch ℤ) : Env (List String) ℤ ℤ ℤ where
  exec sql _ contents :=
    (answer sql, match (answer sql).head with
      | .ok _ => contents ++ [sql]
      | .error _ => contents)
  prepare _ _ := .ok ⟨⟨none, []⟩, .ok 1, fun _ ↦ .ok .integer⟩
  refusal _ := ⟨some ⟨"25000", "no such savepoint"⟩, "ODBC emitted an error"⟩
  fetchValue _ cell := .ok cell
  bufferedColumn _ := .ok id
  getI64 cell := .ok (some cell)
  getBinary _ := .ok none
  cache := lru String (Prepared ℤ)

/-- The recording server that answers everything with "no row affected". -/
def Env.quiet : Env (List String) ℤ ℤ ℤ := .recorder fun _ ↦ ⟨.ok (.ofCount 0), []⟩

/-! ## What a command does to the outside -/

/-- One item of a response stream. -/
abbrev ExecuteResult (V : Type) : Type := Except Error (MssqlQueryResult ⊕ MssqlRow V)

/-- The statement executions, the steps through their results, and the items sent. -/
inductive Event (A V : Type) where
  | executed (sql : String) (parameters : List A)
  | executedOnConnection (sql : Sql)
  | moreResults (status : SqlResult Unit)
  | sent (item : ExecuteResult V)

/-- The outside of a command while it runs: the response channel, which takes `room` more items
before its receiver is gone (`none`: the receiver stays), and the events so far. -/
structure Wire (A V : Type) where
  room : Option ℕ
  trace : List (Event A V)

namespace Wire

variable {A V : Type}

/-- The items sent. -/
def items (trace : List (Event A V)) : List (ExecuteResult V) :=
  trace.filterMap fun
    | .sent item => some item
    | _ => none

/-- The statements executed on a statement handle, with their parameters. -/
def executions (trace : List (Event A V)) : List (String × List A) :=
  trace.filterMap fun
    | .executed sql parameters => some (sql, parameters)
    | _ => none

theorem mem_items {trace : List (Event A V)} {item : ExecuteResult V} :
    item ∈ items trace ↔ .sent item ∈ trace := by
  rw [items, List.mem_filterMap]
  constructor
  · rintro ⟨event, hevent, h⟩
    split at h
    · cases h
      exact hevent
    · cases h
  · exact fun h ↦ ⟨_, h, rfl⟩

theorem items_append (trace trace' : List (Event A V)) :
    items (trace ++ trace') = items trace ++ items trace' :=
  List.filterMap_append

theorem executions_append (trace trace' : List (Event A V)) :
    executions (trace ++ trace') = executions trace ++ executions trace' :=
  List.filterMap_append

def log (event : Event A V) (wire : Wire A V) : Wire A V :=
  { wire with trace := wire.trace ++ [event] }

/-- `flume::Sender::send`: whether the item was accepted. -/
def send (item : ExecuteResult V) (wire : Wire A V) : Bool × Wire A V :=
  match wire.room with
  | none => (true, ⟨none, wire.trace ++ [.sent item]⟩)
  | some 0 => (false, wire)
  | some (n + 1) => (true, ⟨some n, wire.trace ++ [.sent item]⟩)

end Wire

end MssqlOdbc
