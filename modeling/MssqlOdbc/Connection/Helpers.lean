import MssqlOdbc.Lib.Proc
import MssqlOdbc.Odbc
import MssqlOdbc.Text

/-!
# Streaming the results of a statement

The helpers the actor runs an executed statement with.  `driveResultSets` walks the whole batch:
it reports the count of a row-count result, streams the rows of a result set, and steps on with
`SQLMoreResults`.  `drainResultSets` only steps on.

A result set is streamed in one of two modes.  Unbuffered, every row is fetched and every cell of
it read on its own.  Buffered, the driver fills a row set at a time, each column of which is
converted as a whole; the rows are then put together again from the column values.

While a result set is streamed its cursor is guarded, and leaving the function early drops the
guard.  Between results the walk holds the bare handle.
-/

set_option autoImplicit false

namespace MssqlOdbc

variable {C κ A V : Type}

/-! ## Texts -/

/-- The statement text on one line, cut to 160 bytes for messages. -/
def sqlPreview (sql : String) : String :=
  let maxLen := 160
  let words := (sql.toList.splitOnP isWhitespace).filter (fun w ↦ !w.isEmpty)
  let compact := [' '].intercalate words
  if (String.ofList compact).utf8ByteSize ≤ maxLen then String.ofList compact
  else String.ofList (compact.take (maxLen - 3) ++ "...".toList)

/-- The `Debug` text of a status that carries no diagnostics. -/
def SqlResult.debug : SqlResult Unit → String
  | .success () => "Success(())"
  | .successWithInfo () => "SuccessWithInfo(())"
  | .noData => "NoData"
  | .needData => "NeedData"
  | .stillExecuting => "StillExecuting"
  | .error _ => "Error"

/-- Converts an unsuccessful status into an error, pulling the diagnostics off the handle. -/
def statementError (result : SqlResult Unit) (context : String) : Error :=
  match result with
  | .error e => databaseError context e
  | other => .protocol s!"{context}: unexpected ODBC status {other.debug}"

/-! ## Column metadata -/

def collectColumn (ordinal : ℕ) (description : Except OdbcError ColumnDescription) :
    Except Error MssqlColumn :=
  if 65535 < ordinal + 1 then
    .error (.protocol s!"ODBC column index exceeds u16: {ordinal + 1}")
  else
    match description with
    | .error e => .error (databaseError s!"failed to describe ODBC result column {ordinal + 1}" e)
    | .ok description => .ok {
        ordinal := ordinal
        name := description.name.getD s!"col{ordinal}"
        typeInfo := ⟨description.dataType⟩
        nullable := match description.nullability with
          | .noNulls => some false
          | .nullable => some true
          | .unknown => none }

def collectColumns (metadata : Metadata) : Except Error (List MssqlColumn) :=
  match metadata.numResultCols with
  | .error e => .error (databaseError "failed to read ODBC result-column count" e)
  | .ok _ => metadata.columns.zipIdx.mapM fun p ↦ collectColumn p.2 p.1

def collectPreparedColumns (metadata : Metadata) : Except Error (List MssqlColumn) :=
  collectColumns metadata

/-! ## The response channel -/

def send (item : ExecuteResult V) : Proc (Wire A V) Error Bool := fun wire ↦
  (.ok (wire.send item).1, (wire.send item).2)

def sendDone (rowsAffected : ℕ) : Proc (Wire A V) Error Bool := send (.ok (.inl ⟨rowsAffected⟩))

def sendRow (row : MssqlRow V) : Proc (Wire A V) Error Bool := send (.ok (.inr row))

/-! ## Unbuffered fetching -/

section Fetch

variable (E : Env C κ A V)

/-- The values of a row, one `fetch_value` for each column. -/
def fetchValues (columns : List MssqlColumn) (row : ℕ → κ) : Except Error (List V) :=
  columns.mapM fun column ↦
    if 65535 < column.ordinal + 1 then .error (.protocol "ODBC column index exceeds u16")
    else E.fetchValue column (row column.ordinal)

/-- The `next_row` loop. -/
def unbufferedRows (columns : List MssqlColumn) (fetchError : Option OdbcError) :
    List (ℕ → κ) → Proc (Wire A V) Error Bool
  | [] =>
    match fetchError with
    | some e => .fail (databaseError "ODBC unbuffered fetch failed while reading the next row" e)
    | none => do
      let _ ← sendDone 0
      return true
  | row :: rows => do
    let values ← .ofExcept (fetchValues E columns row)
    if ← sendRow ⟨columns, values⟩ then unbufferedRows columns fetchError rows else return false

/-- Streams a result set row by row; `false` when the receiver is gone. -/
def streamRowsUnbuffered (result : Result κ) : Proc (Wire A V) Error Bool := do
  let columns ← .ofExcept (collectColumns result.toMetadata)
  unbufferedRows E columns result.fetchError result.rowsets.flatten

/-! ## Buffered fetching -/

def buildBufferBindings (metadata : Metadata) (maxColumnSize : ℕ) :
    Except Error (List ColumnBinding) :=
  (collectColumns metadata).map fun columns ↦
    columns.map fun column ↦
      let nullable := column.nullable.getD true
      { column := column
        bufferDesc := mapBufferDesc column.typeInfo.dataType maxColumnSize nullable }

def bufferedColumnValues (slice : List κ) (binding : ColumnBinding) : Except Error (List V) :=
  (E.bufferedColumn binding).map fun convert ↦ slice.map convert

/-- The values of every column of a row set.  `index` is the position of the first binding. -/
def bufferedValues (batch : List (ℕ → κ)) (index : ℕ) :
    List ColumnBinding → Except Error (List (List V))
  | [] => .ok []
  | binding :: bindings => do
    let values ← (bufferedColumnValues E (batch.map fun row ↦ row index) binding).mapError fun e ↦
      .protocol (s!"ODBC buffered fetch could not convert column {binding.column.ordinal + 1} " ++
        s!"(`{binding.column.name}`) using buffer {binding.bufferDesc.debug}: {e.display}")
    return values :: (← bufferedValues batch (index + 1) bindings)

/-- Takes the next value of every column iterator. -/
def nextValues (rowIndex : ℕ) : List (List V) → Except Error (List V × List (List V))
  | [] => .ok ([], [])
  | [] :: _ =>
    .error (.protocol s!"ODBC buffered fetch produced too few values for row {rowIndex + 1}")
  | (value :: values) :: iters => do
    let (row, rest) ← nextValues rowIndex iters
    return (value :: row, values :: rest)

/-- Sends the rows of one row set, `rowIndex` of which are out already. -/
def bufferedRows (columns : List MssqlColumn) (rowIndex : ℕ) :
    ℕ → List (List V) → Proc (Wire A V) Error Bool
  | 0, _ => return true
  | numRows + 1, columnIters => do
    let (values, columnIters) ← .ofExcept (nextValues rowIndex columnIters)
    if ← sendRow ⟨columns, values⟩ then bufferedRows columns (rowIndex + 1) numRows columnIters
    else return false

def unbind (unbindError : Option OdbcError) (context : String) : Proc (Wire A V) Error Unit :=
  match unbindError with
  | some e => .fail (databaseError context e)
  | none => return ()

/-- The `fetch` loop over row sets. -/
def bufferedRowsets (columns : List MssqlColumn) (bindings : List ColumnBinding)
    (result : Result κ) : List (List (ℕ → κ)) → Proc (Wire A V) Error Bool
  | [] =>
    match result.fetchError with
    | some e => .fail (databaseError "ODBC buffered fetch failed" e)
    | none => do
      let _ ← sendDone 0
      unbind result.unbindError "ODBC buffered fetch could not unbind row buffer"
      return true
  | batch :: rowsets => do
    let columnValues ← .ofExcept (bufferedValues E batch 0 bindings)
    if ← bufferedRows columns 0 batch.length columnValues then
      bufferedRowsets columns bindings result rowsets
    else
      unbind result.unbindError
        "ODBC buffered fetch could not unbind row buffer after receiver closed"
      return false

/-- What a driver that cannot bind the row buffer is reported with. -/
def bindContext (batchSize : ℕ) : String :=
  s!"ODBC buffered fetching could not be enabled with batch_size={batchSize}; " ++
    "this driver may reject the row-array or row-binding statement attributes used for " ++
    "column-wise buffered fetching, so use MssqlConnectOptions::max_column_size(None) to fetch " ++
    "rows unbuffered"

/-- Streams a result set row set by row set; `false` when the receiver is gone. -/
def streamRowsBuffered (result : Result κ) (batchSize maxColumnSize : ℕ) :
    Proc (Wire A V) Error Bool := do
  let bindings ← .ofExcept (buildBufferBindings result.toMetadata maxColumnSize)
  match result.bindError with
  | some e => .fail (databaseError (bindContext batchSize) e)
  | none =>
    bufferedRowsets E (bindings.map ColumnBinding.column) bindings result result.rowsets

/-! ## Walking a batch -/

def streamOneResultSet (settings : MssqlBufferSettings) (result : Result κ) :
    Proc (Wire A V) Error Bool :=
  match settings.maxColumnSize with
  | some maxColumnSize => streamRowsBuffered E result settings.batchSize maxColumnSize
  | none => streamRowsUnbuffered E result

/-- How a walk ends: its outcome, the statement handle it leaves and the wire. -/
structure Walked (κ A V : Type) where
  outcome : Except Error Unit
  stmt : StmtHandle κ
  wire : Wire A V

/-- What the walk does with the result the handle is on: it stops, or (`none`) it goes on to the
next result with the handle it is left with. -/
def visitResult (settings : MssqlBufferSettings) (stmt : StmtHandle κ) (wire : Wire A V) :
    Option (Except Error Unit) × StmtHandle κ × Wire A V :=
  match stmt.result.numResultCols with
  | .error e =>
    (some (.error (databaseError "failed to read ODBC result-column count" e)), stmt, wire)
  | .ok 0 =>
    match stmt.result.rowCount with
    | .error e => (some (.error (databaseError "failed to read ODBC row count" e)), stmt, wire)
    | .ok rowsAffected =>
      match wire.send (.ok (.inl ⟨(max rowsAffected 0).toNat⟩)) with
      | (false, wire) => (some (.ok ()), stmt, wire)
      | (true, wire) => (none, stmt, wire)
  | .ok (_ + 1) =>
    let cursor : CursorImpl κ := ⟨stmt⟩
    match streamOneResultSet E settings stmt.result wire with
    -- the guard went into the stream and is dropped there, or here when the receiver is gone
    | (.error e, wire) => (some (.error e), cursor.drop, wire)
    | (.ok false, wire) => (some (.ok ()), cursor.drop, wire)
    | (.ok true, wire) => (none, cursor.intoStmt, wire)

end Fetch

/-- Going on to the next result, the walk still holds the handle it was given: the guard around a
cursor is taken off without closing it. -/
theorem visitResult_next {E : Env C κ A V} {settings : MssqlBufferSettings}
    {stmt stmt' : StmtHandle κ} {wire wire' : Wire A V}
    (h : visitResult E settings stmt wire = (none, stmt', wire')) : stmt' = stmt := by
  rw [visitResult] at h
  split at h
  · cases h
  · split at h
    · cases h
    · split at h
      · cases h
      · cases h; rfl
  · simp only at h
    split at h
    · cases h
    · cases h
    · cases h; rfl

/-- An advance that succeeds takes a reply off the handle. -/
theorem moreResults_unread_lt {stmt stmt' : StmtHandle κ} {status : SqlResult Unit}
    (h : stmt.moreResults = (status, stmt'))
    (hs : status = .success () ∨ status = .successWithInfo ()) :
    stmt'.unread.length < stmt.unread.length := by
  rw [StmtHandle.moreResults] at h
  split at h <;> rename_i hfetch hunread
  · cases h; simp at hs
  · cases h; simp at hs
  · cases h; simp [hunread]
  · cases h; simp [hunread]
  · rename_i failure rest
    cases failure <;> (cases h; simp [AdvanceFailure.toSqlResult] at hs)

/-- Streams every result of an executed statement handle and returns the first error. -/
def driveResultSets (E : Env C κ A V) (settings : MssqlBufferSettings) (stmt : StmtHandle κ)
    (wire : Wire A V) : Walked κ A V :=
  match _hvisit : visitResult E settings stmt wire with
  | (some outcome, stmt, wire) => ⟨outcome, stmt, wire⟩
  | (none, stmt', wire) =>
    match _hmore : stmt'.moreResults with
    | (.success (), next) => driveResultSets E settings next (wire.log (.moreResults (.success ())))
    | (.successWithInfo (), next) =>
      driveResultSets E settings next (wire.log (.moreResults (.successWithInfo ())))
    | (.noData, next) => ⟨.ok (), next, wire.log (.moreResults .noData)⟩
    | (other, next) =>
      ⟨.error (statementError other "failed to advance ODBC result set"), next,
        wire.log (.moreResults other)⟩
termination_by stmt.unread.length
decreasing_by
  · rw [← visitResult_next _hvisit]
    exact moreResults_unread_lt _hmore (Or.inl rfl)
  · rw [← visitResult_next _hvisit]
    exact moreResults_unread_lt _hmore (Or.inr rfl)

/-- Steps through every remaining result, discarding rows, and returns the first error. -/
def drainResultSets (stmt : StmtHandle κ) (wire : Wire A V) : Walked κ A V :=
  match _hmore : stmt.moreResults with
  | (.success (), next) => drainResultSets next (wire.log (.moreResults (.success ())))
  | (.successWithInfo (), next) =>
    drainResultSets next (wire.log (.moreResults (.successWithInfo ())))
  | (.noData, next) => ⟨.ok (), next, wire.log (.moreResults .noData)⟩
  | (other, next) =>
    ⟨.error (statementError other "failed to advance ODBC result set"), next,
      wire.log (.moreResults other)⟩
termination_by stmt.unread.length
decreasing_by
  · exact moreResults_unread_lt _hmore (Or.inl rfl)
  · exact moreResults_unread_lt _hmore (Or.inr rfl)

theorem driveResultSets_eq (E : Env C κ A V) (settings : MssqlBufferSettings)
    (stmt : StmtHandle κ) (wire : Wire A V) :
    driveResultSets E settings stmt wire =
      match visitResult E settings stmt wire with
      | (some outcome, stmt, wire) => ⟨outcome, stmt, wire⟩
      | (none, stmt, wire) =>
        match stmt.moreResults with
        | (.success (), next) =>
          driveResultSets E settings next (wire.log (.moreResults (.success ())))
        | (.successWithInfo (), next) =>
          driveResultSets E settings next (wire.log (.moreResults (.successWithInfo ())))
        | (.noData, next) => ⟨.ok (), next, wire.log (.moreResults .noData)⟩
        | (other, next) =>
          ⟨.error (statementError other "failed to advance ODBC result set"), next,
            wire.log (.moreResults other)⟩ := by
  rw [driveResultSets]
  rcases visitResult E settings stmt wire with ⟨_ | outcome, stmt', wire'⟩
  · simp only
    rcases stmt'.moreResults with ⟨status, next⟩
    cases status <;> rfl
  · rfl

theorem drainResultSets_eq (stmt : StmtHandle κ) (wire : Wire A V) :
    drainResultSets stmt wire =
      match stmt.moreResults with
      | (.success (), next) => drainResultSets next (wire.log (.moreResults (.success ())))
      | (.successWithInfo (), next) =>
        drainResultSets next (wire.log (.moreResults (.successWithInfo ())))
      | (.noData, next) => ⟨.ok (), next, wire.log (.moreResults .noData)⟩
      | (other, next) =>
        ⟨.error (statementError other "failed to advance ODBC result set"), next,
          wire.log (.moreResults other)⟩ := by
  rw [drainResultSets]
  rcases stmt.moreResults with ⟨status, next⟩
  cases status <;> rfl

end MssqlOdbc
