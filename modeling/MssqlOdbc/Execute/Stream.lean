import MssqlOdbc.Lib.ErrStream
import MssqlOdbc.Execute.Paths

/-!
# The response stream of a batch

What the walk of a batch sends, as a stream.  A result has the stream `Result.stream`: a row count,
or the rows followed by an empty count, and the error that keeps it from being read to its end.  The
batch has the chain of the streams of its results, with the error of a failed advance after the
result it was made from (`Batch.stream`).

The two fetch modes differ in where a conversion can fail and in the calls on the row buffer, and
agree in the rest: each of them is the sending of a `Reading`.  With the receiver kept open the
walk sends exactly the stream of the batch (`driveResultSets_streams`).
-/

set_option autoImplicit false

namespace MssqlOdbc

variable {C κ A V : Type}

/-! ## Sending rows -/

namespace Wire

/-- Sends rows until one is refused. -/
def sendRows : List (MssqlRow V) → Wire A V → Bool × Wire A V
  | [], wire => (true, wire)
  | row :: rows, wire =>
    match wire.send (.ok (.inr row)) with
    | (true, wire) => sendRows rows wire
    | (false, wire) => (false, wire)

theorem sendRows_cons (row : MssqlRow V) (rows : List (MssqlRow V)) (wire : Wire A V) :
    sendRows (row :: rows) wire =
      match wire.send (.ok (.inr row)) with
      | (true, wire) => sendRows rows wire
      | (false, wire) => (false, wire) := rfl

theorem sendRows_append (rows rows' : List (MssqlRow V)) (wire : Wire A V) :
    sendRows (rows ++ rows') wire =
      match sendRows rows wire with
      | (true, wire) => sendRows rows' wire
      | (false, wire) => (false, wire) := by
  induction rows generalizing wire with
  | nil => rfl
  | cons row rows ih =>
    rw [List.cons_append, sendRows_cons, sendRows_cons]
    rcases wire.send (.ok (.inr row)) with ⟨_ | _, wire'⟩
    · rfl
    · exact ih wire'

/-- A receiver that stays takes everything. -/
theorem sendRows_open (rows : List (MssqlRow V)) (trace : List (Event A V)) :
    sendRows rows ⟨none, trace⟩ =
      (true, ⟨none, trace ++ rows.map fun row ↦ .sent (.ok (.inr row))⟩) := by
  induction rows generalizing trace with
  | nil => rw [List.map_nil, List.append_nil]; rfl
  | cons row rows ih =>
    rw [sendRows_cons, List.map_cons]
    refine (ih _).trans ?_
    rw [List.append_assoc]
    rfl

end Wire

/-! ## Readings -/

/-- What streaming a result set comes to: the rows, with the error that ends them early, and what
giving the row buffer back reports after the last row and after the receiver has gone. -/
structure Reading (V : Type) where
  rows : ErrStream Error (MssqlRow V)
  unbound : Option Error
  abandoned : Option Error

namespace Reading

/-- Succeeds with `open_` unless there is an error. -/
def result (error : Option Error) (receiverOpen : Bool) : Except Error Bool :=
  match error with
  | none => .ok receiverOpen
  | some e => .error e

/-- Sends the rows and, unless they end in an error, the count of a result set.  Whether the count
is still taken makes no difference. -/
def send (reading : Reading V) : Proc (Wire A V) Error Bool := fun wire ↦
  match wire.sendRows reading.rows.items with
  | (false, wire) => (result reading.abandoned false, wire)
  | (true, wire) =>
    match reading.rows.error with
    | some e => (.error e, wire)
    | none => (result reading.unbound true, (wire.send (.ok (.inl ⟨0⟩))).2)

/-- The rows and, unless they end in an error, an empty count. -/
def stream (reading : Reading V) : ErrStream Error (MssqlQueryResult ⊕ MssqlRow V) :=
  reading.rows.map .inr ++ (.ofList [.inl ⟨0⟩] ++ .check reading.unbound)

theorem stream_of_error {reading : Reading V} {e : Error} (h : reading.rows.error = some e) :
    reading.stream = reading.rows.map .inr :=
  ErrStream.append_of_error h

/-- A reading that fails in the rows is those it has read, and its error. -/
theorem stream_eq_mk {reading : Reading V} {e : Error} (h : reading.rows.error = some e) :
    reading.stream = ⟨reading.rows.items.map .inr, some e⟩ :=
  (stream_of_error h).trans (ErrStream.ext rfl h)

theorem stream_items {reading : Reading V} (h : reading.rows.error = none) :
    reading.stream.items = reading.rows.items.map .inr ++ [.inl ⟨0⟩] :=
  ErrStream.append_items (s := reading.rows.map Sum.inr) h

theorem stream_error {reading : Reading V} (h : reading.rows.error = none) :
    reading.stream.error = reading.unbound :=
  ErrStream.append_error (s := reading.rows.map Sum.inr) h

/-- Rows that can be read are sent before the rest of the reading. -/
theorem send_append (rows : List (MssqlRow V)) (s : ErrStream Error (MssqlRow V))
    (unbound abandoned : Option Error) (wire : Wire A V) :
    (⟨.ofList rows ++ s, unbound, abandoned⟩ : Reading V).send wire =
      match wire.sendRows rows with
      | (true, wire) => (⟨s, unbound, abandoned⟩ : Reading V).send wire
      | (false, wire) => (result abandoned false, wire) := by
  simp only [send, ErrStream.append_items (s := .ofList rows) (t := s) rfl,
    ErrStream.append_error (s := .ofList rows) (t := s) rfl, ErrStream.ofList_items,
    Wire.sendRows_append]
  rcases wire.sendRows rows with ⟨_ | _, wire'⟩ <;> rfl

theorem send_error {s : ErrStream Error (MssqlRow V)} {e : Error} (hitems : s.items = [])
    (herror : s.error = some e) (unbound abandoned : Option Error) (wire : Wire A V) :
    (⟨s, unbound, abandoned⟩ : Reading V).send wire = (.error e, wire) := by
  simp only [send, hitems, herror]
  rfl

end Reading

section Readings

variable (E : Env C κ A V)

/-! ## Unbuffered -/

/-- One row, or the error of its first cell that cannot be fetched. -/
def fetchRow (columns : List MssqlColumn) (row : ℕ → κ) : Except Error (MssqlRow V) :=
  (fetchValues E columns row).map (MssqlRow.mk columns)

def unbufferedReading (result : Result κ) : Reading V where
  rows :=
    match collectColumns result.toMetadata with
    | .error e => .check (some e)
    | .ok columns =>
      .concat (result.rowsets.flatten.map fun row ↦ .ofExcept (fetchRow E columns row)) ++
        .check (result.fetchError.map
          (databaseError "ODBC unbuffered fetch failed while reading the next row"))
  unbound := none
  abandoned := none

theorem unbufferedRows_eq (columns : List MssqlColumn) (fetchError : Option OdbcError)
    (rows : List (ℕ → κ)) (wire : Wire A V) :
    unbufferedRows E columns fetchError rows wire =
      (⟨.concat (rows.map fun row ↦ .ofExcept (fetchRow E columns row)) ++
        .check (fetchError.map
          (databaseError "ODBC unbuffered fetch failed while reading the next row")),
        none, none⟩ : Reading V).send wire := by
  induction rows generalizing wire with
  | nil => cases fetchError <;> rfl
  | cons row rows ih =>
    rw [unbufferedRows, List.map_cons, ErrStream.concat_cons, ErrStream.append_assoc]
    cases hvalues : fetchValues E columns row with
    | error e =>
      have hrow : fetchRow E columns row = .error e := by rw [fetchRow, hvalues]; rfl
      have herror : (ErrStream.ofExcept (fetchRow E columns row)).error = some e := by
        rw [hrow]
        rfl
      rw [ErrStream.append_of_error herror, Reading.send_error (by rw [hrow]; rfl) herror]
      rfl
    | ok values =>
      have hrow : ErrStream.ofExcept (fetchRow E columns row) = .ofList [⟨columns, values⟩] := by
        rw [fetchRow, hvalues]
        rfl
      rw [hrow, Reading.send_append, Wire.sendRows_cons]
      simp only [Proc.bind_apply, Proc.ofExcept_apply, sendRow, send]
      rcases wire.send (.ok (.inr ⟨columns, values⟩)) with ⟨_ | _, wire'⟩
      · rfl
      · exact ih wire'

theorem streamRowsUnbuffered_eq (result : Result κ) (wire : Wire A V) :
    streamRowsUnbuffered E result wire = (unbufferedReading E result).send wire := by
  rw [streamRowsUnbuffered, Proc.bind_apply, Proc.ofExcept_apply, unbufferedReading]
  cases collectColumns result.toMetadata with
  | error e => rfl
  | ok columns => exact unbufferedRows_eq E columns _ _ wire

/-! ## Buffered -/

/-- The conversions of the bound columns, or the error of the first whose buffer cannot be
converted. -/
def conversions : List ColumnBinding → Except Error (List (κ → V))
  | [] => .ok []
  | binding :: bindings => do
    let convert ← (E.bufferedColumn binding).mapError fun e ↦
      .protocol (s!"ODBC buffered fetch could not convert column {binding.column.ordinal + 1} " ++
        s!"(`{binding.column.name}`) using buffer {binding.bufferDesc.debug}: {e.display}")
    return convert :: (← conversions bindings)

/-- The values of a row.  `index` is the position of the first column. -/
def rowValues (row : ℕ → κ) (index : ℕ) : List (κ → V) → List V
  | [] => []
  | convert :: converts => convert (row index) :: rowValues row (index + 1) converts

/-- The values of a row set, column by column. -/
def columnValues (batch : List (ℕ → κ)) (index : ℕ) : List (κ → V) → List (List V)
  | [] => []
  | convert :: converts =>
    (batch.map fun row ↦ convert (row index)) :: columnValues batch (index + 1) converts

theorem bufferedValues_eq (batch : List (ℕ → κ)) (index : ℕ) (bindings : List ColumnBinding) :
    bufferedValues E batch index bindings =
      (conversions E bindings).map (columnValues batch index) := by
  induction bindings generalizing index with
  | nil => rfl
  | cons binding bindings ih =>
    rw [bufferedValues, conversions, bufferedColumnValues, ih]
    cases E.bufferedColumn binding with
    | error e => rfl
    | ok convert =>
      cases conversions E bindings with
      | error e => rfl
      | ok converts =>
        simp [Except.map, Except.mapError, bind, Except.bind, Function.comp_def]
        rfl

/-- Taking the columns of a row set apart again gives its rows. -/
theorem nextValues_columnValues (rowIndex : ℕ) (row : ℕ → κ) (batch : List (ℕ → κ)) (index : ℕ)
    (converts : List (κ → V)) : nextValues rowIndex (columnValues (row :: batch) index converts) =
      .ok (rowValues row index converts, columnValues batch index converts) := by
  induction converts generalizing index with
  | nil => rfl
  | cons convert converts ih =>
    rw [columnValues, List.map_cons, nextValues, ih]
    rfl

theorem bufferedRows_columnValues (columns : List MssqlColumn) (converts : List (κ → V))
    (rowIndex : ℕ) (batch : List (ℕ → κ)) (wire : Wire A V) :
    bufferedRows columns rowIndex batch.length (columnValues batch 0 converts) wire =
      (.ok (wire.sendRows (batch.map fun row ↦ ⟨columns, rowValues row 0 converts⟩)).1,
        (wire.sendRows (batch.map fun row ↦ ⟨columns, rowValues row 0 converts⟩)).2) := by
  induction batch generalizing rowIndex wire with
  | nil => rfl
  | cons row batch ih =>
    rw [List.length_cons, bufferedRows, nextValues_columnValues, List.map_cons,
      Wire.sendRows_cons]
    simp only [Proc.bind_apply, Proc.ofExcept_apply, sendRow, send]
    rcases wire.send (.ok (.inr ⟨columns, rowValues row 0 converts⟩)) with ⟨_ | _, wire'⟩
    · rfl
    · exact ih (rowIndex + 1) wire'

/-- The rows of a row set, all of them or, if a column cannot be converted, none. -/
def rowsetStream (bindings : List ColumnBinding) (batch : List (ℕ → κ)) :
    ErrStream Error (MssqlRow V) :=
  match conversions E bindings with
  | .error e => .check (some e)
  | .ok converts =>
    .ofList (batch.map fun row ↦ ⟨bindings.map ColumnBinding.column, rowValues row 0 converts⟩)

def bufferedReading (result : Result κ) (batchSize maxColumnSize : ℕ) : Reading V where
  rows :=
    match buildBufferBindings result.toMetadata maxColumnSize with
    | .error e => .check (some e)
    | .ok bindings =>
      .check (result.bindError.map (databaseError (bindContext batchSize))) ++
        (.concat (result.rowsets.map (rowsetStream E bindings)) ++
          .check (result.fetchError.map (databaseError "ODBC buffered fetch failed")))
  unbound := result.unbindError.map
    (databaseError "ODBC buffered fetch could not unbind row buffer")
  abandoned := result.unbindError.map
    (databaseError "ODBC buffered fetch could not unbind row buffer after receiver closed")

theorem bufferedRowsets_eq (bindings : List ColumnBinding) (result : Result κ)
    (rowsets : List (List (ℕ → κ))) (wire : Wire A V) :
    bufferedRowsets E (bindings.map ColumnBinding.column) bindings result rowsets wire =
      (⟨.concat (rowsets.map (rowsetStream E bindings)) ++
          .check (result.fetchError.map (databaseError "ODBC buffered fetch failed")),
        result.unbindError.map (databaseError "ODBC buffered fetch could not unbind row buffer"),
        result.unbindError.map (databaseError
          "ODBC buffered fetch could not unbind row buffer after receiver closed")⟩ :
        Reading V).send wire := by
  induction rowsets generalizing wire with
  | nil =>
    rw [bufferedRowsets]
    cases result.fetchError with
    | some e => rfl
    | none => cases result.unbindError <;> rfl
  | cons batch rowsets ih =>
    rw [bufferedRowsets, List.map_cons, ErrStream.concat_cons, ErrStream.append_assoc,
      bufferedValues_eq, Proc.bind_apply, Proc.ofExcept_apply]
    cases hconv : conversions E bindings with
    | error e =>
      have hbatch : rowsetStream E bindings batch = .check (some e) := by rw [rowsetStream, hconv]
      rw [hbatch, ErrStream.append_of_error (e := e) rfl, Reading.send_error (e := e) rfl rfl]
      rfl
    | ok converts =>
      have hbatch : rowsetStream E bindings batch = .ofList (batch.map fun row ↦
          ⟨bindings.map ColumnBinding.column, rowValues row 0 converts⟩) := by
        rw [rowsetStream, hconv]
      rw [hbatch, Reading.send_append]
      simp only [Except.map, Proc.bind_apply, bufferedRows_columnValues]
      rcases wire.sendRows (batch.map fun row ↦
        ⟨bindings.map ColumnBinding.column, rowValues row 0 converts⟩) with ⟨_ | _, wire'⟩
      · cases result.unbindError <;> rfl
      · exact ih wire'

theorem streamRowsBuffered_eq (result : Result κ) (batchSize maxColumnSize : ℕ)
    (wire : Wire A V) : streamRowsBuffered E result batchSize maxColumnSize wire =
      (bufferedReading E result batchSize maxColumnSize).send wire := by
  rw [streamRowsBuffered, Proc.bind_apply, Proc.ofExcept_apply, bufferedReading]
  cases buildBufferBindings result.toMetadata maxColumnSize with
  | error e => rfl
  | ok bindings =>
    cases result.bindError with
    | some e => rfl
    | none => exact bufferedRowsets_eq E bindings result _ wire

/-! ## The stream of a result -/

/-- What streaming a result set comes to in the mode of the connection. -/
def Result.reading (settings : MssqlBufferSettings) (result : Result κ) : Reading V :=
  match settings.maxColumnSize with
  | .some maxColumnSize => bufferedReading E result settings.batchSize maxColumnSize
  | .none => unbufferedReading E result

theorem streamOneResultSet_eq (settings : MssqlBufferSettings) (result : Result κ)
    (wire : Wire A V) : streamOneResultSet E settings result wire =
      (result.reading E settings).send wire := by
  rw [streamOneResultSet, Result.reading]
  cases settings.maxColumnSize with
  | some maxColumnSize => exact streamRowsBuffered_eq E result _ _ wire
  | none => exact streamRowsUnbuffered_eq E result wire

/-- The stream of a result: its row count, or its rows and an empty count. -/
def Result.stream (settings : MssqlBufferSettings) (result : Result κ) :
    ErrStream Error (MssqlQueryResult ⊕ MssqlRow V) :=
  match result.numResultCols with
  | .error e => .check (databaseError "failed to read ODBC result-column count" e)
  | .ok 0 =>
    match result.rowCount with
    | .error e => .check (databaseError "failed to read ODBC row count" e)
    | .ok rowsAffected => .ofList [.inl ⟨(max rowsAffected 0).toNat⟩]
  | .ok (_ + 1) =>
    (result.reading E settings).stream

end Readings

/-! ## The stream of a batch -/

/-- The error the step from a result to the next reports, with the replies behind the result. -/
def advanceError (result : Result κ) (unread : List (Reply κ)) : Option Error :=
  match result.fetchError, unread with
  | some e, _ => some (statementError (.error e) "failed to advance ODBC result set")
  | none, .failed failure :: _ =>
    some (statementError failure.toSqlResult "failed to advance ODBC result set")
  | none, _ => none

/-- The results of a batch from `result` on, as far as the advances lead, each with the error of the
advance behind it. -/
def visits (result : Result κ) : List (Reply κ) → List (Result κ × Option Error)
  | [] => [(result, advanceError result [])]
  | .failed failure :: unread => [(result, advanceError result (.failed failure :: unread))]
  | .result info next :: unread =>
    match advanceError result (.result info next :: unread) with
    | some e => [(result, some e)]
    | none => (result, none) :: visits next unread

/-- What the visit of a result and the advance behind it contribute to the stream. -/
def visitStream (E : Env C κ A V) (settings : MssqlBufferSettings)
    (visit : Result κ × Option Error) : ErrStream Error (MssqlQueryResult ⊕ MssqlRow V) :=
  visit.1.stream E settings ++ .check visit.2

/-- The stream of a batch from `result` on. -/
def resultsStream (E : Env C κ A V) (settings : MssqlBufferSettings) (result : Result κ)
    (unread : List (Reply κ)) : ErrStream Error (MssqlQueryResult ⊕ MssqlRow V) :=
  .concat ((visits result unread).map (visitStream E settings))

variable {E : Env C κ A V} {settings : MssqlBufferSettings}

/-- The replies a failed advance leaves on the handle. -/
def leftUnread (result : Result κ) (unread : List (Reply κ)) : List (Reply κ) :=
  match result.fetchError with
  | some _ => unread
  | none => unread.tail

theorem advanceError_fetch {result : Result κ} {e : OdbcError} (h : result.fetchError = some e)
    (unread : List (Reply κ)) : advanceError result unread =
      some (statementError (.error e) "failed to advance ODBC result set") := by
  simp only [advanceError, h]

theorem advanceError_failed {result : Result κ} (h : result.fetchError = none)
    (failure : AdvanceFailure) (unread : List (Reply κ)) :
    advanceError result (.failed failure :: unread) =
      some (statementError failure.toSqlResult "failed to advance ODBC result set") := by
  simp only [advanceError, h]

theorem advanceError_nil {result : Result κ} (h : result.fetchError = none) :
    advanceError result [] = none := by
  simp only [advanceError, h]

theorem advanceError_result {result : Result κ} (h : result.fetchError = none) (info : Bool)
    (next : Result κ) (unread : List (Reply κ)) :
    advanceError result (.result info next :: unread) = none := by
  simp only [advanceError, h]

/-- **What follows the visit of a result.**  The advance fails, or there is nothing more, or the
walk goes on from the next result. -/
theorem driveResultSets_next {result : Result κ} {unread : List (Reply κ)} {wire wire' : Wire A V}
    (h : visitResult E settings ⟨some result, unread⟩ wire = (none, ⟨some result, unread⟩, wire')) :
    (∃ e status, advanceError result unread = some e ∧ status ≠ .noData ∧
      driveResultSets E settings ⟨some result, unread⟩ wire =
        ⟨.error e, ⟨none, leftUnread result unread⟩, wire'.log (.moreResults status)⟩) ∨
    (advanceError result unread = none ∧ unread = [] ∧
      driveResultSets E settings ⟨some result, unread⟩ wire =
        ⟨.ok (), .closed, wire'.log (.moreResults .noData)⟩) ∨
    ∃ info next rest status, advanceError result unread = none ∧
      unread = .result info next :: rest ∧ status ≠ .noData ∧
      driveResultSets E settings ⟨some result, unread⟩ wire =
        driveResultSets E settings ⟨some next, rest⟩ (wire'.log (.moreResults status)) := by
  rw [driveResultSets_eq, h]
  simp only [StmtHandle.moreResults, StmtHandle.result, Option.getD_some]
  cases hfetch : result.fetchError with
  | some e =>
    refine Or.inl ⟨_, .error e, advanceError_fetch hfetch unread, by simp, ?_⟩
    rw [leftUnread, hfetch]
  | none =>
    cases unread with
    | nil => exact Or.inr (Or.inl ⟨advanceError_nil hfetch, rfl, rfl⟩)
    | cons reply rest =>
      cases reply with
      | failed failure =>
        refine Or.inl ⟨_, failure.toSqlResult, advanceError_failed hfetch failure rest, ?_, ?_⟩
        · cases failure <;> simp [AdvanceFailure.toSqlResult]
        · rw [leftUnread, hfetch]
          cases failure <;> rfl
      | result info next =>
        have hadvance := advanceError_result hfetch info next rest
        cases info with
        | false =>
          exact Or.inr (Or.inr ⟨_, next, rest, .success (), hadvance, rfl, by simp, rfl⟩)
        | true =>
          exact Or.inr (Or.inr ⟨_, next, rest, .successWithInfo (), hadvance, rfl, by simp, rfl⟩)

/-! ### The stream, result by result -/

theorem visits_of_advanceError {result : Result κ} {unread : List (Reply κ)} {e : Error}
    (h : advanceError result unread = some e) : visits result unread = [(result, some e)] := by
  rcases unread with _ | ⟨reply | reply, unread⟩
  · rw [visits, h]
  · rw [visits, h]
  · rw [visits, h]

theorem visits_result {result : Result κ} {info : Bool} {next : Result κ}
    {unread : List (Reply κ)} (h : advanceError result (.result info next :: unread) = none) :
    visits result (.result info next :: unread) = (result, none) :: visits next unread := by
  rw [visits, h]

/-- The first visit is that of the result the walk starts from. -/
theorem visits_eq_cons (result : Result κ) (unread : List (Reply κ)) :
    ∃ e l, visits result unread = (result, e) :: l := by
  cases h : advanceError result unread with
  | some e => exact ⟨_, _, visits_of_advanceError h⟩
  | none =>
    rcases unread with _ | ⟨reply | failure, unread⟩
    · exact ⟨_, _, rfl⟩
    · exact ⟨_, _, visits_result h⟩
    · exact ⟨_, _, rfl⟩

theorem resultsStream_stopped {result : Result κ} {e : Error}
    (h : (result.stream E settings).error = some e) (unread : List (Reply κ)) :
    resultsStream E settings result unread = result.stream E settings := by
  obtain ⟨e', l, hvisits⟩ := visits_eq_cons result unread
  have hvisit : visitStream E settings (result, e') = result.stream E settings :=
    ErrStream.append_of_error h
  rw [resultsStream, hvisits, List.map_cons, ErrStream.concat_cons, hvisit,
    ErrStream.append_of_error h]

theorem resultsStream_failed {result : Result κ} {unread : List (Reply κ)} {e : Error}
    (h : (result.stream E settings).error = none) (hadvance : advanceError result unread = some e) :
    resultsStream E settings result unread = ⟨(result.stream E settings).items, some e⟩ := by
  have hvisit : visitStream E settings (result, some e) =
      ⟨(result.stream E settings).items, some e⟩ :=
    ErrStream.ext ((ErrStream.append_items h).trans (List.append_nil _)) (ErrStream.append_error h)
  rw [resultsStream, visits_of_advanceError hadvance, List.map_cons, ErrStream.concat_cons, hvisit,
    ErrStream.append_of_error rfl]

theorem visitStream_none {result : Result κ} (h : (result.stream E settings).error = none) :
    visitStream E settings (result, none) = result.stream E settings :=
  ErrStream.ext ((ErrStream.append_items h).trans (List.append_nil _))
    ((ErrStream.append_error h).trans h.symm)

theorem resultsStream_last {result : Result κ} (h : (result.stream E settings).error = none)
    (hadvance : advanceError result [] = none) :
    resultsStream E settings result [] = result.stream E settings := by
  rw [resultsStream, visits, hadvance, List.map_cons, ErrStream.concat_cons, visitStream_none h]
  exact ErrStream.ext ((ErrStream.append_items h).trans (List.append_nil _))
    ((ErrStream.append_error h).trans h.symm)

theorem resultsStream_next {result next : Result κ} {info : Bool} {unread : List (Reply κ)}
    (h : (result.stream E settings).error = none)
    (hadvance : advanceError result (.result info next :: unread) = none) :
    resultsStream E settings result (.result info next :: unread) =
      result.stream E settings ++ resultsStream E settings next unread := by
  rw [resultsStream, visits_result hadvance, List.map_cons, ErrStream.concat_cons,
    visitStream_none h, resultsStream]

/-! ## The open receiver -/

/-- The items of a stream, sent one by one. -/
def sentItems (items : List (MssqlQueryResult ⊕ MssqlRow V)) : List (Event A V) :=
  items.map fun item ↦ .sent (.ok item)

theorem items_sentItems (items : List (MssqlQueryResult ⊕ MssqlRow V)) :
    Wire.items (sentItems items : List (Event A V)) = items.map .ok := by
  induction items with
  | nil => rfl
  | cons item items ih => exact congrArg (Except.ok item :: ·) ih

theorem executions_sentItems (items : List (MssqlQueryResult ⊕ MssqlRow V)) :
    Wire.executions (sentItems items : List (Event A V)) = [] := by
  induction items with
  | nil => rfl
  | cons item items ih => exact ih

theorem not_mem_sentItems (items : List (MssqlQueryResult ⊕ MssqlRow V))
    (status : SqlResult Unit) : (.moreResults status : Event A V) ∉ sentItems items := by
  rw [sentItems, List.mem_map]
  rintro ⟨item, -, h⟩
  cases h

/-- The row an event sends. -/
def Event.row : Event A V → Option (MssqlRow V)
  | .sent (.ok (.inr row)) => some row
  | _ => none

/-- The events behind the items of a stream, as far as rows go: a row is one event, and a count is
followed by the step to the next result. -/
def schedule (items : List (MssqlQueryResult ⊕ MssqlRow V)) : List (Option (MssqlRow V)) :=
  items.flatMap fun
    | .inl _ => [none, none]
    | .inr row => [some row]

/-- The items of a result that was read to its end. -/
def Closed (items : List (MssqlQueryResult ⊕ MssqlRow V)) : Prop :=
  ∃ (rows : List (MssqlRow V)) (queryResult : MssqlQueryResult),
    items = rows.map .inr ++ [.inl queryResult]

theorem schedule_append (items items' : List (MssqlQueryResult ⊕ MssqlRow V)) :
    schedule (items ++ items') = schedule items ++ schedule items' :=
  List.flatMap_append

theorem schedule_rows (rows : List (MssqlRow V)) :
    schedule (rows.map .inr) = (sentItems (rows.map .inr) : List (Event A V)).map Event.row := by
  induction rows with
  | nil => rfl
  | cons row rows ih => exact congrArg (some row :: ·) ih

/-- A result that was read to its end and the step behind it take the events of its items. -/
theorem Closed.schedule_eq {items : List (MssqlQueryResult ⊕ MssqlRow V)} (h : Closed items)
    (status : SqlResult Unit) : schedule items =
      (sentItems items ++ [.moreResults status] : List (Event A V)).map Event.row := by
  obtain ⟨rows, queryResult, rfl⟩ := h
  rw [schedule_append, schedule_rows (A := A), sentItems, sentItems]
  simp only [List.map_append, List.append_assoc]
  rfl

variable (E settings) in
/-- A result that can be read to its end is closed by a count, and so is one whose row buffer cannot
be given back; any other sends rows only. -/
theorem Result.stream_closed (result : Result κ) :
    Closed (result.stream E settings).items ∨ (result.stream E settings).error ≠ .none ∧
      ∃ rows : List (MssqlRow V), (result.stream E settings).items = rows.map .inr := by
  rw [Result.stream]
  rcases result.numResultCols with e | _ | n
  · exact Or.inr ⟨Option.some_ne_none _, [], rfl⟩
  · simp only
    cases result.rowCount with
    | error e => exact Or.inr ⟨Option.some_ne_none _, [], rfl⟩
    | ok rowsAffected => exact Or.inl ⟨[], _, rfl⟩
  · simp only
    cases herror : (result.reading E settings).rows.error with
    | some e =>
      rw [Reading.stream_of_error herror, ErrStream.map_error, herror]
      exact Or.inr ⟨Option.some_ne_none e, _, rfl⟩
    | none => exact Or.inl ⟨_, _, Reading.stream_items herror⟩

/-- With the receiver kept open, a result set is sent as far as it can be read. -/
theorem Reading.send_open (reading : Reading V) (trace : List (Event A V)) :
    reading.send ⟨none, trace⟩ =
      (result reading.stream.error true, ⟨none, trace ++ sentItems reading.stream.items⟩) := by
  simp only [send, Wire.sendRows_open]
  cases herror : reading.rows.error with
  | some e =>
    rw [stream_of_error herror, ErrStream.map_error, herror, sentItems, ErrStream.map_items,
      List.map_map]
    rfl
  | none =>
    rw [stream_items herror, stream_error herror, sentItems, List.map_append, List.map_map,
      ← List.append_assoc]
    rfl

variable (E settings) in
theorem visitResult_open (result : Result κ) (unread : List (Reply κ)) (trace : List (Event A V)) :
    ∃ stmt, visitResult E settings ⟨some result, unread⟩ ⟨none, trace⟩ =
      ((result.stream E settings).error.map .error, stmt,
        ⟨none, trace ++ sentItems (result.stream E settings).items⟩) := by
  rw [visitResult, Result.stream]
  simp only [StmtHandle.result, Option.getD_some, streamOneResultSet_eq, Reading.send_open]
  have hnothing : trace ++ sentItems ([] : List (MssqlQueryResult ⊕ MssqlRow V)) = trace :=
    List.append_nil trace
  rcases result.numResultCols with e | _ | n
  · exact ⟨_, by rw [ErrStream.check_items, hnothing]; rfl⟩
  · simp only
    cases result.rowCount with
    | error e => exact ⟨_, by rw [ErrStream.check_items, hnothing]; rfl⟩
    | ok rowsAffected => exact ⟨_, rfl⟩
  · simp only
    cases (result.reading E settings).stream.error with
    | none => exact ⟨_, rfl⟩
    | some e => exact ⟨_, rfl⟩

/-- The events of a walk that sends a stream.  The step that finds no more results is its last
event, and it is there exactly if the stream does not fail. -/
structure Carries (stream : ErrStream Error (MssqlQueryResult ⊕ MssqlRow V))
    (events : List (Event A V)) : Prop where
  items : Wire.items events = stream.items.map .ok
  executions : Wire.executions events = []
  ended : ∃ walk, .moreResults .noData ∉ walk ∧
    events = walk ++ if stream.error = none then [.moreResults .noData] else []
  /-- The rows are sent when the schedule says; only a step behind the last count may be missing. -/
  rows : ∃ rest, schedule stream.items = events.map Event.row ++ rest ∧ ∀ row, some row ∉ rest

namespace Carries

variable {stream : ErrStream Error (MssqlQueryResult ⊕ MssqlRow V)} {events : List (Event A V)}

/-- A walk that stops at a result. -/
theorem stopped {e : Error} (h : stream.error = some e)
    (hitems : Closed stream.items ∨ ∃ rows : List (MssqlRow V), stream.items = rows.map .inr) :
    Carries stream (sentItems stream.items : List (Event A V)) where
  items := items_sentItems _
  executions := executions_sentItems _
  ended := by
    refine ⟨sentItems stream.items, not_mem_sentItems _ _, ?_⟩
    rw [h, if_neg (by simp), List.append_nil]
  rows := by
    obtain hclosed | ⟨rows, hrows⟩ := hitems
    · refine ⟨[none], ?_, by simp⟩
      rw [hclosed.schedule_eq (A := A) .noData, List.map_append]
      rfl
    · exact ⟨[], by rw [hrows, schedule_rows, List.append_nil], by simp⟩

theorem items_advanced (items : List (MssqlQueryResult ⊕ MssqlRow V)) (status : SqlResult Unit) :
    Wire.items (sentItems items ++ [.moreResults status] : List (Event A V)) = items.map .ok := by
  rw [Wire.items_append, items_sentItems]
  exact List.append_nil _

theorem executions_advanced (items : List (MssqlQueryResult ⊕ MssqlRow V))
    (status : SqlResult Unit) :
    Wire.executions (sentItems items ++ [.moreResults status] : List (Event A V)) = [] := by
  rw [Wire.executions_append, executions_sentItems]
  rfl

/-- A result that was read to its end, and an advance that fails. -/
theorem failed {e : Error} {status : SqlResult Unit} (h : stream.error = some e)
    (hitems : Closed stream.items) (hstatus : status ≠ .noData) :
    Carries stream (sentItems stream.items ++ [.moreResults status] : List (Event A V)) where
  items := items_advanced _ _
  executions := executions_advanced _ _
  ended := by
    refine ⟨sentItems stream.items ++ [.moreResults status], ?_, ?_⟩
    · simp [not_mem_sentItems, hstatus.symm]
    · rw [h, if_neg (by simp), List.append_nil]
  rows := ⟨[], by rw [hitems.schedule_eq status, List.append_nil], by simp⟩

/-- A result that was read to its end, and nothing behind it. -/
theorem last (h : stream.error = none) (hitems : Closed stream.items) :
    Carries stream (sentItems stream.items ++ [.moreResults .noData] : List (Event A V)) where
  items := items_advanced _ _
  executions := executions_advanced _ _
  ended := ⟨sentItems stream.items, not_mem_sentItems _ _, by rw [if_pos h]⟩
  rows := ⟨[], by rw [hitems.schedule_eq .noData, List.append_nil], by simp⟩

/-- A result that was read to its end, a step to the next result, and what the walk does there. -/
theorem next {first : ErrStream Error (MssqlQueryResult ⊕ MssqlRow V)} {status : SqlResult Unit}
    (hfirst : first.error = none) (hitems : Closed first.items) (hstatus : status ≠ .noData)
    (h : Carries stream events) :
    Carries (first ++ stream) (sentItems first.items ++ .moreResults status :: events) where
  items := by
    rw [Wire.items_append, items_sentItems, ErrStream.append_items hfirst, List.map_append,
      ← h.items]
    rfl
  executions := by
    rw [Wire.executions_append, executions_sentItems]
    exact h.executions
  ended := by
    obtain ⟨walk, hwalk, hevents⟩ := h.ended
    refine ⟨sentItems first.items ++ .moreResults status :: walk, ?_, ?_⟩
    · simp [not_mem_sentItems, hstatus.symm, hwalk]
    · rw [ErrStream.append_error hfirst, List.append_assoc, List.cons_append, ← hevents]
  rows := by
    obtain ⟨rest, hrest, hnone⟩ := h.rows
    refine ⟨rest, ?_, hnone⟩
    rw [ErrStream.append_items hfirst, schedule_append, hitems.schedule_eq (A := A) status, hrest,
      List.map_append, List.map_append, List.append_assoc, List.append_assoc]
    rfl

/-- What is sent when the error of the stream follows its items. -/
theorem items_trace (h : Carries stream events) (sql : String) (parameters : List A) :
    Wire.items (.executed sql parameters :: events ++
      stream.error.toList.map fun e ↦ .sent (.error e)) = stream.toList := by
  have herror : Wire.items (stream.error.toList.map fun e ↦ (.sent (.error e) : Event A V)) =
      stream.error.toList.map .error := by
    cases stream.error <;> rfl
  rw [Wire.items_append, herror, ErrStream.toList, ← h.items]
  rfl

theorem executions_trace (h : Carries stream events) (sql : String) (parameters : List A) :
    Wire.executions (.executed sql parameters :: events ++
      stream.error.toList.map fun e ↦ .sent (.error e)) = [(sql, parameters)] := by
  have herror : Wire.executions (stream.error.toList.map fun e ↦ (.sent (.error e) : Event A V)) =
      [] := by
    cases stream.error <;> rfl
  rw [Wire.executions_append, herror, List.append_nil]
  exact congrArg ((sql, parameters) :: ·) h.executions

end Carries

/-- **The walk sends the stream of the batch.**  By induction on what is unread: the visit sends the
stream of the result, and either the walk stops with the error of the stream, or the advance leads
to the next result. -/
theorem driveResultSets_streams (result : Result κ) (unread : List (Reply κ))
    (trace : List (Event A V)) :
    ∃ events stmt, Carries (resultsStream E settings result unread) events ∧
      driveResultSets E settings ⟨some result, unread⟩ ⟨none, trace⟩ =
        ⟨(resultsStream E settings result unread).outcome, stmt, ⟨none, trace ++ events⟩⟩ := by
  induction hn : unread.length using Nat.strongRecOn generalizing result unread trace with
  | ind n ih =>
  obtain ⟨stmt, hvisit⟩ := visitResult_open E settings result unread trace
  cases hstream : (result.stream E settings).error with
  | some e =>
    rw [hstream] at hvisit
    rw [resultsStream_stopped hstream, driveResultSets_eq, hvisit,
      ErrStream.outcome_of_some hstream]
    refine ⟨_, stmt, .stopped hstream ?_, rfl⟩
    exact (Result.stream_closed E settings result).imp_right And.right
  | none =>
    rw [hstream] at hvisit
    obtain rfl := visitResult_next hvisit
    have hclosed : Closed (result.stream E settings).items :=
      (Result.stream_closed E settings result).resolve_right fun h ↦ h.1 hstream
    obtain ⟨e, status, hadvance, hstatus, hdrive⟩ | ⟨hadvance, rfl, hdrive⟩ |
      ⟨info, next, rest, status, hadvance, rfl, hstatus, hdrive⟩ := driveResultSets_next hvisit
    · rw [hdrive, resultsStream_failed hstream hadvance]
      refine ⟨_, ⟨none, leftUnread result unread⟩, .failed rfl hclosed hstatus, ?_⟩
      rw [Wire.log, List.append_assoc]
      rfl
    · rw [hdrive, resultsStream_last hstream hadvance, ErrStream.outcome_of_none hstream]
      refine ⟨_, .closed, .last hstream hclosed, ?_⟩
      rw [Wire.log, List.append_assoc]
    · rw [resultsStream_next hstream hadvance]
      obtain ⟨events, stmt', hcarries, hrest⟩ := ih rest.length (by rw [← hn]; simp) next rest
        (trace ++ sentItems (result.stream E settings).items ++ [.moreResults status]) rfl
      have houtcome : (result.stream E settings ++ resultsStream E settings next rest).outcome =
          (resultsStream E settings next rest).outcome := by
        rw [ErrStream.outcome, ErrStream.append_error hstream, ← ErrStream.outcome]
      refine ⟨_, stmt', hcarries.next hstream hclosed hstatus, ?_⟩
      rw [hdrive, houtcome]
      refine hrest.trans ?_
      rw [List.append_assoc, List.append_assoc, List.singleton_append]

end MssqlOdbc
