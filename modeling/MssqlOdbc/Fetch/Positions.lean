import MssqlOdbc.Execute.Stream
import MssqlOdbc.Fetch.Delivered

/-!
# Rows and columns of a result set

A row set arrives column by column, and its rows are put together again by advancing one iterator
for each column.  `ReadFrom mode columns row sent` says that `sent` is the row `row` of the result
set, read in the mode `mode`: a value for each column, the one at position `j` made of the cell in
column `j`.

The buffered rows are those of the fetched row sets in order, whichever way the rows were split
(`streamRowsBuffered_rows`), and the unbuffered ones are read from the same rows.
-/

set_option autoImplicit false

namespace MssqlOdbc

/-! ## Rows -/

/-- The row `sent` holds what `mode` reads from the cells of `row`, column by column. -/
structure ReadFrom (mode : FetchMode) (columns : List MssqlColumn) (row : ℕ → Cell)
    (sent : MssqlRow MssqlValue) : Prop where
  columns_eq : sent.columns = columns
  length_eq : sent.values.length = columns.length
  value_eq : ∀ j (hj : j < columns.length) (hj' : j < sent.values.length),
    mode.fetch columns[j] (row j) = .ok sent.values[j]

/-- The calls on the result set succeed, and the driver fetches these rows.  How it splits them into
row sets is left open. -/
structure Result.FetchesRows (result : Result Cell) (metadata : Metadata)
    (rows : List (ℕ → Cell)) : Prop where
  metadata_eq : result.toMetadata = metadata
  bindError : result.bindError = .none
  rows_eq : result.rowsets.flatten = rows
  fetchError : result.fetchError = .none

/-- The columns are numbered from zero, and there are no more than fit `u16`. -/
theorem collectColumns_ordinal {metadata : Metadata} {columns : List MssqlColumn}
    (h : collectColumns metadata = .ok columns) {j : ℕ} (hj : j < columns.length) :
    columns[j].ordinal = j ∧ j < 65535 := by
  have hall : List.Forall₂ (fun p column ↦ collectColumn p.2 p.1 = .ok column)
      metadata.columns.zipIdx columns := by
    rw [collectColumns] at h
    cases hcount : metadata.numResultCols with
    | error e => rw [hcount] at h; cases h
    | ok n =>
      rw [hcount] at h
      exact mapM_eq_ok_iff.1 h
  have hj' : j < metadata.columns.zipIdx.length := by rw [hall.length_eq]; exact hj
  have hcolumn := hall.get hj' hj
  rw [List.get_eq_getElem, List.get_eq_getElem, List.getElem_zipIdx, Nat.zero_add] at hcolumn
  dsimp only [collectColumn] at hcolumn
  split at hcolumn
  · cases hcolumn
  · rename_i hlt
    split at hcolumn
    · cases hcolumn
    · injection hcolumn with hcolumn
      rw [← hcolumn]
      exact ⟨rfl, by omega⟩

/-! ## Buffered -/

section Modes

variable {C A : Type} (exec : String → List A → C → Batch Cell × C)
  (prepare : String → C → Except OdbcError PreparedInfo) (refusal : Sql → OdbcError)
  (cache : CacheImpl String (Prepared Cell))

theorem rowValues_length {κ V : Type} (row : ℕ → κ) (index : ℕ) (converts : List (κ → V)) :
    (rowValues row index converts).length = converts.length := by
  induction converts generalizing index with
  | nil => rfl
  | cons convert converts ih => rw [rowValues, List.length_cons, List.length_cons, ih]

/-- The iterators are as many columns further as the row is long. -/
theorem rowValues_getElem {κ V : Type} (row : ℕ → κ) (index : ℕ) (converts : List (κ → V)) {j : ℕ}
    (hj : j < converts.length) (hj' : j < (rowValues row index converts).length) :
    (rowValues row index converts)[j] = converts[j] (row (index + j)) := by
  induction converts generalizing index j with
  | nil => exact absurd hj (Nat.not_lt_zero j)
  | cons convert converts ih =>
    cases j with
    | zero => rfl
    | succ j =>
      simp only [rowValues, List.getElem_cons_succ]
      rw [ih (index + 1) (Nat.lt_of_succ_lt_succ hj), Nat.add_assoc, Nat.add_comm 1 j]

/-- The columns the driver binds can all be converted. -/
theorem conversions_ok (columns : List MssqlColumn) (maxColumnSize : ℕ) :
    ∃ converts, conversions (Env.odbc exec prepare refusal cache)
        (columns.map fun column ↦ column.binding maxColumnSize) = .ok converts ∧
      List.Forall₂ (fun column convert ↦ ∀ cell,
        (FetchMode.buffered maxColumnSize).fetch column cell = .ok (convert cell))
        columns converts := by
  induction columns with
  | nil => exact ⟨[], rfl, .nil⟩
  | cons column columns ih =>
    obtain ⟨converts, hconverts, hall⟩ := ih
    obtain ⟨convert, hconvert⟩ := bufferedKind_ok column maxColumnSize
    have hcolumn : bufferedColumn (column.binding maxColumnSize) =
        .ok fun cell ↦ ⟨convert cell⟩ := by
      rw [bufferedColumn, hconvert]
      rfl
    refine ⟨(fun cell ↦ ⟨convert cell⟩) :: converts, ?_, .cons (buffered_fetch hconvert) hall⟩
    have hhead : (Env.odbc exec prepare refusal cache).bufferedColumn
        (column.binding maxColumnSize) = .ok fun cell ↦ ⟨convert cell⟩ := hcolumn
    rw [List.map_cons, conversions, hhead, hconverts]
    rfl

theorem buildBufferBindings_eq {metadata : Metadata} {columns : List MssqlColumn}
    (h : collectColumns metadata = .ok columns) (maxColumnSize : ℕ) :
    buildBufferBindings metadata maxColumnSize =
      .ok (columns.map fun column ↦ column.binding maxColumnSize) := by
  rw [buildBufferBindings, h]
  rfl

theorem map_column_binding (columns : List MssqlColumn) (maxColumnSize : ℕ) :
    (columns.map fun column ↦ column.binding maxColumnSize).map ColumnBinding.column = columns := by
  rw [List.map_map]
  exact List.map_id columns

/-- The stream of the rows of a result set, whatever the row sets. -/
theorem bufferedReading_rows {metadata : Metadata} {columns : List MssqlColumn}
    {rows : List (ℕ → Cell)} {result : Result Cell}
    (hcolumns : collectColumns metadata = .ok columns)
    (hresult : result.FetchesRows metadata rows) (batchSize maxColumnSize : ℕ)
    {converts : List (Cell → MssqlValue)}
    (hconverts : conversions (Env.odbc exec prepare refusal cache)
      (columns.map fun column ↦ column.binding maxColumnSize) = .ok converts) :
    (bufferedReading (Env.odbc exec prepare refusal cache) result batchSize maxColumnSize).rows =
      .ofList (rows.map fun row ↦ ⟨columns, rowValues row 0 converts⟩) := by
  have hrowset : rowsetStream (Env.odbc exec prepare refusal cache)
      (columns.map fun column ↦ column.binding maxColumnSize) = fun batch ↦
        .ofList (batch.map fun row ↦ ⟨columns, rowValues row 0 converts⟩) := by
    funext batch
    rw [rowsetStream, hconverts, map_column_binding]
  have hbindings : buildBufferBindings result.toMetadata maxColumnSize =
      .ok (columns.map fun column ↦ column.binding maxColumnSize) := by
    rw [hresult.metadata_eq]
    exact buildBufferBindings_eq hcolumns maxColumnSize
  simp only [bufferedReading, hbindings, hresult.bindError, hresult.fetchError, Option.map_none,
    hrowset]
  rw [ErrStream.concat_map_ofList, hresult.rows_eq, ErrStream.append_check_none,
    ErrStream.check_none_append]

/-- The row put together from the column values is read from the fetched row. -/
theorem readFrom_rowValues {columns : List MssqlColumn} {maxColumnSize : ℕ}
    {converts : List (Cell → MssqlValue)}
    (h : List.Forall₂ (fun column convert ↦ ∀ cell,
      (FetchMode.buffered maxColumnSize).fetch column cell = .ok (convert cell)) columns converts)
    (row : ℕ → Cell) :
    ReadFrom (.buffered maxColumnSize) columns row ⟨columns, rowValues row 0 converts⟩ where
  columns_eq := rfl
  length_eq := (rowValues_length row 0 converts).trans h.length_eq.symm
  value_eq := by
    intro j hj hj'
    have hconvert : j < converts.length := h.length_eq ▸ hj
    have hcolumn := h.get hj hconvert (row j)
    rw [List.get_eq_getElem, List.get_eq_getElem] at hcolumn
    rw [hcolumn]
    dsimp only
    rw [rowValues_getElem row 0 converts hconvert, Nat.zero_add]

/-! ## Unbuffered -/

/-- Every cell of the row can be fetched on its own. -/
def Fetchable (columns : List MssqlColumn) (row : ℕ → Cell) : Prop :=
  ∀ column ∈ columns, ∃ value, FetchMode.unbuffered.fetch column (row column.ordinal) = .ok value

theorem fetchRow_readFrom {metadata : Metadata} {columns : List MssqlColumn}
    (hcolumns : collectColumns metadata = .ok columns) {row : ℕ → Cell}
    (h : Fetchable columns row) :
    ∃ sent, fetchRow (Env.odbc exec prepare refusal cache) columns row = .ok sent ∧
      ReadFrom .unbuffered columns row sent := by
  have hone : ∀ column ∈ columns, ∃ value,
      (if 65535 < column.ordinal + 1 then .error (.protocol "ODBC column index exceeds u16")
        else fetchValue column (row column.ordinal)) = (.ok value : Except Error MssqlValue) := by
    intro column hcolumn
    obtain ⟨j, hj, rfl⟩ := List.getElem_of_mem hcolumn
    obtain ⟨value, hvalue⟩ := h _ hcolumn
    have hordinal := collectColumns_ordinal hcolumns hj
    refine ⟨value, ?_⟩
    rw [if_neg (by omega)]
    exact hvalue
  obtain ⟨values, hvalues⟩ := exists_forall₂_iff.2 hone
  refine ⟨⟨columns, values⟩, ?_, rfl, hvalues.length_eq.symm, ?_⟩
  · rw [fetchRow, fetchValues]
    have hmap := mapM_eq_ok_iff.2 hvalues
    exact congrArg (Except.map (MssqlRow.mk columns)) hmap
  · intro j hj hj'
    have hvalue := hvalues.get hj hj'
    have hordinal := collectColumns_ordinal hcolumns hj
    rw [List.get_eq_getElem, List.get_eq_getElem, hordinal.1, if_neg (by omega)] at hvalue
    exact hvalue

/-- The rows of a result set all of whose cells can be fetched. -/
theorem unbufferedReading_rows {metadata : Metadata} {columns : List MssqlColumn}
    {rows : List (ℕ → Cell)} {result : Result Cell}
    (hcolumns : collectColumns metadata = .ok columns) (hresult : result.FetchesRows metadata rows)
    (h : ∀ row ∈ rows, Fetchable columns row) :
    ∃ sent, List.Forall₂ (ReadFrom .unbuffered columns) rows sent ∧
      (unbufferedReading (Env.odbc exec prepare refusal cache) result).rows = .ofList sent := by
  obtain ⟨sent, hsent⟩ := exists_forall₂_iff.2 fun row hrow ↦
    fetchRow_readFrom exec prepare refusal cache hcolumns (h row hrow)
  refine ⟨sent, hsent.imp fun _ _ hrow ↦ hrow.2, ?_⟩
  have hitems := ErrStream.concat_ofExcept (hsent.imp fun _ _ hrow ↦ hrow.1)
  simp only [unbufferedReading, hresult.metadata_eq, hcolumns, hresult.rows_eq,
    hresult.fetchError, Option.map_none]
  rw [hitems, ErrStream.append_check_none]

/-! ## Both modes -/

/-- The items of a reading that is not cut short: its rows, and one count. -/
theorem Reading.sent_rows {V : Type} {reading : Reading V} {rows : List (MssqlRow V)}
    (h : reading.rows = .ofList rows) :
    reading.stream.items = rows.map .inr ++ [.inl ⟨0⟩] := by
  have hrows : reading.rows.error = none := by rw [h, ErrStream.ofList_error]
  rw [Reading.stream_items hrows, h, ErrStream.ofList_items]

/-- **The rows are sent in order, value by value from the columns.**  With the receiver kept open,
streaming a result set buffered sends one row for each fetched row, read column by column from that
row, and one count behind them.  The rows sent do not depend on the row sets the driver fetched them
in, nor on their size.  Unbuffered, the rows are read from the same rows in the same order, as long
as every cell can be fetched. -/
theorem streamed_rows {metadata : Metadata} {columns : List MssqlColumn}
    (hcolumns : collectColumns metadata = .ok columns) (maxColumnSize : ℕ)
    (rows : List (ℕ → Cell)) :
    ∃ sent, List.Forall₂ (ReadFrom (.buffered maxColumnSize) columns) rows sent ∧
      ∀ result : Result Cell, result.FetchesRows metadata rows →
        (∀ batchSize trace,
          (streamRowsBuffered (Env.odbc exec prepare refusal cache) result batchSize maxColumnSize
            ⟨none, trace⟩).2 = ⟨none, trace ++ sentItems (sent.map .inr ++ [.inl ⟨0⟩])⟩) ∧
        ((∀ row ∈ rows, Fetchable columns row) →
          ∃ sent', List.Forall₂ (ReadFrom .unbuffered columns) rows sent' ∧ ∀ trace,
            streamRowsUnbuffered (Env.odbc exec prepare refusal cache) result ⟨none, trace⟩ =
              (.ok true, ⟨none, trace ++ sentItems (sent'.map .inr ++ [.inl ⟨0⟩])⟩)) := by
  obtain ⟨converts, hconverts, hall⟩ :=
    conversions_ok exec prepare refusal cache columns maxColumnSize
  refine ⟨rows.map fun row ↦ ⟨columns, rowValues row 0 converts⟩, ?_, ?_⟩
  · rw [List.forall₂_map_right_iff]
    exact List.forall₂_same.2 fun row _ ↦ readFrom_rowValues hall row
  · intro result hresult
    constructor
    · intro batchSize trace
      have hrows := bufferedReading_rows exec prepare refusal cache hcolumns hresult batchSize
        maxColumnSize hconverts
      rw [streamRowsBuffered_eq, Reading.send_open, Reading.sent_rows hrows]
    · intro hcells
      obtain ⟨sent', hsent', hrows⟩ :=
        unbufferedReading_rows exec prepare refusal cache hcolumns hresult hcells
      refine ⟨sent', hsent', fun trace ↦ ?_⟩
      have hend : (unbufferedReading (Env.odbc exec prepare refusal cache) result).rows.error =
          none := by rw [hrows, ErrStream.ofList_error]
      rw [streamRowsUnbuffered_eq, Reading.send_open, Reading.sent_rows hrows,
        Reading.stream_error hend]
      rfl

end Modes

/-- The cell of an integer. -/
def Cell.ofInteger (n : I32) : Cell :=
  { Cell.null with
    i32 := .ok (some n)
    i64 := .ok (some (n.widen IntType.i32_within_i64)) }

/-- A row of two integers. -/
def integerRow (m n : I32) : ℕ → Cell
  | 0 => .ofInteger m
  | _ => .ofInteger n

def integerColumn (ordinal : ℕ) : MssqlColumn := ⟨ordinal, s!"c{ordinal}", ⟨.integer⟩, some false⟩

/-- Three rows of two columns, fetched two at a time. -/
def threeRows : Result Cell :=
  { Result.ofRows (κ := Cell) 2 [] with
    rowsets := [
      [integerRow ⟨1, by decide⟩ ⟨2, by decide⟩, integerRow ⟨3, by decide⟩ ⟨4, by decide⟩],
      [integerRow ⟨5, by decide⟩ ⟨6, by decide⟩]] }

/-- A server that answers with the three rows. -/
def answerThreeRows : String → List Unit → Unit → Batch Cell × Unit :=
  fun _ _ contents ↦ (⟨.ok threeRows, []⟩, contents)

theorem fetchable_integerRow (m n : I32) :
    Fetchable [integerColumn 0, integerColumn 1] (integerRow m n) := by
  intro column hcolumn
  rw [List.mem_cons, List.mem_singleton] at hcolumn
  obtain rfl | rfl := hcolumn
  · exact ⟨⟨.integer m⟩, rfl⟩
  · exact ⟨⟨.integer n⟩, rfl⟩

theorem threeRows_sent :
    let E := Env.odbc answerThreeRows (fun _ _ ↦ .ok ⟨⟨none, []⟩, .ok 0, fun _ ↦ .ok .integer⟩)
      (fun _ ↦ ⟨none, "no such savepoint"⟩) (lru String (Prepared Cell))
    ∃ sent : List (MssqlRow MssqlValue), sent.length = 3 ∧
      (streamRowsBuffered E threeRows 2 255 ⟨none, []⟩).2 =
        ⟨none, sentItems (sent.map .inr ++ [.inl ⟨0⟩])⟩ ∧
      ∃ sent' : List (MssqlRow MssqlValue), sent'.length = 3 ∧
        streamRowsUnbuffered E threeRows ⟨none, []⟩ =
          (.ok true, ⟨none, sentItems (sent'.map .inr ++ [.inl ⟨0⟩])⟩) := by
  intro E
  have hcolumns : collectColumns threeRows.toMetadata = .ok [integerColumn 0, integerColumn 1] := by
    decide
  obtain ⟨sent, hsent, hstream⟩ := streamed_rows answerThreeRows
    (fun _ _ ↦ .ok ⟨⟨none, []⟩, .ok 0, fun _ ↦ .ok .integer⟩)
    (fun _ ↦ ⟨none, "no such savepoint"⟩) (lru String (Prepared Cell))
    hcolumns 255 threeRows.rowsets.flatten
  obtain ⟨hbuffered, hunbuffered⟩ := hstream threeRows ⟨rfl, rfl, rfl, rfl⟩
  have hcells : ∀ row ∈ threeRows.rowsets.flatten,
      Fetchable [integerColumn 0, integerColumn 1] row := by
    have hrows : threeRows.rowsets.flatten =
        [integerRow ⟨1, by decide⟩ ⟨2, by decide⟩, integerRow ⟨3, by decide⟩ ⟨4, by decide⟩,
          integerRow ⟨5, by decide⟩ ⟨6, by decide⟩] := rfl
    rw [hrows]
    simp only [List.forall_mem_cons, fetchable_integerRow, true_and]
    exact List.forall_mem_nil _
  obtain ⟨sent', hsent', hsent'_stream⟩ := hunbuffered hcells
  exact ⟨sent, hsent.length_eq.symm, hbuffered 2 [], sent', hsent'.length_eq.symm,
    hsent'_stream []⟩

end MssqlOdbc
