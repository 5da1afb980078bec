import Mathlib
import MssqlOdbc.Connection.Frames
import MssqlOdbc.Execute.Stream

/-!
# What the receiver of an execution sees

The stream of a batch in the reader's terms.  A result that can be read (`Result.Readable`) delivers
`Result.items`; the receiver sees the items of the results in batch order up to the first failure,
what the failing result could still deliver, and then the error, once and last
(`execute_delivers`).  Which call failed, and that nothing before it is missing, is
`Batch.Stopped`.
-/

set_option autoImplicit false

namespace MssqlOdbc

variable {C κ A V : Type}

section Reader

variable (E : Env C κ A V) (settings : MssqlBufferSettings)

/-! ## Results -/

/-- The count a row-count result reports; a result set affects no rows. -/
def Result.affected (result : Result κ) : ℕ :=
  if result.columns = [] then
    match result.rowCount with
    | .ok rowsAffected => (max rowsAffected 0).toNat
    | .error _ => 0
  else 0

/-- A row as the fetch mode of the connection converts it. -/
def Result.row (result : Result κ) (row : ℕ → κ) : Except Error (MssqlRow V) :=
  match settings.maxColumnSize with
  | .some maxColumnSize => do
    let bindings ← buildBufferBindings result.toMetadata maxColumnSize
    let converts ← conversions E bindings
    return ⟨bindings.map ColumnBinding.column, rowValues row 0 converts⟩
  | .none => do
    let columns ← collectColumns result.toMetadata
    fetchRow E columns row

/-- The items of a result: its row count, or its rows and an empty count. -/
def Result.items (result : Result κ) : List (MssqlQueryResult ⊕ MssqlRow V) :=
  if result.columns = [] then [.inl ⟨result.affected⟩]
  else (result.reading E settings).rows.items.map .inr ++ [.inl ⟨0⟩]

/-- No call made to read the result fails: the column count, and then the row count or, on a result
set, the column descriptions, the fetches, the conversions and the calls on the row buffer. -/
def Result.Readable (result : Result κ) : Prop :=
  result.numColsError = .none ∧
    if result.columns = [] then ∃ rowsAffected, result.rowCount = .ok rowsAffected
    else (result.reading E settings).rows.error = .none ∧
      (result.reading E settings).unbound = .none

/-! ## Batches -/

/-- The first result of a batch, or the error of its execution. -/
def Batch.first (batch : Batch κ) : Except OdbcError (Result κ) := do
  let result ← batch.head
  match result.numColsError with
  | some e => .error e
  | none => return result

/-- The results of a batch, as far as the advances lead, with the errors of the advances. -/
def Batch.visits (batch : Batch κ) : List (Result κ × Option Error) :=
  match batch.first with
  | .error _ => []
  | .ok result => MssqlOdbc.visits result batch.rest

def Batch.results (batch : Batch κ) : List (Result κ) := batch.visits.map Prod.fst

/-- Neither the execution nor an advance fails, and every result can be read. -/
def Batch.Succeeds (batch : Batch κ) : Prop :=
  (∃ result, batch.first = .ok result) ∧
    ∀ visit ∈ batch.visits, visit.1.Readable E settings ∧ visit.2 = none

/-- The stream of a batch.  An error of the execution is reported in the context of its path. -/
def Batch.stream (context : String) (batch : Batch κ) :
    ErrStream Error (MssqlQueryResult ⊕ MssqlRow V) :=
  match batch.first with
  | .error e => .check (databaseError context e)
  | .ok result => resultsStream E settings result batch.rest

/-- The items of a batch, as far as it can be read. -/
def Batch.items (batch : Batch κ) : List (MssqlQueryResult ⊕ MssqlRow V) :=
  match batch.first with
  | .error _ => []
  | .ok result => (resultsStream E settings result batch.rest).items

/-! ## Where the reading stops -/

/-- The rows of a result set are fetched: its columns are counted and described and, buffered, the
row buffer is bound. -/
structure Result.Opened (result : Result κ) : Prop where
  counted : result.numColsError = .none
  resultSet : result.columns ≠ []
  described : ∃ columns, collectColumns result.toMetadata = .ok columns
  bound : settings.maxColumnSize ≠ .none → result.bindError = .none

/-- The call that keeps a result from being read to its end, in terms of what is delivered before it
and of the error it causes.  The calls before it succeed. -/
inductive Result.Stopped (result : Result κ) :
    List (MssqlQueryResult ⊕ MssqlRow V) → Error → Prop
  | columnCount {context : String} {e : OdbcError} (h : result.numColsError = .some e) :
      Stopped result [] (databaseError context e)
  | rowCount {context : String} {e : OdbcError} (hcols : result.numColsError = .none)
      (hempty : result.columns = []) (h : result.rowCount = .error e) :
      Stopped result [] (databaseError context e)
  | describe {e : Error} (hcols : result.numColsError = .none) (hne : result.columns ≠ [])
      (h : collectColumns result.toMetadata = .error e) : Stopped result [] e
  | bind {columns : List MssqlColumn} {context : String} {e : OdbcError}
      (hmode : settings.maxColumnSize ≠ .none) (hcols : result.numColsError = .none)
      (hne : result.columns ≠ []) (hdescribed : collectColumns result.toMetadata = .ok columns)
      (h : result.bindError = .some e) : Stopped result [] (databaseError context e)
  /-- A cell of the next row cannot be fetched: all rows before it are delivered. -/
  | row {before after : List (ℕ → κ)} {row : ℕ → κ} {rows : List (MssqlRow V)} {e : Error}
      (hmode : settings.maxColumnSize = .none) (hopened : result.Opened settings)
      (hrowsets : result.rowsets.flatten = before ++ row :: after)
      (hrows : rows.map .ok = before.map (result.row E settings))
      (h : result.row E settings row = .error e) : Stopped result (rows.map .inr) e
  /-- A bound column cannot be converted, which shows at the first row set. -/
  | convert {maxColumnSize : ℕ} {bindings : List ColumnBinding} {e : Error}
      (hmode : settings.maxColumnSize = .some maxColumnSize) (hopened : result.Opened settings)
      (hrowsets : result.rowsets ≠ [])
      (hbindings : buildBufferBindings result.toMetadata maxColumnSize = .ok bindings)
      (h : conversions E bindings = .error e) : Stopped result [] e
  /-- A fetch fails: all rows fetched before it are delivered. -/
  | fetch {rows : List (MssqlRow V)} {context : String} {e : OdbcError}
      (hopened : result.Opened settings)
      (hrows : rows.map .ok = result.rowsets.flatten.map (result.row E settings))
      (h : result.fetchError = .some e) : Stopped result (rows.map .inr) (databaseError context e)
  /-- The row buffer cannot be given back: the result set is delivered in full. -/
  | unbind {rows : List (MssqlRow V)} {context : String} {e : OdbcError}
      (hmode : settings.maxColumnSize ≠ .none) (hopened : result.Opened settings)
      (hrows : rows.map .ok = result.rowsets.flatten.map (result.row E settings))
      (hfetch : result.fetchError = .none) (h : result.unbindError = .some e) :
      Stopped result (rows.map .inr ++ [.inl ⟨0⟩]) (databaseError context e)

/-- The call that ends the walk of a batch with an error, in terms of the results that are answered
before it, of what else is delivered and of the error. -/
inductive Batch.Stopped (batch : Batch κ) :
    List (Result κ) → List (MssqlQueryResult ⊕ MssqlRow V) → Error → Prop
  | execute {context : String} {e : OdbcError} (h : batch.first = .error e) :
      Stopped batch [] [] (databaseError context e)
  /-- A call on a result fails: the results before it are answered. -/
  | result {answered rest : List (Result κ)} {result : Result κ}
      {part : List (MssqlQueryResult ⊕ MssqlRow V)} {e : Error}
      (h : batch.results = answered ++ result :: rest)
      (hstopped : result.Stopped E settings part e) : Stopped batch answered part e
  /-- An advance fails: the result it is made from is answered, too. -/
  | advance {before rest : List (Result κ × Option Error)} {result : Result κ} {e : Error}
      (h : batch.visits = before ++ (result, some e) :: rest) :
      Stopped batch (before.map Prod.fst ++ [result]) [] e

end Reader

variable {E : Env C κ A V} {settings : MssqlBufferSettings}

/-! ## The items of a result -/

theorem Result.numResultCols_of_none {result : Result κ} (h : result.numColsError = .none) :
    result.numResultCols = .ok result.columns.length := by
  rw [Metadata.numResultCols, h]

theorem Result.numResultCols_of_some {result : Result κ} {e : OdbcError}
    (h : result.numColsError = .some e) : result.numResultCols = .error e := by
  rw [Metadata.numResultCols, h]

theorem Result.stream_rowCount {result : Result κ} (hcols : result.numColsError = .none)
    (h : result.columns = []) : result.stream E settings =
      match result.rowCount with
      | .error e => .check (databaseError "failed to read ODBC row count" e)
      | .ok rowsAffected => .ofList [.inl ⟨(max rowsAffected 0).toNat⟩] := by
  rw [stream, numResultCols_of_none hcols, h]
  rfl

theorem Result.stream_resultSet {result : Result κ} (hcols : result.numColsError = .none)
    (h : result.columns ≠ []) : result.stream E settings = (result.reading E settings).stream := by
  obtain ⟨column, columns, hcolumns⟩ := List.exists_cons_of_ne_nil h
  rw [stream, numResultCols_of_none hcols, hcolumns]
  rfl

theorem Result.stream_error_eq_none {result : Result κ} :
    (result.stream E settings).error = .none ↔ result.Readable E settings := by
  rw [Readable]
  cases hcols : result.numColsError with
  | some e => simp [stream, numResultCols_of_some hcols]
  | none =>
    by_cases h : result.columns = []
    · rw [stream_rowCount hcols h, if_pos h]
      cases result.rowCount <;> simp
    · rw [stream_resultSet hcols h, if_neg h, Reading.stream, ErrStream.append_error_eq_none,
        ErrStream.append_error_eq_none]
      simp

theorem Result.stream_items {result : Result κ} (h : result.Readable E settings) :
    (result.stream E settings).items = result.items E settings := by
  obtain ⟨hcols, h⟩ := h
  by_cases hempty : result.columns = []
  · rw [if_pos hempty] at h
    obtain ⟨rowsAffected, hcount⟩ := h
    rw [stream_rowCount hcols hempty, items, if_pos hempty, affected, if_pos hempty, hcount]
    rfl
  · rw [if_neg hempty] at h
    rw [stream_resultSet hcols hempty, items, if_neg hempty, Reading.stream_items h.1]

variable (E settings) in
/-- A result delivers a part of its items, even if it cannot be read to its end. -/
theorem Result.stream_items_prefix (result : Result κ) :
    (result.stream E settings).items <+: result.items E settings := by
  cases hcols : result.numColsError with
  | some e =>
    rw [stream, numResultCols_of_some hcols]
    exact List.nil_prefix
  | none =>
    by_cases hempty : result.columns = []
    · rw [stream_rowCount hcols hempty, items, if_pos hempty, affected, if_pos hempty]
      cases result.rowCount with
      | error e => exact List.nil_prefix
      | ok rowsAffected => exact List.prefix_rfl
    · rw [stream_resultSet hcols hempty, items, if_neg hempty]
      cases hrows : (result.reading E settings).rows.error with
      | some e =>
        rw [Reading.stream_of_error hrows]
        exact List.prefix_append _ _
      | none => exact ⟨[], by rw [List.append_nil, Reading.stream_items hrows]⟩

/-! ## Row counts -/

/-- The row counts among the items. -/
def rowCounts (items : List (MssqlQueryResult ⊕ MssqlRow V)) : List ℕ :=
  items.filterMap fun
    | .inl queryResult => some queryResult.rowsAffected
    | .inr _ => none

theorem rowCounts_append (items items' : List (MssqlQueryResult ⊕ MssqlRow V)) :
    rowCounts (items ++ items') = rowCounts items ++ rowCounts items' :=
  List.filterMap_append

theorem rowCounts_rows (rows : List (MssqlRow V)) : rowCounts (rows.map .inr) = [] := by
  rw [rowCounts, List.filterMap_map, List.filterMap_eq_nil_iff]
  intro row _
  rfl

theorem Result.sum_rowCounts_items (result : Result κ) :
    (rowCounts (result.items E settings)).sum = result.affected := by
  rw [items]
  split
  · exact Nat.add_zero _
  · rename_i hempty
    rw [rowCounts_append, rowCounts_rows, affected, if_neg hempty]
    rfl

/-- What cannot be read to its end counts nothing. -/
theorem Result.sum_rowCounts_stream {result : Result κ} (h : ¬ result.Readable E settings) :
    (rowCounts (result.stream E settings).items).sum = 0 := by
  have hprefix := result.stream_items_prefix E settings
  by_cases hempty : result.columns = []
  · have hnothing : (result.stream E settings).items = [] := by
      cases hcols : result.numColsError with
      | some e => rw [stream, numResultCols_of_some hcols]; rfl
      | none =>
        rw [stream_rowCount hcols hempty]
        cases hcount : result.rowCount with
        | error e => rfl
        | ok rowsAffected => exact absurd ⟨hcols, by simp [hempty, hcount]⟩ h
    rw [hnothing]
    rfl
  · have hzero : (rowCounts (result.items E settings)).sum = 0 := by
      rw [sum_rowCounts_items, affected, if_neg hempty]
    obtain ⟨l, hl⟩ := hprefix
    rw [← hl, rowCounts_append, List.sum_append] at hzero
    omega

/-! ## The rows of a result set -/

theorem Result.row_unbuffered {result : Result κ} {columns : List MssqlColumn}
    (hmode : settings.maxColumnSize = .none)
    (hcolumns : collectColumns result.toMetadata = .ok columns) :
    result.row E settings = fetchRow E columns := by
  funext row
  rw [Result.row, hmode]
  simp only [hcolumns, bind, Except.bind]

theorem Result.row_buffered {result : Result κ} {maxColumnSize : ℕ} {bindings : List ColumnBinding}
    {converts : List (κ → V)} (hmode : settings.maxColumnSize = .some maxColumnSize)
    (hbindings : buildBufferBindings result.toMetadata maxColumnSize = .ok bindings)
    (hconverts : conversions E bindings = .ok converts) :
    result.row E settings = fun row ↦
      .ok ⟨bindings.map ColumnBinding.column, rowValues row 0 converts⟩ := by
  funext row
  rw [Result.row, hmode]
  simp only [hbindings, hconverts, bind, Except.bind]
  rfl

/-- The row sets are delivered in full, or none of them is. -/
theorem concat_rowsetStream {bindings : List ColumnBinding} {converts : List (κ → V)}
    (h : conversions E bindings = .ok converts) (rowsets : List (List (ℕ → κ))) :
    ErrStream.concat (rowsets.map (rowsetStream E bindings)) = .ofList (rowsets.flatten.map
      fun row ↦ ⟨bindings.map ColumnBinding.column, rowValues row 0 converts⟩) := by
  rw [← ErrStream.concat_map_ofList]
  congr 2
  funext batch
  rw [rowsetStream, h]

theorem concat_rowsetStream_error {bindings : List ColumnBinding} {e : Error}
    (h : conversions E bindings = .error e) {rowsets : List (List (ℕ → κ))} (hne : rowsets ≠ []) :
    ErrStream.concat (rowsets.map (rowsetStream E bindings)) = .check (some e) := by
  obtain ⟨batch, rowsets, rfl⟩ := List.exists_cons_of_ne_nil hne
  have hbatch : rowsetStream E bindings batch = .check (some e) := by rw [rowsetStream, h]
  rw [List.map_cons, ErrStream.concat_cons, hbatch, ErrStream.append_of_error (e := e) rfl]

variable (E settings) in
/-- **How far the rows of a result set are read.**  Not at all, or to the first row that cannot be
read, or to the fetch behind the last row. -/
theorem Result.rows_cases {result : Result κ} (hcols : result.numColsError = .none)
    (hne : result.columns ≠ []) :
    (∃ e, (result.reading E settings).rows = .check (some e) ∧ result.Stopped E settings [] e) ∨
    result.Opened settings ∧ ∃ context fetched,
      (result.reading E settings).rows =
        fetched ++ .check (result.fetchError.map (databaseError context)) ∧
      (fetched.error = .none ∧
          fetched.items.map .ok = result.rowsets.flatten.map (result.row E settings) ∨
        ∃ e, fetched.error = some e ∧
          result.Stopped E settings (fetched.items.map .inr) e) := by
  rw [reading]
  cases hmode : settings.maxColumnSize with
  | none =>
    simp only [unbufferedReading]
    cases hcolumns : collectColumns result.toMetadata with
    | error e => exact Or.inl ⟨e, rfl, .describe hcols hne hcolumns⟩
    | ok columns =>
      have hopened : result.Opened settings := ⟨hcols, hne, ⟨columns, hcolumns⟩, absurd hmode⟩
      have hrow := row_unbuffered (E := E) hmode hcolumns
      refine Or.inr ⟨hopened, _, _, rfl, ?_⟩
      obtain ⟨herror, hitems⟩ | ⟨before, row, after, e, hrowsets, hfails, herror, hitems⟩ :=
        ErrStream.concat_ofExcept_cases (fetchRow E columns) result.rowsets.flatten
      · exact Or.inl ⟨herror, by rw [hitems, hrow]⟩
      · refine Or.inr ⟨e, herror, .row hmode hopened hrowsets ?_ ?_⟩
        · rw [hitems, hrow]
        · rw [hrow, hfails]
  | some maxColumnSize =>
    have hbuffered : settings.maxColumnSize ≠ .none := by simp [hmode]
    simp only [bufferedReading]
    cases hcolumns : collectColumns result.toMetadata with
    | error e =>
      have hbindings : buildBufferBindings result.toMetadata maxColumnSize = .error e := by
        rw [buildBufferBindings, hcolumns]
        rfl
      rw [hbindings]
      exact Or.inl ⟨e, rfl, .describe hcols hne hcolumns⟩
    | ok columns =>
      obtain ⟨bindings, hbindings⟩ :
          ∃ bindings, buildBufferBindings result.toMetadata maxColumnSize = .ok bindings :=
        ⟨_, by rw [buildBufferBindings, hcolumns]; rfl⟩
      simp only [hbindings]
      cases hbind : result.bindError with
      | some e => exact Or.inl ⟨_, rfl, .bind hbuffered hcols hne hcolumns hbind⟩
      | none =>
        have hopened : result.Opened settings := ⟨hcols, hne, ⟨columns, hcolumns⟩, fun _ ↦ hbind⟩
        refine Or.inr ⟨hopened, _, _, ErrStream.check_none_append _, ?_⟩
        cases hconverts : conversions E bindings with
        | ok converts =>
          rw [concat_rowsetStream hconverts, row_buffered hmode hbindings hconverts]
          exact Or.inl ⟨rfl, List.map_map⟩
        | error e =>
          by_cases hrowsets : result.rowsets = []
          · rw [hrowsets]
            exact Or.inl ⟨rfl, rfl⟩
          · rw [concat_rowsetStream_error hconverts hrowsets]
            exact Or.inr ⟨e, rfl, .convert hmode hopened hrowsets hbindings hconverts⟩

/-- **A result set that can be read delivers all its rows**, in order, as the mode converts them. -/
theorem Result.rows_of_readable {result : Result κ} (h : result.Readable E settings)
    (hne : result.columns ≠ []) : (result.reading E settings).rows.items.map .ok =
      result.rowsets.flatten.map (result.row E settings) := by
  obtain ⟨hcols, hread⟩ := h
  rw [if_neg hne] at hread
  obtain ⟨e, hrows, -⟩ | ⟨-, context, fetched, hrows, hfetched⟩ :=
    rows_cases E settings hcols hne
  · rw [hrows] at hread
    cases hread.1
  · rw [hrows] at hread ⊢
    obtain ⟨herror, -⟩ := ErrStream.append_error_eq_none.1 hread.1
    rw [ErrStream.append_items herror, ErrStream.check_items, List.append_nil]
    obtain ⟨-, hitems⟩ | ⟨e, he, -⟩ := hfetched
    · exact hitems
    · rw [herror] at he
      cases he

/-- Giving the row buffer back can fail in the buffered mode only. -/
theorem Result.unbindError_of_unbound {result : Result κ} {e : Error}
    (h : (result.reading E settings).unbound = some e) : settings.maxColumnSize ≠ .none ∧
      ∃ context e', result.unbindError = .some e' ∧ e = databaseError context e' := by
  rw [reading] at h
  cases hmode : settings.maxColumnSize with
  | none => rw [hmode] at h; cases h
  | some maxColumnSize =>
    rw [hmode] at h
    obtain ⟨e', hunbind, rfl⟩ := Option.map_eq_some_iff.1 h
    exact ⟨by simp, _, e', hunbind, rfl⟩

/-- **A result that cannot be read to its end delivers everything before the call that fails.** -/
theorem Result.stopped {result : Result κ} {e : Error}
    (h : (result.stream E settings).error = some e) :
    result.Stopped E settings (result.stream E settings).items e := by
  cases hcols : result.numColsError with
  | some e' =>
    rw [stream, numResultCols_of_some hcols] at h ⊢
    cases h
    exact .columnCount hcols
  | none =>
    by_cases hempty : result.columns = []
    · rw [stream_rowCount hcols hempty] at h ⊢
      cases hcount : result.rowCount with
      | ok rowsAffected => rw [hcount] at h; cases h
      | error e' =>
        rw [hcount] at h
        cases h
        exact .rowCount hcols hempty hcount
    · rw [stream_resultSet hcols hempty] at h ⊢
      obtain ⟨e', hrows, hstopped⟩ | ⟨hopened, context, fetched, hrows, hfetched⟩ :=
        rows_cases E settings hcols hempty
      · have herror : (result.reading E settings).rows.error = some e' := by rw [hrows]; rfl
        rw [Reading.stream_eq_mk herror] at h ⊢
        cases h
        rw [hrows]
        exact hstopped
      · obtain ⟨hnone, hitems⟩ | ⟨e', he, hstopped⟩ := hfetched
        · have hread : (result.reading E settings).rows.items = fetched.items := by
            rw [hrows, ErrStream.append_items hnone, ErrStream.check_items, List.append_nil]
          have herror : (result.reading E settings).rows.error =
              result.fetchError.map (databaseError context) := by
            rw [hrows, ErrStream.append_error hnone, ErrStream.check_error]
          cases hfetch : result.fetchError with
          | some e' =>
            rw [hfetch, Option.map_some] at herror
            rw [Reading.stream_eq_mk herror] at h ⊢
            cases h
            rw [hread]
            exact .fetch hopened hitems hfetch
          | none =>
            rw [hfetch, Option.map_none] at herror
            rw [Reading.stream_error herror] at h
            obtain ⟨hmode, context', e', hunbind, rfl⟩ := unbindError_of_unbound h
            rw [Reading.stream_items herror, hread]
            exact .unbind hmode hopened hitems hfetch hunbind
        · have hrows' : (result.reading E settings).rows = fetched :=
            hrows.trans (ErrStream.append_of_error he)
          rw [Reading.stream_eq_mk (hrows' ▸ he)] at h ⊢
          cases h
          rw [hrows']
          exact hstopped

/-! ## The stream of a batch -/

theorem Batch.executed_eq_ok {batch : Batch κ} {result : Result κ} (h : batch.first = .ok result) :
    ∃ cursor stmt, batch.executed = (.ok cursor, stmt) ∧
      bareHandle cursor stmt = ⟨some result, batch.rest⟩ := by
  rw [first] at h
  cases hhead : batch.head with
  | error e => rw [hhead] at h; cases h
  | ok r =>
    rw [hhead] at h
    cases hcols : r.numColsError with
    | some e => simp [bind, Except.bind, hcols] at h
    | none =>
      simp only [bind, Except.bind, hcols, pure, Except.pure, Except.ok.injEq] at h
      subst h
      rw [executed, hhead]
      simp only [Result.numResultCols_of_none hcols]
      cases r.columns with
      | nil => exact ⟨_, _, rfl, rfl⟩
      | cons column columns => exact ⟨_, _, rfl, rfl⟩

theorem Batch.executed_eq_error {batch : Batch κ} {e : OdbcError} (h : batch.first = .error e) :
    ∃ stmt, batch.executed = (.error e, stmt) := by
  rw [first] at h
  cases hhead : batch.head with
  | error e' =>
    rw [hhead] at h
    cases h
    exact ⟨_, by rw [executed, hhead]⟩
  | ok r =>
    rw [hhead] at h
    cases hcols : r.numColsError with
    | none => simp [bind, Except.bind, hcols, pure, Except.pure] at h
    | some e' =>
      simp only [bind, Except.bind, hcols, Except.error.injEq] at h
      subst h
      rw [executed, hhead]
      simp only [Result.numResultCols_of_some hcols]
      exact ⟨_, rfl⟩

/-- The path of an execution shows only in the text of its error. -/
theorem Batch.items_eq (context : String) (batch : Batch κ) :
    batch.items E settings = (batch.stream E settings context).items := by
  rw [Batch.items, Batch.stream]
  cases batch.first <;> rfl

variable (E settings) in
theorem walkBatch_streams (context : String) (batch : Batch κ) (trace : List (Event A V)) :
    ∃ events stmt, Carries (batch.stream E settings context) events ∧
      walkBatch E settings context batch ⟨none, trace⟩ =
        ⟨(batch.stream E settings context).outcome, stmt, ⟨none, trace ++ events⟩⟩ := by
  cases hfirst : batch.first with
  | error e =>
    obtain ⟨stmt, hexecuted⟩ := Batch.executed_eq_error hfirst
    have hstream : batch.stream E settings context = .check (databaseError context e) := by
      rw [Batch.stream, hfirst]
    refine ⟨[], stmt, ?_, ?_⟩
    · rw [hstream]
      exact .stopped (e := databaseError context e) rfl (Or.inr ⟨[], rfl⟩)
    · rw [hstream, walkBatch, hexecuted, List.append_nil]
      rfl
  | ok result =>
    obtain ⟨cursor, stmt, hexecuted, hbare⟩ := Batch.executed_eq_ok hfirst
    rw [Batch.stream, walkBatch, hexecuted, hfirst]
    simp only [hbare]
    exact driveResultSets_streams result batch.rest trace

theorem Batch.stream_error_eq_none {batch : Batch κ} {context : String} :
    (batch.stream E settings context).error = none ↔ batch.Succeeds E settings := by
  rw [Batch.stream, Succeeds, Batch.visits]
  cases batch.first with
  | error e => simp
  | ok result =>
    simp only [resultsStream, ErrStream.concat_error_eq_none, List.forall_mem_map, visitStream,
      ErrStream.append_error_eq_none, Result.stream_error_eq_none, ErrStream.check_error]
    simp

/-- Visits that do not fail deliver all the items of their results. -/
theorem visits_full {l : List (Result κ × Option Error)}
    (h : ∀ visit ∈ l, (visitStream E settings visit).error = none) :
    (∀ result ∈ l.map Prod.fst, result.Readable E settings) ∧
      (l.map (visitStream E settings)).flatMap ErrStream.items =
        (l.map Prod.fst).flatMap (Result.items E settings) := by
  induction l with
  | nil => simp
  | cons visit l ih =>
    obtain ⟨hvisit, hl⟩ := List.forall_mem_cons.1 h
    obtain ⟨hread, hitems⟩ := ih hl
    have hstream := (ErrStream.append_error_eq_none.1 hvisit).1
    have hreadable := Result.stream_error_eq_none.1 hstream
    refine ⟨List.forall_mem_cons.2 ⟨hreadable, hread⟩, ?_⟩
    rw [List.map_cons, List.map_cons, List.flatMap_cons, List.flatMap_cons, hitems, visitStream,
      ErrStream.append_items hstream, Result.stream_items hreadable, ErrStream.check_items,
      List.append_nil]

variable (E settings) in
/-- **What a batch delivers.**  The results up to the first failure are delivered in full, in batch
order; of the result that fails, if it is not the advance behind it, what comes before the failing
call is delivered, and it counts nothing. -/
theorem Batch.stream_items (context : String) (batch : Batch κ) :
    ∃ answered part, (batch.stream E settings context).items =
        answered.flatMap (Result.items E settings) ++ part ∧
      (∀ result ∈ answered, result.Readable E settings) ∧ answered <+: batch.results ∧
      ((batch.stream E settings context).error = none → answered = batch.results ∧ part = []) ∧
      (∀ e ∈ (batch.stream E settings context).error,
        batch.Stopped E settings answered part e) ∧
      (part = [] ∨ ∃ result rest, batch.results = answered ++ result :: rest ∧
        part <+: result.items E settings) ∧
      (rowCounts part).sum = 0 := by
  have hresults : batch.results = batch.visits.map Prod.fst := rfl
  rw [stream]
  cases hfirst : batch.first with
  | error e =>
    refine ⟨[], [], rfl, by simp, List.nil_prefix, by simp, ?_, Or.inl rfl, rfl⟩
    intro e' he'
    cases he'
    exact .execute hfirst
  | ok result =>
    have hvisits : batch.visits = MssqlOdbc.visits result batch.rest := by rw [visits, hfirst]
    simp only [resultsStream, ← hvisits]
    obtain ⟨herror, hitems⟩ | ⟨front, s, back, e, hsplit, hfront, hs, hconcat⟩ :=
      ErrStream.concat_cases (batch.visits.map (visitStream E settings))
    · obtain ⟨hread, hfull⟩ := visits_full
        (List.forall_mem_map.1 (ErrStream.concat_error_eq_none.1 herror))
      refine ⟨batch.results, [], ?_, hread, List.prefix_rfl, fun _ ↦ ⟨rfl, rfl⟩, ?_, Or.inl rfl,
        rfl⟩
      · rw [hitems, hfull, List.append_nil, hresults]
      · rw [herror]
        simp
    · obtain ⟨before, rest, hbatch, rfl, hrest⟩ := List.map_eq_append_iff.1 hsplit
      obtain ⟨⟨failing, e'⟩, behind, rfl, rfl, -⟩ := List.map_eq_cons_iff.1 hrest
      obtain ⟨hread, hfull⟩ := visits_full (List.forall_mem_map.1 hfront)
      rw [hbatch, List.map_append, List.map_cons] at hresults
      rw [hconcat, hfull]
      cases hstream : (failing.stream E settings).error with
      | none =>
        -- it is the advance that fails
        have hreadable := Result.stream_error_eq_none.1 hstream
        obtain rfl : e' = some e := (ErrStream.append_error hstream).symm.trans hs
        refine ⟨before.map Prod.fst ++ [failing], [], ?_, ?_, ?_, by simp, ?_, Or.inl rfl, rfl⟩
        · rw [visitStream, ErrStream.append_items hstream, Result.stream_items hreadable]
          simp
        · simpa [or_imp, forall_and] using ⟨by simpa using hread, hreadable⟩
        · exact ⟨behind.map Prod.fst, by rw [hresults]; simp⟩
        · intro e' he'
          cases he'
          exact .advance hbatch
      | some e'' =>
        have hvisit : visitStream E settings (failing, e') = failing.stream E settings :=
          ErrStream.append_of_error hstream
        have hnot : ¬ failing.Readable E settings := by
          rw [← Result.stream_error_eq_none, hstream]
          simp
        refine ⟨before.map Prod.fst, (failing.stream E settings).items, ?_, hread,
          ⟨_, hresults.symm⟩, by simp, ?_, Or.inr ⟨failing, behind.map Prod.fst, hresults, ?_⟩, ?_⟩
        · rw [hvisit]
        · intro e₁ he₁
          cases he₁
          rw [hvisit] at hs
          exact .result hresults (Result.stopped hs)
        · exact failing.stream_items_prefix E settings
        · exact Result.sum_rowCounts_stream hnot

/-! ## The command -/

variable (E settings) in
theorem Result.items_eq_append (result : Result κ) :
    ∃ front queryResult, result.items E settings = front ++ [.inl queryResult] := by
  rw [items]
  split
  · exact ⟨[], _, rfl⟩
  · exact ⟨_, _, rfl⟩

/-- What was delivered in full ends with a row count. -/
theorem flatMap_items_eq_append {answered : List (Result κ)} (h : answered ≠ []) :
    ∃ front queryResult, answered.flatMap (Result.items E settings) =
      front ++ [.inl queryResult] := by
  obtain ⟨init, last, rfl⟩ := List.eq_nil_or_concat' answered |>.resolve_left h
  obtain ⟨front, queryResult, hlast⟩ := last.items_eq_append E settings
  refine ⟨init.flatMap (Result.items E settings) ++ front, queryResult, ?_⟩
  rw [List.flatMap_append, List.flatMap_singleton, hlast, List.append_assoc]

theorem sum_rowCounts_flatMap (answered : List (Result κ)) :
    (rowCounts (answered.flatMap (Result.items E settings))).sum =
      (answered.map Result.affected).sum := by
  induction answered with
  | nil => rfl
  | cons result answered ih =>
    rw [List.flatMap_cons, rowCounts_append, List.sum_append, Result.sum_rowCounts_items, ih,
      List.map_cons, List.sum_cons]

theorem Batch.results_ne_nil {batch : Batch κ} (h : batch.Succeeds E settings) :
    batch.results ≠ [] := by
  obtain ⟨result, hfirst⟩ := h.1
  obtain ⟨e, l, hvisits⟩ := visits_eq_cons result batch.rest
  rw [results, visits, hfirst]
  simp [hvisits]

/-- **An `Execute` command with an open receiver.**  Either the statement is not executed, and there
is one error to see; or it is executed once, the walk sends the stream of the batch, and its error
follows. -/
theorem ConnectionActor.processExecute_open {actor : ConnectionActor E} {f : Faults}
    (hkeyed : CacheKeyed actor.stmtCache) (sql : String) (args : Option (List A))
    (persistent : Bool) :
    let batch := (E.exec sql (args.getD []) actor.conn.working).1
    let session : Session E := ⟨actor, ⟨none, []⟩⟩
    let trace := (actor.processExecute f none sql args persistent).trace
    (¬ session.Executes f sql args persistent ∧ ∃ e, trace = [.sent (.error e)]) ∨
      session.Executes f sql args persistent ∧ ∃ context events,
        Carries (batch.stream E actor.bufferSettings context) events ∧
        trace = .executed sql (args.getD []) :: events ++
          (batch.stream E actor.bufferSettings context).error.toList.map fun e ↦
            .sent (.error e) := by
  intro batch session trace
  obtain ⟨hnot, e, cache, -, hrun⟩ | ⟨hexecutes, context, cache, -, hrun⟩ :=
    handleExecute_cases f sql args persistent session hkeyed
  · refine Or.inl ⟨hnot, e, ?_⟩
    show (processExecute actor f none sql args persistent).trace = _
    rw [processExecute, hrun]
    rfl
  · obtain ⟨events, stmt, hcarries, hwalk⟩ := walkBatch_streams E
      actor.bufferSettings context batch [.executed sql (args.getD [])]
    refine Or.inr ⟨hexecutes, context, events, hcarries, ?_⟩
    have hsession : session.walk context sql (args.getD []) =
        ⟨(batch.stream E actor.bufferSettings context).outcome, stmt,
          ⟨none, .executed sql (args.getD []) :: events⟩⟩ := hwalk
    show (processExecute actor f none sql args persistent).trace = _
    rw [processExecute, hrun, hsession, ErrStream.outcome]
    cases (batch.stream E actor.bufferSettings context).error with
    | none => exact (List.append_nil _).symm
    | some e => rfl

/-- What a receiver was handed of a batch: the items of `answered`, and then `part`. -/
structure Delivered (E : Env C κ A V) (settings : MssqlBufferSettings) (batch : Batch κ)
    (answered : List (Result κ)) (part : List (MssqlQueryResult ⊕ MssqlRow V))
    (error : Option Error) : Prop where
  /-- The results are answered in batch order. -/
  inOrder : answered <+: batch.results
  /-- An answered result was read to its end, and an answered result set has delivered all its rows,
  as the fetch mode converts them. -/
  read : ∀ result ∈ answered, result.Readable E settings ∧ (result.columns ≠ [] →
    (result.reading E settings).rows.items.map .ok =
      result.rowsets.flatten.map (result.row E settings))
  /-- Anything else is a part of what the next result delivers. -/
  next : part = [] ∨ ∃ result rest, batch.results = answered ++ result :: rest ∧
    part <+: result.items E settings
  /-- The row counts are those of the answered results. -/
  counts : (rowCounts (answered.flatMap (Result.items E settings) ++ part)).sum =
    (answered.map Result.affected).sum
  /-- Without an error every result is answered, and the last item is a row count. -/
  complete : error = none → answered = batch.results ∧ part = [] ∧
    ∃ front queryResult, answered.flatMap (Result.items E settings) = front ++ [.inl queryResult]
  /-- An error is that of the call the walk stopped at, and everything before that call was
  delivered. -/
  stopped : ∀ e ∈ error, batch.Stopped E settings answered part e

variable (E settings) in
theorem Batch.delivered (context : String) (batch : Batch κ) :
    ∃ answered part, (batch.stream E settings context).items =
        answered.flatMap (Result.items E settings) ++ part ∧
      Delivered E settings batch answered part (batch.stream E settings context).error := by
  obtain ⟨answered, part, hitems, hread, hprefix, hcomplete, hstopped, hpart, hcounts⟩ :=
    batch.stream_items E settings context
  refine ⟨answered, part, hitems, hprefix, fun result hresult ↦ ⟨hread result hresult, ?_⟩, hpart,
    ?_, ?_, hstopped⟩
  · exact Result.rows_of_readable (hread result hresult)
  · rw [rowCounts_append, List.sum_append, hcounts, sum_rowCounts_flatMap, Nat.add_zero]
  · intro herror
    obtain ⟨rfl, rfl⟩ := hcomplete herror
    exact ⟨rfl, rfl, flatMap_items_eq_append (results_ne_nil (stream_error_eq_none.1 herror))⟩

/-- **What the receiver of an execution sees.**  On a connection with any past, in either fetch
mode, a statement that is not executed has one error to see.  Otherwise the items are those of the
answered results in batch order, then what the failing result delivers before the call that fails,
then the error of that call.  There is an error exactly if the batch does not succeed. -/
theorem execute_delivers (contents : C) (capacity : ℕ) (settings : MssqlBufferSettings)
    (jobs : List (Job A)) (f : Faults) (sql : String) (args : Option (List A))
    (persistent : Bool) :
    let actor := jobs.foldl ConnectionActor.step (.connect E contents capacity settings)
    let batch := (E.exec sql (args.getD []) actor.conn.working).1
    let items := Wire.items (actor.process ⟨.execute sql args persistent, f, none⟩).trace
    let executes := (⟨actor, ⟨none, []⟩⟩ : Session E).Executes f sql args persistent
    (¬ executes ∧ ∃ e, items = [.error e]) ∨
      executes ∧ ∃ answered part error,
        items = (answered.flatMap (Result.items E settings) ++ part).map .ok ++
          error.toList.map .error ∧
        (error = none ↔ batch.Succeeds E settings) ∧
        Delivered E settings batch answered part error := by
  intro actor batch items executes
  have hkeyed := ConnectionActor.run_cacheKeyed (E := E) contents capacity settings jobs
  have hsettings : actor.bufferSettings = settings :=
    ConnectionActor.run_bufferSettings contents capacity settings jobs
  have hitems : items = Wire.items (actor.processExecute f none sql args persistent).trace := rfl
  obtain ⟨hnot, e, htrace⟩ | ⟨hexecutes, context, events, hcarries, htrace⟩ :=
    actor.processExecute_open (f := f) hkeyed sql args persistent
  · refine Or.inl ⟨hnot, e, ?_⟩
    rw [hitems, htrace]
    rfl
  · rw [hsettings] at hcarries htrace
    obtain ⟨answered, part, hstream, hdelivered⟩ := batch.delivered E settings context
    refine Or.inr ⟨hexecutes, answered, part, _, ?_, Batch.stream_error_eq_none, hdelivered⟩
    rw [hitems, htrace, hcarries.items_trace, ErrStream.toList, hstream]

/-- A count, a result set and a negative count, in both fetch modes. -/
example : ∀ settings ∈ [(default : MssqlBufferSettings), ⟨1, some 8⟩],
    let batch : Batch ℤ := ⟨.ok (.ofCount 3),
      [.result true (.ofRows 1 [fun _ ↦ 5, fun _ ↦ 7]), .result false (.ofCount (-1))]⟩
    let actor : ConnectionActor (.recorder fun _ ↦ batch) := .connect _ [] 16 settings
    ((Wire.items (actor.process ⟨.execute "batch" none false, .none, none⟩).trace).map fun item ↦
      item.toOption.map (Sum.map MssqlQueryResult.rowsAffected MssqlRow.values)) =
      [some (.inl 3), some (.inr [5]), some (.inr [7]), some (.inl 0), some (.inl 0)] := by
  decide +kernel

end MssqlOdbc
