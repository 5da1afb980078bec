import MssqlOdbc.ColumnIndex
import MssqlOdbc.Connection.Talk
import MssqlOdbc.Execute.Unprepared
import MssqlOdbc.Fetch.Positions

/-!
# Rows

A row is its columns and its values, and a cell is looked up by the position of its column or by the
name.  Nothing in the type makes the two lists equally long: `try_get_raw` finds the column first,
and fails a second time if there is no value there.

On a row that was received it never does.  Whatever happened on the connection before, a row that
reaches a consumer is well formed and holds, column by column, what the fetch mode makes of one row
of one result of its own batch (`received_row`).
-/

set_option autoImplicit false

namespace MssqlOdbc

open Keys

variable {C κ A V : Type}

/-! ## Looking a cell up -/

/-- What a column is asked for by: the `ColumnIndex` implementations of `usize` and of `&str`. -/
inductive ColumnIndex where
  | position (index : ℕ)
  | name (sought : String)
deriving DecidableEq, Repr

/-- The errors of a lookup. -/
inductive LookupError where
  | outOfBounds (error : ColumnIndexOutOfBounds)
  | notFound (error : ColumnNotFound)
deriving DecidableEq, Repr

/-- `ColumnIndex::index`, the same for rows and for statements. -/
def ColumnIndex.index (columns : List MssqlColumn) : ColumnIndex → Except LookupError ℕ
  | .position index =>
    if columns.length ≤ index then .error (.outOfBounds ⟨index, columns.length⟩) else .ok index
  | .name sought => (columnIndex columns sought).mapError .notFound

/-- `Row::try_get_raw`. -/
def MssqlRow.getRaw (row : MssqlRow V) (index : ColumnIndex) : Except LookupError V :=
  match index.index row.columns with
  | .error e => .error e
  | .ok index =>
    match row.values[index]? with
    | some value => .ok value
    | none => .error (.outOfBounds ⟨index, row.values.length⟩)

/-- A position is found up to the last column, and a name if some column has it, whatever the letter
case. -/
def ColumnIndex.Known (columns : List MssqlColumn) : ColumnIndex → Prop
  | .position index => index < columns.length
  | .name sought => ∃ column ∈ columns, eqIgnoreAsciiCase column.name sought = true

theorem ColumnIndex.exists_index_iff {columns : List MssqlColumn} {index : ColumnIndex} :
    (∃ i, index.index columns = .ok i) ↔ index.Known columns := by
  cases index with
  | position index =>
    rw [ColumnIndex.index, Known]
    split
    · rename_i hle
      exact iff_of_false (by rintro ⟨i, ⟨⟩⟩) (Nat.not_lt.2 hle)
    · rename_i hlt
      exact iff_of_true ⟨index, rfl⟩ (Nat.lt_of_not_le hlt)
  | name sought =>
    rw [ColumnIndex.index, columnIndex, Known]
    cases hexact : columns.findIdx? fun column ↦ column.name == sought with
    | some i =>
      refine iff_of_true ⟨i, rfl⟩ ?_
      obtain ⟨hi, hname, -⟩ := List.findIdx?_eq_some_iff_getElem.1 hexact
      rw [beq_iff_eq] at hname
      exact ⟨columns[i], List.getElem_mem hi, by rw [hname]; exact beq_self_eq_true _⟩
    | none =>
      cases hfold : columns.findIdx? fun column ↦ eqIgnoreAsciiCase column.name sought with
      | some i =>
        obtain ⟨hi, hname, -⟩ := List.findIdx?_eq_some_iff_getElem.1 hfold
        exact iff_of_true ⟨i, rfl⟩ ⟨columns[i], List.getElem_mem hi, hname⟩
      | none =>
        refine iff_of_false (by rintro ⟨i, ⟨⟩⟩) ?_
        rintro ⟨column, hcolumn, hname⟩
        rw [List.findIdx?_eq_none_iff] at hfold
        exact absurd hname (by rw [hfold column hcolumn]; exact Bool.false_ne_true)

/-- The column that is asked for: the one in this position, or the first with this name, or, if no
column has it, the first with this name in another letter case. -/
def ColumnIndex.Finds (columns : List MssqlColumn) (i : ℕ) : ColumnIndex → Prop
  | .position index => i = index ∧ index < columns.length
  | .name sought =>
    if sought ∈ columnNames columns then IsLeast (positions (columnNames columns) sought) i
    else IsLeast {j | ∃ column, columns[j]? = some column ∧
      eqIgnoreAsciiCase column.name sought = true} i

/-- **A lookup finds the column that is asked for.** -/
theorem ColumnIndex.index_eq_ok_iff {columns : List MssqlColumn} {index : ColumnIndex} {i : ℕ} :
    index.index columns = .ok i ↔ index.Finds columns i := by
  cases index with
  | position index =>
    rw [ColumnIndex.index, Finds]
    split
    · rename_i hle
      exact iff_of_false (by rintro ⟨⟩) fun h ↦ absurd h.2 (Nat.not_lt.2 hle)
    · rename_i hlt
      rw [Except.ok.injEq, eq_comm]
      exact (and_iff_left (Nat.lt_of_not_le hlt)).symm
  | name sought =>
    rw [Finds, ColumnIndex.index]
    split
    · rename_i hname
      obtain ⟨j, hj, hleast⟩ := columnIndex_of_mem hname
      rw [hj]
      show Except.ok j = Except.ok i ↔ _
      rw [Except.ok.injEq]
      exact ⟨fun h ↦ h ▸ hleast, fun h ↦ hleast.unique h⟩
    · rename_i hname
      have hexact : columns.findIdx? (fun column ↦ column.name == sought) = none := by
        rw [List.findIdx?_eq_none_iff]
        intro column hcolumn
        rw [beq_eq_false_iff_ne]
        rintro rfl
        exact hname (List.mem_map_of_mem hcolumn)
      rw [columnIndex, hexact, ← findIdx?_eq_some_iff_isLeast]
      dsimp only
      cases columns.findIdx? fun column ↦ eqIgnoreAsciiCase column.name sought with
      | none => exact iff_of_false (by rintro ⟨⟩) (by rintro ⟨⟩)
      | some j =>
        show Except.ok j = Except.ok i ↔ _
        rw [Except.ok.injEq, Option.some.injEq]

/-- A column that is found is there. -/
theorem ColumnIndex.index_lt {columns : List MssqlColumn} {index : ColumnIndex} {i : ℕ}
    (h : index.index columns = .ok i) : i < columns.length := by
  rw [index_eq_ok_iff] at h
  cases index with
  | position index =>
    obtain ⟨rfl, hlt⟩ := h
    exact hlt
  | name sought =>
    rw [Finds] at h
    split at h
    · have hi := (List.getElem?_eq_some_iff.1 (mem_positions.1 h.1)).1
      rwa [columnNames, List.length_map] at hi
    · obtain ⟨column, hcolumn, -⟩ := h.1
      exact (List.getElem?_eq_some_iff.1 hcolumn).1

/-- There are columns, they are numbered in order, and there is a value for each of them. -/
structure MssqlRow.WellFormed (row : MssqlRow V) : Prop where
  columns_ne : row.columns ≠ []
  ordinal_eq : ∀ i (hi : i < row.columns.length), row.columns[i].ordinal = i
  length_eq : row.values.length = row.columns.length

/-- On a well-formed row a column that is found has its value. -/
theorem MssqlRow.WellFormed.getRaw_eq {row : MssqlRow V} (h : row.WellFormed) {index : ColumnIndex}
    {i : ℕ} (hindex : index.index row.columns = .ok i) :
    ∃ hi : i < row.values.length, row.getRaw index = .ok row.values[i] := by
  have hi : i < row.values.length := h.length_eq ▸ ColumnIndex.index_lt hindex
  refine ⟨hi, ?_⟩
  rw [getRaw, hindex]
  dsimp only
  rw [List.getElem?_eq_getElem hi]

/-! ## The rows of a result -/

/-- The fetch mode of a connection. -/
def MssqlBufferSettings.mode (settings : MssqlBufferSettings) : FetchMode :=
  match settings.maxColumnSize with
  | some maxColumnSize => .buffered maxColumnSize
  | none => .unbuffered

section Rows

variable {E : Env C κ A V} {settings : MssqlBufferSettings} {result : Result κ} {row : MssqlRow V}

theorem Result.mem_unbuffered (h : row ∈ (unbufferedReading E result).rows.items) :
    ∃ columns, collectColumns result.toMetadata = .ok columns ∧
      ∃ cells ∈ result.rowsets.flatten, fetchRow E columns cells = .ok row := by
  rw [unbufferedReading] at h
  dsimp only at h
  cases hcolumns : collectColumns result.toMetadata with
  | error e =>
    rw [hcolumns] at h
    cases h
  | ok columns =>
    rw [hcolumns] at h
    obtain h | h := ErrStream.mem_append_items h
    · obtain ⟨s, hs, hrow⟩ := ErrStream.mem_concat_items h
      obtain ⟨cells, hcells, rfl⟩ := List.mem_map.1 hs
      refine ⟨columns, rfl, cells, hcells, ?_⟩
      cases hfetch : fetchRow E columns cells with
      | error e =>
        rw [hfetch] at hrow
        cases hrow
      | ok sent =>
        rw [hfetch] at hrow
        rw [List.mem_singleton.1 hrow]
    · cases h

theorem Result.mem_buffered {batchSize maxColumnSize : ℕ}
    (h : row ∈ (bufferedReading E result batchSize maxColumnSize).rows.items) :
    ∃ bindings converts, buildBufferBindings result.toMetadata maxColumnSize = .ok bindings ∧
      conversions E bindings = .ok converts ∧ ∃ cells ∈ result.rowsets.flatten,
        row = ⟨bindings.map ColumnBinding.column, rowValues cells 0 converts⟩ := by
  rw [bufferedReading] at h
  dsimp only at h
  cases hbindings : buildBufferBindings result.toMetadata maxColumnSize with
  | error e =>
    rw [hbindings] at h
    cases h
  | ok bindings =>
    rw [hbindings] at h
    obtain h | h := ErrStream.mem_append_items h
    · cases h
    obtain h | h := ErrStream.mem_append_items h
    · obtain ⟨s, hs, hrow⟩ := ErrStream.mem_concat_items h
      obtain ⟨rowset, hrowset, rfl⟩ := List.mem_map.1 hs
      rw [rowsetStream] at hrow
      cases hconverts : conversions E bindings with
      | error e =>
        rw [hconverts] at hrow
        cases hrow
      | ok converts =>
        rw [hconverts] at hrow
        obtain ⟨cells, hcells, rfl⟩ := List.mem_map.1 hrow
        exact ⟨bindings, converts, rfl, hconverts, cells,
          List.mem_flatten.2 ⟨rowset, hrowset, hcells⟩, rfl⟩
    · cases h

end Rows

/-- A row is one row of the result, read column by column in the mode of the connection. -/
structure Result.Holds (settings : MssqlBufferSettings) (result : Result Cell)
    (row : MssqlRow MssqlValue) : Prop where
  columns_eq : collectColumns result.toMetadata = .ok row.columns
  exists_cells : ∃ cells ∈ result.rowsets.flatten, ReadFrom settings.mode row.columns cells row

section Cells

variable (exec : String → List A → C → Batch Cell × C)
  (prepare : String → C → Except OdbcError PreparedInfo) (refusal : Sql → OdbcError)
  (cache : CacheImpl String (Prepared Cell))

/-- A row that was fetched cell by cell is read from the fetched row. -/
theorem readFrom_of_fetchRow {metadata : Metadata} {columns : List MssqlColumn}
    (hcolumns : collectColumns metadata = .ok columns) {cells : ℕ → Cell}
    {row : MssqlRow MssqlValue}
    (h : fetchRow (Env.odbc exec prepare refusal cache) columns cells = .ok row) :
    row.columns = columns ∧ ReadFrom .unbuffered columns cells row := by
  rw [fetchRow] at h
  cases hvalues : fetchValues (Env.odbc exec prepare refusal cache) columns cells with
  | error e =>
    rw [hvalues] at h
    cases h
  | ok values =>
    rw [hvalues] at h
    cases h
    have hall := mapM_eq_ok_iff.1 hvalues
    refine ⟨rfl, rfl, hall.length_eq.symm, fun j hj hj' ↦ ?_⟩
    have hvalue := hall.get hj hj'
    have hordinal := collectColumns_ordinal hcolumns hj
    rw [List.get_eq_getElem, List.get_eq_getElem, hordinal.1, if_neg (by omega)] at hvalue
    exact hvalue

theorem Result.holds_of_mem {settings : MssqlBufferSettings} {result : Result Cell}
    {row : MssqlRow MssqlValue}
    (h : row ∈ (result.reading (Env.odbc exec prepare refusal cache) settings).rows.items) :
    result.Holds settings row := by
  rw [Result.reading] at h
  cases hmode : settings.maxColumnSize with
  | none =>
    rw [hmode] at h
    obtain ⟨columns, hcolumns, cells, hcells, hfetch⟩ := mem_unbuffered h
    obtain ⟨rfl, hread⟩ := readFrom_of_fetchRow exec prepare refusal cache hcolumns hfetch
    refine ⟨hcolumns, cells, hcells, ?_⟩
    rw [MssqlBufferSettings.mode, hmode]
    exact hread
  | some maxColumnSize =>
    rw [hmode] at h
    obtain ⟨bindings, converts, hbindings, hconverts, cells, hcells, rfl⟩ := mem_buffered h
    cases hcolumns : collectColumns result.toMetadata with
    | error e =>
      rw [buildBufferBindings, hcolumns] at hbindings
      cases hbindings
    | ok columns =>
      obtain rfl := Except.ok.inj ((buildBufferBindings_eq hcolumns maxColumnSize).symm.trans
        hbindings)
      obtain ⟨converts', hconverts', hall⟩ :=
        conversions_ok exec prepare refusal cache columns maxColumnSize
      obtain rfl := Except.ok.inj (hconverts'.symm.trans hconverts)
      rw [map_column_binding]
      refine ⟨hcolumns, cells, hcells, ?_⟩
      rw [MssqlBufferSettings.mode, hmode]
      exact readFrom_rowValues hall cells

theorem collectColumns_length {metadata : Metadata} {columns : List MssqlColumn}
    (h : collectColumns metadata = .ok columns) : columns.length = metadata.columns.length := by
  rw [collectColumns] at h
  cases hcount : metadata.numResultCols with
  | error e =>
    rw [hcount] at h
    cases h
  | ok n =>
    rw [hcount] at h
    exact ((mapM_eq_ok_iff.1 h).length_eq.symm).trans List.length_zipIdx

/-- What a result holds is a well-formed row. -/
theorem Result.Holds.wellFormed {settings : MssqlBufferSettings} {result : Result Cell}
    {row : MssqlRow MssqlValue} (h : result.Holds settings row) (hne : result.columns ≠ []) :
    row.WellFormed := by
  obtain ⟨cells, -, hread⟩ := h.exists_cells
  refine ⟨fun hempty ↦ hne ?_, fun i hi ↦ (collectColumns_ordinal h.columns_eq hi).1,
    hread.length_eq⟩
  have hlength := collectColumns_length h.columns_eq
  rw [hempty] at hlength
  exact List.eq_nil_of_length_eq_zero hlength.symm

end Cells

/-! ## The rows that are received -/

/-- The row of a result that is one of the items of a batch. -/
theorem Batch.exists_of_mem_items {E : Env C κ A V} {settings : MssqlBufferSettings}
    {batch : Batch κ} {context : String} {row : MssqlRow V}
    (h : .inr row ∈ (batch.stream E settings context).items) :
    ∃ result ∈ batch.results, result.columns ≠ [] ∧
      row ∈ (result.reading E settings).rows.items := by
  have hitems {result : Result κ} (h : .inr row ∈ result.items E settings) :
      result.columns ≠ [] ∧ row ∈ (result.reading E settings).rows.items := by
    rw [Result.items] at h
    split at h
    · simp at h
    · rename_i hne
      exact ⟨hne, by simpa using h⟩
  obtain ⟨answered, part, heq, hdelivered⟩ := batch.delivered E settings context
  rw [heq] at h
  obtain h | h := List.mem_append.1 h
  · obtain ⟨result, hresult, hrow⟩ := List.mem_flatMap.1 h
    exact ⟨result, hdelivered.inOrder.subset hresult, hitems hrow⟩
  · obtain rfl | ⟨result, rest, hresults, hpart⟩ := hdelivered.next
    · cases h
    · refine ⟨result, ?_, hitems (hpart.subset h)⟩
      rw [hresults]
      exact List.mem_append_right _ List.mem_cons_self

/-- A consumer that goes has taken the first of the items it would have received. -/
theorem ConnectionActor.items_take {E : Env C κ A V} (actor : ConnectionActor E) (f : Faults)
    (n : ℕ) (sql : String) (args : Option (List A)) (persistent : Bool) :
    Wire.items (actor.processExecute f (some n) sql args persistent).trace =
      (Wire.items (actor.processExecute f none sql args persistent).trace).take n := by
  have hserve (room : Option ℕ) :=
    actor.serve_accepted ⟨.execute sql args persistent, f, rfl⟩ room
  have htake := (actor.serve ⟨.execute sql args persistent, f, rfl⟩).accepted_some n
  rw [hserve (some n), hserve none] at htake
  exact htake

theorem ConnectionActor.items_isPrefix {E : Env C κ A V} (actor : ConnectionActor E) (f : Faults)
    (room : Option ℕ) (sql : String) (args : Option (List A)) (persistent : Bool) :
    Wire.items (actor.processExecute f room sql args persistent).trace <+:
      Wire.items (actor.processExecute f none sql args persistent).trace := by
  cases room with
  | none => exact List.prefix_rfl
  | some n =>
    rw [items_take]
    exact List.take_prefix _ _

/-- The rows a consumer receives are those of the batch. -/
theorem ConnectionActor.exists_of_mem_items {E : Env C κ A V} {actor : ConnectionActor E}
    (hkeyed : CacheKeyed actor.stmtCache) {f : Faults} {room : Option ℕ} {sql : String}
    {args : Option (List A)} {persistent : Bool} {row : MssqlRow V}
    (h : .ok (.inr row) ∈
      Wire.items (actor.processExecute f room sql args persistent).trace) :
    ∃ result ∈ (E.exec sql (args.getD []) actor.conn.working).1.results, result.columns ≠ [] ∧
      row ∈ (result.reading E actor.bufferSettings).rows.items := by
  have h := (actor.items_isPrefix f room sql args persistent).subset h
  obtain ⟨-, e, htrace⟩ | ⟨-, context, events, hcarries, htrace⟩ :=
    actor.processExecute_open (f := f) hkeyed sql args persistent
  · rw [htrace] at h
    obtain h | h := List.mem_cons.1 h
    · cases h
    · cases h
  · rw [htrace, hcarries.items_trace, ErrStream.toList] at h
    obtain h | h := List.mem_append.1 h
    · obtain ⟨item, hitem, heq⟩ := List.mem_map.1 h
      cases heq
      exact Batch.exists_of_mem_items hitem
    · obtain ⟨e, -, heq⟩ := List.mem_map.1 h
      cases heq

/-- **What is received is a row of the statement, and every lookup in it is decided by its
columns.**  Whatever happened on the connection before, whichever calls fail and however many items
the consumer takes: a row it receives is a well-formed row of a result of the batch that was
executed for it; a column that is asked for by its position or by its name is found exactly if the
row has it, and what is found is the column in this position, or the first with this name, or else
the first with this name in another letter case; and its cell is what the fetch mode makes of the
cell the driver fetched there. -/
theorem received_row (exec : String → List A → C → Batch Cell × C)
    (prepare : String → C → Except OdbcError PreparedInfo) (refusal : Sql → OdbcError)
    (cache : CacheImpl String (Prepared Cell)) (contents : C) (capacity : ℕ)
    (settings : MssqlBufferSettings) (jobs : List (Job A)) (f : Faults) (room : Option ℕ)
    (sql : String) (args : Option (List A)) (persistent : Bool) (row : MssqlRow MssqlValue)
    (hrow : .ok (.inr row) ∈ Wire.items ((jobs.foldl ConnectionActor.step
      (.connect (Env.odbc exec prepare refusal cache) contents capacity settings)).process
        ⟨.execute sql args persistent, f, room⟩).trace) :
    let actor := jobs.foldl ConnectionActor.step
      (.connect (Env.odbc exec prepare refusal cache) contents capacity settings)
    row.WellFormed ∧ ∃ result ∈ (exec sql (args.getD []) actor.conn.working).1.results,
      collectColumns result.toMetadata = .ok row.columns ∧ ∃ cells ∈ result.rowsets.flatten,
      ∀ index : ColumnIndex,
        ((∃ value, row.getRaw index = .ok value) ↔ index.Known row.columns) ∧
        (∀ i, index.index row.columns = .ok i ↔ index.Finds row.columns i) ∧
        ∀ i, index.Finds row.columns i → ∃ (hi : i < row.columns.length) (value : MssqlValue),
          row.getRaw index = .ok value ∧
          settings.mode.fetch row.columns[i] (cells i) = .ok value := by
  intro actor
  have hkeyed : CacheKeyed actor.stmtCache :=
    ConnectionActor.run_cacheKeyed contents capacity settings jobs
  have hsettings : actor.bufferSettings = settings :=
    ConnectionActor.run_bufferSettings contents capacity settings jobs
  obtain ⟨result, hresult, hne, hmem⟩ := ConnectionActor.exists_of_mem_items hkeyed hrow
  rw [hsettings] at hmem
  have hholds := Result.holds_of_mem exec prepare refusal cache hmem
  have hwell := hholds.wellFormed hne
  obtain ⟨cells, hcells, hread⟩ := hholds.exists_cells
  refine ⟨hwell, result, hresult, hholds.columns_eq, cells, hcells,
    fun index ↦ ⟨?_, fun _ ↦ ColumnIndex.index_eq_ok_iff, ?_⟩⟩
  · rw [← ColumnIndex.exists_index_iff]
    constructor
    · rintro ⟨value, hvalue⟩
      cases hindex : index.index row.columns with
      | error e =>
        rw [MssqlRow.getRaw, hindex] at hvalue
        cases hvalue
      | ok i => exact ⟨i, rfl⟩
    · rintro ⟨i, hi⟩
      obtain ⟨hi', hvalue⟩ := hwell.getRaw_eq hi
      exact ⟨row.values[i], hvalue⟩
  · intro i hfinds
    have hindex := ColumnIndex.index_eq_ok_iff.2 hfinds
    have hi := ColumnIndex.index_lt hindex
    obtain ⟨hi', hvalue⟩ := hwell.getRaw_eq hindex
    exact ⟨hi, _, hvalue, hread.value_eq i hi hi'⟩

/-- A server that answers everything with the three rows. -/
def Env.threeRows : Env Unit Cell Unit MssqlValue :=
  .odbc answerThreeRows (fun _ _ ↦ .ok ⟨⟨none, []⟩, .ok 0, fun _ ↦ .ok .integer⟩)
    (fun _ ↦ ⟨none, "no such savepoint"⟩) (lru String (Prepared Cell))

/-- What is received of a row of two integers. -/
def receivedIntegers (m n : I32) : MssqlRow MssqlValue :=
  ⟨[integerColumn 0, integerColumn 1], [⟨.integer m⟩, ⟨.integer n⟩]⟩

theorem received_firstOfThree :
    .ok (.inr (receivedIntegers ⟨1, by decide⟩ ⟨2, by decide⟩)) ∈ Wire.items
    ((List.foldl ConnectionActor.step (.connect Env.threeRows () 100 default) []).process
      ⟨.execute "SELECT a, b FROM t" none false, .none, none⟩).trace := by
  have haccepted := (ConnectionActor.connect Env.threeRows () 100 default).processExecute_accepted
    (f := .none) (CacheImpl.all_new 100) rfl rfl "SELECT a, b FROM t" none false
    ConnectionActor.not_refuses_unprepared
  obtain ⟨context, hitems⟩ := haccepted.2.1
  show _ ∈ Wire.items (ConnectionActor.processExecute _ .none none "SELECT a, b FROM t" none
    false).trace
  rw [List.foldl_nil, hitems]
  exact List.mem_cons_self

theorem received_row_first :
    let settings : MssqlBufferSettings := default
    let row := receivedIntegers ⟨1, by decide⟩ ⟨2, by decide⟩
    row.WellFormed ∧ ∃ result ∈ (answerThreeRows "SELECT a, b FROM t" [] ()).1.results,
      collectColumns result.toMetadata = .ok row.columns ∧
      ∃ cells ∈ result.rowsets.flatten, ∀ index : ColumnIndex,
        ((∃ value, row.getRaw index = .ok value) ↔ index.Known row.columns) ∧
        (∀ i, index.index row.columns = .ok i ↔ index.Finds row.columns i) ∧
        ∀ i, index.Finds row.columns i →
          ∃ (hi : i < row.columns.length) (value : MssqlValue),
            row.getRaw index = .ok value ∧
            settings.mode.fetch row.columns[i] (cells i) = .ok value :=
  received_row answerThreeRows (fun _ _ ↦ .ok ⟨⟨none, []⟩, .ok 0, fun _ ↦ .ok .integer⟩)
    (fun _ ↦ ⟨none, "no such savepoint"⟩) (lru String (Prepared Cell)) () 100 default [] .none none
    "SELECT a, b FROM t" none false _ received_firstOfThree

end MssqlOdbc
