import MssqlOdbc.Connection.Free
import MssqlOdbc.Fetch.RoundTrip
import MssqlOdbc.Row

/-!
# A statement that returns its parameters

Values are bound, a statement is executed with them, and the server hands every parameter back in a
column of its type.  On the way the values go through the argument buffer, through one of the three
execution paths, the walk, one of the two fetch modes and the response channel, and the reader looks
them up in a row by the position or by the name of a column.

`echo_reads_back` puts the pieces together: what was bound is read, if it fits the row buffer where
there is one.  Nothing that happened on the connection before makes a difference, as long as it left
the connection free.
-/

set_option autoImplicit false

namespace MssqlOdbc

variable {C : Type} {X : Crates}

/-! ## Binding -/

/-- A value of one of the supported types. -/
structure Bound (X : Crates) where
  type : RustType
  value : type.Carrier X

/-- `Arguments::add`, for one value after the other, up to the first that cannot be encoded. -/
def addAll (W : X.Writers) (buf : List MssqlArgumentValue) :
    List (Bound X) → Except String (List MssqlArgumentValue)
  | [] => .ok buf
  | bound :: rest =>
    match encode W buf bound.type bound.value with
    | (.ok _, buf) => addAll W buf rest
    | (.error e, _) => .error e

/-- The types that are bound as they are and read back. -/
def RustType.isEchoed (t : RustType) : Bool := t.isPlain && t != .bool

theorem readsBack_of_encode (W : X.Writers) {t : RustType} (ht : t.isEchoed = true)
    {x : t.Carrier X} {buf buf' : List MssqlArgumentValue} {isNull : IsNull}
    (h : encode W buf t x = (.ok isNull, buf')) : ∃ v, buf' = buf ++ [v] ∧ ReadsBack t x v := by
  cases t with
  | int ty =>
    obtain ⟨hlarge, e, he⟩ | ⟨v, hv, hread⟩ := roundTrips_int W x buf
    · rw [he] at h
      cases h
    · rw [hv] at h
      cases h
      exact ⟨v, rfl, hread⟩
  | string =>
    cases h
    exact ⟨_, rfl, readsBack_of_kind (.text x) (fun _ ↦ denotes_text) rfl rfl⟩
  | bytes =>
    cases h
    exact ⟨_, rfl, readsBack_of_kind (.binary x) (fun _ ↦ denotes_bytes) rfl rfl⟩
  | date =>
    cases h
    exact ⟨_, rfl, readsBack_of_kind (.date x) (fun _ ↦ denotes_date) rfl rfl⟩
  | time =>
    cases h
    exact ⟨_, rfl, readsBack_of_kind (.time x) (fun _ ↦ denotes_time) rfl rfl⟩
  | timestamp =>
    cases h
    exact ⟨_, rfl, readsBack_of_kind (.timestamp x) (fun _ ↦ denotes_timestamp) rfl rfl⟩
  | _ => cases ht

/-- One argument is pushed for each value, and is read back as the value. -/
theorem addAll_readsBack (W : X.Writers) {xs : List (Bound X)}
    (hxs : ∀ x ∈ xs, x.type.isEchoed = true) {buf args : List MssqlArgumentValue}
    (h : addAll W buf xs = .ok args) :
    ∃ values, args = buf ++ values ∧
      List.Forall₂ (fun x v ↦ ReadsBack x.type x.value v) xs values := by
  induction xs generalizing buf with
  | nil =>
    cases h
    exact ⟨[], (List.append_nil _).symm, .nil⟩
  | cons x xs ih =>
    obtain ⟨hx, hxs⟩ := List.forall_mem_cons.1 hxs
    rw [addAll] at h
    split at h
    · rename_i isNull buf' hencode
      obtain ⟨v, rfl, hread⟩ := readsBack_of_encode W hx hencode
      obtain ⟨values, rfl, hvalues⟩ := ih hxs h
      exact ⟨v :: values, List.append_assoc buf [v] values, .cons hread hvalues⟩
    · cases h

/-! ## The answer -/

/-- The result has one row: every argument in a column of its type and, if the mode is buffered, no
longer than the row buffer holds. -/
structure Result.Echoes (result : Result Cell) (mode : FetchMode) (types : List RustType)
    (args : List MssqlArgumentValue) (columns : List MssqlColumn) (cells : ℕ → Cell) : Prop where
  columns_eq : collectColumns result.toMetadata = .ok columns
  types_eq : columns.map MssqlColumn.typeInfo = types.map RustType.typeInfo
  rows : result.FetchesRows result.toMetadata [cells]
  unbindError : result.unbindError = .none
  carries : ∀ j (hj : j < columns.length) (hj' : j < args.length),
    (cells j).Carries columns[j].typeInfo.dataType args[j] ∧ mode.Fits columns[j] (cells j)

section Read

variable {A : Type} (exec : String → List A → C → Batch Cell × C)
  (prepare : String → C → Except OdbcError PreparedInfo) (refusal : Sql → OdbcError)
  (cache : CacheImpl String (Prepared Cell))

/-- The rows of a result set, in the mode of the connection. -/
theorem reading_rows {settings : MssqlBufferSettings} {result : Result Cell}
    {columns : List MssqlColumn} {rows : List (ℕ → Cell)}
    (hcolumns : collectColumns result.toMetadata = .ok columns)
    (hresult : result.FetchesRows result.toMetadata rows)
    (hfetch : settings.mode = .unbuffered → ∀ row ∈ rows, Fetchable columns row) :
    ∃ sent, List.Forall₂ (ReadFrom settings.mode columns) rows sent ∧
      (result.reading (Env.odbc exec prepare refusal cache) settings).rows = .ofList sent := by
  rw [Result.reading]
  rw [MssqlBufferSettings.mode] at hfetch ⊢
  cases hmode : settings.maxColumnSize with
  | none =>
    rw [hmode] at hfetch
    exact unbufferedReading_rows exec prepare refusal cache hcolumns hresult (hfetch rfl)
  | some maxColumnSize =>
    obtain ⟨converts, hconverts, hall⟩ :=
      conversions_ok exec prepare refusal cache columns maxColumnSize
    refine ⟨rows.map fun row ↦ ⟨columns, rowValues row 0 converts⟩, ?_,
      bufferedReading_rows exec prepare refusal cache hcolumns hresult _ _ hconverts⟩
    rw [List.forall₂_map_right_iff]
    exact List.forall₂_same.2 fun row _ ↦ readFrom_rowValues hall row

theorem reading_unbound (settings : MssqlBufferSettings) {result : Result Cell}
    (h : result.unbindError = none) :
    (result.reading (Env.odbc exec prepare refusal cache) settings).unbound = none := by
  rw [Result.reading]
  split
  · rw [bufferedReading, h]
    rfl
  · rfl

/-- The stream of an answer that consists of one result set. -/
theorem Batch.stream_resultSet {settings : MssqlBufferSettings} {result : Result Cell}
    {columns : List MssqlColumn} {rows : List (ℕ → Cell)} {sent : List (MssqlRow MssqlValue)}
    (hcolumns : collectColumns result.toMetadata = .ok columns) (hne : columns ≠ [])
    (hresult : result.FetchesRows result.toMetadata rows) (hunbind : result.unbindError = none)
    (hsent : (result.reading (Env.odbc exec prepare refusal cache) settings).rows = .ofList sent)
    (context : String) :
    (Batch.stream (Env.odbc exec prepare refusal cache) settings context ⟨.ok result, []⟩).toList =
      sent.map (fun row ↦ .ok (.inr row)) ++ [.ok (.inl ⟨0⟩)] := by
  have hnumCols : result.numColsError = none := by
    rw [collectColumns, Metadata.numResultCols] at hcolumns
    cases herror : result.numColsError with
    | some e =>
      rw [herror] at hcolumns
      cases hcolumns
    | none => rfl
  have hresultSet : result.columns ≠ [] := by
    have hlength := collectColumns_length hcolumns
    intro hempty
    rw [hempty] at hlength
    exact hne (List.eq_nil_of_length_eq_zero hlength)
  have hfirst : (⟨.ok result, []⟩ : Batch Cell).first = .ok result := by
    rw [Batch.first]
    simp only [bind, Except.bind, hnumCols]
    rfl
  have hend : (result.reading (Env.odbc exec prepare refusal cache) settings).rows.error =
      none := by rw [hsent, ErrStream.ofList_error]
  have hunbound := reading_unbound exec prepare refusal cache settings hunbind
  have hstream : (result.stream (Env.odbc exec prepare refusal cache) settings).error = none := by
    rw [Result.stream_resultSet hnumCols hresultSet, Reading.stream_error hend, hunbound]
  rw [Batch.stream, hfirst]
  dsimp only
  rw [resultsStream_last hstream (advanceError_nil hresult.fetchError),
    Result.stream_resultSet hnumCols hresultSet, ErrStream.toList, Reading.stream_error hend,
    hunbound, Reading.sent_rows hsent, List.map_append, List.map_map]
  exact List.append_nil _

end Read

/-! ## There and back -/

namespace Result.Echoes

variable {result : Result Cell} {mode : FetchMode} {xs : List (Bound X)}
  {args : List MssqlArgumentValue} {columns : List MssqlColumn} {cells : ℕ → Cell}

theorem length_eq (h : result.Echoes mode (xs.map Bound.type) args columns cells) :
    columns.length = xs.length := by
  have hmap := congrArg List.length h.types_eq
  simpa only [List.length_map] using hmap

/-- Every cell is read back from the column it is in. -/
theorem reads (h : result.Echoes mode (xs.map Bound.type) args columns cells)
    (hargs : List.Forall₂ (fun x v ↦ ReadsBack x.type x.value v) xs args) {j : ℕ}
    (hj : j < columns.length) (hj' : j < xs.length) :
    ∃ value, mode.fetch columns[j] (cells j) = .ok value ∧
      tryGet X value xs[j].type = .ok xs[j].value := by
  have harg : j < args.length := hargs.length_eq ▸ hj'
  have hread := hargs.get hj' harg
  obtain ⟨hcarries, hfits⟩ := h.carries j hj harg
  refine hread columns[j] (cells j) mode ?_ hcarries hfits
  have htypes := h.types_eq
  rw [List.map_map] at htypes
  have hget := congrArg (·[j]?) htypes
  simpa [hj, hj'] using hget

/-- The answer is fetched as one well-formed row. -/
theorem exists_row {A : Type} (exec : String → List A → C → Batch Cell × C)
    (prepare : String → C → Except OdbcError PreparedInfo) (refusal : Sql → OdbcError)
    (cache : CacheImpl String (Prepared Cell)) {settings : MssqlBufferSettings}
    (h : result.Echoes settings.mode (xs.map Bound.type) args columns cells) (hne : xs ≠ [])
    (hargs : List.Forall₂ (fun x v ↦ ReadsBack x.type x.value v) xs args) :
    ∃ row, row.WellFormed ∧ ReadFrom settings.mode columns cells row ∧ ∀ context,
      (Batch.stream (Env.odbc exec prepare refusal cache) settings context
        ⟨.ok result, []⟩).toList = [.ok (.inr row), .ok (.inl ⟨0⟩)] := by
  have hcolumns := h.columns_eq
  have hcolumns_ne : columns ≠ [] := by
    intro hempty
    have hlength := h.length_eq
    rw [hempty] at hlength
    exact hne (List.eq_nil_of_length_eq_zero hlength.symm)
  have hfetch : settings.mode = .unbuffered → ∀ row ∈ [cells], Fetchable columns row := by
    intro hmode row hrow column hcolumn
    obtain rfl := List.mem_singleton.1 hrow
    obtain ⟨j, hj, rfl⟩ := List.getElem_of_mem hcolumn
    obtain ⟨value, hvalue, -⟩ := h.reads hargs hj (h.length_eq ▸ hj)
    rw [(collectColumns_ordinal hcolumns hj).1]
    exact ⟨value, hmode ▸ hvalue⟩
  obtain ⟨sent, hall, hsent⟩ := reading_rows exec prepare refusal cache hcolumns h.rows hfetch
  obtain ⟨row, rfl⟩ : ∃ row, sent = [row] := List.length_eq_one_iff.1 hall.length_eq.symm
  have hread : ReadFrom settings.mode columns cells row := by
    cases hall with
    | cons hread _ => exact hread
  refine ⟨row, ⟨hread.columns_eq ▸ hcolumns_ne, fun i hi ↦ ?_, ?_⟩, hread, fun context ↦ ?_⟩
  · simp only [hread.columns_eq] at hi ⊢
    exact (collectColumns_ordinal hcolumns hi).1
  · rw [hread.columns_eq, hread.length_eq]
  · exact Batch.stream_resultSet exec prepare refusal cache hcolumns hcolumns_ne h.rows
      h.unbindError hsent context

end Result.Echoes

/-- **What is bound is read.**  Take any run that leaves a connection free, in either fetch mode,
then values that are bound, and a statement the server answers with the parameters it was given, one
to a column of the value's type, and short enough for the row buffer if the mode is buffered.
Cached or not, the consumer receives one well-formed row and a count; every position of the values
has a column, and whatever position or name a column is asked for by, the value read there is the
one that was bound. -/
theorem echo_reads_back (W : X.Writers)
    (exec : String → List MssqlArgumentValue → C → Batch Cell × C)
    (prepare : String → C → Except OdbcError PreparedInfo) (refusal : Sql → OdbcError)
    (cache : CacheImpl String (Prepared Cell)) (contents : C) (capacity : ℕ)
    (settings : MssqlBufferSettings) (busy : Busy (Env.odbc exec prepare refusal cache))
    {past : List (Request MssqlArgumentValue × Option ℕ)}
    (hfree : Run.AllSteps ConnectionActor.step ConnectionActor.LeavesIdle
      (.connect (Env.odbc exec prepare refusal cache) contents capacity settings)
      (ActorSystem.jobsOf past))
    (f : Faults) (sql : String) (persistent : Bool) {xs : List (Bound X)}
    {args : List MssqlArgumentValue} {result : Result Cell} {columns : List MssqlColumn}
    {cells : ℕ → Cell}
    (hne : xs ≠ []) (hxs : ∀ x ∈ xs, x.type.isEchoed = true) (hargs : addAll W [] xs = .ok args)
    (hlock : f.lock = false) (hpreallocate : f.preallocate = none) :
    let actor := (ConnectionActor.connect (Env.odbc exec prepare refusal cache) contents capacity
      settings).afterIfFree busy past
    ¬ actor.Refuses sql (some args) persistent →
    (exec sql args actor.conn.working).1 = ⟨.ok result, []⟩ →
    result.Echoes settings.mode (xs.map Bound.type) args columns cells →
    ∃ row, Wire.items (actor.process ⟨.execute sql (some args) persistent, f, none⟩).trace =
        [.ok (.inr row), .ok (.inl ⟨0⟩)] ∧ row.WellFormed ∧
      (∀ j, j < xs.length → (ColumnIndex.position j).index row.columns = .ok j) ∧
      ∀ (index : ColumnIndex) (j : ℕ) (x : Bound X), index.Finds row.columns j →
        xs[j]? = some x → ∃ value, row.getRaw index = .ok value ∧
          tryGet X value x.type = .ok x.value := by
  intro actor haccepts hbatch hechoes
  have hactor : actor = (ActorSystem.jobsOf past).foldl ConnectionActor.step
    (.connect (Env.odbc exec prepare refusal cache) contents capacity settings) :=
    ConnectionActor.after_of_free busy (.connect _ _ _ _) hfree
  have hkeyed : CacheKeyed actor.stmtCache := by
    rw [hactor]
    exact ConnectionActor.run_cacheKeyed contents capacity settings _
  have hsettings : actor.bufferSettings = settings := by
    rw [hactor]
    exact ConnectionActor.run_bufferSettings contents capacity settings _
  obtain ⟨values, hvalues, hreads⟩ := addAll_readsBack W hxs hargs
  rw [List.nil_append] at hvalues
  subst hvalues
  obtain ⟨row, hwell, hread, hstream⟩ :=
    hechoes.exists_row exec prepare refusal cache hne hreads
  obtain ⟨-, ⟨context, hitems⟩, -⟩ := ConnectionActor.processExecute_accepted hkeyed hlock
    hpreallocate sql (some args) persistent haccepts
  refine ⟨row, ?_, hwell, fun j hj ↦ ?_, fun index j x hfinds hx ↦ ?_⟩
  · refine hitems.trans ?_
    have hexec : ((Env.odbc exec prepare refusal cache).exec sql ((some args).getD [])
        actor.conn.working).1 = ⟨.ok result, []⟩ := hbatch
    rw [hexec, hsettings, hstream]
  · have hlength : ¬ row.columns.length ≤ j := by
      rw [hread.columns_eq, hechoes.length_eq]
      exact Nat.not_le.2 hj
    rw [ColumnIndex.index, if_neg hlength]
  · obtain ⟨hi, hvalue⟩ := hwell.getRaw_eq (ColumnIndex.index_eq_ok_iff.2 hfinds)
    obtain ⟨hj, rfl⟩ := List.getElem?_eq_some_iff.1 hx
    have hcolumn : j < columns.length := hechoes.length_eq ▸ hj
    obtain ⟨value, hfetched, hget⟩ := hechoes.reads hreads hcolumn hj
    have hsame := hread.value_eq j hcolumn hi
    obtain rfl := Except.ok.inj (hfetched.symm.trans hsame)
    exact ⟨_, hvalue, hget⟩

/-! ## A server that does it -/

/-- The data type and the cell of an integer or of a text. -/
def MssqlArgumentValue.echoed : MssqlArgumentValue → DataType × Cell
  | .int n => (.bigInt, { Cell.null with i64 := .ok (some n) })
  | .text value =>
    (.wVarchar none, { Cell.null with wideText := .ok (some (Utf16.encode value)) })
  | _ => (.unknown, .null)

/-- One row of the arguments. -/
def Result.ofArguments (args : List MssqlArgumentValue) : Result Cell :=
  { Result.none Cell with
    columns := args.map fun arg ↦ .ok ⟨some "", arg.echoed.1, .noNulls⟩
    rowsets := [[fun j ↦ ((args[j]?).map fun arg ↦ arg.echoed.2).getD .null]] }

/-- A server that answers every statement with its parameters. -/
def Env.echo : Env Unit Cell MssqlArgumentValue MssqlValue :=
  .odbc (fun _ args contents ↦ (⟨.ok (.ofArguments args), []⟩, contents))
    (fun _ _ ↦ .ok ⟨⟨none, []⟩, .ok 0, fun _ ↦ .ok .integer⟩) (fun _ ↦ ⟨none, "no such savepoint"⟩)
    (lru String (Prepared Cell))

/-- The number seven and a short text. -/
def sevenAndText : List (Bound Crates.sample) :=
  [⟨.int .i64, (IntType.wrap .i64 7 : I64)⟩, ⟨.string, "seven"⟩]

theorem echoes_sevenAndText :
    let args := [.int (IntType.wrap .i64 7), .text "seven"]
    (Result.ofArguments args).Echoes (.buffered 8) (sevenAndText.map Bound.type) args
      [⟨0, "", ⟨.bigInt⟩, some false⟩, ⟨1, "", ⟨.wVarchar none⟩, some false⟩]
      (fun j ↦ ((args[j]?).map fun arg ↦ arg.echoed.2).getD .null) := by
  intro args
  refine ⟨rfl, rfl, ⟨rfl, rfl, rfl, rfl⟩, rfl, fun j hj hj' ↦ ?_⟩
  match j, hj with
  | 0, _ => exact ⟨.bigInt rfl, trivial⟩
  | 1, _ => exact ⟨.text rfl, by rintro units ⟨⟩; decide⟩

theorem echo_reads_back_seven :
    let earlier : Request MssqlArgumentValue :=
      ⟨.execute "SELECT ?" (some [.int (IntType.wrap .i64 8)]) true, .none, rfl⟩
    let actor := (ConnectionActor.connect Env.echo () 100 ⟨64, some 8⟩).afterIfFree
      (refusesBusy Env.echo) [(⟨.begin, .none, rfl⟩, none), (earlier, some 0)]
    ∃ row, Wire.items (actor.process ⟨.execute "SELECT ?, ?"
        (some [.int (IntType.wrap .i64 7), .text "seven"]) true, .none, none⟩).trace =
        [.ok (.inr row), .ok (.inl ⟨0⟩)] ∧ row.WellFormed ∧
      (∀ j, j < sevenAndText.length → (ColumnIndex.position j).index row.columns = .ok j) ∧
      ∀ (index : ColumnIndex) (j : ℕ) (x : Bound Crates.sample), index.Finds row.columns j →
        sevenAndText[j]? = some x → ∃ value, row.getRaw index = .ok value ∧
          tryGet Crates.sample value x.type = .ok x.value := by
  intro earlier actor
  have hsingle : ∀ sql parameters contents,
      (Env.echo.exec sql parameters contents).1.rest = [] ∧
        ∀ result, (Env.echo.exec sql parameters contents).1.head = .ok result →
          result.numColsError = none :=
    fun _ _ _ ↦ ⟨rfl, by rintro result ⟨⟩; rfl⟩
  exact echo_reads_back Crates.sampleWriters _ _ _ _ () 100 ⟨64, some 8⟩ (refusesBusy _)
    (ConnectionActor.leavesIdle_of_single hsingle _ _) .none "SELECT ?, ?" true
    (List.cons_ne_nil _ _) (by decide) rfl rfl rfl (by rintro ⟨-, -, e, ⟨⟩⟩) rfl
    echoes_sevenAndText

end MssqlOdbc
