import MssqlOdbc.Connection.Observed
import MssqlOdbc.Fetch.Agreement
import MssqlOdbc.Row

/-!
# The fetch modes are interchangeable

Buffered fetching is there for speed.  A row set is converted column by column, integers are read as
64-bit ones and texts as narrow ones, and the rows are put together again.  What the consumers of a
connection receive is to be the same as if every cell had been fetched on its own.

It is (`fetch_modes_interchangeable`): whatever happened before on two connections that were sent
the same commands, one of them fetching unbuffered and the other buffered, a statement is answered
with the same counts and the same number of rows in the same order, value by value not to be told
apart, and fails at the same item if it fails, for the same cause.  The row buffer has to be bound
and given back without error, and to be wide enough for the cells; there must be no GUID; and no
fetch may fail, since a block fetch that fails loses the rows before the one it fails for.  As
before, no command may have left the connection busy.
-/

set_option autoImplicit false

namespace MssqlOdbc

open TxStore Channel

variable {C A : Type} {X : Crates}

/-! ## Rows -/

/-- The rows have the same columns, and values that cannot be told apart. -/
structure MssqlRow.Agrees (X : Crates) (row row' : MssqlRow MssqlValue) : Prop where
  columns : row.columns = row'.columns
  values : List.Forall₂ (ObservablyEqual X) row.values row'.values

/-- The same count, or rows that agree. -/
inductive ItemAgrees (X : Crates) :
    MssqlQueryResult ⊕ MssqlRow MssqlValue → MssqlQueryResult ⊕ MssqlRow MssqlValue → Prop
  | count (result : MssqlQueryResult) : ItemAgrees X (.inl result) (.inl result)
  | row {row row' : MssqlRow MssqlValue} (h : row.Agrees X row') :
    ItemAgrees X (.inr row) (.inr row')

/-- The errors are about the same call, in whatever context, or they are the same. -/
inductive Error.SameCause : Error → Error → Prop
  | call (context context' : String) (e : OdbcError) :
    SameCause (databaseError context e) (databaseError context' e)
  | own (e : Error) : SameCause e e

/-- A cell the driver can deliver and the buffer can hold is fetched alike in both modes, unless it
is a GUID. -/
theorem ModesAgree.of_delivered {column : MssqlColumn} {maxColumnSize : ℕ} {cell : Cell}
    (hdelivered : cell.Delivered column)
    (hfits : cell.Fits (column.binding maxColumnSize).bufferDesc)
    (hguid : column.typeInfo.dataType.isOther (-11) = true → cell = .null) :
    ModesAgree X column maxColumnSize cell := by
  obtain ⟨convert, hconvert⟩ := bufferedKind_ok column maxColumnSize
  have hbuffered := buffered_fetch hconvert cell
  obtain ⟨rfl, hnullable⟩ | hholds := hdelivered
  · refine ⟨⟨.null⟩, ⟨.null⟩, unbuffered_fetch fetchKind_null, ?_, .refl X _⟩
    rw [hbuffered, bufferedKind_null hnullable hconvert]
  · obtain ⟨k, hfetch, hfetched⟩ := fetched_of_holds hholds hconvert
    refine ⟨_, _, unbuffered_fetch hfetch, hbuffered, hfetched.observablyEqual hfits ?_⟩
    cases hother : column.typeInfo.dataType.isOther (-11) with
    | false => rfl
    | true =>
      rw [hguid hother, fetchKind_null] at hfetch
      exact absurd (Except.ok.inj hfetch).symm hfetched.ne_null

/-- Rows that are read from the same cells, in either mode. -/
theorem ReadFrom.agrees {maxColumnSize : ℕ} {columns : List MssqlColumn} {cells : ℕ → Cell}
    {sent sent' : MssqlRow MssqlValue} (h : ReadFrom .unbuffered columns cells sent)
    (h' : ReadFrom (.buffered maxColumnSize) columns cells sent')
    (hcells : ∀ j (hj : j < columns.length), ModesAgree X columns[j] maxColumnSize (cells j)) :
    sent.Agrees X sent' := by
  refine ⟨h.columns_eq.trans h'.columns_eq.symm, List.forall₂_iff_get.2
    ⟨h.length_eq.trans h'.length_eq.symm, fun j hj hj' ↦ ?_⟩⟩
  have hcolumn : j < columns.length := h.length_eq ▸ hj
  obtain ⟨v, w, hv, hw, hequal⟩ := hcells j hcolumn
  have hsent := Except.ok.inj ((h.value_eq j hcolumn hj).symm.trans hv)
  have hsent' := Except.ok.inj ((h'.value_eq j hcolumn hj').symm.trans hw)
  rw [List.get_eq_getElem, List.get_eq_getElem, hsent, hsent']
  exact hequal

/-! ## Results -/

/-- The row buffer is bound and given back without error, every fetch succeeds, the cells are what
the driver delivers for their columns, and they fit. -/
structure Result.Bufferable (maxColumnSize : ℕ) (result : Result Cell) : Prop where
  bindError : result.bindError = .none
  fetchError : result.fetchError = .none
  unbindError : result.unbindError = .none
  cells : ∀ columns, collectColumns result.toMetadata = .ok columns →
    ∀ cells ∈ result.rowsets.flatten, ∀ column ∈ columns,
      (cells column.ordinal).Delivered column ∧
      (cells column.ordinal).Fits (column.binding maxColumnSize).bufferDesc ∧
      (column.typeInfo.dataType.isOther (-11) = true → cells column.ordinal = .null)

section Streams

variable (exec : String → List A → C → Batch Cell × C)
  (prepare : String → C → Except OdbcError PreparedInfo) (refusal : Sql → OdbcError)
  (cache : CacheImpl String (Prepared Cell)) {maxColumnSize : ℕ} {result : Result Cell}

/-- The rows agree, and the columns are described in both modes or in neither. -/
theorem Result.Bufferable.rows (h : result.Bufferable maxColumnSize) (batchSize : ℕ) :
    ErrStream.Agree Error.SameCause (MssqlRow.Agrees X)
      (unbufferedReading (Env.odbc exec prepare refusal cache) result).rows
      (bufferedReading (Env.odbc exec prepare refusal cache) result batchSize
        maxColumnSize).rows := by
  rw [unbufferedReading, bufferedReading]
  dsimp only
  cases hcolumns : collectColumns result.toMetadata with
  | error e =>
    rw [buildBufferBindings, hcolumns]
    exact .check (.some (.own e))
  | ok columns =>
    obtain ⟨converts, hconverts, hall⟩ :=
      conversions_ok exec prepare refusal cache columns maxColumnSize
    rw [buildBufferBindings_eq hcolumns maxColumnSize, h.bindError, h.fetchError]
    simp only [Option.map_none, ErrStream.check_none_append, ErrStream.append_check_none]
    have hrow : ∀ cells ∈ result.rowsets.flatten, ∃ sent,
        fetchRow (Env.odbc exec prepare refusal cache) columns cells = .ok sent ∧
          sent.Agrees X ⟨columns, rowValues cells 0 converts⟩ := by
      intro cells hcells
      have hagree : ∀ column ∈ columns,
          ModesAgree X column maxColumnSize (cells column.ordinal) := by
        intro column hcolumn
        obtain ⟨hdelivered, hfits, hguid⟩ := h.cells columns hcolumns cells hcells column hcolumn
        exact .of_delivered hdelivered hfits hguid
      have hfetchable : Fetchable columns cells := by
        intro column hcolumn
        obtain ⟨v, w, hv, -⟩ := hagree column hcolumn
        exact ⟨v, hv⟩
      obtain ⟨sent, hsent, hread⟩ :=
        fetchRow_readFrom exec prepare refusal cache hcolumns hfetchable
      refine ⟨sent, hsent, hread.agrees (readFrom_rowValues hall cells) fun j hj ↦ ?_⟩
      have hj' := hagree _ (List.getElem_mem hj)
      rwa [(collectColumns_ordinal hcolumns hj).1] at hj'
    obtain ⟨sent, hsent⟩ := exists_forall₂_iff.2 hrow
    have hrowset : rowsetStream (Env.odbc exec prepare refusal cache)
        (columns.map fun column ↦ column.binding maxColumnSize) = fun rowset ↦
          .ofList (rowset.map fun cells ↦ ⟨columns, rowValues cells 0 converts⟩) := by
      funext rowset
      rw [rowsetStream, hconverts, map_column_binding]
    rw [hrowset, ErrStream.concat_map_ofList,
      ErrStream.concat_ofExcept (hsent.imp fun _ _ h ↦ h.1)]
    refine .ofList ?_
    rw [List.forall₂_map_right_iff]
    exact hsent.flip.imp fun _ _ h ↦ h.2

variable {settings settings' : MssqlBufferSettings}

theorem Result.Bufferable.stream (h : result.Bufferable maxColumnSize)
    (hsettings : settings.maxColumnSize = .none)
    (hsettings' : settings'.maxColumnSize = some maxColumnSize) :
    ErrStream.Agree Error.SameCause (ItemAgrees X)
      (result.stream (Env.odbc exec prepare refusal cache) settings)
      (result.stream (Env.odbc exec prepare refusal cache) settings') := by
  cases hcols : result.numColsError with
  | some e =>
    rw [Result.stream, Result.stream, numResultCols_of_some hcols]
    exact .check (.some (.own _))
  | none =>
    by_cases hempty : result.columns = []
    · rw [stream_rowCount hcols hempty, stream_rowCount hcols hempty]
      cases result.rowCount with
      | error e => exact .check (.some (.own _))
      | ok rowsAffected => exact .ofList (.cons (.count _) .nil)
    · rw [stream_resultSet hcols hempty, stream_resultSet hcols hempty, Result.reading,
        Result.reading, hsettings, hsettings']
      refine ((h.rows exec prepare refusal cache settings'.batchSize).map fun _ _ ↦ .row).append ?_
      refine .append (.ofList (.cons (.count _) .nil)) (.check ?_)
      show Option.Rel Error.SameCause _ (result.unbindError.map _)
      rw [h.unbindError]
      exact .none

/-- The advances fail alike in both modes. -/
theorem Batch.stream_agree {batch : Batch Cell}
    (h : ∀ result ∈ batch.results, result.Bufferable maxColumnSize)
    (hsettings : settings.maxColumnSize = .none)
    (hsettings' : settings'.maxColumnSize = some maxColumnSize) (context context' : String) :
    ErrStream.Agree Error.SameCause (ItemAgrees X)
      (batch.stream (Env.odbc exec prepare refusal cache) settings context)
      (batch.stream (Env.odbc exec prepare refusal cache) settings' context') := by
  rw [Batch.stream, Batch.stream]
  rw [Batch.results, Batch.visits] at h
  cases hfirst : batch.first with
  | error e => exact .check (.some (.call _ _ e))
  | ok result =>
    rw [hfirst] at h
    refine .concat ?_
    rw [List.forall₂_map_left_iff, List.forall₂_map_right_iff, List.forall₂_same]
    intro visit hvisit
    have hresult := h visit.1 (List.mem_map_of_mem hvisit)
    refine (hresult.stream exec prepare refusal cache hsettings hsettings').append (.check ?_)
    cases visit.2 with
    | none => exact .none
    | some e => exact .some (.own e)

end Streams

/-! ## Executions -/

/-- On the same contents a statement is answered alike in both modes, for a consumer that stays. -/
theorem modes_received (exec : String → List A → C → Batch Cell × C)
    (prepare : String → C → Except OdbcError PreparedInfo) (refusal : Sql → OdbcError)
    (cache : CacheImpl String (Prepared Cell))
    (hE : (Env.odbc exec prepare refusal cache).PreparesSoundly) {maxColumnSize : ℕ}
    {actor actor' : ConnectionActor (Env.odbc exec prepare refusal cache)}
    (hdatabase : SameContents actor actor') (hkeyed : CacheKeyed actor.stmtCache)
    (hkeyed' : CacheKeyed actor'.stmtCache)
    (hunbuffered : actor.bufferSettings.maxColumnSize = none)
    (hbuffered : actor'.bufferSettings.maxColumnSize = some maxColumnSize) (f : Faults)
    {sql : String} {args : Option (List A)} (persistent : Bool)
    (hbatch : ∀ result ∈ (exec sql (args.getD []) actor.conn.working).1.results,
      result.Bufferable maxColumnSize) :
    List.Forall₂ (ErrStream.AgreeItem
        (fun e e' ↦ e.SameCause e' ∨ ∃ o, prepare sql actor.conn.working = .error o)
        (ItemAgrees X))
      (actor.received f none sql args persistent) (actor'.received f none sql args persistent) := by
  let E := Env.odbc exec prepare refusal cache
  cases hprepared : prepare sql actor.conn.working with
  | error o =>
    have hprepared' : E.prepare sql actor'.conn.working = .error o := hdatabase.conn ▸ hprepared
    obtain ⟨e, he⟩ := ConnectionActor.received_refused hE hkeyed hprepared f args persistent
    obtain ⟨e', he'⟩ := ConnectionActor.received_refused hE hkeyed' hprepared' f args persistent
    rw [he, he']
    exact .cons (.error (Or.inr ⟨o, rfl⟩)) .nil
  | ok info =>
    have hprepare : ∃ info, E.prepare sql actor.conn.working = .ok info := ⟨info, hprepared⟩
    have hprepare' : ∃ info, E.prepare sql actor'.conn.working = .ok info :=
      hdatabase.conn ▸ hprepare
    have hexecutes :=
      Session.executes_iff f args persistent ⟨actor, ⟨none, []⟩⟩ fun _ ↦ hprepare
    have hexecutes' :=
      Session.executes_iff f args persistent ⟨actor', ⟨none, []⟩⟩ fun _ ↦ hprepare'
    cases hblocked : f.blocksExecute args persistent with
    | true =>
      obtain ⟨e, he⟩ := exists_unexecuted (E := E) f sql args persistent
      obtain ⟨cache, hrun⟩ :=
        he ⟨actor, ⟨none, []⟩⟩ (fun _ ↦ hprepare) (by simp [hexecutes, hblocked])
      obtain ⟨cache', hrun'⟩ :=
        he ⟨actor', ⟨none, []⟩⟩ (fun _ ↦ hprepare') (by simp [hexecutes', hblocked])
      rw [ConnectionActor.received_unexecuted hrun, ConnectionActor.received_unexecuted hrun']
      exact .cons (.error (Or.inl (.own e))) .nil
    | false =>
      obtain ⟨context, hreceived⟩ := ConnectionActor.exists_received E sql args persistent
      rw [hreceived f actor hkeyed (hexecutes.2 hblocked),
        hreceived f actor' hkeyed' (hexecutes'.2 hblocked), ← hdatabase.conn]
      exact (Batch.stream_agree exec prepare refusal cache hbatch hunbuffered hbuffered context
        context).toList.imp fun _ _ ↦ .imp fun _ _ ↦ Or.inl

/-- **Buffered fetching makes no difference to the consumers.**  Two connections are opened on the
same contents, with any statement caches, and are sent the same commands, whatever fails and
whatever their consumers take, as long as none of the commands leaves results on a cached handle;
one fetches unbuffered, the other buffered.  Then a statement whose results can be bound and fetched
is answered alike on both: the same counts and rows with the same columns, the values of which
cannot be told apart, and an error behind the same item.  The errors have the same cause, unless the
statement cannot be prepared and only one of the connections tries to. -/
theorem fetch_modes_interchangeable (X : Crates) (exec : String → List A → C → Batch Cell × C)
    (prepare : String → C → Except OdbcError PreparedInfo) (refusal : Sql → OdbcError)
    (cache : CacheImpl String (Prepared Cell))
    (hE : (Env.odbc exec prepare refusal cache).PreparesSoundly) (contents : C)
    (capacity capacity' : ℕ) {settings settings' : MssqlBufferSettings} {maxColumnSize : ℕ}
    (hsettings : settings.maxColumnSize = none)
    (hsettings' : settings'.maxColumnSize = some maxColumnSize)
    (busy busy' : Busy (Env.odbc exec prepare refusal cache))
    {past past' : List (Request A × Option ℕ)} (hpast : past.map Prod.fst = past'.map Prod.fst)
    (hfree : Run.AllSteps ConnectionActor.step ConnectionActor.LeavesIdle
      (.connect (Env.odbc exec prepare refusal cache) contents capacity settings)
      (ActorSystem.jobsOf past))
    (hfree' : Run.AllSteps ConnectionActor.step ConnectionActor.LeavesIdle
      (.connect (Env.odbc exec prepare refusal cache) contents capacity' settings')
      (ActorSystem.jobsOf past'))
    (f : Faults) (room : Option ℕ) (sql : String) (args : Option (List A)) (persistent : Bool) :
    let E := Env.odbc exec prepare refusal cache
    let actor := (ConnectionActor.connect E contents capacity settings).afterIfFree busy past
    let actor' := (ConnectionActor.connect E contents capacity' settings').afterIfFree busy' past'
    (∀ result ∈ (exec sql (args.getD []) actor.conn.working).1.results,
      result.Bufferable maxColumnSize) →
    List.Forall₂ (ErrStream.AgreeItem
        (fun e e' ↦ e.SameCause e' ∨ ∃ o, prepare sql actor.conn.working = .error o)
        (ItemAgrees X))
      (actor.received f room sql args persistent) (actor'.received f room sql args persistent) := by
  intro E actor actor' hbatch
  have hactor : actor = (ActorSystem.jobsOf past).foldl ConnectionActor.step
    (.connect E contents capacity settings) :=
    ConnectionActor.after_of_free busy (.connect _ _ _ _) hfree
  have hactor' : actor' = (ActorSystem.jobsOf past').foldl ConnectionActor.step
    (.connect E contents capacity' settings') :=
    ConnectionActor.after_of_free busy' (.connect _ _ _ _) hfree'
  have hconnect : SameContents (.connect E contents capacity settings)
    (.connect E contents capacity' settings') := ⟨rfl, rfl⟩
  have hdatabase : SameContents actor actor' := by
    rw [hactor, hactor']
    exact sameContents_foldl hE hconnect (CacheImpl.all_new capacity) (CacheImpl.all_new capacity')
      hpast
  have hkeyed : CacheKeyed actor.stmtCache := by
    rw [hactor]
    exact ConnectionActor.run_cacheKeyed _ _ _ _
  have hkeyed' : CacheKeyed actor'.stmtCache := by
    rw [hactor']
    exact ConnectionActor.run_cacheKeyed _ _ _ _
  have hunbuffered : actor.bufferSettings.maxColumnSize = none := by
    rw [hactor, ConnectionActor.run_bufferSettings, hsettings]
  have hbuffered : actor'.bufferSettings.maxColumnSize = some maxColumnSize := by
    rw [hactor', ConnectionActor.run_bufferSettings, hsettings']
  have hopen := modes_received (X := X) exec prepare refusal cache hE hdatabase hkeyed hkeyed'
    hunbuffered hbuffered f persistent hbatch
  cases room with
  | none => exact hopen
  | some n =>
    rw [ConnectionActor.received, ConnectionActor.received, ConnectionActor.items_take,
      ConnectionActor.items_take]
    exact List.forall₂_take n hopen

theorem threeRows_bufferable : threeRows.Bufferable 255 where
  bindError := rfl
  fetchError := rfl
  unbindError := rfl
  cells columns hcolumns cells hcells column hcolumn := by
    cases hcolumns
    have hinteger (n : I32) : (Cell.ofInteger n).Holds .integer := ⟨n, rfl, rfl⟩
    have hcell (m n : I32) (ordinal : ℕ) : (integerRow m n ordinal).Holds .integer := by
      cases ordinal with
      | zero => exact hinteger m
      | succ ordinal => exact hinteger n
    have hrow : ∃ m n, cells = integerRow m n := by
      simp only [threeRows, List.flatten_cons, List.flatten_nil, List.append_nil, List.cons_append,
        List.nil_append, List.mem_cons, List.not_mem_nil, or_false] at hcells
      obtain rfl | rfl | rfl := hcells
      · exact ⟨_, _, rfl⟩
      · exact ⟨_, _, rfl⟩
      · exact ⟨_, _, rfl⟩
    obtain ⟨m, n, rfl⟩ := hrow
    have htype : column.typeInfo.dataType = .integer := by
      obtain rfl | hcolumn := List.mem_cons.1 hcolumn
      · rfl
      · obtain rfl := List.mem_singleton.1 hcolumn
        rfl
    refine ⟨.inr ?_, ?_, ?_⟩
    · rw [htype]
      exact hcell m n column.ordinal
    · rw [MssqlColumn.binding, htype]
      trivial
    · rw [htype]
      rintro ⟨⟩

/-- The three rows, once unbuffered and once two at a time, the second time a consumer of the
statement before has read only one of them. -/
theorem fetch_modes_interchangeable_threeRows :
    let request : Request Unit := ⟨.execute "SELECT a, b FROM t" (some []) true, .none, rfl⟩
    let actor := (ConnectionActor.connect Env.threeRows () 100 default).afterIfFree
      (refusesBusy Env.threeRows) [(request, none)]
    let actor' := (ConnectionActor.connect Env.threeRows () 10 ⟨2, some 255⟩).afterIfFree
      (refusesBusy Env.threeRows) [(request, some 1)]
    List.Forall₂ (ErrStream.AgreeItem (fun e e' ↦ e.SameCause e' ∨
        ∃ o, Env.threeRows.prepare "SELECT a, b FROM t" actor.conn.working = .error o)
        (ItemAgrees Crates.sample))
      (actor.received .none none "SELECT a, b FROM t" (some []) true)
      (actor'.received .none none "SELECT a, b FROM t" (some []) true) := by
  intro request actor actor'
  have hpast : [(request, none)].map Prod.fst = [(request, some 1)].map Prod.fst := rfl
  have hE : Env.threeRows.PreparesSoundly := ⟨by rintro sql parameters contents e ⟨⟩⟩
  have hsettings : (default : MssqlBufferSettings).maxColumnSize = none := rfl
  have hsettings' : (⟨2, some 255⟩ : MssqlBufferSettings).maxColumnSize = some 255 := rfl
  have hsingle : ∀ sql parameters contents,
      (Env.threeRows.exec sql parameters contents).1.rest = [] ∧
        ∀ result, (Env.threeRows.exec sql parameters contents).1.head = .ok result →
          result.numColsError = none :=
    fun _ _ _ ↦ ⟨rfl, by rintro result ⟨⟩; rfl⟩
  have hmodes := fetch_modes_interchangeable Crates.sample answerThreeRows _ _ _ hE () 100 10
    hsettings hsettings' (refusesBusy _) (refusesBusy _) hpast
    (ConnectionActor.leavesIdle_of_single hsingle _ _)
    (ConnectionActor.leavesIdle_of_single hsingle _ _) .none none "SELECT a, b FROM t" (some [])
    true
  refine hmodes fun result hresult ↦ ?_
  obtain rfl := List.mem_singleton.1 hresult
  exact threeRows_bufferable

end MssqlOdbc
